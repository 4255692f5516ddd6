import OpenDaq.NativeStreaming.SessionHandler

/-!
# Framing round-trips

What is sent is received: the stream of a sequence of messages splits at the transport headers into
one frame for each message that was accepted, with its type, and the read function of that type
recovers what was sent.

`copyHeadersToBuffer` adds the header size and the payload size in 32 bits and checks the sum
afterwards, so a payload of almost `2 ^ 32` bytes passes the check under a small size.
-/

namespace OpenDaq.NativeStreaming

open Infra PacketStreaming

/-! ## Messages -/

inductive Message where
  | packetBuffer (packetBuffer : PacketMemory)
  | signalAvailable (signalNumericId : UInt32) (signalStringId serializedSignal : DaqString)
  | signalUnavailable (signalNumericId : UInt32) (signalStringId : DaqString)
  | signalSubscribe (signalNumericId : UInt32) (signalStringId : Bytes)
  | signalUnsubscribe (signalNumericId : UInt32) (signalStringId : Bytes)
  | subscribingDone (signalNumericId : UInt32)
  | unsubscribingDone (signalNumericId : UInt32)
  deriving DecidableEq

variable (m : Message)

namespace Message

/-- The call that sends a message. -/
def send : Message → Except StreamingError (List WriteTask)
  | .packetBuffer m => sendPacketBuffer m
  | .signalAvailable id str signal => sendSignalAvailable id str signal
  | .signalUnavailable id str => sendSignalUnavailable id str
  | .signalSubscribe id str => sendSignalSubscribe id str
  | .signalUnsubscribe id str => sendSignalUnsubscribe id str
  | .subscribingDone id => sendSubscribingDone id
  | .unsubscribingDone id => sendUnsubscribingDone id

def payloadType : Message → PayloadType
  | .packetBuffer _ => .streamingPacket
  | .signalAvailable _ _ _ => .streamingSignalAvailable
  | .signalUnavailable _ _ => .streamingSignalUnavailable
  | .signalSubscribe _ _ => .streamingSignalSubscribeCommand
  | .signalUnsubscribe _ _ => .streamingSignalUnsubscribeCommand
  | .subscribingDone _ => .streamingSignalSubscribeAck
  | .unsubscribingDone _ => .streamingSignalUnsubscribeAck

/-- What the other side should get. A packet without payload bytes has no payload. -/
def received : Message → Received
  | .packetBuffer m =>
    .packetBuffer m.packetHeader (if 0 < m.payloadSize.toNat then some m.payloadBytes else none)
  | .signalAvailable id str signal => .signal id str (some signal) true
  | .signalUnavailable id str => .signal id str none false
  | .signalSubscribe id str => .subscription id str true
  | .signalUnsubscribe id str => .subscription id str false
  | .subscribingDone id => .subscriptionAck id true
  | .unsubscribingDone id => .subscriptionAck id false

/-- The payload of the frame. -/
def payload : Message → Bytes
  | .packetBuffer m => m.packetHeader ++ m.payloadBytes
  | .signalAvailable id str signal =>
    leBytes 4 id.toNat ++ (leBytes 2 str.1.length ++ (str.1 ++ signal.1))
  | .signalUnavailable id str => leBytes 4 id.toNat ++ str.1
  | .signalSubscribe id str | .signalUnsubscribe id str => leBytes 4 id.toNat ++ str
  | .subscribingDone id | .unsubscribingDone id => leBytes 4 id.toNat

/-- The message passes one of the two limits of the protocol. -/
def Exceeds : Prop :=
  TransportHeader.maxPayloadSize < m.payload.length ∨
    match m with
    | .signalAvailable _ str _ => signalStringIdMaxSize < str.1.length
    | _ => False

instance (m : Message) : Decidable m.Exceeds := by
  cases m <;> unfold Exceeds <;> infer_instance

/-- The sum of the two sizes of a packet fits into 32 bits. -/
def SumFits : Message → Prop
  | .packetBuffer m => m.size.toNat + m.payloadSize.toNat < 2 ^ 32
  | _ => True

instance (m : Message) : Decidable m.SumFits := by
  cases m <;> unfold SumFits <;> infer_instance

end Message

/-! ## Frames -/

def frame (t : PayloadType) (payload : Bytes) : Bytes :=
  TransportHeader.toBytes t payload.length ++ payload

/-- **A frame in front of a stream is split off.** -/
theorem splitFrames_frame (fuel : Nat) (t : PayloadType) {payload : Bytes} (rest : Bytes)
    (h : payload.length ≤ TransportHeader.maxPayloadSize) :
    splitFrames (fuel + 1) (frame t payload ++ rest) =
      ((t.toUInt32, payload) :: (splitFrames fuel rest).1, (splitFrames fuel rest).2) := by
  have hlen : (TransportHeader.toBytes t payload.length).length = TransportHeader.packedHeaderSize :=
    TransportHeader.length_toBytes _ _
  have hstream : frame t payload ++ rest = TransportHeader.toBytes t payload.length ++ (payload ++ rest) := by
    rw [frame, List.append_assoc]
  have htake : (frame t payload ++ rest).take TransportHeader.packedHeaderSize =
      TransportHeader.toBytes t payload.length := by
    rw [hstream, ← hlen, List.take_left]
  have hdrop : (frame t payload ++ rest).drop TransportHeader.packedHeaderSize = payload ++ rest := by
    rw [hstream, ← hlen, List.drop_left]
  have hge : ¬ (frame t payload ++ rest).length < TransportHeader.packedHeaderSize := by
    rw [hstream, List.length_append, hlen]
    omega
  rw [splitFrames, if_neg hge, htake, hdrop, TransportHeader.ofBytes_toBytes]
  dsimp only
  rw [TransportHeader.payloadSize_pack t h, TransportHeader.payloadType_pack t h,
    if_neg (by simp), List.take_left, List.drop_left]

/-! ## Reading back -/

theorem copyData_left (xs ys : Bytes) : copyData (xs ++ ys) xs.length 0 = some xs := by
  simp [copyData]

theorem copyData_mid (xs ys zs : Bytes) {n k : Nat} (hn : ys.length = n) (hk : xs.length = k) :
    copyData (xs ++ (ys ++ zs)) n k = some ys := by
  subst hn hk
  rw [copyData, if_neg (by simp only [List.length_append]; omega), List.drop_left, List.take_left]

theorem readNumericId_append (id : UInt32) (rest : Bytes) : readNumericId (leBytes 4 id.toNat ++ rest) = some id := by
  have h := copyData_left (leBytes 4 id.toNat) rest
  rw [length_leBytes] at h
  rw [readNumericId, h, Option.map_some, leNat_leBytes 4 _ id.toNat_lt]
  exact congrArg some UInt32.ofNat_toNat

theorem cString_coe (str : DaqString) : cString str.1 = str := by
  refine Subtype.ext ?_
  show str.1.takeWhile (· ≠ 0) = str.1
  rw [List.takeWhile_eq_self_iff]
  intro b hb
  have : b ≠ 0 := fun h => str.2 (h ▸ hb)
  simpa using this

theorem readSignalIds_append (id : UInt32) (str : Bytes) :
    readSignalIds (leBytes 4 id.toNat ++ str) = some (id, str) := by
  have hstr := copyData_mid (leBytes 4 id.toNat) str [] rfl (length_leBytes 4 _)
  rw [List.append_nil] at hstr
  rw [readSignalIds, readNumericId_append, Option.bind_some, getStringFromData, List.length_append,
    length_leBytes, Nat.add_sub_cancel_left, hstr]
  rfl

theorem readSignalAvailable_payload (id : UInt32) (str signal : DaqString) (h : str.1.length ≤ signalStringIdMaxSize) :
    readSignalAvailable (leBytes 4 id.toNat ++ (leBytes 2 str.1.length ++ (str.1 ++ signal.1))) =
      some (.signal id str (some signal) true) := by
  have hsize : leNat (leBytes 2 str.1.length) = str.1.length :=
    leNat_leBytes 2 _ (by
      have : signalStringIdMaxSize = 2 ^ 16 - 1 := rfl
      omega)
  have h2 := copyData_mid (leBytes 4 id.toNat) (leBytes 2 str.1.length) (str.1 ++ signal.1)
    (length_leBytes 2 _) (length_leBytes 4 _)
  have h3 := copyData_mid (leBytes 4 id.toNat ++ leBytes 2 str.1.length) str.1 signal.1 (k := 6) rfl (by simp)
  have h4 := copyData_mid (leBytes 4 id.toNat ++ leBytes 2 str.1.length ++ str.1) signal.1 []
    (k := 6 + str.1.length) rfl (by simp; omega)
  simp only [List.append_assoc, List.append_nil] at h3 h4
  have hlen : (leBytes 4 id.toNat ++ (leBytes 2 str.1.length ++ (str.1 ++ signal.1))).length -
      (6 + str.1.length) = signal.1.length := by
    simp only [List.length_append, length_leBytes]
    omega
  rw [readSignalAvailable, readNumericId_append, Option.bind_some, h2, Option.bind_some]
  dsimp only
  rw [hsize, getStringFromData, h3, Option.bind_some, getStringFromData, hlen, h4, Option.map_some,
    cString_coe, cString_coe]

theorem readPacketBuffer_payload (m : PacketMemory) :
    readPacketBuffer (m.packetHeader ++ m.payloadBytes) =
      some (.packetBuffer m.packetHeader (if 0 < m.payloadSize.toNat then some m.payloadBytes else none)) := by
  have hge := m.size_ge
  have hfirst : copyData (m.packetHeader ++ m.payloadBytes) 1 0 = some [m.size] := by
    cases hh : m.packetHeader with
    | nil => simp [hh, genericPacketHeaderSize] at hge
    | cons b rest => simp [copyData, PacketMemory.size, headerSize, hh]
  have hheader := copyData_left m.packetHeader m.payloadBytes
  have hpayload := copyData_mid m.packetHeader m.payloadBytes [] m.length_payloadBytes m.length_packetHeader
  rw [m.length_packetHeader] at hheader hge
  rw [List.append_nil] at hpayload
  rw [readPacketBuffer, hfirst, Option.bind_some]
  show (if m.size.toNat < genericPacketHeaderSize then _ else _) = _
  rw [if_neg (by omega), show (headerSize [m.size]).toNat = m.size.toNat from rfl, hheader, Option.bind_some]
  show (if 0 < m.payloadSize.toNat then _ else _) = _
  by_cases hp : 0 < m.payloadSize.toNat
  · rw [if_pos hp, if_pos hp]
    show (copyData _ m.payloadSize.toNat m.size.toNat).map _ = _
    rw [hpayload]
    rfl
  · rw [if_neg hp, if_neg hp]

/-- **The payload of a message reads back**, if its string id fits. -/
theorem readPayload_payload (h : ¬ m.Exceeds) : readPayload m.payloadType m.payload = some m.received := by
  cases m with
  | packetBuffer m => exact readPacketBuffer_payload m
  | signalAvailable id str signal =>
    exact readSignalAvailable_payload id str signal (by
      simp only [Message.Exceeds, not_or] at h
      omega)
  | signalUnavailable id str =>
    show (readSignalIds _).map _ = _
    rw [Message.payload, readSignalIds_append]
    simp [Message.received, cString_coe]
  | signalSubscribe id str | signalUnsubscribe id str =>
    show (readSignalIds _).map _ = _
    rw [Message.payload, readSignalIds_append]
    rfl
  | subscribingDone id =>
    have hid := readNumericId_append id []
    rw [List.append_nil] at hid
    show readSignalSubscribedAck (leBytes 4 id.toNat) = some (.subscriptionAck id true)
    rw [readSignalSubscribedAck, hid, Option.map_some]
  | unsubscribingDone id =>
    have hid := readNumericId_append id []
    rw [List.append_nil] at hid
    show readSignalUnsubscribedAck (leBytes 4 id.toNat) = some (.subscriptionAck id false)
    rw [readSignalUnsubscribedAck, hid, Option.map_some]

/-! ## Sending -/

/-- What becomes of a message: it is refused for its size, or it is one frame. -/
def Settles (sent : Except StreamingError (List WriteTask)) : Prop :=
  (m.Exceeds ∧ ∃ e, sent = .error e) ∨
    (¬ m.Exceeds ∧ ∃ ts, sent = .ok ts ∧ ts.flatten = frame m.payloadType m.payload)

theorem settles_withHeader {m : Message} (tasks : List WriteTask) (hp : m.payload = tasks.flatten)
    (hex : m.Exceeds ↔ TransportHeader.maxPayloadSize < m.payload.length) :
    Settles m (withHeader m.payloadType tasks) := by
  have hsize : (tasks.map List.length).sum = m.payload.length := by
    rw [hp, List.length_flatten]
  unfold withHeader calculatePayloadSize
  rw [hsize]
  by_cases h : TransportHeader.maxPayloadSize < m.payload.length
  · exact Or.inl ⟨hex.mpr h, .payloadSizeExceedsLimit, by simp [h]⟩
  · refine Or.inr ⟨fun hc => h (hex.mp hc), _, by simp only [h, if_false]; rfl, ?_⟩
    rw [List.flatten_cons, ← hp]
    rfl

theorem exceeds_iff {m : Message} (h : ∀ id str signal, m ≠ .signalAvailable id str signal) :
    m.Exceeds ↔ TransportHeader.maxPayloadSize < m.payload.length := by
  cases m with
  | signalAvailable id str signal => exact absurd rfl (h id str signal)
  | _ => simp [Message.Exceeds]

theorem length_payload_packetBuffer (m : PacketMemory) :
    (Message.packetBuffer m).payload.length = m.size.toNat + m.payloadSize.toNat := by
  rw [Message.payload, List.length_append, m.length_packetHeader, m.length_payloadBytes]

/-- **What sending a message does**, when the sizes of a packet do not wrap. -/
theorem settles_send (hm : m.SumFits) : Settles m m.send := by
  cases m with
  | packetBuffer m =>
    have hsum : (m.size.toUInt32 + m.payloadSize).toNat = m.size.toNat + m.payloadSize.toNat := by
      rw [UInt32.toNat_add, UInt8.toNat_toUInt32, Nat.mod_eq_of_lt hm]
    have hex := exceeds_iff (m := .packetBuffer m) (by simp)
    have hlen := length_payload_packetBuffer m
    show Settles _ (createAndPushPacketBufferTasks m [])
    unfold createAndPushPacketBufferTasks copyHeadersToBuffer
    rw [hsum]
    by_cases h : TransportHeader.maxPayloadSize < m.size.toNat + m.payloadSize.toNat
    · exact Or.inl ⟨hex.mpr (by omega), .payloadSizeExceedsLimit, by simp [h]⟩
    · refine Or.inr ⟨fun hc => h (by have := hex.mp hc; omega), ?_⟩
      simp only [h, if_false, List.nil_append]
      by_cases hp : 0 < m.payloadSize.toNat
      · refine ⟨_, by rw [if_pos hp], ?_⟩
        rw [frame, hlen]
        simp [Message.payloadType, Message.payload]
      · refine ⟨_, by rw [if_neg hp], ?_⟩
        have hnil : m.payloadBytes = [] := List.eq_nil_of_length_eq_zero (by rw [m.length_payloadBytes]; omega)
        rw [frame, hlen]
        simp [Message.payloadType, Message.payload, hnil]
  | signalAvailable id str signal =>
    show Settles _ (sendSignalAvailable id str signal)
    unfold sendSignalAvailable
    by_cases hstr : signalStringIdMaxSize < str.1.length
    · exact Or.inl ⟨Or.inr hstr, .signalStringIdSizeExceedsLimit, by simp [hstr]⟩
    · simp only [hstr, if_false]
      exact settles_withHeader _ (by simp [Message.payload]) (by simp [Message.Exceeds, hstr])
  | signalUnavailable id str | signalSubscribe id str | signalUnsubscribe id str =>
    exact settles_withHeader _ (by simp [Message.payload]) (exceeds_iff (by simp))
  | subscribingDone id =>
    exact settles_withHeader (m := .subscribingDone id) [leBytes 4 id.toNat]
      (by simp [Message.payload]) (exceeds_iff (by simp))
  | unsubscribingDone id =>
    exact settles_withHeader (m := .unsubscribingDone id) [leBytes 4 id.toNat]
      (by simp [Message.payload]) (exceeds_iff (by simp))

/-- A packet whose sizes wrap is sent although it is too large. -/
theorem send_ok_of_wraps {m : PacketMemory} (h : 2 ^ 32 ≤ m.size.toNat + m.payloadSize.toNat) :
    (Message.packetBuffer m).Exceeds ∧ ∃ ts, (Message.packetBuffer m).send = .ok ts := by
  have hs := m.size.toNat_lt
  have hp := m.payloadSize.toNat_lt
  have hmax := TransportHeader.maxPayloadSize_eq
  have hsum : (m.size.toUInt32 + m.payloadSize).toNat = m.size.toNat + m.payloadSize.toNat - 2 ^ 32 := by
    rw [UInt32.toNat_add, UInt8.toNat_toUInt32, Nat.mod_eq_sub_mod h, Nat.mod_eq_of_lt (by omega)]
  refine ⟨(exceeds_iff (by simp)).mpr ?_, ?_⟩
  · rw [length_payload_packetBuffer]
    omega
  · show ∃ ts, createAndPushPacketBufferTasks m [] = .ok ts
    unfold createAndPushPacketBufferTasks copyHeadersToBuffer
    have hle : ¬ TransportHeader.maxPayloadSize < (m.size.toUInt32 + m.payloadSize).toNat := by
      rw [hsum]
      omega
    dsimp only
    rw [if_neg hle]
    dsimp only
    split
    · exact ⟨_, rfl⟩
    · exact ⟨_, rfl⟩

/-! ## Sequences -/

variable (msgs : List Message)

/-- The messages a sequence of sends got accepted, and the bytes they wrote. -/
def accepted : List Message :=
  msgs.filter (fun m => m.send.isOk)

def stream : Bytes :=
  msgs.flatMap fun m => match m.send with
    | .ok tasks => tasks.flatten
    | .error _ => []

/--
A sequence of sends round-trips: a message over a limit is refused, and the stream of the others
splits into their frames, which read back.
-/
def RoundTrips : Prop :=
  (∀ m ∈ msgs, m.Exceeds → ∃ e, m.send = .error e) ∧
    ∀ fuel, (stream msgs).length < fuel → ∃ frames, splitFrames fuel (stream msgs) = (frames, []) ∧
      frames.map Prod.fst = (accepted msgs).map (·.payloadType.toUInt32) ∧
      List.Forall₂ (fun m f => readPayload m.payloadType f.2 = some m.received)
        (accepted msgs) frames

/-- The frame of an accepted message. -/
def frameOf : Frame := (m.payloadType.toUInt32, m.payload)

/-- **The stream splits into the frames of the accepted messages.** -/
theorem splitFrames_stream : ∀ {msgs : List Message} {fuel : Nat}, (∀ m ∈ msgs, m.SumFits) →
    (stream msgs).length < fuel → splitFrames fuel (stream msgs) = ((accepted msgs).map frameOf, [])
  | [], fuel + 1, _, _ => by simp [splitFrames, stream, accepted, TransportHeader.packedHeaderSize]
  | m :: rest, fuel, hfit, hfuel => by
    have hrest : ∀ m ∈ rest, m.SumFits := fun x hx => hfit x (List.mem_cons_of_mem _ hx)
    rcases settles_send m (hfit m List.mem_cons_self) with ⟨-, e, he⟩ | ⟨hok, ts, hts, hfl⟩
    · have hs : stream (m :: rest) = stream rest := by simp [stream, he]
      have ha : accepted (m :: rest) = accepted rest := by simp [accepted, he, Except.isOk, Except.toBool]
      rw [hs] at hfuel ⊢
      rw [ha]
      exact splitFrames_stream hrest hfuel
    · have hs : stream (m :: rest) = frame m.payloadType m.payload ++ stream rest := by
        simp [stream, hts, hfl]
      have ha : accepted (m :: rest) = m :: accepted rest := by
        simp [accepted, hts, Except.isOk, Except.toBool]
      have hle : m.payload.length ≤ TransportHeader.maxPayloadSize := Nat.le_of_not_lt fun h => hok (Or.inl h)
      rw [hs, List.length_append, frame, List.length_append, TransportHeader.length_toBytes] at hfuel
      cases fuel with
      | zero => omega
      | succ fuel =>
        rw [hs, splitFrames_frame fuel m.payloadType (stream rest) hle, splitFrames_stream hrest (by omega), ha]
        rfl

theorem forall₂_frameOf : ∀ {msgs : List Message}, (∀ m ∈ msgs, ¬ m.Exceeds) →
    List.Forall₂ (fun m f => readPayload m.payloadType f.2 = some m.received) msgs
      (msgs.map frameOf)
  | [], _ => .nil
  | m :: _, h =>
    .cons (readPayload_payload m (h m List.mem_cons_self)) (forall₂_frameOf fun x hx => h x (List.mem_cons_of_mem _ hx))

/-- **A sequence of messages round-trips exactly when no packet wraps the sum of its sizes.** -/
theorem roundTrips_iff : RoundTrips msgs ↔ ∀ m ∈ msgs, m.SumFits := by
  constructor
  · intro h m hm
    cases m with
    | packetBuffer m =>
      by_contra hfit
      obtain ⟨hex, ts, hts⟩ := send_ok_of_wraps (Nat.le_of_not_lt hfit)
      obtain ⟨e, he⟩ := h.1 _ hm hex
      rw [hts] at he
      cases he
    | _ => trivial
  · intro h
    constructor
    · intro m hm hex
      rcases settles_send m (h m hm) with ⟨-, he⟩ | ⟨hok, -⟩
      · exact he
      · exact absurd hex hok
    · intro fuel hfuel
      refine ⟨_, splitFrames_stream h hfuel, ?_, forall₂_frameOf fun m hm => ?_⟩
      · rw [List.map_map]
        rfl
      · obtain ⟨hmem, hsent⟩ := List.mem_filter.mp hm
        rcases settles_send m (h m hmem) with ⟨-, e, he⟩ | ⟨hok, -⟩
        · simp [he, Except.isOk, Except.toBool] at hsent
        · exact hok

/-- A packet with a generic header and `2 ^ 32 - 12` bytes of payload. -/
def wrappingPacket : PacketMemory where
  packetHeader := [12, 1, 0, 0, 0, 0, 0, 0, 0xF4, 0xFF, 0xFF, 0xFF]
  payload := List.replicate (2 ^ 32 - 12) 0
  size_eq := by decide
  size_ge := by decide
  readable := by
    rw [List.length_replicate]
    decide

/-- Its sizes add up to zero in 32 bits, so it is sent under a header that announces no bytes. -/
theorem not_roundTrips_wrappingPacket : ¬ RoundTrips [.packetBuffer wrappingPacket] := by
  intro h
  have hwraps : 2 ^ 32 ≤ wrappingPacket.size.toNat + wrappingPacket.payloadSize.toNat := by decide
  obtain ⟨hex, ts, hts⟩ := send_ok_of_wraps hwraps
  obtain ⟨e, he⟩ := h.1 _ List.mem_cons_self hex
  rw [hts] at he
  cases he

end OpenDaq.NativeStreaming
