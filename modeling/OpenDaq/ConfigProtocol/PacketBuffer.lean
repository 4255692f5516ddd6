import Mathlib.Data.Finset.Sort
import OpenDaq.NativeStreaming.SessionHandler

/-!
# Packets of the configuration protocol

A packet is a header of 16 bytes and a payload. The session reads a packet out of the bytes that came
from the peer, and the `parse` functions read the payload where it lies in memory. A read behind the
payload is the error `outOfBounds`, which no function of the source reports.
-/

namespace OpenDaq.ConfigProtocol

open Infra NativeStreaming

/-! ## Packets -/

inductive PacketType where
  | getProtocolInfo
  | upgradeProtocol
  | rpc
  | serverNotification
  | invalidRequest
  | noReplyRpc
  | connectionRejected
  deriving DecidableEq, Repr

def PacketType.code : PacketType → UInt8
  | .getProtocolInfo => 0x80
  | .upgradeProtocol => 0x81
  | .rpc => 0x82
  | .serverNotification => 0x83
  | .invalidRequest => 0x84
  | .noReplyRpc => 0x85
  | .connectionRejected => 0x86

/-- A protocol version, `uint16_t`. -/
abbrev Version := Fin (2 ^ 16)

/-- A version in memory. -/
def Version.toBytes (version : Version) : Bytes := leBytes 2 version.val

theorem Version.length_flatMap : ∀ versions : List Version,
    (versions.flatMap Version.toBytes).length = 2 * versions.length
  | [] => rfl
  | version :: rest => by
    rw [List.flatMap_cons, List.length_append, Version.length_flatMap rest, Version.toBytes,
      length_leBytes, List.length_cons]
    omega

/-- `PacketHeader`, and what follows it in memory. -/
structure PacketBuffer where
  headerSize : UInt8
  type : UInt8
  payloadSize : UInt32
  id : UInt64
  payload : Bytes
  deriving DecidableEq, Repr

inductive ParseError where
  /-- "Invalid packet type" -/
  | invalidPacketType
  /-- "Invalid payload" -/
  | invalidPayload
  /-- A read behind the memory of the packet. -/
  | outOfBounds
  deriving DecidableEq, Repr

namespace PacketBuffer

def packetHeaderSize : Nat := 16

def maxPacketBufferSize : Nat := 0x0FFFFFFF

/-- The constructor that copies a payload. `none` is the exception for one that is too large. -/
def make (packetType : PacketType) (id : UInt64) (payload : Bytes) : Option PacketBuffer :=
  if maxPacketBufferSize < packetHeaderSize + payload.length then none
  else some
    { headerSize := UInt8.ofNat packetHeaderSize
      type := packetType.code
      payloadSize := UInt32.ofNat payload.length
      id
      payload }

/-! ## Reading the payload -/

def readUInt16 (p : PacketBuffer) (offset : Nat) : Except ParseError Version :=
  if offset + 2 ≤ p.payload.length then .ok (Fin.ofNat (2 ^ 16) (leNat ((p.payload.drop offset).take 2)))
  else .error .outOfBounds

def readUInt8 (p : PacketBuffer) : Except ParseError UInt8 :=
  match p.payload.head? with
  | some b => .ok b
  | none => .error .outOfBounds

def readString (p : PacketBuffer) : Except ParseError Bytes :=
  if p.payloadSize.toNat ≤ p.payload.length then .ok (p.payload.take p.payloadSize.toNat)
  else .error .outOfBounds

/-- The loop of `parseProtocolInfoReply`. -/
def readVersions (p : PacketBuffer) : Nat → Nat → Finset Version → Except ParseError (Finset Version)
  | 0, _, supportedVersions => .ok supportedVersions
  | verCount + 1, offset, supportedVersions =>
    (p.readUInt16 offset).bind fun version =>
      readVersions p verCount (offset + 2) (insert version supportedVersions)

/-! ## The kinds of packets -/

def createGetProtocolInfoRequest (id : UInt64) : Option PacketBuffer := make .getProtocolInfo id []

def parseProtocolInfoRequest (p : PacketBuffer) : Except ParseError Unit :=
  if p.type ≠ PacketType.getProtocolInfo.code then .error .invalidPacketType
  else if p.payloadSize.toNat ≠ 0 then .error .invalidPayload
  else .ok ()

/-- `createGetProtocolInfoReply`. A `std::set` lists its elements in order. -/
def createGetProtocolInfoReply (id : UInt64) (currentVersion : Version)
    (supportedVersions : Finset Version) : Option PacketBuffer :=
  make .getProtocolInfo id (Version.toBytes currentVersion ++
    (Version.toBytes (Fin.ofNat (2 ^ 16) supportedVersions.card) ++
      (supportedVersions.sort (· ≤ ·)).flatMap Version.toBytes))

/-- `parseProtocolInfoReply`, which adds to the set it is called with. -/
def parseProtocolInfoReply (p : PacketBuffer) (supportedVersions : Finset Version) :
    Except ParseError (Version × Finset Version) :=
  if p.type ≠ PacketType.getProtocolInfo.code then .error .invalidPacketType
  else if p.payloadSize.toNat < 4 then .error .invalidPayload
  else
    (p.readUInt16 0).bind fun currentVersion =>
      (p.readUInt16 2).bind fun verCount =>
        (p.readVersions verCount 4 supportedVersions).map fun versions => (currentVersion, versions)

def createUpgradeProtocolRequest (id : UInt64) (version : Version) : Option PacketBuffer :=
  make .upgradeProtocol id (Version.toBytes version)

def parseProtocolUpgradeRequest (p : PacketBuffer) : Except ParseError Version :=
  if p.type ≠ PacketType.upgradeProtocol.code then .error .invalidPacketType
  else if p.payloadSize.toNat ≠ 2 then .error .invalidPayload
  else p.readUInt16 0

def createUpgradeProtocolReply (id : UInt64) (success : Bool) : Option PacketBuffer :=
  make .upgradeProtocol id [if success then 1 else 0]

def parseProtocolUpgradeReply (p : PacketBuffer) : Except ParseError Bool :=
  if p.type ≠ PacketType.upgradeProtocol.code then .error .invalidPacketType
  else if p.payloadSize.toNat ≠ 1 then .error .invalidPayload
  else p.readUInt8.map (· ≠ 0)

def createInvalidRequestReply (id : UInt64) : Option PacketBuffer := make .invalidRequest id []

def parseInvalidRequestReply (p : PacketBuffer) : Except ParseError Unit :=
  if p.type ≠ PacketType.invalidRequest.code then .error .invalidPacketType
  else if p.payloadSize.toNat ≠ 0 then .error .invalidPayload
  else .ok ()

/-- The `parse` functions of the packets whose payload is a string. -/
def parseJson (packetType : PacketType) (p : PacketBuffer) : Except ParseError Bytes :=
  if p.type ≠ packetType.code then .error .invalidPacketType
  else if p.payloadSize.toNat = 0 then .error .invalidPayload
  else p.readString

def createRpcRequestOrReply (id : UInt64) (json : Bytes) : Option PacketBuffer := make .rpc id json

def parseRpcRequestOrReply : PacketBuffer → Except ParseError Bytes := parseJson .rpc

/-- The id of the packets that are not answered. -/
def noId : UInt64 := UInt64.ofNat (2 ^ 64 - 1)

def createServerNotification (json : Bytes) : Option PacketBuffer := make .serverNotification noId json

def parseServerNotification : PacketBuffer → Except ParseError Bytes := parseJson .serverNotification

def createNoReplyRpcRequest (json : Bytes) : Option PacketBuffer := make .noReplyRpc noId json

def parseNoReplyRpcRequest : PacketBuffer → Except ParseError Bytes := parseJson .noReplyRpc

def createConnectionRejectedReply (id : UInt64) (json : Bytes) : Option PacketBuffer :=
  make .connectionRejected id json

def parseConnectionRejectedReply : PacketBuffer → Except ParseError Bytes :=
  parseJson .connectionRejected

end PacketBuffer

/-! ## Receiving a packet -/

/-- What the session makes of the bytes of a configuration packet. -/
inductive ReceivedPacket where
  /-- "Failed to copy {} bytes from offset {} bytes of received data with size {} bytes" -/
  | protocolError
  /-- "Unsupported config packet buffer header size: {}. Skipping payload." -/
  | skipped
  | packet (p : PacketBuffer)
  deriving DecidableEq, Repr

/-- The packet with the header that was copied to memory. -/
def packetOfHeader (header payload : Bytes) : PacketBuffer where
  headerSize := UInt8.ofNat (leNat (header.take 1))
  type := UInt8.ofNat (leNat ((header.drop 1).take 1))
  payloadSize := UInt32.ofNat (leNat ((header.drop 4).take 4))
  id := UInt64.ofNat (leNat ((header.drop 8).take 8))
  payload

/-- `BaseSessionHandler::readConfigurationPacket`, up to the call of the handler. -/
def readConfigurationPacket (data : Bytes) : ReceivedPacket :=
  match copyData data 1 0 with
  | none => .protocolError
  | some first =>
    let headerSize := leNat first
    if headerSize ≠ PacketBuffer.packetHeaderSize then .skipped
    else
      match copyData data headerSize 0 with
      | none => .protocolError
      | some header =>
        let payloadSize := (packetOfHeader header []).payloadSize.toNat
        if 0 < payloadSize then
          match copyData data payloadSize headerSize with
          | none => .protocolError
          | some payload => .packet (packetOfHeader header payload)
        else .packet (packetOfHeader header [])

/-! ## The property -/

variable {payload json data : Bytes} {version currentVersion : Version} {packetType : PacketType}

variable {supportedVersions : Finset Version}

namespace PacketBuffer

/-- Each kind of packet is parsed back to what it was made of. -/
structure RoundTrips (id : UInt64) (currentVersion : Version) (supportedVersions : Finset Version)
    (version : Version) (success : Bool) (json : Bytes) : Prop where
  protocolInfoRequest : ∀ p ∈ createGetProtocolInfoRequest id,
    p.id = id ∧ p.parseProtocolInfoRequest = .ok ()
  protocolInfoReply : ∀ p ∈ createGetProtocolInfoReply id currentVersion supportedVersions,
    p.id = id ∧ p.parseProtocolInfoReply ∅ = .ok (currentVersion, supportedVersions)
  upgradeProtocolRequest : ∀ p ∈ createUpgradeProtocolRequest id version,
    p.id = id ∧ p.parseProtocolUpgradeRequest = .ok version
  upgradeProtocolReply : ∀ p ∈ createUpgradeProtocolReply id success,
    p.id = id ∧ p.parseProtocolUpgradeReply = .ok success
  invalidRequestReply : ∀ p ∈ createInvalidRequestReply id,
    p.id = id ∧ p.parseInvalidRequestReply = .ok ()
  rpcRequestOrReply : ∀ p ∈ createRpcRequestOrReply id json,
    p.id = id ∧ p.parseRpcRequestOrReply = .ok json
  serverNotification : ∀ p ∈ createServerNotification json,
    p.id = noId ∧ p.parseServerNotification = .ok json
  noReplyRpcRequest : ∀ p ∈ createNoReplyRpcRequest json,
    p.id = noId ∧ p.parseNoReplyRpcRequest = .ok json
  connectionRejectedReply : ∀ p ∈ createConnectionRejectedReply id json,
    p.id = id ∧ p.parseConnectionRejectedReply = .ok json

/-- No `parse` function reads behind the memory of the packet. -/
structure Safe (p : PacketBuffer) : Prop where
  protocolInfoRequest : p.parseProtocolInfoRequest ≠ .error .outOfBounds
  protocolInfoReply : ∀ supportedVersions,
    p.parseProtocolInfoReply supportedVersions ≠ .error .outOfBounds
  upgradeProtocolRequest : p.parseProtocolUpgradeRequest ≠ .error .outOfBounds
  upgradeProtocolReply : p.parseProtocolUpgradeReply ≠ .error .outOfBounds
  invalidRequestReply : p.parseInvalidRequestReply ≠ .error .outOfBounds
  rpcRequestOrReply : p.parseRpcRequestOrReply ≠ .error .outOfBounds
  serverNotification : p.parseServerNotification ≠ .error .outOfBounds
  noReplyRpcRequest : p.parseNoReplyRpcRequest ≠ .error .outOfBounds
  connectionRejectedReply : p.parseConnectionRejectedReply ≠ .error .outOfBounds

/-- No `parse` function reads behind the bytes that were received. -/
def ParsesSafely (data : Bytes) : Prop :=
  ∀ p, readConfigurationPacket data = .packet p → p.Safe

/-- The version count of a received packet is the count of versions that follow, or less. -/
def VersionsFit (data : Bytes) : Prop :=
  ∀ p verCount, readConfigurationPacket data = .packet p →
    p.type = PacketType.getProtocolInfo.code → p.readUInt16 2 = .ok verCount →
    4 + 2 * verCount.val ≤ p.payloadSize.toNat

/-! ## Reading -/

variable {p : PacketBuffer}

theorem readUInt16_append (pre post : Bytes) {offset : Nat}
    (h : p.payload = pre ++ (Version.toBytes version ++ post)) (hpos : pre.length = offset) :
    p.readUInt16 offset = .ok version := by
  subst hpos
  have hlen : pre.length + 2 ≤ p.payload.length := by
    rw [h]
    simp [Version.toBytes]
  have hbytes : (p.payload.drop pre.length).take 2 = leBytes 2 version.val := by
    rw [h, List.drop_left]
    exact List.take_left' (length_leBytes 2 _)
  rw [readUInt16, if_pos hlen, hbytes, leNat_leBytes 2 _ version.isLt]
  exact congrArg Except.ok (Fin.ofNat_val_eq_self version)

theorem readVersions_append : ∀ (versions : List Version) (pre : Bytes) (set : Finset Version),
    p.payload = pre ++ versions.flatMap Version.toBytes →
    p.readVersions versions.length pre.length set = .ok (set ∪ versions.toFinset)
  | [], _, set, _ => by simp [readVersions]
  | version :: rest, pre, set, h => by
    have hrest : p.payload = (pre ++ Version.toBytes version) ++ rest.flatMap Version.toBytes := by
      rw [h, List.flatMap_cons, List.append_assoc]
    have hpos : (pre ++ Version.toBytes version).length = pre.length + 2 := by simp [Version.toBytes]
    have ih := readVersions_append rest (pre ++ Version.toBytes version) (insert version set) hrest
    rw [hpos] at ih
    rw [List.length_cons, readVersions, readUInt16_append pre _ (by rw [h, List.flatMap_cons]) rfl]
    show readVersions p rest.length (pre.length + 2) (insert version set) = _
    rw [ih, List.toFinset_cons, Finset.insert_union, Finset.union_insert]

theorem readVersions_outOfBounds : ∀ (verCount offset : Nat) (set : Finset Version), offset ≤ p.payload.length →
    (p.readVersions verCount offset set = .error .outOfBounds ↔
      p.payload.length < offset + 2 * verCount) ∧
    ∀ e, p.readVersions verCount offset set = .error e → e = .outOfBounds
  | 0, offset, set, h => by
    refine ⟨iff_of_false (by simp [readVersions]) (by omega), ?_⟩
    intro e he
    simp [readVersions] at he
  | verCount + 1, offset, set, h => by
    unfold readVersions readUInt16
    by_cases hfit : offset + 2 ≤ p.payload.length
    · rw [if_pos hfit]
      obtain ⟨ih, ih'⟩ := readVersions_outOfBounds verCount (offset + 2)
        (insert (Fin.ofNat (2 ^ 16) (leNat ((p.payload.drop offset).take 2))) set) hfit
      refine ⟨ih.trans ?_, ih'⟩
      constructor <;> intro hlt <;> omega
    · rw [if_neg hfit]
      refine ⟨iff_of_true rfl (by omega), ?_⟩
      intro e he
      exact (Except.error.inj he).symm

/-! ## Round trips -/

theorem make_some {id : UInt64} (h : p ∈ make packetType id payload) :
    p.type = packetType.code ∧ p.id = id ∧ p.payload = payload ∧
      p.payloadSize.toNat = payload.length := by
  unfold make at h
  split at h
  · cases h
  · rename_i hmax
    obtain rfl := Option.some.inj h
    refine ⟨rfl, rfl, rfl, ?_⟩
    rw [maxPacketBufferSize, packetHeaderSize] at hmax
    exact UInt32.toNat_ofNat_of_lt' (by rw [UInt32.size]; omega)

theorem make_isSome {id : UInt64} (h : packetHeaderSize + payload.length ≤ maxPacketBufferSize) :
    ∃ p, p ∈ make packetType id payload := ⟨_, by rw [make, if_neg (by omega)]; rfl⟩

variable {id : UInt64}

theorem parseProtocolInfoRequest_make (h : p ∈ createGetProtocolInfoRequest id) :
    p.id = id ∧ p.parseProtocolInfoRequest = .ok () := by
  obtain ⟨htype, hid, -, hsize⟩ := make_some h
  refine ⟨hid, ?_⟩
  rw [parseProtocolInfoRequest, if_neg (by simp [htype]), if_neg (by simp [hsize])]

theorem parseInvalidRequestReply_make (h : p ∈ createInvalidRequestReply id) :
    p.id = id ∧ p.parseInvalidRequestReply = .ok () := by
  obtain ⟨htype, hid, -, hsize⟩ := make_some h
  refine ⟨hid, ?_⟩
  rw [parseInvalidRequestReply, if_neg (by simp [htype]), if_neg (by simp [hsize])]

theorem parseProtocolUpgradeRequest_make (h : p ∈ createUpgradeProtocolRequest id version) :
    p.id = id ∧ p.parseProtocolUpgradeRequest = .ok version := by
  obtain ⟨htype, hid, hpayload, hsize⟩ := make_some h
  have hread : p.readUInt16 0 = .ok version :=
    readUInt16_append [] [] (by rw [hpayload, List.append_nil, List.nil_append]) rfl
  refine ⟨hid, ?_⟩
  rw [parseProtocolUpgradeRequest, if_neg (by simp [htype]), if_neg (by rw [hsize]; simp [Version.toBytes])]
  exact hread

theorem parseProtocolUpgradeReply_make {success : Bool} (h : p ∈ createUpgradeProtocolReply id success) :
    p.id = id ∧ p.parseProtocolUpgradeReply = .ok success := by
  obtain ⟨htype, hid, hpayload, hsize⟩ := make_some h
  refine ⟨hid, ?_⟩
  rw [parseProtocolUpgradeReply, if_neg (by simp [htype]), if_neg (by simp [hsize]), readUInt8, hpayload]
  cases success <;> rfl

/-- A string that is not empty is read back; an empty one is refused. -/
theorem parseJson_make {id : UInt64} (h : p ∈ make packetType id json) :
    parseJson packetType p = if json = [] then .error .invalidPayload else .ok json := by
  obtain ⟨htype, hid, hpayload, hsize⟩ := make_some h
  rw [parseJson, if_neg (by simp [htype])]
  by_cases hjson : json = []
  · rw [if_pos hjson, if_pos (by rw [hsize, hjson]; rfl)]
  · have hlen : json.length ≠ 0 := fun hlen => hjson (List.eq_nil_of_length_eq_zero hlen)
    rw [if_neg hjson, if_neg (by rw [hsize]; exact hlen), readString, hpayload, hsize,
      if_pos (Nat.le_refl _), List.take_length]

/-- The versions that are read back: all of them, unless there are as many as there can be. -/
theorem parseProtocolInfoReply_make (h : p ∈ createGetProtocolInfoReply id currentVersion supportedVersions) :
    p.parseProtocolInfoReply ∅ =
      .ok (currentVersion, if supportedVersions = Finset.univ then ∅ else supportedVersions) := by
  obtain ⟨htype, -, hpayload, hsize⟩ := make_some h
  have hcur : p.readUInt16 0 = .ok currentVersion := readUInt16_append [] _ hpayload rfl
  have hlen : (Version.toBytes currentVersion).length = 2 := length_leBytes 2 _
  have hcount : p.readUInt16 2 = .ok (Fin.ofNat (2 ^ 16) supportedVersions.card) :=
    readUInt16_append (Version.toBytes currentVersion) _ hpayload hlen
  have hfour : ¬ p.payloadSize.toNat < 4 := by
    rw [hsize]
    simp [Version.toBytes]
    omega
  rw [parseProtocolInfoReply, if_neg (by simp [htype]), if_neg hfour, hcur]
  show (((p.readUInt16 2).bind _ : Except ParseError _)) = _
  rw [hcount]
  show ((p.readVersions (Fin.ofNat (2 ^ 16) supportedVersions.card).val 4 ∅).map _ : Except ParseError _) = _
  by_cases huniv : supportedVersions = Finset.univ
  · have hzero : (Fin.ofNat (2 ^ 16) supportedVersions.card).val = 0 := by
      rw [huniv, Finset.card_univ, Fintype.card_fin]
      rfl
    rw [hzero, if_pos huniv]
    rfl
  · have hcard : supportedVersions.card < 2 ^ 16 := by
      have hle := supportedVersions.card_le_univ
      rw [Fintype.card_fin] at hle
      refine Nat.lt_of_le_of_ne hle fun heq => huniv ?_
      exact Finset.eq_univ_of_card _ (by rw [heq, Fintype.card_fin])
    have hval : (Fin.ofNat (2 ^ 16) supportedVersions.card).val = (supportedVersions.sort (· ≤ ·)).length := by
      rw [Finset.length_sort]
      exact Nat.mod_eq_of_lt hcard
    have hread := readVersions_append (p := p) (supportedVersions.sort (· ≤ ·))
      (Version.toBytes currentVersion ++ Version.toBytes (Fin.ofNat (2 ^ 16) supportedVersions.card)) ∅
      (by rw [hpayload, List.append_assoc])
    have hpos : (Version.toBytes currentVersion ++
        Version.toBytes (Fin.ofNat (2 ^ 16) supportedVersions.card)).length = 4 := by
      rw [List.length_append, hlen, Version.toBytes, length_leBytes]
    rw [hpos, Finset.empty_union, Finset.sort_toFinset] at hread
    rw [hval, hread, if_neg huniv]
    rfl

/-- **Packets round-trip**, but for an empty string and for the set of all versions. -/
theorem roundTrips_iff_nonempty {success : Bool} :
    RoundTrips id currentVersion supportedVersions version success json ↔
      supportedVersions ≠ Finset.univ ∧ json ≠ [] := by
  constructor
  · intro h
    constructor
    · rintro rfl
      have hlen : packetHeaderSize + (Version.toBytes currentVersion ++
          (Version.toBytes (Fin.ofNat (2 ^ 16) (Finset.univ : Finset Version).card) ++
            ((Finset.univ : Finset Version).sort (· ≤ ·)).flatMap Version.toBytes)).length ≤
          maxPacketBufferSize := by
        rw [List.length_append, List.length_append, Version.length_flatMap, Finset.length_sort,
          Finset.card_univ, Fintype.card_fin, Version.toBytes, Version.toBytes, length_leBytes,
          length_leBytes, packetHeaderSize, maxPacketBufferSize]
        omega
      obtain ⟨p, hp⟩ : ∃ p, p ∈ createGetProtocolInfoReply id currentVersion Finset.univ := make_isSome hlen
      have hback := (h.protocolInfoReply p hp).2
      rw [parseProtocolInfoReply_make hp, if_pos rfl] at hback
      have hempty := (Prod.mk.inj (Except.ok.inj hback)).2
      exact Finset.univ_nonempty.ne_empty hempty.symm
    · rintro rfl
      obtain ⟨p, hp⟩ : ∃ p, p ∈ createRpcRequestOrReply id [] := make_isSome (by decide)
      have hback := (h.rpcRequestOrReply p hp).2
      rw [parseRpcRequestOrReply, parseJson_make hp, if_pos rfl] at hback
      cases hback
  · rintro ⟨hversions, hjson⟩
    have hstring : ∀ {packetType : PacketType} {id : UInt64} {p}, p ∈ make packetType id json →
        p.id = id ∧ parseJson packetType p = .ok json := by
      intro packetType id p hp
      exact ⟨(make_some hp).2.1, by rw [parseJson_make hp, if_neg hjson]⟩
    exact ⟨fun _ => parseProtocolInfoRequest_make,
      fun _ hp => ⟨(make_some hp).2.1, by rw [parseProtocolInfoReply_make hp, if_neg hversions]⟩,
      fun _ => parseProtocolUpgradeRequest_make, fun _ => parseProtocolUpgradeReply_make,
      fun _ => parseInvalidRequestReply_make, fun _ => hstring, fun _ => hstring, fun _ => hstring,
      fun _ => hstring⟩

/-! ## Reads inside the packet -/

theorem length_payload_received (h : readConfigurationPacket data = .packet p) :
    p.payload.length = p.payloadSize.toNat := by
  unfold readConfigurationPacket at h
  cases hfirst : copyData data 1 0 with
  | none =>
    rw [hfirst] at h
    cases h
  | some first =>
    rw [hfirst] at h
    dsimp only at h
    split at h
    · cases h
    · cases hheader : copyData data (leNat first) 0 with
      | none =>
        rw [hheader] at h
        cases h
      | some header =>
        rw [hheader] at h
        dsimp only at h
        split at h
        · cases hpayload : copyData data (packetOfHeader header []).payloadSize.toNat (leNat first) with
          | none =>
            rw [hpayload] at h
            cases h
          | some payload =>
            rw [hpayload] at h
            obtain rfl := ReceivedPacket.packet.inj h
            unfold copyData at hpayload
            split at hpayload
            · cases hpayload
            · rename_i hlen
              show payload.length = (packetOfHeader header []).payloadSize.toNat
              rw [← Option.some.inj hpayload, List.length_take, List.length_drop]
              omega
        · rename_i hzero
          obtain rfl := ReceivedPacket.packet.inj h
          exact (Nat.eq_zero_of_not_pos hzero).symm

theorem parseJson_inside (packetType : PacketType) (h : p.payload.length = p.payloadSize.toNat) :
    parseJson packetType p ≠ .error .outOfBounds := by
  unfold parseJson readString
  rw [if_pos (Nat.le_of_eq h.symm)]
  split
  · simp
  · split <;> simp

theorem parseProtocolInfoReply_inside (h : p.payload.length = p.payloadSize.toNat) :
    (∀ supportedVersions, p.parseProtocolInfoReply supportedVersions ≠ .error .outOfBounds) ↔
      (p.type = PacketType.getProtocolInfo.code → ∀ verCount, p.readUInt16 2 = .ok verCount →
        4 + 2 * verCount.val ≤ p.payloadSize.toNat) := by
  unfold parseProtocolInfoReply
  by_cases htype : p.type = PacketType.getProtocolInfo.code
  · by_cases hfour : p.payloadSize.toNat < 4
    · simp only [htype, ne_eq, not_true_eq_false, if_false, hfour, if_true, true_imp_iff]
      refine iff_of_true (by simp) fun verCount hcount => ?_
      rw [readUInt16, if_neg (by omega)] at hcount
      cases hcount
    · have hcur : p.readUInt16 0 = .ok (Fin.ofNat (2 ^ 16) (leNat ((p.payload.drop 0).take 2))) := by
        rw [readUInt16, if_pos (by omega)]
      have hcount : p.readUInt16 2 = .ok (Fin.ofNat (2 ^ 16) (leNat ((p.payload.drop 2).take 2))) := by
        rw [readUInt16, if_pos (by omega)]
      generalize Fin.ofNat (2 ^ 16) (leNat ((p.payload.drop 2).take 2)) = verCount at hcount
      have hloop : ∀ set, (p.readVersions verCount 4 set = .error .outOfBounds ↔
          p.payload.length < 4 + 2 * verCount.val) := fun set =>
        (readVersions_outOfBounds verCount.val 4 set (by omega)).1
      simp only [htype, ne_eq, not_true_eq_false, if_false, hfour, hcur, hcount, true_imp_iff, Except.bind]
      constructor
      · intro hall n hn
        obtain rfl := Except.ok.inj hn
        by_contra hlt
        refine hall ∅ ?_
        rw [(hloop ∅).mpr (by omega)]
        rfl
      · intro hfit set hout
        have hlt := hfit verCount rfl
        cases hr : p.readVersions verCount.val 4 set with
        | ok r =>
          rw [hr] at hout
          cases hout
        | error e =>
          have he : e = .outOfBounds := (readVersions_outOfBounds verCount.val 4 set (by omega)).2 e hr
          rw [he] at hr
          have := (hloop set).mp hr
          omega
  · simp [htype]

/-- **When no `parse` function reads behind a packet that is received.** -/
theorem parsesSafely_iff : ParsesSafely data ↔ VersionsFit data := by
  constructor
  · intro h p verCount hp htype hcount
    exact (parseProtocolInfoReply_inside (length_payload_received hp)).mp (h p hp).protocolInfoReply
      htype verCount hcount
  · intro h p hp
    have hlen := length_payload_received hp
    refine ⟨?_, (parseProtocolInfoReply_inside hlen).mpr fun htype verCount => h p verCount hp htype,
      ?_, ?_, ?_, parseJson_inside _ hlen, parseJson_inside _ hlen, parseJson_inside _ hlen,
      parseJson_inside _ hlen⟩
    · unfold parseProtocolInfoRequest
      split
      · simp
      · split <;> simp
    · unfold parseProtocolUpgradeRequest
      split
      · simp
      · split
        · simp
        · rename_i hsize
          rw [readUInt16, if_pos (by omega)]
          simp
    · unfold parseProtocolUpgradeReply
      split
      · simp
      · split
        · simp
        · rename_i hsize
          cases hpay : p.payload with
          | nil =>
            rw [hpay, List.length_nil] at hlen
            omega
          | cons b rest => simp [readUInt8, hpay, Except.map]
    · unfold parseInvalidRequestReply
      split
      · simp
      · split <;> simp

/-! ## Main results -/

/--
**Packets round-trip and are parsed safely** exactly when the set of versions leaves one out, the string
is not empty, and the version count of the received packet fits its payload.
-/
theorem roundTrips_parsesSafely_iff (id : UInt64) (currentVersion version : Version)
    (supportedVersions : Finset Version) (success : Bool) (json data : Bytes) :
    RoundTrips id currentVersion supportedVersions version success json ∧ ParsesSafely data ↔
      (supportedVersions ≠ Finset.univ ∧ json ≠ []) ∧ VersionsFit data := by
  rw [roundTrips_iff_nonempty, parsesSafely_iff]

/-- A reply that announces one version more than it has. -/
def countTooLarge : Bytes := [16, 0x80, 0, 0, 4, 0, 0, 0, 1, 0, 0, 0, 0, 0, 0, 0, 18, 0, 1, 0]

theorem not_parsesSafely_countTooLarge :
    ¬ (RoundTrips 1 18 {17, 18} 18 true [123, 125] ∧ ParsesSafely countTooLarge) := by
  rintro ⟨-, h⟩
  exact (h (packetOfHeader (countTooLarge.take 16) (countTooLarge.drop 16)) (by decide)).protocolInfoReply
    ∅ (by decide)

end PacketBuffer

end OpenDaq.ConfigProtocol
