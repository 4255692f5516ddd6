import OpenDaq.Infra.Bytes

/-!
# The transport header

Every message of the native streaming protocol begins with one 32-bit word that holds the type of
the message in its upper four bits and the size of what follows in the lower 28.
-/

namespace OpenDaq.NativeStreaming

open Infra

inductive PayloadType where
  | streamingPacket
  | streamingSignalAvailable
  | streamingSignalUnavailable
  | streamingSignalSubscribeCommand
  | streamingSignalUnsubscribeCommand
  | streamingProtocolInitDone
  | streamingSignalSubscribeAck
  | streamingSignalUnsubscribeAck
  | configurationPacket
  | transportLayerProperties
  | streamingProtocolInitRequest
  deriving DecidableEq, Repr

/-- The value of the enumerator. -/
def PayloadType.toUInt32 : PayloadType → UInt32
  | .streamingPacket => 1
  | .streamingSignalAvailable => 2
  | .streamingSignalUnavailable => 3
  | .streamingSignalSubscribeCommand => 4
  | .streamingSignalUnsubscribeCommand => 5
  | .streamingProtocolInitDone => 6
  | .streamingSignalSubscribeAck => 7
  | .streamingSignalUnsubscribeAck => 8
  | .configurationPacket => 9
  | .transportLayerProperties => 10
  | .streamingProtocolInitRequest => 11

namespace TransportHeader

def payloadTypeMask : UInt32 := 0xF0000000

def payloadSizeMask : UInt32 := 0x0FFFFFFF

def payloadTypeShift : UInt32 := 28

def payloadSizeShift : UInt32 := 0

def packedHeaderSize : Nat := 4

def maxPayloadSize : Nat := payloadSizeMask.toNat

/-- The packed header that the constructor from a type and a size makes. -/
def pack (payloadType : PayloadType) (payloadSize : UInt64) : UInt32 :=
  ((payloadSize <<< payloadSizeShift.toUInt64) &&& payloadSizeMask.toUInt64).toUInt32 |||
    ((payloadType.toUInt32 <<< payloadTypeShift) &&& payloadTypeMask)

/-- `getPayloadType` of the header made from a packed one, as the value of the enumerator. -/
def payloadType (packedHeader : UInt32) : UInt32 :=
  (packedHeader &&& payloadTypeMask) >>> payloadTypeShift

/-- `getPayloadSize` of the header made from a packed one. -/
def payloadSize (packedHeader : UInt32) : UInt32 :=
  (packedHeader &&& payloadSizeMask) >>> payloadSizeShift

/-- The packed header in memory. -/
def toBytes (payloadType : PayloadType) (payloadSize : Nat) : Bytes :=
  leBytes packedHeaderSize (pack payloadType payloadSize.toUInt64).toNat

variable (t : PayloadType)

@[simp] theorem length_toBytes (n : Nat) : (toBytes t n).length = 4 :=
  length_leBytes _ _

theorem maxPayloadSize_eq : maxPayloadSize = 2 ^ 28 - 1 := by decide

variable {n : Nat}

theorem toNat_sizePart (hn : n ≤ maxPayloadSize) :
    ((n.toUInt64 <<< payloadSizeShift.toUInt64) &&& payloadSizeMask.toUInt64).toUInt32.toNat = n := by
  rw [maxPayloadSize_eq] at hn
  have h64 : n.toUInt64.toNat = n := by
    show n % 2 ^ 64 = n
    exact Nat.mod_eq_of_lt (by omega)
  have hshift : n.toUInt64 <<< payloadSizeShift.toUInt64 = n.toUInt64 := UInt64.shiftLeft_zero
  rw [hshift, UInt64.toNat_toUInt32, UInt64.toNat_and, h64]
  show (n &&& (2 ^ 28 - 1)) % 2 ^ 32 = n
  rw [Nat.and_two_pow_sub_one_eq_mod]
  omega

theorem toNat_typePart : ((t.toUInt32 <<< payloadTypeShift) &&& payloadTypeMask).toNat = t.toUInt32.toNat <<< 28 := by
  cases t <;> decide

theorem toNat_pack (hn : n ≤ maxPayloadSize) : (pack t n.toUInt64).toNat = t.toUInt32.toNat <<< 28 + n := by
  have hlt : n < 2 ^ 28 := by rw [maxPayloadSize_eq] at hn; omega
  rw [pack, UInt32.toNat_or, toNat_sizePart hn, toNat_typePart, Nat.or_comm, Nat.shiftLeft_add_eq_or_of_lt hlt]

/-- **The type is read back.** -/
theorem payloadType_pack (hn : n ≤ maxPayloadSize) : payloadType (pack t n.toUInt64) = t.toUInt32 := by
  have hlt : n < 2 ^ 28 := by rw [maxPayloadSize_eq] at hn; omega
  refine UInt32.toNat_inj.mp ?_
  rw [payloadType, UInt32.toNat_shiftRight, UInt32.toNat_and, toNat_pack t hn]
  show ((t.toUInt32.toNat <<< 28 + n) &&& 0xF0000000) >>> 28 = _
  have hdiv : (t.toUInt32.toNat <<< 28 + n) >>> 28 = t.toUInt32.toNat := by
    rw [Nat.shiftRight_eq_div_pow, Nat.shiftLeft_eq]
    omega
  rw [Nat.shiftRight_and_distrib, hdiv]
  cases t <;> decide

/-- **The size is read back.** -/
theorem payloadSize_pack (hn : n ≤ maxPayloadSize) : (payloadSize (pack t n.toUInt64)).toNat = n := by
  have hlt : n < 2 ^ 28 := by rw [maxPayloadSize_eq] at hn; omega
  have hshift : ∀ x : UInt32, x >>> payloadSizeShift = x := fun x => UInt32.shiftRight_zero
  rw [payloadSize, hshift, UInt32.toNat_and, toNat_pack t hn]
  show (t.toUInt32.toNat <<< 28 + n) &&& (2 ^ 28 - 1) = n
  rw [Nat.and_two_pow_sub_one_eq_mod, Nat.shiftLeft_eq]
  omega

/-- The packed header that four bytes of memory hold. -/
def ofBytes (bs : Bytes) : UInt32 := (leNat bs).toUInt32

theorem ofBytes_toBytes (n : Nat) : ofBytes (toBytes t n) = pack t n.toUInt64 := by
  have hlt : (pack t n.toUInt64).toNat < 256 ^ 4 := UInt32.toNat_lt _
  rw [ofBytes, toBytes, packedHeaderSize, leNat_leBytes 4 _ hlt]
  exact UInt32.ofNat_toNat

end TransportHeader

end OpenDaq.NativeStreaming
