import Mathlib.Data.UInt

/-!
# Numbers in memory

A number that is copied byte by byte out of memory and back on a little-endian machine. `leBytes`
gives the `n` lowest bytes of a number, lowest first, and `leNat` reads a list of bytes.
-/

namespace OpenDaq.Infra

abbrev Bytes := List UInt8

/-- The `n` lowest bytes of `v`. -/
def leBytes : Nat → Nat → Bytes
  | 0, _ => []
  | n + 1, v => UInt8.ofNat v :: leBytes n (v / 256)

/-- The number in a list of bytes. -/
def leNat : Bytes → Nat
  | [] => 0
  | b :: rest => b.toNat + 256 * leNat rest

@[simp] theorem length_leBytes : ∀ n v : Nat, (leBytes n v).length = n
  | 0, _ => rfl
  | n + 1, v => by rw [leBytes, List.length_cons, length_leBytes n]

/-- **A number that fits is read back.** -/
theorem leNat_leBytes : ∀ n v : Nat, v < 256 ^ n → leNat (leBytes n v) = v
  | 0, v, h => by
    have : v = 0 := by simpa using h
    rw [this]
    rfl
  | n + 1, v, h => by
    have hdiv : v / 256 < 256 ^ n := Nat.div_lt_of_lt_mul (by rwa [← Nat.pow_succ'])
    have hmod : (UInt8.ofNat v).toNat = v % 256 := by simp
    rw [leBytes, leNat, leNat_leBytes n _ hdiv, hmod]
    exact Nat.mod_add_div v 256

end OpenDaq.Infra
