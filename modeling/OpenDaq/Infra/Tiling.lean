import Mathlib.Data.List.Basic

/-!
# Tilings of an interval

`Tiles pos size a xs z` says that the pieces `xs`, each `size x > 0` long and starting at `pos x`,
lie one after the other and fill the interval from `a` to `z`. An allocator that keeps its blocks
in address order is described this way.
-/

namespace OpenDaq.Infra

variable {β : Type} {pos size : β → Nat}

/-- The pieces `xs` fill the interval from `a` to `z` in order. -/
def Tiles (pos size : β → Nat) : Nat → List β → Nat → Prop
  | a, [], z => a = z
  | a, x :: rest, z => pos x = a ∧ 0 < size x ∧ Tiles pos size (a + size x) rest z

namespace Tiles

theorem append_iff : ∀ {xs ys : List β} {a z : Nat},
    Tiles pos size a (xs ++ ys) z ↔ ∃ m, Tiles pos size a xs m ∧ Tiles pos size m ys z
  | [], ys, a, z => by simp [Tiles]
  | x :: rest, ys, a, z => by
    have ih : Tiles pos size (a + size x) (rest ++ ys) z ↔
        ∃ m, Tiles pos size (a + size x) rest m ∧ Tiles pos size m ys z := append_iff
    simp only [List.cons_append, Tiles, ih]
    constructor
    · rintro ⟨hp, hs, m, h1, h2⟩
      exact ⟨m, ⟨hp, hs, h1⟩, h2⟩
    · rintro ⟨m, ⟨hp, hs, h1⟩, h2⟩
      exact ⟨hp, hs, m, h1, h2⟩

theorem snoc {xs : List β} {a z : Nat} {x : β} (h : Tiles pos size a xs z) (hp : pos x = z)
    (hs : 0 < size x) : Tiles pos size a (xs ++ [x]) (z + size x) :=
  append_iff.mpr ⟨z, h, hp, hs, rfl⟩

theorem le : ∀ {xs : List β} {a z : Nat}, Tiles pos size a xs z → a ≤ z
  | [], _, _, h => Nat.le_of_eq h
  | x :: rest, a, z, h => by
    have := le h.2.2
    omega

theorem eq_nil : ∀ {xs : List β} {a : Nat}, Tiles pos size a xs a → xs = []
  | [], _, _ => rfl
  | x :: rest, a, h => by
    have := le h.2.2
    have := h.2.1
    omega

theorem mem_bounds : ∀ {xs : List β} {a z : Nat}, Tiles pos size a xs z → ∀ {x}, x ∈ xs →
    a ≤ pos x ∧ 0 < size x ∧ pos x + size x ≤ z
  | y :: rest, a, z, h, x, hx => by
    rcases List.mem_cons.mp hx with rfl | hx
    · have hp := h.1
      have := le h.2.2
      exact ⟨Nat.le_of_eq hp.symm, h.2.1, by omega⟩
    · have := mem_bounds h.2.2 hx
      exact ⟨by omega, this.2⟩

theorem pairwise : ∀ {xs : List β} {a z : Nat}, Tiles pos size a xs z → xs.Pairwise (fun x y => pos x + size x ≤ pos y)
  | [], _, _, _ => List.Pairwise.nil
  | x :: rest, a, z, h => by
    refine List.Pairwise.cons (fun y hy => ?_) (pairwise h.2.2)
    rw [h.1]
    exact (mem_bounds h.2.2 hy).1

theorem eq_head {x y : β} {rest : List β} {a z : Nat} (h : Tiles pos size a (x :: rest) z)
    (hy : y ∈ x :: rest) (hp : pos y = a) : y = x := by
  rcases List.mem_cons.mp hy with rfl | hy
  · rfl
  · have := (mem_bounds h.2.2 hy).1
    have := h.2.1
    omega

theorem shift {f : β → β} {d : Nat} (hpos : ∀ x, pos (f x) = pos x - d)
    (hsize : ∀ x, size (f x) = size x) : ∀ {xs : List β} {a z : Nat}, d ≤ a →
    Tiles pos size a xs z → Tiles pos size (a - d) (xs.map f) (z - d)
  | [], a, z, _, h => by
    have h : a = z := h
    exact congrArg (· - d) h
  | x :: rest, a, z, hd, h => by
    refine ⟨by rw [hpos, h.1], by rw [hsize]; exact h.2.1, ?_⟩
    have := shift hpos hsize (by omega) h.2.2
    rwa [hsize, show a - d + size x = a + size x - d by omega]

end Tiles

end OpenDaq.Infra
