import Mathlib.Data.List.Nodup
import Mathlib.Logic.Relation
import Mathlib.Order.Basic

/-!
# Ordered forests

A forest is what a recursion over waiting entries walks through: the entries that wait for one key,
each with those that wait for its own label, and so on. The tree structure comes from a table that
gives the entries waiting for a key (`Unfolds`), and every entry knows the one key it waits for.
-/

namespace OpenDaq.Infra

/-- The first tree of a forest by its root and its children, and then the other trees. -/
inductive Forest (α : Type) where
  | nil
  | cons (a : α) (children siblings : Forest α)

namespace Forest

variable {α β : Type}

/-- The entries of a forest, each before its children. -/
def values : Forest α → List α
  | nil => []
  | cons a children siblings => a :: (children.values ++ siblings.values)

/-- The number of levels. -/
def depth : Forest α → Nat
  | nil => 0
  | cons _ children siblings => max (children.depth + 1) siblings.depth

theorem depth_le_length : ∀ f : Forest α, f.depth ≤ f.values.length
  | nil => Nat.le_refl 0
  | cons a children siblings => by
    have hc := depth_le_length children
    have hs := depth_le_length siblings
    simp only [depth, values, List.length_cons, List.length_append]
    omega

/-- The forest over `xs` in which the children of an entry are the row of its label. -/
def Unfolds (row : β → List α) (label : α → β) : Forest α → List α → Prop
  | nil, xs => xs = []
  | cons a children siblings, xs =>
    ∃ rest, xs = a :: rest ∧ children.Unfolds row label (row (label a)) ∧
      siblings.Unfolds row label rest

variable {row : β → List α} {label : α → β}

/-- **A table unfolds** when the entries of a row are smaller than the entry the row belongs to. -/
theorem exists_unfolds (m : α → Nat) (hm : ∀ a, ∀ b ∈ row (label a), m b < m a) :
    ∀ (n : Nat) (xs : List α), (∀ a ∈ xs, m a < n) → ∃ f, Unfolds row label f xs
  | _, [], _ => ⟨nil, rfl⟩
  | n, a :: rest, h => by
    have ha := h a List.mem_cons_self
    obtain ⟨siblings, hs⟩ := exists_unfolds m hm n rest fun b hb => h b (List.mem_cons_of_mem _ hb)
    cases n with
    | zero => exact absurd ha (Nat.not_lt_zero _)
    | succ n =>
      obtain ⟨children, hc⟩ := exists_unfolds m hm n (row (label a)) fun b hb => by
        have := hm a b hb
        omega
      exact ⟨cons a children siblings, rest, rfl, hc, hs⟩
  termination_by n xs => (n, xs.length)

namespace Unfolds

theorem mem_values : ∀ {f : Forest α} {xs : List α}, Unfolds row label f xs → ∀ a ∈ xs, a ∈ f.values
  | nil, _, h, a, ha => by
    obtain rfl : _ = [] := h
    simp at ha
  | cons b children siblings, _, ⟨rest, rfl, _, hs⟩, a, ha => by
    rcases List.mem_cons.mp ha with rfl | ha
    · exact List.mem_cons_self
    · exact List.mem_cons_of_mem _ (List.mem_append_right _ (hs.mem_values a ha))

/-- **The row of an entry is in the forest.** -/
theorem mem_closed : ∀ {f : Forest α} {xs : List α}, Unfolds row label f xs →
    ∀ a ∈ f.values, ∀ b ∈ row (label a), b ∈ f.values
  | nil, _, _, a, ha, _, _ => by simp [values] at ha
  | cons c children siblings, _, ⟨rest, rfl, hc, hs⟩, a, ha, b, hb => by
    simp only [values, List.mem_cons, List.mem_append] at ha ⊢
    rcases ha with rfl | ha | ha
    · exact Or.inr (Or.inl (hc.mem_values b hb))
    · exact Or.inr (Or.inl (hc.mem_closed a ha b hb))
    · exact Or.inr (Or.inr (hs.mem_closed a ha b hb))

/-- **An entry is a root or in the row of another entry.** -/
theorem mem_parent : ∀ {f : Forest α} {xs : List α}, Unfolds row label f xs →
    ∀ a ∈ f.values, a ∈ xs ∨ ∃ b ∈ f.values, a ∈ row (label b)
  | nil, _, _, a, ha => by simp [values] at ha
  | cons c children siblings, _, ⟨rest, rfl, hc, hs⟩, a, ha => by
    simp only [values, List.mem_cons, List.mem_append] at ha ⊢
    rcases ha with rfl | ha | ha
    · exact Or.inl (Or.inl rfl)
    · rcases hc.mem_parent a ha with hroot | ⟨b, hb, hab⟩
      · exact Or.inr ⟨c, Or.inl rfl, hroot⟩
      · exact Or.inr ⟨b, Or.inr (Or.inl hb), hab⟩
    · rcases hs.mem_parent a ha with hroot | ⟨b, hb, hab⟩
      · exact Or.inl (Or.inr hroot)
      · exact Or.inr ⟨b, Or.inr (Or.inr hb), hab⟩

theorem congr {row' : β → List α} : ∀ {f : Forest α} {xs : List α}, Unfolds row label f xs →
    (∀ a ∈ f.values, row' (label a) = row (label a)) → Unfolds row' label f xs
  | nil, _, h, _ => h
  | cons c children siblings, _, ⟨rest, heq, hc, hs⟩, hrow => by
    refine ⟨rest, heq, ?_, ?_⟩
    · rw [hrow c List.mem_cons_self]
      exact hc.congr fun a ha => hrow a (List.mem_cons_of_mem _ (List.mem_append_left _ ha))
    · exact hs.congr fun a ha => hrow a (List.mem_cons_of_mem _ (List.mem_append_right _ ha))

/-- **Induction over a forest**, from the roots and from an entry to its row. -/
theorem forall_of_row {P : α → Prop} (hrow : ∀ a, P a → ∀ b ∈ row (label a), P b) :
    ∀ {f : Forest α} {xs : List α}, Unfolds row label f xs → (∀ a ∈ xs, P a) → ∀ a ∈ f.values, P a
  | nil, _, _, _, a, ha => by simp [values] at ha
  | cons c children siblings, _, ⟨rest, rfl, hc, hs⟩, hroot, a, ha => by
    simp only [values, List.mem_cons, List.mem_append] at ha
    rcases ha with rfl | ha | ha
    · exact hroot a List.mem_cons_self
    · exact forall_of_row hrow hc (hrow c (hroot c List.mem_cons_self)) a ha
    · exact forall_of_row hrow hs (fun b hb => hroot b (List.mem_cons_of_mem _ hb)) a ha

/-! ## Labels -/

variable {parent : β → Option β}

/-- A step from an entry to the one it waits for. -/
abbrev Up (parent : β → Option β) (x y : β) : Prop := parent x = some y

theorem up_root : ∀ {f : Forest α} {xs : List α}, Unfolds row label f xs →
    (∀ k, ∀ a ∈ row k, parent (label a) = some k) →
    ∀ a ∈ f.values, ∃ r ∈ xs, Relation.ReflTransGen (Up parent) (label a) (label r)
  | nil, _, _, _, a, ha => by simp [values] at ha
  | cons c children siblings, _, ⟨rest, rfl, hc, hs⟩, hp, a, ha => by
    simp only [values, List.mem_cons, List.mem_append] at ha
    rcases ha with rfl | ha | ha
    · exact ⟨a, List.mem_cons_self, .refl⟩
    · obtain ⟨r, hr, hup⟩ := hc.up_root hp a ha
      exact ⟨c, List.mem_cons_self, hup.tail (hp _ r hr)⟩
    · obtain ⟨r, hr, hup⟩ := hs.up_root hp a ha
      exact ⟨r, List.mem_cons_of_mem _ hr, hup⟩

variable [Preorder β]

theorem le_of_up (hlt : ∀ x y, parent x = some y → y < x) {x y : β}
    (h : Relation.ReflTransGen (Up parent) x y) : y ≤ x := by
  induction h with
  | refl => exact le_rfl
  | tail _ hstep ih => exact (hlt _ _ hstep).le.trans ih

theorem eq_of_up_siblings (hlt : ∀ x y, parent x = some y → y < x) {u v p : β}
    (hu : parent u = some p) (hv : parent v = some p) (h : Relation.ReflTransGen (Up parent) u v) : u = v := by
  rcases h.cases_head with heq | ⟨w, huw, hwv⟩
  · exact heq
  · obtain rfl : p = w := Option.some.inj (hu.symm.trans huw)
    have hle := le_of_up hlt hwv
    exact absurd (hlt _ _ hv) (not_lt_of_ge hle)

/-- **No label occurs twice** when the labels of every row are distinct. -/
theorem nodup_labels (hp : ∀ k, ∀ a ∈ row k, parent (label a) = some k)
    (hlt : ∀ x y, parent x = some y → y < x) (hrow : ∀ k, ((row k).map label).Nodup) {p : β} :
    ∀ {f : Forest α} {xs : List α}, Unfolds row label f xs →
    (∀ a ∈ xs, parent (label a) = some p) → (xs.map label).Nodup → (f.values.map label).Nodup
  | nil, _, _, _, _ => List.nodup_nil
  | cons c children siblings, _, ⟨rest, rfl, hc, hs⟩, hxs, hnd => by
    rw [List.map_cons, List.nodup_cons] at hnd
    have hcp : parent (label c) = some p := hxs c List.mem_cons_self
    have hrest : ∀ a ∈ rest, parent (label a) = some p :=
      fun a ha => hxs a (List.mem_cons_of_mem _ ha)
    have hdc : (children.values.map label).Nodup := nodup_labels hp hlt hrow hc (hp (label c)) (hrow (label c))
    have hds : (siblings.values.map label).Nodup := nodup_labels hp hlt hrow hs hrest hnd.2
    -- What leads up to `c` does not lead up to a sibling of it.
    have hapart : ∀ x r, r ∈ rest → Relation.ReflTransGen (Up parent) x (label c) →
        ¬ Relation.ReflTransGen (Up parent) x (label r) := by
      intro x r hr hxc hxr
      have hne : label c ≠ label r := fun he => hnd.1 (he ▸ List.mem_map_of_mem hr)
      have huniq : Relator.RightUnique (Up parent) := fun _ _ _ h1 h2 =>
        Option.some.inj (h1.symm.trans h2)
      rcases Relation.ReflTransGen.total_of_right_unique huniq hxc hxr with h | h
      · exact hne (eq_of_up_siblings hlt hcp (hrest r hr) h)
      · exact hne (eq_of_up_siblings hlt (hrest r hr) hcp h).symm
    have hbelow : ∀ a ∈ children.values, Relation.TransGen (Up parent) (label a) (label c) := by
      intro a ha
      obtain ⟨r, hr, hup⟩ := hc.up_root hp a ha
      exact Relation.TransGen.tail' hup (hp _ r hr)
    have habove : ∀ a ∈ siblings.values, ∃ r ∈ rest,
        Relation.ReflTransGen (Up parent) (label a) (label r) := hs.up_root hp
    simp only [values, List.map_cons, List.map_append, List.nodup_cons, List.mem_append, List.nodup_append]
    refine ⟨?_, hdc, hds, ?_⟩
    · rintro (hmem | hmem)
      · obtain ⟨a, ha, heq⟩ := List.mem_map.mp hmem
        obtain ⟨y, hay, hyc⟩ := Relation.TransGen.head'_iff.mp (hbelow a ha)
        have hle := le_of_up hlt hyc
        exact absurd (hlt _ _ hay) (not_lt_of_ge (heq ▸ hle))
      · obtain ⟨a, ha, heq⟩ := List.mem_map.mp hmem
        obtain ⟨r, hr, hup⟩ := habove a ha
        exact hapart (label a) r hr (heq ▸ .refl) hup
    · intro x hx y hy hxy
      obtain ⟨a, ha, rfl⟩ := List.mem_map.mp hx
      obtain ⟨b, hb, rfl⟩ := List.mem_map.mp hy
      obtain ⟨r, hr, hup⟩ := habove b hb
      exact hapart (label b) r hr (hxy ▸ (hbelow a ha).to_reflTransGen) hup

end Unfolds

end Forest

end OpenDaq.Infra
