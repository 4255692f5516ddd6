import Mathlib.Order.Lattice
import Mathlib.Order.Monotone.Basic
import OpenDaq.Infra.StepFunction

/-!
# Maps in the order of their keys

`std::map` as the list of its entries in the order of the keys. Such a map is read as a step function when
a key is a point of a line: what holds at a point is the value of the last entry up to it.
-/

namespace OpenDaq.Infra

variable {κ α : Type} [LinearOrder κ]

/-- The entries of a map, each key once. -/
structure SortedMap (κ α : Type) [LinearOrder κ] where
  entries : List (κ × α)
  sorted : entries.Pairwise fun e e' => e.1 < e'.1

/-- Puts an entry where its key belongs, in the place of one with the same key. -/
def insertEntry (k : κ) (v : α) : List (κ × α) → List (κ × α)
  | [] => [(k, v)]
  | e :: rest =>
    if k < e.1 then (k, v) :: e :: rest
    else if k = e.1 then (k, v) :: rest
    else e :: insertEntry k v rest

variable {e : κ × α}

theorem mem_insertEntry {k : κ} {v : α} :
    ∀ {l : List (κ × α)}, l.Pairwise (fun e e' => e.1 < e'.1) →
      (e ∈ insertEntry k v l ↔ e = (k, v) ∨ e ∈ l ∧ e.1 ≠ k)
  | [], _ => by simp [insertEntry]
  | d :: rest, h => by
    have hrest := List.pairwise_cons.1 h
    unfold insertEntry
    by_cases hless : k < d.1
    · rw [if_pos hless, List.mem_cons]
      refine or_congr_right ⟨fun hmem => ⟨hmem, ?_⟩, And.left⟩
      rcases List.mem_cons.1 hmem with rfl | hmem
      · exact ne_of_gt hless
      · exact ne_of_gt (lt_trans hless (hrest.1 e hmem))
    rw [if_neg hless]
    by_cases heq : k = d.1
    · rw [if_pos heq, List.mem_cons, List.mem_cons]
      refine or_congr_right ⟨fun hmem => ⟨Or.inr hmem, ?_⟩, ?_⟩
      · rw [heq]
        exact ne_of_gt (hrest.1 e hmem)
      · rintro ⟨rfl | hmem, hne⟩
        · exact absurd heq.symm hne
        · exact hmem
    · rw [if_neg heq, List.mem_cons, List.mem_cons, mem_insertEntry hrest.2]
      constructor
      · rintro (rfl | rfl | ⟨hmem, hne⟩)
        · exact Or.inr ⟨Or.inl rfl, fun h => heq h.symm⟩
        · exact Or.inl rfl
        · exact Or.inr ⟨Or.inr hmem, hne⟩
      · rintro (rfl | ⟨rfl | hmem, hne⟩)
        · exact Or.inr (Or.inl rfl)
        · exact Or.inl rfl
        · exact Or.inr (Or.inr ⟨hmem, hne⟩)

theorem insertEntry_sorted (k : κ) (v : α) :
    ∀ {l : List (κ × α)}, l.Pairwise (fun e e' => e.1 < e'.1) →
      (insertEntry k v l).Pairwise fun e e' => e.1 < e'.1
  | [], _ => List.pairwise_singleton _ _
  | d :: rest, h => by
    have hrest := List.pairwise_cons.1 h
    unfold insertEntry
    by_cases hless : k < d.1
    · rw [if_pos hless]
      refine List.pairwise_cons.2 ⟨fun e he => ?_, h⟩
      rcases List.mem_cons.1 he with rfl | he
      · exact hless
      · exact lt_trans hless (hrest.1 e he)
    rw [if_neg hless]
    by_cases heq : k = d.1
    · rw [if_pos heq]
      exact List.pairwise_cons.2 ⟨fun e he => heq ▸ hrest.1 e he, hrest.2⟩
    · rw [if_neg heq]
      refine List.pairwise_cons.2 ⟨fun e he => ?_, insertEntry_sorted k v hrest.2⟩
      rcases (mem_insertEntry hrest.2).1 he with rfl | ⟨he, -⟩
      · exact lt_of_le_of_ne (not_lt.1 hless) (Ne.symm heq)
      · exact hrest.1 e he

namespace SortedMap

instance : EmptyCollection (SortedMap κ α) := ⟨⟨[], List.Pairwise.nil⟩⟩

def insertOrAssign (m : SortedMap κ α) (k : κ) (v : α) : SortedMap κ α :=
  ⟨insertEntry k v m.entries, insertEntry_sorted k v m.sorted⟩

/-- `insert_or_assign` of the entries, one after the other. -/
def assignAll (m : SortedMap κ α) (es : List (κ × α)) : SortedMap κ α :=
  es.foldl (fun m e => m.insertOrAssign e.1 e.2) m

/-- `erase` of the entries before the one with this key. -/
def eraseBefore (m : SortedMap κ α) (k : κ) : SortedMap κ α :=
  ⟨m.entries.filter fun e => decide (k ≤ e.1), m.sorted.filter _⟩

/-- The last entry whose key satisfies `p`. -/
def latest (m : SortedMap κ α) (p : κ → Bool) : Option (κ × α) :=
  (m.entries.filter fun e => p e.1).getLast?

variable {m : SortedMap κ α} {p : κ → Bool} {k : κ} {v : α}

theorem mem_insertOrAssign : e ∈ (m.insertOrAssign k v).entries ↔ e = (k, v) ∨ e ∈ m.entries ∧ e.1 ≠ k :=
  mem_insertEntry m.sorted

theorem mem_keys_insertOrAssign {k' : κ} : k' ∈ (m.insertOrAssign k v).entries.map Prod.fst ↔
    k' = k ∨ k' ∈ m.entries.map Prod.fst := by
  simp only [List.mem_map, mem_insertOrAssign]
  constructor
  · rintro ⟨e, rfl | ⟨he, -⟩, rfl⟩
    · exact Or.inl rfl
    · exact Or.inr ⟨e, he, rfl⟩
  · rintro (rfl | ⟨e, he, rfl⟩)
    · exact ⟨_, Or.inl rfl, rfl⟩
    · by_cases hkey : e.1 = k
      · exact ⟨_, Or.inl rfl, hkey.symm⟩
      · exact ⟨e, Or.inr ⟨he, hkey⟩, rfl⟩

theorem latest_eq_none : m.latest p = none ↔ ∀ e ∈ m.entries, p e.1 = false := by
  unfold latest
  rw [List.getLast?_eq_none_iff, List.filter_eq_nil_iff]
  simp

theorem latest_eq_some :
    m.latest p = some e ↔ e ∈ m.entries ∧ p e.1 = true ∧ ∀ d ∈ m.entries, p d.1 = true → d.1 < e.1 ∨ d = e := by
  have hsorted := m.sorted.filter fun e => p e.1
  unfold latest
  constructor
  · intro h
    obtain ⟨before, hfilter⟩ := List.getLast?_eq_some_iff.1 h
    have hmem : e ∈ m.entries.filter fun e => p e.1 := by rw [hfilter]; simp
    refine ⟨(List.mem_filter.1 hmem).1, (List.mem_filter.1 hmem).2, fun d hd hp => ?_⟩
    have hd' : d ∈ m.entries.filter fun e => p e.1 := List.mem_filter.2 ⟨hd, hp⟩
    rw [hfilter, List.mem_append, List.mem_singleton] at hd'
    rw [hfilter] at hsorted
    exact hd'.imp_left fun hbefore => (List.pairwise_append.1 hsorted).2.2 d hbefore e (by simp)
  · rintro ⟨hmem, hp, hlast⟩
    have he : e ∈ m.entries.filter fun e => p e.1 := List.mem_filter.2 ⟨hmem, hp⟩
    cases hlatest : (m.entries.filter fun e => p e.1).getLast? with
    | none => simp [List.getLast?_eq_none_iff.1 hlatest] at he
    | some d =>
      obtain ⟨before, hfilter⟩ := List.getLast?_eq_some_iff.1 hlatest
      have hd : d ∈ m.entries.filter fun e => p e.1 := by rw [hfilter]; simp
      rcases hlast d (List.mem_filter.1 hd).1 (List.mem_filter.1 hd).2 with hless | rfl
      · -- the last entry of the list is not before `e`
        rw [hfilter, List.mem_append, List.mem_singleton] at he
        rw [hfilter] at hsorted
        rcases he with hbefore | rfl
        · exact absurd ((List.pairwise_append.1 hsorted).2.2 e hbefore d (by simp)) (lt_asymm hless)
        · rfl
      · rfl

end SortedMap

/-! ## What is put in -/

/-- The one of two entries with the larger key; the second of two with the same key. -/
def later : Option (κ × α) → Option (κ × α) → Option (κ × α)
  | a, none => a
  | none, some e => some e
  | some d, some e => if d.1 ≤ e.1 then some e else some d

/-- The entry, if its key is let through. -/
def letThrough (p : κ → Bool) (e : κ × α) : Option (κ × α) := if p e.1 then some e else none

namespace SortedMap

variable {m : SortedMap κ α} {p : κ → Bool}

theorem latest_insertOrAssign (m : SortedMap κ α) (p : κ → Bool) (k : κ) (v : α) :
    (m.insertOrAssign k v).latest p = later (m.latest p) (letThrough p (k, v)) := by
  unfold letThrough
  by_cases hp : p k = true
  · rw [if_pos hp]
    cases hlatest : m.latest p with
    | none =>
      have hnone := latest_eq_none.1 hlatest
      refine latest_eq_some.2 ⟨mem_insertOrAssign.2 (Or.inl rfl), hp, fun d hd hpd => ?_⟩
      rcases mem_insertOrAssign.1 hd with rfl | ⟨hd, -⟩
      · exact Or.inr rfl
      · exact absurd (hnone d hd) (by simp [hpd])
    | some e =>
      obtain ⟨he, hpe, hlast⟩ := latest_eq_some.1 hlatest
      unfold later
      dsimp only
      by_cases hle : e.1 ≤ k
      · rw [if_pos hle]
        refine latest_eq_some.2 ⟨mem_insertOrAssign.2 (Or.inl rfl), hp, fun d hd hpd => ?_⟩
        rcases mem_insertOrAssign.1 hd with rfl | ⟨hd, hne⟩
        · exact Or.inr rfl
        · refine Or.inl (lt_of_le_of_ne ?_ hne)
          rcases hlast d hd hpd with hless | rfl
          · exact le_trans (le_of_lt hless) hle
          · exact hle
      · rw [if_neg hle]
        have hless : k < e.1 := not_le.1 hle
        refine latest_eq_some.2 ⟨mem_insertOrAssign.2 (Or.inr ⟨he, ne_of_gt hless⟩), hpe, fun d hd hpd => ?_⟩
        rcases mem_insertOrAssign.1 hd with rfl | ⟨hd, -⟩
        · exact Or.inl hless
        · exact hlast d hd hpd
  · rw [if_neg hp]
    have hsame : ∀ d, d ∈ (m.insertOrAssign k v).entries ∧ p d.1 = true ↔ d ∈ m.entries ∧ p d.1 = true := by
      intro d
      rw [mem_insertOrAssign]
      constructor
      · rintro ⟨rfl | ⟨hd, -⟩, hpd⟩
        · exact absurd hpd hp
        · exact ⟨hd, hpd⟩
      · rintro ⟨hd, hpd⟩
        exact ⟨Or.inr ⟨hd, by rintro rfl; exact hp hpd⟩, hpd⟩
    unfold later
    cases hlatest : m.latest p with
    | none =>
      refine latest_eq_none.2 fun d hd => ?_
      by_contra hpd
      rw [Bool.not_eq_false] at hpd
      have hnone := latest_eq_none.1 hlatest d ((hsame d).1 ⟨hd, hpd⟩).1
      simp [hpd] at hnone
    | some e =>
      obtain ⟨he, hpe, hlast⟩ := latest_eq_some.1 hlatest
      obtain ⟨he', -⟩ := (hsame e).2 ⟨he, hpe⟩
      exact latest_eq_some.2 ⟨he', hpe, fun d hd hpd => hlast d ((hsame d).1 ⟨hd, hpd⟩).1 hpd⟩

theorem latest_assignAll (p : κ → Bool) : ∀ (es : List (κ × α)) (m : SortedMap κ α),
    (m.assignAll es).latest p = es.foldl (fun a e => later a (letThrough p e)) (m.latest p)
  | [], _ => rfl
  | e :: es, m => by
    rw [assignAll, List.foldl_cons, List.foldl_cons, ← latest_insertOrAssign]
    exact latest_assignAll p es (m.insertOrAssign e.1 e.2)

theorem mem_assignAll : ∀ {es : List (κ × α)} {m : SortedMap κ α}, e ∈ (m.assignAll es).entries → e ∈ m.entries ∨ e ∈ es
  | [], _, h => Or.inl h
  | d :: es, m, h => by
    rw [assignAll, List.foldl_cons] at h
    rcases mem_assignAll h with h | h
    · rcases mem_insertOrAssign.1 h with rfl | ⟨h, -⟩
      · exact Or.inr List.mem_cons_self
      · exact Or.inl h
    · exact Or.inr (List.mem_cons_of_mem _ h)

theorem mem_eraseBefore {k : κ} : e ∈ (m.eraseBefore k).entries ↔ e ∈ m.entries ∧ k ≤ e.1 := by
  unfold eraseBefore
  rw [List.mem_filter, decide_eq_true_iff]

theorem latest_eraseBefore {k : κ} (h : m.latest p = some e) (hk : k ≤ e.1) : (m.eraseBefore k).latest p = some e := by
  obtain ⟨he, hpe, hlast⟩ := latest_eq_some.1 h
  exact latest_eq_some.2 ⟨mem_eraseBefore.2 ⟨he, hk⟩, hpe,
    fun d hd hpd => hlast d (mem_eraseBefore.1 hd).1 hpd⟩

theorem latest_congr {q : κ → Bool} (h : ∀ e ∈ m.entries, p e.1 = q e.1) : m.latest p = m.latest q := by
  unfold latest
  rw [List.filter_congr h]

omit [LinearOrder κ] in
/-- From an entry on, the last entry that is let through shows the step function of those behind it. -/
theorem getLast?_filter_cons {counts : Nat → Bool} {pos : κ → Nat} : ∀ (es : List (κ × α)) (e : κ × α),
    p e.1 = true → (∀ d ∈ es, counts (pos d.1) = p d.1) →
      (((e :: es).filter fun d => p d.1).getLast?).map Prod.snd =
        some (held counts e.2 (es.map fun d => (pos d.1, d.2)))
  | [], e, he, _ => by simp [he]
  | d :: es, e, he, h => by
    have hd := h d List.mem_cons_self
    rw [List.map_cons, held_cons, hd]
    by_cases hpd : p d.1 = true
    · rw [if_pos hpd, ← getLast?_filter_cons es d hpd fun d' hd' => h d' (List.mem_cons_of_mem _ hd')]
      rw [List.filter_cons_of_pos (by simpa using he), List.filter_cons_of_pos (by simpa using hpd),
        List.getLast?_cons_cons]
    · rw [if_neg hpd, ← getLast?_filter_cons es e he fun d' hd' => h d' (List.mem_cons_of_mem _ hd')]
      rw [List.filter_cons_of_pos (by simpa using he), List.filter_cons_of_neg (by simpa using hpd),
        List.filter_cons_of_pos (by simpa using he)]

theorem entries_eq_append (h : e ∈ m.entries) :
    ∃ before, m.entries = before ++ e :: m.entries.dropWhile (fun d => decide (d.1 ≤ e.1)) ∧
      ∀ d ∈ before, d.1 < e.1 := by
  obtain ⟨before, after, heq⟩ := List.append_of_mem h
  have hsorted := m.sorted
  rw [heq] at hsorted ⊢
  have hbefore : ∀ d ∈ before, d.1 < e.1 := fun d hd =>
    (List.pairwise_append.1 hsorted).2.2 d hd e List.mem_cons_self
  have hafter := (List.pairwise_cons.1 (List.pairwise_append.1 hsorted).2.1).1
  refine ⟨before, ?_, hbefore⟩
  rw [List.dropWhile_append_of_pos (fun d hd => by simpa using le_of_lt (hbefore d hd)),
    List.dropWhile_cons_of_pos (by simp)]
  cases after with
  | nil => rfl
  | cons d after => rw [List.dropWhile_cons_of_neg (by simpa using hafter d List.mem_cons_self)]

theorem latest_map_snd {first : κ → Bool} (counts : Nat → Bool) (pos : κ → Nat)
    (he : m.latest first = some e) (hp : p e.1 = true)
    (hcounts : ∀ d ∈ m.entries, e.1 < d.1 → counts (pos d.1) = p d.1) :
    (m.latest p).map Prod.snd = some (held counts e.2
      ((m.entries.dropWhile fun d => decide (d.1 ≤ e.1)).map fun d => (pos d.1, d.2))) := by
  obtain ⟨hmem, -⟩ := latest_eq_some.1 he
  obtain ⟨before, heq, -⟩ := entries_eq_append hmem
  have hsorted := m.sorted
  have hpart : ∀ d ∈ m.entries.dropWhile (fun d => decide (d.1 ≤ e.1)), counts (pos d.1) = p d.1 := by
    intro d hd
    rw [heq] at hsorted
    refine hcounts d (by rw [heq]; simp [hd]) ?_
    exact (List.pairwise_cons.1 (List.pairwise_append.1 hsorted).2.1).1 d hd
  rw [← getLast?_filter_cons _ e hp hpart]
  unfold latest
  conv_lhs => rw [heq, List.filter_append]
  rw [List.getLast?_append_of_ne_nil]
  rw [List.filter_cons_of_pos (by simpa using hp)]
  exact List.cons_ne_nil _ _

end SortedMap

theorem exists_foldl_later {p : κ → Bool} {key : Nat → κ} (hkey : StrictMono key) :
    ∀ (changes : List (Nat × α)) (e : κ × α), changes.Pairwise (fun c c' => c.1 ≤ c'.1) →
      (∀ c ∈ changes, e.1 ≤ key c.1) →
      ∃ k, (changes.map fun c => (key c.1, c.2)).foldl (fun a e => later a (letThrough p e)) (some e) =
        some (k, held (fun i => p (key i)) e.2 changes) ∧ (k = e.1 ∨ ∃ c ∈ changes, k = key c.1)
  | [], e, _, _ => ⟨e.1, rfl, Or.inl rfl⟩
  | c :: changes, e, hsorted, hle => by
    have hrest := List.pairwise_cons.1 hsorted
    rw [List.map_cons, List.foldl_cons, held_cons]
    have hc := hle c List.mem_cons_self
    by_cases hp : p (key c.1) = true
    · have hlater : later (some e) (letThrough p (key c.1, c.2)) = some (key c.1, c.2) := by
        unfold letThrough later
        rw [if_pos hp]
        exact if_pos hc
      rw [hlater, if_pos hp]
      obtain ⟨k, hfold, hk⟩ := exists_foldl_later hkey changes (key c.1, c.2) hrest.2
        fun c' hc' => hkey.monotone (hrest.1 c' hc')
      refine ⟨k, hfold, Or.inr ?_⟩
      rcases hk with rfl | ⟨c', hc', rfl⟩
      · exact ⟨c, List.mem_cons_self, rfl⟩
      · exact ⟨c', List.mem_cons_of_mem _ hc', rfl⟩
    · have hlater : later (some e) (letThrough p (key c.1, c.2)) = some e := by
        unfold letThrough later
        rw [if_neg hp]
      rw [hlater, if_neg hp]
      obtain ⟨k, hfold, hk⟩ := exists_foldl_later hkey changes e hrest.2
        fun c' hc' => hle c' (List.mem_cons_of_mem _ hc')
      exact ⟨k, hfold, hk.imp_right fun ⟨c', hc', h⟩ => ⟨c', List.mem_cons_of_mem _ hc', h⟩⟩

end OpenDaq.Infra
