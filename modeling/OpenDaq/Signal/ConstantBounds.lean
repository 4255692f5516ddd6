import OpenDaq.Infra.While
import Mathlib.Data.List.Range
import Mathlib.Tactic.Ring

/-!
# The memory that a constant rule touches

A packet with a constant rule is a value and then entries, each the index up to which the value before it
holds and the next value. The entries come with the packet and may be anything. This is about what
`DataRuleCalcTyped` reads of these bytes and where it writes.

The loop of `calculateConstantRule` takes from an entry how far it writes.
-/

namespace OpenDaq.ConstantRule

open Infra

/-! ## Memory -/

/-- An access to the input, with its offset and length, or to a value of the output. -/
inductive Access where
  | read (offset : Int) (length : Nat)
  | write (index : Nat)
  deriving DecidableEq, Repr

/-- The exceptions "Memory allocation failed." and "Constant rule data packet must have at least one value". -/
inductive Fault where
  | noMemory
  | invalidParameter
  deriving DecidableEq, Repr

/-- `sizeof(T)`, and how a value is made of bytes. -/
structure ValueType (T : Type) where
  size : Nat
  decode : List UInt8 → T
  zero : T

def bytesAt (input : List UInt8) (offset length : Nat) : List UInt8 := (input.drop offset).take length

/-- A `uint32_t`, the lowest byte first. -/
def uint32At (input : List UInt8) (offset : Nat) : Nat :=
  (bytesAt input offset 4).foldr (fun byte high => byte.toNat + 256 * high) 0

variable {T : Type} (type : ValueType T)

def entrySize : Nat := 4 + type.size

def entryCount (inputSize : Nat) : Nat := (inputSize - type.size) / entrySize type

/-! ## The whole packet -/

/-- The local variables of `calculateConstantRule`, with what was accessed. `entryPtr` is an offset. -/
structure Fill (T : Type) where
  sampleIndex : Nat
  currentEntry : Nat
  entryPtr : Nat
  constant : T
  accesses : List Access

def Fill.start (input : List UInt8) : Fill T where
  sampleIndex := 0
  currentEntry := 0
  entryPtr := type.size
  constant := type.decode (bytesAt input 0 type.size)
  accesses := [.read 0 type.size]

/-- A round of the loop. The inner loop writes from `sampleIndex` up to `upToSamples`. -/
def Fill.round (sampleCount : Nat) (input : List UInt8) (s : Fill T) : Option (Fill T) :=
  if s.sampleIndex < sampleCount then
    let write (upToSamples : Nat) : List Access :=
      (List.range' s.sampleIndex (upToSamples - s.sampleIndex)).map .write
    if s.currentEntry = entryCount type input.length then
      some { sampleIndex := max s.sampleIndex sampleCount
             currentEntry := s.currentEntry + 1
             entryPtr := s.entryPtr
             constant := type.zero
             accesses := s.accesses ++ write sampleCount }
    else
      let upToSamples := uint32At input s.entryPtr
      some { sampleIndex := max s.sampleIndex upToSamples
             currentEntry := s.currentEntry + 1
             entryPtr := s.entryPtr + 4 + type.size
             constant := type.decode (bytesAt input (s.entryPtr + 4) type.size)
             accesses := s.accesses ++ [.read s.entryPtr 4, .read (s.entryPtr + 4 : Nat) type.size] ++
               write upToSamples }
  else none

/-- The number of bytes that are asked of `std::malloc`, a 64-bit product. -/
def allocated (sampleCount : Nat) : Nat := sampleCount * type.size % 2 ^ 64

/-- `calculateConstantRule`, given which sizes `std::malloc` can serve. -/
def calculateConstantRule (malloc : Nat → Bool) (sampleCount : Nat) (input : List UInt8) (rounds : Nat) :
    Option (Except Fault (Fill T)) :=
  if malloc (allocated type sampleCount) = false then some (.error .noMemory)
  else if input.length < type.size then some (.error .invalidParameter)
  else (loop (Fill.round type sampleCount input) rounds (Fill.start type input)).map .ok

/-! ## One sample -/

/-- The local variables of `calculateConstantSample`. -/
structure Search (T : Type) where
  currentSampleIndex : Nat
  currentEntry : Nat
  entryPtr : Nat
  constant : T
  broken : Bool
  accesses : List Access

def Search.start (input : List UInt8) : Search T where
  currentSampleIndex := 0
  currentEntry := 0
  entryPtr := type.size
  constant := type.decode (bytesAt input 0 type.size)
  broken := false
  accesses := [.read 0 type.size]

def Search.round (sampleIndex : Nat) (input : List UInt8) (s : Search T) : Option (Search T) :=
  if s.broken = false ∧ s.currentSampleIndex ≤ sampleIndex then
    if s.currentEntry = entryCount type input.length then
      -- `upToSamples` is the index itself
      some { s with currentEntry := s.currentEntry + 1, broken := true }
    else
      let upToSamples := uint32At input s.entryPtr
      let next : Search T :=
        { s with
          currentEntry := s.currentEntry + 1
          entryPtr := s.entryPtr + 4 + type.size
          accesses := s.accesses ++ [.read s.entryPtr 4, .read (s.entryPtr + 4 : Nat) type.size] }
      if sampleIndex ≤ upToSamples then some { next with broken := true }
      else
        some { next with
          currentSampleIndex := upToSamples
          constant := type.decode (bytesAt input (s.entryPtr + 4) type.size) }
  else none

/-- `calculateConstantSample`: the value and the accesses. -/
def calculateConstantSample (malloc : Nat → Bool) (sampleIndex : Nat) (input : List UInt8) (rounds : Nat) :
    Option (Except Fault (T × List Access)) :=
  if malloc type.size = false then some (.error .noMemory)
  else if input.length < type.size then some (.error .invalidParameter)
  else
    (loop (Search.round type sampleIndex input) rounds (Search.start type input)).map fun s =>
      .ok (s.constant, s.accesses ++ [.write 0])

/-! ## The last sample -/

/-- The local variables of `calculateLastConstantSample`, with the value when it is found. -/
structure Walk (T : Type) where
  i : Nat
  entryPtr : Int
  found : Option T
  accesses : List Access

def Walk.start (input : List UInt8) : Walk T where
  i := entryCount type input.length
  entryPtr := type.size + ((entryCount type input.length : Int) - 1) * entrySize type
  found := none
  accesses := [.read 0 type.size]

def Walk.round (sampleCount : Nat) (input : List UInt8) (s : Walk T) : Option (Walk T) :=
  if s.found.isNone ∧ 0 < s.i then
    let upToSamples := uint32At input s.entryPtr.toNat
    let value := type.decode (bytesAt input (s.entryPtr + 4).toNat type.size)
    let accesses := s.accesses ++ [.read s.entryPtr 4, .read (s.entryPtr + 4) type.size]
    if (sampleCount + (2 ^ 64 - 1)) % 2 ^ 64 > upToSamples then
      some { s with found := some value, accesses }
    else
      some { s with i := s.i - 1, entryPtr := s.entryPtr - entrySize type, accesses }
  else none

/-- `calculateLastConstantSample`, into an output of the caller. -/
def calculateLastConstantSample (sampleCount : Nat) (input : List UInt8) (rounds : Nat) :
    Option (Except Fault (T × List Access)) :=
  if input.length < type.size then some (.error .invalidParameter)
  else
    let initialConstant := type.decode (bytesAt input 0 type.size)
    if entryCount type input.length = 0 then
      some (.ok (initialConstant, [.read 0 type.size, .write 0]))
    else
      (loop (Walk.round type sampleCount input) rounds (Walk.start type input)).map fun s =>
        .ok (s.found.getD initialConstant, s.accesses ++ [.write 0])

/-! ## Staying in bounds -/

/-- An access is inside the input, or inside an output of `count` values for which `bytes` were allocated. -/
def InBounds (inputSize count bytes : Nat) : Access → Prop
  | .read offset length => 0 ≤ offset ∧ offset + length ≤ inputSize
  | .write index => index < count ∧ (index + 1) * type.size ≤ bytes

def Returns {R : Type} (call : (rounds : Nat) → Option (Except Fault R)) (right : R → Prop) : Prop :=
  ∃ rounds result, call rounds = some result ∧ ∀ r, result = .ok r → right r

/-- The three calculations, on a packet of `sampleCount` samples. -/
structure StaysInBounds (malloc : Nat → Bool) (sampleCount : Nat) (input : List UInt8) : Prop where
  rule : Returns (calculateConstantRule type malloc sampleCount input) fun s =>
    ∀ a ∈ s.accesses, InBounds type input.length sampleCount (allocated type sampleCount) a
  sample : ∀ sampleIndex < sampleCount,
    Returns (calculateConstantSample type malloc sampleIndex input) fun r =>
      ∀ a ∈ r.2, InBounds type input.length 1 type.size a
  last : Returns (calculateLastConstantSample type sampleCount input) fun r =>
    ∀ a ∈ r.2, InBounds type input.length 1 type.size a

/-! ## Entries -/

/-- The index of an entry. -/
def upToSamples (input : List UInt8) (i : Nat) : Nat := uint32At input (type.size + i * entrySize type)

theorem entry_le {input : List UInt8} {i : Nat} (hinput : type.size ≤ input.length)
    (hi : i < entryCount type input.length) : type.size + (i + 1) * entrySize type ≤ input.length := by
  have hfits : (i + 1) * entrySize type ≤ input.length - type.size :=
    (Nat.mul_le_mul_right _ hi).trans (Nat.div_mul_le_self _ _)
  omega

theorem inBounds_entry {input : List UInt8} {i offset : Nat} (hinput : type.size ≤ input.length)
    (hi : i < entryCount type input.length) (hoffset : offset = type.size + i * entrySize type) (count bytes : Nat) :
    InBounds type input.length count bytes (.read offset 4) ∧
      InBounds type input.length count bytes (.read (offset + 4 : Nat) type.size) := by
  have hfits := entry_le type hinput hi
  rw [Nat.add_mul, Nat.one_mul] at hfits
  have hsize : entrySize type = 4 + type.size := rfl
  unfold InBounds
  omega

/-! ## The whole packet, round by round -/

/-- What the rounds keep, whatever the entries are. -/
structure Fill.Kept (sampleCount : Nat) (input : List UInt8) (s : Fill T) : Prop where
  entryPtr : s.currentEntry ≤ entryCount type input.length →
    s.entryPtr = type.size + s.currentEntry * entrySize type
  passed : ∀ j < s.currentEntry, j < entryCount type input.length → upToSamples type input j ≤ s.sampleIndex
  reached : s.currentEntry ≤ entryCount type input.length →
    s.sampleIndex = 0 ∨ ∃ j < s.currentEntry, s.sampleIndex = upToSamples type input j
  ended : entryCount type input.length < s.currentEntry → sampleCount ≤ s.sampleIndex
  written : ∀ i < s.sampleIndex, .write i ∈ s.accesses

variable {type} {sampleCount : Nat} {input : List UInt8} {s s' : Fill T}

theorem Fill.kept_start : (Fill.start type input).Kept type sampleCount input where
  entryPtr _ := by simp [Fill.start]
  passed j hj := absurd hj (Nat.not_lt_zero j)
  reached _ := Or.inl rfl
  ended h := absurd h (Nat.not_lt_zero _)
  written i hi := absurd hi (Nat.not_lt_zero i)

theorem mem_writes {start stop i : Nat} :
    Access.write i ∈ (List.range' start (stop - start)).map Access.write ↔ start ≤ i ∧ i < stop := by
  rw [List.mem_map]
  constructor
  · rintro ⟨j, hj, hsame⟩
    obtain rfl := Access.write.inj hsame
    have := List.mem_range'_1.1 hj
    omega
  · intro h
    exact ⟨i, List.mem_range'_1.2 (by omega), rfl⟩

theorem Fill.round_cases (h : s.round type sampleCount input = some s') :
    s.sampleIndex < sampleCount ∧ s'.currentEntry = s.currentEntry + 1 ∧
      ((s.currentEntry = entryCount type input.length ∧ s'.sampleIndex = sampleCount ∧
        s'.accesses = s.accesses ++ (List.range' s.sampleIndex (sampleCount - s.sampleIndex)).map .write) ∨
      (s.currentEntry ≠ entryCount type input.length ∧ s'.entryPtr = s.entryPtr + entrySize type ∧
        s'.sampleIndex = max s.sampleIndex (uint32At input s.entryPtr) ∧
        s'.accesses = s.accesses ++ [.read s.entryPtr 4, .read (s.entryPtr + 4 : Nat) type.size] ++
          (List.range' s.sampleIndex (uint32At input s.entryPtr - s.sampleIndex)).map .write)) := by
  unfold Fill.round at h
  split at h
  · next hmore =>
    refine ⟨hmore, ?_⟩
    split at h
    · next hlast =>
      obtain rfl := Option.some.inj h
      exact ⟨rfl, Or.inl ⟨hlast, Nat.max_eq_right (Nat.le_of_lt hmore), rfl⟩⟩
    · next hentry =>
      obtain rfl := Option.some.inj h
      exact ⟨rfl, Or.inr ⟨hentry, Nat.add_assoc _ _ _, rfl, rfl⟩⟩
  · exact nomatch h

theorem Fill.Kept.round (hs : s.Kept type sampleCount input) (h : s.round type sampleCount input = some s') :
    s'.Kept type sampleCount input ∧ s.currentEntry ≤ entryCount type input.length := by
  obtain ⟨hmore, hcounted, hcase⟩ := Fill.round_cases h
  have hentries : s.currentEntry ≤ entryCount type input.length := by
    by_contra hover
    exact absurd (hs.ended (Nat.lt_of_not_le hover)) (Nat.not_le_of_lt hmore)
  refine ⟨?_, hentries⟩
  rcases hcase with ⟨hlast, hindex, haccesses⟩ | ⟨hentry, hptr, hindex, haccesses⟩
  · constructor
    · intro hle
      omega
    · intro j hj hj'
      rw [hindex]
      have := hs.passed j (by omega) hj'
      omega
    · intro hle
      omega
    · intro _
      omega
    · intro i hi
      rw [haccesses, List.mem_append, mem_writes]
      by_cases hbefore : i < s.sampleIndex
      · exact Or.inl (hs.written i hbefore)
      · exact Or.inr (by omega)
  · have hread : uint32At input s.entryPtr = upToSamples type input s.currentEntry := by
      rw [hs.entryPtr hentries, upToSamples]
    rw [hread] at hindex haccesses
    constructor
    · intro _
      rw [hptr, hs.entryPtr hentries, hcounted, Nat.add_mul, Nat.one_mul, Nat.add_assoc]
    · intro j hj hj'
      rw [hindex]
      rcases Nat.lt_succ_iff_lt_or_eq.1 (hcounted ▸ hj) with hj | rfl
      · exact (hs.passed j hj hj').trans (Nat.le_max_left _ _)
      · exact Nat.le_max_right _ _
    · intro _
      rw [hindex, hcounted]
      rcases Nat.le_total (upToSamples type input s.currentEntry) s.sampleIndex with hle | hle
      · rw [Nat.max_eq_left hle]
        rcases hs.reached hentries with hzero | ⟨j, hj, hsame⟩
        · exact Or.inl hzero
        · exact Or.inr ⟨j, Nat.lt_succ_of_lt hj, hsame⟩
      · rw [Nat.max_eq_right hle]
        exact Or.inr ⟨s.currentEntry, Nat.lt_succ_self _, rfl⟩
    · intro hover
      omega
    · intro i hi
      rw [haccesses, List.mem_append, List.mem_append, mem_writes]
      by_cases hbefore : i < s.sampleIndex
      · exact Or.inl (Or.inl (hs.written i hbefore))
      · refine Or.inr ?_
        omega

theorem Fill.ended {t : Fill T} (h : Ends (Fill.round type sampleCount input) (Fill.start type input) t) :
    t.Kept type sampleCount input ∧ sampleCount ≤ t.sampleIndex := by
  obtain ⟨hkept, hover⟩ := h.invariant (fun s s' hs h => (Fill.Kept.round hs h).1) Fill.kept_start
  refine ⟨hkept, ?_⟩
  by_contra hmore
  unfold Fill.round at hover
  rw [if_pos (Nat.lt_of_not_le hmore)] at hover
  split at hover <;> exact nomatch hover

theorem Fill.ends (type : ValueType T) (sampleCount : Nat) (input : List UInt8) :
    ∃ t, Ends (Fill.round type sampleCount input) (Fill.start type input) t := by
  have hround : ∀ s s' : Fill T, s.Kept type sampleCount input → s.round type sampleCount input = some s' →
      s'.Kept type sampleCount input ∧
        entryCount type input.length + 1 - s'.currentEntry < entryCount type input.length + 1 - s.currentEntry := by
    intro s s' hs h
    obtain ⟨hs', hentries⟩ := hs.round h
    have hcounted := (Fill.round_cases h).2.1
    exact ⟨hs', by omega⟩
  exact ends_of_measure _ (fun s => entryCount type input.length + 1 - s.currentEntry) hround Fill.kept_start

/-! ## The bounds of the whole packet -/

/-- The first entry that comes to the end of the packet does not go beyond it. -/
def Fits (type : ValueType T) (sampleCount : Nat) (input : List UInt8) : Prop :=
  ∀ i < entryCount type input.length, (∀ j < i, upToSamples type input j < sampleCount) →
    upToSamples type input i ≤ sampleCount

/-- The accesses are in bounds, and so is what will be written. -/
def Fill.Safe (type : ValueType T) (sampleCount : Nat) (input : List UInt8) (s : Fill T) : Prop :=
  s.sampleIndex ≤ sampleCount ∧
    ∀ a ∈ s.accesses, InBounds type input.length sampleCount (allocated type sampleCount) a

theorem allocated_of_lt (h : sampleCount * type.size < 2 ^ 64) :
    allocated type sampleCount = sampleCount * type.size := Nat.mod_eq_of_lt h

theorem Fill.Safe.round (hinput : type.size ≤ input.length) (hsize : sampleCount * type.size < 2 ^ 64)
    (hfits : Fits type sampleCount input) (hkept : s.Kept type sampleCount input)
    (hs : s.Safe type sampleCount input) (h : s.round type sampleCount input = some s') :
    s'.Safe type sampleCount input := by
  obtain ⟨hmore, -, hcase⟩ := Fill.round_cases h
  have hentries := (hkept.round h).2
  have hwrites : ∀ stop ≤ sampleCount, ∀ a ∈ (List.range' s.sampleIndex (stop - s.sampleIndex)).map Access.write,
      InBounds type input.length sampleCount (allocated type sampleCount) a := by
    intro stop hstop a ha
    obtain ⟨i, -, rfl⟩ := List.mem_map.1 ha
    have hi := (mem_writes.1 ha).2
    rw [InBounds, allocated_of_lt hsize]
    exact ⟨by omega, Nat.mul_le_mul_right _ (by omega)⟩
  rcases hcase with ⟨-, hindex, haccesses⟩ | ⟨hentry, -, hindex, haccesses⟩
  · refine ⟨hindex.le, fun a ha => ?_⟩
    rw [haccesses, List.mem_append] at ha
    rcases ha with ha | ha
    · exact hs.2 a ha
    · exact hwrites sampleCount (Nat.le_refl _) a ha
  · have hentry' : s.currentEntry < entryCount type input.length := Nat.lt_of_le_of_ne hentries hentry
    have hptr := hkept.entryPtr hentries
    have hupTo : uint32At input s.entryPtr ≤ sampleCount := by
      rw [hptr]
      exact hfits s.currentEntry hentry' fun j hj => (hkept.passed j hj (hj.trans hentry')).trans_lt hmore
    refine ⟨hindex.trans_le (Nat.max_le.2 ⟨hs.1, hupTo⟩), fun a ha => ?_⟩
    obtain ⟨hindexRead, hvalueRead⟩ := inBounds_entry type hinput hentry' hptr sampleCount (allocated type sampleCount)
    rw [haccesses, List.mem_append, List.mem_append] at ha
    rcases ha with (ha | ha) | ha
    · exact hs.2 a ha
    · simp only [List.mem_cons, List.not_mem_nil, or_false] at ha
      rcases ha with rfl | rfl
      · exact hindexRead
      · exact hvalueRead
    · exact hwrites _ hupTo a ha

theorem Fill.safe_start (hinput : type.size ≤ input.length) : (Fill.start type input).Safe type sampleCount input := by
  refine ⟨Nat.zero_le _, fun a ha => ?_⟩
  obtain rfl := List.mem_singleton.1 ha
  exact ⟨Int.le_refl 0, by omega⟩

/-- The loop stays in bounds exactly when the entries fit and the size of the output is no product that wraps. -/
theorem Fill.isSafe_iff (hinput : type.size ≤ input.length) {t : Fill T}
    (ht : Ends (Fill.round type sampleCount input) (Fill.start type input) t) :
    (∀ a ∈ t.accesses, InBounds type input.length sampleCount (allocated type sampleCount) a) ↔
      sampleCount = 0 ∨ sampleCount * type.size < 2 ^ 64 ∧ Fits type sampleCount input := by
  obtain ⟨hkept, hover⟩ := Fill.ended ht
  constructor
  · intro hbounds
    rcases Nat.eq_zero_or_pos sampleCount with hzero | hpos
    · exact Or.inl hzero
    have hall : ∀ i < t.sampleIndex, i < sampleCount ∧ (i + 1) * type.size ≤ allocated type sampleCount :=
      fun i hi => hbounds _ (hkept.written i hi)
    refine Or.inr ⟨?_, ?_⟩
    · have hlast := (hall (sampleCount - 1) (by omega)).2
      rw [Nat.sub_add_cancel hpos] at hlast
      exact hlast.trans_lt (Nat.mod_lt _ (by decide))
    · intro i hi hearlier
      by_contra hbeyond
      have hread : i < t.currentEntry := by
        by_contra hunread
        rcases hkept.reached (by omega) with hzero | ⟨j, hj, hsame⟩
        · omega
        · have := hearlier j (by omega)
          omega
      have hpassed := hkept.passed i hread hi
      have := (hall sampleCount (by omega)).1
      omega
  · rintro (hzero | ⟨hsize, hfits⟩)
    · have hstays : ∀ s s' : Fill T, s = Fill.start type input → s.round type sampleCount input = some s' →
          s' = Fill.start type input := by
        intro s s' _ h
        have hmore := (Fill.round_cases h).1
        omega
      obtain ⟨rfl, -⟩ := ht.invariant hstays rfl
      exact (Fill.safe_start hinput).2
    · have hround : ∀ s s' : Fill T, s.Kept type sampleCount input ∧ s.Safe type sampleCount input →
          s.round type sampleCount input = some s' →
          s'.Kept type sampleCount input ∧ s'.Safe type sampleCount input :=
        fun s s' hs h => ⟨(hs.1.round h).1, hs.2.round hinput hsize hfits hs.1 h⟩
      exact (ht.invariant hround ⟨Fill.kept_start, Fill.safe_start hinput⟩).1.2.2

/-! ## One sample -/

/-- What the rounds of the search keep. -/
structure Search.Kept (type : ValueType T) (input : List UInt8) (s : Search T) : Prop where
  entries : s.broken = false → s.currentEntry ≤ entryCount type input.length
  entryPtr : s.broken = false → s.entryPtr = type.size + s.currentEntry * entrySize type
  safe : ∀ a ∈ s.accesses, InBounds type input.length 1 type.size a

theorem Search.kept_start (hinput : type.size ≤ input.length) : (Search.start type input).Kept type input where
  entries _ := Nat.zero_le _
  entryPtr _ := by simp [Search.start]
  safe a ha := by
    obtain rfl := List.mem_singleton.1 ha
    exact ⟨Int.le_refl 0, by omega⟩

theorem Search.Kept.round (hinput : type.size ≤ input.length) {sampleIndex : Nat} {s s' : Search T}
    (hs : s.Kept type input) (h : s.round type sampleIndex input = some s') :
    s'.Kept type input ∧ s.currentEntry ≤ entryCount type input.length ∧
      s'.currentEntry = s.currentEntry + 1 := by
  unfold Search.round at h
  split at h
  · next hmore =>
    have hentries := hs.entries hmore.1
    split at h
    · obtain rfl := Option.some.inj h
      exact ⟨⟨(nomatch ·), (nomatch ·), hs.safe⟩, hentries, rfl⟩
    · next hentry =>
      have hentry' : s.currentEntry < entryCount type input.length := Nat.lt_of_le_of_ne hentries hentry
      have hptr := hs.entryPtr hmore.1
      have hnext : s.entryPtr + 4 + type.size = type.size + (s.currentEntry + 1) * entrySize type := by
        rw [hptr, Nat.add_mul, Nat.one_mul, Nat.add_assoc, Nat.add_assoc]
        rfl
      have hsafe : ∀ a ∈ s.accesses ++ [.read s.entryPtr 4, .read (s.entryPtr + 4 : Nat) type.size],
          InBounds type input.length 1 type.size a := by
        intro a ha
        obtain ⟨hindexRead, hvalueRead⟩ := inBounds_entry type hinput hentry' hptr 1 type.size
        simp only [List.mem_append, List.mem_cons, List.not_mem_nil, or_false] at ha
        rcases ha with ha | rfl | rfl
        · exact hs.safe a ha
        · exact hindexRead
        · exact hvalueRead
      dsimp only at h
      split at h
      · obtain rfl := Option.some.inj h
        exact ⟨⟨(nomatch ·), (nomatch ·), hsafe⟩, hentries, rfl⟩
      · obtain rfl := Option.some.inj h
        exact ⟨⟨fun _ => hentry', fun _ => hnext, hsafe⟩, hentries, rfl⟩
  · exact nomatch h

theorem inBounds_result {accesses : List Access} (h : ∀ a ∈ accesses, InBounds type input.length 1 type.size a) :
    ∀ a ∈ accesses ++ [.write 0], InBounds type input.length 1 type.size a := by
  intro a ha
  rcases List.mem_append.1 ha with ha | ha
  · exact h a ha
  · obtain rfl := List.mem_singleton.1 ha
    exact ⟨Nat.one_pos, (Nat.one_mul _).le⟩

theorem calculateConstantSample_returns (type : ValueType T) (malloc : Nat → Bool) (sampleIndex : Nat)
    (input : List UInt8) : Returns (calculateConstantSample type malloc sampleIndex input) fun r =>
      ∀ a ∈ r.2, InBounds type input.length 1 type.size a := by
  unfold calculateConstantSample
  by_cases hmalloc : malloc type.size = false
  · exact ⟨0, _, if_pos hmalloc, fun r h => nomatch h⟩
  by_cases hshort : input.length < type.size
  · exact ⟨0, .error .invalidParameter, by beta_reduce; rw [if_neg hmalloc, if_pos hshort], fun r h => nomatch h⟩
  have hinput := Nat.le_of_not_lt hshort
  have hround : ∀ s s' : Search T, s.Kept type input → s.round type sampleIndex input = some s' →
      s'.Kept type input ∧
        entryCount type input.length + 1 - s'.currentEntry < entryCount type input.length + 1 - s.currentEntry := by
    intro s s' hs h
    obtain ⟨hs', hentries, hcounted⟩ := hs.round hinput h
    exact ⟨hs', by omega⟩
  obtain ⟨t, rounds, hrounds⟩ := ends_of_measure _
    (fun s => entryCount type input.length + 1 - s.currentEntry) hround (Search.kept_start hinput)
  have hkept := (Ends.invariant (fun s s' hs h => (hround s s' hs h).1) (Search.kept_start hinput) ⟨rounds, hrounds⟩).1
  refine ⟨rounds, _, by beta_reduce; rw [if_neg hmalloc, if_neg hshort, hrounds]; rfl, ?_⟩
  rintro r ⟨⟩
  exact inBounds_result hkept.safe

/-! ## The last sample -/

/-- What the rounds of the walk keep. -/
structure Walk.Kept (type : ValueType T) (input : List UInt8) (s : Walk T) : Prop where
  entries : s.i ≤ entryCount type input.length
  entryPtr : s.entryPtr = type.size + ((s.i : Int) - 1) * entrySize type
  safe : ∀ a ∈ s.accesses, InBounds type input.length 1 type.size a

theorem Walk.kept_start (hinput : type.size ≤ input.length) : (Walk.start type input).Kept type input where
  entries := Nat.le_refl _
  entryPtr := rfl
  safe a ha := by
    obtain rfl := List.mem_singleton.1 ha
    exact ⟨Int.le_refl 0, by omega⟩

/-- The rounds that are left. -/
def Walk.left (s : Walk T) : Nat := if s.found.isNone then s.i + 1 else s.i

theorem Walk.Kept.round (hinput : type.size ≤ input.length) {s s' : Walk T} (hs : s.Kept type input)
    (h : s.round type sampleCount input = some s') : s'.Kept type input ∧ s'.left < s.left := by
  unfold Walk.round at h
  split at h
  · next hmore =>
    obtain ⟨hnotFound, hi⟩ := hmore
    obtain ⟨i, hcount⟩ := Nat.exists_eq_succ_of_ne_zero hi.ne'
    have hptr : s.entryPtr = ((type.size + i * entrySize type : Nat) : Int) := by
      rw [hs.entryPtr, hcount]
      push_cast
      ring
    have hsafe : ∀ a ∈ s.accesses ++ [.read s.entryPtr 4, .read (s.entryPtr + 4) type.size],
        InBounds type input.length 1 type.size a := by
      intro a ha
      have hentry : i < entryCount type input.length := by
        have := hs.entries
        omega
      obtain ⟨hindexRead, hvalueRead⟩ := inBounds_entry type hinput hentry rfl 1 type.size
      simp only [List.mem_append, List.mem_cons, List.not_mem_nil, or_false] at ha
      rcases ha with ha | rfl | rfl
      · exact hs.safe a ha
      · rw [hptr]
        exact hindexRead
      · rw [hptr]
        exact hvalueRead
    have hleft : s.left = s.i + 1 := if_pos hnotFound
    dsimp only at h
    split at h
    · obtain rfl := Option.some.inj h
      exact ⟨⟨hs.entries, hs.entryPtr, hsafe⟩, hleft ▸ Nat.lt_succ_self _⟩
    · obtain rfl := Option.some.inj h
      refine ⟨⟨(Nat.sub_le _ _).trans hs.entries, ?_, hsafe⟩, ?_⟩
      · show s.entryPtr - entrySize type = type.size + (((s.i - 1 : Nat) : Int) - 1) * entrySize type
        rw [hptr, hcount, Nat.succ_sub_one]
        push_cast
        ring
      · rw [hleft, Walk.left, if_pos hnotFound]
        show s.i - 1 + 1 < s.i + 1
        omega
  · exact nomatch h

theorem calculateLastConstantSample_returns (type : ValueType T) (sampleCount : Nat) (input : List UInt8) :
    Returns (calculateLastConstantSample type sampleCount input) fun r =>
      ∀ a ∈ r.2, InBounds type input.length 1 type.size a := by
  unfold calculateLastConstantSample
  by_cases hshort : input.length < type.size
  · exact ⟨0, _, if_pos hshort, fun r h => nomatch h⟩
  have hinput := Nat.le_of_not_lt hshort
  dsimp only
  by_cases hnone : entryCount type input.length = 0
  · refine ⟨0, _, by beta_reduce; rw [if_neg hshort, if_pos hnone], ?_⟩
    rintro r ⟨⟩
    exact inBounds_result (Walk.kept_start hinput).safe
  have hround : ∀ s s' : Walk T, s.Kept type input → s.round type sampleCount input = some s' →
      s'.Kept type input ∧ s'.left < s.left := fun s s' hs h => hs.round hinput h
  obtain ⟨t, rounds, hrounds⟩ := ends_of_measure _ Walk.left hround (Walk.kept_start hinput)
  have hkept := (Ends.invariant (fun s s' hs h => (hround s s' hs h).1) (Walk.kept_start hinput) ⟨rounds, hrounds⟩).1
  refine ⟨rounds, _, by beta_reduce; rw [if_neg hshort, if_neg hnone, hrounds]; rfl, ?_⟩
  rintro r ⟨⟩
  exact inBounds_result hkept.safe

/-! ## The three calculations -/

/--
A packet with a constant rule stays in bounds when there is nothing to write, or when the entries fit and the
number of bytes of the output is no product that wraps.
-/
theorem staysInBounds_iff (type : ValueType T) (malloc : Nat → Bool) (sampleCount : Nat) (input : List UInt8) :
    StaysInBounds type malloc sampleCount input ↔
      malloc (allocated type sampleCount) = false ∨ input.length < type.size ∨ sampleCount = 0 ∨
        sampleCount * type.size < 2 ^ 64 ∧ Fits type sampleCount input := by
  have hrule : StaysInBounds type malloc sampleCount input ↔
      Returns (calculateConstantRule type malloc sampleCount input) fun s =>
        ∀ a ∈ s.accesses, InBounds type input.length sampleCount (allocated type sampleCount) a :=
    ⟨fun h => h.rule, fun h => ⟨h, fun i _ => calculateConstantSample_returns type malloc i input,
      calculateLastConstantSample_returns type sampleCount input⟩⟩
  rw [hrule]
  unfold calculateConstantRule
  by_cases hmalloc : malloc (allocated type sampleCount) = false
  · exact iff_of_true ⟨0, _, if_pos hmalloc, fun r h => nomatch h⟩ (Or.inl hmalloc)
  by_cases hshort : input.length < type.size
  · exact iff_of_true ⟨0, .error .invalidParameter, by beta_reduce; rw [if_neg hmalloc, if_pos hshort],
      fun r h => nomatch h⟩ (Or.inr (Or.inl hshort))
  have hinput := Nat.le_of_not_lt hshort
  rw [or_iff_right hmalloc, or_iff_right hshort]
  constructor
  · rintro ⟨rounds, result, hresult, hbounds⟩
    beta_reduce at hresult
    rw [if_neg hmalloc, if_neg hshort, Option.map_eq_some_iff] at hresult
    obtain ⟨t, hrounds, rfl⟩ := hresult
    exact (Fill.isSafe_iff hinput ⟨rounds, hrounds⟩).1 (hbounds t rfl)
  · intro h
    obtain ⟨t, rounds, hrounds⟩ := Fill.ends type sampleCount input
    refine ⟨rounds, .ok t, by beta_reduce; rw [if_neg hmalloc, if_neg hshort, hrounds]; rfl, ?_⟩
    rintro r ⟨⟩
    exact (Fill.isSafe_iff hinput ⟨rounds, hrounds⟩).2 h

def byte : ValueType UInt8 where
  size := 1
  decode bytes := bytes.headD 0
  zero := 0

/-- One sample of 7, but an entry that says that the 7 goes on up to the index 3. -/
def pastTheEnd : List UInt8 := [7, 3, 0, 0, 0, 9]

theorem not_staysInBounds_pastTheEnd : ¬ StaysInBounds byte (fun _ => true) 1 pastTheEnd := by
  intro h
  obtain ⟨rounds, result, hresult, hbounds⟩ := h.rule
  have hinput : byte.size ≤ pastTheEnd.length := by decide
  obtain ⟨t, hrounds, rfl⟩ := Option.map_eq_some_iff.1 hresult
  rcases (Fill.isSafe_iff hinput ⟨rounds, hrounds⟩).1 (hbounds t rfl) with hzero | ⟨-, hfits⟩
  · exact nomatch hzero
  · exact absurd (hfits 0 (by decide) fun j hj => absurd hj (Nat.not_lt_zero j)) (by decide)

end OpenDaq.ConstantRule
