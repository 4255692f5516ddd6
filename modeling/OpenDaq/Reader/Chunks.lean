import OpenDaq.Reader.Model

/-!
# Chunks

A call reads its samples in chunks, each from one packet, and writes them one after the other from a
pointer that the typed reader advances.
-/

namespace OpenDaq.Reader

variable {V : Type}

/-! ## Packets as a stream -/

def domainValues (p : DataPacket V) : List V := (p.domainPacket.map (·.values)).getD []

def domainData (p : DataPacket V) : Option (List V) := p.domainPacket.bind (·.data)

theorem domainPacket_isSome {p : DataPacket V} (h : (domainData p).isSome) : p.domainPacket.isSome := by
  rw [domainData] at h
  cases hd : p.domainPacket with
  | none => simp [hd] at h
  | some d => rfl

def total (ps : List (DataPacket V)) : Nat := (ps.map (·.sampleCount.toNat)).sum

/-- The packet holds as many samples as it says. -/
def Fits (r : TypedReader V) (values : DataPacket V → List V) (p : DataPacket V) : Prop :=
  (values p).length = p.sampleCount.toNat * r.width

def streamOf (values : DataPacket V → List V) (ps : List (DataPacket V)) : List V :=
  (ps.map values).flatten

variable {values : DataPacket V → List V}

theorem length_streamOf {r : TypedReader V} {ps : List (DataPacket V)} (hf : ∀ p ∈ ps, Fits r values p) :
    (streamOf values ps).length = total ps * r.width := by
  induction ps with
  | nil => simp [streamOf, total]
  | cons p rest ih =>
    have hp : (values p).length = p.sampleCount.toNat * r.width := hf p List.mem_cons_self
    have hrest := ih fun q hq => hf q (List.mem_cons_of_mem _ hq)
    rw [streamOf] at hrest
    simp only [streamOf, total, List.map_cons, List.flatten_cons, List.length_append, List.sum_cons, Nat.add_mul, hp]
    rw [hrest]
    rfl

theorem total_append (ps ps' : List (DataPacket V)) : total (ps ++ ps') = total ps + total ps' := by
  simp [total]

theorem streamOf_append (values : DataPacket V → List V) (ps ps' : List (DataPacket V)) :
    streamOf values (ps ++ ps') = streamOf values ps ++ streamOf values ps' := by
  simp [streamOf]

theorem take_samples {w c k : Nat} {a b : List V} (ha : a.length = w * c) :
    (a ++ b).take (w * k) = a.take (w * min k c) ++ b.take (w * (k - c)) := by
  rw [List.take_append, ha, ← Nat.mul_sub]
  congr 1
  by_cases hle : k ≤ c
  · rw [Nat.min_eq_left hle]
  · have hmul : w * c ≤ w * k := Nat.mul_le_mul_left _ (by omega)
    rw [Nat.min_eq_right (by omega), List.take_of_length_le (by omega), List.take_of_length_le (by omega)]

namespace TypedReader

variable (r : TypedReader V) {a b : List V}

theorem slice_append_right {m : Nat} (ha : a.length = m * r.width) (offset n : Nat) :
    r.slice (a ++ b) (m + offset) n = r.slice b offset n := by
  have hdrop : (a ++ b).drop ((m + offset) * r.width) = b.drop (offset * r.width) := by
    rw [Nat.add_mul, ← ha, List.drop_append, List.drop_of_length_le (by omega), List.nil_append,
      Nat.add_sub_cancel_left]
  rw [slice, slice, hdrop]

theorem slice_append_left {offset n : Nat} (ha : (offset + n) * r.width ≤ a.length) :
    r.slice (a ++ b) offset n = r.slice a offset n := by
  rw [Nat.add_mul, Nat.mul_comm n] at ha
  rw [slice, slice, List.drop_append_of_le_length (by omega),
    List.take_append_of_le_length (by rw [List.length_drop]; omega)]

theorem slice_add (values : List V) (offset n n' : Nat) :
    r.slice values offset (n + n') = r.slice values offset n ++ r.slice values (offset + n) n' := by
  rw [slice, slice, slice, Nat.mul_add, List.take_add, List.drop_drop, Nat.add_mul, Nat.mul_comm n]

end TypedReader

/-! ## The outputs of chunks -/

/-- The samples that a call reads from one packet. -/
structure Chunk (V : Type) where
  packet : DataPacket V
  offset : Nat
  toRead : Nat

variable (conv : Conversions V)

/-- The output after a chunk, whose values `values` selects. -/
def Chunk.output (r : TypedReader V) (values : DataPacket V → List V) (out : Output V) (c : Chunk V) :
    Output V :=
  { memory := out.write (r.convert conv (r.slice (values c.packet) c.offset c.toRead))
    pos := out.pos + r.shift c.toRead }

def slices (r : TypedReader V) (values : DataPacket V → List V) (cs : List (Chunk V)) : List V :=
  (cs.map fun c => r.slice (values c.packet) c.offset c.toRead).flatten

/-- The pointer is set to where the next sample belongs, for every number of samples. -/
def KeepsPlace (r : TypedReader V) : Prop := r.converts = false ∨ r.width ≤ 1

/-- At most one of the chunks has samples. -/
def InOnePacket (cs : List (Chunk V)) : Prop := (cs.filter (·.toRead ≠ 0)).length ≤ 1

instance (r : TypedReader V) : Decidable (KeepsPlace r) := inferInstanceAs (Decidable (_ ∨ _))

instance (cs : List (Chunk V)) : Decidable (InOnePacket cs) := inferInstanceAs (Decidable (_ ≤ _))

/-- The chunk lies within its packet. -/
def Chunk.Fits (r : TypedReader V) (values : DataPacket V → List V) (c : Chunk V) : Prop :=
  (c.offset + c.toRead) * r.width ≤ (values c.packet).length

theorem slices_eq_nil {r : TypedReader V} {cs : List (Chunk V)}
    (h : ∀ c ∈ cs, r.width * c.toRead = 0) : slices r values cs = [] := by
  induction cs with
  | nil => rfl
  | cons c cs ih =>
    have hc : r.slice (values c.packet) c.offset c.toRead = [] := by
      rw [TypedReader.slice, h c List.mem_cons_self, List.take_zero]
    have hcs := ih fun c' hc' => h c' (List.mem_cons_of_mem _ hc')
    rw [slices] at hcs
    rw [slices, List.map_cons, List.flatten_cons, hc, hcs]
    rfl

theorem dvd_length_slices {r : TypedReader V} {cs : List (Chunk V)}
    (hf : ∀ c ∈ cs, c.Fits r values) : r.width ∣ (slices r values cs).length := by
  induction cs with
  | nil => simp [slices]
  | cons c cs ih =>
    have hc := r.length_slice (hf c List.mem_cons_self)
    have hcs := ih fun c' hc' => hf c' (List.mem_cons_of_mem _ hc')
    rw [slices] at hcs
    rw [slices, List.map_cons, List.flatten_cons, List.length_append, hc]
    exact Nat.dvd_add (Nat.dvd_mul_right _ _) hcs

/-- **The chunks are written one after the other**, when the pointer is kept or there is only one. -/
theorem memory_outputs {r : TypedReader V} (h : r.Ready)
    (cs : List (Chunk V)) (hf : ∀ c ∈ cs, c.Fits r values) (hc : KeepsPlace r ∨ InOnePacket cs) (out : Output V) :
    (cs.foldl (Chunk.output conv r values) out).memory =
      out.write (r.convert conv (slices r values cs)) := by
  have hnil : r.convert conv [] = [] :=
    List.eq_nil_of_length_eq_zero (by rw [h.convert_length conv (Nat.dvd_zero _)]; rfl)
  induction cs generalizing out with
  | nil =>
    show out.memory = out.write (r.convert conv [])
    rw [hnil, Output.write_nil]
  | cons c cs ih =>
    have hfit := hf c List.mem_cons_self
    have hfits : ∀ c ∈ cs, c.Fits r values := fun c' hc' => hf c' (List.mem_cons_of_mem _ hc')
    have hlen := r.length_slice hfit
    have hdvd : r.width ∣ (r.slice (values c.packet) c.offset c.toRead).length := hlen ▸ Nat.dvd_mul_right _ _
    have hrest : KeepsPlace r ∨ InOnePacket cs := by
      refine hc.imp_right fun hc => Nat.le_trans ?_ hc
      exact ((List.sublist_cons_self c cs).filter _).length_le
    have hslices : slices r values (c :: cs) = r.slice (values c.packet) c.offset c.toRead ++ slices r values cs := by
      rw [slices, slices, List.map_cons, List.flatten_cons]
    rw [List.foldl_cons, ih hfits hrest, hslices, h.convert_append conv hdvd (dvd_length_slices hfits)]
    -- Either the pointer is right after the chunk, or nothing is written after it.
    have hcases : r.shift c.toRead = r.width * c.toRead ∨ slices r values cs = [] := by
      rcases hc with (hc | hc) | hc
      · exact Or.inl (by simp [TypedReader.shift, hc])
      · rcases Nat.le_one_iff_eq_zero_or_eq_one.mp hc with hw | hw
        · exact Or.inr (slices_eq_nil fun c' _ => by rw [hw, Nat.zero_mul])
        · exact Or.inl (by simp [TypedReader.shift, hw])
      · by_cases hzero : c.toRead = 0
        · exact Or.inl (by simp [TypedReader.shift, hzero])
        · refine Or.inr (slices_eq_nil fun c' hc' => ?_)
          rw [InOnePacket, List.filter_cons_of_pos (by simpa using hzero), List.length_cons] at hc
          have hempty : cs.filter (·.toRead ≠ 0) = [] := List.eq_nil_of_length_eq_zero (by omega)
          have := List.filter_eq_nil_iff.mp hempty c' hc'
          rw [show c'.toRead = 0 by simpa using this, Nat.mul_zero]
    rcases hcases with hshift | hempty
    · rw [← Output.write_write, h.convert_length conv hdvd, hlen, ← hshift]
      rfl
    · rw [hempty, hnil, List.append_nil, Output.write_nil]
      rfl

/-! ## Places that are not written -/

/-- The samples of some chunks. -/
def Chunk.total (cs : List (Chunk V)) : Nat := (cs.map (·.toRead)).sum

theorem length_slices {r : TypedReader V} (cs : List (Chunk V))
    (hf : ∀ c ∈ cs, c.Fits r values) : (slices r values cs).length = r.width * Chunk.total cs := by
  induction cs with
  | nil => rfl
  | cons c cs ih =>
    have hc := r.length_slice (hf c List.mem_cons_self)
    have hcs := ih fun c' hc' => hf c' (List.mem_cons_of_mem _ hc')
    have htotal : Chunk.total (c :: cs) = c.toRead + Chunk.total cs := by simp [Chunk.total]
    rw [slices] at hcs
    rw [slices, List.map_cons, List.flatten_cons, List.length_append, hc, hcs, htotal, Nat.mul_add]

/-- How far chunks write from the pointer on, when a typed reader advances it by one value for a sample. -/
def extent (width : Nat) : List (Chunk V) → Nat
  | [] => 0
  | c :: cs => max (width * c.toRead) (c.toRead + extent width cs)

theorem memory_outputs_beyond {r : TypedReader V} (h : r.Ready) (hconverts : r.converts = true)
    (cs : List (Chunk V)) (hf : ∀ c ∈ cs, c.Fits r values) (out : Output V) {i : Nat}
    (hi : out.pos + extent r.width cs ≤ i) : (cs.foldl (Chunk.output conv r values) out).memory i = out.memory i := by
  induction cs generalizing out with
  | nil => rfl
  | cons c cs ih =>
    have hlen : (r.convert conv (r.slice (values c.packet) c.offset c.toRead)).length = r.width * c.toRead := by
      have hslice := r.length_slice (hf c List.mem_cons_self)
      rw [h.convert_length conv (hslice ▸ Nat.dvd_mul_right _ _), hslice]
    have hshift : r.shift c.toRead = c.toRead := by rw [TypedReader.shift, hconverts, if_pos rfl]
    rw [extent] at hi
    rw [List.foldl_cons, ih (fun c' hc' => hf c' (List.mem_cons_of_mem _ hc'))]
    · show out.write _ i = out.memory i
      unfold Output.write
      rw [if_neg]
      rintro ⟨-, hlt⟩
      rw [hlen] at hlt
      omega
    · show out.pos + r.shift c.toRead + extent r.width cs ≤ i
      rw [hshift]
      omega

theorem extent_lt {width : Nat} (hw : 1 < width) (cs : List (Chunk V)) :
    extent width cs ≤ width * Chunk.total cs ∧ (¬ InOnePacket cs → extent width cs < width * Chunk.total cs) := by
  induction cs with
  | nil => exact ⟨Nat.le_refl _, fun h => absurd (Nat.zero_le _) h⟩
  | cons c cs ih =>
    have htotal : Chunk.total (c :: cs) = c.toRead + Chunk.total cs := by simp [Chunk.total]
    rw [extent, htotal, Nat.mul_add]
    by_cases hc : c.toRead = 0
    · have hone : InOnePacket (c :: cs) ↔ InOnePacket cs := by simp [InOnePacket, hc]
      rw [hone, hc, Nat.mul_zero, Nat.zero_add, Nat.zero_add, Nat.zero_max]
      exact ih
    · have hmul : 2 * c.toRead ≤ width * c.toRead := Nat.mul_le_mul_right _ hw
      refine ⟨by omega, fun hnot => ?_⟩
      have hmore : 0 < Chunk.total cs := by
        refine Nat.pos_of_ne_zero fun hzero => hnot ?_
        have hall : cs.filter (·.toRead ≠ 0) = [] := by
          rw [List.filter_eq_nil_iff]
          intro c' hc'
          have := List.sum_eq_zero_iff_forall_eq_nat.1 hzero c'.toRead (List.mem_map_of_mem hc')
          simpa using this
        rw [InOnePacket, List.filter_cons_of_pos (by simpa using hc), hall]
        exact Nat.le_refl _
      have hwidth : 0 < width * Chunk.total cs := Nat.mul_pos (by omega) hmore
      omega

/-- **Chunks in more than one packet lose their places** when the pointer is not kept. -/
theorem memory_outputs_iff {r : TypedReader V} (h : r.Ready) (cs : List (Chunk V)) (hf : ∀ c ∈ cs, c.Fits r values) :
    (∀ out, (cs.foldl (Chunk.output conv r values) out).memory = out.write (r.convert conv (slices r values cs))) ↔
      KeepsPlace r ∨ InOnePacket cs := by
  refine ⟨fun hall => ?_, fun hc out => memory_outputs conv h cs hf hc out⟩
  by_contra hnot
  rw [not_or, KeepsPlace, not_or] at hnot
  obtain ⟨⟨hconverts, hw⟩, hone⟩ := hnot
  have hlength := length_slices cs hf
  have hextent := (extent_lt (Nat.lt_of_not_le hw) cs).2 hone
  have hlen : (r.convert conv (slices r values cs)).length = r.width * Chunk.total cs := by
    rw [h.convert_length conv (hlength ▸ Nat.dvd_mul_right _ _), hlength]
  have hlast := congrFun (hall { memory := fun _ => none, pos := 0 }) (extent r.width cs)
  rw [memory_outputs_beyond conv h (by simpa using hconverts) cs hf _ (by simp)] at hlast
  unfold Output.write at hlast
  rw [if_pos ⟨Nat.zero_le _, by rw [hlen]; simpa using hextent⟩,
    List.getElem?_eq_getElem (by rw [hlen]; simpa using hextent)] at hlast
  cases hlast

end OpenDaq.Reader
