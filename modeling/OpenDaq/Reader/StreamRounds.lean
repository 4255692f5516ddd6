import OpenDaq.Infra.While
import OpenDaq.Reader.Stream

/-!
# The rounds of the stream reader

The loop of `StreamReaderImpl::readPackets` has no bound. It ends because every round takes a packet from the
queue or has read what was asked for. A packet that can not be read is an exception: the error is not looked at
and the packet stays, so that the next round reads it again.
-/

namespace OpenDaq.Reader

open Infra

variable {V : Type}

/-! ## Typed readers -/

namespace TypedReader

/-- The reader has not been told of samples that can be read. -/
def Unset (r : TypedReader V) : Prop :=
  r.isUndefined = true ∨ r.dataSampleType = .undefined ∨ r.dataSampleType = .null

/-- The reader converts the samples that it was told of. -/
def Converts (r : TypedReader V) : Prop :=
  if r.readType = .struct then r.transformFunction = none
  else isSampleTypeConvertibleTo r.readType r.dataSampleType = true

/-- The reader converts the samples and does not refuse the pointer to them. -/
def Reads (r : TypedReader V) (inputBuffer : Option (List V)) : Prop := r.Takes inputBuffer ∧ r.Converts

/-- What the reader gives to its transform function. -/
def given (r : TypedReader V) (inputBuffer : Option (List V)) (offset toRead : Nat) : List V :=
  ((inputBuffer.getD []).drop (offset * r.valuesPerSample)).take (r.valuesPerSample * toRead)

def Throws (r : TypedReader V) (inputBuffer : Option (List V)) (offset toRead : Nat) : Prop :=
  r.readType ≠ .struct ∧ ∃ f, r.transformFunction = some f ∧ f (r.given inputBuffer offset toRead) = none

variable (conv : Conversions V) {r : TypedReader V} (inputBuffer : Option (List V)) (offset : Nat) (out : Output V)
  (toRead : Nat)

theorem readData_unset (h : r.Unset) : r.readData conv inputBuffer offset out toRead = .ok (.invalidState, out) := by
  unfold readData
  rcases h with h | h | h
  · rw [if_pos h]
  · split
    · rfl
    · rw [h]
  · split
    · rfl
    · rw [h]

theorem readData_set (h : ¬ r.Unset) : r.readData conv inputBuffer offset out toRead =
    r.readValues conv r.dataSampleType inputBuffer offset out toRead := by
  unfold Unset at h
  push Not at h
  unfold readData
  rw [if_neg h.1]
  split
  · next hundefined => exact absurd hundefined h.2.1
  · next hnull => exact absurd hnull h.2.2
  · rfl

theorem readData_refused (h : ¬ r.Unset) (hr : ¬ r.Reads inputBuffer) :
    ∃ code, r.readData conv inputBuffer offset out toRead = .ok (code, out) ∧ code ≠ .success ∧
      code ≠ .invalidState := by
  rw [readData_set conv inputBuffer offset out toRead h]
  unfold readValues
  by_cases htakes : r.Takes inputBuffer
  · have hc : ¬ r.Converts := fun hc => hr ⟨htakes, hc⟩
    have hnull : r.refusesNull r.dataSampleType inputBuffer = false := htakes
    refine ⟨.notSupported, ?_, (nomatch ·), (nomatch ·)⟩
    rw [hnull, if_neg Bool.false_ne_true]
    unfold Converts at hc
    by_cases hs : r.readType = .struct
    · rw [if_pos hs] at hc ⊢
      cases ht : r.transformFunction with
      | none => exact absurd ht hc
      | some f => rfl
    · rw [if_neg hs] at hc ⊢
      exact if_neg hc
  · exact ⟨.argumentNull, if_pos (Bool.of_not_eq_false htakes), (nomatch ·), (nomatch ·)⟩

/-- Values that can be converted are read, unless the transform function throws. -/
theorem readValues_convertible (htakes : r.Takes inputBuffer) (hs : r.readType ≠ .struct)
    (hc : isSampleTypeConvertibleTo r.readType r.dataSampleType = true) :
    (r.Throws inputBuffer offset toRead ∧
        r.readValues conv r.dataSampleType inputBuffer offset out toRead = .error .transform) ∨
      (¬ r.Throws inputBuffer offset toRead ∧
        ∃ out', r.readValues conv r.dataSampleType inputBuffer offset out toRead = .ok (.success, out')) := by
  have hconvertible : (rangeToTick r.dataSampleType r.readType ||
      isConvertible r.dataSampleType r.readType) = true := hc
  have hnull : r.refusesNull r.dataSampleType inputBuffer = false := htakes
  unfold readValues
  rw [hnull, if_neg Bool.false_ne_true, if_neg hs, if_pos hconvertible]
  cases hf : r.transformFunction with
  | some f =>
    cases hgiven : f (r.given inputBuffer offset toRead) with
    | none =>
      refine Or.inl ⟨⟨hs, f, hf, hgiven⟩, ?_⟩
      unfold given at hgiven
      simp only [hgiven]
    | some values =>
      refine Or.inr ⟨?_, ?_⟩
      · rintro ⟨-, f', hf', hnone⟩
        obtain rfl := Option.some.inj (hf.symm.trans hf')
        exact nomatch hgiven.symm.trans hnone
      · unfold given at hgiven
        simp only [hgiven]
        exact ⟨_, rfl⟩
  | none =>
    refine Or.inr ⟨?_, ?_⟩
    · rintro ⟨-, f, hf', -⟩
      exact nomatch hf.symm.trans hf'
    · dsimp only
      split
      · exact ⟨_, rfl⟩
      · split
        · exact ⟨_, rfl⟩
        · exact ⟨_, rfl⟩

theorem readData_throws (h : ¬ r.Unset) (hr : r.Reads inputBuffer) (ht : r.Throws inputBuffer offset toRead) :
    r.readData conv inputBuffer offset out toRead = .error .transform := by
  obtain ⟨htakes, hc⟩ := hr
  unfold Converts at hc
  rw [if_neg ht.1] at hc
  rw [readData_set conv inputBuffer offset out toRead h]
  rcases readValues_convertible conv inputBuffer offset out toRead htakes ht.1 hc with ⟨-, hthrow⟩ | ⟨hreads, -⟩
  · exact hthrow
  · exact absurd ht hreads

theorem readData_reads (h : ¬ r.Unset) (hr : r.Reads inputBuffer) (ht : ¬ r.Throws inputBuffer offset toRead) :
    ∃ out', r.readData conv inputBuffer offset out toRead = .ok (.success, out') := by
  obtain ⟨htakes, hc⟩ := hr
  have hnull : r.refusesNull r.dataSampleType inputBuffer = false := htakes
  rw [readData_set conv inputBuffer offset out toRead h]
  unfold Converts at hc
  by_cases hs : r.readType = .struct
  · rw [if_pos hs] at hc
    unfold readValues
    rw [hnull, if_neg Bool.false_ne_true, if_pos hs, hc]
    exact ⟨_, rfl⟩
  · rw [if_neg hs] at hc
    rcases readValues_convertible conv inputBuffer offset out toRead htakes hs hc with ⟨hthrows, -⟩ | ⟨-, hreads⟩
    · exact absurd hthrows ht
    · exact hreads

end TypedReader

/-! ## The domain -/

section

variable (attributes : DataDescriptor → DescriptorAttributes) (conv : Conversions V)

theorem TypedReader.handleDescriptorChanged_again (r : TypedReader V) (descriptor : DataDescriptor)
    (readMode : ReadMode) :
    (r.handleDescriptorChanged attributes descriptor readMode).1.handleDescriptorChanged attributes descriptor
      readMode = r.handleDescriptorChanged attributes descriptor readMode := by
  unfold handleDescriptorChanged
  by_cases hu : r.isUndefined = true
  · rw [if_pos hu]
    exact if_pos hu
  · rw [if_neg hu]
    refine (if_neg hu).trans ?_
    cases (attributes descriptor).dimensions with
    | none => rfl
    | some sizes =>
      cases sizes with
      | nil => rfl
      | cons size rest => cases rest <;> rfl

theorem TypedReader.not_converts_of_invalid (r : TypedReader V) (descriptor : DataDescriptor) (readMode : ReadMode)
    (hset : ¬ (r.handleDescriptorChanged attributes descriptor readMode).1.Unset)
    (h : (r.handleDescriptorChanged attributes descriptor readMode).2 = false) :
    ¬ (r.handleDescriptorChanged attributes descriptor readMode).1.Converts := by
  have hdefined : ¬ r.isUndefined = true := by
    intro hu
    refine hset (Or.inl ?_)
    rw [handleDescriptorChanged, if_pos hu]
    exact hu
  rw [handleDescriptorChanged, if_neg hdefined] at h ⊢
  simp only [Bool.or_eq_false_iff, decide_eq_false_iff_not] at h
  unfold Converts
  rw [if_neg h.1]
  exact fun hc => Bool.false_ne_true (h.2.symm.trans hc)

namespace ReaderImpl

variable {attributes} {base : ReaderImpl V}

section

variable {inferred : SampleType} {descriptor : DataDescriptor} {r reader : TypedReader V} {valid : Bool}
  (h : base.announce attributes inferred descriptor r = .ok (reader, valid))

include h

theorem announce_again : base.announce attributes inferred descriptor reader = .ok (reader, valid) := by
  have htype : ∀ r' : TypedReader V,
      (r'.handleDescriptorChanged attributes descriptor base.readMode).1.isUndefined = r'.isUndefined := by
    intro r'
    unfold TypedReader.handleDescriptorChanged
    split <;> rfl
  have hdefined : ∀ r' : TypedReader V, r'.isUndefined = false →
      r'.handleDescriptorChanged attributes descriptor base.readMode = (reader, valid) →
      base.announce attributes inferred descriptor reader = .ok (reader, valid) := by
    intro r' hr' htold
    have hagain := r'.handleDescriptorChanged_again attributes descriptor base.readMode
    have hreader := htype r'
    rw [htold] at hagain hreader
    unfold announce
    dsimp only
    rw [if_neg (by rw [hreader, hr']; exact Bool.false_ne_true)]
    exact congrArg Except.ok hagain
  unfold announce at h
  dsimp only at h
  by_cases hu : r.isUndefined = true
  · rw [if_pos hu] at h
    cases hmade : TypedReader.createReaderForType inferred r.transformFunction with
    | error e =>
      rw [hmade] at h
      exact nomatch h
    | ok r' =>
      rw [hmade] at h
      have htold : r'.handleDescriptorChanged attributes descriptor base.readMode = (reader, valid) := Except.ok.inj h
      cases hr' : r'.isUndefined with
      | false => exact hdefined r' hr' htold
      | true =>
        -- the type that is inferred is undefined too
        unfold TypedReader.handleDescriptorChanged at htold
        rw [if_pos hr'] at htold
        obtain ⟨rfl, rfl⟩ := Prod.mk.inj htold
        have hsame : r'.transformFunction = r.transformFunction := by
          unfold TypedReader.createReaderForType at hmade
          split at hmade
          · exact nomatch hmade
          · exact nomatch hmade
          · exact nomatch hmade
          · rw [← Except.ok.inj hmade]
        unfold announce
        dsimp only
        rw [if_pos hr', hsame, hmade]
        unfold TypedReader.handleDescriptorChanged
        exact congrArg Except.ok (if_pos hr')
  · rw [if_neg hu] at h
    exact hdefined r (Bool.eq_false_iff.2 hu) (Except.ok.inj h)

theorem announce_told :
    ∃ r' : TypedReader V, r'.handleDescriptorChanged attributes descriptor base.readMode = (reader, valid) := by
  unfold announce at h
  dsimp only at h
  cases hr : (if r.isUndefined = true then TypedReader.createReaderForType inferred r.transformFunction
      else .ok r : Except Exception (TypedReader V)) with
  | error e =>
    rw [hr] at h
    exact nomatch h
  | ok r' =>
    rw [hr] at h
    exact ⟨r', Except.ok.inj h⟩

end

variable (attributes) in
/-- The domain samples of a packet can not be read, also after the reader was told of their descriptor. -/
def DomainRefused (base : ReaderImpl V) (d : DomainPacket V) : Prop :=
  (base.domainReader.Unset ∧ ∃ reader valid,
    base.announce attributes (StreamReader.inferReaderReadType d.dataDescriptor) d.dataDescriptor
      base.domainReader = .ok (reader, valid) ∧ (valid = false ∨ reader.Unset ∨ ¬ reader.Reads d.data)) ∨
  (¬ base.domainReader.Unset ∧ ¬ base.domainReader.Reads d.data)

variable {d : DomainPacket V} (offset : Nat) (out : Output V) (toRead : Nat)

theorem readDomain_refused (h : base.DomainRefused attributes d) : ∃ domainReader code,
    base.readDomain attributes conv StreamReader.inferReaderReadType d offset out toRead =
        ({ base with domainReader }, .ok (code, out)) ∧ code ≠ .success ∧
      ({ base with domainReader }).DomainRefused attributes d := by
  rcases h with ⟨hunset, reader, valid, hannounce, hcase⟩ | ⟨hset, hrefuses⟩
  · -- the reader is told of the descriptor first
    have hagain : ({ base with domainReader := reader }).DomainRefused attributes d := by
      by_cases hu : reader.Unset
      · exact Or.inl ⟨hu, reader, valid, announce_again hannounce, hcase⟩
      · refine Or.inr ⟨hu, ?_⟩
        rcases hcase with rfl | hu' | hc
        · obtain ⟨r', htold⟩ := announce_told hannounce
          have hinvalid := TypedReader.not_converts_of_invalid attributes r' d.dataDescriptor base.readMode
          rw [htold] at hinvalid
          exact fun hr => hinvalid hu rfl hr.2
        · exact absurd hu' hu
        · exact hc
    have hset : base.trySetDomainSampleType attributes StreamReader.inferReaderReadType d =
        ({ base with domainReader := reader }, .ok valid) := by
      unfold trySetDomainSampleType
      simp only [hannounce]
    unfold readDomain
    rw [TypedReader.readData_unset conv d.data offset out toRead hunset]
    simp only [hset]
    cases valid with
    | false => exact ⟨reader, .invalidState, rfl, (nomatch ·), hagain⟩
    | true =>
      by_cases hu : reader.Unset
      · exact ⟨reader, .invalidState,
          by dsimp only; rw [TypedReader.readData_unset conv d.data offset out toRead hu], (nomatch ·), hagain⟩
      · have hc : ¬ reader.Reads d.data := by
          rcases hcase with h | h | h
          · exact nomatch h
          · exact absurd h hu
          · exact h
        obtain ⟨code, hread, hcode, -⟩ := TypedReader.readData_refused conv d.data offset out toRead hu hc
        exact ⟨reader, code, by dsimp only; rw [hread], hcode, hagain⟩
  · obtain ⟨code, hread, hcode, hinvalid⟩ := TypedReader.readData_refused conv d.data offset out toRead hset hrefuses
    refine ⟨base.domainReader, code, ?_, hcode, Or.inr ⟨hset, hrefuses⟩⟩
    unfold readDomain
    rw [hread]
    cases code with
    | invalidState => exact absurd rfl hinvalid
    | _ => rfl

/-- What can be read is read, unless an exception is thrown. -/
theorem readDomain_read (h : ¬ base.DomainRefused attributes d) : ∃ base',
    (∃ e, base.readDomain attributes conv StreamReader.inferReaderReadType d offset out toRead =
      (base', .error e)) ∨
    ∃ out', base.readDomain attributes conv StreamReader.inferReaderReadType d offset out toRead =
      (base', .ok (.success, out')) := by
  unfold DomainRefused at h
  push Not at h
  obtain ⟨hunset, hset⟩ := h
  have hreads : ∀ (base' : ReaderImpl V) (r : TypedReader V), ¬ r.Unset → r.Reads d.data →
      (∃ e, (base', r.readData conv d.data offset out toRead) = (base', .error e)) ∨
        ∃ out', (base', r.readData conv d.data offset out toRead) = (base', .ok (.success, out')) := by
    intro base' r hset hc
    by_cases ht : r.Throws d.data offset toRead
    · exact Or.inl ⟨_, congrArg _ (TypedReader.readData_throws conv d.data offset out toRead hset hc ht)⟩
    · obtain ⟨out', hout⟩ := TypedReader.readData_reads conv d.data offset out toRead hset hc ht
      exact Or.inr ⟨out', congrArg _ hout⟩
  by_cases hu : base.domainReader.Unset
  · unfold readDomain trySetDomainSampleType
    rw [TypedReader.readData_unset conv d.data offset out toRead hu]
    dsimp only
    cases hannounce : base.announce attributes (StreamReader.inferReaderReadType d.dataDescriptor)
        d.dataDescriptor base.domainReader with
    | error e => exact ⟨base, Or.inl ⟨e, rfl⟩⟩
    | ok told =>
      obtain ⟨reader, valid⟩ := told
      obtain ⟨hvalid, hset, hc⟩ := hunset hu reader valid hannounce
      cases valid with
      | false => exact absurd rfl hvalid
      | true => exact ⟨_, hreads _ reader hset hc⟩
  · refine ⟨base, ?_⟩
    have hc : base.domainReader.Reads d.data := hset hu
    unfold readDomain
    by_cases ht : base.domainReader.Throws d.data offset toRead
    · rw [TypedReader.readData_throws conv d.data offset out toRead hu hc ht]
      exact Or.inl ⟨_, rfl⟩
    · obtain ⟨out', hout⟩ := TypedReader.readData_reads conv d.data offset out toRead hu hc ht
      rw [hout]
      exact Or.inr ⟨out', rfl⟩

end ReaderImpl

end

/-! ## One packet -/

variable {s' t : StreamReader V}

namespace StreamReader

variable (attributes : DataDescriptor → DescriptorAttributes) (conv : Conversions V)

def toRead (s : StreamReader V) (p : DataPacket V) : Nat :=
  min s.info.remainingToRead (p.sampleCount.toNat - s.info.prevSampleIndex)

/--
A packet can not be read. Its values can not be converted or are not there or, when these are read, there is no
domain packet or so it is with the domain.
-/
def Refused (s : StreamReader V) (p : DataPacket V) : Prop :=
  (s.info.values.isSome ∧ (s.base.valueReader.Unset ∨ ¬ s.base.valueReader.Reads p.data)) ∨
  ((s.info.values.isSome → ¬ s.base.valueReader.Throws p.data s.info.prevSampleIndex (s.toRead p)) ∧
    s.info.domainValues.isSome ∧ ∀ d, p.domainPacket = some d → s.base.DomainRefused attributes d)

/-- What a call of `readPacketData` writes through `info.values` and `info.domainValues`, at most when it throws. -/
def writtenBy (s : StreamReader V) (p : DataPacket V) : Nat × Nat :=
  match s.readValuesOf conv p (s.toRead p) with
  | (_, .error _) => (s.toRead p, 0)
  | (s', .ok .success) =>
    (if s.info.values.isSome then s.toRead p else 0,
      match (s'.readDomainOf attributes conv p (s.toRead p)).2 with
      | .error _ | .ok .success => if s.info.domainValues.isSome then s.toRead p else 0
      | .ok _ => 0)
  | (_, .ok _) => (0, 0)

/-- One round of the loop of `readPackets`. The loop is left by a `break`, a `return` or an exception. -/
def nextRound (s : StreamReader V) : Option (StreamReader V) :=
  match s.nextPacket with
  | none => none
  | some (.event e, s) =>
      if (s.handleEvent attributes e).base.endsRead e then none else some (s.handleEvent attributes e)
  | some (.data p, s) =>
    if (s.hold p).info.remainingToRead = 0 then none
    else
      match (s.hold p).readPacketData attributes conv p with
      | (_, .error _) => none
      | (s, .ok _) => some s

/-- What a round writes. -/
def wrote (s : StreamReader V) : Nat × Nat :=
  match s.nextPacket with
  | some (.data p, s) =>
    if (s.hold p).info.remainingToRead = 0 then (0, 0) else (s.hold p).writtenBy attributes conv p
  | _ => (0, 0)

/-- What some rounds write. -/
def written : (rounds : Nat) → StreamReader V → Nat × Nat
  | 0, _ => (0, 0)
  | rounds + 1, s =>
    match s.nextRound attributes conv with
    | none => s.wrote attributes conv
    | some s' =>
      ((s.wrote attributes conv).1 + (written rounds s').1, (s.wrote attributes conv).2 + (written rounds s').2)

/--
A call on a reader that is not invalid leaves the loop after finitely many rounds, and no more samples are written
than were asked for.
-/
def EndsInBuffer (s : StreamReader V) (values domain : Option (Output V)) (count : Nat) : Prop :=
  s.base.invalid = true ∨
    ((∃ rounds, (readPackets attributes conv rounds (s.prepare values domain count) none).isSome) ∧
      ∀ rounds, (written attributes conv rounds (s.prepare values domain count)).1 ≤ count ∧
        (written attributes conv rounds (s.prepare values domain count)).2 ≤ count)

/-- No packet that the loop comes to is refused. -/
def NoneRefused (s : StreamReader V) : Prop :=
  ∀ t, Reaches (nextRound attributes conv) s t → ∀ p t', t.nextPacket = some (.data p, t') →
    (t'.hold p).info.remainingToRead ≠ 0 → ¬ (t'.hold p).Refused attributes p

/-! ## The loop as its rounds -/

variable {attributes conv} {s : StreamReader V}

theorem readPackets_isSome (rounds : Nat) (s : StreamReader V) (offset : Option Number) :
    (readPackets attributes conv rounds s offset).isSome = (loop (nextRound attributes conv) rounds s).isSome := by
  induction rounds generalizing s offset with
  | zero => rfl
  | succ rounds ih =>
    rw [readPackets, loop]
    unfold nextRound
    cases hnext : s.nextPacket with
    | none => rfl
    | some next =>
      obtain ⟨packet, s'⟩ := next
      cases packet with
      | event e =>
        dsimp only
        split
        · rfl
        · exact ih _ _
      | data p =>
        dsimp only
        split
        · rfl
        · cases hread : (s'.hold p).readPacketData attributes conv p with
          | mk t result =>
            cases result with
            | error e => rfl
            | ok code => exact ih _ _

theorem readPackets_ends_iff (s : StreamReader V) (offset : Option Number) :
    (∃ rounds, (readPackets attributes conv rounds s offset).isSome) ↔ ∃ t, Ends (nextRound attributes conv) s t := by
  simp only [readPackets_isSome, Option.isSome_iff_exists]
  exact exists_comm

/-! ## Reading a packet -/

variable (conv) {p : DataPacket V}

def ValuesRefused (s : StreamReader V) (p : DataPacket V) : Prop :=
  s.info.values.isSome ∧ (s.base.valueReader.Unset ∨ ¬ s.base.valueReader.Reads p.data)

/-- The transform function of the values throws. -/
def ValuesThrow (s : StreamReader V) (p : DataPacket V) (n : Nat) : Prop :=
  s.info.values.isSome ∧ s.base.valueReader.Throws p.data s.info.prevSampleIndex n

/-- There is no domain packet, or the domain can not be converted. -/
def DomainRefused (attributes : DataDescriptor → DescriptorAttributes) (s : StreamReader V) (p : DataPacket V) : Prop :=
  s.info.domainValues.isSome ∧ ∀ d, p.domainPacket = some d → s.base.DomainRefused attributes d

theorem refused_iff : s.Refused attributes p ↔
    s.ValuesRefused p ∨ ¬ s.ValuesThrow p (s.toRead p) ∧ s.DomainRefused attributes p := by
  unfold Refused ValuesThrow
  rw [not_and]
  rfl

theorem readValuesOf_refused (h : s.ValuesRefused p) (n : Nat) :
    ∃ code, s.readValuesOf conv p n = (s, .ok code) ∧ code ≠ .success := by
  obtain ⟨hsome, hrefused⟩ := h
  obtain ⟨out, hout⟩ := Option.isSome_iff_exists.1 hsome
  have hsame : { s with info := { s.info with values := some out } } = s := by rw [← hout]
  unfold readValuesOf
  rw [hout]
  dsimp only
  by_cases hu : s.base.valueReader.Unset
  · rw [TypedReader.readData_unset conv p.data s.info.prevSampleIndex out n hu]
    exact ⟨.invalidState, congrArg (·, _) hsame, (nomatch ·)⟩
  · obtain ⟨code, hread, hcode, -⟩ :=
      TypedReader.readData_refused conv p.data s.info.prevSampleIndex out n hu (hrefused.resolve_left hu)
    rw [hread]
    exact ⟨code, congrArg (·, _) hsame, hcode⟩

theorem readValuesOf_throws (h : ¬ s.ValuesRefused p) {n : Nat} (ht : s.ValuesThrow p n) :
    ∃ e, s.readValuesOf conv p n = (s, .error e) := by
  obtain ⟨hsome, hthrows⟩ := ht
  have hreads : ¬ s.base.valueReader.Unset ∧ s.base.valueReader.Reads p.data := by
    by_contra hnot
    exact h ⟨hsome, by tauto⟩
  obtain ⟨out, hout⟩ := Option.isSome_iff_exists.1 hsome
  unfold readValuesOf
  rw [hout]
  dsimp only
  rw [TypedReader.readData_throws conv p.data s.info.prevSampleIndex out n hreads.1 hreads.2 hthrows]
  exact ⟨_, rfl⟩

theorem readValuesOf_reads (h : ¬ s.ValuesRefused p) {n : Nat} (ht : ¬ s.ValuesThrow p n) :
    ∃ values, values.isSome = s.info.values.isSome ∧
      s.readValuesOf conv p n = ({ s with info := { s.info with values } }, .ok .success) := by
  unfold readValuesOf
  cases hout : s.info.values with
  | none =>
    have hsame : { s with info := { s.info with values := none } } = s := by rw [← hout]
    exact ⟨none, rfl, congrArg (·, _) hsame.symm⟩
  | some out =>
    have hsome : s.info.values.isSome := by rw [hout]; rfl
    have hreads : ¬ s.base.valueReader.Unset ∧ s.base.valueReader.Reads p.data := by
      by_contra hnot
      exact h ⟨hsome, by tauto⟩
    obtain ⟨out', hout'⟩ := TypedReader.readData_reads conv p.data s.info.prevSampleIndex out n hreads.1 hreads.2
      fun hthrows => ht ⟨hsome, hthrows⟩
    dsimp only
    rw [hout']
    exact ⟨some out', rfl, rfl⟩

theorem readDomainOf_refused (h : s.DomainRefused attributes p) (n : Nat) : ∃ domainReader domainValues code,
    s.readDomainOf attributes conv p n =
        ({ s with base := { s.base with domainReader }, info := { s.info with domainValues } }, .ok code) ∧
      code ≠ .success ∧ domainValues.isSome ∧
      ∀ d, p.domainPacket = some d → ({ s.base with domainReader }).DomainRefused attributes d := by
  obtain ⟨hsome, hrefused⟩ := h
  obtain ⟨out, hout⟩ := Option.isSome_iff_exists.1 hsome
  unfold readDomainOf
  rw [hout]
  dsimp only
  cases hd : p.domainPacket with
  | none =>
    refine ⟨s.base.domainReader, s.info.domainValues, .invalidState, rfl, (nomatch ·), hsome, fun d h => nomatch h⟩
  | some d =>
    obtain ⟨domainReader, code, hread, hcode, hagain⟩ :=
      ReaderImpl.readDomain_refused conv s.info.prevSampleIndex out n (hrefused d hd)
    dsimp only
    rw [hread]
    refine ⟨domainReader, some out, code, rfl, hcode, rfl, ?_⟩
    rintro d' hd'
    obtain rfl := Option.some.inj hd'
    exact hagain

theorem readDomainOf_reads (h : ¬ s.DomainRefused attributes p) (n : Nat) :
    (∃ s' e, s.readDomainOf attributes conv p n = (s', .error e)) ∨ ∃ base domainValues,
      s.readDomainOf attributes conv p n = ({ s with base, info := { s.info with domainValues } }, .ok .success) := by
  unfold readDomainOf
  cases hout : s.info.domainValues with
  | none =>
    have hsame : { s with base := s.base, info := { s.info with domainValues := none } } = s := by rw [← hout]
    exact Or.inr ⟨s.base, none, congrArg (·, _) hsame.symm⟩
  | some out =>
    have hsome : s.info.domainValues.isSome := by rw [hout]; rfl
    unfold DomainRefused at h
    push Not at h
    obtain ⟨d, hd, hread⟩ := h hsome
    dsimp only
    rw [hd]
    dsimp only
    obtain ⟨base, ⟨e, hthrow⟩ | ⟨out', hread⟩⟩ := ReaderImpl.readDomain_read conv s.info.prevSampleIndex out n hread
    · rw [hthrow]
      exact Or.inl ⟨_, e, rfl⟩
    · rw [hread]
      exact Or.inr ⟨base, some out', rfl⟩

theorem readPacketData_of_values {r : Except Exception ErrCode}
    (h : s.readValuesOf conv p (s.toRead p) = (s', r)) (hr : r ≠ .ok .success) :
    s.readPacketData attributes conv p = (s', r) := by
  unfold toRead at h
  unfold readPacketData
  simp only [h]
  split
  · next heq => exact absurd (Prod.mk.inj heq).2 hr
  · rfl

theorem readPacketData_of_domain {r : Except Exception ErrCode}
    (h : s.readValuesOf conv p (s.toRead p) = (s', .ok .success))
    (hd : s'.readDomainOf attributes conv p (s.toRead p) = (t, r)) :
    s.readPacketData attributes conv p = if r = .ok .success then
      (t.advance (s.toRead p) (p.sampleCount.toNat - s.info.prevSampleIndex), .ok .success) else (t, r) := by
  unfold toRead at h hd
  unfold readPacketData
  simp only [h, hd]
  split
  · next heq =>
    obtain ⟨rfl, rfl⟩ := Prod.mk.inj heq
    exact (if_pos rfl).symm
  · next hnot =>
    refine (if_neg ?_).symm
    rintro rfl
    exact hnot t rfl

theorem readPacketData_refused (h : s.Refused attributes p) : ∃ s' code,
    s.readPacketData attributes conv p = (s', .ok code) ∧ s'.info.dataPacket = s.info.dataPacket ∧
      s'.info.remainingToRead = s.info.remainingToRead ∧ s'.Refused attributes p := by
  by_cases hv : s.ValuesRefused p
  · obtain ⟨code, hread, hcode⟩ := readValuesOf_refused conv (p := p) hv (s.toRead p)
    have hr : (.ok code : Except Exception ErrCode) ≠ .ok .success := fun h => hcode (Except.ok.inj h)
    exact ⟨s, code, readPacketData_of_values conv hread hr, rfl, rfl, h⟩
  · obtain ⟨hthrow, hd⟩ := (refused_iff.1 h).resolve_left hv
    obtain ⟨values, hvalues, hread⟩ := readValuesOf_reads conv hv hthrow
    have hd' : ({ s with info := { s.info with values } }).DomainRefused attributes p := hd
    obtain ⟨domainReader, domainValues, code, hdomain, hcode, hsome, hagain⟩ :=
      readDomainOf_refused conv hd' (s.toRead p)
    have hr : (.ok code : Except Exception ErrCode) ≠ .ok .success := fun h => hcode (Except.ok.inj h)
    have hpacket := readPacketData_of_domain conv hread hdomain
    rw [if_neg hr] at hpacket
    refine ⟨_, code, hpacket, rfl, rfl, refused_iff.2 (Or.inr ⟨?_, hsome, hagain⟩)⟩
    rintro ⟨hsome', hthrows⟩
    exact hthrow ⟨hvalues ▸ hsome', hthrows⟩

/-- A packet that is not refused is read, unless an exception is thrown. -/
theorem readPacketData_reads (h : ¬ s.Refused attributes p) :
    (∃ s' e, s.readPacketData attributes conv p = (s', .error e)) ∨
      ∃ base values domainValues, s.readPacketData attributes conv p =
        (({ s with base, info := { s.info with values, domainValues } }).advance (s.toRead p)
          (p.sampleCount.toNat - s.info.prevSampleIndex), .ok .success) := by
  rw [refused_iff, not_or, not_and] at h
  obtain ⟨hv, hdomain⟩ := h
  by_cases ht : s.ValuesThrow p (s.toRead p)
  · obtain ⟨e, hthrow⟩ := readValuesOf_throws conv hv ht
    exact Or.inl ⟨s, e, readPacketData_of_values conv hthrow (nomatch ·)⟩
  · obtain ⟨values, -, hread⟩ := readValuesOf_reads conv hv ht
    have hd : ¬ ({ s with info := { s.info with values } }).DomainRefused attributes p := hdomain ht
    rcases readDomainOf_reads conv hd (s.toRead p) with ⟨s', e, hthrow⟩ | ⟨base, domainValues, hread'⟩
    · have hpacket := readPacketData_of_domain conv hread hthrow
      rw [if_neg (nomatch ·)] at hpacket
      exact Or.inl ⟨s', e, hpacket⟩
    · have hpacket := readPacketData_of_domain conv hread hread'
      rw [if_pos rfl] at hpacket
      exact Or.inr ⟨base, values, domainValues, hpacket⟩

theorem writtenBy_le (s : StreamReader V) (p : DataPacket V) :
    (s.writtenBy attributes conv p).1 ≤ s.toRead p ∧ (s.writtenBy attributes conv p).2 ≤ s.toRead p := by
  unfold writtenBy
  split
  · exact ⟨Nat.le_refl _, Nat.zero_le _⟩
  · refine ⟨?_, ?_⟩
    · dsimp only
      split
      · exact Nat.le_refl _
      · exact Nat.zero_le _
    · dsimp only
      split
      · split
        · exact Nat.le_refl _
        · exact Nat.zero_le _
      · split
        · exact Nat.le_refl _
        · exact Nat.zero_le _
      · exact Nat.zero_le _
  · exact ⟨Nat.zero_le _, Nat.zero_le _⟩

/-! ## Rounds -/

/-- A bound for the rounds that are left: the packets, and whether something is still to be read. -/
def left (s : StreamReader V) : Nat :=
  2 * s.connection.length + (if s.info.dataPacket.isSome then 1 else 0) + if s.info.remainingToRead = 0 then 0 else 1

theorem handleEvent_same (s : StreamReader V) (e : EventPacket) :
    (s.handleEvent attributes e).info = s.info ∧ (s.handleEvent attributes e).connection = s.connection := by
  unfold handleEvent
  split
  · split <;> exact ⟨rfl, rfl⟩
  · exact ⟨rfl, rfl⟩

theorem nextPacket_cases {packet : Packet V} (h : s.nextPacket = some (packet, t)) :
    (∃ p, packet = .data p ∧ s.info.dataPacket = some p ∧ t = s) ∨
      s.info.dataPacket = none ∧ s.connection = packet :: t.connection ∧ t.info = s.info := by
  unfold nextPacket at h
  cases hd : s.info.dataPacket with
  | some p =>
    rw [hd] at h
    obtain ⟨rfl, rfl⟩ := Prod.mk.inj (Option.some.inj h)
    exact Or.inl ⟨p, rfl, rfl, rfl⟩
  | none =>
    rw [hd] at h
    cases hc : s.connection with
    | nil =>
      rw [hc] at h
      exact nomatch h
    | cons packet' rest =>
      rw [hc] at h
      obtain ⟨rfl, rfl⟩ := Prod.mk.inj (Option.some.inj h)
      exact Or.inr ⟨rfl, rfl, rfl⟩

theorem left_advance (s : StreamReader V) (p : DataPacket V) :
    (s.advance (s.toRead p) (p.sampleCount.toNat - s.info.prevSampleIndex)).left ≤ 2 * s.connection.length + 1 ∧
      (s.advance (s.toRead p) (p.sampleCount.toNat - s.info.prevSampleIndex)).info.remainingToRead =
        s.info.remainingToRead - s.toRead p := by
  unfold advance left
  dsimp only
  split
  · next hpart =>
    have hall : s.info.remainingToRead - s.toRead p = 0 := by
      unfold toRead at hpart ⊢
      omega
    rw [if_pos hall]
    refine ⟨?_, rfl⟩
    dsimp only
    split <;> omega
  · refine ⟨?_, rfl⟩
    dsimp only [Option.isSome_none]
    rw [if_neg Bool.false_ne_true]
    split <;> omega

section

variable (h : s.NoneRefused attributes conv) (hround : s.nextRound attributes conv = some s')

include h hround

theorem nextRound_spec :
    s'.left < s.left ∧
      (s.wrote attributes conv).1 + s'.info.remainingToRead ≤ s.info.remainingToRead ∧
      (s.wrote attributes conv).2 + s'.info.remainingToRead ≤ s.info.remainingToRead := by
  have hself : Reaches (nextRound attributes conv) s s := Relation.ReflTransGen.refl
  unfold nextRound at hround
  unfold wrote
  cases hnext : s.nextPacket with
  | none =>
    rw [hnext] at hround
    exact nomatch hround
  | some next =>
    obtain ⟨packet, t⟩ := next
    rw [hnext] at hround
    have hcases := nextPacket_cases hnext
    cases packet with
    | event e =>
      dsimp only at hround ⊢
      split at hround
      · exact nomatch hround
      · obtain rfl := Option.some.inj hround
        obtain ⟨hinfo, hconnection⟩ : (t.handleEvent attributes e).info = t.info ∧
            (t.handleEvent attributes e).connection = t.connection := handleEvent_same t e
        rcases hcases with ⟨p, hp, -, -⟩ | ⟨hnone, hqueue, hsame⟩
        · exact nomatch hp
        · rw [hinfo, hsame]
          refine ⟨?_, by omega, by omega⟩
          unfold left
          rw [hinfo, hconnection, hsame, hqueue, List.length_cons]
          omega
    | data p =>
      dsimp only at hround ⊢
      split at hround
      · exact nomatch hround
      · next hmore =>
        rw [if_neg hmore]
        have hinfo : (t.hold p).info.remainingToRead = s.info.remainingToRead := by
          rcases hcases with ⟨q, hq, hheld, rfl⟩ | ⟨hnone, hqueue, hsame⟩
          · rfl
          · show t.info.remainingToRead = _
            rw [hsame]
        have hqueue : 2 * (t.hold p).connection.length + 1 < s.left := by
          have hmore' : s.info.remainingToRead ≠ 0 := hinfo ▸ hmore
          unfold left
          rw [if_neg hmore']
          rcases hcases with ⟨q, hq, hheld, rfl⟩ | ⟨hnone, hqueue, hsame⟩
          · rw [hheld]
            show 2 * t.connection.length + 1 < 2 * t.connection.length + 1 + 1
            omega
          · rw [hqueue, List.length_cons]
            show 2 * t.connection.length + 1 < _
            omega
        obtain ⟨hwritten, hwritten'⟩ : ((t.hold p).writtenBy attributes conv p).1 ≤ (t.hold p).toRead p ∧
            ((t.hold p).writtenBy attributes conv p).2 ≤ (t.hold p).toRead p := writtenBy_le conv (t.hold p) p
        have hle : (t.hold p).toRead p ≤ (t.hold p).info.remainingToRead := Nat.min_le_left _ _
        rcases readPacketData_reads conv (h s hself p t hnext hmore) with
          ⟨s'', e, hread⟩ | ⟨base, values, domainValues, hread⟩
        · rw [hread] at hround
          exact nomatch hround
        · rw [hread] at hround
          have hs' := Option.some.inj hround
          obtain ⟨hleft, hremaining⟩ : s'.left ≤ 2 * (t.hold p).connection.length + 1 ∧
              s'.info.remainingToRead = (t.hold p).info.remainingToRead - (t.hold p).toRead p := by
            rw [← hs']
            exact left_advance ({ t.hold p with base, info := { (t.hold p).info with values, domainValues } }) p
          exact ⟨Nat.lt_of_le_of_lt hleft hqueue, by omega, by omega⟩

theorem NoneRefused.next : s'.NoneRefused attributes conv :=
  fun t hreach => h t (hreach.head hround)

end

theorem written_le (rounds : Nat) (h : s.NoneRefused attributes conv) :
    (written attributes conv rounds s).1 ≤ s.info.remainingToRead ∧
      (written attributes conv rounds s).2 ≤ s.info.remainingToRead := by
  induction rounds generalizing s with
  | zero => exact ⟨Nat.zero_le _, Nat.zero_le _⟩
  | succ rounds ih =>
    rw [written]
    cases hround : s.nextRound attributes conv with
    | none =>
      dsimp only
      unfold wrote
      cases hnext : s.nextPacket with
      | none => exact ⟨Nat.zero_le _, Nat.zero_le _⟩
      | some next =>
        obtain ⟨packet, t⟩ := next
        cases packet with
        | event e => exact ⟨Nat.zero_le _, Nat.zero_le _⟩
        | data p =>
          dsimp only
          split
          · exact ⟨Nat.zero_le _, Nat.zero_le _⟩
          · obtain ⟨hwritten, hwritten'⟩ : ((t.hold p).writtenBy attributes conv p).1 ≤ (t.hold p).toRead p ∧
                ((t.hold p).writtenBy attributes conv p).2 ≤ (t.hold p).toRead p := writtenBy_le conv (t.hold p) p
            have hle : (t.hold p).toRead p ≤ s.info.remainingToRead := by
              have hinfo : (t.hold p).toRead p ≤ t.info.remainingToRead := Nat.min_le_left _ _
              refine Nat.le_trans hinfo (Nat.le_of_eq ?_)
              rcases nextPacket_cases hnext with ⟨q, hq, hheld, rfl⟩ | ⟨hnone, hqueue, hsame⟩
              · rfl
              · rw [hsame]
            exact ⟨Nat.le_trans hwritten hle, Nat.le_trans hwritten' hle⟩
    | some s' =>
      obtain ⟨-, hwritten, hwritten'⟩ := nextRound_spec conv h hround
      obtain ⟨hrest, hrest'⟩ := ih (h.next conv hround)
      exact ⟨Nat.le_trans (Nat.add_le_add_left hrest _) hwritten, Nat.le_trans (Nat.add_le_add_left hrest' _) hwritten'⟩

/-- A packet is held that is refused, and samples are still to be read. -/
structure Stuck (attributes : DataDescriptor → DescriptorAttributes) (p : DataPacket V) (s : StreamReader V) :
    Prop where
  held : s.info.dataPacket = some p
  more : s.info.remainingToRead ≠ 0
  refused : s.Refused attributes p

theorem nextRound_refused {p : DataPacket V} (hnext : s.nextPacket = some (.data p, t))
    (hmore : (t.hold p).info.remainingToRead ≠ 0) (h : (t.hold p).Refused attributes p) :
    ∃ s', s.nextRound attributes conv = some s' ∧ s'.Stuck attributes p := by
  obtain ⟨s', code, hread, hheld, hremaining, hagain⟩ := readPacketData_refused conv h
  refine ⟨s', ?_, hheld, hremaining ▸ hmore, hagain⟩
  unfold nextRound
  rw [hnext]
  dsimp only
  rw [if_neg hmore, hread]

theorem Stuck.next {p : DataPacket V} (h : s.Stuck attributes p) :
    ∃ s', s.nextRound attributes conv = some s' ∧ s'.Stuck attributes p := by
  have hnext : s.nextPacket = some (.data p, s) := by
    unfold nextPacket
    rw [h.held]
  have hhold : s.hold p = s := by
    unfold hold
    rw [← h.held]
  exact nextRound_refused conv hnext (hhold.symm ▸ h.more) (hhold.symm ▸ h.refused)

theorem not_ends_of_refused {p : DataPacket V} (hnext : s.nextPacket = some (.data p, t))
    (hmore : (t.hold p).info.remainingToRead ≠ 0) (h : (t.hold p).Refused attributes p) :
    ¬ ∃ t', Ends (nextRound attributes conv) s t' := by
  obtain ⟨s', hround, hstuck⟩ := nextRound_refused conv hnext hmore h
  have hlast : Reaches (nextRound attributes conv) s s' := Relation.ReflTransGen.single hround
  rw [hlast.ends_iff]
  exact not_ends_of_invariant (fun _ h => Stuck.next conv h) hstuck

/--
The loop ends, and stays within the buffer, when no packet that it comes to is refused. A reader that is invalid
does not come to the loop.
-/
theorem endsInBuffer_iff (attributes : DataDescriptor → DescriptorAttributes) (conv : Conversions V)
    (s : StreamReader V) (values domain : Option (Output V)) (count : Nat) :
    s.EndsInBuffer attributes conv values domain count ↔
      s.base.invalid = true ∨ (s.prepare values domain count).NoneRefused attributes conv := by
  unfold EndsInBuffer
  refine or_congr_right ?_
  rw [readPackets_ends_iff]
  constructor
  · rintro ⟨hends, -⟩ t hreach p t' hnext hmore hrefused
    rw [hreach.ends_iff] at hends
    exact not_ends_of_refused conv hnext hmore hrefused hends
  · intro h
    refine ⟨?_, fun rounds => written_le conv rounds h⟩
    exact ends_of_measure (NoneRefused attributes conv) left
      (fun s s' hs hround => ⟨hs.next conv hround, (nextRound_spec conv hs hround).1⟩) h

/-- A reader of doubles with one packet in its queue that has no domain packet. -/
def withoutDomain : StreamReader Nat where
  base := { readMode := .scaled, skipEvents := false, invalid := false
            valueReader := { readType := .float64, transformFunction := none, dataSampleType := .float64 }
            domainReader := { readType := .int64, transformFunction := none, dataSampleType := .int64 } }
  info := { dataPacket := none, prevSampleIndex := 0, remainingToRead := 0, values := none, domainValues := none }
  connection := [.data { sampleCount := 1, data := some [5], domainPacket := none }]

/-- The domain is asked for, and the packet is read again and again. -/
theorem not_endsInBuffer_withoutDomain :
    ¬ withoutDomain.EndsInBuffer pairs keepValue (some freshOutput) (some freshOutput) 1 := by
  rintro (hinvalid | ⟨hends, -⟩)
  · exact nomatch hinvalid
  · rw [readPackets_ends_iff] at hends
    refine not_ends_of_refused keepValue rfl (by decide) (Or.inr ⟨?_, rfl, ?_⟩) hends
    · rintro - ⟨-, f, hf, -⟩
      exact nomatch hf
    · intro d hd
      exact nomatch (hd : (none : Option (DomainPacket Nat)) = some d)

end StreamReader

end OpenDaq.Reader
