import Mathlib.Data.List.Perm.Basic
import Mathlib.Data.List.TakeWhile
import Mathlib.Data.Prod.Lex
import Mathlib.Data.String.Basic
import Mathlib.Order.WithBot
import OpenDaq.Infra.SortedMap

/-!
# Reference domains that can be read together

A multi reader takes its ports when their domains are in seconds of time, and their reference domains fit. Signals
of different reference domains fit if a known time protocol connects them, and all known time protocols must be the
same. Each signal is compared with the ones before it only.
-/

namespace OpenDaq.MultiReader

open Infra

/-! ## The checks -/

inductive TimeProtocol where
  | unknown | tai | gps | utc
  deriving DecidableEq, Repr

structure ReferenceDomainInfo where
  referenceDomainId : Option String
  referenceTimeProtocol : TimeProtocol

structure DomainUnit where
  quantity : Option String
  symbol : String

structure DomainDescriptor where
  unit : Option DomainUnit
  referenceDomainInfo : Option ReferenceDomainInfo

structure PortSignal where
  localId : String
  domain : Option (Option DomainDescriptor)

/-- What `getSignal` of a port returns. -/
abbrev Port := Option PortSignal

inductive ErrCode where
  | invalidParameter | notSupported | invalidState
  deriving DecidableEq, Repr

structure Error where
  code : ErrCode
  message : String
  deriving DecidableEq, Repr

def checkDomainUnit (signal : PortSignal) : Except Error Unit :=
  let error := fun code text => Except.error (Error.mk code ("Signal \"" ++ signal.localId ++ "\" " ++ text))
  match signal.domain with
  | none => error .invalidParameter "does not have a domain signal set."
  | some none => error .invalidParameter "does not have a domain descriptor set."
  | some (some domainDescriptor) =>
    match domainDescriptor.unit with
    | none => error .invalidParameter "does not have a domain unit set."
    | some domainUnit =>
      match domainUnit.quantity with
      | none => error .invalidParameter "does not have a domain quantity set."
      | some domainQuantity =>
        if domainQuantity.length = 0 then error .invalidParameter "does not have a domain quantity set."
        else if domainQuantity ≠ "time" then
          error .notSupported ("domain quantity is not \"time\" but \"" ++ domainQuantity ++
            "\" which is not currently supported.")
        else if domainUnit.symbol ≠ "s" then
          error .notSupported ("domain unit is not \"s\" but \"" ++ domainUnit.symbol ++
            "\" which is not currently supported.")
        else .ok ()

def checkDomainUnits : List Port → Except Error Unit
  | [] => .ok ()
  | none :: ports => checkDomainUnits ports
  | some signal :: ports =>
    match checkDomainUnit signal with
    | .ok () => checkDomainUnits ports
    | .error e => .error e

@[ext]
structure ReferenceDomainBin where
  id : Option String
  timeProtocol : TimeProtocol
  deriving DecidableEq, Repr

namespace ReferenceDomainBin

/-- `operator<`. -/
def less (bin rhs : ReferenceDomainBin) : Bool :=
  if bin.id = rhs.id then bin.timeProtocol.ctorIdx < rhs.timeProtocol.ctorIdx
  else
    match bin.id, rhs.id with
    | some id, some rhsId => id < rhsId
    | none, some _ => true
    | _, none => false

/-- An id that is not assigned comes first. -/
def idPlace (bin : ReferenceDomainBin) : WithBot String := bin.id

/-- The place of a bin in the set. -/
def place (bin : ReferenceDomainBin) : WithBot String ×ₗ Nat := toLex (bin.idPlace, bin.timeProtocol.ctorIdx)

theorem place_injective : Function.Injective place := by
  intro bin rhs h
  obtain ⟨hid, hprotocol⟩ := Prod.ext_iff.1 (toLex_inj.1 h)
  refine ReferenceDomainBin.ext hid ?_
  revert hprotocol
  dsimp only
  cases bin.timeProtocol <;> cases rhs.timeProtocol <;> decide

instance : LinearOrder ReferenceDomainBin := LinearOrder.lift' place place_injective

end ReferenceDomainBin

/-- `std::set<ReferenceDomainBin>`. -/
abbrev Bins := SortedMap ReferenceDomainBin Unit

/-- The loops over the groups of bins with the same id. -/
def traverseGroups (bin : ReferenceDomainBin) : List ReferenceDomainBin → Bool
  | [] => true
  | elt :: rest =>
    let group := elt :: rest.takeWhile fun e => e.id = elt.id
    let needsKnownTimeProtocol := elt.id.isSome && bin.id.isSome && elt.id ≠ bin.id
    let hasKnownTimeProtocol := group.any fun e => e.timeProtocol ≠ .unknown
    if needsKnownTimeProtocol && !hasKnownTimeProtocol then false
    else traverseGroups bin (rest.dropWhile fun e => e.id = elt.id)
  termination_by bins => bins.length
  decreasing_by
    exact Nat.lt_succ_of_le (List.dropWhile_suffix _).length_le

/-- The loop of `checkReferenceDomainInfo`, with the known protocol and the bins so far. -/
def checkReferenceDomainInfoFrom (timeProtocol : TimeProtocol) (bins : Bins) : List Port → Except Error Unit
  | [] => .ok ()
  | none :: ports => checkReferenceDomainInfoFrom timeProtocol bins ports
  | some signal :: ports =>
    match signal.domain with
    | none =>
      .error ⟨.invalidParameter, "Signal \"" ++ signal.localId ++ "\" does not have a domain signal set."⟩
    -- a call through a null pointer throws
    | some none => .error ⟨.invalidParameter, ""⟩
    | some (some domainDescriptor) =>
      match domainDescriptor.referenceDomainInfo with
      | none => checkReferenceDomainInfoFrom timeProtocol bins ports
      | some info =>
        let known := info.referenceTimeProtocol
        if known ≠ .unknown ∧ timeProtocol ≠ .unknown ∧ known ≠ timeProtocol then
          .error ⟨.invalidState, "Only one known Reference Time Source is allowed per Multi Reader."⟩
        else
          let bin := ⟨info.referenceDomainId, info.referenceTimeProtocol⟩
          if traverseGroups bin (bins.entries.map Prod.fst) then
            checkReferenceDomainInfoFrom (if known = .unknown then timeProtocol else known)
              (bins.insertOrAssign bin ()) ports
          else .error ⟨.invalidState, "Reference domain is incompatible."⟩

variable (ports : List Port)

def checkReferenceDomainInfo : Except Error Unit :=
  checkReferenceDomainInfoFrom .unknown ∅ ports

def isDomainValid (list : List Port) : Except Error Unit :=
  match checkDomainUnits list with
  | .ok () => checkReferenceDomainInfo list
  | .error e => .error e

/-! ## What is accepted -/

/-- A bin fits to others if each of another reference domain shares it with a bin of a known protocol. -/
def Fits (others : List ReferenceDomainBin) (bin : ReferenceDomainBin) : Prop :=
  ∀ e ∈ others, e.id.isSome = true → bin.id.isSome = true → e.id ≠ bin.id →
    ∃ e' ∈ others, e'.id = e.id ∧ e'.timeProtocol ≠ .unknown

variable {bin elt e : ReferenceDomainBin}

theorem idPlace_le {rhs : ReferenceDomainBin} (h : bin < rhs) : bin.idPlace ≤ rhs.idPlace := by
  rcases Prod.Lex.toLex_lt_toLex.1 h with hlt | ⟨heq, -⟩
  · exact le_of_lt hlt
  · exact le_of_eq heq

variable {rest bins : List ReferenceDomainBin}

theorem ne_of_mem_dropWhile (hsorted : (elt :: rest).Pairwise (· < ·))
    (he : e ∈ rest.dropWhile fun e => decide (e.id = elt.id)) : e.id ≠ elt.id := by
  obtain ⟨hfirst, hrest⟩ := List.pairwise_cons.1 hsorted
  have hsuffix := List.dropWhile_suffix (fun e : ReferenceDomainBin => decide (e.id = elt.id)) (l := rest)
  have hhead := List.head?_dropWhile_not (fun e : ReferenceDomainBin => decide (e.id = elt.id)) rest
  cases hdrop : rest.dropWhile fun e => decide (e.id = elt.id) with
  | nil =>
    rw [hdrop] at he
    cases he
  | cons head tail =>
    rw [hdrop] at hsuffix he hhead
    have hne : head.id ≠ elt.id := by simpa using hhead
    have hle : elt.idPlace ≤ head.idPlace := idPlace_le (hfirst head (hsuffix.mem List.mem_cons_self))
    intro hsame
    rcases List.mem_cons.1 he with rfl | he
    · exact hne hsame
    · have htail := idPlace_le ((List.pairwise_cons.1 (hrest.sublist hsuffix.sublist)).1 e he)
      rw [show e.idPlace = elt.idPlace from hsame] at htail
      exact hne (show head.idPlace = elt.idPlace from le_antisymm htail hle)

theorem id_of_mem_takeWhile (he : e ∈ rest.takeWhile fun e => decide (e.id = elt.id)) : e.id = elt.id := by
  have hid := List.mem_takeWhile_imp he
  exact of_decide_eq_true hid

theorem mem_rest (he : e ∈ rest) : e.id = elt.id ∨ e ∈ rest.dropWhile fun e => decide (e.id = elt.id) := by
  rw [← List.takeWhile_append_dropWhile (p := fun e : ReferenceDomainBin => decide (e.id = elt.id)) (l := rest)] at he
  exact (List.mem_append.1 he).imp_left id_of_mem_takeWhile

theorem any_group_iff (hsorted : (elt :: rest).Pairwise (· < ·)) :
    ((elt :: rest.takeWhile fun e => decide (e.id = elt.id)).any fun e => decide (e.timeProtocol ≠ .unknown)) = true ↔
      ∃ e ∈ elt :: rest, e.id = elt.id ∧ e.timeProtocol ≠ .unknown := by
  have hsplit := List.takeWhile_append_dropWhile (p := fun e : ReferenceDomainBin => decide (e.id = elt.id)) (l := rest)
  rw [List.any_eq_true]
  constructor
  · rintro ⟨e, he, hknown⟩
    have hid : e.id = elt.id := by
      rcases List.mem_cons.1 he with rfl | he
      · rfl
      · exact id_of_mem_takeWhile he
    refine ⟨e, ?_, hid, of_decide_eq_true hknown⟩
    rw [← hsplit]
    exact List.mem_cons.2 ((List.mem_cons.1 he).imp_right (List.mem_append_left _))
  · rintro ⟨e, he, hid, hknown⟩
    refine ⟨e, ?_, decide_eq_true hknown⟩
    rcases List.mem_cons.1 he with rfl | he
    · exact List.mem_cons_self
    · rw [← hsplit] at he
      rcases List.mem_append.1 he with he | he
      · exact List.mem_cons_of_mem _ he
      · exact absurd hid (ne_of_mem_dropWhile hsorted he)

theorem traverseGroups_iff (hsorted : bins.Pairwise (· < ·)) : traverseGroups bin bins = true ↔ Fits bins bin := by
  fun_induction traverseGroups bin bins with
  | case1 => exact iff_of_true rfl fun _ he => nomatch he
  | case2 elt rest group needs has hfails =>
    obtain ⟨hneeds, hhas⟩ := Bool.and_eq_true_iff.1 hfails
    obtain ⟨hassigned, hne⟩ := Bool.and_eq_true_iff.1 hneeds
    obtain ⟨helt, hbin⟩ := Bool.and_eq_true_iff.1 hassigned
    refine iff_of_false Bool.false_ne_true fun hfits => ?_
    have hknown := (any_group_iff hsorted).2 (hfits elt List.mem_cons_self helt hbin (of_decide_eq_true hne))
    exact Bool.false_ne_true ((Bool.not_eq_true' has).mp hhas ▸ hknown)
  | case3 elt rest group needs has hok ih =>
    have hsuffix := List.dropWhile_suffix (fun e : ReferenceDomainBin => decide (e.id = elt.id)) (l := rest)
    have hrest := (List.pairwise_cons.1 hsorted).2.sublist hsuffix.sublist
    rw [ih hrest]
    constructor
    · intro hfits e he hassigned hbin hne
      by_cases hid : e.id = elt.id
      · have hneeds : needs = true := by
          rw [hid] at hassigned hne
          exact Bool.and_eq_true_iff.2 ⟨Bool.and_eq_true_iff.2 ⟨hassigned, hbin⟩, decide_eq_true hne⟩
        have hhas : has = true := by
          cases hcase : has with
          | true => rfl
          | false => exact absurd (by rw [hneeds, hcase]; rfl) hok
        rw [hid]
        exact (any_group_iff hsorted).1 hhas
      · have hin : e ∈ rest.dropWhile fun e => decide (e.id = elt.id) := by
          rcases List.mem_cons.1 he with rfl | he
          · exact absurd rfl hid
          · exact (mem_rest he).resolve_left hid
        obtain ⟨e', he', hsame⟩ := hfits e hin hassigned hbin hne
        exact ⟨e', List.mem_cons_of_mem _ (hsuffix.mem he'), hsame⟩
    · intro hfits e he hassigned hbin hne
      have hid := ne_of_mem_dropWhile hsorted he
      obtain ⟨e', he', hsame, hknown⟩ := hfits e (List.mem_cons_of_mem _ (hsuffix.mem he)) hassigned hbin hne
      refine ⟨e', ?_, hsame, hknown⟩
      rcases List.mem_cons.1 he' with rfl | he'
      · exact absurd hsame.symm hid
      · exact (mem_rest he').resolve_left fun hsame' => hid (hsame.symm.trans hsame')

theorem Fits.congr {others others' : List ReferenceDomainBin}
    (h : Fits others bin) (hsame : ∀ e, e ∈ others ↔ e ∈ others') : Fits others' bin := by
  intro e he hassigned hbin hne
  obtain ⟨e', he', hknown⟩ := h e ((hsame e).2 he) hassigned hbin hne
  exact ⟨e', (hsame e').1 he', hknown⟩

def FitsAll : (before bins : List ReferenceDomainBin) → Prop
  | _, [] => True
  | before, bin :: bins => Fits before bin ∧ FitsAll (before ++ [bin]) bins

theorem fitsAll_iff : ∀ {before bins : List ReferenceDomainBin},
    FitsAll before bins ↔ ∀ pre bin post, bins = pre ++ bin :: post → Fits (before ++ pre) bin
  | before, [] => iff_of_true trivial fun pre bin post h => absurd h.symm (by simp)
  | before, bin :: bins => by
    rw [FitsAll, fitsAll_iff]
    constructor
    · rintro ⟨hbin, hrest⟩ pre bin' post heq
      cases pre with
      | nil =>
        obtain ⟨rfl, -⟩ := List.cons.inj heq
        rwa [List.append_nil]
      | cons first pre =>
        obtain ⟨rfl, htail⟩ := List.cons.inj heq
        have := hrest pre bin' post htail
        rwa [List.append_assoc] at this
    · intro h
      refine ⟨by simpa using h [] bin bins rfl, fun pre bin' post heq => ?_⟩
      rw [List.append_assoc]
      exact h (bin :: pre) bin' post (by rw [heq]; rfl)

/-- The known time protocols are the same. -/
def Agree (protocols : List TimeProtocol) : Prop :=
  ∀ p ∈ protocols, ∀ q ∈ protocols, p ≠ .unknown → q ≠ .unknown → p = q

theorem agree_cons_cons {known protocol : TimeProtocol} {protocols : List TimeProtocol} :
    Agree (known :: protocol :: protocols) ↔
      ¬ (protocol ≠ .unknown ∧ known ≠ .unknown ∧ protocol ≠ known) ∧
        Agree ((if protocol = .unknown then known else protocol) :: protocols) := by
  constructor
  · intro h
    refine ⟨fun hclash => hclash.2.2 (h _ (by simp) _ (by simp) hclash.1 hclash.2.1), fun p hp q hq => ?_⟩
    have hmem : ∀ p ∈ (if protocol = .unknown then known else protocol) :: protocols,
        p ∈ known :: protocol :: protocols := by
      intro p hp
      split at hp <;> rcases List.mem_cons.1 hp with rfl | hp <;> simp_all
    exact h p (hmem p hp) q (hmem q hq)
  · rintro ⟨hclash, h⟩ p hp q hq hpknown hqknown
    have hmem : ∀ p ∈ known :: protocol :: protocols, p ≠ .unknown →
        p ∈ (if protocol = .unknown then known else protocol) :: protocols := by
      intro p hp hpknown
      rcases List.mem_cons.1 hp with rfl | hp
      · by_cases hunknown : protocol = .unknown
        · rw [if_pos hunknown]
          exact List.mem_cons_self
        · have heq : protocol = p := not_not.1 fun hne => hclash ⟨hunknown, hpknown, hne⟩
          rw [if_neg hunknown, heq]
          exact List.mem_cons_self
      · rcases List.mem_cons.1 hp with rfl | hp
        · rw [if_neg hpknown]
          exact List.mem_cons_self
        · exact List.mem_cons_of_mem _ hp
    exact h p (hmem p hp hpknown) q (hmem q hq hqknown) hpknown hqknown

/-- The bin of a port, if the domain of its signal has a reference domain. -/
def bin? (port : Port) : Option ReferenceDomainBin :=
  port.bind fun signal => signal.domain.join.bind fun domainDescriptor =>
    domainDescriptor.referenceDomainInfo.map fun info => ⟨info.referenceDomainId, info.referenceTimeProtocol⟩

/-- The bins in the order of the ports. -/
def binsOf : List ReferenceDomainBin := ports.filterMap bin?

theorem checkDomainUnits_iff : ∀ {ports : List Port},
    checkDomainUnits ports = .ok () ↔ ∀ signal, some signal ∈ ports → checkDomainUnit signal = .ok ()
  | [] => by simp [checkDomainUnits]
  | none :: ports => by simp [checkDomainUnits, checkDomainUnits_iff]
  | some signal :: ports => by
    cases hsignal : checkDomainUnit signal with
    | ok _ => simp [checkDomainUnits, hsignal, checkDomainUnits_iff]
    | error e => simp [checkDomainUnits, hsignal]

theorem domain_of_checkDomainUnit {signal : PortSignal} (h : checkDomainUnit signal = .ok ()) :
    ∃ domainDescriptor, signal.domain = some (some domainDescriptor) := by
  unfold checkDomainUnit at h
  cases hdomain : signal.domain with
  | none =>
    rw [hdomain] at h
    cases h
  | some descriptor =>
    cases descriptor with
    | none =>
      rw [hdomain] at h
      cases h
    | some domainDescriptor => exact ⟨domainDescriptor, rfl⟩

theorem checkReferenceDomainInfoFrom_iff : ∀ {ports : List Port} {timeProtocol : TimeProtocol} {bins : Bins}
    {before : List ReferenceDomainBin}, (∀ signal, some signal ∈ ports → checkDomainUnit signal = .ok ()) →
    (∀ e, e ∈ bins.entries.map Prod.fst ↔ e ∈ before) → (checkReferenceDomainInfoFrom timeProtocol bins ports = .ok () ↔
      Agree (timeProtocol :: (binsOf ports).map (·.timeProtocol)) ∧ FitsAll before (binsOf ports))
  | [], timeProtocol, bins, before, _, _ => by
    simp [checkReferenceDomainInfoFrom, binsOf, Agree, FitsAll]
  | none :: ports, timeProtocol, bins, before, hunits, hbefore => by
    rw [checkReferenceDomainInfoFrom, checkReferenceDomainInfoFrom_iff (fun s hs => hunits s (by simp [hs])) hbefore]
    rfl
  | some signal :: ports, timeProtocol, bins, before, hunits, hbefore => by
    have hports : ∀ s, some s ∈ ports → checkDomainUnit s = .ok () := fun s hs => hunits s (by simp [hs])
    obtain ⟨domainDescriptor, hdomain⟩ := domain_of_checkDomainUnit (hunits signal (by simp))
    cases hinfo : domainDescriptor.referenceDomainInfo with
    | none =>
      have hnone : binsOf (some signal :: ports) = binsOf ports := by simp [binsOf, bin?, hdomain, hinfo]
      rw [hnone, ← checkReferenceDomainInfoFrom_iff hports hbefore, checkReferenceDomainInfoFrom, hdomain]
      dsimp only
      rw [hinfo]
    | some info =>
      have hsome : binsOf (some signal :: ports) =
          ⟨info.referenceDomainId, info.referenceTimeProtocol⟩ :: binsOf ports := by
        simp [binsOf, bin?, hdomain, hinfo]
      rw [hsome, List.map_cons, agree_cons_cons, FitsAll, checkReferenceDomainInfoFrom, hdomain]
      dsimp only
      rw [hinfo]
      dsimp only
      by_cases hclash : info.referenceTimeProtocol ≠ .unknown ∧ timeProtocol ≠ .unknown ∧
          info.referenceTimeProtocol ≠ timeProtocol
      · rw [if_pos hclash]
        exact iff_of_false (fun h => nomatch h) fun h => h.1.1 hclash
      rw [if_neg hclash]
      have hsorted : (bins.entries.map Prod.fst).Pairwise (· < ·) := List.pairwise_map.2 bins.sorted
      have hfits : traverseGroups ⟨info.referenceDomainId, info.referenceTimeProtocol⟩ (bins.entries.map Prod.fst) =
          true ↔ Fits before ⟨info.referenceDomainId, info.referenceTimeProtocol⟩ :=
        (traverseGroups_iff hsorted).trans ⟨fun h => h.congr hbefore, fun h => h.congr fun e => (hbefore e).symm⟩
      have hafter : ∀ e, e ∈ (bins.insertOrAssign ⟨info.referenceDomainId, info.referenceTimeProtocol⟩ ()).entries.map
          Prod.fst ↔ e ∈ before ++ [⟨info.referenceDomainId, info.referenceTimeProtocol⟩] := by
        intro e
        rw [SortedMap.mem_keys_insertOrAssign, hbefore, List.mem_append, List.mem_singleton, or_comm]
      by_cases htraverse : traverseGroups ⟨info.referenceDomainId, info.referenceTimeProtocol⟩
          (bins.entries.map Prod.fst) = true
      · rw [if_pos htraverse, checkReferenceDomainInfoFrom_iff hports hafter]
        have := hfits.1 htraverse
        tauto
      · rw [if_neg htraverse]
        exact iff_of_false (fun h => nomatch h) fun h => htraverse (hfits.2 h.2.1)

theorem isDomainValid_iff (list : List Port) : isDomainValid list = .ok () ↔
    checkDomainUnits list = .ok () ∧ Agree ((binsOf list).map (·.timeProtocol)) ∧ FitsAll [] (binsOf list) := by
  unfold isDomainValid checkReferenceDomainInfo
  cases hunits : checkDomainUnits list with
  | error e => simp
  | ok _ =>
    have hagree : Agree (.unknown :: (binsOf list).map (·.timeProtocol)) ↔
        Agree ((binsOf list).map (·.timeProtocol)) := by
      constructor
      · exact fun h p hp q hq => h p (List.mem_cons_of_mem _ hp) q (List.mem_cons_of_mem _ hq)
      · intro h p hp q hq hpknown hqknown
        exact h p ((List.mem_cons.1 hp).resolve_left hpknown) q ((List.mem_cons.1 hq).resolve_left hqknown) hpknown
          hqknown
    rw [← hagree]
    have hempty : ∀ e, e ∈ (∅ : Bins).entries.map Prod.fst ↔ e ∈ ([] : List ReferenceDomainBin) := fun _ => Iff.rfl
    simpa using checkReferenceDomainInfoFrom_iff (checkDomainUnits_iff.1 hunits) hempty

/-! ## The order of the ports -/

/-- No permutation of the ports is accepted while another is not. -/
def OrderIndependent : Prop :=
  ∀ ports' : List Port, ports.Perm ports' → (isDomainValid ports = .ok () ↔ isDomainValid ports' = .ok ())

/-- A reference domain of which no time protocol is known. -/
def Dark (bins : List ReferenceDomainBin) (id : String) : Prop :=
  (∃ bin ∈ bins, bin.id = some id) ∧ ∀ bin ∈ bins, bin.id = some id → bin.timeProtocol = .unknown

/-- A bin of no known protocol refuses one of another domain that comes after it, but it can be put last. -/
def OrderMatters (bins : List ReferenceDomainBin) : Prop :=
  (∃ bin ∈ bins, ∃ bin' ∈ bins, bin.id.isSome = true ∧ bin'.id.isSome = true ∧ bin.id ≠ bin'.id ∧
    bin.timeProtocol = .unknown) ∧
  ∀ id id', Dark bins id → Dark bins id' → id = id'

theorem fitsAll_append : ∀ {before l l' : List ReferenceDomainBin},
    FitsAll before (l ++ l') ↔ FitsAll before l ∧ FitsAll (before ++ l) l'
  | before, [], l' => by simp [FitsAll]
  | before, bin :: l, l' => by
    rw [List.cons_append, FitsAll, FitsAll, fitsAll_append, List.append_assoc, List.singleton_append, and_assoc]

theorem fitsAll_of_known {before : List ReferenceDomainBin}
    (h : ∀ bin ∈ bins, ∀ e ∈ before ++ bins, e.id.isSome = true → bin.id.isSome = true → e.id ≠ bin.id →
      e.timeProtocol ≠ .unknown ∨ ∃ e' ∈ before, e'.id = e.id ∧ e'.timeProtocol ≠ .unknown) :
    FitsAll before bins := by
  rw [fitsAll_iff]
  rintro pre bin post rfl e he hassigned hbin hne
  have hmem : e ∈ before ++ (pre ++ bin :: post) := by
    rcases List.mem_append.1 he with he | he
    · exact List.mem_append_left _ he
    · exact List.mem_append_right _ (List.mem_append_left _ he)
  rcases h bin (by simp) e hmem hassigned hbin hne with hknown | ⟨e', he', hknown⟩
  · exact ⟨e, he, rfl, hknown⟩
  · exact ⟨e', List.mem_append_left _ he', hknown⟩

theorem exists_perm_refused {ports : List Port}
    (h : ∃ bin ∈ binsOf ports, ∃ bin' ∈ binsOf ports, bin.id.isSome = true ∧ bin'.id.isSome = true ∧
      bin.id ≠ bin'.id ∧ bin.timeProtocol = .unknown) :
    ∃ ports' : List Port, ports.Perm ports' ∧ ¬ FitsAll [] (binsOf ports') := by
  obtain ⟨bin, hbin, bin', hbin', hassigned, hassigned', hne, hunknown⟩ := h
  obtain ⟨port, hport, hport_bin⟩ := List.mem_filterMap.1 hbin
  obtain ⟨port', hport', hport_bin'⟩ := List.mem_filterMap.1 hbin'
  obtain ⟨l, l', rfl⟩ := List.append_of_mem hport
  have hother : port' ∈ l ++ l' := by
    have hdifferent : port' ≠ port := by
      rintro rfl
      exact hne (congrArg ReferenceDomainBin.id (Option.some.inj (hport_bin.symm.trans hport_bin')))
    rw [List.mem_append, List.mem_cons] at hport'
    rw [List.mem_append]
    tauto
  obtain ⟨m, m', hsplit⟩ := List.append_of_mem hother
  refine ⟨port :: port' :: (m ++ m'), ?_, fun hfits => ?_⟩
  · refine List.perm_middle.trans (List.Perm.cons _ ?_)
    rw [hsplit]
    exact List.perm_middle
  · have hbins : binsOf (port :: port' :: (m ++ m')) = bin :: bin' :: binsOf (m ++ m') := by
      simp [binsOf, hport_bin, hport_bin']
    rw [hbins, FitsAll, FitsAll] at hfits
    obtain ⟨e, he, -, hknown⟩ := hfits.2.1 bin (by simp) hassigned hassigned' hne
    rw [List.nil_append, List.mem_singleton] at he
    exact hknown (he ▸ hunknown)

theorem exists_perm_accepted {ports : List Port}
    (h : ∀ id id', Dark (binsOf ports) id → Dark (binsOf ports) id' → id = id') :
    ∃ ports' : List Port, ports.Perm ports' ∧ FitsAll [] (binsOf ports') := by
  classical
  let early : Port → Bool := fun port => decide (∀ bin, bin? port = some bin → bin.timeProtocol ≠ .unknown)
  let late : Port → Bool := fun port => decide (∃ bin id, bin? port = some bin ∧ bin.id = some id ∧
    Dark (binsOf ports) id)
  let first := ports.filter early
  let rest := ports.filter fun port => !early port
  let middle := rest.filter fun port => !late port
  let last := rest.filter late
  have hfirst : ∀ {e}, e ∈ binsOf first ↔ e ∈ binsOf ports ∧ e.timeProtocol ≠ .unknown := by
    intro e
    constructor
    · intro he
      obtain ⟨port, hport, hbin⟩ := List.mem_filterMap.1 he
      obtain ⟨hport, hearly⟩ := List.mem_filter.1 hport
      exact ⟨List.mem_filterMap.2 ⟨port, hport, hbin⟩, of_decide_eq_true hearly e hbin⟩
    · rintro ⟨he, hknown⟩
      obtain ⟨port, hport, hbin⟩ := List.mem_filterMap.1 he
      refine List.mem_filterMap.2 ⟨port, List.mem_filter.2 ⟨hport, decide_eq_true fun bin hbin' => ?_⟩, hbin⟩
      rwa [← Option.some.inj (hbin.symm.trans hbin')]
  have hmiddle : ∀ {e}, e ∈ binsOf middle → e ∈ binsOf ports ∧ ∀ id, e.id = some id → ¬ Dark (binsOf ports) id := by
    intro e he
    obtain ⟨port, hport, hbin⟩ := List.mem_filterMap.1 he
    obtain ⟨hrest, hlate⟩ := List.mem_filter.1 hport
    refine ⟨List.mem_filterMap.2 ⟨port, (List.mem_filter.1 hrest).1, hbin⟩, fun id hid hdark => ?_⟩
    have hlate' : late port = true := decide_eq_true ⟨e, id, hbin, hid, hdark⟩
    rw [hlate'] at hlate
    cases hlate
  have hlast : ∀ {e}, e ∈ binsOf last → ∃ id, e.id = some id ∧ Dark (binsOf ports) id := by
    intro e he
    obtain ⟨port, hport, hbin⟩ := List.mem_filterMap.1 he
    obtain ⟨bin, id, hbin', hid, hdark⟩ := of_decide_eq_true (List.mem_filter.1 hport).2
    obtain rfl : e = bin := Option.some.inj (hbin.symm.trans hbin')
    exact ⟨id, hid, hdark⟩
  -- what is not in the dark has a known protocol, which has come first
  have hlit : ∀ {e}, e ∈ binsOf middle → e.id.isSome = true → ∃ e' ∈ binsOf first, e'.id = e.id ∧
      e'.timeProtocol ≠ .unknown := by
    intro e he hassigned
    obtain ⟨id, hid⟩ := Option.isSome_iff_exists.1 hassigned
    obtain ⟨hmem, hlit⟩ := hmiddle he
    by_contra hnone
    refine hlit id hid ⟨⟨e, hmem, hid⟩, fun e' he' hid' => not_not.1 fun hknown => hnone ?_⟩
    exact ⟨e', hfirst.2 ⟨he', hknown⟩, hid'.trans hid.symm, hknown⟩
  refine ⟨first ++ (middle ++ last), ?_, ?_⟩
  · have hrest : (middle ++ last).Perm rest := List.perm_append_comm.trans (List.filter_append_perm late rest)
    exact ((List.Perm.append_left first hrest).trans (List.filter_append_perm early ports)).symm
  · rw [binsOf, List.filterMap_append, List.filterMap_append, fitsAll_append, fitsAll_append, List.nil_append]
    refine ⟨fitsAll_of_known ?_, fitsAll_of_known ?_, fitsAll_of_known ?_⟩
    · exact fun _ _ e he _ _ _ => Or.inl (hfirst.1 he).2
    · intro _ _ e he hassigned _ _
      rcases List.mem_append.1 he with he | he
      · exact Or.inl (hfirst.1 he).2
      · exact Or.inr (hlit he hassigned)
    · intro bin hbin e he hassigned _ hne
      rcases List.mem_append.1 he with he | he
      · rcases List.mem_append.1 he with he | he
        · exact Or.inl (hfirst.1 he).2
        · obtain ⟨e', he', hsame⟩ := hlit he hassigned
          exact Or.inr ⟨e', List.mem_append_left _ he', hsame⟩
      · obtain ⟨id, hid, hdark⟩ := hlast he
        obtain ⟨id', hid', hdark'⟩ := hlast hbin
        rw [hid, hid', h id id' hdark hdark'] at hne
        exact absurd rfl hne

theorem not_fitsAll_of_dark {id id' : String} (hdark : Dark bins id)
    (hdark' : Dark bins id') (hne : id ≠ id') : ¬ FitsAll [] bins := by
  have hrefused : ∀ {id id' : String} {bin bin' : ReferenceDomainBin} {pre post : List ReferenceDomainBin},
      Dark bins id → id ≠ id' → bin.id = some id → bin'.id = some id' → bins = pre ++ bin' :: post → bin ∈ pre →
      ¬ FitsAll [] bins := by
    intro id id' bin bin' pre post hdark hne hid hid' hsplit hbin hfits
    have hfit := fitsAll_iff.1 hfits pre bin' post hsplit
    have hdifferent : bin.id ≠ bin'.id := by
      rw [hid, hid']
      exact fun h => hne (Option.some.inj h)
    obtain ⟨e, he, hsame, hknown⟩ := hfit bin hbin (hid ▸ rfl) (hid' ▸ rfl) hdifferent
    refine hknown (hdark.2 e ?_ (hsame.trans hid))
    rw [hsplit]
    exact List.mem_append_left _ he
  obtain ⟨bin, hbin, hid⟩ := hdark.1
  obtain ⟨bin', hbin', hid'⟩ := hdark'.1
  obtain ⟨pre, post, hsplit⟩ := List.append_of_mem hbin'
  rw [hsplit, List.mem_append, List.mem_cons] at hbin
  rcases hbin with hbefore | rfl | hafter
  · exact hrefused hdark hne hid hid' hsplit hbefore
  · exact absurd (Option.some.inj (hid.symm.trans hid')) hne
  · obtain ⟨between, after, rfl⟩ := List.append_of_mem hafter
    have hsplit' : bins = (pre ++ bin' :: between) ++ bin :: after := by
      rw [hsplit, List.append_assoc, List.cons_append]
    exact hrefused hdark' (Ne.symm hne) hid' hid hsplit' (by simp)

section

variable {ports ports' : List Port} (hperm : ports.Perm ports')

include hperm

theorem checkDomainUnits_perm : checkDomainUnits ports = .ok () ↔ checkDomainUnits ports' = .ok () := by
  rw [checkDomainUnits_iff, checkDomainUnits_iff]
  simp only [hperm.mem_iff]

theorem binsOf_perm : (binsOf ports).Perm (binsOf ports') :=
  hperm.filterMap bin?

theorem agree_perm : Agree ((binsOf ports).map (·.timeProtocol)) ↔ Agree ((binsOf ports').map (·.timeProtocol)) := by
  unfold Agree
  simp only [((binsOf_perm hperm).map _).mem_iff]

end

/-- The order matters when the list is not refused anyway, and at most one reference domain is in the dark. -/
theorem orderIndependent_iff : OrderIndependent ports ↔
    ¬ (checkDomainUnits ports = .ok () ∧ Agree ((binsOf ports).map (·.timeProtocol)) ∧
      OrderMatters (binsOf ports)) := by
  constructor
  · rintro h ⟨hunits, hagree, hmeet, hdark⟩
    obtain ⟨accepted, hperm, hfits⟩ := exists_perm_accepted hdark
    obtain ⟨refused, hperm', hnot⟩ := exists_perm_refused hmeet
    have haccepted : isDomainValid accepted = .ok () :=
      (isDomainValid_iff accepted).2 ⟨(checkDomainUnits_perm hperm).1 hunits, (agree_perm hperm).1 hagree, hfits⟩
    exact hnot ((isDomainValid_iff refused).1 ((h refused hperm').1 ((h accepted hperm).2 haccepted))).2.2
  · intro h ports' hperm
    rw [isDomainValid_iff, isDomainValid_iff, ← checkDomainUnits_perm hperm, ← agree_perm hperm]
    refine and_congr_right fun hunits => and_congr_right fun hagree => ?_
    have hmatters : ¬ OrderMatters (binsOf ports) := fun hmatters => h ⟨hunits, hagree, hmatters⟩
    rw [OrderMatters, not_and_or] at hmatters
    rcases hmatters with hmeet | hdark
    · -- any two bins of different domains have known protocols
      have hfits : ∀ {l : List ReferenceDomainBin}, (binsOf ports).Perm l → FitsAll [] l := by
        intro l hl
        refine fitsAll_of_known fun bin hbin e he hassigned hassigned' hne => Or.inl fun hunknown => hmeet ?_
        exact ⟨e, hl.mem_iff.2 he, bin, hl.mem_iff.2 hbin, hassigned, hassigned', hne, hunknown⟩
      exact iff_of_true (hfits (List.Perm.refl _)) (hfits (binsOf_perm hperm))
    · push Not at hdark
      obtain ⟨id, id', hid, hid', hne⟩ := hdark
      have hdark' : ∀ {id}, Dark (binsOf ports) id → Dark (binsOf ports') id := by
        intro id h
        unfold Dark at h ⊢
        simpa only [(binsOf_perm hperm).mem_iff] using h
      exact iff_of_false (not_fitsAll_of_dark hid hid' hne) (not_fitsAll_of_dark (hdark' hid) (hdark' hid') hne)

/-- A port whose domain is in seconds, with this reference domain. -/
def inSeconds (referenceDomainId : Option String) (referenceTimeProtocol : TimeProtocol) : Port :=
  some ⟨"sig", some (some ⟨some ⟨some "time", "s"⟩, some ⟨referenceDomainId, referenceTimeProtocol⟩⟩)⟩

/-- The domain `A` has a known protocol, which is noticed when it comes before the domain `B`. -/
theorem not_orderIndependent_unknownFirst : ¬ ∀ ports ports' : List Port, ports.Perm ports' →
    (isDomainValid ports = .ok () ↔ isDomainValid ports' = .ok ()) := by
  intro h
  have hsame := h [inSeconds (some "A") .gps, inSeconds (some "A") .unknown, inSeconds (some "B") .gps]
    [inSeconds (some "A") .unknown, inSeconds (some "B") .gps, inSeconds (some "A") .gps]
    (List.perm_append_comm_assoc [_] [_, _] [])
  rw [isDomainValid_iff, isDomainValid_iff] at hsame
  have hfits := (hsame.1 ⟨by rfl, by simp [binsOf, bin?, inSeconds, Agree],
    by simp [binsOf, bin?, inSeconds, FitsAll, Fits]⟩).2.2
  simp [binsOf, bin?, inSeconds, FitsAll, Fits] at hfits

end OpenDaq.MultiReader
