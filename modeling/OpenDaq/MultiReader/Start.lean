import OpenDaq.MultiReader.EpochOffset
import OpenDaq.MultiReader.Offset
import OpenDaq.Infra.Run
import Mathlib.Data.Rat.Cast.Order

/-!
# The common start of a multi reader

When a multi reader synchronises, it chooses the earliest epoch and the finest resolution of its signals
(`setStartInfo`), takes the latest of their first samples and rounds it up to the grid on which reading may
begin (`readDomainStart`). The start that was found is kept and takes part in the next search, where the
epoch and the resolution may be others. All numbers have 64 bits, and a run ends where one does not fit.
-/

namespace OpenDaq.MultiReader

open Infra

/-! ## State -/

/-- The length as a number. -/
def Ratio.toRat (r : Ratio) : ℚ := r.num / r.den

/-- What the start depends on in a `SignalReader`. -/
structure SignalReader where
  domainInfo : ReaderDomainInfo
  synced : SyncStatus
  deriving DecidableEq

/-- What was asked for when a start was found: the exact times of the first samples in the ticks just
chosen, the length of such a tick and the length of the grid. -/
structure Search where
  times : List ℚ
  tickLength : ℚ
  gridLength : ℚ
  deriving DecidableEq

/--
`MultiReaderImpl`. The common start is a value with the index of the signal whose domain info it refers to.
`search` is not in the code; it remembers what the common start was last found for.
-/
@[ext]
structure MultiReaderImpl where
  signals : List SignalReader
  startOnFullUnitOfDomain : Bool
  sampleRateDividerLcm : Int
  commonSampleRate : Int
  lcm_pos : 0 < sampleRateDividerLcm
  rate_pos : 0 < commonSampleRate
  commonStart : Option (Int × Nat)
  search : Option Search

instance : DecidableEq MultiReaderImpl := fun _ _ => decidable_of_iff _ MultiReaderImpl.ext_iff.symm

/-! ## The epoch and the resolution -/

/-- `RatioImpl::equals`. -/
def Ratio.equals (r r' : Ratio) : Bool :=
  r.simplify.num == r'.simplify.num && r.simplify.den == r'.simplify.den

/-- The comparison of two resolutions, as doubles. -/
def Ratio.lt (r r' : Ratio) : Bool := decide (divideDouble r.num r.den < divideDouble r'.num r'.den)

/-- The loop of `setStartInfo` over the signals. -/
def chooseStart : (maxResolution : Resolution) → (minEpoch : Int) → List SignalReader → Resolution × Int
  | maxResolution, minEpoch, [] => (maxResolution, minEpoch)
  | maxResolution, minEpoch, sigInfo :: rest =>
    chooseStart
      (if sigInfo.domainInfo.resolution.lt maxResolution.toRatio then sigInfo.domainInfo.resolution
        else maxResolution)
      (if sigInfo.domainInfo.epoch < minEpoch then sigInfo.domainInfo.epoch else minEpoch) rest

/-- The product of two ratios, without their being simplified. -/
def Ratio.mul (r r' : Ratio) : Ratio where
  num := r.num * r'.num
  den := r.den * r'.den
  num_pos := Int.mul_pos r.num_pos r'.num_pos
  den_pos := Int.mul_pos r.den_pos r'.den_pos

/-- The ratio turned over. -/
def Ratio.inv (r : Ratio) : Ratio where
  num := r.den
  den := r.num
  num_pos := r.den_pos
  den_pos := r.num_pos

/-- As a resolution that a descriptor can have. -/
def Resolution.toTickResolution (r : Resolution) : TickResolution where
  num := r.num
  den := r.den
  num_fits := r.num_fits
  den_fits := r.den_fits
  den_ne_zero := r.den_pos.ne'

variable (info : ReaderDomainInfo)

/-- The multiplier for common ticks of this length. -/
def ReaderDomainInfo.multiplierTo (maxResolution : Resolution) : Ratio :=
  (info.resolution.toRatio.mul maxResolution.toRatio.inv).simplify

/-- `ReaderDomainInfo::adjustToCommonEpochResolution`. -/
def ReaderDomainInfo.adjustToCommonEpochResolution (minEpoch : Int) (maxResolution : Resolution) :
    Except ConversionFault ReaderDomainInfo := do
  let offset ← setEpochOffset info.epoch minEpoch maxResolution.toTickResolution
  let _ ← checked (info.resolution.num * maxResolution.den)
  let _ ← checked (info.resolution.den * maxResolution.num)
  .ok { info with offset, multiplier := info.multiplierTo maxResolution }

/-- `SignalReader::setStartInfo`. -/
def SignalReader.setStartInfo (s : SignalReader) (minEpoch : Int) (maxResolution : Resolution) :
    Except ConversionFault SignalReader := do
  let domainInfo ← s.domainInfo.adjustToCommonEpochResolution minEpoch maxResolution
  .ok { domainInfo, synced := .unsynchronized }

/-! ## The start -/

/-- The tick of the sample at `prevSampleIndex`. -/
def startTick (packet : DomainPacket) (prevSampleIndex : Nat) : Int :=
  match packet with
  | .linear p => p.tick prevSampleIndex
  | .samples data => data.getD prevSampleIndex 0

/-- `readStart` and `readStartLinear`, up to the conversion to common ticks. -/
def readStartTick (packet : DomainPacket) (prevSampleIndex : Nat) : Except ConversionFault Int :=
  match packet with
  | .linear p => do
    let ruleStart ← checked (p.start + p.rdOffset)
    let start ← checked (ruleStart + p.packetOffset)
    let ticks ← checked (p.delta * prevSampleIndex)
    checked (start + ticks)
  | .samples data => .ok (data.getD prevSampleIndex 0)

/-- A step of the loop in `readDomainStart`. -/
def laterStart (commonStart : Option (Int × Nat)) (sigStart : Int × Nat) : Option (Int × Nat) :=
  match commonStart with
  | none => some sigStart
  | some c => if c.1 < sigStart.1 then some sigStart else some c

/-- What ends a search: an exception, or what is undefined. -/
inductive StartFault where
  /-- "Resolution must be aligned on full unit of domain". -/
  | notAligned
  | conversion (fault : ConversionFault)
  deriving DecidableEq

/--
The body that `roundUpOnUnitOfDomain` and `roundUpOnDomainInterval` share, with the parts of the ratio of a
tick and the grid.
-/
def roundUp (num den value : Int) : Except StartFault Int :=
  let gcd := Int.gcd num den
  let num := num / gcd
  let den := den / gcd
  if den % num ≠ 0 then .error .notAligned
  else Except.mapError .conversion do
    let product ← checked (value * num)
    let sum ← checked (product + den)
    let rounded ← checked ((sum - 1).tdiv den * den)
    .ok (rounded.tdiv num)

def roundUpOnUnitOfDomain (value : Int) : Except StartFault Int := do
  let num ← (checked (info.resolution.num * info.multiplier.den)).mapError .conversion
  let den ← (checked (info.resolution.den * info.multiplier.num)).mapError .conversion
  roundUp num den value

def roundUpOnDomainInterval (interval : Ratio) (value : Int) : Except StartFault Int := do
  let num ← (checked (info.resolution.num * info.multiplier.den)).mapError .conversion
  let num ← (checked (num * interval.den)).mapError .conversion
  let den ← (checked (info.resolution.den * info.multiplier.num)).mapError .conversion
  let den ← (checked (den * interval.num)).mapError .conversion
  roundUp num den value

namespace MultiReaderImpl

variable (m : MultiReaderImpl)

/-- The interval of `readDomainStart`. -/
def interval : Ratio :=
  Ratio.simplify
    { num := m.sampleRateDividerLcm, den := m.commonSampleRate, num_pos := m.lcm_pos, den_pos := m.rate_pos }

def gridLength : ℚ := if m.startOnFullUnitOfDomain then 1 else m.interval.toRat

def getSyncStatus : SyncStatus :=
  go .unsynchronized m.signals
where
  /-- The loop over the signals. -/
  go : SyncStatus → List SignalReader → SyncStatus
    | status, [] => status
    | status, signal :: rest =>
      match signal.synced with
      | .synchronizationFailed | .unsynchronized => signal.synced
      | .synchronizing => go signal.synced rest
      | .synchronized => go (if status = .unsynchronized then signal.synced else status) rest

/-- The epoch and the resolution that `setStartInfo` chooses. -/
def chosen : Option (Resolution × Int) :=
  match m.signals with
  | [] => none
  | first :: rest => some (chooseStart first.domainInfo.resolution first.domainInfo.epoch (first :: rest))

def setStartInfo : Except ConversionFault MultiReaderImpl :=
  match m.chosen with
  | none => .ok m
  | some (maxResolution, minEpoch) => do
    let signals ← m.signals.mapM fun s => s.setStartInfo minEpoch maxResolution
    .ok { m with signals }

variable (firsts : Nat → DomainPacket × Nat)

/-- The values of `readStartDomain`, in the order of the signals. -/
def signalStarts : Except ConversionFault (List (Int × Nat)) :=
  m.signals.zipIdx.mapM fun (s, i) => do
    let tick ← readStartTick (firsts i).1 (firsts i).2
    let value ← comparableValue tick s.domainInfo
    .ok (value, i)

/-- The rounding in `readDomainStart`, with the domain info that the start refers to. -/
def roundStart (c : Int × Nat) : Except StartFault Int :=
  match m.signals[c.2]? with
  | none => .error .notAligned
  | some s =>
    if m.startOnFullUnitOfDomain then roundUpOnUnitOfDomain s.domainInfo c.1
    else roundUpOnDomainInterval s.domainInfo m.interval c.1

/-- `readDomainStart`, and whether it ends. When it throws, the common start is not rounded. -/
def readDomainStart : Except ConversionFault (MultiReaderImpl × Bool) := do
  let starts ← m.signalStarts firsts
  match starts.foldl laterStart m.commonStart with
  | none => .ok (m, false)
  | some c =>
    match m.roundStart c with
    | .ok value => .ok ({ m with commonStart := some (value, c.2) }, true)
    | .error .notAligned => .ok ({ m with commonStart := some c }, false)
    | .error (.conversion fault) => .error fault

/-! ## Searches -/

/-- The time of a tick of a signal, in ticks of `maxResolution` from `minEpoch` on. -/
def exactTime (maxResolution : Resolution) (minEpoch : Int) (tick : Int) : ℚ :=
  (tick * info.resolution.toRat + (info.epoch - minEpoch : Int) / systemTicksPerSecond) /
    maxResolution.toRat

/-- What the start is searched for with these first samples. -/
def searchFor : Option Search :=
  m.chosen.map fun (maxResolution, minEpoch) =>
    { times := m.signals.mapIdx fun i s =>
        exactTime s.domainInfo maxResolution minEpoch (startTick (firsts i).1 (firsts i).2)
      tickLength := maxResolution.toRat
      gridLength := m.gridLength }

/-- The part of `synchronize` from `setStartInfo` on, when it searches a start. -/
def searchStart : Except ConversionFault (MultiReaderImpl × Bool) := do
  let prepared ← m.setStartInfo
  let (m', found) ← prepared.readDomainStart firsts
  .ok ({ m' with search := if found then m.searchFor firsts else none }, found)

def setSynced (synced : Nat → SyncStatus) : MultiReaderImpl :=
  { m with signals := m.signals.mapIdx fun i s => { s with synced := synced i } }

/--
`synchronize`, called when every signal has samples. The arguments are the packet and the index of the
first sample of each signal, and what becomes of the signals in `sync`.
-/
def synchronize (synced : Nat → SyncStatus) : Except ConversionFault MultiReaderImpl :=
  match m.getSyncStatus with
  | .synchronized => .ok m
  | .synchronizing => .ok (m.setSynced synced)
  | _ => do
    let (m', found) ← m.searchStart firsts
    .ok (if found then m'.setSynced synced else m')

/-! ## Runs -/

/-- What changes the domains, the rates and the synchronisation of the signals. -/
inductive Op where
  /-- `handleDescriptorChanged` with a valid domain descriptor. -/
  | descriptorChanged (i : Nat) (newResolution : Resolution) (newOrigin : Int)
  /-- An event that `readUntilNextDataPacket` returns. -/
  | event (i : Nat)
  /-- `setPortsActiveState` with another state. -/
  | setPortsActiveState
  | updateCommonSampleRateAndDividers (lcm rate : Int) (hlcm : 0 < lcm) (hrate : 0 < rate)
  | synchronize (firsts : Nat → DomainPacket × Nat) (synced : Nat → SyncStatus)

/-- Changes one signal. -/
def updateSignal (i : Nat) (f : SignalReader → SignalReader) : MultiReaderImpl :=
  { m with signals := m.signals.modify i f }

/-- One operation. -/
def perform : Op → Except ConversionFault MultiReaderImpl
  | .descriptorChanged i newResolution newOrigin =>
    .ok (m.updateSignal i fun s =>
      let info := s.domainInfo
      let sameResolution := info.resolution.equals newResolution.toRatio
      let resolution := if sameResolution then info.resolution else newResolution
      { domainInfo := { info with resolution, epoch := newOrigin }
        synced := if sameResolution && info.epoch == newOrigin then s.synced else .unsynchronized })
  | .event i => .ok (m.updateSignal i fun s => { s with synced := .unsynchronized })
  | .setPortsActiveState => .ok (m.setSynced fun _ => .unsynchronized)
  | .updateCommonSampleRateAndDividers lcm rate hlcm hrate =>
    .ok { m with sampleRateDividerLcm := lcm, commonSampleRate := rate, lcm_pos := hlcm, rate_pos := hrate }
  | .synchronize firsts synced => m.synchronize firsts synced

/-- An operation of a run. Nothing follows what is undefined. -/
def step (state : Except ConversionFault MultiReaderImpl) (op : Op) : Except ConversionFault MultiReaderImpl :=
  state >>= fun m => m.perform op

end MultiReaderImpl

end OpenDaq.MultiReader
