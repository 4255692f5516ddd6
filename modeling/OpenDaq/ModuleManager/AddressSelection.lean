import Mathlib.Data.List.Basic

/-!
# Choosing the address of a server capability

After a discovery the module manager marks the addresses of every capability reachable, unknown
or unreachable and leaves the connection string of one of them on the capability
(`setAddressesReachable`). Connecting to the device then picks a capability and, when a primary
address type is configured, an address of that type (`resolveSmartConnectionString`).

The first loop overwrites its choice at every unknown address, the second one keeps the first.
-/

namespace OpenDaq.ModuleManager

inductive AddressReachabilityStatus where
  | unknown
  | reachable
  | unreachable
deriving DecidableEq, Repr

structure AddressInfo where
  address : String
  type : String
  reachabilityStatus : AddressReachabilityStatus
  connectionString : String
deriving DecidableEq, Repr

inductive ProtocolType where
  | unknown
  | configuration
  | streaming
  | configurationAndStreaming
deriving DecidableEq, Repr

structure ServerCapability where
  protocolId : String
  protocolType : ProtocolType
  connectionString : String
  addressInfo : List AddressInfo
deriving DecidableEq, Repr

structure DeviceInfo where
  serverCapabilities : List ServerCapability
deriving DecidableEq, Repr

namespace AddressInfo

def isReachable (a : AddressInfo) : Bool := a.reachabilityStatus = .reachable

def isUnknown (a : AddressInfo) : Bool := a.reachabilityStatus = .unknown

/-- The first address with the best status: reachable before unknown before unreachable. -/
def best (addressInfos : List AddressInfo) : Option AddressInfo :=
  (addressInfos.find? isReachable).or ((addressInfos.find? isUnknown).or addressInfos.head?)

end AddressInfo

/-! ## `setAddressesReachable` -/

variable (addr : String → Option Bool)

/-- The first loop. `addr` is the map of the addresses that were pinged. -/
def AddressInfo.setReachabilityStatus
    (ipv6Reachability : AddressReachabilityStatus) (a : AddressInfo) : AddressInfo :=
  if (addr a.address).isSome && a.type == "IPv4" then
    { a with reachabilityStatus := if addr a.address = some true then .reachable else .unreachable }
  else if a.type == "IPv6" then { a with reachabilityStatus := ipv6Reachability }
  else a

/-- The second loop: the connection string that it leaves on a capability that has the given one. -/
def lastChoice : List AddressInfo → String → String
  | [], connectionString => connectionString
  | a :: rest, connectionString =>
    match a.reachabilityStatus with
    | .unknown => lastChoice rest a.connectionString
    | .reachable => a.connectionString
    | .unreachable => lastChoice rest connectionString

variable (ipv6Available : Bool)

/-- IPv6 addresses are not pinged. -/
def ipv6Reachability : AddressReachabilityStatus :=
  if ipv6Available then .unknown else .unreachable

variable (cap : ServerCapability)

def ServerCapability.setAddressesReachable : ServerCapability :=
  let addressInfo :=
    cap.addressInfo.map (AddressInfo.setReachabilityStatus addr (ipv6Reachability ipv6Available))
  { cap with addressInfo, connectionString := lastChoice addressInfo cap.connectionString }

def setAddressesReachable
    (info : List DeviceInfo) : List DeviceInfo :=
  info.map fun devInfo => { devInfo with
    serverCapabilities := devInfo.serverCapabilities.map
      (ServerCapability.setAddressesReachable addr ipv6Available) }

open AddressInfo

/-- The second loop keeps the first reachable address, else the last unknown one. -/
theorem lastChoice_eq (l : List AddressInfo) (s : String) :
    lastChoice l s =
      (((l.find? isReachable).or (l.reverse.find? isUnknown)).map (·.connectionString)).getD s := by
  induction l generalizing s with
  | nil => rfl
  | cons a l ih =>
    rw [lastChoice, List.find?_cons, List.reverse_cons, List.find?_append, List.find?_singleton]
    cases ha : a.reachabilityStatus with
    | unknown =>
      rw [ih]
      cases hr : l.find? isReachable <;> cases hu : l.reverse.find? isUnknown <;>
        simp [isReachable, isUnknown, ha]
    | reachable => simp [isReachable, ha]
    | unreachable => simp [isReachable, isUnknown, ha, ih]

/-! ## `resolveSmartConnectionString` -/

namespace ServerCapability

/-- The loop of `getConnectionStringWithType` over the addresses. -/
def chooseWithType (primaryAddressType : String) :
    List AddressInfo → AddressReachabilityStatus → Option String → Option String
  -- what was assigned is returned, with a warning where no better address was there
  | [], _, connectionString => connectionString
  | a :: rest, resolvedStatus, connectionString =>
    if a.type == primaryAddressType then
      match a.reachabilityStatus with
      | .unknown => chooseWithType primaryAddressType rest .unknown
          (if resolvedStatus = .unknown then connectionString else some a.connectionString)
      | .reachable => some a.connectionString
      | .unreachable => chooseWithType primaryAddressType rest resolvedStatus
          (if connectionString.isSome then connectionString else some a.connectionString)
    else chooseWithType primaryAddressType rest resolvedStatus connectionString

def getConnectionStringWithType (primaryAddressType : String) :
    Option String :=
  chooseWithType primaryAddressType cap.addressInfo .unreachable none

theorem chooseWithType_unknown (t s : String) (l : List AddressInfo) :
    chooseWithType t l .unknown (some s) =
      (((l.filter (·.type == t)).find? isReachable).map (·.connectionString)).or (some s) := by
  induction l with
  | nil => rfl
  | cons a l ih =>
    rw [chooseWithType, List.filter_cons]
    split
    · cases ha : a.reachabilityStatus <;> simp [isReachable, ha, ih]
    · exact ih

theorem chooseWithType_unreachable (t : String) (l : List AddressInfo) (s : Option String) :
    chooseWithType t l .unreachable s =
      ((((l.filter (·.type == t)).find? isReachable).or
        ((l.filter (·.type == t)).find? isUnknown)).map (·.connectionString)).or
        (s.or ((l.filter (·.type == t)).head?.map (·.connectionString))) := by
  induction l generalizing s with
  | nil => simp [chooseWithType]
  | cons a l ih =>
    rw [chooseWithType, List.filter_cons]
    split
    · cases ha : a.reachabilityStatus with
      | unknown =>
        cases hr : (l.filter (·.type == t)).find? isReachable <;>
          simp [isReachable, isUnknown, ha, hr, chooseWithType_unknown]
      | reachable => simp [isReachable, ha]
      | unreachable => cases s <;> simp [isReachable, isUnknown, ha, ih]
    · exact ih s

/-- `getConnectionStringWithType` returns the first address with the best status among those of the type. -/
theorem getConnectionStringWithType_eq (t : String) :
    cap.getConnectionStringWithType t =
      (best (cap.addressInfo.filter (·.type == t))).map (·.connectionString) := by
  rw [getConnectionStringWithType, chooseWithType_unreachable, best, Option.none_or, ← Option.or_assoc]
  simp only [Option.map_or]

def getServerCapabilityPriority : Nat :=
  if cap.protocolId == "OpenDAQNativeConfiguration" then 42
  else match cap.protocolType with
    | .unknown => 0
    | .streaming => 1
    | .configuration => 2
    | .configurationAndStreaming => 3

end ServerCapability

/-- The capability of the highest priority, the first one of these. -/
def DeviceInfo.selectedCapability (discoveredDeviceInfo : DeviceInfo) : Option ServerCapability :=
  match discoveredDeviceInfo.serverCapabilities with
  | [] => none
  | selected :: rest => some <| (selected :: rest).foldl (fun selected cap =>
      if selected.getServerCapabilityPriority < cap.getServerCapabilityPriority then cap
      else selected) selected

/-- `none` is the `NotFoundException` of a device without capabilities. -/
def DeviceInfo.resolveSmartConnectionString (discoveredDeviceInfo : DeviceInfo)
    (primaryAddressType : String) : Option String :=
  discoveredDeviceInfo.selectedCapability.map fun cap =>
    if primaryAddressType == "IPv4" || primaryAddressType == "IPv6" then
      (cap.getConnectionStringWithType primaryAddressType).getD cap.connectionString
    else cap.connectionString

theorem DeviceInfo.selectedCapability_mem {devInfo : DeviceInfo} {cap : ServerCapability}
    (h : devInfo.selectedCapability = some cap) : cap ∈ devInfo.serverCapabilities := by
  have hfold (l : List ServerCapability) (c : ServerCapability) : l.foldl (fun selected cap =>
      if selected.getServerCapabilityPriority < cap.getServerCapabilityPriority then cap
      else selected) c ∈ c :: l := by
    induction l generalizing c with
    | nil => exact List.mem_cons_self
    | cons b l ih => grind
  rw [selectedCapability] at h
  cases hcaps : devInfo.serverCapabilities with
  | nil => simp [hcaps] at h
  | cons c l =>
    rw [hcaps] at h
    have := hfold (c :: l) c
    grind

/-! ## The best address -/

/-- Whichever way an address of the device is chosen, it is the first one with the best status. -/
def DeviceInfo.PrefersBest (devInfo : DeviceInfo) : Prop :=
  (∀ cap ∈ devInfo.serverCapabilities, (∃ a ∈ cap.addressInfo, a.reachabilityStatus ≠ .unreachable) →
    (best cap.addressInfo).map (·.connectionString) = some cap.connectionString) ∧
  (∀ cap ∈ devInfo.serverCapabilities, ∀ t, cap.getConnectionStringWithType t =
    (best (cap.addressInfo.filter (·.type == t))).map (·.connectionString)) ∧
  ∀ cap, devInfo.selectedCapability = some cap →
    (∃ a ∈ cap.addressInfo, a.reachabilityStatus ≠ .unreachable) → ∀ t,
    (∀ a ∈ cap.addressInfo, a.type = t) → ∀ t', t' ≠ "IPv4" → t' ≠ "IPv6" →
    devInfo.resolveSmartConnectionString t = devInfo.resolveSmartConnectionString t'

/-- An address is reachable, or the first and the last unknown one have the same connection string. -/
def UnknownsAgree (addressInfos : List AddressInfo) : Prop :=
  (∃ a ∈ addressInfos, a.reachabilityStatus = .reachable) ∨
    (addressInfos.find? isUnknown).map (·.connectionString) =
      (addressInfos.reverse.find? isUnknown).map (·.connectionString)

theorem unknownsAgree_of_unreachable {l : List AddressInfo}
    (h : ¬ ∃ a ∈ l, a.reachabilityStatus ≠ .unreachable) : UnknownsAgree l := by
  have hnone (a : AddressInfo) (ha : a ∈ l) : ¬ a.isUnknown = true := by
    have : a.reachabilityStatus = .unreachable := by_contra fun hne => h ⟨a, ha, hne⟩
    simp [isUnknown, this]
  refine Or.inr ?_
  rw [List.find?_eq_none.mpr hnone, List.find?_eq_none.mpr fun a ha => hnone a (List.mem_reverse.mp ha)]

/-- What the second loop leaves is the best exactly where the unknown addresses agree. -/
theorem best_eq_lastChoice_iff {l : List AddressInfo} (s : String) (h : ∃ a ∈ l, a.reachabilityStatus ≠ .unreachable) :
    (best l).map (·.connectionString) = some (lastChoice l s) ↔ UnknownsAgree l := by
  rw [best, lastChoice_eq, UnknownsAgree]
  cases hr : l.find? isReachable with
  | some c =>
    have hc : c.reachabilityStatus = .reachable := by simpa [isReachable] using List.find?_some hr
    exact iff_of_true rfl (Or.inl ⟨c, List.mem_of_find?_eq_some hr, hc⟩)
  | none =>
    have hl (a : AddressInfo) (ha : a ∈ l) : a.reachabilityStatus ≠ .reachable := by
      simpa [isReachable] using List.find?_eq_none.mp hr a ha
    -- so the address that is not unreachable is unknown, and both searches find one
    obtain ⟨a, ha, hne⟩ := h
    have hunknown : a.isUnknown = true := by
      have := hl a ha
      cases hs : a.reachabilityStatus <;> simp_all [isUnknown]
    obtain ⟨b, hb⟩ := Option.isSome_iff_exists.mp (List.find?_isSome.mpr ⟨a, ha, hunknown⟩)
    obtain ⟨c, hc⟩ := Option.isSome_iff_exists.mp (List.find?_isSome.mpr ⟨a, List.mem_reverse.mpr ha, hunknown⟩)
    have hno : ¬ ∃ a ∈ l, a.reachabilityStatus = .reachable := fun ⟨a, ha, hs⟩ => hl a ha hs
    simp [hb, hc, hno]

theorem resolveSmartConnectionString_of_best {devInfo : DeviceInfo} {cap : ServerCapability} {t t' : String}
    (hcap : devInfo.selectedCapability = some cap) (ht : ∀ a ∈ cap.addressInfo, a.type = t)
    (hbest : (best cap.addressInfo).map (·.connectionString) = some cap.connectionString)
    (h4 : t' ≠ "IPv4") (h6 : t' ≠ "IPv6") :
    devInfo.resolveSmartConnectionString t = devInfo.resolveSmartConnectionString t' := by
  have hfilter : cap.addressInfo.filter (·.type == t) = cap.addressInfo :=
    List.filter_eq_self.mpr fun a ha => by simp [ht a ha]
  have htype : cap.getConnectionStringWithType t = some cap.connectionString := by
    rw [cap.getConnectionStringWithType_eq, hfilter, hbest]
  simp [DeviceInfo.resolveSmartConnectionString, hcap, htype, h4, h6]

/-- **When the best address is preferred.** `getConnectionStringWithType` always does; what is left on a
capability is the best address where one is reachable or the unknown ones agree. -/
theorem prefersBest_iff (info : List DeviceInfo) :
    (∀ devInfo ∈ setAddressesReachable addr ipv6Available info, devInfo.PrefersBest) ↔
      ∀ devInfo ∈ info, ∀ cap ∈ devInfo.serverCapabilities, UnknownsAgree
        (cap.addressInfo.map (setReachabilityStatus addr (ipv6Reachability ipv6Available))) := by
  have hleft (cap : ServerCapability) := best_eq_lastChoice_iff
    (l := (cap.setAddressesReachable addr ipv6Available).addressInfo) cap.connectionString
  constructor
  · intro h devInfo hdev cap hcap
    have hmem := List.mem_map_of_mem (f := ServerCapability.setAddressesReachable addr ipv6Available) hcap
    by_cases hsome : ∃ a ∈ (cap.setAddressesReachable addr ipv6Available).addressInfo,
        a.reachabilityStatus ≠ .unreachable
    · exact (hleft cap hsome).mp ((h _ (List.mem_map_of_mem hdev)).1 _ hmem hsome)
    · exact unknownsAgree_of_unreachable hsome
  · intro h left hleftmem
    obtain ⟨devInfo, hdev, rfl⟩ := List.mem_map.mp hleftmem
    have hbest : ∀ cap ∈ devInfo.serverCapabilities.map
        (ServerCapability.setAddressesReachable addr ipv6Available),
        (∃ a ∈ cap.addressInfo, a.reachabilityStatus ≠ .unreachable) →
        (best cap.addressInfo).map (·.connectionString) = some cap.connectionString := by
      intro cap' hcap' hsome
      obtain ⟨cap, hcap, rfl⟩ := List.mem_map.mp hcap'
      exact (hleft cap hsome).mpr (h devInfo hdev cap hcap)
    refine ⟨hbest, fun cap _ t => cap.getConnectionStringWithType_eq t, ?_⟩
    intro cap hcap hsome t ht t' h4 h6
    exact resolveSmartConnectionString_of_best hcap ht
      (hbest cap (DeviceInfo.selectedCapability_mem hcap) hsome) h4 h6

def unknownAddress (connectionString : String) : AddressInfo where
  address := connectionString
  type := "IPv6"
  reachabilityStatus := .unknown
  connectionString

def twoUnknown : DeviceInfo where
  serverCapabilities := [⟨"OpenDAQNativeStreaming", .streaming, "", [unknownAddress "a", unknownAddress "b"]⟩]

/-- Of two unknown addresses the second one is left, although the first one is as good. -/
theorem not_prefersBest_twoUnknown :
    ¬ ∀ devInfo ∈ setAddressesReachable (fun _ => none) true [twoUnknown], devInfo.PrefersBest := by
  intro h
  have hleft := (h _ List.mem_cons_self).1 _ List.mem_cons_self
    ⟨unknownAddress "a", List.mem_cons_self, by decide⟩
  exact absurd hleft (by decide)

end OpenDaq.ModuleManager
