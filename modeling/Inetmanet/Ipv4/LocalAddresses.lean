import Inetmanet.Ipv4.RoutingTable

/-!
# Which addresses are local

`isLocalAddress` and `isLocalBroadcastAddress` of `RoutingTable.cc` answer from sets that
are filled when they are first asked and cleared when the table is told that something has
changed. Not everything that it is told clears them.
-/
namespace Inet.Ipv4

open List InterfaceTableEntry

/-- What of a multicast route says which interfaces it uses. -/
structure IPv4MulticastRoute where
  inInterface : Option InterfaceRef
  outInterfaces : List InterfaceRef
  deriving DecidableEq, Repr

namespace InterfaceTableEntry

def getIPAddress (i : InterfaceTableEntry) : Option IPv4Address := i.ipv4Data.map fun d => d.1

/-- `makeBroadcastAddress`, unless that is unspecified. -/
def broadcastAddress (i : InterfaceTableEntry) : Option IPv4Address :=
  (i.ipv4Data.map fun d => d.1 ||| ~~~d.2.1).filter fun a => decide (a ≠ 0)

theorem broadcastAddress_eq_some {i : InterfaceTableEntry}
    {d : IPv4Address × IPv4Address × Int} (h : i.ipv4Data = some d) (a : IPv4Address) :
    i.broadcastAddress = some a ↔ a ≠ 0 ∧ a = d.1 ||| ~~~d.2.1 := by
  rw [broadcastAddress, h, Option.map_some, Option.filter_eq_some_iff, Option.some_inj,
    decide_eq_true_iff]
  constructor
  · rintro ⟨heq, hne⟩
    exact ⟨hne, heq.symm⟩
  · rintro ⟨hne, heq⟩
    exact ⟨heq.symm, hne⟩

end InterfaceTableEntry

/-- What may change of a registered interface. -/
inductive InterfaceChange where
  | setIPv4Data (ipAddress netmask : IPv4Address) (metric : Int)
  | setIPAddress (a : IPv4Address)
  | setNetmask (m : IPv4Address)
  | setMetric (m : Int)
  /-- Other fields of the IPv4 data. -/
  | ipv4ConfigChanged
  | configChanged
  | stateChanged
  deriving DecidableEq, Repr

namespace InterfaceChange

def category : InterfaceChange → RoutingTable.Notification
  | .setIPv4Data _ _ _ | .configChanged => .NF_INTERFACE_CONFIG_CHANGED
  | .setIPAddress _ | .setNetmask _ | .setMetric _ | .ipv4ConfigChanged => .NF_INTERFACE_IPv4CONFIG_CHANGED
  | .stateChanged => .NF_INTERFACE_STATE_CHANGED

/-- A setter of the IPv4 data. -/
def setData (i : InterfaceTableEntry) (f : IPv4Address × IPv4Address × Int → IPv4Address × IPv4Address × Int) :
    Sim InterfaceTableEntry :=
  match i.ipv4Data with
  | none => .error (.nullPointer "ipv4Data()")
  | some d => .ok { i with ipv4Data := some (f d) }

def apply (i : InterfaceTableEntry) : InterfaceChange → Sim InterfaceTableEntry
  | .setIPv4Data ipAddress netmask metric => .ok { i with ipv4Data := some (ipAddress, netmask, metric) }
  | .setIPAddress a => setData i fun d => (a, d.2)
  | .setNetmask m => setData i fun d => (d.1, m, d.2.2)
  | .setMetric m => setData i fun d => (d.1, d.2.1, m)
  | .ipv4ConfigChanged => setData i id
  | .configChanged | .stateChanged => .ok i

end InterfaceChange

/-- The routing table of a host with the interface table. -/
structure HostTables extends RoutingTable where
  multicastRoutes : List IPv4MulticastRoute
  localAddresses : List IPv4Address
  localBroadcastAddresses : List IPv4Address
  ift : List InterfaceTableEntry

namespace HostTables

def invalidateCache (h : HostTables) : HostTables :=
  { h with toRoutingTable := h.toRoutingTable.invalidateCache, localAddresses := [], localBroadcastAddresses := [] }

/-- A route goes through the interface. -/
def OwnsRoute (h : HostTables) (entry : InterfaceRef) : Prop :=
  (∃ e ∈ h.routes, (h.heap e).interfacePtr = some entry) ∨
    ∃ route ∈ h.multicastRoutes, route.inInterface = some entry ∨ entry ∈ route.outInterfaces
deriving Decidable

def deleteInterfaceRoutes (h : HostTables) (entry : InterfaceRef) : HostTables :=
  let h' : HostTables := { h with
    -- delete unicast routes using this interface
    toRoutingTable := h.toRoutingTable.keepRoutes fun r => r.interfacePtr ≠ some entry
    -- delete routes has entry as input interface, remove entry from output interface list
    multicastRoutes := (h.multicastRoutes.filter fun route => route.inInterface ≠ some entry).map fun route =>
      { route with outInterfaces := route.outInterfaces.erase entry } }
  if h.OwnsRoute entry then h'.invalidateCache else h'

def updateNetmaskRoutes (h : HostTables) (refs : List RouteRef) : HostTables :=
  { h with toRoutingTable := h.toRoutingTable.updateNetmaskRoutes refs h.ift }.invalidateCache

/-- `initializing` is whether the context is `CTX_INITIALIZE`. -/
def receiveChangeNotification (h : HostTables) (initializing : Bool) (refs : List RouteRef)
    (category : RoutingTable.Notification) : HostTables :=
  if initializing then h  -- ignore notifications during initialize
  else
    match category with
    | .NF_INTERFACE_CREATED => h.updateNetmaskRoutes refs
    | .NF_INTERFACE_DELETED entry => h.deleteInterfaceRoutes entry
    | .NF_INTERFACE_STATE_CHANGED => h.invalidateCache
    | .NF_INTERFACE_CONFIG_CHANGED => h.invalidateCache
    | .NF_INTERFACE_IPv4CONFIG_CHANGED => h.updateNetmaskRoutes refs

def Registered (h : HostTables) (ie : InterfaceRef) : Prop := ∃ i ∈ h.ift, i.ie = ie
deriving Decidable

def addInterface (h : HostTables) (initializing : Bool) (refs : List RouteRef) (entry : InterfaceTableEntry) :
    Sim HostTables :=
  if h.Registered entry.ie then .error (.runtime "addInterface(): interface '%s' already registered")
  else .ok ({ h with ift := h.ift ++ [entry] }.receiveChangeNotification initializing refs .NF_INTERFACE_CREATED)

/-- The table is told before the entry goes. -/
def deleteInterface (h : HostTables) (initializing : Bool) (entry : InterfaceRef) : Sim HostTables :=
  if h.Registered entry then
    let h := h.receiveChangeNotification initializing [] (.NF_INTERFACE_DELETED entry)
    .ok { h with ift := h.ift.filter fun i => i.ie ≠ entry }
  else .error (.runtime "deleteInterface(): interface '%s' not found in interface table")

/-- `interfaceChanged`; an interface that is not registered tells nobody. -/
def interfaceChanged (h : HostTables) (initializing : Bool) (refs : List RouteRef) (ie : InterfaceRef)
    (c : InterfaceChange) : Sim HostTables :=
  if h.Registered ie then do
    let ift ← h.ift.mapM fun i => if i.ie = ie then c.apply i else .ok i
    .ok ({ h with ift := ift }.receiveChangeNotification initializing refs c.category)
  else .ok h

/-- The interface addresses. -/
def collect (ift : List InterfaceTableEntry) : Sim (List (IPv4Address × IPv4Address)) :=
  ift.mapM fun i =>
    match i.ipv4Data with
    | none => .error (.nullPointer "ipv4Data()")
    | some d => .ok (d.1, d.2.1)

def isLocalAddress (h : HostTables) (dest : IPv4Address) : Sim (Bool × HostTables) :=
  if h.localAddresses = [] then do
    let found ← collect h.ift
    let addresses := found.map fun d => d.1
    .ok (decide (dest ∈ addresses), { h with localAddresses := addresses })
  else .ok (decide (dest ∈ h.localAddresses), h)

def isLocalBroadcastAddress (h : HostTables) (dest : IPv4Address) : Sim (Bool × HostTables) :=
  if h.localBroadcastAddresses = [] then do
    let found ← collect h.ift
    let addresses := (found.map fun d => d.1 ||| ~~~d.2).filter fun a => a ≠ 0
    .ok (decide (dest ∈ addresses), { h with localBroadcastAddresses := addresses })
  else .ok (decide (dest ∈ h.localBroadcastAddresses), h)

inductive Event where
  | addInterface (initializing : Bool) (refs : List RouteRef) (entry : InterfaceTableEntry)
  | deleteInterface (initializing : Bool) (entry : InterfaceRef)
  | interfaceChanged (initializing : Bool) (refs : List RouteRef) (ie : InterfaceRef) (c : InterfaceChange)
  | isLocalAddress (dest : IPv4Address)
  | isLocalBroadcastAddress (dest : IPv4Address)
  /-- Any operation on the routes, which may invalidate the caches. -/
  | routeOperation (routes : RoutingTable) (multicastRoutes : List IPv4MulticastRoute) (invalidates : Bool)

def step (h : HostTables) : Event → Sim HostTables
  | .addInterface initializing refs entry => h.addInterface initializing refs entry
  | .deleteInterface initializing entry => h.deleteInterface initializing entry
  | .interfaceChanged initializing refs ie c => h.interfaceChanged initializing refs ie c
  | .isLocalAddress dest => (h.isLocalAddress dest).map Prod.snd
  | .isLocalBroadcastAddress dest => (h.isLocalBroadcastAddress dest).map Prod.snd
  | .routeOperation routes multicastRoutes invalidates =>
    let h : HostTables := { h with toRoutingTable := routes, multicastRoutes := multicastRoutes }
    .ok (if invalidates then h.invalidateCache else h)

/-- The queries answer what the registered interfaces say. -/
structure Coherent (h : HostTables) : Prop where
  address : ∀ a, ∃ b h', h.isLocalAddress a = .ok (b, h') ∧ (b = true ↔ ∃ i ∈ h.ift, i.getIPAddress = some a)
  broadcast : ∀ a, ∃ b h', h.isLocalBroadcastAddress a = .ok (b, h') ∧
    (b = true ↔ ∃ i ∈ h.ift, i.broadcastAddress = some a)

/-- In every state that is reached. -/
def CoherentAlong : HostTables → List Event → Prop
  | h, [] => h.Coherent
  | h, event :: events => h.Coherent ∧ ∀ h', h.step event = .ok h' → CoherentAlong h' events

/-- The caches are invalidated: the notification is not ignored, and a deleted interface owns a route. -/
def Invalidates (h : HostTables) : Event → Prop
  | .addInterface initializing _ _ => initializing = false
  | .deleteInterface initializing entry => initializing = false ∧ h.OwnsRoute entry
  | .interfaceChanged initializing _ ie _ => initializing = false ∧ h.Registered ie
  | .isLocalAddress _ => False
  | .isLocalBroadcastAddress _ => False
  | .routeOperation _ _ invalidates => invalidates = true

/-- Every interface has IPv4 data. -/
def HasData (ift : List InterfaceTableEntry) : Prop := ∀ i ∈ ift, i.ipv4Data ≠ none

/-- The interfaces have the same addresses as before. -/
def SameAddresses (address : InterfaceTableEntry → Option IPv4Address) (ift ift' : List InterfaceTableEntry) : Prop :=
  ∀ a, (∃ i ∈ ift, address i = some a) ↔ ∃ i ∈ ift', address i = some a

/-- A cache that is kept can be kept with the new interface table: it is empty, or the addresses are the same. -/
def KeptFor (cache : List IPv4Address) (address : InterfaceTableEntry → Option IPv4Address)
    (ift ift' : List InterfaceTableEntry) : Prop :=
  (cache = [] → HasData ift') ∧ (cache ≠ [] → SameAddresses address ift ift')

/-- An event that leaves the interface table `ift'` either invalidates the caches or does not have to. -/
def Harmless (h : HostTables) (event : Event) (ift' : List InterfaceTableEntry) : Prop :=
  (h.Invalidates event → HasData ift') ∧
    (¬ h.Invalidates event → KeptFor h.localAddresses InterfaceTableEntry.getIPAddress h.ift ift' ∧
      KeptFor h.localBroadcastAddresses InterfaceTableEntry.broadcastAddress h.ift ift')

def HarmlessRun : HostTables → List Event → Prop
  | _, [] => True
  | h, event :: events => ∀ h', h.step event = .ok h' → h.Harmless event h'.ift ∧ HarmlessRun h' events

variable {ift : List InterfaceTableEntry} {address : InterfaceTableEntry → Option IPv4Address}

theorem collect_ok (h : HasData ift) : ∃ found, collect ift = .ok found ∧
      (∀ a, a ∈ found.map (fun d => d.1) ↔ ∃ i ∈ ift, i.getIPAddress = some a) ∧
      ∀ a, a ∈ (found.map fun d => d.1 ||| ~~~d.2).filter (fun a => a ≠ 0) ↔
        ∃ i ∈ ift, i.broadcastAddress = some a := by
  induction ift with
  | nil => exact ⟨[], rfl, by simp, by simp⟩
  | cons i ift ih =>
    obtain ⟨found, hfound, haddress, hbroadcast⟩ := ih fun j hj => h j (mem_cons_of_mem i hj)
    cases hdata : i.ipv4Data with
    | none => exact absurd hdata (h i mem_cons_self)
    | some d =>
      refine ⟨(d.1, d.2.1) :: found, ?_, fun a => ?_, fun a => ?_⟩
      · rw [collect] at hfound
        rw [collect, mapM_cons, hfound, hdata]
        rfl
      · rw [map_cons, mem_cons, haddress, exists_mem_cons_iff]
        simp [getIPAddress, hdata, eq_comm]
      · rw [exists_mem_cons_iff, ← hbroadcast, broadcastAddress_eq_some hdata, mem_filter,
          mem_filter, map_cons, mem_cons, decide_eq_true_iff]
        constructor
        · rintro ⟨hfirst | hrest, hne⟩
          · exact .inl ⟨hne, hfirst⟩
          · exact .inr ⟨hrest, hne⟩
        · rintro (⟨hne, hfirst⟩ | ⟨hrest, hne⟩)
          · exact ⟨.inl hfirst, hne⟩
          · exact ⟨.inr hrest, hne⟩

theorem collect_error (h : ¬ HasData ift) : ∃ e, collect ift = .error e := by
  induction ift with
  | nil => exact absurd (fun i hi => by cases hi) h
  | cons i ift ih =>
    rw [collect, mapM_cons]
    cases hdata : i.ipv4Data with
    | none => exact ⟨_, rfl⟩
    | some d =>
      have hrest : ¬ HasData ift := by
        intro hrest
        apply h
        intro j hj
        rcases mem_cons.mp hj with rfl | hj
        · rw [hdata]
          simp
        · exact hrest j hj
      obtain ⟨e, he⟩ := ih hrest
      rw [collect] at he
      exact ⟨e, by rw [he]; rfl⟩

theorem collect_mem {found : List (IPv4Address × IPv4Address)} (hok : collect ift = .ok found) :
    (∀ a, a ∈ found.map (fun d => d.1) ↔ ∃ i ∈ ift, i.getIPAddress = some a) ∧
      ∀ a, a ∈ (found.map fun d => d.1 ||| ~~~d.2).filter (fun a => a ≠ 0) ↔
        ∃ i ∈ ift, i.broadcastAddress = some a := by
  have hdata : HasData ift := by
    apply Classical.byContradiction
    intro hno
    obtain ⟨e, he⟩ := collect_error hno
    rw [he] at hok
    cases hok
  obtain ⟨found', hok', hmem⟩ := collect_ok hdata
  rw [hok] at hok'
  cases hok'
  exact hmem

/-- A cache that can be relied on. -/
structure Agrees (cache : List IPv4Address) (address : InterfaceTableEntry → Option IPv4Address)
    (ift : List InterfaceTableEntry) : Prop where
  empty : cache = [] → HasData ift
  filled : cache ≠ [] → ∀ a, a ∈ cache ↔ ∃ i ∈ ift, address i = some a

/-- A query answers right for every address if and only if its cache, which `collected` fills, can be relied on. -/
theorem query_iff (cache : List IPv4Address) (ift : List InterfaceTableEntry)
    (collected : List (IPv4Address × IPv4Address) → List IPv4Address)
    (hcollected : ∀ found, collect ift = .ok found → ∀ a, a ∈ collected found ↔ ∃ i ∈ ift, address i = some a)
    (h : HostTables) (fill : List IPv4Address → HostTables) :
    (∀ a, ∃ b h', (if cache = [] then do
        let found ← collect ift
        .ok (decide (a ∈ collected found), fill (collected found))
      else .ok (decide (a ∈ cache), h) : Sim (Bool × HostTables)) = .ok (b, h') ∧
        (b = true ↔ ∃ i ∈ ift, address i = some a)) ↔ Agrees cache address ift := by
  constructor
  · intro hall
    constructor
    · intro hempty
      apply Classical.byContradiction
      intro hno
      obtain ⟨e, he⟩ := collect_error hno
      obtain ⟨b, h', hok, -⟩ := hall 0
      rw [if_pos hempty, he] at hok
      cases hok
    · intro hfilled a
      obtain ⟨b, h', hok, hiff⟩ := hall a
      rw [if_neg hfilled] at hok
      cases hok
      rw [← hiff, decide_eq_true_iff]
  · intro hagrees a
    by_cases hempty : cache = []
    · obtain ⟨found, hfound, -⟩ := collect_ok (hagrees.empty hempty)
      rw [if_pos hempty, hfound]
      exact ⟨_, _, rfl, by rw [decide_eq_true_iff, hcollected found hfound]⟩
    · rw [if_neg hempty]
      exact ⟨_, _, rfl, by rw [decide_eq_true_iff, hagrees.filled hempty]⟩

theorem coherent_iff (h : HostTables) :
    h.Coherent ↔ Agrees h.localAddresses getIPAddress h.ift ∧
      Agrees h.localBroadcastAddresses broadcastAddress h.ift := by
  have haddress := query_iff h.localAddresses h.ift _ (fun _ hfound => (collect_mem hfound).1) h fun found =>
    { h with localAddresses := found }
  have hbroadcast := query_iff h.localBroadcastAddresses h.ift _ (fun _ hfound => (collect_mem hfound).2) h fun found =>
    { h with localBroadcastAddresses := found }
  constructor
  · rintro ⟨hanswers, hanswers'⟩
    exact ⟨haddress.mp hanswers, hbroadcast.mp hanswers'⟩
  · rintro ⟨hagrees, hagrees'⟩
    exact ⟨haddress.mpr hagrees, hbroadcast.mpr hagrees'⟩

theorem Agrees.kept_iff {cache : List IPv4Address}
    (h : Agrees cache address ift) (ift' : List InterfaceTableEntry) :
    Agrees cache address ift' ↔ KeptFor cache address ift ift' := by
  constructor
  · intro h'
    exact ⟨h'.empty, fun hfilled a => by rw [← h.filled hfilled, h'.filled hfilled]⟩
  · rintro ⟨hempty, hfilled⟩
    exact ⟨hempty, fun hne a => by rw [h.filled hne, hfilled hne]⟩

theorem agrees_nil_iff : Agrees [] address ift ↔ HasData ift :=
  ⟨fun h => h.empty rfl, fun h => ⟨fun _ => h, fun hne => absurd rfl hne⟩⟩

/-- The caches are cleared or kept. -/
structure Caches (h h' : HostTables) (clears : Prop) : Prop where
  cleared : clears → h'.localAddresses = [] ∧ h'.localBroadcastAddresses = []
  kept : ¬ clears → h'.localAddresses = h.localAddresses ∧ h'.localBroadcastAddresses = h.localBroadcastAddresses

theorem receive_caches (h : HostTables) (initializing : Bool) (refs : List RouteRef)
    {category : RoutingTable.Notification} (hcategory : ∀ entry, category ≠ .NF_INTERFACE_DELETED entry) :
    Caches h (h.receiveChangeNotification initializing refs category) (initializing = false) := by
  constructor
  · rintro rfl
    cases category with
    | NF_INTERFACE_DELETED entry => exact absurd rfl (hcategory entry)
    | NF_INTERFACE_CREATED => exact ⟨rfl, rfl⟩
    | NF_INTERFACE_STATE_CHANGED => exact ⟨rfl, rfl⟩
    | NF_INTERFACE_CONFIG_CHANGED => exact ⟨rfl, rfl⟩
    | NF_INTERFACE_IPv4CONFIG_CHANGED => exact ⟨rfl, rfl⟩
  · intro hinit
    rw [Bool.not_eq_false] at hinit
    unfold receiveChangeNotification
    rw [if_pos hinit]
    exact ⟨rfl, rfl⟩

theorem receive_deleted_caches (h : HostTables) (initializing : Bool) (refs : List RouteRef) (entry : InterfaceRef) :
    Caches h (h.receiveChangeNotification initializing refs (.NF_INTERFACE_DELETED entry))
      (initializing = false ∧ h.OwnsRoute entry) := by
  constructor
  · rintro ⟨rfl, howns⟩
    rw [receiveChangeNotification, if_neg Bool.false_ne_true]
    simp only [deleteInterfaceRoutes, if_pos howns]
    exact ⟨rfl, rfl⟩
  · intro hkept
    cases initializing with
    | true => exact ⟨rfl, rfl⟩
    | false =>
      have howns : ¬ h.OwnsRoute entry := fun howns => hkept ⟨rfl, howns⟩
      rw [receiveChangeNotification, if_neg Bool.false_ne_true]
      simp only [deleteInterfaceRoutes, if_neg howns]
      exact ⟨trivial, trivial⟩

theorem category_ne_deleted (c : InterfaceChange) (entry : InterfaceRef) :
    c.category ≠ .NF_INTERFACE_DELETED entry := by
  cases c <;> simp [InterfaceChange.category]

variable {h h' : HostTables}

/-- The events other than queries. -/
theorem step_caches {event : Event} (hquery : ∀ dest, event ≠ .isLocalAddress dest)
    (hquery' : ∀ dest, event ≠ .isLocalBroadcastAddress dest) (hok : h.step event = .ok h') :
    Caches h h' (h.Invalidates event) := by
  cases event with
  | addInterface initializing refs entry =>
    rw [step, addInterface] at hok
    split at hok
    · cases hok
    · cases hok
      have hcreated : ∀ entry, RoutingTable.Notification.NF_INTERFACE_CREATED ≠ .NF_INTERFACE_DELETED entry := by simp
      obtain ⟨hcleared, hkept⟩ := receive_caches { h with ift := h.ift ++ [entry] } initializing refs hcreated
      exact ⟨hcleared, hkept⟩
  | deleteInterface initializing entry =>
    rw [step, deleteInterface] at hok
    split at hok
    · cases hok
      obtain ⟨hcleared, hkept⟩ := receive_deleted_caches h initializing [] entry
      exact ⟨hcleared, hkept⟩
    · cases hok
  | interfaceChanged initializing refs ie c =>
    rw [step, interfaceChanged] at hok
    split at hok
    · rename_i hregistered
      obtain ⟨ift, -, hok⟩ := bind_ok.mp hok
      cases hok
      obtain ⟨hcleared, hkept⟩ := receive_caches { h with ift := ift } initializing refs (category_ne_deleted c)
      exact ⟨fun hinv => hcleared hinv.1, fun hinv => hkept fun hinit => hinv ⟨hinit, hregistered⟩⟩
    · rename_i hregistered
      cases hok
      exact ⟨fun hinv => absurd hinv.2 hregistered, fun _ => ⟨rfl, rfl⟩⟩
  | isLocalAddress dest => exact absurd rfl (hquery dest)
  | isLocalBroadcastAddress dest => exact absurd rfl (hquery' dest)
  | routeOperation routes multicastRoutes invalidates =>
    cases hok
    cases invalidates with
    | true => exact ⟨fun _ => ⟨rfl, rfl⟩, fun hno => absurd rfl hno⟩
    | false => exact ⟨fun hinv => absurd hinv Bool.false_ne_true, fun _ => ⟨rfl, rfl⟩⟩

/-- A query fills a cache with what there is. -/
theorem query_coherent (hcoherent : h.Coherent) {event : Event}
    (hquery : (∃ dest, event = .isLocalAddress dest) ∨ ∃ dest, event = .isLocalBroadcastAddress dest)
    (hok : h.step event = .ok h') : h'.Coherent ∧ h'.ift = h.ift := by
  obtain ⟨haddress, hbroadcast⟩ := (coherent_iff h).mp hcoherent
  rcases hquery with ⟨dest, rfl⟩ | ⟨dest, rfl⟩
  · rw [step, isLocalAddress] at hok
    by_cases hempty : h.localAddresses = []
    · obtain ⟨found, hfound, hmem, -⟩ := collect_ok (haddress.empty hempty)
      rw [if_pos hempty, hfound] at hok
      cases hok
      exact ⟨(coherent_iff _).mpr ⟨⟨fun _ => haddress.empty hempty, fun _ => hmem⟩, hbroadcast⟩, rfl⟩
    · rw [if_neg hempty] at hok
      cases hok
      exact ⟨hcoherent, rfl⟩
  · rw [step, isLocalBroadcastAddress] at hok
    by_cases hempty : h.localBroadcastAddresses = []
    · obtain ⟨found, hfound, -, hmem⟩ := collect_ok (hbroadcast.empty hempty)
      rw [if_pos hempty, hfound] at hok
      cases hok
      exact ⟨(coherent_iff _).mpr ⟨haddress, ⟨fun _ => hbroadcast.empty hempty, fun _ => hmem⟩⟩, rfl⟩
    · rw [if_neg hempty] at hok
      cases hok
      exact ⟨hcoherent, rfl⟩

/-- An event leaves the tables coherent if and only if it is harmless. -/
theorem step_coherent_iff (hcoherent : h.Coherent) {event : Event} (hok : h.step event = .ok h') :
    h'.Coherent ↔ h.Harmless event h'.ift := by
  obtain ⟨haddress, hbroadcast⟩ := (coherent_iff h).mp hcoherent
  by_cases hquery : (∃ dest, event = .isLocalAddress dest) ∨ ∃ dest, event = .isLocalBroadcastAddress dest
  · obtain ⟨hcoherent', hift⟩ := query_coherent hcoherent hquery hok
    rw [hift]
    refine ⟨fun _ => ⟨fun hinv => ?_,
      fun _ => ⟨(haddress.kept_iff _).mp haddress, (hbroadcast.kept_iff _).mp hbroadcast⟩⟩,
      fun _ => hcoherent'⟩
    rcases hquery with ⟨dest, rfl⟩ | ⟨dest, rfl⟩
    · exact hinv.elim
    · exact hinv.elim
  · rw [not_or, not_exists, not_exists] at hquery
    have hcaches := step_caches hquery.1 hquery.2 hok
    rw [coherent_iff, Harmless]
    by_cases hinv : h.Invalidates event
    · obtain ⟨hlocal, hlocal'⟩ := hcaches.cleared hinv
      rw [hlocal, hlocal', agrees_nil_iff, agrees_nil_iff]
      exact ⟨fun hdata => ⟨fun _ => hdata.1, fun hno => absurd hinv hno⟩, fun hall => ⟨hall.1 hinv, hall.1 hinv⟩⟩
    · obtain ⟨hlocal, hlocal'⟩ := hcaches.kept hinv
      rw [hlocal, hlocal', haddress.kept_iff, hbroadcast.kept_iff]
      exact ⟨fun hkept => ⟨fun hyes => absurd hyes hinv, fun _ => hkept⟩, fun hall => hall.2 hinv⟩

/-- After the initialization the caches are empty and all interfaces have been configured. -/
structure Initialized (h : HostTables) : Prop where
  localAddresses : h.localAddresses = []
  localBroadcastAddresses : h.localBroadcastAddresses = []
  hasData : HasData h.ift

theorem Initialized.coherent (h : HostTables) (hinit : h.Initialized) : h.Coherent := by
  rw [coherent_iff, hinit.localAddresses, hinit.localBroadcastAddresses, agrees_nil_iff, agrees_nil_iff]
  exact ⟨hinit.hasData, hinit.hasData⟩

theorem coherentAlong_iff_of_coherent (hcoherent : h.Coherent) (events : List Event) :
    h.CoherentAlong events ↔ h.HarmlessRun events := by
  induction events generalizing h with
  | nil => exact iff_of_true hcoherent trivial
  | cons event events ih =>
    constructor
    · rintro ⟨-, hrest⟩ h' hok
      have hstart : h'.Coherent := by
        have hrest' := hrest h' hok
        cases events with
        | nil => exact hrest'
        | cons event' events => exact hrest'.1
      exact ⟨(step_coherent_iff hcoherent hok).mp hstart, (ih hstart).mp (hrest h' hok)⟩
    · intro hharmless
      refine ⟨hcoherent, fun h' hok => ?_⟩
      obtain ⟨hstep, hrest⟩ := hharmless h' hok
      exact (ih ((step_coherent_iff hcoherent hok).mpr hstep)).mpr hrest

/-- The queries answer what the interfaces say in every state of a run if and only if each event that does not
invalidate the caches is one that does not have to. -/
theorem coherentAlong_iff (hinit : h.Initialized) (events : List Event) :
    h.CoherentAlong events ↔ h.HarmlessRun events :=
  coherentAlong_iff_of_coherent hinit.coherent events

section Example

/-- One interface, with this netmask; the route goes through it. -/
def oneInterface (netmask : IPv4Address) (routes : List RouteRef) : HostTables where
  simTime := 0
  heap := fun _ => { interfacePtr := some 1 }
  routes := routes
  routingCache := fun _ => none
  multicastRoutes := []
  localAddresses := []
  localBroadcastAddresses := []
  ift := [⟨1, some (0x0a000001, netmask, 1)⟩]

/-- The address is asked for, and then the interface goes. -/
def askAndDelete : List Event := [.isLocalAddress 0x0a000001, .deleteInterface false 1]

theorem oneInterface_initialized (netmask : IPv4Address) (routes : List RouteRef) :
    (oneInterface netmask routes).Initialized := by
  refine ⟨rfl, rfl, fun i hi => ?_⟩
  rw [mem_singleton.mp hi]
  simp

/-- An interface with a route. -/
theorem coherentAlong_with_route : (oneInterface 0xffffff00 [0]).CoherentAlong askAndDelete := by
  refine (coherentAlong_iff (oneInterface_initialized 0xffffff00 [0]) askAndDelete).mpr ?_
  intro h₁ hok₁
  cases hok₁
  refine ⟨⟨fun hinv => hinv.elim, fun _ => ⟨⟨fun _ => ?_, fun hne => absurd rfl hne⟩,
    fun _ => ?_, fun hne => absurd rfl hne⟩⟩, ?_⟩
  · exact (oneInterface_initialized 0xffffff00 [0]).hasData
  · exact (oneInterface_initialized 0xffffff00 [0]).hasData
  · intro h₂ hok₂
    cases hok₂
    refine ⟨⟨fun _ i hi => ?_, fun hno => absurd ⟨rfl, ?_⟩ hno⟩, trivial⟩
    · cases hi
    · exact .inl ⟨0, by decide, rfl⟩

/-- An interface without a route: its address is still local when it is gone. -/
theorem deleted_address_is_local :
    (oneInterface 0xffffffff []).Initialized ∧ ¬ (oneInterface 0xffffffff []).CoherentAlong askAndDelete := by
  refine ⟨oneInterface_initialized 0xffffffff [], ?_⟩
  rintro ⟨-, hasked⟩
  obtain ⟨-, hdeleted⟩ := hasked _ rfl
  obtain ⟨b, h', hok, hlocal⟩ := (hdeleted _ rfl).address 0x0a000001
  cases hok
  exact absurd (hlocal.mp rfl) (by decide)

end Example

end HostTables

end Inet.Ipv4
