import Inetmanet.Lib.DistanceVector
import Inetmanet.Rip.LostRoutes
import Inetmanet.Rip.TableInvariant

/-!
# Networks of RIP routers

Routers whose interfaces and costs do not change. A packet that has been sent may arrive
at any time, any number of times, or not at all. A network is known by its prefix.
-/
namespace Inet.Rip

open Ipv4

/-- A destination: address and prefix length. -/
abbrev Network := IPv4Address × Int

structure Topology (Router : Type) where
  ift : Router → List InterfaceEntry
  /-- The `<interface>` elements of the configuration. -/
  config : Router → InterfaceRef → Option InterfaceConfig

namespace Topology

variable {Router : Type}

/-- The network that an interface is on. -/
def network (T : Topology Router) (r : Router) (ie : InterfaceRef) : Option Network :=
  ((T.ift r).find? fun i => i.ie = ie).bind fun i =>
    i.ipv4Data.map fun data => (data.1 &&& data.2, (IPv4Address.getNetmaskLength data.2 : Int))

def address (T : Topology Router) (r : Router) (ie : InterfaceRef) : Option IPv4Address :=
  ((T.ift r).find? fun i => i.ie = ie).bind fun i => i.ipv4Data.map Prod.fst

/-- The metric that the RIP module gets for an interface; it is 1 where the interface is not used by RIP. -/
def interfaceCost (config : InterfaceRef → Option InterfaceConfig) (ift : List InterfaceEntry) (ie : InterfaceRef) : Nat :=
  match ift.find? fun i => i.ie = ie ∧ i.multicast = true ∧ ¬ i.loopback = true with
  | none => 1
  | some _ =>
    match RIPInterfaceEntry.new ie (config ie) with
    | .ok ripInterface => ripInterface.metric
    | .error _ => 1

def cost (T : Topology Router) (r : Router) (ie : InterfaceRef) : Nat := interfaceCost (T.config r) (T.ift r) ie

def graph (T : Topology Router) : DistanceVector.Graph Router Network where
  attached r n c := ∃ ie, T.network r ie = some n ∧ c = T.cost r ie
  link r r' c := ∃ ie ie' n, T.network r ie = some n ∧ T.network r' ie' = some n ∧ c = T.cost r ie

theorem one_le_cost (T : Topology Router) (r : Router) (ie : InterfaceRef) : 1 ≤ T.cost r ie := by
  rw [Topology.cost, Topology.interfaceCost]
  split
  · exact Nat.le_refl 1
  · split
    case h_1 ripInterface _ => exact ripInterface.inRange.1
    case h_2 => exact Nat.le_refl 1

theorem one_le_path {T : Topology Router} {r : Router} {n : Network} {c : Nat} (h : T.graph.Path r n c) : 1 ≤ c := by
  induction h with
  | direct hattached =>
    obtain ⟨ie, -, rfl⟩ := hattached
    exact one_le_cost T _ ie
  | hop _ _ ih => exact Nat.le_add_left_of_le ih

/-- The address is that of an interface of `sender` on the network of the interface `ie` of `r`. -/
def Neighbour (T : Topology Router) (r : Router) (ie : InterfaceRef) (sender : Router) (srcAddr : IPv4Address) : Prop :=
  T.network r ie ≠ none ∧ ∃ i ∈ T.ift sender, T.network sender i.ie = T.network r ie ∧
    T.address sender i.ie = some srcAddr

instance (T : Topology Router) (r : Router) (ie : InterfaceRef) (sender : Router) (srcAddr : IPv4Address) :
    Decidable (T.Neighbour r ie sender srcAddr) := inferInstanceAs (Decidable (_ ∧ ∃ i ∈ _, _))

def HasAddress (T : Topology Router) (r : Router) (addr : IPv4Address) : Prop := ∃ i ∈ T.ift r, T.address r i.ie = some addr
deriving Decidable

/-- How a packet can arrive: multicasts stay on the network of the interface they are sent on, for the
others the hosts' routing tables decide where they leave the sender and come in. -/
def Reaches (T : Topology Router) (sender : Router) (s : Sent) (r : Router) (ctrlInfo : UDPDataIndication) : Prop :=
  if isMulticast s.destAddr then
    ∃ ie ∈ s.outInterface, T.network r ctrlInfo.interfaceId ≠ none ∧
      T.network sender ie = T.network r ctrlInfo.interfaceId ∧ T.address sender ie = some ctrlInfo.srcAddr
  else T.HasAddress r s.destAddr ∧ T.HasAddress sender ctrlInfo.srcAddr

instance (T : Topology Router) (sender : Router) (s : Sent) (r : Router) (ctrlInfo : UDPDataIndication) :
    Decidable (T.Reaches sender s r ctrlInfo) := by
  unfold Reaches
  infer_instance

end Topology

/-- The routers and the packets that have been sent. -/
structure Net (Router : Type) where
  modules : Router → RIPRouting
  flight : List (Router × Sent)

inductive NetEvent (Router : Type) where
  | startup (r : Router)
  /-- An event at one router. -/
  | own (r : Router) (event : RIPRouting.Event)
  | deliver (sender : Router) (s : Sent) (r : Router) (ctrlInfo : UDPDataIndication)

namespace Net

variable {Router : Type} [DecidableEq Router]

/-- The router `r` handles an event. -/
def act (net : Net Router) (r : Router) (event : RIPRouting.Event) : Sim (Net Router) := do
  let (m, sent) ← (net.modules r).step event
  return ⟨Function.update net.modules r m, net.flight ++ sent.map fun s => (r, s)⟩

def step (T : Topology Router) (net : Net Router) : NetEvent Router → Sim (Net Router)
  | .startup r => net.act r (.startup (T.config r))
  | .own r event => net.act r event
  | .deliver sender s r ctrlInfo =>
    if (sender, s) ∈ net.flight ∧ T.Reaches sender s r ctrlInfo then net.act r (.packet s.packet ctrlInfo) else .ok net

def run (T : Topology Router) (net : Net Router) : List (NetEvent Router) → Sim (Net Router)
  | [] => .ok net
  | event :: events => do (← net.step T event).run T events

/-- A condition on the events of a run and the states in which they happen. -/
def Always (T : Topology Router) (P : Net Router → NetEvent Router → Prop) (net : Net Router) :
    List (NetEvent Router) → Prop
  | [] => True
  | event :: events => P net event ∧ ∀ net', net.step T event = .ok net' → net'.Always T P events

instance decidableAlways (T : Topology Router) (P : Net Router → NetEvent Router → Prop)
    [∀ net event, Decidable (P net event)] : ∀ (events : List (NetEvent Router)) (net : Net Router),
    Decidable (net.Always T P events)
  | [], _ => isTrue trivial
  | event :: events, net =>
    have := fun net' : Net Router => decidableAlways T P events net'
    inferInstanceAs (Decidable (P net event ∧ ∀ net', net.step T event = .ok net' → net'.Always T P events))

/-- No router has started up yet. -/
structure Initial (T : Topology Router) (net : Net Router) : Prop where
  ift : ∀ r, (net.modules r).ift = T.ift r
  startupTimer : ∀ r, (net.modules r).startupTimer ≠ none
  ripInterfaces : ∀ r, (net.modules r).ripInterfaces = []
  ripRoutes : ∀ r, (net.modules r).ripRoutes = []
  flight : net.flight = []

end Net

end Inet.Rip
