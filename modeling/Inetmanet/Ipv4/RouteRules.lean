import Inetmanet.Ipv4.RoutingTable

/-!
# Rules for packets

`IPv4RouteRule.h` and `RoutingTable::findRule`: the rules by which the datagrams of a node are
filtered. A field of a rule or of a packet may be left open. The two setters for the ports assign a
member to itself, so that every rule leaves its ports open.
-/
namespace Inet.Ipv4

/-- A pointer to a rule object. -/
abbrev RuleRef := Nat

def IP_PROT_NONE : Int := 59

inductive IPv4RouteRule.Rule where
  | DROP | ACCEPT | NAT | NONE
  deriving DecidableEq, Repr

structure IPv4RouteRule where
  srcAddress : IPv4Address := 0
  srcNetmask : IPv4Address := 0
  destAddress : IPv4Address := 0
  destNetmask : IPv4Address := 0
  sPort : Int := -1
  dPort : Int := -1
  protocol : Int := IP_PROT_NONE
  rule : IPv4RouteRule.Rule := .NONE
  interfacePtr : Option InterfaceRef := none
  deriving DecidableEq, Repr

namespace IPv4RouteRule

section

variable (e : IPv4RouteRule)

def setSrcAddress (host : IPv4Address) : IPv4RouteRule := { e with srcAddress := host }

def setSrcNetmask (netmask : IPv4Address) : IPv4RouteRule := { e with srcNetmask := netmask }

-- the argument is not read
def setSrcPort (_port : Int) : IPv4RouteRule := { e with sPort := e.sPort }

def setDestAddress (host : IPv4Address) : IPv4RouteRule := { e with destAddress := host }

def setDestNetmask (netmask : IPv4Address) : IPv4RouteRule := { e with destNetmask := netmask }

def setDestPort (_port : Int) : IPv4RouteRule := { e with dPort := e.dPort }

def setInterface (interfacePtr : Option InterfaceRef) : IPv4RouteRule := { e with interfacePtr := interfacePtr }

def setRule (rule : Rule) : Except String IPv4RouteRule :=
  if .DROP ≠ rule ∧ .NONE ≠ rule then .error "Rule not supported yet" else .ok { e with rule := rule }

def setProtocol (protocol : Int) : IPv4RouteRule := { e with protocol := protocol }

end

/-- The rules that the constructor and the setters make. -/
inductive Built : IPv4RouteRule → Prop where
  | new : Built {}
  | setSrcAddress {e} (host) : Built e → Built (e.setSrcAddress host)
  | setSrcNetmask {e} (netmask) : Built e → Built (e.setSrcNetmask netmask)
  | setSrcPort {e} (port) : Built e → Built (e.setSrcPort port)
  | setDestAddress {e} (host) : Built e → Built (e.setDestAddress host)
  | setDestNetmask {e} (netmask) : Built e → Built (e.setDestNetmask netmask)
  | setDestPort {e} (port) : Built e → Built (e.setDestPort port)
  | setInterface {e} (interfacePtr) : Built e → Built (e.setInterface interfacePtr)
  | setRule {e e'} (rule) : Built e → e.setRule rule = .ok e' → Built e'
  | setProtocol {e} (protocol) : Built e → Built (e.setProtocol protocol)

theorem setRule_ports {e e' : IPv4RouteRule} {rule : Rule} (h : e.setRule rule = .ok e') :
    e'.sPort = e.sPort ∧ e'.dPort = e.dPort := by
  rw [setRule] at h
  split at h
  · simp at h
  · simp only [Except.ok.injEq] at h
    simp [← h]

theorem Built.ports {e : IPv4RouteRule} (h : e.Built) : e.sPort = -1 ∧ e.dPort = -1 := by
  induction h with
  | new => exact ⟨rfl, rfl⟩
  | setRule rule _ hset ih => rw [(setRule_ports hset).1, (setRule_ports hset).2]; exact ih
  | _ => assumption

end IPv4RouteRule

/-- What `findRule` is asked for. -/
structure PacketDescription where
  prot : Int
  sPort : Int
  srcAddr : IPv4Address
  dPort : Int
  destAddr : IPv4Address
  iface : Option InterfaceRef
  deriving DecidableEq, Repr

/-- The two lists of a routing table, and the objects that they point to. -/
structure RouteRules where
  outputRules : List RuleRef
  inputRules : List RuleRef
  object : RuleRef → IPv4RouteRule
  built : ∀ it, (object it).Built

namespace RouteRules

/-- The loop of `findRule`. -/
def findFrom (object : RuleRef → IPv4RouteRule) (p : PacketDescription) : List RuleRef → Option RuleRef
  | [] => none
  | it :: rest =>
    let e := object it
    if (p.srcAddr ≠ 0 ∧ e.srcAddress ≠ 0) ∧ ¬ IPv4Address.maskedAddrAreEqual p.srcAddr e.srcAddress e.srcNetmask then
      findFrom object p rest
    else if (p.destAddr ≠ 0 ∧ e.destAddress ≠ 0) ∧
        ¬ IPv4Address.maskedAddrAreEqual p.destAddr e.destAddress e.destNetmask then
      findFrom object p rest
    else if p.prot ≠ IP_PROT_NONE ∧ e.protocol ≠ IP_PROT_NONE ∧ p.prot ≠ e.protocol then findFrom object p rest
    else if p.sPort ≠ -1 ∧ e.sPort ≠ -1 ∧ p.sPort ≠ e.sPort then findFrom object p rest
    else if p.dPort ≠ -1 ∧ e.dPort ≠ -1 ∧ p.sPort ≠ e.dPort then findFrom object p rest
    else if p.iface ≠ none ∧ e.interfacePtr ≠ none ∧ p.iface ≠ e.interfacePtr then findFrom object p rest
    else some it

def findRule (rules : RouteRules) (output : Bool) (p : PacketDescription) : Option RuleRef :=
  findFrom rules.object p (if output then rules.outputRules else rules.inputRules)

end RouteRules

namespace IPv4RouteRule

/-- The fields agree wherever the rule and the packet specify them. -/
structure Agrees (e : IPv4RouteRule) (p : PacketDescription) : Prop where
  src : p.srcAddr ≠ 0 → e.srcAddress ≠ 0 → IPv4Address.maskedAddrAreEqual p.srcAddr e.srcAddress e.srcNetmask
  dest : p.destAddr ≠ 0 → e.destAddress ≠ 0 → IPv4Address.maskedAddrAreEqual p.destAddr e.destAddress e.destNetmask
  protocol : p.prot ≠ IP_PROT_NONE → e.protocol ≠ IP_PROT_NONE → p.prot = e.protocol
  sPort : p.sPort ≠ -1 → e.sPort ≠ -1 → p.sPort = e.sPort
  dPort : p.dPort ≠ -1 → e.dPort ≠ -1 → p.dPort = e.dPort
  interfacePtr : p.iface ≠ none → e.interfacePtr ≠ none → p.iface = e.interfacePtr

theorem agrees_iff (e : IPv4RouteRule) (p : PacketDescription) : e.Agrees p ↔
    (p.srcAddr ≠ 0 → e.srcAddress ≠ 0 → IPv4Address.maskedAddrAreEqual p.srcAddr e.srcAddress e.srcNetmask) ∧
    (p.destAddr ≠ 0 → e.destAddress ≠ 0 → IPv4Address.maskedAddrAreEqual p.destAddr e.destAddress e.destNetmask) ∧
    (p.prot ≠ IP_PROT_NONE → e.protocol ≠ IP_PROT_NONE → p.prot = e.protocol) ∧
    (p.sPort ≠ -1 → e.sPort ≠ -1 → p.sPort = e.sPort) ∧ (p.dPort ≠ -1 → e.dPort ≠ -1 → p.dPort = e.dPort) ∧
    (p.iface ≠ none → e.interfacePtr ≠ none → p.iface = e.interfacePtr) := by
  constructor
  · exact fun h => ⟨h.src, h.dest, h.protocol, h.sPort, h.dPort, h.interfacePtr⟩
  · exact fun h => ⟨h.1, h.2.1, h.2.2.1, h.2.2.2.1, h.2.2.2.2.1, h.2.2.2.2.2⟩

instance (e : IPv4RouteRule) (p : PacketDescription) : Decidable (e.Agrees p) := decidable_of_iff' _ (agrees_iff e p)

end IPv4RouteRule

namespace RouteRules

variable {object : RuleRef → IPv4RouteRule} {p : PacketDescription}

/-- The chain of comparisons is one test. The comparison of the packet's source port with the rule's destination
port is never reached. -/
theorem findFrom_eq (hbuilt : ∀ it, (object it).Built) (l : List RuleRef) :
    findFrom object p l = l.find? fun it => (object it).Agrees p := by
  induction l with
  | nil => rfl
  | cons it l ih =>
    have hskip (h : ¬ (object it).Agrees p) :
        findFrom object p l = (it :: l).find? fun it => (object it).Agrees p := by
      rw [List.find?_cons, decide_eq_false h]
      exact ih
    have hports := (hbuilt it).ports
    rw [findFrom]
    split
    · next h => exact hskip fun hp => h.2 (hp.src h.1.1 h.1.2)
    · next hsrc =>
      split
      · next h => exact hskip fun hp => h.2 (hp.dest h.1.1 h.1.2)
      · next hdest =>
        split
        · next h => exact hskip fun hp => h.2.2 (hp.protocol h.1 h.2.1)
        · next hprot =>
          rw [if_neg fun h => h.2.1 hports.1, if_neg fun h => h.2.1 hports.2]
          split
          · next h => exact hskip fun hp => h.2.2 (hp.interfacePtr h.1 h.2.1)
          · next hiface =>
            have hagrees : (object it).Agrees p := by
              constructor
              · exact fun h₁ h₂ => Decidable.of_not_not fun h => hsrc ⟨⟨h₁, h₂⟩, h⟩
              · exact fun h₁ h₂ => Decidable.of_not_not fun h => hdest ⟨⟨h₁, h₂⟩, h⟩
              · exact fun h₁ h₂ => Decidable.of_not_not fun h => hprot ⟨h₁, h₂, h⟩
              · exact fun _ h => absurd hports.1 h
              · exact fun _ h => absurd hports.2 h
              · exact fun h₁ h₂ => Decidable.of_not_not fun h => hiface ⟨h₁, h₂, h⟩
            rw [List.find?_cons, decide_eq_true hagrees]

/-- `findRule` finds the first rule whose fields agree with the packet's, wherever both specify them. -/
theorem findRule_eq (rules : RouteRules) (output : Bool) (p : PacketDescription) :
    rules.findRule output p =
      (if output then rules.outputRules else rules.inputRules).find? fun it => (rules.object it).Agrees p :=
  findFrom_eq rules.built _

end RouteRules

end Inet.Ipv4
