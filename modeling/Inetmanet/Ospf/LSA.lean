import Inetmanet.Ipv4.IPv4

/-!
# Link state advertisements

`OSPFPacket.msg`, `LSA.h`, `LSA.cc`, `RouterLSA.cc`, `NetworkLSA.cc` and
`SummaryLSA.cc`. The kinds of LSAs differ in what they hold besides their header.
-/
namespace Inet.Ospf

open Ipv4

abbrev RouterID := IPv4Address
abbrev LinkStateID := IPv4Address

def LS_REFRESH_TIME : Nat := 1800
def MAX_AGE : Nat := 3600
def INITIAL_SEQUENCE_NUMBER : Int := -2147483647
def MAX_SEQUENCE_NUMBER : Int := 2147483647

inductive LSAType where
  | ROUTERLSA_TYPE
  | NETWORKLSA_TYPE
  | SUMMARYLSA_NETWORKS_TYPE
  | SUMMARYLSA_ASBOUNDARYROUTERS_TYPE
  | AS_EXTERNAL_LSA_TYPE
  /-- a value of the header's field that the enumeration does not have -/
  | other (lsType : BitVec 8)
  deriving DecidableEq, Repr

structure OSPFOptions where
  E_ExternalRoutingCapability : Bool := false
  MC_MulticastForwarding : Bool := false
  NP_Type7LSA : Bool := false
  EA_ForwardExternalLSAs : Bool := false
  DC_DemandCircuits : Bool := false
  deriving DecidableEq, Repr

structure OSPFLSAHeader where
  lsAge : Nat := 0
  lsOptions : OSPFOptions := {}
  lsType : LSAType := .ROUTERLSA_TYPE
  linkStateID : LinkStateID := 0
  advertisingRouter : RouterID := 0
  lsSequenceNumber : Int := 0
  lsaLength : Nat := 0
  deriving DecidableEq, Repr

structure LSAKeyType where
  linkStateID : LinkStateID
  advertisingRouter : RouterID
  deriving DecidableEq, Repr

namespace OSPFLSAHeader

def lsaKey (h : OSPFLSAHeader) : LSAKeyType := ⟨h.linkStateID, h.advertisingRouter⟩

end OSPFLSAHeader

structure TOSData where
  tos : BitVec 8
  tosMetric : BitVec 8 × BitVec 8 × BitVec 8
  deriving DecidableEq, Repr

inductive LinkType where
  | POINTTOPOINT_LINK
  | TRANSIT_LINK
  | STUB_LINK
  | VIRTUAL_LINK
  deriving DecidableEq, Repr

structure Link where
  linkID : IPv4Address := 0
  linkData : Nat := 0
  type : LinkType := .POINTTOPOINT_LINK
  numberOfTOS : Nat := 0
  linkCost : Nat := 1
  tosData : List TOSData := []
  deriving DecidableEq, Repr

structure RouterContents where
  V_VirtualLinkEndpoint : Bool := false
  E_ASBoundaryRouter : Bool := false
  B_AreaBorderRouter : Bool := false
  numberOfLinks : Nat := 0
  links : List Link := []
  deriving DecidableEq, Repr

structure NetworkContents where
  networkMask : IPv4Address := 0
  attachedRouters : List IPv4Address := []
  deriving DecidableEq, Repr

structure SummaryContents where
  networkMask : IPv4Address := 0
  routeCost : Nat := 1
  tosData : List TOSData := []
  deriving DecidableEq, Repr

structure OSPFLSA (β : Type) where
  header : OSPFLSAHeader
  contents : β
  deriving DecidableEq, Repr

abbrev OSPFRouterLSA := OSPFLSA RouterContents
abbrev OSPFNetworkLSA := OSPFLSA NetworkContents
abbrev OSPFSummaryLSA := OSPFLSA SummaryContents

inductive InstallSource where
  | ORIGINATED
  | FLOODED
  deriving DecidableEq, Repr

/-- An LSA in the database, with its `LSATrackingInfo`. -/
structure DatabaseLSA (β : Type) extends OSPFLSA β where
  source : InstallSource := .FLOODED
  installTime : Nat := 0
  deriving DecidableEq, Repr

abbrev RouterLSA := DatabaseLSA RouterContents
abbrev NetworkLSA := DatabaseLSA NetworkContents
abbrev SummaryLSA := DatabaseLSA SummaryContents

namespace DatabaseLSA

variable {β : Type} [DecidableEq β]

/-- All parts of the contents are compared. -/
def differsFrom (l : DatabaseLSA β) (lsa : OSPFLSA β) : Prop :=
  (l.header.lsOptions ≠ lsa.header.lsOptions ∨
    l.header.lsAge = MAX_AGE ∧ lsa.header.lsAge ≠ MAX_AGE ∨
    l.header.lsAge ≠ MAX_AGE ∧ lsa.header.lsAge = MAX_AGE ∨
    l.header.lsaLength ≠ lsa.header.lsaLength) ∨
  l.contents ≠ lsa.contents

instance (l : DatabaseLSA β) (lsa : OSPFLSA β) : Decidable (l.differsFrom lsa) := inferInstanceAs (Decidable (_ ∨ _))

/-- The LSA and whether it differs from what it was. The assignment goes through the converting constructor, so
the tracking information starts anew. -/
def update (l : DatabaseLSA β) (lsa : OSPFLSA β) : DatabaseLSA β × Bool := ({ toOSPFLSA := lsa }, decide (l.differsFrom lsa))

def setLsAge (l : DatabaseLSA β) (lsAge : Nat) : DatabaseLSA β := { l with header := { l.header with lsAge := lsAge } }

def incrementInstallTime (l : DatabaseLSA β) : DatabaseLSA β := { l with installTime := l.installTime + 1 }

end DatabaseLSA

end Inet.Ospf
