import Inetmanet.Ipv4.RoutingTable
import Inetmanet.Ospf.ShortestPathTree

/-!
# Entries of the OSPF routing table

`OSPFRoutingTableEntry.h`, `OSPFRoutingTableEntry.cc` and the address ranges of
`OSPFcommon.h`. What an entry has as an IPv4 route is left out, apart from its
destination and mask: the interface, the gateway and the metric follow from the rest.
-/
namespace Inet.Ospf

open Ipv4 List

abbrev AreaID := IPv4Address

def BACKBONE_AREAID : AreaID := 0

structure IPv4AddressRange where
  address : IPv4Address
  mask : IPv4Address
  deriving DecidableEq, Repr

namespace IPv4AddressRange

def containsRange (range : IPv4AddressRange) (otherAddress otherMask : IPv4Address) : Prop :=
  IPv4Address.maskedAddrAreEqual range.address otherAddress range.mask ∧ range.mask ≤ otherMask

instance (range : IPv4AddressRange) (otherAddress otherMask : IPv4Address) :
    Decidable (range.containsRange otherAddress otherMask) := inferInstanceAs (Decidable (_ ∧ _))

end IPv4AddressRange

inductive RoutingPathType where
  | INTRAAREA | INTERAREA | TYPE1_EXTERNAL | TYPE2_EXTERNAL
  deriving DecidableEq, Repr

abbrev RoutingDestinationType := BitVec 8

def NETWORK_DESTINATION : RoutingDestinationType := 0

/-- The `OSPFLSA*` that an entry comes from. -/
inductive LinkStateOrigin where
  | routerLSA (lsa : RouterLSA)
  | networkLSA (lsa : NetworkLSA)
  | summaryLSA (lsa : SummaryLSA)
  | asExternalLSA (header : OSPFLSAHeader)
  deriving DecidableEq, Repr

structure RoutingTableEntry where
  destination : IPv4Address := 0
  netmask : IPv4Address := BitVec.allOnes 32
  destinationType : RoutingDestinationType := NETWORK_DESTINATION
  optionalCapabilities : OSPFOptions := {}
  area : AreaID := BACKBONE_AREAID
  pathType : RoutingPathType := .INTRAAREA
  cost : Nat := 0
  type2Cost : Nat := 0
  linkStateOrigin : Option LinkStateOrigin := none
  nextHops : List NextHop := []
  deriving DecidableEq, Repr

namespace RoutingTableEntry

/-- An entry for a network that holds the address. -/
def holds (entry : RoutingTableEntry) (dest : IPv4Address) : Prop :=
  entry.destinationType = NETWORK_DESTINATION ∧ entry.destination &&& entry.netmask = dest &&& entry.netmask
deriving Decidable

end RoutingTableEntry

/-- The best match so far, and its masked address. -/
def matchStep (dest : IPv4Address) (best : Option RoutingTableEntry × IPv4Address) (entry : RoutingTableEntry) :
    Option RoutingTableEntry × IPv4Address :=
  if entry.holds dest then
    if dest &&& entry.netmask > best.2 then (some entry, dest &&& entry.netmask) else best
  else best

/-- The loop for the `longestMatch`: the masked addresses are compared, and not the masks. -/
def bestMatch (table : List RoutingTableEntry) (dest : IPv4Address) : Option RoutingTableEntry × IPv4Address :=
  table.foldl (matchStep dest) (none, 0)

/-- The entries that hold an address, in their order. -/
def matching (table : List RoutingTableEntry) (dest : IPv4Address) : List RoutingTableEntry :=
  table.filter (·.holds dest)

/-- The entry `e` is the first one with the greatest masked address among the entries, and that is not zero. -/
structure FirstGreatest (dest : IPv4Address) (entries : List RoutingTableEntry) (e : RoutingTableEntry) : Prop where
  first : ∃ front back, entries = front ++ e :: back ∧
    (∀ f ∈ front, dest &&& f.netmask < dest &&& e.netmask) ∧ ∀ b ∈ back, dest &&& b.netmask ≤ dest &&& e.netmask
  pos : 0 < dest &&& e.netmask

variable {entries : List RoutingTableEntry} {dest : IPv4Address}

theorem FirstGreatest.mem {e : RoutingTableEntry}
    (h : FirstGreatest dest entries e) : e ∈ entries := by
  obtain ⟨front, back, rfl, -⟩ := h.first
  simp

theorem FirstGreatest.le {e f : RoutingTableEntry}
    (h : FirstGreatest dest entries e) (hf : f ∈ entries) : dest &&& f.netmask ≤ dest &&& e.netmask := by
  obtain ⟨front, back, rfl, hfront, hback⟩ := h.first
  rcases mem_append.mp hf with hf | hf
  · exact BitVec.le_of_lt (hfront f hf)
  · rcases mem_cons.mp hf with rfl | hf
    · exact BitVec.le_refl _
    · exact hback f hf

/-- There is only one. -/
theorem FirstGreatest.unique {e e' : RoutingTableEntry}
    (h : FirstGreatest dest entries e) (h' : FirstGreatest dest entries e') : e = e' := by
  obtain ⟨front, back, rfl, hfront, hback⟩ := h.first
  obtain ⟨front', back', heq, hfront', hback'⟩ := h'.first
  rcases append_eq_append_iff.mp heq with ⟨as, rfl, htail⟩ | ⟨as, rfl, htail⟩
  · cases as with
    | nil => exact (List.cons.inj htail).1
    | cons a as =>
      obtain ⟨rfl, rfl⟩ := List.cons.inj htail
      have hlt := hfront' e (by simp)
      have hle := hback e' (by simp)
      exact absurd hlt (BitVec.not_lt.mpr hle)
  · cases as with
    | nil => exact (List.cons.inj htail).1.symm
    | cons a as =>
      obtain ⟨rfl, rfl⟩ := List.cons.inj htail
      have hlt := hfront e' (by simp)
      have hle := hback' e (by simp)
      exact absurd hlt (BitVec.not_lt.mpr hle)

/-- What the loop finds. -/
theorem bestMatch_cases (table : List RoutingTableEntry) (dest : IPv4Address) :
    (bestMatch table dest = (none, 0) ∧ ∀ e ∈ matching table dest, dest &&& e.netmask = 0) ∨
    ∃ e, bestMatch table dest = (some e, dest &&& e.netmask) ∧ FirstGreatest dest (matching table dest) e := by
  induction table using reverseRecOn with
  | nil => exact .inl ⟨rfl, by simp [matching]⟩
  | append_singleton table entry ih =>
    have hstep : bestMatch (table ++ [entry]) dest = matchStep dest (bestMatch table dest) entry := by
      rw [bestMatch, foldl_append]
      rfl
    by_cases hholds : entry.holds dest
    · have hmatching : matching (table ++ [entry]) dest = matching table dest ++ [entry] := by
        simp [matching, hholds]
      rw [hstep, hmatching, matchStep, if_pos hholds]
      rcases ih with ⟨hbest, hzero⟩ | ⟨e, hbest, hfirst⟩
      · rw [hbest]
        by_cases hgt : dest &&& entry.netmask > 0
        · refine .inr ⟨entry, if_pos hgt, ⟨matching table dest, [], rfl, fun f hf => ?_, by simp⟩, hgt⟩
          rw [hzero f hf]
          exact hgt
        · refine .inl ⟨if_neg hgt, fun f hf => ?_⟩
          rcases mem_append.mp hf with hf | hf
          · exact hzero f hf
          · rw [mem_singleton.mp hf]
            exact BitVec.le_zero_iff.mp (BitVec.not_lt.mp hgt)
      · rw [hbest]
        by_cases hgt : dest &&& entry.netmask > dest &&& e.netmask
        · refine .inr ⟨entry, if_pos hgt, ⟨matching table dest, [], rfl, fun f hf => ?_, by simp⟩, ?_⟩
          · exact Nat.lt_of_le_of_lt (hfirst.le hf) hgt
          · exact Nat.lt_of_le_of_lt (Nat.zero_le _) hgt
        · obtain ⟨front, back, heq, hfront, hback⟩ := hfirst.first
          refine .inr ⟨e, if_neg hgt, ⟨front, back ++ [entry], by rw [heq]; simp, hfront, fun b hb => ?_⟩, hfirst.pos⟩
          rcases mem_append.mp hb with hb | hb
          · exact hback b hb
          · rw [mem_singleton.mp hb]
            exact BitVec.not_lt.mp hgt
    · have hmatching : matching (table ++ [entry]) dest = matching table dest := by
        simp [matching, hholds]
      rw [hstep, hmatching, matchStep, if_neg hholds]
      exact ih

end Inet.Ospf
