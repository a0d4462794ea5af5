import Inetmanet.Ospf.OSPFRoutingTableEntry

/-!
# Looking up a destination

`Router::lookup` of `OSPFRouter.cc`: the best match among the network entries, unless
an active address range of an area is in its way.
-/
namespace Inet.Ospf

open Ipv4

/-- What the lookup reads of an area. -/
structure AreaRanges where
  areaID : AreaID
  areaAddressRanges : List IPv4AddressRange
  deriving DecidableEq, Repr

/-- An active area address range: an intra-area entry lies in it. -/
def IPv4AddressRange.isActive (range : IPv4AddressRange) (table : List RoutingTableEntry) : Prop :=
  ∃ entry ∈ table, entry.destinationType = NETWORK_DESTINATION ∧ range.containsRange entry.destination entry.netmask ∧
    entry.pathType = .INTRAAREA
deriving Decidable

/-- The discard entries of the active ranges. -/
def discard (areas : List AreaRanges) (table : List RoutingTableEntry) : List RoutingTableEntry :=
  areas.flatMap fun area => (area.areaAddressRanges.filter (·.isActive table)).map fun range => {
    destination := range.address
    netmask := range.mask
    destinationType := NETWORK_DESTINATION
    pathType := .INTERAREA
    area := area.areaID }

def lookup (areas : List AreaRanges) (table : List RoutingTableEntry) (destination : IPv4Address) :
    Option RoutingTableEntry :=
  match bestMatch table destination with
  | (none, _) => none
  | (some entry, longestMatch) =>
    if ∃ d ∈ discard areas table, d.destination &&& d.netmask = destination &&& d.netmask ∧
        destination &&& d.netmask > longestMatch then none
    else some entry

variable {areas : List AreaRanges} {table : List RoutingTableEntry} {dest : IPv4Address}

/-- Some active range that holds the destination is longer than every entry that does. -/
def Discarded (areas : List AreaRanges) (table : List RoutingTableEntry) (dest : IPv4Address) : Prop :=
  ∃ d ∈ matching (discard areas table) dest, ∀ e ∈ matching table dest, e.netmask < d.netmask
deriving Decidable

/-- What a lookup is to give: an entry with the longest mask. -/
def LongestMatch (areas : List AreaRanges) (table : List RoutingTableEntry) (dest : IPv4Address) :
    Option RoutingTableEntry → Prop
  | none => matching table dest = [] ∨ Discarded areas table dest
  | some entry => entry ∈ matching table dest ∧ (∀ e ∈ matching table dest, e.netmask ≤ entry.netmask) ∧
      ¬ Discarded areas table dest

instance : (result : Option RoutingTableEntry) → Decidable (LongestMatch areas table dest result)
  | none => inferInstanceAs (Decidable (_ ∨ Discarded areas table dest))
  | some _ => inferInstanceAs (Decidable (_ ∧ _ ∧ ¬ Discarded areas table dest))

/-- The discard entries are those of networks. -/
theorem holds_of_mem_discard {d : RoutingTableEntry} (h : d ∈ discard areas table) :
    d.holds dest ↔ d.destination &&& d.netmask = dest &&& d.netmask := by
  obtain ⟨area, -, hd⟩ := List.mem_flatMap.mp h
  obtain ⟨range, -, rfl⟩ := List.mem_map.mp hd
  exact and_iff_right rfl

/-- A range is in the way of the best match. -/
def Covered (areas : List AreaRanges) (table : List RoutingTableEntry) (dest longestMatch : IPv4Address) : Prop :=
  ∃ d ∈ matching (discard areas table) dest, longestMatch < dest &&& d.netmask
deriving Decidable

theorem lookup_some {entry : RoutingTableEntry} {longestMatch : IPv4Address}
    (h : bestMatch table dest = (some entry, longestMatch)) :
    lookup areas table dest = if Covered areas table dest longestMatch then none else some entry := by
  have hiff : (∃ d ∈ discard areas table, d.destination &&& d.netmask = dest &&& d.netmask ∧
      dest &&& d.netmask > longestMatch) ↔ Covered areas table dest longestMatch := by
    constructor
    · rintro ⟨d, hd, heq, hgt⟩
      exact ⟨d, List.mem_filter.mpr ⟨hd, decide_eq_true ((holds_of_mem_discard hd).mpr heq)⟩, hgt⟩
    · rintro ⟨d, hd, hgt⟩
      obtain ⟨hd, hholds⟩ := List.mem_filter.mp hd
      exact ⟨d, hd, (holds_of_mem_discard hd).mp (of_decide_eq_true hholds), hgt⟩
  rw [lookup, h]
  exact if_congr hiff rfl rfl

/-- The masked addresses tell the best match: where a range is to be in the way of it, it is, or no masked
address is other than zero; and else the first entry with the greatest masked address has the longest mask. -/
def ToldByAddress (areas : List AreaRanges) (table : List RoutingTableEntry) (dest : IPv4Address) : Prop :=
  (Discarded areas table dest ∧
    ((∀ e ∈ matching table dest, dest &&& e.netmask = 0) ∨
      ∃ d ∈ matching (discard areas table) dest, ∀ e ∈ matching table dest, dest &&& e.netmask < dest &&& d.netmask)) ∨
  (¬ Discarded areas table dest ∧ ∃ entry, FirstGreatest dest (matching table dest) entry ∧
    (∀ e ∈ matching table dest, e.netmask ≤ entry.netmask) ∧
    ∀ d ∈ matching (discard areas table) dest, dest &&& d.netmask ≤ dest &&& entry.netmask)

/-- The lookup gives the longest match just where no entry matches or the masked addresses tell it. -/
theorem lookup_longestMatch_iff (areas : List AreaRanges) (table : List RoutingTableEntry) (dest : IPv4Address) :
    LongestMatch areas table dest (lookup areas table dest) ↔
      matching table dest = [] ∨ ToldByAddress areas table dest := by
  by_cases hempty : matching table dest = []
  · have hnone : lookup areas table dest = none := by
      rcases bestMatch_cases table dest with ⟨hbest, -⟩ | ⟨e, -, hfirst⟩
      · rw [lookup, hbest]
      · have hmem := hfirst.mem
        rw [hempty] at hmem
        cases hmem
    rw [hnone]
    exact iff_of_true (.inl hempty) (.inl hempty)
  · rw [or_iff_right hempty]
    rcases bestMatch_cases table dest with ⟨hbest, hzero⟩ | ⟨entry, hbest, hfirst⟩
    · have hnone : lookup areas table dest = none := by rw [lookup, hbest]
      rw [hnone]
      constructor
      · intro h
        exact .inl ⟨h.resolve_left hempty, .inl hzero⟩
      · rintro (⟨hdiscarded, -⟩ | ⟨-, e, hfirst, -⟩)
        · exact .inr hdiscarded
        · have hpos := hfirst.pos
          rw [hzero e hfirst.mem] at hpos
          exact absurd hpos (BitVec.lt_irrefl _)
    · rw [lookup_some hbest]
      by_cases hcov : Covered areas table dest (dest &&& entry.netmask)
      · rw [if_pos hcov]
        obtain ⟨d, hd, hlt⟩ := hcov
        constructor
        · intro h
          exact .inl ⟨h.resolve_left hempty, .inr ⟨d, hd, fun e he => Nat.lt_of_le_of_lt (hfirst.le he) hlt⟩⟩
        · rintro (⟨hdiscarded, -⟩ | ⟨-, e, hfirst', -, hle⟩)
          · exact .inr hdiscarded
          · rw [hfirst'.unique hfirst] at hle
            exact absurd hlt (BitVec.not_lt.mpr (hle d hd))
      · rw [if_neg hcov]
        have hle : ∀ d ∈ matching (discard areas table) dest, dest &&& d.netmask ≤ dest &&& entry.netmask := fun d hd =>
          BitVec.not_lt.mp fun hlt => hcov ⟨d, hd, hlt⟩
        constructor
        · rintro ⟨-, hlongest, hnot⟩
          exact .inr ⟨hnot, entry, hfirst, hlongest, hle⟩
        · rintro (⟨-, hzero | ⟨d, hd, hlt⟩⟩ | ⟨hnot, e, hfirst', hlongest, -⟩)
          · have hpos := hfirst.pos
            rw [hzero entry hfirst.mem] at hpos
            exact absurd hpos (BitVec.lt_irrefl _)
          · exact absurd (hlt entry hfirst.mem) (BitVec.not_lt.mpr (hle d hd))
          · rw [hfirst'.unique hfirst] at hlongest
            exact ⟨hfirst.mem, hlongest, hnot⟩

/-- 10.0.0.0/8 comes before 10.0.0.0/24, and both mask 10.0.0.5 to the same address. -/
theorem shorter_match_first : ¬ LongestMatch [] [{ destination := 0x0A000000, netmask := 0xFF000000 },
    { destination := 0x0A000000, netmask := 0xFFFFFF00 }] 0x0A000005
    (lookup [] [{ destination := 0x0A000000, netmask := 0xFF000000 },
      { destination := 0x0A000000, netmask := 0xFFFFFF00 }] 0x0A000005) := by decide

end Inet.Ospf
