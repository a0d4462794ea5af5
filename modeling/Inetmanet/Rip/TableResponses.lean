import Inetmanet.Rip.RIPTable

/-!
# Responses and updates

The routes and the table fit together after every response that does not bring a
better route to a connected network, and after every update that is sent.
-/
namespace Inet.Rip

open Ipv4 List

namespace RIPRouting

/-- The routes and the table fit together. -/
abbrev IsSound (m : RIPRouting) : Prop := Sound m.ripRoutes m.rt m.nextRef

variable {m m' : RIPRouting} {i : Nat}

/-- An entry changes the metric of the route, or brings a better one. -/
def Adopts (q : RIPRoute) (metric : Nat) (srcAddr : IPv4Address) : Prop :=
  ¬ ((q.type = .RIP_ROUTE_STATIC ∨ q.type = .RIP_ROUTE_DEFAULT) ∧ q.metric ≠ RIP_INFINITE_METRIC) ∧
  ((q.sender = srcAddr ∧ q.metric ≠ metric) ∨ metric < q.metric)
deriving Decidable

/-- No route of a connected network with a finite metric gives way to a learned one: `updateRoute`
leaves the type of such a route as it is. -/
def EntryRegular (m : RIPRouting) (incomingIe : RIPInterfaceEntry) (srcAddr : IPv4Address) (entry : RIPEntry) : Prop :=
  ∀ q ∈ (m.findRoute entry.address entry.prefixLength).bind fun i => m.ripRoutes[i]?,
    Adopts q (min (entry.metric + incomingIe.metric) RIP_INFINITE_METRIC) srcAddr →
    q.type = .RIP_ROUTE_RTE ∨ q.metric = RIP_INFINITE_METRIC

instance (m : RIPRouting) (incomingIe : RIPInterfaceEntry) (srcAddr : IPv4Address) (entry : RIPEntry) :
    Decidable (m.EntryRegular incomingIe srcAddr entry) := inferInstanceAs (Decidable (∀ q ∈ _, _))

/-- The entries are processed one after the other. -/
def EntriesRegular (m : RIPRouting) (incomingIe : RIPInterfaceEntry) (srcAddr : IPv4Address) : List RIPEntry → Prop
  | [] => True
  | entry :: entries => m.EntryRegular incomingIe srcAddr entry ∧
      ∀ m', m.processEntry incomingIe srcAddr entry = .ok m' → m'.EntriesRegular incomingIe srcAddr entries

instance decidableEntriesRegular (incomingIe : RIPInterfaceEntry) (srcAddr : IPv4Address) :
    ∀ (entries : List RIPEntry) (m : RIPRouting), Decidable (m.EntriesRegular incomingIe srcAddr entries)
  | [], _ => isTrue trivial
  | entry :: entries, m =>
    have := fun m' => decidableEntriesRegular incomingIe srcAddr entries m'
    inferInstanceAs (Decidable (m.EntryRegular incomingIe srcAddr entry ∧
      ∀ m', m.processEntry incomingIe srcAddr entry = .ok m' → m'.EntriesRegular incomingIe srcAddr entries))

variable {nextHop srcAddr : IPv4Address} {incomingIe ripInterface : RIPInterfaceEntry}
    {ctrlInfo : UDPDataIndication} {sent : List Sent} {packet : RIPPacket}

/-- A learned route is added. -/
theorem IsSound.addRoute {dest : IPv4Address} {length : Int} {ie : InterfaceRef} {sender : IPv4Address}
    {metric routeTag : Nat} (h : m.IsSound) (hnew : ∀ q ∈ m.ripRoutes, ¬ (q.dest = dest ∧ q.prefixLength = length))
    (hpos : 1 ≤ metric) (hlt : metric < RIP_INFINITE_METRIC)
    (hok : m.addRoute dest length ie nextHop metric routeTag sender = .ok m') : m'.IsSound := by
  obtain ⟨m₁, e, hadd, -, hrt, hnext, q, hq, hroute, hroutes⟩ := addRoute_ok hok
  have hroute' := addIPv4Route_ok hadd
  obtain ⟨entry, rt, rfl, rfl, hadded, hdefault⟩ := addIPv4Route_steps hadd
  have hfresh : m.nextRef ∉ m.rt.routes := h.nextRef_not_mem
  have hforeign : Foreign (m.newIPv4Route entry).ripRoutes (m.newIPv4Route entry).rt
      ((m.newIPv4Route entry).rt.replaced m.nextRef) :=
    (h.newIPv4Route entry).toWeak.foreign hdefault fun q hq hd hl => absurd ⟨hd, hl⟩ (hnew q hq)
  have hins := (h.newIPv4Route entry).replaceDefaultRoute hadded hfresh (Nat.lt_succ_self _) hforeign
  have hold : ∀ q' ∈ ((m.newIPv4Route entry).replaceDefaultRoute m.nextRef).ripRoutes, Apart q' q := by
    intro q' hq'
    rw [replaceDefaultRoute_ripRoutes] at hq'
    obtain ⟨q₁, hq₁, rfl⟩ := mem_map.mp hq'
    refine ⟨?_, fun e he he' => ?_⟩
    · rw [hq.dest, hq.prefixLength]
      rcases lost_droppedBy (m.newIPv4Route entry).rt ((m.newIPv4Route entry).rt.replaced m.nextRef) q₁ with heq | heq
      all_goals
        rw [heq]
        exact hnew q₁ hq₁
    · rw [hroute] at he'
      cases he'
      exact hfresh (h.link q₁ hq₁ _ (droppedBy_route he).2.1).mem
  rw [IsSound, hroutes, hrt, hnext]
  have hmem : m.nextRef ∈ rt.routes := (hadded.mem_iff (h.newIPv4Route entry).nodup _).mpr (.inl rfl)
  constructor
  · refine ⟨fun q' hq' e he => ?_, ?_, hins.nodup, hins.fresh⟩
    · rcases mem_append.mp hq' with hq' | hq'
      · exact hins.link q' hq' e he
      · rw [mem_singleton.mp hq'] at he ⊢
        rw [hroute] at he
        cases he
        refine ⟨hmem, fun _ => hroute'.source, fun _ => ?_, fun _ => ?_, fun _ => hroute'.prefixOnly⟩
        · rw [hq.dest]
          exact hroute'.dest
        · rw [hq.prefixLength]
          exact ⟨hroute'.range.1, hroute'.range.2, hroute'.netmask⟩
    · rw [pairwise_append]
      refine ⟨hins.apart, pairwise_singleton _ _, fun q₁ hq₁ q₂ hq₂ => ?_⟩
      rw [mem_singleton.mp hq₂]
      exact hold q₁ hq₁
  · intro q' hq'
    rcases mem_append.mp hq' with hq' | hq'
    · exact hins.good q' hq'
    · rw [mem_singleton.mp hq']
      refine Adopted.good ⟨hq.type, hq.ie, hq.metric⟩ hpos hlt.le ?_ fun e he => ?_
      · simp [hlt, hroute]
      · rw [hroute] at he
        cases he
        exact hroute'.interfacePtr

/-- An entry for a route that is there. -/
theorem IsSound.receiveEntry {q : RIPRoute} {ie : InterfaceRef} {metric routeTag : Nat}
    (h : m.IsSound) (hq : m.ripRoutes[i]? = some q) (hpos : 1 ≤ metric) (hle : metric ≤ RIP_INFINITE_METRIC)
    (hregular : Adopts q metric srcAddr → q.type = .RIP_ROUTE_RTE ∨ q.metric = RIP_INFINITE_METRIC)
    (hok : m.receiveEntry i q ie nextHop metric routeTag srcAddr = .ok m') : m'.IsSound := by
  have hgood := h.good q (mem_of_getElem? hq)
  -- the time of the last update does not matter
  have hopen : ∃ q', Open i q' (if q.sender = srcAddr then m.modifyRoute i fun q => { q with lastUpdateTime := m.simTime }
      else m) ∧ ∃ time, q' = { q with lastUpdateTime := time } := by
    split
    · exact ⟨_, (h.opened hq).modify (fun q => { q with lastUpdateTime := m.simTime }) rfl rfl (.inr ⟨rfl, rfl⟩), _, rfl⟩
    · exact ⟨q, h.opened hq, q.lastUpdateTime, rfl⟩
  have hrt : (if q.sender = srcAddr then m.modifyRoute i fun q => { q with lastUpdateTime := m.simTime } else m).rt = m.rt := by
    split <;> rfl
  obtain ⟨q', hopen, time, rfl⟩ := hopen
  have hgood' : Good m.rt { q with lastUpdateTime := time } :=
    ⟨hgood.pos, hgood.le, hgood.finite, hgood.learned, hgood.ie⟩
  rw [RIPRouting.receiveEntry] at hok
  split at hok
  · cases hok
    exact h
  case isFalse hkept =>
    simp only at hok
    rw [← hrt] at hgood'
    split at hok
    case isTrue hadopts =>
      refine Sound.updateRoute hopen hgood' rfl rfl rfl rfl rfl hpos hle ?_ hok
      rcases hregular ⟨hkept, hadopts⟩ with htype | hinf
      · exact .inl htype
      · by_cases hlt : metric < RIP_INFINITE_METRIC
        · exact .inr ⟨hinf, hlt⟩
        · rcases hadopts with ⟨-, hne⟩ | hbetter
          · omega
          · omega
    case isFalse =>
      cases hok
      exact hopen.close hgood'

/-- The metric of an entry with the cost of the interface. -/
theorem entry_metric (incomingIe : RIPInterfaceEntry) {entry : RIPEntry} (hentry : 1 ≤ entry.metric) :
    1 ≤ min (entry.metric + incomingIe.metric) RIP_INFINITE_METRIC := by
  have hinf : 1 ≤ RIP_INFINITE_METRIC := by decide
  omega

theorem IsSound.processEntry {entry : RIPEntry} (h : m.IsSound)
    (hregular : m.EntryRegular incomingIe srcAddr entry) (hentry : 1 ≤ entry.metric)
    (hok : m.processEntry incomingIe srcAddr entry = .ok m') : m'.IsSound := by
  have hpos := entry_metric incomingIe hentry
  rw [RIPRouting.processEntry] at hok
  cases hfind : m.findRoute entry.address entry.prefixLength with
  | some i =>
    obtain ⟨q, hq, -, -⟩ := findRoute_some hfind
    simp only [hfind, hq] at hok
    refine h.receiveEntry hq hpos (Nat.min_le_right _ _) (hregular q ?_) hok
    rw [hfind]
    exact hq
  | none =>
    simp only [hfind] at hok
    split at hok
    case isTrue hfinite =>
      exact h.addRoute (findRoute_none hfind) hpos (Nat.lt_of_le_of_ne (Nat.min_le_right _ _) hfinite) hok
    case isFalse =>
      cases hok
      exact h

theorem IsSound.processEntries {entries : List RIPEntry}
    (h : m.IsSound) (hregular : m.EntriesRegular incomingIe srcAddr entries) (hentries : ∀ entry ∈ entries, 1 ≤ entry.metric)
    (hok : m.processEntries incomingIe srcAddr entries = .ok m') : m'.IsSound := by
  induction entries generalizing m with
  | nil =>
    cases hok
    exact h
  | cons entry entries ih =>
    obtain ⟨m₁, hentry, hok⟩ := bind_ok.mp hok
    have h₁ := h.processEntry hregular.1 (hentries entry mem_cons_self) hentry
    exact ih h₁ (hregular.2 m₁ hentry) (fun entry' h' => hentries entry' (mem_cons_of_mem _ h')) hok

/-- What a response must be like, if it is processed. -/
def ResponseRegular (m : RIPRouting) (packet : RIPPacket) (ctrlInfo : UDPDataIndication) : Prop :=
  m.isValidResponse packet ctrlInfo = true → ∀ incomingIe ∈ m.findInterfaceById ctrlInfo.interfaceId,
    m.EntriesRegular incomingIe ctrlInfo.srcAddr packet.entry

instance (m : RIPRouting) (packet : RIPPacket) (ctrlInfo : UDPDataIndication) :
    Decidable (m.ResponseRegular packet ctrlInfo) := inferInstanceAs (Decidable (_ → ∀ i ∈ _, _))

theorem isValidResponse_metric
    (h : m.isValidResponse packet ctrlInfo = true) : ∀ entry ∈ packet.entry, 1 ≤ entry.metric := by
  intro entry hentry
  have hvalid := all_eq_true.mp (Bool.and_eq_true_iff.mp h).2 entry hentry
  simp only [isValidEntry, Bool.and_eq_true, decide_eq_true_eq] at hvalid
  exact hvalid.1.1.1

theorem IsSound.processResponse (h : m.IsSound)
    (hregular : m.ResponseRegular packet ctrlInfo) (hok : m.processResponse packet ctrlInfo = .ok m') : m'.IsSound := by
  rw [RIPRouting.processResponse] at hok
  split at hok
  · cases hok
    exact h
  case isFalse hvalid =>
    have hvalid := not_not.mp hvalid
    cases hie : m.findInterfaceById ctrlInfo.interfaceId with
    | none =>
      simp only [hie] at hok
      cases hok
      exact h
    | some incomingIe =>
      simp only [hie] at hok
      exact h.processEntries (hregular hvalid incomingIe hie) (isValidResponse_metric hvalid) hok

section

variable (h : m.IsSound) {changedOnly : Bool}
include h

theorem IsSound.checkRouteIsExpired (i : Nat) (q : RIPRoute) : (m.checkRouteIsExpired i q).1.IsSound :=
  Sound.checkRouteIsExpired h i q

theorem IsSound.sendRoute {maxEntries : Nat} {q : RIPRoute}
    {packet packet' : List RIPEntry} {sent sent' : List RIPPacket}
    (hok : sendRoute ripInterface changedOnly maxEntries i q m packet sent = .ok (m', packet', sent')) : m'.IsSound := by
  have hchecked := h.checkRouteIsExpired i q
  rw [RIPRouting.sendRoute] at hok
  simp only at hok
  split at hok
  · cases hok
    exact hchecked
  · split at hok
    · cases hok
      exact hchecked
    · split at hok
      · cases hok
        exact hchecked
      · split at hok
        · cases hok
        · split at hok
          · cases hok
            exact hchecked
          · cases hok
            exact hchecked

theorem IsSound.sendLoop {maxEntries n : Nat}
    {packet : List RIPEntry} {sent packets : List RIPPacket}
    (hok : sendLoop ripInterface changedOnly maxEntries n i m packet sent = .ok (m', packets)) : m'.IsSound := by
  induction n generalizing i m packet sent with
  | zero =>
    rw [RIPRouting.sendLoop] at hok
    split at hok
    · cases hok
      exact h
    · cases hok
  | succ n ih =>
    rw [RIPRouting.sendLoop] at hok
    split at hok
    · cases hok
      exact h
    · cases hq : m.ripRoutes[i]? with
      | none =>
        rw [hq] at hok
        cases hok
      | some q =>
        rw [hq] at hok
        obtain ⟨⟨m₁, packet₁, sent₁⟩, hroute, hok⟩ := bind_ok.mp hok
        exact ih (h.sendRoute hroute) hok

theorem IsSound.sendRoutes {address : IPv4Address} {port : Nat}
    (hok : m.sendRoutes address port ripInterface changedOnly = .ok (m', sent)) :
    m'.IsSound := by
  obtain ⟨-, packets, hloop, -⟩ := sendRoutes_ok.mp hok
  exact h.sendLoop hloop

theorem IsSound.sendOnInterfaces {triggered : Bool} {ripInterfaces : List RIPInterfaceEntry}
    (hok : sendOnInterfaces triggered ripInterfaces m = .ok (m', sent)) : m'.IsSound := by
  induction ripInterfaces generalizing m sent with
  | nil =>
    cases hok
    exact h
  | cons i ripInterfaces ih =>
    rw [RIPRouting.sendOnInterfaces] at hok
    split at hok
    · exact ih h hok
    · obtain ⟨⟨m₁, sent₁⟩, hfirst, hok⟩ := bind_ok.mp hok
      obtain ⟨⟨m₂, sent₂⟩, hothers, hok⟩ := bind_ok.mp hok
      cases hok
      exact ih (h.sendRoutes hfirst) hothers

/-- Only the routes and the table are looked at. -/
theorem IsSound.of_eq (hroutes : m'.ripRoutes = m.ripRoutes) (hrt : m'.rt = m.rt)
    (hnext : m'.nextRef = m.nextRef) : m'.IsSound := by
  rw [IsSound, hroutes, hrt, hnext]
  exact h

/-- The changed flags do not matter. -/
theorem IsSound.clearChanged :
    IsSound { m with ripRoutes := m.ripRoutes.map fun q => { q with changed := false } } where
  link q' hq' e he := by
    obtain ⟨q, hq, rfl⟩ := mem_map.mp hq'
    have hlink := h.link q hq e he
    exact ⟨hlink.mem, hlink.rte, hlink.dest, hlink.netmask, hlink.prefixOnly⟩
  apart := Pairwise.map _ (fun _ _ hab => ⟨hab.destination, hab.route⟩) h.apart
  nodup := h.nodup
  fresh := h.fresh
  good q' hq' := by
    obtain ⟨q, hq, rfl⟩ := mem_map.mp hq'
    have hgood := h.good q hq
    exact ⟨hgood.pos, hgood.le, hgood.finite, hgood.learned, hgood.ie⟩

theorem IsSound.processUpdate {triggered : Bool}
    (hok : m.processUpdate triggered = .ok (m', sent)) : m'.IsSound := by
  obtain ⟨⟨m₁, sent₁⟩, hsend, hok⟩ := bind_ok.mp hok
  cases hok
  exact (h.sendOnInterfaces hsend).clearChanged

theorem IsSound.processRequest
    (hok : m.processRequest packet ctrlInfo = .ok (m', sent)) : m'.IsSound := by
  rw [RIPRouting.processRequest] at hok
  split at hok
  · cases hok
    exact h
  · split at hok
    · split at hok
      · exact h.sendRoutes hok
      · cases hok
        exact h
    · obtain ⟨filled, -, hok⟩ := bind_ok.mp hok
      cases hok
      exact h

end

end RIPRouting

end Inet.Rip
