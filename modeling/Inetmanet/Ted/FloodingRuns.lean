import Inetmanet.Ted.Flooding

/-!
# Runs of the flooding network

What routers have published, and what the network keeps of it.
-/
namespace Inet.Ted

open Inet.Ipv4 (IPv4Address)
open TELinkStateInfo Option
open List (inj_on_of_nodup_map mem_append append_nil map_append mem_of_getElem? mem_append_left mem_append_right
  range' length_cons range'_succ mem_range'_1 nodup_range' prefix_append prefix_rfl)

/-- What a router has published. -/
structure OwnVersions (simTime : Nat) (routerId : IPv4Address) (r : Router) : Prop where
  identity : r.routerId = routerId
  advrouter : ∀ p ∈ r.published, p.advrouter = routerId
  source : ∀ p ∈ r.published, p.sourceId = routerId.toNat
  time : ∀ p ∈ r.published, p.timestamp ≤ simTime
  counter : ∀ p ∈ r.published, p.messageId ≤ r.maxMessageId
  ids : (r.published.map (·.messageId)).Nodup
  remote : ∀ p ∈ r.published, ∀ q ∈ r.published, p.key = q.key → p.remote = q.remote

/-- What holds throughout a run. -/
structure Network.Kept (n : Network) : Prop where
  own : ∀ routerId r, n.router routerId = some r → OwnVersions n.simTime routerId r
  databases : ∀ routerId r, n.router routerId = some r → Faithful n.Published r.ted
  forwarded : ∀ routerId r, n.router routerId = some r → Forwarded n.Published r.ted r.forwarded
  sent : ∀ packet ∈ n.sent, ∀ link ∈ packet.msg.linkInfo, n.Published link

variable {n n' : Network} {P : TELinkStateInfo → Prop} {ted : List TELinkStateInfo} {link : TELinkStateInfo}
  {r r' : Router} {routerId : IPv4Address}

variable {out : List Packet} {p : TELinkStateInfo} {UnResvBandwidth : Vector Rat 8} {event : Event}

theorem OwnVersions.later {simTime simTime' : Nat} (h : OwnVersions simTime routerId r) (hle : simTime ≤ simTime') :
    OwnVersions simTime' routerId r :=
  { h with time := fun p hp => Nat.le_trans (h.time p hp) hle }

theorem Faithful.mono {Q : TELinkStateInfo → Prop} (h : Faithful P ted) (hPQ : ∀ p, P p → Q p) : Faithful Q ted :=
  { h with versions := fun e he => hPQ e (h.versions e he) }

theorem Forwarded.mono {Q : TELinkStateInfo → Prop} {forwarded : List TELinkStateInfo} (h : Forwarded P ted forwarded)
    (hPQ : ∀ p, P p → Q p) : Forwarded Q ted forwarded :=
  { h with versions := fun f hf => hPQ f (h.versions f hf) }

variable {sender i : IPv4Address}

namespace Network

/-- Two versions of one router. -/
theorem Kept.same_router (h : n.Kept) {q : TELinkStateInfo} (hp : n.Published p) (hq : n.Published q)
    (hadv : p.advrouter = q.advrouter) : ∃ r, OwnVersions n.simTime p.advrouter r ∧ p ∈ r.published ∧ q ∈ r.published := by
  obtain ⟨r, hr, hp⟩ := hp
  obtain ⟨r', hr', hq⟩ := hq
  rw [← hadv, hr] at hr'
  cases hr'
  exact ⟨r, h.own _ r hr, hp, hq⟩

theorem Kept.coherent (h : n.Kept) : Coherent n.Published := by
  constructor
  · intro p ⟨r, hr, hp⟩
    exact (h.own _ r hr).source p hp
  · intro p q hp hq hstamp
    obtain ⟨r, hown, hp, hq⟩ := h.same_router hp hq (congrArg Prod.fst hstamp)
    exact inj_on_of_nodup_map hown.ids hp hq (congrArg (·.2.2) hstamp)
  · intro p q hp hq hkey
    obtain ⟨r, hown, hp, hq⟩ := h.same_router hp hq (congrArg (·.1.1) hkey)
    exact hown.remote p hp q hq hkey

theorem Kept.consistent (h : n.Kept) : n.Consistent := by
  constructor
  · intro routerId r hr
    exact (h.databases routerId r hr).keys
  · intro routerId r hr
    exact (h.databases routerId r hr).versions
  · exact h.coherent.unique
  · intro routerId r hr
    exact (h.forwarded routerId r hr).once

theorem setRouter_router_self (out : List Packet) : (n.setRouter routerId r' out).router routerId = some r' := by
  simp [Network.setRouter]

theorem setRouter_router_of_ne (hne : i ≠ routerId) (out : List Packet) :
    (n.setRouter routerId r' out).router i = n.router i := by
  simp [Network.setRouter, hne]

/-- A router goes on, with what it has published and maybe more. -/
theorem Published.setRouter (hp : n.Published p) (hr : n.router routerId = some r)
    (hmore : ∀ q ∈ r.published, q ∈ r'.published) (out : List Packet) : (n.setRouter routerId r' out).Published p := by
  obtain ⟨s, hs, hmem⟩ := hp
  by_cases hid : p.advrouter = routerId
  · rw [hid, hr] at hs
    cases hs
    exact ⟨r', by rw [hid, setRouter_router_self], hmore p hmem⟩
  · exact ⟨s, by rw [setRouter_router_of_ne hid, hs], hmem⟩

theorem setRouter_router {s : Router} (hs : (n.setRouter routerId r' out).router i = some s) :
    i = routerId ∧ s = r' ∨ i ≠ routerId ∧ n.router i = some s := by
  by_cases hid : i = routerId
  · subst hid
    rw [setRouter_router_self] at hs
    cases hs
    exact .inl ⟨rfl, rfl⟩
  · rw [setRouter_router_of_ne hid] at hs
    exact .inr ⟨hid, hs⟩

theorem Kept.setRouter (h : n.Kept) (hr : n.router routerId = some r) (hown : OwnVersions n.simTime routerId r')
    (hmore : ∀ q ∈ r.published, q ∈ r'.published) (hted : Faithful (n.setRouter routerId r' out).Published r'.ted)
    (hforwarded : Forwarded (n.setRouter routerId r' out).Published r'.ted r'.forwarded)
    (hout : ∀ packet ∈ out, ∀ link ∈ packet.msg.linkInfo, (n.setRouter routerId r' out).Published link) :
    (n.setRouter routerId r' out).Kept := by
  have hmono (p : TELinkStateInfo) (hp : n.Published p) : (n.setRouter routerId r' out).Published p := hp.setRouter hr hmore out
  constructor
  · intro i s hs
    cases setRouter_router hs with
    | inl hnew =>
      rw [hnew.1, hnew.2]
      exact hown
    | inr hold => exact h.own i s hold.2
  · intro i s hs
    cases setRouter_router hs with
    | inl hnew =>
      rw [hnew.2]
      exact hted
    | inr hold => exact (h.databases i s hold.2).mono hmono
  · intro i s hs
    cases setRouter_router hs with
    | inl hnew =>
      rw [hnew.2]
      exact hforwarded
    | inr hold => exact (h.forwarded i s hold.2).mono hmono
  · intro packet hpacket link hlink
    cases mem_append.mp hpacket with
    | inl hsent => exact hmono link (h.sent packet hsent link hlink)
    | inr hnew => exact hout packet hnew link hlink

theorem setRouter_monotone (hr : n.router routerId = some r) (hadv : Advances r.ted r'.ted) (event : Event) :
    n.Monotone event (n.setRouter routerId r' out) := by
  intro i s s' hs hs'
  cases setRouter_router hs' with
  | inl hnew =>
    rw [hnew.1, hr] at hs
    cases hs
    rw [hnew.2]
    exact hadv
  | inr hold =>
    rw [hs] at hold
    cases hold.2
    exact Advances.refl s.ted

theorem unchanged_monotone (hsame : n'.router = n.router) (event : Event) : n.Monotone event n' := by
  intro i s s' hs hs'
  rw [hsame, hs] at hs'
  cases hs'
  exact Advances.refl s.ted

end Network

theorem sendToPeers_linkInfo {list : List TELinkStateInfo} {req : Bool} {exceptPeer : IPv4Address} {packet : Packet}
    (h : packet ∈ r.sendToPeers list req exceptPeer) : packet.msg.linkInfo = list := by
  obtain ⟨link, -, rfl⟩ := List.mem_map.mp h
  rfl

theorem set_middle {α : Type} {l : List α} {i : Nat} {a : α} (h : l[i]? = some a) :
    ∃ front back, l = front ++ a :: back ∧ ∀ b, l.set i b = front ++ b :: back := by
  induction l generalizing i with
  | nil => cases h
  | cons c l ih =>
    cases i with
    | zero =>
      cases h
      exact ⟨[], l, rfl, fun b => rfl⟩
    | succ i =>
      obtain ⟨front, back, hl, hset⟩ := ih h
      exact ⟨c :: front, back, congrArg (c :: ·) hl, fun b => congrArg (c :: ·) (hset b)⟩

/-- What an announcement does that goes through. -/
theorem announceLinkChange_ok {simTime index : Nat} {state : Bool}
    (h : r.announceLinkChange simTime index state UnResvBandwidth = .ok (r', out)) :
    ∃ entry link, r.ted[index]? = some entry ∧ entry.advrouter = r.routerId ∧
      link = { entry with state, UnResvBandwidth, timestamp := simTime, messageId := r.maxMessageId + 1 } ∧
      r' = { r with maxMessageId := r.maxMessageId + 1, ted := r.ted.set index link, published := r.published ++ [link] } ∧
      out = r'.sendToPeers [link] false 0 := by
  unfold Router.announceLinkChange at h
  cases hentry : r.ted[index]? with
  | none =>
    rw [hentry] at h
    cases h
  | some entry =>
    rw [hentry] at h
    obtain ⟨⟨link, r₁⟩, hstamp, h⟩ := bind_ok.mp h
    obtain ⟨hadv, hstamp⟩ := ensure_bind_ok.mp hstamp
    split at hstamp
    · cases hstamp
    · cases hstamp
      cases h
      exact ⟨entry, _, rfl, hadv, rfl, rfl, rfl⟩

namespace Network

theorem Kept.tick (h : n.Kept) (d : Nat) : ({ n with simTime := n.simTime + d } : Network).Kept := by
  constructor
  · intro i s hs
    exact (h.own i s hs).later (Nat.le_add_right n.simTime d)
  · exact h.databases
  · exact h.forwarded
  · exact h.sent

theorem Kept.announce (h : n.Kept) (hr : n.router routerId = some r) :
    ({ n with sent := n.sent ++ r.announce } : Network).Kept := by
  constructor
  · exact h.own
  · exact h.databases
  · exact h.forwarded
  · intro packet hpacket link hlink
    cases mem_append.mp hpacket with
    | inl hsent => exact h.sent packet hsent link hlink
    | inr hnew =>
      rw [sendToPeers_linkInfo hnew] at hlink
      exact (h.databases routerId r hr).versions link hlink

theorem Kept.deliver (h : n.Kept) (hr : n.router routerId = some r) {msg : LinkStateMsg}
    (hmsg : ∀ link ∈ msg.linkInfo, n.Published link) (hown : FindsOwn r.ted msg.linkInfo)
    (hs : r.processLINK_STATE_MESSAGE msg sender = .ok (r', out)) :
    (n.setRouter routerId r' out).Kept ∧ Advances r.ted r'.ted := by
  have hstart : Forwarded n.Published (Loop.mk r.ted [] false).ted (r.forwarded ++ (Loop.mk r.ted [] false).forward) := by
    rw [append_nil]
    exact h.forwarded routerId r hr
  have hown' : FindsOwn (Loop.mk r.ted [] false).ted (msg.linkInfo ++ []) := by
    rw [append_nil]
    exact hown
  obtain ⟨l, hrun, hted, -, hadv, hforwarded⟩ := foldlM_processLink_ok h.coherent hmsg hown' (h.databases routerId r hr) hstart
  unfold Router.processLINK_STATE_MESSAGE at hs
  obtain ⟨l', hrun', hs⟩ := bind_ok.mp hs
  cases hrun.symm.trans hrun'
  cases hs
  have hmono (p : TELinkStateInfo) (hp : n.Published p) (out : List Packet) :
      (n.setRouter routerId { r with ted := l.ted, forwarded := r.forwarded ++ l.forward } out).Published p :=
    @Published.setRouter n r { r with ted := l.ted, forwarded := r.forwarded ++ l.forward } routerId p hp hr
      (fun q hq => hq) out
  refine ⟨h.setRouter hr ?_ (fun q hq => hq) (hted.mono fun p hp => hmono p hp _) (hforwarded.mono fun p hp => hmono p hp _) ?_, hadv⟩
  · have hold := h.own routerId r hr
    exact ⟨hold.identity, hold.advrouter, hold.source, hold.time, hold.counter, hold.ids, hold.remote⟩
  · intro packet hpacket link hlink
    refine hmono link ?_ _
    cases mem_append.mp hpacket with
    | inl hanswer =>
      split at hanswer
      · rw [List.mem_singleton.mp hanswer] at hlink
        exact hted.versions link hlink
      · cases hanswer
    | inr hflood =>
      split at hflood
      · rw [sendToPeers_linkInfo hflood] at hlink
        exact hforwarded.versions link (mem_append_right _ hlink)
      · cases hflood

/-- A router changes one of its links. -/
theorem OwnVersions.publish (h : OwnVersions n.simTime routerId r) {entry : TELinkStateInfo} (hentry : entry ∈ r.published)
    {state : Bool} (ted : List TELinkStateInfo)
    (hlink : link = { entry with state, UnResvBandwidth, timestamp := n.simTime, messageId := r.maxMessageId + 1 }) :
    OwnVersions n.simTime routerId { r with maxMessageId := r.maxMessageId + 1, ted, published := r.published ++ [link] } := by
  have hall {p : TELinkStateInfo} (hp : p ∈ r.published ++ [link]) : p ∈ r.published ∨ p = link := by
    rwa [mem_append, List.mem_singleton] at hp
  have hremote (p : TELinkStateInfo) (hp : p ∈ r.published) (hkey : p.key = link.key) : p.remote = link.remote := by
    rw [hlink] at hkey ⊢
    exact h.remote p hp entry hentry hkey
  constructor
  · exact h.identity
  · intro p hp
    cases hall hp with
    | inl hold => exact h.advrouter p hold
    | inr hnew =>
      rw [hnew, hlink]
      exact h.advrouter entry hentry
  · intro p hp
    cases hall hp with
    | inl hold => exact h.source p hold
    | inr hnew =>
      rw [hnew, hlink]
      exact h.source entry hentry
  · intro p hp
    cases hall hp with
    | inl hold => exact h.time p hold
    | inr hnew =>
      exact Nat.le_of_eq (by rw [hnew, hlink])
  · intro p hp
    cases hall hp with
    | inl hold => exact Nat.le_succ_of_le (h.counter p hold)
    | inr hnew =>
      exact Nat.le_of_eq (by rw [hnew, hlink])
  · rw [map_append, List.map_singleton]
    refine nodup_concat_of_not_mem h.ids ?_
    intro hmem
    obtain ⟨p, hp, hid⟩ := List.mem_map.mp hmem
    have hcounter := h.counter p hp
    rw [hid, hlink] at hcounter
    exact absurd hcounter (Nat.not_succ_le_self _)
  · intro p hp q hq hkey
    cases hall hp with
    | inl hp =>
      cases hall hq with
      | inl hq => exact h.remote p hp q hq hkey
      | inr hq =>
        rw [hq] at hkey ⊢
        exact hremote p hp hkey
    | inr hp =>
      rw [hp] at hkey ⊢
      cases hall hq with
      | inl hq => exact (hremote q hq hkey.symm).symm
      | inr hq => rw [hq]

theorem Kept.linkChange (h : n.Kept) (hr : n.router routerId = some r) {index : Nat} {state : Bool}
    (hs : r.announceLinkChange n.simTime index state UnResvBandwidth = .ok (r', out)) :
    (n.setRouter routerId r' out).Kept ∧ Advances r.ted r'.ted := by
  obtain ⟨entry, link, hentry, hadv, hlink, hr', hout⟩ := announceLinkChange_ok hs
  obtain ⟨front, back, hfront, hset⟩ := set_middle hentry
  have hold := h.own routerId r hr
  have hpublished : entry ∈ r.published := by
    obtain ⟨s, hs, hmem⟩ := (h.databases routerId r hr).versions entry (mem_of_getElem? hentry)
    rw [hadv, hold.identity, hr] at hs
    cases hs
    exact hmem
  have hown : OwnVersions n.simTime routerId r' := by
    rw [hr']
    exact OwnVersions.publish hold hpublished (r.ted.set index link) hlink
  have hmore (q : TELinkStateInfo) (hq : q ∈ r.published) : q ∈ r'.published := by
    rw [hr']
    exact mem_append_left _ hq
  have hmono (p : TELinkStateInfo) (hp : n.Published p) : (n.setRouter routerId r' out).Published p := hp.setRouter hr hmore out
  have hnew : (n.setRouter routerId r' out).Published link := by
    have hid : link.advrouter = routerId := by rw [hlink, ← hold.identity, ← hadv]
    refine ⟨r', by rw [hid, setRouter_router_self], ?_⟩
    rw [hr']
    exact mem_append_right _ (List.mem_singleton_self link)
  have holder : entry.Older link := by
    have htime := hold.time entry hpublished
    have hcounter := hold.counter entry hpublished
    rw [hlink]
    unfold Older
    dsimp only
    omega
  have hkey : entry.key = link.key := by rw [hlink]; rfl
  have hted : Faithful (n.setRouter routerId r' out).Published (front ++ entry :: back) := by
    rw [← hfront]
    exact (h.databases routerId r hr).mono hmono
  have hone : Processed (n.setRouter routerId r' out).Published ⟨front ++ entry :: back, [], false⟩ link
      ⟨front ++ link :: back, [link], false⟩ := processLink_newer hted hnew hkey holder
  have hted' : r'.ted = front ++ link :: back := by
    rw [hr']
    exact hset link
  have hadvances : Advances r.ted r'.ted := by
    rw [hted', hfront]
    exact hone.advances
  refine ⟨h.setRouter hr hown hmore ?_ ?_ ?_, hadvances⟩
  · rw [hted']
    exact hone.faithful hted
  · have hforwarded : r'.forwarded = r.forwarded := by rw [hr']
    rw [hforwarded]
    exact ((h.forwarded routerId r hr).advance hadvances).mono hmono
  · intro packet hpacket f hf
    rw [hout] at hpacket
    rw [sendToPeers_linkInfo hpacket, List.mem_singleton] at hf
    rw [hf]
    exact hnew

theorem Kept.step (h : n.Kept) (hapart : n.KeepsApart event) (hs : n.step event = .ok n') :
    n'.Kept ∧ n.Monotone event n' := by
  cases event with
  | tick d =>
    cases hs
    exact ⟨h.tick d, unchanged_monotone rfl (.tick d)⟩
  | announce routerId =>
    rw [Network.step] at hs
    cases hr : n.router routerId with
    | none =>
      rw [hr] at hs
      cases hs
      exact ⟨h, unchanged_monotone rfl (.announce routerId)⟩
    | some r =>
      rw [hr] at hs
      cases hs
      exact ⟨h.announce hr, unchanged_monotone rfl (.announce routerId)⟩
  | deliver k =>
    rw [Network.step] at hs
    cases hpacket : n.sent[k]? with
    | none =>
      rw [hpacket] at hs
      cases hs
      exact ⟨h, unchanged_monotone rfl (.deliver k)⟩
    | some packet =>
      rw [hpacket] at hs
      dsimp only at hs
      cases hr : n.router packet.destAddr with
      | none =>
        rw [hr] at hs
        cases hs
        exact ⟨h, unchanged_monotone rfl (.deliver k)⟩
      | some r =>
        rw [hr] at hs
        obtain ⟨⟨r', out⟩, hmsg, hs⟩ := bind_ok.mp hs
        cases hs
        have hlinks := h.sent packet (mem_of_getElem? hpacket)
        obtain ⟨hkept, hadv⟩ := h.deliver hr hlinks (hapart packet r hpacket hr) hmsg
        exact ⟨hkept, setRouter_monotone hr hadv (.deliver k)⟩
  | linkChange routerId index state UnResvBandwidth =>
    rw [Network.step] at hs
    cases hr : n.router routerId with
    | none =>
      rw [hr] at hs
      cases hs
      exact ⟨h, unchanged_monotone rfl (.linkChange routerId index state UnResvBandwidth)⟩
    | some r =>
      rw [hr] at hs
      obtain ⟨⟨r', out⟩, hchange, hs⟩ := bind_ok.mp hs
      cases hs
      obtain ⟨hkept, hadv⟩ := h.linkChange hr hchange
      exact ⟨hkept, setRouter_monotone hr hadv (.linkChange routerId index state UnResvBandwidth)⟩

theorem Kept.forwardsWhatIsNewer (h : n.Kept) (hapart : n.KeepsApart event) : n.ForwardsWhatIsNewer event := by
  cases event with
  | deliver k =>
    intro packet r hpacket hr
    have hlinks := h.sent packet (mem_of_getElem? hpacket)
    exact forwardsNewer h.coherent hlinks (hapart packet r hpacket hr) (h.databases packet.destAddr r hr)
  | _ => trivial

end Network

theorem initialEntries_stamps (routerId : IPv4Address) (n : Nat) (links : List Link) :
    (initialEntries routerId n links).map (·.messageId) = range' (n + 1) links.length := by
  induction links generalizing n with
  | nil => rfl
  | cons l links ih => rw [initialEntries, List.map_cons, ih, length_cons, range'_succ]

theorem initialEntries_addresses (n : Nat) (links : List Link) :
    (initialEntries routerId n links).map (·.localAddr) = links.map (·.localAddr) := by
  induction links generalizing n with
  | nil => rfl
  | cons l links ih => rw [initialEntries, List.map_cons, ih, List.map_cons]

theorem initialEntries_common {n : Nat} {links : List Link} (hp : p ∈ initialEntries routerId n links) :
    p.advrouter = routerId ∧ p.sourceId = routerId.toNat ∧ p.timestamp = 0 := by
  induction links generalizing n with
  | nil => cases hp
  | cons l links ih =>
    cases List.mem_cons.mp hp with
    | inl heq =>
      rw [heq]
      exact ⟨rfl, rfl, rfl⟩
    | inr hp => exact ih hp

theorem initialEntries_keys (config : RouterConfig) : ((initialEntries routerId 0 config.links).map key).Nodup := by
  have h : (((initialEntries routerId 0 config.links).map key).map Prod.snd).Nodup := by
    rw [List.map_map]
    exact (initialEntries_addresses 0 config.links).symm ▸ config.unique
  exact List.Nodup.of_map Prod.snd h

theorem initializeTED_own (routerId : IPv4Address) (config : RouterConfig) : OwnVersions 0 routerId (initializeTED routerId config) := by
  have hstamps := initialEntries_stamps routerId 0 config.links
  constructor
  · rfl
  · intro p hp
    exact (initialEntries_common hp).1
  · intro p hp
    exact (initialEntries_common hp).2.1
  · intro p hp
    exact Nat.le_of_eq (initialEntries_common hp).2.2
  · intro p hp
    have hmem : p.messageId ∈ (initialEntries routerId 0 config.links).map (·.messageId) := List.mem_map.mpr ⟨p, hp, rfl⟩
    rw [hstamps, mem_range'_1] at hmem
    show p.messageId ≤ config.links.length
    omega
  · exact hstamps.symm ▸ nodup_range'
  · intro p hp q hq hkey
    rw [inj_on_of_nodup_map (initialEntries_keys config) hp hq hkey]

theorem initial_kept (config : IPv4Address → Option RouterConfig) : (Network.initial config).Kept := by
  have hrouter {routerId : IPv4Address} {r : Router} (hr : (Network.initial config).router routerId = some r) :
      ∃ c, initializeTED routerId c = r := by
    obtain ⟨c, -, hc⟩ := map_eq_some_iff.mp hr
    exact ⟨c, hc⟩
  constructor
  · intro routerId r hr
    obtain ⟨c, rfl⟩ := hrouter hr
    exact initializeTED_own routerId c
  · intro routerId r hr
    obtain ⟨c, rfl⟩ := hrouter hr
    constructor
    · intro e he
      refine ⟨initializeTED routerId c, ?_, he⟩
      rw [(initialEntries_common he).1]
      exact hr
    · exact initialEntries_keys c
  · intro routerId r hr
    obtain ⟨c, rfl⟩ := hrouter hr
    exact forwarded_nil _ _
  · intro packet hpacket
    cases hpacket

/-- No two links of a router lead to the same neighbour. -/
def NoParallelLinks (config : IPv4Address → Option RouterConfig) : Prop :=
  ∀ routerId c, config routerId = some c → (c.links.map (·.linkid)).Nodup

/-- The ends of a link tell which link it is. -/
def Network.EndsTell (n : Network) : Prop := ∀ p q, n.Published p → n.Published q → p.ends = q.ends → p.key = q.key

theorem processLINK_STATE_MESSAGE_published {msg : LinkStateMsg}
    (hs : r.processLINK_STATE_MESSAGE msg sender = .ok (r', out)) : r'.published = r.published := by
  unfold Router.processLINK_STATE_MESSAGE at hs
  obtain ⟨l, -, hs⟩ := bind_ok.mp hs
  cases hs
  rfl

namespace Network

theorem published_of_setRouter (hp : (n.setRouter routerId r' out).Published p) :
    p ∈ r'.published ∧ p.advrouter = routerId ∨ n.Published p := by
  obtain ⟨s, hs, hmem⟩ := hp
  cases setRouter_router hs with
  | inl hnew =>
    rw [hnew.2] at hmem
    exact .inl ⟨hmem, hnew.1⟩
  | inr hold => exact .inr ⟨s, hold.2, hmem⟩

/-- New versions are of links that are known. -/
theorem Kept.known_link (h : n.Kept) (hs : n.step event = .ok n') (hp : n'.Published p) :
    ∃ q, n.Published q ∧ q.key = p.key := by
  cases event with
  | tick d =>
    cases hs
    exact ⟨p, hp, rfl⟩
  | announce routerId =>
    rw [Network.step] at hs
    cases hr : n.router routerId with
    | none =>
      rw [hr] at hs
      cases hs
      exact ⟨p, hp, rfl⟩
    | some r =>
      rw [hr] at hs
      cases hs
      exact ⟨p, hp, rfl⟩
  | deliver k =>
    rw [Network.step] at hs
    cases hpacket : n.sent[k]? with
    | none =>
      rw [hpacket] at hs
      cases hs
      exact ⟨p, hp, rfl⟩
    | some packet =>
      rw [hpacket] at hs
      dsimp only at hs
      cases hr : n.router packet.destAddr with
      | none =>
        rw [hr] at hs
        cases hs
        exact ⟨p, hp, rfl⟩
      | some r =>
        rw [hr] at hs
        obtain ⟨⟨r', out⟩, hmsg, hs⟩ := bind_ok.mp hs
        cases hs
        cases published_of_setRouter hp with
        | inl hown =>
          rw [processLINK_STATE_MESSAGE_published hmsg] at hown
          exact ⟨p, ⟨r, hown.2 ▸ hr, hown.1⟩, rfl⟩
        | inr hold => exact ⟨p, hold, rfl⟩
  | linkChange routerId index state UnResvBandwidth =>
    rw [Network.step] at hs
    cases hr : n.router routerId with
    | none =>
      rw [hr] at hs
      cases hs
      exact ⟨p, hp, rfl⟩
    | some r =>
      rw [hr] at hs
      obtain ⟨⟨r', out⟩, hchange, hs⟩ := bind_ok.mp hs
      cases hs
      cases published_of_setRouter hp with
      | inl hown =>
        obtain ⟨entry, link, hentry, -, hlink, hr', -⟩ := announceLinkChange_ok hchange
        rw [hr', mem_append, List.mem_singleton] at hown
        cases hown.1 with
        | inl hold => exact ⟨p, ⟨r, hown.2 ▸ hr, hold⟩, rfl⟩
        | inr hnew =>
          refine ⟨entry, (h.databases routerId r hr).versions entry (mem_of_getElem? hentry), ?_⟩
          rw [hnew, hlink]
          rfl
      | inr hold => exact ⟨p, hold, rfl⟩

theorem EndsTell.step (hends : n.EndsTell) (h : n.Kept) (hs : n.step event = .ok n') : n'.EndsTell := by
  intro p q hp hq hpq
  obtain ⟨p', hp', hpkey⟩ := h.known_link hs hp
  obtain ⟨q', hq', hqkey⟩ := h.known_link hs hq
  rw [← hpkey, ← hqkey]
  refine hends p' q' hp' hq' ?_
  calc p'.ends = p.ends := congrArg Prod.fst hpkey
    _ = q.ends := hpq
    _ = q'.ends := (congrArg Prod.fst hqkey).symm

theorem EndsTell.keepsApart (hends : n.EndsTell) (h : n.Kept) (event : Event) : n.KeepsApart event := by
  cases event with
  | deliver k =>
    intro packet r hpacket hr link hlink k hk
    have hsent := h.sent packet (mem_of_getElem? hpacket)
    obtain ⟨e, he, rfl⟩ := List.mem_map.mp (List.mem_of_find?_eq_some hk)
    have hpublished : n.Published e := by
      cases mem_append.mp he with
      | inl hted => exact (h.databases packet.destAddr r hr).versions e hted
      | inr hmsg => exact hsent e hmsg
    exact hends e link hpublished (hsent link hlink) (of_decide_eq_true (List.find?_some hk :))
  | _ => trivial

end Network

theorem initialEntries_linkids (n : Nat) (links : List Link) :
    (initialEntries routerId n links).map (·.linkid) = links.map (·.linkid) := by
  induction links generalizing n with
  | nil => rfl
  | cons l links ih => rw [initialEntries, List.map_cons, ih, List.map_cons]

variable {config : IPv4Address → Option RouterConfig}

theorem initial_endsTell (h : NoParallelLinks config) : (Network.initial config).EndsTell := by
  intro p q hp hq hends
  obtain ⟨r, hr, hp⟩ := hp
  obtain ⟨r', hr', hq⟩ := hq
  rw [← show p.advrouter = q.advrouter from congrArg Prod.fst hends, hr] at hr'
  cases hr'
  obtain ⟨c, hc, rfl⟩ := map_eq_some_iff.mp hr
  have hnodup : ((initialEntries p.advrouter 0 c.links).map (·.linkid)).Nodup := by
    rw [initialEntries_linkids]
    exact h p.advrouter c hc
  rw [inj_on_of_nodup_map hnodup hp hq (congrArg Prod.snd hends)]

/-- Without parallel links, no link is taken for another one. -/
theorem keepsApart_of_noParallelLinks (h : NoParallelLinks config)
    (events : List Network.Event) : Runs.EveryStep Network.step Network.KeepsApart (.initial config) events := by
  intro es event n hpre hn
  have hinv : n.Kept ∧ n.EndsTell := by
    refine Runs.run_invariant (p := fun n : Network => n.Kept ∧ n.EndsTell) ?_ ⟨initial_kept config, initial_endsTell h⟩ hn
    intro s i s' hs hstep
    exact ⟨(hs.1.step (hs.2.keepsApart hs.1 i) hstep).1, hs.2.step hs.1 hstep⟩
  exact hinv.2.keepsApart hinv.1 event

/-- Link state flooding, as long as no link is taken for a parallel one. -/
theorem flooding_monotone (config : IPv4Address → Option RouterConfig) (events : List Network.Event)
    (hapart : Runs.EveryStep Network.step Network.KeepsApart (.initial config) events) :
    Runs.EveryState Network.step Network.Consistent (.initial config) events ∧
    Runs.EveryTransition Network.step Network.Monotone (.initial config) events ∧
    Runs.EveryStep Network.step Network.ForwardsWhatIsNewer (.initial config) events := by
  have hkept : Runs.EveryState Network.step Network.Kept (.initial config) events :=
    hapart.everyState (fun _ _ _ h hq hs => (h.step hq hs).1) (initial_kept config)
  refine ⟨?_, ?_, ?_⟩
  · intro es n hpre hn
    exact (hkept es n hpre hn).consistent
  · exact hapart.everyTransition (fun _ _ _ h hq hs => h.step hq hs) (initial_kept config)
  · intro es event n hpre hn
    exact (hkept es n ((prefix_append es [event]).trans hpre) hn).forwardsWhatIsNewer (hapart es event n hpre hn)

/-- Two routers with one link between them. -/
def singleLink : IPv4Address → Option RouterConfig
  | 1 => some { links := [⟨2, 11, 21, 1, 100⟩], peerIfAddrs := [11], unique := by decide }
  | 2 => some { links := [⟨1, 21, 11, 1, 100⟩], peerIfAddrs := [21], unique := by decide }
  | _ => none

theorem singleLink_noParallelLinks : NoParallelLinks singleLink := by
  intro routerId c hc
  unfold singleLink at hc
  split at hc
  · cases hc
    decide
  · cases hc
    decide
  · cases hc

/-- The bandwidth of a link changes while its first announcement is on the way, and the messages arrive in the wrong order. -/
def singleLinkRun : List Network.Event :=
  [.announce 1, .tick 3, .linkChange 1 0 true (Vector.replicate 8 50), .announce 2, .deliver 1, .deliver 0, .deliver 2]

theorem singleLink_monotone :
    (Runs.run Network.step (.initial singleLink) singleLinkRun).isOk = true ∧
    Runs.EveryState Network.step Network.Consistent (.initial singleLink) singleLinkRun ∧
    Runs.EveryTransition Network.step Network.Monotone (.initial singleLink) singleLinkRun ∧
    Runs.EveryStep Network.step Network.ForwardsWhatIsNewer (.initial singleLink) singleLinkRun :=
  ⟨by rfl, flooding_monotone singleLink singleLinkRun (keepsApart_of_noParallelLinks singleLink_noParallelLinks singleLinkRun)⟩

/-- Two routers with two links between them. -/
def parallelLinks : IPv4Address → Option RouterConfig
  | 1 => some {
      links := [⟨2, 11, 21, 1, 100⟩, ⟨2, 12, 22, 5, 100⟩]
      peerIfAddrs := [11, 12]
      unique := by decide }
  | 2 => some {
      links := [⟨1, 21, 11, 1, 100⟩, ⟨1, 22, 12, 5, 100⟩]
      peerIfAddrs := [21, 22]
      unique := by decide }
  | _ => none

/-- The second router has the first link with the metric of the second one. -/
theorem parallel_links_confused :
    ¬ Runs.EveryState Network.step Network.Consistent (.initial parallelLinks) [.announce 1, .deliver 0] := by
  intro h
  let brief (e : TELinkStateInfo) := (e.advrouter, e.localAddr, e.metric, e.messageId)
  have hrun : ((Runs.run Network.step (.initial parallelLinks) [.announce 1, .deliver 0]).map fun n =>
      ((n.router 1).map fun r => r.published.map brief, (n.router 2).map fun r => r.ted.map brief)) =
      .ok (some [(1, 11, 1, 1), (1, 12, 5, 2)], some [(2, 21, 1, 1), (2, 22, 5, 2), (1, 11, 5, 2)]) := rfl
  cases hn : Runs.run Network.step (.initial parallelLinks) [.announce 1, .deliver 0] with
  | error e =>
    rw [hn] at hrun
    cases hrun
  | ok n =>
    rw [hn] at hrun
    obtain ⟨hpublished, hted⟩ := Prod.mk.inj (Except.ok.inj hrun)
    obtain ⟨r, hr, hbrief⟩ := map_eq_some_iff.mp hted
    have hmem : (1, 11, 5, 2) ∈ r.ted.map brief := by
      rw [hbrief]
      decide
    obtain ⟨e, he, hfirst⟩ := List.mem_map.mp hmem
    obtain ⟨s, hs, hes⟩ := (h _ n prefix_rfl hn).data 2 r hr e he
    have hadv : e.advrouter = 1 := congrArg Prod.fst hfirst
    rw [hadv] at hs
    rw [hs] at hpublished
    have hall : s.published.map brief = [(1, 11, 1, 1), (1, 12, 5, 2)] := some.inj hpublished
    have hmem' : (1, 11, 5, 2) ∈ s.published.map brief := List.mem_map.mpr ⟨e, hes, hfirst⟩
    rw [hall] at hmem'
    exact absurd hmem' (by decide)

end Inet.Ted
