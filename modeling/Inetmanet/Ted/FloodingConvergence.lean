import Inetmanet.Ted.FloodingRuns

/-!
# What flooding leads to

A router that has announced its links has told its neighbours all that it knows, or the
messages are on the way. Once all of them have arrived, the routers agree.
-/
namespace Runs

variable {σ ι ε : Type} {step : σ → ι → Except ε σ} {p : σ → Prop} {s : σ}

/-- What holds before each input, one more included, holds of every state. -/
theorem EveryStep.states {is : List ι} {i : ι} (h : EveryStep step (fun s _ => p s) s (is ++ [i])) : EveryState step p s is := by
  rintro is₁ s₁ ⟨rest, rfl⟩ hs₁
  cases rest with
  | nil => exact h is₁ i s₁ (by simp) hs₁
  | cons j rest => exact h is₁ j s₁ (by simp) hs₁

end Runs

namespace Inet.Ted

open Inet.Ipv4 (IPv4Address)
open List Network TELinkStateInfo

variable {P : TELinkStateInfo → Prop} {ted ted' linkInfo rest : List TELinkStateInfo} {link e f : TELinkStateInfo}
  {l l' : Loop} {r r' s : Router} {a b : IPv4Address} {out : List Packet}

/-- The list has this version of a link or a newer one. -/
def Knows (ted : List TELinkStateInfo) (link : TELinkStateInfo) : Prop := ∃ e ∈ ted, e.key = link.key ∧ ¬ e.Older link

theorem knows_of_mem (h : link ∈ ted) : Knows ted link := ⟨link, h, rfl, not_older_self link⟩

theorem Knows.trans (h : Knows ted link) (hall : ∀ e ∈ ted, Knows ted' e) : Knows ted' link := by
  obtain ⟨e, he, hkey, hold⟩ := h
  obtain ⟨e', he', hkey', hold'⟩ := hall e he
  exact ⟨e', he', hkey'.trans hkey, not_older_trans hold hold'⟩

theorem lt_length_of_getElem? {α : Type} {l : List α} {k : Nat} {x : α} (h : l[k]? = some x) : k < l.length :=
  (List.getElem?_eq_some_iff.mp h).1

/-- What is new in the database after a message. -/
structure Learns (ted linkInfo : List TELinkStateInfo) (l : Loop) : Prop where
  told : ∀ link ∈ linkInfo, Knows l.ted link
  news : ∀ e ∈ l.ted, e ∈ ted ∨ e ∈ l.forward
  forward : ∀ f ∈ l.forward, f ∈ linkInfo

theorem processLink_learns (hP : Coherent P) (hted : Faithful P l.ted) (hlink : P link)
    (hfirst : ∀ k, (l.ted.map key).find? (fun k => k.1 = link.ends) = some k → k = link.key)
    (hrun : processLink l link = .ok l') : Knows l'.ted link ∧ (∀ e ∈ l'.ted, e ∈ l.ted ∨ e ∈ l'.forward) ∧
      l.forward ⊆ l'.forward ∧ ∀ f ∈ l'.forward, f ∈ l.forward ∨ f = link := by
  obtain ⟨ted, forward, change⟩ := l
  have hsource := hP.source link hlink
  unfold processLink at hrun
  rcases checkLinkValidity_cases hP hted.versions hlink hfirst 0 with ⟨hv, hknown⟩ | ⟨hv, -⟩ |
    ⟨front, e, back, hq, hv, hkey, -⟩
  · rw [hv] at hrun
    cases hrun
    exact ⟨hknown, fun _ he => .inl he, fun _ hf => hf, fun _ hf => .inl hf⟩
  · rw [hv, ensure_pos hsource] at hrun
    cases hrun
    exact ⟨knows_of_mem (by simp), by grind, by simp, by simp⟩
  · subst hq
    have he : P e := hted.versions e (mem_append_right front mem_cons_self)
    rw [hv, ensure_pos hsource] at hrun
    cases hrun
    rw [Nat.zero_add, modify_middle, copyInfo_eq hP he hlink hkey]
    exact ⟨knows_of_mem (by simp), by grind, by simp, by simp⟩

/-- One link after the other. -/
theorem foldlM_processLink_learns (hP : Coherent P) (hlinks : ∀ link ∈ linkInfo, P link)
    (hown : FindsOwn l.ted linkInfo) (hted : Faithful P l.ted) (hrun : linkInfo.foldlM processLink l = .ok l') :
    Advances l.ted l'.ted ∧ (∀ link ∈ linkInfo, Knows l'.ted link) ∧ (∀ e ∈ l'.ted, e ∈ l.ted ∨ e ∈ l'.forward) ∧
      l.forward ⊆ l'.forward ∧ ∀ f ∈ l'.forward, f ∈ l.forward ∨ f ∈ linkInfo := by
  induction linkInfo generalizing l with
  | nil =>
    cases hrun
    exact ⟨.refl _, by simp, fun _ he => .inl he, fun _ hf => hf, fun _ hf => .inl hf⟩
  | cons link linkInfo ih =>
    have hlink := hlinks link mem_cons_self
    obtain ⟨l₁, hone, hprocessed⟩ := processLink_ok hP hted hlink hown.head
    obtain ⟨hknows, hnews, hforward, hfrom⟩ := processLink_learns hP hted hlink hown.head hone
    rw [foldlM_cons, hone] at hrun
    obtain ⟨hadv, htold, hnews', hforward', hfrom'⟩ := ih (fun f hf => hlinks f (mem_cons_of_mem _ hf))
      (hprocessed.findsOwn hown) (hprocessed.faithful hted) hrun
    refine ⟨hprocessed.advances.trans hadv, ?_, ?_, fun f hf => hforward' (hforward hf), ?_⟩
    · intro f hf
      cases mem_cons.mp hf with
      | inl heq => exact heq ▸ hknows.trans hadv
      | inr hf => exact htold f hf
    · grind
    · grind

theorem processLinks_learns (hP : Coherent P) (hlinks : ∀ link ∈ linkInfo, P link) (hown : FindsOwn ted linkInfo)
    (hted : Faithful P ted) (hrun : processLinks ted linkInfo = .ok l) : Advances ted l.ted ∧ Learns ted linkInfo l := by
  obtain ⟨hadv, htold, hnews, -, hforward⟩ := foldlM_processLink_learns hP hlinks hown hted hrun
  exact ⟨hadv, htold, hnews, fun f hf => (hforward f hf).resolve_left not_mem_nil⟩

/-- A link of the router to this neighbour is up, and it is one to a peer. -/
def Router.PeersWith (r : Router) (b : IPv4Address) : Prop :=
  b ≠ 0 ∧ ∃ link ∈ r.ted, link.advrouter = r.routerId ∧ link.linkid = b ∧ link.state ∧ link.localAddr ∈ r.peerIfAddrs

theorem Router.PeersWith.sendToPeers (h : r.PeersWith b) {exceptPeer : IPv4Address} (hexcept : b ≠ exceptPeer)
    (list : List TELinkStateInfo) (req : Bool) : r.sendToPeer b list req ∈ r.sendToPeers list req exceptPeer := by
  obtain ⟨-, link, hlink, hadv, rfl, hstate, hlocal⟩ := h
  exact mem_map.mpr ⟨link, mem_filter.mpr ⟨hlink, by simp [hadv, hexcept, hstate, hlocal]⟩, rfl⟩

theorem sendToPeers_known {list : List TELinkStateInfo} {req : Bool} {exceptPeer : IPv4Address} {packet : Packet}
    (hlist : ∀ f ∈ list, Knows r.ted f) (h : packet ∈ r.sendToPeers list req exceptPeer) :
    packet.srcAddr = r.routerId ∧ ∀ link ∈ packet.msg.linkInfo, Knows r.ted link := by
  obtain ⟨link, -, rfl⟩ := mem_map.mp h
  exact ⟨rfl, hlist⟩

/-- A network, with the places of the messages that have arrived. -/
structure Watched where
  network : Network
  arrived : List Nat := []

namespace Watched

variable {w w' : Watched} {event : Event} {arrived : List Nat} {id : IPv4Address}

def step (w : Watched) (event : Event) : Sim Watched := do
  let network ← w.network.step event
  match event with
  | .deliver k => return ⟨network, if k < w.network.sent.length then k :: w.arrived else w.arrived⟩
  | .tick _ | .announce _ | .linkChange .. => return ⟨network, w.arrived⟩

/-- A message that has not arrived yet tells `b` of the link. -/
def OnItsWay (w : Watched) (b : IPv4Address) (e : TELinkStateInfo) : Prop :=
  ∃ k packet, w.network.sent[k]? = some packet ∧ k ∉ w.arrived ∧ packet.destAddr = b ∧ Knows packet.msg.linkInfo e

/-- All that `a` knows, `b` knows as well, or is about to. -/
def Tells (w : Watched) (a b : IPv4Address) : Prop :=
  ∀ r s, w.network.router a = some r → w.network.router b = some s → ∀ e ∈ r.ted, Knows s.ted e ∨ w.OnItsWay b e

/-- Router `a` is there, and its link to `b` is up. -/
def Peers (w : Watched) (a b : IPv4Address) : Prop := ∃ r ∈ w.network.router a, r.PeersWith b

/-- What a router has sent, it knows. -/
structure Kept (w : Watched) : Prop where
  network : w.network.Kept
  ends : w.network.EndsTell
  arrived : ∀ k ∈ w.arrived, k < w.network.sent.length
  sources : ∀ packet ∈ w.network.sent, ∀ r, w.network.router packet.srcAddr = some r →
    ∀ link ∈ packet.msg.linkInfo, Knows r.ted link

/-- A router goes on and sends its news: to `b`, whatever `b` is not known to have or to get. -/
theorem Kept.goesOn (h : w.Kept) (hr : w.network.router id = some r) (hkept : (w.network.setRouter id r' out).Kept)
    (hends : (w.network.setRouter id r' out).EndsTell) (hadv : Advances r.ted r'.ted) (hid : r'.routerId = r.routerId)
    (hevent : ∀ a, event = .announce a → a = id) (hbound : ∀ k ∈ arrived, k < w.network.sent.length)
    (harrived : ∀ k packet, w.network.sent[k]? = some packet → k ∈ arrived →
      k ∈ w.arrived ∨ packet.destAddr = id ∧ ∀ link ∈ packet.msg.linkInfo, Knows r'.ted link)
    (hout : ∀ packet ∈ out, packet.srcAddr = r'.routerId ∧ ∀ link ∈ packet.msg.linkInfo, Knows r'.ted link)
    (hnews : ∀ b s, w.network.router b = some s → r'.PeersWith b → ∀ e ∈ r'.ted, e ∈ r.ted ∧ (∀ a, event ≠ .announce a) ∨
      Knows s.ted e ∨ ∃ packet ∈ out, packet.destAddr = b ∧ e ∈ packet.msg.linkInfo) :
    Kept ⟨w.network.setRouter id r' out, arrived⟩ ∧ ∀ a b, Peers ⟨w.network.setRouter id r' out, arrived⟩ a b →
      w.Tells a b ∨ event = .announce a → Tells ⟨w.network.setRouter id r' out, arrived⟩ a b := by
  have hself := (h.network.own id r hr).identity
  refine ⟨⟨hkept, hends, fun k hk => ?_, fun packet hpacket s hs link hlink => ?_⟩, ?_⟩
  · exact Nat.lt_of_lt_of_le (hbound k hk) (by simp [Network.setRouter])
  · cases mem_append.mp hpacket with
    | inl hsent =>
      cases setRouter_router hs with
      | inl hnew =>
        obtain ⟨hsrc, rfl⟩ := hnew
        exact (h.sources packet hsent r (hsrc ▸ hr) link hlink).trans hadv
      | inr hold => exact h.sources packet hsent s hold.2 link hlink
    | inr hnew =>
      obtain ⟨hsrc, hknown⟩ := hout packet hnew
      rw [hsrc, hid, hself, setRouter_router_self] at hs
      cases hs
      exact hknown link hlink
  · rintro a b ⟨ra', hra', hpeer⟩ htells ra sb hra hsb e he
    cases hra.symm.trans hra'
    obtain ⟨s, hs, hsame⟩ : ∃ s, w.network.router b = some s ∧ Advances s.ted sb.ted := by
      cases setRouter_router hsb with
      | inl hnew => exact ⟨r, hnew.1 ▸ hr, hnew.2 ▸ hadv⟩
      | inr hsb => exact ⟨sb, hsb.2, .refl _⟩
    have hbefore : (Knows s.ted e ∨ w.OnItsWay b e) ∨ ∃ packet ∈ out, packet.destAddr = b ∧ Knows packet.msg.linkInfo e := by
      cases setRouter_router hra with
      | inl hnew =>
        obtain ⟨rfl, rfl⟩ := hnew
        rcases hnews b s hs hpeer e he with ⟨hold, hne⟩ | hknows | ⟨packet, hpacket, hdest, hmem⟩
        · exact .inl (htells.resolve_right (hne a) r s hr hs e hold)
        · exact .inl (.inl hknows)
        · exact .inr ⟨packet, hpacket, hdest, knows_of_mem hmem⟩
      | inr hra => exact .inl (htells.resolve_right (fun heq => hra.1 (hevent a heq)) _ s hra.2 hs e he)
    rcases hbefore with (hknows | ⟨k, packet, hk, hnot, hdest, hknows⟩) | ⟨packet, hpacket, hdest, hknows⟩
    · exact .inl (hknows.trans hsame)
    · by_cases hk' : k ∈ arrived
      · -- the message arrives now
        obtain ⟨hrouter, htold⟩ := (harrived k packet hk hk').resolve_left hnot
        rw [← hdest, hrouter, setRouter_router_self] at hsb
        cases hsb
        exact .inl (hknows.trans htold)
      · refine .inr ⟨k, packet, ?_, hk', hdest, hknows⟩
        exact (getElem?_append_left (lt_length_of_getElem? hk)).trans hk
    · obtain ⟨i, hi⟩ := mem_iff_getElem?.mp hpacket
      refine .inr ⟨w.network.sent.length + i, packet, ?_, fun hmem => ?_, hdest, hknows⟩
      · exact (getElem?_append_right (Nat.le_add_right ..)).trans (by rw [Nat.add_sub_cancel_left, hi])
      · exact absurd (hbound _ hmem) (by omega)

/-- Each event keeps what routers have told their neighbours, and an announcement tells them everything. -/
theorem Kept.next (h : w.Kept) (hstep : w.step event = .ok w') :
    w'.Kept ∧ ∀ a b, w'.Peers a b → w.Tells a b ∨ event = .announce a → w'.Tells a b := by
  obtain ⟨n', hn, hstep⟩ := bind_ok.mp hstep
  have hapart := h.ends.keepsApart h.network event
  have hkept := (h.network.step hapart hn).1
  have hends := h.ends.step h.network hn
  cases event with
  | tick d =>
    cases hn
    cases hstep
    exact ⟨⟨hkept, hends, h.arrived, h.sources⟩, fun a b _ htells => htells.resolve_right (by simp)⟩
  | announce id =>
    cases hstep
    rw [Network.step] at hn
    cases hr : w.network.router id with
    | none =>
      rw [hr] at hn
      cases hn
      refine ⟨h, ?_⟩
      rintro a b ⟨ra, hra, -⟩ (htells | ⟨⟨⟩⟩)
      · exact htells
      · cases hr.symm.trans hra
    | some r =>
      rw [hr] at hn
      cases hn
      have hsame : ({ w.network with sent := w.network.sent ++ r.announce } : Network) =
          w.network.setRouter id r r.announce := by
        simp [Network.setRouter, ← hr]
      rw [hsame] at hkept hends ⊢
      refine h.goesOn hr hkept hends (.refl _) rfl (by simp) h.arrived (fun _ _ _ => .inl)
        (fun _ hp => sendToPeers_known (fun _ => knows_of_mem) hp) fun b s hs hpeer e he => ?_
      exact .inr (.inr ⟨_, hpeer.sendToPeers hpeer.1 r.ted true, rfl, he⟩)
  | deliver k =>
    cases hstep
    rw [Network.step] at hn
    cases hpacket : w.network.sent[k]? with
    | none =>
      rw [hpacket] at hn
      cases hn
      rw [if_neg (Nat.not_lt.mpr (getElem?_eq_none_iff.mp hpacket))]
      exact ⟨h, fun a b _ htells => htells.resolve_right (by simp)⟩
    | some packet =>
      rw [hpacket] at hn
      dsimp only at hn
      have hk := lt_length_of_getElem? hpacket
      have hmem := mem_of_getElem? hpacket
      have hbound : ∀ i ∈ k :: w.arrived, i < w.network.sent.length := by
        simpa [hk] using h.arrived
      rw [if_pos hk]
      cases hr : w.network.router packet.destAddr with
      | none =>
        rw [hr] at hn
        cases hn
        refine ⟨⟨hkept, hends, hbound, h.sources⟩, fun a b _ htells ra s hra hs e he => ?_⟩
        rcases htells.resolve_right (by simp) ra s hra hs e he with hknows | ⟨i, packet', hi, hnot, rfl, hknows⟩
        · exact .inl hknows
        · refine .inr ⟨i, packet', hi, fun hmem => ?_, rfl, hknows⟩
          rw [(mem_cons.mp hmem).resolve_right hnot, hpacket] at hi
          cases hi
          cases hr.symm.trans hs
      | some r =>
        rw [hr] at hn
        obtain ⟨⟨r', out⟩, hrun, hn⟩ := bind_ok.mp hn
        cases hn
        obtain ⟨l, hlinks, hrun⟩ := bind_ok.mp hrun
        cases hrun
        obtain ⟨hadv, hlearns⟩ := processLinks_learns h.network.coherent (h.network.sent packet hmem)
          (hapart packet r hpacket hr) (h.network.databases _ r hr) hlinks
        refine h.goesOn hr hkept hends hadv rfl (by simp) hbound ?_ ?_ ?_
        · intro i packet' hi hmem'
          cases mem_cons.mp hmem' with
          | inl heq =>
            cases hpacket.symm.trans (heq ▸ hi)
            exact .inr ⟨rfl, hlearns.told⟩
          | inr hold => exact .inl hold
        · intro packet' hpacket'
          cases mem_append.mp hpacket' with
          | inl hanswer =>
            split at hanswer
            · cases mem_singleton.mp hanswer
              exact ⟨rfl, fun f hf => knows_of_mem hf⟩
            · cases hanswer
          | inr hflood =>
            split at hflood
            · exact sendToPeers_known (fun f hf => hlearns.told f (hlearns.forward f hf)) hflood
            · cases hflood
        · intro b s hs hpeer e he
          cases hlearns.news e he with
          | inl hold => exact .inl ⟨hold, by simp⟩
          | inr hnew =>
            right
            by_cases hsender : b = packet.srcAddr
            · -- the sender is left out, but what it has sent it knows
              exact .inl (h.sources packet hmem s (hsender ▸ hs) e (hlearns.forward e hnew))
            · refine .inr ⟨Router.sendToPeer { r with ted := l.ted, forwarded := r.forwarded ++ l.forward } b l.forward false,
                mem_append_right _ ?_, rfl, hnew⟩
              rw [if_pos (length_pos_of_mem hnew)]
              exact hpeer.sendToPeers hsender l.forward false
  | linkChange id index state UnResvBandwidth =>
    cases hstep
    rw [Network.step] at hn
    cases hr : w.network.router id with
    | none =>
      rw [hr] at hn
      cases hn
      exact ⟨h, fun a b _ htells => htells.resolve_right (by simp)⟩
    | some r =>
      rw [hr] at hn
      obtain ⟨⟨r', out⟩, hchange, hn⟩ := bind_ok.mp hn
      cases hn
      obtain ⟨entry, link, hentry, -, -, rfl, rfl⟩ := announceLinkChange_ok hchange
      have hlink : link ∈ r.ted.set index link := mem_set (lt_length_of_getElem? hentry) link
      refine h.goesOn hr hkept hends (h.network.linkChange hr hchange).2 rfl (by simp) h.arrived (fun _ _ _ => .inl)
        (fun _ hp => sendToPeers_known (fun f hf => mem_singleton.mp hf ▸ knows_of_mem hlink) hp) ?_
      intro b s hs hpeer e he
      cases mem_or_eq_of_mem_set he with
      | inl hold => exact .inl ⟨hold, by simp⟩
      | inr hnew => exact .inr (.inr ⟨_, hpeer.sendToPeers hpeer.1 [link] false, rfl, mem_singleton.mpr hnew⟩)

instance (w : Watched) (a b : IPv4Address) : Decidable (w.Peers a b) :=
  have (r : Router) : Decidable (r.PeersWith b) := inferInstanceAs (Decidable (_ ∧ _))
  inferInstanceAs (Decidable (∃ r ∈ w.network.router a, r.PeersWith b))

/-- Whoever announces its links, and whose link to `b` stays up, tells `b` all that it knows. -/
theorem Kept.run (h : w.Kept) {events : List Event} (hrun : Runs.run step w events = .ok w')
    (hup : Runs.EveryState step (fun w => w.Peers a b) w events) :
    w'.Kept ∧ (w.Tells a b ∨ .announce a ∈ events → w'.Tells a b) := by
  induction events generalizing w with
  | nil =>
    cases hrun
    exact ⟨h, fun htells => htells.resolve_right not_mem_nil⟩
  | cons event events ih =>
    obtain ⟨w₁, hstep, hrun⟩ := Runs.run_cons.mp hrun
    have hup₁ := (Runs.everyState_cons.mp hup).2 w₁ hstep
    obtain ⟨h₁, htells₁⟩ := h.next hstep
    obtain ⟨h', htells'⟩ := ih h₁ hrun hup₁
    refine ⟨h', fun htells => htells' ?_⟩
    have hnow := htells₁ a b (hup₁ [] w₁ nil_prefix rfl)
    grind

/-- Of two versions of a link that are both known to two routers, none is the newer one. -/
theorem Kept.mem_of_tells (h : w.Kept) (harrived : ∀ k < w.network.sent.length, k ∈ w.arrived) (hab : w.Tells a b)
    (hba : w.Tells b a) (hr : w.network.router a = some r) (hs : w.network.router b = some s) (he : e ∈ r.ted) : e ∈ s.ted := by
  have hnone (c : IPv4Address) (f : TELinkStateInfo) : ¬ w.OnItsWay c f := by
    rintro ⟨k, _, hk, hnot, -⟩
    exact hnot (harrived k (lt_length_of_getElem? hk))
  obtain ⟨e', he', hkey, hold⟩ := (hab r s hr hs e he).resolve_right (hnone b e)
  obtain ⟨e'', he'', hkey', hold'⟩ := (hba s r hs hr e' he').resolve_right (hnone a e')
  have hr' := h.network.databases a r hr
  cases inj_on_of_nodup_map hr'.keys he'' he (hkey'.trans hkey)
  have hadv : e'.advrouter = e.advrouter := congrArg (·.1.1) hkey
  have hstamp : e'.stamp = e.stamp := by
    simp only [Older] at hold hold'
    simp only [stamp, Prod.mk.injEq, hadv, true_and]
    omega
  have hsame := h.network.coherent.unique e' e ((h.network.databases b s hs).versions e' he') (hr'.versions e he) hstamp
  exact hsame ▸ he'

def start (config : IPv4Address → Option RouterConfig) : Watched := { network := .initial config }

variable {config : IPv4Address → Option RouterConfig}

theorem start_kept (hlinks : NoParallelLinks config) : (start config).Kept :=
  ⟨initial_kept config, initial_endsTell hlinks, fun _ hk => absurd hk not_mem_nil, fun _ hp => absurd hp not_mem_nil⟩

/-- The links between two routers stay up, both ways. -/
def StayUp (config : IPv4Address → Option RouterConfig) (events : List Event) (a b : IPv4Address) : Prop :=
  Runs.EveryState step (fun w => w.Peers a b) (start config) events ∧
    Runs.EveryState step (fun w => w.Peers b a) (start config) events

/-- Flooding leads to agreement: when every router has announced its links and no message is left, the
routers that are joined by links that have stayed up have the same entries. -/
theorem flooding_converges (hlinks : NoParallelLinks config)
    {events : List Event} (hrun : Runs.run step (start config) events = .ok w)
    (hannounced : ∀ a, (config a).isSome → .announce a ∈ events)
    (harrived : ∀ k < w.network.sent.length, k ∈ w.arrived)
    (hpath : Relation.ReflTransGen (StayUp config events) a b)
    (hr : w.network.router a = some r) (hs : w.network.router b = some s) : e ∈ r.ted ↔ e ∈ s.ted := by
  induction hpath generalizing s with
  | refl =>
    cases hr.symm.trans hs
    rfl
  | @tail b c _ hup ih =>
    have hthere {a b : IPv4Address} (h : Runs.EveryState step (fun w => w.Peers a b) (start config) events) :
        .announce a ∈ events := by
      obtain ⟨r, hr, -⟩ := h [] _ nil_prefix rfl
      exact hannounced a (by simpa [start, Network.initial] using congrArg Option.isSome hr)
    obtain ⟨rb, hrb, -⟩ := hup.1 events w prefix_rfl hrun
    obtain ⟨hkept, hbc⟩ := (start_kept hlinks).run hrun hup.1
    have hcb := ((start_kept hlinks).run hrun hup.2).2 (.inr (hthere hup.2))
    have hbc := hbc (.inr (hthere hup.1))
    exact (ih hrb).trans ⟨hkept.mem_of_tells harrived hbc hcb hrb hs, hkept.mem_of_tells harrived hcb hbc hs hrb⟩

/-- Two routers tell each other of their links, in answers too. -/
def singleLinkAnnounced : List Event := [.announce 1, .announce 2, .deliver 0, .deliver 1, .deliver 3, .deliver 2]

theorem singleLink_stayUp : StayUp singleLink singleLinkAnnounced 1 2 := by
  constructor
  · exact Runs.EveryStep.states (i := .tick 0) (Runs.everyStep_of_check (by decide +kernel))
  · exact Runs.EveryStep.states (i := .tick 0) (Runs.everyStep_of_check (by decide +kernel))

theorem singleLink_converges : ∃ w r s, Runs.run step (start singleLink) singleLinkAnnounced = .ok w ∧
    w.network.router 1 = some r ∧ w.network.router 2 = some s ∧ ∀ e, e ∈ r.ted ↔ e ∈ s.ted := by
  refine ⟨_, _, _, rfl, rfl, rfl, fun e => ?_⟩
  refine flooding_converges singleLink_noParallelLinks rfl ?_ (by decide +kernel)
    (.single singleLink_stayUp) rfl rfl
  intro a ha
  unfold singleLink at ha
  split at ha
  · simp [singleLinkAnnounced]
  · simp [singleLinkAnnounced]
  · cases ha

end Watched

end Inet.Ted
