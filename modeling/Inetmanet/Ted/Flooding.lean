import Inetmanet.Lib.Runs
import Inetmanet.Ted.LinkStateRouting

/-!
# Flooding is monotone

Every version of a link that is on its way or in a database is one that its router has
published, and the versions of a router are told apart by their stamps. So a database
changes only towards newer versions, and a router forwards each version once at most.
-/
namespace Inet.Ted

open List
open Inet.Ipv4 (IPv4Address)

namespace TELinkStateInfo

variable (e link : TELinkStateInfo)

/-- The two routers, by which an entry is looked up. -/
def ends : IPv4Address × IPv4Address := (e.advrouter, e.linkid)

/-- Of parallel links, each starts at another interface. -/
def key : (IPv4Address × IPv4Address) × IPv4Address := (e.ends, e.localAddr)

def stamp : IPv4Address × Nat × Nat := (e.advrouter, e.timestamp, e.messageId)

def Older : Prop := e.timestamp < link.timestamp ∨ e.timestamp = link.timestamp ∧ e.messageId < link.messageId

end TELinkStateInfo

open TELinkStateInfo

/-- Every entry is still there, and none has become older. -/
def Advances (ted ted' : List TELinkStateInfo) : Prop := ∀ e ∈ ted, ∃ e' ∈ ted', e'.key = e.key ∧ ¬ e'.Older e

/-- The link makes the database newer: all that is known of it is older. -/
def MakesNewer (ted ted' : List TELinkStateInfo) (link : TELinkStateInfo) : Prop :=
  (∀ e ∈ ted, e.key = link.key → e.Older link) ∧ link ∈ ted'

/-- Each link of a message is forwarded if and only if it makes the database newer. -/
def ForwardsNewer (ted linkInfo : List TELinkStateInfo) : Prop :=
  ∀ before link after, linkInfo = before ++ link :: after → ∃ l l', processLinks ted before = .ok l ∧
    processLinks ted (before ++ [link]) = .ok l' ∧
    (MakesNewer l.ted l'.ted link ∧ l'.forward = l.forward ++ [link] ∨ ¬ MakesNewer l.ted l'.ted link ∧ l'.forward = l.forward)

namespace Network

variable (n : Network)

/-- The advertising router has published this version of the link. -/
def Published (link : TELinkStateInfo) : Prop := ∃ r, n.router link.advrouter = some r ∧ link ∈ r.published

structure Consistent : Prop where
  entries : ∀ routerId r, n.router routerId = some r → (r.ted.map key).Nodup
  data : ∀ routerId r, n.router routerId = some r → ∀ e ∈ r.ted, n.Published e
  stamps : ∀ link link', n.Published link → n.Published link' → link.stamp = link'.stamp → link = link'
  forwarded : ∀ routerId r, n.router routerId = some r → (r.forwarded.map stamp).Nodup

/-- No entry of a database gets older. -/
def Monotone (_ : Event) (n' : Network) : Prop :=
  ∀ routerId r r', n.router routerId = some r → n'.router routerId = some r' → Advances r.ted r'.ted

def ForwardsWhatIsNewer : Event → Prop
  | .deliver k => ∀ packet r, n.sent[k]? = some packet → n.router packet.destAddr = some r → ForwardsNewer r.ted packet.msg.linkInfo
  | _ => True

end Network

/-- What is looked up for a link of a message, in the database or in the message before it, belongs to that link. -/
def FindsOwn (ted linkInfo : List TELinkStateInfo) : Prop :=
  ∀ link ∈ linkInfo, ∀ k, ((ted ++ linkInfo).map key).find? (fun k => k.1 = link.ends) = some k → k = link.key

/-- No link is taken for another one between the same routers. -/
def Network.KeepsApart (n : Network) : Network.Event → Prop
  | .deliver k => ∀ packet r, n.sent[k]? = some packet → n.router packet.destAddr = some r → FindsOwn r.ted packet.msg.linkInfo
  | _ => True

/-- What the versions of all links have in common. -/
structure Coherent (P : TELinkStateInfo → Prop) : Prop where
  source : ∀ p, P p → p.sourceId = p.advrouter.toNat
  unique : ∀ p q, P p → P q → p.stamp = q.stamp → p = q
  remote : ∀ p q, P p → P q → p.key = q.key → p.remote = q.remote

structure Faithful (P : TELinkStateInfo → Prop) (ted : List TELinkStateInfo) : Prop where
  versions : ∀ e ∈ ted, P e
  keys : (ted.map key).Nodup

variable {P : TELinkStateInfo → Prop} {ted : List TELinkStateInfo} {link e e' : TELinkStateInfo}

theorem not_older_self (e : TELinkStateInfo) : ¬ e.Older e := by
  unfold Older
  omega

variable {a b : TELinkStateInfo} {forward rest ted' forwarded linkInfo : List TELinkStateInfo}
    {l l' : Loop}

theorem not_older_trans {c : TELinkStateInfo} (hab : ¬ b.Older a) (hbc : ¬ c.Older b) : ¬ c.Older a := by
  unfold Older at *
  omega

theorem not_older_of_older (h : a.Older b) : ¬ b.Older a := by
  unfold Older at *
  omega

theorem modify_middle {α : Type} (front back : List α) (a : α) (f : α → α) :
    (front ++ a :: back).modify front.length f = front ++ f a :: back := by
  induction front with
  | nil => rfl
  | cons b front ih => exact congrArg (b :: ·) ih

theorem Advances.refl (ted : List TELinkStateInfo) : Advances ted ted := fun e he => ⟨e, he, rfl, not_older_self e⟩

/-- A copy of the information is the link itself. -/
theorem copyInfo_eq (hP : Coherent P) (he : P e) (hlink : P link) (hkey : e.key = link.key) : copyInfo link e = link := by
  have hremote := hP.remote e link he hlink hkey
  have hends : e.ends = link.ends := congrArg Prod.fst hkey
  have hlocal : e.localAddr = link.localAddr := congrArg Prod.snd hkey
  have hadv : e.advrouter = link.advrouter := congrArg Prod.fst hends
  have hid : e.linkid = link.linkid := congrArg Prod.snd hends
  rw [copyInfo, hlocal, hremote, hadv, hid]

theorem find?_append_cons_of_mem {α : Type} {a : α} {l : List α} (h : a ∈ l) (l' : List α) (p : α → Bool) :
    (l ++ a :: l').find? p = (l ++ l').find? p := by
  rw [find?_append, find?_append]
  cases hpa : p a with
  | true =>
    obtain ⟨b, hb⟩ := Option.isSome_iff_exists.mp (find?_isSome.mpr ⟨a, h, hpa⟩)
    rw [hb]
    rfl
  | false => rw [find?_cons, hpa]

theorem nodup_concat_of_not_mem {α : Type} {a : α} {l : List α} (h : l.Nodup) (ha : a ∉ l) : (l ++ [a]).Nodup := by
  rw [nodup_append]
  refine ⟨h, nodup_singleton a, ?_⟩
  intro b hb c hc hbc
  rw [mem_singleton] at hc
  exact ha (hc ▸ hbc ▸ hb)

/-- The first entry between the two routers decides. -/
theorem checkLinkValidity_cases (hP : Coherent P) (hted : ∀ e ∈ ted, P e) (hlink : P link)
    (hfirst : ∀ k, (ted.map key).find? (fun k => k.1 = link.ends) = some k → k = link.key) (i : Nat) :
    (checkLinkValidity link i ted = .ignored ∧ ∃ e ∈ ted, e.key = link.key ∧ ¬ e.Older link) ∨
    (checkLinkValidity link i ted = .interesting ∧ ∀ e ∈ ted, e.key ≠ link.key) ∨
    (∃ front e back, ted = front ++ e :: back ∧ checkLinkValidity link i ted = .newer (i + front.length) ∧ e.key = link.key ∧
      e.Older link) := by
  induction ted generalizing i with
  | nil => exact .inr (.inl ⟨rfl, fun e he => absurd he not_mem_nil⟩)
  | cons it ted ih =>
    have hit := hted it mem_cons_self
    rw [checkLinkValidity]
    by_cases hstamp : it.sourceId = link.sourceId ∧ it.messageId = link.messageId ∧ it.timestamp = link.timestamp
    · -- the stamp is that of no other version
      rw [if_pos hstamp]
      obtain ⟨hsource, hmessage, htime⟩ := hstamp
      rw [hP.source it hit, hP.source link hlink] at hsource
      have hadv : it.advrouter = link.advrouter := BitVec.eq_of_toNat_eq hsource
      have hsame := hP.unique it link hit hlink (by rw [stamp, stamp, hadv, hmessage, htime])
      subst hsame
      exact .inl ⟨rfl, it, mem_cons_self, rfl, not_older_self it⟩
    · rw [if_neg hstamp]
      rw [map_cons, find?_cons] at hfirst
      by_cases hends : it.advrouter = link.advrouter ∧ it.linkid = link.linkid
      · have hends' : it.ends = link.ends := Prod.ext hends.1 hends.2
        have hkey : it.key = link.key := hfirst it.key (by rw [show decide (it.key.1 = link.ends) = true from decide_eq_true hends'])
        rw [if_pos hends]
        by_cases holder : it.Older link
        · exact .inr (.inr ⟨[], it, ted, rfl, if_pos holder, hkey, holder⟩)
        · exact .inl ⟨if_neg holder, it, mem_cons_self, hkey, holder⟩
      · have hends' : it.ends ≠ link.ends := fun h => hends ⟨congrArg Prod.fst h, congrArg Prod.snd h⟩
        rw [if_neg hends]
        rw [show decide (it.key.1 = link.ends) = false from decide_eq_false hends'] at hfirst
        rcases ih (fun e he => hted e (mem_cons_of_mem _ he)) hfirst (i + 1) with ⟨hv, e, he, h⟩ | ⟨hv, hnone⟩ |
          ⟨front, e, back, rfl, hv, h⟩
        · exact .inl ⟨hv, e, mem_cons_of_mem _ he, h⟩
        · refine .inr (.inl ⟨hv, ?_⟩)
          intro e he hkey
          cases mem_cons.mp he with
          | inl heq =>
            subst heq
            exact hends' (congrArg Prod.fst hkey)
          | inr he => exact hnone e he hkey
        · refine .inr (.inr ⟨it :: front, e, back, rfl, ?_, h⟩)
          rw [hv, length_cons]
          congr 1
          omega

/-- The links of a database, with one more. -/
def addKey (keys : List ((IPv4Address × IPv4Address) × IPv4Address)) (k : (IPv4Address × IPv4Address) × IPv4Address) :
    List ((IPv4Address × IPv4Address) × IPv4Address) :=
  if k ∈ keys then keys else keys ++ [k]

/-- What one link of a message does. -/
structure Processed (P : TELinkStateInfo → Prop) (l : Loop) (link : TELinkStateInfo) (l' : Loop) : Prop where
  versions : ∀ e ∈ l'.ted, P e
  keys : l'.ted.map key = addKey (l.ted.map key) link.key
  advances : Advances l.ted l'.ted
  forward : MakesNewer l.ted l'.ted link ∧ l'.forward = l.forward ++ [link] ∨ ¬ MakesNewer l.ted l'.ted link ∧ l'.forward = l.forward

theorem addKey_of_mem {keys : List ((IPv4Address × IPv4Address) × IPv4Address)} {k : (IPv4Address × IPv4Address) × IPv4Address}
    (h : k ∈ keys) : addKey keys k = keys := if_pos h

theorem processLink_ignored (hted : ∀ e ∈ ted, P e) {change : Bool} (he : e ∈ ted)
    (hkey : e.key = link.key) (hold : ¬ e.Older link) : Processed P ⟨ted, forward, change⟩ link ⟨ted, forward, change⟩ := by
  constructor
  · exact hted
  · exact (addKey_of_mem (mem_map.mpr ⟨e, he, hkey⟩)).symm
  · exact Advances.refl ted
  · exact .inr ⟨fun hnew => hold (hnew.1 e he hkey), rfl⟩

theorem processLink_interesting (hted : ∀ e ∈ ted, P e) (hlink : P link) (hnone : ∀ e ∈ ted, e.key ≠ link.key)
    {change : Bool} :
    Processed P ⟨ted, forward, change⟩ link ⟨ted ++ [link], forward ++ [link], true⟩ := by
  have hnot : link.key ∉ ted.map key := by
    intro hmem
    obtain ⟨e, he, hkey⟩ := mem_map.mp hmem
    exact hnone e he hkey
  constructor
  · intro e he
    cases mem_append.mp he with
    | inl he => exact hted e he
    | inr he =>
      rw [mem_singleton.mp he]
      exact hlink
  · rw [addKey, if_neg hnot, map_append, map_singleton]
  · intro e he
    exact ⟨e, mem_append_left _ he, rfl, not_older_self e⟩
  · refine .inl ⟨⟨?_, mem_append_right ted (mem_singleton_self link)⟩, rfl⟩
    intro e he hkey
    exact absurd hkey (hnone e he)

theorem processLink_newer {front back : List TELinkStateInfo} {change change' : Bool} (hted : Faithful P (front ++ e :: back))
    (hlink : P link) (hkey : e.key = link.key) (holder : e.Older link) :
    Processed P ⟨front ++ e :: back, forward, change⟩ link ⟨front ++ link :: back, forward ++ [link], change'⟩ := by
  have hmem : e ∈ front ++ e :: back := mem_append_right front mem_cons_self
  constructor
  · intro e' he'
    cases mem_append.mp he' with
    | inl hfront => exact hted.versions e' (mem_append_left _ hfront)
    | inr hrest =>
      cases mem_cons.mp hrest with
      | inl heq =>
        rw [heq]
        exact hlink
      | inr hback => exact hted.versions e' (mem_append_right _ (mem_cons_of_mem _ hback))
  · rw [addKey_of_mem (mem_map.mpr ⟨e, hmem, hkey⟩)]
    simp only [map_append, map_cons, hkey]
  · intro e' he'
    cases mem_append.mp he' with
    | inl hfront => exact ⟨e', mem_append_left _ hfront, rfl, not_older_self e'⟩
    | inr hrest =>
      cases mem_cons.mp hrest with
      | inl heq =>
        subst heq
        exact ⟨link, mem_append_right _ mem_cons_self, hkey.symm, not_older_of_older holder⟩
      | inr hback => exact ⟨e', mem_append_right _ (mem_cons_of_mem _ hback), rfl, not_older_self e'⟩
  · refine .inl ⟨⟨?_, mem_append_right _ mem_cons_self⟩, rfl⟩
    intro e' he' hkey'
    have hsame : e' = e := inj_on_of_nodup_map hted.keys he' hmem (hkey'.trans hkey.symm)
    exact hsame ▸ holder

theorem processLink_ok (hP : Coherent P) (hted : Faithful P l.ted) (hlink : P link)
    (hfirst : ∀ k, (l.ted.map key).find? (fun k => k.1 = link.ends) = some k → k = link.key) :
    ∃ l', processLink l link = .ok l' ∧ Processed P l link l' := by
  obtain ⟨ted, forward, change⟩ := l
  have hsource := hP.source link hlink
  unfold processLink
  rcases checkLinkValidity_cases hP hted.versions hlink hfirst 0 with ⟨hv, e, he, hkey, hold⟩ | ⟨hv, hnone⟩ |
    ⟨front, e, back, hq, hv, hkey, holder⟩
  · rw [hv]
    exact ⟨_, rfl, processLink_ignored hted.versions he hkey hold⟩
  · rw [hv, ensure_pos hsource]
    exact ⟨_, rfl, processLink_interesting hted.versions hlink hnone⟩
  · subst hq
    have he : P e := hted.versions e (mem_append_right front mem_cons_self)
    rw [hv, ensure_pos hsource]
    refine ⟨_, rfl, ?_⟩
    rw [Nat.zero_add, modify_middle, copyInfo_eq hP he hlink hkey]
    exact processLink_newer hted hlink hkey holder

theorem Processed.faithful (h : Processed P l link l') (hted : Faithful P l.ted) : Faithful P l'.ted := by
  constructor
  · exact h.versions
  · rw [h.keys, addKey]
    by_cases hmem : link.key ∈ l.ted.map key
    · rw [if_pos hmem]
      exact hted.keys
    · rw [if_neg hmem]
      exact nodup_concat_of_not_mem hted.keys hmem

/-- What is looked up for the links that follow. -/
theorem Processed.findsOwn (h : Processed P l link l') (hown : FindsOwn l.ted (link :: rest)) :
    FindsOwn l'.ted rest := by
  intro f hf k hk
  refine hown f (mem_cons_of_mem _ hf) k ?_
  rw [map_append, h.keys, addKey] at hk
  rw [map_append, map_cons]
  by_cases hmem : link.key ∈ l.ted.map key
  · rw [if_pos hmem] at hk
    rw [find?_append_cons_of_mem hmem]
    exact hk
  · rw [if_neg hmem, append_assoc] at hk
    exact hk

theorem FindsOwn.head (hown : FindsOwn ted (link :: rest)) :
    ∀ k, (ted.map key).find? (fun k => k.1 = link.ends) = some k → k = link.key := by
  intro k hk
  refine hown link mem_cons_self k ?_
  rw [map_append, find?_append, hk]
  rfl

/-- What has been forwarded is not newer than the database. -/
structure Forwarded (P : TELinkStateInfo → Prop) (ted forwarded : List TELinkStateInfo) : Prop where
  versions : ∀ f ∈ forwarded, P f
  known : ∀ f ∈ forwarded, ∃ e ∈ ted, e.key = f.key ∧ ¬ e.Older f
  once : (forwarded.map stamp).Nodup

theorem Advances.trans {ted'' : List TELinkStateInfo} (h : Advances ted ted') (h' : Advances ted' ted'') : Advances ted ted'' := by
  intro e he
  obtain ⟨e', he', hkey, hold⟩ := h e he
  obtain ⟨e'', he'', hkey', hold'⟩ := h' e' he'
  exact ⟨e'', he'', hkey'.trans hkey, not_older_trans hold hold'⟩

theorem Forwarded.advance (h : Forwarded P ted forwarded) (hadv : Advances ted ted') :
    Forwarded P ted' forwarded := by
  constructor
  · exact h.versions
  · intro f hf
    obtain ⟨e, he, hkey, hold⟩ := h.known f hf
    obtain ⟨e', he', hkey', hold'⟩ := hadv e he
    exact ⟨e', he', hkey'.trans hkey, not_older_trans hold hold'⟩
  · exact h.once

/-- A link that makes the database newer has not been forwarded before. -/
theorem Forwarded.add (hP : Coherent P) (h : Forwarded P ted forwarded)
    (hadv : Advances ted ted') (hlink : P link) (hnew : MakesNewer ted ted' link) : Forwarded P ted' (forwarded ++ [link]) := by
  have h' := h.advance hadv
  constructor
  · intro f hf
    rcases mem_append.mp hf with hf | hf
    · exact h.versions f hf
    · rw [mem_singleton.mp hf]
      exact hlink
  · intro f hf
    rcases mem_append.mp hf with hf | hf
    · exact h'.known f hf
    · rw [mem_singleton.mp hf]
      exact ⟨link, hnew.2, rfl, not_older_self link⟩
  · rw [map_append, nodup_append]
    refine ⟨h.once, nodup_singleton _, ?_⟩
    intro a ha b hb hab
    obtain ⟨f, hf, rfl⟩ := mem_map.mp ha
    rw [map_singleton, mem_singleton] at hb
    have hsame : f = link := hP.unique f link (h.versions f hf) hlink (hab.trans hb)
    obtain ⟨e, he, hkey, hold⟩ := h.known f hf
    rw [hsame] at hkey hold
    exact hold (hnew.1 e he hkey)

/-- One link after the other, from a database and what has been forwarded before. -/
theorem foldlM_processLink_ok (hP : Coherent P)
    (hlinks : ∀ link ∈ linkInfo, P link) (hown : FindsOwn l.ted (linkInfo ++ rest)) (hted : Faithful P l.ted)
    (hforwarded : Forwarded P l.ted (forwarded ++ l.forward)) :
    ∃ l', linkInfo.foldlM processLink l = .ok l' ∧ Faithful P l'.ted ∧ FindsOwn l'.ted rest ∧ Advances l.ted l'.ted ∧
      Forwarded P l'.ted (forwarded ++ l'.forward) := by
  induction linkInfo generalizing l with
  | nil => exact ⟨l, rfl, hted, hown, Advances.refl l.ted, hforwarded⟩
  | cons link linkInfo ih =>
    have hlink := hlinks link mem_cons_self
    obtain ⟨l₁, hrun, hone⟩ := processLink_ok hP hted hlink hown.head
    have hforwarded₁ : Forwarded P l₁.ted (forwarded ++ l₁.forward) := by
      cases hone.forward with
      | inl hnew =>
        rw [hnew.2, ← append_assoc]
        exact hforwarded.add hP hone.advances hlink hnew.1
      | inr hold =>
        rw [hold.2]
        exact hforwarded.advance hone.advances
    have hlinks₁ (f : TELinkStateInfo) (hf : f ∈ linkInfo) : P f := hlinks f (mem_cons_of_mem _ hf)
    obtain ⟨l', hrun', hted', hown', hadv', hforwarded'⟩ := ih hlinks₁ (hone.findsOwn hown) (hone.faithful hted) hforwarded₁
    refine ⟨l', ?_, hted', hown', hone.advances.trans hadv', hforwarded'⟩
    rw [foldlM_cons, hrun]
    exact hrun'

theorem forwarded_nil (P : TELinkStateInfo → Prop) (ted : List TELinkStateInfo) : Forwarded P ted [] :=
  ⟨fun _ hf => absurd hf not_mem_nil, fun _ hf => absurd hf not_mem_nil, nodup_nil⟩

theorem forwardsNewer (hP : Coherent P) (hlinks : ∀ link ∈ linkInfo, P link)
    (hown : FindsOwn ted linkInfo) (hted : Faithful P ted) : ForwardsNewer ted linkInfo := by
  intro before link after hsplit
  subst hsplit
  have hbefore (f : TELinkStateInfo) (hf : f ∈ before) : P f := hlinks f (mem_append_left _ hf)
  have hlink : P link := hlinks link (mem_append_right before mem_cons_self)
  have hstart : Forwarded P (Loop.mk ted [] false).ted ([] ++ (Loop.mk ted [] false).forward) := forwarded_nil P ted
  obtain ⟨l, hrun, htedl, hownl, -, -⟩ := foldlM_processLink_ok hP hbefore hown hted hstart
  obtain ⟨l', hrun', hone⟩ := processLink_ok hP htedl hlink hownl.head
  refine ⟨l, l', hrun, ?_, hone.forward⟩
  rw [processLinks, foldlM_append, hrun]
  simp only [bind, Except.bind, foldlM_cons, foldlM_nil, hrun']
  rfl

end Inet.Ted
