import Inetmanet.Lib.Runs
import Inetmanet.Ospf.OSPFArea

/-!
# The database over a run

As long as no LSA takes the place of one of another router, and no LSA is renewed
under another key, the vectors and the maps of the database stay in step.
-/
namespace Inet.Ospf

open List Function Option OSPFLSAHeader

namespace DatabaseLSA

variable {β : Type} [DecidableEq β]

/-- A new LSA of this router takes the place of the old one. -/
def IsRenewed (lsa : DatabaseLSA β) (a : Ageing β) : Prop :=
  a.selfOriginated ∧ ¬ a.unreachable ∧
    (lsa.header.lsAge = LS_REFRESH_TIME - 1 ∧ lsa.header.lsSequenceNumber ≠ MAX_SEQUENCE_NUMBER ∨
      lsa.header.lsAge = MAX_AGE ∧ ¬ a.isOnAnyRetransmissionList ∧ ¬ a.exchanging)

/-- What can become of an LSA, with the conditions under which it does. -/
inductive AgesTo (lsa : DatabaseLSA β) (a : Ageing β) (missing : Aged β) : Aged β → Prop where
  | grows (hown : a.selfOriginated → lsa.header.lsAge < LS_REFRESH_TIME - 1) (hage : lsa.header.lsAge < MAX_AGE - 1) :
    AgesTo lsa a missing (.stays (lsa.setLsAge (lsa.header.lsAge + 1)).incrementInstallTime false false)
  | givesUp (hown : a.selfOriginated) (hage : lsa.header.lsAge = LS_REFRESH_TIME - 1)
    (hnew : a.unreachable ∨ lsa.header.lsSequenceNumber = MAX_SEQUENCE_NUMBER ∨ a.newLSA = none) :
    AgesTo lsa a missing lsa.reachesMaxAge
  | expires (hown : ¬ a.selfOriginated) (hage : lsa.header.lsAge = MAX_AGE - 1) : AgesTo lsa a missing lsa.reachesMaxAge
  | refreshed (newLSA : OSPFLSA β) (hown : a.selfOriginated) (hreach : ¬ a.unreachable)
    (hage : lsa.header.lsAge = LS_REFRESH_TIME - 1) (hseq : lsa.header.lsSequenceNumber ≠ MAX_SEQUENCE_NUMBER)
    (hnew : a.newLSA = some newLSA) : AgesTo lsa a missing (lsa.isUpdatedWith newLSA (lsa.header.lsSequenceNumber + 1))
  | stuck (hown : a.selfOriginated → LS_REFRESH_TIME ≤ lsa.header.lsAge) (hage : ¬ a.selfOriginated → MAX_AGE < lsa.header.lsAge)
    (hne : lsa.header.lsAge ≠ MAX_AGE) : AgesTo lsa a missing (.stays lsa false false)
  | waits (hage : lsa.header.lsAge = MAX_AGE) (hwait : a.isOnAnyRetransmissionList ∨ a.exchanging) :
    AgesTo lsa a missing (.stays lsa false false)
  | leaves (hage : lsa.header.lsAge = MAX_AGE) (hfree : ¬ a.isOnAnyRetransmissionList ∧ ¬ a.exchanging)
    (hgone : ¬ a.selfOriginated ∨ a.unreachable) : AgesTo lsa a missing .erased
  | renewed (newLSA : OSPFLSA β) (hown : a.selfOriginated) (hreach : ¬ a.unreachable) (hage : lsa.header.lsAge = MAX_AGE)
    (hfree : ¬ a.isOnAnyRetransmissionList ∧ ¬ a.exchanging) (hnew : a.newLSA = some newLSA) :
    AgesTo lsa a missing (lsa.isUpdatedWith newLSA
      (if lsa.header.lsSequenceNumber = MAX_SEQUENCE_NUMBER then INITIAL_SEQUENCE_NUMBER else lsa.header.lsSequenceNumber + 1))
  | missed (hown : a.selfOriginated) (hreach : ¬ a.unreachable) (hage : lsa.header.lsAge = MAX_AGE)
    (hfree : ¬ a.isOnAnyRetransmissionList ∧ ¬ a.exchanging) (hnew : a.newLSA = none) : AgesTo lsa a missing missing

theorem ages_to (lsa : DatabaseLSA β) (a : Ageing β) (missing : Aged β) : AgesTo lsa a missing (lsa.ages a missing) := by
  unfold ages
  by_cases hgrows : a.selfOriginated = true ∧ lsa.header.lsAge < LS_REFRESH_TIME - 1 ∨
      ¬ a.selfOriginated = true ∧ lsa.header.lsAge < MAX_AGE - 1
  · rw [if_pos hgrows]
    refine .grows (fun hown => ?_) ?_
    · exact (hgrows.resolve_right fun h => h.1 hown).2
    · rcases hgrows with ⟨-, hage⟩ | ⟨-, hage⟩
      · exact Nat.lt_trans hage (by decide)
      · exact hage
  rw [if_neg hgrows]
  by_cases hrefresh : a.selfOriginated = true ∧ lsa.header.lsAge = LS_REFRESH_TIME - 1
  · rw [if_pos hrefresh]
    by_cases hun : a.unreachable = true
    · rw [if_pos hun]
      exact .givesUp hrefresh.1 hrefresh.2 (.inl hun)
    rw [if_neg hun]
    by_cases hseq : lsa.header.lsSequenceNumber = MAX_SEQUENCE_NUMBER
    · rw [if_pos hseq]
      exact .givesUp hrefresh.1 hrefresh.2 (.inr (.inl hseq))
    rw [if_neg hseq]
    cases hnew : a.newLSA with
    | some newLSA => exact .refreshed newLSA hrefresh.1 hun hrefresh.2 hseq hnew
    | none => exact .givesUp hrefresh.1 hrefresh.2 (.inr (.inr hnew))
  rw [if_neg hrefresh]
  by_cases hmax : ¬ a.selfOriginated = true ∧ lsa.header.lsAge = MAX_AGE - 1
  · rw [if_pos hmax]
    exact .expires hmax.1 hmax.2
  rw [if_neg hmax]
  by_cases hage : lsa.header.lsAge = MAX_AGE
  · rw [if_pos hage]
    by_cases hfree : ¬ a.isOnAnyRetransmissionList = true ∧ ¬ a.exchanging = true
    · rw [if_pos hfree]
      by_cases hgone : ¬ a.selfOriginated = true ∨ a.unreachable = true
      · rw [if_pos hgone]
        exact .leaves hage hfree hgone
      rw [if_neg hgone]
      have hown : a.selfOriginated = true := Decidable.not_not.mp fun h => hgone (.inl h)
      cases hnew : a.newLSA with
      | some newLSA => exact .renewed newLSA hown (fun h => hgone (.inr h)) hage hfree hnew
      | none => exact .missed hown (fun h => hgone (.inr h)) hage hfree hnew
    · rw [if_neg hfree]
      exact .waits hage (Decidable.or_iff_not_not_and_not.mpr hfree)
  · rw [if_neg hage]
    refine .stuck (fun hown => ?_) (fun hown => ?_) hage
    · have hlarge : ¬ lsa.header.lsAge < LS_REFRESH_TIME - 1 := fun h => hgrows (.inl ⟨hown, h⟩)
      have hother : lsa.header.lsAge ≠ LS_REFRESH_TIME - 1 := fun h => hrefresh ⟨hown, h⟩
      omega
    · have hlarge : ¬ lsa.header.lsAge < MAX_AGE - 1 := fun h => hgrows (.inr ⟨hown, h⟩)
      have hother : lsa.header.lsAge ≠ MAX_AGE - 1 := fun h => hmax ⟨hown, h⟩
      omega

/-- `missing` is the only way in which an LSA may be deleted and not erased. -/
theorem AgesTo.ne_deleted {lsa : DatabaseLSA β} {a : Ageing β} {aged : Aged β} (h : AgesTo lsa a .erased aged) :
    aged ≠ .deleted := by
  rintro rfl
  cases h

/-- All that can become of an LSA. -/
theorem ages_cases (lsa : DatabaseLSA β) (a : Ageing β) (missing : Aged β) :
    (∃ lsa' flooded different, lsa.ages a missing = .stays lsa' flooded different ∧
      (lsa'.header.lsaKey = lsa.header.lsaKey ∨
        lsa.IsRenewed a ∧ ∃ newLSA, a.newLSA = some newLSA ∧ lsa'.header.lsaKey = newLSA.header.lsaKey)) ∨
    lsa.ages a missing = .erased ∨
    lsa.ages a missing = missing ∧ lsa.IsRenewed a ∧ a.newLSA = none := by
  have hto := lsa.ages_to a missing
  generalize lsa.ages a missing = aged at hto
  cases hto with
  | grows => exact .inl ⟨_, _, _, rfl, .inl rfl⟩
  | givesUp => exact .inl ⟨_, _, _, rfl, .inl rfl⟩
  | expires => exact .inl ⟨_, _, _, rfl, .inl rfl⟩
  | refreshed newLSA hown hreach hage hseq hnew =>
    exact .inl ⟨_, _, _, rfl, .inr ⟨⟨hown, hreach, .inl ⟨hage, hseq⟩⟩, newLSA, hnew, rfl⟩⟩
  | stuck => exact .inl ⟨_, _, _, rfl, .inl rfl⟩
  | waits => exact .inl ⟨_, _, _, rfl, .inl rfl⟩
  | leaves => exact .inr (.inl rfl)
  | renewed newLSA hown hreach hage hfree hnew =>
    exact .inl ⟨_, _, _, rfl, .inr ⟨⟨hown, hreach, .inr ⟨hage, hfree⟩⟩, newLSA, hnew, rfl⟩⟩
  | missed hown hreach hage hfree hnew => exact .inr (.inr ⟨rfl, ⟨hown, hreach, .inr ⟨hage, hfree⟩⟩, hnew⟩)

end DatabaseLSA

namespace LSAs

variable {κ β : Type} {key : OSPFLSAHeader → κ} {age : Nat → DatabaseLSA β → Aged β} {lsas : LSAs κ β}

/-- The vector has no NULL and no deleted entry, holds every key at most once, and points to the same LSAs as
the map. -/
structure InOrder (key : OSPFLSAHeader → κ) (lsas : LSAs κ β) : Prop where
  alive : ∀ e ∈ lsas.vector, ∃ p lsa, e = some p ∧ lsas.objects p = some lsa
  once : lsas.vector.Pairwise fun e e' => ∀ p q lsa lsa', e = some p → e' = some q →
    lsas.objects p = some lsa → lsas.objects q = some lsa' → lsa.header.lsaKey ≠ lsa'.header.lsaKey
  indexed : ∀ k p, lsas.index k = some p ↔ some p ∈ lsas.vector ∧ ∃ lsa, lsas.objects p = some lsa ∧ key lsa.header = k
  found : ∀ p lsa, some p ∈ lsas.vector → lsas.objects p = some lsa → lsas.find (key lsa.header) = some lsa

/-- Every LSA is still there, with the link state ID and the router it had. -/
def KeepsKeys (lsas lsas' : LSAs κ β) : Prop :=
  ∀ p lsa, some p ∈ lsas.vector → lsas.objects p = some lsa →
    some p ∈ lsas'.vector ∧ ∃ lsa', lsas'.objects p = some lsa' ∧ lsa'.header.lsaKey = lsa.header.lsaKey

/-- What a run keeps up: the vector has no null slots and goes with the map. -/
structure Kept (key : OSPFLSAHeader → κ) (lsas : LSAs κ β) : Prop where
  sound : lsas.Sound fun lsa => key lsa.header
  full : ∀ e ∈ lsas.vector, e ≠ none

theorem Kept.inOrder (h : Kept key lsas) (hkey : ∀ h h' : OSPFLSAHeader, h.lsaKey = h'.lsaKey → key h = key h') :
    InOrder key lsas := by
  constructor
  · intro e he
    obtain ⟨p, rfl⟩ := ne_none_iff_exists'.mp (h.full e he)
    obtain ⟨lsa, hlsa⟩ := h.sound.alive p he
    exact ⟨p, lsa, rfl, hlsa⟩
  · have hnodup := h.sound.nodup
    rw [List.Nodup, pairwise_filterMap] at hnodup
    refine hnodup.imp_of_mem fun {e e'} he he' hne p q lsa lsa' hp hq hlsa hlsa' heq => ?_
    subst hp hq
    exact hne p rfl q rfl (h.sound.eq_of_key he he' hlsa hlsa' (hkey _ _ heq))
  · exact h.sound.indexed
  · intro p lsa hp hlsa
    exact h.sound.find_of_mem hp hlsa

theorem kept_empty (key : OSPFLSAHeader → κ) : Kept key (.empty : LSAs κ β) :=
  ⟨.empty _, fun e he => by cases he⟩

/-- The LSA that is there under the key comes from the same router. -/
theorem Kept.install [DecidableEq κ] [DecidableEq β] (h : Kept key lsas) {lsa : OSPFLSA β}
    (hown : ∀ old, lsas.find (key lsa.header) = some old → old.header.lsaKey = lsa.header.lsaKey) :
    ∃ lsas' different, lsas.install key lsa = .ok (lsas', different) ∧ Kept key lsas' ∧ KeepsKeys lsas lsas' := by
  unfold LSAs.install
  cases hindex : lsas.index (key lsa.header) with
  | none =>
    refine ⟨_, _, rfl, ⟨?_, ?_⟩, ?_⟩
    · exact h.sound.add (a := { toOSPFLSA := lsa }) hindex
    · intro e he
      cases mem_append.mp he with
      | inl hold => exact h.full e hold
      | inr hnew =>
        rw [mem_singleton.mp hnew]
        exact some_ne_none _
    · intro p old hp hold
      refine ⟨mem_append_left _ hp, old, ?_, rfl⟩
      exact (update_of_ne (Nat.ne_of_lt (h.sound.lt_fresh hp)) _ _).trans hold
  | some p =>
    obtain ⟨hp, old, hold, hkey⟩ := h.sound.of_index hindex
    simp only [hold]
    have hsame : old.header.lsaKey = lsa.header.lsaKey := hown old (by rw [IndexedStore.find, hindex]; exact hold)
    refine ⟨_, _, rfl, ⟨h.sound.write hold hkey.symm, h.full⟩, ?_⟩
    intro q other hq hother
    refine ⟨hq, ?_⟩
    by_cases hqp : q = p
    · subst hqp
      rw [hold] at hother
      cases hother
      exact ⟨_, update_self .., hsame.symm⟩
    · exact ⟨other, (update_of_ne hqp _ _).trans hother, rfl⟩

/-- Every LSA is erased or stays under its key. -/
def AgesInPlace (key : OSPFLSAHeader → κ) (age : Nat → DatabaseLSA β → Aged β) (lsas : LSAs κ β) : Prop :=
  ∀ (i p : Nat) lsa, lsas.vector[i]? = some (some p) → lsas.objects p = some lsa →
    (∃ lsa' flooded different, age i lsa = .stays lsa' flooded different ∧ key lsa'.header = key lsa.header) ∨
      age i lsa = .erased

/-- `i` LSAs have aged; the others are as they were in `lsas`. -/
structure AgedUpTo (key : OSPFLSAHeader → κ) (lsas : LSAs κ β) (i : Nat) (s : LSAs κ β) : Prop where
  sound : s.Sound fun lsa => key lsa.header
  slots : ∀ j, i ≤ j → s.vector[j]? = lsas.vector[j]?
  objects : ∀ j p, i ≤ j → lsas.vector[j]? = some (some p) → s.objects p = lsas.objects p

theorem Kept.ageAt [DecidableEq κ] {lsas s : LSAs κ β} (h : Kept key lsas)
    (hage : AgesInPlace key age lsas) {i : Nat} (hi : i < lsas.vector.length) (hs : AgedUpTo key lsas i s) (rebuild : Bool) :
    ∃ s' rebuild', LSAs.ageAt key age (s, rebuild) i = .ok (s', rebuild') ∧ AgedUpTo key lsas (i + 1) s' := by
  obtain ⟨e, hget⟩ : ∃ e, lsas.vector[i]? = some e := ⟨_, List.getElem?_eq_getElem hi⟩
  obtain ⟨p, rfl⟩ := ne_none_iff_exists'.mp (h.full e (mem_of_getElem? hget))
  obtain ⟨lsa, hlsa⟩ := h.sound.alive p (mem_of_getElem? hget)
  have hslot : s.vector[i]? = some (some p) := (hs.slots i (Nat.le_refl i)).trans hget
  have hobject : s.objects p = some lsa := (hs.objects i p (Nat.le_refl i) hget).trans hlsa
  -- the LSAs behind have other addresses
  have hbehind (j q : Nat) (hj : i + 1 ≤ j) (hq : lsas.vector[j]? = some (some q)) : q ≠ p := by
    rintro rfl
    exact absurd (h.sound.slot_inj hget hq) (Nat.ne_of_lt hj)
  unfold LSAs.ageAt
  simp only [hslot, hobject]
  rcases hage i p lsa hget hlsa with ⟨lsa', flooded, different, hstays, hkey⟩ | herased
  · simp only [hstays]
    refine ⟨_, _, rfl, ⟨hs.sound.write hobject hkey, fun j hj => hs.slots j (Nat.le_of_succ_le hj), fun j q hj hq => ?_⟩⟩
    exact (update_of_ne (hbehind j q hj hq) _ _).trans (hs.objects j q (Nat.le_of_succ_le hj) hq)
  · simp only [herased]
    refine ⟨_, _, rfl, ⟨hs.sound.erase hslot hobject, fun j hj => ?_, fun j q hj hq => ?_⟩⟩
    · exact (List.getElem?_set_ne (Nat.ne_of_lt hj)).trans (hs.slots j (Nat.le_of_succ_le hj))
    · exact (update_of_ne (hbehind j q hj hq) _ _).trans (hs.objects j q (Nat.le_of_succ_le hj) hq)

theorem Kept.foldlM_ageAt [DecidableEq κ] (h : Kept key lsas)
    (hage : AgesInPlace key age lsas) {n : Nat} (hn : n ≤ lsas.vector.length) :
    ∃ s rebuild, (List.range n).foldlM (LSAs.ageAt key age) (lsas, false) = .ok (s, rebuild) ∧ AgedUpTo key lsas n s := by
  induction n with
  | zero => exact ⟨lsas, false, rfl, h.sound, fun _ _ => rfl, fun _ _ _ _ => rfl⟩
  | succ n ih =>
    obtain ⟨s, rebuild, hs, haged⟩ := ih (Nat.le_of_succ_le hn)
    obtain ⟨s', rebuild', hs', haged'⟩ := h.ageAt hage hn haged rebuild
    refine ⟨s', rebuild', ?_, haged'⟩
    rw [range_succ, foldlM_append, hs]
    exact (congrArg (· >>= pure) hs').trans (bind_pure _)

theorem Kept.ageAll [DecidableEq κ] (h : Kept key lsas)
    (hage : AgesInPlace key age lsas) : ∃ lsas' rebuild, lsas.ageAll key age = .ok (lsas', rebuild) ∧ Kept key lsas' := by
  obtain ⟨s, rebuild, hs, haged⟩ := h.foldlM_ageAt hage (Nat.le_refl _)
  refine ⟨s.compact, rebuild, ?_, haged.sound.compact, s.compact_vector_ne_none⟩
  rw [LSAs.ageAll, hs]
  rfl

end LSAs

namespace Surroundings

variable (around : Surroundings)

/-- A network LSA of this router always has a new one to follow it. -/
theorem newLSA_of_selfOriginated {lsa : NetworkLSA} (h : (around.ageingOfNetworkLSA lsa).selfOriginated = true) :
    ∃ newLSA, (around.ageingOfNetworkLSA lsa).newLSA = some newLSA := by
  obtain ⟨intf, hintf⟩ := isSome_iff_exists.mp h
  obtain ⟨hget, hstate⟩ := filter_eq_some_iff.mp hintf
  have hfull := (of_decide_eq_true hstate).2.2
  simp only [ageingOfNetworkLSA, hget, bind_some, originateNetworkLSA, if_pos hfull]
  exact ⟨_, rfl⟩

theorem linkStateID_of_newLSA {lsa : NetworkLSA} {newLSA : OSPFNetworkLSA}
    (h : (around.ageingOfNetworkLSA lsa).newLSA = some newLSA) : newLSA.header.linkStateID = lsa.header.linkStateID := by
  obtain ⟨intf, hget, hnew⟩ := bind_eq_some_iff.mp h
  have haddress : intf.address = lsa.header.linkStateID := by
    have := List.find?_some hget
    exact (of_decide_eq_true this).2
  unfold originateNetworkLSA at hnew
  split at hnew
  · cases hnew
    exact haddress
  · cases hnew

end Surroundings

namespace Area

inductive Call where
  | installRouterLSA (lsa : OSPFRouterLSA)
  | installNetworkLSA (lsa : OSPFNetworkLSA)
  | installSummaryLSA (lsa : OSPFSummaryLSA)
  | ageDatabase (around : Ages)

def step (area : Area) : Call → Sim Area
  | .installRouterLSA lsa => (area.installRouterLSA lsa).map Prod.fst
  | .installNetworkLSA lsa => (area.installNetworkLSA lsa).map Prod.fst
  | .installSummaryLSA lsa => (area.installSummaryLSA lsa).map Prod.fst
  | .ageDatabase around => (area.ageDatabase around).map Prod.fst

structure Consistent (area : Area) : Prop where
  router : LSAs.InOrder (·.linkStateID) area.routerLSAs
  network : LSAs.InOrder (·.linkStateID) area.networkLSAs
  summary : LSAs.InOrder (·.lsaKey) area.summaryLSAs

/-- No installation replaces an LSA of another originator. -/
def KeepsOriginators (area : Area) (call : Call) (area' : Area) : Prop :=
  match call with
  | .ageDatabase _ => True
  | _ =>
    LSAs.KeepsKeys area.routerLSAs area'.routerLSAs ∧ LSAs.KeepsKeys area.networkLSAs area'.networkLSAs ∧
      LSAs.KeepsKeys area.summaryLSAs area'.summaryLSAs

/-- The calls that keep every LSA under the key it was installed with. -/
def Allowed (area : Area) : Call → Prop
  | .installRouterLSA lsa => ∀ old, area.findRouterLSA lsa.header.linkStateID = some old →
      old.header.advertisingRouter = lsa.header.advertisingRouter
  | .installNetworkLSA lsa => ∀ old, area.findNetworkLSA lsa.header.linkStateID = some old →
      old.header.advertisingRouter = lsa.header.advertisingRouter
  | .installSummaryLSA _ => True
  | .ageDatabase around =>
    (∀ (i p : Nat) lsa, area.routerLSAs.vector[i]? = some (some p) → area.routerLSAs.objects p = some lsa →
      lsa.IsRenewed ((around.router i).ageingOfRouterLSA lsa) → lsa.header.linkStateID = (around.router i).routerID) ∧
    (∀ (i p : Nat) lsa, area.summaryLSAs.vector[i]? = some (some p) → area.summaryLSAs.objects p = some lsa →
      lsa.IsRenewed ((around.summary i).ageingOfSummaryLSA lsa) →
      ∀ newLSA, (around.summary i).originateSummaryLSA = some newLSA → newLSA.header.lsaKey = lsa.header.lsaKey)

/-- The invariant of the database. -/
structure Kept (area : Area) : Prop where
  router : LSAs.Kept (·.linkStateID) area.routerLSAs
  network : LSAs.Kept (·.linkStateID) area.networkLSAs
  summary : LSAs.Kept (·.lsaKey) area.summaryLSAs

theorem Kept.consistent {area : Area} (h : Kept area) : Consistent area :=
  ⟨h.router.inOrder fun _ _ hk => congrArg LSAKeyType.linkStateID hk,
    h.network.inOrder fun _ _ hk => congrArg LSAKeyType.linkStateID hk, h.summary.inOrder fun _ _ hk => hk⟩

/-- An LSA that is replaced keeps its key. -/
theorem erased_agesInPlace {κ β : Type} [DecidableEq β] {key : OSPFLSAHeader → κ} {lsas : LSAs κ β}
    {ageing : Nat → DatabaseLSA β → Ageing β} (hlsaKey : ∀ {x y : OSPFLSAHeader}, x.lsaKey = y.lsaKey → key x = key y)
    (ha : ∀ (i p : Nat) lsa, lsas.vector[i]? = some (some p) → lsas.objects p = some lsa →
      lsa.IsRenewed (ageing i lsa) → ∀ newLSA, (ageing i lsa).newLSA = some newLSA →
      key newLSA.header = key lsa.header) :
    LSAs.AgesInPlace key (fun i lsa => lsa.ages (ageing i lsa) .erased) lsas := by
  intro i p lsa hi hlsa
  rcases lsa.ages_cases (ageing i lsa) .erased with
    ⟨lsa', flooded, different, hstays, hkey⟩ | herased | ⟨herased, -, -⟩
  · refine .inl ⟨lsa', flooded, different, hstays, ?_⟩
    rcases hkey with hkey | ⟨hrenewed, newLSA, hnew, hkey⟩
    · exact hlsaKey hkey
    · exact (hlsaKey hkey).trans (ha i p lsa hi hlsa hrenewed newLSA hnew)
  · exact .inr herased
  · exact .inr herased

/-- The branch that deletes a network LSA and nothing else is never taken. -/
theorem network_agesInPlace (lsas : LSAs LinkStateID NetworkContents) (around : Nat → Surroundings) :
    LSAs.AgesInPlace (·.linkStateID) (fun i => (around i).ageNetworkLSA) lsas := by
  intro i p lsa hi hlsa
  rcases lsa.ages_cases ((around i).ageingOfNetworkLSA lsa) .deleted with
    ⟨lsa', flooded, different, hstays, hkey⟩ | herased | ⟨-, hrenewed, hnone⟩
  · refine .inl ⟨lsa', flooded, different, hstays, ?_⟩
    rcases hkey with hkey | ⟨-, newLSA, hnew, hkey⟩
    · exact congrArg LSAKeyType.linkStateID hkey
    · exact (congrArg LSAKeyType.linkStateID hkey).trans ((around i).linkStateID_of_newLSA hnew)
  · exact .inr herased
  · obtain ⟨newLSA, hnew⟩ := (around i).newLSA_of_selfOriginated hrenewed.1
    rw [hnone] at hnew
    cases hnew

theorem Kept.step_ok {area : Area} (h : Kept area) {call : Call} (ha : area.Allowed call) :
    ∃ area', area.step call = .ok area' ∧ Kept area' ∧ KeepsOriginators area call area' := by
  have hrefl {κ β : Type} (lsas : LSAs κ β) : LSAs.KeepsKeys lsas lsas := fun p lsa hp hlsa => ⟨hp, lsa, hlsa, rfl⟩
  cases call with
  | installRouterLSA lsa =>
    obtain ⟨lsas', different, hi, hk, hkeys⟩ := h.router.install fun old hold => by
      have hid : old.header.linkStateID = lsa.header.linkStateID := h.router.sound.key_of_find hold
      have hrouter := ha old hold
      rw [lsaKey, lsaKey, hid, hrouter]
    refine ⟨{ area with routerLSAs := lsas' }, ?_, ⟨hk, h.network, h.summary⟩, hkeys, hrefl _, hrefl _⟩
    simp only [step, installRouterLSA, hi]
    rfl
  | installNetworkLSA lsa =>
    obtain ⟨lsas', different, hi, hk, hkeys⟩ := h.network.install fun old hold => by
      have hid : old.header.linkStateID = lsa.header.linkStateID := h.network.sound.key_of_find hold
      have hrouter := ha old hold
      rw [lsaKey, lsaKey, hid, hrouter]
    refine ⟨{ area with networkLSAs := lsas' }, ?_, ⟨h.router, hk, h.summary⟩, hrefl _, hkeys, hrefl _⟩
    simp only [step, installNetworkLSA, hi]
    rfl
  | installSummaryLSA lsa =>
    obtain ⟨lsas', different, hi, hk, hkeys⟩ := h.summary.install
      fun old (hold : area.summaryLSAs.find lsa.header.lsaKey = some old) => h.summary.sound.key_of_find hold
    refine ⟨{ area with summaryLSAs := lsas' }, ?_, ⟨h.router, h.network, hk⟩, hrefl _, hrefl _, hkeys⟩
    simp only [step, installSummaryLSA, hi]
    rfl
  | ageDatabase around =>
    have hrouters : LSAs.AgesInPlace (·.linkStateID) (fun i => (around.router i).ageRouterLSA) area.routerLSAs := by
      refine erased_agesInPlace (congrArg LSAKeyType.linkStateID) ?_
      intro i p lsa hi hlsa hrenewed newLSA hnew
      cases hnew
      exact (ha.1 i p lsa hi hlsa hrenewed).symm
    obtain ⟨routers, rebuild₁, hr, hkr⟩ := h.router.ageAll hrouters
    obtain ⟨networks, rebuild₂, hn, hkn⟩ := h.network.ageAll (network_agesInPlace area.networkLSAs around.network)
    have hsummaries : LSAs.AgesInPlace (·.lsaKey) (fun i => (around.summary i).ageSummaryLSA) area.summaryLSAs :=
      erased_agesInPlace id ha.2
    obtain ⟨summaries, rebuild₃, hs, hks⟩ := h.summary.ageAll hsummaries
    refine ⟨⟨routers, networks, summaries⟩, ?_, ⟨hkr, hkn, hks⟩, trivial⟩
    simp only [step, ageDatabase, hr, hn, hs]
    rfl

theorem database_stays_consistent {calls : List Call} (h : Runs.EveryStep step Allowed {} calls) :
    Runs.EveryState step Consistent {} calls ∧ Runs.EveryTransition step KeepsOriginators {} calls ∧
      ∃ area, Runs.run step {} calls = .ok area := by
  have hempty : Kept {} := ⟨LSAs.kept_empty _, LSAs.kept_empty _, LSAs.kept_empty _⟩
  have hstep (area : Area) (call : Call) (area' : Area) (hk : Kept area) (ha : area.Allowed call)
      (hs : area.step call = .ok area') : Kept area' ∧ KeepsOriginators area call area' := by
    obtain ⟨area₁, hs₁, hk₁, hkeeps⟩ := hk.step_ok ha
    rw [hs] at hs₁
    cases hs₁
    exact ⟨hk₁, hkeeps⟩
  refine ⟨?_, h.everyTransition hstep hempty, ?_⟩
  · have hkept := h.everyState (fun area call area' hk ha hs => (hstep area call area' hk ha hs).1) hempty
    exact fun calls₁ area hpre hrun => (hkept calls₁ area hpre hrun).consistent
  · refine h.run_ok (fun area call hk ha => ?_) hempty
    obtain ⟨area', hs, hk', -⟩ := hk.step_ok ha
    exact ⟨area', hs, hk'⟩

def routerLSAOf (linkStateID advertisingRouter : RouterID) (lsAge : Nat) : OSPFRouterLSA where
  header := { linkStateID, advertisingRouter, lsAge }
  contents := {}

def networkLSAOf (linkStateID advertisingRouter : RouterID) : OSPFNetworkLSA where
  header := { lsType := .NETWORKLSA_TYPE, linkStateID, advertisingRouter }
  contents := {}

def aloneAs (routerID : RouterID) : Surroundings where
  routerID
  externalRoutingCapability := false
  associatedInterfaces := []
  unreachable := false
  isOnAnyRetransmissionList := false
  routerContents := {}
  originateSummaryLSA := none

/-- Router 1 refreshes its own LSA. -/
def refresh : List Call :=
  [.installRouterLSA (routerLSAOf 1 1 1799), .ageDatabase ⟨fun _ => aloneAs 1, fun _ => aloneAs 1, fun _ => aloneAs 1⟩]

theorem refresh_stays_consistent :
    Runs.EveryState step Consistent {} refresh ∧ Runs.EveryTransition step KeepsOriginators {} refresh ∧
      ∃ area, Runs.run step {} refresh = .ok area :=
  database_stays_consistent (by
    refine Runs.everyStep_cons.mpr ⟨fun old hold => (nomatch hold), fun area harea => ?_⟩
    cases harea
    refine Runs.everyStep_cons.mpr ⟨⟨fun i p lsa hi hlsa _ => ?_, fun i p lsa hi => ?_⟩, fun _ _ => Runs.everyStep_nil⟩
    · cases p with
      | zero =>
        cases hlsa
        rfl
      | succ p => cases hlsa
    · cases hi)

/-- A network LSA takes the place of the one of another router. -/
theorem originator_replaced :
    ¬ Runs.EveryTransition step KeepsOriginators {} [.installNetworkLSA (networkLSAOf 10 1),
      .installNetworkLSA (networkLSAOf 10 2)] := by
  intro h
  have hkeeps := h [.installNetworkLSA (networkLSAOf 10 1)] _ _ (prefix_refl _) rfl _ rfl
  obtain ⟨-, lsa, hlsa, hkey⟩ := hkeeps.2.1 0 _ (mem_singleton_self _) rfl
  cases hlsa
  exact absurd hkey (by decide)

end Area

end Inet.Ospf
