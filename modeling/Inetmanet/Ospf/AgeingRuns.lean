import Inetmanet.Lib.Succeeds
import Inetmanet.Ospf.LSDatabase
import Inetmanet.Ospf.OSPFRouter

/-!
# The database grows old

A run of calls of `ageDatabase` with no LSA installed in between: how the ages grow,
when an LSA is refreshed, and when it leaves.
-/
namespace Inet.Ospf

open List Function Option Nat

namespace LSAs

variable {κ β : Type} {lsas : LSAs κ β}

/-- Slot `i` of the vector points to address `p`, where `lsa` is. -/
def HoldsAt (lsas : LSAs κ β) (i p : Nat) (lsa : DatabaseLSA β) : Prop :=
  lsas.vector[i]? = some (some p) ∧ lsas.objects p = some lsa

def Holds (lsas : LSAs κ β) (p : Nat) (lsa : DatabaseLSA β) : Prop := some p ∈ lsas.vector ∧ lsas.objects p = some lsa

/-- The vector has no NULL and no deleted entry, and no LSA twice. -/
structure Listed (lsas : LSAs κ β) : Prop where
  alive : ∀ e ∈ lsas.vector, ∃ p lsa, e = some p ∧ lsas.objects p = some lsa
  nodup : (lsas.vector.filterMap id).Nodup

theorem Kept.listed {key : OSPFLSAHeader → κ} (h : Kept key lsas) : Listed lsas := by
  refine ⟨fun e he => ?_, h.sound.nodup⟩
  obtain ⟨p, rfl⟩ := ne_none_iff_exists'.mp (h.full e he)
  obtain ⟨lsa, hlsa⟩ := h.sound.alive p he
  exact ⟨p, lsa, rfl, hlsa⟩

variable {i p n : Nat} {lsa : DatabaseLSA β} {lsa lsa' : DatabaseLSA β}

theorem HoldsAt.holds (h : lsas.HoldsAt i p lsa) :
    lsas.Holds p lsa := ⟨mem_of_getElem? h.1, h.2⟩

theorem Holds.holdsAt (h : lsas.Holds p lsa) :
    ∃ i, lsas.HoldsAt i p lsa := by
  obtain ⟨i, hi⟩ := mem_iff_getElem?.mp h.1
  exact ⟨i, hi, h.2⟩

theorem Holds.unique (h : lsas.Holds p lsa)
    (h' : lsas.Holds p lsa') : lsa = lsa' := some.inj (h.2.symm.trans h'.2)

namespace Listed

variable {lsas : LSAs κ β} (h : Listed lsas)
include h

theorem holdsAt (hi : i < lsas.vector.length) : ∃ p lsa, lsas.HoldsAt i p lsa := by
  obtain ⟨e, hget⟩ : ∃ e, lsas.vector[i]? = some e := ⟨_, List.getElem?_eq_getElem hi⟩
  obtain ⟨p, lsa, rfl, hlsa⟩ := h.alive e (mem_of_getElem? hget)
  exact ⟨p, lsa, hget, hlsa⟩

theorem holds (hp : some p ∈ lsas.vector) : ∃ lsa, lsas.Holds p lsa := by
  obtain ⟨q, lsa, heq, hlsa⟩ := h.alive _ hp
  cases heq
  exact ⟨lsa, hp, hlsa⟩

theorem slot_inj {j : Nat} (hi : lsas.vector[i]? = some (some p)) (hj : lsas.vector[j]? = some (some p)) : i = j :=
  IndexedStore.slot_inj_of_nodup h.nodup hi hj

end Listed

/-- What has become of every LSA. -/
structure Passed (age : Nat → DatabaseLSA β → Aged β) (lsas lsas' : LSAs κ β) : Prop where
  old : ∀ p, some p ∈ lsas'.vector → some p ∈ lsas.vector
  stays : ∀ i p lsa lsa' flooded different, lsas.HoldsAt i p lsa → age i lsa = .stays lsa' flooded different →
    lsas'.Holds p lsa'
  erased : ∀ i p lsa, lsas.HoldsAt i p lsa → age i lsa = .erased → some p ∉ lsas'.vector

/-- `i` LSAs have aged. -/
structure PassedUpTo (age : Nat → DatabaseLSA β → Aged β) (lsas : LSAs κ β) (i : Nat) (s : LSAs κ β) : Prop where
  behind : ∀ j : Nat, i ≤ j → s.vector[j]? = lsas.vector[j]?
  objects : ∀ (j p : Nat), i ≤ j → lsas.vector[j]? = some (some p) → s.objects p = lsas.objects p
  old : ∀ (j p : Nat), s.vector[j]? = some (some p) → lsas.vector[j]? = some (some p)
  sublist : (s.vector.filterMap id).Sublist (lsas.vector.filterMap id)
  stays : ∀ (j p : Nat) lsa lsa' flooded different, j < i → lsas.HoldsAt j p lsa →
    age j lsa = .stays lsa' flooded different → s.HoldsAt j p lsa'
  erased : ∀ (j p : Nat) lsa, j < i → lsas.HoldsAt j p lsa → age j lsa = .erased → s.vector[j]? = some none

section

variable [DecidableEq κ] {age : Nat → DatabaseLSA β → Aged β} {lsas s : LSAs κ β}

/-- The branch that deletes an LSA and leaves its slot is not taken. -/
def NoneDeleted (age : Nat → DatabaseLSA β → Aged β) : Prop := ∀ i lsa, age i lsa ≠ .deleted

section

variable (key : OSPFLSAHeader → κ)
include key

theorem Listed.ageAt (h : Listed lsas) (hage : NoneDeleted age)
    (hi : i < lsas.vector.length) (hs : PassedUpTo age lsas i s) (rebuild : Bool) :
    ∃ s' rebuild', LSAs.ageAt key age (s, rebuild) i = .ok (s', rebuild') ∧ PassedUpTo age lsas (i + 1) s' := by
  obtain ⟨p, lsa, hget, hlsa⟩ := h.holdsAt hi
  have hslot : s.vector[i]? = some (some p) := (hs.behind i (Nat.le_refl i)).trans hget
  have hobject : s.objects p = some lsa := (hs.objects i p (Nat.le_refl i) hget).trans hlsa
  -- the other LSAs have other addresses
  have hother (j q : Nat) (hj : j ≠ i) (hq : lsas.vector[j]? = some (some q)) : q ≠ p := by
    rintro rfl
    exact hj (h.slot_inj hq hget)
  have hhere {q : Nat} {lsa₁ : DatabaseLSA β} (hq : lsas.HoldsAt i q lsa₁) : q = p ∧ lsa₁ = lsa := by
    obtain rfl : q = p := by simpa using hq.1.symm.trans hget
    exact ⟨rfl, some.inj (hq.2.symm.trans hlsa)⟩
  unfold LSAs.ageAt
  simp only [hslot, hobject]
  cases haged : age i lsa with
  | stays lsa' flooded different =>
    refine ⟨_, _, rfl, ?_⟩
    constructor
    · exact fun j hj => hs.behind j (le_of_succ_le hj)
    · intro j q hj hq
      rw [← hs.objects j q (le_of_succ_le hj) hq]
      exact update_of_ne (hother j q (Nat.ne_of_gt hj) hq) _ _
    · exact hs.old
    · exact hs.sublist
    · intro j q lsa₁ lsa₁' flooded₁ different₁ hj hq haged₁
      by_cases hji : j = i
      · subst hji
        obtain ⟨rfl, rfl⟩ := hhere hq
        cases haged.symm.trans haged₁
        exact ⟨hslot, update_self ..⟩
      · obtain ⟨hqs, hqo⟩ := hs.stays j q lsa₁ lsa₁' flooded₁ different₁ (by omega) hq haged₁
        exact ⟨hqs, (update_of_ne (hother j q hji hq.1) _ _).trans hqo⟩
    · intro j q lsa₁ hj hq haged₁
      by_cases hji : j = i
      · subst hji
        obtain ⟨rfl, rfl⟩ := hhere hq
        cases haged.symm.trans haged₁
      · exact hs.erased j q lsa₁ (by omega) hq haged₁
  | erased =>
    refine ⟨_, _, rfl, ?_⟩
    have hvector : (s.erase i p (key lsa.header)).vector = s.vector.set i none := rfl
    constructor
    · intro j hj
      rw [hvector, List.getElem?_set_ne (Nat.ne_of_lt hj)]
      exact hs.behind j (le_of_succ_le hj)
    · intro j q hj hq
      rw [← hs.objects j q (le_of_succ_le hj) hq]
      exact update_of_ne (hother j q (Nat.ne_of_gt hj) hq) _ _
    · intro j q hq
      rw [hvector] at hq
      by_cases hji : j = i
      · subst hji
        rw [List.getElem?_set_self' , hslot] at hq
        cases hq
      · rw [List.getElem?_set_ne (Ne.symm hji)] at hq
        exact hs.old j q hq
    · exact (IndexedStore.filterMap_set_none_sublist _ _).trans hs.sublist
    · intro j q lsa₁ lsa₁' flooded₁ different₁ hj hq haged₁
      by_cases hji : j = i
      · subst hji
        obtain ⟨rfl, rfl⟩ := hhere hq
        cases haged.symm.trans haged₁
      · obtain ⟨hqs, hqo⟩ := hs.stays j q lsa₁ lsa₁' flooded₁ different₁ (by omega) hq haged₁
        refine ⟨?_, (update_of_ne (hother j q hji hq.1) _ _).trans hqo⟩
        rw [hvector, List.getElem?_set_ne (Ne.symm hji)]
        exact hqs
    · intro j q lsa₁ hj hq haged₁
      rw [hvector]
      by_cases hji : j = i
      · subst hji
        rw [List.getElem?_set_self', hslot]
        rfl
      · rw [List.getElem?_set_ne (Ne.symm hji)]
        exact hs.erased j q lsa₁ (by omega) hq haged₁
  | deleted => exact absurd haged (hage i lsa)

theorem Listed.foldlM_ageAt (h : Listed lsas) (hage : NoneDeleted age)
    (hn : n ≤ lsas.vector.length) :
    ∃ s rebuild, (List.range n).foldlM (LSAs.ageAt key age) (lsas, false) = .ok (s, rebuild) ∧
      PassedUpTo age lsas n s := by
  induction n with
  | zero =>
    refine ⟨lsas, false, rfl, fun _ _ => rfl, fun _ _ _ _ => rfl, fun _ _ hp => hp, .refl _, ?_, ?_⟩
    · exact fun j p lsa lsa' flooded different hj => absurd hj (Nat.not_lt_zero j)
    · exact fun j p lsa hj => absurd hj (Nat.not_lt_zero j)
  | succ n ih =>
    obtain ⟨s, rebuild, hs, haged⟩ := ih (le_of_succ_le hn)
    obtain ⟨s', rebuild', hs', haged'⟩ := h.ageAt key hage hn haged rebuild
    refine ⟨s', rebuild', ?_, haged'⟩
    rw [range_succ, foldlM_append, hs]
    exact (congrArg (· >>= pure) hs').trans (bind_pure _)

theorem Listed.ageAll (h : Listed lsas) (hage : NoneDeleted age) :
    ∃ lsas' rebuild, lsas.ageAll key age = .ok (lsas', rebuild) ∧ Listed lsas' ∧ Passed age lsas lsas' := by
  obtain ⟨s, rebuild, hs, hpassed⟩ := h.foldlM_ageAt key hage (Nat.le_refl _)
  have hmem (p : Nat) : some p ∈ s.compact.vector ↔ some p ∈ s.vector := by
    simp [IndexedStore.compact]
  have hlt {j : Nat} {e : Option Nat} (hj : lsas.vector[j]? = some e) : j < lsas.vector.length :=
    (List.getElem?_eq_some_iff.mp hj).1
  refine ⟨s.compact, rebuild, ?_, ⟨fun e he => ?_, ?_⟩, fun p hp => ?_, ?_, ?_⟩
  · rw [LSAs.ageAll, hs]
    rfl
  · obtain ⟨p, rfl⟩ := ne_none_iff_exists'.mp (s.compact_vector_ne_none e he)
    obtain ⟨j, hj⟩ := mem_iff_getElem?.mp ((hmem p).mp he)
    have hold := hpassed.old j p hj
    obtain ⟨q, lsa, hq⟩ := h.holdsAt (hlt hold)
    have hqp : q = p := by simpa using hq.1.symm.trans hold
    subst hqp
    cases haged : age j lsa with
    | stays lsa' flooded different => exact ⟨q, lsa', rfl, (hpassed.stays j q lsa lsa' _ _ (hlt hold) hq haged).2⟩
    | erased =>
      have hnone := hpassed.erased j q lsa (hlt hold) hq haged
      rw [hj] at hnone
      cases hnone
    | deleted => exact absurd haged (hage j lsa)
  · have hfilter : s.compact.vector.filterMap id = s.vector.filterMap id := by
      simp only [IndexedStore.compact, filterMap_filter]
      refine filterMap_congr fun e _ => ?_
      cases e <;> rfl
    rw [hfilter]
    exact hpassed.sublist.nodup h.nodup
  · obtain ⟨j, hj⟩ := mem_iff_getElem?.mp ((hmem p).mp hp)
    exact mem_of_getElem? (hpassed.old j p hj)
  · intro i p lsa lsa' flooded different hp haged
    obtain ⟨hslot, hobject⟩ := hpassed.stays i p lsa lsa' flooded different (hlt hp.1) hp haged
    exact ⟨(hmem p).mpr (mem_of_getElem? hslot), hobject⟩
  · intro i p lsa hp haged hin
    obtain ⟨j, hj⟩ := mem_iff_getElem?.mp ((hmem p).mp hin)
    cases h.slot_inj hp.1 (hpassed.old j p hj)
    have hnone := hpassed.erased i p lsa (hlt hp.1) hp haged
    rw [hj] at hnone
    cases hnone

end

end

section

variable (history : Nat → LSAs κ β) (ageing : Nat → Nat → DatabaseLSA β → Ageing β)
  (age : Nat → Nat → DatabaseLSA β → Aged β)

def AtMaxAge (n p : Nat) : Prop := ∃ lsa, (history n).Holds p lsa ∧ lsa.header.lsAge = MAX_AGE

/-- Call `n` floods the LSA at address `p`, which is `lsa'` then. -/
def Floods (n p : Nat) (lsa' : DatabaseLSA β) : Prop :=
  ∃ i lsa different, (history n).HoldsAt i p lsa ∧ age n i lsa = .stays lsa' true different ∧
    (history (n + 1)).Holds p lsa'

/-- The same LSA with another sequence number. -/
def numbered (lsa : OSPFLSA β) (lsSequenceNumber : Int) : OSPFLSA β :=
  { lsa with header := { lsa.header with lsSequenceNumber } }

/-- Call `n` puts an LSA with the next sequence number in the place of the one at address `p`. -/
def Refreshes (n p : Nat) : Prop :=
  ∃ i lsa newLSA lsa', (history n).HoldsAt i p lsa ∧ (ageing n i lsa).newLSA = some newLSA ∧
    Floods history age n p lsa' ∧ lsa'.toOSPFLSA = numbered newLSA (lsa.header.lsSequenceNumber + 1)

/-- The LSA at address `p` has been of age `MAX_AGE` since it was flooded with this age, or from the beginning. -/
def Flushed (n p : Nat) : Prop :=
  ∃ m ≤ n, (∀ k, m ≤ k → k ≤ n → AtMaxAge history k p) ∧
    (m = 0 ∨ ∃ m' lsa', m = m' + 1 ∧ Floods history age m' p lsa' ∧ lsa'.header.lsAge = MAX_AGE)

/-- One of this router's own LSAs, between the age at which it is refreshed and `MAX_AGE`. -/
def PastRefresh (n p : Nat) : Prop :=
  ∃ i lsa, (history n).HoldsAt i p lsa ∧ (ageing n i lsa).selfOriginated ∧ LS_REFRESH_TIME ≤ lsa.header.lsAge ∧
    lsa.header.lsAge < MAX_AGE

/-- How the LSAs age. -/
structure AgesInTime : Prop where
  grows : ∀ n i p lsa, (history n).HoldsAt i p lsa → lsa.header.lsAge < MAX_AGE →
    ((ageing n i lsa).selfOriginated → lsa.header.lsAge < LS_REFRESH_TIME - 1) →
      ∃ lsa', (history (n + 1)).Holds p lsa' ∧ lsa'.toOSPFLSA = (lsa.setLsAge (lsa.header.lsAge + 1)).toOSPFLSA
  reaches : ∀ n p lsa, (history n).Holds p lsa → lsa.header.lsAge ≤ MAX_AGE →
    (∀ k, ¬ PastRefresh history ageing (n + k) p) →
    (∃ k ≤ MAX_AGE - lsa.header.lsAge, AtMaxAge history (n + k) p) ∨
      ∃ k < MAX_AGE - lsa.header.lsAge, Refreshes history ageing age (n + k) p
  refreshes : ∀ n i p lsa newLSA, (history n).HoldsAt i p lsa → (ageing n i lsa).selfOriginated →
    ¬ (ageing n i lsa).unreachable → lsa.header.lsAge + 1 = LS_REFRESH_TIME →
    lsa.header.lsSequenceNumber ≠ MAX_SEQUENCE_NUMBER → (ageing n i lsa).newLSA = some newLSA →
      ∃ lsa', Floods history age n p lsa' ∧
        lsa'.toOSPFLSA = numbered newLSA (lsa.header.lsSequenceNumber + 1)
  givesUp : ∀ n i p lsa, (history n).HoldsAt i p lsa → (ageing n i lsa).selfOriginated →
    lsa.header.lsAge + 1 = LS_REFRESH_TIME →
    ((ageing n i lsa).unreachable ∨ lsa.header.lsSequenceNumber = MAX_SEQUENCE_NUMBER ∨ (ageing n i lsa).newLSA = none) →
      ∃ lsa', Floods history age n p lsa' ∧ lsa'.toOSPFLSA = (lsa.setLsAge MAX_AGE).toOSPFLSA
  leaves : ∀ n i p lsa, (history n).HoldsAt i p lsa → some p ∉ (history (n + 1)).vector →
    lsa.header.lsAge = MAX_AGE ∧ Flushed history age n p ∧ ¬ (ageing n i lsa).isOnAnyRetransmissionList ∧
      ¬ (ageing n i lsa).exchanging
  reuses : ∀ n i p lsa lsa', (history n).HoldsAt i p lsa → (history (n + 1)).Holds p lsa' →
    lsa'.header.lsSequenceNumber = INITIAL_SEQUENCE_NUMBER →
      lsa.header.lsSequenceNumber = INITIAL_SEQUENCE_NUMBER ∨ lsa.header.lsSequenceNumber + 1 = INITIAL_SEQUENCE_NUMBER ∨
        lsa.header.lsSequenceNumber = MAX_SEQUENCE_NUMBER ∧ lsa.header.lsAge = MAX_AGE ∧ Flushed history age n p ∧
          ¬ (ageing n i lsa).isOnAnyRetransmissionList ∧ ¬ (ageing n i lsa).exchanging

end

section

variable [DecidableEq β] {history : Nat → LSAs κ β} {ageing : Nat → Nat → DatabaseLSA β → Ageing β}
  {age : Nat → Nat → DatabaseLSA β → Aged β}

/-- The history of a store whose LSAs age as `ageing` says. -/
structure GrowsOld (history : Nat → LSAs κ β) (ageing : Nat → Nat → DatabaseLSA β → Ageing β)
    (age : Nat → Nat → DatabaseLSA β → Aged β) : Prop where
  listed : ∀ n, (history n).Listed
  passed : ∀ n, Passed (age n) (history n) (history (n + 1))
  agesTo : ∀ n i (lsa : DatabaseLSA β), lsa.AgesTo (ageing n i lsa) .erased (age n i lsa)

namespace GrowsOld

variable (h : GrowsOld history ageing age)
include h

section

variable (hp : (history n).HoldsAt i p lsa)
include hp

theorem stays {flooded different : Bool}
    (haged : age n i lsa = .stays lsa' flooded different) : (history (n + 1)).Holds p lsa' :=
  (h.passed n).stays i p lsa lsa' flooded different hp haged

theorem floods {different : Bool}
    (haged : age n i lsa = .stays lsa' true different) : Floods history age n p lsa' :=
  ⟨i, lsa, different, hp, haged, h.stays hp haged⟩

theorem grows (hlt : lsa.header.lsAge < MAX_AGE)
    (hown : (ageing n i lsa).selfOriginated → lsa.header.lsAge < LS_REFRESH_TIME - 1) :
    ∃ lsa', (history (n + 1)).Holds p lsa' ∧ lsa'.toOSPFLSA = (lsa.setLsAge (lsa.header.lsAge + 1)).toOSPFLSA := by
  have hto := h.agesTo n i lsa
  generalize haged : age n i lsa = aged at hto
  cases hto with
  | grows => exact ⟨_, h.stays hp haged, rfl⟩
  | givesUp hself hage => exact absurd (hown hself) (by omega)
  | expires hother hage =>
    refine ⟨_, h.stays hp haged, ?_⟩
    rw [hage]
    rfl
  | refreshed newLSA hself hreach hage => exact absurd (hown hself) (by omega)
  | stuck hself hother =>
    by_cases hs : (ageing n i lsa).selfOriginated = true
    · exact absurd (hown hs) (by have := hself hs; omega)
    · exact absurd (hother hs) (by omega)
  | waits hage => exact absurd hage (Nat.ne_of_lt hlt)
  | leaves hage => exact absurd hage (Nat.ne_of_lt hlt)
  | renewed newLSA hself hreach hage => exact absurd hage (Nat.ne_of_lt hlt)
  | missed hself hreach hage => exact absurd hage (Nat.ne_of_lt hlt)

/-- What call `n` does at the age before the refresh. -/
theorem refreshes_or
    (hself : (ageing n i lsa).selfOriginated) (hage : lsa.header.lsAge + 1 = LS_REFRESH_TIME) :
    (∃ newLSA lsa', (ageing n i lsa).newLSA = some newLSA ∧ ¬ (ageing n i lsa).unreachable ∧
      lsa.header.lsSequenceNumber ≠ MAX_SEQUENCE_NUMBER ∧ Floods history age n p lsa' ∧
      lsa'.toOSPFLSA = numbered newLSA (lsa.header.lsSequenceNumber + 1)) ∨
    ((ageing n i lsa).unreachable ∨ lsa.header.lsSequenceNumber = MAX_SEQUENCE_NUMBER ∨ (ageing n i lsa).newLSA = none) ∧
      ∃ lsa', Floods history age n p lsa' ∧ lsa'.toOSPFLSA = (lsa.setLsAge MAX_AGE).toOSPFLSA := by
  have hlt : lsa.header.lsAge < MAX_AGE := by
    simp only [LS_REFRESH_TIME, MAX_AGE] at *
    omega
  have hto := h.agesTo n i lsa
  generalize haged : age n i lsa = aged at hto
  cases hto with
  | grows hown => exact absurd (hown hself) (by omega)
  | givesUp hown hage hnew => exact .inr ⟨hnew, _, h.floods hp haged, rfl⟩
  | expires hother => exact absurd hself hother
  | refreshed newLSA hown hreach hage hseq hnew => exact .inl ⟨newLSA, _, hnew, hreach, hseq, h.floods hp haged, rfl⟩
  | stuck hown => exact absurd (hown hself) (by omega)
  | waits hmax => exact absurd hmax (Nat.ne_of_lt hlt)
  | leaves hmax => exact absurd hmax (Nat.ne_of_lt hlt)
  | renewed newLSA hown hreach hmax => exact absurd hmax (Nat.ne_of_lt hlt)
  | missed hown hreach hmax => exact absurd hmax (Nat.ne_of_lt hlt)

end

/-- What is of age `MAX_AGE` came to it with a flood, or was so before. -/
theorem floods_or (hmax : AtMaxAge history (n + 1) p) :
    AtMaxAge history n p ∨ ∃ lsa', Floods history age n p lsa' ∧ lsa'.header.lsAge = MAX_AGE := by
  obtain ⟨lsa', hp', hage'⟩ := hmax
  obtain ⟨lsa, hpn⟩ := (h.listed n).holds ((h.passed n).old p hp'.1)
  obtain ⟨i, hp⟩ := hpn.holdsAt
  have hsame {lsa₁ : DatabaseLSA β} {flooded different : Bool} (haged : age n i lsa = .stays lsa₁ flooded different) :
      lsa₁ = lsa' := (h.stays hp haged).unique hp'
  have hto := h.agesTo n i lsa
  generalize haged : age n i lsa = aged at hto
  cases hto with
  | grows hown hage =>
    have hsucc : lsa.header.lsAge + 1 = MAX_AGE := by
      rw [← hage', ← hsame haged]
      rfl
    omega
  | givesUp => exact .inr ⟨_, h.floods hp haged, rfl⟩
  | expires => exact .inr ⟨_, h.floods hp haged, rfl⟩
  | refreshed newLSA => exact .inr ⟨_, h.floods hp haged, by rw [hsame haged, hage']⟩
  | stuck => exact .inl ⟨lsa, hpn, by rw [hsame haged, hage']⟩
  | waits hage => exact .inl ⟨lsa, hpn, hage⟩
  | leaves hage => exact .inl ⟨lsa, hpn, hage⟩
  | renewed newLSA hown hreach hage => exact .inl ⟨lsa, hpn, hage⟩
  | missed hown hreach hage => exact .inl ⟨lsa, hpn, hage⟩

theorem flushed (hmax : AtMaxAge history n p) : Flushed history age n p := by
  induction n with
  | zero =>
    refine ⟨0, Nat.le_refl 0, fun k _ hk => ?_, .inl rfl⟩
    rw [le_zero.mp hk]
    exact hmax
  | succ n ih =>
    rcases h.floods_or hmax with hold | ⟨lsa', hfloods, hage⟩
    · obtain ⟨m, hm, hsince, hfrom⟩ := ih hold
      refine ⟨m, le_succ_of_le hm, fun k hmk hk => ?_, hfrom⟩
      rcases le_succ_iff.mp hk with hk | rfl
      · exact hsince k hmk hk
      · exact hmax
    · refine ⟨n + 1, Nat.le_refl _, fun k hmk hk => ?_, .inr ⟨n, lsa', rfl, hfloods, hage⟩⟩
      rw [Nat.le_antisymm hk hmk]
      exact hmax

/-- The induction is on the seconds that are left. -/
theorem reaches (hp : (history n).Holds p lsa) (hle : lsa.header.lsAge ≤ MAX_AGE)
    (hpast : ∀ k, ¬ PastRefresh history ageing (n + k) p) :
    (∃ k ≤ MAX_AGE - lsa.header.lsAge, AtMaxAge history (n + k) p) ∨
      ∃ k < MAX_AGE - lsa.header.lsAge, Refreshes history ageing age (n + k) p := by
  induction hleft : MAX_AGE - lsa.header.lsAge generalizing n lsa with
  | zero => exact .inl ⟨0, Nat.le_refl 0, lsa, hp, by omega⟩
  | succ left ih =>
    have hlt : lsa.header.lsAge < MAX_AGE := by omega
    obtain ⟨i, hpi⟩ := hp.holdsAt
    by_cases hyoung : (ageing n i lsa).selfOriginated → lsa.header.lsAge < LS_REFRESH_TIME - 1
    · obtain ⟨lsa', hp', hsame⟩ := h.grows hpi hlt hyoung
      have hage' : lsa'.header.lsAge = lsa.header.lsAge + 1 := by
        rw [hsame]
        rfl
      have hshift (k : Nat) : n + 1 + k = n + (k + 1) := by omega
      rcases ih hp' (by omega) (fun k => hshift k ▸ hpast (k + 1)) (by omega) with ⟨k, hk, hmax⟩ | ⟨k, hk, hfresh⟩
      · exact .inl ⟨k + 1, succ_le_succ hk, hshift k ▸ hmax⟩
      · exact .inr ⟨k + 1, succ_lt_succ hk, hshift k ▸ hfresh⟩
    · obtain ⟨hself, hold⟩ := Classical.not_imp.mp hyoung
      have hage : lsa.header.lsAge + 1 = LS_REFRESH_TIME := by
        have : ¬ LS_REFRESH_TIME ≤ lsa.header.lsAge := fun hle => hpast 0 ⟨i, lsa, hpi, hself, hle, hlt⟩
        omega
      rcases h.refreshes_or hpi hself hage with ⟨newLSA, lsa', hnew, -, -, hfloods, hsame⟩ | ⟨-, lsa', hfloods, hsame⟩
      · exact .inr ⟨0, succ_pos left, i, lsa, newLSA, lsa', hpi, hnew, hfloods, hsame⟩
      · have hage' : lsa'.header.lsAge = MAX_AGE := by
          rw [hsame]
          rfl
        obtain ⟨-, -, -, -, -, hp'⟩ := hfloods
        exact .inl ⟨1, succ_le_succ (Nat.zero_le _), lsa', hp', hage'⟩

theorem leaves (hp : (history n).HoldsAt i p lsa)
    (hgone : some p ∉ (history (n + 1)).vector) :
    lsa.header.lsAge = MAX_AGE ∧ ¬ (ageing n i lsa).isOnAnyRetransmissionList ∧ ¬ (ageing n i lsa).exchanging := by
  have hto := h.agesTo n i lsa
  generalize haged : age n i lsa = aged at hto
  cases hto with
  | grows => exact absurd (h.stays hp haged).1 hgone
  | givesUp => exact absurd (h.stays hp haged).1 hgone
  | expires => exact absurd (h.stays hp haged).1 hgone
  | refreshed => exact absurd (h.stays hp haged).1 hgone
  | stuck => exact absurd (h.stays hp haged).1 hgone
  | waits => exact absurd (h.stays hp haged).1 hgone
  | leaves hage hfree => exact ⟨hage, hfree⟩
  | renewed newLSA hown hreach hage hfree => exact ⟨hage, hfree⟩
  | missed hown hreach hage hfree => exact ⟨hage, hfree⟩

theorem reuses (hp : (history n).HoldsAt i p lsa)
    (hp' : (history (n + 1)).Holds p lsa') (hseq : lsa'.header.lsSequenceNumber = INITIAL_SEQUENCE_NUMBER) :
    lsa.header.lsSequenceNumber = INITIAL_SEQUENCE_NUMBER ∨ lsa.header.lsSequenceNumber + 1 = INITIAL_SEQUENCE_NUMBER ∨
      lsa.header.lsSequenceNumber = MAX_SEQUENCE_NUMBER ∧ lsa.header.lsAge = MAX_AGE ∧
        ¬ (ageing n i lsa).isOnAnyRetransmissionList ∧ ¬ (ageing n i lsa).exchanging := by
  have hnumber {lsa₁ : DatabaseLSA β} {flooded different : Bool} (haged : age n i lsa = .stays lsa₁ flooded different) :
      lsa₁.header.lsSequenceNumber = INITIAL_SEQUENCE_NUMBER := by
    rw [(h.stays hp haged).unique hp', hseq]
  have hto := h.agesTo n i lsa
  generalize haged : age n i lsa = aged at hto
  cases hto with
  | grows => exact .inl (hnumber haged :)
  | givesUp => exact .inl (hnumber haged :)
  | expires => exact .inl (hnumber haged :)
  | refreshed newLSA => exact .inr (.inl (hnumber haged))
  | stuck => exact .inl (hnumber haged :)
  | waits => exact .inl (hnumber haged :)
  | leaves => exact absurd hp'.1 ((h.passed n).erased i p lsa hp haged)
  | renewed newLSA hown hreach hage hfree =>
    have hnew := hnumber haged
    by_cases hmax : lsa.header.lsSequenceNumber = MAX_SEQUENCE_NUMBER
    · exact .inr (.inr ⟨hmax, hage, hfree⟩)
    · simp only [if_neg hmax] at hnew
      exact .inr (.inl hnew)
  | missed => exact absurd hp'.1 ((h.passed n).erased i p lsa hp haged)

theorem agesInTime : AgesInTime history ageing age := by
  constructor
  · exact fun n i p lsa hp hlt hown => h.grows hp hlt hown
  · exact fun n p lsa hp hle hpast => h.reaches hp hle hpast
  · intro n i p lsa newLSA hp hself hreach hage hseq hnew
    rcases h.refreshes_or hp hself hage with ⟨newLSA', lsa', hnew', -, -, hfloods, hsame⟩ | ⟨hfail, -⟩
    · cases some.inj (hnew.symm.trans hnew')
      exact ⟨lsa', hfloods, hsame⟩
    · rcases hfail with hun | hmax | hnone
      · exact absurd hun hreach
      · exact absurd hmax hseq
      · rw [hnone] at hnew
        cases hnew
  · intro n i p lsa hp hself hage hfail
    rcases h.refreshes_or hp hself hage with ⟨newLSA, lsa', hnew, hreach, hseq, -⟩ | ⟨-, hgiven⟩
    · rcases hfail with hun | hmax | hnone
      · exact absurd hun hreach
      · exact absurd hmax hseq
      · rw [hnone] at hnew
        cases hnew
    · exact hgiven
  · intro n i p lsa hp hgone
    obtain ⟨hage, hfree⟩ := h.leaves hp hgone
    exact ⟨hage, h.flushed ⟨lsa, hp.holds, hage⟩, hfree⟩
  · intro n i p lsa lsa' hp hp' hseq
    rcases h.reuses hp hp' hseq with hold | hnext | ⟨hmax, hage, hfree⟩
    · exact .inl hold
    · exact .inr (.inl hnext)
    · exact .inr (.inr ⟨hmax, hage, h.flushed ⟨lsa, hp.holds, hage⟩, hfree⟩)

end GrowsOld

end

end LSAs

namespace Area

/-- The three vectors of the database are in order. -/
structure Listed (area : Area) : Prop where
  router : area.routerLSAs.Listed
  network : area.networkLSAs.Listed
  summary : area.summaryLSAs.Listed

/-- One call lets the LSAs of all three kinds age. -/
structure Passed (around : Ages) (area area' : Area) : Prop where
  router : LSAs.Passed (fun i => (around.router i).ageRouterLSA) area.routerLSAs area'.routerLSAs
  network : LSAs.Passed (fun i => (around.network i).ageNetworkLSA) area.networkLSAs area'.networkLSAs
  summary : LSAs.Passed (fun i => (around.summary i).ageSummaryLSA) area.summaryLSAs area'.summaryLSAs

theorem router_agesTo (around : Surroundings) (lsa : RouterLSA) :
    lsa.AgesTo (around.ageingOfRouterLSA lsa) .erased (around.ageRouterLSA lsa) := lsa.ages_to _ _

/-- A network LSA that this router would originate has a new one to follow it. -/
theorem network_agesTo (around : Surroundings) (lsa : NetworkLSA) :
    lsa.AgesTo (around.ageingOfNetworkLSA lsa) .erased (around.ageNetworkLSA lsa) := by
  have hto := lsa.ages_to (around.ageingOfNetworkLSA lsa) .deleted
  unfold Surroundings.ageNetworkLSA
  generalize lsa.ages (around.ageingOfNetworkLSA lsa) .deleted = aged at hto ⊢
  cases hto with
  | grows hown hage => exact .grows hown hage
  | givesUp hown hage hnew => exact .givesUp hown hage hnew
  | expires hown hage => exact .expires hown hage
  | refreshed newLSA hown hreach hage hseq hnew => exact .refreshed newLSA hown hreach hage hseq hnew
  | stuck hown hage hne => exact .stuck hown hage hne
  | waits hage hwait => exact .waits hage hwait
  | leaves hage hfree hgone => exact .leaves hage hfree hgone
  | renewed newLSA hown hreach hage hfree hnew => exact .renewed newLSA hown hreach hage hfree hnew
  | missed hown hreach hage hfree hnew =>
    obtain ⟨newLSA, hsome⟩ := around.newLSA_of_selfOriginated hown
    rw [hnew] at hsome
    cases hsome

theorem summary_agesTo (around : Surroundings) (lsa : SummaryLSA) :
    lsa.AgesTo (around.ageingOfSummaryLSA lsa) .erased (around.ageSummaryLSA lsa) := lsa.ages_to _ _

theorem Listed.ageDatabase {area : Area} (h : Listed area) (around : Ages) :
    Succeeds (area.ageDatabase around) fun r => Listed r.1 ∧ Passed around area r.1 := by
  obtain ⟨routers, rebuild₁, hr, hlr, hpr⟩ := h.router.ageAll (·.linkStateID)
    fun i lsa => (router_agesTo (around.router i) lsa).ne_deleted
  obtain ⟨networks, rebuild₂, hn, hln, hpn⟩ := h.network.ageAll (·.linkStateID)
    fun i lsa => (network_agesTo (around.network i) lsa).ne_deleted
  obtain ⟨summaries, rebuild₃, hs, hls, hps⟩ := h.summary.ageAll (·.lsaKey)
    fun i lsa => (summary_agesTo (around.summary i) lsa).ne_deleted
  refine ⟨⟨⟨routers, networks, summaries⟩, rebuild₁ || rebuild₂ || rebuild₃⟩, ?_, ⟨hlr, hln, hls⟩, ⟨hpr, hpn, hps⟩⟩
  simp only [Area.ageDatabase, hr, hn, hs]
  rfl

/-- The LSAs of all kinds age as they should. -/
structure AgesInTime (area : Nat → Area) (around : Nat → Ages) : Prop where
  router : LSAs.AgesInTime (fun n => (area n).routerLSAs) (fun n i => ((around n).router i).ageingOfRouterLSA)
    fun n i => ((around n).router i).ageRouterLSA
  network : LSAs.AgesInTime (fun n => (area n).networkLSAs) (fun n i => ((around n).network i).ageingOfNetworkLSA)
    fun n i => ((around n).network i).ageNetworkLSA
  summary : LSAs.AgesInTime (fun n => (area n).summaryLSAs) (fun n i => ((around n).summary i).ageingOfSummaryLSA)
    fun n i => ((around n).summary i).ageSummaryLSA

theorem agesInTime {area : Nat → Area} {around : Nat → Ages} (hlisted : ∀ n, Listed (area n))
    (hpassed : ∀ n, Passed (around n) (area n) (area (n + 1))) : AgesInTime area around where
  router := LSAs.GrowsOld.agesInTime
    ⟨fun n => (hlisted n).router, fun n => (hpassed n).router, fun _ _ => router_agesTo _⟩
  network := LSAs.GrowsOld.agesInTime
    ⟨fun n => (hlisted n).network, fun n => (hpassed n).network, fun _ _ => network_agesTo _⟩
  summary := LSAs.GrowsOld.agesInTime
    ⟨fun n => (hlisted n).summary, fun n => (hpassed n).summary, fun _ _ => summary_agesTo _⟩

end Area

namespace Router

structure Listed (router : Router) : Prop where
  external : router.asExternalLSAs.Listed
  area : ∀ (j : Nat) area, router.areas[j]? = some area → area.Listed

structure Passed (around : Ages) (router router' : Router) : Prop where
  external : LSAs.Passed (fun i => (around.external i).ageASExternalLSA) router.asExternalLSAs router'.asExternalLSAs
  area : ∀ (j : Nat) area, router.areas[j]? = some area → ∃ area', router'.areas[j]? = some area' ∧
    Area.Passed (around.area j) area area'

theorem external_agesTo (around : ExternalSurroundings) (lsa : ASExternalLSA) :
    lsa.AgesTo (around.ageingOfASExternalLSA lsa) .erased (around.ageASExternalLSA lsa) := lsa.ages_to _ _

theorem Listed.ageDatabase {router : Router} (h : Listed router) (around : Ages) :
    Succeeds (router.ageDatabase around) fun r => Listed r.1 ∧ Passed around router r.1 := by
  have hexternal := h.external.ageAll (·.lsaKey)
    fun i lsa => (external_agesTo (around.external i) lsa).ne_deleted
  obtain ⟨externals, rebuild, he, hle, hpe⟩ := hexternal
  refine Succeeds.bind (p := (· = (externals, rebuild))) ⟨_, he, rfl⟩ fun _ heq => ?_
  subst heq
  have hareas (a : Area × Nat) (ha : a ∈ router.areas.zipIdx) :
      Succeeds (Prod.fst <$> a.1.ageDatabase (around.area a.2)) fun area' =>
        area'.Listed ∧ Area.Passed (around.area a.2) a.1 area' := by
    have hget : router.areas[a.2]? = some a.1 := mem_zipIdx_iff_getElem?.mp ha
    exact Succeeds.map ((h.area a.2 a.1 hget).ageDatabase (around.area a.2))
  refine (Succeeds.mapM_getElem? hareas).bind fun areas hgood => Succeeds.ok ?_
  obtain ⟨hlength, hget⟩ := hgood
  rw [length_zipIdx] at hlength
  have harea (j : Nat) (area : Area) (hj : router.areas[j]? = some area) :
      ∃ area', areas[j]? = some area' ∧ area'.Listed ∧ Area.Passed (around.area j) area area' :=
    hget j (area, j) (by simp [hj])
  refine ⟨⟨hle, fun j area' hj => ?_⟩, ⟨hpe, fun j area hj => ?_⟩⟩
  · have hlt : j < router.areas.length := hlength ▸ (List.getElem?_eq_some_iff.mp hj).1
    obtain ⟨area₁, hj₁, hlisted, -⟩ := harea j _ (List.getElem?_eq_getElem hlt)
    cases some.inj (hj₁.symm.trans hj)
    exact hlisted
  · obtain ⟨area', hj', -, hpassed⟩ := harea j area hj
    exact ⟨area', hj', hpassed⟩

/-- `history` is the run of calls of `ageDatabase`. -/
def Calls (history : Nat → Router) (around : Nat → Ages) : Prop :=
  ∀ n, Prod.fst <$> (history n).ageDatabase (around n) = .ok (history (n + 1))

/-- The LSAs of the router and of all its areas age as they should. -/
structure AgesInTime (history : Nat → Router) (around : Nat → Ages) : Prop where
  external : LSAs.AgesInTime (fun n => (history n).asExternalLSAs)
    (fun n i => ((around n).external i).ageingOfASExternalLSA) fun n i => ((around n).external i).ageASExternalLSA
  area : ∀ (j : Nat) area₀, (history 0).areas[j]? = some area₀ → ∃ area : Nat → Area, area 0 = area₀ ∧
    (∀ n, (history n).areas[j]? = some (area n)) ∧ Area.AgesInTime area fun n => (around n).area j

theorem ageDatabase_agesInTime {router : Router} (h : Listed router) (around : Nat → Ages) :
    ∃ history : Nat → Router, history 0 = router ∧ Calls history around ∧ AgesInTime history around := by
  have hcalls := Succeeds.forever (f := fun n (r : Router) => Prod.fst <$> r.ageDatabase (around n))
    (t := fun n => Passed (around n)) (fun n r (hr : Listed r) => Succeeds.map (hr.ageDatabase (around n))) h
  obtain ⟨history, hzero, hok, hlisted, hpassed⟩ := hcalls
  refine ⟨history, hzero, hok, ?_, fun j area₀ hj => ?_⟩
  · exact LSAs.GrowsOld.agesInTime
      ⟨fun n => (hlisted n).external, fun n => (hpassed n).external, fun _ _ => external_agesTo _⟩
  · have hthere (n : Nat) : ∃ area, (history n).areas[j]? = some area := by
      induction n with
      | zero => exact ⟨area₀, hj⟩
      | succ n ih =>
        obtain ⟨area, hn⟩ := ih
        obtain ⟨area', hn', -⟩ := (hpassed n).area j area hn
        exact ⟨area', hn'⟩
    choose area harea using hthere
    have hfirst : area 0 = area₀ := some.inj ((harea 0).symm.trans hj)
    refine ⟨area, hfirst, harea, Area.agesInTime (fun n => (hlisted n).area j _ (harea n)) fun n => ?_⟩
    obtain ⟨area', hn', hpass⟩ := (hpassed n).area j _ (harea n)
    cases some.inj (hn'.symm.trans (harea (n + 1)))
    exact hpass

def ownLSA (lsAge : Nat) (lsSequenceNumber : Int) : RouterLSA where
  header := { linkStateID := 1, advertisingRouter := 1, lsAge, lsSequenceNumber }
  contents := {}

/-- Router 1 with its own LSA in its only area. -/
def oneLSA (lsAge : Nat) (lsSequenceNumber : Int) : Router where
  areas := [{ routerLSAs := IndexedStore.add .empty 1 (ownLSA lsAge lsSequenceNumber) }]

/-- Router 1 without neighbors. -/
def alone : Ages where
  external := fun _ => ⟨1, [], false, false, false⟩
  area := fun _ => ⟨fun _ => Area.aloneAs 1, fun _ => Area.aloneAs 1, fun _ => Area.aloneAs 1⟩

theorem oneLSA_agesInTime :
    ∃ history : Nat → Router, history 0 = oneLSA 1799 5 ∧ Calls history (fun _ => alone) ∧
      AgesInTime history fun _ => alone :=
  ageDatabase_agesInTime ⟨(LSAs.kept_empty fun h : OSPFLSAHeader => h.lsaKey).listed, fun j area hj => by
    cases j with
    | zero =>
      cases some.inj hj
      refine ⟨⟨fun e he => ?_, nodup_singleton 0⟩, (LSAs.kept_empty fun h : OSPFLSAHeader => h.linkStateID).listed,
        (LSAs.kept_empty fun h : OSPFLSAHeader => h.lsaKey).listed⟩
      cases List.mem_singleton.mp he
      exact ⟨0, _, rfl, rfl⟩
    | succ j => simp [oneLSA] at hj⟩ _

/-- The last sequence number is not followed by another one: the LSA gets the age `MAX_AGE`. -/
theorem last_number_not_refreshed :
    ∃ area lsa, (oneLSA 1799 MAX_SEQUENCE_NUMBER).areas = [area] ∧ area.routerLSAs.HoldsAt 0 0 lsa ∧
      lsa.header.lsAge + 1 = LS_REFRESH_TIME ∧ ((Area.aloneAs 1).ageingOfRouterLSA lsa).selfOriginated ∧
      ¬ ((Area.aloneAs 1).ageingOfRouterLSA lsa).unreachable ∧
      ¬ ∃ router' area' lsa', Prod.fst <$> (oneLSA 1799 MAX_SEQUENCE_NUMBER).ageDatabase alone = .ok router' ∧
        router'.areas = [area'] ∧ area'.routerLSAs.Holds 0 lsa' ∧
          lsa'.header.lsSequenceNumber = lsa.header.lsSequenceNumber + 1 := by
  refine ⟨_, ownLSA 1799 MAX_SEQUENCE_NUMBER, rfl, ⟨rfl, rfl⟩, rfl, rfl, Bool.false_ne_true, ?_⟩
  rintro ⟨router', area', lsa', hcall, harea, hlsa, hseq⟩
  cases hcall
  cases harea
  cases hlsa.2
  exact absurd hseq (by decide)

end Router

end Inet.Ospf
