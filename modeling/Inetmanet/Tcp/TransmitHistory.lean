import Inetmanet.Tcp.TransmitInfo

/-!
# The transmission history of every octet

What the regions say of an octet is what the calls have said: how often it was sent, when
first and when last. This is so as long as the sequence numbers that are compared are less
than half of the sequence space apart, and for octets that no call of `clearTo` was beyond.
-/
namespace Inet.Tcp

open SerialNumber RunLength List Option

/-- A call, with octets given by their positions. -/
inductive TransmitOp where
  | set (a b : Nat) (sentTime : Int)
  | clearTo (s : Nat)
  deriving DecidableEq, Repr

namespace TransmitOp

/-- When the octet at `p` was sent, if it was. -/
def sentAt (p : Nat) : TransmitOp → Option Int
  | .set a b sentTime => if a ≤ p ∧ p < b then some sentTime else none
  | .clearTo _ => none

end TransmitOp

/-- The times at which the octet at `p` was sent. -/
def times (p : Nat) (ops : List TransmitOp) : List Int := ops.filterMap (TransmitOp.sentAt p)

/-- No octet from `p` on was cleared. -/
def ClearedBelow (p : Nat) (ops : List TransmitOp) : Prop := ∀ s, TransmitOp.clearTo s ∈ ops → s ≤ p

/-- The item counts the sendings and has the earliest and the latest time. -/
structure Item.Counts (i : Item) (ts : List Int) : Prop where
  transmitCount : i.transmitCount = ts.length
  firstSentTime : i.firstSentTime ∈ ts ∧ ∀ t ∈ ts, i.firstSentTime ≤ t
  lastSentTime : i.lastSentTime ∈ ts ∧ ∀ t ∈ ts, t ≤ i.lastSentTime

/-- What is kept of the octets from position `first` on. -/
structure SentOctets where
  first : Nat
  octets : List Transmits
  deriving DecidableEq, Repr

namespace SentOctets

def last (s : SentOctets) : Nat := s.first + s.octets.length

def apply (s : SentOctets) : TransmitOp → SentOctets
  | .set a b sentTime =>
    if s.octets = [] then ⟨a, replicate (b - a) (.once sentTime)⟩
    else { s with octets := onRange (a - s.first) (b - s.first) (Transmits.again sentTime) s.octets ++
             replicate (b - s.first - s.octets.length) (.once sentTime) }
  | .clearTo e => ⟨max s.first e, s.octets.drop (e - s.first)⟩

/-- The entry assertions, for positions within half of the sequence space. -/
def Allowed (s : SentOctets) : TransmitOp → Prop
  | .set a b _ => a < b ∧ b < a + 2 ^ 31 ∧ (s.octets ≠ [] → s.first ≤ a ∧ a ≤ s.last ∧ b < s.first + 2 ^ 31)
  | .clearTo e => s.octets ≠ [] → e < s.first + 2 ^ 31 ∧ s.last < e + 2 ^ 31

def AllAllowed (s : SentOctets) : List TransmitOp → Prop
  | [] => True
  | op :: ops => s.Allowed op ∧ (s.apply op).AllAllowed ops

instance (s : SentOctets) : (op : TransmitOp) → Decidable (s.Allowed op)
  | .set _ _ _ => inferInstanceAs (Decidable (_ ∧ _ ∧ (_ → _)))
  | .clearTo _ => inferInstanceAs (Decidable (_ → _))

instance decidableAllAllowed : (s : SentOctets) → (ops : List TransmitOp) → Decidable (s.AllAllowed ops)
  | _, [] => inferInstanceAs (Decidable True)
  | s, op :: ops =>
    have := decidableAllAllowed (s.apply op) ops
    inferInstanceAs (Decidable (_ ∧ _))

/-- What is kept of the octet at `p`. -/
def octet (s : SentOctets) (p : Nat) : Option Transmits := if p < s.first then none else s.octets[p - s.first]?

variable {s : SentOctets} {p : Nat}

theorem octet_of_empty (h : s.octets = []) (p : Nat) : s.octet p = none := by
  rw [octet, h]
  simp

theorem octet_set {a b : Nat} {sentTime : Int} (h : s.Allowed (.set a b sentTime)) (p : Nat) :
    (s.apply (.set a b sentTime)).octet p =
      if a ≤ p ∧ p < b then some ((s.octet p).elim (.once sentTime) (.again sentTime)) else s.octet p := by
  obtain ⟨hab, -, hnear⟩ := h
  by_cases hempty : s.octets = []
  · rw [apply, if_pos hempty, octet_of_empty hempty p, octet]
    simp only
    by_cases hpa : p < a
    · rw [if_pos hpa, if_neg (by omega)]
    · rw [if_neg hpa, List.getElem?_replicate]
      by_cases hpb : p < b
      · rw [if_pos (by omega), if_pos ⟨by omega, hpb⟩]
        rfl
      · rw [if_neg (by omega), if_neg (by omega)]
  · obtain ⟨hfirst, hlast, -⟩ := hnear hempty
    rw [last] at hlast
    rw [apply, if_neg hempty, octet, octet]
    simp only
    by_cases hp : p < s.first
    · rw [if_pos hp, if_pos hp, if_neg (by omega)]
    · rw [if_neg hp, if_neg hp]
      have hrange : (a - s.first ≤ p - s.first ∧ p - s.first < b - s.first) ↔ (a ≤ p ∧ p < b) := by omega
      by_cases hin : p - s.first < s.octets.length
      · rw [List.getElem?_append_left (by simpa using hin), getElem?_onRange, List.getElem?_eq_getElem hin]
        simp only [hrange, map_some, elim_some]
        split <;> rfl
      · rw [List.getElem?_append_right (by simpa using hin), List.getElem?_eq_none (l := s.octets) (by omega),
          length_onRange, List.getElem?_replicate]
        by_cases hpb : p < b
        · rw [if_pos (by omega), if_pos ⟨by omega, hpb⟩]
          rfl
        · rw [if_neg (by omega), if_neg (by omega)]

theorem octet_clearTo (s : SentOctets) (e p : Nat) :
    (s.apply (.clearTo e)).octet p = if p < e then none else s.octet p := by
  rw [apply, octet, octet]
  simp only
  by_cases hp : p < s.first
  · rw [if_pos (by omega), if_pos hp, ite_self]
  · by_cases he : p < e
    · rw [if_pos (by omega), if_pos he]
    · have hindex : e - s.first + (p - max s.first e) = p - s.first := by omega
      rw [if_neg (by omega), if_neg he, if_neg hp, List.getElem?_drop, hindex]

end SentOctets

structure Transmits.Counts (e : Transmits) (ts : List Int) : Prop where
  transmitCount : e.transmitCount = ts.length
  firstSentTime : e.firstSentTime ∈ ts ∧ ∀ t ∈ ts, e.firstSentTime ≤ t
  lastSentTime : e.lastSentTime ∈ ts ∧ ∀ t ∈ ts, t ≤ e.lastSentTime

theorem Transmits.once_counts (t : Int) : (once t).Counts [t] := ⟨rfl, by simp [once], by simp [once]⟩

theorem Transmits.Counts.again {e : Transmits} {ts : List Int} (h : e.Counts ts) (t : Int) :
    (e.again t).Counts (ts ++ [t]) := by
  obtain ⟨hcount, ⟨hfirst, hfirst'⟩, hlast, hlast'⟩ := h
  refine ⟨by simp [Transmits.again, hcount], ⟨?_, ?_⟩, ?_, ?_⟩
  · rcases Int.le_total e.firstSentTime t with hle | hle
    · simp [Transmits.again, Int.min_eq_left hle, hfirst]
    · simp [Transmits.again, Int.min_eq_right hle]
  · intro t' ht'
    rcases mem_append.mp ht' with ht' | ht'
    · exact Int.le_trans (Int.min_le_left _ _) (hfirst' t' ht')
    · rw [mem_singleton.mp ht']
      exact Int.min_le_right _ _
  · rcases Int.le_total e.lastSentTime t with hle | hle
    · simp [Transmits.again, Int.max_eq_right hle]
    · simp [Transmits.again, Int.max_eq_left hle, hlast]
  · intro t' ht'
    rcases mem_append.mp ht' with ht' | ht'
    · exact Int.le_trans (hlast' t' ht') (Int.le_max_left _ _)
    · rw [mem_singleton.mp ht']
      exact Int.le_max_right _ _

/-- What is kept has been sent, and above what has been cleared it is all that has been sent. -/
structure Recalls (past : List TransmitOp) (s : SentOctets) : Prop where
  sent : ∀ p e, s.octet p = some e → times p past ≠ []
  counts : ∀ p e, ClearedBelow p past → s.octet p = some e → e.Counts (times p past)
  unsent : ∀ p, ClearedBelow p past → s.octet p = none → times p past = []

namespace Recalls

variable {past : List TransmitOp} {s : SentOctets}

theorem nil (first : Nat) : Recalls [] ⟨first, []⟩ where
  sent p e h := by simp [SentOctets.octet] at h
  counts p e _ h := by simp [SentOctets.octet] at h
  unsent _ _ _ := rfl

theorem set (h : Recalls past s) {a b : Nat} {t : Int} (hallowed : s.Allowed (.set a b t)) :
    Recalls (past ++ [.set a b t]) (s.apply (.set a b t)) := by
  have htimes (p : Nat) : times p (past ++ [.set a b t]) = times p past ++ if a ≤ p ∧ p < b then [t] else [] := by
    rw [times, filterMap_append, times]
    by_cases hin : a ≤ p ∧ p < b
    · simp [TransmitOp.sentAt, hin]
    · simp [TransmitOp.sentAt, hin]
  have hcleared (p : Nat) (hp : ClearedBelow p (past ++ [.set a b t])) : ClearedBelow p past := fun s hs =>
    hp s (mem_append_left _ hs)
  constructor
  · intro p e he
    rw [SentOctets.octet_set hallowed] at he
    rw [htimes]
    by_cases hin : a ≤ p ∧ p < b
    · simp [hin]
    · rw [if_neg hin] at he
      simp [hin, h.sent p e he]
  · intro p e hp he
    rw [SentOctets.octet_set hallowed] at he
    rw [htimes]
    by_cases hin : a ≤ p ∧ p < b
    · rw [if_pos hin] at he ⊢
      obtain rfl := some.inj he
      cases hold : s.octet p with
      | none =>
        rw [h.unsent p (hcleared p hp) hold]
        exact Transmits.once_counts t
      | some e => exact (h.counts p e (hcleared p hp) hold).again t
    · rw [if_neg hin] at he ⊢
      rw [append_nil]
      exact h.counts p e (hcleared p hp) he
  · intro p hp hnone
    rw [SentOctets.octet_set hallowed] at hnone
    rw [htimes]
    by_cases hin : a ≤ p ∧ p < b
    · rw [if_pos hin] at hnone
      cases hnone
    · rw [if_neg hin] at hnone ⊢
      rw [h.unsent p (hcleared p hp) hnone]
      rfl

theorem clearTo (h : Recalls past s) (e : Nat) : Recalls (past ++ [.clearTo e]) (s.apply (.clearTo e)) := by
  have htimes (p : Nat) : times p (past ++ [.clearTo e]) = times p past := by
    rw [times, filterMap_append, times]
    simp [TransmitOp.sentAt]
  have hkept {p : Nat} (hp : ¬ p < e) : (s.apply (.clearTo e)).octet p = s.octet p := by
    rw [SentOctets.octet_clearTo, if_neg hp]
  have hcleared (p : Nat) (hp : ClearedBelow p (past ++ [.clearTo e])) : ClearedBelow p past ∧ ¬ p < e :=
    ⟨fun s hs => hp s (mem_append_left _ hs), Nat.not_lt.mpr (hp e (by simp))⟩
  constructor
  · intro p x hx
    rw [htimes]
    rw [SentOctets.octet_clearTo] at hx
    split at hx
    · cases hx
    · exact h.sent p x hx
  · intro p x hp hx
    obtain ⟨hpast, hpe⟩ := hcleared p hp
    rw [hkept hpe] at hx
    rw [htimes]
    exact h.counts p x hpast hx
  · intro p hp hnone
    obtain ⟨hpast, hpe⟩ := hcleared p hp
    rw [hkept hpe] at hnone
    rw [htimes]
    exact h.unsent p hpast hnone

end Recalls

namespace TCPSegmentTransmitInfoList

/-- The call that an operation on positions stands for. -/
def call (base : SeqNo) (q : TCPSegmentTransmitInfoList) : TransmitOp → Sim TCPSegmentTransmitInfoList
  | .set a b sentTime => q.set (nth base a) (nth base b) sentTime
  | .clearTo s => .ok (q.clearTo (nth base s))

def run (base : SeqNo) (q : TCPSegmentTransmitInfoList) : List TransmitOp → Sim TCPSegmentTransmitInfoList
  | [] => .ok q
  | op :: ops => do
    let q ← q.call base op
    q.run base ops

/-- The regions are not empty, and each starts where the one before it ends. -/
structure Tiled (q : TCPSegmentTransmitInfoList) : Prop where
  nonEmpty : ∀ i ∈ q.regions, seqLess i.beg i.endNo
  gapFree : q.regions.IsChain fun i j => i.endNo = j.beg
  ordered : q.regions.Pairwise fun i j => seqLE i.endNo j.beg

/-- The regions hold the octets. -/
structure Represents (base : SeqNo) (s : SentOctets) (q : TCPSegmentTransmitInfoList) (runs : List (Nat × Transmits)) :
    Prop where
  regions : q.regions = itemsOf base s.first runs
  octets : s.octets = expand runs
  nonEmpty : NonEmpty runs
  length : total runs < 2 ^ 31

variable {base : SeqNo} {s : SentOctets} {q : TCPSegmentTransmitInfoList} {runs : List (Nat × Transmits)}

theorem expand_eq_nil_iff (h : NonEmpty runs) : expand runs = [] ↔ runs = [] := by
  constructor
  · intro hnil
    cases runs with
    | nil => rfl
    | cons r l =>
      have hpos := (nonEmpty_cons.mp h).1
      have hlength := congrArg List.length hnil
      simp only [length_expand, total_cons, length_nil] at hlength
      omega
  · rintro rfl
    rfl

section

variable (h : Represents base s q runs)
include h

theorem Represents.set {a b : Nat} {t : Int} (hallowed : s.Allowed (.set a b t)) :
    ∃ q' runs', q.call base (.set a b t) = .ok q' ∧ Represents base (s.apply (.set a b t)) q' runs' := by
  obtain ⟨items⟩ := q
  obtain ⟨hregions, hoctets, hnonempty, hlength⟩ := h
  simp only at hregions
  obtain ⟨hab, hb, hnear⟩ := hallowed
  by_cases hempty : s.octets = []
  · have hruns : runs = [] := (expand_eq_nil_iff hnonempty).mp (hoctets ▸ hempty)
    rw [hregions, hruns]
    refine ⟨_, [(b - a, .once t)], set_nil base t hab hb, ?_⟩
    rw [SentOctets.apply, if_pos hempty]
    exact ⟨rfl, by simp, by simp [NonEmpty]; omega, by simp; omega⟩
  · obtain ⟨hfirst, hlast, hwindow⟩ := hnear hempty
    have hcount : s.octets.length = total runs := by rw [hoctets, length_expand]
    rw [SentOctets.last, hcount] at hlast
    have hruns : runs ≠ [] := fun hnil => hempty (by rw [hoctets, hnil]; rfl)
    obtain ⟨runs', hok, hnonempty', hexpand⟩ := set_itemsOf base s.first t (i := a - s.first)
      (j := b - s.first) hnonempty hruns (by omega) (by omega) (by omega) hlength
    have ha : s.first + (a - s.first) = a := by omega
    have hb' : s.first + (b - s.first) = b := by omega
    rw [ha, hb'] at hok
    have htotal : total runs' = total runs + (b - s.first - total runs) := by
      have hlength' := congrArg List.length hexpand
      simpa using hlength'
    refine ⟨_, runs', by rw [hregions]; exact hok, ?_⟩
    rw [SentOctets.apply, if_neg hempty, hcount, hoctets]
    exact ⟨rfl, hexpand.symm, hnonempty', by omega⟩

theorem Represents.clearTo {e : Nat} (hallowed : s.Allowed (.clearTo e)) :
    ∃ runs', Represents base (s.apply (.clearTo e)) (q.clearTo (nth base e)) runs' := by
  obtain ⟨hregions, hoctets, hnonempty, hlength⟩ := h
  by_cases hempty : s.octets = []
  · have hruns : runs = [] := (expand_eq_nil_iff hnonempty).mp (hoctets ▸ hempty)
    refine ⟨[], ?_, by simp [SentOctets.apply, hempty], by simp [NonEmpty], by simp⟩
    rw [TCPSegmentTransmitInfoList.clearTo, hregions, hruns]
    rfl
  · obtain ⟨hnear, hnear'⟩ := hallowed hempty
    rw [SentOctets.last, hoctets, length_expand] at hnear'
    obtain ⟨runs', hcut, hnonempty', hexpand⟩ := cut_itemsOf base hnonempty hnear hnear'
    refine ⟨runs', ?_, ?_, hnonempty', ?_⟩
    · rw [TCPSegmentTransmitInfoList.clearTo, hregions]
      exact hcut
    · rw [SentOctets.apply, hoctets]
      exact hexpand.symm
    · have hshorter := congrArg List.length hexpand
      simp only [length_expand, length_drop] at hshorter
      omega

theorem Represents.call {op : TransmitOp} (hallowed : s.Allowed op) :
    ∃ q' runs', q.call base op = .ok q' ∧ Represents base (s.apply op) q' runs' := by
  cases op with
  | set a b t => exact h.set hallowed
  | clearTo e =>
    obtain ⟨runs', hrep⟩ := h.clearTo hallowed
    exact ⟨_, runs', rfl, hrep⟩

theorem run_represents {past ops : List TransmitOp} (hpast : Recalls past s)
    (hallowed : s.AllAllowed ops) :
    ∃ q' s' runs', q.run base ops = .ok q' ∧ Represents base s' q' runs' ∧ Recalls (past ++ ops) s' := by
  induction ops generalizing s q runs past with
  | nil => exact ⟨q, s, runs, rfl, h, by simpa using hpast⟩
  | cons op ops ih =>
    obtain ⟨q₁, runs₁, hok, hrep⟩ := h.call hallowed.1
    have hrecalls : Recalls (past ++ [op]) (s.apply op) := by
      cases op with
      | set a b t => exact hpast.set hallowed.1
      | clearTo e => exact hpast.clearTo e
    obtain ⟨q', s', runs', hrun, hrep', hrecalls'⟩ := ih hrep hrecalls hallowed.2
    refine ⟨q', s', runs', ?_, hrep', by simpa using hrecalls'⟩
    rw [run, hok]
    exact hrun

end

theorem mem_itemsOf {p : Nat} {i : Item} (h : NonEmpty runs) (hi : i ∈ itemsOf base p runs) :
    ∃ a b, p ≤ a ∧ a < b ∧ b ≤ p + total runs ∧ i.beg = nth base a ∧ i.endNo = nth base b := by
  induction runs generalizing p with
  | nil => cases hi
  | cons r l ih =>
    obtain ⟨n, e⟩ := r
    obtain ⟨hn, hl⟩ := nonEmpty_cons.mp h
    rw [total_cons]
    rcases mem_cons.mp hi with rfl | hi
    · exact ⟨p, p + n, Nat.le_refl _, by omega, by omega, rfl, rfl⟩
    · obtain ⟨a, b, ha, hab, hb, hbeg, hend⟩ := ih hl hi
      exact ⟨a, b, by omega, hab, by omega, hbeg, hend⟩

theorem Represents.tiled (h : Represents base s q runs) : q.Tiled := by
  obtain ⟨hregions, -, hnonempty, hlength⟩ := h
  constructor
  · intro i hi
    rw [hregions] at hi
    obtain ⟨a, b, ha, hab, hb, hbeg, hend⟩ := mem_itemsOf hnonempty hi
    rw [hbeg, hend, seqLess_nth (by omega) (by omega)]
    exact hab
  · rw [hregions]
    generalize s.first = p
    clear hregions hlength
    induction runs generalizing p with
    | nil => exact .nil
    | cons r l ih =>
      cases l with
      | nil => exact .singleton _
      | cons r' l => exact isChain_cons_cons.mpr ⟨rfl, ih (nonEmpty_cons.mp hnonempty).2 (p + r.1)⟩
  · rw [hregions]
    generalize s.first = p
    clear hregions
    induction runs generalizing p with
    | nil => exact .nil
    | cons r l ih =>
      obtain ⟨n, e⟩ := r
      obtain ⟨hn, hl⟩ := nonEmpty_cons.mp hnonempty
      rw [total_cons] at hlength
      refine pairwise_cons.mpr ⟨fun j hj => ?_, ih hl (by omega) (p + n)⟩
      obtain ⟨a, b, ha, hab, hb, hbeg, -⟩ := mem_itemsOf hl hj
      rw [hbeg, seqLE_nth (by omega) (by omega)]
      exact ha

/-- What is found of an octet. -/
theorem Represents.get (h : Represents base s q runs) (seq : SeqNo) :
    (q.get seq).map Item.transmits = s.octets[(seq - nth base s.first).toNat]? := by
  have hget := get_itemsOf base s.first h.nonEmpty h.length seq
  rw [h.octets, ← hget, ← h.regions]

/-- In every run, what is found of an octet that was not cleared counts its sendings, and nothing is found of what was
never sent. -/
theorem run_counts (base : SeqNo) (ops : List TransmitOp) (hallowed : SentOctets.AllAllowed ⟨0, []⟩ ops) :
    ∃ q, run base ⟨[]⟩ ops = .ok q ∧ q.Tiled ∧
      (∀ p, ClearedBelow p ops → times p ops ≠ [] → ∃ i, q.get (nth base p) = some i ∧ i.Counts (times p ops)) ∧
      ∀ seq, (∀ p, nth base p = seq → times p ops = []) → q.get seq = none := by
  have hstart : Represents base ⟨0, []⟩ ⟨[]⟩ [] := ⟨rfl, rfl, by simp [NonEmpty], by simp⟩
  obtain ⟨q, s, runs, hrun, hrep, hrecalls⟩ := run_represents hstart (.nil 0) hallowed
  refine ⟨q, hrun, hrep.tiled, fun p hp hsent => ?_, fun seq hnever => ?_⟩
  · cases hoctet : s.octet p with
    | none => exact absurd (hrecalls.unsent p hp hoctet) hsent
    | some e =>
      have hcounts := hrecalls.counts p e hp hoctet
      have hfirst : ¬ p < s.first := by
        intro hlt
        rw [SentOctets.octet, if_pos hlt] at hoctet
        cases hoctet
      rw [SentOctets.octet, if_neg hfirst] at hoctet
      have hlt : p - s.first < total runs := by
        have hin := (List.getElem?_eq_some_iff.mp hoctet).1
        rwa [hrep.octets, length_expand] at hin
      have hlength := hrep.length
      have hget := hrep.get (nth base p)
      rw [toNat_nth_sub base (Nat.not_lt.mp hfirst) (by omega), hoctet, map_eq_some_iff] at hget
      obtain ⟨i, hi, rfl⟩ := hget
      exact ⟨i, hi, hcounts.transmitCount, hcounts.firstSentTime, hcounts.lastSentTime⟩
  · cases hfound : q.get seq with
    | none => rfl
    | some i =>
      have hget := hrep.get seq
      rw [hfound] at hget
      have hseq : nth base (s.first + (seq - nth base s.first).toNat) = seq := by
        rw [← nth_nth]
        exact (eq_nth (nth base s.first) seq).symm
      have hoctet : s.octet (s.first + (seq - nth base s.first).toNat) = some i.transmits := by
        rw [SentOctets.octet, if_neg (by omega), Nat.add_sub_cancel_left, ← hget]
        rfl
      exact absurd (hnever _ hseq) (hrecalls.sent _ _ hoctet)

/-- Octets 12 to 15 are sent three times. -/
def resend : List TransmitOp := [.set 0 10 1, .set 10 20 2, .clearTo 4, .set 8 15 3, .set 12 25 4]

theorem resend_counts :
    ∃ q, run 0xfffffff8 ⟨[]⟩ resend = .ok q ∧ ∃ i, q.get (nth 0xfffffff8 13) = some i ∧ i.Counts [2, 3, 4] := by
  obtain ⟨q, hrun, -, hcounts, -⟩ := run_counts 0xfffffff8 resend (by decide)
  have hcleared : ClearedBelow 13 resend := by
    intro s hs
    simp [resend] at hs
    omega
  exact ⟨q, hrun, hcounts 13 hcleared (by decide)⟩

/-- All assertions hold, but the regions reach further than half of the sequence space; or `clearTo` goes back. -/
theorem octet_not_found :
    (∃ q, run 0 ⟨[]⟩ [.set 0 0x7fffffff 1, .set 0x7fffffff 0xfffffffe 2] = .ok q ∧
      times 0x80000005 [.set 0 0x7fffffff 1, .set 0x7fffffff 0xfffffffe 2] = [2] ∧ q.get (nth 0 0x80000005) = none) ∧
    ∃ q, run 0 ⟨[]⟩ [.set 0 200 1, .clearTo 100, .clearTo 50] = .ok q ∧
      times 70 [.set 0 200 1, .clearTo 100, .clearTo 50] = [1] ∧ q.get (nth 0 70) = none := by
  constructor
  · refine exists_ok (by decide) ?_
    decide
  · refine exists_ok (by decide) ?_
    decide

end TCPSegmentTransmitInfoList

end Inet.Tcp
