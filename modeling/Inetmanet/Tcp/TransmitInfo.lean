import Inetmanet.Lib.RunLength
import Inetmanet.Simulation
import Inetmanet.Tcp.SeqNo

/-!
# When octets have been transmitted

`TCPSegmentTransmitInfoList.cc`: for every octet, when it was sent for the first and for
the last time and how often, in regions of octets that have been sent together. Octets
stand at positions counted from an arbitrary base number.
-/
namespace Inet.Tcp

open SerialNumber RunLength List

structure Item where
  beg : SeqNo
  endNo : SeqNo
  /-- Of the first sending. -/
  firstSentTime : Int
  lastSentTime : Int
  transmitCount : Nat
  deriving DecidableEq, Repr

structure TCPSegmentTransmitInfoList where
  regions : List Item
  deriving DecidableEq, Repr

namespace TCPSegmentTransmitInfoList

/-- An item that is sent once more. -/
def again (sentTime : Int) (i : Item) : Item :=
  { i with
    firstSentTime := min i.firstSentTime sentTime
    lastSentTime := max i.lastSentTime sentTime
    transmitCount := i.transmitCount + 1 }

/-- The loop over the regions that end up to `endNo`, and what comes after it. -/
def sweep (endNo : SeqNo) (sentTime : Int) : SeqNo → List Item → Sim (List Item)
  | beg, [] => .ok (if beg ≠ endNo then [⟨beg, endNo, sentTime, sentTime, 1⟩] else [])
  | beg, i :: l =>
    if seqLE i.endNo endNo then do
      ensure (beg = i.beg) "beg == i->beg"
      let l ← sweep endNo sentTime i.endNo l
      .ok (again sentTime i :: l)
    else if beg ≠ endNo then do
      ensure (beg = i.beg) "beg == i->beg"
      .ok (again sentTime { i with beg := beg, endNo := endNo } :: { i with beg := endNo } :: l)
    else .ok (i :: l)

/-- The search for the region around `beg`, which is split there. -/
def update (beg endNo : SeqNo) (sentTime : Int) : List Item → Sim (List Item)
  -- there is no region that `i` could point to
  | [] => .error (.nullPointer "i")
  | i :: l =>
    if seqLE i.endNo beg then (update beg endNo sentTime l).map (i :: ·)
    else do
      ensure (seqLE i.beg beg) "seqLE(i->beg, beg)"
      if beg ≠ i.beg then
        (sweep endNo sentTime beg ({ i with beg := beg } :: l)).map ({ i with endNo := beg } :: ·)
      else sweep endNo sentTime beg (i :: l)

def set (q : TCPSegmentTransmitInfoList) (beg endNo : SeqNo) (sentTime : Int) : Sim TCPSegmentTransmitInfoList := do
  ensure (seqLess beg endNo) "seqLess(beg, end)"
  match q.regions.head?, q.regions.getLast? with
  | some front, some back =>
    ensure (seqLE front.beg beg ∧ seqLE beg back.endNo)
      "regions.empty() || (seqLE(regions.front().beg, beg) && seqLE(beg, regions.back().end))"
    if back.endNo = beg then .ok ⟨q.regions ++ [⟨beg, endNo, sentTime, sentTime, 1⟩]⟩
    else if endNo = front.beg then .ok ⟨⟨beg, endNo, sentTime, sentTime, 1⟩ :: q.regions⟩
    else (update beg endNo sentTime q.regions).map .mk
  | _, _ => .ok ⟨[⟨beg, endNo, sentTime, sentTime, 1⟩]⟩

/-- The loop of `get`. -/
def find (seq : SeqNo) : List Item → Option Item
  | [] => none
  | i :: l =>
    if seqLess seq i.beg then none
    else if seqLE i.beg seq ∧ seqLess seq i.endNo then some i
    else find seq l

def get (q : TCPSegmentTransmitInfoList) (seq : SeqNo) : Option Item := find seq q.regions

/-- The regions that are left below `endseq` are cut off. -/
def cut (endseq : SeqNo) : List Item → List Item
  | [] => []
  | i :: l => if seqLE i.endNo endseq then cut endseq l
    else if seqLess i.beg endseq then { i with beg := endseq } :: l else i :: l

def clearTo (q : TCPSegmentTransmitInfoList) (endseq : SeqNo) : TCPSegmentTransmitInfoList := ⟨cut endseq q.regions⟩

example : (set ⟨[⟨0, 10, 1, 1, 1⟩, ⟨10, 20, 2, 2, 1⟩]⟩ 5 25 3).map regions =
    .ok [⟨0, 5, 1, 1, 1⟩, ⟨5, 10, 1, 3, 2⟩, ⟨10, 20, 2, 3, 2⟩, ⟨20, 25, 3, 3, 1⟩] := by decide

end TCPSegmentTransmitInfoList

/-- What an item says of its octets. -/
structure Transmits where
  firstSentTime : Int
  lastSentTime : Int
  transmitCount : Nat
  deriving DecidableEq, Repr

namespace Transmits

/-- Sent for the first time. -/
def once (sentTime : Int) : Transmits := ⟨sentTime, sentTime, 1⟩

def again (sentTime : Int) (e : Transmits) : Transmits :=
  ⟨min e.firstSentTime sentTime, max e.lastSentTime sentTime, e.transmitCount + 1⟩

end Transmits

def Item.transmits (i : Item) : Transmits := ⟨i.firstSentTime, i.lastSentTime, i.transmitCount⟩

/-- The items of runs of octets, from a position on. -/
def itemsOf (base : SeqNo) : Nat → List (Nat × Transmits) → List Item
  | _, [] => []
  | p, (n, e) :: l =>
    ⟨nth base p, nth base (p + n), e.firstSentTime, e.lastSentTime, e.transmitCount⟩ :: itemsOf base (p + n) l

/-- No run is empty. -/
def NonEmpty (l : List (Nat × Transmits)) : Prop := ∀ r ∈ l, 0 < r.1

theorem nonEmpty_cons {r : Nat × Transmits} {l : List (Nat × Transmits)} :
    NonEmpty (r :: l) ↔ 0 < r.1 ∧ NonEmpty l := by
  simp [NonEmpty]

namespace TCPSegmentTransmitInfoList

variable {base : SeqNo} {p : Nat} {l : List (Nat × Transmits)}

/-- The octets from the `i`-th up to the `j`-th one have been sent once more, or for the first time. -/
def Resent (i j : Nat) (sentTime : Int) (l l' : List (Nat × Transmits)) : Prop :=
  NonEmpty l' ∧ expand l' = onRange i j (Transmits.again sentTime) (expand l) ++
    List.replicate (j - total l) (Transmits.once sentTime)

theorem sweep_itemsOf (base : SeqNo) (p : Nat) (sentTime : Int) {d : Nat} (hl : NonEmpty l)
    (hlength : total l < 2 ^ 31) (hd : d < 2 ^ 31) :
    ∃ l', sweep (nth base (p + d)) sentTime (nth base p) (itemsOf base p l) = .ok (itemsOf base p l') ∧
      Resent 0 d sentTime l l' := by
  induction l generalizing p d with
  | nil =>
    have hne : nth base p ≠ nth base (p + d) ↔ d ≠ 0 := by
      rw [Ne, nth_eq_nth (by omega) (by omega)]
      omega
    rw [itemsOf, sweep]
    by_cases hzero : d = 0
    · rw [if_neg (by rw [hne]; omega)]
      exact ⟨[], rfl, by simp [NonEmpty], by simp [hzero, onRange]⟩
    · rw [if_pos (hne.mpr hzero)]
      refine ⟨[(d, .once sentTime)], rfl, ?_, by simp [onRange]⟩
      exact nonEmpty_cons.mpr ⟨Nat.pos_of_ne_zero hzero, by simp [NonEmpty]⟩
  | cons r l ih =>
    obtain ⟨n, e⟩ := r
    obtain ⟨hn, hl'⟩ := nonEmpty_cons.mp hl
    simp only [total_cons] at hlength hn
    have hle : seqLE (nth base (p + n)) (nth base (p + d)) ↔ n ≤ d := by
      rw [seqLE_nth (by omega) (by omega)]
      omega
    have hne : nth base p ≠ nth base (p + d) ↔ d ≠ 0 := by
      rw [Ne, nth_eq_nth (by omega) (by omega)]
      omega
    rw [itemsOf, sweep]
    by_cases hnd : n ≤ d
    · -- the whole run
      obtain ⟨l', hok, hnonempty, hexpand⟩ := ih (p := p + n) (d := d - n) hl' (by omega) (by omega)
      have hend : p + n + (d - n) = p + d := by omega
      rw [hend] at hok
      rw [if_pos (hle.mpr hnd), ensure_pos rfl, hok]
      refine ⟨(n, e.again sentTime) :: l', rfl, nonEmpty_cons.mpr ⟨hn, hnonempty⟩, ?_⟩
      have hrest : d - n - total l = d - total ((n, e) :: l) := by
        rw [total_cons]
        omega
      rw [hrest] at hexpand
      rw [expand_cons, hexpand, expand_cons, onRange_append,
        onRange_all (l := replicate n e) _ rfl (by simpa using hnd)]
      simp
    · have hnone : d - total ((n, e) :: l) = 0 := by
        rw [total_cons]
        omega
      rw [if_neg (mt hle.mp hnd)]
      by_cases hzero : d = 0
      · rw [if_neg (by rw [hne]; omega)]
        refine ⟨(n, e) :: l, rfl, hl, ?_⟩
        rw [hnone, onRange_none _ (.inr (by omega))]
        simp
      · -- the front of the run
        rw [if_pos (hne.mpr hzero), ensure_pos rfl]
        refine ⟨(d, e.again sentTime) :: (n - d, e) :: l, ?_, ?_, ?_⟩
        · have hend : p + d + (n - d) = p + n := by omega
          simp only [itemsOf, hend]
          rfl
        · exact nonEmpty_cons.mpr ⟨by simp only; omega, nonEmpty_cons.mpr ⟨by simp only; omega, hl'⟩⟩
        · have hcut := replicate_cut (k := d) (n := n) (by omega) e
          rw [hnone, expand_cons, expand_cons, expand_cons, hcut, append_assoc, onRange_append,
            onRange_all (l := replicate d e) _ rfl (by simp), onRange_none _ (.inr (by simp))]
          simp

theorem update_itemsOf (base : SeqNo) (p : Nat) (sentTime : Int) {i j : Nat} (hl : NonEmpty l)
    (hlength : total l < 2 ^ 31) (hi : i < total l) (hij : i < j) (hj : j < 2 ^ 31) :
    ∃ l', update (nth base (p + i)) (nth base (p + j)) sentTime (itemsOf base p l) = .ok (itemsOf base p l') ∧
      Resent i j sentTime l l' := by
  induction l generalizing p i j with
  | nil => simp at hi
  | cons r l ih =>
    obtain ⟨n, e⟩ := r
    obtain ⟨hn, hl'⟩ := nonEmpty_cons.mp hl
    simp only [total_cons] at hlength hn hi
    have hle : seqLE (nth base (p + n)) (nth base (p + i)) ↔ n ≤ i := by
      rw [seqLE_nth (by omega) (by omega)]
      omega
    rw [itemsOf, update]
    by_cases hni : n ≤ i
    · -- the run lies before the octets that are sent
      obtain ⟨l', hok, hnonempty, hexpand⟩ :=
        ih (p := p + n) (i := i - n) (j := j - n) hl' (by omega) (by omega) (by omega) (by omega)
      have hbeg : p + n + (i - n) = p + i := by omega
      have hend : p + n + (j - n) = p + j := by omega
      rw [hbeg, hend] at hok
      rw [if_pos (hle.mpr hni), hok]
      refine ⟨(n, e) :: l', rfl, nonEmpty_cons.mpr ⟨hn, hnonempty⟩, ?_⟩
      have hrest : j - n - total l = j - total ((n, e) :: l) := by
        rw [total_cons]
        omega
      rw [hrest] at hexpand
      rw [expand_cons, hexpand, expand_cons, onRange_append,
        onRange_none (l := replicate n e) _ (.inl (by simpa using hni))]
      simp
    · have hbeg : seqLE (nth base p) (nth base (p + i)) := by
        rw [seqLE_nth (by omega) (by omega)]
        omega
      have hne : nth base (p + i) ≠ nth base p ↔ i ≠ 0 := by
        rw [Ne, nth_eq_nth (by omega) (by omega)]
        omega
      rw [if_neg (mt hle.mp hni), ensure_pos hbeg]
      by_cases hzero : i = 0
      · obtain ⟨l', hok, hresent⟩ := sweep_itemsOf base p sentTime hl (by rw [total_cons]; omega) hj
        rw [itemsOf] at hok
        refine ⟨l', ?_, by rw [hzero]; exact hresent⟩
        simp only [hzero, Nat.add_zero, ne_eq, not_true_eq_false, if_false]
        exact hok
      · -- the run is split
        have hright : NonEmpty ((n - i, e) :: l) := nonEmpty_cons.mpr ⟨by simp only; omega, hl'⟩
        obtain ⟨l', hok, hnonempty, hexpand⟩ := sweep_itemsOf base (p + i) (d := j - i) sentTime hright
          (by rw [total_cons]; omega) (by omega)
        have hend : p + i + (j - i) = p + j := by omega
        have hsplit : p + i + (n - i) = p + n := by omega
        rw [itemsOf, hend] at hok
        simp only [hsplit] at hok
        have hcut := replicate_cut (k := i) (n := n) (by omega) e
        have hrest : j - i - total ((n - i, e) :: l) = j - total ((n, e) :: l) := by
          rw [total_cons, total_cons]
          omega
        refine ⟨(i, e) :: l', ?_, nonEmpty_cons.mpr ⟨Nat.pos_of_ne_zero hzero, hnonempty⟩, ?_⟩
        · rw [if_pos (hne.mpr hzero), hok]
          rfl
        · rw [hrest, expand_cons] at hexpand
          rw [expand_cons, hexpand, expand_cons, hcut, append_assoc, onRange_append i j,
            onRange_none (l := replicate i e) _ (.inl (by simp))]
          simp

theorem itemsOf_append (base : SeqNo) (p : Nat) (l m : List (Nat × Transmits)) :
    itemsOf base p (l ++ m) = itemsOf base p l ++ itemsOf base (p + total l) m := by
  induction l generalizing p with
  | nil => rfl
  | cons r l ih =>
    simp [itemsOf, ih, Nat.add_assoc]

/-- Where the items start and end. -/
theorem ends_itemsOf (base : SeqNo) (p : Nat) (hl : l ≠ []) :
    ∃ front back, (itemsOf base p l).head? = some front ∧ (itemsOf base p l).getLast? = some back ∧
      front.beg = nth base p ∧ back.endNo = nth base (p + total l) := by
  induction l generalizing p with
  | nil => exact absurd rfl hl
  | cons r l ih =>
    obtain ⟨n, e⟩ := r
    cases l with
    | nil => exact ⟨_, _, rfl, rfl, rfl, by simp [itemsOf]⟩
    | cons r l =>
      obtain ⟨-, back, -, hback, -, hend⟩ := ih (p + n) (by simp)
      refine ⟨_, back, rfl, ?_, rfl, ?_⟩
      · rw [itemsOf, getLast?_cons, hback]
        rfl
      · rw [hend, total_cons (n, e), ← Nat.add_assoc]

/-- Octets within the regions or right behind them are sent. -/
theorem set_itemsOf (base : SeqNo) (p : Nat) (sentTime : Int) {i j : Nat} (hl : NonEmpty l) (hne : l ≠ [])
    (hi : i ≤ total l) (hij : i < j) (hj : j < 2 ^ 31) (hlength : total l < 2 ^ 31) :
    ∃ l', set ⟨itemsOf base p l⟩ (nth base (p + i)) (nth base (p + j)) sentTime = .ok ⟨itemsOf base p l'⟩ ∧
      Resent i j sentTime l l' := by
  obtain ⟨front, back, hfront, hback, hbeg, hend⟩ := ends_itemsOf base p hne
  have hless : seqLess (nth base (p + i)) (nth base (p + j)) := by
    rw [seqLess_nth (by omega) (by omega)]
    omega
  have haround : seqLE front.beg (nth base (p + i)) ∧ seqLE (nth base (p + i)) back.endNo := by
    rw [hbeg, hend, seqLE_nth (by omega) (by omega), seqLE_nth (by omega) (by omega)]
    omega
  have hlast : back.endNo = nth base (p + i) ↔ i = total l := by
    rw [hend, nth_eq_nth (by omega) (by omega)]
    omega
  have hfirst : nth base (p + j) ≠ front.beg := by
    rw [hbeg, Ne, nth_eq_nth (by omega) (by omega)]
    omega
  rw [set, ensure_pos hless]
  simp only [hfront, hback, ensure_pos haround]
  by_cases hitotal : i = total l
  · -- behind the last region
    have hend' : p + i + (j - i) = p + j := by omega
    refine ⟨l ++ [(j - i, .once sentTime)], ?_, ?_, ?_⟩
    · simp only [bind, Except.bind, if_pos (hlast.mpr hitotal)]
      rw [itemsOf_append, ← hitotal, itemsOf, itemsOf, hend']
      rfl
    · intro r hr
      rcases mem_append.mp hr with hr | hr
      · exact hl r hr
      · rw [mem_singleton.mp hr]
        omega
    · rw [expand_append, onRange_none _ (.inl (by rw [length_expand]; omega))]
      simp [hitotal]
  · obtain ⟨l', hok, hresent⟩ := update_itemsOf base p sentTime hl hlength (by omega) hij hj
    refine ⟨l', ?_, hresent⟩
    simp only [bind, Except.bind, if_neg (mt hlast.mp hitotal), if_neg hfirst, hok]
    rfl

/-- The first octets. -/
theorem set_nil (base : SeqNo) (sentTime : Int) {a b : Nat} (hab : a < b) (hb : b < a + 2 ^ 31) :
    set ⟨[]⟩ (nth base a) (nth base b) sentTime = .ok ⟨itemsOf base a [(b - a, .once sentTime)]⟩ := by
  have hless : seqLess (nth base a) (nth base b) := by
    rw [seqLess_nth (by omega) (by omega)]
    exact hab
  have hend : a + (b - a) = b := by omega
  rw [set, ensure_pos hless]
  simp only [itemsOf, hend]
  rfl

theorem find_itemsOf (base : SeqNo) (p : Nat) {k : Nat} (hlength : total l < 2 ^ 31) (hk : k < 2 ^ 31) :
    (find (nth base (p + k)) (itemsOf base p l)).map Item.transmits = (expand l)[k]? := by
  induction l generalizing p k with
  | nil => rfl
  | cons r l ih =>
    obtain ⟨n, e⟩ := r
    simp only [total_cons] at hlength
    have hbefore : ¬ seqLess (nth base (p + k)) (nth base p) := by
      rw [seqLess_nth (by omega) (by omega)]
      omega
    have hbeg : seqLE (nth base p) (nth base (p + k)) := by
      rw [seqLE_nth (by omega) (by omega)]
      omega
    have hin : seqLess (nth base (p + k)) (nth base (p + n)) ↔ k < n := by
      rw [seqLess_nth (by omega) (by omega)]
      omega
    rw [itemsOf, find, if_neg hbefore, expand_cons]
    by_cases hkn : k < n
    · rw [if_pos ⟨hbeg, hin.mpr hkn⟩, getElem?_append_left (by simpa using hkn), getElem?_replicate_of_lt hkn]
      rfl
    · have hrest := ih (p := p + n) (k := k - n) (by omega) (by omega)
      have hpos : p + n + (k - n) = p + k := by omega
      rw [hpos] at hrest
      rw [if_neg fun h => hkn (hin.mp h.2), hrest, getElem?_append_right (by simpa using hkn),
        length_replicate]

/-- What is found of any sequence number. -/
theorem get_itemsOf (base : SeqNo) (p : Nat) (hl : NonEmpty l) (hlength : total l < 2 ^ 31) (seq : SeqNo) :
    (get ⟨itemsOf base p l⟩ seq).map Item.transmits = (expand l)[(seq - nth base p).toNat]? := by
  have hseq : seq = nth base (p + (seq - nth base p).toNat) := by
    rw [← nth_nth]
    exact eq_nth (nth base p) seq
  have hlt : (seq - nth base p).toNat < 2 ^ 32 := BitVec.isLt _
  generalize (seq - nth base p).toNat = k at hseq hlt
  rw [hseq, get]
  by_cases hk : k < 2 ^ 31
  · exact find_itemsOf base p hlength hk
  · -- so far beyond the regions that it counts as before them
    rw [getElem?_eq_none (by rw [length_expand]; omega)]
    cases l with
    | nil => rfl
    | cons r l =>
      obtain ⟨n, e⟩ := r
      simp only [total_cons] at hlength
      have hn : 0 < n := (nonEmpty_cons.mp hl).1
      have hbeg : ¬ seqLE (nth base p) (nth base (p + k)) := not_le_nth_of_far base (by omega) (by omega)
      rw [itemsOf, find]
      by_cases hbefore : seqLess (nth base (p + k)) (nth base p)
      · rw [if_pos hbefore]
        rfl
      · have hnear : k ≤ 2 ^ 31 := by
          apply Classical.byContradiction
          intro hfar
          refine hbefore ⟨?_, le_nth_of_far base (by decide) (by omega) (by omega)⟩
          rw [Ne, nth_eq_nth (by omega) (by omega)]
          omega
        have hrest := find_itemsOf base (p + n) (l := l) (k := k - n) (by omega) (by omega)
        have hpos : p + n + (k - n) = p + k := by omega
        rw [hpos, getElem?_eq_none (by rw [length_expand]; omega)] at hrest
        rw [if_neg hbefore, if_neg fun h => hbeg h.1]
        exact hrest

/-- The octets below a position are forgotten. -/
theorem cut_itemsOf (base : SeqNo) {s : Nat} (hl : NonEmpty l) (hnear : s < p + 2 ^ 31)
    (hnear' : p + total l < s + 2 ^ 31) :
    ∃ l', cut (nth base s) (itemsOf base p l) = itemsOf base (max p s) l' ∧ NonEmpty l' ∧
      expand l' = (expand l).drop (s - p) := by
  induction l generalizing p with
  | nil => exact ⟨[], rfl, hl, by simp⟩
  | cons r l ih =>
    obtain ⟨n, e⟩ := r
    obtain ⟨hn, hl'⟩ := nonEmpty_cons.mp hl
    simp only [total_cons] at hnear' hn
    have hend : seqLE (nth base (p + n)) (nth base s) ↔ p + n ≤ s := seqLE_nth (by omega) (by omega)
    have hbeg : seqLess (nth base p) (nth base s) ↔ p < s := seqLess_nth (by omega) (by omega)
    rw [itemsOf, cut]
    by_cases hall : p + n ≤ s
    · obtain ⟨l', hcut, hnonempty, hexpand⟩ := ih (p := p + n) hl' (by omega) (by omega)
      have hmax : max (p + n) s = max p s := by omega
      have hdrop : s - p = n + (s - (p + n)) := by omega
      rw [hmax] at hcut
      refine ⟨l', ?_, hnonempty, ?_⟩
      · rw [if_pos (hend.mpr hall), hcut]
      · rw [hexpand, expand_cons, hdrop, ← drop_drop, drop_left' (by simp)]
    · rw [if_neg (mt hend.mp hall)]
      by_cases hps : p < s
      · -- the region around the position
        have hmax : max p s = s := by omega
        have hsplit : s + (p + n - s) = p + n := by omega
        have hcut := replicate_cut (k := s - p) (n := n) (by omega) e
        have hcount : n - (s - p) = p + n - s := by omega
        refine ⟨(p + n - s, e) :: l, ?_, nonEmpty_cons.mpr ⟨by simp only; omega, hl'⟩, ?_⟩
        · rw [if_pos (hbeg.mpr hps), hmax, itemsOf, hsplit]
        · rw [expand_cons, expand_cons, hcut, append_assoc, drop_left' (by simp), hcount]
      · have hmax : max p s = p := by omega
        have hzero : s - p = 0 := by omega
        refine ⟨(n, e) :: l, ?_, hl, by rw [hzero]; rfl⟩
        rw [if_neg (mt hbeg.mp hps), hmax, itemsOf]

end TCPSegmentTransmitInfoList

end Inet.Tcp
