import Inetmanet.Sctp.StreamScheduler

/-!
# A look at the next stream

Peeking tells what a scheduler would choose and changes nothing: this holds of some of
the schedulers in every state, and of the others under conditions on their variables.
-/
namespace Inet.Sctp.StreamScheduler

open List BitVec Option Except CircularScan

variable {n : Nat} {around : Around n}

theorem loop_next {σ : Type} (last : Fin n) (body : σ → Fin n → σ) (found : σ → Bool) (s : σ)
    (hfound : ∀ s i, found s → body s i = s) :
    Around.loop last (next last) body found s = .ok ((circle last).foldl body s) := by
  simp only [Around.loop, scan_next hfound]

/-- A search that goes through a list chooses what has the property, and misses nothing. -/
theorem foldl_choose {σ : Type} (sid : σ → Option (Fin n)) {f : σ → Fin n → σ} {p : Fin n → Prop}
    (hf : ∀ s i, sid (f s i) = sid s ∧ (p i → sid s ≠ none) ∨ sid (f s i) = some i ∧ p i) (l : List (Fin n))
    (s : σ) :
    (∀ i, sid (l.foldl f s) = some i → sid s = some i ∨ i ∈ l ∧ p i) ∧
      (sid (l.foldl f s) = none → sid s = none ∧ ∀ i ∈ l, ¬ p i) := by
  induction l generalizing s with
  | nil => exact ⟨fun i h => .inl h, fun h => ⟨h, fun i hi => absurd hi not_mem_nil⟩⟩
  | cons i l ih =>
    obtain ⟨hsome, hnone⟩ := ih (f s i)
    constructor
    · intro j hj
      rcases hsome j hj with hj | ⟨hmem, hp⟩
      · rcases hf s i with ⟨hsame, -⟩ | ⟨hnew, hp⟩
        · exact .inl (hsame ▸ hj)
        · cases some.inj (hnew.symm.trans hj)
          exact .inr ⟨List.mem_cons_self, hp⟩
      · exact .inr ⟨List.mem_cons_of_mem _ hmem, hp⟩
    · intro hn
      obtain ⟨hs, hrest⟩ := hnone hn
      rcases hf s i with ⟨hsame, hmiss⟩ | ⟨hnew, -⟩
      · refine ⟨hsame ▸ hs, fun j hj => ?_⟩
        rcases mem_cons.mp hj with rfl | hj
        · exact fun hp => hmiss hp (hsame ▸ hs)
        · exact hrest j hj
      · rw [hnew] at hs
        cases hs

section

variable (around : Around n)

/-- The streams a scheduler may choose from. In the middle of a packet this is the last one. -/
def Eligible (scheduler : SCTPStreamScheduler) (state : State n) (sid : Fin n) : Prop :=
  match scheduler with
  | .ROUND_ROBIN_PACKET | .RANDOM_SCHEDULE_PACKET | .FAIR_BANDWITH_PACKET =>
    state.ssNextStream ∨ sid = state.lastStreamScheduled
  | .PATH_MANUAL => state.ssStreamToPathMap sid = some (BitVec.ofNat 32 around.path)
  | .PATH_MAP_TO_PATH => around.thisPath = some (sid.val % around.workingPaths)
  | _ => True

/-- A stream that is chosen has data, and none is chosen only if no stream in question has data. -/
structure Chooses (eligible : Fin n → Prop) (sid : Option (Fin n)) : Prop where
  some : ∀ s, sid = some s → around.HasData s
  none : sid = none → ∀ s, eligible s → ¬ around.HasData s

/-- A look changes nothing and tells what the next call chooses. The random numbers of the two calls are `draw` and
`draw'`. -/
def Faithful (draw draw' : Draw) (scheduler : SCTPStreamScheduler) (state : State n) : Prop :=
  ∃ sid, ssGetNextSid around draw scheduler true state = .ok (sid, state) ∧
    (∃ state', ssGetNextSid around draw' scheduler false state = .ok (sid, state')) ∧
    Chooses around (Eligible around scheduler state) sid

/-- The entry of a stream with data will not be negative. -/
def InMap (state : State n) (sid : Fin n) : Prop :=
  if ((state.ssFairBandwidthMap sid).getD 0).toInt < 0 then 0 < (packetsize around sid).toInt
  else state.ssLastDataChunkSizeSet ∧ sid = state.lastStreamScheduled → 0 ≤ (packetsize around sid).toInt

/-- The condition under which a look is faithful. -/
def Peekable (draw draw' : Draw) (scheduler : SCTPStreamScheduler) (state : State n) : Prop :=
  let last := state.lastStreamScheduled
  let waiting := (waitingSendStreams around).length
  match scheduler with
  | .ROUND_ROBIN => state.ssNextStream ∨ ¬ around.HasData last
  | .ROUND_ROBIN_PACKET => True
  | .RANDOM_SCHEDULE => state.ssNextStream ∧ (waiting = 0 ∨ draw.rnd waiting = draw'.rnd waiting)
  | .RANDOM_SCHEDULE_PACKET => state.ssNextStream → waiting = 0 ∨ draw.rnd waiting = draw'.rnd waiting
  | .FAIR_BANDWITH =>
    state.ssNextStream ∧ (∃ sid, state.ssFairBandwidthMap sid ≠ none) ∧
      (waiting = 0 ∨ ∃ sid, around.HasData sid ∧ InMap around state sid)
  | .FAIR_BANDWITH_PACKET =>
    (∃ sid, state.ssFairBandwidthMap sid ≠ none) ∧
      (state.ssNextStream → waiting = 0 ∨ ∃ sid, around.HasData sid ∧ InMap around state sid)
  | .PRIORITY =>
    state.ssNextStream ∧ (¬ state.ssLastDataChunkSizeSet ∧ around.HasData last ∨
      (∀ sid sid', around.HasData sid → around.HasData sid' → sid = sid') ∨
      ∀ sid, around.HasData sid → state.ssPriorityMap sid ≠ none)
  | .FCFS => state.ssNextStream
  | .PATH_MANUAL =>
    ∀ k < n, (∀ j < k, state.ssStreamToPathMap (CircularScan.ahead last j) ≠ some (BitVec.ofNat 32 around.path)) →
      ∃ pathNo, state.ssStreamToPathMap (CircularScan.ahead last k) = some pathNo ∧
        (pathNo = BitVec.ofNat 32 around.path → around.HasData (CircularScan.ahead last k))
  | .PATH_MAP_TO_PATH => True

end

theorem State.of_ssNextStream {state : State n} (h : state.ssNextStream = true) :
    { state with ssNextStream := true } = state := by
  rw [← h]

variable (around) in
theorem nextWithData_ok (last : Fin n) :
    ∃ sid, nextWithData around last = .ok sid ∧ Chooses around (fun _ => True) sid := by
  refine ⟨_, loop_next _ _ _ _ fun s i hs => ?_, ?_⟩
  · rw [if_neg fun h => by rw [isNone_iff_eq_none.mp h.1] at hs; cases hs]
  · have hchoose := foldl_choose id (p := around.HasData)
      (f := fun sid testsid => if sid.isNone ∧ around.HasData testsid then some testsid else sid) (fun s i => ?_)
      (circle last) none
    · refine ⟨fun s hs => ?_, fun hn s _ => (hchoose.2 hn).2 s (mem_circle s)⟩
      rcases hchoose.1 s hs with h | h
      · cases h
      · exact h.2
    · by_cases hs : s.isNone = true ∧ around.HasData i
      · rw [if_pos hs]
        exact .inr ⟨rfl, hs.2⟩
      · rw [if_neg hs]
        exact .inl ⟨rfl, fun hp hn => hs ⟨isNone_iff_eq_none.mpr hn, hp⟩⟩

theorem chooses_last (last : Fin n) :
    Chooses around (· = last) (if around.HasData last then some last else none) := by
  by_cases h : around.HasData last
  · rw [if_pos h]
    exact ⟨fun s hs => some.inj hs ▸ h, fun hn => (nomatch hn)⟩
  · rw [if_neg h]
    exact ⟨fun s hs => (nomatch hs), fun _ s hs => hs ▸ h⟩

theorem Chooses.mono {eligible eligible' : Fin n → Prop} {sid : Option (Fin n)} (h : Chooses around eligible sid)
    (hsub : ∀ s, eligible' s → eligible s) : Chooses around eligible' sid :=
  ⟨h.some, fun hn s hs => h.none hn s (hsub s hs)⟩

variable {draw draw' : Draw} {state : State n} {m : Fin n → Option (BitVec 32)}

theorem streamScheduler_faithful_iff :
    Faithful around draw draw' .ROUND_ROBIN state ↔ Peekable around draw draw' .ROUND_ROBIN state := by
  simp only [Faithful, ssGetNextSid, streamScheduler, Peekable]
  by_cases hagain : (¬ state.ssLastDataChunkSizeSet = true ∨ ¬ state.ssNextStream = true) ∧
      around.HasData state.lastStreamScheduled
  · simp only [if_pos hagain, if_true]
    constructor
    · rintro ⟨sid, hpeek, -⟩
      have hsame := congrArg (fun r => r.map fun p => p.2.ssNextStream) hpeek
      exact .inl (ok.inj hsame).symm
    · intro hcond
      have hnext : state.ssNextStream = true := hcond.resolve_right fun h => h hagain.2
      refine ⟨some state.lastStreamScheduled, ?_, ⟨_, rfl⟩, ?_, by rintro ⟨⟩⟩
      · exact congrArg (fun s => ok (_, s)) (State.of_ssNextStream hnext)
      · exact fun s hs => some.inj hs ▸ hagain.2
  · simp only [if_neg hagain]
    obtain ⟨sid, hsid, hchooses⟩ := nextWithData_ok around state.lastStreamScheduled
    rw [hsid]
    refine ⟨fun _ => ?_, fun _ => ⟨sid, ?_, ⟨_, rfl⟩, hchooses⟩⟩
    · by_cases hdata : around.HasData state.lastStreamScheduled
      · exact .inl (Decidable.not_not.mp fun h => hagain ⟨.inr h, hdata⟩)
      · exact .inr hdata
    · simp only [not_true_eq_false, and_false, if_false]
      rfl

theorem roundRobinPacket_faithful : Faithful around draw draw' .ROUND_ROBIN_PACKET state := by
  simp only [Faithful, ssGetNextSid, streamSchedulerRoundRobinPacket]
  by_cases hnext : state.ssNextStream = true
  · obtain ⟨sid, hsid, hchooses⟩ := nextWithData_ok around state.lastStreamScheduled
    simp only [if_pos hnext, hsid]
    refine ⟨sid, ?_, ⟨_, rfl⟩, hchooses.mono fun _ _ => trivial⟩
    simp only [not_true_eq_false, and_false, if_false]
    rfl
  · simp only [if_neg hnext]
    refine ⟨_, ?_, ⟨_, rfl⟩, (chooses_last state.lastStreamScheduled).mono fun s hs => hs.resolve_left hnext⟩
    simp only [not_true_eq_false, and_false, if_false]
    rfl

theorem mem_waitingSendStreams (sid : Fin n) : sid ∈ waitingSendStreams around ↔ around.HasData sid := by
  simp [waitingSendStreams]

theorem nodup_waitingSendStreams : (waitingSendStreams around).Nodup := (nodup_finRange n).filter _

/-- The stream a draw leads to. -/
theorem Draw.getElem? (draw : Draw) {waiting : List (Fin n)} (h : waiting.length > 0) :
    ∃ sid, waiting[draw.rnd waiting.length - 1]? = some sid ∧ sid ∈ waiting := by
  obtain ⟨hone, hle⟩ := draw.rnd_mem waiting.length h
  have hlt : draw.rnd waiting.length - 1 < waiting.length := by omega
  exact ⟨_, List.getElem?_eq_getElem hlt, getElem_mem hlt⟩

theorem Draw.eq_of_getElem? {draw draw' : Draw} {waiting : List (Fin n)} (hnodup : waiting.Nodup)
    (h : waiting.length > 0)
    (heq : waiting[draw.rnd waiting.length - 1]? = waiting[draw'.rnd waiting.length - 1]?) :
    draw.rnd waiting.length = draw'.rnd waiting.length := by
  obtain ⟨hone, hle⟩ := draw.rnd_mem waiting.length h
  obtain ⟨hone', hle'⟩ := draw'.rnd_mem waiting.length h
  have hindex : draw.rnd waiting.length - 1 = draw'.rnd waiting.length - 1 :=
    (List.getElem?_inj (by omega) hnodup).mp heq
  omega

theorem randomPacket_faithful_iff :
    Faithful around draw draw' .RANDOM_SCHEDULE_PACKET state ↔
      Peekable around draw draw' .RANDOM_SCHEDULE_PACKET state := by
  simp only [Faithful, ssGetNextSid, streamSchedulerRandomPacket, Peekable]
  by_cases hnext : state.ssNextStream = true
  · simp only [hnext, if_true, not_true_eq_false, and_false, if_false, true_implies]
    by_cases hwaiting : (waitingSendStreams around).length > 0
    · simp only [if_pos hwaiting]
      constructor
      · rintro ⟨sid, hsid, ⟨state', hsid'⟩, -⟩
        cases hsid
        have hsame := congrArg Prod.fst (ok.inj hsid')
        exact .inr (Draw.eq_of_getElem? nodup_waitingSendStreams hwaiting hsame.symm)
      · intro hcond
        have hrnd := hcond.resolve_left (Nat.ne_of_gt hwaiting)
        obtain ⟨sid, hsid, hmem⟩ := draw.getElem? hwaiting
        refine ⟨some sid, by rw [hsid], ⟨_, by rw [← hrnd, hsid]⟩, fun s hs => ?_, by rintro ⟨⟩⟩
        cases hs
        exact (mem_waitingSendStreams sid).mp hmem
    · simp only [if_neg hwaiting]
      have hnone : waitingSendStreams around = [] := eq_nil_of_length_eq_zero (Nat.eq_zero_of_not_pos hwaiting)
      refine ⟨fun _ => .inl (Nat.eq_zero_of_not_pos hwaiting), fun _ => ?_⟩
      refine ⟨none, rfl, ⟨_, rfl⟩, by rintro s ⟨⟩, fun _ s _ hdata => ?_⟩
      have hmem := (mem_waitingSendStreams s).mpr hdata
      rw [hnone] at hmem
      cases hmem
  · simp only [if_neg hnext, not_true_eq_false, and_false, if_false]
    refine ⟨fun _ h => absurd h hnext, fun _ => ?_⟩
    exact ⟨_, rfl, ⟨_, rfl⟩, (chooses_last state.lastStreamScheduled).mono fun s hs => hs.resolve_left hnext⟩

/-- The variants that choose a stream for every message look at the state as if a packet were about to start. -/
theorem faithful_iff_of_next {scheduler packet : SCTPStreamScheduler}
    (hcall : ∀ draw peek (state : State n), ssGetNextSid around draw scheduler peek state =
      ssGetNextSid around draw packet peek { state with ssNextStream := true })
    (heligible : ∀ (state : State n) s, state.ssNextStream →
      (Eligible around scheduler state s ↔ Eligible around packet state s))
    (hkeeps : ∀ draw (state : State n) sid state', ssGetNextSid around draw packet true state = .ok (sid, state') →
      state'.ssNextStream = state.ssNextStream) :
    Faithful around draw draw' scheduler state ↔ state.ssNextStream ∧ Faithful around draw draw' packet state := by
  have hsame (hnext : state.ssNextStream = true) :
      Faithful around draw draw' scheduler state ↔ Faithful around draw draw' packet state := by
    have hiff := fun s => heligible state s hnext
    simp only [Faithful, hcall, State.of_ssNextStream hnext]
    constructor
    · rintro ⟨sid, hpeek, hnow, hchooses⟩
      exact ⟨sid, hpeek, hnow, hchooses.mono fun s hs => (hiff s).mpr hs⟩
    · rintro ⟨sid, hpeek, hnow, hchooses⟩
      exact ⟨sid, hpeek, hnow, hchooses.mono fun s hs => (hiff s).mp hs⟩
  constructor
  · intro h
    have hnext : state.ssNextStream = true := by
      obtain ⟨sid, hpeek, -⟩ := h
      rw [hcall] at hpeek
      exact hkeeps _ _ _ _ hpeek
    exact ⟨hnext, (hsame hnext).mp h⟩
  · rintro ⟨hnext, h⟩
    exact (hsame hnext).mpr h

theorem random_faithful_iff :
    Faithful around draw draw' .RANDOM_SCHEDULE state ↔ Peekable around draw draw' .RANDOM_SCHEDULE state := by
  have hiff : Faithful around draw draw' .RANDOM_SCHEDULE state ↔
      state.ssNextStream ∧ Faithful around draw draw' .RANDOM_SCHEDULE_PACKET state := by
    refine faithful_iff_of_next (fun _ _ _ => rfl) (fun state s hnext => ⟨fun _ => .inl hnext, fun _ => trivial⟩) ?_
    intro draw state sid state' h
    simp only [ssGetNextSid, streamSchedulerRandomPacket, not_true_eq_false, and_false, if_false] at h
    cases h
    rfl
  rw [hiff, randomPacket_faithful_iff]
  simp only [Peekable]
  exact ⟨fun h => ⟨h.1, h.2 h.1⟩, fun h => ⟨h.1, fun _ => h.2⟩⟩

/-- The stream that sent last has nothing left of its last message. -/
theorem fairBandwidth_nonneg_iff {sid : Fin n} (hdata : around.HasData sid) :
    0 ≤ (fairBandwidth around state state.ssFairBandwidthMap sid).toInt ↔ InMap around state sid := by
  simp only [fairBandwidth, InMap, if_pos hdata]
  generalize hentry : (state.ssFairBandwidthMap sid).getD 0 = entry
  generalize packetsize around sid = size
  by_cases hneg : entry.toInt < 0
  · simp only [if_pos hneg]
    by_cases hpos : size > 0
    · rw [if_pos hpos]
      have hne : size.toInt ≠ 0 := by
        intro hzero
        have : size = 0 := eq_of_toInt_eq hzero
        subst this
        exact absurd hpos (BitVec.lt_irrefl _)
      omega
    · rw [if_neg hpos]
      have hzero : size = 0 := by
        rw [← toNat_inj]
        exact Nat.eq_zero_of_not_pos hpos
      subst hzero
      simp only [ofNat_eq_ofNat, toInt_zero]
      omega
  · simp only [if_neg hneg]
    by_cases hset : state.ssLastDataChunkSizeSet = true
    · simp only [hset, if_true, true_and]
      have hclip (v : BitVec 32) : 0 ≤ (if v.toInt < 0 then 0 else v).toInt := by
        by_cases hv : v.toInt < 0
        · rw [if_pos hv]
          exact Int.le_refl 0
        · rw [if_neg hv]
          exact Int.not_lt.mp hv
      by_cases hlast : sid = state.lastStreamScheduled
      · simp only [← hlast, hentry, BitVec.sub_self, if_true, true_implies]
        simp
      · simp only [if_neg hlast]
        exact ⟨fun _ h => absurd h hlast, fun _ => hclip _⟩
    · simp only [if_neg hset]
      exact ⟨fun _ h => absurd h.1 hset, fun _ => Int.not_lt.mp hneg⟩

theorem fairBandwidth_neg {sid : Fin n} (hdata : ¬ around.HasData sid) (map : Fin n → Option (BitVec 32)) :
    (fairBandwidth around state map sid).toInt < 0 := by
  rw [fairBandwidth, if_neg hdata]
  decide

theorem leastBandwidth_cases (map : Fin n → BitVec 32) :
    (∀ i, (leastBandwidth map).1 = some i → 0 ≤ (map i).toInt) ∧
      ((leastBandwidth map).1 = none → ∀ i, ¬ 0 ≤ (map i).toInt) := by
  have hchoose := foldl_choose Prod.fst (p := fun i => 0 ≤ (map i).toInt)
    (f := fun s i => if (s.1 = none ∨ map i < s.2) ∧ 0 ≤ (map i).toInt then (some i, map i) else s)
    (fun s i => ?_) (finRange n) (none, 0)
  · constructor
    · intro i hi
      rcases hchoose.1 i hi with h | h
      · cases h
      · exact h.2
    · exact fun hn i => (hchoose.2 hn).2 i (mem_finRange i)
  · obtain ⟨sid, bandwidth⟩ := s
    by_cases h : (sid = none ∨ map i < bandwidth) ∧ 0 ≤ (map i).toInt
    · simp only [if_pos h]
      exact .inr ⟨trivial, h.2⟩
    · simp only [if_neg h]
      exact .inl ⟨trivial, fun hp hn => h ⟨.inl hn, hp⟩⟩

theorem fairBandwidthPacket_faithful_iff :
    Faithful around draw draw' .FAIR_BANDWITH_PACKET state ↔
      Peekable around draw draw' .FAIR_BANDWITH_PACKET state := by
  simp only [Faithful, ssGetNextSid, streamSchedulerFairBandwidthPacket, Peekable]
  by_cases hempty : ∀ sid, state.ssFairBandwidthMap sid = none
  · simp only [if_pos hempty, if_true, not_true_eq_false, and_false, if_false]
    constructor
    · rintro ⟨sid, hpeek, -⟩
      have hsame := congrArg (fun r => r.map fun p => p.2.ssFairBandwidthMap state.lastStreamScheduled) hpeek
      cases (ok.inj hsame).trans (hempty _)
    · rintro ⟨⟨sid, hsid⟩, -⟩
      exact absurd (hempty sid) hsid
  · simp only [if_neg hempty, if_true, not_true_eq_false, and_false, if_false]
    have hfilled : ∃ sid, state.ssFairBandwidthMap sid ≠ none := Classical.not_forall.mp hempty
    by_cases hnext : state.ssNextStream = true
    · simp only [hnext, if_true, true_implies]
      obtain ⟨hsome, hnone⟩ := leastBandwidth_cases (fairBandwidth around state state.ssFairBandwidthMap)
      have hdata (s : Fin n) (hs : (leastBandwidth (fairBandwidth around state state.ssFairBandwidthMap)).1 = some s) :
          around.HasData s := by
        refine Decidable.byContradiction fun hno => ?_
        exact absurd (hsome s hs) (Int.not_le.mpr (fairBandwidth_neg hno _))
      constructor
      · rintro ⟨sid, hpeek, -, hchooses⟩
        refine ⟨hfilled, ?_⟩
        cases ok.inj hpeek
        cases hsid : (leastBandwidth (fairBandwidth around state state.ssFairBandwidthMap)).1 with
        | none =>
          refine .inl (length_eq_zero_iff.mpr (eq_nil_iff_forall_not_mem.mpr fun s hs => ?_))
          exact hchooses.none hsid s (.inl hnext) ((mem_waitingSendStreams s).mp hs)
        | some s => exact .inr ⟨s, hdata s hsid, (fairBandwidth_nonneg_iff (hdata s hsid)).mp (hsome s hsid)⟩
      · rintro ⟨-, hcond⟩
        refine ⟨_, rfl, ⟨_, rfl⟩, hdata, fun hn s _ hs => ?_⟩
        rcases hcond with hwaiting | ⟨s', hs', hin⟩
        · have hmem := (mem_waitingSendStreams s).mpr hs
          rw [eq_nil_of_length_eq_zero hwaiting] at hmem
          cases hmem
        · exact hnone hn s' ((fairBandwidth_nonneg_iff hs').mpr hin)
    · simp only [if_neg hnext]
      refine ⟨fun _ => ⟨hfilled, fun h => absurd h hnext⟩, fun _ => ?_⟩
      exact ⟨_, rfl, ⟨_, rfl⟩, (chooses_last state.lastStreamScheduled).mono fun s hs => hs.resolve_left hnext⟩

theorem fairBandwidth_faithful_iff :
    Faithful around draw draw' .FAIR_BANDWITH state ↔ Peekable around draw draw' .FAIR_BANDWITH state := by
  have hiff : Faithful around draw draw' .FAIR_BANDWITH state ↔
      state.ssNextStream ∧ Faithful around draw draw' .FAIR_BANDWITH_PACKET state := by
    refine faithful_iff_of_next (fun _ _ _ => rfl) (fun state s hnext => ⟨fun _ => .inl hnext, fun _ => trivial⟩) ?_
    intro draw state sid state' h
    simp only [ssGetNextSid, streamSchedulerFairBandwidthPacket, if_true, not_true_eq_false, and_false, if_false] at h
    cases h
    split <;> rfl
  rw [hiff, fairBandwidthPacket_faithful_iff]
  simp only [Peekable]
  exact ⟨fun h => ⟨h.1, h.2.1, h.2.2 h.1⟩, fun h => ⟨h.1, h.2.1, fun _ => h.2.2⟩⟩

theorem touch_ne_none {k i : Fin n} (h : m i ≠ none) : touch m k i ≠ none := by
  unfold touch
  split
  · exact some_ne_none _
  · exact h

theorem touch_self_ne_none (m : Fin n → Option (BitVec 32)) (k : Fin n) : touch m k k ≠ none := by
  rw [touch, if_pos rfl]
  exact some_ne_none _

theorem touch_eq_self {k : Fin n} (h : m k ≠ none) : touch m k = m := by
  obtain ⟨v, hv⟩ := ne_none_iff_exists'.mp h
  funext i
  unfold touch
  by_cases hi : i = k
  · rw [if_pos hi, hi, hv]
    rfl
  · rw [if_neg hi]

variable (around) in
theorem comparePriority_cases (s : Option (Fin n) × (Fin n → Option (BitVec 32))) (i : Fin n) :
    (comparePriority around s i).1 = s.1 ∧ (around.HasData i → s.1 ≠ none) ∨
      (comparePriority around s i).1 = some i ∧ around.HasData i := by
  obtain ⟨sid, map⟩ := s
  unfold comparePriority
  by_cases hdata : around.HasData i
  · rw [if_pos hdata]
    cases sid with
    | none => exact .inr ⟨rfl, hdata⟩
    | some sid =>
      by_cases hless : (touch (touch map i) sid i).getD 0 < (touch (touch map i) sid sid).getD 0
      · simp only [if_pos hless]
        exact .inr ⟨trivial, hdata⟩
      · simp only [if_neg hless]
        exact .inl ⟨trivial, fun _ h => (nomatch h)⟩
  · rw [if_neg hdata]
    exact .inl ⟨rfl, fun h => absurd h hdata⟩

/-- Entries that are there already are all that is needed. -/
theorem foldl_comparePriority_same (l : List (Fin n)) (sid : Option (Fin n)) (m : Fin n → Option (BitVec 32))
    (hl : ∀ i ∈ l, around.HasData i → m i ≠ none) (hsid : ∀ i, sid = some i → m i ≠ none) :
    (l.foldl (comparePriority around) (sid, m)).2 = m := by
  induction l generalizing sid with
  | nil => rfl
  | cons a l ih =>
    rw [foldl_cons]
    have hrest := fun i hi => hl i (mem_cons_of_mem a hi)
    by_cases hdata : around.HasData a
    · have ha := hl a mem_cons_self hdata
      cases sid with
      | none =>
        have hstep : comparePriority around (none, m) a = (some a, m) := if_pos hdata
        rw [hstep]
        exact ih (some a) hrest fun i hi => some.inj hi ▸ ha
      | some sid =>
        have hmap : touch (touch m a) sid = m := by rw [touch_eq_self ha, touch_eq_self (hsid sid rfl)]
        have hstep : comparePriority around (some sid, m) a =
            (if (m a).getD 0 < (m sid).getD 0 then some a else some sid, m) := by
          rw [comparePriority, if_pos hdata]
          simp only [hmap]
        rw [hstep]
        refine ih _ hrest fun i hi => ?_
        by_cases hless : (m a).getD 0 < (m sid).getD 0
        · rw [if_pos hless] at hi
          exact some.inj hi ▸ ha
        · rw [if_neg hless] at hi
          exact hsid i hi
    · have hstep : comparePriority around (sid, m) a = (sid, m) := if_neg hdata
      rw [hstep]
      exact ih sid hrest hsid

variable (around) in
/-- Every stream with data that comes later is compared, and so is the one chosen so far. -/
theorem foldl_comparePriority_touched (l : List (Fin n)) (sid : Fin n) (m : Fin n → Option (BitVec 32)) :
    (∀ i, m i ≠ none → (l.foldl (comparePriority around) (some sid, m)).2 i ≠ none) ∧
      ∀ i ∈ l, around.HasData i → (l.foldl (comparePriority around) (some sid, m)).2 i ≠ none ∧
        (l.foldl (comparePriority around) (some sid, m)).2 sid ≠ none := by
  induction l generalizing sid m with
  | nil => exact ⟨fun i h => h, fun i hi => absurd hi not_mem_nil⟩
  | cons a l ih =>
    rw [foldl_cons]
    by_cases hdata : around.HasData a
    · obtain ⟨sid', hstep⟩ : ∃ sid', comparePriority around (some sid, m) a = (some sid', touch (touch m a) sid) := by
        rw [comparePriority, if_pos hdata]
        simp only
        split
        · exact ⟨_, rfl⟩
        · exact ⟨_, rfl⟩
      rw [hstep]
      obtain ⟨hkeeps, hlater⟩ := ih sid' (touch (touch m a) sid)
      refine ⟨fun i hi => hkeeps i (touch_ne_none (touch_ne_none hi)), fun i hi hdatai => ?_⟩
      have hsid := hkeeps sid (touch_self_ne_none _ _)
      rcases mem_cons.mp hi with rfl | hi
      · exact ⟨hkeeps i (touch_ne_none (touch_self_ne_none _ _)), hsid⟩
      · exact ⟨(hlater i hi hdatai).1, hsid⟩
    · have hstep : comparePriority around (some sid, m) a = (some sid, m) := if_neg hdata
      rw [hstep]
      obtain ⟨hkeeps, hlater⟩ := ih sid m
      refine ⟨hkeeps, fun i hi hdatai => ?_⟩
      rcases mem_cons.mp hi with rfl | hi
      · exact absurd hdatai hdata
      · exact hlater i hi hdatai

/-- If two streams have data, all streams with data are looked up. -/
theorem foldl_comparePriority_two {l : List (Fin n)} {i j : Fin n} (hi : i ∈ l) (hj : j ∈ l) (hne : i ≠ j)
    (hdatai : around.HasData i) (hdataj : around.HasData j) (m : Fin n → Option (BitVec 32)) :
    ∀ d ∈ l, around.HasData d → (l.foldl (comparePriority around) (none, m)).2 d ≠ none := by
  induction l with
  | nil => exact absurd hi not_mem_nil
  | cons a l ih =>
    intro d hd hdatad
    rw [foldl_cons]
    by_cases hdata : around.HasData a
    · have hstep : comparePriority around (none, m) a = (some a, m) := if_pos hdata
      rw [hstep]
      obtain ⟨-, hlater⟩ := foldl_comparePriority_touched around l a m
      obtain ⟨e, he, hdatae⟩ : ∃ e ∈ l, around.HasData e := by
        rcases mem_cons.mp hi with rfl | hi
        · exact ⟨j, (mem_cons.mp hj).resolve_left hne.symm, hdataj⟩
        · exact ⟨i, hi, hdatai⟩
      rcases mem_cons.mp hd with rfl | hd
      · exact (hlater e he hdatae).2
      · exact (hlater d hd hdatad).1
    · have hstep : comparePriority around (none, m) a = (none, m) := if_neg hdata
      rw [hstep]
      have hother {k : Fin n} (hk : k ∈ a :: l) (hdatak : around.HasData k) : k ∈ l :=
        (mem_cons.mp hk).resolve_left fun heq => hdata (heq ▸ hdatak)
      exact ih (hother hi hdatai) (hother hj hdataj) d (hother hd hdatad) hdatad

/-- A single stream with data is not compared with anything. -/
theorem foldl_comparePriority_one {l : List (Fin n)} (hnodup : l.Nodup)
    (hone : ∀ i j, around.HasData i → around.HasData j → i = j) (m : Fin n → Option (BitVec 32)) :
    (l.foldl (comparePriority around) (none, m)).2 = m := by
  induction l with
  | nil => rfl
  | cons a l ih =>
    obtain ⟨hnot, hnodup⟩ := nodup_cons.mp hnodup
    rw [foldl_cons]
    by_cases hdata : around.HasData a
    · have hstep : comparePriority around (none, m) a = (some a, m) := if_pos hdata
      have hrest (l' : List (Fin n)) (hl' : ∀ i ∈ l', ¬ around.HasData i) :
          l'.foldl (comparePriority around) (some a, m) = (some a, m) := by
        induction l' with
        | nil => rfl
        | cons b l' ih' =>
          have hskip : comparePriority around (some a, m) b = (some a, m) := if_neg (hl' b mem_cons_self)
          rw [foldl_cons, hskip]
          exact ih' fun i hi => hl' i (mem_cons_of_mem b hi)
      rw [hstep, hrest l fun i hi hdatai => hnot (hone a i hdata hdatai ▸ hi)]
    · have hstep : comparePriority around (none, m) a = (none, m) := if_neg hdata
      rw [hstep]
      exact ih hnodup

theorem priority_faithful_iff :
    Faithful around draw draw' .PRIORITY state ↔ Peekable around draw draw' .PRIORITY state := by
  simp only [Faithful, ssGetNextSid, streamSchedulerPriority, Peekable]
  by_cases hagain : (¬ state.ssLastDataChunkSizeSet = true ∧ state.ssNextStream = true) ∧
      around.HasData state.lastStreamScheduled
  · simp only [if_pos hagain]
    refine ⟨fun _ => ⟨hagain.1.2, .inl ⟨hagain.1.1, hagain.2⟩⟩, fun _ => ?_⟩
    exact ⟨_, rfl, ⟨_, rfl⟩, fun s hs => some.inj hs ▸ hagain.2, by rintro ⟨⟩⟩
  simp only [if_neg hagain]
  by_cases hnext : state.ssNextStream = true
  · simp only [hnext, if_true]
    have hloop := loop_next state.lastStreamScheduled (comparePriority around) (fun _ => false)
      (none, state.ssPriorityMap) (by rintro s i ⟨⟩)
    have hchoose := foldl_choose Prod.fst (p := around.HasData) (comparePriority_cases around)
      (circle state.lastStreamScheduled) (none, state.ssPriorityMap)
    generalize hresult : (circle state.lastStreamScheduled).foldl (comparePriority around)
      (none, state.ssPriorityMap) = result at hloop hchoose
    have hmap : result.2 = state.ssPriorityMap ↔ (∀ sid sid', around.HasData sid → around.HasData sid' → sid = sid') ∨
        ∀ sid, around.HasData sid → state.ssPriorityMap sid ≠ none := by
      constructor
      · intro hsame
        by_cases hone : ∀ sid sid', around.HasData sid → around.HasData sid' → sid = sid'
        · exact .inl hone
        · refine .inr fun d hdatad => ?_
          simp only [Classical.not_forall] at hone
          obtain ⟨i, j, hdatai, hdataj, hne⟩ := hone
          have hmem (i : Fin n) : i ∈ circle state.lastStreamScheduled := mem_circle i
          have htouched := foldl_comparePriority_two (hmem i) (hmem j) hne hdatai hdataj state.ssPriorityMap d
            (hmem d) hdatad
          rwa [hresult, hsame] at htouched
      · rintro (hone | hall)
        · rw [← hresult, foldl_comparePriority_one nodup_circle hone]
        · rw [← hresult, foldl_comparePriority_same _ none _ (fun i _ => hall i) (by rintro i ⟨⟩)]
    rw [hloop]
    constructor
    · rintro ⟨sid, hpeek, -⟩
      have hsame := congrArg (fun r => r.map fun p => p.2.ssPriorityMap) hpeek
      simp only [not_true_eq_false, and_false, if_false] at hsame
      exact ⟨trivial, .inr (hmap.mp (ok.inj hsame))⟩
    · rintro ⟨-, hcond⟩
      have hsame := hmap.mpr (hcond.resolve_left fun h => hagain ⟨⟨h.1, hnext⟩, h.2⟩)
      refine ⟨result.1, ?_, ⟨_, rfl⟩, fun s hs => ?_, fun hn s _ => (hchoose.2 hn).2 s (mem_circle s)⟩
      · simp only [not_true_eq_false, and_false, if_false]
        refine congrArg (fun s => ok (result.1, s)) ?_
        rw [hsame, ← hnext]
      · rcases hchoose.1 s hs with h | h
        · cases h
        · exact h.2
  · refine ⟨fun h => ?_, fun h => absurd h.1 hnext⟩
    obtain ⟨sid, hpeek, -⟩ := h
    obtain ⟨s, -, hs⟩ := bind_ok.mp hpeek
    simp only [not_true_eq_false, and_false, if_false] at hs
    have hsame := congrArg (fun r => r.map fun p => p.2.ssNextStream) hs
    exact absurd (ok.inj hsame).symm hnext

theorem compareFront_cases (i : Fin n) (s : Option (Fin n) × Int) (queue : List DataMsg) :
    compareFront i s queue = s ∧ (queue.length > 0 → s.1 ≠ none) ∨
      (compareFront i s queue).1 = some i ∧ queue.length > 0 := by
  cases queue with
  | nil => exact .inl ⟨rfl, fun h => absurd h (Nat.lt_irrefl 0)⟩
  | cons m q =>
    by_cases h : s.1 = none ∨ s.2 > m.enqueuingTime
    · refine .inr ⟨?_, Nat.succ_pos _⟩
      rw [compareFront, if_pos h]
    · refine .inl ⟨if_neg h, fun _ hn => h (.inl hn)⟩

variable (around) in
theorem compareFronts_cases (s : Option (Fin n) × Int) (i : Fin n) :
    (compareFronts around s i).1 = s.1 ∧ (around.HasData i → s.1 ≠ none) ∨
      (compareFronts around s i).1 = some i ∧ around.HasData i := by
  unfold compareFronts
  rcases compareFront_cases i s (around.sendStreams i).unorderedStreamQ with ⟨hsame, hmiss⟩ | ⟨hnew, hdata⟩
  · rw [hsame]
    rcases compareFront_cases i s (around.sendStreams i).streamQ with ⟨hsame', hmiss'⟩ | ⟨hnew', hdata'⟩
    · rw [hsame']
      exact .inl ⟨rfl, fun hdata => hdata.elim hmiss hmiss'⟩
    · exact .inr ⟨hnew', .inr hdata'⟩
  · refine .inr ⟨?_, .inl hdata⟩
    generalize compareFront i s (around.sendStreams i).unorderedStreamQ = s₁ at hnew
    rcases compareFront_cases i s₁ (around.sendStreams i).streamQ with ⟨hsame', -⟩ | ⟨hnew', -⟩
    · rw [hsame', hnew]
    · exact hnew'

theorem fcfs_faithful_iff : Faithful around draw draw' .FCFS state ↔ Peekable around draw draw' .FCFS state := by
  simp only [Faithful, ssGetNextSid, streamSchedulerFCFS, Peekable]
  constructor
  · rintro ⟨sid, hpeek, -⟩
    obtain ⟨s, -, hs⟩ := bind_ok.mp hpeek
    have hsame := congrArg (fun r => r.map fun p => p.2.ssNextStream) hs
    exact (ok.inj hsame).symm
  · intro hnext
    have hloop := loop_next state.lastStreamScheduled (compareFronts around) (fun _ => false) (none, 0)
      (by rintro s i ⟨⟩)
    have hchoose := foldl_choose Prod.fst (p := around.HasData) (compareFronts_cases around)
      (circle state.lastStreamScheduled) (none, 0)
    simp only [hnext, if_true]
    rw [hloop]
    refine ⟨_, ?_, ⟨_, rfl⟩, fun s hs => ?_, fun hn s _ => (hchoose.2 hn).2 s (mem_circle s)⟩
    · exact congrArg (fun s => ok (_, s)) (State.of_ssNextStream hnext)
    · rcases hchoose.1 s hs with h | h
      · cases h
      · exact h.2

/-- The streams of a list up to the first one on the path have entries, and that one has data. -/
def OnPathReady (around : Around n) (m : Fin n → Option (BitVec 32)) (l : List (Fin n)) : Prop :=
  ∀ (k : Nat) i, (∀ (j : Nat) i, j < k → l[j]? = some i → m i ≠ some (BitVec.ofNat 32 around.path)) → l[k]? = some i →
    ∃ pathNo, m i = some pathNo ∧ (pathNo = BitVec.ofNat 32 around.path → around.HasData i)

theorem onPathReady_cons {a : Fin n} {l : List (Fin n)} :
    OnPathReady around m (a :: l) ↔ ∃ pathNo, m a = some pathNo ∧
      if pathNo = BitVec.ofNat 32 around.path then around.HasData a else OnPathReady around m l := by
  constructor
  · intro h
    obtain ⟨pathNo, ha, hdata⟩ := h 0 a (fun j i hj => absurd hj (Nat.not_lt_zero j)) rfl
    refine ⟨pathNo, ha, ?_⟩
    by_cases hpath : pathNo = BitVec.ofNat 32 around.path
    · rw [if_pos hpath]
      exact hdata hpath
    · rw [if_neg hpath]
      intro k i hbefore hk
      refine h (k + 1) i (fun j i' hj hget => ?_) hk
      cases j with
      | zero =>
        cases some.inj hget
        exact fun heq => hpath (some.inj (ha.symm.trans heq))
      | succ j => exact hbefore j i' (Nat.lt_of_succ_lt_succ hj) hget
  · rintro ⟨pathNo, ha, hrest⟩ k i hbefore hk
    cases k with
    | zero =>
      cases some.inj hk
      refine ⟨pathNo, ha, fun hpath => ?_⟩
      rwa [if_pos hpath] at hrest
    | succ k =>
      have hpath : pathNo ≠ BitVec.ofNat 32 around.path := by
        rintro rfl
        exact hbefore 0 a (Nat.succ_pos k) rfl ha
      rw [if_neg hpath] at hrest
      exact hrest k i (fun j i' hj hget => hbefore (j + 1) i' (Nat.succ_lt_succ hj) hget) hk

theorem onPathReady_circle {last : Fin n} :
    OnPathReady around m (circle last) ↔
      ∀ k < n, (∀ j < k, m (ahead last j) ≠ some (BitVec.ofNat 32 around.path)) →
        ∃ pathNo, m (ahead last k) = some pathNo ∧
          (pathNo = BitVec.ofNat 32 around.path → around.HasData (ahead last k)) := by
  have hget {k : Nat} {i : Fin n} (h : (circle last)[k]? = some i) :
      k < n ∧ ahead last k = i := by
    have hlt : k < n := by
      have := (List.getElem?_eq_some_iff.mp h).1
      rwa [length_circle] at this
    exact ⟨hlt, some.inj ((circle_getElem? hlt).symm.trans h)⟩
  constructor
  · intro h k hk hbefore
    refine h k _ (fun j i hj hji => ?_) (circle_getElem? hk)
    rw [← (hget hji).2]
    exact hbefore j hj
  · intro h k i hbefore hki
    obtain ⟨hk, rfl⟩ := hget hki
    exact h k hk fun j hj => hbefore j _ hj (circle_getElem? (Nat.lt_trans hj hk))

theorem foldl_onPath_some (l : List (Fin n)) (sid : Fin n) (m : Fin n → Option (BitVec 32)) :
    l.foldl (onPath around) (some sid, m) = (some sid, m) := by
  induction l with
  | nil => rfl
  | cons a l ih => exact ih

variable (around) in
/-- Entries stay, also of streams that are looked up. -/
theorem foldl_onPath_ne_none (l : List (Fin n)) (s : Option (Fin n) × (Fin n → Option (BitVec 32))) {i : Fin n}
    (hi : s.2 i ≠ none) : (l.foldl (onPath around) s).2 i ≠ none := by
  induction l generalizing s with
  | nil => exact hi
  | cons a l ih =>
    refine ih _ ?_
    unfold onPath
    split
    · exact hi
    · exact touch_ne_none hi

theorem foldl_onPath_iff (l : List (Fin n)) (m : Fin n → Option (BitVec 32)) :
    ((l.foldl (onPath around) (none, m)).2 = m ∧
      ∀ s, (l.foldl (onPath around) (none, m)).1 = some s → around.HasData s) ↔ OnPathReady around m l := by
  induction l with
  | nil =>
    refine ⟨fun _ k i _ hk => ?_, fun _ => ⟨rfl, fun s hs => (nomatch hs)⟩⟩
    simp at hk
  | cons a l ih =>
    rw [foldl_cons, onPathReady_cons]
    cases ha : m a with
    | none =>
      refine ⟨fun h => ?_, fun h => ?_⟩
      · have htouched : (l.foldl (onPath around) (onPath around (none, m) a)).2 a ≠ none :=
          foldl_onPath_ne_none around l _ (touch_self_ne_none m a)
        rw [h.1, ha] at htouched
        exact absurd rfl htouched
      · obtain ⟨pathNo, hpath, -⟩ := h
        cases hpath
    | some pathNo =>
      have hmap : touch m a = m := touch_eq_self (by rw [ha]; exact some_ne_none _)
      have hstep : onPath around (none, m) a = (if pathNo = BitVec.ofNat 32 around.path then some a else none, m) := by
        simp only [onPath, hmap, ha, isSome_none, Bool.false_eq_true, if_false, getD_some]
      rw [hstep]
      by_cases hpath : pathNo = BitVec.ofNat 32 around.path
      · simp only [if_pos hpath, foldl_onPath_some]
        constructor
        · exact fun h => ⟨pathNo, rfl, by rw [if_pos hpath]; exact h.2 a rfl⟩
        · rintro ⟨pathNo', heq, hdata⟩
          cases heq
          rw [if_pos hpath] at hdata
          exact ⟨trivial, fun s hs => some.inj hs ▸ hdata⟩
      · simp only [if_neg hpath]
        rw [ih]
        constructor
        · exact fun h => ⟨pathNo, rfl, by rw [if_neg hpath]; exact h⟩
        · rintro ⟨pathNo', heq, hrest⟩
          cases heq
          rwa [if_neg hpath] at hrest

theorem touch_of_eq_some {i : Fin n} {v : BitVec 32} (h : m i = some v) (k : Fin n) :
    touch m k i = some v := by
  unfold touch
  by_cases hik : i = k
  · rw [if_pos hik, ← hik, h]
    rfl
  · rw [if_neg hik, h]

/-- No stream is chosen only if none is on the path. -/
theorem foldl_onPath_none {l : List (Fin n)}
    (h : (l.foldl (onPath around) (none, m)).1 = none) : ∀ i ∈ l, m i ≠ some (BitVec.ofNat 32 around.path) := by
  induction l generalizing m with
  | nil => exact fun i hi => absurd hi not_mem_nil
  | cons a l ih =>
    intro i hi hpath
    rw [foldl_cons] at h
    have hstep : onPath around (none, m) a =
        (if (touch m a a).getD 0 = BitVec.ofNat 32 around.path then some a else none, touch m a) := rfl
    by_cases ha : (touch m a a).getD 0 = BitVec.ofNat 32 around.path
    · rw [hstep, if_pos ha, foldl_onPath_some] at h
      cases h
    · rw [hstep, if_neg ha] at h
      rcases mem_cons.mp hi with rfl | hi
      · exact ha (by rw [touch_of_eq_some hpath]; rfl)
      · exact ih h i hi (touch_of_eq_some hpath a)

theorem pathManual_faithful_iff :
    Faithful around draw draw' .PATH_MANUAL state ↔ Peekable around draw draw' .PATH_MANUAL state := by
  simp only [Faithful, ssGetNextSid, pathStreamSchedulerManual, Peekable]
  rw [← onPathReady_circle]
  have hloop (m : Fin n → Option (BitVec 32)) := loop_next state.lastStreamScheduled (onPath around)
    (fun s => s.1.isSome) (none, m) fun s i hs => if_pos hs
  by_cases hempty : ∀ sid, state.ssStreamToPathMap sid = none
  · simp only [if_pos hempty]
    rw [hloop]
    constructor
    · rintro ⟨sid, hpeek, -⟩
      have hsame := congrArg (fun r => r.map fun p => p.2.ssStreamToPathMap state.lastStreamScheduled) hpeek
      have hfilled := foldl_onPath_ne_none around (circle state.lastStreamScheduled)
        (none, streamToPathMap around) (i := state.lastStreamScheduled) (some_ne_none _)
      exact absurd ((ok.inj hsame).trans (hempty _)) hfilled
    · intro h
      have hpos : 0 < n := Nat.lt_of_le_of_lt (Nat.zero_le _) state.lastStreamScheduled.2
      obtain ⟨pathNo, hfirst, -⟩ :=
        h 0 _ (fun j i hj => absurd hj (Nat.not_lt_zero j)) (circle_getElem? hpos)
      rw [hempty] at hfirst
      cases hfirst
  · simp only [if_neg hempty]
    rw [hloop, ← foldl_onPath_iff]
    constructor
    · rintro ⟨sid, hpeek, -, hchooses⟩
      have hsame := congrArg (fun r => r.map fun p => p.2.ssStreamToPathMap) hpeek
      have hsid := congrArg (fun r => r.map fun p => p.1) hpeek
      refine ⟨ok.inj hsame, ?_⟩
      cases ok.inj hsid
      exact hchooses.some
    · rintro ⟨hsame, hdata⟩
      refine ⟨_, ?_, ⟨_, rfl⟩, hdata, fun hn s hs => ?_⟩
      · refine congrArg (fun s => ok (_, s)) ?_
        simp only [if_true, hsame]
      · exact absurd hs (foldl_onPath_none hn s (mem_circle s))

theorem pathMapToPath_faithful : Faithful around draw draw' .PATH_MAP_TO_PATH state := by
  simp only [Faithful, ssGetNextSid, pathStreamSchedulerMapToPath]
  cases hpath : around.thisPath with
  | none =>
    refine ⟨none, rfl, ⟨_, rfl⟩, by rintro s ⟨⟩, fun _ s hs => ?_⟩
    rw [Eligible, hpath] at hs
    cases hs
  | some thisPath =>
    refine ⟨_, rfl, ⟨_, rfl⟩, fun s hs => ?_, fun hn s hs hdata => ?_⟩
    · have hfound := List.find?_some hs
      exact (of_decide_eq_true hfound).2
    · rw [Eligible, hpath] at hs
      have hmiss := List.find?_eq_none.mp hn s (mem_finRange s)
      exact hmiss (decide_eq_true ⟨(some.inj hs).symm, hdata⟩)

/-- When a look is faithful. -/
theorem faithful_iff (around : Around n) (draw draw' : Draw) (scheduler : SCTPStreamScheduler) (state : State n) :
    Faithful around draw draw' scheduler state ↔ Peekable around draw draw' scheduler state := by
  cases scheduler with
  | ROUND_ROBIN => exact streamScheduler_faithful_iff
  | ROUND_ROBIN_PACKET => exact iff_of_true roundRobinPacket_faithful trivial
  | RANDOM_SCHEDULE => exact random_faithful_iff
  | RANDOM_SCHEDULE_PACKET => exact randomPacket_faithful_iff
  | FAIR_BANDWITH => exact fairBandwidth_faithful_iff
  | FAIR_BANDWITH_PACKET => exact fairBandwidthPacket_faithful_iff
  | PRIORITY => exact priority_faithful_iff
  | FCFS => exact fcfs_faithful_iff
  | PATH_MANUAL => exact pathManual_faithful_iff
  | PATH_MAP_TO_PATH => exact iff_of_true pathMapToPath_faithful trivial

/-- Two streams, both with a message. -/
def twoStreams : Around 2 where
  sendStreams := fun _ => { streamQ := [⟨0, 100⟩] }
  sctpPathMap := [true]
  path := 0
  streamsToPaths := []

/-- Always the first stream of those that wait. -/
def firstOne : Draw where
  rnd := fun _ => 1
  rnd_mem := fun _ h => ⟨Nat.le_refl 1, h⟩

/-- A chunk of stream 0 was the last one to be sent. -/
def behindZero : State 2 where
  lastStreamScheduled := 0
  ssLastDataChunkSizeSet := true

/-- A look with round robin: stream 0 again, but then it is the turn of stream 1. -/
theorem peek_misleads :
    (∃ state, ssGetNextSid twoStreams firstOne .ROUND_ROBIN true behindZero = .ok (some 0, state) ∧
      ∃ state', ssGetNextSid twoStreams firstOne .ROUND_ROBIN false state = .ok (some 1, state')) ∧
    ¬ Faithful twoStreams firstOne firstOne .ROUND_ROBIN behindZero := by
  refine ⟨⟨_, rfl, _, rfl⟩, ?_⟩
  rintro ⟨sid, hpeek, -⟩
  have hsame := congrArg (fun r => r.map fun p => p.2.ssNextStream) hpeek
  cases ok.inj hsame

end Inet.Sctp.StreamScheduler
