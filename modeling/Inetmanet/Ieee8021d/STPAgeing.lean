import Inetmanet.Ieee8021d.STPSpanningTree

/-!
# How old the information of an STP bridge gets

`selectRootPort` and `checkRootEligibility` are called by `tryRoot` only. What is
stored on a designated port does not grow old, and a BPDU that is out of date but
superior sets the state of its port.
-/
namespace Inet.Ieee8021d.STP

variable {n : Nat} {b c : STP n} {i : Fin n} {M limit : Time}

/-- How many ticks ago each port has accepted its last BPDU. -/
abbrev Since (n : Nat) := Fin n → Option Nat

def Since.after (g : Since n) (b : STP n) : Event n → Since n
  | .bpdu frame _ _ p => fun i => if i = p ∧ frame.bpduType = 0 ∧ b.Stores p frame then some 0 else g i
  | .tick => fun i => (g i).map (· + 1)

/-- The states that the rounds of the information age check give to `tryRoot`. -/
def ageUses : List (Fin n) → STP n → List (STP n)
  | [], _ => []
  | i :: l, b =>
    (if b.currentMaxAge ≤ (b.ports i).age ∧ (b.ports i).role = .ROOT then [b.initInterfacedata i] else []) ++
      ageUses l (b.checkAge i)

/-- The states that an event gives to `tryRoot`, but for what is sent. -/
def uses (b : STP n) : Event n → List (STP n)
  | .bpdu frame _ _ p => if frame.bpduType = 0 then [b.heard frame p] else []
  | .tick => ageUses (List.finRange n) b.countTick.checkHello

/-- No vector is older than what counts and one tick. -/
def Fresh (b : STP n) (g : Since n) : Prop :=
  ∀ i, (b.ports i).toPriorityVector = b.ownVector ∨ ∃ k ∈ g i, k * second < b.currentMaxAge + second
deriving Decidable

/-- An out-of-date BPDU leaves all of a port but its role, which is chosen anew from what the ports store. -/
def IgnoresOutdated (b : STP n) : Event n → Prop
  | .bpdu frame src dest p => frame.maxAge ≤ frame.messageAge →
    ∀ i, { (b.handleMessage (.bpdu frame src dest p)).ports i with role := (b.ports i).role } = b.ports i
  | .tick => True

/-- What is to hold in a run. -/
def TrustsFresh : List (Event n) → STP n → Since n → Prop
  | [], _, _ => True
  | event :: l, b, g => (∀ c ∈ b.uses event, c.Fresh (g.after b event)) ∧ b.IgnoresOutdated event ∧
    TrustsFresh l (b.handleMessage event) (g.after b event)

/-- Ticks find no information on designated ports, out-of-date BPDUs are not superior, accepted ones name one max age. -/
def Undisturbed (M : Time) : List (Event n) → STP n → Prop
  | [], _ => True
  | .tick :: l, b => (∀ i, (b.ports i).role = .DESIGNATED → (b.ports i).toPriorityVector = b.ownVector) ∧
    Undisturbed M l b.handleTick
  | .bpdu frame src dest p :: l, b => (frame.bpduType = 0 →
      (frame.maxAge ≤ frame.messageAge →
        0 ≤ comparePorts (b.ports p).toPriorityVector (frame.over (b.ports p).linkCost)) ∧
      (b.Stores p frame → frame.maxAge = M)) ∧
    Undisturbed M l (b.handleMessage (.bpdu frame src dest p))

/-- What the port stores is the bridge's own vector, or it has heard it `age` ago and counts this time. -/
def Recent (b : STP n) (M limit : Time) (g : Since n) (i : Fin n) : Prop := (b.ports i).toPriorityVector = b.ownVector ∨
  (b.Better i ∨ g i = some 0) ∧
    ∃ k, g i = some k ∧ (b.ports i).age = k * second ∧ (b.ports i).age < limit ∧ (b.ports i).maxAge = M

/-- Between two events. -/
structure Aged (M : Time) (g : Since n) (b : STP n) : Prop extends Chosen b where
  recent : ∀ i, b.Recent M M g i

variable {g g' : Since n} {p : Fin n} {frame : BPDU} {src dest : MACAddress}

theorem better_congr (hinfo : info (c.ports i) = info (b.ports i)) (hown : c.ownVector = b.ownVector) :
    c.Better i ↔ b.Better i := by
  have hself : c.bridgeId = b.bridgeId :=
    congrArg (fun v : PriorityVector => bridgeRank v.rootPriority v.rootAddress) hown
  rw [better_iff, better_iff, hself, (Prod.mk.inj hinfo).1]

theorem Recent.congr (h : b.Recent M limit g i) (hinfo : info (c.ports i) = info (b.ports i))
    (hown : c.ownVector = b.ownVector) (hg : g' i = g i) : c.Recent M limit g' i := by
  have hbetter := better_congr hinfo hown
  simp only [info, Prod.mk.injEq] at hinfo
  unfold Recent
  rw [hinfo.1, hinfo.2.1, hinfo.2.2, hown, hg, hbetter]
  exact h

theorem Recent.told (h : b.Recent M limit g i) (hbetter : b.Better i) :
    ∃ k, g i = some k ∧ (b.ports i).age = k * second ∧ (b.ports i).age < limit ∧ (b.ports i).maxAge = M := by
  refine (h.resolve_left fun hown => ?_).2
  rw [better_iff, hown] at hbetter
  exact lt_irrefl _ hbetter

theorem Chosen.currentMaxAge_eq (h : b.Chosen) (hother : b.isRoot = false)
    (hrecent : b.Recent M limit g b.rootPort) : b.currentMaxAge = M := by
  have hself := h.asOther hother
  obtain ⟨k, -, -, -, hmaxAge⟩ := hrecent.told hself.better
  rw [hself.currentMaxAge, hmaxAge]

theorem tryRoot_ownVector (b : STP n) : b.tryRoot.ownVector = b.ownVector := by
  have hinfo := b.tryRoot_info
  simp only [STPBase.ownVector, hinfo.bridgePriority, hinfo.bridgeAddress]

theorem tryRoot_port (b : STP n) (i : Fin n) : ∃ role, b.tryRoot.ports i = { b.ports i with role := role } := by
  unfold tryRoot setAllDesignated
  split_ifs
  · dsimp only
    split_ifs
    · exact ⟨(b.ports i).role, rfl⟩
    · exact ⟨_, rfl⟩
  · exact ⟨_, rfl⟩

/-! ### BPDUs -/

theorem heard_info (hi : ¬ (i = p ∧ b.Stores p frame)) : info ((b.heard frame p).ports i) = info (b.ports i) := by
  obtain ⟨hvector, hage, hmaxAge⟩ := (b.heard_renewed frame p).other i hi
  rw [info, info, hvector, hage, hmaxAge]

theorem heard_ownVector : (b.heard frame p).ownVector = b.ownVector := by
  have hheard := b.heard_renewed frame p
  simp only [STPBase.ownVector, hheard.bridgePriority, hheard.bridgeAddress]

section
variable (h : b.Aged M g) (hM : b.Stores p frame → frame.maxAge = M) (htype : frame.bpduType = 0)
include h hM htype

theorem Aged.heard_recent (i : Fin n) : (b.heard frame p).Recent M M (g.after b (.bpdu frame src dest p)) i := by
  by_cases hi : i = p ∧ b.Stores p frame
  · obtain ⟨rfl, hstores⟩ := hi
    obtain ⟨-, hage, hmaxAge⟩ := (b.heard_renewed frame i).stored hstores
    have hg : g.after b (.bpdu frame src dest i) i = some 0 := if_pos ⟨rfl, htype, hstores⟩
    have hpos : 0 < M := hM hstores ▸ Nat.zero_lt_of_lt hstores.2
    exact .inr ⟨Or.inr hg, 0, hg, hage.trans (Nat.zero_mul _).symm, hage.trans_lt hpos, hmaxAge.trans (hM hstores)⟩
  · exact (h.recent i).congr (heard_info hi) heard_ownVector (if_neg fun hnew => hi ⟨hnew.1, hnew.2.2⟩)

theorem Aged.heard_fresh : (b.heard frame p).Fresh (g.after b (.bpdu frame src dest p)) := by
  intro i
  refine (h.heard_recent hM htype i).imp_right fun ⟨hsince, k, hk, hage, hlt, _⟩ => ⟨k, hk, ?_⟩
  rw [(b.heard_same frame p).2]
  cases hroot : b.isRoot with
  | false =>
    rw [h.currentMaxAge_eq hroot (h.recent _), ← hage]
    exact Nat.lt_add_right _ hlt
  | true =>
    have hnow : g.after b (.bpdu frame src dest p) i = some 0 := by
      by_cases hi : i = p ∧ b.Stores p frame
      · exact if_pos ⟨hi.1, htype, hi.2⟩
      · exact hsince.resolve_left fun hbetter =>
          (h.asRoot hroot).noBetter i ((better_congr (heard_info hi) heard_ownVector).mp hbetter)
    have hzero : k = 0 := Option.some.inj (hk.symm.trans hnow)
    rw [hzero, Nat.zero_mul]
    exact Nat.lt_add_left _ (by decide)

theorem Aged.handleBPDU : (b.handleBPDU frame p).Aged M (g.after b (.bpdu frame src dest p)) where
  toChosen := handleBPDU_chosen h.toSound
  recent i := by
    obtain ⟨l, hl⟩ := b.handleBPDU_eq frame p
    rw [hl]
    obtain ⟨role, hrole⟩ := tryRoot_port { b.heard frame p with relayOut := l } i
    refine (h.heard_recent hM htype i).congr ?_ (tryRoot_ownVector _) rfl
    rw [hrole]
    rfl

end

theorem Aged.of_ports (h : b.Aged M g) (hchosen : c.Chosen) (hports : c.ports = b.ports)
    (hown : c.ownVector = b.ownVector) (hg : g' = g) : c.Aged M g' where
  toChosen := hchosen
  recent i := (h.recent i).congr (by rw [hports]) hown (by rw [hg])

theorem Aged.bpdu (h : b.Aged M g) (hM : frame.bpduType = 0 → b.Stores p frame → frame.maxAge = M) :
    (b.handleMessage (.bpdu frame src dest p)).Aged M (g.after b (.bpdu frame src dest p)) := by
  unfold handleMessage
  dsimp only
  split_ifs with htype htcn
  · exact h.handleBPDU (hM htype) htype
  all_goals
    have hg : g.after b (.bpdu frame src dest p) = g := funext fun i => if_neg fun hnew => htype hnew.2.1
  · refine h.of_ports (handleTCN_chosen h.toChosen) ?_ ?_ hg
    all_goals
      unfold handleTCN
      dsimp only
      split_ifs <;> rfl
  · exact h.of_ports h.toChosen rfl rfl hg

theorem ignoresOutdated (hlate : frame.bpduType = 0 → frame.maxAge ≤ frame.messageAge →
    0 ≤ comparePorts (b.ports p).toPriorityVector (frame.over (b.ports p).linkCost)) :
    b.IgnoresOutdated (.bpdu frame src dest p) := by
  intro hold i
  unfold handleMessage
  dsimp only
  split_ifs with htype htcn
  · obtain ⟨l, hl⟩ := b.handleBPDU_eq frame p
    have hports : (b.heard frame p).ports = b.ports := by
      have hnot := not_lt.mpr (hlate htype hold)
      unfold heard isSuperiorBPDU setSuperiorBPDU
      dsimp only
      split_ifs <;> rfl
    obtain ⟨role, hrole⟩ := tryRoot_port { b.heard frame p with relayOut := l } i
    rw [hl, hrole]
    rw [hports]
  · unfold handleTCN
    dsimp only
    split_ifs <;> rfl
  · rfl

/-- The clock goes on for what is not the bridge's own, which is on ports that are not designated. -/
theorem Aged.countTick (h : b.Aged M g)
    (hown : ∀ i, (b.ports i).role = .DESIGNATED → (b.ports i).toPriorityVector = b.ownVector) (i : Fin n) :
    b.countTick.checkHello.Recent M (M + second) (g.after b .tick) i := by
  obtain ⟨helloTime, l, hhello⟩ := b.countTick.checkHello_eq
  rw [hhello]
  unfold Recent Better
  dsimp only [STP.countTick]
  rw [tickPort, if_neg (h.enabled i)]
  by_cases hrole : (b.ports i).role = .DESIGNATED
  · exact .inl (hown i hrole)
  · have hbetter := (h.better hrole).2
    obtain ⟨k, hk, hage, hlt, hmaxAge⟩ := (h.recent i).told hbetter
    rw [if_pos hrole]
    exact .inr ⟨Or.inl hbetter, k + 1, congrArg (Option.map (· + 1)) hk, by rw [hage, Nat.add_mul, Nat.one_mul],
      Nat.add_lt_add_right hlt _, hmaxAge⟩

theorem checkAge_info (hj : ¬ (i = p ∧ b.currentMaxAge ≤ (b.ports p).age)) :
    info ((b.checkAge p).ports i) = info (b.ports i) := by
  unfold checkAge
  split_ifs with hold hrole
  · obtain ⟨role, hport⟩ := tryRoot_port { b.initInterfacedata p with topologyChangeNotification := true } i
    rw [lostRoot, hport]
    change info ((b.initInterfacedata p).ports i) = _
    rw [initInterfacedata_port, if_neg fun hi => hj ⟨hi, hold⟩]
  · change info ((b.initInterfacedata p).ports i) = _
    rw [initInterfacedata_port, if_neg fun hi => hj ⟨hi, hold⟩]
  · rfl

/-- A round of the age check leaves no information on its port that is too old. -/
theorem Chosen.checkAge_recent {limit : Fin n → Time} (h : b.Chosen) (hg : ∀ i, g i ≠ some 0)
    (hrecent : ∀ i, b.Recent M (limit i) g i) (i : Fin n) :
    (b.checkAge p).Recent M (if i = p then M else limit i) g i := by
  by_cases hi : i = p ∧ b.currentMaxAge ≤ (b.ports p).age
  · obtain ⟨rfl, hold⟩ := hi
    exact .inl ((checkAge_expired hold).trans checkAge_ownVector.symm)
  · refine Recent.congr ?_ (checkAge_info hi) checkAge_ownVector rfl
    by_cases hp : i = p
    · subst hp
      rw [if_pos rfl]
      have hyoung := not_le.mp fun hold => hi ⟨rfl, hold⟩
      refine (hrecent i).imp_right fun ⟨hsince, k, hk, hage, hlt, hmaxAge⟩ => ⟨hsince, k, hk, hage, ?_, hmaxAge⟩
      cases hroot : b.isRoot with
      | false =>
        rw [← h.currentMaxAge_eq hroot (hrecent _)]
        exact hyoung
      | true => exact absurd (hsince.resolve_right (hg i)) ((h.asRoot hroot).noBetter i)
    · rw [if_neg hp]
      exact hrecent i

/-- Only a root port that has become too old leads to a new choice, and it names the max age. -/
theorem ageUses_fresh (hg : ∀ i, g i ≠ some 0) : ∀ {l : List (Fin n)} {b : STP n}, b.Chosen →
    (∀ i, b.Recent M (M + second) g i) → ∀ c ∈ ageUses l b, c.Fresh g := by
  intro l
  induction l with
  | nil =>
    intro b _ _ c hc
    cases hc
  | cons p l ih =>
    intro b h hrecent c hc
    rw [ageUses, List.mem_append] at hc
    rcases hc with hc | hc
    · split_ifs at hc with hold
      · obtain rfl := List.mem_singleton.mp hc
        have hother : b.isRoot = false := by
          by_contra hroot
          have hrole := (h.asRoot (Bool.eq_true_of_not_eq_false hroot)).designated p
          rw [hold.2] at hrole
          cases hrole
        intro i
        by_cases hi : i = p
        · subst hi
          exact .inl initInterfacedata_self.1
        · rw [initInterfacedata_port, if_neg hi]
          refine (hrecent i).imp_right fun ⟨_, k, hk, hage, hlt, _⟩ => ⟨k, hk, ?_⟩
          change _ < b.currentMaxAge + second
          rwa [h.currentMaxAge_eq hother (hrecent _), ← hage]
      · cases hc
    · refine ih (h.checkAge p) (fun i => ?_) c hc
      refine (h.checkAge_recent hg hrecent i).imp_right fun ⟨hsince, k, hk, hage, hlt, hmaxAge⟩ =>
        ⟨hsince, k, hk, hage, hlt.trans_le ?_, hmaxAge⟩
      split_ifs
      · exact Nat.le_add_right _ _
      · exact le_rfl

theorem Aged.handleTick (h : b.Aged M g)
    (hown : ∀ i, (b.ports i).role = .DESIGNATED → (b.ports i).toPriorityVector = b.ownVector) :
    (∀ c ∈ b.uses .tick, c.Fresh (g.after b .tick)) ∧ b.handleTick.Aged M (g.after b .tick) := by
  have hg : ∀ i, g.after b .tick i ≠ some 0 := by
    intro i
    change (g i).map (· + 1) ≠ some 0
    simp
  have hchosen : b.countTick.checkHello.Chosen := h.toChosen.countTick.checkHello
  refine ⟨ageUses_fresh hg hchosen (h.countTick hown), h.toChosen.handleTick, fun i => ?_⟩
  have rule := IndexLoops.foldl_rule (f := checkAge) (l := List.finRange n) (s := b.countTick.checkHello)
    (I := fun l s => s.Chosen ∧ ∀ i, s.Recent M (if i ∈ l then M + second else M) (g.after b .tick) i) ?_ ?_
  · refine (rule.2 i).congr handleTick_info ?_ rfl
    obtain ⟨l, x, hx⟩ := b.countTick.checkTimers.checkParametersChange.generateTCN_eq
    unfold STP.handleTick
    rw [hx]
    unfold checkParametersChange
    dsimp only
    split_ifs <;> rfl
  · intro s p l hs
    refine ⟨hs.1.checkAge p, fun i => ?_⟩
    refine (hs.1.checkAge_recent hg hs.2 i).imp_right fun ⟨hsince, k, hk, hage, hlt, hmaxAge⟩ =>
      ⟨hsince, k, hk, hage, hlt.trans_le ?_, hmaxAge⟩
    split_ifs <;> simp_all
  · exact ⟨hchosen, fun i => by simpa using h.countTick hown i⟩

/-- In every run of this kind no vector that is too old is used. -/
theorem Aged.trustsFresh {events : List (Event n)} (h : b.Aged M g) (hrun : Undisturbed M events b) :
    TrustsFresh events b g := by
  induction events generalizing b g with
  | nil => trivial
  | cons event l ih =>
    cases event with
    | tick => exact ⟨(h.handleTick hrun.1).1, trivial, ih (h.handleTick hrun.1).2 hrun.2⟩
    | bpdu frame src dest p =>
      refine ⟨fun c hc => ?_, ignoresOutdated fun htype => (hrun.1 htype).1,
        ih (h.bpdu fun htype => (hrun.1 htype).2) hrun.2⟩
      unfold uses at hc
      dsimp only at hc
      split_ifs at hc with htype
      · obtain rfl := List.mem_singleton.mp hc
        exact h.heard_fresh (hrun.1 htype).2 htype
      · cases hc

theorem initialized_trustsFresh (b : STP n) (events : List (Event n)) (hmaxAge : 0 < b.maxAge)
    (hrun : Undisturbed M events b.initialized) : TrustsFresh events b.initialized fun _ => none := by
  refine Aged.trustsFresh ⟨(b.initialized_kept hmaxAge).toChosen, fun i => Or.inl ?_⟩ hrun
  have hport : b.initialized.ports i = { (b.initInterfacedata i).ports i with role := .DESIGNATED } := by
    simp [initialized, setAllDesignated, initInterfacedata_self.2.1]
  rw [hport]
  exact initInterfacedata_self.1

/-- A BPDU that names bridge 1 as the root. -/
def told (rootPathCost : UInt) : BPDU :=
  { (STPNetwork.newBridge 1 fun _ => 19 : STP 2).initialized.hello 0 with
    rootPathCost := rootPathCost, maxAge := 2 * second, bpduType := 0 }

def hearer : STP 2 := STPNetwork.newBridge 2 fun _ => 19

theorem hearer_trustsFresh :
    TrustsFresh [.bpdu (told 0) 1 STP_MULTICAST_ADDRESS 0, .tick, .tick, .tick] hearer.initialized fun _ => none :=
  initialized_trustsFresh (M := 2 * second) hearer _ (by decide) ⟨by decide, by decide, by decide, by decide, trivial⟩

/-- Whatever BPDUs, TCNs and ticks have come, the roles are those that the stored vectors call for, and a root sends with
its own hello time. -/
theorem Reached.roles_chosen {b : STP n} (h : b.Reached) :
    b.Chosen ∧ (b.isRoot = true → b.currentHelloTime = b.helloTime) :=
  ⟨h.kept.toChosen, h.kept.hello⟩

theorem hearer_chosen :
    (hearer.initialized.handleMessage (.bpdu (told 0) 1 STP_MULTICAST_ADDRESS 0)).AsOther := by
  have hchosen := Reached.roles_chosen ⟨hearer, [.bpdu (told 0) 1 STP_MULTICAST_ADDRESS 0], by decide, rfl⟩
  exact hchosen.1.asOther (by decide)

/-- What port 1 has heard is three ticks old when port 0, which has made it designated, is lost. -/
theorem hearer_trusts_old : ¬ TrustsFresh
    [.bpdu (told 100) 1 STP_MULTICAST_ADDRESS 1, .bpdu (told 0) 1 STP_MULTICAST_ADDRESS 0, .tick,
      .bpdu (told 0) 1 STP_MULTICAST_ADDRESS 0, .tick, .tick] hearer.initialized fun _ => none :=
  fun h => absurd h.2.2.2.2.2.2.2.2.2.2.1 (by decide +kernel)

end Inet.Ieee8021d.STP
