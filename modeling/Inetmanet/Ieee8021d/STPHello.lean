import Inetmanet.Ieee8021d.STPSpanningTree

/-!
# The hello BPDUs of an STP bridge

The configured `helloTime` of `STPBase` is hidden by the counter and read by no function
of `STP`: what the counter is compared with is a copy of the counter itself.
-/
namespace Inet.Ieee8021d.STP

open List
open STPNetwork (newBridge)

variable {n : Nat} {b : STP n} {i : Fin n} {h : Nat}

/-- After `stop` and `start`. Messages in between are dropped. -/
def restarted (b : STP n) : STP n :=
  { b.initialized with topologyChangeNotification := true, currentHelloTime := b.helloTime }

inductive LifeEvent (n : Nat) where
  | message (event : Event n)
  | restart

def live (b : STP n) : LifeEvent n → STP n
  | .message event => b.handleMessage event
  | .restart => b.restarted

/-- The configuration BPDUs of a tick. -/
def tickHellos (b : STP n) : List (BPDU × MACAddress × Fin n) := b.idle.handleTick.relayOut.filter (·.1.bpduType = 0)

/-- What the tick of a root is to send if its hello time is `h` seconds. -/
structure Timely (b : STP n) (h : Nat) (due : Prop) : Prop where
  ports : due → b.tickHellos.map (·.2.2) = finRange n
  none : ¬ due → b.tickHellos = []
  times : ∀ x ∈ b.tickHellos, x.1.helloTime = h * second ∧ x.1.maxAge = b.maxAge ∧ x.1.forwardDelay = b.forwardDelay

/-- The ticks of a run send what they are to send when `k` ticks have gone by since the bridge was started. -/
def OnSchedule (h : Nat) : Nat → List (LifeEvent n) → STP n → Prop
  | _, [], _ => True
  | k, .message .tick :: l, b => b.Timely h (h ∣ k + 1) ∧ OnSchedule h (k + 1) l b.handleTick
  | k, .message (.bpdu frame src dest arrivalGate) :: l, b =>
    OnSchedule h k l (b.handleMessage (.bpdu frame src dest arrivalGate))
  | _, .restart :: l, b => OnSchedule h 0 l b.restarted

def RemainsRoot : List (LifeEvent n) → STP n → Prop
  | [], b => b.isRoot = true
  | event :: l, b => b.isRoot = true ∧ RemainsRoot l (b.live event)

/-- A run from `initialize` on leads here. -/
def Lived (b : STP n) : Prop := ∃ (start : STP n) (events : List (LifeEvent n)), events.foldl live start.initialized = b

/-- Between two events the counter is 0, and so is what a root compares it with. -/
structure Unset (b : STP n) : Prop where
  counter : b.helloTime = 0
  interval : b.isRoot = true → b.currentHelloTime = 0

theorem tryRoot_counter (b : STP n) : b.tryRoot.helloTime = b.helloTime ∧ b.tryRoot.relayOut = b.relayOut := by
  unfold tryRoot
  split_ifs <;> exact ⟨rfl, rfl⟩

theorem tryRoot_unset (hb : b.helloTime = 0) : b.tryRoot.Unset where
  counter := b.tryRoot_counter.1.trans hb
  interval hroot := by rw [tryRoot_hello b hroot, b.tryRoot_counter.1, hb]

theorem checkAge_counter (b : STP n) (i : Fin n) :
    (b.checkAge i).helloTime = b.helloTime ∧ (b.checkAge i).relayOut = b.relayOut := by
  unfold checkAge
  split_ifs
  · exact tryRoot_counter _
  · exact ⟨rfl, rfl⟩
  · exact ⟨rfl, rfl⟩

theorem checkAges_counter (b : STP n) : ((finRange n).foldl checkAge b).helloTime = b.helloTime ∧
    ((finRange n).foldl checkAge b).relayOut = b.relayOut :=
  IndexLoops.foldl_keeps (p := fun c : STP n => c.helloTime = b.helloTime ∧ c.relayOut = b.relayOut)
    (fun (c : STP n) i hc => ⟨(c.checkAge_counter i).1.trans hc.1, (c.checkAge_counter i).2.trans hc.2⟩) _ ⟨rfl, rfl⟩

theorem checkParametersChange_unset (hb : b.helloTime = 0) :
    b.checkParametersChange.Unset ∧ b.checkParametersChange.relayOut = b.relayOut := by
  have hcounter : b.checkParametersChange.helloTime = b.helloTime ∧ b.checkParametersChange.relayOut = b.relayOut := by
    unfold checkParametersChange
    dsimp only
    split_ifs <;> exact ⟨rfl, rfl⟩
  refine ⟨⟨hcounter.1.trans hb, fun hroot => ?_⟩, hcounter.2⟩
  rw [checkParametersChange_hello hroot, hcounter.1, hb]

/-- What `checkTimers` sends. -/
def helloFrames (b : STP n) : List (BPDU × MACAddress × Fin n) :=
  if b.isRoot then (finRange n).map fun i => (b.countTick.bpdu i false false, STP_MULTICAST_ADDRESS, i) else []

/-- Every comparison is one of a counter that has just been set with what it was set to. -/
theorem Unset.checkHello (hb : b.Unset) :
    b.countTick.checkHello.helloTime = 0 ∧ b.countTick.checkHello.relayOut = b.relayOut ++ b.helloFrames := by
  have hhello : b.countTick.generateHelloBDPUs = _ := sends_eq (finRange n) STP_MULTICAST_ADDRESS false false
  unfold STP.checkHello helloFrames
  cases hroot : b.isRoot with
  | true =>
    have hdue : b.countTick.currentHelloTime ≤ b.countTick.helloTime := by
      change b.currentHelloTime ≤ _
      rw [hb.interval hroot]
      exact Nat.zero_le _
    have hself : b.countTick.isRoot = true := hroot
    rw [if_pos hdue, if_pos hself, hhello]
    exact ⟨rfl, rfl⟩
  | false =>
    simp [hroot, countTick]

theorem Unset.handleTick (hb : b.Unset) : b.handleTick.Unset ∧
    ∃ l, (∀ x ∈ l, x.1.bpduType = 1) ∧ b.handleTick.relayOut = b.relayOut ++ b.helloFrames ++ l := by
  have hhello := hb.checkHello
  have hages := checkAges_counter b.countTick.checkHello
  have hcheck := checkParametersChange_unset (b := b.countTick.checkTimers) (hages.1.trans hhello.1)
  have hout := hcheck.2.trans (hages.2.trans hhello.2)
  unfold STP.handleTick generateTCN
  split_ifs
  · exact ⟨⟨hcheck.1.counter, hcheck.1.interval⟩, [_], by simp [tcnBPDU], congrArg (· ++ _) hout⟩
  · exact ⟨hcheck.1, [], by simp, hout.trans (append_nil _).symm⟩

theorem Unset.live (hb : b.Unset) (event : LifeEvent n) : (b.live event).Unset := by
  cases event with
  | restart => exact ⟨rfl, fun _ => hb.counter⟩
  | message event =>
    cases event with
    | tick => exact hb.handleTick.1
    | bpdu frame src dest p =>
      unfold STP.live handleMessage
      dsimp only
      split_ifs
      · obtain ⟨l, hl⟩ := b.handleBPDU_eq frame p
        rw [hl]
        exact tryRoot_unset ((b.heard_same frame p).1.trans hb.counter)
      · unfold handleTCN
        dsimp only
        split_ifs <;> exact ⟨hb.counter, hb.interval⟩
      · exact hb

theorem Lived.unset (hb : b.Lived) : b.Unset := by
  obtain ⟨start, events, rfl⟩ := hb
  exact IndexLoops.foldl_keeps (fun b event hb => hb.live event) events ⟨rfl, fun _ => rfl⟩

/-- A root sends hellos at every tick, and another bridge at none. -/
theorem Unset.tickHellos (hb : b.Unset) : b.tickHellos = b.helloFrames := by
  have hidle : b.idle.Unset := ⟨hb.counter, hb.interval⟩
  obtain ⟨-, l, htcn, hout⟩ := hidle.handleTick
  have hl : l.filter (·.1.bpduType = 0) = [] := by
    rw [filter_eq_nil_iff]
    intro x hx
    simp [htcn x hx]
  rw [STP.tickHellos, hout, filter_append, hl]
  change ([] ++ b.helloFrames).filter _ ++ [] = _
  unfold helloFrames
  cases b.isRoot with
  | true => simp [bpdu]
  | false => simp

/-- The hellos of a root carry 0 as their hello time. -/
theorem Unset.untimely (hb : b.Unset) (hroot : b.isRoot = true) (hh : 1 ≤ h) (due : Prop) : ¬ b.Timely h due := by
  intro htimely
  have hsent := hb.tickHellos
  rw [helloFrames, if_pos hroot] at hsent
  have hmem : (b.countTick.bpdu b.rootPort false false, STP_MULTICAST_ADDRESS, b.rootPort) ∈ b.tickHellos := by
    rw [hsent]
    exact List.mem_map.mpr ⟨b.rootPort, mem_finRange _, rfl⟩
  have htime : b.currentHelloTime = h * second := (htimely.times _ hmem).1
  rw [hb.interval hroot] at htime
  exact absurd htime (Nat.mul_pos hh (by decide)).ne

/-- A root keeps to a schedule as long as it has no tick to send hellos at. -/
theorem Lived.onSchedule_iff (hb : b.Lived) : (b.isRoot = false → b.tickHellos = []) ∧
    ∀ (h k : Nat) (events : List (LifeEvent n)), 1 ≤ h → RemainsRoot events b →
      (OnSchedule h k events b ↔ .message .tick ∉ events) := by
  refine ⟨fun hother => by simp [hb.unset.tickHellos, helloFrames, hother], fun h k events hh hroot => ?_⟩
  have hunset := hb.unset
  clear hb
  induction events generalizing b k with
  | nil => simp [OnSchedule]
  | cons event l ih =>
    have hnext := fun k => ih k hroot.2 (hunset.live event)
    cases event with
    | restart => simpa [OnSchedule, live] using hnext 0
    | message event =>
      cases event with
      | tick => simpa [OnSchedule] using fun htimely => absurd htimely (hunset.untimely hroot.1 hh _)
      | bpdu frame src dest p => simpa [OnSchedule, live] using hnext k

def lone : STP 2 := (newBridge 1 fun _ => 19).initialized

theorem lone_lived : lone.Lived := ⟨_, [], rfl⟩

/-- A bridge with a greater address announces itself. -/
def challenged : List (LifeEvent 2) :=
  [.message (.bpdu ((newBridge 3 fun _ => 19 : STP 2).initialized.hello 0) 3 STP_MULTICAST_ADDRESS 0), .restart]

theorem lone_onSchedule : (lone.isRoot = false → lone.tickHellos = []) ∧
    (OnSchedule 2 0 challenged lone ↔ .message .tick ∉ challenged) :=
  ⟨lone_lived.onSchedule_iff.1, lone_lived.onSchedule_iff.2 2 0 challenged (by decide) ⟨rfl, by decide, rfl⟩⟩

/-- With a hello time of two seconds, hellos that carry 0 are sent at the first tick already. -/
theorem lone_not_onSchedule : lone.Lived ∧ RemainsRoot [.message .tick] lone ∧ ¬ OnSchedule 2 0 [.message .tick] lone :=
  ⟨⟨_, [], rfl⟩, ⟨rfl, (by decide : lone.handleTick.isRoot = true)⟩, fun h => absurd (h.1.none (by decide)) (by decide)⟩

end Inet.Ieee8021d.STP
