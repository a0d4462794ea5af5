import Inetmanet.Lib.CircularScan
import Inetmanet.Simulation

/-!
# The stream schedulers

`SCTPSSFunctions.cc`: the functions that choose the stream to send from. They are called
to choose (`peek` is false) or to have a look at what they would choose. The streams have
the ids below `n`, and `lastStreamScheduled` is one of them; `none` stands for -1.
-/
namespace Inet.Sctp.StreamScheduler

/-- A message in a send queue, as the schedulers see it. -/
structure DataMsg where
  enqueuingTime : Int
  byteLength : Nat
  deriving DecidableEq, Repr

structure SendStream where
  streamQ : List DataMsg := []
  unorderedStreamQ : List DataMsg := []
  deriving DecidableEq, Repr

def SendStream.HasData (s : SendStream) : Prop := s.unorderedStreamQ.length > 0 ∨ s.streamQ.length > 0
deriving Decidable

/-- The variables of the schedulers. The keys of `ssFairBandwidthMap` are ids of streams; other keys of the other two
maps are never looked at. -/
structure State (n : Nat) where
  lastStreamScheduled : Fin n
  ssNextStream : Bool := false
  ssLastDataChunkSizeSet : Bool := false
  ssPriorityMap : Fin n → Option (BitVec 32) := fun _ => none
  ssFairBandwidthMap : Fin n → Option (BitVec 32) := fun _ => none
  ssStreamToPathMap : Fin n → Option (BitVec 32) := fun _ => none

/-- `(int)(ceil(uniform(1, size) - 0.5))` -/
structure Draw where
  rnd : Nat → Nat
  rnd_mem : ∀ size, 0 < size → 1 ≤ rnd size ∧ rnd size ≤ size

/-- What a scheduler finds around it. -/
structure Around (n : Nat) where
  sendStreams : Fin n → SendStream
  /-- `activePath` of the paths, in the order of `sctpPathMap` -/
  sctpPathMap : List Bool
  /-- the place of `path` in `sctpPathMap`, or its size -/
  path : Nat
  /-- the numbers in the parameter of this name -/
  streamsToPaths : List (BitVec 32)

/-- A map of the standard library: the entry of a key that is not there is 0 and is there from then on. -/
def touch {n : Nat} (m : Fin n → Option (BitVec 32)) (k : Fin n) : Fin n → Option (BitVec 32) :=
  fun i => if i = k then some ((m k).getD 0) else m i

namespace Around

variable {n : Nat} (around : Around n)

def HasData (sid : Fin n) : Prop := (around.sendStreams sid).HasData
deriving Decidable

/-- A loop over the streams; one without an end is an error. -/
def loop {σ : Type} (last first : Fin n) (body : σ → Fin n → σ) (found : σ → Bool) (s : σ) : Sim σ :=
  match CircularScan.scan last body found n first s with
  | some s => .ok s
  | none => .error .diverges

end Around

namespace State

variable {n : Nat} (state : State n)

def first : Fin n := ⟨0, Nat.lt_of_le_of_lt (Nat.zero_le _) state.lastStreamScheduled.2⟩

/-- `state->lastStreamScheduled = sid`, if a stream was chosen. -/
def schedule (sid : Option (Fin n)) : State n :=
  match sid with
  | some sid => { state with lastStreamScheduled := sid }
  | none => state

end State

section

variable {n : Nat} (around : Around n)

/-- The next stream with data. -/
def nextWithData (last : Fin n) : Sim (Option (Fin n)) :=
  Around.loop last (CircularScan.next last)
    (fun sid testsid => if sid.isNone ∧ around.HasData testsid then some testsid else sid) Option.isSome none

def streamScheduler (peek : Bool) (state : State n) : Sim (Option (Fin n) × State n) :=
  let last := state.lastStreamScheduled
  if (¬ state.ssLastDataChunkSizeSet ∨ ¬ state.ssNextStream) ∧ around.HasData last then
    let state := { state with ssNextStream := true }
    .ok (some last, if peek then state else { state with ssLastDataChunkSizeSet := false })
  else do
    let sid ← nextWithData around last
    return (sid, if sid.isSome ∧ ¬ peek then { state.schedule sid with ssLastDataChunkSizeSet := false } else state)

def streamSchedulerRoundRobinPacket (peek : Bool) (state : State n) : Sim (Option (Fin n) × State n) := do
  let last := state.lastStreamScheduled
  let sid ←
    if state.ssNextStream then nextWithData around last
    else pure (if around.HasData last then some last else none)
  return (sid, if sid.isSome ∧ ¬ peek then { state.schedule sid with ssNextStream := false } else state)

/-- `SCTPWaitingSendStreamsList` -/
def waitingSendStreams : List (Fin n) := (List.finRange n).filter fun sid => around.HasData sid

def streamSchedulerRandomPacket (draw : Draw) (peek : Bool) (state : State n) : Sim (Option (Fin n) × State n) :=
  let last := state.lastStreamScheduled
  let waiting := waitingSendStreams around
  let sid :=
    if state.ssNextStream then if waiting.length > 0 then waiting[draw.rnd waiting.length - 1]? else none
    else if around.HasData last then some last else none
  .ok (sid, if sid.isSome ∧ ¬ peek then { state.schedule sid with ssNextStream := false } else state)

def streamSchedulerRandom (draw : Draw) (peek : Bool) (state : State n) : Sim (Option (Fin n) × State n) :=
  streamSchedulerRandomPacket around draw peek { state with ssNextStream := true }

/-- One round of the loop of `streamSchedulerPriority`. -/
def comparePriority (s : Option (Fin n) × (Fin n → Option (BitVec 32))) (testsid : Fin n) :
    Option (Fin n) × (Fin n → Option (BitVec 32)) :=
  if around.HasData testsid then
    match s.1 with
    | none => (some testsid, s.2)
    | some sid =>
      let map := touch (touch s.2 testsid) sid
      (if (map testsid).getD 0 < (map sid).getD 0 then some testsid else some sid, map)
  else s

def streamSchedulerPriority (peek : Bool) (state : State n) : Sim (Option (Fin n) × State n) :=
  let last := state.lastStreamScheduled
  if (¬ state.ssLastDataChunkSizeSet ∧ state.ssNextStream) ∧ around.HasData last then .ok (some last, state)
  else do
    let first := if state.ssNextStream then CircularScan.next last else state.first
    let (sid, map) ← Around.loop last first (comparePriority around) (fun _ => false) (none, state.ssPriorityMap)
    let state := { state with ssNextStream := true, ssPriorityMap := map }
    return (sid, if sid.isSome ∧ ¬ peek then { state.schedule sid with ssLastDataChunkSizeSet := false } else state)

/-- The size of the message in front. -/
def packetsize (sid : Fin n) : BitVec 32 :=
  match (around.sendStreams sid).unorderedStreamQ, (around.sendStreams sid).streamQ with
  | m :: _, _ => BitVec.ofNat 32 m.byteLength
  | [], m :: _ => BitVec.ofNat 32 m.byteLength
  | [], [] => 0

/-- The entry of a stream when the loop over the streams has brought the map up to date. -/
def fairBandwidth (state : State n) (map : Fin n → Option (BitVec 32)) (sid : Fin n) : BitVec 32 :=
  let lastDataChunkSize := (map state.lastStreamScheduled).getD 0
  let packetsize := packetsize around sid
  let entry := (map sid).getD 0
  if around.HasData sid then
    if entry.toInt < 0 then if packetsize > 0 then packetsize else entry
    else if state.ssLastDataChunkSizeSet then
      let entry := entry - lastDataChunkSize
      let entry := if entry.toInt < 0 then 0 else entry
      if sid = state.lastStreamScheduled then entry + packetsize else entry
    else entry
  else -1

/-- The stream with the smallest entry that is not negative. -/
def leastBandwidth (map : Fin n → BitVec 32) : Option (Fin n) × BitVec 32 :=
  (List.finRange n).foldl (fun (sid, bandwidth) i =>
    if (sid = none ∨ map i < bandwidth) ∧ 0 ≤ (map i).toInt then (some i, map i) else (sid, bandwidth)) (none, 0)

def streamSchedulerFairBandwidthPacket (peek : Bool) (state : State n) : Sim (Option (Fin n) × State n) :=
  let last := state.lastStreamScheduled
  let state :=
    if ∀ sid, state.ssFairBandwidthMap sid = none then { state with ssFairBandwidthMap := fun _ => some (-1) } else state
  let map := fairBandwidth around state state.ssFairBandwidthMap
  let sid :=
    if state.ssNextStream then (leastBandwidth map).1
    else if around.HasData last then some last else none
  let state :=
    if peek then state else { state with ssFairBandwidthMap := fun sid => some (map sid), ssLastDataChunkSizeSet := false }
  .ok (sid, if sid.isSome ∧ ¬ peek then { state.schedule sid with ssNextStream := false } else state)

def streamSchedulerFairBandwidth (peek : Bool) (state : State n) : Sim (Option (Fin n) × State n) :=
  streamSchedulerFairBandwidthPacket around peek { state with ssNextStream := true }

/-- One queue in a round of the loop of `streamSchedulerFCFS`: the chosen stream and `oldestEnqueuing`. -/
def compareFront (testsid : Fin n) (s : Option (Fin n) × Int) (queue : List DataMsg) : Option (Fin n) × Int :=
  match queue with
  | m :: _ => if s.1 = none ∨ s.2 > m.enqueuingTime then (some testsid, m.enqueuingTime) else s
  | [] => s

def compareFronts (s : Option (Fin n) × Int) (testsid : Fin n) : Option (Fin n) × Int :=
  compareFront testsid (compareFront testsid s (around.sendStreams testsid).unorderedStreamQ)
    (around.sendStreams testsid).streamQ

def streamSchedulerFCFS (peek : Bool) (state : State n) : Sim (Option (Fin n) × State n) := do
  let last := state.lastStreamScheduled
  let first := if state.ssNextStream then CircularScan.next last else state.first
  let (sid, _) ← Around.loop last first (compareFronts around) (fun _ => false) (none, 0)
  let state := { state with ssNextStream := true }
  return (sid, if peek then state else state.schedule sid)

/-- The map from the streams to the paths, as the parameter has it. -/
def streamToPathMap : Fin n → Option (BitVec 32) := fun sid => some ((around.streamsToPaths[sid.val]?).getD 0)

def onPath (around : Around n) (s : Option (Fin n) × (Fin n → Option (BitVec 32))) (testsid : Fin n) :
    Option (Fin n) × (Fin n → Option (BitVec 32)) :=
  if s.1.isSome then s
  else
    let map := touch s.2 testsid
    (if (map testsid).getD 0 = BitVec.ofNat 32 around.path then some testsid else none, map)

def pathStreamSchedulerManual (peek : Bool) (state : State n) : Sim (Option (Fin n) × State n) := do
  let last := state.lastStreamScheduled
  let map := if ∀ sid, state.ssStreamToPathMap sid = none then streamToPathMap around else state.ssStreamToPathMap
  let (sid, map) ← Around.loop last (CircularScan.next last) (onPath around) (fun s => s.1.isSome) (none, map)
  let state := { state with ssStreamToPathMap := map }
  return (sid, if peek then state else state.schedule sid)

namespace Around

/-- The number of `path` among the active ones. -/
def thisPath : Option Nat :=
  if around.sctpPathMap[around.path]? = some true then some ((around.sctpPathMap.take around.path).count true) else none

def workingPaths : Nat := around.sctpPathMap.count true

end Around

def pathStreamSchedulerMapToPath (_peek : Bool) (state : State n) : Sim (Option (Fin n) × State n) :=
  match around.thisPath with
  | none => .ok (none, state)
  | some thisPath =>
    .ok ((List.finRange n).find? fun sid => sid.val % around.workingPaths = thisPath ∧ around.HasData sid, state)

inductive SCTPStreamScheduler where
  | ROUND_ROBIN | ROUND_ROBIN_PACKET | RANDOM_SCHEDULE | RANDOM_SCHEDULE_PACKET | FAIR_BANDWITH | FAIR_BANDWITH_PACKET
  | PRIORITY | FCFS | PATH_MANUAL | PATH_MAP_TO_PATH
  deriving DecidableEq, Repr

/-- `ssFunctions.ssGetNextSid` -/
def ssGetNextSid (draw : Draw) : SCTPStreamScheduler → (peek : Bool) → State n → Sim (Option (Fin n) × State n)
  | .ROUND_ROBIN => streamScheduler around
  | .ROUND_ROBIN_PACKET => streamSchedulerRoundRobinPacket around
  | .RANDOM_SCHEDULE => streamSchedulerRandom around draw
  | .RANDOM_SCHEDULE_PACKET => streamSchedulerRandomPacket around draw
  | .FAIR_BANDWITH => streamSchedulerFairBandwidth around
  | .FAIR_BANDWITH_PACKET => streamSchedulerFairBandwidthPacket around
  | .PRIORITY => streamSchedulerPriority around
  | .FCFS => streamSchedulerFCFS around
  | .PATH_MANUAL => pathStreamSchedulerManual around
  | .PATH_MAP_TO_PATH => pathStreamSchedulerMapToPath around

end

end Inet.Sctp.StreamScheduler
