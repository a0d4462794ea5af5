import Inetmanet.Arp.ARP

/-!
# IGMPv2

`IGMPv2.cc`: the groups a host is in, the groups a router knows members of, and
the querier of a network. A handler that finds no entry for an interface creates
one with nothing in it, so the entries of interfaces are a function here.
-/
namespace Inet.Igmp

open Inet.Ipv4 (IPv4Address)
open Inet.Arp (isMulticast)

/-- `simtime_t` and the intervals of the parameters, in seconds. -/
abbrev Time := ℚ≥0

instance atLeastTwoTen : Nat.AtLeastTwo 10 := inferInstance

abbrev InterfaceId := Nat

def isLinkLocalMulticast (addr : IPv4Address) : Prop := addr &&& 0xFFFFFF00 = 0xE0000000
deriving Decidable

def ALL_HOSTS_MCAST : IPv4Address := 0xE0000001

def ALL_ROUTERS_MCAST : IPv4Address := 0xE0000002

inductive RouterState where
  | initial
  | querier
  | nonQuerier
  deriving DecidableEq, Repr

inductive RouterGroupState where
  | noMembersPresent
  | membersPresent
  | v1MembersPresent
  | checkingMembership
  deriving DecidableEq, Repr

inductive HostGroupState where
  | nonMember
  | delayingMember
  | idleMember
  deriving DecidableEq, Repr

inductive IGMPType where
  | membershipQuery
  | v1MembershipReport
  | v2MembershipReport
  | v2LeaveGroup
  | v3MembershipReport
  deriving DecidableEq, Repr

structure IGMPMessage where
  type : IGMPType
  /-- in tenths of a second -/
  maxRespTime : Nat := 0
  /-- 0 in a general query -/
  groupAddress : IPv4Address
  deriving DecidableEq, Repr

/-- A timer message: when it is due, if it is scheduled. -/
abbrev CMessage := Option Time

/-- A timer is a pointer that is null until the timer is needed. -/
structure HostGroupData where
  groupAddr : IPv4Address
  state : HostGroupState := .nonMember
  /-- we were the last host to send a report for this group -/
  flag : Bool := false
  timer : Option CMessage := none
  deriving DecidableEq

structure RouterGroupData where
  groupAddr : IPv4Address
  state : RouterGroupState := .noMembersPresent
  timer : Option CMessage := none
  rexmtTimer : Option CMessage := none
  deriving DecidableEq

abbrev GroupToHostDataMap := Std.TreeMap IPv4Address HostGroupData

structure RouterInterfaceData where
  groups : IPv4Address → Option RouterGroupData := fun _ => none
  igmpRouterState : RouterState := .initial
  igmpQueryTimer : Option CMessage := none

structure InterfaceEntry where
  isMulticast : Bool
  ipAddress : IPv4Address
  deriving DecidableEq, Repr

structure Config where
  enabled : Bool := true
  externalRouter : Bool := false
  isMulticastForwardingEnabled : Bool := true
  numInterfaces : Nat
  interface : InterfaceId → InterfaceEntry
  queryInterval : Time := 125
  queryResponseInterval : Time := 10
  groupMembershipInterval : Time := 260
  otherQuerierPresentInterval : Time := 255
  startupQueryInterval : Time := 125 / 4
  lastMemberQueryInterval : Time := 1
  lastMemberQueryCount : Nat := 2
  unsolicitedReportInterval : Time := 10

inductive Notification where
  | mcastRegistered
  | mcastUnregistered
  deriving DecidableEq, Repr

/-- A message handed to IP, or to the external router. -/
inductive Sent where
  | ipOut (msg : IGMPMessage) (ie : InterfaceId) (dest : IPv4Address)
  | routerOut (msg : IGMPMessage)
  deriving DecidableEq, Repr

/-- `fired` holds the notifications about groups, the newest first. -/
structure IGMPv2 where
  config : Config
  hostData : InterfaceId → GroupToHostDataMap := fun _ => ∅
  routerData : InterfaceId → RouterInterfaceData := fun _ => {}
  /-- of `IPv4InterfaceData` -/
  reportedMulticastGroups : InterfaceId → List IPv4Address := fun _ => []
  fired : List (InterfaceId × IPv4Address × Notification) := []
  sent : List Sent := []

/-- `startTimer`, at the time `now`. -/
def startTimer (timer : Option CMessage) (now interval : Time) : Sim (Option CMessage) := do
  ensure (timer.isSome = true) "timer"
  return some (some (now + interval))

def cancelEvent (timer : Option CMessage) : Sim (Option CMessage) :=
  match timer with
  | none => throw (.nullPointer "msg")
  | some _ => return some none

/-- `startHostTimer`, with the `delay` that was drawn. -/
def HostGroupData.startHostTimer (group : HostGroupData) (now delay : Time) : Sim HostGroupData := do
  let timer ← startTimer (some (group.timer.getD none)) now delay
  return { group with timer := timer }

/-- `processGroupQuery` -/
def HostGroupData.processGroupQuery (group : HostGroupData) (now : Time) (maxRespTime : Nat) (delay : Time) :
    Sim HostGroupData :=
  match group.state with
  | .delayingMember =>
    match group.timer with
    | none => throw (.nullPointer "timer")
    | some none => return group
    | some (some arrivalTime) =>
      if now + maxRespTime / 10 < arrivalTime then group.startHostTimer now delay else return group
  | .idleMember => do
    let group ← group.startHostTimer now delay
    return { group with state := .delayingMember }
  | .nonMember => return group

def HostGroupData.cancelIfDelaying (group : HostGroupData) : Sim HostGroupData :=
  if group.state = .delayingMember then do
    let timer ← cancelEvent group.timer
    return { group with timer := timer }
  else return group

namespace IGMPv2

def setHostGroup (s : IGMPv2) (ie : InterfaceId) (addr : IPv4Address) (group : HostGroupData) : IGMPv2 :=
  { s with hostData := Function.update s.hostData ie ((s.hostData ie).insert addr group) }

def deleteHostGroupData (s : IGMPv2) (ie : InterfaceId) (addr : IPv4Address) : IGMPv2 :=
  { s with hostData := Function.update s.hostData ie ((s.hostData ie).erase addr) }

def setRouterInterface (s : IGMPv2) (ie : InterfaceId) (data : RouterInterfaceData) : IGMPv2 :=
  { s with routerData := Function.update s.routerData ie data }

/-- The entry of a group is written, or deleted with its timers. -/
def setRouterGroup (s : IGMPv2) (ie : InterfaceId) (addr : IPv4Address) (group : Option RouterGroupData) : IGMPv2 :=
  s.setRouterInterface ie
    { s.routerData ie with groups := Function.update (s.routerData ie).groups addr group }

/-- `sendToIP` -/
def sendToIP (s : IGMPv2) (msg : IGMPMessage) (ie : InterfaceId) (dest : IPv4Address) : Sim IGMPv2 := do
  ensure ((s.config.interface ie).isMulticast = true) "ie->isMulticast()"
  return { s with sent := s.sent ++ [.ipOut msg ie dest] }

def sendQuery (s : IGMPv2) (ie : InterfaceId) (groupAddr : IPv4Address) (maxRespTime : Time) : Sim IGMPv2 := do
  ensure (groupAddr = 0 ∨ isMulticast groupAddr ∧ ¬ isLinkLocalMulticast groupAddr)
    "groupAddr.isUnspecified() || (groupAddr.isMulticast() && !groupAddr.isLinkLocalMulticast())"
  if (s.routerData ie).igmpRouterState = .querier then
    s.sendToIP ⟨.membershipQuery, ⌊maxRespTime * 10⌋₊, groupAddr⟩ ie
      (if groupAddr = 0 then ALL_HOSTS_MCAST else groupAddr)
  else return s

def sendReport (s : IGMPv2) (ie : InterfaceId) (group : HostGroupData) : Sim IGMPv2 := do
  ensure (isMulticast group.groupAddr ∧ ¬ isLinkLocalMulticast group.groupAddr)
    "group->groupAddr.isMulticast() && !group->groupAddr.isLinkLocalMulticast()"
  s.sendToIP ⟨.v2MembershipReport, 0, group.groupAddr⟩ ie group.groupAddr

def sendLeave (s : IGMPv2) (ie : InterfaceId) (group : HostGroupData) : Sim IGMPv2 := do
  ensure (isMulticast group.groupAddr ∧ ¬ isLinkLocalMulticast group.groupAddr)
    "group->groupAddr.isMulticast() && !group->groupAddr.isLinkLocalMulticast()"
  s.sendToIP ⟨.v2LeaveGroup, 0, group.groupAddr⟩ ie ALL_ROUTERS_MCAST

def createHostGroupData (s : IGMPv2) (ie : InterfaceId) (groupAddr : IPv4Address) : Sim HostGroupData := do
  ensure ((s.hostData ie)[groupAddr]? = none) "interfaceData->groups.find(group) == interfaceData->groups.end()"
  ensure (isMulticast groupAddr) "groupAddr.isMulticast()"
  return { groupAddr := groupAddr }

def multicastGroupJoined (s : IGMPv2) (now : Time) (ie : InterfaceId) (groupAddr : IPv4Address) (delay : Time) :
    Sim IGMPv2 := do
  ensure ((s.config.interface ie).isMulticast = true) "ie && ie->isMulticast()"
  ensure (isMulticast groupAddr) "groupAddr.isMulticast()"
  if s.config.enabled = true ∧ ¬ isLinkLocalMulticast groupAddr then
    let groupData ← s.createHostGroupData ie groupAddr
    let s ← s.sendReport ie groupData
    let groupData ← { groupData with flag := true }.startHostTimer now delay
    return s.setHostGroup ie groupAddr { groupData with state := .delayingMember }
  else return s

/-- A leave is sent by the last host to send a report. -/
def leaveIfLast (s : IGMPv2) (ie : InterfaceId) (group : HostGroupData) : Sim IGMPv2 :=
  if group.flag then s.sendLeave ie group else return s

def multicastGroupLeft (s : IGMPv2) (ie : InterfaceId) (groupAddr : IPv4Address) : Sim IGMPv2 := do
  ensure ((s.config.interface ie).isMulticast = true) "ie && ie->isMulticast()"
  ensure (isMulticast groupAddr) "groupAddr.isMulticast()"
  if s.config.enabled = true ∧ ¬ isLinkLocalMulticast groupAddr then
    match (s.hostData ie)[groupAddr]? with
    | some groupData =>
      let groupData ← groupData.cancelIfDelaying
      let s ← s.leaveIfLast ie groupData
      return s.deleteHostGroupData ie groupAddr
    | none => return s.deleteHostGroupData ie groupAddr
  else return s

/-- The general query goes to all groups in turn; `delay` is what is drawn for a group. -/
def processGroupQueries (s : IGMPv2) (now : Time) (ie : InterfaceId) (maxRespTime : Nat)
    (delay : IPv4Address → Time) : List (IPv4Address × HostGroupData) → Sim IGMPv2
  | [] => return s
  | (addr, group) :: groups => do
    let group ← group.processGroupQuery now maxRespTime (delay addr)
    (s.setHostGroup ie addr group).processGroupQueries now ie maxRespTime delay groups

/-- The host's part of `processQuery`. -/
def hostQuery (s : IGMPv2) (now : Time) (ie : InterfaceId) (msg : IGMPMessage) (delay : IPv4Address → Time) :
    Sim IGMPv2 :=
  if msg.groupAddress = 0 then s.processGroupQueries now ie msg.maxRespTime delay (s.hostData ie).toList
  else
    match (s.hostData ie)[msg.groupAddress]? with
    | some group => do
      let group ← group.processGroupQuery now msg.maxRespTime (delay msg.groupAddress)
      return s.setHostGroup ie msg.groupAddress group
    | none => return s

/-- A query of a router with a lower address. -/
def observeQuerier (s : IGMPv2) (now : Time) (ie : InterfaceId) (sender : IPv4Address) : Sim IGMPv2 :=
  if sender < (s.config.interface ie).ipAddress then do
    let timer ← startTimer (s.routerData ie).igmpQueryTimer now s.config.otherQuerierPresentInterval
    return s.setRouterInterface ie { s.routerData ie with igmpQueryTimer := timer, igmpRouterState := .nonQuerier }
  else return s

/-- The querier asks for one group. -/
def groupSpecificQuery (s : IGMPv2) (now : Time) (ie : InterfaceId) (msg : IGMPMessage) : Sim IGMPv2 :=
  if msg.groupAddress ≠ 0 ∧ (s.routerData ie).igmpRouterState = .nonQuerier then
    match (s.routerData ie).groups msg.groupAddress with
    | none => throw (.nullPointer "groupData")
    | some groupData =>
      if groupData.state = .membersPresent then do
        let timer ← startTimer groupData.timer now (msg.maxRespTime / 10 * s.config.lastMemberQueryCount)
        return s.setRouterGroup ie msg.groupAddress
          (some { groupData with timer := timer, state := .checkingMembership })
      else return s
  else return s

def processQuery (s : IGMPv2) (now : Time) (ie : InterfaceId) (sender : IPv4Address) (msg : IGMPMessage)
    (delay : IPv4Address → Time) : Sim IGMPv2 := do
  ensure ((s.config.interface ie).isMulticast = true) "ie->isMulticast()"
  let s ← s.hostQuery now ie msg delay
  if s.config.isMulticastForwardingEnabled then
    if s.config.externalRouter then return { s with sent := s.sent ++ [.routerOut msg] }
    let s ← s.observeQuerier now ie sender
    s.groupSpecificQuery now ie msg
  else return s

/-- The host's part of `processV2Report`: another member has answered. -/
def hostReport (s : IGMPv2) (ie : InterfaceId) (groupAddr : IPv4Address) : Sim IGMPv2 :=
  match (s.hostData ie)[groupAddr]? with
  | some groupData =>
    if groupData.state = .delayingMember then do
      let timer ← cancelEvent groupData.timer
      return s.setHostGroup ie groupAddr { groupData with timer := timer, flag := false, state := .idleMember }
    else return s
  | none => return s

def addMulticastListener (s : IGMPv2) (ie : InterfaceId) (addr : IPv4Address) : Sim IGMPv2 := do
  if ¬ isMulticast addr then
    throw (.runtime "IPv4InterfaceData::addMulticastListener(): multicast address expected, received %s.")
  if addr ∈ s.reportedMulticastGroups ie then return s
  return { s with reportedMulticastGroups :=
    Function.update s.reportedMulticastGroups ie (s.reportedMulticastGroups ie ++ [addr]) }

def removeMulticastListener (s : IGMPv2) (ie : InterfaceId) (addr : IPv4Address) : IGMPv2 :=
  { s with reportedMulticastGroups :=
    Function.update s.reportedMulticastGroups ie ((s.reportedMulticastGroups ie).erase addr) }

def fireChangeNotification (s : IGMPv2) (ie : InterfaceId) (addr : IPv4Address) (category : Notification) : IGMPv2 :=
  { s with fired := (ie, addr, category) :: s.fired }

/-- The entry of the group, which is created if there is none, with both of its timers allocated. -/
def reportedGroup (s : IGMPv2) (ie : InterfaceId) (groupAddr : IPv4Address) : Sim RouterGroupData := do
  let routerGroupData ← match (s.routerData ie).groups groupAddr with
    | some data => pure data
    | none => do
      ensure (isMulticast groupAddr) "groupAddr.isMulticast()"
      pure { groupAddr := groupAddr }
  return { routerGroupData with
    timer := some (routerGroupData.timer.getD none)
    rexmtTimer := some (routerGroupData.rexmtTimer.getD none) }

/-- What a report does in each state. -/
def memberReported (s : IGMPv2) (ie : InterfaceId) (groupAddr : IPv4Address) (data : RouterGroupData) :
    Sim (IGMPv2 × RouterGroupData) :=
  match data.state with
  | .noMembersPresent => do
    let s ← s.addMulticastListener ie groupAddr
    return (s.fireChangeNotification ie data.groupAddr .mcastRegistered, data)
  | .checkingMembership => do
    let rexmtTimer ← cancelEvent data.rexmtTimer
    return (s, { data with rexmtTimer := rexmtTimer })
  | _ => return (s, data)

/-- The router's part of `processV2Report`. -/
def routerReport (s : IGMPv2) (now : Time) (ie : InterfaceId) (groupAddr : IPv4Address) : Sim IGMPv2 := do
  let data ← s.reportedGroup ie groupAddr
  let (s, data) ← s.memberReported ie groupAddr data
  let timer ← startTimer data.timer now s.config.groupMembershipInterval
  return s.setRouterGroup ie groupAddr (some { data with timer := timer, state := .membersPresent })

def processV2Report (s : IGMPv2) (now : Time) (ie : InterfaceId) (msg : IGMPMessage) : Sim IGMPv2 := do
  ensure ((s.config.interface ie).isMulticast = true) "ie->isMulticast()"
  let s ← s.hostReport ie msg.groupAddress
  if s.config.isMulticastForwardingEnabled then
    if s.config.externalRouter then return { s with sent := s.sent ++ [.routerOut msg] }
    s.routerReport now ie msg.groupAddress
  else return s

/-- The router's part of `processLeave`. -/
def routerLeave (s : IGMPv2) (now : Time) (ie : InterfaceId) (groupAddr : IPv4Address) : Sim IGMPv2 :=
  match (s.routerData ie).groups groupAddr with
  | none => return s
  | some data =>
    if data.state = .membersPresent ∧ (s.routerData ie).igmpRouterState = .querier then do
      let timer ← startTimer data.timer now (s.config.lastMemberQueryInterval * s.config.lastMemberQueryCount)
      let rexmtTimer ← startTimer data.rexmtTimer now s.config.lastMemberQueryInterval
      let s ← s.sendQuery ie groupAddr s.config.lastMemberQueryInterval
      return s.setRouterGroup ie groupAddr
        (some { data with timer := timer, rexmtTimer := rexmtTimer, state := .checkingMembership })
    else return s

def processLeave (s : IGMPv2) (now : Time) (ie : InterfaceId) (msg : IGMPMessage) : Sim IGMPv2 := do
  ensure ((s.config.interface ie).isMulticast = true) "ie->isMulticast()"
  if s.config.isMulticastForwardingEnabled then
    if s.config.externalRouter then return { s with sent := s.sent ++ [.routerOut msg] }
    s.routerLeave now ie msg.groupAddress
  else return s

def processIgmpMessage (s : IGMPv2) (now : Time) (ie : InterfaceId) (srcAddr : IPv4Address) (msg : IGMPMessage)
    (delay : IPv4Address → Time) : Sim IGMPv2 :=
  match msg.type with
  | .membershipQuery => s.processQuery now ie srcAddr msg delay
  | .v2MembershipReport => s.processV2Report now ie msg
  | .v2LeaveGroup => s.processLeave now ie msg
  | _ =>
    if s.config.externalRouter then return { s with sent := s.sent ++ [.routerOut msg] }
    else throw (.runtime "IGMPv2: Unhandled message type (%dq)")

/-- A general query is sent, and the time to the next one starts. -/
def sendGeneralQuery (s : IGMPv2) (now : Time) (ie : InterfaceId) (interval : Time) : Sim IGMPv2 := do
  let s ← s.sendQuery ie 0 s.config.queryResponseInterval
  let timer ← startTimer (s.routerData ie).igmpQueryTimer now interval
  return s.setRouterInterface ie { s.routerData ie with igmpQueryTimer := timer }

/-- The timer is not scheduled when it arrives. -/
def processQueryTimer (s : IGMPv2) (now : Time) (ie : InterfaceId) : Sim IGMPv2 :=
  let data := { s.routerData ie with igmpQueryTimer := some none }
  if data.igmpRouterState = .querier ∨ data.igmpRouterState = .nonQuerier then
    (s.setRouterInterface ie { data with igmpRouterState := .querier }).sendGeneralQuery now ie s.config.queryInterval
  else return s.setRouterInterface ie data

def processHostGroupTimer (s : IGMPv2) (ie : InterfaceId) (groupAddr : IPv4Address) : Sim IGMPv2 :=
  match (s.hostData ie)[groupAddr]? with
  | none => throw (.nullPointer "hostGroup")
  | some hostGroup => do
    let s ← s.sendReport ie hostGroup
    return s.setHostGroup ie groupAddr { hostGroup with timer := some none, flag := true, state := .idleMember }

def processLeaveTimer (s : IGMPv2) (ie : InterfaceId) (groupAddr : IPv4Address) : Sim IGMPv2 :=
  match (s.routerData ie).groups groupAddr with
  | none => throw (.nullPointer "routerGroup")
  | some routerGroup => do
    let s := s.removeMulticastListener ie routerGroup.groupAddr
    let s := s.fireChangeNotification ie routerGroup.groupAddr .mcastUnregistered
    if routerGroup.state = .checkingMembership then
      let _ ← cancelEvent routerGroup.rexmtTimer
      return s.setRouterGroup ie routerGroup.groupAddr none
    return s.setRouterGroup ie routerGroup.groupAddr none

def processRexmtTimer (s : IGMPv2) (now : Time) (ie : InterfaceId) (groupAddr : IPv4Address) : Sim IGMPv2 :=
  match (s.routerData ie).groups groupAddr with
  | none => throw (.nullPointer "routerGroup")
  | some routerGroup => do
    let s ← s.sendQuery ie routerGroup.groupAddr s.config.lastMemberQueryInterval
    let rexmtTimer ← startTimer (some none) now s.config.lastMemberQueryInterval
    return s.setRouterGroup ie groupAddr
      (some { routerGroup with rexmtTimer := rexmtTimer, state := .checkingMembership })

def configureInterface (s : IGMPv2) (ie : InterfaceId) : Sim IGMPv2 :=
  if s.config.enabled = true ∧ s.config.isMulticastForwardingEnabled = true ∧ s.config.externalRouter = false then
    (s.setRouterInterface ie { s.routerData ie with
      igmpQueryTimer := some none, igmpRouterState := .querier }).sendGeneralQuery 0 ie s.config.startupQueryInterval
  else return s

/-- The interfaces below `n` that do multicast are configured. -/
def configureInterfaces (s : IGMPv2) : (n : Nat) → Sim IGMPv2
  | 0 => return s
  | n + 1 => do
    let s ← s.configureInterfaces n
    if (s.config.interface n).isMulticast then s.configureInterface n else return s

def initialized (config : Config) : Sim IGMPv2 :=
  IGMPv2.configureInterfaces { config := config } config.numInterfaces

end IGMPv2

inductive Event where
  | joined (ie : InterfaceId) (groupAddr : IPv4Address) (delay : Time)
  | left (ie : InterfaceId) (groupAddr : IPv4Address)
  | message (ie : InterfaceId) (srcAddr : IPv4Address) (msg : IGMPMessage) (delay : IPv4Address → Time)
  | queryTimer (ie : InterfaceId)
  | hostGroupTimer (ie : InterfaceId) (groupAddr : IPv4Address)
  | leaveTimer (ie : InterfaceId) (groupAddr : IPv4Address)
  | rexmtTimer (ie : InterfaceId) (groupAddr : IPv4Address)

namespace IGMPv2

/-- A module that is not enabled drops its messages. -/
def step (s : IGMPv2) (now : Time) : Event → Sim IGMPv2
  | .joined ie groupAddr delay => s.multicastGroupJoined now ie groupAddr delay
  | .left ie groupAddr => s.multicastGroupLeft ie groupAddr
  | .message ie srcAddr msg delay =>
    if s.config.enabled then s.processIgmpMessage now ie srcAddr msg delay else return s
  | .queryTimer ie => s.processQueryTimer now ie
  | .hostGroupTimer ie groupAddr => s.processHostGroupTimer ie groupAddr
  | .leaveTimer ie groupAddr => s.processLeaveTimer ie groupAddr
  | .rexmtTimer ie groupAddr => s.processRexmtTimer now ie groupAddr

def run (s : IGMPv2) : List (Time × Event) → Sim IGMPv2
  | [] => return s
  | (now, e) :: events => do
    let s ← s.step now e
    s.run events

end IGMPv2

end Inet.Igmp
