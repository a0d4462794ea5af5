import Inetmanet.Igmp.IGMPv2

/-!
# The timers and the entries of groups

Every handler leaves the states of the groups, their timers and the notifications
in agreement. A router that is not the querier trips over a query for a group it
does not know.
-/
namespace Inet.Igmp

open Function Option
open Inet.Ipv4 (IPv4Address)
open Inet.Arp (isMulticast)

/-- The groups that a router keeps track of. -/
def RoutedGroup (addr : IPv4Address) : Prop := isMulticast addr ∧ ¬ isLinkLocalMulticast addr
deriving Decidable

/-- The interfaces that are configured. -/
def Config.Serves (c : Config) (ie : InterfaceId) : Prop := ie < c.numInterfaces ∧ (c.interface ie).isMulticast = true
deriving Decidable

/-- The module is enabled and on a multicast router. -/
def Config.Routes (c : Config) : Prop :=
  c.enabled = true ∧ c.isMulticastForwardingEnabled = true ∧ c.externalRouter = false
deriving Decidable

def Scheduled (timer : Option CMessage) : Prop := ∃ time, timer = some (some time)

/-- A host group answers a query exactly while its timer runs. -/
def HostGroupData.Sound (group : HostGroupData) : Prop := group.state = .delayingMember ↔ Scheduled group.timer

structure RouterGroupData.Sound (group : RouterGroupData) : Prop where
  state : group.state = .membersPresent ∨ group.state = .checkingMembership
  timer : Scheduled group.timer
  rexmtTimer : Scheduled group.rexmtTimer → group.state = .checkingMembership

/-- The notifications, the newest first, alternate from a registration on, and the newest is a
registration just if there is an entry. -/
def Alternate : (entry : Bool) → List Notification → Prop
  | entry, [] => entry = false
  | entry, n :: older => entry = decide (n = .mcastRegistered) ∧ Alternate (!entry) older

namespace IGMPv2

def notificationsOf (s : IGMPv2) (ie : InterfaceId) (addr : IPv4Address) : List Notification :=
  s.fired.filterMap fun n => if n.1 = ie ∧ n.2.1 = addr then some n.2.2 else none

/-- What is required of every state. -/
structure Sound (s : IGMPv2) : Prop where
  host : ∀ (ie : InterfaceId) (addr : IPv4Address) (group : HostGroupData),
    (s.hostData ie)[addr]? = some group → group.Sound
  router : ∀ ie addr group, (s.routerData ie).groups addr = some group → group.Sound
  alternate : ∀ ie addr, Alternate ((s.routerData ie).groups addr).isSome (s.notificationsOf ie addr)
  query : ∀ ie, s.config.Serves ie → Scheduled (s.routerData ie).igmpQueryTimer

/-- Events that can happen. Timers arrive when they are due, nobody joins a group twice, and messages
are about groups that are routed. -/
def Possible (s : IGMPv2) (now : Time) : Event → Prop
  | .joined ie groupAddr delay => s.config.Serves ie ∧ isMulticast groupAddr ∧ (s.hostData ie)[groupAddr]? = none ∧
      delay ≤ s.config.unsolicitedReportInterval
  | .left ie groupAddr => s.config.Serves ie ∧ isMulticast groupAddr
  | .message ie _ msg delay => s.config.Serves ie ∧ (∀ addr, delay addr ≤ msg.maxRespTime / 10) ∧
      (msg.type = .membershipQuery ∧ (msg.groupAddress = 0 ∨ RoutedGroup msg.groupAddress) ∨
        (msg.type = .v2MembershipReport ∨ msg.type = .v2LeaveGroup) ∧ RoutedGroup msg.groupAddress)
  | .queryTimer ie => (s.routerData ie).igmpQueryTimer = some (some now)
  | .hostGroupTimer ie groupAddr => ∃ group, (s.hostData ie)[groupAddr]? = some group ∧ group.timer = some (some now)
  | .leaveTimer ie groupAddr =>
      ∃ group, (s.routerData ie).groups groupAddr = some group ∧ group.timer = some (some now)
  | .rexmtTimer ie groupAddr =>
      ∃ group, (s.routerData ie).groups groupAddr = some group ∧ group.rexmtTimer = some (some now)

/-- The condition on an event: a query for a group that the router does not know comes only while
it is the querier, and from no router that takes its place. -/
def Allowed (s : IGMPv2) : Event → Prop
  | .message ie srcAddr msg _ => msg.type = .membershipQuery → msg.groupAddress ≠ 0 →
      srcAddr < (s.config.interface ie).ipAddress ∨ (s.routerData ie).igmpRouterState = .nonQuerier →
      ((s.routerData ie).groups msg.groupAddress).isSome = true
  | _ => True

def AllPossible (s : IGMPv2) : List (Time × Event) → Prop
  | [] => True
  | (now, e) :: events => s.Possible now e ∧ ∀ s', s.step now e = .ok s' → s'.AllPossible events

def AllAllowed (s : IGMPv2) : List (Time × Event) → Prop
  | [] => True
  | (now, e) :: events => s.Allowed e ∧ ∀ s', s.step now e = .ok s' → s'.AllAllowed events

end IGMPv2

structure HostGroupData.Kept (addr : IPv4Address) (group : HostGroupData) : Prop where
  groupAddr : group.groupAddr = addr
  routed : RoutedGroup addr
  sound : group.Sound

structure RouterGroupData.Kept (addr : IPv4Address) (group : RouterGroupData) : Prop where
  groupAddr : group.groupAddr = addr
  routed : RoutedGroup addr
  sound : group.Sound
  allocated : group.rexmtTimer.isSome = true

namespace IGMPv2

structure Kept (c : Config) (s : IGMPv2) : Prop where
  config : s.config = c
  host : ∀ (ie : InterfaceId) (addr : IPv4Address) (group : HostGroupData),
    (s.hostData ie)[addr]? = some group → c.Serves ie ∧ group.Kept addr
  router : ∀ ie addr group, (s.routerData ie).groups addr = some group → c.Serves ie ∧ group.Kept addr
  alternate : ∀ ie addr, Alternate ((s.routerData ie).groups addr).isSome (s.notificationsOf ie addr)
  query : ∀ ie, c.Serves ie → Scheduled (s.routerData ie).igmpQueryTimer ∧
    (s.routerData ie).igmpRouterState ≠ .initial
  served : ∀ ie, (s.routerData ie).igmpQueryTimer.isSome = true → c.Serves ie

variable {c : Config} {s s' : IGMPv2} {ie : InterfaceId} {addr : IPv4Address}

theorem Kept.sound (h : s.Kept c) : s.Sound where
  host ie addr group hgroup := (h.host ie addr group hgroup).2.sound
  router ie addr group hgroup := (h.router ie addr group hgroup).2.sound
  alternate := h.alternate
  query ie hie := (h.query ie (h.config ▸ hie)).1

/-- Messages that are sent change nothing else. -/
theorem Kept.sent (h : s.Kept c) (sent : List Sent) : Kept c { s with sent := sent } :=
  ⟨h.config, h.host, h.router, h.alternate, h.query, h.served⟩

theorem Kept.listeners (h : s.Kept c) (groups : InterfaceId → List IPv4Address) :
    Kept c { s with reportedMulticastGroups := groups } :=
  ⟨h.config, h.host, h.router, h.alternate, h.query, h.served⟩

theorem getElem?_setHostGroup (ie' : InterfaceId) (addr' : IPv4Address) (group : HostGroupData) :
    ((s.setHostGroup ie addr group).hostData ie')[addr']? =
      if ie' = ie ∧ addr = addr' then some group else (s.hostData ie')[addr']? := by
  rw [setHostGroup]
  by_cases hie : ie' = ie
  · subst hie
    simp only [update_self, Std.TreeMap.getElem?_insert, Std.compare_eq_iff_eq, true_and]
  · simp only [update_of_ne hie, hie, false_and, if_false]

theorem Kept.setHostGroup (h : s.Kept c) (hie : c.Serves ie) {group : HostGroupData} (hgroup : group.Kept addr) :
    (s.setHostGroup ie addr group).Kept c where
  config := h.config
  host := by
    intro ie' addr' group' hgroup'
    rw [getElem?_setHostGroup] at hgroup'
    split at hgroup'
    · next heq =>
      obtain ⟨rfl, rfl⟩ := heq
      cases hgroup'
      exact ⟨hie, hgroup⟩
    · exact h.host ie' addr' group' hgroup'
  router := h.router
  alternate := h.alternate
  query := h.query
  served := h.served

theorem Kept.deleteHostGroupData (h : s.Kept c) (ie : InterfaceId) (addr : IPv4Address) :
    (s.deleteHostGroupData ie addr).Kept c where
  config := h.config
  host := by
    intro ie' addr' group hgroup
    rw [IGMPv2.deleteHostGroupData] at hgroup
    by_cases hie : ie' = ie
    · subst hie
      simp only [update_self, Std.TreeMap.getElem?_erase] at hgroup
      split at hgroup
      · cases hgroup
      · exact h.host ie' addr' group hgroup
    · simp only [update_of_ne hie] at hgroup
      exact h.host ie' addr' group hgroup
  router := h.router
  alternate := h.alternate
  query := h.query
  served := h.served

/-- The querier's part of an interface is written. -/
theorem Kept.setQuerier (h : s.Kept c) (hie : c.Serves ie) {state : RouterState} (hstate : state ≠ .initial)
    {time : Time} :
    (s.setRouterInterface ie { s.routerData ie with
      igmpQueryTimer := some (some time), igmpRouterState := state }).Kept c := by
  have hgroups (ie' : InterfaceId) : ((s.setRouterInterface ie { s.routerData ie with
      igmpQueryTimer := some (some time), igmpRouterState := state }).routerData ie').groups =
      (s.routerData ie').groups := by
    rw [setRouterInterface]
    by_cases heq : ie' = ie
    · subst heq
      simp only [update_self]
    · simp only [update_of_ne heq]
  constructor
  · exact h.config
  · exact h.host
  · intro ie' addr group hgroup
    rw [hgroups] at hgroup
    exact h.router ie' addr group hgroup
  · intro ie' addr
    rw [hgroups]
    exact h.alternate ie' addr
  · intro ie' hie'
    rw [setRouterInterface]
    by_cases heq : ie' = ie
    · subst heq
      simp only [update_self]
      exact ⟨⟨time, rfl⟩, hstate⟩
    · simp only [update_of_ne heq]
      exact h.query ie' hie'
  · intro ie' hsome
    rw [setRouterInterface] at hsome
    by_cases heq : ie' = ie
    · exact heq ▸ hie
    · simp only [update_of_ne heq] at hsome
      exact h.served ie' hsome

theorem groups_setRouterGroup (s : IGMPv2) (ie : InterfaceId) (addr : IPv4Address) (ie' : InterfaceId)
    (addr' : IPv4Address) (group : Option RouterGroupData) :
    ((s.setRouterGroup ie addr group).routerData ie').groups addr' =
      if ie' = ie ∧ addr' = addr then group else (s.routerData ie').groups addr' := by
  rw [setRouterGroup, setRouterInterface]
  by_cases hie : ie' = ie
  · subst hie
    simp only [update_self, true_and]
    by_cases haddr : addr' = addr
    · rw [haddr, update_self, if_pos rfl]
    · rw [update_of_ne haddr, if_neg haddr]
  · simp only [update_of_ne hie, hie, false_and, if_false]

theorem routerData_setRouterGroup (s : IGMPv2) (ie : InterfaceId) (addr : IPv4Address) (ie' : InterfaceId)
    (group : Option RouterGroupData) :
    ((s.setRouterGroup ie addr group).routerData ie').igmpQueryTimer = (s.routerData ie').igmpQueryTimer ∧
      ((s.setRouterGroup ie addr group).routerData ie').igmpRouterState = (s.routerData ie').igmpRouterState := by
  rw [setRouterGroup, setRouterInterface]
  by_cases hie : ie' = ie
  · subst hie
    simp only [update_self, and_self]
  · simp only [update_of_ne hie, and_self]

/-- The entry of a group changes together with the notifications about the group. -/
theorem Kept.setRouterGroup (h : s.Kept c) (hie : c.Serves ie) {group : Option RouterGroupData}
    (hgroup : ∀ data, group = some data → data.Kept addr) (fired : List (InterfaceId × IPv4Address × Notification))
    (hother : ∀ ie' addr', ¬ (ie' = ie ∧ addr' = addr) →
      notificationsOf { s with fired := fired } ie' addr' = s.notificationsOf ie' addr')
    (hself : Alternate group.isSome (notificationsOf { s with fired := fired } ie addr)) :
    Kept c { s.setRouterGroup ie addr group with fired := fired } := by
  constructor
  · exact h.config
  · exact h.host
  · intro ie' addr' data hdata
    have hlook := groups_setRouterGroup s ie addr ie' addr' group
    rw [hlook] at hdata
    split at hdata
    · next heq =>
      obtain ⟨rfl, rfl⟩ := heq
      exact ⟨hie, hgroup data hdata⟩
    · exact h.router ie' addr' data hdata
  · intro ie' addr'
    change Alternate (((s.setRouterGroup ie addr group).routerData ie').groups addr').isSome
      (notificationsOf { s with fired := fired } ie' addr')
    rw [groups_setRouterGroup]
    by_cases heq : ie' = ie ∧ addr' = addr
    · rw [if_pos heq]
      obtain ⟨rfl, rfl⟩ := heq
      exact hself
    · rw [if_neg heq, hother ie' addr' heq]
      exact h.alternate ie' addr'
  · intro ie' hie'
    obtain ⟨htimer, hstate⟩ := routerData_setRouterGroup s ie addr ie' group
    rw [htimer, hstate]
    exact h.query ie' hie'
  · intro ie' hsome
    obtain ⟨htimer, -⟩ := routerData_setRouterGroup s ie addr ie' group
    rw [htimer] at hsome
    exact h.served ie' hsome

/-- An entry that exists is written. -/
theorem Kept.writeRouterGroup (h : s.Kept c) {old group : RouterGroupData}
    (hold : (s.routerData ie).groups addr = some old) (hgroup : group.Kept addr) :
    (s.setRouterGroup ie addr (some group)).Kept c := by
  have halternate := h.alternate ie addr
  rw [hold] at halternate
  exact h.setRouterGroup (h.router ie addr old hold).1 (fun data hdata => some.inj hdata ▸ hgroup)
    s.fired (fun _ _ _ => rfl) halternate

theorem notificationsOf_fire (ie' : InterfaceId) (addr' : IPv4Address) (n : Notification) :
    notificationsOf { s with fired := (ie, addr, n) :: s.fired } ie' addr' =
      if ie = ie' ∧ addr = addr' then n :: s.notificationsOf ie' addr' else s.notificationsOf ie' addr' := by
  rw [notificationsOf, notificationsOf, List.filterMap_cons]
  by_cases heq : ie = ie' ∧ addr = addr'
  · simp only [if_pos heq]
  · simp only [if_neg heq]

/-- An entry appears with a registration and goes with its end. -/
theorem Kept.fire (h : s.Kept c) (hie : c.Serves ie) {group : Option RouterGroupData} {n : Notification}
    (hgroup : ∀ data, group = some data → data.Kept addr) (hn : group.isSome = decide (n = .mcastRegistered))
    (hentry : ((s.routerData ie).groups addr).isSome = !group.isSome) :
    ((s.fireChangeNotification ie addr n).setRouterGroup ie addr group).Kept c := by
  have halternate := h.alternate ie addr
  rw [hentry] at halternate
  refine h.setRouterGroup hie hgroup ((ie, addr, n) :: s.fired) ?_ ?_
  · intro ie' addr' hne
    rw [notificationsOf_fire, if_neg fun heq => hne ⟨heq.1.symm, heq.2.symm⟩]
  · rw [notificationsOf_fire, if_pos ⟨rfl, rfl⟩]
    exact ⟨hn, halternate⟩

theorem Kept.multicast (h : s.Kept c) (hie : c.Serves ie) : (s.config.interface ie).isMulticast = true := by
  rw [h.config]
  exact hie.2

section

variable (hie : (s.config.interface ie).isMulticast = true)
include hie

theorem sendToIP_ok (msg : IGMPMessage) (dest : IPv4Address) :
    s.sendToIP msg ie dest = .ok { s with sent := s.sent ++ [.ipOut msg ie dest] } := by
  rw [sendToIP, ensure_pos hie]
  rfl

theorem sendQuery_ok (haddr : addr = 0 ∨ RoutedGroup addr)
    (maxRespTime : Time) : ∃ sent, s.sendQuery ie addr maxRespTime = .ok { s with sent := sent } := by
  have hassert : addr = 0 ∨ isMulticast addr ∧ ¬ isLinkLocalMulticast addr := haddr
  rw [sendQuery, ensure_pos hassert]
  simp only [bind, Except.bind]
  split
  · exact ⟨_, sendToIP_ok hie _ _⟩
  · exact ⟨s.sent, rfl⟩

theorem sendReport_ok {group : HostGroupData}
    (hgroup : RoutedGroup group.groupAddr) : ∃ sent, s.sendReport ie group = .ok { s with sent := sent } := by
  have hassert : isMulticast group.groupAddr ∧ ¬ isLinkLocalMulticast group.groupAddr := hgroup
  rw [sendReport, ensure_pos hassert]
  exact ⟨_, sendToIP_ok hie _ _⟩

theorem leaveIfLast_ok {group : HostGroupData}
    (hgroup : RoutedGroup group.groupAddr) : ∃ sent, s.leaveIfLast ie group = .ok { s with sent := sent } := by
  have hassert : isMulticast group.groupAddr ∧ ¬ isLinkLocalMulticast group.groupAddr := hgroup
  rw [leaveIfLast]
  split
  · rw [sendLeave, ensure_pos hassert]
    exact ⟨_, sendToIP_ok hie _ _⟩
  · exact ⟨s.sent, rfl⟩

end

end IGMPv2

theorem startTimer_some (timer : CMessage) (now interval : Time) :
    startTimer (some timer) now interval = .ok (some (some (now + interval))) := rfl

theorem HostGroupData.startHostTimer_eq (group : HostGroupData) (now delay : Time) :
    group.startHostTimer now delay = .ok { group with timer := some (some (now + delay)) } := rfl

variable {addr : IPv4Address} {group : RouterGroupData}

/-- A group that answers, with its timer running. -/
theorem HostGroupData.Kept.delaying {group : HostGroupData} (h : group.Kept addr) (time : Time) :
    HostGroupData.Kept addr { group with timer := some (some time), state := .delayingMember } where
  groupAddr := h.groupAddr
  routed := h.routed
  sound := ⟨fun _ => ⟨time, rfl⟩, fun _ => rfl⟩

/-- A group that does not answer, with its timer not running. -/
theorem HostGroupData.Kept.idle {group : HostGroupData} (h : group.Kept addr) (flag : Bool) :
    HostGroupData.Kept addr { group with timer := some none, flag := flag, state := .idleMember } where
  groupAddr := h.groupAddr
  routed := h.routed
  sound := by
    constructor
    · intro hstate
      cases hstate
    · rintro ⟨time, htimer⟩
      cases htimer

theorem HostGroupData.Kept.processGroupQuery {group : HostGroupData} (h : group.Kept addr)
    (now : Time) (maxRespTime : Nat) (delay : Time) :
    ∃ group', group.processGroupQuery now maxRespTime delay = .ok group' ∧ group'.Kept addr := by
  rw [HostGroupData.processGroupQuery]
  cases hstate : group.state with
  | nonMember => exact ⟨group, rfl, h⟩
  | idleMember => exact ⟨_, rfl, h.delaying (now + delay)⟩
  | delayingMember =>
    obtain ⟨time, htimer⟩ := h.sound.mp hstate
    simp only [htimer]
    split
    · have hdelaying := h.delaying (now + delay)
      rw [← hstate] at hdelaying
      exact ⟨_, rfl, hdelaying⟩
    · exact ⟨group, rfl, h⟩

/-- The timer runs where it is cancelled. -/
theorem HostGroupData.Kept.cancelIfDelaying {group : HostGroupData} (h : group.Kept addr) :
    ∃ group', group.cancelIfDelaying = .ok group' ∧ group'.groupAddr = addr := by
  rw [HostGroupData.cancelIfDelaying]
  split
  · next hstate =>
    obtain ⟨time, htimer⟩ := h.sound.mp hstate
    rw [htimer]
    exact ⟨_, rfl, h.groupAddr⟩
  · exact ⟨group, rfl, h.groupAddr⟩

namespace IGMPv2

variable {c : Config} {s s' : IGMPv2} {ie : InterfaceId} {addr : IPv4Address}

section

variable (h : s.Kept c)
include h

section

variable (hie : c.Serves ie)
include hie

theorem Kept.joined (hmulticast : isMulticast addr)
    (hnew : (s.hostData ie)[addr]? = none) (now delay : Time) :
    ∃ s', s.multicastGroupJoined now ie addr delay = .ok s' ∧ s'.Kept c := by
  have hserved := h.multicast hie
  rw [multicastGroupJoined, ensure_pos hserved, ensure_pos hmulticast]
  by_cases hlocal : s.config.enabled = true ∧ ¬ isLinkLocalMulticast addr
  · have hrouted : RoutedGroup addr := ⟨hmulticast, hlocal.2⟩
    obtain ⟨sent, hsent⟩ := @sendReport_ok s ie (h.multicast hie) { groupAddr := addr } hrouted
    have hgroup : HostGroupData.Kept addr { groupAddr := addr, flag := true, timer := some none, state := .idleMember } :=
      @HostGroupData.Kept.idle addr { groupAddr := addr } ⟨rfl, hrouted, by simp [HostGroupData.Sound, Scheduled]⟩ true
    simp only [bind, Except.bind, if_pos hlocal, createHostGroupData, ensure_pos hnew, ensure_pos hmulticast, pure,
      Except.pure, hsent, HostGroupData.startHostTimer_eq]
    exact ⟨_, rfl, (h.sent sent).setHostGroup hie (hgroup.delaying (now + delay))⟩
  · simp only [bind, Except.bind, if_neg hlocal]
    exact ⟨s, rfl, h⟩

theorem Kept.left (hmulticast : isMulticast addr) :
    ∃ s', s.multicastGroupLeft ie addr = .ok s' ∧ s'.Kept c := by
  have hserved := h.multicast hie
  rw [multicastGroupLeft, ensure_pos hserved, ensure_pos hmulticast]
  by_cases hlocal : s.config.enabled = true ∧ ¬ isLinkLocalMulticast addr
  · simp only [bind, Except.bind, if_pos hlocal]
    cases hgroup : (s.hostData ie)[addr]? with
    | none => exact ⟨_, rfl, h.deleteHostGroupData ie addr⟩
    | some group =>
      obtain ⟨-, hkept⟩ := h.host ie addr group hgroup
      obtain ⟨group', hcancel, haddr⟩ := hkept.cancelIfDelaying
      obtain ⟨sent, hleave⟩ := @leaveIfLast_ok s ie (h.multicast hie) group' (haddr ▸ hkept.routed)
      simp only [hcancel, hleave]
      exact ⟨_, rfl, (h.sent sent).deleteHostGroupData ie addr⟩
  · simp only [bind, Except.bind, if_neg hlocal]
    exact ⟨s, rfl, h⟩

/-- The loop of a general query. -/
theorem Kept.processGroupQueries (now : Time) (maxRespTime : Nat)
    (delay : IPv4Address → Time) {groups : List (IPv4Address × HostGroupData)}
    (hgroups : ∀ entry ∈ groups, entry.2.Kept entry.1) :
    ∃ s', s.processGroupQueries now ie maxRespTime delay groups = .ok s' ∧ s'.Kept c ∧
      s'.routerData = s.routerData := by
  induction groups generalizing s with
  | nil => exact ⟨s, rfl, h, rfl⟩
  | cons entry groups ih =>
    obtain ⟨addr, group⟩ := entry
    obtain ⟨group', hquery, hgroup'⟩ := (hgroups _ List.mem_cons_self).processGroupQuery now maxRespTime (delay addr)
    obtain ⟨s', hrun, hs', hrouter⟩ := ih (h.setHostGroup hie hgroup')
      fun entry hentry => hgroups entry (List.mem_cons_of_mem _ hentry)
    rw [IGMPv2.processGroupQueries, hquery]
    exact ⟨s', hrun, hs', hrouter⟩

theorem Kept.hostQuery (now : Time) (msg : IGMPMessage)
    (delay : IPv4Address → Time) :
    ∃ s', s.hostQuery now ie msg delay = .ok s' ∧ s'.Kept c ∧ s'.routerData = s.routerData := by
  rw [IGMPv2.hostQuery]
  split
  · refine h.processGroupQueries hie now msg.maxRespTime delay fun entry hentry => ?_
    exact (h.host ie entry.1 entry.2 (Std.TreeMap.mem_toList_iff_getElem?_eq_some.mp hentry)).2
  · cases hgroup : (s.hostData ie)[msg.groupAddress]? with
    | none => exact ⟨s, rfl, h, rfl⟩
    | some group =>
      obtain ⟨group', hquery, hgroup'⟩ :=
        (h.host ie msg.groupAddress group hgroup).2.processGroupQuery now msg.maxRespTime (delay msg.groupAddress)
      simp only [hquery, bind, Except.bind]
      exact ⟨_, rfl, h.setHostGroup hie hgroup', rfl⟩

theorem Kept.hostReport (addr : IPv4Address) :
    ∃ s', s.hostReport ie addr = .ok s' ∧ s'.Kept c ∧ s'.routerData = s.routerData := by
  rw [IGMPv2.hostReport]
  cases hgroup : (s.hostData ie)[addr]? with
  | none => exact ⟨s, rfl, h, rfl⟩
  | some group =>
    obtain ⟨-, hkept⟩ := h.host ie addr group hgroup
    simp only
    split
    · next hstate =>
      obtain ⟨time, htimer⟩ := hkept.sound.mp hstate
      rw [htimer]
      exact ⟨_, rfl, h.setHostGroup hie (hkept.idle false), rfl⟩
    · exact ⟨s, rfl, h, rfl⟩

end

theorem Kept.hostGroupTimer {group : HostGroupData} (hgroup : (s.hostData ie)[addr]? = some group) :
    ∃ s', s.processHostGroupTimer ie addr = .ok s' ∧ s'.Kept c := by
  obtain ⟨hie, hkept⟩ := h.host ie addr group hgroup
  obtain ⟨sent, hsent⟩ := @sendReport_ok s ie (h.multicast hie) group (hkept.groupAddr.symm ▸ hkept.routed)
  rw [processHostGroupTimer, hgroup]
  simp only [hsent, bind, Except.bind]
  exact ⟨_, rfl, (h.sent sent).setHostGroup hie (hkept.idle true)⟩

end

end IGMPv2

/-- A group with members, with its leave timer running. -/
theorem RouterGroupData.Kept.present (haddr : group.groupAddr = addr)
    (hrouted : RoutedGroup addr) (hrexmt : group.rexmtTimer = some none) (time : Time) :
    RouterGroupData.Kept addr { group with timer := some (some time), state := .membersPresent } where
  groupAddr := haddr
  routed := hrouted
  sound := by
    refine ⟨.inl rfl, ⟨time, rfl⟩, ?_⟩
    rintro ⟨time', htimer⟩
    rw [hrexmt] at htimer
    cases htimer
  allocated := by
    rw [hrexmt]
    rfl

/-- A group that is checked for members, with its leave timer running. -/
theorem RouterGroupData.Kept.checking (h : group.Kept addr)
    {timer : Option CMessage} (htimer : Scheduled timer) (rexmtTimer : Option CMessage)
    (hrexmt : rexmtTimer.isSome = true) :
    RouterGroupData.Kept addr { group with
      timer := timer, rexmtTimer := rexmtTimer, state := .checkingMembership } where
  groupAddr := h.groupAddr
  routed := h.routed
  sound := ⟨.inr rfl, htimer, fun _ => rfl⟩
  allocated := hrexmt

namespace IGMPv2

variable {c : Config} {s s' : IGMPv2} {ie : InterfaceId} {addr : IPv4Address}

theorem addMulticastListener_ok (haddr : isMulticast addr) :
    ∃ groups, s.addMulticastListener ie addr = .ok { s with reportedMulticastGroups := groups } := by
  rw [addMulticastListener, if_neg (not_not.mpr haddr)]
  simp only [pure, Except.pure]
  split
  · exact ⟨s.reportedMulticastGroups, rfl⟩
  · exact ⟨_, rfl⟩

theorem Kept.routerReport (h : s.Kept c) (hie : c.Serves ie) (haddr : RoutedGroup addr) (now : Time) :
    ∃ s', s.routerReport now ie addr = .ok s' ∧ s'.Kept c := by
  rw [IGMPv2.routerReport, reportedGroup]
  cases hgroup : (s.routerData ie).groups addr with
  | none =>
    obtain ⟨groups, hadd⟩ := @addMulticastListener_ok s ie addr haddr.1
    simp only [ensure_pos haddr.1, bind, Except.bind, pure, Except.pure, memberReported, hadd, startTimer,
      getD_none, isSome_some, ensure_pos]
    have hkept := @RouterGroupData.Kept.present addr { groupAddr := addr, rexmtTimer := some none } rfl haddr rfl
      (now + s.config.groupMembershipInterval)
    refine ⟨_, rfl, (h.listeners groups).fire hie ?_ rfl ?_⟩
    · intro data hdata
      cases hdata
      exact hkept
    · rw [hgroup]
      rfl
  | some group =>
    obtain ⟨-, hkept⟩ := h.router ie addr group hgroup
    obtain ⟨time, htimer⟩ := hkept.sound.timer
    obtain ⟨rexmt, hrexmt⟩ := isSome_iff_exists.mp hkept.allocated
    cases hkept.sound.state with
    | inl hstate =>
      -- the retransmission timer does not run
      have hidle : rexmt = none := by
        cases rexmt with
        | none => rfl
        | some time' =>
          have hchecking := hkept.sound.rexmtTimer ⟨time', hrexmt⟩
          rw [hstate] at hchecking
          cases hchecking
      subst hidle
      simp only [bind, Except.bind, pure, Except.pure, memberReported, hstate, htimer, hrexmt, startTimer,
        getD_some, isSome_some, ensure_pos]
      exact ⟨_, rfl, h.writeRouterGroup hgroup
        (@RouterGroupData.Kept.present _ { group with rexmtTimer := some none } hkept.groupAddr haddr rfl _)⟩
    | inr hstate =>
      simp only [bind, Except.bind, pure, Except.pure, memberReported, hstate, htimer, hrexmt, startTimer, cancelEvent,
        getD_some, isSome_some, ensure_pos]
      exact ⟨_, rfl, h.writeRouterGroup hgroup
        (@RouterGroupData.Kept.present _ { group with rexmtTimer := some none } hkept.groupAddr haddr rfl _)⟩

theorem Kept.routerLeave (h : s.Kept c) (hie : c.Serves ie) (haddr : RoutedGroup addr) (now : Time) :
    ∃ s', s.routerLeave now ie addr = .ok s' ∧ s'.Kept c := by
  rw [IGMPv2.routerLeave]
  cases hgroup : (s.routerData ie).groups addr with
  | none => exact ⟨s, rfl, h⟩
  | some group =>
    obtain ⟨-, hkept⟩ := h.router ie addr group hgroup
    obtain ⟨time, htimer⟩ := hkept.sound.timer
    obtain ⟨rexmt, hrexmt⟩ := isSome_iff_exists.mp hkept.allocated
    simp only
    split
    · obtain ⟨sent, hsent⟩ := sendQuery_ok (h.multicast hie) (.inr haddr) s.config.lastMemberQueryInterval
      simp only [htimer, hrexmt, startTimer_some, bind, Except.bind, hsent]
      exact ⟨_, rfl, (h.sent sent).writeRouterGroup hgroup (hkept.checking ⟨_, rfl⟩ _ rfl)⟩
    · exact ⟨s, rfl, h⟩

theorem Kept.observeQuerier (h : s.Kept c) (hie : c.Serves ie) (now : Time) (sender : IPv4Address) :
    ∃ s', s.observeQuerier now ie sender = .ok s' ∧ s'.Kept c ∧
      (∀ addr, (s'.routerData ie).groups addr = (s.routerData ie).groups addr) ∧
      ((s'.routerData ie).igmpRouterState = .nonQuerier ↔
        sender < (s.config.interface ie).ipAddress ∨ (s.routerData ie).igmpRouterState = .nonQuerier) := by
  rw [IGMPv2.observeQuerier]
  split
  · next hlower =>
    obtain ⟨⟨time, htimer⟩, -⟩ := h.query ie hie
    simp only [htimer, startTimer_some, bind, Except.bind]
    refine ⟨_, rfl, h.setQuerier hie (by decide : RouterState.nonQuerier ≠ .initial), ?_, ?_⟩
    · intro addr
      simp only [setRouterInterface, update_self]
    · simp only [setRouterInterface, update_self, hlower, true_or]
  · next hnot => exact ⟨s, rfl, h, fun _ => rfl, by simp [hnot]⟩

/-- A group-specific query is handled by a router that is not the querier exactly where the group
is known. -/
theorem Kept.groupSpecificQuery (h : s.Kept c) (now : Time) (msg : IGMPMessage) :
    (∃ s', s.groupSpecificQuery now ie msg = .ok s' ∧ s'.Kept c) ∨
      ¬ (∃ s', s.groupSpecificQuery now ie msg = .ok s') ∧ msg.groupAddress ≠ 0 ∧
        (s.routerData ie).igmpRouterState = .nonQuerier ∧ (s.routerData ie).groups msg.groupAddress = none := by
  rw [IGMPv2.groupSpecificQuery]
  split
  · next hspecific =>
    cases hgroup : (s.routerData ie).groups msg.groupAddress with
    | none =>
      refine .inr ⟨?_, hspecific.1, hspecific.2, rfl⟩
      rintro ⟨s', hrun⟩
      cases hrun
    | some group =>
      obtain ⟨-, hkept⟩ := h.router ie msg.groupAddress group hgroup
      obtain ⟨time, htimer⟩ := hkept.sound.timer
      left
      simp only
      split
      · simp only [htimer, startTimer_some, bind, Except.bind]
        exact ⟨_, rfl, h.writeRouterGroup hgroup (hkept.checking ⟨_, rfl⟩ _ hkept.allocated)⟩
      · exact ⟨s, rfl, h⟩
  · exact .inl ⟨s, rfl, h⟩

@[simp] theorem setRouterInterface_self (data : RouterInterfaceData) :
    (s.setRouterInterface ie data).routerData ie = data := by
  simp only [setRouterInterface, update_self]

theorem setRouterInterface_twice (data data' : RouterInterfaceData) :
    (s.setRouterInterface ie data).setRouterInterface ie data' = s.setRouterInterface ie data' := by
  simp only [setRouterInterface, update_idem]

/-- The timer starts once more behind a general query. -/
theorem sendGeneralQuery_ok (hie : (s.config.interface ie).isMulticast = true) (data : RouterInterfaceData)
    (now interval : Time) (htimer : data.igmpQueryTimer = some none) :
    ∃ sent, (s.setRouterInterface ie data).sendGeneralQuery now ie interval =
      .ok { s.setRouterInterface ie { data with igmpQueryTimer := some (some (now + interval)) } with
        sent := sent } := by
  obtain ⟨sent, hsent⟩ := sendQuery_ok (s := s.setRouterInterface ie data) hie (.inl rfl)
    s.config.queryResponseInterval
  refine ⟨sent, ?_⟩
  rw [sendGeneralQuery]
  change (s.setRouterInterface ie data).sendQuery ie 0 s.config.queryResponseInterval >>= _ = _
  simp only [hsent, bind, Except.bind, setRouterInterface_self, htimer, startTimer_some]
  exact congrArg (fun s : IGMPv2 => Except.ok { s with sent := sent }) (setRouterInterface_twice data _)

theorem Kept.queryTimer (h : s.Kept c) (hie : c.Serves ie) (now : Time) :
    ∃ s', s.processQueryTimer now ie = .ok s' ∧ s'.Kept c := by
  obtain ⟨-, hstate⟩ := h.query ie hie
  have hrouter : (s.routerData ie).igmpRouterState = .querier ∨ (s.routerData ie).igmpRouterState = .nonQuerier := by
    cases hcase : (s.routerData ie).igmpRouterState with
    | initial => exact absurd hcase hstate
    | querier => exact .inl rfl
    | nonQuerier => exact .inr rfl
  obtain ⟨sent, hrun⟩ := sendGeneralQuery_ok (h.multicast hie) { s.routerData ie with
    igmpQueryTimer := some none, igmpRouterState := .querier } now s.config.queryInterval rfl
  rw [processQueryTimer]
  simp only [if_pos hrouter]
  exact ⟨_, hrun, (h.setQuerier hie (by decide : RouterState.querier ≠ .initial)).sent sent⟩

theorem Kept.leaveTimer (h : s.Kept c)
    (hgroup : (s.routerData ie).groups addr = some group) :
    ∃ s', s.processLeaveTimer ie addr = .ok s' ∧ s'.Kept c := by
  obtain ⟨hie, hkept⟩ := h.router ie addr group hgroup
  obtain ⟨rexmt, hrexmt⟩ := isSome_iff_exists.mp hkept.allocated
  have hgone : ((((s.removeMulticastListener ie addr).fireChangeNotification ie addr .mcastUnregistered)).setRouterGroup
      ie addr none).Kept c := by
    refine (h.listeners _).fire hie (fun data hdata => by cases hdata) rfl ?_
    rw [hgroup]
    rfl
  rw [processLeaveTimer, hgroup]
  simp only [hkept.groupAddr, hrexmt, cancelEvent]
  split
  · exact ⟨_, rfl, hgone⟩
  · exact ⟨_, rfl, hgone⟩

theorem Kept.rexmtTimer (h : s.Kept c)
    (hgroup : (s.routerData ie).groups addr = some group) (now : Time) :
    ∃ s', s.processRexmtTimer now ie addr = .ok s' ∧ s'.Kept c := by
  obtain ⟨hie, hkept⟩ := h.router ie addr group hgroup
  obtain ⟨sent, hsent⟩ := sendQuery_ok (h.multicast hie) (.inr hkept.routed) s.config.lastMemberQueryInterval
  rw [processRexmtTimer, hgroup]
  simp only [hkept.groupAddr, hsent, bind, Except.bind, startTimer_some]
  have hchecking := hkept.checking hkept.sound.timer
    (some (some (now + s.config.lastMemberQueryInterval))) rfl
  rw [hkept.groupAddr] at hchecking
  exact ⟨_, rfl, (h.sent sent).writeRouterGroup hgroup hchecking⟩

theorem Kept.processQuery (hroutes : c.Routes) (h : s.Kept c) (hie : c.Serves ie) (now : Time) (sender : IPv4Address)
    (msg : IGMPMessage) (delay : IPv4Address → Time) :
    (∃ s', s.processQuery now ie sender msg delay = .ok s' ∧ s'.Kept c ∧
        (msg.groupAddress ≠ 0 →
          sender < (s.config.interface ie).ipAddress ∨ (s.routerData ie).igmpRouterState = .nonQuerier →
          ((s.routerData ie).groups msg.groupAddress).isSome = true)) ∨
      ¬ (∃ s', s.processQuery now ie sender msg delay = .ok s') ∧ msg.groupAddress ≠ 0 ∧
        (sender < (s.config.interface ie).ipAddress ∨ (s.routerData ie).igmpRouterState = .nonQuerier) ∧
        (s.routerData ie).groups msg.groupAddress = none := by
  obtain ⟨s₁, hhost, hs₁, hrouter⟩ := h.hostQuery hie now msg delay
  obtain ⟨s₂, hobserve, hs₂, hgroups, hstate⟩ := hs₁.observeQuerier hie now sender
  rw [hs₁.config, hrouter, ← h.config] at hstate
  have hforwards : s₁.config.isMulticastForwardingEnabled = true := by rw [hs₁.config]; exact hroutes.2.1
  have hinternal : s₁.config.externalRouter = false := by rw [hs₁.config]; exact hroutes.2.2
  have hrun : s.processQuery now ie sender msg delay = s₂.groupSpecificQuery now ie msg := by
    rw [IGMPv2.processQuery, ensure_pos (h.multicast hie)]
    simp only [bind, Except.bind, hhost, hforwards, hinternal, if_true, if_neg (Bool.false_ne_true), pure, Except.pure,
      hobserve]
  rw [hrun, ← hstate, ← hrouter, ← hgroups]
  cases @Kept.groupSpecificQuery _ _ ie hs₂ now msg with
  | inl hok =>
    obtain ⟨s', hspecific, hs'⟩ := hok
    refine .inl ⟨s', hspecific, hs', fun hne hnon => ?_⟩
    cases hgroup : (s₂.routerData ie).groups msg.groupAddress with
    | some group => rfl
    | none =>
      rw [IGMPv2.groupSpecificQuery, if_pos ⟨hne, hnon⟩, hgroup] at hspecific
      cases hspecific
  | inr hfails => exact .inr hfails

theorem Kept.message (hroutes : c.Routes) (h : s.Kept c) (hie : c.Serves ie) {srcAddr : IPv4Address} {msg : IGMPMessage}
    (hmsg : msg.type = .membershipQuery ∧ (msg.groupAddress = 0 ∨ RoutedGroup msg.groupAddress) ∨
      (msg.type = .v2MembershipReport ∨ msg.type = .v2LeaveGroup) ∧ RoutedGroup msg.groupAddress)
    (now : Time) (delay : IPv4Address → Time) :
    (∃ s', s.step now (.message ie srcAddr msg delay) = .ok s' ∧ s'.Kept c ∧
        s.Allowed (.message ie srcAddr msg delay)) ∨
      ¬ (∃ s', s.step now (.message ie srcAddr msg delay) = .ok s') ∧ ¬ s.Allowed (.message ie srcAddr msg delay) := by
  have henabled : s.config.enabled = true := by rw [h.config]; exact hroutes.1
  have hforwards : s.config.isMulticastForwardingEnabled = true := by rw [h.config]; exact hroutes.2.1
  have hinternal : s.config.externalRouter = false := by rw [h.config]; exact hroutes.2.2
  rw [IGMPv2.step, if_pos henabled, processIgmpMessage]
  rcases hmsg with ⟨htype, -⟩ | ⟨htype | htype, hrouted⟩
  · simp only [htype]
    cases h.processQuery hroutes hie now srcAddr msg delay with
    | inl hok =>
      obtain ⟨s', hrun, hs', hallowed⟩ := hok
      exact .inl ⟨s', hrun, hs', fun _ => hallowed⟩
    | inr hfails =>
      obtain ⟨hrun, hne, hnon, hnone⟩ := hfails
      refine .inr ⟨hrun, fun hallowed => ?_⟩
      have hsome := hallowed htype hne hnon
      rw [hnone] at hsome
      cases hsome
  · simp only [htype, processV2Report, ensure_pos (h.multicast hie)]
    obtain ⟨s₁, hhost, hs₁, -⟩ := h.hostReport hie msg.groupAddress
    obtain ⟨s', hrun, hs'⟩ := hs₁.routerReport hie hrouted now
    have hconfig : s₁.config = s.config := hs₁.config.trans h.config.symm
    simp only [bind, Except.bind, hhost, hconfig, hforwards, hinternal, if_true, if_neg (Bool.false_ne_true), hrun]
    exact .inl ⟨s', rfl, hs', fun hquery => by rw [htype] at hquery; cases hquery⟩
  · simp only [htype, processLeave, ensure_pos (h.multicast hie)]
    obtain ⟨s', hrun, hs'⟩ := h.routerLeave hie hrouted now
    simp only [bind, Except.bind, hforwards, hinternal, if_true, if_neg (Bool.false_ne_true), hrun]
    exact .inl ⟨s', rfl, hs', fun hquery => by rw [htype] at hquery; cases hquery⟩

/-- An event that can happen goes through exactly where the condition holds. -/
theorem Kept.step (hroutes : c.Routes) (h : s.Kept c) (now : Time) {e : Event} (hpossible : s.Possible now e) :
    (∃ s', s.step now e = .ok s' ∧ s'.Kept c ∧ s.Allowed e) ∨
      ¬ (∃ s', s.step now e = .ok s') ∧ ¬ s.Allowed e := by
  have hok {x : Sim IGMPv2} (hx : ∃ s', x = .ok s' ∧ s'.Kept c) (hallowed : s.Allowed e) :
      ∃ s', x = .ok s' ∧ s'.Kept c ∧ s.Allowed e := by
    obtain ⟨s', hrun, hs'⟩ := hx
    exact ⟨s', hrun, hs', hallowed⟩
  cases e with
  | joined ie groupAddr delay =>
    obtain ⟨hie, hmulticast, hnew, -⟩ := hpossible
    rw [h.config] at hie
    exact .inl (hok (h.joined hie hmulticast hnew now delay) trivial)
  | left ie groupAddr =>
    obtain ⟨hie, hmulticast⟩ := hpossible
    rw [h.config] at hie
    exact .inl (hok (h.left hie hmulticast) trivial)
  | queryTimer ie => exact .inl (hok (h.queryTimer (h.served ie (by rw [hpossible]; rfl)) now) trivial)
  | hostGroupTimer ie groupAddr =>
    obtain ⟨group, hgroup, -⟩ := hpossible
    exact .inl (hok (h.hostGroupTimer hgroup) trivial)
  | leaveTimer ie groupAddr =>
    obtain ⟨group, hgroup, -⟩ := hpossible
    exact .inl (hok (h.leaveTimer hgroup) trivial)
  | rexmtTimer ie groupAddr =>
    obtain ⟨group, hgroup, -⟩ := hpossible
    exact .inl (hok (h.rexmtTimer hgroup now) trivial)
  | message ie srcAddr msg delay =>
    obtain ⟨hie, -, hmsg⟩ := hpossible
    rw [h.config] at hie
    exact h.message hroutes hie hmsg now delay

/-- The interfaces below `n` are configured, and nothing has been heard yet. -/
structure Configured (c : Config) (n : Nat) (s : IGMPv2) : Prop where
  config : s.config = c
  hostData : s.hostData = fun _ => ∅
  groups : ∀ ie addr, (s.routerData ie).groups addr = none
  fired : s.fired = []
  query : ∀ ie < n, (c.interface ie).isMulticast = true →
    Scheduled (s.routerData ie).igmpQueryTimer ∧ (s.routerData ie).igmpRouterState ≠ .initial
  served : ∀ ie, (s.routerData ie).igmpQueryTimer.isSome = true → ie < n ∧ (c.interface ie).isMulticast = true

theorem Configured.kept (h : s.Configured c c.numInterfaces) : s.Kept c where
  config := h.config
  host := by
    intro ie addr group hgroup
    rw [h.hostData, Std.TreeMap.getElem?_emptyc] at hgroup
    cases hgroup
  router := by
    intro ie addr group hgroup
    rw [h.groups] at hgroup
    cases hgroup
  alternate := by
    intro ie addr
    rw [h.groups, notificationsOf, h.fired]
    rfl
  query ie hie := h.query ie hie.1 hie.2
  served := h.served

section

variable (hroutes : c.Routes)
include hroutes

theorem Configured.next {n : Nat} (h : s.Configured c n)
    (hn : (c.interface n).isMulticast = true) : ∃ s', s.configureInterface n = .ok s' ∧ s'.Configured c (n + 1) := by
  have hconfig : s.config.enabled = true ∧ s.config.isMulticastForwardingEnabled = true ∧
      s.config.externalRouter = false := by
    rw [h.config]
    exact hroutes
  have hmulticast : (s.config.interface n).isMulticast = true := by
    rw [h.config]
    exact hn
  obtain ⟨sent, hrun⟩ := sendGeneralQuery_ok hmulticast { s.routerData n with
    igmpQueryTimer := some none, igmpRouterState := .querier } 0 s.config.startupQueryInterval rfl
  rw [configureInterface, if_pos hconfig]
  refine ⟨_, hrun, ?_⟩
  constructor
  · exact h.config
  · exact h.hostData
  · intro ie addr
    by_cases heq : ie = n
    · subst heq
      simp only [setRouterInterface_self]
      exact h.groups ie addr
    · simp only [setRouterInterface, update_of_ne heq]
      exact h.groups ie addr
  · exact h.fired
  · intro ie hie hie'
    by_cases heq : ie = n
    · subst heq
      simp only [setRouterInterface_self]
      exact ⟨⟨_, rfl⟩, by decide⟩
    · simp only [setRouterInterface, update_of_ne heq]
      exact h.query ie (by omega) hie'
  · intro ie hsome
    by_cases heq : ie = n
    · exact ⟨heq ▸ Nat.lt_succ_self n, heq ▸ hn⟩
    · simp only [setRouterInterface, update_of_ne heq] at hsome
      obtain ⟨hlt, hie⟩ := h.served ie hsome
      exact ⟨Nat.lt_succ_of_lt hlt, hie⟩

theorem configureInterfaces_ok (n : Nat) :
    ∃ s, IGMPv2.configureInterfaces { config := c } n = .ok s ∧ s.Configured c n := by
  induction n with
  | zero =>
    refine ⟨_, rfl, rfl, rfl, fun _ _ => rfl, rfl, ?_, ?_⟩
    · intro ie hie
      omega
    · intro ie hsome
      cases hsome
  | succ n ih =>
    obtain ⟨s, hrun, hs⟩ := ih
    simp only [configureInterfaces, hrun, bind, Except.bind, hs.config]
    by_cases hn : (c.interface n).isMulticast = true
    · rw [if_pos hn]
      exact hs.next hroutes hn
    · rw [if_neg hn]
      refine ⟨s, rfl, hs.config, hs.hostData, hs.groups, hs.fired, ?_, ?_⟩
      · intro ie hie hie'
        by_cases heq : ie = n
        · exact absurd (heq ▸ hie') hn
        · exact hs.query ie (by omega) hie'
      · intro ie hsome
        obtain ⟨hlt, hie⟩ := hs.served ie hsome
        exact ⟨Nat.lt_succ_of_lt hlt, hie⟩

theorem initialized_kept : ∃ s, initialized c = .ok s ∧ s.Kept c := by
  obtain ⟨s, hrun, hs⟩ := configureInterfaces_ok hroutes c.numInterfaces
  exact ⟨s, hrun, hs.kept⟩

theorem Kept.run_iff (h : s.Kept c) {events : List (Time × Event)}
    (hpossible : s.AllPossible events) : (∃ s', s.run events = .ok s' ∧ s'.Sound) ↔ s.AllAllowed events := by
  induction events generalizing s with
  | nil => exact ⟨fun _ => trivial, fun _ => ⟨s, rfl, h.sound⟩⟩
  | cons entry events ih =>
    obtain ⟨now, e⟩ := entry
    obtain ⟨hfirst, hrest⟩ := hpossible
    cases h.step hroutes now hfirst with
    | inl hok =>
      obtain ⟨s₁, hstep, hs₁, hallowed⟩ := hok
      have hrun : s.run ((now, e) :: events) = s₁.run events := by
        rw [run, hstep]
        rfl
      have hall : s.AllAllowed ((now, e) :: events) ↔ s₁.AllAllowed events := by
        rw [AllAllowed, hstep]
        simp [hallowed]
      rw [hrun, hall]
      exact ih hs₁ (hrest s₁ hstep)
    | inr hfails =>
      obtain ⟨hstep, hallowed⟩ := hfails
      constructor
      · rintro ⟨s', hrun, -⟩
        obtain ⟨s₁, hs₁, -⟩ := bind_ok.mp hrun
        exact absurd ⟨s₁, hs₁⟩ hstep
      · intro hall
        exact absurd hall.1 hallowed

end

/-- A run of the module from its start goes through, and ends in a sound state, exactly where every
query meets the condition. -/
theorem initialized_run_iff (c : Config) (hroutes : c.Routes) : ∃ s, initialized c = .ok s ∧
    ∀ events, s.AllPossible events → ((∃ s', s.run events = .ok s' ∧ s'.Sound) ↔ s.AllAllowed events) := by
  obtain ⟨s, hinit, hs⟩ := initialized_kept hroutes
  exact ⟨s, hinit, fun events hpossible => hs.run_iff hroutes hpossible⟩

/-- A router with one interface. -/
def oneInterface : Config where
  numInterfaces := 1
  interface _ := ⟨true, 0x0A000002⟩

/-- A router with a lower address asks for a group. -/
def lowerQuery : Event :=
  .message 0 0x0A000001 ⟨.membershipQuery, 10, 0xEF010203⟩ fun _ => 0

def memberReport : Event :=
  .message 0 0x0A000003 ⟨.v2MembershipReport, 0, 0xEF010203⟩ fun _ => 0

/-- A member has reported the group. -/
theorem reported_sound : ∃ s, initialized oneInterface = .ok s ∧
    ∃ s', s.run [(1, memberReport), (2, lowerQuery)] = .ok s' ∧ s'.Sound := by
  obtain ⟨s, hinit, hiff⟩ := initialized_run_iff oneInterface (by decide)
  obtain rfl := Except.ok.inj hinit
  refine ⟨_, hinit, (hiff [(1, memberReport), (2, lowerQuery)] ?_).mpr ?_⟩
  · refine ⟨⟨by decide, fun _ => zero_le, .inr ⟨.inl rfl, by decide⟩⟩, fun s' hs' => ?_⟩
    cases hs'
    exact ⟨⟨by decide, fun _ => zero_le, .inl ⟨rfl, .inr (by decide)⟩⟩, fun _ _ => trivial⟩
  · refine ⟨fun htype => (by cases htype), fun s' hs' => ?_⟩
    cases hs'
    exact ⟨fun _ _ _ => rfl, fun _ _ => trivial⟩

/-- Nobody has reported the group. -/
theorem unreported_fails : ∃ s, initialized oneInterface = .ok s ∧
    s.AllPossible [(1, lowerQuery)] ∧ s.run [(1, lowerQuery)] = .error (.nullPointer "groupData") := by
  refine ⟨_, rfl, ⟨⟨by decide, fun _ => ?_, .inl ⟨rfl, .inr (by decide)⟩⟩, fun s' hs' => ?_⟩, rfl⟩
  · exact zero_le
  · trivial

end IGMPv2

end Inet.Igmp
