import Inetmanet.Udp.UDP

/-!
# Unicast packets and their sockets

Whoever binds a socket to an address before the socket is otherwise used gets the packets
that match it, and no others.
-/
namespace Inet.Udp

open Function

/-- The flag is set only where nothing but the port is. -/
def SockDesc.FlagRight (sd : SockDesc) : Prop :=
  sd.onlyLocalPortIsSet → sd.localAddr.isUnspecified ∧ sd.remoteAddr.isUnspecified ∧ sd.remotePort = -1

namespace UDP

variable {u u' : UDP} {sd old : SockDesc} {sockId gateIndex localPort : Int} {localAddr : IPvXAddress}

@[simp] theorem portList_setPortList (u : UDP) (port port' : Int) (list : List Int) :
    (u.setPortList port list).portList port' = if port' = port then list else u.portList port' := by
  simp only [portList, setPortList, update_apply]
  split <;> rfl

@[simp] theorem portList_store (u : UDP) (sd : SockDesc) (port : Int) : (u.store sd).portList port = u.portList port :=
  rfl

/-- The lists of the ports hold the open sockets, and their flags are right. -/
structure Sound (u : UDP) : Prop where
  sockId : ∀ id sd, u.socketsByIdMap id = some sd → sd.sockId = id
  listed : ∀ port id, id ∈ u.portList port ↔ ∃ sd, u.socketsByIdMap id = some sd ∧ sd.localPort = port
  once : ∀ port, (u.portList port).Nodup
  flag : ∀ id sd, u.socketsByIdMap id = some sd → sd.FlagRight

section

variable (h : u.Sound)
include h

/-- One socket is opened, changed or closed. -/
theorem Sound.change {new : Option SockDesc}
    (hids : u'.socketsByIdMap = update u.socketsByIdMap sockId new)
    (hlists : ∀ port id, id ∈ u'.portList port ↔
      if id = sockId then ∃ sd, new = some sd ∧ sd.localPort = port else id ∈ u.portList port)
    (honce : ∀ port, (u'.portList port).Nodup) (hnew : ∀ sd, new = some sd → sd.sockId = sockId ∧ sd.FlagRight) :
    u'.Sound := by
  constructor
  · intro id sd hsd
    rw [hids, update_apply] at hsd
    split at hsd
    · next heq => exact (hnew sd hsd).1.trans heq.symm
    · exact h.sockId id sd hsd
  · intro port id
    rw [hlists, hids, update_apply]
    split
    · rfl
    · exact h.listed port id
  · exact honce
  · intro id sd hsd
    rw [hids, update_apply] at hsd
    split at hsd
    · exact (hnew sd hsd).2
    · exact h.flag id sd hsd

theorem Sound.store (hold : u.socketsByIdMap sockId = some old) (hid : sd.sockId = old.sockId)
    (hport : sd.localPort = old.localPort) (hflag : sd.FlagRight) : (u.store sd).Sound := by
  have hsockId : sd.sockId = sockId := hid.trans (h.sockId sockId old hold)
  refine h.change (by rw [UDP.store, hsockId]) (fun port id => ?_) h.once
    fun sd' hsd' => by cases hsd'; exact ⟨hsockId, hflag⟩
  rw [portList_store, h.listed]
  split
  · next heq => simp [heq, hold, hport]
  · rfl

theorem Sound.not_mem (hnone : u.socketsByIdMap sockId = none) (port : Int) :
    sockId ∉ u.portList port := by
  simp [h.listed, hnone]

/-- A socket is entered that the lists do not have. -/
theorem Sound.enter (hnone : u.socketsByIdMap sd.sockId = none) (hflag : sd.FlagRight) :
    ((u.store sd).pushBack sd.localPort sd.sockId).Sound := by
  refine h.change rfl (fun port id => ?_) (fun port => ?_) (by simp [hflag])
  · have hnot := h.not_mem hnone port
    by_cases hport : port = sd.localPort
    · subst hport
      by_cases hid : id = sd.sockId <;> simp [pushBack, hid]
    · by_cases hid : id = sd.sockId
      · simpa [pushBack, hport, hid, Ne.symm hport] using hnot
      · simp [pushBack, hport, hid]
  · have hnot := h.not_mem hnone port
    have honce := h.once port
    by_cases hport : port = sd.localPort
    · subst hport
      simp [pushBack, List.nodup_append, honce]
      exact fun id hid heq => hnot (heq ▸ hid)
    · simpa [pushBack, hport] using honce

/-- A socket is taken out of the tables. -/
theorem Sound.leave (hsd : u.socketsByIdMap sockId = some sd)
    (hids : u'.socketsByIdMap = update u.socketsByIdMap sockId none)
    (hlists : ∀ port, u'.portList port =
      if port = sd.localPort then (u.portList sd.localPort).filter (· != sockId) else u.portList port) : u'.Sound := by
  refine h.change hids (fun port id => ?_) (fun port => ?_) nofun
  · rw [hlists]
    by_cases hid : id = sockId
    · split
      · simp [hid]
      · next hport => simp [hid, h.listed, hsd, Ne.symm hport]
    · split
      · next hport => simp [hport, hid]
      · simp
  · rw [hlists]
    split
    · exact (h.once sd.localPort).filter _
    · exact h.once port

theorem Sound.createSocket (hnone : u.socketsByIdMap sockId = none) :
    Ensures (u.createSocket sockId gateIndex localAddr localPort) fun (sd, u') =>
      u'.Sound ∧ u'.socketsByIdMap sockId = some sd := by
  rw [UDP.createSocket]
  refine .bind (p := fun res : Int × UDP => ∃ n, res.2 = { u with lastEphemeralPort := n }) ?_ ?_
  · exact .ite (fun _ => .map fun n _ => ⟨n, rfl⟩) fun _ => .ok ⟨_, rfl⟩
  · rintro ⟨port, _⟩ ⟨n, rfl⟩
    have h₁ : Sound { u with lastEphemeralPort := n } := ⟨h.sockId, h.listed, h.once, h.flag⟩
    exact .pure ⟨h₁.enter hnone fun hflag => ⟨hflag, rfl, rfl⟩, update_self ..⟩

theorem Sound.getOrCreateSocket : Ensures (u.getOrCreateSocket sockId gateIndex) fun (sd, u') =>
    u'.Sound ∧ u'.socketsByIdMap sockId = some sd := by
  rw [UDP.getOrCreateSocket]
  refine .ite (fun _ => .error) fun _ => ?_
  split
  · next hsd => exact .ok ⟨h, hsd⟩
  · next hnone => exact h.createSocket hnone

theorem Sound.close : Ensures (u.close sockId) Sound := by
  rw [UDP.close]
  split
  · exact .error
  · next sd hsd =>
    refine .ok (h.leave hsd rfl fun port => ?_)
    change (update u.socketsByPortMap sd.localPort _ port).getD [] = _
    rw [update_apply, ← (h.once sd.localPort).erase_eq_filter]
    split
    · cases (u.portList sd.localPort).erase sockId <;> rfl
    · rfl

end

/-- What a socket is bound to when it is already there is not a particular address, or it is no
longer the only thing that is set. -/
def BindsFirst (u : UDP) (sockId : Int) (localAddr : IPvXAddress) : Prop :=
  localAddr.isUnspecified ∨ ∀ sd, u.socketsByIdMap sockId = some sd → sd.onlyLocalPortIsSet = false

theorem Sound.bind (h : u.Sound) (hfirst : u.BindsFirst sockId localAddr) :
    Ensures (u.bind sockId gateIndex localAddr localPort) Sound := by
  rw [UDP.bind]
  refine .ite (fun _ => .error) fun _ => .ite (fun _ => .error) fun _ => .ite (fun _ => .error) fun _ => ?_
  split
  · next sd hsd =>
    have hflag : SockDesc.FlagRight { sd with isBound := true, localAddr, localPort } := by
      intro hset
      obtain ⟨-, hremote⟩ := h.flag sockId sd hsd hset
      exact ⟨hfirst.resolve_right fun hclear => Bool.false_ne_true ((hclear sd hsd).symm.trans hset), hremote⟩
    obtain rfl := h.sockId sockId sd hsd
    refine .ite (fun _ => .error) fun _ => .ite (fun _ => .ok ?_) fun _ => .ok (h.store hsd rfl rfl hflag)
    have hleft : Sound { u with
        socketsByIdMap := update u.socketsByIdMap sd.sockId none
        socketsByPortMap := (u.setPortList sd.localPort
          ((u.portList sd.localPort).filter (· != sd.sockId))).socketsByPortMap } :=
      h.leave hsd rfl fun port => portList_setPortList ..
    have hentered := @Sound.enter _ { sd with isBound := true, localAddr, localPort } hleft (update_self ..) hflag
    simpa [UDP.store, setPortList, pushBack] using hentered
  · next hnone =>
    exact .map ((h.createSocket hnone).mono fun (sd, u') ⟨h', hsd⟩ => h'.store hsd rfl rfl (h'.flag _ sd hsd))

inductive Command where
  | BIND (sockId gateIndex : Int) (localAddr : IPvXAddress) (localPort : Int)
  | CONNECT (sockId gateIndex : Int) (remoteAddr : IPvXAddress) (remotePort : Int)
  | SETREUSEADDRESS (sockId gateIndex : Int) (reuseAddr : Bool)
  | DATA (sockId gateIndex : Int) (destAddr : IPvXAddress) (destPort : Int)
  | CLOSE (sockId : Int)

def processCommandFromApp (u : UDP) : Command → Sim UDP
  | .BIND sockId gateIndex localAddr localPort => u.bind sockId gateIndex localAddr localPort
  | .CONNECT sockId gateIndex remoteAddr remotePort => u.connect sockId gateIndex remoteAddr remotePort
  | .SETREUSEADDRESS sockId gateIndex reuseAddr => u.setReuseAddress sockId gateIndex reuseAddr
  | .DATA sockId gateIndex destAddr destPort => u.processPacketFromApp sockId gateIndex destAddr destPort
  | .CLOSE sockId => u.close sockId

def Command.BindsFirst (u : UDP) : Command → Prop
  | .BIND sockId _ localAddr _ => u.BindsFirst sockId localAddr
  | _ => True

theorem Sound.processCommandFromApp (h : u.Sound) {c : Command} (hfirst : c.BindsFirst u) :
    Ensures (u.processCommandFromApp c) Sound := by
  cases c with
  | BIND => exact h.bind hfirst
  | CONNECT =>
    refine .ite (fun _ => .error) fun _ => .ite (fun _ => .error) fun _ => .map (h.getOrCreateSocket.mono ?_)
    exact fun (sd, u') ⟨h', hsd⟩ => h'.store hsd rfl rfl nofun
  | SETREUSEADDRESS =>
    exact .map (h.getOrCreateSocket.mono fun (sd, u') ⟨h', hsd⟩ => h'.store hsd rfl rfl (h'.flag _ sd hsd))
  | DATA =>
    exact h.getOrCreateSocket.bind fun (sd, u') ⟨h', _⟩ => .ite (fun _ => .error) fun _ => .ite (fun _ => .error) fun _ =>
      .ok h'
  | CLOSE => exact h.close

/-- The states after any commands that go through and meet `allowed`. -/
inductive Reached (allowed : UDP → Command → Prop) : UDP → Prop
  | start : Reached allowed ⟨fun _ => none, fun _ => none, 1024⟩
  | step {u u' : UDP} {c : Command} (h : Reached allowed u) (hallowed : allowed u c)
    (hrun : u.processCommandFromApp c = .ok u') : Reached allowed u'

theorem Reached.sound (h : Reached (fun u c => c.BindsFirst u) u) : u.Sound := by
  induction h with
  | start => exact ⟨nofun, by simp [portList], by simp [portList], nofun⟩
  | step _ hfirst hrun ih => exact ih.processCommandFromApp hfirst _ hrun

/-- The first socket that is bound to an address, or else the last one. -/
theorem selectSocket_eq (matching : SockDesc → Bool) (list : List SockDesc) (any : Option SockDesc) :
    selectSocket matching list any = (list.find? fun sd => matching sd && !sd.localAddr.isUnspecified).or
      ((list.filter matching).getLast?.or any) := by
  induction list generalizing any with
  | nil => rfl
  | cons sd list ih =>
    rw [selectSocket]
    by_cases hmatching : matching sd
    · by_cases hunspecified : sd.localAddr.isUnspecified
      · simp [ih, hmatching, hunspecified, List.getLast?_cons]
      · simp [hmatching, hunspecified]
    · simp [ih, hmatching]

/-- An open socket that a packet matches. -/
def Matches (u : UDP) (localAddr : IPvXAddress) (localPort : BitVec 16) (remoteAddr : IPvXAddress)
    (remotePort : BitVec 16) (sd : SockDesc) : Prop :=
  (∃ id, u.socketsByIdMap id = some sd) ∧ sd.localPort = localPort.toNat ∧
    (sd.localAddr.isUnspecified ∨ sd.localAddr = localAddr) ∧
    (sd.remoteAddr.isUnspecified ∨ sd.remoteAddr = remoteAddr) ∧
    (sd.remotePort = -1 ∨ sd.remotePort = remotePort.toNat)

/-- A packet goes to a socket that it matches, if there is one, and to one that is bound to an address
rather than to none. -/
def Demultiplexes (u : UDP) : Prop :=
  ∀ localAddr localPort remoteAddr remotePort,
    ((u.findSocketForUnicastPacket localAddr localPort remoteAddr remotePort).isSome ↔
      ∃ sd, u.Matches localAddr localPort remoteAddr remotePort sd) ∧
    ∀ sd, u.findSocketForUnicastPacket localAddr localPort remoteAddr remotePort = some sd →
      u.Matches localAddr localPort remoteAddr remotePort sd ∧
        ((∃ sd', u.Matches localAddr localPort remoteAddr remotePort sd' ∧ sd'.localAddr.isUnspecified = false) →
          sd.localAddr.isUnspecified = false)

/-- The loop looks for the sockets that match. -/
theorem Sound.matches_iff (h : u.Sound) {remoteAddr : IPvXAddress} {localPort remotePort : BitVec 16} :
    u.Matches localAddr localPort remoteAddr remotePort sd ↔
      sd ∈ (u.socketsOn localPort).reverse ∧ accepts localAddr remoteAddr remotePort sd := by
  simp only [List.mem_reverse, socketsOn, List.mem_filterMap, h.listed, Matches, accepts, Bool.or_eq_true,
    Bool.and_eq_true, decide_eq_true_eq]
  constructor
  · rintro ⟨⟨id, hsd⟩, hport, hlocal, hremote, hremotePort⟩
    exact ⟨⟨id, ⟨sd, hsd, hport⟩, hsd⟩, .inr ⟨⟨hremotePort, hlocal⟩, hremote⟩⟩
  · rintro ⟨⟨id, ⟨sd', hsd', hport⟩, hsd⟩, haccepts⟩
    cases hsd.symm.trans hsd'
    refine ⟨⟨id, hsd⟩, hport, ?_⟩
    cases haccepts with
    | inl hset =>
      obtain ⟨hlocal, hremote, hremotePort⟩ := h.flag id sd hsd hset
      exact ⟨.inl hlocal, .inl hremote, .inl hremotePort⟩
    | inr haccepts => exact ⟨haccepts.1.2, haccepts.2, haccepts.1.1⟩

theorem Sound.demultiplexes (h : u.Sound) : u.Demultiplexes := by
  intro localAddr localPort remoteAddr remotePort
  simp only [findSocketForUnicastPacket, selectSocket_eq, h.matches_iff]
  generalize (u.socketsOn localPort).reverse = list
  cases hfind : list.find? fun sd => accepts localAddr remoteAddr remotePort sd && !sd.localAddr.isUnspecified with
  | some sd =>
    have hsd := List.find?_some hfind
    simp only [Bool.and_eq_true, Bool.not_eq_true'] at hsd
    have hmatches := And.intro (List.mem_of_find?_eq_some hfind) hsd.1
    refine ⟨⟨fun _ => ⟨sd, hmatches⟩, fun _ => rfl⟩, ?_⟩
    rintro _ ⟨⟩
    exact ⟨hmatches, fun _ => hsd.2⟩
  | none =>
    rw [Option.none_or, Option.or_none]
    refine ⟨?_, fun sd hsd => ⟨List.mem_filter.mp (List.mem_of_getLast? hsd), fun ⟨sd', hmatches, hspecified⟩ => ?_⟩⟩
    · simp
    · have hnot := List.find?_eq_none.mp hfind sd' hmatches.1
      simp [hmatches.2, hspecified] at hnot

/-- A unicast packet goes where it should, as long as no socket is bound to an address after it was
opened by another command. -/
theorem Reached.unicast_demultiplexed (h : Reached (fun u c => c.BindsFirst u) u) : u.Demultiplexes :=
  h.sound.demultiplexes

theorem bound_demultiplexes : ∃ u, Reached (fun u c => c.BindsFirst u) u ∧ (u.socketsOn 1000).length = 2 ∧
    u.Demultiplexes := by
  have h₁ := @Reached.step (fun u c => c.BindsFirst u) _ _ (.BIND 1 0 (.ipv4 0x0a000001) 1000) .start (.inr nofun) rfl
  have h₂ := h₁.step (c := .BIND 2 0 (.ipv4 0x0a000002) 1000) (.inr nofun) rfl
  have h₃ := h₂.step (c := .CONNECT 2 0 (.ipv4 0x0a000009) 5000) trivial rfl
  exact ⟨_, h₃, rfl, Reached.unicast_demultiplexed h₃⟩

/-- `setReuseAddress` opens the socket, and `bind` leaves the flag set. -/
theorem reused_misdelivers : ¬ ∀ u, Reached (fun _ _ => True) u → u.Demultiplexes := by
  intro hall
  have hopened := @Reached.step (fun _ _ => True) _ _ (.SETREUSEADDRESS 1 0 true) .start trivial rfl
  have hbound := hopened.step (c := .BIND 1 0 (.ipv4 0x0a000001) 1000) trivial rfl
  obtain ⟨hmatches, -⟩ := (hall _ hbound (.ipv4 0x0a000002) 1000 (.ipv4 0x0a000009) 5000).2 _ rfl
  exact absurd hmatches.2.2.1 (by decide)

end UDP

end Inet.Udp
