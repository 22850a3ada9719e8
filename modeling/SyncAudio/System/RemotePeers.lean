import SyncAudio.System.HostServer
import SyncAudio.System.ResponseLines

/-!
# Peers that are not local

A peer whose address is not the loopback address can join the room and report its health,
but the playback and the answers that the shells get are those of the same run without it.
It never sees the list of the members.

## Implementation notes

The two runs are kept alike but for the members of their rooms. What remote peers bring
about are lines, malformed lines and the ends of connections: the other two steps of a
command are never enabled for them.
-/

namespace SyncAudio

open Text ControlServer LabelledRun HostControlChannel JoinRoundTrip

namespace HostServer

/-- The step is one of a peer that is not local. -/
def remote (peerAddress : Nat → Text) (event : Event) : Bool :=
  event.connection.any fun connection => peerAddress connection ≠ "127.0.0.1".toList

/-- The line asks for the playback or steers it. -/
def asksControl (line : Text) : Bool := line = "HOST_STATE".toList || isCommand line

/-- The answer is one on the playback, to a local connection. -/
def concerns (peerAddress : Nat → Text) (reply : Reply) : Bool :=
  peerAddress reply.connection = "127.0.0.1".toList && asksControl reply.line

/-- The answers on the playback that local connections have got. -/
def localReplies (peerAddress : Nat → Text) (s : HostServer) : List Reply :=
  s.replies.filter (concerns peerAddress)

/-- What the session stands on: complete endpoints, and announced texts without a line
feed. Only the rest of it ever changes. -/
structure Announces (peerAddress : Nat → Text) (s : HostServer) : Prop where
  audioPort_ne : s.system.control.audioPort ≠ 0
  hostAddress : ∃ a b c d, s.system.control.hostAddress = dotted a b c d
  titled : Titled s.system.room.state
  idle : ∀ connection, peerAddress connection ≠ "127.0.0.1".toList →
    s.system.connections connection = .idle

section Lines

variable {control : ControlStreamState} {room : Room} {peerAddress line : Text} {now : Int}
  {client : ControlClient}

/-- A JOIN is answered. -/
theorem joinResponse_ok {deviceId : Text} (hpeer : peerAddress ≠ [])
    (hport : control.audioPort ≠ 0) :
    ∃ response next, joinResponse control (some room) peerAddress now client deviceId =
        .ok response ∧ response.room = some next := by
  unfold joinResponse
  cases hvalid : validDeviceId deviceId with
  | false => exact ⟨_, room, rfl, rfl⟩
  | true =>
      have hdevice : deviceId ≠ [] := by
        rintro rfl
        cases hvalid
      obtain ⟨token, next, hjoin, -⟩ := @join_ok (if client.joinedDeviceId ≠ [] then
        room.leave client.joinedDeviceId client.membershipToken else room) deviceId peerAddress
        control.audioPort hdevice hpeer hport
      rw [Bool.not_true, if_neg Bool.false_ne_true]
      dsimp only
      rw [hjoin]
      exact ⟨_, next, rfl, rfl⟩

/-- Every line but a command is answered, and leaves the state of the room as it is. -/
theorem responseFor_other (hline : isCommand line = false) (hpeer : peerAddress ≠ [])
    (hport : control.audioPort ≠ 0) :
    ∃ response next, responseFor control (some room) peerAddress now client line = .ok response ∧
      response.room = some next ∧ next.state = room.state := by
  by_cases hjoin : "JOIN ".toList.isPrefixOf line = true
  · obtain ⟨deviceId, rfl⟩ := List.isPrefixOf_iff_prefix.mp hjoin
    have hanswer : responseFor control (some room) peerAddress now client
        ("JOIN ".toList ++ deviceId) =
          joinResponse control (some room) peerAddress now client deviceId := rfl
    obtain ⟨response, next, hresponse, hnext⟩ := @joinResponse_ok control room peerAddress now
      client deviceId hpeer hport
    exact ⟨response, next, hanswer.trans hresponse, hnext, joinResponse_state hresponse hnext⟩
  · unfold responseFor
    rw [if_neg hjoin, hline, if_neg Bool.false_ne_true]
    split_ifs
    · exact ⟨_, room, rfl, rfl, rfl⟩
    · exact ⟨_, room, rfl, rfl, rfl⟩
    · exact ⟨_, room, rfl, rfl, rfl⟩
    · exact ⟨_, room, rfl, rfl, rfl⟩
    · exact ⟨_, _, rfl, rfl, clientStateResponse_state room client (line.drop 13)⟩
    · exact ⟨_, room, rfl, rfl, rfl⟩
    · exact ⟨_, room, rfl, rfl, rfl⟩

end Lines

section Announced

variable {setup : HostSetup} {peerAddress : Nat → Text} {s t : HostServer} {event : Event}
  {connection : Nat} {line : Text}

theorem Announces.of_system (h : Announces peerAddress s)
    (hport : t.system.control.audioPort = s.system.control.audioPort)
    (hhost : t.system.control.hostAddress = s.system.control.hostAddress)
    (hroomId : t.system.room.state.roomId = s.system.room.state.roomId)
    (hroomName : t.system.room.state.roomName = s.system.room.state.roomName)
    (hidle : ∀ connection, s.system.connections connection = .idle →
      peerAddress connection ≠ "127.0.0.1".toList → t.system.connections connection = .idle) :
    Announces peerAddress t where
  audioPort_ne := hport ▸ h.audioPort_ne
  hostAddress := hhost ▸ h.hostAddress
  titled := ⟨hroomId ▸ h.titled.roomId_length, hroomId ▸ h.titled.roomId_alnum,
    hroomName ▸ h.titled.roomName_length, hroomName ▸ h.titled.roomName_printable⟩
  idle := fun connection hpeer => hidle connection (h.idle connection hpeer) hpeer

theorem Announces.send (h : Announces peerAddress s) (text : Text) :
    Announces peerAddress (s.send connection line text) :=
  h.of_system rfl rfl rfl rfl fun _ hidle _ => hidle

theorem Announces.hangUp (h : Announces peerAddress s) :
    Announces peerAddress (s.hangUp connection) := by
  have hstate := giveBack_state s.system.room (s.clients connection)
  exact h.of_system rfl rfl (congrArg RoomState.roomId hstate)
    (congrArg RoomState.roomName hstate) fun _ hidle _ => hidle

/-- Only a connection that is in the middle of a command can leave its phase. -/
theorem setPhase_idle {phase : CommandPhase} {system : HostSystem} {other : Nat}
    (hbusy : system.connections connection ≠ .idle)
    (hidle : system.connections other = .idle) :
    (system.setPhase connection phase).connections other = .idle := by
  have hne : other ≠ connection := by
    rintro rfl
    exact hbusy hidle
  exact (Function.update_of_ne hne _ _).trans hidle

/-- The first step of a peer's command is its last. -/
theorem checkCommand_remote {totalFrames : UInt64} {snapshot : RoomState} {address line : Text}
    (h : address ≠ "127.0.0.1".toList) :
    checkCommand totalFrames snapshot address line = .error "ERROR host-only-command\n".toList :=
  if_pos h

theorem commitStep_identity (system : HostSystem) (connection : Nat) (command : RoomCommand)
    (effective : Int) :
    (system.commitStep connection command effective).control = system.control ∧
      (system.commitStep connection command effective).room.state.roomId =
        system.room.state.roomId ∧
      (system.commitStep connection command effective).room.state.roomName =
        system.room.state.roomName ∧
      (∀ other, other ≠ connection →
        (system.commitStep connection command effective).connections other =
          system.connections other) := by
  unfold HostSystem.commitStep
  cases hschedule : system.room.scheduleAction (command.scheduled effective) with
  | error message => exact ⟨rfl, rfl, rfl, fun _ _ => rfl⟩
  | ok result =>
      obtain ⟨accepted, room⟩ := result
      have hroom : room.state.roomId = system.room.state.roomId ∧
          room.state.roomName = system.room.state.roomName := by
        cases accepted with
        | true =>
            obtain ⟨-, -, -, _, hstate⟩ := scheduleAction_accepted hschedule
            rw [hstate]
            exact ⟨rfl, rfl⟩
        | false =>
            rw [scheduleAction_refused hschedule]
            exact ⟨rfl, rfl⟩
      exact ⟨rfl, hroom.1, hroom.2, fun _ hne => Function.update_of_ne hne _ _⟩

/-- What becomes of a line: an error or a checked command, or an answer that leaves the
state of the room as it is. -/
theorem answerLine_cases (hannounces : Announces peerAddress s) (hpeer : peerAddress connection ≠ [])
    (h : s.answerLine peerAddress connection line = some t) :
    s.system.connections connection = .idle ∧
      ((∃ text, isCommand line = true ∧ t = s.send connection line text ∧
          checkCommand s.system.control.totalFrames s.system.room.state (peerAddress connection)
            line = .error text) ∨
        (∃ command, isCommand line = true ∧
          checkCommand s.system.control.totalFrames s.system.room.state (peerAddress connection)
            line = .ok command ∧
          t = { s with
            lines := Function.update s.lines connection line
            system := s.system.setPhase connection (.checked command) }) ∨
        ∃ response next, isCommand line = false ∧
          responseFor s.system.control (some s.system.room) (peerAddress connection) s.system.now
            (s.clients connection) line = .ok response ∧
          next.state = s.system.room.state ∧
          t = { s.send connection line response.text with
            system := { s.system with room := next }
            clients := Function.update s.clients connection response.client }) := by
  unfold answerLine at h
  cases hphase : s.system.connections connection with
  | checked command =>
      rw [hphase] at h
      cases h
  | stamped command effective =>
      rw [hphase] at h
      cases h
  | idle =>
      rw [hphase] at h
      refine ⟨rfl, ?_⟩
      dsimp only at h
      cases hcommand : isCommand line with
      | true =>
          rw [hcommand, if_pos rfl] at h
          cases hcheck : checkCommand s.system.control.totalFrames s.system.room.state
              (peerAddress connection) line with
          | error text =>
              rw [hcheck] at h
              exact .inl ⟨text, rfl, (Option.some.inj h).symm, rfl⟩
          | ok command =>
              rw [hcheck] at h
              exact .inr (.inl ⟨command, rfl, rfl, (Option.some.inj h).symm⟩)
      | false =>
          obtain ⟨response, next, hresponse, hnext, hstate⟩ := @responseFor_other s.system.control
            s.system.room (peerAddress connection) line s.system.now (s.clients connection) hcommand
            hpeer hannounces.audioPort_ne
          rw [hcommand, if_neg Bool.false_ne_true, hresponse] at h
          dsimp only at h
          rw [hnext] at h
          exact .inr (.inr ⟨response, next, rfl, hresponse, hstate, (Option.some.inj h).symm⟩)

theorem Announces.step (hpeers : ∀ connection, peerAddress connection ≠ [])
    (h : Announces peerAddress s) (hstep : step setup peerAddress s event = some t) :
    Announces peerAddress t := by
  cases event with
  | tick later =>
      simp only [HostServer.step, HostSystem.step, Option.map_eq_some_iff] at hstep
      obtain ⟨system, htick, rfl⟩ := hstep
      split_ifs at htick
      cases htick
      exact h.of_system rfl rfl rfl rfl fun _ hidle _ => hidle
  | host input =>
      simp only [HostServer.step, Option.map_eq_some_iff] at hstep
      obtain ⟨system, hhost, rfl⟩ := hstep
      have heffect := HostSystem.hostEffect_hostStep hhost
      obtain ⟨streamId, currentFrame, playing, hcontrol⟩ := heffect.control
      refine h.of_system ?_ ?_ heffect.identity.1 heffect.identity.2 ?_
      · change system.control.audioPort = _
        rw [hcontrol]
      · change system.control.hostAddress = _
        rw [hcontrol]
      · intro connection hidle _
        exact (congrFun heffect.connections connection).trans hidle
  | line connection line =>
      obtain ⟨hphase, ⟨text, -, rfl, -⟩ | ⟨command, -, hcheck, rfl⟩ |
        ⟨response, next, -, -, hstate, rfl⟩⟩ := answerLine_cases h (hpeers connection) hstep
      · exact h.send text
      · refine h.of_system rfl rfl rfl rfl fun other hidle hother => ?_
        -- The check of a peer never succeeds.
        have hne : other ≠ connection := by
          rintro rfl
          rw [checkCommand_remote hother] at hcheck
          cases hcheck
        exact (Function.update_of_ne hne _ _).trans hidle
      · exact h.of_system rfl rfl (congrArg RoomState.roomId hstate)
          (congrArg RoomState.roomName hstate) fun _ hidle _ => hidle
  | readClock connection =>
      simp only [HostServer.step, HostSystem.step, Option.map_eq_some_iff] at hstep
      obtain ⟨system, hread, rfl⟩ := hstep
      cases hphase : s.system.connections connection with
      | idle =>
          rw [hphase] at hread
          cases hread
      | stamped command effective =>
          rw [hphase] at hread
          cases hread
      | checked command =>
          rw [hphase] at hread
          cases hread
          have hbusy : s.system.connections connection ≠ .idle := by
            intro hidle
            rw [hphase] at hidle
            cases hidle
          exact h.of_system rfl rfl rfl rfl fun other hidle _ => setPhase_idle hbusy hidle
  | commit connection =>
      simp only [HostServer.step, HostSystem.step, Option.map_eq_some_iff] at hstep
      obtain ⟨system, hcommit, rfl⟩ := hstep
      cases hphase : s.system.connections connection with
      | idle =>
          rw [hphase] at hcommit
          cases hcommit
      | checked command =>
          rw [hphase] at hcommit
          cases hcommit
      | stamped command effective =>
          rw [hphase] at hcommit
          cases hcommit
          obtain ⟨hcontrol, hroomId, hroomName, hothers⟩ :=
            commitStep_identity s.system connection command effective
          refine h.of_system (congrArg _ hcontrol) (congrArg _ hcontrol) hroomId hroomName ?_
          intro other hidle _
          have hne : other ≠ connection := by
            rintro rfl
            rw [hphase] at hidle
            cases hidle
          exact (hothers other hne).trans hidle
  | malformed connection =>
      cases hstep
      exact (h.send _).hangUp
  | close connection =>
      cases hstep
      exact h.hangUp

end Announced

/-- The same session, but for what remote peers have done to the members, and the same
answers on the playback to local connections. -/
structure Alike (peerAddress : Nat → Text) (s t : HostServer) : Prop where
  system : s.system.withoutMembers = t.system.withoutMembers
  lines : ∀ connection, peerAddress connection = "127.0.0.1".toList →
    s.lines connection = t.lines connection
  replies : s.localReplies peerAddress = t.localReplies peerAddress
  announces : Announces peerAddress s

section Unwinding

variable {setup : HostSetup} {peerAddress : Nat → Text} {s t : HostServer} {event : Event}
  {connection : Nat} {line : Text}

namespace Alike

theorem control_eq (h : Alike peerAddress s t) : t.system.control = s.system.control :=
  (congrArg HostSystem.control h.system).symm

theorem state_eq (h : Alike peerAddress s t) : t.system.room.state = s.system.room.state :=
  (congrArg (fun system => system.room.state) h.system).symm

theorem connections_eq (h : Alike peerAddress s t) :
    t.system.connections = s.system.connections :=
  (congrArg HostSystem.connections h.system).symm

theorem now_eq (h : Alike peerAddress s t) : t.system.now = s.system.now :=
  (congrArg HostSystem.now h.system).symm

end Alike

theorem localReplies_send (s : HostServer) (line text : Text) :
    (s.send connection line text).localReplies peerAddress =
      s.localReplies peerAddress ++ [⟨connection, line, text⟩].filter (concerns peerAddress) :=
  List.filter_append _ _

/-- An answer to a remote peer is none of these. -/
theorem concerns_remote (hremote : peerAddress connection ≠ "127.0.0.1".toList) (text : Text) :
    concerns peerAddress ⟨connection, line, text⟩ = false := by
  unfold concerns
  rw [decide_eq_false hremote, Bool.false_and]

theorem concerns_other (hline : asksControl line = false) (text : Text) :
    concerns peerAddress ⟨connection, line, text⟩ = false := by
  unfold concerns
  rw [hline, Bool.and_false]

theorem localReplies_remote (hremote : peerAddress connection ≠ "127.0.0.1".toList)
    (s : HostServer) (line text : Text) :
    (s.send connection line text).localReplies peerAddress = s.localReplies peerAddress := by
  rw [localReplies_send, List.filter_cons, concerns_remote hremote, List.filter_nil,
    if_neg Bool.false_ne_true, List.append_nil]

/-- An answer to a local connection, the same on both sides if it is on the playback. -/
theorem Alike.send (h : Alike peerAddress s t) {text other : Text}
    (hsame : asksControl line = false ∨ text = other) :
    Alike peerAddress (s.send connection line text) (t.send connection line other) := by
  refine ⟨h.system, h.lines, ?_, h.announces.send text⟩
  rw [localReplies_send, localReplies_send, h.replies]
  obtain hother | rfl := hsame
  · rw [List.filter_cons, List.filter_cons, concerns_other hother, concerns_other hother]
    rfl
  · rfl

/-- An answer to a remote peer. -/
theorem Alike.send_left (h : Alike peerAddress s t)
    (hremote : peerAddress connection ≠ "127.0.0.1".toList) (text : Text) :
    Alike peerAddress (s.send connection line text) t :=
  ⟨h.system, h.lines, (localReplies_remote hremote s line text).trans h.replies,
    h.announces.send text⟩

theorem Alike.hangUp_left (h : Alike peerAddress s t) :
    Alike peerAddress (s.hangUp connection) t := by
  have hstate := giveBack_state s.system.room (s.clients connection)
  exact ⟨(HostSystem.withoutMembers_room hstate).trans h.system, h.lines, h.replies,
    h.announces.hangUp⟩

theorem Alike.hangUp (h : Alike peerAddress s t) :
    Alike peerAddress (s.hangUp connection) (t.hangUp connection) := by
  have hstate := giveBack_state t.system.room (t.clients connection)
  exact ⟨h.hangUp_left.system.trans (HostSystem.withoutMembers_room hstate).symm, h.lines,
    h.replies, h.announces.hangUp⟩

/-- The steps of the session itself keep both sides alike. -/
theorem alike_system (hpeers : ∀ connection, peerAddress connection ≠ [])
    (h : Alike peerAddress s t) (hevent : HostSystem.Event) (sent : HostServer → List Reply)
    (hsent : sent s = sent t)
    (hstep : ∀ s : HostServer, step setup peerAddress s event =
      (s.system.step setup hevent).map fun system =>
        { s with system, replies := s.replies ++ sent s }) :
    Option.Rel (Alike peerAddress) (step setup peerAddress s event)
      (step setup peerAddress t event) := by
  have hboth : (s.system.step setup hevent).map HostSystem.withoutMembers =
      (t.system.step setup hevent).map HostSystem.withoutMembers := by
    rw [HostSystem.withoutMembers_step, HostSystem.withoutMembers_step, h.system]
  have hnext {next : HostServer} (hnext : step setup peerAddress s event = some next) :
      Announces peerAddress next := h.announces.step hpeers hnext
  rw [hstep s] at hnext ⊢
  rw [hstep t]
  cases hleft : s.system.step setup hevent with
  | none =>
      rw [hleft] at hboth
      cases hright : t.system.step setup hevent with
      | none => exact .none
      | some right =>
          rw [hright] at hboth
          cases hboth
  | some left =>
      rw [hleft] at hboth
      cases hright : t.system.step setup hevent with
      | none =>
          rw [hright] at hboth
          cases hboth
      | some right =>
          rw [hright] at hboth
          rw [hleft] at hnext
          refine .some ⟨Option.some.inj hboth, h.lines, ?_, hnext rfl⟩
          have hreplies := h.replies
          unfold localReplies at hreplies ⊢
          rw [List.filter_append, List.filter_append, hsent, hreplies]

/-- The answer of a commit does not depend on the members. -/
theorem committed_withoutMembers (s : HostServer) (connection : Nat) :
    committed { s with system := s.system.withoutMembers } connection =
      s.committed connection := by
  unfold committed
  dsimp only [HostSystem.withoutMembers]
  cases s.system.connections connection with
  | idle => rfl
  | checked command => rfl
  | stamped command effective =>
      dsimp only
      unfold commitCommand
      rw [Room.withoutMembers_scheduleAction]
      cases s.system.room.scheduleAction (command.scheduled effective) with
      | error message => rfl
      | ok result =>
          obtain ⟨accepted, room⟩ := result
          cases accepted <;> rfl

theorem Alike.committed_eq (h : Alike peerAddress s t)
    (hlocal : peerAddress connection = "127.0.0.1".toList) :
    s.committed connection = t.committed connection := by
  have hlines := h.lines connection hlocal
  rw [← committed_withoutMembers s, ← committed_withoutMembers t, h.system]
  unfold committed
  dsimp only
  rw [hlines]

theorem hostStateLine_of_state {control : ControlStreamState} {room next : Room}
    (h : next.state = room.state) :
    hostStateLine control (some next) = hostStateLine control (some room) := by
  rw [hostStateLine_eq, hostStateLine_eq, lineFields_of_state control room h]

/-- A line of a local connection has the same effect on the playback on both sides. -/
theorem alike_line (hpeer : peerAddress connection ≠ []) (h : Alike peerAddress s t)
    (hlocal : peerAddress connection = "127.0.0.1".toList) :
    Option.Rel (Alike peerAddress) (s.answerLine peerAddress connection line)
      (t.answerLine peerAddress connection line) := by
  unfold answerLine
  rw [congrFun h.connections_eq connection, h.control_eq, h.state_eq, h.now_eq]
  cases s.system.connections connection with
  | checked command => exact .none
  | stamped command effective => exact .none
  | idle =>
      dsimp only
      cases hcommand : isCommand line with
      | true =>
          rw [if_pos rfl, if_pos rfl]
          cases checkCommand s.system.control.totalFrames s.system.room.state
              (peerAddress connection) line with
          | error text => exact .some (h.send (.inr rfl))
          | ok command =>
              refine .some ⟨?_, ?_, h.replies, ?_⟩
              · exact congrArg (fun system => system.setPhase connection (.checked command)) h.system
              · intro other hother
                dsimp only
                by_cases heq : other = connection
                · rw [heq, Function.update_self, Function.update_self]
                · rw [Function.update_of_ne heq, Function.update_of_ne heq]
                  exact h.lines other hother
              · refine h.announces.of_system rfl rfl rfl rfl fun other hidle hother => ?_
                have hne : other ≠ connection := by
                  rintro rfl
                  exact hother hlocal
                exact (Function.update_of_ne hne _ _).trans hidle
      | false =>
          have hport := h.announces.audioPort_ne
          obtain ⟨left, next, hleft, hnext, hstate⟩ := @responseFor_other s.system.control
            s.system.room (peerAddress connection) line s.system.now (s.clients connection) hcommand
            hpeer hport
          obtain ⟨right, other, hright, hother, hstate'⟩ := @responseFor_other s.system.control
            t.system.room (peerAddress connection) line s.system.now (t.clients connection) hcommand
            hpeer hport
          rw [if_neg Bool.false_ne_true, if_neg Bool.false_ne_true, hleft, hright]
          dsimp only
          rw [hnext, hother]
          -- Of these lines only HOST_STATE asks for the playback.
          have hsame : asksControl line = false ∨ left.text = right.text := by
            by_cases hstateLine : line = "HOST_STATE".toList
            · rw [hstateLine] at hleft hright
              cases hleft
              cases hright
              exact .inr (hostStateLine_of_state h.state_eq).symm
            · unfold asksControl
              rw [decide_eq_false hstateLine, hcommand, Bool.or_self]
              exact .inl rfl
          have hsent : Alike peerAddress (s.send connection line left.text)
            (t.send connection line right.text) := h.send hsame
          refine .some ⟨?_, h.lines, hsent.replies, ?_⟩
          · dsimp only [Option.getD]
            rw [HostSystem.withoutMembers_room hstate, HostSystem.withoutMembers_room hstate',
              h.system]
          · exact h.announces.of_system rfl rfl (congrArg RoomState.roomId hstate)
              (congrArg RoomState.roomName hstate) fun _ hidle _ => hidle

theorem alike_visible (hpeers : ∀ connection, peerAddress connection ≠ [])
    (h : Alike peerAddress s t) (hvisible : ¬ remote peerAddress event = true) :
    Option.Rel (Alike peerAddress) (step setup peerAddress s event)
      (step setup peerAddress t event) := by
  have hlocal {connection : Nat} (hconnection : event.connection = some connection) :
      peerAddress connection = "127.0.0.1".toList := by
    unfold remote at hvisible
    rw [hconnection] at hvisible
    by_contra hremote
    exact hvisible (decide_eq_true hremote)
  cases event with
  | tick later =>
      apply alike_system hpeers h (.tick later) (fun _ => []) rfl
      intro s
      simp only [List.append_nil]
      rfl
  | host input =>
      apply alike_system hpeers h (.host input) (fun _ => []) rfl
      intro s
      simp only [List.append_nil]
      rfl
  | line connection line => exact alike_line (hpeers connection) h (hlocal rfl)
  | readClock connection =>
      apply alike_system hpeers h (.readClock connection) (fun _ => []) rfl
      intro s
      simp only [List.append_nil]
      rfl
  | commit connection =>
      apply alike_system hpeers h (.commit connection) (fun s => (s.committed connection).toList)
      · exact congrArg Option.toList (h.committed_eq (hlocal rfl))
      · exact fun s => rfl
  | malformed connection => exact .some (h.send (.inr rfl)).hangUp
  | close connection => exact .some h.hangUp

/-- What a remote peer does is always possible and concerns the members only. -/
theorem alike_remote (hpeers : ∀ connection, peerAddress connection ≠ [])
    (h : Alike peerAddress s t) (hremote : remote peerAddress event = true)
    (hpeer : event.fromPeer = true) :
    ∃ next, step setup peerAddress s event = some next ∧ Alike peerAddress next t := by
  have haddress {connection : Nat} (hconnection : event.connection = some connection) :
      peerAddress connection ≠ "127.0.0.1".toList := by
    unfold remote at hremote
    rw [hconnection] at hremote
    exact of_decide_eq_true hremote
  cases event with
  | tick later => cases hpeer
  | host input => cases hpeer
  | readClock connection => cases hpeer
  | commit connection => cases hpeer
  | malformed connection => exact ⟨_, rfl, (h.send_left (haddress rfl) _).hangUp_left⟩
  | close connection => exact ⟨_, rfl, h.hangUp_left⟩
  | line connection line =>
      have hother := haddress rfl
      have hidle := h.announces.idle connection hother
      have hstep : ∃ next, s.answerLine peerAddress connection line = some next := by
        unfold answerLine
        rw [hidle]
        dsimp only
        cases hcommand : isCommand line with
        | true =>
            rw [if_pos rfl, checkCommand_remote hother]
            exact ⟨_, rfl⟩
        | false =>
            obtain ⟨response, next, hresponse, -, -⟩ := @responseFor_other s.system.control
              s.system.room (peerAddress connection) line s.system.now (s.clients connection)
              hcommand (hpeers connection) h.announces.audioPort_ne
            rw [if_neg Bool.false_ne_true, hresponse]
            exact ⟨_, rfl⟩
      obtain ⟨next, hstep⟩ := hstep
      have hannounces : Announces peerAddress next :=
        @Announces.step setup peerAddress s next (.line connection line) hpeers h.announces hstep
      refine ⟨next, hstep, ?_⟩
      obtain ⟨-, ⟨text, -, rfl, -⟩ | ⟨command, -, hcheck, -⟩ |
        ⟨response, room, -, -, hstate, rfl⟩⟩ := answerLine_cases h.announces (hpeers connection) hstep
      · exact h.send_left hother text
      · rw [checkCommand_remote hother] at hcheck
        cases hcheck
      · have hsent : Alike peerAddress (s.send connection line response.text) t :=
          h.send_left hother response.text
        exact ⟨(HostSystem.withoutMembers_room hstate).trans h.system, h.lines, hsent.replies,
          hannounces⟩

/-- The playback of the room, and the answers on it that local connections have got. -/
structure SamePlayback (peerAddress : Nat → Text) (s t : HostServer) : Prop where
  playbackState : s.system.room.state.playbackState = t.system.room.state.playbackState
  streamId : s.system.room.state.streamId = t.system.room.state.streamId
  pendingAction : s.system.room.state.pendingAction = t.system.room.state.pendingAction
  recentAction : s.system.room.state.recentAction = t.system.room.state.recentAction
  replies : s.localReplies peerAddress = t.localReplies peerAddress

theorem Alike.samePlayback (h : Alike peerAddress s t) : SamePlayback peerAddress s t where
  playbackState := congrArg RoomState.playbackState h.state_eq.symm
  streamId := congrArg RoomState.streamId h.state_eq.symm
  pendingAction := congrArg RoomState.pendingAction h.state_eq.symm
  recentAction := congrArg RoomState.recentAction h.state_eq.symm
  replies := h.replies

theorem samePlayback_of_alike {left right : Option HostServer}
    (h : Option.Rel (Alike peerAddress) left right) :
    Option.Rel (SamePlayback peerAddress) left right := by
  cases h with
  | some h => exact .some h.samePlayback
  | none => exact .none

theorem announces_initial {hostAddress : Text} {a b c d : UInt8} (clockPort : UInt16) (now : Int)
    (hport : setup.audioPort ≠ 0) (hhost : hostAddress = dotted a b c d)
    (htitled : Titled setup.room.state) :
    Announces peerAddress (initial setup hostAddress clockPort now) where
  audioPort_ne := hport
  hostAddress := ⟨a, b, c, d, hhost⟩
  titled := htitled
  idle := fun _ _ => rfl

end Unwinding

section Quiet

variable {control : ControlStreamState} {room : Room} {peerAddress line text more : Text}
  {now : Int} {client : ControlClient} {response : Response} {lines : List Text}
  {a b c d : UInt8}

/-- Complete lines, none of which is on a member. -/
def Quiet (text : Text) : Prop :=
  ∃ lines : List Text, text = terminated lines ∧
    ∀ line ∈ lines, (∀ c ∈ line, c ≠ '\n') ∧ line.head? ≠ some 'M'

/-- The lines on members that a reader finds in a text. -/
def memberLines (text : Text) : List Text :=
  (cutLines [] text).1.filter fun line => "MEMBER ".toList.isPrefixOf line

theorem Quiet.append (h : Quiet text) (hmore : Quiet more) : Quiet (text ++ more) := by
  obtain ⟨lines, rfl, hlines⟩ := h
  obtain ⟨others, rfl, hothers⟩ := hmore
  refine ⟨lines ++ others, (terminated_append _ _).symm, ?_⟩
  intro line hline
  obtain hfirst | hsecond := List.mem_append.mp hline
  · exact hlines line hfirst
  · exact hothers line hsecond

/-- A check of a fixed text. -/
theorem quiet_of_all
    (h : (text.getLast? = some '\n' && (text.dropLast.all fun c => c ≠ '\n') &&
      decide (text.dropLast.head? ≠ some 'M')) = true) : Quiet text := by
  simp only [Bool.and_eq_true, decide_eq_true_eq] at h
  obtain ⟨⟨hlast, hall⟩, hhead⟩ := h
  obtain ⟨line, rfl⟩ := List.getLast?_eq_some_iff.mp hlast
  rw [List.dropLast_concat] at hall hhead
  refine ⟨[line], (terminated_cons line []).symm, ?_⟩
  intro other hother
  rw [List.mem_singleton.mp hother]
  exact ⟨fun c hc => of_decide_eq_true (List.all_eq_true.mp hall c hc), hhead⟩

/-- A reader gets back the lines. -/
theorem cutLines_terminated (hlines : ∀ line ∈ lines, ∀ c ∈ line, c ≠ '\n') :
    cutLines [] (terminated lines) = (lines, []) := by
  induction lines with
  | nil => rfl
  | cons line lines ih =>
      have hrest := ih fun other hother => hlines other (List.mem_cons_of_mem _ hother)
      rw [terminated_cons, cutLines_line (hlines line List.mem_cons_self), hrest]

theorem Quiet.memberLines (h : Quiet text) : memberLines text = [] := by
  obtain ⟨lines, rfl, hlines⟩ := h
  unfold HostServer.memberLines
  rw [cutLines_terminated fun line hline => (hlines line hline).1, List.filter_eq_nil_iff]
  intro line hline hmember
  obtain ⟨rest, rfl⟩ := List.isPrefixOf_iff_prefix.mp hmember
  exact (hlines _ hline).2 rfl

theorem quiet_hostStateLine : Quiet (hostStateLine control (some room)) := by
  rw [hostStateLine_eq]
  refine ⟨[joinWords (lineFields control room)], (terminated_cons _ []).symm, ?_⟩
  intro line hline
  rw [List.mem_singleton.mp hline]
  constructor
  · exact noFeed_of_printable (printable_joinWords fun word hword => isGraphic_lineFields hword)
  · rw [lineFields_eq]
    exact nofun

theorem quiet_answerText (htitled : Titled room.state)
    (hhost : control.hostAddress = dotted a b c d) : Quiet (answerText control room now) := by
  refine ⟨[joinWords (welcomeWords control), roomLine room, syncLine now, stateLine control room],
    ?_, ?_⟩
  · simp only [terminated_cons]
    rfl
  · intro line hline
    simp only [List.mem_cons, List.not_mem_nil, or_false] at hline
    rcases hline with rfl | rfl | rfl | rfl
    · constructor
      · exact noFeed_of_printable
          (printable_joinWords fun word hword => isGraphic_welcomeWords hhost hword)
      · exact nofun
    · exact ⟨noFeed_of_printable (roomLine_shape htitled).1, nofun⟩
    · exact ⟨noFeed_of_printable (printable_syncLine now), nofun⟩
    · constructor
      · exact noFeed_of_printable (printable_joinWords fun word hword => isGraphic_lineFields hword)
      · exact nofun

theorem joinResponse_quiet {deviceId : Text} (htitled : Titled room.state)
    (hhost : control.hostAddress = dotted a b c d)
    (h : joinResponse control (some room) peerAddress now client deviceId = .ok response) :
    Quiet response.text := by
  by_cases hdevice : validDeviceId deviceId = true
  · rw [joinResponse_text hdevice h]
    exact quiet_answerText htitled hhost
  · unfold joinResponse at h
    rw [Bool.eq_false_iff.mpr hdevice, Bool.not_false, if_pos rfl] at h
    cases h
    exact quiet_of_all rfl

theorem quiet_of_fixed (h : text ∈ fixedAnswers) : Quiet text := by
  have hall : (fixedAnswers.all fun text => text.getLast? = some '\n' &&
      (text.dropLast.all fun c => c ≠ '\n') &&
        decide (text.dropLast.head? ≠ some 'M')) = true := by decide +kernel
  exact quiet_of_all (List.all_eq_true.mp hall text h)

/-- No line but MEMBERS asks for the members, and a remote peer does not get them. -/
theorem responseFor_quiet (htitled : Titled room.state)
    (hhost : control.hostAddress = dotted a b c d) (hremote : peerAddress ≠ "127.0.0.1".toList)
    (hcommand : isCommand line = false)
    (h : responseFor control (some room) peerAddress now client line = .ok response) :
    Quiet response.text := by
  unfold responseFor at h
  rw [hcommand, if_neg Bool.false_ne_true] at h
  split_ifs at h
  · cases h
    exact quiet_of_all rfl
  · cases h
    exact quiet_of_all rfl
  · exact joinResponse_quiet htitled hhost h
  · cases h
    exact quiet_hostStateLine
  · cases h
    have hanswer : membersAnswer (some room) peerAddress = "ERROR host-only-command\n".toList :=
      if_neg hremote
    dsimp only
    rw [hanswer]
    exact quiet_of_all rfl
  · cases h
    exact quiet_of_fixed (clientStateResponse_fixed room client (line.drop 13))
  · cases h
    exact quiet_of_all rfl
  · cases h
    exact quiet_of_all rfl

end Quiet

section Discreet

variable {setup : HostSetup} {peerAddress : Nat → Text} {s t : HostServer} {event : Event}
  {connection : Nat} {line text : Text}

/-- All that a connection has got. -/
def received (s : HostServer) (connection : Nat) : Text :=
  (s.replies.filter fun reply => reply.connection = connection).flatMap Reply.text

/-- Nothing that remote peers have got is on a member. -/
def Discreet (peerAddress : Nat → Text) (s : HostServer) : Prop :=
  ∀ reply ∈ s.replies, peerAddress reply.connection ≠ "127.0.0.1".toList → Quiet reply.text

theorem Discreet.send (h : Discreet peerAddress s)
    (htext : peerAddress connection ≠ "127.0.0.1".toList → Quiet text) :
    Discreet peerAddress (s.send connection line text) := by
  intro reply hreply
  obtain hbefore | hnew := List.mem_append.mp hreply
  · exact h reply hbefore
  · rw [List.mem_singleton.mp hnew]
    exact htext

/-- Only a local connection commits. -/
theorem committed_quiet (hannounces : Announces peerAddress s) {reply : Reply}
    (hreply : s.committed connection = some reply) :
    peerAddress reply.connection = "127.0.0.1".toList := by
  by_contra hremote
  unfold committed at hreply
  cases hphase : s.system.connections connection with
  | idle =>
      rw [hphase] at hreply
      cases hreply
  | checked command =>
      rw [hphase] at hreply
      cases hreply
  | stamped command effective =>
      rw [hphase] at hreply
      obtain ⟨result, -, rfl⟩ := Option.map_eq_some_iff.mp hreply
      have hidle := hannounces.idle connection hremote
      rw [hphase] at hidle
      cases hidle

theorem Discreet.step (hpeers : ∀ connection, peerAddress connection ≠ [])
    (hannounces : Announces peerAddress s) (h : Discreet peerAddress s)
    (hstep : step setup peerAddress s event = some t) : Discreet peerAddress t := by
  cases event with
  | tick later =>
      obtain ⟨system, -, rfl⟩ := Option.map_eq_some_iff.mp hstep
      exact h
  | host input =>
      obtain ⟨system, -, rfl⟩ := Option.map_eq_some_iff.mp hstep
      exact h
  | readClock connection =>
      obtain ⟨system, -, rfl⟩ := Option.map_eq_some_iff.mp hstep
      exact h
  | commit connection =>
      obtain ⟨system, -, rfl⟩ := Option.map_eq_some_iff.mp hstep
      intro reply hreply hremote
      obtain hbefore | hnew := List.mem_append.mp hreply
      · exact h reply hbefore hremote
      · exact absurd (committed_quiet hannounces (Option.mem_toList.mp hnew)) hremote
  | malformed connection =>
      cases hstep
      have hsent : Discreet peerAddress
          (s.send connection [] "ERROR malformed-line\n".toList) :=
        h.send fun _ => quiet_of_all rfl
      exact hsent
  | close connection =>
      cases hstep
      exact h
  | line connection line =>
      obtain ⟨a, b, c, d, hhost⟩ := hannounces.hostAddress
      obtain ⟨-, ⟨text, -, rfl, hcheck⟩ | ⟨command, -, -, rfl⟩ |
        ⟨response, next, hcommand, hresponse, -, rfl⟩⟩ :=
          answerLine_cases hannounces (hpeers connection) hstep
      · apply h.send
        intro hremote
        rw [checkCommand_remote hremote] at hcheck
        cases hcheck
        exact quiet_of_all rfl
      · exact h
      · have hsent : Discreet peerAddress (s.send connection line response.text) :=
          h.send fun hremote =>
            responseFor_quiet hannounces.titled hhost hremote hcommand hresponse
        exact hsent

theorem Discreet.received (h : Discreet peerAddress s)
    (hremote : peerAddress connection ≠ "127.0.0.1".toList) : Quiet (s.received connection) := by
  have hquiet : ∀ replies : List Reply, (∀ reply ∈ replies, Quiet reply.text) →
      Quiet (replies.flatMap Reply.text) := by
    intro replies hreplies
    induction replies with
    | nil => exact ⟨[], rfl, fun _ hline => absurd hline List.not_mem_nil⟩
    | cons reply replies ih =>
        rw [List.flatMap_cons]
        exact (hreplies reply List.mem_cons_self).append
          (ih fun other hother => hreplies other (List.mem_cons_of_mem _ hother))
  apply hquiet
  intro reply hreply
  obtain ⟨hmem, hconnection⟩ := List.mem_filter.mp hreply
  exact h reply hmem (of_decide_eq_true hconnection ▸ hremote)

end Discreet

section Run

variable {setup : HostSetup} {peerAddress : Nat → Text} {roomId roomName hostDeviceId hostAddress :
  Text} {sessionId : UInt64} {streamId : UInt32} {a b c d : UInt8} {events : List Event}

/-- Remote peers cannot steer the playback: with everything that they bring about in any
number of connections left out, a run of the session with a new room is a run with the same
playback and the same answers on it to local connections. They do not get the members. -/
theorem remote_noninterference
    (hmake : Room.make roomId roomName hostDeviceId sessionId streamId = .ok setup.room)
    (hlength : roomId.length = 32) (hdigits : ∀ c ∈ roomId, isAlnum c = true)
    (hport : setup.audioPort ≠ 0) (hhost : hostAddress = dotted a b c d)
    (hpeers : ∀ connection, peerAddress connection ≠ [])
    (hevents : ∀ event ∈ events, remote peerAddress event = true → event.fromPeer = true)
    (clockPort : UInt16) (now : Int) :
    Option.Rel (SamePlayback peerAddress)
        (run (step setup peerAddress) (initial setup hostAddress clockPort now) events)
        (run (step setup peerAddress) (initial setup hostAddress clockPort now)
          (events.filter fun event => ¬ remote peerAddress event = true)) ∧
      ∀ s, run (step setup peerAddress) (initial setup hostAddress clockPort now) events = some s →
        ∀ connection, peerAddress connection ≠ "127.0.0.1".toList →
          memberLines (s.received connection) = [] := by
  have hannounces : Announces peerAddress (initial setup hostAddress clockPort now) :=
    announces_initial clockPort now hport hhost (titled_make hmake hlength hdigits)
  constructor
  · apply samePlayback_of_alike
    exact @run_unwinding _ _ (step setup peerAddress) (Alike peerAddress)
      (fun event => remote peerAddress event = true) (fun event => event.fromPeer = true) _
      (alike_visible hpeers) (alike_remote hpeers) _ _ events
      ⟨rfl, fun _ _ => rfl, rfl, hannounces⟩ hevents
  · intro s hrun connection hremote
    have hkeep {t next : HostServer} {event : Event}
        (ht : Announces peerAddress t ∧ Discreet peerAddress t)
        (hstep : step setup peerAddress t event = some next) :
        Announces peerAddress next ∧ Discreet peerAddress next :=
      ⟨ht.1.step hpeers hstep, ht.2.step hpeers ht.1 hstep⟩
    have hinitial : Discreet peerAddress (initial setup hostAddress clockPort now) :=
      fun _ hreply => absurd hreply List.not_mem_nil
    have hdiscreet := run_preserves hkeep ⟨hannounces, hinitial⟩ hrun
    exact (hdiscreet.2.received hremote).memberLines

/-- The short session in a new room. -/
def visitSetup : HostSetup :=
  { HostSystem.shortSetup 1000 with room := newRoom, idle := rfl, fresh := rfl, stopped := rfl }

/-- Connection 0 is a local one. -/
def visitPeer (connection : Nat) : Text :=
  if connection = 0 then "127.0.0.1".toList else "192.168.1.20".toList

theorem visitPeer_ne (connection : Nat) : visitPeer connection ≠ [] := by
  unfold visitPeer
  split_ifs
  · decide
  · decide

/-- A phone joins and sends a command of its own while a shell pauses the session. -/
def visit : List Event :=
  List.replicate 5 (.host { ready := some 574 }) ++
    [.line 1 "JOIN phone".toList, .line 0 "PAUSE".toList, .line 1 "PAUSE".toList, .readClock 0,
      .line 1 "MEMBERS".toList, .commit 0, .malformed 1]

theorem remote_noninterference_visit : ∃ s t : HostServer,
    run (step visitSetup visitPeer) (initial visitSetup (dotted 192 168 1 10) 40101 0) visit =
        some s ∧
      run (step visitSetup visitPeer) (initial visitSetup (dotted 192 168 1 10) 40101 0)
        (visit.filter fun event => ¬ remote visitPeer event = true) = some t ∧
      s.replies.length = 5 ∧ (s.localReplies visitPeer).length = 1 ∧
      SamePlayback visitPeer s t ∧ memberLines (s.received 1) = [] := by
  have hmake : Room.make (List.replicate 32 'a') "Living Room".toList "tandem".toList 42 1 =
      .ok visitSetup.room := rfl
  have hdigits : (List.replicate 32 'a').all isAlnum = true := rfl
  have hall : (visit.all fun event => !remote visitPeer event || event.fromPeer) = true := by
    decide +kernel
  have hevents : ∀ event ∈ visit, remote visitPeer event = true → event.fromPeer = true := by
    intro event hevent hremote
    have hpeer := List.all_eq_true.mp hall event hevent
    rw [hremote] at hpeer
    exact hpeer
  have hheld : (run (step visitSetup visitPeer)
      (initial visitSetup (dotted 192 168 1 10) 40101 0) visit).any fun s =>
        s.replies.length = 5 ∧ (s.localReplies visitPeer).length = 1 := by
    decide +kernel
  obtain ⟨s, hs, hheld⟩ := (Option.any_eq_true _ _).mp hheld
  obtain ⟨hreplies, hlocal⟩ := of_decide_eq_true hheld
  obtain ⟨hsame, hmembers⟩ := remote_noninterference hmake rfl (List.all_eq_true.mp hdigits)
    (by decide) rfl visitPeer_ne hevents 40101 0
  rw [hs] at hsame
  cases ht : run (step visitSetup visitPeer) (initial visitSetup (dotted 192 168 1 10) 40101 0)
      (visit.filter fun event => ¬ remote visitPeer event = true) with
  | none =>
      rw [ht] at hsame
      cases hsame
  | some t =>
      rw [ht] at hsame
      exact ⟨s, t, hs, rfl, hreplies, hlocal, Option.rel_some_some.mp hsame,
        hmembers s hs 1 (by decide)⟩

end Run

end HostServer

end SyncAudio
