import SyncAudio.Desktop.RunHost
import SyncAudio.System.Membership

/-!
# The host with its connections

The host session together with the connections of its control channel, which all work on
one room. The host thread, the clock and the commands leave the members alone, and nothing
of what they do depends on them.

## Implementation notes

The host thread, the clock and the three steps of a room command are those of
`HostSystem`. Every other line is answered in one step, and a malformed line and the end of
a connection are steps of their own. The connections are those that the host has accepted.
The address of a connection does not change. The replies are recorded in the order in which
they are sent. A closed connection may go on, which only adds runs. So do more than 32
connections at a time, which the program refuses to accept: the results are on every run.
-/

namespace SyncAudio

open Text ControlServer LabelledRun

/-- The room with no one in it. -/
def Room.withoutMembers (room : Room) : Room := { state := room.state }

theorem Room.withoutMembers_scheduleAction (room : Room) (action : ScheduledRoomAction) :
    room.withoutMembers.scheduleAction action =
      (room.scheduleAction action).map fun result => (result.1, result.2.withoutMembers) := by
  have hpending : room.withoutMembers.state.pendingAction = room.state.pendingAction := rfl
  unfold Room.scheduleAction
  rw [hpending]
  by_cases hvalid : action.Valid
  · rw [dif_pos hvalid, dif_pos hvalid]
    split_ifs <;> rfl
  · rw [dif_neg hvalid, dif_neg hvalid]
    rfl

namespace HostSystem

/-- The session with no one in its room. -/
def withoutMembers (s : HostSystem) : HostSystem := { s with room := s.room.withoutMembers }

section Members

variable {setup : HostSetup} {s : HostSystem} {input : HostInput}

theorem withoutMembers_takeStep (pc : ScheduledRoomAction → HostThread) (empty : HostPc) :
    (s.takeStep pc empty).withoutMembers = s.withoutMembers.takeStep pc empty := by
  unfold takeStep Room.takeAction
  dsimp only [withoutMembers, Room.withoutMembers]
  cases s.room.state.pendingAction <;> rfl

theorem withoutMembers_installStep (command : ScheduledRoomAction) (pc : HostPc) :
    (s.installStep command pc).withoutMembers = s.withoutMembers.installStep command pc := by
  unfold installStep Room.setStreamId
  dsimp only [withoutMembers, Room.withoutMembers]
  split_ifs <;> rfl

theorem withoutMembers_openSegment (input : HostInput) :
    (s.openSegment setup input).withoutMembers = s.withoutMembers.openSegment setup input := by
  have hconfig : s.withoutMembers.segmentConfig setup = s.segmentConfig setup := rfl
  unfold HostSystem.openSegment
  rw [hconfig]
  cases DesktopNetworkHost.make (s.segmentConfig setup) with
  | error message => rfl
  | ok host =>
      have hbegin : host.beginSegment setup.source s.withoutMembers.host.segmentStart
          setup.source.sampleRate setup.source.channels s.withoutMembers.host.frame
          input.seekSucceeds input.created =
        host.beginSegment setup.source s.host.segmentStart setup.source.sampleRate
          setup.source.channels s.host.frame input.seekSucceeds input.created := rfl
      dsimp only
      rw [hbegin]
      cases host.beginSegment setup.source s.host.segmentStart setup.source.sampleRate
          setup.source.channels s.host.frame input.seekSucceeds input.created <;> rfl

theorem withoutMembers_headStep (host : DesktopNetworkHost)
    (segment : DesktopNetworkHost.Segment) (input : HostInput) :
    (s.headStep host segment input).withoutMembers =
      s.withoutMembers.headStep host segment input := by
  have hpending : s.withoutMembers.room.state.pendingAction = s.room.state.pendingAction := rfl
  unfold headStep
  rw [hpending]
  cases host.turn segment input.outputRouteChanged s.room.state.pendingAction with
  | error message => rfl
  | ok turn => cases turn <;> rfl

theorem withoutMembers_sendStep (host : DesktopNetworkHost)
    (segment : DesktopNetworkHost.Segment) (presentationTimestamp : Int) (requested : Nat)
    (input : HostInput) :
    (s.sendStep setup host segment presentationTimestamp requested input).map withoutMembers =
      s.withoutMembers.sendStep setup host segment presentationTimestamp requested input := by
  have hnow : s.withoutMembers.now = s.now := rfl
  unfold sendStep
  rw [hnow]
  cases DesktopNetworkHost.sendPacket setup.source segment presentationTimestamp requested
      input.ready with
  | error message => rfl
  | ok sent =>
      cases sent with
      | none => rfl
      | some sent =>
          dsimp only
          split_ifs <;> rfl

theorem withoutMembers_branchStep (command : ScheduledRoomAction) :
    (s.branchStep command).withoutMembers = s.withoutMembers.branchStep command := by
  unfold branchStep
  cases command.action with
  | stop => rfl
  | seek => exact withoutMembers_installStep command _
  | pause => rfl
  | play => rfl

theorem withoutMembers_pausedStep : s.pausedStep.withoutMembers = s.withoutMembers.pausedStep := by
  have hpending : s.withoutMembers.room.state.pendingAction = s.room.state.pendingAction := rfl
  unfold pausedStep
  rw [hpending]
  cases s.room.state.pendingAction.map ScheduledRoomAction.action with
  | none => rfl
  | some action => cases action <;> rfl

/-- The host thread does not depend on the members. -/
theorem withoutMembers_hostStep :
    (s.hostStep setup input).map withoutMembers = s.withoutMembers.hostStep setup input := by
  have hpc : s.withoutMembers.host.pc = s.host.pc := rfl
  have hnow : s.withoutMembers.now = s.now := rfl
  unfold hostStep
  rw [hpc, hnow]
  cases s.host.pc
  case takeCommand => exact congrArg some (withoutMembers_takeStep _ _)
  case takePlay => exact congrArg some (withoutMembers_takeStep _ _)
  case takeSeek => exact congrArg some (withoutMembers_takeStep _ _)
  case takeStop => exact congrArg some (withoutMembers_takeStep _ _)
  case openSegment => exact congrArg some (withoutMembers_openSegment input)
  case installSeek next => exact congrArg some (withoutMembers_installStep next _)
  case head host segment => exact congrArg some (withoutMembers_headStep host segment input)
  case sending host segment timestamp requested =>
      exact withoutMembers_sendStep host segment timestamp requested input
  case branch command => exact congrArg some (withoutMembers_branchStep command)
  case paused => exact congrArg some withoutMembers_pausedStep
  case waitCutoff command => dsimp only; split_ifs <;> rfl
  case waitSeek next => dsimp only; split_ifs <;> rfl
  case waitStop next => dsimp only; split_ifs <;> rfl
  all_goals rfl

/-- Nor does a commit. -/
theorem withoutMembers_commitStep (connection : Nat) (command : RoomCommand) (effective : Int) :
    (s.commitStep connection command effective).withoutMembers =
      s.withoutMembers.commitStep connection command effective := by
  have hroom : s.withoutMembers.room = s.room.withoutMembers := rfl
  have hschedule := s.room.withoutMembers_scheduleAction (command.scheduled effective)
  unfold commitStep
  rw [hroom, hschedule]
  cases s.room.scheduleAction (command.scheduled effective) <;> rfl

/-- Changing the members only. -/
theorem withoutMembers_room {room : Room} (h : room.state = s.room.state) :
    ({ s with room } : HostSystem).withoutMembers = s.withoutMembers := by
  unfold withoutMembers Room.withoutMembers
  dsimp only
  rw [h]

/-- No step of the session depends on the members. -/
theorem withoutMembers_step (event : Event) :
    (step setup s event).map withoutMembers = step setup s.withoutMembers event := by
  have hnow : s.withoutMembers.now = s.now := rfl
  have hconnections : s.withoutMembers.connections = s.connections := rfl
  have hstate : s.withoutMembers.room.state = s.room.state := rfl
  have hcontrol : s.withoutMembers.control = s.control := rfl
  cases event with
  | tick later =>
      simp only [step, hnow]
      split_ifs <;> rfl
  | host input => exact withoutMembers_hostStep
  | check connection peerAddress line =>
      simp only [step, hconnections, hstate, hcontrol]
      cases s.connections connection with
      | idle =>
          dsimp only
          split_ifs
          · cases checkCommand s.control.totalFrames s.room.state peerAddress line <;> rfl
          · rfl
      | checked command => rfl
      | stamped command effective => rfl
  | readClock connection =>
      simp only [step, hconnections]
      cases s.connections connection <;> rfl
  | commit connection =>
      simp only [step, hconnections]
      cases s.connections connection with
      | idle => rfl
      | checked command => rfl
      | stamped command effective =>
          exact congrArg some (withoutMembers_commitStep connection command effective)

end Members

section Effect

variable {setup : HostSetup} {s t : HostSystem} {input : HostInput}

/-- What a step of the host thread does to the data that it shares: one call on the room
at most, and stores into the three fields that it publishes. -/
structure HostEffect (s t : HostSystem) : Prop where
  room : t.room = s.room ∨ ∃ call : HostCall, call.apply s.room = some t.room
  control : ∃ streamId currentFrame playing,
    t.control = { s.control with streamId, currentFrame, playing }
  connections : t.connections = s.connections

theorem HostEffect.of_same (hroom : t.room = s.room) (hcontrol : t.control = s.control)
    (hconnections : t.connections = s.connections) : HostEffect s t where
  room := .inl hroom
  control := ⟨_, _, _, hcontrol⟩
  connections := hconnections

theorem hostEffect_takeStep (pc : ScheduledRoomAction → HostThread) (empty : HostPc) :
    HostEffect s (s.takeStep pc empty) := by
  have hcall : HostCall.takeAction.apply s.room = some s.room.takeAction.2 := rfl
  unfold takeStep
  dsimp only
  cases s.room.takeAction.1 with
  | none => exact ⟨.inr ⟨_, hcall⟩, ⟨_, _, _, rfl⟩, rfl⟩
  | some action => exact ⟨.inr ⟨_, hcall⟩, ⟨_, _, _, rfl⟩, rfl⟩

theorem hostEffect_installStep (command : ScheduledRoomAction) (pc : HostPc) :
    HostEffect s (s.installStep command pc) := by
  unfold installStep
  cases hroom : s.room.setStreamId command.nextStreamId with
  | error message => exact .of_same rfl rfl rfl
  | ok room =>
      have hcall : (HostCall.setStreamId command.nextStreamId).apply s.room = some room :=
        congrArg Except.toOption hroom
      exact ⟨.inr ⟨_, hcall⟩, ⟨_, _, _, rfl⟩, rfl⟩

theorem hostEffect_openSegment : HostEffect s (s.openSegment setup input) := by
  unfold HostSystem.openSegment
  split
  · exact .of_same rfl rfl rfl
  · split <;> exact .of_same rfl rfl rfl

theorem hostEffect_branchStep (command : ScheduledRoomAction) :
    HostEffect s (s.branchStep command) := by
  unfold branchStep
  cases command.action with
  | stop => exact .of_same rfl rfl rfl
  | seek => exact hostEffect_installStep command _
  | pause => exact ⟨.inr ⟨.setPlaybackState .paused, rfl⟩, ⟨_, _, _, rfl⟩, rfl⟩
  | play => exact .of_same rfl rfl rfl

theorem hostEffect_hostStep (h : s.hostStep setup input = some t) : HostEffect s t := by
  unfold hostStep at h
  cases hpc : s.host.pc <;> rw [hpc] at h <;> dsimp only at h
  case takeCommand => cases h; exact hostEffect_takeStep _ _
  case takePlay => cases h; exact hostEffect_takeStep _ _
  case takeSeek => cases h; exact hostEffect_takeStep _ _
  case takeStop => cases h; exact hostEffect_takeStep _ _
  case installSeek next => cases h; exact hostEffect_installStep next _
  case openSegment => cases h; exact hostEffect_openSegment
  case branch command => cases h; exact hostEffect_branchStep command
  case startPlaying => cases h; exact ⟨.inr ⟨.setPlaybackState .playing, rfl⟩, ⟨_, _, _, rfl⟩, rfl⟩
  case finish => cases h; exact ⟨.inr ⟨.setPlaybackState .stopped, rfl⟩, ⟨_, _, _, rfl⟩, rfl⟩
  case head host segment =>
      cases h
      unfold headStep
      split <;> exact .of_same rfl rfl rfl
  case sending host segment timestamp requested =>
      unfold sendStep at h
      split at h
      · cases h; exact .of_same rfl rfl rfl
      · cases h; exact .of_same rfl rfl rfl
      · split_ifs at h; cases h; exact .of_same rfl rfl rfl
  case paused =>
      cases h
      unfold pausedStep
      split <;> exact .of_same rfl rfl rfl
  case waitCutoff command => split_ifs at h; cases h; exact .of_same rfl rfl rfl
  case waitSeek next => split_ifs at h; cases h; exact .of_same rfl rfl rfl
  case waitStop next => split_ifs at h; cases h; exact .of_same rfl rfl rfl
  case done => cases h
  case failed message => cases h
  all_goals
    cases h
    exact ⟨.inl rfl, ⟨_, _, _, rfl⟩, rfl⟩

/-- The host thread keeps what the room is called. -/
theorem HostEffect.identity (h : HostEffect s t) :
    t.room.state.roomId = s.room.state.roomId ∧ t.room.state.roomName = s.room.state.roomName := by
  obtain hroom | ⟨call, hcall⟩ := h.room
  · rw [hroom]
    exact ⟨rfl, rfl⟩
  · cases call with
    | setPlaybackState state =>
        rw [← Option.some.inj hcall]
        exact ⟨rfl, rfl⟩
    | setStreamId streamId =>
        simp only [HostCall.apply, Room.setStreamId] at hcall
        split_ifs at hcall
        · cases hcall
        · rw [← Option.some.inj hcall]
          exact ⟨rfl, rfl⟩
    | takeAction =>
        rw [← Option.some.inj hcall]
        exact ⟨rfl, rfl⟩

end Effect

end HostSystem

/-- An answer, with the line that it is for. -/
structure Reply where
  connection : Nat
  line : Text
  text : Text
  deriving DecidableEq

/-- The host session with the locals of its connections. -/
structure HostServer where
  system : HostSystem
  lines : Nat → Text := fun _ => []
  clients : Nat → ControlClient := fun _ => {}
  replies : List Reply := []

namespace HostServer

inductive Event where
  | tick (later : Int)
  | host (input : HostInput)
  | line (connection : Nat) (line : Text)
  | readClock (connection : Nat)
  | commit (connection : Nat)
  | malformed (connection : Nat)
  | close (connection : Nat)

/-- The connection that takes the step. -/
def Event.connection : Event → Option Nat
  | .tick _ => none
  | .host _ => none
  | .line connection _ => some connection
  | .readClock connection => some connection
  | .commit connection => some connection
  | .malformed connection => some connection
  | .close connection => some connection

/-- What a peer can bring about by itself: a line, something that is none, and the end of
its connection. -/
def Event.fromPeer : Event → Bool
  | .line _ _ => true
  | .malformed _ => true
  | .close _ => true
  | _ => false

/-- The session before any connection, with the rest of what the host announces. -/
def initial (setup : HostSetup) (hostAddress : Text) (clockPort : UInt16) (now : Int) :
    HostServer where
  system := { HostSystem.initial setup now with
    control := { (HostSystem.initial setup now).control with hostAddress, clockPort } }

def send (s : HostServer) (connection : Nat) (line text : Text) : HostServer :=
  { s with replies := s.replies ++ [{ connection, line, text }] }

/-- The checks of a command line, or the whole answer to another line. -/
def answerLine (peerAddress : Nat → Text) (s : HostServer) (connection : Nat) (line : Text) :
    Option HostServer :=
  match s.system.connections connection with
  | .idle =>
      if isCommand line then
        match checkCommand s.system.control.totalFrames s.system.room.state
            (peerAddress connection) line with
        | .error text => some (s.send connection line text)
        | .ok command => some { s with
            lines := Function.update s.lines connection line
            system := s.system.setPhase connection (.checked command) }
      else
        match responseFor s.system.control (some s.system.room) (peerAddress connection)
            s.system.now (s.clients connection) line with
        | .error _ => none
        | .ok response => some { s.send connection line response.text with
            system := { s.system with room := response.room.getD s.system.room }
            clients := Function.update s.clients connection response.client }
  | _ => none

/-- The end of a connection. -/
def hangUp (s : HostServer) (connection : Nat) : HostServer :=
  { s with system := { s.system with room := giveBack s.system.room (s.clients connection) } }

/-- The answer to a command that is about to be committed. -/
def committed (s : HostServer) (connection : Nat) : Option Reply :=
  match s.system.connections connection with
  | .stamped command effective =>
      (commitCommand s.system.room command effective).toOption.map fun result =>
        { connection, line := s.lines connection, text := result.1 }
  | _ => none

def step (setup : HostSetup) (peerAddress : Nat → Text) : Step HostServer Event
  | s, .tick later => (s.system.step setup (.tick later)).map fun system => { s with system }
  | s, .host input => (s.system.step setup (.host input)).map fun system => { s with system }
  | s, .line connection line => s.answerLine peerAddress connection line
  | s, .readClock connection =>
      (s.system.step setup (.readClock connection)).map fun system => { s with system }
  | s, .commit connection =>
      (s.system.step setup (.commit connection)).map fun system =>
        { s with system, replies := s.replies ++ (s.committed connection).toList }
  | s, .malformed connection =>
      some ((s.send connection [] "ERROR malformed-line\n".toList).hangUp connection)
  | s, .close connection => some (s.hangUp connection)

end HostServer

end SyncAudio
