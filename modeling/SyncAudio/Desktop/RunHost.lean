import Mathlib.Logic.Function.Basic
import SyncAudio.Desktop.ControlChannel
import SyncAudio.Desktop.NetworkHost
import SyncAudio.Lib.LabelledRun

/-!
# The host session

`runHost` alternates between streaming a segment and executing the command that
ended it. The control connections answer room commands at the same time. Both
sides meet in the room, and the system steps wherever one of them touches it,
reads the clock, sleeps or sends.

## Implementation notes

A command line is three steps of its connection: the checks on a snapshot of
the room, the clock reading, and `scheduleAction`. Time passes by `tick` alone;
a sleep is a step that is not enabled before its deadline. The local player,
the decoder and the device are inputs of the host step. The lists at the end of
the state are no part of the program: they record what was sent, accepted,
taken and installed.
-/

namespace SyncAudio

open LabelledRun

/-- What is fixed when the session starts. -/
structure HostSetup where
  source : AudioSource
  totalFrames : UInt64
  audioPort : UInt16
  hostOutputLatency : Int
  room : Room
  idle : room.state.pendingAction = none
  fresh : room.state.recentAction = none
  stopped : room.state.playbackState = .stopped

/-- Where `runHost` stands. -/
inductive HostPc where
  | start
  | begin
  | publish
  | playFrom
  | startPlaying
  | setPlaying
  | openSegment
  | head (host : DesktopNetworkHost) (segment : DesktopNetworkHost.Segment)
  | sending (host : DesktopNetworkHost) (segment : DesktopNetworkHost.Segment)
      (presentationTimestamp : Int) (requested : Nat)
  | progress (host : DesktopNetworkHost) (segment : DesktopNetworkHost.Segment)
  | takeCommand
  | waitCutoff (command : ScheduledRoomAction)
  | stopPlayer (command : ScheduledRoomAction)
  | storeFrame (command : ScheduledRoomAction)
  | branch (command : ScheduledRoomAction)
  | seeked (command : ScheduledRoomAction)
  | paused
  | takePlay
  | takeSeek
  | takeStop
  | waitSeek (next : ScheduledRoomAction)
  | installSeek (next : ScheduledRoomAction)
  | publishSeek (next : ScheduledRoomAction)
  | storeSeek (next : ScheduledRoomAction)
  | waitStop (next : ScheduledRoomAction)
  | draining
  | finish
  | finishing
  | done
  | failed (message : String)

namespace HostPc

/-- The segment that is being streamed, with its configuration. -/
def streaming : HostPc → Option (DesktopNetworkHost × DesktopNetworkHost.Segment)
  | head host segment => some (host, segment)
  | sending host segment _ _ => some (host, segment)
  | progress host segment => some (host, segment)
  | _ => none

/-- The segment whose next packet is being sent. -/
def sendingSegment : HostPc → Option DesktopNetworkHost.Segment
  | sending _ segment _ _ => some segment
  | _ => none

/-- The host is between the top of the outer loop and the end of a segment, where
it works with the stream identifier it has read. -/
def inSegment : HostPc → Bool
  | publish | playFrom | startPlaying | setPlaying | openSegment => true
  | head .. | sending .. | progress .. => true
  | _ => false

/-- What the mailbox holds where the host relies on it. -/
def Expects (pending : Option ScheduledRoomAction) : HostPc → Prop
  | takeCommand => pending.isSome
  | takePlay => pending.map ScheduledRoomAction.action = some .play
  | takeSeek => pending.map ScheduledRoomAction.action = some .seek
  | takeStop => pending.map ScheduledRoomAction.action = some .stop
  | _ => True

/-- The host prepares a segment with the stream identifier it has read. -/
def opening : HostPc → Bool
  | publish | playFrom | startPlaying | setPlaying | openSegment => true
  | _ => false

/-- The host neither streams nor relies on the mailbox. -/
def plain : HostPc → Bool
  | takeCommand | takePlay | takeSeek | takeStop => false
  | pc => !pc.inSegment

/-- The host is in the paused loop. -/
def inPausedLoop : HostPc → Bool
  | paused | takePlay | takeSeek | takeStop => true
  | waitSeek _ | installSeek _ | publishSeek _ | storeSeek _ => true
  | _ => false

/-- The host has taken a PAUSE and not left the paused loop. -/
def pausing : HostPc → Bool
  | waitCutoff command | stopPlayer command | storeFrame command | branch command =>
      command.action = .pause
  | pc => pc.inPausedLoop

end HostPc

/-- The locals of `runHost`. -/
structure HostThread where
  pc : HostPc := .start
  streamId : UInt32
  segmentStart : Int := 0
  frame : UInt64 := 0
  stoppedByCommand : Bool := false

/-- Where a control connection stands with a room command. -/
inductive CommandPhase where
  | idle
  | checked (command : ControlServer.RoomCommand)
  | stamped (command : ControlServer.RoomCommand) (effective : Int)

/-- A condition on the command that is about to be committed. -/
def CommandPhase.decidableStamped {P : ControlServer.RoomCommand → Int → Prop}
    [∀ command effective, Decidable (P command effective)] (phase : CommandPhase) :
    Decidable (match phase with
      | .stamped command effective => P command effective
      | _ => True) :=
  match phase with
  | .stamped command effective => inferInstanceAs (Decidable (P command effective))
  | .idle => .isTrue trivial
  | .checked _ => .isTrue trivial

/-- The stream identifiers before and after the execution of a seek. -/
structure Rotation where
  former : UInt32
  installed : UInt32
  deriving DecidableEq

/-- A packet that was sent, with the number of seeks executed before it. -/
structure Transmission where
  packet : AudioPacket
  seeks : Nat

structure HostSystem where
  room : Room
  control : ControlStreamState
  host : HostThread
  connections : Nat → CommandPhase := fun _ => .idle
  now : Int
  sent : List Transmission := []
  scheduled : List ScheduledRoomAction := []
  taken : List ScheduledRoomAction := []
  rotations : List Rotation := []

/-- What the player, the decoder and the device do in a step of the host. -/
structure HostInput where
  outputRouteChanged : Bool := false
  playbackFails : Bool := false
  seekSucceeds : Bool := true
  ready : Option Nat := some 574
  created : UInt64 := 1

namespace HostSystem

open DesktopNetworkHost

def initial (setup : HostSetup) (now : Int) : HostSystem where
  room := setup.room
  control := {
    sessionId := setup.room.state.sessionId
    streamId := setup.room.state.streamId
    audioPort := setup.audioPort
    sampleRate := setup.source.sampleRate
    channels := setup.source.channels
    totalFrames := setup.totalFrames }
  host := { streamId := setup.room.state.streamId }
  now

/-- The same system with the host at another place. -/
def goto (s : HostSystem) (pc : HostPc) : HostSystem := { s with host := { s.host with pc } }

def sendAhead : Int := 500

/-- The configuration of the segment about to start. -/
def segmentConfig (setup : HostSetup) (s : HostSystem) : DesktopNetworkHostConfig where
  port := setup.audioPort
  sendAhead := sendAhead
  hostOutputLatency := setup.hostOutputLatency
  sessionId := setup.room.state.sessionId
  streamId := s.host.streamId

/-- `DesktopNetworkHost` and `streamFile` up to its loop. -/
def openSegment (setup : HostSetup) (s : HostSystem) (input : HostInput) : HostSystem :=
  match DesktopNetworkHost.make (s.segmentConfig setup) with
  | .error message => s.goto (.failed message)
  | .ok host =>
      match host.beginSegment setup.source s.host.segmentStart setup.source.sampleRate
          setup.source.channels s.host.frame input.seekSucceeds input.created with
      | .error message => s.goto (.failed message)
      | .ok segment => s.goto (.head host segment)

/-- The loop of `streamFile` is left. -/
def endSegment (s : HostSystem) (segment : Segment) (pc : HostPc) : HostSystem :=
  { s with host := { s.host with frame := UInt64.ofNat segment.startFrame, pc } }

def headStep (s : HostSystem) (host : DesktopNetworkHost) (segment : Segment)
    (input : HostInput) : HostSystem :=
  match host.turn segment input.outputRouteChanged s.room.state.pendingAction with
  | .error message => s.goto (.failed message)
  | .ok .endedForCommand => s.endSegment segment .takeCommand
  | .ok (.send presentationTimestamp requested) =>
      s.goto (.sending host segment presentationTimestamp requested)

/-- Read, sleep until the send time and send. -/
def sendStep (setup : HostSetup) (s : HostSystem) (host : DesktopNetworkHost)
    (segment : Segment) (presentationTimestamp : Int) (requested : Nat) (input : HostInput) :
    Option HostSystem :=
  match sendPacket setup.source segment presentationTimestamp requested input.ready with
  | .error message => some (s.goto (.failed message))
  | .ok none => some (s.endSegment segment .draining)
  | .ok (some sent) =>
      if s.now < presentationTimestamp - host.sendAhead * millisecond then none
      else
        some { s with
          sent := s.sent ++ [⟨sent.packet, s.rotations.length⟩]
          host := { s.host with pc := .progress host sent.segment } }

/-- `takeAction`, followed by `pc` if there was an action and by `empty` if not. -/
def takeStep (s : HostSystem) (pc : ScheduledRoomAction → HostThread) (empty : HostPc) :
    HostSystem :=
  let (action, room) := s.room.takeAction
  match action with
  | none => { s with room, host := { s.host with pc := empty } }
  | some action => { s with room, taken := s.taken ++ [action], host := pc action }

/-- The time the host waits for before it executes a command. -/
def executionCutoff (setup : HostSetup) (command : ScheduledRoomAction) : Int :=
  command.effectiveHostNanoseconds - setup.hostOutputLatency * millisecond -
    if command.action = .seek then sendAhead * millisecond else 0

/-- `setStreamId` of a seek. -/
def installStep (s : HostSystem) (command : ScheduledRoomAction) (pc : HostPc) : HostSystem :=
  match s.room.setStreamId command.nextStreamId with
  | .error message => s.goto (.failed message)
  | .ok room =>
      { s with
        room
        rotations := s.rotations ++ [⟨s.room.state.streamId, command.nextStreamId⟩]
        host := { s.host with frame := command.seekFrame, pc } }

/-- The branches of the outer loop. No branch is there for a PLAY, which falls
through to the next segment. -/
def branchStep (s : HostSystem) (command : ScheduledRoomAction) : HostSystem :=
  match command.action with
  | .stop => { s with host := { s.host with stoppedByCommand := true, pc := .finish } }
  | .seek => s.installStep command (.seeked command)
  | .pause => { s with room := s.room.setPlaybackState .paused, host := { s.host with pc := .paused } }
  | .play => s.goto .begin

/-- The top of the paused loop. No branch is there for a PAUSE. -/
def pausedStep (s : HostSystem) : HostSystem :=
  match s.room.state.pendingAction.map ScheduledRoomAction.action with
  | some .play => s.goto .takePlay
  | some .seek => s.goto .takeSeek
  | some .stop => s.goto .takeStop
  | some .pause => s
  | none => s

/-- One step of `runHost`. -/
def hostStep (setup : HostSetup) (s : HostSystem) (input : HostInput) : Option HostSystem :=
  match s.host.pc with
  | .start =>
      some { s with
        host := { s.host with segmentStart := s.now + sendAhead * millisecond, pc := .begin } }
  | .begin =>
      some { s with
        host := { s.host with streamId := s.room.state.streamId, pc := .publish } }
  | .publish =>
      some { s with
        control := { s.control with streamId := s.host.streamId }
        host := { s.host with pc := .playFrom } }
  | .playFrom =>
      some (s.goto (if input.playbackFails then .failed "Unable to start playback" else .startPlaying))
  | .startPlaying =>
      some { s with
        room := s.room.setPlaybackState .playing
        host := { s.host with pc := .setPlaying } }
  | .setPlaying =>
      some { s with
        control := { s.control with playing := true }
        host := { s.host with pc := .openSegment } }
  | .openSegment => some (s.openSegment setup input)
  | .head host segment => some (s.headStep host segment input)
  | .sending host segment presentationTimestamp requested =>
      s.sendStep setup host segment presentationTimestamp requested input
  | .progress host segment =>
      some { s with
        control := { s.control with currentFrame := UInt64.ofNat segment.startFrame }
        host := { s.host with pc := .head host segment } }
  | .takeCommand =>
      some (s.takeStep (fun command => { s.host with pc := .waitCutoff command })
        (.failed "Scheduled room action disappeared"))
  | .waitCutoff command =>
      if s.now < executionCutoff setup command then none else some (s.goto (.stopPlayer command))
  | .stopPlayer command =>
      some { s with
        control := { s.control with playing := false }
        host := { s.host with pc := .storeFrame command } }
  | .storeFrame command =>
      some { s with
        control := { s.control with currentFrame := s.host.frame }
        host := { s.host with pc := .branch command } }
  | .branch command => some (s.branchStep command)
  | .seeked command =>
      some { s with
        control := { s.control with currentFrame := s.host.frame }
        host := { s.host with segmentStart := command.effectiveHostNanoseconds, pc := .begin } }
  | .paused => some s.pausedStep
  | .takePlay =>
      some (s.takeStep
        (fun next => { s.host with segmentStart := next.effectiveHostNanoseconds, pc := .begin })
        .paused)
  | .takeSeek => some (s.takeStep (fun next => { s.host with pc := .waitSeek next }) .paused)
  | .takeStop => some (s.takeStep (fun next => { s.host with pc := .waitStop next }) .paused)
  | .waitSeek next =>
      if s.now < next.effectiveHostNanoseconds then none else some (s.goto (.installSeek next))
  | .installSeek next => some (s.installStep next (.publishSeek next))
  | .publishSeek next =>
      some { s with
        control := { s.control with streamId := next.nextStreamId }
        host := { s.host with pc := .storeSeek next } }
  | .storeSeek _ =>
      some { s with
        control := { s.control with currentFrame := s.host.frame }
        host := { s.host with pc := .paused } }
  | .waitStop next =>
      if s.now < next.effectiveHostNanoseconds then none
      else some { s with host := { s.host with stoppedByCommand := true, pc := .finish } }
  | .draining => some (s.goto .finish)
  | .finish =>
      some { s with
        room := s.room.setPlaybackState .stopped
        host := { s.host with pc := .finishing } }
  | .finishing =>
      some { s with
        control := { s.control with playing := false }
        host := { s.host with pc := .done } }
  | .done => none
  | .failed _ => none

inductive Event where
  | tick (later : Int)
  | host (input : HostInput)
  | check (connection : Nat) (peerAddress line : Text)
  | readClock (connection : Nat)
  | commit (connection : Nat)

/-- A connection moves to another phase. -/
def setPhase (s : HostSystem) (connection : Nat) (phase : CommandPhase) : HostSystem :=
  { s with connections := Function.update s.connections connection phase }

/-- `scheduleAction` of a command whose effective time is fixed. -/
def commitStep (s : HostSystem) (connection : Nat) (command : ControlServer.RoomCommand)
    (effective : Int) : HostSystem :=
  match s.room.scheduleAction (command.scheduled effective) with
  | .error message => s.goto (.failed message)
  | .ok (accepted, room) =>
      { s.setPhase connection .idle with
        room
        scheduled :=
          if accepted then s.scheduled ++ [command.scheduled effective] else s.scheduled }

def step (setup : HostSetup) : Step HostSystem Event
  | s, .tick later => if later < s.now then none else some { s with now := later }
  | s, .host input => s.hostStep setup input
  | s, .check connection peerAddress line =>
      match s.connections connection with
      | .idle =>
          if ControlServer.isCommand line then
            match ControlServer.checkCommand s.control.totalFrames s.room.state peerAddress line with
            | .error _ => some s
            | .ok command => some (s.setPhase connection (.checked command))
          else none
      | _ => none
  | s, .readClock connection =>
      match s.connections connection with
      | .checked command =>
          some (s.setPhase connection (.stamped command (ControlServer.effectiveTime s.now)))
      | _ => none
  | s, .commit connection =>
      match s.connections connection with
      | .stamped command effective => some (s.commitStep connection command effective)
      | _ => none

/-- What a segment inherits from the session and from the loop around it. -/
structure Streaming (setup : HostSetup) (s : HostSystem) (host : DesktopNetworkHost)
    (segment : Segment) : Prop where
  wf : segment.WellFormed setup.source
  sessionId_eq : segment.sessionId = setup.room.state.sessionId
  streamId_eq : segment.streamId = s.room.state.streamId
  startTime_eq : segment.clock.startTime =
    s.host.segmentStart + setup.hostOutputLatency * millisecond
  initialFrame_eq : segment.initialFrame = s.host.frame.toNat
  sendAhead_eq : host.sendAhead = sendAhead
  latency_ge : -1000 ≤ setup.hostOutputLatency

/-- The invariant of the session. -/
structure Invariant (setup : HostSetup) (s : HostSystem) : Prop where
  expects : s.host.pc.Expects s.room.state.pendingAction
  log_eq : s.scheduled = s.taken ++ s.room.state.pendingAction.toList
  streamId_eq : s.host.pc.inSegment = true → s.host.streamId = s.room.state.streamId
  streaming : ∀ run ∈ s.host.pc.streaming, Streaming setup s run.1 run.2
  sending : ∀ {host segment presentationTimestamp requested},
    s.host.pc = .sending host segment presentationTimestamp requested →
      requested ≤ segment.framesPerPacket ∧
        presentationTimestamp = segment.clock.startTime +
          segment.clock.frameNanoseconds (segment.startFrame - segment.initialFrame) ∧
        presentationTimestamp ≤ (PlaybackClock.maximumDuration : Int)

variable {setup : HostSetup} {s t : HostSystem} {input : HostInput}

/-- Where the host neither streams nor relies on the mailbox, only the log matters. -/
theorem invariant_plain (hplain : s.host.pc.plain = true)
    (hlog : s.scheduled = s.taken ++ s.room.state.pendingAction.toList) : Invariant setup s := by
  cases hpc : s.host.pc <;> rw [hpc] at hplain <;> first
    | exact absurd hplain (by decide)
    | exact absurd hplain Bool.false_ne_true
    | exact {
        expects := by rw [hpc]; trivial
        log_eq := hlog
        streamId_eq := by rw [hpc]; exact fun h => absurd h Bool.false_ne_true
        streaming := by rw [hpc]; simp [HostPc.streaming]
        sending := by rw [hpc]; simp }

/-- Before the segment is opened, only the stream identifier matters too. -/
theorem invariant_opening (hopening : s.host.pc.opening = true)
    (hlog : s.scheduled = s.taken ++ s.room.state.pendingAction.toList)
    (hstream : s.host.streamId = s.room.state.streamId) : Invariant setup s := by
  cases hpc : s.host.pc <;> rw [hpc] at hopening <;> first
    | exact absurd hopening Bool.false_ne_true
    | exact {
        expects := by rw [hpc]; trivial
        log_eq := hlog
        streamId_eq := fun _ => hstream
        streaming := by rw [hpc]; simp [HostPc.streaming]
        sending := by rw [hpc]; simp }

theorem invariant_initial (setup : HostSetup) (now : Int) : Invariant setup (initial setup now) :=
  invariant_plain rfl (by simp [initial, setup.idle])

/-- A segment takes its parameters from the loop around it. -/
theorem invariant_openSegment (hs : Invariant setup s) (hpc : s.host.pc = .openSegment) :
    Invariant setup (s.openSegment setup input) := by
  unfold openSegment
  cases hmake : DesktopNetworkHost.make (s.segmentConfig setup) with
  | error message => exact invariant_plain rfl hs.log_eq
  | ok host =>
      dsimp only
      cases hbegin : host.beginSegment setup.source s.host.segmentStart setup.source.sampleRate
          setup.source.channels s.host.frame input.seekSucceeds input.created with
      | error message => exact invariant_plain rfl hs.log_eq
      | ok segment =>
          obtain ⟨hwf, hsession, hstream, hstart, hinitial, hframe, -⟩ := beginSegment_ok hbegin
          have hconfig := make_ok hmake
          have hstreamId := hs.streamId_eq (by rw [hpc]; rfl)
          have hlatency := host.hostOutputLatency_ge
          refine {
            expects := trivial
            log_eq := hs.log_eq
            streamId_eq := fun _ => hstreamId
            streaming := ?_
            sending := fun h => by cases h }
          intro run hrun
          cases hrun
          refine {
            wf := hwf
            sessionId_eq := ?_
            streamId_eq := ?_
            startTime_eq := ?_
            initialFrame_eq := hinitial
            sendAhead_eq := by rw [hconfig]; rfl
            latency_ge := by rw [hconfig] at hlatency; exact hlatency }
          · rw [hsession, statsSessionId, hconfig]
            exact if_pos setup.room.state.sessionId_ne
          · rw [hstream, hconfig]
            exact hstreamId
          · rw [hstart, hconfig]
            rfl

theorem invariant_headStep {host : DesktopNetworkHost} {segment : Segment}
    (hs : Invariant setup s) (hpc : s.host.pc = .head host segment) :
    Invariant setup (s.headStep host segment input) := by
  have hstreaming : Streaming setup s host segment :=
    hs.streaming (host, segment) (by rw [hpc]; rfl)
  unfold headStep
  cases hturn : host.turn segment input.outputRouteChanged s.room.state.pendingAction with
  | error message => exact invariant_plain rfl hs.log_eq
  | ok result =>
      cases result with
      | endedForCommand =>
          obtain ⟨pending, hpending⟩ := turn_ended hturn
          exact {
            expects := by
              change s.room.state.pendingAction.isSome = true
              rw [hpending]
              rfl
            log_eq := hs.log_eq
            streamId_eq := fun h => absurd h Bool.false_ne_true
            streaming := by simp [endSegment, HostPc.streaming]
            sending := fun h => by cases h }
      | send presentationTimestamp requested =>
          obtain ⟨htime, hmaximum, -, -, hrequested⟩ := turn_send hstreaming.wf hturn
          exact {
            expects := trivial
            log_eq := hs.log_eq
            streamId_eq := fun _ => hs.streamId_eq (by rw [hpc]; rfl)
            streaming := by
              intro run hrun
              cases hrun
              exact { hstreaming with }
            sending := fun h => by
              cases h
              exact ⟨hrequested, htime, hmaximum⟩ }

/-- A packet leaves the parameters of its segment alone. -/
theorem invariant_sendStep {host : DesktopNetworkHost} {segment : Segment}
    {presentationTimestamp : Int} {requested : Nat} (hs : Invariant setup s)
    (hpc : s.host.pc = .sending host segment presentationTimestamp requested)
    (h : s.sendStep setup host segment presentationTimestamp requested input = some t) :
    Invariant setup t := by
  have hstreaming : Streaming setup s host segment :=
    hs.streaming (host, segment) (by rw [hpc]; rfl)
  unfold sendStep at h
  cases hsend : sendPacket setup.source segment presentationTimestamp requested input.ready with
  | error message =>
      rw [hsend] at h
      cases h
      exact invariant_plain rfl hs.log_eq
  | ok result =>
      rw [hsend] at h
      cases result with
      | none =>
          cases h
          exact invariant_plain rfl hs.log_eq
      | some sent =>
          dsimp only at h
          split_ifs at h
          cases h
          obtain ⟨framesRead, -, -, hend, -, -, -, -, hnext⟩ := sendPacket_sent hstreaming.wf hsend
          exact {
            expects := trivial
            log_eq := hs.log_eq
            streamId_eq := fun _ => hs.streamId_eq (by rw [hpc]; rfl)
            streaming := by
              intro run hrun
              cases hrun
              dsimp only
              rw [hnext]
              exact { hstreaming with wf := hstreaming.wf.sent hend }
            sending := fun h => by cases h }

/-- Taking moves the pending action to the log of taken ones. -/
theorem takeStep_log (hs : s.scheduled = s.taken ++ s.room.state.pendingAction.toList)
    (pc : ScheduledRoomAction → HostThread) (empty : HostPc) :
    (s.takeStep pc empty).scheduled =
      (s.takeStep pc empty).taken ++
        (s.takeStep pc empty).room.state.pendingAction.toList := by
  unfold takeStep Room.takeAction
  cases hpending : s.room.state.pendingAction with
  | none =>
      rw [hpending] at hs
      exact hs
  | some action =>
      rw [hpending] at hs
      simpa using hs

theorem invariant_takeStep {pc : ScheduledRoomAction → HostThread} {empty : HostPc}
    (hs : Invariant setup s) (hpc : ∀ action, (pc action).pc.plain = true)
    (hempty : empty.plain = true) : Invariant setup (s.takeStep pc empty) := by
  refine invariant_plain ?_ (takeStep_log hs.log_eq pc empty)
  unfold takeStep Room.takeAction
  cases s.room.state.pendingAction with
  | none => exact hempty
  | some action => exact hpc action

theorem invariant_installStep {command : ScheduledRoomAction} {pc : HostPc}
    (hs : Invariant setup s) (hpc : pc.plain = true) :
    Invariant setup (s.installStep command pc) := by
  unfold installStep Room.setStreamId
  split_ifs
  · exact invariant_plain rfl hs.log_eq
  · exact invariant_plain hpc hs.log_eq

theorem invariant_pausedStep (hs : Invariant setup s) : Invariant setup s.pausedStep := by
  have htake {pc : HostPc} (hexpects : pc.Expects s.room.state.pendingAction)
      (hsegment : pc.inSegment = false) (hstreaming : pc.streaming = none)
      (hsending : ∀ host segment timestamp requested, pc ≠ .sending host segment timestamp requested) :
      Invariant setup (s.goto pc) :=
    { expects := hexpects
      log_eq := hs.log_eq
      streamId_eq := fun h => absurd (hsegment.symm.trans h) Bool.false_ne_true
      streaming := fun run hrun => by
        change pc.streaming = some run at hrun
        rw [hstreaming] at hrun
        cases hrun
      sending := fun h => absurd h (hsending _ _ _ _) }
  unfold pausedStep
  cases hpending : s.room.state.pendingAction.map ScheduledRoomAction.action with
  | none => exact hs
  | some action =>
      cases action with
      | play => exact htake hpending rfl rfl (by simp)
      | seek => exact htake hpending rfl rfl (by simp)
      | stop => exact htake hpending rfl rfl (by simp)
      | pause => exact hs

theorem invariant_branchStep {command : ScheduledRoomAction} (hs : Invariant setup s) :
    Invariant setup (s.branchStep command) := by
  unfold branchStep
  cases command.action with
  | play => exact invariant_plain rfl hs.log_eq
  | pause => exact invariant_plain rfl hs.log_eq
  | seek => exact invariant_installStep hs rfl
  | stop => exact invariant_plain rfl hs.log_eq

theorem invariant_hostStep (hs : Invariant setup s) (h : s.hostStep setup input = some t) :
    Invariant setup t := by
  have hlog := hs.log_eq
  have hstream := hs.streamId_eq
  unfold hostStep at h
  cases hpc : s.host.pc <;> rw [hpc] at h hstream <;> dsimp only at h
  case start => cases h; exact invariant_plain rfl hlog
  case begin => cases h; exact invariant_opening rfl hlog rfl
  case publish => cases h; exact invariant_opening rfl hlog (hstream rfl)
  case playFrom =>
      cases h
      by_cases hfails : input.playbackFails = true
      · rw [if_pos hfails]
        exact invariant_plain rfl hlog
      · rw [if_neg hfails]
        exact invariant_opening rfl hlog (hstream rfl)
  case startPlaying => cases h; exact invariant_opening rfl hlog (hstream rfl)
  case setPlaying => cases h; exact invariant_opening rfl hlog (hstream rfl)
  case openSegment => cases h; exact invariant_openSegment hs hpc
  case head host segment => cases h; exact invariant_headStep hs hpc
  case sending host segment presentationTimestamp requested => exact invariant_sendStep hs hpc h
  case progress host segment =>
      cases h
      have hstreaming : Streaming setup s host segment :=
        hs.streaming (host, segment) (by rw [hpc]; rfl)
      exact {
        expects := trivial
        log_eq := hlog
        streamId_eq := fun _ => hstream rfl
        streaming := by
          intro run hrun
          cases hrun
          exact { hstreaming with }
        sending := fun h => by cases h }
  case takeCommand => cases h; exact invariant_takeStep hs (fun _ => rfl) rfl
  case waitCutoff command => split_ifs at h; cases h; exact invariant_plain rfl hlog
  case stopPlayer command => cases h; exact invariant_plain rfl hlog
  case storeFrame command => cases h; exact invariant_plain rfl hlog
  case branch command => cases h; exact invariant_branchStep hs
  case seeked command => cases h; exact invariant_plain rfl hlog
  case paused => cases h; exact invariant_pausedStep hs
  case takePlay => cases h; exact invariant_takeStep hs (fun _ => rfl) rfl
  case takeSeek => cases h; exact invariant_takeStep hs (fun _ => rfl) rfl
  case takeStop => cases h; exact invariant_takeStep hs (fun _ => rfl) rfl
  case waitSeek next => split_ifs at h; cases h; exact invariant_plain rfl hlog
  case installSeek next => cases h; exact invariant_installStep hs rfl
  case publishSeek next => cases h; exact invariant_plain rfl hlog
  case storeSeek next => cases h; exact invariant_plain rfl hlog
  case waitStop next => split_ifs at h; cases h; exact invariant_plain rfl hlog
  case draining => cases h; exact invariant_plain rfl hlog
  case finish => cases h; exact invariant_plain rfl hlog
  case finishing => cases h; exact invariant_plain rfl hlog
  case done => cases h
  case failed message => cases h

/-- A commit fills an empty mailbox, is refused, or ends the process. -/
theorem commitStep_cases (s : HostSystem) (connection : Nat) (command : ControlServer.RoomCommand)
    (effective : Int) :
    (∃ message, s.commitStep connection command effective = s.goto (.failed message)) ∨
      s.room.state.pendingAction.isSome ∧
        s.commitStep connection command effective = s.setPhase connection .idle ∨
      s.room.state.pendingAction = none ∧ (command.scheduled effective).Valid ∧
        ∃ room, room.state.pendingAction = some (command.scheduled effective) ∧
          room.state.streamId = s.room.state.streamId ∧
          room.state.playbackState = s.room.state.playbackState ∧
          room.state.recentAction = s.room.state.recentAction ∧
          s.commitStep connection command effective =
            { s.setPhase connection .idle with
              room
              scheduled := s.scheduled ++ [command.scheduled effective] } := by
  unfold commitStep Room.scheduleAction
  by_cases hvalid : (command.scheduled effective).Valid
  · rw [dif_pos hvalid]
    cases hpending : s.room.state.pendingAction with
    | none =>
        refine .inr (.inr ⟨rfl, hvalid, { s.room with
          state := { s.room.state with
            pendingAction := some (command.scheduled effective)
            pending_valid := by simpa using hvalid } }, rfl, rfl, rfl, rfl, rfl⟩)
    | some pending => exact .inr (.inl ⟨rfl, rfl⟩)
  · rw [dif_neg hvalid]
    exact .inl ⟨_, rfl⟩

/-- What the connections do to the room changes the mailbox and its log only. -/
theorem Invariant.of_room {room : Room} {scheduled : List ScheduledRoomAction}
    {connections : Nat → CommandPhase} {now : Int} (hs : Invariant setup s)
    (hexpects : s.host.pc.Expects room.state.pendingAction)
    (hlog : scheduled = s.taken ++ room.state.pendingAction.toList)
    (hstream : room.state.streamId = s.room.state.streamId) :
    Invariant setup { s with room, scheduled, connections, now } where
  expects := hexpects
  log_eq := hlog
  streamId_eq := fun h => (hs.streamId_eq h).trans hstream.symm
  streaming := fun run hrun =>
    { hs.streaming run hrun with
      streamId_eq := (hs.streaming run hrun).streamId_eq.trans hstream.symm }
  sending := hs.sending

/-- A host that relies on the mailbox has something in it. -/
theorem HostPc.expects_of_none {pc : HostPc} (h : pc.Expects none)
    (pending : Option ScheduledRoomAction) : pc.Expects pending := by
  cases pc <;> trivial

theorem invariant_step {event : Event} (hs : Invariant setup s)
    (h : step setup s event = some t) : Invariant setup t := by
  cases event with
  | tick later =>
      simp only [step] at h
      split_ifs at h
      cases h
      exact hs.of_room hs.expects hs.log_eq rfl
  | host input => exact invariant_hostStep hs h
  | check connection peerAddress line =>
      simp only [step] at h
      cases hphase : s.connections connection <;> rw [hphase] at h <;> dsimp only at h
      case idle =>
          split_ifs at h
          cases hcheck : ControlServer.checkCommand s.control.totalFrames s.room.state peerAddress
              line <;> rw [hcheck] at h <;> cases h
          · exact hs
          · exact hs.of_room hs.expects hs.log_eq rfl
      case checked command => cases h
      case stamped command effective => cases h
  | readClock connection =>
      simp only [step] at h
      cases hphase : s.connections connection <;> rw [hphase] at h <;> cases h
      exact hs.of_room hs.expects hs.log_eq rfl
  | commit connection =>
      simp only [step] at h
      cases hphase : s.connections connection <;> rw [hphase] at h <;> cases h
      rename_i command effective
      rcases s.commitStep_cases connection command effective with
        ⟨message, heq⟩ | ⟨-, heq⟩ | ⟨hnone, -, room, hpending, hstream, -, -, heq⟩ <;> rw [heq]
      · exact invariant_plain rfl hs.log_eq
      · exact hs.of_room hs.expects hs.log_eq rfl
      · have hexpects := hs.expects
        have hlog := hs.log_eq
        rw [hnone] at hexpects hlog
        refine hs.of_room (HostPc.expects_of_none hexpects _) ?_ hstream
        rw [hpending, hlog]
        simp

theorem invariant_run {events : List Event} {now : Int}
    (h : run (step setup) (initial setup now) events = some s) : Invariant setup s :=
  run_preserves (fun hs hstep => invariant_step hs hstep) (invariant_initial setup now) h

/-- Two mono frames at 8,000 Hz in a fresh room. -/
def shortSetup (hostOutputLatency : Int) : HostSetup where
  source := {
    sampleRate := 8000
    channels := 1
    samples := [1, 2]
    sampleRate_ge := AudioSource.lowRate_ge
    sampleRate_le := AudioSource.lowRate_le
    channels_ge := by decide
    channels_le := AudioSource.mono_le
    aligned := by decide
    length_lt := by decide }
  totalFrames := 2
  audioPort := 40100
  hostOutputLatency
  room := {
    state := {
      roomId := ['r']
      roomName := ['r']
      hostDeviceId := ['h']
      sessionId := 7
      streamId := 1
      sessionId_ne := by decide
      streamId_ne := firstStreamId_ne
      pending_valid := valid_of_empty } }
  idle := rfl
  fresh := rfl
  stopped := rfl

/-- `count` steps of a host whose decoder has `ready` frames. -/
def hostSteps (count : Nat) (ready : Nat := 574) : List Event :=
  List.replicate count (.host { ready := some ready })

/-- A shell sends a command line, which is answered before anything else happens. -/
def sendLine (line : String) : List Event :=
  [.check 0 "127.0.0.1".toList line.toList, .readClock 0, .commit 0]

end HostSystem

end SyncAudio
