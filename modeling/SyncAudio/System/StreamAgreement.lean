import SyncAudio.Ios.AudioPlaybackController
import SyncAudio.System.SeekAnnouncement

/-!
# Phone and host agree on the stream

A phone joins with the stream identifier of `WELCOME`. From then on it learns of
another stream only through a SEEK that a `HOST_STATE` line announces; it does
not read the `STREAM` field. A newer command can hide the SEEK, a newer action
can overwrite it on the phone, and it can come too late. If none of this
happens, the phone ends up with the stream the last line names, or with the one
that a SEEK outstanding at that time leads to.

## Implementation notes

The control connection keeps the order of its lines. A line is answered on one
snapshot of the room. The phone handles `WELCOME` on the connection and starts
its stream later on the main thread. What a `HOST_STATE` line does to the player
and what the timer does to the receiver happens in the step that causes it.
-/

namespace SyncAudio

open LabelledRun
open HostControlChannel (announcement announced)
open HostSystem (shortSetup hostSteps sendLine)

/-- A `HOST_STATE` line, with what it was made from and the SEEK that was
outstanding at that time. -/
structure StateLine where
  control : ControlStreamState
  room : Room
  outstandingSeek : Option ScheduledRoomAction

namespace StateLine

def text (line : StateLine) : Text := ControlServer.hostStateLine line.control (some line.room)

/-- The stream that the host was heading for. -/
def target (line : StateLine) : UInt32 :=
  match line.outstandingSeek with
  | some seek => seek.nextStreamId
  | none => line.room.state.streamId

/-- The SEEK that the line announces. -/
def seek (line : StateLine) : Option ScheduledRoomAction :=
  (announcement line.room.state).filter fun action => action.action = .seek

end StateLine

/-- How far a phone has got with joining the session. -/
inductive JoinPhase where
  | absent
  | welcomed (sessionID : UInt64) (streamID : UInt32)
  | starting (streamID : UInt32)
  | started
  deriving DecidableEq

/-- The host, a phone and the connection between them. The last two fields are no
part of the program: the stream that the connection has told the phone of, and
the last action the phone has scheduled. -/
structure PhoneSystem where
  host : HostSystem
  join : JoinPhase := .absent
  joinedSessionID : Option UInt64 := none
  lines : List StateLine := []
  lastLine : Option StateLine := none
  audio : AudioPlaybackController := {}
  expectedStreamID : Option UInt32 := none
  toldStream : UInt32 := 0
  lastScheduled : Option ScheduledHostAction := none

namespace PhoneSystem

inductive Event where
  | host (event : HostSystem.Event)
  | welcome
  | poll
  | receiveWelcome
  | startStream
  | receiveLine (hostNow : Binary64)
  | pump (hostNow outputLead : Binary64)

def initial (setup : HostSetup) (now : Int) : PhoneSystem where
  host := HostSystem.initial setup now

/-- The line the host answers with. -/
def stateLine (s : PhoneSystem) : StateLine where
  control := s.host.control
  room := s.host.room
  outstandingSeek := s.host.outstandingSeek

/-- `handle` of the first outstanding line. -/
def handleLine (s : PhoneSystem) (line : StateLine) (rest : List StateLine) (hostNow : Binary64) :
    PhoneSystem :=
  match HostControlChannel.handleHostState s.joinedSessionID (HostControlChannel.received line.text) with
  | .retry => { host := s.host }
  | .state _ action =>
      let s := { s with lines := rest, lastLine := some line }
      match action with
      | none => s
      | some action =>
          { s with
            audio := s.audio.scheduleRoomAction hostNow action
            lastScheduled := if s.audio.accepts hostNow action then some action else s.lastScheduled }

def step (setup : HostSetup) : Step PhoneSystem Event
  | s, .host event =>
      ((HostSystem.step setup s.host event).filter fun host => host.now ≤ HostSystem.clockLimit).map
        fun host => { s with host }
  | s, .welcome =>
      if s.join = .absent ∧ s.host.host.pc.crashed = false then
        some { s with
          join := .welcomed s.host.control.sessionId s.host.control.streamId
          toldStream := s.host.control.streamId }
      else none
  | s, .poll =>
      if s.join ≠ .absent ∧ s.host.host.pc.crashed = false then
        some { s with
          lines := s.lines ++ [s.stateLine]
          toldStream :=
            match s.stateLine.seek with
            | some seek => seek.nextStreamId
            | none => s.toldStream }
      else none
  | s, .receiveWelcome =>
      match s.join with
      | .welcomed sessionID streamID =>
          some { s with join := .starting streamID, joinedSessionID := some sessionID }
      | _ => none
  | s, .startStream =>
      match s.join with
      | .starting streamID =>
          some { s with
            join := .started
            audio := .start
            expectedStreamID := some streamID
            lastScheduled := none }
      | _ => none
  | s, .receiveLine hostNow =>
      match s.join, s.lines with
      | .absent, _ => none
      | .welcomed _ _, _ => none
      | _, [] => none
      | _, line :: rest => some (s.handleLine line rest hostNow)
  | s, .pump hostNow outputLead =>
      let (switched, audio) := s.audio.pump hostNow outputLead
      some { s with audio, expectedStreamID := switched.or s.expectedStreamID }

/-- A SEEK reaches a started phone in time, under an effective time of its own. -/
def SeekHeard (s : PhoneSystem) (hostNow : Binary64) (seek : ScheduledHostAction) : Prop :=
  s.join = .started ∧ (s.audio.isKnown seek = true → s.lastScheduled = some seek) ∧
    (seek.isLate hostNow = true → s.audio.isKnown seek = false →
      s.audio.heading s.expectedStreamID = some seek.nextStreamID)

instance (s : PhoneSystem) (hostNow : Binary64) (seek : ScheduledHostAction) :
    Decidable (s.SeekHeard hostNow seek) :=
  inferInstanceAs (Decidable (_ ∧ _ ∧ _))

/-- The condition under which every change of the stream reaches the phone. `Prompt` implies
it, in terms of commands. -/
def Heard (s : PhoneSystem) : Event → Prop
  -- No other command hides a SEEK that no line has announced.
  | .host (.commit connection) =>
      match s.host.connections connection with
      | .stamped command _ =>
          s.join ≠ .absent → s.host.room.state.pendingAction = none → command.action ≠ .seek →
            s.toldStream = s.host.target
      | _ => True
  | .welcome => s.host.control.streamId = s.host.target ∨ s.stateLine.seek.isSome
  | .receiveLine hostNow =>
      match s.lines with
      | [] => True
      | line :: _ =>
          match line.seek with
          | some seek => s.SeekHeard hostNow (announced seek)
          -- No other action overwrites a SEEK before the receiver has switched.
          | none => ∀ action ∈ announcement line.room.state,
              s.audio.accepts hostNow (announced action) = true → s.audio.unswitchedSeek = none
  -- No SEEK is executed before the receiver has switched.
  | .pump hostNow outputLead =>
      ∀ action ∈ s.audio.unswitchedSeek,
        action.isDue hostNow outputLead = true → action.switchDue hostNow = true
  | _ => True

instance (s : PhoneSystem) (event : Event) : Decidable (s.Heard event) := by
  unfold Heard
  split
  · split <;> infer_instance
  · infer_instance
  · split
    · infer_instance
    · split <;> infer_instance
  · infer_instance
  · infer_instance

/-- The same in terms of commands, of effective times and of the output lead. -/
def Prompt (s : PhoneSystem) : Event → Prop
  -- Only a SEEK is accepted while the host heads for a stream that no line has named.
  | .host (.commit connection) =>
      match s.host.connections connection with
      | .stamped command _ =>
          s.join ≠ .absent → command.action = .seek ∨ s.toldStream = s.host.target
      | _ => True
  -- The phone joins while no SEEK is outstanding.
  | .welcome => s.host.outstandingSeek = none ∧
      s.host.control.streamId = s.host.room.state.streamId
  | .receiveLine hostNow =>
      match s.lines with
      | [] => True
      | line :: _ => ∀ action ∈ announcement line.room.state,
          if action.action = .seek then
            -- A SEEK comes within a second, and no other action had its effective time.
            s.join = .started ∧ (announced action).isLate hostNow = false ∧
              (s.audio.isKnown (announced action) = true →
                s.lastScheduled = some (announced action))
          else
            -- Another action comes behind the switch of a SEEK.
            s.audio.unswitchedSeek = none
  | .pump _ outputLead =>
      Binary64.zero.le outputLead = true ∧ outputLead.le (.ofInt 220000000) = true
  | _ => True

instance (s : PhoneSystem) (event : Event) : Decidable (s.Prompt event) := by
  unfold Prompt
  split
  · split <;> infer_instance
  · infer_instance
  · split <;> infer_instance
  · infer_instance
  · infer_instance

theorem heard_of_prompt {s : PhoneSystem} {event : Event} (h : s.Prompt event) : s.Heard event := by
  unfold Prompt at h
  unfold Heard
  split at h
  · split at h
    · intro hjoined _ hother
      exact (h hjoined).resolve_left hother
    · trivial
  · obtain ⟨hnone, hcontrol⟩ := h
    left
    rw [HostSystem.target, hnone]
    exact hcontrol
  · split at h
    · trivial
    · rename_i line rest _
      unfold StateLine.seek
      cases haction : announcement line.room.state with
      | none => exact nofun
      | some action =>
          have hprompt := h action haction
          rw [Option.filter_some]
          by_cases hseek : action.action = .seek
          · rw [if_pos hseek] at hprompt
            obtain ⟨hstarted, hlate, hknown⟩ := hprompt
            rw [if_pos (decide_eq_true hseek)]
            exact ⟨hstarted, hknown, fun hold => absurd (hlate.symm.trans hold) (by decide)⟩
          · rw [if_neg hseek] at hprompt
            rw [if_neg (by simpa using hseek)]
            exact fun _ _ _ => hprompt
  · intro action _ hdue
    exact ScheduledHostAction.switchDue_of_isDue h.1 h.2 hdue
  · trivial

/-- The phone hears of every change of the stream in a run of prompt events. -/
theorem run_heard_of_prompt {setup : HostSetup} {s t : PhoneSystem} {events : List Event}
    (hrun : run (guarded Prompt (step setup)) s events = some t) :
    run (guarded Heard (step setup)) s events = some t :=
  run_guarded_of_guarded (P := fun _ => True) (fun _ _ _ => trivial) (fun _ h => heard_of_prompt h)
    trivial hrun

/-- The stream the phone expects once it has handled everything it was told. -/
def heading (s : PhoneSystem) : Option UInt32 :=
  match s.join with
  | .absent => none
  | .welcomed _ streamID | .starting streamID => some streamID
  | .started => s.audio.heading s.expectedStreamID

/-- What the outstanding lines make of a stream. -/
def settle (lines : List StateLine) (heading : Option UInt32) : Option UInt32 :=
  lines.foldl (fun heading line => (line.seek.map ScheduledRoomAction.nextStreamId).or heading) heading

/-- The line comes from the session and can be read back. -/
structure Readable (setup : HostSetup) (line : StateLine) : Prop where
  sessionId_eq : line.control.sessionId = setup.room.state.sessionId
  time : ∀ action ∈ announcement line.room.state,
    0 ≤ action.effectiveHostNanoseconds ∧ action.effectiveHostNanoseconds < 2 ^ 64

/-- The outstanding lines lead the phone to the stream it was told of. -/
structure Agreeing (setup : HostSetup) (s : PhoneSystem) : Prop where
  invariant : HostSystem.Invariant setup s.host
  announcing : s.host.host.pc.crashed = false → HostSystem.Announcing setup s.host
  clock : s.host.now ≤ HostSystem.clockLimit
  told : s.join ≠ .absent → s.host.host.pc.crashed = false →
    s.toldStream = s.host.target ∨ s.stateLine.seek.isSome
  settled : s.join ≠ .absent → settle s.lines s.heading = some s.toldStream
  readable : ∀ line ∈ s.lines, Readable setup line
  last : ∀ line ∈ (s.lastLine.toList ++ s.lines).getLast?, line.target = s.toldStream
  waiting : s.join = .absent → s.lines = [] ∧ s.lastLine = none
  welcomed : ∀ sessionID streamID, s.join = .welcomed sessionID streamID →
    sessionID = setup.room.state.sessionId
  session : ∀ streamID, s.join = .starting streamID ∨ s.join = .started →
    s.joinedSessionID = some setup.room.state.sessionId
  active : s.join ≠ .started → s.audio.active = false
  scheduled : s.join = .started → s.audio.active = true ∧
    ∀ action ∈ s.lastScheduled, action.isSeek = true →
      s.audio.heading s.expectedStreamID = some action.nextStreamID

variable {setup : HostSetup} {s t : PhoneSystem}

theorem agreeing_initial (setup : HostSetup) {now : Int} (hnow : now ≤ HostSystem.clockLimit) :
    Agreeing setup (initial setup now) where
  invariant := HostSystem.invariant_initial setup now
  announcing := fun _ => HostSystem.announcing_initial setup now
  clock := hnow
  told := fun h => absurd rfl h
  settled := fun h => absurd rfl h
  readable := by simp [initial]
  last := by simp [initial]
  waiting := fun _ => ⟨rfl, rfl⟩
  welcomed := fun _ _ h => by cases h
  session := fun _ h => by rcases h with h | h <;> cases h
  active := fun _ => rfl
  scheduled := fun h => by cases h

theorem seek_isSome_of_announcement {other : PhoneSystem}
    (h : announcement t.host.room.state = announcement other.host.room.state) :
    t.stateLine.seek.isSome = other.stateLine.seek.isSome := by
  unfold StateLine.seek stateLine
  rw [h]

theorem agreeing_host {event : HostSystem.Event} {host : HostSystem} (hs : Agreeing setup s)
    (hok : s.Heard (.host event)) (h : HostSystem.step setup s.host event = some host)
    (hclock : host.now ≤ HostSystem.clockLimit) : Agreeing setup { s with host } := by
  have hstable (hrunning : host.host.pc.crashed = false) : s.host.host.pc.crashed = false := by
    cases hcrashed : s.host.host.pc.crashed with
    | false => rfl
    | true => exact (HostSystem.crashed_step hcrashed h).symm.trans hrunning
  exact {
    invariant := HostSystem.invariant_step hs.invariant h
    announcing := fun hrunning => by
      rcases HostSystem.announcing_step hs.invariant (hs.announcing (hstable hrunning)) h with
        hcrashed | ⟨hannouncing, -⟩
      · exact absurd (hcrashed.symm.trans hrunning) (by decide)
      · exact hannouncing
    clock := hclock
    told := fun hjoin hrunning => by
      rcases HostSystem.announcing_step hs.invariant (hs.announcing (hstable hrunning)) h with
        hcrashed | ⟨-, ⟨htarget, hannouncement⟩ | ⟨command, effective, haccepts⟩⟩
      · exact absurd (hcrashed.symm.trans hrunning) (by decide)
      · exact (hs.told hjoin (hstable hrunning)).imp (·.trans htarget.symm)
          ((seek_isSome_of_announcement hannouncement).trans ·)
      · obtain ⟨connection, rfl, hphase⟩ := haccepts.event_eq
        by_cases hseek : command.action = .seek
        · refine .inr ?_
          unfold StateLine.seek stateLine
          have hscheduled : (command.scheduled effective).action = .seek := hseek
          rw [haccepts.announcement_eq, Option.filter_some, if_pos (decide_eq_true hscheduled)]
          rfl
        · simp only [Heard, hphase] at hok
          exact .inl ((hok hjoin haccepts.pending_eq hseek).trans (haccepts.target_eq hseek).symm)
    settled := hs.settled
    readable := hs.readable
    last := hs.last
    waiting := hs.waiting
    welcomed := hs.welcomed
    session := hs.session
    active := hs.active
    scheduled := hs.scheduled }

theorem agreeing_welcome (hs : Agreeing setup s) (hok : s.Heard .welcome) (hjoin : s.join = .absent)
    (hrunning : s.host.host.pc.crashed = false) :
    Agreeing setup { s with
      join := .welcomed s.host.control.sessionId s.host.control.streamId
      toldStream := s.host.control.streamId } := by
  obtain ⟨hlines, hlast⟩ := hs.waiting hjoin
  exact { hs with
    told := fun _ _ => hok
    settled := fun _ => by rw [hlines]; rfl
    last := by rw [hlines, hlast]; simp
    waiting := fun h => by cases h
    welcomed := fun sessionID streamID h => by
      cases h
      exact (hs.announcing hrunning).sessionId_eq
    session := fun _ h => by rcases h with h | h <;> cases h
    active := fun _ => hs.active (by rw [hjoin]; exact fun h => by cases h)
    scheduled := fun h => by cases h }

theorem settle_append (lines : List StateLine) (line : StateLine) (heading : Option UInt32) :
    settle (lines ++ [line]) heading =
      (line.seek.map ScheduledRoomAction.nextStreamId).or (settle lines heading) := by
  unfold settle
  rw [List.foldl_append]
  rfl

/-- A new line tells the phone of the stream the host is heading for. -/
theorem agreeing_poll (hs : Agreeing setup s) (hjoin : s.join ≠ .absent)
    (hrunning : s.host.host.pc.crashed = false) :
    Agreeing setup { s with
      lines := s.lines ++ [s.stateLine]
      toldStream :=
        match s.stateLine.seek with
        | some seek => seek.nextStreamId
        | none => s.toldStream } := by
  have hannouncing := hs.announcing hrunning
  have htold : (match s.stateLine.seek with
      | some seek => seek.nextStreamId
      | none => s.toldStream) = s.host.target := by
    cases hseek : s.stateLine.seek with
    | none =>
        rcases hs.told hjoin hrunning with htold | hsome
        · exact htold
        · rw [hseek] at hsome
          cases hsome
    | some seek =>
        obtain ⟨hannouncement, hisSeek⟩ := Option.filter_eq_some_iff.mp hseek
        exact hannouncing.target_eq seek hannouncement (of_decide_eq_true hisSeek)
  have hsettled := hs.settled hjoin
  exact { hs with
    told := fun _ _ => .inl htold
    settled := fun _ => by
      change settle (s.lines ++ [s.stateLine]) s.heading = _
      rw [settle_append, hsettled]
      cases s.stateLine.seek <;> rfl
    readable := fun line hline => by
      rcases List.mem_append.mp hline with hold | hnew
      · exact hs.readable line hold
      · rw [List.mem_singleton.mp hnew]
        refine ⟨hannouncing.sessionId_eq, fun action haction => ?_⟩
        obtain ⟨hnonneg, hle⟩ := hannouncing.time action haction
        have hclock := hs.clock
        unfold HostSystem.clockLimit at hclock
        exact ⟨hnonneg, by omega⟩
    last := fun line hline => by
      dsimp only at hline ⊢
      rw [← List.append_assoc, List.getLast?_concat] at hline
      cases hline
      rw [htold]
      rfl
    waiting := fun h => absurd h hjoin }

theorem agreeing_receiveWelcome {sessionID : UInt64} {streamID : UInt32} (hs : Agreeing setup s)
    (hjoin : s.join = .welcomed sessionID streamID) :
    Agreeing setup { s with join := .starting streamID, joinedSessionID := some sessionID } := by
  have hne : s.join ≠ .absent := by rw [hjoin]; exact fun h => by cases h
  have hsettled := hs.settled hne
  unfold heading at hsettled
  rw [hjoin] at hsettled
  exact { hs with
    told := fun _ => hs.told hne
    settled := fun _ => hsettled
    waiting := fun h => by cases h
    welcomed := fun _ _ h => by cases h
    session := fun _ _ => congrArg some (hs.welcomed sessionID streamID hjoin)
    active := fun _ => hs.active (by rw [hjoin]; exact fun h => by cases h)
    scheduled := fun h => by cases h }

theorem agreeing_startStream {streamID : UInt32} (hs : Agreeing setup s)
    (hjoin : s.join = .starting streamID) :
    Agreeing setup { s with
      join := .started
      audio := .start
      expectedStreamID := some streamID
      lastScheduled := none } := by
  have hne : s.join ≠ .absent := by rw [hjoin]; exact fun h => by cases h
  have hsettled := hs.settled hne
  unfold heading at hsettled
  rw [hjoin] at hsettled
  exact { hs with
    told := fun _ => hs.told hne
    settled := fun _ => hsettled
    waiting := fun h => by cases h
    welcomed := fun _ _ h => by cases h
    session := fun _ _ => hs.session streamID (.inl hjoin)
    active := fun h => absurd rfl h
    scheduled := fun _ => ⟨rfl, fun _ h => by cases h⟩ }

theorem agreeing_pump {hostNow outputLead : Binary64} (hs : Agreeing setup s)
    (hok : s.Heard (.pump hostNow outputLead)) :
    Agreeing setup { s with
      audio := (s.audio.pump hostNow outputLead).2
      expectedStreamID := (s.audio.pump hostNow outputLead).1.or s.expectedStreamID } := by
  have hheading := AudioPlaybackController.heading_pump s.expectedStreamID hok
  exact { hs with
    settled := fun hjoin => by
      have hsettled := hs.settled hjoin
      unfold heading at hsettled ⊢
      dsimp only
      rw [hheading]
      exact hsettled
    active := fun hjoin => AudioPlaybackController.active_pump.trans (hs.active hjoin)
    scheduled := fun hjoin => by
      obtain ⟨hactive, hlast⟩ := hs.scheduled hjoin
      refine ⟨AudioPlaybackController.active_pump.trans hactive, fun action haction hseek => ?_⟩
      dsimp only
      rw [hheading]
      exact hlast action haction hseek }

/-- The name of an action survives the line. -/
theorem isSeek_announced (action : ScheduledRoomAction) :
    (announced action).isSeek = decide (action.action = .seek) := by
  have hname (kind : RoomAction) :
      decide (ControlServer.actionName kind = "SEEK".toList) = decide (kind = .seek) := by
    cases kind <;> decide +kernel
  exact hname action.action

/-- The player heads for the stream of a SEEK it is told of in time. -/
theorem heading_seek {hostNow : Binary64} {seek : ScheduledHostAction}
    {lastScheduled : Option ScheduledHostAction} {audio : AudioPlaybackController}
    {expected : Option UInt32} (hactive : audio.active = true)
    (hseek : seek.isSeek = true)
    (hlast : ∀ action ∈ lastScheduled, action.isSeek = true →
      audio.heading expected = some action.nextStreamID)
    (hknown : audio.isKnown seek = true → lastScheduled = some seek)
    (hlate : seek.isLate hostNow = true → audio.isKnown seek = false →
      audio.heading expected = some seek.nextStreamID) :
    (audio.scheduleRoomAction hostNow seek).heading expected = some seek.nextStreamID := by
  cases haccepts : audio.accepts hostNow seek with
  | true => exact AudioPlaybackController.heading_schedule_seek haccepts hseek
  | false =>
      rw [AudioPlaybackController.schedule_refused haccepts]
      cases hisKnown : audio.isKnown seek with
      | true => exact hlast seek (hknown hisKnown) hseek
      | false =>
          refine hlate ?_ hisKnown
          unfold AudioPlaybackController.accepts at haccepts
          simpa [hactive, hisKnown] using haccepts

/-- An action that is no SEEK leaves the heading alone. -/
theorem heading_other {hostNow : Binary64} {action : ScheduledHostAction}
    {audio : AudioPlaybackController} {expected : Option UInt32} (hother : action.isSeek = false)
    (hnone : audio.accepts hostNow action = true → audio.unswitchedSeek = none) :
    (audio.scheduleRoomAction hostNow action).heading expected = audio.heading expected := by
  cases haccepts : audio.accepts hostNow action with
  | true =>
      rw [AudioPlaybackController.heading_schedule_other haccepts hother,
        AudioPlaybackController.heading_of_none (hnone haccepts)]
  | false => rw [AudioPlaybackController.schedule_refused haccepts]

/-- A line of the session gives the phone the action it announces. -/
theorem handleLine_eq {line : StateLine} {rest : List StateLine} {hostNow : Binary64}
    (hsession : s.joinedSessionID = some line.control.sessionId)
    (htime : ∀ action ∈ announcement line.room.state,
      0 ≤ action.effectiveHostNanoseconds ∧ action.effectiveHostNanoseconds < 2 ^ 64) :
    s.handleLine line rest hostNow =
      match announcement line.room.state with
      | none => { s with lines := rest, lastLine := some line }
      | some action =>
          { s with
            lines := rest
            lastLine := some line
            audio := s.audio.scheduleRoomAction hostNow (announced action)
            lastScheduled :=
              if s.audio.accepts hostNow (announced action) then some (announced action)
              else s.lastScheduled } := by
  unfold handleLine StateLine.text
  rw [HostControlChannel.handleHostState_received hsession htime]
  cases announcement line.room.state <;> rfl

/-- An announced action moves the player to the stream of a SEEK, or leaves it. -/
theorem heading_announced {line : StateLine} {rest : List StateLine} {hostNow : Binary64}
    {action : ScheduledRoomAction} (hs : Agreeing setup s) (hlines : s.lines = line :: rest)
    (hok : s.Heard (.receiveLine hostNow)) (haction : announcement line.room.state = some action) :
    (action.action = .seek → s.join = .started) ∧
      (s.audio.scheduleRoomAction hostNow (announced action)).heading s.expectedStreamID =
        if action.action = .seek then some action.nextStreamId
        else s.audio.heading s.expectedStreamID := by
  unfold Heard at hok
  dsimp only at hok
  rw [hlines] at hok
  dsimp only at hok
  unfold StateLine.seek at hok
  rw [haction, Option.filter_some] at hok
  have hisSeek := isSeek_announced action
  by_cases hseek : action.action = .seek
  · rw [if_pos (decide_eq_true hseek)] at hok
    obtain ⟨hstarted, hknown, hlate⟩ := hok
    obtain ⟨hactive, hlast⟩ := hs.scheduled hstarted
    rw [if_pos hseek]
    rw [decide_eq_true hseek] at hisSeek
    exact ⟨fun _ => hstarted, heading_seek hactive hisSeek hlast hknown hlate⟩
  · rw [if_neg (by simpa using hseek)] at hok
    rw [if_neg hseek]
    rw [decide_eq_false hseek] at hisSeek
    exact ⟨fun h => absurd h hseek, heading_other hisSeek (hok action rfl)⟩

theorem settle_cons (line : StateLine) (lines : List StateLine) (heading : Option UInt32) :
    settle (line :: lines) heading =
      settle lines ((line.seek.map ScheduledRoomAction.nextStreamId).or heading) :=
  rfl

theorem getLast?_handled {line : StateLine} {rest : List StateLine} {last : Option StateLine} :
    ((some line).toList ++ rest).getLast? = (last.toList ++ line :: rest).getLast? := by
  cases last with
  | none => rfl
  | some previous => exact (List.getLast?_cons_cons (a := previous)).symm

/-- The phone handles the first outstanding line. -/
theorem agreeing_receiveLine {line : StateLine} {rest : List StateLine} {hostNow : Binary64}
    {streamID : UInt32} (hs : Agreeing setup s) (hok : s.Heard (.receiveLine hostNow))
    (hlines : s.lines = line :: rest) (hjoin : s.join = .starting streamID ∨ s.join = .started) :
    Agreeing setup (s.handleLine line rest hostNow) := by
  have hjoined : s.join ≠ .absent := by
    rcases hjoin with h | h <;> rw [h] <;> exact fun h => by cases h
  have hreadable := hs.readable line (by rw [hlines]; exact List.mem_cons_self)
  have hsettled := hs.settled hjoined
  rw [hlines, settle_cons] at hsettled
  have hrest : ∀ other ∈ rest, Readable setup other := fun other hother =>
    hs.readable other (by rw [hlines]; exact List.mem_cons_of_mem line hother)
  have hlast : ∀ other ∈ ((some line).toList ++ rest).getLast?, other.target = s.toldStream := by
    rw [@getLast?_handled line rest s.lastLine, ← hlines]
    exact hs.last
  have hsession := hs.session streamID hjoin
  rw [← hreadable.sessionId_eq] at hsession
  rw [handleLine_eq hsession hreadable.time]
  cases haction : announcement line.room.state with
  | none =>
      have hseek : line.seek = none := by rw [StateLine.seek, haction, Option.filter_none]
      rw [hseek, Option.map_none, Option.none_or] at hsettled
      exact { hs with
        settled := fun _ => hsettled
        readable := hrest
        last := hlast
        waiting := fun h => absurd h hjoined }
  | some action =>
      obtain ⟨hstarted, hheading⟩ := heading_announced hs hlines hok haction
      have hseek : line.seek = if action.action = .seek then some action else none := by
        rw [StateLine.seek, haction, Option.filter_some]
        simp only [decide_eq_true_eq]
      exact { hs with
        settled := fun _ => by
          rw [hseek] at hsettled
          dsimp only
          rw [← hsettled]
          congr 1
          unfold heading
          dsimp only
          by_cases hisSeek : action.action = .seek
          · rw [hstarted hisSeek]
            dsimp only
            rw [hheading, if_pos hisSeek, if_pos hisSeek]
            rfl
          · rw [if_neg hisSeek] at hheading ⊢
            rw [hheading]
            rfl
        readable := hrest
        last := hlast
        waiting := fun h => absurd h hjoined
        active := fun h => AudioPlaybackController.active_schedule.trans (hs.active h)
        scheduled := fun h => by
          obtain ⟨hactive, hold⟩ := hs.scheduled h
          refine ⟨AudioPlaybackController.active_schedule.trans hactive, fun other hother hisSeek => ?_⟩
          dsimp only at hother ⊢
          split_ifs at hother with haccepts
          · cases hother
            have hkind : action.action = .seek :=
              of_decide_eq_true ((isSeek_announced action).symm.trans hisSeek)
            rw [hheading, if_pos hkind]
            rfl
          · rw [AudioPlaybackController.schedule_refused (by simpa using haccepts)]
            exact hold other hother hisSeek }

/-- The phone and the host agree after every event that lets the phone hear of the streams. -/
theorem agreeing_step {event : Event} (hs : Agreeing setup s)
    (h : guarded Heard (step setup) s event = some t) : Agreeing setup t := by
  obtain ⟨hok, h⟩ := guarded_some.mp h
  cases event with
  | host event =>
      simp only [step] at h
      obtain ⟨host, hhost, rfl⟩ := Option.map_eq_some_iff.mp h
      obtain ⟨hstep, hclock⟩ := Option.filter_eq_some_iff.mp hhost
      exact agreeing_host hs hok hstep (of_decide_eq_true hclock)
  | welcome =>
      simp only [step] at h
      split_ifs at h with hjoin
      cases h
      exact agreeing_welcome hs hok hjoin.1 hjoin.2
  | poll =>
      simp only [step] at h
      split_ifs at h with hjoin
      cases h
      exact agreeing_poll hs hjoin.1 hjoin.2
  | receiveWelcome =>
      simp only [step] at h
      split at h
      · cases h
        exact agreeing_receiveWelcome hs ‹_›
      · cases h
  | startStream =>
      simp only [step] at h
      split at h
      · cases h
        exact agreeing_startStream hs ‹_›
      · cases h
  | receiveLine hostNow =>
      simp only [step] at h
      split at h
      · cases h
      · cases h
      · cases h
      · rename_i line rest hlines habsent hwelcomed
        cases h
        cases hjoin : s.join with
        | absent => exact (habsent hjoin).elim
        | welcomed sessionID streamID => exact (hwelcomed sessionID streamID hjoin).elim
        | starting streamID => exact agreeing_receiveLine hs hok hlines (.inl hjoin)
        | started => exact @agreeing_receiveLine setup s line rest hostNow 0 hs hok hlines (.inr hjoin)
  | pump hostNow outputLead =>
      cases h
      exact agreeing_pump hs hok

/-- In every run in which the phone can hear of each change of the stream: once it
has handled every line and holds no action, it expects the stream of the last
line, or the one that the SEEK outstanding at that time leads to. -/
theorem phone_agrees {now : Int} {events : List Event} (hnow : now ≤ HostSystem.clockLimit)
    (hrun : run (guarded Heard (step setup)) (initial setup now) events = some s)
    (hstarted : s.join = .started) (hlines : s.lines = [])
    (hscheduled : s.audio.scheduledRoomAction = none) {line : StateLine}
    (hline : s.lastLine = some line) :
    (line.outstandingSeek = none → s.expectedStreamID = some line.room.state.streamId) ∧
      ∀ seek ∈ line.outstandingSeek, s.expectedStreamID = some seek.nextStreamId := by
  have hs : Agreeing setup s := run_preserves (fun hs h => agreeing_step hs h)
    (agreeing_initial setup hnow) hrun
  have hheading : s.heading = s.expectedStreamID := by
    unfold heading
    rw [hstarted]
    refine AudioPlaybackController.heading_of_none ?_
    rw [AudioPlaybackController.unswitchedSeek, hscheduled, Option.filter_none]
  have hsettled : s.expectedStreamID = some s.toldStream := by
    have := hs.settled (by rw [hstarted]; exact fun h => by cases h)
    rwa [hlines, hheading] at this
  have htarget : line.target = s.toldStream := hs.last line (by rw [hlines, hline]; rfl)
  rw [hsettled, ← htarget]
  unfold StateLine.target
  constructor
  · intro hnone
    rw [hnone]
  · intro seek hseek
    rw [Option.mem_def.mp hseek]

/-- The phone joins and starts its stream. -/
def joining : List Event := [.welcome, .receiveWelcome, .startStream]

/-- The host answers a poll, and the phone handles the line. -/
def polled (hostNow : Binary64) : List Event := [.poll, .receiveLine hostNow]

/-- Only the host and its connections do something. -/
def hostEvents (events : List HostSystem.Event) : List Event := events.map .host

/-- A phone that hears of a SEEK before it takes effect. -/
def heardSeek : List Event :=
  joining ++ hostEvents (hostSteps 5 ++ sendLine "SEEK 0") ++ polled (.ofInt 0) ++
    hostEvents (hostSteps 4 ++ [.tick 500000000] ++ hostSteps 9) ++
      [.pump (.ofInt 1800000000) (.ofInt 0), .pump (.ofInt 2000000000) (.ofInt 0)] ++
        polled (.ofInt 2000000000)

/-- A PAUSE that is accepted before a poll tells the phone of the SEEK. -/
def hiddenSeek : List Event :=
  joining ++ hostEvents (hostSteps 5 ++ sendLine "SEEK 0" ++ hostSteps 4 ++ [.tick 500000000] ++
    hostSteps 9 ++ sendLine "PAUSE") ++ polled (.ofInt 500000000) ++
      [.host (.tick 3000000000), .pump (.ofInt 3000000000) (.ofInt 0)]
/-- The phone hears of a SEEK and follows it. -/
theorem phone_agrees_seek : ∃ (s : PhoneSystem) (line : StateLine), s.lastLine = some line ∧
    line.room.state.streamId = 2 ∧ s.expectedStreamID = some 2 := by
  have hheld : (run (guarded Prompt (step (shortSetup 1000)))
      (initial (shortSetup 1000) 0) heardSeek).any fun s =>
        s.join = .started ∧ s.lines = [] ∧ s.audio.scheduledRoomAction = none ∧
          s.lastLine.any fun line => line.outstandingSeek = none ∧
            line.room.state.streamId = 2 := by
    decide +kernel
  obtain ⟨s, hs, hheld⟩ := (Option.any_eq_true _ _).mp hheld
  obtain ⟨hstarted, hlines, hscheduled, hany⟩ := of_decide_eq_true hheld
  obtain ⟨line, hline, hstream⟩ := (Option.any_eq_true _ _).mp hany
  obtain ⟨hnone, hstream⟩ := of_decide_eq_true hstream
  have hagrees := phone_agrees (by decide) (run_heard_of_prompt hs) hstarted hlines hscheduled hline
  refine ⟨s, line, hline, hstream, ?_⟩
  rw [hagrees.1 hnone, hstream]

/-- The line that hides the SEEK names its stream, and the phone goes on waiting for
the former one. -/
theorem hidden_seek_not_followed : ∃ (s : PhoneSystem) (line : StateLine),
    run (step (shortSetup 1000)) (initial (shortSetup 1000) 0) hiddenSeek = some s ∧
      s.join = .started ∧ s.lines = [] ∧ s.audio.scheduledRoomAction = none ∧
        s.lastLine = some line ∧ line.outstandingSeek = none ∧
          (∀ action ∈ announcement line.room.state,
            action.effectiveHostNanoseconds ≤ s.host.now) ∧
          line.room.state.streamId = 2 ∧ s.expectedStreamID = some 1 := by
  have hheld : (run (step (shortSetup 1000)) (initial (shortSetup 1000) 0) hiddenSeek).any fun s =>
      s.join = .started ∧ s.lines = [] ∧ s.audio.scheduledRoomAction = none ∧
        s.expectedStreamID = some 1 ∧ s.lastLine.any fun line =>
          line.outstandingSeek = none ∧ (∀ action ∈ announcement line.room.state,
            action.effectiveHostNanoseconds ≤ s.host.now) ∧ line.room.state.streamId = 2 := by
    decide +kernel
  obtain ⟨s, hs, hheld⟩ := (Option.any_eq_true _ _).mp hheld
  obtain ⟨hstarted, hlines, hscheduled, hexpected, hany⟩ := of_decide_eq_true hheld
  obtain ⟨line, hline, hstream⟩ := (Option.any_eq_true _ _).mp hany
  obtain ⟨hnone, hpassed, hstream⟩ := of_decide_eq_true hstream
  exact ⟨s, line, hs, hstarted, hlines, hscheduled, hline, hnone, hpassed, hstream, hexpected⟩

end PhoneSystem

end SyncAudio
