import SyncAudio.Desktop.RoomJoinClient
import SyncAudio.Lib.LabelledRun

/-!
# The loop of the room client

`runRoomClient` looks at the state of the room every 50 ms and starts a run of the audio
client when the room plays and is new to it: another stream, or a stream after a pause.
It does not look while a run is in progress. Meanwhile the room is polled.

## Implementation notes

What a run receives is left out; it ends by itself or with an exception. A poll takes over
what the host answers, or ends the polls. `host` is what the host would answer, and
`playbackStates` and `ended` record what it played during a run and how the run ended.
-/

namespace SyncAudio

open Text LabelledRun

/-- `DesktopAudioClientConfig`, as far as the room client sets it. -/
structure RoomRunConfig where
  audioPort : UInt16
  clockSyncPort : UInt16
  expectedSessionId : UInt64
  expectedStreamId : UInt32
  outputLatencyAdjustment : Int
  deriving DecidableEq

/-- Where the thread of the room client is. -/
inductive RoomClientPhase where
  /-- In the constructor of `RoomJoinClient`, or in the pause before it. -/
  | connecting
  | watching
  | running (config : RoomRunConfig)
  deriving DecidableEq

/-- How a run ended, and what the host has played in the meantime. -/
structure RunEnd where
  streamId : UInt32
  failed : Bool
  playbackStates : List Text

structure RoomClient where
  phase : RoomClientPhase := .connecting
  room : JoinedRoomState := {}
  lastStream : UInt32 := 0
  observedInactive : Bool := true
  host : Text × UInt32 := ("STOPPED".toList, 0)
  playbackStates : List Text := []
  ended : Option RunEnd := none

namespace RoomClient

def playing : Text := "PLAYING".toList

inductive Event where
  | hostChanges (playbackState : Text) (streamId : UInt32)
  | joins (room : JoinedRoomState)
  | polls
  | pollFails
  | looks
  | finishes (failed : Bool)

/-- The configuration of a run. -/
def config (adjustment : Int) (state : JoinedRoomState) : RoomRunConfig where
  audioPort := state.audioPort
  clockSyncPort := state.clockPort
  expectedSessionId := state.sessionId
  expectedStreamId := state.streamId
  outputLatencyAdjustment := adjustment

/-- One pass of the inner loop, up to the start of a run. -/
def look (adjustment : Int) (s : RoomClient) : RoomClient :=
  let state := s.room
  if state.connected then
    let observedInactive := s.observedInactive || state.playbackState ≠ playing
    if state.playbackState = playing ∧ (observedInactive ∨ state.streamId ≠ s.lastStream) then
      { s with
        phase := .running (config adjustment state)
        lastStream := state.streamId
        observedInactive := false
        playbackStates := [s.host.1]
        ended := none }
    else { s with observedInactive, ended := none }
  else { s with phase := .connecting, ended := none }

def step (adjustment : Int) (s : RoomClient) : Event → Option RoomClient
  | .hostChanges playbackState streamId =>
      some { s with
        host := (playbackState, streamId)
        playbackStates := s.playbackStates ++ [playbackState] }
  | .joins room =>
      match s.phase with
      | .connecting =>
          some { s with
            phase := .watching
            room := { room with connected := true }
            lastStream := 0
            observedInactive := true }
      | _ => none
  | .polls =>
      if s.room.connected then
        some { s with room := { s.room with playbackState := s.host.1, streamId := s.host.2 } }
      else none
  | .pollFails => some { s with room := { s.room with connected := false } }
  | .looks =>
      match s.phase with
      | .watching => some (s.look adjustment)
      | _ => none
  | .finishes failed =>
      match s.phase with
      | .running config =>
          some { s with
            phase := .watching
            ended := some {
              streamId := config.expectedStreamId
              failed
              playbackStates := s.playbackStates } }
      | _ => none

/-- The host has gone through a pause and back to playing. -/
def Resumed (playbackStates : List Text) : Prop :=
  ∃ paused, paused ≠ playing ∧ [playing, paused, playing].Sublist playbackStates

/-- A run that ended so should be followed by another one. -/
def Due (ended : RunEnd) : Prop := ended.failed = true ∨ Resumed ended.playbackStates

/-- The look after a run finds the room playing, and the run should be followed by another. -/
def LooksAgain (s : RoomClient) (ended : RunEnd) : Prop :=
  s.ended = some ended ∧ Due ended ∧ s.room.connected = true ∧ s.room.playbackState = playing

/-- The look after such a run starts another run. -/
def Restarts (adjustment : Int) (s : RoomClient) : Prop :=
  ∀ ended, s.LooksAgain ended → ∃ config, (s.look adjustment).phase = .running config

/-- The look after such a run finds another stream. -/
def Rotated (s : RoomClient) : Prop :=
  ∀ ended, s.LooksAgain ended → s.room.streamId ≠ ended.streamId

/-- What the variables of the loop say about the last run. -/
structure Remembers (s : RoomClient) : Prop where
  running : ∀ config, s.phase = .running config →
    s.observedInactive = false ∧ s.lastStream = config.expectedStreamId ∧ s.ended = none
  ended : ∀ ended ∈ s.ended,
    s.phase = .watching ∧ s.observedInactive = false ∧ s.lastStream = ended.streamId

variable {adjustment : Int} {s t : RoomClient} {event : Event}

/-- A poll takes over nothing but the playback and the stream. -/
theorem updateState_fields {state later : JoinedRoomState} {line : Text}
    (h : RoomJoinClient.updateState state line = .ok later) :
    later = { state with playbackState := later.playbackState, streamId := later.streamId } := by
  unfold RoomJoinClient.updateState at h
  cases hextract : RoomJoinClient.extractState line with
  | none =>
      rw [hextract] at h
      cases h
  | some fields =>
      obtain ⟨keyword, playback, session, input⟩ := fields
      rw [hextract] at h
      dsimp only at h
      split_ifs at h
      · cases hstream : RoomJoinClient.readStream state.streamId input with
        | error message =>
            rw [hstream] at h
            cases h
        | ok stream =>
            rw [hstream] at h
            cases h
            rfl

theorem step_joins {room : JoinedRoomState} (h : step adjustment s (.joins room) = some t) :
    s.phase = .connecting ∧ t = { s with
      phase := .watching
      room := { room with connected := true }
      lastStream := 0
      observedInactive := true } := by
  unfold step at h
  cases hphase : s.phase with
  | connecting =>
      rw [hphase] at h
      exact ⟨rfl, (Option.some.inj h).symm⟩
  | watching =>
      rw [hphase] at h
      cases h
  | running config =>
      rw [hphase] at h
      cases h

theorem step_looks (h : step adjustment s .looks = some t) :
    s.phase = .watching ∧ t = s.look adjustment := by
  unfold step at h
  cases hphase : s.phase with
  | connecting =>
      rw [hphase] at h
      cases h
  | watching =>
      rw [hphase] at h
      exact ⟨rfl, (Option.some.inj h).symm⟩
  | running config =>
      rw [hphase] at h
      cases h

theorem step_finishes {failed : Bool} (h : step adjustment s (.finishes failed) = some t) :
    ∃ config, s.phase = .running config ∧ t = { s with
      phase := .watching
      ended := some {
        streamId := config.expectedStreamId
        failed
        playbackStates := s.playbackStates } } := by
  unfold step at h
  cases hphase : s.phase with
  | connecting =>
      rw [hphase] at h
      cases h
  | watching =>
      rw [hphase] at h
      cases h
  | running config =>
      rw [hphase] at h
      exact ⟨config, rfl, (Option.some.inj h).symm⟩

theorem step_polls (h : step adjustment s .polls = some t) :
    s.room.connected = true ∧
      t = { s with room := { s.room with playbackState := s.host.1, streamId := s.host.2 } } := by
  unfold step at h
  split_ifs at h with hconnected
  exact ⟨hconnected, (Option.some.inj h).symm⟩

theorem remembers_initial : ({} : RoomClient).Remembers where
  running := by
    intro config h
    cases h
  ended := fun _ h => absurd h (Option.not_mem_none _)

theorem remembers_look (hphase : s.phase = .watching) :
    (s.look adjustment).Remembers := by
  have hquiet : ∀ config, s.phase ≠ .running config := by
    intro config hrunning
    rw [hphase] at hrunning
    cases hrunning
  unfold RoomClient.look
  dsimp only
  split_ifs
  · constructor
    · rintro started ⟨⟩
      exact ⟨rfl, rfl, rfl⟩
    · exact fun _ hnone => absurd hnone (Option.not_mem_none _)
  · constructor
    · exact fun config hrunning => absurd hrunning (hquiet config)
    · exact fun _ hnone => absurd hnone (Option.not_mem_none _)
  · constructor
    · intro config hrunning
      cases hrunning
    · exact fun _ hnone => absurd hnone (Option.not_mem_none _)

theorem Remembers.step (h : s.Remembers) (hstep : step adjustment s event = some t) :
    t.Remembers := by
  cases event with
  | hostChanges playbackState streamId =>
      cases hstep
      exact ⟨h.running, h.ended⟩
  | polls =>
      obtain ⟨-, rfl⟩ := step_polls hstep
      exact ⟨h.running, h.ended⟩
  | pollFails =>
      cases hstep
      exact ⟨h.running, h.ended⟩
  | joins room =>
      obtain ⟨hphase, rfl⟩ := step_joins hstep
      constructor
      · intro config hrunning
        cases hrunning
      · intro ended hended
        have hwatching := (h.ended ended hended).1
        rw [hphase] at hwatching
        cases hwatching
  | looks =>
      obtain ⟨hphase, rfl⟩ := step_looks hstep
      exact remembers_look hphase
  | finishes failed =>
      obtain ⟨config, hphase, rfl⟩ := step_finishes hstep
      obtain ⟨hinactive, hlast, -⟩ := h.running config hphase
      constructor
      · intro other hrunning
        cases hrunning
      · rintro ended ⟨⟩
        exact ⟨rfl, hinactive, hlast⟩

/-- A look at the stream of the last run, which plays on. -/
theorem look_same (hconnected : s.room.connected = true) (hplaying : s.room.playbackState = playing)
    (hinactive : s.observedInactive = false) (hstream : s.room.streamId = s.lastStream) :
    s.look adjustment = { s with ended := none } := by
  have hobserved : (s.observedInactive || decide (s.room.playbackState ≠ playing)) = false := by
    rw [hinactive, hplaying]
    decide
  have hsame : ¬ (s.room.playbackState = playing ∧
      (false = true ∨ s.room.streamId ≠ s.lastStream)) := by
    rintro ⟨-, hfalse | hne⟩
    · exact Bool.false_ne_true hfalse
    · exact hne hstream
  unfold look
  rw [if_pos hconnected, hobserved]
  dsimp only
  rw [if_neg hsame, ← hinactive]

/-- A look at a playing room starts a run exactly if the stream is another one. -/
theorem look_running_iff (hphase : s.phase = .watching) (hconnected : s.room.connected = true)
    (hplaying : s.room.playbackState = playing) (hinactive : s.observedInactive = false) :
    (∃ config, (s.look adjustment).phase = .running config) ↔ s.room.streamId ≠ s.lastStream := by
  by_cases hstream : s.room.streamId = s.lastStream
  · rw [look_same hconnected hplaying hinactive hstream]
    constructor
    · rintro ⟨config, hrunning⟩
      rw [hphase] at hrunning
      cases hrunning
    · exact fun hne => absurd hstream hne
  · unfold look
    rw [if_pos hconnected]
    dsimp only
    rw [if_pos ⟨hplaying, .inr hstream⟩]
    exact ⟨fun _ => hstream, fun _ => ⟨_, rfl⟩⟩

/-- In every state that a run of the room client reaches, a failed run or one over a pause is
followed by another one exactly if the next look finds another stream. -/
theorem restarts_iff (adjustment : Int) (events : List Event) {s : RoomClient}
    (hrun : run (step adjustment) {} events = some s) : s.Restarts adjustment ↔ s.Rotated := by
  have hremembers : s.Remembers :=
    run_preserves (fun h hstep => h.step hstep) remembers_initial hrun
  have hiff : ∀ ended, s.LooksAgain ended →
      ((∃ config, (s.look adjustment).phase = .running config) ↔
        s.room.streamId ≠ ended.streamId) := by
    rintro ended ⟨hended, -, hconnected, hplaying⟩
    obtain ⟨hphase, hinactive, hlast⟩ := hremembers.ended ended hended
    rw [← hlast]
    exact look_running_iff hphase hconnected hplaying hinactive
  constructor
  · intro hrestarts ended hlooks
    exact (hiff ended hlooks).mp (hrestarts ended hlooks)
  · intro hrotated ended hlooks
    exact (hiff ended hlooks).mpr (hrotated ended hlooks)

/-- The room plays the stream of the last run, and the host goes on with it. -/
structure Silent (s : RoomClient) : Prop where
  phase_eq : s.phase = .watching
  connected : s.room.connected = true
  room_eq : s.room.playbackState = playing ∧ s.room.streamId = s.lastStream
  host_eq : s.host = (playing, s.lastStream)
  observedInactive_eq : s.observedInactive = false

theorem Silent.step (h : s.Silent) (hevent : event = .polls ∨ event = .looks)
    (hstep : step adjustment s event = some t) : t.Silent := by
  obtain rfl | rfl := hevent
  · obtain ⟨-, rfl⟩ := step_polls hstep
    exact { h with room_eq := ⟨congrArg Prod.fst h.host_eq, congrArg Prod.snd h.host_eq⟩ }
  · obtain ⟨-, rfl⟩ := step_looks hstep
    rw [look_same h.connected h.room_eq.1 h.observedInactive_eq h.room_eq.2]
    exact { h with }

/-- While the host goes on with the stream of a failed run, no look starts another run. -/
theorem Silent.run (h : s.Silent) {events : List Event}
    (hevents : ∀ event ∈ events, event = .polls ∨ event = .looks)
    (hrun : LabelledRun.run (RoomClient.step adjustment) s events = some t) : t.Silent := by
  induction events generalizing s with
  | nil =>
      cases hrun
      exact h
  | cons event events ih =>
      obtain ⟨m, hm, hrest⟩ := run_cons_some.mp hrun
      exact ih (h.step (hevents event List.mem_cons_self) hm)
        (fun other hmem => hevents other (List.mem_cons_of_mem _ hmem)) hrest

/-- A room that plays its stream 1. -/
def joinedRoom : JoinedRoomState where
  sessionId := 7
  streamId := 1
  audioPort := 40100
  clockPort := 40101
  playbackState := playing

/-- A run fails while the host plays on. -/
def failedRun : List Event :=
  [.joins joinedRoom, .hostChanges playing 1, .polls, .looks, .finishes true, .polls]

/-- The host pauses and resumes during a run, between two polls. -/
def pausedRun : List Event :=
  [.joins joinedRoom, .hostChanges playing 1, .polls, .looks, .hostChanges "PAUSED".toList 1,
    .polls, .hostChanges playing 1, .polls, .finishes false]

/-- A run fails while the host seeks, which gives the stream another number. -/
def rotatedRun : List Event :=
  [.joins joinedRoom, .hostChanges playing 1, .polls, .looks, .hostChanges playing 2,
    .finishes true, .polls]

/-- The state behind some events. -/
def behind (events : List Event) : RoomClient := (run (step 0) {} events).getD {}

theorem not_restarts {ended : RunEnd} (hlooks : s.LooksAgain ended)
    (hwatching : (s.look 0).phase = .watching) : ¬ s.Restarts 0 := by
  intro hrestarts
  obtain ⟨config, hrunning⟩ := hrestarts ended hlooks
  rw [hwatching] at hrunning
  cases hrunning

theorem same_stream_not_restarted :
    (∃ s, run (step 0) {} failedRun = some s ∧ ¬ s.Restarts 0) ∧
      ∃ s, run (step 0) {} pausedRun = some s ∧ ¬ s.Restarts 0 := by
  constructor
  · refine ⟨behind failedRun, rfl, ?_⟩
    exact not_restarts ⟨rfl, .inl rfl, rfl, rfl⟩ (by decide)
  · refine ⟨behind pausedRun, rfl, ?_⟩
    exact not_restarts
      ⟨rfl, .inr ⟨"PAUSED".toList, by decide, List.Sublist.refl _⟩, rfl, rfl⟩ (by decide)

theorem restarts_iff_rotatedRun :
    ∃ s, run (step 0) {} rotatedRun = some s ∧ s.Restarts 0 := by
  refine ⟨behind rotatedRun, rfl, ?_⟩
  apply (restarts_iff 0 rotatedRun rfl).mpr
  rintro ended ⟨hended, -⟩
  cases hended
  decide

end RoomClient

end SyncAudio
