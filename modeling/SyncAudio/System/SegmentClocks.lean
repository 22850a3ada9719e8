import SyncAudio.Desktop.RunHost
import SyncAudio.Lib.Checked

/-!
# The clocks of a segment

The local player and the network host each start a clock of their own for a
segment. The player counts from the beginning of the file and moves its start
back by the duration of the first frame; the network host counts from the first
frame. Both round up. The two timelines are one nanosecond apart at most, in
every segment of a session.

## Implementation notes

The session is the one of `runHost`, with the clock of the local player beside
it. A player that cannot start ends the session.
-/

namespace SyncAudio

open LabelledRun Checked
open DesktopNetworkHost (Segment)

/-- The constructor. -/
def PlaybackClock.make (sampleRate : UInt32) (startTime : Int) : Except String PlaybackClock :=
  if hrate : sampleRate = 0 then .error "PlaybackClock sample rate must be non-zero"
  else .ok {
    sampleRate := sampleRate.toNat
    startTime
    sampleRate_pos := Nat.pos_of_ne_zero fun hzero => hrate (UInt32.toNat_inj.mp hzero)
    sampleRate_lt := sampleRate.toNat_lt }

/-- The clock `playFrom` leaves behind. -/
def DesktopAudioPlayer.playFrom (sampleRate : UInt32) (frame : UInt64) (startTime : Int) :
    Except String PlaybackClock := do
  let zeroClock ← PlaybackClock.make sampleRate 0
  let frameOffset ← zeroClock.frameToTimestamp frame.toNat
  PlaybackClock.make sampleRate (startTime - frameOffset)

/-- The time the local player gives to a frame. -/
def DesktopAudioPlayer.expectedPlaybackTimestamp (sampleRate : UInt32) (startTime : Int)
    (first frame : UInt64) : Except String Int := do
  let clock ← playFrom sampleRate first startTime
  clock.frameToTimestamp frame.toNat

/-- The time `streamFile` puts on a packet that starts at a frame; the latency is
in nanoseconds. -/
def DesktopNetworkHost.presentationTimestamp (sampleRate : UInt32) (startTime hostOutputLatency : Int)
    (first frame : UInt64) : Except String Int := do
  let clock ← PlaybackClock.make sampleRate (startTime + hostOutputLatency)
  clock.frameToTimestamp (frame - first).toNat

namespace PlaybackClock

variable {clock : PlaybackClock} {sampleRate : UInt32} {startTime : Int}

theorem make_ok (h : make sampleRate startTime = .ok clock) :
    clock.sampleRate = sampleRate.toNat ∧ clock.startTime = startTime := by
  unfold make at h
  split_ifs at h
  obtain rfl := Except.ok.inj h
  exact ⟨rfl, rfl⟩

/-- The duration of a frame at a rate, whatever clock it belongs to. -/
theorem frameNanoseconds_eq (clock : PlaybackClock) (frame : Nat) :
    clock.frameNanoseconds frame = rescaleUp clock.sampleRate nanosecondsPerSecond frame :=
  rfl

end PlaybackClock

section Segments

variable {sampleRate : UInt32} {startTime hostOutputLatency : Int} {first frame : UInt64}

/-- The player moves its start back by the duration of the first frame. -/
theorem playFrom_ok {clock : PlaybackClock}
    (h : DesktopAudioPlayer.playFrom sampleRate first startTime = .ok clock) :
    clock.sampleRate = sampleRate.toNat ∧
      clock.startTime = startTime - clock.frameNanoseconds first.toNat := by
  obtain ⟨zeroClock, hzero, h⟩ := except_bind_ok h
  obtain ⟨frameOffset, hoffset, h⟩ := except_bind_ok h
  obtain ⟨hrate, hstart⟩ := PlaybackClock.make_ok h
  obtain ⟨hzerorate, hzerostart⟩ := PlaybackClock.make_ok hzero
  obtain ⟨hduration, -⟩ := PlaybackClock.frameToTimestamp_eq hoffset
  constructor
  · exact hrate
  · rw [hstart, hduration, hzerostart, zero_add, PlaybackClock.frameNanoseconds_eq,
      PlaybackClock.frameNanoseconds_eq, hzerorate, hrate]

/-- Two clocks of one rate, one of which counts from a later frame: the later
frames are due at the same time, or one nanosecond later on the second clock. -/
theorem due_near {player network : PlaybackClock} {first frame : Nat} {due presentation : Int}
    (hrate : player.sampleRate = network.sampleRate)
    (hstart : player.startTime = startTime - player.frameNanoseconds first)
    (hfirst : first ≤ frame) (hdue : player.frameToTimestamp frame = .ok due)
    (hpresentation : presentation =
      startTime + hostOutputLatency + network.frameNanoseconds (frame - first)) :
    |due - (presentation - hostOutputLatency)| ≤ 1 ∧
      (frame = first → due = startTime ∧ presentation - hostOutputLatency = startTime) := by
  obtain ⟨hvalue, -⟩ := PlaybackClock.frameToTimestamp_eq hdue
  have hsum : first + (frame - first) = frame := Nat.add_sub_cancel' hfirst
  have hle := rescaleUp_add_le (b := PlaybackClock.nanosecondsPerSecond) (m := first)
    (n := frame - first) player.sampleRate_pos
  have hge := rescaleUp_add_rescaleUp_le (b := PlaybackClock.nanosecondsPerSecond) (m := first)
    (n := frame - first) player.sampleRate_pos
  rw [hsum] at hle hge
  rw [PlaybackClock.frameNanoseconds_eq] at hvalue hstart hpresentation
  rw [← hrate] at hpresentation
  constructor
  · rw [abs_le]
    omega
  · rintro rfl
    have hzero : rescaleUp player.sampleRate PlaybackClock.nanosecondsPerSecond (frame - frame) = 0 := by
      rw [Nat.sub_self]
      exact player.frameNanoseconds_zero
    rw [hzero] at hpresentation
    omega

/-- In one segment, at every rate, for every start and from every first frame. -/
theorem segment_near {due presentation : Int} (hfirst : first ≤ frame)
    (hdue : DesktopAudioPlayer.expectedPlaybackTimestamp sampleRate startTime first frame = .ok due)
    (hpresentation : DesktopNetworkHost.presentationTimestamp sampleRate startTime
      hostOutputLatency first frame = .ok presentation) :
    |due - (presentation - hostOutputLatency)| ≤ 1 ∧
      (frame = first → due = startTime ∧ presentation - hostOutputLatency = startTime) := by
  obtain ⟨player, hplayer, hdue⟩ := except_bind_ok hdue
  obtain ⟨network, hnetwork, hpresentation⟩ := except_bind_ok hpresentation
  obtain ⟨hrate, hstart⟩ := playFrom_ok hplayer
  obtain ⟨hnetworkrate, hnetworkstart⟩ := PlaybackClock.make_ok hnetwork
  obtain ⟨hvalue, -⟩ := PlaybackClock.frameToTimestamp_eq hpresentation
  rw [hnetworkstart, UInt64.toNat_sub_of_le _ _ hfirst] at hvalue
  obtain ⟨hnear, hequal⟩ := due_near (hrate.trans hnetworkrate.symm) hstart
    (UInt64.le_iff_toNat_le.mp hfirst) hdue hvalue
  exact ⟨hnear, fun h => hequal (congrArg UInt64.toNat h)⟩

end Segments

/-- The host thread works with the clock its player was started with. -/
def HostPc.playing : HostPc → Bool
  | startPlaying | setPlaying | openSegment => true
  | head .. | sending .. | progress .. => true
  | _ => false

/-- The session, with the clock of the local player. -/
structure PlayedSession where
  session : HostSystem
  playbackClock : Option PlaybackClock := none

namespace PlayedSession

open HostSystem

variable {setup : HostSetup} {s t : HostSystem} {input : HostInput}

def initial (setup : HostSetup) (now : Int) : PlayedSession where
  session := HostSystem.initial setup now

/-- `playFrom` sets the clock, and fails if there is none. -/
def startClock (setup : HostSetup) (s : HostSystem) (input : HostInput) :
    Option (Option PlaybackClock) :=
  if input.playbackFails then some none
  else
    match DesktopAudioPlayer.playFrom setup.source.sampleRate s.host.frame s.host.segmentStart with
    | .error _ => none
    | .ok clock => some (some clock)

def step (setup : HostSetup) : Step PlayedSession Event
  | played, event => do
      let session ← HostSystem.step setup played.session event
      match event, played.session.host.pc with
      | .host input, .playFrom => do
          let playbackClock ← startClock setup played.session input
          some { session, playbackClock }
      | _, _ => some { played with session }

/-- The clock belongs to the segment that is played. -/
def Clocked (setup : HostSetup) (played : PlayedSession) : Prop :=
  played.session.host.pc.playing = true → ∃ clock,
    played.playbackClock = some clock ∧
      DesktopAudioPlayer.playFrom setup.source.sampleRate played.session.host.frame
        played.session.host.segmentStart = .ok clock

theorem takeStep_playing {pc : ScheduledRoomAction → HostThread} {empty : HostPc}
    (hpc : ∀ action, (pc action).pc.playing = false) (hempty : empty.playing = false) :
    (s.takeStep pc empty).host.pc.playing = false := by
  unfold takeStep Room.takeAction
  cases s.room.state.pendingAction with
  | none => exact hempty
  | some action => exact hpc action

theorem installStep_playing {command : ScheduledRoomAction} {pc : HostPc}
    (hpc : pc.playing = false) : (s.installStep command pc).host.pc.playing = false := by
  unfold installStep Room.setStreamId
  split_ifs
  · rfl
  · exact hpc

theorem branchStep_playing (command : ScheduledRoomAction) :
    (s.branchStep command).host.pc.playing = false := by
  unfold branchStep
  cases command.action with
  | play => rfl
  | pause => rfl
  | seek => exact installStep_playing rfl
  | stop => rfl

theorem pausedStep_playing (hpc : s.host.pc = .paused) :
    s.pausedStep.host.pc.playing = false := by
  unfold pausedStep
  split
  · rfl
  · rfl
  · rfl
  · rw [hpc]
    rfl
  · rw [hpc]
    rfl

/-- The segment is opened where the player was started. -/
theorem openSegment_host : (s.openSegment setup input).host.frame = s.host.frame ∧
    (s.openSegment setup input).host.segmentStart = s.host.segmentStart := by
  unfold HostSystem.openSegment
  split
  · exact ⟨rfl, rfl⟩
  · split
    · exact ⟨rfl, rfl⟩
    · exact ⟨rfl, rfl⟩

/-- The loop of `streamFile` is left, or goes on in the same segment. -/
theorem headStep_playing {host : DesktopNetworkHost} {segment : Segment}
    (ht : (s.headStep host segment input).host.pc.playing = true) :
    (s.headStep host segment input).host.frame = s.host.frame ∧
      (s.headStep host segment input).host.segmentStart = s.host.segmentStart := by
  unfold headStep at ht ⊢
  cases hturn : host.turn segment input.outputRouteChanged s.room.state.pendingAction with
  | error message => exact ⟨rfl, rfl⟩
  | ok turn =>
      rw [hturn] at ht
      cases turn with
      | endedForCommand => cases ht
      | send presentationTimestamp requested => exact ⟨rfl, rfl⟩

theorem sendStep_playing {host : DesktopNetworkHost} {segment : Segment}
    {presentationTimestamp : Int} {requested : Nat}
    (h : s.sendStep setup host segment presentationTimestamp requested input = some t)
    (ht : t.host.pc.playing = true) :
    t.host.frame = s.host.frame ∧ t.host.segmentStart = s.host.segmentStart := by
  unfold sendStep at h
  cases hsend : DesktopNetworkHost.sendPacket setup.source segment presentationTimestamp requested
      input.ready with
  | error message =>
      rw [hsend] at h
      cases h
      exact ⟨rfl, rfl⟩
  | ok sent =>
      rw [hsend] at h
      cases sent with
      | none =>
          cases h
          cases ht
      | some sent =>
          dsimp only at h
          split_ifs at h
          cases h
          exact ⟨rfl, rfl⟩

/-- A step of the host that arrives in a segment comes from it, or starts the player. -/
theorem hostStep_playing (h : s.hostStep setup input = some t) (ht : t.host.pc.playing = true) :
    (s.host.pc.playing = true ∨ s.host.pc = .playFrom ∧ input.playbackFails = false) ∧
      t.host.frame = s.host.frame ∧ t.host.segmentStart = s.host.segmentStart := by
  unfold hostStep at h
  cases hpc : s.host.pc <;> rw [hpc] at h <;> dsimp only at h
  case playFrom =>
      cases h
      cases hfails : input.playbackFails with
      | false => exact ⟨.inr ⟨rfl, rfl⟩, rfl, rfl⟩
      | true =>
          rw [hfails] at ht
          cases ht
  case startPlaying => cases h; exact ⟨.inl rfl, rfl, rfl⟩
  case setPlaying => cases h; exact ⟨.inl rfl, rfl, rfl⟩
  case openSegment => cases h; exact ⟨.inl rfl, openSegment_host⟩
  case head host segment => cases h; exact ⟨.inl rfl, headStep_playing ht⟩
  case sending host segment presentationTimestamp requested =>
      exact ⟨.inl rfl, sendStep_playing h ht⟩
  case progress host segment => cases h; exact ⟨.inl rfl, rfl, rfl⟩
  case takeCommand =>
      cases h
      exact absurd ht (Bool.eq_false_iff.mp (takeStep_playing (fun _ => rfl) rfl))
  case takePlay =>
      cases h
      exact absurd ht (Bool.eq_false_iff.mp (takeStep_playing (fun _ => rfl) rfl))
  case takeSeek =>
      cases h
      exact absurd ht (Bool.eq_false_iff.mp (takeStep_playing (fun _ => rfl) rfl))
  case takeStop =>
      cases h
      exact absurd ht (Bool.eq_false_iff.mp (takeStep_playing (fun _ => rfl) rfl))
  case branch command => cases h; exact absurd ht (Bool.eq_false_iff.mp (branchStep_playing command))
  case installSeek next => cases h; exact absurd ht (Bool.eq_false_iff.mp (installStep_playing rfl))
  case paused => cases h; exact absurd ht (Bool.eq_false_iff.mp (pausedStep_playing hpc))
  case waitCutoff command => split_ifs at h; cases h; cases ht
  case waitSeek next => split_ifs at h; cases h; cases ht
  case waitStop next => split_ifs at h; cases h; cases ht
  all_goals cases h
  all_goals cases ht

/-- No connection moves the host, except that a refused command ends the session. -/
theorem step_host {event : Event} (h : HostSystem.step setup s event = some t)
    (hevent : ∀ input, event ≠ .host input) (ht : t.host.pc.playing = true) : t.host = s.host := by
  cases event with
  | tick later =>
      simp only [HostSystem.step] at h
      split_ifs at h
      cases h
      rfl
  | host input => exact absurd rfl (hevent input)
  | check connection peerAddress line =>
      simp only [HostSystem.step] at h
      cases hphase : s.connections connection <;> rw [hphase] at h <;> dsimp only at h
      case idle =>
          split_ifs at h
          cases hcheck : ControlServer.checkCommand s.control.totalFrames s.room.state peerAddress
              line <;> rw [hcheck] at h <;> cases h
          · rfl
          · rfl
      case checked command => cases h
      case stamped command effective => cases h
  | readClock connection =>
      simp only [HostSystem.step] at h
      cases hphase : s.connections connection <;> rw [hphase] at h <;> cases h
      rfl
  | commit connection =>
      simp only [HostSystem.step] at h
      cases hphase : s.connections connection <;> rw [hphase] at h <;> cases h
      rename_i command effective
      rcases s.commitStep_cases connection command effective with
        ⟨message, heq⟩ | ⟨-, heq⟩ | ⟨-, -, room, -, -, -, -, heq⟩ <;> rw [heq] at ht ⊢
      · cases ht
      · rfl
      · rfl

variable {played next : PlayedSession}

/-- The clock is set where the host starts its player, and nowhere else. -/
theorem step_cases {event : Event} (h : step setup played event = some next) :
    HostSystem.step setup played.session event = some next.session ∧
      ((∃ input, event = .host input ∧ played.session.host.pc = .playFrom ∧
          startClock setup played.session input = some next.playbackClock) ∨
        (∀ input, event = .host input → played.session.host.pc ≠ .playFrom) ∧
          next.playbackClock = played.playbackClock) := by
  obtain ⟨session, hsession, h⟩ := Option.bind_eq_some_iff.mp h
  split at h
  · rename_i input hpc _
    obtain ⟨playbackClock, hclock, h⟩ := Option.bind_eq_some_iff.mp h
    cases h
    exact ⟨hsession, .inl ⟨input, rfl, hpc, hclock⟩⟩
  · rename_i hother
    cases h
    exact ⟨hsession, .inr ⟨fun input hevent hpc => hother input hevent hpc, rfl⟩⟩

/-- The clock of a player that starts is the one of the segment about to be played. -/
theorem startClock_ok {playbackClock : Option PlaybackClock}
    (h : startClock setup s input = some playbackClock) (hplays : input.playbackFails = false) :
    ∃ clock, playbackClock = some clock ∧
      DesktopAudioPlayer.playFrom setup.source.sampleRate s.host.frame s.host.segmentStart =
        .ok clock := by
  unfold startClock at h
  rw [hplays, if_neg Bool.false_ne_true] at h
  cases hclock : DesktopAudioPlayer.playFrom setup.source.sampleRate s.host.frame
      s.host.segmentStart with
  | error message =>
      rw [hclock] at h
      cases h
  | ok clock =>
      rw [hclock] at h
      cases h
      exact ⟨clock, rfl, rfl⟩

/-- Every step keeps the clock of the segment that is played. -/
theorem clocked_step {event : Event} (hs : Clocked setup played)
    (h : step setup played event = some next) : Clocked setup next := by
  intro hplaying
  obtain ⟨hstep, hclock⟩ := step_cases h
  by_cases hhost : ∃ input, event = .host input
  · obtain ⟨input, rfl⟩ := hhost
    obtain ⟨hfrom, hframe, hstart⟩ := hostStep_playing hstep hplaying
    rw [hframe, hstart]
    rcases hclock with ⟨started, hevent, hpc, hstarted⟩ | ⟨hother, hkept⟩
    · cases hevent
      rcases hfrom with hbefore | ⟨-, hplays⟩
      · rw [hpc] at hbefore
        cases hbefore
      · exact startClock_ok hstarted hplays
    · rcases hfrom with hbefore | ⟨hpc, -⟩
      · rw [hkept]
        exact hs hbefore
      · exact absurd hpc (hother input rfl)
  · have hevent : ∀ input, event ≠ .host input := fun input heq => hhost ⟨input, heq⟩
    have hsame := step_host hstep hevent hplaying
    rcases hclock with ⟨started, heq, -, -⟩ | ⟨-, hkept⟩
    · exact absurd heq (hevent started)
    · rw [hkept, hsame]
      rw [hsame] at hplaying
      exact hs hplaying

/-- A run of the session with the clock is a run of the session. -/
theorem invariant_playedStep {event : Event}
    (hs : Invariant setup played.session ∧ Clocked setup played)
    (h : step setup played event = some next) :
    Invariant setup next.session ∧ Clocked setup next :=
  ⟨invariant_step hs.1 (step_cases h).1, clocked_step hs.2 h⟩

theorem clocked_run {events : List Event} {now : Int}
    (h : run (step setup) (initial setup now) events = some played) :
    Invariant setup played.session ∧ Clocked setup played := by
  have hinitial : Clocked setup (initial setup now) := fun hplaying => by cases hplaying
  exact run_preserves (fun hs hstep => invariant_playedStep hs hstep)
    ⟨invariant_initial setup now, hinitial⟩ h

/-- The timelines of the local player and of the network agree to one nanosecond,
and exactly at the first frame of a segment: for every rate, start, first frame
and latency, and so for every packet of every session, behind any number of
commands. -/
theorem timelines_agree :
    (∀ (sampleRate : UInt32) (startTime hostOutputLatency : Int) (first frame : UInt64)
      (due presentation : Int), first ≤ frame →
      DesktopAudioPlayer.expectedPlaybackTimestamp sampleRate startTime first frame = .ok due →
      DesktopNetworkHost.presentationTimestamp sampleRate startTime hostOutputLatency first frame =
        .ok presentation →
      |due - (presentation - hostOutputLatency)| ≤ 1 ∧
        (frame = first → due = startTime ∧ presentation - hostOutputLatency = startTime)) ∧
    (∀ (setup : HostSetup) (now : Int) (events : List Event) (played : PlayedSession)
      (host : DesktopNetworkHost) (segment : Segment) (presentation : Int) (requested : Nat),
      run (step setup) (initial setup now) events = some played →
      played.session.host.pc = .sending host segment presentation requested →
      ∃ clock, played.playbackClock = some clock ∧
        ∀ due, clock.frameToTimestamp segment.startFrame = .ok due →
          |due - (presentation - setup.hostOutputLatency * millisecond)| ≤ 1 ∧
            (segment.startFrame = segment.initialFrame →
              due = played.session.host.segmentStart ∧
                presentation - setup.hostOutputLatency * millisecond =
                  played.session.host.segmentStart)) := by
  constructor
  · intro sampleRate startTime hostOutputLatency first frame due presentation hfirst hdue hpresentation
    exact segment_near hfirst hdue hpresentation
  · intro setup now events played host segment presentation requested h hpc
    obtain ⟨hinvariant, hclocked⟩ := clocked_run h
    obtain ⟨clock, hclock, hplayer⟩ := hclocked (by rw [hpc]; rfl)
    refine ⟨clock, hclock, fun due hdue => ?_⟩
    have hstreaming : Streaming setup played.session host segment :=
      hinvariant.streaming (host, segment) (by rw [hpc]; rfl)
    obtain ⟨-, hvalue, -⟩ := hinvariant.sending hpc
    rw [hstreaming.startTime_eq, hstreaming.initialFrame_eq] at hvalue
    obtain ⟨hrate, hstart⟩ := playFrom_ok hplayer
    have hnetwork : segment.clock.sampleRate = setup.source.sampleRate.toNat :=
      hstreaming.wf.sampleRate_eq
    have hle : played.session.host.frame.toNat ≤ segment.startFrame := by
      rw [← hstreaming.initialFrame_eq]
      exact hstreaming.wf.initialFrame_le
    rw [hstreaming.initialFrame_eq]
    exact due_near (hrate.trans hnetwork.symm) hstart hle hdue hvalue

/-- A SEEK to the second frame, up to its packet. -/
def secondFrame : List Event :=
  hostSteps 5 ++ sendLine "SEEK 1" ++ hostSteps 4 ++ [.tick 500000000] ++ hostSteps 12

/-- The second of two frames: with the output 20 ms late, and in a session in which a SEEK leads
to it and the output is a second late. -/
theorem timelines_agree_second :
    (∃ due presentation : Int,
      DesktopAudioPlayer.expectedPlaybackTimestamp 8000 1000000 1 2 = .ok due ∧
      DesktopNetworkHost.presentationTimestamp 8000 1000000 20000000 1 2 = .ok presentation ∧
      |due - (presentation - 20000000)| ≤ 1) ∧
    ∃ (played : PlayedSession) (host : DesktopNetworkHost) (segment : Segment) (presentation : Int)
      (requested : Nat) (clock : PlaybackClock) (due : Int),
      run (step (shortSetup 1000)) (initial (shortSetup 1000) 0) secondFrame = some played ∧
      played.session.host.pc = .sending host segment presentation requested ∧
      segment.startFrame = 1 ∧ played.playbackClock = some clock ∧
      clock.frameToTimestamp 1 = .ok due ∧ due = played.session.host.segmentStart ∧
      presentation - 1000 * millisecond = played.session.host.segmentStart := by
  constructor
  · have hdue : DesktopAudioPlayer.expectedPlaybackTimestamp 8000 1000000 1 2 = .ok 1125000 := by
      decide
    have hpresentation : DesktopNetworkHost.presentationTimestamp 8000 1000000 20000000 1 2 =
        .ok 21125000 := by decide
    exact ⟨_, _, hdue, hpresentation, (timelines_agree.1 8000 1000000 20000000 1 2 1125000 21125000
      (by decide) hdue hpresentation).1⟩
  · have hheld : (run (step (shortSetup 1000)) (initial (shortSetup 1000) 0) secondFrame).any
        fun played => played.session.host.pc.sendingSegment.any fun segment =>
          segment.startFrame = 1 ∧ segment.initialFrame = 1 ∧
            played.playbackClock.any fun clock => clock.frameToTimestamp 1 = .ok 2000000000 := by
      decide +kernel
    obtain ⟨played, hs, hheld⟩ := (Option.any_eq_true _ _).mp hheld
    cases hpc : played.session.host.pc <;> rw [hpc] at hheld <;> try cases hheld
    case sending host segment presentation requested =>
      obtain ⟨hstart, hinitial, hany⟩ := of_decide_eq_true hheld
      obtain ⟨clock, hclock, hany⟩ := (Option.any_eq_true _ _).mp hany
      have hdue : clock.frameToTimestamp 1 = .ok 2000000000 := of_decide_eq_true hany
      obtain ⟨other, hother, hnear⟩ := timelines_agree.2 (shortSetup 1000) 0 secondFrame played host
        segment presentation requested hs hpc
      obtain rfl := Option.some.inj (hother.symm.trans hclock)
      obtain ⟨-, hequal⟩ := hnear 2000000000 (by rw [hstart]; exact hdue)
      obtain ⟨hlocal, hnetwork⟩ := hequal (hstart.trans hinitial.symm)
      exact ⟨played, host, segment, presentation, requested, other, _, hs, hpc, hstart, hclock, hdue,
        hlocal, hnetwork⟩

end PlayedSession

end SyncAudio
