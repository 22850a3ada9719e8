import SyncAudio.Ios.HostControlChannel
import SyncAudio.System.CommandMailbox
import SyncAudio.System.StreamRotation

/-!
# What the host announces

A `HOST_STATE` line names the stream in force and one action, the pending one or
else the recent one. A SEEK in it, pending, taken or installed, carries the
stream the host is heading for.
-/

namespace SyncAudio

open LabelledRun
open HostControlChannel (announcement)

namespace HostPc

/-- The process has died of an exception. -/
def crashed : HostPc → Bool
  | failed _ => true
  | _ => false

end HostPc

namespace HostSystem

/-- The SEEK that is pending, or taken and not yet installed. -/
def outstandingSeek (s : HostSystem) : Option ScheduledRoomAction :=
  (s.room.state.pendingAction.filter fun action => action.action = .seek).or s.host.pc.seeking

/-- The stream that is in force once the outstanding SEEK is installed. -/
def target (s : HostSystem) : UInt32 :=
  match s.outstandingSeek with
  | some seek => seek.nextStreamId
  | none => s.room.state.streamId

/-- A clock reading of 64 bits, with room for the two seconds a command takes. -/
def clockLimit : Int := 2 ^ 63 - 1 - 2000000000

/-- The announced action fits the state of the host. -/
structure Announcing (setup : HostSetup) (s : HostSystem) : Prop where
  target_eq : ∀ action ∈ announcement s.room.state, action.action = .seek →
    action.nextStreamId = s.target
  seeking : ∀ command ∈ s.host.pc.seeking, s.room.state.recentAction = some command
  stamped : ∀ connection command effective, s.connections connection = .stamped command effective →
    effective ≤ s.now + 2000000000
  time : ∀ action ∈ announcement s.room.state,
    0 ≤ action.effectiveHostNanoseconds ∧ action.effectiveHostNanoseconds ≤ s.now + 2000000000
  sessionId_eq : s.control.sessionId = setup.room.state.sessionId

variable {setup : HostSetup} {s t : HostSystem} {input : HostInput}

theorem announcing_initial (setup : HostSetup) (now : Int) :
    Announcing setup (initial setup now) where
  target_eq := by simp [initial, announcement, setup.idle, setup.fresh]
  seeking := by simp [initial, HostPc.seeking]
  stamped := fun _ _ _ h => by cases h
  time := by simp [initial, announcement, setup.idle, setup.fresh]
  sessionId_eq := rfl

theorem outstandingSeek_of_pending {action : ScheduledRoomAction}
    (hpending : s.room.state.pendingAction = some action) (hseek : action.action = .seek) :
    s.outstandingSeek = some action := by
  rw [outstandingSeek, hpending, Option.filter_some, if_pos (decide_eq_true hseek), Option.some_or]

theorem outstandingSeek_of_other
    (hpending : ∀ action ∈ s.room.state.pendingAction, action.action ≠ .seek) :
    s.outstandingSeek = s.host.pc.seeking := by
  unfold outstandingSeek
  cases hcase : s.room.state.pendingAction with
  | none => rfl
  | some action =>
      have := hpending action hcase
      rw [Option.filter_some, if_neg (by simpa using this), Option.none_or]

theorem target_congr (hroom : t.room.state.pendingAction = s.room.state.pendingAction)
    (hstream : t.room.state.streamId = s.room.state.streamId)
    (hseeking : t.host.pc.seeking = s.host.pc.seeking) : t.target = s.target := by
  unfold target outstandingSeek
  rw [hroom, hseeking, hstream]

/-- A step that leaves the mailbox and the seeks alone. -/
theorem Announcing.move (hs : Announcing setup s)
    (hpending : t.room.state.pendingAction = s.room.state.pendingAction)
    (hrecent : t.room.state.recentAction = s.room.state.recentAction)
    (hstream : t.room.state.streamId = s.room.state.streamId)
    (hseeking : t.host.pc.seeking = s.host.pc.seeking) (hconnections : t.connections = s.connections)
    (hnow : t.now = s.now) (hsession : t.control.sessionId = s.control.sessionId) :
    Announcing setup t where
  target_eq := by
    rw [announcement, hpending, hrecent, target_congr hpending hstream hseeking]
    exact hs.target_eq
  seeking := by
    rw [hseeking, hrecent]
    exact hs.seeking
  stamped := by
    rw [hconnections, hnow]
    exact hs.stamped
  time := by
    rw [announcement, hpending, hrecent, hnow]
    exact hs.time
  sessionId_eq := hsession.trans hs.sessionId_eq

/-- The target stays where a pending action is taken: a SEEK is then in flight. -/
theorem target_takeStep {pc : ScheduledRoomAction → HostThread} {empty : HostPc}
    (hidle : s.host.pc.seeking = none) (hempty : empty.seeking = none)
    (hpc : ∀ action ∈ s.room.state.pendingAction,
      (pc action).pc.seeking = if action.action = .seek then some action else none) :
    (s.takeStep pc empty).target = s.target := by
  unfold takeStep Room.takeAction
  cases hpending : s.room.state.pendingAction with
  | none =>
      refine target_congr hpending.symm rfl ?_
      change empty.seeking = s.host.pc.seeking
      rw [hempty, hidle]
  | some action =>
      have hseeking := hpc action hpending
      unfold target outstandingSeek
      dsimp only
      rw [hpending, hseeking, hidle, Option.filter_none, Option.none_or, Option.filter_some,
        Option.or_none]
      by_cases hseek : action.action = .seek
      · rw [if_pos hseek, if_pos (decide_eq_true hseek)]
      · rw [if_neg hseek, if_neg (by simpa using hseek)]

theorem announcement_takeStep (s : HostSystem) (pc : ScheduledRoomAction → HostThread)
    (empty : HostPc) :
    announcement (s.takeStep pc empty).room.state = announcement s.room.state := by
  unfold takeStep Room.takeAction announcement
  cases s.room.state.pendingAction <;> rfl

theorem announcing_takeStep (hs : Announcing setup s) {pc : ScheduledRoomAction → HostThread}
    {empty : HostPc} (hidle : s.host.pc.seeking = none) (hempty : empty.seeking = none)
    (hpc : ∀ action ∈ s.room.state.pendingAction,
      (pc action).pc.seeking = if action.action = .seek then some action else none) :
    Announcing setup (s.takeStep pc empty) where
  target_eq := by
    rw [announcement_takeStep, target_takeStep hidle hempty hpc]
    exact hs.target_eq
  seeking := by
    unfold takeStep Room.takeAction
    cases hpending : s.room.state.pendingAction with
    | none =>
        intro command hcommand
        change command ∈ empty.seeking at hcommand
        rw [hempty] at hcommand
        cases hcommand
    | some action =>
        intro command hcommand
        change command ∈ (pc action).pc.seeking at hcommand
        rw [hpc action hpending] at hcommand
        split_ifs at hcommand
        · rw [← hcommand]
          rfl
        · cases hcommand
  stamped := by
    unfold takeStep Room.takeAction
    cases s.room.state.pendingAction <;> exact hs.stamped
  time := by
    have hnow : (s.takeStep pc empty).now = s.now := by
      unfold takeStep Room.takeAction
      cases s.room.state.pendingAction <;> rfl
    rw [announcement_takeStep, hnow]
    exact hs.time
  sessionId_eq := by
    unfold takeStep Room.takeAction
    cases s.room.state.pendingAction <;> exact hs.sessionId_eq

/-- The target stays where the SEEK in flight is installed. -/
theorem target_installed {command : ScheduledRoomAction}
    (hpending : t.room.state.pendingAction = s.room.state.pendingAction)
    (hstream : t.room.state.streamId = command.nextStreamId)
    (hcommand : s.host.pc.seeking = some command) (hseeking : t.host.pc.seeking = none) :
    t.target = s.target := by
  unfold target outstandingSeek
  rw [hpending, hseeking, hcommand, hstream]
  cases s.room.state.pendingAction.filter fun action => decide (action.action = .seek) with
  | none => rfl
  | some action => rfl

/-- What a connection sees of a step of the host. -/
structure Keeps (setup : HostSetup) (s t : HostSystem) : Prop where
  announcing : Announcing setup t
  target_eq : t.target = s.target
  announcement_eq : announcement t.room.state = announcement s.room.state
  now_eq : t.now = s.now

theorem Announcing.keeps (hs : Announcing setup s)
    (hpending : t.room.state.pendingAction = s.room.state.pendingAction)
    (hrecent : t.room.state.recentAction = s.room.state.recentAction)
    (hstream : t.room.state.streamId = s.room.state.streamId)
    (hseeking : t.host.pc.seeking = s.host.pc.seeking) (hconnections : t.connections = s.connections)
    (hnow : t.now = s.now) (hsession : t.control.sessionId = s.control.sessionId) :
    Keeps setup s t where
  announcing := hs.move hpending hrecent hstream hseeking hconnections hnow hsession
  target_eq := target_congr hpending hstream hseeking
  announcement_eq := by rw [announcement, announcement, hpending, hrecent]
  now_eq := hnow

theorem keeps_takeStep (hs : Announcing setup s) {pc : ScheduledRoomAction → HostThread}
    {empty : HostPc} (hidle : s.host.pc.seeking = none) (hempty : empty.seeking = none)
    (hpc : ∀ action ∈ s.room.state.pendingAction,
      (pc action).pc.seeking = if action.action = .seek then some action else none) :
    Keeps setup s (s.takeStep pc empty) where
  announcing := announcing_takeStep hs hidle hempty hpc
  target_eq := target_takeStep hidle hempty hpc
  announcement_eq := announcement_takeStep s pc empty
  now_eq := by
    unfold takeStep Room.takeAction
    cases s.room.state.pendingAction <;> rfl

theorem keeps_installStep (hs : Announcing setup s) {command : ScheduledRoomAction} {pc : HostPc}
    (hcommand : s.host.pc.seeking = some command) (hpc : pc.seeking = none) :
    (s.installStep command pc).host.pc.crashed = true ∨
      Keeps setup s (s.installStep command pc) := by
  unfold installStep Room.setStreamId
  split_ifs with hzero
  · exact .inl rfl
  · refine .inr {
      announcing := {
        target_eq := ?_
        seeking := ?_
        stamped := hs.stamped
        time := hs.time
        sessionId_eq := hs.sessionId_eq }
      target_eq := target_installed rfl rfl hcommand hpc
      announcement_eq := rfl
      now_eq := rfl }
    · intro action haction hseek
      refine (hs.target_eq action haction hseek).trans (Eq.symm ?_)
      exact target_installed rfl rfl hcommand hpc
    · intro other hother
      change other ∈ pc.seeking at hother
      rw [hpc] at hother
      cases hother

/-- A host step keeps the announcement and the target, or the process dies. -/
theorem keeps_hostStep (hinvariant : Invariant setup s) (hs : Announcing setup s)
    (h : s.hostStep setup input = some t) : t.host.pc.crashed = true ∨ Keeps setup s t := by
  have hexpects := hinvariant.expects
  unfold hostStep at h
  cases hpc : s.host.pc <;> rw [hpc] at h hexpects <;> dsimp only at h
  case openSegment =>
      cases h
      unfold openSegment
      split
      · exact .inl rfl
      · split
        · exact .inl rfl
        · exact .inr (hs.keeps rfl rfl rfl (by rw [hpc]; rfl) rfl rfl rfl)
  case head host segment =>
      cases h
      unfold headStep
      split
      · exact .inl rfl
      · exact .inr (hs.keeps rfl rfl rfl (by rw [hpc]; rfl) rfl rfl rfl)
      · exact .inr (hs.keeps rfl rfl rfl (by rw [hpc]; rfl) rfl rfl rfl)
  case sending host segment presentationTimestamp requested =>
      unfold sendStep at h
      split at h
      · cases h
        exact .inl rfl
      · cases h
        exact .inr (hs.keeps rfl rfl rfl (by rw [hpc]; rfl) rfl rfl rfl)
      · split_ifs at h
        cases h
        exact .inr (hs.keeps rfl rfl rfl (by rw [hpc]; rfl) rfl rfl rfl)
  case playFrom =>
      cases h
      by_cases hfails : input.playbackFails = true
      · rw [if_pos hfails]
        exact .inl rfl
      · rw [if_neg hfails]
        exact .inr (hs.keeps rfl rfl rfl (by rw [hpc]; rfl) rfl rfl rfl)
  case takeCommand =>
      cases h
      exact .inr (keeps_takeStep hs (by rw [hpc]; rfl) rfl fun _ _ => rfl)
  case takePlay =>
      cases h
      refine .inr (keeps_takeStep hs (by rw [hpc]; rfl) rfl fun action haction => ?_)
      have hplay : s.room.state.pendingAction.map ScheduledRoomAction.action = some .play := hexpects
      rw [haction] at hplay
      rw [if_neg (by rw [Option.some.inj hplay]; decide)]
      rfl
  case takeSeek =>
      cases h
      refine .inr (keeps_takeStep hs (by rw [hpc]; rfl) rfl fun action haction => ?_)
      have hseek : s.room.state.pendingAction.map ScheduledRoomAction.action = some .seek := hexpects
      rw [haction] at hseek
      rw [if_pos (Option.some.inj hseek)]
      rfl
  case takeStop =>
      cases h
      refine .inr (keeps_takeStep hs (by rw [hpc]; rfl) rfl fun action haction => ?_)
      have hstop : s.room.state.pendingAction.map ScheduledRoomAction.action = some .stop := hexpects
      rw [haction] at hstop
      rw [if_neg (by rw [Option.some.inj hstop]; decide)]
      rfl
  case waitCutoff command =>
      split_ifs at h
      cases h
      exact .inr (hs.keeps rfl rfl rfl (by rw [hpc]; rfl) rfl rfl rfl)
  case waitSeek next =>
      split_ifs at h
      cases h
      exact .inr (hs.keeps rfl rfl rfl (by rw [hpc]; rfl) rfl rfl rfl)
  case waitStop next =>
      split_ifs at h
      cases h
      exact .inr (hs.keeps rfl rfl rfl (by rw [hpc]; rfl) rfl rfl rfl)
  case installSeek next =>
      cases h
      exact keeps_installStep hs (by rw [hpc]; rfl) rfl
  case branch command =>
      cases h
      unfold branchStep
      cases haction : command.action with
      | seek => exact keeps_installStep hs (by rw [hpc]; exact if_pos haction) rfl
      | play =>
          exact .inr (hs.keeps rfl rfl rfl
            (by rw [hpc]; exact (if_neg (by rw [haction]; decide)).symm) rfl rfl rfl)
      | pause =>
          exact .inr (hs.keeps rfl rfl rfl
            (by rw [hpc]; exact (if_neg (by rw [haction]; decide)).symm) rfl rfl rfl)
      | stop =>
          exact .inr (hs.keeps rfl rfl rfl
            (by rw [hpc]; exact (if_neg (by rw [haction]; decide)).symm) rfl rfl rfl)
  case paused =>
      cases h
      unfold pausedStep
      split
      · exact .inr (hs.keeps rfl rfl rfl (by rw [hpc]; rfl) rfl rfl rfl)
      · exact .inr (hs.keeps rfl rfl rfl (by rw [hpc]; rfl) rfl rfl rfl)
      · exact .inr (hs.keeps rfl rfl rfl (by rw [hpc]; rfl) rfl rfl rfl)
      · exact .inr (hs.keeps rfl rfl rfl rfl rfl rfl rfl)
      · exact .inr (hs.keeps rfl rfl rfl rfl rfl rfl rfl)
  case done => cases h
  case failed message => cases h
  all_goals
    cases h
    exact .inr (hs.keeps rfl rfl rfl (by rw [hpc]; rfl) rfl rfl rfl)

/-- An accepted command is announced from then on; a SEEK moves the target. -/
theorem announcing_accepted {command : ScheduledRoomAction} {room : Room}
    {connections : Nat → CommandPhase} {scheduled : List ScheduledRoomAction}
    (hs : Announcing setup s) (hnone : s.room.state.pendingAction = none)
    (hpending : room.state.pendingAction = some command)
    (hstream : room.state.streamId = s.room.state.streamId)
    (hrecent : room.state.recentAction = s.room.state.recentAction)
    (htime : 0 ≤ command.effectiveHostNanoseconds ∧
      command.effectiveHostNanoseconds ≤ s.now + 2000000000)
    (hstamped : ∀ connection command effective, connections connection = .stamped command effective →
      effective ≤ s.now + 2000000000) :
    Announcing setup { s with room, connections, scheduled } ∧
      (command.action ≠ .seek → ({ s with room, connections, scheduled } : HostSystem).target =
        s.target) := by
  have hannouncement : announcement room.state = some command := by
    rw [announcement, hpending, Option.some_or]
  refine ⟨{
    target_eq := ?_
    seeking := ?_
    stamped := hstamped
    time := ?_
    sessionId_eq := hs.sessionId_eq }, fun hother => ?_⟩
  · intro action haction hseek
    rw [hannouncement] at haction
    cases haction
    unfold target
    rw [outstandingSeek_of_pending hpending hseek]
  · rw [hrecent]
    exact hs.seeking
  · intro action haction
    rw [hannouncement] at haction
    cases haction
    exact htime
  · unfold target
    rw [outstandingSeek_of_other (by rw [hpending]; simpa using hother),
      outstandingSeek_of_other (s := s) (by rw [hnone]; simp), hstream]

/-- A dead process takes no step. -/
theorem crashed_step {event : Event} (hs : s.host.pc.crashed = true)
    (h : step setup s event = some t) : t.host.pc.crashed = true := by
  rcases step_connection h with ⟨input, -, hhost⟩ | ⟨message, hpc, -⟩ | ⟨-, hhost, -, -⟩
  · unfold hostStep at hhost
    cases hpc : s.host.pc <;> rw [hpc] at hhost hs <;> first
      | exact absurd hs Bool.false_ne_true
      | cases hhost
  · rw [hpc]
    rfl
  · rwa [hhost]

/-- The phases of the connections change without any command being accepted. -/
theorem Announcing.rephase {connections : Nat → CommandPhase} {now : Int} (hs : Announcing setup s)
    (hnow : s.now ≤ now)
    (hstamped : ∀ connection command effective, connections connection = .stamped command effective →
      effective ≤ now + 2000000000) :
    Announcing setup { s with connections, now } where
  target_eq := hs.target_eq
  seeking := hs.seeking
  stamped := hstamped
  time := fun action haction => by
    obtain ⟨hnonneg, hle⟩ := hs.time action haction
    refine ⟨hnonneg, ?_⟩
    dsimp only
    omega
  sessionId_eq := hs.sessionId_eq

theorem stamped_setPhase {connection other : Nat} {phase : CommandPhase}
    {command : ControlServer.RoomCommand} {effective : Int}
    (h : (s.setPhase connection phase).connections other = .stamped command effective) :
    phase = .stamped command effective ∨ s.connections other = .stamped command effective := by
  change Function.update s.connections connection phase other = _ at h
  by_cases heq : other = connection
  · subst heq
    rw [Function.update_self] at h
    exact .inl h
  · rw [Function.update_of_ne heq] at h
    exact .inr h

/-- The event accepts a command. -/
structure Accepts (s t : HostSystem) (event : Event) (command : ControlServer.RoomCommand)
    (effective : Int) : Prop where
  event_eq : ∃ connection, event = .commit connection ∧
    s.connections connection = .stamped command effective
  pending_eq : s.room.state.pendingAction = none
  announcement_eq : announcement t.room.state = some (command.scheduled effective)
  target_eq : command.action ≠ .seek → t.target = s.target

/-- An event leaves the announcement and the target alone or accepts a command,
unless the process dies. -/
theorem announcing_step {event : Event} (hinvariant : Invariant setup s)
    (hs : Announcing setup s) (h : step setup s event = some t) :
    t.host.pc.crashed = true ∨ Announcing setup t ∧
      (t.target = s.target ∧ announcement t.room.state = announcement s.room.state ∨
        ∃ command effective, Accepts s t event command effective) := by
  cases event with
  | tick later =>
      simp only [step] at h
      split_ifs at h
      cases h
      refine .inr ⟨hs.rephase (by omega) fun connection command effective hphase => ?_,
        .inl ⟨rfl, rfl⟩⟩
      have := hs.stamped connection command effective hphase
      omega
  | host input =>
      rcases keeps_hostStep hinvariant hs h with hcrashed | hkeeps
      · exact .inl hcrashed
      · exact .inr ⟨hkeeps.announcing, .inl ⟨hkeeps.target_eq, hkeeps.announcement_eq⟩⟩
  | check connection peerAddress line =>
      simp only [step] at h
      cases hphase : s.connections connection <;> rw [hphase] at h <;> dsimp only at h
      case idle =>
          split_ifs at h
          cases hcheck : ControlServer.checkCommand s.control.totalFrames s.room.state peerAddress
              line <;> rw [hcheck] at h <;> cases h
          · exact .inr ⟨hs, .inl ⟨rfl, rfl⟩⟩
          · refine .inr ⟨hs.rephase (Int.le_refl _) fun other command effective hother => ?_,
              .inl ⟨rfl, rfl⟩⟩
            rcases stamped_setPhase hother with heq | hold
            · cases heq
            · exact hs.stamped other command effective hold
      case checked command => cases h
      case stamped command effective => cases h
  | readClock connection =>
      simp only [step] at h
      cases hphase : s.connections connection <;> rw [hphase] at h <;> cases h
      refine .inr ⟨hs.rephase (Int.le_refl _) fun other command effective hother => ?_,
        .inl ⟨rfl, rfl⟩⟩
      rcases stamped_setPhase hother with heq | hold
      · cases heq
        exact Int.le_refl _
      · exact hs.stamped other command effective hold
  | commit connection =>
      simp only [step] at h
      cases hphase : s.connections connection <;> rw [hphase] at h <;> cases h
      rename_i command effective
      have hidle : ∀ other later effective,
          (s.setPhase connection .idle).connections other = .stamped later effective →
            effective ≤ s.now + 2000000000 := by
        intro other later effective hother
        rcases stamped_setPhase hother with heq | hold
        · cases heq
        · exact hs.stamped other later effective hold
      rcases s.commitStep_cases connection command effective with
        ⟨message, heq⟩ | ⟨-, heq⟩ | ⟨hnone, hvalid, room, hpending, hstream, -, hrecent, heq⟩ <;>
          rw [heq]
      · exact .inl rfl
      · exact .inr ⟨hs.rephase (Int.le_refl _) hidle, .inl ⟨rfl, rfl⟩⟩
      · have htime : 0 ≤ (command.scheduled effective).effectiveHostNanoseconds ∧
            (command.scheduled effective).effectiveHostNanoseconds ≤ s.now + 2000000000 :=
          ⟨Int.le_of_lt hvalid.1, hs.stamped connection command effective hphase⟩
        obtain ⟨hannouncing, htarget⟩ :=
          announcing_accepted hs hnone hpending hstream hrecent htime hidle
        exact .inr ⟨hannouncing, .inr ⟨command, effective, {
          event_eq := ⟨connection, rfl, hphase⟩
          pending_eq := hnone
          announcement_eq := by rw [announcement, hpending, Option.some_or]
          target_eq := htarget }⟩⟩

end HostSystem

end SyncAudio
