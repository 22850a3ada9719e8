import SyncAudio.Desktop.RunHost

/-!
# Room commands are taken

A command that was answered SCHEDULED sits in the mailbox of the room until the
host takes it. The paused loop of the host has no branch for a PAUSE, so a
PAUSE that is accepted after another PAUSE was taken stays there for ever.
As long as that does not happen, every command is taken after a bounded number
of host steps, or the session ends.
-/

namespace SyncAudio

open LabelledRun

namespace HostPc

/-- The loops are over. -/
def ended : HostPc → Bool
  | draining | finish | finishing | done | failed _ => true
  | _ => false

/-- The host steps that may pass before it takes a pending action, where `frames`
is the length of the source. -/
def stepsToTake (frames : Nat) : HostPc → Nat
  | start => 3 * frames + 10
  | begin => 3 * frames + 9
  | publish => 3 * frames + 8
  | playFrom => 3 * frames + 7
  | startPlaying => 3 * frames + 6
  | setPlaying => 3 * frames + 5
  | openSegment => 3 * frames + 4
  | head _ segment => 3 * (frames - segment.startFrame) + 3
  | sending _ segment _ _ => 3 * (frames - segment.startFrame) + 2
  | progress _ segment => 3 * (frames - segment.startFrame) + 4
  | takeCommand => 1
  | waitCutoff _ => 3 * frames + 14
  | stopPlayer _ => 3 * frames + 13
  | storeFrame _ => 3 * frames + 12
  | branch _ => 3 * frames + 11
  | seeked _ => 3 * frames + 10
  | paused => 2
  | takePlay | takeSeek | takeStop => 1
  | waitSeek _ => 6
  | installSeek _ => 5
  | publishSeek _ => 4
  | storeSeek _ => 3
  | waitStop _ => 1
  | draining | finish | finishing | done | failed _ => 0

theorem pausing_of_inPausedLoop {pc : HostPc} (h : pc.inPausedLoop = true) : pc.pausing = true := by
  cases pc <;> first
    | exact h
    | exact absurd h Bool.false_ne_true

/-- No stretch without a taken action is longer. -/
theorem stepsToTake_le (frames : Nat) (pc : HostPc) : pc.stepsToTake frames ≤ 3 * frames + 14 := by
  cases pc <;> dsimp only [stepsToTake] <;> omega

end HostPc

namespace HostSystem

/-- A step of the host, as opposed to the clock and the connections. -/
def Event.isHost : Event → Bool
  | .host _ => true
  | _ => false

/-- The host polls a mailbox whose action it has no branch for. -/
def Wedged (s : HostSystem) : Prop :=
  s.host.pc.inPausedLoop = true ∧
    s.room.state.pendingAction.map ScheduledRoomAction.action = some .pause

instance (s : HostSystem) : Decidable s.Wedged := inferInstanceAs (Decidable (_ ∧ _))

/-- No PAUSE enters the mailbox while the host executes an earlier PAUSE. -/
def NoLatePause (s : HostSystem) : Event → Prop
  | .commit connection =>
      match s.connections connection with
      | .stamped command _ =>
          command.action = .pause → s.room.state.pendingAction = none → s.host.pc.pausing = false
      | _ => True
  | _ => True

instance (s : HostSystem) (event : Event) : Decidable (s.NoLatePause event) := by
  unfold NoLatePause
  split
  · split <;> infer_instance
  · infer_instance

/-- A host that executes a PAUSE has no second one in the mailbox. -/
def PauseFree (s : HostSystem) : Prop :=
  s.host.pc.pausing = true → s.room.state.pendingAction.map ScheduledRoomAction.action ≠ some .pause

variable {setup : HostSetup} {s t : HostSystem} {input : HostInput}

theorem pauseFree_of_not (h : s.host.pc.pausing = false) : s.PauseFree := fun hpausing =>
  absurd (h.symm.trans hpausing) Bool.false_ne_true

theorem pauseFree_takeStep (pc : ScheduledRoomAction → HostThread) (empty : HostPc) :
    (s.takeStep pc empty).PauseFree := by
  intro _
  unfold takeStep Room.takeAction
  cases s.room.state.pendingAction <;> simp

/-- An installation keeps the mailbox. -/
theorem installStep_pendingAction (s : HostSystem) (command : ScheduledRoomAction) (pc : HostPc) :
    (s.installStep command pc).room.state.pendingAction = s.room.state.pendingAction ∧
      (s.installStep command pc).taken = s.taken ∧
      ((s.installStep command pc).host.pc = pc ∨
        ∃ message, (s.installStep command pc).host.pc = .failed message) := by
  unfold installStep Room.setStreamId
  split_ifs
  · exact ⟨rfl, rfl, .inr ⟨_, rfl⟩⟩
  · exact ⟨rfl, rfl, .inl rfl⟩

theorem pauseFree_installStep {command : ScheduledRoomAction} {pc : HostPc}
    (h : pc.pausing = true →
      s.room.state.pendingAction.map ScheduledRoomAction.action ≠ some .pause) :
    (s.installStep command pc).PauseFree := by
  obtain ⟨hpending, -, hpc⟩ := installStep_pendingAction s command pc
  intro hpausing
  rw [hpending]
  rcases hpc with heq | ⟨message, heq⟩
  · rw [heq] at hpausing
    exact h hpausing
  · rw [heq] at hpausing
    cases hpausing

/-- The host itself never leaves a PAUSE behind a PAUSE it executes. -/
theorem pauseFree_hostStep (hs : s.PauseFree) (h : s.hostStep setup input = some t) :
    t.PauseFree := by
  unfold PauseFree at hs
  unfold hostStep at h
  cases hpc : s.host.pc <;> rw [hpc] at h hs <;> dsimp only at h
  case takeCommand => cases h; exact pauseFree_takeStep _ _
  case takePlay => cases h; exact pauseFree_takeStep _ _
  case takeSeek => cases h; exact pauseFree_takeStep _ _
  case takeStop => cases h; exact pauseFree_takeStep _ _
  case waitCutoff command => split_ifs at h; cases h; exact hs
  case stopPlayer command => cases h; exact hs
  case storeFrame command => cases h; exact hs
  case branch command =>
      cases h
      unfold branchStep
      cases haction : command.action with
      | play => exact pauseFree_of_not rfl
      | pause => exact fun _ => hs (decide_eq_true haction)
      | seek => exact pauseFree_installStep fun hpausing => absurd hpausing Bool.false_ne_true
      | stop => exact pauseFree_of_not rfl
  case paused =>
      cases h
      have hfree := hs rfl
      unfold pausedStep
      cases hpending : s.room.state.pendingAction.map ScheduledRoomAction.action with
      | none => exact fun _ => hfree
      | some action => cases action <;> exact fun _ => hfree
  case waitSeek next => split_ifs at h; cases h; exact hs
  case installSeek next => cases h; exact pauseFree_installStep fun _ => hs rfl
  case publishSeek next => cases h; exact hs
  case storeSeek next => cases h; exact hs
  case waitStop next => split_ifs at h; cases h; exact pauseFree_of_not rfl
  case openSegment =>
      cases h
      unfold openSegment
      split
      · exact pauseFree_of_not rfl
      · split <;> exact pauseFree_of_not rfl
  case head host segment =>
      cases h
      unfold headStep
      split <;> exact pauseFree_of_not rfl
  case sending host segment presentationTimestamp requested =>
      unfold sendStep at h
      split at h
      · cases h; exact pauseFree_of_not rfl
      · cases h; exact pauseFree_of_not rfl
      · split_ifs at h; cases h; exact pauseFree_of_not rfl
  case playFrom =>
      cases h
      refine pauseFree_of_not ?_
      dsimp only [goto]
      split_ifs <;> rfl
  case done => cases h
  case failed message => cases h
  all_goals
    cases h
    exact pauseFree_of_not rfl

theorem pauseFree_step {event : Event} (hs : s.PauseFree)
    (h : guarded NoLatePause (step setup) s event = some t) : t.PauseFree := by
  obtain ⟨hok, h⟩ := guarded_some.mp h
  cases event with
  | tick later =>
      simp only [step] at h
      split_ifs at h
      cases h
      exact hs
  | host input => exact pauseFree_hostStep hs h
  | check connection peerAddress line =>
      simp only [step] at h
      cases hphase : s.connections connection <;> rw [hphase] at h <;> dsimp only at h
      case idle =>
          split_ifs at h
          cases hcheck : ControlServer.checkCommand s.control.totalFrames s.room.state peerAddress
              line <;> rw [hcheck] at h <;> cases h <;> exact hs
      case checked command => cases h
      case stamped command effective => cases h
  | readClock connection =>
      simp only [step] at h
      cases hphase : s.connections connection <;> rw [hphase] at h <;> cases h
      exact hs
  | commit connection =>
      simp only [step] at h
      simp only [NoLatePause] at hok
      cases hphase : s.connections connection <;> rw [hphase] at h hok <;> cases h
      rename_i command effective
      dsimp only at hok
      rcases s.commitStep_cases connection command effective with
        ⟨message, heq⟩ | ⟨-, heq⟩ | ⟨hnone, -, room, hpending, -, -, -, heq⟩ <;> rw [heq]
      · exact pauseFree_of_not rfl
      · exact hs
      · intro hpausing hpause
        dsimp only at hpausing hpause
        rw [hpending] at hpause
        have hlate := hok (Option.some.inj hpause) hnone
        exact absurd (hlate.symm.trans hpausing) Bool.false_ne_true

section Progress

/-- A taken command is never lost, and a session that is over stays over. -/
theorem taken_takeStep (s : HostSystem) (pc : ScheduledRoomAction → HostThread) (empty : HostPc) :
    s.taken <+: (s.takeStep pc empty).taken := by
  unfold takeStep Room.takeAction
  cases s.room.state.pendingAction with
  | none => exact List.prefix_refl _
  | some action => exact List.prefix_append _ _

theorem taken_hostStep (h : s.hostStep setup input = some t) : s.taken <+: t.taken := by
  unfold hostStep at h
  cases hpc : s.host.pc <;> rw [hpc] at h <;> dsimp only at h
  case takeCommand => cases h; exact taken_takeStep _ _ _
  case takePlay => cases h; exact taken_takeStep _ _ _
  case takeSeek => cases h; exact taken_takeStep _ _ _
  case takeStop => cases h; exact taken_takeStep _ _ _
  case waitCutoff command => split_ifs at h; cases h; exact List.prefix_refl _
  case waitSeek next => split_ifs at h; cases h; exact List.prefix_refl _
  case waitStop next => split_ifs at h; cases h; exact List.prefix_refl _
  case installSeek next =>
      cases h
      exact (installStep_pendingAction s next _).2.1 ▸ List.prefix_refl _
  case branch command =>
      cases h
      unfold branchStep
      cases command.action
      case seek => exact (installStep_pendingAction s command _).2.1 ▸ List.prefix_refl _
      all_goals exact List.prefix_refl _
  case paused =>
      cases h
      unfold pausedStep
      split <;> exact List.prefix_refl _
  case openSegment =>
      cases h
      unfold openSegment
      split
      · exact List.prefix_refl _
      · split <;> exact List.prefix_refl _
  case head host segment =>
      cases h
      unfold headStep
      split <;> exact List.prefix_refl _
  case sending host segment presentationTimestamp requested =>
      unfold sendStep at h
      split at h
      · cases h; exact List.prefix_refl _
      · cases h; exact List.prefix_refl _
      · split_ifs at h; cases h; exact List.prefix_refl _
  case done => cases h
  case failed message => cases h
  all_goals
    cases h
    exact List.prefix_refl _

theorem ended_hostStep (hs : s.host.pc.ended = true) (h : s.hostStep setup input = some t) :
    t.host.pc.ended = true := by
  unfold hostStep at h
  cases hpc : s.host.pc <;> rw [hpc] at h hs
  case draining => cases h; rfl
  case finish => cases h; rfl
  case finishing => cases h; rfl
  case done => cases h
  case failed message => cases h
  all_goals exact absurd hs Bool.false_ne_true

/-- What the connections and the clock leave alone. -/
theorem step_connection {event : Event} (h : step setup s event = some t) :
    (∃ input, event = .host input ∧ s.hostStep setup input = some t) ∨
      (∃ message, t.host.pc = .failed message ∧ t.taken = s.taken) ∨
      event.isHost = false ∧ t.host = s.host ∧ t.taken = s.taken ∧
        ∀ action ∈ s.room.state.pendingAction, action ∈ t.room.state.pendingAction := by
  cases event with
  | tick later =>
      simp only [step] at h
      split_ifs at h
      cases h
      exact .inr (.inr ⟨rfl, rfl, rfl, fun _ haction => haction⟩)
  | host input => exact .inl ⟨input, rfl, h⟩
  | check connection peerAddress line =>
      simp only [step] at h
      cases hphase : s.connections connection <;> rw [hphase] at h <;> dsimp only at h
      case idle =>
          split_ifs at h
          cases hcheck : ControlServer.checkCommand s.control.totalFrames s.room.state peerAddress
              line <;> rw [hcheck] at h <;> cases h <;>
            exact .inr (.inr ⟨rfl, rfl, rfl, fun _ haction => haction⟩)
      case checked command => cases h
      case stamped command effective => cases h
  | readClock connection =>
      simp only [step] at h
      cases hphase : s.connections connection <;> rw [hphase] at h <;> cases h
      exact .inr (.inr ⟨rfl, rfl, rfl, fun _ haction => haction⟩)
  | commit connection =>
      simp only [step] at h
      cases hphase : s.connections connection <;> rw [hphase] at h <;> cases h
      rename_i command effective
      rcases s.commitStep_cases connection command effective with
        ⟨message, heq⟩ | ⟨-, heq⟩ | ⟨hnone, -, room, -, -, -, -, heq⟩ <;> rw [heq]
      · exact .inr (.inl ⟨message, rfl, rfl⟩)
      · exact .inr (.inr ⟨rfl, rfl, rfl, fun _ haction => haction⟩)
      · refine .inr (.inr ⟨rfl, rfl, rfl, fun action haction => ?_⟩)
        rw [hnone] at haction
        cases haction

variable {action : ScheduledRoomAction}

theorem taken_step {event : Event} (h : step setup s event = some t) : s.taken <+: t.taken := by
  rcases step_connection h with ⟨input, -, hhost⟩ | ⟨message, -, htaken⟩ | ⟨-, -, htaken, -⟩
  · exact taken_hostStep hhost
  · rw [htaken]
  · rw [htaken]

theorem ended_step {event : Event} (hs : s.host.pc.ended = true)
    (h : step setup s event = some t) : t.host.pc.ended = true := by
  rcases step_connection h with ⟨input, -, hhost⟩ | ⟨message, hpc, -⟩ | ⟨-, hhost, -, -⟩
  · exact ended_hostStep hs hhost
  · rw [hpc]
    rfl
  · rwa [hhost]

/-- The effect of a host step on a pending command: the session ends, the command
is taken, or the host comes closer to taking it. -/
def Pays (frames : Nat) (action : ScheduledRoomAction) (s t : HostSystem) : Prop :=
  t.host.pc.ended = true ∨ t.taken = s.taken ++ [action] ∨
    t.room.state.pendingAction = some action ∧ t.taken = s.taken ∧
      t.host.pc.stepsToTake frames + 1 ≤ s.host.pc.stepsToTake frames

theorem pays_takeStep (frames : Nat) (hpending : s.room.state.pendingAction = some action)
    (pc : ScheduledRoomAction → HostThread) (empty : HostPc) :
    Pays frames action s (s.takeStep pc empty) := by
  refine .inr (.inl ?_)
  unfold takeStep Room.takeAction
  rw [hpending]

theorem pays_installStep {frames : Nat} {command : ScheduledRoomAction} {pc : HostPc}
    (hpending : s.room.state.pendingAction = some action)
    (hsteps : pc.stepsToTake frames + 1 ≤ s.host.pc.stepsToTake frames) :
    Pays frames action s (s.installStep command pc) := by
  obtain ⟨hroom, htaken, hpc⟩ := installStep_pendingAction s command pc
  rcases hpc with heq | ⟨message, heq⟩
  · exact .inr (.inr ⟨hroom.trans hpending, htaken, by rw [heq]; exact hsteps⟩)
  · exact .inl (by rw [heq]; rfl)

theorem pays_sendStep {host : DesktopNetworkHost} {segment : DesktopNetworkHost.Segment}
    {presentationTimestamp : Int} {requested : Nat} (hs : Invariant setup s)
    (hpc : s.host.pc = .sending host segment presentationTimestamp requested)
    (hpending : s.room.state.pendingAction = some action)
    (h : s.sendStep setup host segment presentationTimestamp requested input = some t) :
    Pays setup.source.frameCount action s t := by
  have hstreaming : Streaming setup s host segment :=
    hs.streaming (host, segment) (by rw [hpc]; rfl)
  unfold sendStep at h
  cases hsend : DesktopNetworkHost.sendPacket setup.source segment presentationTimestamp requested
      input.ready with
  | error message =>
      rw [hsend] at h
      cases h
      exact .inl rfl
  | ok result =>
      rw [hsend] at h
      cases result with
      | none =>
          cases h
          exact .inl rfl
      | some sent =>
          dsimp only at h
          split_ifs at h
          cases h
          obtain ⟨framesRead, hpos, -, hend, -, -, -, -, hnext⟩ :=
            DesktopNetworkHost.sendPacket_sent hstreaming.wf hsend
          refine .inr (.inr ⟨hpending, rfl, ?_⟩)
          rw [hpc, hnext]
          dsimp only [HostPc.stepsToTake]
          omega

theorem pays_headStep {host : DesktopNetworkHost} {segment : DesktopNetworkHost.Segment}
    (hpc : s.host.pc = .head host segment) (hpending : s.room.state.pendingAction = some action) :
    Pays setup.source.frameCount action s (s.headStep host segment input) := by
  unfold headStep
  split
  · exact .inl rfl
  · refine .inr (.inr ⟨hpending, rfl, ?_⟩)
    rw [hpc]
    dsimp only [endSegment, HostPc.stepsToTake]
    omega
  · refine .inr (.inr ⟨hpending, rfl, ?_⟩)
    rw [hpc]
    dsimp only [goto, HostPc.stepsToTake]
    omega

theorem pays_openSegment (hpc : s.host.pc = .openSegment)
    (hpending : s.room.state.pendingAction = some action) :
    Pays setup.source.frameCount action s (s.openSegment setup input) := by
  unfold openSegment
  split
  · exact .inl rfl
  · split
    · exact .inl rfl
    · refine .inr (.inr ⟨hpending, rfl, ?_⟩)
      rw [hpc]
      dsimp only [goto, HostPc.stepsToTake]
      omega

/-- In the paused loop every action but a PAUSE is taken in the next step. -/
theorem pays_pausedStep (hfree : s.PauseFree) (hpc : s.host.pc = .paused)
    (hpending : s.room.state.pendingAction = some action) (frames : Nat) :
    Pays frames action s s.pausedStep := by
  have hne : action.action ≠ .pause := by
    have := hfree (by rw [hpc]; rfl)
    rw [hpending] at this
    exact fun h => this (congrArg some h)
  unfold pausedStep
  rw [hpending, Option.map_some]
  cases haction : action.action with
  | pause => exact absurd haction hne
  | play => exact .inr (.inr ⟨hpending, rfl, by rw [hpc]; exact Nat.le_refl _⟩)
  | seek => exact .inr (.inr ⟨hpending, rfl, by rw [hpc]; exact Nat.le_refl _⟩)
  | stop => exact .inr (.inr ⟨hpending, rfl, by rw [hpc]; exact Nat.le_refl _⟩)

/-- Every step of the host pays. -/
theorem pays_hostStep (hs : Invariant setup s) (hfree : s.PauseFree)
    (hpending : s.room.state.pendingAction = some action)
    (h : s.hostStep setup input = some t) :
    Pays setup.source.frameCount action s t := by
  have hmove {t : HostSystem} (hroom : t.room.state.pendingAction = s.room.state.pendingAction)
      (htaken : t.taken = s.taken)
      (hsteps : t.host.pc.stepsToTake setup.source.frameCount + 1 ≤
        s.host.pc.stepsToTake setup.source.frameCount) :
      Pays setup.source.frameCount action s t :=
    .inr (.inr ⟨hroom.trans hpending, htaken, hsteps⟩)
  unfold hostStep at h
  cases hpc : s.host.pc <;> rw [hpc] at h <;> dsimp only at h
  case playFrom =>
      cases h
      by_cases hfails : input.playbackFails = true
      · rw [if_pos hfails]
        exact .inl rfl
      · rw [if_neg hfails]
        exact hmove rfl rfl (by rw [hpc]; exact Nat.le_refl _)
  case openSegment => cases h; exact pays_openSegment hpc hpending
  case head host segment => cases h; exact pays_headStep hpc hpending
  case sending host segment presentationTimestamp requested =>
      exact pays_sendStep hs hpc hpending h
  case takeCommand => cases h; exact pays_takeStep _ hpending _ _
  case takePlay => cases h; exact pays_takeStep _ hpending _ _
  case takeSeek => cases h; exact pays_takeStep _ hpending _ _
  case takeStop => cases h; exact pays_takeStep _ hpending _ _
  case waitCutoff command =>
      split_ifs at h
      cases h
      exact hmove rfl rfl (by rw [hpc]; exact Nat.le_refl _)
  case branch command =>
      cases h
      unfold branchStep
      cases command.action with
      | play => exact hmove rfl rfl (by rw [hpc]; dsimp only [goto, HostPc.stepsToTake]; omega)
      | pause => exact hmove rfl rfl (by rw [hpc]; dsimp only [HostPc.stepsToTake]; omega)
      | seek => exact pays_installStep hpending (by rw [hpc]; exact Nat.le_refl _)
      | stop => exact .inl rfl
  case paused => cases h; exact pays_pausedStep hfree hpc hpending _
  case waitSeek next =>
      split_ifs at h
      cases h
      exact hmove rfl rfl (by rw [hpc]; exact Nat.le_refl _)
  case installSeek next =>
      cases h
      exact pays_installStep hpending (by rw [hpc]; exact Nat.le_refl _)
  case waitStop next => split_ifs at h; cases h; exact .inl rfl
  case draining => cases h; exact .inl rfl
  case finish => cases h; exact .inl rfl
  case finishing => cases h; exact .inl rfl
  case done => cases h
  case failed message => cases h
  all_goals
    cases h
    exact hmove rfl rfl (by rw [hpc]; dsimp only [HostPc.stepsToTake]; omega)

/-- A sleeping host goes on once its deadline has passed. -/
theorem hostStep_enabled (hended : s.host.pc.ended = false) :
    ∃ deadline, ∀ later ≥ deadline, ∀ input,
      (({ s with now := later } : HostSystem).hostStep setup input).isSome = true := by
  unfold hostStep
  dsimp only
  cases hpc : s.host.pc <;> rw [hpc] at hended <;> dsimp only
  case sending host segment presentationTimestamp requested =>
      refine ⟨presentationTimestamp - host.sendAhead * millisecond, fun later hlater input => ?_⟩
      unfold sendStep
      split
      · rfl
      · rfl
      · rw [if_neg (by dsimp only; omega)]
        rfl
  case waitCutoff command =>
      refine ⟨executionCutoff setup command, fun later hlater input => ?_⟩
      rw [if_neg (by omega)]
      rfl
  case waitSeek next =>
      refine ⟨next.effectiveHostNanoseconds, fun later hlater input => ?_⟩
      rw [if_neg (by omega)]
      rfl
  case waitStop next =>
      refine ⟨next.effectiveHostNanoseconds, fun later hlater input => ?_⟩
      rw [if_neg (by omega)]
      rfl
  case done => cases hended
  case failed message => cases hended
  all_goals exact ⟨s.now, fun _ _ _ => rfl⟩

/-- The state of a session in which `action` waits in the mailbox. -/
structure Waiting (setup : HostSetup) (action : ScheduledRoomAction)
    (taken : List ScheduledRoomAction) (s : HostSystem) : Prop where
  invariant : Invariant setup s
  pauseFree : s.PauseFree
  running : s.host.pc.ended = false
  pending : s.room.state.pendingAction = some action
  taken_eq : s.taken = taken

/-- The goal of a waiting command: it is taken or the session is over. -/
def Served (action : ScheduledRoomAction) (taken : List ScheduledRoomAction) (s : HostSystem) :
    Prop :=
  s.host.pc.ended = true ∨ taken ++ [action] <+: s.taken

theorem waiting_step {event : Event} {taken : List ScheduledRoomAction}
    (hs : Waiting setup action taken s) (h : guarded NoLatePause (step setup) s event = some t) :
    Served action taken t ∨ Waiting setup action taken t ∧
      t.host.pc.stepsToTake setup.source.frameCount + event.isHost.toNat ≤
        s.host.pc.stepsToTake setup.source.frameCount := by
  have hfree := pauseFree_step hs.pauseFree h
  have hstep := (guarded_some.mp h).2
  have hinvariant := invariant_step hs.invariant hstep
  cases hended : t.host.pc.ended with
  | true => exact .inl (.inl hended)
  | false =>
      rcases step_connection hstep with
        ⟨input, hevent, hhost⟩ | ⟨message, hpc, -⟩ | ⟨hevent, hhost, htaken, hkeeps⟩
      · rcases pays_hostStep hs.invariant hs.pauseFree hs.pending hhost with
          hover | htaken | ⟨hpending, htaken, hsteps⟩
        · exact .inl (.inl hover)
        · rw [hs.taken_eq] at htaken
          exact .inl (.inr (htaken ▸ List.prefix_refl _))
        · refine .inr ⟨⟨hinvariant, hfree, hended, hpending, htaken.trans hs.taken_eq⟩, ?_⟩
          rw [hevent]
          exact hsteps
      · rw [hpc] at hended
        cases hended
      · refine .inr ⟨⟨hinvariant, hfree, hended, hkeeps _ hs.pending,
          htaken.trans hs.taken_eq⟩, ?_⟩
        rw [hevent, hhost]
        exact Nat.le_refl _

/-- A pending command is taken, or the session ends, within a bounded number of
host steps. -/
theorem pending_served {later : List Event} {taken : List ScheduledRoomAction}
    (hs : Waiting setup action taken s)
    (hrun : run (guarded NoLatePause (step setup)) s later = some t)
    (hsteps : 3 * setup.source.frameCount + 15 ≤ later.countP Event.isHost) :
    Served action taken t := by
  have hprogress := run_progress
    (fun u : HostSystem => u.host.pc.stepsToTake setup.source.frameCount) Event.isHost
    (fun hserved hstep => ?_) (fun hwaiting hstep => waiting_step hwaiting hstep) hs hrun
  · rcases hprogress with hserved | ⟨-, hpaid⟩
    · exact hserved
    · have hmost := s.host.pc.stepsToTake_le setup.source.frameCount
      omega
  · have hstep := (guarded_some.mp hstep).2
    exact hserved.imp (ended_step · hstep) (·.trans (taken_step hstep))

end Progress

/-- As long as no PAUSE enters the mailbox while the host executes an earlier one,
the host never polls an action it has no branch for, every accepted command is
taken exactly once or still pending, and a pending one is taken after a bounded
number of host steps, which time alone enables, unless the session ends. -/
theorem accepted_commands_taken {events : List Event} {now : Int}
    (hrun : run (guarded NoLatePause (step setup)) (initial setup now) events = some s) :
    ¬ s.Wedged ∧
      s.scheduled = s.taken ++ s.room.state.pendingAction.toList ∧
      (∀ action ∈ s.room.state.pendingAction, ∀ later t,
        run (guarded NoLatePause (step setup)) s later = some t →
          3 * setup.source.frameCount + 15 ≤ later.countP Event.isHost →
            Served action s.taken t) ∧
      (s.host.pc.ended = false → ∃ deadline, ∀ time ≥ deadline, ∀ input,
        (({ s with now := time } : HostSystem).hostStep setup input).isSome = true) := by
  have hinvariant := invariant_run (run_of_guarded hrun)
  have hfree : s.PauseFree :=
    run_preserves (fun hs hstep => pauseFree_step hs hstep) (pauseFree_of_not rfl) hrun
  refine ⟨?_, hinvariant.log_eq, ?_, hostStep_enabled⟩
  · rintro ⟨hpaused, hpause⟩
    exact hfree (HostPc.pausing_of_inPausedLoop hpaused) hpause
  · intro action haction later t hlater hsteps
    cases hended : s.host.pc.ended with
    | true => exact .inl (run_preserves (P := fun u => u.host.pc.ended = true)
        (fun hu hstep => ended_step hu (guarded_some.mp hstep).2) hended hlater)
    | false => exact pending_served ⟨hinvariant, hfree, hended, haction, rfl⟩ hlater hsteps

/-- Before the second PAUSE of `wedged_by_second_pause`. -/
def firstPause : List Event :=
  hostSteps 5 ++ sendLine "SEEK 0" ++ hostSteps 4 ++ [.tick 500000000] ++ hostSteps 9 ++
    sendLine "PAUSE" ++ hostSteps 4

theorem accepted_commands_taken_paused : ∃ s : HostSystem,
    s.taken.length = 2 ∧ s.scheduled.length = 2 ∧ ¬ s.Wedged := by
  have hheld : (run (guarded NoLatePause (step (shortSetup 1000)))
      (initial (shortSetup 1000) 0) firstPause).any fun s =>
        s.taken.length = 2 ∧ s.scheduled.length = 2 := by
    decide +kernel
  obtain ⟨s, hs, hheld⟩ := (Option.any_eq_true _ _).mp hheld
  obtain ⟨htaken, hscheduled⟩ := of_decide_eq_true hheld
  exact ⟨s, htaken, hscheduled, (accepted_commands_taken hs).1⟩

/-- A PAUSE that arrives while the host waits for the cutoff of another PAUSE. -/
theorem wedged_by_second_pause : ∃ s : HostSystem,
    run (step (shortSetup 1000)) (initial (shortSetup 1000) 0)
        (firstPause ++ sendLine "PAUSE" ++ [.tick 1500000000] ++ hostSteps 4) = some s ∧
      s.Wedged := by
  have hheld : (run (step (shortSetup 1000)) (initial (shortSetup 1000) 0)
      (firstPause ++ sendLine "PAUSE" ++ [.tick 1500000000] ++ hostSteps 4)).any fun s =>
        s.Wedged := by
    decide +kernel
  obtain ⟨s, hs, hwedged⟩ := (Option.any_eq_true _ _).mp hheld
  exact ⟨s, hs, of_decide_eq_true hwedged⟩

end HostSystem

end SyncAudio
