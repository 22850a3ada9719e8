import Mathlib.Data.Nat.ModEq
import SyncAudio.Desktop.RunHost

/-!
# A seek rotates the stream

The successor of the stream identifier is computed when a SEEK is checked and
installed when the host executes it. In between the mailbox is free again, so a
second SEEK can be checked against the identifier that the first one is about to
replace. If no SEEK is accepted in that window, every executed seek installs the
successor of the identifier in force, and the identifier of a packet counts the
seeks before it.
-/

namespace SyncAudio

open LabelledRun

namespace ControlServer

theorem rotate_ne_zero (streamId : UInt32) : rotate streamId ≠ 0 := by
  unfold rotate
  split_ifs with h
  · decide
  · exact h

theorem rotate_toNat {streamId : UInt32} (h : streamId ≠ 0) :
    (rotate streamId).toNat = streamId.toNat % (2 ^ 32 - 1) + 1 := by
  have hpos : streamId.toNat ≠ 0 := fun hzero => h (UInt32.toNat_inj.mp hzero)
  have hlt := streamId.toNat_lt
  have hadd : (streamId + 1).toNat = (streamId.toNat + 1) % 2 ^ 32 := UInt32.toNat_add _ _
  unfold rotate
  split_ifs with hwrap
  · rw [hwrap, UInt32.toNat_zero] at hadd
    have hlast : streamId.toNat = 2 ^ 32 - 1 := by omega
    rw [hlast]
    rfl
  · have hne : (streamId + 1).toNat ≠ 0 := fun hzero => hwrap (UInt32.toNat_inj.mp hzero)
    omega

theorem rotate_ne (streamId : UInt32) (h : streamId ≠ 0) : rotate streamId ≠ streamId := by
  intro heq
  have htoNat := rotate_toNat h
  have hpos : streamId.toNat ≠ 0 := fun hzero => h (UInt32.toNat_inj.mp hzero)
  have hlt := streamId.toNat_lt
  rw [heq] at htoNat
  omega

/-- Repeated rotation runs through all nonzero identifiers. -/
theorem rotate_iterate_toNat {streamId : UInt32} (h : streamId ≠ 0) (count : Nat) :
    (rotate^[count] streamId).toNat = (streamId.toNat - 1 + count) % (2 ^ 32 - 1) + 1 := by
  have hpos : streamId.toNat ≠ 0 := fun hzero => h (UInt32.toNat_inj.mp hzero)
  have hlt := streamId.toNat_lt
  induction count with
  | zero =>
      rw [Function.iterate_zero_apply]
      omega
  | succ count ih =>
      have hne : rotate^[count] streamId ≠ 0 := by
        intro hzero
        rw [hzero, UInt32.toNat_zero] at ih
        omega
      rw [Function.iterate_succ_apply', rotate_toNat hne, ih]
      omega

/-- Two numbers of rotations lead to the same identifier only a full cycle apart. -/
theorem rotate_iterate_eq_iff {streamId : UInt32} (h : streamId ≠ 0) (first second : Nat) :
    rotate^[first] streamId = rotate^[second] streamId ↔ first ≡ second [MOD 2 ^ 32 - 1] := by
  rw [← UInt32.toNat_inj, rotate_iterate_toNat h, rotate_iterate_toNat h]
  constructor
  · intro heq
    exact Nat.ModEq.add_left_cancel' (streamId.toNat - 1) (Nat.succ.inj heq)
  · intro hmod
    exact congrArg Nat.succ (hmod.add_left (streamId.toNat - 1))

end ControlServer

namespace HostPc

/-- The SEEK the host has taken and not yet installed. -/
def seeking : HostPc → Option ScheduledRoomAction
  | waitCutoff command | stopPlayer command | storeFrame command | branch command =>
      if command.action = .seek then some command else none
  | waitSeek next | installSeek next => some next
  | _ => none

end HostPc

namespace HostSystem

open ControlServer (rotate)

/-- A SEEK enters the mailbox only with the successor of the identifier in force,
and only while no other SEEK waits to be installed. -/
def FreshSeek (s : HostSystem) : Event → Prop
  | .commit connection =>
      match s.connections connection with
      | .stamped command _ =>
          command.action = .seek → s.room.state.pendingAction = none →
            command.nextStreamId = rotate s.room.state.streamId ∧ s.host.pc.seeking = none
      | _ => True
  | _ => True

instance (s : HostSystem) : ∀ event, Decidable (s.FreshSeek event)
  | .commit connection => (s.connections connection).decidableStamped
  | .tick _ => .isTrue trivial
  | .host _ => .isTrue trivial
  | .check _ _ _ => .isTrue trivial
  | .readClock _ => .isTrue trivial

/-- The identifier in force counts the executed seeks. -/
structure Rotating (setup : HostSetup) (s : HostSystem) : Prop where
  streamId_eq : s.room.state.streamId = rotate^[s.rotations.length] setup.room.state.streamId
  rotations : ∀ rotation ∈ s.rotations,
    rotation.former ≠ 0 ∧ rotation.installed = rotate rotation.former
  pending : ∀ action ∈ s.room.state.pendingAction, action.action = .seek →
    action.nextStreamId = rotate s.room.state.streamId ∧ s.host.pc.seeking = none
  seeking : ∀ command ∈ s.host.pc.seeking, command.nextStreamId = rotate s.room.state.streamId
  sent : ∀ sent ∈ s.sent, sent.packet.sessionId = setup.room.state.sessionId ∧
    sent.packet.streamId = rotate^[sent.seeks] setup.room.state.streamId

variable {setup : HostSetup} {s t : HostSystem} {input : HostInput}

theorem rotating_initial (setup : HostSetup) (now : Int) : Rotating setup (initial setup now) where
  streamId_eq := rfl
  rotations := by simp [initial]
  pending := by simp [initial, setup.idle]
  seeking := by simp [initial, HostPc.seeking]
  sent := by simp [initial]

/-- A move within the program that neither takes nor installs a SEEK. -/
theorem Rotating.move (hs : Rotating setup s)
    (hstream : t.room.state.streamId = s.room.state.streamId)
    (hpending : t.room.state.pendingAction = s.room.state.pendingAction)
    (hrotations : t.rotations = s.rotations) (hsent : t.sent = s.sent)
    (hseeking : t.host.pc.seeking = s.host.pc.seeking ∨ t.host.pc.seeking = none) :
    Rotating setup t where
  streamId_eq := by rw [hstream, hrotations, hs.streamId_eq]
  rotations := by rw [hrotations]; exact hs.rotations
  pending := by
    rw [hpending, hstream]
    intro action haction hseek
    obtain ⟨hnext, hnone⟩ := hs.pending action haction hseek
    refine ⟨hnext, ?_⟩
    rcases hseeking with heq | heq
    · rw [heq, hnone]
    · exact heq
  seeking := by
    intro command hcommand
    rcases hseeking with heq | heq
    · rw [heq] at hcommand
      rw [hstream]
      exact hs.seeking command hcommand
    · rw [heq] at hcommand
      cases hcommand
  sent := by rw [hsent]; exact hs.sent

/-- The host takes a pending action. -/
theorem rotating_takeStep (hs : Rotating setup s) {pc : ScheduledRoomAction → HostThread}
    {empty : HostPc} (hempty : empty.seeking = none)
    (hpc : ∀ action ∈ s.room.state.pendingAction, ∀ command ∈ (pc action).pc.seeking,
      command = action ∧ action.action = .seek) :
    Rotating setup (s.takeStep pc empty) := by
  have hpending := hs.pending
  unfold takeStep Room.takeAction
  cases haction : s.room.state.pendingAction with
  | none => exact {
      streamId_eq := hs.streamId_eq
      rotations := hs.rotations
      pending := by simp
      seeking := fun command hcommand => by
        change command ∈ empty.seeking at hcommand
        rw [hempty] at hcommand
        cases hcommand
      sent := hs.sent }
  | some action => exact {
      streamId_eq := hs.streamId_eq
      rotations := hs.rotations
      pending := by simp
      seeking := fun command hcommand => by
        obtain ⟨rfl, hseek⟩ := hpc action haction command hcommand
        exact (hpending command haction hseek).1
      sent := hs.sent }

/-- An installation is one rotation. -/
theorem rotating_installStep (hs : Rotating setup s) {command : ScheduledRoomAction} {pc : HostPc}
    (hcommand : s.host.pc.seeking = some command) (hpc : pc.seeking = none) :
    Rotating setup (s.installStep command pc) := by
  have hnext := hs.seeking command hcommand
  unfold installStep Room.setStreamId
  split_ifs with hzero
  · exact absurd (hnext.symm.trans hzero) (ControlServer.rotate_ne_zero _)
  · dsimp only
    exact {
      streamId_eq := by
        rw [List.length_append, List.length_singleton, Function.iterate_succ_apply',
          ← hs.streamId_eq]
        exact hnext
      rotations := by
        intro rotation hrotation
        rcases List.mem_append.mp hrotation with hold | hnew
        · exact hs.rotations rotation hold
        · rw [List.mem_singleton.mp hnew]
          exact ⟨s.room.state.streamId_ne, hnext⟩
      pending := by
        intro action haction hseek
        have hnone := (hs.pending action haction hseek).2
        rw [hcommand] at hnone
        cases hnone
      seeking := by
        intro other hother
        change other ∈ pc.seeking at hother
        rw [hpc] at hother
        cases hother
      sent := hs.sent }

theorem rotating_sendStep {host : DesktopNetworkHost} {segment : DesktopNetworkHost.Segment}
    {presentationTimestamp : Int} {requested : Nat} (hinvariant : Invariant setup s)
    (hs : Rotating setup s)
    (hpc : s.host.pc = .sending host segment presentationTimestamp requested)
    (h : s.sendStep setup host segment presentationTimestamp requested input = some t) :
    Rotating setup t := by
  have hstreaming : Streaming setup s host segment :=
    hinvariant.streaming (host, segment) (by rw [hpc]; rfl)
  unfold sendStep at h
  cases hsend : DesktopNetworkHost.sendPacket setup.source segment presentationTimestamp requested
      input.ready with
  | error message =>
      rw [hsend] at h
      cases h
      exact hs.move rfl rfl rfl rfl (.inr rfl)
  | ok result =>
      rw [hsend] at h
      cases result with
      | none =>
          cases h
          exact hs.move rfl rfl rfl rfl (.inr rfl)
      | some sent =>
          dsimp only at h
          split_ifs at h
          cases h
          obtain ⟨framesRead, -, -, -, -, hpacket, -⟩ :=
            DesktopNetworkHost.sendPacket_sent hstreaming.wf hsend
          have hmoved : Rotating setup (s.goto (.progress host sent.segment)) :=
            hs.move rfl rfl rfl rfl (.inr rfl)
          exact {
            streamId_eq := hmoved.streamId_eq
            rotations := hmoved.rotations
            pending := hmoved.pending
            seeking := hmoved.seeking
            sent := by
              intro transmission htransmission
              rcases List.mem_append.mp htransmission with hold | hnew
              · exact hs.sent transmission hold
              · rw [List.mem_singleton.mp hnew, hpacket]
                exact ⟨hstreaming.sessionId_eq, hstreaming.streamId_eq.trans hs.streamId_eq⟩ }

theorem rotating_hostStep (hinvariant : Invariant setup s) (hs : Rotating setup s)
    (h : s.hostStep setup input = some t) : Rotating setup t := by
  have hexpects := hinvariant.expects
  unfold hostStep at h
  cases hpc : s.host.pc <;> rw [hpc] at h hexpects <;> dsimp only at h
  case openSegment =>
      cases h
      unfold openSegment
      split
      · exact hs.move rfl rfl rfl rfl (.inr rfl)
      · split <;> exact hs.move rfl rfl rfl rfl (.inr rfl)
  case head host segment =>
      cases h
      unfold headStep
      split <;> exact hs.move rfl rfl rfl rfl (.inr rfl)
  case sending host segment presentationTimestamp requested =>
      exact rotating_sendStep hinvariant hs hpc h
  case playFrom =>
      cases h
      refine hs.move rfl rfl rfl rfl (.inr ?_)
      dsimp only [goto]
      split_ifs <;> rfl
  case takeCommand =>
      cases h
      refine rotating_takeStep hs rfl fun action _ command hcommand => ?_
      dsimp only [HostPc.seeking] at hcommand
      by_cases hseek : action.action = .seek
      · rw [if_pos hseek] at hcommand
        exact ⟨(Option.some.inj hcommand).symm, hseek⟩
      · rw [if_neg hseek] at hcommand
        cases hcommand
  case takePlay => cases h; exact rotating_takeStep hs rfl fun _ _ _ hcommand => by cases hcommand
  case takeStop => cases h; exact rotating_takeStep hs rfl fun _ _ _ hcommand => by cases hcommand
  case takeSeek =>
      cases h
      refine rotating_takeStep hs rfl fun action haction command hcommand => ?_
      have hseek : s.room.state.pendingAction.map ScheduledRoomAction.action = some .seek := hexpects
      rw [haction] at hseek
      exact ⟨(Option.some.inj hcommand).symm, Option.some.inj hseek⟩
  case waitCutoff command =>
      split_ifs at h
      cases h
      exact hs.move rfl rfl rfl rfl (.inl (by rw [hpc]; rfl))
  case stopPlayer command => cases h; exact hs.move rfl rfl rfl rfl (.inl (by rw [hpc]; rfl))
  case storeFrame command => cases h; exact hs.move rfl rfl rfl rfl (.inl (by rw [hpc]; rfl))
  case waitSeek next =>
      split_ifs at h
      cases h
      exact hs.move rfl rfl rfl rfl (.inl (by rw [hpc]; rfl))
  case waitStop next => split_ifs at h; cases h; exact hs.move rfl rfl rfl rfl (.inr rfl)
  case installSeek next => cases h; exact rotating_installStep hs (by rw [hpc]; rfl) rfl
  case branch command =>
      cases h
      unfold branchStep
      cases haction : command.action with
      | seek => exact rotating_installStep hs (by rw [hpc]; exact if_pos haction) rfl
      | play => exact hs.move rfl rfl rfl rfl (.inr rfl)
      | pause => exact hs.move rfl rfl rfl rfl (.inr rfl)
      | stop => exact hs.move rfl rfl rfl rfl (.inr rfl)
  case paused =>
      cases h
      unfold pausedStep
      split
      · exact hs.move rfl rfl rfl rfl (.inr rfl)
      · exact hs.move rfl rfl rfl rfl (.inr rfl)
      · exact hs.move rfl rfl rfl rfl (.inr rfl)
      · exact hs
      · exact hs
  case done => cases h
  case failed message => cases h
  all_goals
    cases h
    exact hs.move rfl rfl rfl rfl (.inr rfl)

theorem rotating_step {event : Event} (hs : Invariant setup s ∧ Rotating setup s)
    (h : guarded FreshSeek (step setup) s event = some t) :
    Invariant setup t ∧ Rotating setup t := by
  obtain ⟨hinvariant, hs⟩ := hs
  obtain ⟨hok, h⟩ := guarded_some.mp h
  refine ⟨invariant_step hinvariant h, ?_⟩
  cases event with
  | tick later =>
      simp only [step] at h
      split_ifs at h
      cases h
      exact hs.move rfl rfl rfl rfl (.inl rfl)
  | host input => exact rotating_hostStep hinvariant hs h
  | check connection peerAddress line =>
      simp only [step] at h
      cases hphase : s.connections connection <;> rw [hphase] at h <;> dsimp only at h
      case idle =>
          split_ifs at h
          cases hcheck : ControlServer.checkCommand s.control.totalFrames s.room.state peerAddress
              line <;> rw [hcheck] at h <;> cases h <;>
            exact hs.move rfl rfl rfl rfl (.inl rfl)
      case checked command => cases h
      case stamped command effective => cases h
  | readClock connection =>
      simp only [step] at h
      cases hphase : s.connections connection <;> rw [hphase] at h <;> cases h
      exact hs.move rfl rfl rfl rfl (.inl rfl)
  | commit connection =>
      simp only [step] at h
      simp only [FreshSeek] at hok
      cases hphase : s.connections connection <;> rw [hphase] at h hok <;> cases h
      rename_i command effective
      dsimp only at hok
      rcases s.commitStep_cases connection command effective with
        ⟨message, heq⟩ | ⟨-, heq⟩ | ⟨hnone, -, room, hpending, hstream, -, -, heq⟩ <;> rw [heq]
      · exact hs.move rfl rfl rfl rfl (.inr rfl)
      · exact hs.move rfl rfl rfl rfl (.inl rfl)
      · exact {
          streamId_eq := hstream.trans hs.streamId_eq
          rotations := hs.rotations
          pending := by
            intro action haction hseek
            dsimp only at haction ⊢
            rw [hpending] at haction
            cases haction
            rw [hstream]
            exact hok hseek hnone
          seeking := by
            dsimp only
            rw [hstream]
            exact hs.seeking
          sent := hs.sent }

/-- If every SEEK that is accepted carries the successor of the identifier in
force while no other SEEK waits to be installed, every executed seek changes the
identifier, and two packets with different numbers of seeks before them carry
the same identifiers only after a full cycle. -/
theorem seek_rotates_stream {events : List Event} {now : Int}
    (hrun : run (guarded FreshSeek (step setup)) (initial setup now) events = some s) :
    (∀ rotation ∈ s.rotations, rotation.installed ≠ rotation.former) ∧
      ∀ first ∈ s.sent, ∀ second ∈ s.sent,
        (first.packet.sessionId, first.packet.streamId) =
            (second.packet.sessionId, second.packet.streamId) ↔
          first.seeks ≡ second.seeks [MOD 2 ^ 32 - 1] := by
  have hs := (run_preserves (fun hs hstep => rotating_step hs hstep)
    ⟨invariant_initial setup now, rotating_initial setup now⟩ hrun).2
  refine ⟨fun rotation hrotation => ?_, fun first hfirst second hsecond => ?_⟩
  · obtain ⟨hne, hinstalled⟩ := hs.rotations rotation hrotation
    rw [hinstalled]
    exact ControlServer.rotate_ne _ hne
  · obtain ⟨hsession, hstream⟩ := hs.sent first hfirst
    obtain ⟨hsession', hstream'⟩ := hs.sent second hsecond
    rw [hsession, hsession', hstream, hstream', Prod.mk.injEq,
      ControlServer.rotate_iterate_eq_iff setup.room.state.streamId_ne]
    exact and_iff_right rfl

/-- A SEEK between two packets. -/
theorem seek_rotates_stream_once : ∃ s : HostSystem,
    s.rotations = [⟨1, 2⟩] ∧ s.sent.length = 2 ∧
      ∀ first ∈ s.sent, ∀ second ∈ s.sent,
        (first.packet.sessionId, first.packet.streamId) =
            (second.packet.sessionId, second.packet.streamId) ↔
          first.seeks ≡ second.seeks [MOD 2 ^ 32 - 1] := by
  have hheld : (run (guarded FreshSeek (step (shortSetup 1000))) (initial (shortSetup 1000) 0)
      (hostSteps 5 ++ (sendLine "SEEK 0").take 2 ++ hostSteps 3 ++ [.tick 1000000000] ++
        hostSteps 1 1 ++ [.commit 0] ++ hostSteps 15 ++ [.tick 2500000000] ++
        hostSteps 1)).any fun s => s.rotations = [⟨1, 2⟩] ∧ s.sent.length = 2 := by
    decide +kernel
  obtain ⟨s, hs, hheld⟩ := (Option.any_eq_true _ _).mp hheld
  obtain ⟨hrotations, hsent⟩ := of_decide_eq_true hheld
  exact ⟨s, hrotations, hsent, (seek_rotates_stream hs).2⟩

/-- A SEEK that is checked after another SEEK was taken and before it is installed. -/
theorem second_seek_keeps_stream : ∃ s : HostSystem,
    run (step (shortSetup 1000)) (initial (shortSetup 1000) 0)
        (hostSteps 5 ++ sendLine "SEEK 0" ++ hostSteps 4 ++ sendLine "SEEK 1" ++
          [.tick 500000000] ++ hostSteps 17) = some s ∧
      ∃ rotation ∈ s.rotations, rotation.installed = rotation.former := by
  have hheld : (run (step (shortSetup 1000)) (initial (shortSetup 1000) 0)
      (hostSteps 5 ++ sendLine "SEEK 0" ++ hostSteps 4 ++ sendLine "SEEK 1" ++
        [.tick 500000000] ++ hostSteps 17)).any fun s => s.rotations = [⟨1, 2⟩, ⟨2, 2⟩] := by
    decide +kernel
  obtain ⟨s, hs, hrotations⟩ := (Option.any_eq_true _ _).mp hheld
  refine ⟨s, hs, ⟨2, 2⟩, ?_, rfl⟩
  rw [of_decide_eq_true hrotations]
  exact List.mem_cons_of_mem _ List.mem_cons_self

end HostSystem

end SyncAudio
