import SyncAudio.System.CommandMailbox

/-!
# The presentation timeline

A segment presents its first frame at `segmentStart` plus the output latency.
`segmentStart` moves with a SEEK and with a PLAY that ends a PAUSE. A PLAY that
reaches the outer loop ends the segment and falls through: the next segment
starts where the former one had started. As long as a PLAY is accepted during a
PAUSE only, and a command takes effect behind everything that was sent when it
was accepted, the presentation timestamps increase.
-/

namespace SyncAudio

open LabelledRun
open DesktopNetworkHost (Segment)

namespace HostPc

/-- The command the outer loop has taken and executes. -/
def executing : HostPc → Option ScheduledRoomAction
  | waitCutoff command | stopPlayer command | storeFrame command | branch command
  | seeked command => some command
  | _ => none

/-- The presentation time of the packet that is about to be sent. -/
def sendingTime : HostPc → Option Int
  | sending _ _ presentationTimestamp _ => some presentationTimestamp
  | _ => none

/-- The places without an obligation of their own. -/
def quiet : HostPc → Bool
  | start | begin | sending .. => false
  | _ => true

end HostPc

namespace HostSystem

/-- The presentation time of a packet that was sent. -/
def presentation (sent : Transmission) : Int :=
  sent.packet.presentationTimestampNanoseconds.toNat

/-- Every packet that was sent is presented before `time`. -/
def Before (s : HostSystem) (time : Int) : Prop := ∀ sent ∈ s.sent, presentation sent < time

instance (s : HostSystem) (time : Int) : Decidable (s.Before time) :=
  inferInstanceAs (Decidable (∀ _ ∈ _, _))

/-- The presentation time of the first frame of a segment that starts at `segmentStart`. -/
def firstPresentation (setup : HostSetup) (segmentStart : Int) : Int :=
  segmentStart + setup.hostOutputLatency * millisecond

/-- The presentation time of the next packet, as far as it is fixed. -/
def due (setup : HostSetup) (s : HostSystem) : Option Int :=
  match s.host.pc with
  | .begin | .publish | .playFrom | .startPlaying | .setPlaying | .openSegment =>
      some (firstPresentation setup s.host.segmentStart)
  | .head _ segment | .sending _ segment _ _ | .progress _ segment =>
      some (segment.clock.startTime +
        segment.clock.frameNanoseconds (segment.startFrame - segment.initialFrame))
  | .waitCutoff command | .stopPlayer command | .storeFrame command | .branch command =>
      if command.action = .seek then
        some (firstPresentation setup command.effectiveHostNanoseconds)
      else none
  | .seeked command => some (firstPresentation setup command.effectiveHostNanoseconds)
  | _ => none

/-- A PLAY is accepted only during a PAUSE. A PLAY, and a SEEK outside a PAUSE,
take effect behind all packets that were or are about to be sent, and such a
SEEK needs an output that is at most 500 ms early. -/
def OrderedCommand (setup : HostSetup) (s : HostSystem) : Event → Prop
  | .commit connection =>
      match s.connections connection with
      | .stamped command effective =>
          s.room.state.pendingAction = none →
            (command.action = .play →
              s.host.pc.pausing = true ∧ s.Before (firstPresentation setup effective)) ∧
            (command.action = .seek → s.host.pc.pausing = false →
              -500 ≤ setup.hostOutputLatency ∧ s.Before (firstPresentation setup effective) ∧
                ∀ time ∈ s.host.pc.sendingTime, time < firstPresentation setup effective)
      | _ => True
  | _ => True

instance (setup : HostSetup) (s : HostSystem) :
    ∀ event, Decidable (s.OrderedCommand setup event)
  | .commit connection => (s.connections connection).decidableStamped
  | .tick _ => .isTrue trivial
  | .host _ => .isTrue trivial
  | .check _ _ _ => .isTrue trivial
  | .readClock _ => .isTrue trivial

/-- Everything that was sent is presented before everything that will be. -/
structure Ordered (setup : HostSetup) (s : HostSystem) : Prop where
  increasing : (s.sent.map presentation).Pairwise (· < ·)
  due : ∀ time ∈ s.due setup, s.Before time
  executing : ∀ command ∈ s.host.pc.executing,
    command.action ≠ .play ∧ s.taken.getLast? = some command
  starts : s.host.pc = .begin → ∀ command ∈ s.taken.getLast?,
    s.host.segmentStart = command.effectiveHostNanoseconds
  first : s.host.pc = .start → s.sent = [] ∧ s.taken = []
  play : s.host.pc.ended = false → ∀ action ∈ s.room.state.pendingAction,
    action.action = .play →
      s.host.pc.pausing = true ∧ s.Before (firstPresentation setup action.effectiveHostNanoseconds)
  seek : s.host.pc.ended = false → s.host.pc.pausing = false →
    ∀ action ∈ s.room.state.pendingAction, action.action = .seek →
      -500 ≤ setup.hostOutputLatency ∧
        s.Before (firstPresentation setup action.effectiveHostNanoseconds) ∧
        ∀ time ∈ s.host.pc.sendingTime,
          time < firstPresentation setup action.effectiveHostNanoseconds

variable {setup : HostSetup} {s t : HostSystem} {input : HostInput}

theorem ordered_initial (setup : HostSetup) (now : Int) : Ordered setup (initial setup now) where
  increasing := List.Pairwise.nil
  due := by simp [initial, HostSystem.due]
  executing := by simp [initial, HostPc.executing]
  starts := fun h => by cases h
  first := fun _ => ⟨rfl, rfl⟩
  play := by simp [initial, setup.idle]
  seek := by simp [initial, setup.idle]

/-- A step that sends nothing, takes nothing and leads to a quiet place. -/
theorem Ordered.move (hs : Ordered setup s) (hsent : t.sent = s.sent) (htaken : t.taken = s.taken)
    (hpending : t.room.state.pendingAction = s.room.state.pendingAction)
    (hdue : ∀ time ∈ t.due setup, s.Before time)
    (hexecuting : ∀ command ∈ t.host.pc.executing, command ∈ s.host.pc.executing)
    (hquiet : t.host.pc.quiet = true) (hpausing : t.host.pc.pausing = s.host.pc.pausing)
    (hrunning : s.host.pc.ended = false) : Ordered setup t where
  increasing := by rw [hsent]; exact hs.increasing
  due := fun time htime => by
    rw [Before, hsent]
    exact hdue time htime
  executing := fun command hcommand => by
    rw [htaken]
    exact hs.executing command (hexecuting command hcommand)
  starts := fun h => by
    rw [h] at hquiet
    cases hquiet
  first := fun h => by
    rw [h] at hquiet
    cases hquiet
  play := fun _ => by
    rw [hpending, hpausing]
    simp only [Before, hsent]
    exact hs.play hrunning
  seek := fun _ hstreaming => by
    rw [hpausing] at hstreaming
    rw [hpending]
    intro action haction hseek
    obtain ⟨hlatency, hbefore, -⟩ := hs.seek hrunning hstreaming action haction hseek
    refine ⟨hlatency, ?_, fun time htime => ?_⟩
    · rw [Before, hsent]
      exact hbefore
    · cases hpc : t.host.pc <;> rw [hpc] at htime hquiet <;> cases htime
      cases hquiet

/-- The session is over. -/
theorem Ordered.over (hs : Ordered setup s) (hsent : t.sent = s.sent)
    (hended : t.host.pc.ended = true) : Ordered setup t where
  increasing := by rw [hsent]; exact hs.increasing
  due := fun time htime => by
    unfold HostSystem.due at htime
    cases hpc : t.host.pc <;> rw [hpc] at htime hended <;> first
      | exact absurd hended Bool.false_ne_true
      | cases htime
  executing := fun command hcommand => by
    cases hpc : t.host.pc <;> rw [hpc] at hcommand hended <;> first
      | exact absurd hended Bool.false_ne_true
      | cases hcommand
  starts := fun h => by rw [h] at hended; cases hended
  first := fun h => by rw [h] at hended; cases hended
  play := fun h => absurd (hended.symm.trans h) (by decide)
  seek := fun h => absurd (hended.symm.trans h) (by decide)

/-- The host arrives at a place with an empty mailbox. -/
theorem Ordered.emptied (hs : Ordered setup s) (hsent : t.sent = s.sent)
    (hpending : t.room.state.pendingAction = none)
    (hdue : ∀ time ∈ t.due setup, s.Before time)
    (hexecuting : ∀ command ∈ t.host.pc.executing,
      command.action ≠ .play ∧ t.taken.getLast? = some command)
    (hstarts : t.host.pc = .begin → ∀ command ∈ t.taken.getLast?,
      t.host.segmentStart = command.effectiveHostNanoseconds)
    (hstart : t.host.pc ≠ .start) : Ordered setup t where
  increasing := by rw [hsent]; exact hs.increasing
  due := fun time htime => by
    rw [Before, hsent]
    exact hdue time htime
  executing := hexecuting
  starts := hstarts
  first := fun h => absurd h hstart
  play := fun _ => by simp [hpending]
  seek := fun _ _ => by simp [hpending]

/-- The host starts the next segment. -/
theorem Ordered.toBegin (hs : Ordered setup s) (hsent : t.sent = s.sent) (htaken : t.taken = s.taken)
    (hpending : t.room.state.pendingAction = s.room.state.pendingAction)
    (hpc : t.host.pc = .begin)
    (hdue : s.Before (firstPresentation setup t.host.segmentStart))
    (hstarts : ∀ command ∈ s.taken.getLast?,
      t.host.segmentStart = command.effectiveHostNanoseconds)
    (hpausing : s.host.pc.pausing = false) (hrunning : s.host.pc.ended = false) :
    Ordered setup t where
  increasing := by rw [hsent]; exact hs.increasing
  due := fun time htime => by
    unfold HostSystem.due at htime
    rw [hpc] at htime
    cases htime
    rw [Before, hsent]
    exact hdue
  executing := fun command hcommand => by
    rw [hpc] at hcommand
    cases hcommand
  starts := fun _ => by rw [htaken]; exact hstarts
  first := fun h => by
    rw [hpc] at h
    cases h
  play := fun _ => by
    rw [hpending]
    intro action haction hisPlay
    have := (hs.play hrunning action haction hisPlay).1
    rw [hpausing] at this
    cases this
  seek := fun _ _ => by
    rw [hpending]
    intro action haction hisSeek
    obtain ⟨hlatency, hbefore, -⟩ := hs.seek hrunning hpausing action haction hisSeek
    refine ⟨hlatency, ?_, fun time htime => ?_⟩
    · rw [Before, hsent]
      exact hbefore
    · rw [hpc] at htime
      cases htime

theorem ordered_openSegment (hs : Ordered setup s) (hpc : s.host.pc = .openSegment) :
    Ordered setup (s.openSegment setup input) := by
  have hdue := hs.due
  unfold HostSystem.due at hdue
  rw [hpc] at hdue
  unfold openSegment
  split
  · exact hs.over rfl rfl
  · next host hmake =>
      split
      · exact hs.over rfl rfl
      · next segment hbegin =>
          obtain ⟨-, -, -, hstart, hinitial, hframe, -⟩ :=
            DesktopNetworkHost.beginSegment_ok hbegin
          have hconfig := DesktopNetworkHost.make_ok hmake
          have hfirst : segment.clock.startTime +
              segment.clock.frameNanoseconds (segment.startFrame - segment.initialFrame) =
                firstPresentation setup s.host.segmentStart := by
            rw [hstart, hinitial, hframe, Nat.sub_self, PlaybackClock.frameNanoseconds_zero, hconfig,
              Int.natCast_zero, Int.add_zero]
            rfl
          refine hs.move rfl rfl rfl ?_ (fun _ h => by cases h) rfl (by rw [hpc]; rfl)
            (by rw [hpc]; rfl)
          intro time htime
          cases htime
          rw [hfirst]
          exact hdue _ rfl

/-- A packet is decided on only before the cutoff of a pending SEEK. -/
theorem ordered_headStep {host : DesktopNetworkHost} {segment : Segment}
    (hinvariant : Invariant setup s) (hs : Ordered setup s) (hpc : s.host.pc = .head host segment) :
    Ordered setup (s.headStep host segment input) := by
  have hstreaming : Streaming setup s host segment :=
    hinvariant.streaming (host, segment) (by rw [hpc]; rfl)
  have hdue := hs.due
  unfold HostSystem.due at hdue
  have hplay := hs.play
  have hseek := hs.seek
  rw [hpc] at hdue hplay hseek
  unfold headStep
  cases hturn : host.turn segment input.outputRouteChanged s.room.state.pendingAction with
  | error message => exact hs.over rfl rfl
  | ok result =>
      cases result with
      | endedForCommand =>
          exact hs.move rfl rfl rfl (fun _ h => by cases h) (fun _ h => by cases h) rfl
            (by rw [hpc]; rfl) (by rw [hpc]; rfl)
      | send presentationTimestamp requested =>
          obtain ⟨-, -, hcutoff, -, -⟩ := DesktopNetworkHost.turn_send hstreaming.wf hturn
          exact {
            increasing := hs.increasing
            due := hdue
            executing := fun _ h => by cases h
            starts := fun h => by cases h
            first := fun h => by cases h
            play := hplay
            seek := fun _ _ action haction hisSeek => by
              obtain ⟨hlatency, hbefore, -⟩ := hseek rfl rfl action haction hisSeek
              refine ⟨hlatency, hbefore, fun time htime => ?_⟩
              cases htime
              have hlt := hcutoff action haction
              rw [DesktopNetworkHost.cutoff, if_pos hisSeek, hstreaming.sendAhead_eq] at hlt
              unfold firstPresentation
              unfold sendAhead millisecond at *
              omega }

theorem presentation_packet {segment : Segment} {presentationTimestamp : Int} {framesRead : Nat}
    (hnonneg : 0 ≤ presentationTimestamp)
    (hmaximum : presentationTimestamp ≤ (PlaybackClock.maximumDuration : Int)) (seeks : Nat) :
    presentation ⟨DesktopNetworkHost.packet setup.source segment presentationTimestamp framesRead,
      seeks⟩ = presentationTimestamp := by
  have hlt : presentationTimestamp.toNat < 2 ^ 64 := by
    unfold PlaybackClock.maximumDuration at hmaximum
    omega
  have htoNat : (UInt64.ofNat presentationTimestamp.toNat).toNat = presentationTimestamp.toNat :=
    UInt64.toNat_ofNat_of_lt' hlt
  change ((UInt64.ofNat presentationTimestamp.toNat).toNat : Int) = presentationTimestamp
  rw [htoNat]
  exact Int.toNat_of_nonneg hnonneg

/-- The next packet of a segment is presented behind the one that is sent. -/
theorem ordered_sendStep {host : DesktopNetworkHost} {segment : Segment}
    {presentationTimestamp : Int} {requested : Nat} (hinvariant : Invariant setup s)
    (hs : Ordered setup s)
    (hpc : s.host.pc = .sending host segment presentationTimestamp requested)
    (h : s.sendStep setup host segment presentationTimestamp requested input = some t) :
    Ordered setup t := by
  have hstreaming : Streaming setup s host segment :=
    hinvariant.streaming (host, segment) (by rw [hpc]; rfl)
  obtain ⟨-, htime, hmaximum⟩ := hinvariant.sending hpc
  have hdue := hs.due
  unfold HostSystem.due at hdue
  have hplay := hs.play
  have hseek := hs.seek
  rw [hpc] at hdue hplay hseek
  have hbefore : s.Before presentationTimestamp := hdue _ (by rw [htime]; rfl)
  unfold sendStep at h
  cases hsend : DesktopNetworkHost.sendPacket setup.source segment presentationTimestamp requested
      input.ready with
  | error message =>
      rw [hsend] at h
      cases h
      exact hs.over rfl rfl
  | ok result =>
      rw [hsend] at h
      cases result with
      | none =>
          cases h
          exact hs.over rfl rfl
      | some sent =>
          dsimp only at h
          split_ifs at h
          cases h
          obtain ⟨framesRead, hread, -, hend, hnonneg, hpacket, -, -, hnext⟩ :=
            DesktopNetworkHost.sendPacket_sent hstreaming.wf hsend
          have hpresentation : presentation ⟨sent.packet, s.rotations.length⟩ =
              presentationTimestamp := by
            rw [hpacket]
            exact presentation_packet hnonneg hmaximum _
          have hinitial := hstreaming.wf.initialFrame_le
          have hrate : segment.clock.sampleRate ≤ PlaybackClock.nanosecondsPerSecond := by
            rw [hstreaming.wf.sampleRate_eq]
            exact Nat.le_trans setup.source.sampleRate_le (by decide)
          have hlater := PlaybackClock.frameNanoseconds_lt hrate
            (show segment.startFrame - segment.initialFrame <
              segment.startFrame + framesRead - segment.initialFrame by omega)
          have hextend {time : Int} (hold : s.Before time) (hnew : presentationTimestamp < time) :
              ∀ other ∈ s.sent ++ [⟨sent.packet, s.rotations.length⟩], presentation other < time := by
            intro other hother
            rcases List.mem_append.mp hother with hmem | hmem
            · exact hold other hmem
            · rw [List.mem_singleton.mp hmem, hpresentation]
              exact hnew
          exact {
            increasing := by
              rw [List.map_append, List.map_singleton, hpresentation]
              refine List.pairwise_append.mpr ⟨hs.increasing, List.pairwise_singleton _ _, ?_⟩
              intro earlier hearlier later hlater
              obtain ⟨other, hother, rfl⟩ := List.mem_map.mp hearlier
              rw [List.mem_singleton.mp hlater]
              exact hbefore other hother
            due := fun time hmem => by
              cases hmem
              rw [hnext]
              dsimp only
              refine hextend (fun other hother => ?_) (by omega)
              have := hbefore other hother
              omega
            executing := fun _ h => by cases h
            starts := fun h => by cases h
            first := fun h => by cases h
            play := fun _ action haction hisPlay => by
              have := (hplay rfl action haction hisPlay).1
              cases this
            seek := fun _ _ action haction hisSeek => by
              obtain ⟨hlatency, hold, hsending⟩ := hseek rfl rfl action haction hisSeek
              exact ⟨hlatency, hextend hold (hsending _ rfl), fun time hmem => by cases hmem⟩ }

theorem ordered_installStep {command : ScheduledRoomAction} {pc : HostPc} (hs : Ordered setup s)
    (hdue : ∀ time ∈ ({ s with host := { s.host with pc } } : HostSystem).due setup, s.Before time)
    (hexecuting : ∀ other ∈ pc.executing, other ∈ s.host.pc.executing)
    (hquiet : pc.quiet = true) (hpausing : pc.pausing = s.host.pc.pausing)
    (hrunning : s.host.pc.ended = false) : Ordered setup (s.installStep command pc) := by
  unfold installStep Room.setStreamId
  split_ifs
  · exact hs.over rfl rfl
  · refine hs.move rfl rfl rfl ?_ hexecuting hquiet hpausing hrunning
    intro time htime
    refine hdue time ?_
    unfold HostSystem.due at htime ⊢
    dsimp only at htime ⊢
    cases pc <;> exact htime

theorem ordered_takeStep (hs : Ordered setup s) {pc : ScheduledRoomAction → HostThread}
    {empty : HostPc} (hempty : (∀ time ∈ (s.goto empty).due setup, s.Before time) ∧
      empty.executing = none ∧ empty.quiet = true)
    (hdue : ∀ action ∈ s.room.state.pendingAction,
      ∀ time ∈ ({ s with host := pc action } : HostSystem).due setup, s.Before time)
    (hexecuting : ∀ action ∈ s.room.state.pendingAction, ∀ command ∈ (pc action).pc.executing,
      command.action ≠ .play ∧ command = action)
    (hstarts : ∀ action, (pc action).pc = .begin →
      (pc action).segmentStart = action.effectiveHostNanoseconds)
    (hstart : ∀ action, (pc action).pc ≠ .start) : Ordered setup (s.takeStep pc empty) := by
  obtain ⟨hdueEmpty, hexecutingEmpty, hquietEmpty⟩ := hempty
  unfold takeStep Room.takeAction
  cases haction : s.room.state.pendingAction with
  | none =>
      refine hs.emptied rfl rfl ?_ ?_ ?_ ?_
      · exact hdueEmpty
      · intro command hcommand
        change command ∈ empty.executing at hcommand
        rw [hexecutingEmpty] at hcommand
        cases hcommand
      · intro h
        change empty = .begin at h
        rw [h] at hquietEmpty
        cases hquietEmpty
      · intro h
        change empty = .start at h
        rw [h] at hquietEmpty
        cases hquietEmpty
  | some action =>
      refine hs.emptied rfl rfl (hdue action haction) ?_ ?_ (hstart action)
      · intro command hcommand
        obtain ⟨hne, rfl⟩ := hexecuting action haction command hcommand
        exact ⟨hne, List.getLast?_concat⟩
      · intro hbegin command hcommand
        rw [List.getLast?_concat] at hcommand
        cases hcommand
        exact hstarts action hbegin

theorem ordered_hostStep (hinvariant : Invariant setup s) (hs : Ordered setup s)
    (h : s.hostStep setup input = some t) : Ordered setup t := by
  have hexpects := hinvariant.expects
  have hdue := hs.due
  have hexecuting := hs.executing
  have hplay := hs.play
  have hseek := hs.seek
  unfold HostSystem.due at hdue
  unfold hostStep at h
  cases hpc : s.host.pc <;> rw [hpc] at h hexpects hdue hexecuting hplay hseek <;> dsimp only at h hdue
  case start =>
      cases h
      obtain ⟨hsent, htaken⟩ := hs.first hpc
      refine hs.toBegin rfl rfl rfl rfl ?_ ?_ (by rw [hpc]; rfl) (by rw [hpc]; rfl)
      · rw [Before, hsent]
        simp
      · rw [htaken]
        simp
  case begin =>
      cases h
      exact hs.move rfl rfl rfl hdue (fun _ h => by cases h) rfl (by rw [hpc]; rfl) (by rw [hpc]; rfl)
  case publish =>
      cases h
      exact hs.move rfl rfl rfl hdue (fun _ h => by cases h) rfl (by rw [hpc]; rfl) (by rw [hpc]; rfl)
  case playFrom =>
      cases h
      by_cases hfails : input.playbackFails = true
      · rw [if_pos hfails]
        exact hs.over rfl rfl
      · rw [if_neg hfails]
        exact hs.move rfl rfl rfl hdue (fun _ h => by cases h) rfl (by rw [hpc]; rfl)
          (by rw [hpc]; rfl)
  case startPlaying =>
      cases h
      exact hs.move rfl rfl rfl hdue (fun _ h => by cases h) rfl (by rw [hpc]; rfl) (by rw [hpc]; rfl)
  case setPlaying =>
      cases h
      exact hs.move rfl rfl rfl hdue (fun _ h => by cases h) rfl (by rw [hpc]; rfl) (by rw [hpc]; rfl)
  case openSegment => cases h; exact ordered_openSegment hs hpc
  case head host segment => cases h; exact ordered_headStep hinvariant hs hpc
  case sending host segment presentationTimestamp requested =>
      exact ordered_sendStep hinvariant hs hpc h
  case progress host segment =>
      cases h
      exact hs.move rfl rfl rfl hdue (fun _ h => by cases h) rfl (by rw [hpc]; rfl) (by rw [hpc]; rfl)
  case takeCommand =>
      cases h
      refine ordered_takeStep hs ⟨(fun _ h => by cases h), rfl, rfl⟩ ?_ ?_ (fun _ h => by cases h)
        (fun _ h => by cases h)
      · intro action haction time htime
        change time ∈ (if action.action = .seek then _ else none) at htime
        split_ifs at htime with hisSeek
        · cases htime
          exact (hseek rfl rfl action haction hisSeek).2.1
        · cases htime
      · intro action haction command hcommand
        cases hcommand
        refine ⟨fun hisPlay => ?_, rfl⟩
        cases (hplay rfl action haction hisPlay).1
  case waitCutoff command =>
      split_ifs at h
      cases h
      exact hs.move rfl rfl rfl hdue (by rw [hpc]; exact fun _ h => h) rfl (by rw [hpc]; rfl)
        (by rw [hpc]; rfl)
  case stopPlayer command =>
      cases h
      exact hs.move rfl rfl rfl hdue (by rw [hpc]; exact fun _ h => h) rfl (by rw [hpc]; rfl)
        (by rw [hpc]; rfl)
  case storeFrame command =>
      cases h
      exact hs.move rfl rfl rfl hdue (by rw [hpc]; exact fun _ h => h) rfl (by rw [hpc]; rfl)
        (by rw [hpc]; rfl)
  case branch command =>
      cases h
      obtain ⟨hnotPlay, -⟩ := hexecuting command rfl
      unfold branchStep
      cases haction : command.action with
      | play => exact absurd haction hnotPlay
      | stop => exact hs.over rfl rfl
      | pause =>
          exact hs.move rfl rfl rfl (fun _ h => by cases h) (fun _ h => by cases h) rfl
            (by rw [hpc]; exact (decide_eq_true haction).symm) (by rw [hpc]; rfl)
      | seek =>
          rw [if_pos haction] at hdue
          refine ordered_installStep hs hdue (by rw [hpc]; exact fun _ h => h) rfl ?_
            (by rw [hpc]; rfl)
          rw [hpc]
          exact (decide_eq_false (by rw [haction]; decide)).symm
  case seeked command =>
      cases h
      obtain ⟨-, hlast⟩ := hexecuting command rfl
      refine hs.toBegin rfl rfl rfl rfl (hdue _ rfl) ?_ (by rw [hpc]; rfl) (by rw [hpc]; rfl)
      rw [hlast]
      intro other hother
      cases hother
      rfl
  case paused =>
      cases h
      unfold pausedStep
      split
      · exact hs.move rfl rfl rfl (fun _ h => by cases h) (fun _ h => by cases h) rfl
          (by rw [hpc]; rfl) (by rw [hpc]; rfl)
      · exact hs.move rfl rfl rfl (fun _ h => by cases h) (fun _ h => by cases h) rfl
          (by rw [hpc]; rfl) (by rw [hpc]; rfl)
      · exact hs.move rfl rfl rfl (fun _ h => by cases h) (fun _ h => by cases h) rfl
          (by rw [hpc]; rfl) (by rw [hpc]; rfl)
      · exact hs
      · exact hs
  case takePlay =>
      cases h
      refine ordered_takeStep hs ⟨(fun _ h => by cases h), rfl, rfl⟩ ?_ (fun _ _ _ h => by cases h)
        (fun _ _ => rfl) (fun _ h => by cases h)
      intro action haction time htime
      cases htime
      have hisPlay : s.room.state.pendingAction.map ScheduledRoomAction.action = some .play :=
        hexpects
      rw [haction] at hisPlay
      exact (hplay rfl action haction (Option.some.inj hisPlay)).2
  case takeSeek =>
      cases h
      exact ordered_takeStep hs ⟨(fun _ h => by cases h), rfl, rfl⟩ (fun _ _ _ h => by cases h)
        (fun _ _ _ h => by cases h) (fun _ h => by cases h) (fun _ h => by cases h)
  case takeStop =>
      cases h
      exact ordered_takeStep hs ⟨(fun _ h => by cases h), rfl, rfl⟩ (fun _ _ _ h => by cases h)
        (fun _ _ _ h => by cases h) (fun _ h => by cases h) (fun _ h => by cases h)
  case waitSeek next =>
      split_ifs at h
      cases h
      exact hs.move rfl rfl rfl (fun _ h => by cases h) (fun _ h => by cases h) rfl
        (by rw [hpc]; rfl) (by rw [hpc]; rfl)
  case installSeek next =>
      cases h
      exact ordered_installStep hs (fun _ h => by cases h) (fun _ h => by cases h) rfl
        (by rw [hpc]; rfl) (by rw [hpc]; rfl)
  case publishSeek next =>
      cases h
      exact hs.move rfl rfl rfl (fun _ h => by cases h) (fun _ h => by cases h) rfl
        (by rw [hpc]; rfl) (by rw [hpc]; rfl)
  case storeSeek next =>
      cases h
      exact hs.move rfl rfl rfl (fun _ h => by cases h) (fun _ h => by cases h) rfl
        (by rw [hpc]; rfl) (by rw [hpc]; rfl)
  case waitStop next => split_ifs at h; cases h; exact hs.over rfl rfl
  case draining => cases h; exact hs.over rfl rfl
  case finish => cases h; exact hs.over rfl rfl
  case finishing => cases h; exact hs.over rfl rfl
  case done => cases h
  case failed message => cases h

theorem ordered_step {event : Event} (hs : Invariant setup s ∧ Ordered setup s)
    (h : guarded (OrderedCommand setup) (step setup) s event = some t) :
    Invariant setup t ∧ Ordered setup t := by
  obtain ⟨hinvariant, hs⟩ := hs
  obtain ⟨hok, h⟩ := guarded_some.mp h
  refine ⟨invariant_step hinvariant h, ?_⟩
  cases event with
  | tick later =>
      simp only [step] at h
      split_ifs at h
      cases h
      exact { hs with }
  | host input => exact ordered_hostStep hinvariant hs h
  | check connection peerAddress line =>
      simp only [step] at h
      cases hphase : s.connections connection <;> rw [hphase] at h <;> dsimp only at h
      case idle =>
          split_ifs at h
          cases hcheck : ControlServer.checkCommand s.control.totalFrames s.room.state peerAddress
              line <;> rw [hcheck] at h <;> cases h
          · exact hs
          · exact { hs with }
      case checked command => cases h
      case stamped command effective => cases h
  | readClock connection =>
      simp only [step] at h
      cases hphase : s.connections connection <;> rw [hphase] at h <;> cases h
      exact { hs with }
  | commit connection =>
      simp only [step] at h
      simp only [OrderedCommand] at hok
      cases hphase : s.connections connection <;> rw [hphase] at h hok <;> cases h
      rename_i command effective
      dsimp only at hok
      rcases s.commitStep_cases connection command effective with
        ⟨message, heq⟩ | ⟨-, heq⟩ | ⟨hnone, -, room, hpending, -, -, -, heq⟩ <;> rw [heq]
      · exact hs.over rfl rfl
      · exact { hs with }
      · obtain ⟨hplay, hseek⟩ := hok hnone
        exact { hs with
          play := fun _ action haction hisPlay => by
            dsimp only at haction
            rw [hpending] at haction
            cases haction
            exact hplay hisPlay
          seek := fun _ hstreaming action haction hisSeek => by
            dsimp only at haction
            rw [hpending] at haction
            cases haction
            exact hseek hisSeek hstreaming }

/-- If a PLAY is accepted during a PAUSE only, and every PLAY, and every SEEK
outside a PAUSE, takes effect behind the packets that were or are about to be
sent, the presentation timestamps increase over the whole session, and every
segment behind the first starts at the effective time of the last command. -/
theorem timeline_increases {events : List Event} {now : Int}
    (hrun : run (guarded (OrderedCommand setup) (step setup)) (initial setup now) events = some s) :
    (s.sent.map presentation).Pairwise (· < ·) ∧
      (s.host.pc = .begin → ∀ command ∈ s.taken.getLast?,
        s.host.segmentStart = command.effectiveHostNanoseconds) := by
  have hs := (run_preserves (fun hs hstep => ordered_step hs hstep)
    ⟨invariant_initial setup now, ordered_initial setup now⟩ hrun).2
  exact ⟨hs.increasing, hs.starts⟩

/-- A SEEK between two packets. -/
theorem timeline_increases_seek : ∃ s : HostSystem,
    s.sent.length = 2 ∧ (s.sent.map presentation).Pairwise (· < ·) := by
  have hheld : (run (guarded (OrderedCommand (shortSetup 1000)) (step (shortSetup 1000)))
      (initial (shortSetup 1000) 0)
      (hostSteps 5 ++ (sendLine "SEEK 0").take 2 ++ hostSteps 3 ++ [.tick 1000000000] ++
        hostSteps 1 1 ++ [.commit 0] ++ hostSteps 15 ++ [.tick 2500000000] ++
        hostSteps 1)).any fun s => s.sent.length = 2 := by
    decide +kernel
  obtain ⟨s, hs, hsent⟩ := (Option.any_eq_true _ _).mp hheld
  exact ⟨s, of_decide_eq_true hsent, (timeline_increases hs).1⟩

/-- A PLAY that is accepted before the host sets the room to Playing: two packets
are presented at the same time. -/
theorem early_play_repeats_timestamp : ∃ s : HostSystem,
    run (step (shortSetup 1000)) (initial (shortSetup 1000) 0)
        (sendLine "PLAY" ++ [.tick 499900000] ++ hostSteps 8 ++ [.tick 1499900000] ++
          hostSteps 16 1) = some s ∧
      s.sent.map presentation = [1999900000, 1999900000] := by
  have hheld : (run (step (shortSetup 1000)) (initial (shortSetup 1000) 0)
      (sendLine "PLAY" ++ [.tick 499900000] ++ hostSteps 8 ++ [.tick 1499900000] ++
        hostSteps 16 1)).any fun s => s.sent.map presentation = [1999900000, 1999900000] := by
    decide +kernel
  obtain ⟨s, hs, hsent⟩ := (Option.any_eq_true _ _).mp hheld
  exact ⟨s, hs, of_decide_eq_true hsent⟩

end HostSystem

end SyncAudio
