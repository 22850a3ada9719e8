import SyncAudio.Desktop.RunHost
import SyncAudio.Ios.ReceiverSnapshot

/-!
# Packet identities

`streamFile` counts the packets of its segment from zero, and a PAUSE ends a
segment without a change of the stream identifier. The packets of the resumed
segment then repeat the sequence numbers of the first, and the duplicate filter
of the phone refuses them. As long as every segment that sends has a stream
identifier of its own, and at most 2^32 packets, the identities are unique and
the phone accepts every packet.
-/

namespace SyncAudio

open LabelledRun
open StreamAccumulator (Stream Consecutive)

namespace StreamAccumulator

theorem consecutive_append {stream : Stream} {number : Nat} {packets others : List AudioPacket} :
    Consecutive stream number (packets ++ others) ↔
      Consecutive stream number packets ∧
        Consecutive stream (number + packets.length) others := by
  induction packets generalizing number with
  | nil => simp [Consecutive]
  | cons packet packets ih =>
      rw [List.cons_append, Consecutive, ih, Consecutive, List.length_cons, and_assoc,
        Nat.add_right_comm, Nat.add_assoc number]

/-- The sequence numbers of consecutive packets lie in a range. -/
theorem Consecutive.sequenceNumber_lt {stream : Stream} {number : Nat}
    {packets : List AudioPacket} (h : Consecutive stream number packets)
    (hnumber : number + packets.length ≤ 2 ^ 32) {packet : AudioPacket} (hmem : packet ∈ packets) :
    packet.sequenceNumber.toNat < number + packets.length := by
  induction packets generalizing number with
  | nil => cases hmem
  | cons head packets ih =>
      rw [List.length_cons] at hnumber ⊢
      rcases List.mem_cons.mp hmem with rfl | hrest
      · have htoNat : (UInt32.ofNat number).toNat = number :=
          UInt32.toNat_ofNat_of_lt' (by change number < 2 ^ 32; omega)
        rw [h.1.sequenceNumber_eq, htoNat]
        omega
      · have := ih h.2 (by omega) hrest
        omega

end StreamAccumulator

namespace HostSystem

/-- The triple that tells packets apart. -/
def identity (packet : AudioPacket) : UInt64 × UInt32 × UInt32 :=
  (packet.sessionId, packet.streamId, packet.sequenceNumber)

/-- The packets that were sent under a stream identifier. -/
def underStream (s : HostSystem) (streamId : UInt32) : List AudioPacket :=
  (s.sent.map Transmission.packet).filter fun packet => packet.streamId = streamId

/-- What all packets under a stream identifier have in common. -/
def streamOf (setup : HostSetup) (streamId : UInt32) : Stream where
  sessionId := setup.room.state.sessionId
  streamId
  sampleRate := setup.source.sampleRate
  channelCount := setup.source.channels

/-- A packet with sequence number zero goes out only under an identifier that no
packet carries yet. `FreshOpening` along a run implies it, in terms of the openings. -/
def FreshSegment (s : HostSystem) : Event → Prop
  | .host _ =>
      match s.host.pc with
      | .sending _ segment _ _ => segment.sequenceNumber = 0 → s.underStream segment.streamId = []
      | _ => True
  | _ => True

instance (s : HostSystem) (event : Event) : Decidable (s.FreshSegment event) := by
  unfold FreshSegment
  split
  · split <;> infer_instance
  · infer_instance

/-- Every segment is opened under an identifier that no packet carries yet, and counts through
the sequence numbers at most once. -/
def FreshOpening (s : HostSystem) : Event → Prop
  | .host _ =>
      match s.host.pc with
      | .openSegment => s.underStream s.host.streamId = []
      | .sending _ segment _ _ =>
          segment.sequenceNumber = 0 → segment.startFrame = segment.initialFrame
      | _ => True
  | _ => True

instance (s : HostSystem) (event : Event) : Decidable (s.FreshOpening event) := by
  unfold FreshOpening
  split
  · split <;> infer_instance
  · infer_instance

/-- A segment that has sent no packet has an identifier that no packet carries. -/
def Unsent (s : HostSystem) : Prop :=
  ∀ run ∈ s.host.pc.streaming, run.2.startFrame = run.2.initialFrame →
    s.underStream run.2.streamId = []

/-- The packets under each identifier are numbered from zero on. -/
structure Numbered (setup : HostSetup) (s : HostSystem) : Prop where
  consecutive : ∀ streamId, Consecutive (streamOf setup streamId) 0 (s.underStream streamId)
  length_le : ∀ streamId, (s.underStream streamId).length ≤ 2 ^ 32
  nodup : (s.sent.map fun sent => identity sent.packet).Nodup
  sequenceNumber_eq : ∀ run ∈ s.host.pc.streaming,
    run.2.sequenceNumber = 0 ∨
      run.2.sequenceNumber.toNat = (s.underStream run.2.streamId).length

variable {setup : HostSetup} {s t : HostSystem} {input : HostInput}

/-- A step of the host keeps the segment it streams, or leaves it. -/
structure Stays (s t : HostSystem) : Prop where
  sent_eq : t.sent = s.sent
  streaming : ∀ run ∈ t.host.pc.streaming, run ∈ s.host.pc.streaming

theorem Stays.leave (hsent : t.sent = s.sent) (hpc : t.host.pc.streaming = none) : Stays s t where
  sent_eq := hsent
  streaming := by
    intro run hmem
    rw [hpc] at hmem
    cases hmem

theorem Stays.same (hsent : t.sent = s.sent) (hpc : t.host.pc = s.host.pc) : Stays s t where
  sent_eq := hsent
  streaming := by
    rw [hpc]
    exact fun _ => id

theorem Stays.take {pc : ScheduledRoomAction → HostThread} {empty : HostPc}
    (hpc : ∀ action, (pc action).pc.streaming = none) (hempty : empty.streaming = none) :
    Stays s (s.takeStep pc empty) := by
  unfold takeStep Room.takeAction
  cases s.room.state.pendingAction with
  | none => exact Stays.leave rfl hempty
  | some action => exact Stays.leave rfl (hpc action)

theorem Stays.install {command : ScheduledRoomAction} {pc : HostPc} (hpc : pc.streaming = none) :
    Stays s (s.installStep command pc) := by
  unfold installStep
  split
  · exact Stays.leave rfl rfl
  · exact Stays.leave rfl hpc

/-- The host opens a segment, sends a packet of it, or does neither. -/
theorem hostStep_streaming (h : s.hostStep setup input = some t) :
    Stays s t ∨ s.host.pc = .openSegment ∧ t = s.openSegment setup input ∨
      ∃ host segment presentationTimestamp requested,
        s.host.pc = .sending host segment presentationTimestamp requested ∧
          s.sendStep setup host segment presentationTimestamp requested input = some t := by
  unfold hostStep at h
  cases hpc : s.host.pc <;> rw [hpc] at h <;> dsimp only at h
  case openSegment =>
      cases h
      exact .inr (.inl ⟨rfl, rfl⟩)
  case sending host segment presentationTimestamp requested =>
      exact .inr (.inr ⟨host, segment, presentationTimestamp, requested, rfl, h⟩)
  case head host segment =>
      cases h
      unfold headStep
      split
      · exact .inl (.leave rfl rfl)
      · exact .inl (.leave rfl rfl)
      · refine .inl ⟨rfl, fun run hmem => ?_⟩
        rw [hpc]
        exact hmem
  case progress host segment =>
      cases h
      refine .inl ⟨rfl, fun run hmem => ?_⟩
      rw [hpc]
      exact hmem
  case playFrom =>
      cases h
      refine .inl (.leave rfl ?_)
      dsimp only [goto]
      split_ifs <;> rfl
  case takeCommand => cases h; exact .inl (.take (fun _ => rfl) rfl)
  case takePlay => cases h; exact .inl (.take (fun _ => rfl) rfl)
  case takeSeek => cases h; exact .inl (.take (fun _ => rfl) rfl)
  case takeStop => cases h; exact .inl (.take (fun _ => rfl) rfl)
  case waitCutoff command => split_ifs at h; cases h; exact .inl (.leave rfl rfl)
  case waitSeek next => split_ifs at h; cases h; exact .inl (.leave rfl rfl)
  case waitStop next => split_ifs at h; cases h; exact .inl (.leave rfl rfl)
  case installSeek next => cases h; exact .inl (.install rfl)
  case branch command =>
      cases h
      unfold branchStep
      cases command.action
      case seek => exact .inl (.install rfl)
      all_goals exact .inl (.leave rfl rfl)
  case paused =>
      cases h
      unfold pausedStep
      split
      · exact .inl (.leave rfl rfl)
      · exact .inl (.leave rfl rfl)
      · exact .inl (.leave rfl rfl)
      · exact .inl (.same rfl rfl)
      · exact .inl (.same rfl rfl)
  case done => cases h
  case failed message => cases h
  all_goals
    cases h
    exact .inl (.leave rfl rfl)

/-- No connection streams. -/
theorem step_streaming {event : Event} (h : step setup s event = some t) :
    Stays s t ∨ (∃ input, event = .host input ∧ s.host.pc = .openSegment ∧
        t = s.openSegment setup input) ∨
      ∃ input host segment presentationTimestamp requested, event = .host input ∧
        s.host.pc = .sending host segment presentationTimestamp requested ∧
          s.sendStep setup host segment presentationTimestamp requested input = some t := by
  cases event with
  | tick later =>
      simp only [step] at h
      split_ifs at h
      cases h
      exact .inl (.same rfl rfl)
  | host input =>
      obtain hstays | ⟨hpc, ht⟩ | ⟨host, segment, time, requested, hpc, hsend⟩ :=
        hostStep_streaming h
      · exact .inl hstays
      · exact .inr (.inl ⟨input, rfl, hpc, ht⟩)
      · exact .inr (.inr ⟨input, host, segment, time, requested, rfl, hpc, hsend⟩)
  | check connection peerAddress line =>
      simp only [step] at h
      cases hphase : s.connections connection <;> rw [hphase] at h <;> dsimp only at h
      case idle =>
          split_ifs at h
          cases hcheck : ControlServer.checkCommand s.control.totalFrames s.room.state peerAddress
              line <;> rw [hcheck] at h <;> cases h <;> exact .inl (.same rfl rfl)
      case checked command => cases h
      case stamped command effective => cases h
  | readClock connection =>
      simp only [step] at h
      cases hphase : s.connections connection <;> rw [hphase] at h <;> cases h
      exact .inl (.same rfl rfl)
  | commit connection =>
      simp only [step] at h
      cases hphase : s.connections connection <;> rw [hphase] at h <;> cases h
      rename_i command effective
      rcases s.commitStep_cases connection command effective with
        ⟨message, heq⟩ | ⟨-, heq⟩ | ⟨-, -, room, -, -, -, -, heq⟩ <;> rw [heq]
      · exact .inl (.leave rfl rfl)
      · exact .inl (.same rfl rfl)
      · exact .inl (.same rfl rfl)

theorem Unsent.stays (hs : s.Unsent) (hstays : Stays s t) : t.Unsent := by
  intro run hmem hfirst
  rw [underStream, hstays.sent_eq]
  exact hs run (hstays.streaming run hmem) hfirst

theorem Unsent.leave (hpc : t.host.pc.streaming = none) : t.Unsent := by
  intro run hmem
  rw [hpc] at hmem
  cases hmem

theorem unsent_openSegment (hfresh : s.underStream s.host.streamId = []) :
    (s.openSegment setup input).Unsent := by
  unfold openSegment
  split
  · exact Unsent.leave rfl
  · next host hmake =>
      split
      · exact Unsent.leave rfl
      · next segment hbegin =>
          obtain ⟨-, -, hstream, -⟩ := DesktopNetworkHost.beginSegment_ok hbegin
          have hconfig := DesktopNetworkHost.make_ok hmake
          intro run hmem _
          cases hmem
          dsimp only
          rw [hstream, hconfig]
          exact hfresh

theorem unsent_sendStep {host : DesktopNetworkHost} {segment : DesktopNetworkHost.Segment}
    {presentationTimestamp : Int} {requested : Nat} (hsegment : segment.WellFormed setup.source)
    (h : s.sendStep setup host segment presentationTimestamp requested input = some t) :
    t.Unsent := by
  unfold sendStep at h
  cases hsend : DesktopNetworkHost.sendPacket setup.source segment presentationTimestamp requested
      input.ready with
  | error message =>
      rw [hsend] at h
      cases h
      exact Unsent.leave rfl
  | ok result =>
      rw [hsend] at h
      cases result with
      | none =>
          cases h
          exact Unsent.leave rfl
      | some sent =>
          dsimp only at h
          split_ifs at h
          cases h
          obtain ⟨framesRead, hread, -, -, -, -, -, -, hnext⟩ :=
            DesktopNetworkHost.sendPacket_sent hsegment hsend
          have hinitial := hsegment.initialFrame_le
          intro run hmem hfirst
          cases hmem
          rw [hnext] at hfirst
          dsimp only at hfirst
          omega

theorem unsent_step {event : Event} (hinvariant : Invariant setup s) (hs : s.Unsent)
    (hok : s.FreshOpening event) (h : step setup s event = some t) : t.Unsent := by
  obtain hstays | ⟨input, rfl, hpc, rfl⟩ | ⟨input, host, segment, time, requested, rfl, hpc, hsend⟩ :=
    step_streaming h
  · exact hs.stays hstays
  · unfold FreshOpening at hok
    rw [hpc] at hok
    exact unsent_openSegment hok
  · exact unsent_sendStep (hinvariant.streaming (host, segment) (by rw [hpc]; rfl)).wf hsend

/-- If every segment is opened under a fresh identifier, then no first packet is sent under an
identifier that packets carry already. -/
theorem run_freshSegment_of_opening {events : List Event} {now : Int}
    (hrun : run (guarded FreshOpening (step setup)) (initial setup now) events = some s) :
    run (guarded FreshSegment (step setup)) (initial setup now) events = some s := by
  refine run_guarded_of_guarded (P := fun s => Invariant setup s ∧ s.Unsent) ?_ ?_
    ⟨invariant_initial setup now, Unsent.leave rfl⟩ hrun
  · rintro s event t ⟨hinvariant, hs⟩ hok hstep
    exact ⟨invariant_step hinvariant hstep, unsent_step hinvariant hs hok hstep⟩
  · rintro s event ⟨-, hs⟩ hok
    unfold FreshOpening at hok
    unfold FreshSegment
    cases event <;> try trivial
    cases hpc : s.host.pc <;> try trivial
    case sending host segment presentationTimestamp requested =>
      dsimp only at hok ⊢
      rw [hpc] at hok
      exact fun hzero => hs (host, segment) (by rw [hpc]; rfl) (hok hzero)

theorem numbered_initial (setup : HostSetup) (now : Int) : Numbered setup (initial setup now) where
  consecutive := fun _ => trivial
  length_le := fun _ => Nat.zero_le _
  nodup := List.nodup_nil
  sequenceNumber_eq := by simp [initial, HostPc.streaming]

/-- A step that sends nothing and keeps the segment, leaves it, or starts one. -/
theorem Numbered.move (hs : Numbered setup s) (hsent : t.sent = s.sent)
    (hrun : ∀ run ∈ t.host.pc.streaming, run.2.sequenceNumber = 0 ∨ run ∈ s.host.pc.streaming) :
    Numbered setup t := by
  have hunder (streamId : UInt32) : t.underStream streamId = s.underStream streamId := by
    rw [underStream, hsent, underStream]
  exact {
    consecutive := fun streamId => by rw [hunder]; exact hs.consecutive streamId
    length_le := fun streamId => by rw [hunder]; exact hs.length_le streamId
    nodup := by rw [hsent]; exact hs.nodup
    sequenceNumber_eq := fun run hmem => by
      rw [hunder]
      exact (hrun run hmem).elim .inl (hs.sequenceNumber_eq run) }

/-- Outside a segment the numbers do not matter. -/
theorem Numbered.leave (hs : Numbered setup s) (hsent : t.sent = s.sent)
    (hpc : t.host.pc.streaming = none) : Numbered setup t :=
  hs.move hsent fun run hmem => by
    rw [hpc] at hmem
    cases hmem

theorem numbered_openSegment (hs : Numbered setup s) : Numbered setup (s.openSegment setup input) := by
  unfold openSegment
  split
  · exact hs.leave rfl rfl
  · next host hmake =>
      split
      · exact hs.leave rfl rfl
      · next segment hbegin =>
          obtain ⟨-, -, -, -, -, -, hzero⟩ := DesktopNetworkHost.beginSegment_ok hbegin
          refine hs.move rfl fun run hmem => .inl ?_
          cases hmem
          exact hzero

/-- A packet takes the next number of its stream. -/
theorem numbered_send {host : DesktopNetworkHost} {segment next : DesktopNetworkHost.Segment}
    {packet : AudioPacket} (hs : Numbered setup s)
    (hsequence : segment.sequenceNumber.toNat = (s.underStream segment.streamId).length)
    (hpacket : (streamOf setup segment.streamId).Numbered segment.sequenceNumber.toNat packet)
    (hnext : next.sequenceNumber = segment.sequenceNumber + 1)
    (hstream : next.streamId = segment.streamId)
    (hsent : t.sent = s.sent ++ [⟨packet, s.rotations.length⟩])
    (hpc : t.host.pc = .progress host next) : Numbered setup t := by
  have hpacketStream : packet.streamId = segment.streamId := hpacket.streamId_eq
  have hlt := segment.sequenceNumber.toNat_lt
  have hunder (streamId : UInt32) : t.underStream streamId =
      s.underStream streamId ++ if segment.streamId = streamId then [packet] else [] := by
    rw [underStream, hsent, List.map_append, List.filter_append]
    congr 1
    rw [List.map_singleton, List.filter_singleton, hpacketStream]
    split_ifs <;> simp_all
  have hnumber : packet.sequenceNumber = segment.sequenceNumber := by
    rw [hpacket.sequenceNumber_eq, UInt32.ofNat_toNat]
  refine ⟨fun streamId => ?_, fun streamId => ?_, ?_, fun run hmem => ?_⟩
  · rw [hunder]
    split_ifs with heq
    · subst heq
      rw [StreamAccumulator.consecutive_append, Nat.zero_add, ← hsequence]
      exact ⟨hs.consecutive _, hpacket, trivial⟩
    · rw [List.append_nil]
      exact hs.consecutive streamId
  · rw [hunder]
    split_ifs with heq
    · subst heq
      rw [List.length_append, List.length_singleton, ← hsequence]
      exact hlt
    · rw [List.append_nil]
      exact hs.length_le streamId
  · rw [hsent, List.map_append]
    refine List.nodup_append'.mpr ⟨hs.nodup, List.nodup_singleton _, ?_⟩
    rw [List.map_singleton, List.disjoint_singleton]
    intro hmem
    obtain ⟨old, hold, heq⟩ := List.mem_map.mp hmem
    obtain ⟨-, hsame, hsequenceOld⟩ : old.packet.sessionId = packet.sessionId ∧
        old.packet.streamId = packet.streamId ∧
          old.packet.sequenceNumber = packet.sequenceNumber := by
      simpa [identity] using heq
    have hunderOld : old.packet ∈ s.underStream segment.streamId :=
      List.mem_filter.mpr ⟨List.mem_map_of_mem hold, by simp [hsame, hpacketStream]⟩
    have hbound := (hs.consecutive segment.streamId).sequenceNumber_lt
      (by rw [Nat.zero_add]; exact hs.length_le _) hunderOld
    rw [hsequenceOld, hnumber] at hbound
    omega
  · rw [hpc] at hmem
    cases hmem
    rw [hunder, hstream, if_pos rfl, List.length_append, List.length_singleton, ← hsequence, hnext]
    by_cases hlast : segment.sequenceNumber + 1 = 0
    · exact .inl hlast
    · have hne : (segment.sequenceNumber + 1).toNat ≠ 0 := fun h => hlast (UInt32.toNat_inj.mp h)
      have hadd : (segment.sequenceNumber + 1).toNat =
          (segment.sequenceNumber.toNat + 1) % 2 ^ 32 := UInt32.toNat_add _ _
      exact .inr (by omega)

theorem numbered_sendStep {host : DesktopNetworkHost} {segment : DesktopNetworkHost.Segment}
    {presentationTimestamp : Int} {requested : Nat} (hinvariant : Invariant setup s)
    (hs : Numbered setup s)
    (hpc : s.host.pc = .sending host segment presentationTimestamp requested)
    (hfresh : segment.sequenceNumber = 0 → s.underStream segment.streamId = [])
    (h : s.sendStep setup host segment presentationTimestamp requested input = some t) :
    Numbered setup t := by
  have hmem : (host, segment) ∈ s.host.pc.streaming := by rw [hpc]; rfl
  have hstreaming : Streaming setup s host segment := hinvariant.streaming (host, segment) hmem
  unfold sendStep at h
  cases hsend : DesktopNetworkHost.sendPacket setup.source segment presentationTimestamp requested
      input.ready with
  | error message =>
      rw [hsend] at h
      cases h
      exact hs.leave rfl rfl
  | ok result =>
      rw [hsend] at h
      cases result with
      | none =>
          cases h
          exact hs.leave rfl rfl
      | some sent =>
          dsimp only at h
          split_ifs at h
          cases h
          obtain ⟨framesRead, -, -, -, -, hpacket, -, -, hnext⟩ :=
            DesktopNetworkHost.sendPacket_sent hstreaming.wf hsend
          have hsequence :
              segment.sequenceNumber.toNat = (s.underStream segment.streamId).length := by
            rcases hs.sequenceNumber_eq _ hmem with hzero | heq
            · rw [hfresh hzero, show segment.sequenceNumber = 0 from hzero]
              rfl
            · exact heq
          refine numbered_send hs hsequence ?_ (by rw [hnext]) (by rw [hnext]) rfl rfl
          rw [hpacket]
          exact {
            sessionId_eq := hstreaming.sessionId_eq
            streamId_eq := rfl
            sampleRate_eq := rfl
            channelCount_eq := rfl
            sequenceNumber_eq := UInt32.ofNat_toNat.symm }

theorem numbered_step {event : Event} (hs : Invariant setup s ∧ Numbered setup s)
    (h : guarded FreshSegment (step setup) s event = some t) :
    Invariant setup t ∧ Numbered setup t := by
  obtain ⟨hinvariant, hs⟩ := hs
  obtain ⟨hok, h⟩ := guarded_some.mp h
  refine ⟨invariant_step hinvariant h, ?_⟩
  obtain hstays | ⟨input, rfl, hpc, rfl⟩ | ⟨input, host, segment, time, requested, rfl, hpc, hsend⟩ :=
    step_streaming h
  · exact hs.move hstays.sent_eq fun run hmem => .inr (hstays.streaming run hmem)
  · exact numbered_openSegment hs
  · unfold FreshSegment at hok
    rw [hpc] at hok
    exact numbered_sendStep hinvariant hs hpc hok hsend

/-- If no segment sends its first packet under an identifier that packets carry
already, no two packets have the same identity, and a phone that receives the
packets of a stream in order, from any point on, accepts every one of them. -/
theorem packet_identity_unique {events : List Event} {now : Int}
    (hrun : run (guarded FreshSegment (step setup)) (initial setup now) events = some s) :
    (s.sent.map fun sent => identity sent.packet).Nodup ∧
      ∀ streamId before received after,
        s.underStream streamId = before ++ received ++ after →
          ∀ accepted ∈ ({} : StreamAccumulator).recordAll received, accepted = true := by
  have hs := (run_preserves (fun hs hstep => numbered_step hs hstep)
    ⟨invariant_initial setup now, numbered_initial setup now⟩ hrun).2
  refine ⟨hs.nodup, fun streamId before received after hunder => ?_⟩
  have hconsecutive := hs.consecutive streamId
  have hlength := hs.length_le streamId
  rw [hunder, List.append_assoc, StreamAccumulator.consecutive_append,
    StreamAccumulator.consecutive_append] at hconsecutive
  rw [hunder, List.length_append, List.length_append] at hlength
  exact StreamAccumulator.recordAll_consecutive hconsecutive.2.1 (by omega)

/-- A SEEK in time, then a PAUSE that leaves room for one packet. -/
def pausedAfterPacket : List Event :=
  hostSteps 5 ++ sendLine "SEEK 0" ++ hostSteps 4 ++ [.tick 1000000001] ++ hostSteps 9 ++
    sendLine "PAUSE" ++ hostSteps 3 ++ [.tick 2500000000] ++ hostSteps 8

theorem packet_identity_unique_paused : ∃ s : HostSystem, ∃ packet,
    s.underStream 2 = [packet] ∧
      ∀ accepted ∈ ({} : StreamAccumulator).recordAll [packet], accepted = true := by
  have hheld : (run (guarded FreshOpening (step (shortSetup 1000))) (initial (shortSetup 1000) 0)
      pausedAfterPacket).any fun s => (s.underStream 2).length = 1 := by
    decide +kernel
  obtain ⟨s, hs, hlength⟩ := (Option.any_eq_true _ _).mp hheld
  obtain ⟨packet, hpacket⟩ := List.length_eq_one_iff.mp (of_decide_eq_true hlength)
  exact ⟨s, packet, hpacket,
    (packet_identity_unique (run_freshSegment_of_opening hs)).2 2 [] [packet] []
      (by rw [hpacket]; rfl)⟩

/-- The first packet behind a PAUSE repeats the identity of the first before it,
with other content, and the phone refuses it. -/
theorem resumed_packet_refused : ∃ s : HostSystem,
    run (step (shortSetup 1000)) (initial (shortSetup 1000) 0)
        (pausedAfterPacket ++ sendLine "PLAY" ++ hostSteps 9 ++ [.tick 5000000000] ++
          hostSteps 1) = some s ∧
      ∃ first second, s.underStream 2 = [first, second] ∧ first ≠ second ∧
        identity first = identity second ∧
        ({} : StreamAccumulator).recordAll [first, second] = [true, false] := by
  have hheld : (run (step (shortSetup 1000)) (initial (shortSetup 1000) 0)
      (pausedAfterPacket ++ sendLine "PLAY" ++ hostSteps 9 ++ [.tick 5000000000] ++
        hostSteps 1)).any fun s =>
      (s.underStream 2).length = 2 ∧ (s.underStream 2).Nodup ∧
        ¬ ((s.underStream 2).map identity).Nodup ∧
          ({} : StreamAccumulator).recordAll (s.underStream 2) = [true, false] := by
    decide +kernel
  obtain ⟨s, hs, hheld⟩ := (Option.any_eq_true _ _).mp hheld
  obtain ⟨hlength, hpackets, hidentities, hrecorded⟩ := of_decide_eq_true hheld
  obtain ⟨first, second, hunder⟩ := List.length_eq_two.mp hlength
  rw [hunder] at hpackets hidentities hrecorded
  refine ⟨s, hs, first, second, hunder, ?_, ?_, hrecorded⟩
  · simpa using hpackets
  · simpa using hidentities

end HostSystem

end SyncAudio
