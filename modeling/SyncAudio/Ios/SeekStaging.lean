import SyncAudio.Ios.ReceiverSnapshot
import SyncAudio.Ios.SeekQueue

/-!
# Audio that arrives before a SEEK

The host sends the new stream of a SEEK ahead of its effective time. The player of the phone
stages what it is given of it, but the receiver drops everything of the new stream until the
player has told it to switch, 220 ms before the effective time. What has got past the
receiver is played.

## Implementation notes

The receiver and the player have queues of their own: a packet that the receiver lets through
and a stream that the player asks for wait in `deliveries` and `requests`. A datagram may
arrive at any time. The packets that reach the phone while a SEEK is scheduled and the
buffers whose completion was handled are recorded for the statements; the next room action
starts the record again. Connections and their errors are left out.
-/

namespace SyncAudio.Ios

open Checked LabelledRun PlaybackTiming

/-- The packet as the statistics see it. -/
def AudioPacket.toHost (packet : AudioPacket) : SyncAudio.AudioPacket where
  sessionId := packet.sessionID
  streamId := packet.streamID
  sequenceNumber := packet.sequenceNumber
  sampleRate := packet.sampleRate
  channelCount := packet.channels
  startFrame := packet.startFrame
  presentationTimestampNanoseconds := packet.presentationTimestampNanoseconds
  frameCount := packet.frameCount
  pcmPayload := packet.pcmPayload

structure UDPStreamReceiver where
  expectedSessionID : Option UInt64 := none
  expectedStreamID : Option UInt32 := none
  accumulator : StreamAccumulator := {}

namespace UDPStreamReceiver

def expectStream (receiver : UDPStreamReceiver) (streamID : UInt32) : UDPStreamReceiver :=
  { receiver with expectedStreamID := some streamID, accumulator := {} }

/-- `receiveNext`, for a packet: whether `onPacket` is called, and the receiver behind it. -/
def receiveNext (receiver : UDPStreamReceiver) (packet : AudioPacket) : Bool × UDPStreamReceiver :=
  if some packet.sessionID = receiver.expectedSessionID ∧
      some packet.streamID = receiver.expectedStreamID then
    let (accepted, accumulator) := receiver.accumulator.record packet.toHost
    (accepted, { receiver with accumulator })
  else (false, receiver)

end UDPStreamReceiver

/-- The phone: the player with its engine, the receiver, and what waits between them. -/
structure SeekPhone where
  scheduling : Scheduling := {}
  receiver : UDPStreamReceiver := {}
  requests : List UInt32 := []
  deliveries : List ReceivedPacket := []
  /-- The packets of the new stream that have reached the phone before the SEEK. -/
  arrived : List AudioPacket := []
  completed : List ScheduledBuffer := []

namespace SeekPhone

inductive Event where
  | datagram (received : ReceivedPacket)
  | expectStream
  | deliver (input : PumpInput)
  | call (event : Playback.Event)
  | completed (index : Nat)

abbrev player (s : SeekPhone) : Playback := s.scheduling.player

/-- The packet is of the stream behind the pending SEEK of a player that listens. -/
def reaches (s : SeekPhone) (packet : AudioPacket) : Bool :=
  s.player.control.active &&
    s.player.pendingSeek.any (fun action => packet.streamID = action.nextStreamID) &&
    s.receiver.expectedSessionID = some packet.sessionID

/-- A call on the queue of the player. -/
def playerCall (clock : HostClock) (s : SeekPhone) (event : Playback.Event) : Option SeekPhone :=
  (Scheduling.step clock s.scheduling (.call event)).map fun scheduling =>
    { s with
      scheduling
      requests := s.requests ++ (s.player.announcedStream event).toList
      arrived := if s.player.replacesAction event then [] else s.arrived }

def step (clock : HostClock) : Step SeekPhone Event := fun s event =>
  match event with
  | .datagram received =>
      let taken := s.receiver.receiveNext received.packet
      some
        { s with
          receiver := taken.2
          deliveries := if taken.1 then s.deliveries ++ [received] else s.deliveries
          arrived := if s.reaches received.packet then received.packet :: s.arrived
            else s.arrived }
  | .expectStream =>
      match s.requests with
      | [] => none
      | streamID :: requests =>
          some { s with receiver := s.receiver.expectStream streamID, requests }
  | .deliver input =>
      match s.deliveries with
      | [] => none
      | received :: deliveries =>
          ({ s with deliveries } : SeekPhone).playerCall clock (.receive received input)
  | .call event => if event.isPassedOn then none else s.playerCall clock event
  | .completed index => do
      let buffer ← s.scheduling.inFlight[index]?
      let scheduling ← Scheduling.step clock s.scheduling (.completed index)
      some { s with scheduling, completed := buffer :: s.completed }

/-- The buffer of the packet has been completed in a generation that was started. -/
def Heard (s : SeekPhone) (packet : AudioPacket) : Prop :=
  ∃ start ∈ s.scheduling.starts, ⟨start.generation, .packet packet⟩ ∈ s.completed

/-- The packet is on its way from the receiver to a player that waits for it. -/
def Handed (s : SeekPhone) (packet : AudioPacket) : Prop :=
  s.player.Awaited packet ∧ ∃ received ∈ s.deliveries, received.packet = packet

/-- The packet is not lost: until the SEEK it is staged, and then it waits for its turn, is
played or has been played. -/
def Keeps (packets : List AudioPacket) (s : SeekPhone) (packet : AudioPacket) : Prop :=
  s.Handed packet ∨ s.player.Stages packet ∨ s.scheduling.Queued packets packet ∨
    s.scheduling.Sounds packet ∨ s.Heard packet

/-- A packet that has arrived has not been played to its end. -/
def Awaits (s : SeekPhone) : Prop := ∃ packet ∈ s.arrived, ¬ s.Heard packet

/-- The player takes the next packet without loss. -/
structure Takes (s : SeekPhone) (packet : AudioPacket) : Prop where
  staged : s.player.stages packet = true → s.player.stagedPackets.Fits s.arrived packet
  queue : s.player.pendingSeek = none → s.Awaits → s.player.packets.Continues packet

/-- The call neither restarts the player nor cuts off a stream that is still to be played. -/
structure Unbroken (s : SeekPhone) (event : Playback.Event) : Prop where
  runs : event.restarts = true → ¬ s.Awaits
  streams : event.cutsOff = true → s.player.pendingSeek = none → ¬ s.Awaits

/-- The `pump` of the call starts in time, and executes the SEEK only behind what has been handed
over. -/
structure Timely (s : SeekPhone) (deliveries : List ReceivedPacket) (event : Playback.Event) :
    Prop where
  inTime : s.player.replacesAction event = false → ∀ next ∈ s.player.prepare event,
    ∀ input ∈ next.2, next.1.StartsInTime s.arrived input
  handled : s.player.replacesAction event = false → ∀ next ∈ s.player.prepare event,
    ∀ input ∈ next.2, ∀ received ∈ deliveries, received.packet ∈ s.arrived →
      next.1.Awaited received.packet → next.1.actionDue input = false

/-- When a packet of the new stream arrives, the receiver expects that stream and its accumulator
takes the packet, and nothing takes from the player what it has been given. -/
def Undisturbed (s : SeekPhone) : Event → Prop
  | .datagram received =>
      s.reaches received.packet = true → received.packet ∉ s.arrived →
        s.receiver.expectedStreamID = some received.packet.streamID ∧
          (s.receiver.accumulator.record received.packet.toHost).1 = true
  | .deliver input =>
      ∀ received ∈ s.deliveries.head?,
        s.Takes received.packet ∧ s.Timely s.deliveries.tail (.receive received input)
  | .call event => s.Unbroken event ∧ s.Timely s.deliveries event
  | .expectStream => True
  | .completed _ => True

instance (player : Playback) (packet : AudioPacket) : Decidable (player.Awaited packet) :=
  inferInstanceAs (Decidable (player.control.active = true ∧
    ∃ action ∈ player.control.scheduledRoomAction,
      action.isSeek = true ∧ packet.streamID = action.nextStreamID))

instance (player : Playback) (arrived : List AudioPacket) (input : PumpInput) :
    Decidable (player.StartsInTime arrived input) :=
  inferInstanceAs (Decidable (∀ reached ∈ player.enter input, ∀ entry ∈ Sum.getRight? reached, _))

instance (arrived : List AudioPacket) (queue : PacketPlaybackQueue) (packet : AudioPacket) :
    Decidable (queue.Fits arrived packet) :=
  decidable_of_iff
    ((queue.Foreign packet → ∀ held ∈ queue.held, held ∉ arrived) ∧
      (¬ queue.Foreign packet → queue.packets.size < PacketPlaybackQueue.maximumPackets) ∧
      (¬ queue.Foreign packet → packet ∈ arrived →
        ∀ cursor ∈ queue.cursor, cursor ≤ packet.startFrame.toNat))
    ⟨fun h => ⟨h.1, h.2.1, h.2.2⟩, fun h => ⟨h.own, h.room, h.inOrder⟩⟩

instance (queue : PacketPlaybackQueue) (packet : AudioPacket) :
    Decidable (queue.Continues packet) :=
  decidable_of_iff
    (¬ (queue.sessionID.isSome = true ∧ queue.Foreign packet) ∧
      queue.packets.size < PacketPlaybackQueue.maximumPackets)
    ⟨fun h => ⟨h.1, h.2⟩, fun h => ⟨h.own, h.room⟩⟩

instance (s : SeekPhone) (packet : AudioPacket) : Decidable (s.Heard packet) :=
  inferInstanceAs (Decidable (∃ start ∈ s.scheduling.starts,
    ⟨start.generation, .packet packet⟩ ∈ s.completed))

instance (s : SeekPhone) : Decidable s.Awaits :=
  inferInstanceAs (Decidable (∃ packet ∈ s.arrived, ¬ s.Heard packet))

instance (s : SeekPhone) (packet : AudioPacket) : Decidable (s.Takes packet) :=
  decidable_of_iff
    ((s.player.stages packet = true → s.player.stagedPackets.Fits s.arrived packet) ∧
      (s.player.pendingSeek = none → s.Awaits → s.player.packets.Continues packet))
    ⟨fun h => ⟨h.1, h.2⟩, fun h => ⟨h.staged, h.queue⟩⟩

instance (s : SeekPhone) (event : Playback.Event) : Decidable (s.Unbroken event) :=
  decidable_of_iff
    ((event.restarts = true → ¬ s.Awaits) ∧
      (event.cutsOff = true → s.player.pendingSeek = none → ¬ s.Awaits))
    ⟨fun h => ⟨h.1, h.2⟩, fun h => ⟨h.runs, h.streams⟩⟩

instance (s : SeekPhone) (deliveries : List ReceivedPacket) (event : Playback.Event) :
    Decidable (s.Timely deliveries event) :=
  decidable_of_iff
    ((s.player.replacesAction event = false → ∀ next ∈ s.player.prepare event,
        ∀ input ∈ next.2, next.1.StartsInTime s.arrived input) ∧
      (s.player.replacesAction event = false → ∀ next ∈ s.player.prepare event,
        ∀ input ∈ next.2, ∀ received ∈ deliveries, received.packet ∈ s.arrived →
          next.1.Awaited received.packet → next.1.actionDue input = false))
    ⟨fun h => ⟨h.1, h.2⟩, fun h => ⟨h.inTime, h.handled⟩⟩

instance (s : SeekPhone) : (event : Event) → Decidable (s.Undisturbed event)
  | .datagram received =>
      inferInstanceAs (Decidable (s.reaches received.packet = true → received.packet ∉ s.arrived →
        s.receiver.expectedStreamID = some received.packet.streamID ∧
          (s.receiver.accumulator.record received.packet.toHost).1 = true))
  | .deliver input =>
      inferInstanceAs (Decidable (∀ received ∈ s.deliveries.head?,
        s.Takes received.packet ∧ s.Timely s.deliveries.tail (.receive received input)))
  | .call event => inferInstanceAs (Decidable (s.Unbroken event ∧ s.Timely s.deliveries event))
  | .expectStream => .isTrue trivial
  | .completed _ => .isTrue trivial

/-- The buffers that a call may ask for can be created. -/
def Event.Converts : Event → Prop
  | .deliver input => ∀ index, input.converted index = true
  | .call event => ∀ input ∈ callInput event, ∀ index, input.converted index = true
  | _ => True

/-- What holds of the phone between two steps. -/
structure Sound (packets : List AudioPacket) (s : SeekPhone) : Prop where
  starts : s.scheduling.StartsOnFirst packets
  counts : Counts s.scheduling.inFlight s.player
  settled : ∀ buffer ∈ s.scheduling.scheduled, buffer ∈ s.completed ∨ buffer ∈ s.scheduling.inFlight
  deliveries : ∀ received ∈ s.deliveries, received.packet ∈ packets
  frames : ∀ packet ∈ s.arrived, 0 < packet.frameCount.toNat

/-- The phone with another state of its player. -/
def prepared (s : SeekPhone) (next : Playback) : SeekPhone :=
  { s with scheduling := { s.scheduling with player := next } }

/-- The phone behind a call. -/
def handed (s : SeekPhone) (call : PlaybackCall) : SeekPhone :=
  { s with scheduling := s.scheduling.handed call }

variable {packets : List AudioPacket} {packet : AudioPacket} {s t : SeekPhone} {clock : HostClock}
  {input : PumpInput} {next : Playback} {pumps : Option PumpInput} {call : PlaybackCall}

theorem Heard.handed (h : s.Heard packet) (call : PlaybackCall) : (s.handed call).Heard packet := by
  obtain ⟨start, hstart, hcompleted⟩ := h
  exact ⟨start, List.mem_append_left _ hstart, hcompleted⟩

theorem Sound.settled_handed (h : s.Sound packets) (call : PlaybackCall) :
    ∀ buffer ∈ (s.handed call).scheduling.scheduled,
      buffer ∈ s.completed ∨ buffer ∈ (s.handed call).scheduling.inFlight := by
  intro buffer hbuffer
  cases List.mem_append.mp hbuffer with
  | inl hbefore => exact (h.settled buffer hbefore).imp_right (List.mem_append_left _)
  | inr hnew => exact .inr (List.mem_append_right _ hnew)

/-- A packet that is not lost before a `pump` is not lost behind it. -/
theorem Keeps.pumpCall (h : (s.prepared next).Keeps packets packet) (hs : s.Sound packets)
    (hapart : Apart packets)
    (hgrounded : Grounded packets s.scheduling.scheduled s.scheduling.inFlight next)
    (hconverted : ∀ index, input.converted index = true)
    (hintime : next.StartsInTime s.arrived input)
    (hhandled : ∀ received ∈ s.deliveries, received.packet ∈ s.arrived →
      next.Awaited received.packet → next.actionDue input = false)
    (hmem : packet ∈ s.arrived) (hcall : next.pumpCall clock input = some call) :
    (s.handed call).Keeps packets packet := by
  obtain ⟨hawaited, received, hreceived, rfl⟩ | ⟨hawaited, hheld⟩ | ⟨hqueues, hstarted⟩ |
    ⟨hidle, hprimed, hstarted, hscheduled⟩ | hheard := h
  · have hnotDue := hhandled received hreceived hmem hawaited
    obtain ⟨-, hstill, -⟩ | ⟨hdue, -⟩ := Scheduling.awaited_pumpCall hapart hgrounded hconverted
      hintime hawaited hcall
    · exact .inl ⟨hstill, received, hreceived, rfl⟩
    · exact absurd (hnotDue.symm.trans hdue) Bool.false_ne_true
  · obtain ⟨-, hstill, hstaged⟩ | ⟨-, hplayed⟩ := Scheduling.awaited_pumpCall hapart hgrounded
      hconverted hintime hawaited hcall
    · exact .inr (.inl ⟨hstill, hstaged ▸ hheld⟩)
    · cases hplayed packet hmem hheld with
      | inl hqueued => exact .inr (.inr (.inl hqueued))
      | inr hsounds => exact .inr (.inr (.inr (.inl hsounds)))
  · obtain hqueued | hsounds := Scheduling.queued_pumpCall hapart hgrounded hconverted hmem hintime
      hqueues hstarted hcall
    · exact .inr (.inr (.inl hqueued))
    · exact .inr (.inr (.inr (.inl hsounds)))
  · obtain hsounds | hdone := Scheduling.sounding_pumpCall hgrounded hidle hprimed hstarted
      hscheduled (hs.frames packet hmem) hcall
    · exact .inr (.inr (.inr (.inl hsounds)))
    · obtain ⟨start, hstart, hgeneration⟩ := hstarted
      change start.generation = next.generation at hgeneration
      refine .inr (.inr (.inr (.inr ⟨start, List.mem_append_left _ hstart, ?_⟩)))
      rw [hgeneration]
      exact (hs.settled_handed call _ (List.mem_append_left _ hscheduled)).resolve_right hdone
  · exact .inr (.inr (.inr (.inr (Heard.handed hheard call))))

/-- A call that makes no `pump`. -/
theorem Keeps.noPump (h : (s.prepared next).Keeps packets packet) :
    (s.handed { player := next }).Keeps packets packet := by
  obtain hhanded | hstages | ⟨hqueues, hstarted⟩ | ⟨hidle, hprimed, hstarted, hscheduled⟩ | hheard := h
  · exact .inl hhanded
  · exact .inr (.inl hstages)
  · refine .inr (.inr (.inl ⟨hqueues, fun hplays => ?_⟩))
    obtain ⟨start, hstart, hgeneration⟩ := hstarted hplays
    exact ⟨start, List.mem_append_left _ hstart, hgeneration⟩
  · obtain ⟨start, hstart, hgeneration⟩ := hstarted
    exact .inr (.inr (.inr (.inl ⟨hidle, hprimed, ⟨start, List.mem_append_left _ hstart,
      hgeneration⟩, List.mem_append_left _ hscheduled⟩)))
  · exact .inr (.inr (.inr (.inr (Heard.handed hheard _))))

theorem pendingSeek_of_idle {player : Playback} (h : player.control.scheduledRoomAction = none) :
    player.pendingSeek = none := by
  unfold Playback.pendingSeek
  rw [h]
  rfl

/-- A call before its `pump` loses nothing, unless it cuts off a stream that plays. -/
theorem Keeps.listens (h : s.Keeps packets packet) (hlistens : s.player.Listens next)
    (hstreams : s.player.pendingSeek = none → s.player.StreamsOn next) :
    (s.prepared next).Keeps packets packet := by
  obtain ⟨hawaited, hreceived⟩ | ⟨hawaited, hheld⟩ | ⟨hqueues, hstarted⟩ |
    ⟨hidle, hprimed, hstarted, hscheduled⟩ | hheard := h
  · exact .inl ⟨hawaited.listens hlistens, hreceived⟩
  · exact .inr (.inl ⟨hawaited.listens hlistens, hlistens.staged_eq ▸ hheld⟩)
  · have hstream := hstreams (pendingSeek_of_idle hqueues.idle)
    refine .inr (.inr (.inl ⟨hqueues.streamsOn hlistens hstream, fun hplays => ?_⟩))
    obtain ⟨start, hstart, hgeneration⟩ := hstarted (hstream.primed_eq.symm.trans hplays)
    exact ⟨start, hstart, hgeneration.trans hstream.generation_eq.symm⟩
  · have hstream := hstreams (pendingSeek_of_idle hidle)
    obtain ⟨start, hstart, hgeneration⟩ := hstarted
    refine .inr (.inr (.inr (.inl ⟨hlistens.action_eq.trans hidle,
      hstream.primed_eq.trans hprimed,
      ⟨start, hstart, hgeneration.trans hstream.generation_eq.symm⟩, ?_⟩)))
    change (⟨next.generation, .packet packet⟩ : ScheduledBuffer) ∈ s.scheduling.scheduled
    rw [hstream.generation_eq]
    exact hscheduled
  · exact .inr (.inr (.inr (.inr hheard)))

/-- A packet that is received loses none of the others, and is staged if it has arrived. -/
theorem Keeps.receive {received : ReceivedPacket} {deliveries : List ReceivedPacket}
    (h : s.Keeps packets packet) (hs : s.Sound packets) (hapart : Apart packets)
    (hdeliveries : s.deliveries = received :: deliveries) (hmem : packet ∈ s.arrived)
    (htakes : s.Takes received.packet) (hawaits : s.Awaits)
    (hstore : s.player.store received.packet input = some (next, pumps)) :
    (({ s with deliveries } : SeekPhone).prepared next).Keeps packets packet := by
  have hreceived : received.packet ∈ packets :=
    hs.deliveries received (hdeliveries ▸ List.mem_cons_self)
  have haccepted := AudioPacket.accepted_of_parsed received.parsed
  have hqueues := hs.starts.queues
  obtain ⟨hcontrol, hstreams⟩ := Playback.store_control hstore
  have hawaitedNext : ∀ {other : AudioPacket}, s.player.Awaited other → next.Awaited other := by
    intro other hawaited
    unfold Playback.Awaited
    rw [hcontrol]
    exact hawaited
  obtain ⟨hawaited, other, hother, rfl⟩ | ⟨hawaited, hheld⟩ | ⟨hqueued, hstarted⟩ |
    ⟨hidle, hprimed, hstarted, hscheduled⟩ | hheard := h
  · rw [hdeliveries] at hother
    cases List.mem_cons.mp hother with
    | inl hfirst =>
        rw [hfirst] at hmem hawaited ⊢
        refine .inr (.inl ⟨hawaitedNext hawaited, ?_⟩)
        exact Playback.store_stagesArrived hapart hqueues hreceived received.parsed hmem hawaited
          (htakes.staged hawaited.stages) hstore
    | inr hrest => exact .inl ⟨hawaitedNext hawaited, other, hrest, rfl⟩
  · refine .inr (.inl ⟨hawaitedNext hawaited, ?_⟩)
    exact Playback.store_keepsStaged hapart hqueues hreceived haccepted htakes.staged hstore packet
      hmem hheld
  · have hfits := htakes.queue (pendingSeek_of_idle hqueued.idle) hawaits
    obtain ⟨hprimed, hgeneration⟩ := hstreams hfits.own
    refine .inr (.inr (.inl ⟨?_, fun hplays => ?_⟩))
    · exact hqueued.store hapart hqueues hreceived haccepted hfits hstore
    · obtain ⟨start, hstart, hsame⟩ := hstarted (hprimed.symm.trans hplays)
      exact ⟨start, hstart, hsame.trans hgeneration.symm⟩
  · have hfits := htakes.queue (pendingSeek_of_idle hidle) hawaits
    obtain ⟨hprimedNext, hgeneration⟩ := hstreams hfits.own
    obtain ⟨start, hstart, hsame⟩ := hstarted
    refine .inr (.inr (.inr (.inl ⟨?_, hprimedNext.trans hprimed,
      ⟨start, hstart, hsame.trans hgeneration.symm⟩, ?_⟩)))
    · change next.control.scheduledRoomAction = none
      rw [hcontrol]
      exact hidle
    · change (⟨next.generation, .packet packet⟩ : ScheduledBuffer) ∈ s.scheduling.scheduled
      rw [hgeneration]
      exact hscheduled
  · exact .inr (.inr (.inr (.inr hheard)))

/-- A call on the queue of the player, in its two parts. -/
theorem playerCall_cases {event : Playback.Event} (h : s.playerCall clock event = some t) :
    event.isCompletion = false ∧ ∃ next pumps call, s.player.prepare event = some (next, pumps) ∧
      ((pumps = none ∧ call = { player := next }) ∨
        ∃ input, pumps = some input ∧ next.pumpCall clock input = some call) ∧
      t = { s.handed call with
        requests := s.requests ++ (s.player.announcedStream event).toList
        arrived := if s.player.replacesAction event then [] else s.arrived } := by
  obtain ⟨scheduling, hstep, hnext⟩ := Option.map_eq_some_iff.mp h
  cases hnext
  unfold Scheduling.step at hstep
  dsimp only at hstep
  split_ifs at hstep with hkind
  obtain ⟨call, hcall, hnext⟩ := Option.map_eq_some_iff.mp hstep
  cases hnext
  obtain ⟨⟨next, pumps⟩, hprepare, hcall⟩ := Option.bind_eq_some_iff.mp hcall
  refine ⟨Bool.eq_false_of_not_eq_true hkind, next, pumps, call, hprepare, ?_, rfl⟩
  cases pumps with
  | none =>
      cases hcall
      exact .inl ⟨rfl, rfl⟩
  | some input => exact .inr ⟨input, rfl, hcall⟩

/-- Nothing that has arrived is lost. -/
def Kept (packets : List AudioPacket) (s : SeekPhone) : Prop :=
  ∀ packet ∈ s.arrived, s.Keeps packets packet

/-- The packets that a step brings. -/
def Event.brings : Event → List AudioPacket
  | .datagram received => [received.packet]
  | _ => []

theorem Sound.deliver (hs : s.Sound packets) {received : ReceivedPacket}
    {deliveries : List ReceivedPacket} (hdeliveries : s.deliveries = received :: deliveries) :
    ({ s with deliveries } : SeekPhone).Sound packets where
  starts := hs.starts
  counts := hs.counts
  settled := hs.settled
  deliveries := fun other hother => hs.deliveries other
    (hdeliveries ▸ List.mem_cons_of_mem received hother)
  frames := hs.frames

theorem Sound.playerCall (hs : s.Sound packets) (hapart : Apart packets) {event : Playback.Event}
    (hpackets : ∀ packet ∈ callPackets event, packet ∈ packets)
    (hconverts : ∀ input ∈ callInput event, ∀ index, input.converted index = true)
    (h : s.playerCall clock event = some t) : t.Sound packets := by
  obtain ⟨-, next, pumps, call, -, -, ht⟩ := playerCall_cases h
  obtain ⟨scheduling, hstep, hnext⟩ := Option.map_eq_some_iff.mp h
  have hscheduling : t.scheduling = scheduling := by rw [← hnext]
  have hsettled := hs.settled_handed call
  have hbrings : ∀ packet ∈ (Scheduling.Event.call event).packets, packet ∈ packets := hpackets
  constructor
  · rw [hscheduling]
    exact hs.starts.step hapart hbrings hconverts hstep
  · change Counts t.scheduling.inFlight t.scheduling.player
    rw [hscheduling]
    exact Scheduling.counts_step hs.counts hstep
  · rw [ht]
    exact hsettled
  · rw [ht]
    exact hs.deliveries
  · rw [ht]
    intro packet hmem
    dsimp only at hmem
    split_ifs at hmem
    · cases hmem
    · exact hs.frames packet hmem

/-- A player keeps what its call keeps before its `pump`. -/
theorem Sound.playerCall_kept (hs : s.Sound packets) (hapart : Apart packets)
    {event : Playback.Event} (hpackets : ∀ packet ∈ callPackets event, packet ∈ packets)
    (hconverts : ∀ input ∈ callInput event, ∀ index, input.converted index = true)
    (htimely : s.Timely s.deliveries event)
    (hprepared : s.player.replacesAction event = false → ∀ next pumps,
      s.player.prepare event = some (next, pumps) → ∀ packet ∈ s.arrived,
        (s.prepared next).Keeps packets packet)
    (h : s.playerCall clock event = some t) : t.Kept packets := by
  obtain ⟨hkind, next, pumps, call, hprepare, hcall, rfl⟩ := playerCall_cases h
  intro packet hmem
  dsimp only at hmem
  split_ifs at hmem with hreplaces
  · cases hmem
  have hstays : s.player.replacesAction event = false := Bool.eq_false_of_not_eq_true hreplaces
  have hkeeps := hprepared hstays next pumps hprepare packet hmem
  have hbase : Grounded packets s.scheduling.scheduled s.scheduling.inFlight s.player :=
    ⟨hs.starts.queues, hs.starts.unstarted, hs.counts⟩
  obtain ⟨hgrounded, hinput⟩ := hbase.prepare hkind hpackets hprepare
  obtain ⟨rfl, rfl⟩ | ⟨input, rfl, hcall⟩ := hcall
  · exact hkeeps.noPump
  · exact hkeeps.pumpCall hs hapart hgrounded (hconverts input (hinput input rfl))
      (htimely.inTime hstays _ hprepare input rfl) (htimely.handled hstays _ hprepare input rfl)
      hmem hcall

theorem callPackets_of_not_passedOn {event : Playback.Event} (h : event.isPassedOn = false) :
    callPackets event = [] := by
  cases event with
  | receive received input => cases h
  | _ => rfl

/-- A completion changes nothing but the count of a player. -/
theorem complete_frame {s t : Playback} {buffer : ScheduledBuffer}
    (h : s.complete buffer = some t) : ∃ queuedFrames, t = { s with queuedFrames } := by
  unfold Playback.complete at h
  split_ifs at h
  · obtain ⟨queuedFrames, -, hnext⟩ := Option.bind_eq_some_iff.mp h
    cases hnext
    exact ⟨_, rfl⟩
  · cases h
    exact ⟨_, rfl⟩

theorem step_completed {index : Nat} (h : step clock s (.completed index) = some t) :
    ∃ buffer queuedFrames, buffer ∈ s.scheduling.inFlight ∧
      Scheduling.step clock s.scheduling (.completed index) = some t.scheduling ∧
      t = { s with
        scheduling := { s.scheduling with
          player := { s.player with queuedFrames }
          inFlight := s.scheduling.inFlight.eraseIdx index }
        completed := buffer :: s.completed } ∧
      s.scheduling.inFlight[index]? = some buffer := by
  obtain ⟨buffer, hbuffer, h⟩ := Option.bind_eq_some_iff.mp h
  obtain ⟨scheduling, hstep, h⟩ := Option.bind_eq_some_iff.mp h
  cases h
  obtain ⟨same, hsame, hcomplete⟩ := Option.bind_eq_some_iff.mp hstep
  obtain ⟨player, hplayer, hnext⟩ := Option.bind_eq_some_iff.mp hcomplete
  cases hnext
  obtain ⟨queuedFrames, rfl⟩ := complete_frame hplayer
  exact ⟨buffer, queuedFrames, List.mem_of_getElem? hbuffer, hstep, rfl, hbuffer⟩

theorem Sound.step (hs : s.Sound packets) (hapart : Apart packets) {event : Event}
    (hmem : ∀ packet ∈ event.brings, packet ∈ packets) (hconverts : event.Converts)
    (hstep : SeekPhone.step clock s event = some t) : t.Sound packets := by
  cases event with
  | datagram received =>
      cases hstep
      refine ⟨hs.starts, hs.counts, hs.settled, ?_, ?_⟩
      · intro other hother
        dsimp only at hother
        split_ifs at hother
        · cases List.mem_append.mp hother with
          | inl hbefore => exact hs.deliveries other hbefore
          | inr hnew =>
              rw [List.mem_singleton.mp hnew]
              exact hmem received.packet List.mem_cons_self
        · exact hs.deliveries other hother
      · intro packet hpacket
        dsimp only at hpacket
        split_ifs at hpacket
        · cases List.mem_cons.mp hpacket with
          | inl hnew =>
              rw [hnew]
              exact (AudioPacket.accepted_of_parsed received.parsed).frameCount_pos
          | inr hbefore => exact hs.frames packet hbefore
        · exact hs.frames packet hpacket
  | expectStream =>
      unfold SeekPhone.step at hstep
      dsimp only at hstep
      cases hrequests : s.requests with
      | nil =>
          rw [hrequests] at hstep
          cases hstep
      | cons streamID requests =>
          rw [hrequests] at hstep
          cases hstep
          exact ⟨hs.starts, hs.counts, hs.settled, hs.deliveries, hs.frames⟩
  | deliver input =>
      unfold SeekPhone.step at hstep
      dsimp only at hstep
      cases hdeliveries : s.deliveries with
      | nil =>
          rw [hdeliveries] at hstep
          cases hstep
      | cons received deliveries =>
          rw [hdeliveries] at hstep
          refine (hs.deliver hdeliveries).playerCall hapart ?_ ?_ hstep
          · intro packet hpacket
            rw [List.mem_singleton.mp hpacket]
            exact hs.deliveries received (hdeliveries ▸ List.mem_cons_self)
          · intro same hsame
            cases hsame
            exact hconverts
  | call event =>
      unfold SeekPhone.step at hstep
      dsimp only at hstep
      split_ifs at hstep with hpassed
      refine hs.playerCall hapart ?_ hconverts hstep
      rw [callPackets_of_not_passedOn (Bool.eq_false_of_not_eq_true hpassed)]
      exact fun packet hpacket => absurd hpacket List.not_mem_nil
  | completed index =>
      obtain ⟨buffer, queuedFrames, -, hcompleted, ht, hbuffer⟩ := step_completed hstep
      have hbrings : ∀ packet ∈ (Scheduling.Event.completed index).packets, packet ∈ packets :=
        fun _ hpacket => absurd hpacket List.not_mem_nil
      refine ⟨hs.starts.step hapart hbrings trivial hcompleted,
        Scheduling.counts_step hs.counts hcompleted, ?_, ?_, ?_⟩
      · rw [ht]
        intro other hother
        obtain ⟨hindex, hget⟩ := List.getElem?_eq_some_iff.mp hbuffer
        have hperm : s.scheduling.inFlight.Perm
            (buffer :: s.scheduling.inFlight.eraseIdx index) := by
          rw [← hget]
          exact (List.getElem_cons_eraseIdx_perm hindex).symm
        cases hs.settled other hother with
        | inl hdone => exact .inl (List.mem_cons_of_mem buffer hdone)
        | inr hflies =>
            cases List.mem_cons.mp (hperm.mem_iff.mp hflies) with
            | inl hsame => exact .inl (hsame ▸ List.mem_cons_self)
            | inr hrest => exact .inr hrest
      · rw [ht]
        exact hs.deliveries
      · rw [ht]
        exact hs.frames

/-- A step without which nothing changes for the player keeps what has arrived. -/
theorem Keeps.samePlayer (h : s.Keeps packets packet) (hscheduling : t.scheduling = s.scheduling)
    (hcompleted : t.completed = s.completed)
    (hdeliveries : ∀ received ∈ s.deliveries, received ∈ t.deliveries) :
    t.Keeps packets packet := by
  unfold Keeps Handed Heard SeekPhone.player at h ⊢
  rw [hscheduling, hcompleted]
  refine h.imp_left ?_
  rintro ⟨hawaited, received, hreceived, hpacket⟩
  exact ⟨hawaited, received, hdeliveries received hreceived, hpacket⟩

theorem Keeps.of_heard (h : s.Heard packet) : s.Keeps packets packet :=
  .inr (.inr (.inr (.inr h)))

/-- A completed buffer is heard, and the others stay where they are. -/
theorem Keeps.completed {buffer : ScheduledBuffer} {queuedFrames : Int} {index : Nat}
    (h : s.Keeps packets packet) :
    ({ s with
      scheduling := { s.scheduling with
        player := { s.player with queuedFrames }
        inFlight := s.scheduling.inFlight.eraseIdx index }
      completed := buffer :: s.completed } : SeekPhone).Keeps packets packet := by
  obtain hhanded | hstages | ⟨hqueues, hstarted⟩ | hsounds | ⟨start, hstart, hdone⟩ := h
  · exact .inl hhanded
  · exact .inr (.inl hstages)
  · exact .inr (.inr (.inl ⟨⟨hqueues.idle, hqueues.held, hqueues.tidy, hqueues.immediate⟩,
      hstarted⟩))
  · exact .inr (.inr (.inr (.inl ⟨hsounds.idle, hsounds.primed, hsounds.started,
      hsounds.scheduled⟩)))
  · exact .of_heard ⟨start, hstart, List.mem_cons_of_mem buffer hdone⟩

/-- Only a player that waits for the stream of the packet is reached. -/
theorem awaited_of_reaches (h : s.reaches packet = true) : s.player.Awaited packet := by
  unfold reaches at h
  rw [Bool.and_eq_true, Bool.and_eq_true] at h
  obtain ⟨⟨hactive, hpending⟩, -⟩ := h
  obtain ⟨action, haction, hstream⟩ := (Option.any_eq_true _ _).mp hpending
  obtain ⟨hscheduled, hseek⟩ := Option.filter_eq_some_iff.mp haction
  exact ⟨hactive, action, hscheduled, hseek, of_decide_eq_true hstream⟩

/-- The receiver passes on a packet of its session if it expects the stream and its accumulator
takes the packet. -/
theorem receiveNext_of_expected (h : s.reaches packet = true)
    (hstream : s.receiver.expectedStreamID = some packet.streamID)
    (hrecorded : (s.receiver.accumulator.record packet.toHost).1 = true) :
    (s.receiver.receiveNext packet).1 = true := by
  unfold reaches at h
  have hsession := of_decide_eq_true (Bool.and_eq_true_iff.mp h).2
  unfold UDPStreamReceiver.receiveNext
  rw [if_pos ⟨hsession.symm, hstream.symm⟩]
  exact hrecorded

/-- An undisturbed step loses nothing that has arrived. -/
theorem Kept.step (hkept : s.Kept packets) (hs : s.Sound packets) (hapart : Apart packets)
    {event : Event} (hconverts : event.Converts) (hok : s.Undisturbed event)
    (hstep : SeekPhone.step clock s event = some t) : t.Kept packets := by
  cases event with
  | datagram received =>
      cases hstep
      intro packet hpacket
      by_cases hbefore : packet ∈ s.arrived
      · refine (hkept packet hbefore).samePlayer rfl rfl fun other hother => ?_
        dsimp only
        split_ifs
        · exact List.mem_append_left _ hother
        · exact hother
      · dsimp only at hpacket
        split_ifs at hpacket with hreaches
        · obtain rfl := (List.mem_cons.mp hpacket).resolve_right hbefore
          obtain ⟨hstream, hrecorded⟩ := hok hreaches hbefore
          have haccepted := receiveNext_of_expected hreaches hstream hrecorded
          refine .inl ⟨awaited_of_reaches (s := s) hreaches, received, ?_, rfl⟩
          dsimp only
          rw [haccepted, if_pos rfl]
          exact List.mem_append_right _ List.mem_cons_self
        · exact absurd hpacket hbefore
  | expectStream =>
      unfold SeekPhone.step at hstep
      dsimp only at hstep
      cases hrequests : s.requests with
      | nil =>
          rw [hrequests] at hstep
          cases hstep
      | cons streamID requests =>
          rw [hrequests] at hstep
          cases hstep
          exact fun packet hmem => (hkept packet hmem).samePlayer rfl rfl fun _ h => h
  | deliver input =>
      unfold SeekPhone.step at hstep
      dsimp only at hstep
      cases hdeliveries : s.deliveries with
      | nil =>
          rw [hdeliveries] at hstep
          cases hstep
      | cons received deliveries =>
          rw [hdeliveries] at hstep
          change ∀ received ∈ s.deliveries.head?, _ at hok
          rw [hdeliveries] at hok
          obtain ⟨htakes, htimely⟩ := hok received rfl
          have htimelyRest : ({ s with deliveries } : SeekPhone).Timely deliveries
              (.receive received input) :=
            ⟨htimely.inTime, htimely.handled⟩
          refine (hs.deliver hdeliveries).playerCall_kept hapart ?_ ?_ htimelyRest ?_ hstep
          · intro packet hpacket
            rw [List.mem_singleton.mp hpacket]
            exact hs.deliveries received (hdeliveries ▸ List.mem_cons_self)
          · intro same hsame
            cases hsame
            exact hconverts
          · intro _ next pumps hprepare packet hmem
            by_cases hheard : s.Heard packet
            · exact .of_heard hheard
            · exact (hkept packet hmem).receive hs hapart hdeliveries hmem htakes
                ⟨packet, hmem, hheard⟩ hprepare
  | call event =>
      unfold SeekPhone.step at hstep
      dsimp only at hstep
      split_ifs at hstep with hpassed
      refine hs.playerCall_kept hapart ?_ hconverts hok.2 ?_ hstep
      · rw [callPackets_of_not_passedOn (Bool.eq_false_of_not_eq_true hpassed)]
        exact fun packet hpacket => absurd hpacket List.not_mem_nil
      · intro hstays next pumps hprepare packet hmem
        by_cases hheard : s.Heard packet
        · exact .of_heard hheard
        · have hawaits : s.Awaits := ⟨packet, hmem, hheard⟩
          have hruns : event.restarts = false :=
            Bool.eq_false_of_not_eq_true fun hrestarts => hok.1.runs hrestarts hawaits
          obtain ⟨hlistens, hstreams⟩ := Playback.prepare_listens
            (Bool.eq_false_of_not_eq_true hpassed) hruns hstays hprepare
          refine (hkept packet hmem).listens hlistens fun hidle => hstreams ?_
          exact Bool.eq_false_of_not_eq_true fun hcuts => hok.1.streams hcuts hidle hawaits
  | completed index =>
      obtain ⟨buffer, queuedFrames, -, -, rfl, -⟩ := step_completed hstep
      exact fun packet hmem => (hkept packet hmem).completed

/-- The packets of all datagrams that reach the phone. -/
def datagramPackets (events : List Event) : List AudioPacket := events.flatMap Event.brings

theorem sound_kept_run {receiver : UDPStreamReceiver} {events : List Event}
    (hapart : Apart (datagramPackets events)) (hconverts : ∀ event ∈ events, event.Converts)
    (hok : Along Undisturbed (step clock) { receiver } events)
    (hrun : run (step clock) { receiver } events = some s) :
    s.Sound (datagramPackets events) ∧ s.Kept (datagramPackets events) := by
  have hevents : Along (fun _ event => (∀ packet ∈ event.brings,
      packet ∈ datagramPackets events) ∧ event.Converts) (step clock) { receiver } events := by
    refine along_of_forall fun event hevent _ => ⟨fun packet hpacket => ?_, hconverts event hevent⟩
    exact List.mem_flatMap.mpr ⟨event, hevent, hpacket⟩
  refine run_along (P := fun s => s.Sound (datagramPackets events) ∧
    s.Kept (datagramPackets events)) ?_ ?_ (hok.and hevents) hrun
  · rintro s event t ⟨hs, hkept⟩ ⟨hok, hbrings, hconverts⟩ hstep
    exact ⟨hs.step hapart hbrings hconverts hstep, hkept.step hs hapart hconverts hok hstep⟩
  · refine ⟨⟨Scheduling.startsOnFirst_initial _, ?_, ?_, ?_, ?_⟩, ?_⟩
    · exact ⟨fun _ hmem => absurd hmem List.not_mem_nil, rfl⟩
    · exact fun _ hmem => absurd hmem List.not_mem_nil
    · exact fun _ hmem => absurd hmem List.not_mem_nil
    · exact fun _ hmem => absurd hmem List.not_mem_nil
    · exact fun _ hmem => absurd hmem List.not_mem_nil

/-- A packet of the new stream is kept by the phone exactly if its receiver lets it through. -/
theorem keeps_datagram_iff {received : ReceivedPacket} (hreaches : s.reaches received.packet = true)
    (hnew : ¬ s.Keeps packets received.packet)
    (hstep : step clock s (.datagram received) = some t) :
    t.Keeps packets received.packet ↔ (s.receiver.receiveNext received.packet).1 = true := by
  cases hstep
  constructor
  · intro hkeeps
    by_contra hrefused
    refine hnew (hkeeps.samePlayer rfl rfl fun other hother => ?_)
    dsimp only at hother
    rw [if_neg hrefused] at hother
    exact hother
  · intro haccepted
    refine .inl ⟨awaited_of_reaches (s := s) hreaches, received, ?_, rfl⟩
    dsimp only
    rw [if_pos haccepted]
    exact List.mem_append_right _ List.mem_cons_self

theorem expected_of_received {receiver : UDPStreamReceiver}
    (h : (receiver.receiveNext packet).1 = true) :
    receiver.expectedStreamID = some packet.streamID := by
  unfold UDPStreamReceiver.receiveNext at h
  by_cases hexpected : some packet.sessionID = receiver.expectedSessionID ∧
      some packet.streamID = receiver.expectedStreamID
  · exact hexpected.2.symm
  · rw [if_neg hexpected] at h
    cases h

/-- What a timer event of the player does with a packet that has arrived. -/
theorem arrived_tick (hs : s.Sound packets) (hapart : Apart packets) (hmem : packet ∈ s.arrived)
    (hconverted : ∀ index, input.converted index = true)
    (hok : s.Undisturbed (.call (.tick input)))
    (hstep : step clock s (.call (.tick input)) = some t) :
    (s.player.Stages packet → s.player.actionDue input = true →
        t.scheduling.Queued packets packet ∨ t.scheduling.Sounds packet) ∧
      ∀ entry, s.scheduling.Queued packets packet → s.player.enter input = some (.inr entry) →
        t.scheduling.Queued packets packet ∧ entry.targetFrames ≤ t.player.queuedFrames ∨
          t.scheduling.Sounds packet := by
  obtain ⟨-, next, pumps, call, hprepare, hcall, rfl⟩ := playerCall_cases hstep
  cases hprepare
  obtain ⟨hnone, -⟩ | ⟨same, hsame, hcall⟩ := hcall
  · cases hnone
  cases hsame
  have hgrounded : Grounded packets s.scheduling.scheduled s.scheduling.inFlight s.player :=
    ⟨hs.starts.queues, hs.starts.unstarted, hs.counts⟩
  have hintime := hok.2.inTime rfl _ rfl input rfl
  constructor
  · rintro ⟨hawaited, hheld⟩ hdue
    obtain ⟨hnotDue, -⟩ | ⟨-, hplayed⟩ := Scheduling.awaited_pumpCall hapart hgrounded hconverted
      hintime hawaited hcall
    · exact absurd (hnotDue.symm.trans hdue) Bool.false_ne_true
    · exact hplayed packet hmem hheld
  · rintro entry ⟨hqueues, hstarted⟩ henter
    obtain ⟨reached, hreached, hcall⟩ := Option.bind_eq_some_iff.mp hcall
    cases henter.symm.trans hreached
    obtain ⟨⟨filled, buffers⟩, hfill, hfinish⟩ := Option.bind_eq_some_iff.mp hcall
    obtain ⟨hentered, hprimed, hgeneration⟩ := hqueues.enter henter
    have hbegun : entry.player.primed = true →
        ∃ start ∈ s.scheduling.starts, start.generation = entry.player.generation := by
      intro hplays
      obtain ⟨start, hstart, hsame⟩ := hstarted (hprimed.symm.trans hplays)
      exact ⟨start, hstart, hsame.trans hgeneration.symm⟩
    exact Scheduling.queued_play hapart (hgrounded.enter henter) hconverted hmem hintime henter
      hentered hbegun hfill hfinish

/-- A player that has to wait for its receiver loses what arrives before the switch, and nothing
else: in an undisturbed run everything of the new stream that has reached the phone is staged,
waits for its turn behind the SEEK, is played or has been played. -/
theorem seek_keeps_arrived (clock : HostClock) (receiver : UDPStreamReceiver) (events : List Event)
    (s : SeekPhone) (hapart : Apart (datagramPackets events))
    (hconverts : ∀ event ∈ events, event.Converts)
    (hok : Along Undisturbed (step clock) { receiver } events)
    (hrun : run (step clock) { receiver } events = some s) :
    s.Kept (datagramPackets events) ∧
      (∀ received t, s.reaches received.packet = true →
        ¬ s.Keeps (datagramPackets events) received.packet →
        step clock s (.datagram received) = some t →
        (t.Keeps (datagramPackets events) received.packet ↔
          (s.receiver.receiveNext received.packet).1 = true)) ∧
      (∀ packet, (s.receiver.receiveNext packet).1 = true →
        s.receiver.expectedStreamID = some packet.streamID) ∧
      ∀ input t packet, packet ∈ s.arrived → (∀ index, input.converted index = true) →
        s.Undisturbed (.call (.tick input)) →
        step clock s (.call (.tick input)) = some t →
        (s.player.Stages packet → s.player.actionDue input = true →
          t.scheduling.Queued (datagramPackets events) packet ∨ t.scheduling.Sounds packet) ∧
        ∀ entry, s.scheduling.Queued (datagramPackets events) packet →
          s.player.enter input = some (.inr entry) →
          t.scheduling.Queued (datagramPackets events) packet ∧
            entry.targetFrames ≤ t.player.queuedFrames ∨ t.scheduling.Sounds packet := by
  obtain ⟨hs, hkept⟩ := sound_kept_run hapart hconverts hok hrun
  refine ⟨hkept, ?_, ?_, ?_⟩
  · exact fun received t hreaches hnew hstep => keeps_datagram_iff hreaches hnew hstep
  · exact fun packet haccepted => expected_of_received haccepted
  · exact fun input t packet hmem hconverted hok hstep =>
      arrived_tick hs hapart hmem hconverted hok hstep

section Datagrams

/-- A packet of one mono frame of the stream behind the SEEK. -/
def seekPacket (sequenceNumber : UInt32) (startFrame presentation : UInt64) : AudioPacket :=
  { Playback.originPacket with
    streamID := 2
    sequenceNumber
    startFrame
    presentationTimestampNanoseconds := presentation }

def firstSeekPacket : AudioPacket := seekPacket 0 0 2000000000

def secondSeekPacket : AudioPacket := seekPacket 1 9000 2187500000

def firstSeekDatagram : List UInt8 :=
  Playback.datagramHead ++
    [0, 0, 0, 0, 0, 0, 0, 0, 0, 0, 0, 0, 0x77, 0x35, 0x94, 0, 0, 2, 0, 1, 0, 0, 0, 2, 5, 6]

def secondSeekDatagram : List UInt8 :=
  [0x53, 0x41, 0x55, 0x44, 2, 52, 0, 0,
   0, 0, 0, 0, 0, 0, 0, 7, 0, 0, 0, 1, 0, 0, 0xbb, 0x80, 0, 1, 1, 0,
   0, 0, 0, 0, 0, 0, 0x23, 0x28, 0, 0, 0, 0, 0x82, 0x62, 0x99, 0xe0, 0, 2, 0, 1, 0, 0, 0, 2, 5, 6]

theorem firstSeekDatagram_parsed :
    AudioPacket.ofDatagram firstSeekDatagram = some (some firstSeekPacket) := by
  decide

theorem secondSeekDatagram_parsed :
    AudioPacket.ofDatagram secondSeekDatagram = some (some secondSeekPacket) := by
  decide

def inputAt (now : UInt64) : PumpInput :=
  { Playback.zeroInput with actionNow := now, discardNow := now, startNow := now }

theorem noOffset_le : |Playback.zeroFinite.value| ≤ 2 ^ 65 := Playback.zeroFinite_le 65

/-- At 1.4 seconds the host announces a SEEK to stream 2 at 2 seconds. -/
def announced : List Event :=
  [.call .start,
    .call (.updateClock (some ⟨Playback.zeroFinite, noOffset_le⟩)
      Playback.zeroInput),
    .call (.scheduleRoomAction ⟨"SEEK".toList, 2000000000, 0, 2⟩ 1400000000
      (inputAt 1400000000))]

/-- Its first packet, which the host sends at 1.5 seconds, comes behind the timer event of
1.7 seconds and before the player has told the receiver to switch. -/
def earlyPacket : List Event :=
  announced ++
    [.call (.tick (inputAt 1700000000)),
      .datagram ⟨firstSeekPacket, firstSeekDatagram, firstSeekDatagram_parsed⟩]

/-- Both packets come behind the switch, 220 ms before the SEEK. -/
def switchedInTime : List Event :=
  announced ++
    [.call (.tick (inputAt 1780000000)), .expectStream,
      .datagram ⟨firstSeekPacket, firstSeekDatagram, firstSeekDatagram_parsed⟩,
      .datagram ⟨secondSeekPacket, secondSeekDatagram, secondSeekDatagram_parsed⟩,
      .deliver (inputAt 1800000000), .deliver (inputAt 1900000000),
      .call (.tick (inputAt 2000000000))]

def firstStream : UDPStreamReceiver where
  expectedSessionID := some 7
  expectedStreamID := some 1

theorem seek_keeps_arrived_switchedInTime :
    ∃ s, run (step Playback.deviceClock) { receiver := firstStream } switchedInTime = some s ∧
      s.arrived = [secondSeekPacket, firstSeekPacket] ∧ s.player.primed = true ∧
      s.Kept (datagramPackets switchedInTime) := by
  have hreached : (run (step Playback.deviceClock) { receiver := firstStream } switchedInTime).map
      (fun s => (s.arrived, s.player.primed)) = some ([secondSeekPacket, firstSeekPacket], true) := by
    decide +kernel
  have hapart : Apart (datagramPackets switchedInTime) := by
    unfold Apart
    decide
  have hconverts : ∀ event ∈ switchedInTime, event.Converts := by
    simp [switchedInTime, announced, Event.Converts, callInput, inputAt, Playback.zeroInput]
  have hok : Along Undisturbed (step Playback.deviceClock) { receiver := firstStream }
      switchedInTime := by
    decide +kernel
  obtain ⟨s, hs, hstate⟩ := Option.map_eq_some_iff.mp hreached
  have hkept := (seek_keeps_arrived Playback.deviceClock firstStream switchedInTime s hapart
    hconverts hok hs).1
  exact ⟨s, hs, congrArg Prod.fst hstate, congrArg Prod.snd hstate, hkept⟩

/-- The packet has reached the phone 300 ms before it is to be heard, and it is nowhere. -/
theorem early_seek_packet_lost :
    ∃ s, run (step Playback.deviceClock) { receiver := firstStream } earlyPacket = some s ∧
      firstSeekPacket ∈ s.arrived ∧ ¬ s.Keeps (datagramPackets earlyPacket) firstSeekPacket := by
  have hreached : (run (step Playback.deviceClock) { receiver := firstStream } earlyPacket).map
      (fun s => (s.arrived, s.deliveries.isEmpty, s.player.stagedPackets.held,
        s.player.control.scheduledRoomAction.isSome, s.completed)) =
      some ([firstSeekPacket], true, [], true, []) := by
    decide +kernel
  obtain ⟨s, hs, hstate⟩ := Option.map_eq_some_iff.mp hreached
  obtain ⟨harrived, hdeliveries, hstaged, haction, hcompleted⟩ := by
    simpa only [Prod.mk.injEq] using hstate
  refine ⟨s, hs, harrived ▸ List.mem_cons_self, ?_⟩
  rintro (⟨-, received, hreceived, -⟩ | ⟨-, hheld⟩ | ⟨hqueues, -⟩ | hsounds | ⟨start, -, hdone⟩)
  · rw [List.isEmpty_iff.mp hdeliveries] at hreceived
    exact List.not_mem_nil hreceived
  · rw [hstaged] at hheld
    exact List.not_mem_nil hheld
  · rw [hqueues.idle] at haction
    cases haction
  · rw [hsounds.idle] at haction
    cases haction
  · rw [hcompleted] at hdone
    exact List.not_mem_nil hdone

end Datagrams

end SeekPhone

end SyncAudio.Ios
