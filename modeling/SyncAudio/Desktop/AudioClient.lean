import Mathlib.Data.Finset.Erase
import Mathlib.Data.Finset.Insert
import Mathlib.Data.List.Induction
import SyncAudio.Core.JitterBuffer

/-!
# The receiver thread of the desktop client

`PacketReceiverWorker::run` takes datagrams from the socket, parses them and
pushes them to the jitter buffer. Rejections of the parser and of the buffer
are skipped; whatever the socket wrapper throws ends the thread.

## Implementation notes

The platform cuts a datagram to the length of the receive buffer. Other threads
read the jitter buffer at any time, so reads are events too. `pushed` is no part
of the program: it lists the packets handed to `push`.
-/

namespace SyncAudio

/-- Both callers give both identifiers or neither. -/
structure DesktopAudioClientConfig where
  expectedSessionId : UInt64 := 0
  expectedStreamId : UInt32 := 0
  ids_together : expectedSessionId = 0 ↔ expectedStreamId = 0

namespace UdpAudioReceiver

/-- `receive`. Nothing arrives within the timeout, or a datagram that the
platform cuts to the buffer. -/
def receive : Option (List UInt8) → Except String (Option (List UInt8))
  | none => .ok none
  | some datagram =>
      let received := datagram.take (PacketSerializer.maximumDatagramSize + 1)
      if received.length = 0 ∨ received.length > PacketSerializer.maximumDatagramSize then
        .error "Received UDP audio datagram has invalid size"
      else .ok (some received)

end UdpAudioReceiver

structure PacketReceiverWorker where
  sessionId : Option UInt64
  streamId : Option UInt32
  highestSequence : Option UInt32 := none
  missingSequences : Finset UInt32 := ∅
  packetsReceived : UInt64 := 0
  packetsLost : UInt64 := 0
  outOfOrderPackets : UInt64 := 0
  lastPacketNanoseconds : Int := 0
  exception : Option String := none
  stop : Bool := false
  buffer : JitterBuffer := {}
  pushed : List AudioPacket := []

namespace PacketReceiverWorker

/-- The constructor. -/
def start (config : DesktopAudioClientConfig) : PacketReceiverWorker where
  sessionId := if config.expectedSessionId = 0 then none else some config.expectedSessionId
  streamId := if config.expectedStreamId = 0 then none else some config.expectedStreamId

def updateSequenceStatistics (worker : PacketReceiverWorker) (sequence : UInt32) :
    PacketReceiverWorker :=
  match worker.highestSequence with
  | none => { worker with highestSequence := some sequence }
  | some highest =>
      if sequence > highest then
        let gap := sequence.toNat - highest.toNat - 1
        { worker with
          packetsLost := worker.packetsLost + UInt64.ofNat gap
          missingSequences :=
            if gap ≤ 100000 then
              (List.range gap).foldl
                (fun missing k => insert (highest + 1 + UInt32.ofNat k) missing)
                worker.missingSequences
            else worker.missingSequences
          highestSequence := some sequence }
      else
        { worker with
          outOfOrderPackets := worker.outOfOrderPackets + 1
          packetsLost :=
            if sequence ∈ worker.missingSequences then worker.packetsLost - 1
            else worker.packetsLost
          missingSequences := worker.missingSequences.erase sequence }

/-- The push of a packet that passed both identifier checks. -/
def pushPacket (worker : PacketReceiverWorker) (packet : AudioPacket) (now : Int) :
    PacketReceiverWorker :=
  let result := worker.buffer.push now packet
  let worker := { worker with buffer := result.buffer, pushed := worker.pushed ++ [packet] }
  match result.returned with
  | .ok true =>
      { worker with
        packetsReceived := worker.packetsReceived + 1
        lastPacketNanoseconds := now }
  | _ => worker

/-- The loop body behind a successful parse. -/
def handlePacket (worker : PacketReceiverWorker) (packet : AudioPacket) (now : Int) :
    PacketReceiverWorker :=
  let worker :=
    if worker.sessionId.isNone then
      { worker with sessionId := some packet.sessionId, streamId := some packet.streamId }
    else worker
  if worker.sessionId ≠ some packet.sessionId then worker
  else if worker.streamId ≠ some packet.streamId then worker
  else (worker.updateSequenceStatistics packet.sequenceNumber).pushPacket packet now

inductive Event where
  | receive (arrival : Option (List UInt8)) (now : Int)
  | read (startFrame outputSize : Nat) (retainLookahead locked : Bool)

def step (worker : PacketReceiverWorker) : Event → PacketReceiverWorker
  | .receive arrival now =>
      if worker.stop then worker
      else
        match UdpAudioReceiver.receive arrival with
        | .error message => { worker with exception := some message, stop := true }
        | .ok none => worker
        | .ok (some datagram) =>
            match PacketSerializer.deserialize datagram with
            | .error _ => worker
            | .ok packet => worker.handlePacket packet now
  | .read startFrame outputSize retainLookahead locked =>
      { worker with
        buffer := (worker.buffer.readFrames startFrame outputSize retainLookahead locked).buffer }

/-- The worker behind a sequence of events. -/
def after (config : DesktopAudioClientConfig) (events : List Event) : PacketReceiverWorker :=
  events.foldl step (start config)

/-- The datagrams that arrive. -/
def datagrams (events : List Event) : List (List UInt8) :=
  events.filterMap fun
    | .receive arrival _ => arrival
    | .read .. => none

/-- The packets among the datagrams. -/
def parsed (arrived : List (List UInt8)) : List AudioPacket :=
  arrived.filterMap fun datagram => (PacketSerializer.deserialize datagram).toOption

/-- The identifiers that a packet has to carry: the expected ones, or those of
the first packet. -/
def streamIds (config : DesktopAudioClientConfig) (packets : List AudioPacket) :
    Option (UInt64 × UInt32) :=
  if config.expectedSessionId = 0 then
    packets.head?.map fun packet => (packet.sessionId, packet.streamId)
  else some (config.expectedSessionId, config.expectedStreamId)

/-- The packets that should reach the buffer: all that parse and carry the
identifiers of the stream. -/
def streamPackets (config : DesktopAudioClientConfig) (arrived : List (List UInt8)) :
    List AudioPacket :=
  (parsed arrived).filter fun packet =>
    streamIds config (parsed arrived) = some (packet.sessionId, packet.streamId)

/-- A datagram size that `receive` does not throw on. -/
def SizeOk (datagram : List UInt8) : Prop :=
  0 < datagram.length ∧ datagram.length ≤ PacketSerializer.maximumDatagramSize

/-- The worker runs on and has pushed exactly the packets of its stream. -/
structure Healthy (config : DesktopAudioClientConfig) (arrived : List (List UInt8))
    (worker : PacketReceiverWorker) : Prop where
  running : worker.stop = false
  no_exception : worker.exception = none
  pushed_eq : worker.pushed = streamPackets config arrived

/-- What holds as long as every datagram has an accepted size. -/
structure Invariant (config : DesktopAudioClientConfig) (arrived : List (List UInt8))
    (worker : PacketReceiverWorker) : Prop extends Healthy config arrived worker where
  sessionId_eq : worker.sessionId = (streamIds config (parsed arrived)).map Prod.fst
  streamId_eq : worker.streamId = (streamIds config (parsed arrived)).map Prod.snd

variable {config : DesktopAudioClientConfig} {worker : PacketReceiverWorker}
  {arrived : List (List UInt8)}

theorem receive_ok {datagram : List UInt8} (h : SizeOk datagram) :
    UdpAudioReceiver.receive (some datagram) = .ok (some datagram) := by
  obtain ⟨hpos, hle⟩ := h
  unfold UdpAudioReceiver.receive
  dsimp only
  rw [List.take_of_length_le (by omega), if_neg (by omega)]

theorem receive_error {datagram : List UInt8} (h : ¬ SizeOk datagram) :
    ∃ message, UdpAudioReceiver.receive (some datagram) = .error message := by
  unfold SizeOk PacketSerializer.maximumDatagramSize at h
  unfold UdpAudioReceiver.receive PacketSerializer.maximumDatagramSize
  dsimp only
  rw [List.length_take, if_pos (by omega)]
  exact ⟨_, rfl⟩

theorem invariant_start (config : DesktopAudioClientConfig) :
    Invariant config [] (start config) := by
  have htogether := config.ids_together
  refine { running := rfl, no_exception := rfl, pushed_eq := rfl, sessionId_eq := ?_,
           streamId_eq := ?_ }
  · simp only [start, streamIds, parsed, List.filterMap_nil, List.head?_nil, Option.map_none]
    split_ifs <;> rfl
  · simp only [start, streamIds, parsed, List.filterMap_nil, List.head?_nil, Option.map_none]
    by_cases hsession : config.expectedSessionId = 0
    · rw [if_pos hsession, if_pos (htogether.mp hsession)]
      rfl
    · rw [if_neg hsession, if_neg fun h => hsession (htogether.mpr h)]
      rfl

/-- The first packet fixes the identifiers, later ones do not change them. -/
theorem streamIds_append (config : DesktopAudioClientConfig) (packets : List AudioPacket)
    (packet : AudioPacket) :
    streamIds config (packets ++ [packet]) =
      (streamIds config packets).or (some (packet.sessionId, packet.streamId)) := by
  unfold streamIds
  split_ifs
  · cases packets <;> rfl
  · rfl

theorem parsed_append_error {datagram : List UInt8} {message : String}
    (h : PacketSerializer.deserialize datagram = .error message) :
    parsed (arrived ++ [datagram]) = parsed arrived := by
  rw [parsed, List.filterMap_append, List.filterMap_cons_none (by rw [h]; rfl),
    List.filterMap_nil, List.append_nil, parsed]

theorem parsed_append_ok {datagram : List UInt8} {packet : AudioPacket}
    (h : PacketSerializer.deserialize datagram = .ok packet) :
    parsed (arrived ++ [datagram]) = parsed arrived ++ [packet] := by
  rw [parsed, List.filterMap_append, List.filterMap_cons_some (b := packet) (by rw [h]; rfl),
    List.filterMap_nil, parsed]

theorem streamIds_eq_none {packets : List AudioPacket} (h : streamIds config packets = none) :
    packets = [] := by
  unfold streamIds at h
  split_ifs at h
  cases packets with
  | nil => rfl
  | cons packet packets => cases h

/-- A packet that parses is appended if its identifiers are those of the stream. -/
theorem streamPackets_append {datagram : List UInt8} {packet : AudioPacket}
    (h : PacketSerializer.deserialize datagram = .ok packet) :
    streamPackets config (arrived ++ [datagram]) = streamPackets config arrived ++
      if (streamIds config (parsed arrived)).or (some (packet.sessionId, packet.streamId)) =
        some (packet.sessionId, packet.streamId)
      then [packet] else [] := by
  unfold streamPackets
  rw [parsed_append_ok h, streamIds_append, List.filter_append]
  cases hids : streamIds config (parsed arrived) with
  | none =>
      rw [streamIds_eq_none hids]
      simp
  | some ids =>
      congr 1
      rw [List.filter_singleton]
      by_cases hmatch : ids = (packet.sessionId, packet.streamId) <;> simp [hmatch]

/-- The statistics leave everything but the counters alone. -/
theorem updateSequenceStatistics_frame (worker : PacketReceiverWorker) (sequence : UInt32) :
    let next := worker.updateSequenceStatistics sequence
    next.stop = worker.stop ∧ next.exception = worker.exception ∧
      next.sessionId = worker.sessionId ∧ next.streamId = worker.streamId ∧
      next.pushed = worker.pushed := by
  unfold updateSequenceStatistics
  cases worker.highestSequence with
  | none => exact ⟨rfl, rfl, rfl, rfl, rfl⟩
  | some highest =>
      dsimp only
      split_ifs <;> exact ⟨rfl, rfl, rfl, rfl, rfl⟩

theorem pushPacket_frame (worker : PacketReceiverWorker) (packet : AudioPacket) (now : Int) :
    let next := worker.pushPacket packet now
    next.stop = worker.stop ∧ next.exception = worker.exception ∧
      next.sessionId = worker.sessionId ∧ next.streamId = worker.streamId ∧
      next.pushed = worker.pushed ++ [packet] := by
  unfold pushPacket
  dsimp only
  split <;> exact ⟨rfl, rfl, rfl, rfl, rfl⟩

/-- What a parsed packet does to the identifiers and to the list of pushes. -/
theorem handlePacket_spec (now : Int) (packet : AudioPacket) {ids : Option (UInt64 × UInt32)}
    (hsession : worker.sessionId = ids.map Prod.fst) (hstream : worker.streamId = ids.map Prod.snd) :
    let next := worker.handlePacket packet now
    let nextIds := ids.or (some (packet.sessionId, packet.streamId))
    next.stop = worker.stop ∧ next.exception = worker.exception ∧
      next.sessionId = nextIds.map Prod.fst ∧ next.streamId = nextIds.map Prod.snd ∧
      next.pushed = worker.pushed ++
        if nextIds = some (packet.sessionId, packet.streamId) then [packet] else [] := by
  have hpush (w : PacketReceiverWorker) :
      let next := (w.updateSequenceStatistics packet.sequenceNumber).pushPacket packet now
      next.stop = w.stop ∧ next.exception = w.exception ∧ next.sessionId = w.sessionId ∧
        next.streamId = w.streamId ∧ next.pushed = w.pushed ++ [packet] := by
    obtain ⟨h1, h2, h3, h4, h5⟩ := updateSequenceStatistics_frame w packet.sequenceNumber
    obtain ⟨k1, k2, k3, k4, k5⟩ :=
      pushPacket_frame (w.updateSequenceStatistics packet.sequenceNumber) packet now
    exact ⟨k1.trans h1, k2.trans h2, k3.trans h3, k4.trans h4, h5 ▸ k5⟩
  unfold handlePacket
  cases ids with
  | none =>
      rw [hsession]
      simpa using hpush { worker with
        sessionId := some packet.sessionId, streamId := some packet.streamId }
  | some ids =>
      obtain ⟨session, stream⟩ := ids
      have hpushed := hpush worker
      rw [hsession, hstream] at hpushed
      rw [hsession]
      simp only [Option.map_some, Option.isNone_some, Bool.false_eq_true, if_false, hsession,
        hstream, Option.some_or, ne_eq, Option.some.injEq, Prod.mk.injEq]
      by_cases hsame : session = packet.sessionId
      · by_cases hsame' : stream = packet.streamId
        · rw [if_neg (not_not.mpr hsame), if_neg (not_not.mpr hsame'), if_pos ⟨hsame, hsame'⟩]
          exact hpushed
        · rw [if_neg (not_not.mpr hsame), if_pos hsame', if_neg fun h => hsame' h.2]
          exact ⟨rfl, rfl, hsession, hstream, (List.append_nil _).symm⟩
      · rw [if_pos hsame, if_neg fun h => hsame h.1]
        exact ⟨rfl, rfl, hsession, hstream, (List.append_nil _).symm⟩

theorem invariant_step {event : Event} (hinv : Invariant config arrived worker)
    (hsize : ∀ datagram ∈ datagrams [event], SizeOk datagram) :
    Invariant config (arrived ++ datagrams [event]) (worker.step event) := by
  cases event with
  | read startFrame outputSize retainLookahead locked =>
      rw [show datagrams [.read startFrame outputSize retainLookahead locked] = [] from rfl,
        List.append_nil]
      exact ⟨⟨hinv.running, hinv.no_exception, hinv.pushed_eq⟩, hinv.sessionId_eq, hinv.streamId_eq⟩
  | receive arrival now =>
      have hrunning : ¬ worker.stop = true := by
        rw [hinv.running]
        decide
      unfold step
      dsimp only
      rw [if_neg hrunning]
      cases arrival with
      | none =>
          rw [show datagrams [.receive none now] = [] from rfl, List.append_nil]
          exact hinv
      | some datagram =>
          rw [show datagrams [.receive (some datagram) now] = [datagram] from rfl] at hsize ⊢
          rw [receive_ok (hsize datagram List.mem_cons_self)]
          dsimp only
          cases hparse : PacketSerializer.deserialize datagram with
          | error message =>
              refine ⟨⟨hinv.running, hinv.no_exception, ?_⟩, ?_, ?_⟩
              · unfold streamPackets
                rw [parsed_append_error hparse]
                exact hinv.pushed_eq
              · rw [parsed_append_error hparse]
                exact hinv.sessionId_eq
              · rw [parsed_append_error hparse]
                exact hinv.streamId_eq
          | ok packet =>
              obtain ⟨hstop, hexception, hsession, hstream, hpushed⟩ :=
                handlePacket_spec now packet hinv.sessionId_eq hinv.streamId_eq
              refine ⟨⟨hstop.trans hinv.running, hexception.trans hinv.no_exception, ?_⟩, ?_, ?_⟩
              · rw [hpushed, hinv.pushed_eq, streamPackets_append hparse]
              · rw [parsed_append_ok hparse, streamIds_append]
                exact hsession
              · rw [parsed_append_ok hparse, streamIds_append]
                exact hstream

theorem after_append (config : DesktopAudioClientConfig) (events : List Event) (event : Event) :
    after config (events ++ [event]) = (after config events).step event :=
  List.foldl_concat ..

theorem datagrams_append (events : List Event) (event : Event) :
    datagrams (events ++ [event]) = datagrams events ++ datagrams [event] :=
  List.filterMap_append ..

theorem invariant_after {events : List Event}
    (hsize : ∀ datagram ∈ datagrams events, SizeOk datagram) :
    Invariant config (datagrams events) (after config events) := by
  induction events using List.reverseRecOn with
  | nil => exact invariant_start config
  | append_singleton events event ih =>
      rw [datagrams_append] at hsize ⊢
      rw [after_append]
      exact invariant_step (ih fun d hd => hsize d (List.mem_append_left _ hd))
        fun d hd => hsize d (List.mem_append_right _ hd)

/-- An exception of the socket wrapper is never cleared. -/
theorem stop_step {event : Event} (h : worker.stop = true) : (worker.step event).stop = true := by
  cases event with
  | read startFrame outputSize retainLookahead locked => exact h
  | receive arrival now =>
      unfold step
      dsimp only
      rw [if_pos h]
      exact h

theorem stop_after {events : List Event} {datagram : List UInt8}
    (hmem : datagram ∈ datagrams events) (hsize : ¬ SizeOk datagram) :
    (after config events).stop = true := by
  induction events using List.reverseRecOn with
  | nil => cases hmem
  | append_singleton events event ih =>
      rw [after_append]
      rw [datagrams_append, List.mem_append] at hmem
      rcases hmem with hearlier | hlast
      · exact stop_step (ih hearlier)
      · cases event with
        | read startFrame outputSize retainLookahead locked => cases hlast
        | receive arrival now =>
            by_cases hstopped : (after config events).stop = true
            · exact stop_step hstopped
            · cases arrival with
              | none => cases hlast
              | some arrived =>
                  obtain rfl : datagram = arrived := List.mem_singleton.mp hlast
                  obtain ⟨message, herror⟩ := receive_error hsize
                  unfold step
                  dsimp only
                  rw [if_neg hstopped, herror]

/-- The worker survives a sequence of datagrams and pushes exactly the packets
of its stream if and only if no datagram is empty or longer than a packet. -/
theorem healthy_iff (config : DesktopAudioClientConfig) (events : List Event) :
    Healthy config (datagrams events) (after config events) ↔
      ∀ datagram ∈ datagrams events, SizeOk datagram := by
  constructor
  · intro hhealthy datagram hmem
    by_contra hsize
    have := hhealthy.running
    rw [stop_after hmem hsize] at this
    cases this
  · intro hsize
    exact (invariant_after hsize).toHealthy

/-- A client that expects no particular stream. -/
def anyStream : DesktopAudioClientConfig where
  ids_together := by decide

/-- One empty datagram ends the thread. -/
theorem healthy_fails_on_empty :
    ¬ Healthy anyStream (datagrams [.receive (some []) 0]) (after anyStream [.receive (some []) 0]) := by
  intro hhealthy
  exact absurd hhealthy.running (by decide)

end PacketReceiverWorker

end SyncAudio
