import SyncAudio.Ios.SeekStaging
import SyncAudio.Lib.Generations
import SyncAudio.Lib.LabelledRun

/-!
# The sockets of the receiver

`UDPStreamReceiver` listens for one host. Its listener, its connections and their pending
receives call back on its queue, some of them after the receiver has gone on to another host
or has stopped. Nothing of theirs reaches the player.

## Implementation notes

A step is a block on the queue. The network framework may run any callback that was ever set,
as often as it likes, except that a pending receive is completed once. Whether a listener can
be made is up to the system. The timer, the status texts and the snapshots are left out. The
callbacks that were set and the packets that were passed on are recorded for the steps and the
statements.
-/

namespace SyncAudio.Ios

open LabelledRun

/-- A connection and the IPv4 address of its peer, if it has one. -/
structure PeerConnection where
  identifier : Nat
  remoteAddress : Option UInt32
  deriving DecidableEq

/-- What a call of the receiver asks for. -/
structure ExpectedStream where
  host : UInt32
  sessionID : UInt64
  streamID : UInt32
  deriving DecidableEq

/-- `UDPStreamReceiver` with its sockets. -/
structure ListeningReceiver extends UDPStreamReceiver where
  expectedHost : Option UInt32 := none
  generation : Nat := 0
  connections : List Nat := []
  /-- The generations of the listeners that were made. -/
  listeners : List Nat := []
  /-- The state handlers of the connections. -/
  handlers : List (Captured PeerConnection) := []
  /-- The receives that are not completed. -/
  receives : List (Captured PeerConnection) := []
  /-- The calls of `onPacket`, the last one first. -/
  passed : List (PeerConnection × AudioPacket) := []

namespace ListeningReceiver

/-- The calls of the receiver. -/
inductive Call where
  | start (host : UInt32) (sessionID : UInt64) (streamID : UInt32) (listens : Bool)
  | stop
  | expectStream (streamID : UInt32)

inductive Event where
  | call (call : Call)
  | newConnection (captured : Nat) (connection : PeerConnection)
  | ready (index : Nat)
  | closed (index : Nat)
  | message (index : Nat) (data : Option (List UInt8)) (failed : Bool)

/-- The part of `start`, `stop` and `expectStream` on the queue. -/
def called (receiver : ListeningReceiver) : Call → ListeningReceiver
  | .start host sessionID streamID listens =>
      { receiver with
        generation := receiver.generation + 1
        connections := []
        expectedHost := some host
        expectedSessionID := some sessionID
        expectedStreamID := some streamID
        accumulator := {}
        listeners :=
          if listens then (receiver.generation + 1) :: receiver.listeners else receiver.listeners }
  | .stop =>
      { receiver with
        generation := receiver.generation + 1
        connections := []
        expectedHost := none
        expectedSessionID := none
        expectedStreamID := none
        accumulator := {} }
  | .expectStream streamID =>
      { receiver with toUDPStreamReceiver := receiver.toUDPStreamReceiver.expectStream streamID }

/-- `accept`. -/
def accept (receiver : ListeningReceiver) (connection : PeerConnection) (generation : Nat) :
    ListeningReceiver :=
  if receiver.expectedHost.isSome ∧ connection.remoteAddress = receiver.expectedHost then
    { receiver with
      connections := connection.identifier :: receiver.connections
      handlers := ⟨connection, generation⟩ :: receiver.handlers }
  else receiver

/-- The completion of a receive in its generation. -/
def completed (receiver : ListeningReceiver) (connection : PeerConnection)
    (data : Option (List UInt8)) (failed : Bool) : ListeningReceiver :=
  if failed then
    { receiver with connections := receiver.connections.filter (· ≠ connection.identifier) }
  else
    let receiver :=
      match data.bind fun bytes => (AudioPacket.ofDatagram bytes).join with
      | none => receiver
      | some packet =>
          let taken := receiver.toUDPStreamReceiver.receiveNext packet
          { receiver with
            toUDPStreamReceiver := taken.2
            passed := if taken.1 then (connection, packet) :: receiver.passed else receiver.passed }
    { receiver with receives := ⟨connection, receiver.generation⟩ :: receiver.receives }

def step : Step ListeningReceiver Event
  | receiver, .call call => some (receiver.called call)
  | receiver, .newConnection captured connection =>
      if captured ∈ receiver.listeners then
        some (if receiver.generation = captured then receiver.accept connection captured else receiver)
      else none
  | receiver, .ready index =>
      receiver.handlers[index]?.map fun handler =>
        if receiver.generation = handler.generation then
          { receiver with receives := handler :: receiver.receives }
        else receiver
  | receiver, .closed index =>
      receiver.handlers[index]?.map fun handler =>
        if receiver.generation = handler.generation then
          { receiver with
            connections := receiver.connections.filter (· ≠ handler.callback.identifier) }
        else receiver
  | receiver, .message index data failed =>
      receiver.receives[index]?.map fun pending =>
        let receiver := { receiver with receives := receiver.receives.eraseIdx index }
        if receiver.generation = pending.generation then
          receiver.completed pending.callback data failed
        else receiver

/-- What a call asks for, after what was asked for before. -/
def Call.ask (asked : Option ExpectedStream) : Call → Option ExpectedStream
  | .start host sessionID streamID _ => some { host, sessionID, streamID }
  | .stop => none
  | .expectStream streamID => asked.map fun expected => { expected with streamID := streamID }

def Event.ask (asked : Option ExpectedStream) : Event → Option ExpectedStream
  | .call made => made.ask asked
  | _ => asked

/-- What the calls of a run ask for in the end. -/
def asked (events : List Event) : Option ExpectedStream := events.foldl Event.ask none

/-- The callbacks of this generation belong to connections of the expected host. -/
structure Guarded (receiver : ListeningReceiver) : Prop where
  handlers : Captured.Current
    (fun connection => connection.remoteAddress = receiver.expectedHost) receiver.generation
    receiver.handlers
  receives : Captured.Current
    (fun connection => connection.remoteAddress = receiver.expectedHost) receiver.generation
    receiver.receives

/-- The receiver expects what was asked for. -/
structure Expects (receiver : ListeningReceiver) (expected : Option ExpectedStream) : Prop where
  host : receiver.expectedHost = expected.map ExpectedStream.host
  session : receiver.expectedSessionID = expected.map ExpectedStream.sessionID
  stream : ∀ e ∈ expected, receiver.expectedStreamID = some e.streamID

variable {receiver after : ListeningReceiver} {call : Call} {event : Event}
  {expected : Option ExpectedStream} {connection : PeerConnection} {data : Option (List UInt8)}
  {failed : Bool} {packet : AudioPacket}

theorem Guarded.called (h : Guarded receiver) (call : Call) : Guarded (receiver.called call) := by
  cases call with
  | start host sessionID streamID listens => exact ⟨h.handlers.next, h.receives.next⟩
  | stop => exact ⟨h.handlers.next, h.receives.next⟩
  | expectStream streamID => exact ⟨h.handlers, h.receives⟩

theorem Guarded.accept (h : Guarded receiver) (connection : PeerConnection) :
    Guarded (receiver.accept connection receiver.generation) := by
  rw [ListeningReceiver.accept]
  split_ifs with hremote
  · exact ⟨h.handlers.cons hremote.2, h.receives⟩
  · exact h

/-- A datagram leaves the expectation and the callbacks. -/
theorem receiveNext_session (receiver : UDPStreamReceiver) (packet : AudioPacket) :
    (receiver.receiveNext packet).2.expectedSessionID = receiver.expectedSessionID ∧
      (receiver.receiveNext packet).2.expectedStreamID = receiver.expectedStreamID := by
  rw [UDPStreamReceiver.receiveNext]
  split_ifs with hexpected
  · exact ⟨rfl, rfl⟩
  · exact ⟨rfl, rfl⟩

/-- What the completion of a receive leaves as it is. -/
theorem completed_frame (receiver : ListeningReceiver) (connection : PeerConnection)
    (data : Option (List UInt8)) (failed : Bool) :
    (receiver.completed connection data failed).generation = receiver.generation ∧
      (receiver.completed connection data failed).expectedHost = receiver.expectedHost ∧
      (receiver.completed connection data failed).expectedSessionID = receiver.expectedSessionID ∧
      (receiver.completed connection data failed).expectedStreamID = receiver.expectedStreamID ∧
      (receiver.completed connection data failed).handlers = receiver.handlers ∧
      (receiver.completed connection data failed).receives ⊆
        ⟨connection, receiver.generation⟩ :: receiver.receives := by
  rw [completed]
  split_ifs with hfailed
  · exact ⟨rfl, rfl, rfl, rfl, rfl, List.subset_cons_self _ _⟩
  · cases data.bind fun bytes => (AudioPacket.ofDatagram bytes).join with
    | none => exact ⟨rfl, rfl, rfl, rfl, rfl, List.Subset.refl _⟩
    | some packet =>
        obtain ⟨hsession, hstream⟩ := receiveNext_session receiver.toUDPStreamReceiver packet
        exact ⟨rfl, rfl, hsession, hstream, rfl, List.Subset.refl _⟩

theorem Guarded.completed (h : Guarded receiver)
    (hremote : connection.remoteAddress = receiver.expectedHost) (data : Option (List UInt8))
    (failed : Bool) : Guarded (receiver.completed connection data failed) := by
  obtain ⟨hgeneration, hhost, -, -, hhandlers, hreceives⟩ :=
    completed_frame receiver connection data failed
  constructor
  · rw [hgeneration, hhost, hhandlers]
    exact h.handlers
  · rw [hgeneration, hhost]
    exact (h.receives.cons hremote).subset hreceives

theorem Guarded.step (h : Guarded receiver) (hstep : step receiver event = some after) :
    Guarded after := by
  cases event with
  | call call =>
      cases hstep
      exact h.called call
  | newConnection captured connection =>
      obtain ⟨-, hafter⟩ := Option.ite_none_right_eq_some.mp hstep
      cases hafter
      split_ifs with hgeneration
      · exact hgeneration ▸ h.accept connection
      · exact h
  | ready index =>
      obtain ⟨handler, hmem, rfl⟩ := Option.map_eq_some_iff.mp hstep
      split_ifs with hgeneration
      · have hremote := h.handlers.get (List.mem_of_getElem? hmem) hgeneration.symm
        have hcons := h.receives.cons hremote
        rw [hgeneration] at hcons
        exact ⟨h.handlers, hgeneration ▸ hcons⟩
      · exact h
  | closed index =>
      obtain ⟨handler, -, rfl⟩ := Option.map_eq_some_iff.mp hstep
      split_ifs
      · exact ⟨h.handlers, h.receives⟩
      · exact h
  | message index data failed =>
      obtain ⟨pending, hmem, rfl⟩ := Option.map_eq_some_iff.mp hstep
      have herased : Guarded { receiver with receives := receiver.receives.eraseIdx index } :=
        ⟨h.handlers, h.receives.subset (List.eraseIdx_subset)⟩
      simp only
      split_ifs with hgeneration
      · exact herased.completed (h.receives.get (List.mem_of_getElem? hmem) hgeneration.symm)
          data failed
      · exact herased

theorem Expects.step (h : Expects receiver expected) (hstep : step receiver event = some after) :
    Expects after (event.ask expected) := by
  cases event with
  | call call =>
      cases hstep
      cases call with
      | start host sessionID streamID listens =>
          refine ⟨rfl, rfl, ?_⟩
          intro e he
          rw [← Option.mem_some_iff.mp he]
          rfl
      | stop => exact ⟨rfl, rfl, fun e he => absurd he (Option.not_mem_none e)⟩
      | expectStream streamID =>
          cases expected with
          | none => exact ⟨h.host, h.session, fun e he => absurd he (Option.not_mem_none e)⟩
          | some old =>
              refine ⟨h.host, h.session, ?_⟩
              intro e he
              rw [← Option.some.inj he]
              rfl
  | newConnection captured connection =>
      obtain ⟨-, hafter⟩ := Option.ite_none_right_eq_some.mp hstep
      cases hafter
      rw [accept]
      split_ifs
      · exact ⟨h.host, h.session, h.stream⟩
      · exact h
      · exact h
  | ready index =>
      obtain ⟨handler, -, rfl⟩ := Option.map_eq_some_iff.mp hstep
      split_ifs
      · exact ⟨h.host, h.session, h.stream⟩
      · exact h
  | closed index =>
      obtain ⟨handler, -, rfl⟩ := Option.map_eq_some_iff.mp hstep
      split_ifs
      · exact ⟨h.host, h.session, h.stream⟩
      · exact h
  | message index data failed =>
      obtain ⟨pending, -, rfl⟩ := Option.map_eq_some_iff.mp hstep
      simp only
      split_ifs
      · obtain ⟨-, hhost, hsession, hstream, -⟩ :=
          completed_frame { receiver with receives := receiver.receives.eraseIdx index }
            pending.callback data failed
        exact ⟨hhost.trans h.host, hsession.trans h.session, fun e he => hstream.trans (h.stream e he)⟩
      · exact ⟨h.host, h.session, h.stream⟩

theorem guarded_start : Guarded {} := ⟨Captured.current_nil, Captured.current_nil⟩

theorem expects_start : Expects {} none :=
  ⟨rfl, rfl, fun e he => absurd he (Option.not_mem_none e)⟩

theorem Expects.run {events : List Event} (h : Expects receiver expected)
    (hrun : run ListeningReceiver.step receiver events = some after) :
    Expects after (events.foldl Event.ask expected) := by
  induction events generalizing receiver expected with
  | nil =>
      cases hrun
      exact h
  | cons event events ih =>
      obtain ⟨next, hstep, hrest⟩ := run_cons_some.mp hrun
      exact ih (h.step hstep) hrest

/-- A packet that is passed on is what the receiver expects. -/
theorem completed_passed (receiver : ListeningReceiver) (connection : PeerConnection)
    (data : Option (List UInt8)) (failed : Bool) :
    (receiver.completed connection data failed).passed = receiver.passed ∨
      ∃ packet, (receiver.completed connection data failed).passed =
          (connection, packet) :: receiver.passed ∧
        some packet.sessionID = receiver.expectedSessionID ∧
        some packet.streamID = receiver.expectedStreamID := by
  rw [completed]
  split_ifs with hfailed
  · exact .inl rfl
  · cases data.bind fun bytes => (AudioPacket.ofDatagram bytes).join with
    | none => exact .inl rfl
    | some packet =>
        cases htaken : (receiver.toUDPStreamReceiver.receiveNext packet).1 with
        | false =>
            simp only [htaken]
            exact .inl rfl
        | true =>
            simp only [htaken]
            refine .inr ⟨packet, rfl, ?_⟩
            rw [UDPStreamReceiver.receiveNext] at htaken
            split_ifs at htaken with hexpected
            exact hexpected

/-- Only the completion of a receive passes a packet on, and what it passes on comes from the
host, the session and the stream that the calls before it ask for. -/
theorem passed_of_asked (events : List Event)
    (hrun : run step {} events = some receiver) (hstep : step receiver event = some after) :
    after.passed = receiver.passed ∨
      ∃ connection packet expected, after.passed = (connection, packet) :: receiver.passed ∧
        asked events = some expected ∧ connection.remoteAddress = some expected.host ∧
        packet.sessionID = expected.sessionID ∧ packet.streamID = expected.streamID := by
  have hguarded : Guarded receiver := run_preserves (fun h hs => h.step hs) guarded_start hrun
  have hexpects := expects_start.run hrun
  cases event with
  | call call =>
      cases hstep
      cases call <;> exact .inl rfl
  | newConnection captured connection =>
      obtain ⟨-, hafter⟩ := Option.ite_none_right_eq_some.mp hstep
      cases hafter
      rw [accept]
      split_ifs <;> exact .inl rfl
  | ready index =>
      obtain ⟨handler, -, rfl⟩ := Option.map_eq_some_iff.mp hstep
      split_ifs <;> exact .inl rfl
  | closed index =>
      obtain ⟨handler, -, rfl⟩ := Option.map_eq_some_iff.mp hstep
      split_ifs <;> exact .inl rfl
  | message index data failed =>
      obtain ⟨pending, hmem, rfl⟩ := Option.map_eq_some_iff.mp hstep
      simp only
      split_ifs with hgeneration
      · have hremote := hguarded.receives.get (List.mem_of_getElem? hmem) hgeneration.symm
        cases completed_passed { receiver with receives := receiver.receives.eraseIdx index }
            pending.callback data failed with
        | inl hsame => exact .inl hsame
        | inr hpassed =>
            obtain ⟨packet, hpassed, hsession, hstream⟩ := hpassed
            right
            have hsession' := hsession.trans hexpects.session
            obtain ⟨expected, hasked, hid⟩ := Option.map_eq_some_iff.mp hsession'.symm
            refine ⟨pending.callback, packet, expected, hpassed, hasked, ?_, hid.symm, ?_⟩
            · rw [hremote, hexpects.host, hasked]
              rfl
            · have hasked' := hexpects.stream expected hasked
              exact Option.some.inj (hstream.trans hasked')
      · exact .inl rfl

/-- The receiver behind a first connection of its host. -/
def listeningOnce : ListeningReceiver where
  expectedHost := some 9
  expectedSessionID := some 7
  expectedStreamID := some 2
  generation := 1
  connections := [0]
  listeners := [1]
  handlers := [⟨⟨0, some 9⟩, 1⟩]
  receives := [⟨⟨0, some 9⟩, 1⟩]

/-- The host has sent a datagram on the connection. -/
def listeningTwice : ListeningReceiver :=
  { listeningOnce with receives := [] }.completed ⟨0, some 9⟩
    (some SeekPhone.firstSeekDatagram) false

/-- The calls and callbacks up to the first connection. -/
def firstConnection : List Event :=
  [.call (.start 9 7 2 true), .newConnection 1 ⟨0, some 9⟩, .ready 0]

theorem passed_of_asked_once :
    listeningTwice.passed = [(⟨0, some 9⟩, SeekPhone.firstSeekPacket)] ∧
      (listeningTwice.passed = listeningOnce.passed ∨
        ∃ connection packet expected,
          listeningTwice.passed = (connection, packet) :: listeningOnce.passed ∧
            asked firstConnection = some expected ∧
            connection.remoteAddress = some expected.host ∧
            packet.sessionID = expected.sessionID ∧ packet.streamID = expected.streamID) := by
  have hrun : run step {} firstConnection = some listeningOnce := rfl
  have hstep : step listeningOnce (.message 0 (some SeekPhone.firstSeekDatagram) false) =
      some listeningTwice := by
    rw [step]
    rfl
  constructor
  · decide +kernel
  · exact passed_of_asked firstConnection hrun hstep

end ListeningReceiver

end SyncAudio.Ios
