import SyncAudio.Ios.HostWelcome
import SyncAudio.Ios.UDPStreamReceiver

/-!
# The phone between its queues

The view model lives on the main queue, the receiver on its own. Each calls the other only by
putting a block on the other's queue, so a welcome or a lost connection may be handled long
after the user has stopped. Whatever the receiver passes on then is of the session the view
model is in, unless the view model has asked for another one and the receiver has not got to it.

## Implementation notes

The blocks that the control channel, the receiver, the player and the clock put on the main
queue may come at any time and with any content. The player and the clock get their commands
together with the receiver; they and the texts the view shows are left out.
-/

namespace SyncAudio.Ios

open LabelledRun

inductive ReceiverConnectionState where
  | disconnected
  | discovering
  | connecting
  | syncing
  | buffering
  | playing
  | degraded
  | reconnecting
  deriving DecidableEq

/-- A block on the main queue. -/
inductive MainBlock where
  | snapshot (receiving : Bool)
  | playback (playing buffering : Bool)
  | estimate (present : Bool)
  | lost
  | welcome (welcome : HostWelcome UInt32)

/-- A call of the receiver that waits on its queue. -/
inductive ReceiverCommand where
  | start (host : UInt32) (port : UInt16) (sessionID : UInt64) (streamID : UInt32)
  | stop
  | expectStream (streamID : UInt32)
  deriving DecidableEq

/-- The fields the user has filled in. -/
structure ConnectFields where
  address : Option UInt32
  port : Option UInt16
  controlPort : Option UInt16
  sessionPort : Option UInt16

structure ReceiverViewModel where
  isListening : Bool := false
  expectedSessionID : Option UInt64 := none
  connectionState : ReceiverConnectionState := .discovering
  deriving DecidableEq

namespace ReceiverViewModel

/-- A step of the view model: what it is behind it, and its calls of the receiver. -/
abbrev Effect := ReceiverViewModel × List ReceiverCommand

/-- `connect(to:)`. -/
def connect (model : ReceiverViewModel) : Effect :=
  if model.isListening then (model, [])
  else ({ model with isListening := true, connectionState := .connecting }, [])

/-- `start`. -/
def start (model : ReceiverViewModel) (fields : ConnectFields) : Effect :=
  match fields.address, fields.port, fields.controlPort, fields.sessionPort with
  | some _, some port, some controlPort, some sessionPort =>
      if port = 0 ∨ controlPort = 0 ∨ controlPort = port ∨ sessionPort = 0 ∨ sessionPort = port ∨
          sessionPort = controlPort then (model, [])
      else ({ model with isListening := true, connectionState := .connecting }, [])
  | _, _, _, _ => (model, [])

/-- `stop`. -/
def stop (_ : ReceiverViewModel) : Effect :=
  ({ isListening := false, expectedSessionID := none, connectionState := .disconnected }, [.stop])

/-- `startStream`. -/
def startStream (_ : ReceiverViewModel) (welcome : HostWelcome UInt32) : Effect :=
  ({ isListening := true
     expectedSessionID := some welcome.sessionID
     connectionState := .syncing },
    [.start welcome.hostIPv4 welcome.audioPort welcome.sessionID welcome.streamID])

/-- A block of the main queue. -/
def handle (model : ReceiverViewModel) : MainBlock → Effect
  | .snapshot receiving =>
      (if model.connectionState = .playing ∧ ¬ receiving then
        { model with connectionState := .degraded }
      else model, [])
  | .playback playing buffering =>
      (if playing then { model with connectionState := .playing }
      else if buffering then { model with connectionState := .buffering }
      else model, [])
  | .estimate present =>
      (if present ∧ model.connectionState = .syncing then
        { model with connectionState := .buffering }
      else model, [])
  | .lost =>
      if model.isListening then
        ({ model with expectedSessionID := none, connectionState := .reconnecting }, [.stop])
      else (model, [])
  | .welcome welcome => if model.isListening then model.startStream welcome else (model, [])

end ReceiverViewModel

/-- The phone: the view model, the blocks of the main queue, the calls on the receiver's queue
and the receiver. -/
structure ReceiverPhone where
  model : ReceiverViewModel := {}
  main : List MainBlock := []
  commands : List ReceiverCommand := []
  receiver : ListeningReceiver := {}

namespace ReceiverPhone

inductive Event where
  | connect
  | start (fields : ConnectFields)
  | stop
  | post (block : MainBlock)
  | handle
  | expectStream (streamID : UInt32)
  | command (listens : Bool)
  | newConnection (captured : Nat) (connection : PeerConnection)
  | ready (index : Nat)
  | closed (index : Nat)
  | message (index : Nat) (data : Option (List UInt8)) (failed : Bool)

/-- The block on the receiver's queue. -/
def ReceiverCommand.toCall (listens : Bool) : ReceiverCommand → ListeningReceiver.Call
  | .start host _ sessionID streamID => .start host sessionID streamID listens
  | .stop => .stop
  | .expectStream streamID => .expectStream streamID

def effect (phone : ReceiverPhone) (made : ReceiverViewModel.Effect) : ReceiverPhone :=
  { phone with model := made.1, commands := phone.commands ++ made.2 }

def network (phone : ReceiverPhone) (event : ListeningReceiver.Event) : Option ReceiverPhone :=
  (ListeningReceiver.step phone.receiver event).map fun receiver => { phone with receiver }

def step : Step ReceiverPhone Event
  | phone, .connect => some (phone.effect phone.model.connect)
  | phone, .start fields => some (phone.effect (phone.model.start fields))
  | phone, .stop => some (phone.effect phone.model.stop)
  | phone, .post block => some { phone with main := phone.main ++ [block] }
  | phone, .handle =>
      match phone.main with
      | [] => none
      | block :: main => some ({ phone with main }.effect (phone.model.handle block))
  | phone, .expectStream streamID =>
      some { phone with commands := phone.commands ++ [.expectStream streamID] }
  | phone, .command listens =>
      match phone.commands with
      | [] => none
      | first :: commands =>
          { phone with commands }.network (.call (ReceiverCommand.toCall listens first))
  | phone, .newConnection captured connection => phone.network (.newConnection captured connection)
  | phone, .ready index => phone.network (.ready index)
  | phone, .closed index => phone.network (.closed index)
  | phone, .message index data failed => phone.network (.message index data failed)

/-- The session behind a call. -/
def sessionBehind (sessionID : Option UInt64) : ReceiverCommand → Option UInt64
  | .start _ _ started _ => some started
  | .stop => none
  | .expectStream _ => sessionID

/-- The session of the receiver once it has got to all its calls. -/
def settled (phone : ReceiverPhone) : Option UInt64 :=
  phone.commands.foldl sessionBehind phone.receiver.expectedSessionID

/-- The receiver has not got to a start or a stop. -/
def Waiting (phone : ReceiverPhone) : Prop :=
  ∃ made ∈ phone.commands, ∀ streamID, made ≠ .expectStream streamID

/-- The view model and the receiver agree in the end, and only a listening view model is in a
session. -/
structure Agrees (phone : ReceiverPhone) : Prop where
  settled : phone.settled = phone.model.expectedSessionID
  listening : phone.model.isListening = false → phone.model.expectedSessionID = none

variable {phone after : ReceiverPhone} {event : Event} {model : ReceiverViewModel}

/-- What a step of the view model says about its session, its calls say to the receiver. -/
structure Tells (model : ReceiverViewModel) (made : ReceiverViewModel.Effect) : Prop where
  session : made.2.foldl sessionBehind model.expectedSessionID = made.1.expectedSessionID
  listening : (model.isListening = false → model.expectedSessionID = none) →
    made.1.isListening = false → made.1.expectedSessionID = none

theorem tells_connect (model : ReceiverViewModel) : Tells model model.connect := by
  rw [ReceiverViewModel.connect]
  split_ifs
  · exact ⟨rfl, id⟩
  · exact ⟨rfl, fun _ h => by cases h⟩

theorem tells_start (model : ReceiverViewModel) (fields : ConnectFields) :
    Tells model (model.start fields) := by
  have hsame : Tells model (model, []) := ⟨rfl, id⟩
  have hjoin : Tells model
      ({ model with isListening := true, connectionState := .connecting }, []) :=
    ⟨rfl, fun _ h => by cases h⟩
  rw [ReceiverViewModel.start]
  split
  · split_ifs
    · exact hsame
    · exact hjoin
  · exact hsame

theorem tells_stop (model : ReceiverViewModel) : Tells model model.stop :=
  ⟨rfl, fun _ _ => rfl⟩

theorem tells_handle (model : ReceiverViewModel) (block : MainBlock) :
    Tells model (model.handle block) := by
  have hsame : Tells model (model, []) := ⟨rfl, id⟩
  cases block with
  | snapshot receiving =>
      rw [ReceiverViewModel.handle]
      split_ifs
      · exact ⟨rfl, id⟩
      · exact hsame
  | playback playing buffering =>
      rw [ReceiverViewModel.handle]
      split_ifs
      · exact ⟨rfl, id⟩
      · exact ⟨rfl, id⟩
      · exact hsame
  | estimate present =>
      rw [ReceiverViewModel.handle]
      split_ifs
      · exact ⟨rfl, id⟩
      · exact hsame
  | lost =>
      rw [ReceiverViewModel.handle]
      split_ifs
      · exact ⟨rfl, fun _ _ => rfl⟩
      · exact hsame
  | welcome welcome =>
      rw [ReceiverViewModel.handle]
      split_ifs
      · exact ⟨rfl, fun _ h => by cases h⟩
      · exact hsame

theorem Agrees.effect (h : Agrees phone) {made : ReceiverViewModel.Effect}
    (htells : Tells phone.model made) : Agrees (phone.effect made) := by
  constructor
  · have hsettled := h.settled
    rw [ReceiverPhone.settled] at hsettled
    rw [ReceiverPhone.settled, ReceiverPhone.effect, List.foldl_append, hsettled]
    exact htells.session
  · exact htells.listening h.listening

/-- A call does to the receiver what was foreseen. -/
theorem called_session (receiver : ListeningReceiver) (listens : Bool) (made : ReceiverCommand) :
    (receiver.called (ReceiverCommand.toCall listens made)).expectedSessionID =
      sessionBehind receiver.expectedSessionID made := by
  cases made with
  | start host port sessionID streamID => rfl
  | stop => rfl
  | expectStream streamID => rfl

/-- The callbacks of the network leave the session. -/
theorem network_session {receiver next : ListeningReceiver} {event : ListeningReceiver.Event}
    (hcall : ∀ made, event ≠ .call made) (hstep : ListeningReceiver.step receiver event = some next) :
    next.expectedSessionID = receiver.expectedSessionID := by
  cases event with
  | call made => exact absurd rfl (hcall made)
  | newConnection captured connection =>
      obtain ⟨-, hnext⟩ := Option.ite_none_right_eq_some.mp hstep
      cases hnext
      rw [ListeningReceiver.accept]
      split_ifs <;> rfl
  | ready index =>
      obtain ⟨handler, -, rfl⟩ := Option.map_eq_some_iff.mp hstep
      split_ifs <;> rfl
  | closed index =>
      obtain ⟨handler, -, rfl⟩ := Option.map_eq_some_iff.mp hstep
      split_ifs <;> rfl
  | message index data failed =>
      obtain ⟨pending, -, rfl⟩ := Option.map_eq_some_iff.mp hstep
      simp only
      split_ifs
      · exact (ListeningReceiver.completed_frame _ pending.callback data failed).2.2.1
      · rfl

theorem Agrees.network (h : Agrees phone) {event : ListeningReceiver.Event}
    (hcall : ∀ made, event ≠ .call made) (hstep : phone.network event = some after) :
    Agrees after := by
  obtain ⟨receiver, hreceiver, rfl⟩ := Option.map_eq_some_iff.mp hstep
  constructor
  · have hsettled := h.settled
    rw [ReceiverPhone.settled] at hsettled
    rw [ReceiverPhone.settled]
    simp only
    rw [network_session hcall hreceiver]
    exact hsettled
  · exact h.listening

theorem Agrees.step (h : Agrees phone) (hstep : step phone event = some after) :
    Agrees after := by
  cases event with
  | connect =>
      cases hstep
      exact h.effect (tells_connect phone.model)
  | start fields =>
      cases hstep
      exact h.effect (tells_start phone.model fields)
  | stop =>
      cases hstep
      exact h.effect (tells_stop phone.model)
  | post block =>
      cases hstep
      exact ⟨h.settled, h.listening⟩
  | handle =>
      rw [ReceiverPhone.step] at hstep
      split at hstep
      · cases hstep
      · next block main hmain =>
          cases hstep
          have hrest : Agrees { phone with main } := ⟨h.settled, h.listening⟩
          exact hrest.effect (tells_handle phone.model block)
  | expectStream streamID =>
      cases hstep
      refine ⟨?_, h.listening⟩
      rw [ReceiverPhone.settled, List.foldl_append]
      exact h.settled
  | command listens =>
      rw [ReceiverPhone.step] at hstep
      split at hstep
      · cases hstep
      · next first commands hcommands =>
          obtain ⟨receiver, hreceiver, rfl⟩ := Option.map_eq_some_iff.mp hstep
          cases hreceiver
          refine ⟨?_, h.listening⟩
          have hsettled := h.settled
          rw [ReceiverPhone.settled, hcommands, List.foldl_cons] at hsettled
          rw [ReceiverPhone.settled]
          simp only
          rw [called_session]
          exact hsettled
  | newConnection captured connection => exact h.network (fun _ => by simp) hstep
  | ready index => exact h.network (fun _ => by simp) hstep
  | closed index => exact h.network (fun _ => by simp) hstep
  | message index data failed => exact h.network (fun _ => by simp) hstep

/-- Calls that are no start and no stop leave the session. -/
theorem foldl_sessionBehind {commands : List ReceiverCommand}
    (h : ∀ made ∈ commands, ∃ streamID, made = .expectStream streamID)
    (sessionID : Option UInt64) : commands.foldl sessionBehind sessionID = sessionID := by
  induction commands with
  | nil => rfl
  | cons made commands ih =>
      obtain ⟨streamID, rfl⟩ := h made List.mem_cons_self
      exact ih fun other hother => h other (List.mem_cons_of_mem _ hother)

/-- Unless a start or a stop waits for it, the receiver is in the session of the view model. -/
theorem Agrees.session (h : Agrees phone) (hwaiting : ¬ phone.Waiting) :
    phone.receiver.expectedSessionID = phone.model.expectedSessionID := by
  have hsame : ∀ made ∈ phone.commands, ∃ streamID, made = .expectStream streamID := by
    intro made hmade
    by_contra hnone
    exact hwaiting ⟨made, hmade, not_exists.mp hnone⟩
  rw [← h.settled, ReceiverPhone.settled, foldl_sessionBehind hsame]

theorem agrees_start : Agrees {} := ⟨rfl, fun _ => rfl⟩

/-- What the network makes the receiver pass on is of the receiver's session. -/
theorem network_passed {receiver next : ListeningReceiver} {event : ListeningReceiver.Event}
    (hstep : ListeningReceiver.step receiver event = some next) :
    next.passed = receiver.passed ∨
      ∃ connection packet, next.passed = (connection, packet) :: receiver.passed ∧
        some packet.sessionID = receiver.expectedSessionID := by
  cases event with
  | call made =>
      cases hstep
      cases made <;> exact .inl rfl
  | newConnection captured connection =>
      obtain ⟨-, hnext⟩ := Option.ite_none_right_eq_some.mp hstep
      cases hnext
      rw [ListeningReceiver.accept]
      split_ifs <;> exact .inl rfl
  | ready index =>
      obtain ⟨handler, -, rfl⟩ := Option.map_eq_some_iff.mp hstep
      split_ifs <;> exact .inl rfl
  | closed index =>
      obtain ⟨handler, -, rfl⟩ := Option.map_eq_some_iff.mp hstep
      split_ifs <;> exact .inl rfl
  | message index data failed =>
      obtain ⟨pending, -, rfl⟩ := Option.map_eq_some_iff.mp hstep
      simp only
      split_ifs
      · cases ListeningReceiver.completed_passed
            { receiver with receives := receiver.receives.eraseIdx index } pending.callback data
            failed with
        | inl hsame => exact .inl hsame
        | inr hpassed =>
            obtain ⟨packet, hpassed, hsession, -⟩ := hpassed
            exact .inr ⟨pending.callback, packet, hpassed, hsession⟩
      · exact .inl rfl

theorem effect_passed (phone : ReceiverPhone) (made : ReceiverViewModel.Effect) :
    (phone.effect made).receiver.passed = phone.receiver.passed := rfl

/-- A packet that is passed on is of the session that a listening view model is in, unless a
start or a stop still waits for the receiver. -/
theorem passed_in_session (events : List Event) (hrun : run step {} events = some phone)
    (hstep : step phone event = some after) :
    after.receiver.passed = phone.receiver.passed ∨
      ∃ connection packet,
        after.receiver.passed = (connection, packet) :: phone.receiver.passed ∧
          (phone.Waiting ∨ phone.model.isListening = true ∧
            phone.model.expectedSessionID = some packet.sessionID) := by
  have hagrees : Agrees phone := run_preserves (fun h hs => h.step hs) agrees_start hrun
  have hnetwork : ∀ {event}, phone.network event = some after →
      after.receiver.passed = phone.receiver.passed ∨
        ∃ connection packet,
          after.receiver.passed = (connection, packet) :: phone.receiver.passed ∧
            (phone.Waiting ∨ phone.model.isListening = true ∧
              phone.model.expectedSessionID = some packet.sessionID) := by
    intro event hevent
    obtain ⟨receiver, hreceiver, rfl⟩ := Option.map_eq_some_iff.mp hevent
    cases network_passed hreceiver with
    | inl hsame => exact .inl hsame
    | inr hpassed =>
        obtain ⟨connection, packet, hpassed, hsession⟩ := hpassed
        refine .inr ⟨connection, packet, hpassed, ?_⟩
        by_cases hwaiting : phone.Waiting
        · exact .inl hwaiting
        · right
          rw [hagrees.session hwaiting] at hsession
          refine ⟨?_, hsession.symm⟩
          by_contra hidle
          rw [hagrees.listening (Bool.eq_false_of_not_eq_true hidle)] at hsession
          cases hsession
  cases event with
  | connect =>
      cases hstep
      exact .inl (effect_passed _ _)
  | start fields =>
      cases hstep
      exact .inl (effect_passed _ _)
  | stop =>
      cases hstep
      exact .inl (effect_passed _ _)
  | post block =>
      cases hstep
      exact .inl rfl
  | handle =>
      rw [ReceiverPhone.step] at hstep
      split at hstep
      · cases hstep
      · cases hstep
        exact .inl (effect_passed _ _)
  | expectStream streamID =>
      cases hstep
      exact .inl rfl
  | command listens =>
      rw [ReceiverPhone.step] at hstep
      split at hstep
      · cases hstep
      · obtain ⟨receiver, hreceiver, rfl⟩ := Option.map_eq_some_iff.mp hstep
        cases hreceiver
        left
        cases ‹ReceiverCommand› <;> rfl
  | newConnection captured connection => exact hnetwork hstep
  | ready index => exact hnetwork hstep
  | closed index => exact hnetwork hstep
  | message index data failed => exact hnetwork hstep

/-- The user joins, the host welcomes the phone to session 7 and the phone gets a connection. -/
def joined : List Event :=
  [.start ⟨some 9, some 40100, some 40101, some 40102⟩,
    .post (.welcome ⟨7, 2, 40100, 40101, 48000, 1, 9⟩), .handle, .command true,
    .newConnection 1 ⟨0, some 9⟩, .ready 0]

def joinedPhone : ReceiverPhone where
  model := ⟨true, some 7, .syncing⟩
  receiver := ListeningReceiver.listeningOnce

/-- The host has sent a datagram. -/
def heardPhone : ReceiverPhone :=
  { joinedPhone with receiver := ListeningReceiver.listeningTwice }

theorem passed_in_session_joined :
    heardPhone.receiver.passed = [(⟨0, some 9⟩, SeekPhone.firstSeekPacket)] ∧
      (heardPhone.receiver.passed = joinedPhone.receiver.passed ∨
        ∃ connection packet,
          heardPhone.receiver.passed = (connection, packet) :: joinedPhone.receiver.passed ∧
            (joinedPhone.Waiting ∨ joinedPhone.model.isListening = true ∧
              joinedPhone.model.expectedSessionID = some packet.sessionID)) := by
  have hrun : run step {} joined = some joinedPhone := rfl
  have hstep : step joinedPhone (.message 0 (some SeekPhone.firstSeekDatagram) false) =
      some heardPhone := by
    rw [step, network, joinedPhone, ListeningReceiver.step]
    rfl
  constructor
  · decide +kernel
  · exact passed_in_session joined hrun hstep

end ReceiverPhone

end SyncAudio.Ios
