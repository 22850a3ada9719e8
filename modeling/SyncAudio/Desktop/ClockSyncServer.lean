import SyncAudio.Desktop.ClockSyncTransport

/-!
# The loop of the clock server

`ClockSyncServer` receives into a buffer of the size of a message. What its loop does with a
longer datagram is up to the platform: Windows reports an error that the loop does not expect,
and the server is gone; POSIX cuts the datagram off, and a request with something behind it is
answered.

## Implementation notes

The monotonic clock is not negative. The two readings of an iteration come with the datagram.
The flag that stops the server is not set, and what `sendto` returns is ignored as in the code.
-/

namespace SyncAudio.ClockSyncServer

open ClockSyncSerializer

inductive Platform where
  | posix
  | windows
  deriving DecidableEq

/-- The error codes of `recvfrom` that a server may see. -/
inductive SocketError where
  | eagain
  | ewouldblock
  | wsaetimedout
  | wsaewouldblock
  | wsaeconnreset
  | wsaemsgsize
  deriving DecidableEq

def isTimeoutError : Platform → SocketError → Bool
  | .posix, .eagain => true
  | .posix, .ewouldblock => true
  | .windows, .wsaetimedout => true
  | .windows, .wsaewouldblock => true
  | .windows, .wsaeconnreset => true
  | _, _ => false

/-- The readings of the clock in one iteration. -/
structure Readings where
  received : Int := 0
  sent : Int := 0
  received_nonneg : 0 ≤ received
  sent_nonneg : 0 ≤ sent

/-- What `recvfrom` meets. -/
inductive Event where
  | datagram (bytes : List UInt8) (clock : Readings)
  | timeout
  | portUnreachable

/-- `recvfrom`, as documented: what is in the buffer, or the error. -/
def recvfrom (platform : Platform) (size : Nat) : Event → Except SocketError (List UInt8)
  | .datagram bytes _ =>
      if bytes.length ≤ size then .ok bytes
      else
        match platform with
        | .posix => .ok (bytes.take size)
        | .windows => .error .wsaemsgsize
  | .timeout =>
      match platform with
      | .posix => .error .eagain
      | .windows => .error .wsaetimedout
  | .portUnreachable =>
      match platform with
      | .posix => .error .eagain
      | .windows => .error .wsaeconnreset

/-- `none` is an exception. -/
def nowNanoseconds (count : Int) : Option UInt64 :=
  if count < 0 then none else some (UInt64.ofNat count.toNat)

/-- The thread loops on, has returned, or an exception has left the `noexcept` function. -/
inductive Status where
  | serving
  | returned
  | terminated
  deriving DecidableEq

/-- The clock of an iteration. -/
def Event.clock : Event → Option Readings
  | .datagram _ clock => some clock
  | _ => none

/-- One iteration of the loop: how it ends, and what it sends. -/
def iteration (platform : Platform) (event : Event) : Status × Option (List UInt8) :=
  match recvfrom platform messageSize event with
  | .error error => if isTimeoutError platform error then (.serving, none) else (.returned, none)
  | .ok buffer =>
      match event.clock with
      | none => (.serving, none)
      | some clock =>
          match nowNanoseconds clock.received with
          | none => (.terminated, none)
          -- the second reading is inside the `try` statement
          | some t2 => (.serving, (nowNanoseconds clock.sent).bind (reply buffer t2))

/-- `run`: how it ends, and what it sends for each of the events. -/
def run (platform : Platform) : List Event → Status × List (Option (List UInt8))
  | [] => (.serving, [])
  | event :: events =>
      match iteration platform event with
      | (.serving, response) =>
          let rest := run platform events
          (rest.1, response :: rest.2)
      | (status, response) => (status, response :: events.map fun _ => none)

/-- A request that the serializer accepts. -/
def IsRequest (bytes : List UInt8) : Prop :=
  ∃ request, deserialize bytes = some (.ok request) ∧ request.type = .request

/-- A response to the request. -/
def Echoes (bytes response : List UInt8) : Prop :=
  ∃ request answer, deserialize bytes = some (.ok request) ∧ request.type = .request ∧
    deserialize response = some (.ok answer) ∧ answer.type = .response ∧
    answer.requestId = request.requestId ∧
    answer.clientSendTimestampNanoseconds = request.clientSendTimestampNanoseconds

/-- Requests are answered, and nothing else is. -/
def Answered : Event → Option (List UInt8) → Prop
  | .datagram bytes _, some response => Echoes bytes response
  | .datagram bytes _, none => ¬ IsRequest bytes
  | _, response => response = none

/-- The server still runs and has answered exactly the requests. -/
def Serves (platform : Platform) (events : List Event) : Prop :=
  (run platform events).1 = .serving ∧ List.Forall₂ Answered events (run platform events).2

/-- The datagram fits into the buffer, or it is cut off and does not begin with a request. -/
def Fits (platform : Platform) : Event → Prop
  | .datagram bytes _ =>
      bytes.length ≤ messageSize ∨ platform = .posix ∧ ¬ IsRequest (bytes.take messageSize)
  | _ => True

section Replies

variable {bytes response : List UInt8} {t2 t3 : UInt64}

theorem length_of_isRequest (h : IsRequest bytes) : bytes.length = messageSize := by
  obtain ⟨request, hrequest, -⟩ := h
  unfold deserialize at hrequest
  split_ifs at hrequest with hheader
  · cases hrequest
  · exact not_not.mp (not_or.mp hheader).1

/-- The reply to what is not a request. -/
theorem reply_eq_none (h : ¬ IsRequest bytes) (t2 t3 : UInt64) : reply bytes t2 t3 = none := by
  unfold reply
  split
  case h_1 message hmessage =>
    have htype : message.type ≠ .request := fun htype => h ⟨message, hmessage, htype⟩
    simp [answer, htype]
  case h_2 => rfl

/-- The reply to a request. -/
theorem exists_reply (h : IsRequest bytes) (t2 t3 : UInt64) :
    ∃ response, reply bytes t2 t3 = some response ∧ Echoes bytes response := by
  obtain ⟨request, hrequest, htype⟩ := h
  let message : ClockSyncMessage := { request with
    type := .response
    hostReceiveTimestampNanoseconds := t2
    hostSendTimestampNanoseconds := t3 }
  have hanswer : answer request t2 t3 = some message := if_pos htype
  refine ⟨serialize message, ?_, ?_⟩
  · simp [reply, hrequest, hanswer]
  · exact ⟨request, message, hrequest, htype, deserialize_serialize message, rfl, rfl, rfl⟩

end Replies

section Iterations

variable {platform : Platform} {bytes : List UInt8} {clock : Readings}

theorem nowNanoseconds_of_nonneg {count : Int} (h : 0 ≤ count) :
    nowNanoseconds count = some (UInt64.ofNat count.toNat) :=
  if_neg (not_lt.mpr h)

/-- An iteration that has received something. -/
theorem iteration_received {buffer : List UInt8}
    (h : recvfrom platform messageSize (.datagram bytes clock) = .ok buffer) :
    ∃ t2 t3, iteration platform (.datagram bytes clock) = (.serving, reply buffer t2 t3) := by
  refine ⟨UInt64.ofNat clock.received.toNat, UInt64.ofNat clock.sent.toNat, ?_⟩
  unfold iteration
  rw [h]
  simp [Event.clock, nowNanoseconds_of_nonneg clock.received_nonneg,
    nowNanoseconds_of_nonneg clock.sent_nonneg]

theorem iteration_fitting (platform : Platform) (clock : Readings)
    (h : bytes.length ≤ messageSize) :
    ∃ t2 t3, iteration platform (.datagram bytes clock) = (.serving, reply bytes t2 t3) := by
  apply iteration_received
  exact if_pos h

theorem iteration_cut (clock : Readings) (h : messageSize < bytes.length) :
    ∃ t2 t3, iteration .posix (.datagram bytes clock) =
      (.serving, reply (bytes.take messageSize) t2 t3) := by
  apply iteration_received
  exact if_neg (not_le.mpr h)

/-- Windows' error ends the loop. -/
theorem iteration_tooLong (h : messageSize < bytes.length) :
    iteration .windows (.datagram bytes clock) = (.returned, none) := by
  have hreceived : recvfrom .windows messageSize (.datagram bytes clock) = .error .wsaemsgsize :=
    if_neg (not_le.mpr h)
  unfold iteration
  rw [hreceived]
  rfl

/-- What is longer than a message is not a request. -/
theorem not_isRequest_of_lt (h : messageSize < bytes.length) : ¬ IsRequest bytes :=
  fun hrequest => h.ne' (length_of_isRequest hrequest)

theorem answered_reply (bytes : List UInt8) (clock : Readings) (t2 t3 : UInt64) :
    Answered (.datagram bytes clock) (reply bytes t2 t3) := by
  by_cases hrequest : IsRequest bytes
  · obtain ⟨response, hreply, hechoes⟩ := exists_reply hrequest t2 t3
    rw [hreply]
    exact hechoes
  · rw [reply_eq_none hrequest]
    exact hrequest

/-- A datagram that has been cut off may not be answered. -/
theorem answered_cut_iff (h : messageSize < bytes.length) (t2 t3 : UInt64) :
    Answered (.datagram bytes clock) (reply (bytes.take messageSize) t2 t3) ↔
      ¬ IsRequest (bytes.take messageSize) := by
  constructor
  · intro hanswered hrequest
    obtain ⟨response, hreply, -⟩ := exists_reply hrequest t2 t3
    rw [hreply] at hanswered
    obtain ⟨request, -, haccepted, htype, -⟩ := hanswered
    exact not_isRequest_of_lt h ⟨request, haccepted, htype⟩
  · intro hcut
    rw [reply_eq_none hcut]
    exact not_isRequest_of_lt h

/-- One iteration does what is asked of it if and only if the datagram fits. -/
theorem iteration_iff (platform : Platform) (event : Event) :
    (iteration platform event).1 = .serving ∧ Answered event (iteration platform event).2 ↔
      Fits platform event := by
  cases event with
  | timeout =>
    cases platform with
    | posix => exact iff_of_true ⟨rfl, rfl⟩ trivial
    | windows => exact iff_of_true ⟨rfl, rfl⟩ trivial
  | portUnreachable =>
    cases platform with
    | posix => exact iff_of_true ⟨rfl, rfl⟩ trivial
    | windows => exact iff_of_true ⟨rfl, rfl⟩ trivial
  | datagram bytes clock =>
    by_cases hlength : bytes.length ≤ messageSize
    · obtain ⟨t2, t3, hiteration⟩ := iteration_fitting platform clock hlength
      rw [hiteration]
      exact iff_of_true ⟨rfl, answered_reply bytes clock t2 t3⟩ (.inl hlength)
    · have hlong := not_le.mp hlength
      cases platform with
      | posix =>
        obtain ⟨t2, t3, hiteration⟩ := iteration_cut clock hlong
        rw [hiteration]
        simp [answered_cut_iff hlong, Fits, hlength]
      | windows =>
        rw [iteration_tooLong hlong]
        simp [Fits, hlength]

end Iterations

/-- The server serves if it does so at the first event and at the others. -/
theorem serves_cons_iff (platform : Platform) (event : Event) (events : List Event) :
    Serves platform (event :: events) ↔
      ((iteration platform event).1 = .serving ∧
        Answered event (iteration platform event).2) ∧ Serves platform events := by
  unfold Serves
  rw [run]
  split
  case h_1 response hiteration =>
    rw [hiteration]
    simp only [List.forall₂_cons]
    tauto
  case h_2 status response hserving hiteration =>
    rw [hiteration]
    have hstatus : status ≠ .serving := hserving
    simp [hstatus]

/-- The server keeps running and answers the requests, and only these, if and only if every
datagram fits. -/
theorem serves_iff (platform : Platform) (events : List Event) :
    Serves platform events ↔ ∀ event ∈ events, Fits platform event := by
  induction events with
  | nil => exact iff_of_true ⟨rfl, .nil⟩ fun _ hmem => absurd hmem List.not_mem_nil
  | cons event events ih =>
    rw [serves_cons_iff, iteration_iff, ih, List.forall_mem_cons]

/-- A request with a byte behind it. -/
def overlongRequest : List UInt8 :=
  serialize { type := .request, requestId := 7, clientSendTimestampNanoseconds := 1000 } ++ [0]

def restingClock : Readings where
  received_nonneg := le_refl 0
  sent_nonneg := le_refl 0

/-- A datagram of 41 bytes ends the server on Windows, and is answered on POSIX. -/
theorem overlong_datagram_breaks_service :
    ¬ Serves .windows [.datagram overlongRequest restingClock] ∧
      (run .windows [.datagram overlongRequest restingClock]).1 = .returned ∧
      ¬ Serves .posix [.datagram overlongRequest restingClock] := by
  have hlong : ¬ overlongRequest.length ≤ messageSize := by decide
  have hcut : IsRequest (overlongRequest.take messageSize) := ⟨_, deserialize_serialize _, rfl⟩
  refine ⟨?_, rfl, ?_⟩
  · intro hserves
    have hfits := (iteration_iff _ _).mp ((serves_cons_iff _ _ _).mp hserves).1
    simp [Fits, hlong] at hfits
  · intro hserves
    have hfits := (iteration_iff _ _).mp ((serves_cons_iff _ _ _).mp hserves).1
    simp [Fits, hlong, hcut] at hfits

end SyncAudio.ClockSyncServer
