import SyncAudio.Desktop.ClockSyncTransport
import SyncAudio.Lib.LabelledRun

/-!
# Clock probes and stale responses

The loop of `measure`, the network and the host. Each iteration sends a request
and receives one datagram. An iteration that receives an old response gives up
its own request, although the response to it may be on its way. That response is
then the old one of the next iteration: the pairing stays shifted until a
response gets lost. As long as no response that is in time is given up this way,
a stale response costs one iteration, and one more if its own has timed out.

## Implementation notes

The network delays, reorders, loses and duplicates, and the host answers each
request once. The number of a request and the time at which it was sent are
recorded beside the message. Sending succeeds.
-/

namespace SyncAudio

open LabelledRun

/-- A request or its response, with the number of the request and the client's
clock when it was sent. -/
structure ClockDatagram where
  probe : Nat
  sentAt : Nat
  message : ClockSyncMessage
  deriving DecidableEq

/-- A response in the socket queue. -/
structure ClockArrival extends ClockDatagram where
  arrivedAt : Nat
  deriving DecidableEq

structure MeasureSettings where
  desiredSamples : UInt32
  deadline : Nat
  desiredSamples_ne : desiredSamples ≠ 0

/-- The client in `measure`, and the datagrams on their way. What was received is
recorded, newest first. -/
structure ClockProbes where
  now : Nat
  requestId : UInt32 := 1
  sent : Nat := 0
  waiting : Option ClockDatagram := none
  toHost : List ClockDatagram := []
  toClient : List ClockDatagram := []
  queue : List ClockArrival := []
  samples : List ClockSyncEstimate := []
  mismatches : Nat := 0
  invalid : Nat := 0
  timedOut : List ClockDatagram := []
  received : List ClockArrival := []

namespace ClockProbes

/-- The receive timeout of the socket, in nanoseconds. -/
def receiveTimeout : Nat := 200000000

/-- The round trip exceeded the receive timeout. -/
def Late (arrival : ClockArrival) : Prop := arrival.sentAt + receiveTimeout < arrival.arrivedAt

instance (arrival : ClockArrival) : Decidable (Late arrival) :=
  inferInstanceAs (Decidable (_ < _))

/-- A received response is stale if it was late or not the first one received for
its request. -/
def Stale (arrival : ClockArrival) (earlier : List ClockArrival) : Prop :=
  Late arrival ∨ ∃ other ∈ earlier, other.probe = arrival.probe

instance (arrival : ClockArrival) (earlier : List ClockArrival) :
    Decidable (Stale arrival earlier) :=
  inferInstanceAs (Decidable (_ ∨ _))

/-- The number of stale responses received. -/
def staleCount : List ClockArrival → Nat
  | [] => 0
  | arrival :: earlier => (if Stale arrival earlier then 1 else 0) + staleCount earlier

inductive Event where
  | tick (nanoseconds : Nat)
  | send
  | answer (i : Nat) (t2 t3 : UInt64)
  | loseRequest (i : Nat)
  | loseResponse (i : Nat)
  | duplicate (i : Nat)
  | arrive (i : Nat)
  | receive
  | timeout

/-- The request of the next iteration. -/
def request (s : ClockProbes) : ClockDatagram where
  probe := s.sent + 1
  sentAt := s.now
  message := {
    requestId := s.requestId
    clientSendTimestampNanoseconds := UInt64.ofNat s.now }

/-- The rest of an iteration that has received a datagram. -/
def take (s : ClockProbes) (request : ClockDatagram) (arrival : ClockArrival)
    (rest : List ClockArrival) : ClockProbes :=
  let s := { s with waiting := none, queue := rest, received := arrival :: s.received }
  match ClockSyncClient.examine request.message arrival.message (UInt64.ofNat s.now) with
  | .mismatch => { s with mismatches := s.mismatches + 1 }
  | .invalid => { s with invalid := s.invalid + 1 }
  | .sample estimate => { s with samples := s.samples ++ [estimate] }

def step (settings : MeasureSettings) (s : ClockProbes) : Event → Option ClockProbes
  | .tick nanoseconds => some { s with now := s.now + nanoseconds }
  | .send =>
      if s.waiting = none ∧ s.samples.length < settings.desiredSamples.toNat ∧
          s.now < settings.deadline then
        some { s with
          requestId := s.requestId + 1
          sent := s.sent + 1
          waiting := some s.request
          toHost := s.toHost ++ [s.request] }
      else none
  | .answer i t2 t3 => do
      let request ← s.toHost[i]?
      let message ← ClockSyncServer.answer request.message t2 t3
      some { s with
        toHost := s.toHost.eraseIdx i
        toClient := s.toClient ++ [{ request with message }] }
  | .loseRequest i => some { s with toHost := s.toHost.eraseIdx i }
  | .loseResponse i => some { s with toClient := s.toClient.eraseIdx i }
  | .duplicate i => do
      let response ← s.toClient[i]?
      some { s with toClient := s.toClient ++ [response] }
  | .arrive i => do
      let response ← s.toClient[i]?
      some { s with
        toClient := s.toClient.eraseIdx i
        queue := s.queue ++ [{ response with arrivedAt := s.now }] }
  | .receive =>
      match s.waiting, s.queue with
      | some request, arrival :: rest => some (s.take request arrival rest)
      | _, _ => none
  | .timeout =>
      match s.waiting, s.queue with
      | some request, [] =>
          if request.sentAt + receiveTimeout < s.now then
            some { s with waiting := none, timedOut := request :: s.timedOut }
          else none
      | _, _ => none

/-- The start of the loop. -/
def start (now : Nat) : ClockProbes := { now }

/-- No response in time is given up: an iteration that receives another one does
not leave the response to its own request behind, and none arrives in time after
its iteration has ended, unless it was received before. -/
def NoneAbandoned (s : ClockProbes) : Event → Prop
  | .receive => ∀ request ∈ s.waiting, ∀ arrival ∈ s.queue.head?,
      arrival.probe ≠ request.probe →
        ∀ other ∈ s.queue.tail, other.probe = request.probe → Late other
  | .arrive i => ∀ response ∈ s.toClient[i]?, response.sentAt + receiveTimeout < s.now ∨
      (∃ request ∈ s.waiting, request.probe = response.probe) ∨
        ∃ earlier ∈ s.received, earlier.probe = response.probe
  | _ => True

instance (s : ClockProbes) : ∀ event, Decidable (s.NoneAbandoned event)
  | .receive => inferInstanceAs (Decidable (∀ request ∈ s.waiting, ∀ arrival ∈ s.queue.head?,
      arrival.probe ≠ request.probe →
        ∀ other ∈ s.queue.tail, other.probe = request.probe → Late other))
  | .arrive i => inferInstanceAs (Decidable (∀ response ∈ s.toClient[i]?,
      response.sentAt + receiveTimeout < s.now ∨
        (∃ request ∈ s.waiting, request.probe = response.probe) ∨
          ∃ earlier ∈ s.received, earlier.probe = response.probe))
  | .tick _ | .send | .answer _ _ _ | .loseRequest _ | .loseResponse _ | .duplicate _ | .timeout =>
      inferInstanceAs (Decidable True)

section Steps

variable {settings : MeasureSettings} {s t : ClockProbes} {event : Event}

/-- What the network and the host keep of a datagram. -/
def exchange (d : ClockDatagram) : Nat × Nat × UInt32 × UInt64 :=
  (d.probe, d.sentAt, d.message.requestId, d.message.clientSendTimestampNanoseconds)

theorem probe_eq_of_exchange {d e : ClockDatagram} (h : exchange d = exchange e) :
    d.probe = e.probe :=
  congrArg Prod.fst h

theorem sentAt_eq_of_exchange {d e : ClockDatagram} (h : exchange d = exchange e) :
    d.sentAt = e.sentAt :=
  congrArg (fun key => key.2.1) h

/-- What is on its way belongs to exchanges that were on their way before, and
only responses go to the client. -/
structure Carries (s : ClockProbes) (toHost toClient : List ClockDatagram) : Prop where
  exchange_eq : ∀ d ∈ toHost ++ toClient, ∃ e ∈ s.toHost ++ s.toClient, exchange d = exchange e
  response : (∀ d ∈ s.toClient, d.message.type = .response) →
    ∀ d ∈ toClient, d.message.type = .response

theorem Carries.of_subset {toHost toClient : List ClockDatagram} (hhost : toHost ⊆ s.toHost)
    (hclient : toClient ⊆ s.toClient) : s.Carries toHost toClient := by
  constructor
  · intro d hd
    rcases List.mem_append.mp hd with hd | hd
    · exact ⟨d, List.mem_append_left _ (hhost hd), rfl⟩
    · exact ⟨d, List.mem_append_right _ (hclient hd), rfl⟩
  · intro hresponse d hd
    exact hresponse d (hclient hd)

theorem Carries.answer {i : Nat} {t2 t3 : UInt64} {request : ClockDatagram}
    {message : ClockSyncMessage} (hrequest : s.toHost[i]? = some request)
    (hmessage : ClockSyncServer.answer request.message t2 t3 = some message) :
    s.Carries (s.toHost.eraseIdx i) (s.toClient ++ [{ request with message }]) := by
  unfold ClockSyncServer.answer at hmessage
  split_ifs at hmessage
  cases hmessage
  constructor
  · intro d hd
    rcases List.mem_append.mp hd with hd | hd
    · exact ⟨d, List.mem_append_left _ (List.mem_of_mem_eraseIdx hd), rfl⟩
    · rcases List.mem_append.mp hd with hd | hd
      · exact ⟨d, List.mem_append_right _ hd, rfl⟩
      · refine ⟨request, List.mem_append_left _ (List.mem_of_getElem? hrequest), ?_⟩
        rw [List.mem_singleton.mp hd]
        rfl
  · intro hresponse d hd
    rcases List.mem_append.mp hd with hd | hd
    · exact hresponse d hd
    · rw [List.mem_singleton.mp hd]

/-- What a step does: the network and the host carry datagrams on, or the client
sends, gets an arrival, receives or gives up. -/
inductive Changes (s : ClockProbes) : Event → ClockProbes → Prop where
  | carry {event : Event} {now : Nat} {toHost toClient : List ClockDatagram} (hnow : s.now ≤ now)
      (hcarries : s.Carries toHost toClient) : Changes s event { s with now, toHost, toClient }
  | send (hidle : s.waiting = none) :
      Changes s .send { s with
        requestId := s.requestId + 1
        sent := s.sent + 1
        waiting := some s.request
        toHost := s.toHost ++ [s.request] }
  | arrive {i : Nat} {response : ClockDatagram} (hresponse : s.toClient[i]? = some response) :
      Changes s (.arrive i) { s with
        toClient := s.toClient.eraseIdx i
        queue := s.queue ++ [{ response with arrivedAt := s.now }] }
  | receive {request : ClockDatagram} {arrival : ClockArrival} {rest : List ClockArrival}
      {samples : List ClockSyncEstimate} {mismatches invalid : Nat}
      (hwaiting : s.waiting = some request) (hqueue : s.queue = arrival :: rest)
      (hcount : samples.length + mismatches + invalid =
        s.samples.length + s.mismatches + s.invalid + 1)
      (hmismatch : mismatches = s.mismatches ∨ mismatches = s.mismatches + 1 ∧
        ∃ t4, ClockSyncClient.examine request.message arrival.message t4 = .mismatch) :
      Changes s .receive { s with
        waiting := none
        queue := rest
        received := arrival :: s.received
        samples, mismatches, invalid }
  | timeout {request : ClockDatagram} (hwaiting : s.waiting = some request)
      (hqueue : s.queue = []) (htime : request.sentAt + receiveTimeout < s.now) :
      Changes s .timeout { s with waiting := none, timedOut := request :: s.timedOut }

theorem take_changes {request : ClockDatagram} {arrival : ClockArrival} {rest : List ClockArrival}
    (hwaiting : s.waiting = some request) (hqueue : s.queue = arrival :: rest) :
    s.Changes .receive (s.take request arrival rest) := by
  unfold take
  dsimp only
  cases hexamine : ClockSyncClient.examine request.message arrival.message
    (UInt64.ofNat s.now) with
  | mismatch => exact .receive hwaiting hqueue (by omega) (.inr ⟨rfl, _, hexamine⟩)
  | invalid => exact .receive hwaiting hqueue (by omega) (.inl rfl)
  | sample estimate =>
      refine .receive hwaiting hqueue ?_ (.inl rfl)
      rw [List.length_append, List.length_singleton]
      omega

theorem step_changes (h : step settings s event = some t) : s.Changes event t := by
  have hsubset (xs : List ClockDatagram) (i : Nat) : xs.eraseIdx i ⊆ xs := fun _ hx =>
    List.mem_of_mem_eraseIdx hx
  cases event with
  | tick nanoseconds =>
      cases h
      exact .carry (Nat.le_add_right _ _) (.of_subset (fun _ h => h) (fun _ h => h))
  | send =>
      simp only [step] at h
      split_ifs at h with hloop
      cases h
      exact .send hloop.1
  | answer i t2 t3 =>
      simp only [step, Option.bind_eq_bind, Option.bind_eq_some_iff] at h
      obtain ⟨request, hrequest, message, hmessage, h⟩ := h
      cases h
      exact .carry (Nat.le_refl _) (.answer hrequest hmessage)
  | loseRequest i =>
      cases h
      exact .carry (Nat.le_refl _) (.of_subset (hsubset _ i) (fun _ h => h))
  | loseResponse i =>
      cases h
      exact .carry (Nat.le_refl _) (.of_subset (fun _ h => h) (hsubset _ i))
  | duplicate i =>
      simp only [step, Option.bind_eq_bind, Option.bind_eq_some_iff] at h
      obtain ⟨response, hresponse, h⟩ := h
      cases h
      refine .carry (Nat.le_refl _) (.of_subset (fun _ h => h) ?_)
      intro d hd
      rcases List.mem_append.mp hd with hd | hd
      · exact hd
      · rw [List.mem_singleton.mp hd]
        exact List.mem_of_getElem? hresponse
  | arrive i =>
      simp only [step, Option.bind_eq_bind, Option.bind_eq_some_iff] at h
      obtain ⟨response, hresponse, h⟩ := h
      cases h
      exact .arrive hresponse
  | receive =>
      simp only [step] at h
      split at h
      · next request arrival rest hwaiting hqueue =>
          cases h
          exact take_changes hwaiting hqueue
      · cases h
  | timeout =>
      simp only [step] at h
      split at h
      · next request hwaiting hqueue =>
          split_ifs at h with htime
          cases h
          exact .timeout hwaiting hqueue htime
      · cases h

/-- The requests are numbered in the order of their iterations. -/
structure Numbered (s : ClockProbes) : Prop where
  way_le : ∀ d ∈ s.toHost ++ s.toClient, d.probe ≤ s.sent
  queue_le : ∀ a ∈ s.queue, a.probe ≤ s.sent
  received_le : ∀ a ∈ s.received, a.probe ≤ s.sent
  timedOut_le : ∀ r ∈ s.timedOut, r.probe ≤ s.sent
  waiting_eq : ∀ r, s.waiting = some r → r.probe = s.sent
  received_ne : ∀ r, s.waiting = some r → ∀ a ∈ s.received, a.probe ≠ r.probe
  timedOut_ne : ∀ r, s.waiting = some r → ∀ e ∈ s.timedOut, e.probe ≠ r.probe
  timedOut_nodup : (s.timedOut.map ClockDatagram.probe).Nodup

theorem numbered_start (now : Nat) : (start now).Numbered where
  way_le d hd := by cases hd
  queue_le a ha := by cases ha
  received_le a ha := by cases ha
  timedOut_le r hr := by cases hr
  waiting_eq r hr := by cases hr
  received_ne r hr := by cases hr
  timedOut_ne r hr := by cases hr
  timedOut_nodup := List.nodup_nil

/-- A new request joins the datagrams on their way. -/
theorem mem_way_send {d : ClockDatagram} (h : d ∈ (s.toHost ++ [s.request]) ++ s.toClient) :
    d ∈ s.toHost ++ s.toClient ∨ d = s.request := by
  rcases List.mem_append.mp h with h | h
  · rcases List.mem_append.mp h with h | h
    · exact .inl (List.mem_append_left _ h)
    · exact .inr (List.mem_singleton.mp h)
  · exact .inl (List.mem_append_right _ h)

/-- An arrival takes a datagram off its way. -/
theorem mem_way_arrive {i : Nat} {d : ClockDatagram}
    (h : d ∈ s.toHost ++ s.toClient.eraseIdx i) : d ∈ s.toHost ++ s.toClient := by
  rcases List.mem_append.mp h with h | h
  · exact List.mem_append_left _ h
  · exact List.mem_append_right _ (List.mem_of_mem_eraseIdx h)

theorem mem_queue_arrive {response : ClockDatagram} {a : ClockArrival}
    (h : a ∈ s.queue ++ [{ response with arrivedAt := s.now }]) :
    a ∈ s.queue ∨ a = { response with arrivedAt := s.now } := by
  rcases List.mem_append.mp h with h | h
  · exact .inl h
  · exact .inr (List.mem_singleton.mp h)

theorem mem_way_of_get {i : Nat} {response : ClockDatagram}
    (h : s.toClient[i]? = some response) : response ∈ s.toHost ++ s.toClient :=
  List.mem_append_right _ (List.mem_of_getElem? h)

theorem Numbered.step (hs : s.Numbered) (h : s.Changes event t) : t.Numbered := by
  cases h with
  | carry hnow hcarries =>
      refine { hs with way_le := ?_ }
      intro d hd
      obtain ⟨e, he, heq⟩ := hcarries.exchange_eq d hd
      rw [probe_eq_of_exchange heq]
      exact hs.way_le e he
  | send hidle =>
      have hrequest : s.request.probe = s.sent + 1 := rfl
      constructor
      · intro d hd
        rcases mem_way_send hd with hd | rfl
        · exact Nat.le_succ_of_le (hs.way_le d hd)
        · exact Nat.le_refl _
      · exact fun a ha => Nat.le_succ_of_le (hs.queue_le a ha)
      · exact fun a ha => Nat.le_succ_of_le (hs.received_le a ha)
      · exact fun r hr => Nat.le_succ_of_le (hs.timedOut_le r hr)
      · intro r hr
        cases hr
        rfl
      · intro r hr a ha
        cases hr
        have hle := hs.received_le a ha
        omega
      · intro r hr e he
        cases hr
        have hle := hs.timedOut_le e he
        omega
      · exact hs.timedOut_nodup
  | arrive hresponse =>
      refine { hs with way_le := ?_, queue_le := ?_ }
      · intro d hd
        exact hs.way_le d (mem_way_arrive hd)
      · intro a ha
        rcases mem_queue_arrive ha with ha | rfl
        · exact hs.queue_le a ha
        · exact hs.way_le _ (mem_way_of_get hresponse)
  | @receive request arrival rest _ _ _ hwaiting hqueue hcount hmismatch =>
      have hhead : arrival.probe ≤ s.sent := hs.queue_le arrival (hqueue ▸ List.mem_cons_self)
      constructor
      · exact hs.way_le
      · intro a ha
        exact hs.queue_le a (hqueue ▸ List.mem_cons_of_mem _ ha)
      · intro a ha
        rcases List.mem_cons.mp ha with rfl | ha
        · exact hhead
        · exact hs.received_le a ha
      · exact hs.timedOut_le
      · intro r hr
        cases hr
      · intro r hr
        cases hr
      · intro r hr
        cases hr
      · exact hs.timedOut_nodup
  | @timeout request hwaiting hqueue htime =>
      constructor
      · exact hs.way_le
      · exact hs.queue_le
      · exact hs.received_le
      · intro r hr
        rcases List.mem_cons.mp hr with rfl | hr
        · exact (hs.waiting_eq r hwaiting).le
        · exact hs.timedOut_le r hr
      · intro r hr
        cases hr
      · intro r hr
        cases hr
      · intro r hr
        cases hr
      · refine List.nodup_cons.mpr ⟨?_, hs.timedOut_nodup⟩
        intro hmem
        obtain ⟨e, he, heq⟩ := List.mem_map.mp hmem
        exact hs.timedOut_ne request hwaiting e he heq

/-- The response to the request of the current iteration fits it. -/
structure OwnExchange (s : ClockProbes) : Prop where
  way_eq : ∀ r, s.waiting = some r → ∀ d ∈ s.toHost ++ s.toClient,
    d.probe = r.probe → exchange d = exchange r
  queue_eq : ∀ r, s.waiting = some r → ∀ a ∈ s.queue,
    a.probe = r.probe → exchange a.toClockDatagram = exchange r
  way_response : ∀ d ∈ s.toClient, d.message.type = .response
  queue_response : ∀ a ∈ s.queue, a.message.type = .response

theorem ownExchange_start (now : Nat) : (start now).OwnExchange where
  way_eq r hr := by cases hr
  queue_eq r hr := by cases hr
  way_response d hd := by cases hd
  queue_response a ha := by cases ha

theorem OwnExchange.step (hn : s.Numbered) (hs : s.OwnExchange) (h : s.Changes event t) :
    t.OwnExchange := by
  cases h with
  | carry hnow hcarries =>
      refine { hs with way_eq := ?_, way_response := hcarries.response hs.way_response }
      intro r hr d hd hprobe
      obtain ⟨e, he, heq⟩ := hcarries.exchange_eq d hd
      rw [heq]
      exact hs.way_eq r hr e he ((probe_eq_of_exchange heq).symm.trans hprobe)
  | send hidle =>
      refine { hs with way_eq := ?_, queue_eq := ?_ }
      · intro r hr d hd hprobe
        cases hr
        rcases mem_way_send hd with hd | rfl
        · have hle := hn.way_le d hd
          have hnew : s.request.probe = s.sent + 1 := rfl
          omega
        · rfl
      · intro r hr a ha hprobe
        cases hr
        have hle := hn.queue_le a ha
        have hnew : s.request.probe = s.sent + 1 := rfl
        omega
  | arrive hresponse =>
      constructor
      · intro r hr d hd
        exact hs.way_eq r hr d (mem_way_arrive hd)
      · intro r hr a ha hprobe
        rcases mem_queue_arrive ha with ha | rfl
        · exact hs.queue_eq r hr a ha hprobe
        · exact hs.way_eq r hr _ (mem_way_of_get hresponse) hprobe
      · intro d hd
        exact hs.way_response d (List.mem_of_mem_eraseIdx hd)
      · intro a ha
        rcases mem_queue_arrive ha with ha | rfl
        · exact hs.queue_response a ha
        · exact hs.way_response _ (List.mem_of_getElem? hresponse)
  | receive hwaiting hqueue hcount hmismatch =>
      constructor
      · intro r hr
        cases hr
      · intro r hr
        cases hr
      · exact hs.way_response
      · intro a ha
        exact hs.queue_response a (hqueue ▸ List.mem_cons_of_mem _ ha)
  | timeout hwaiting hqueue htime =>
      refine { hs with way_eq := ?_, queue_eq := ?_ }
      · intro r hr
        cases hr
      · intro r hr
        cases hr

/-- What answers a request that has timed out is late. -/
structure TimeoutsLate (s : ClockProbes) : Prop where
  way_late : ∀ r ∈ s.timedOut, ∀ d ∈ s.toHost ++ s.toClient,
    d.probe = r.probe → d.sentAt + receiveTimeout < s.now
  queue_late : ∀ r ∈ s.timedOut, ∀ a ∈ s.queue, a.probe = r.probe → Late a
  received_late : ∀ r ∈ s.timedOut, ∀ a ∈ s.received, a.probe = r.probe → Late a

theorem timeoutsLate_start (now : Nat) : (start now).TimeoutsLate where
  way_late r hr := by cases hr
  queue_late r hr := by cases hr
  received_late r hr := by cases hr

theorem TimeoutsLate.step (hn : s.Numbered) (ho : s.OwnExchange) (hs : s.TimeoutsLate)
    (h : s.Changes event t) : t.TimeoutsLate := by
  cases h with
  | carry hnow hcarries =>
      refine { hs with way_late := ?_ }
      intro r hr d hd hprobe
      obtain ⟨e, he, heq⟩ := hcarries.exchange_eq d hd
      have hlate := hs.way_late r hr e he ((probe_eq_of_exchange heq).symm.trans hprobe)
      rw [← sentAt_eq_of_exchange heq] at hlate
      exact lt_of_lt_of_le hlate hnow
  | send hidle =>
      refine { hs with way_late := ?_ }
      intro r hr d hd hprobe
      rcases mem_way_send hd with hd | rfl
      · exact hs.way_late r hr d hd hprobe
      · have hle := hn.timedOut_le r hr
        have hnew : s.request.probe = s.sent + 1 := rfl
        omega
  | arrive hresponse =>
      refine { hs with way_late := ?_, queue_late := ?_ }
      · intro r hr d hd
        exact hs.way_late r hr d (mem_way_arrive hd)
      · intro r hr a ha hprobe
        rcases mem_queue_arrive ha with ha | rfl
        · exact hs.queue_late r hr a ha hprobe
        · exact hs.way_late r hr _ (mem_way_of_get hresponse) hprobe
  | receive hwaiting hqueue hcount hmismatch =>
      constructor
      · exact hs.way_late
      · intro r hr a ha
        exact hs.queue_late r hr a (hqueue ▸ List.mem_cons_of_mem _ ha)
      · intro r hr a ha hprobe
        rcases List.mem_cons.mp ha with rfl | ha
        · exact hs.queue_late r hr _ (hqueue ▸ List.mem_cons_self) hprobe
        · exact hs.received_late r hr a ha hprobe
  | timeout hwaiting hqueue htime =>
      constructor
      · intro r hr d hd hprobe
        rcases List.mem_cons.mp hr with rfl | hr
        · rw [sentAt_eq_of_exchange (ho.way_eq r hwaiting d hd hprobe)]
          exact htime
        · exact hs.way_late r hr d hd hprobe
      · intro r hr a ha
        rw [hqueue] at ha
        cases ha
      · intro r hr a ha hprobe
        rcases List.mem_cons.mp hr with rfl | hr
        · exact absurd hprobe (hn.received_ne r hwaiting a ha)
        · exact hs.received_late r hr a ha hprobe

/-- Every iteration has ended in one of four ways, or is under way. -/
def Counted (s : ClockProbes) : Prop :=
  s.sent = s.samples.length + s.mismatches + s.invalid + s.timedOut.length +
    s.waiting.toList.length

theorem Counted.step (hs : s.Counted) (h : s.Changes event t) : t.Counted := by
  unfold Counted at hs
  cases h with
  | carry hnow hcarries => exact hs
  | send hidle =>
      rw [hidle] at hs
      simp only [Counted, Option.toList, List.length_nil, List.length_singleton] at hs ⊢
      omega
  | arrive hresponse => exact hs
  | receive hwaiting hqueue hcount hmismatch =>
      rw [hwaiting] at hs
      simp only [Counted, Option.toList, List.length_nil, List.length_singleton] at hs ⊢
      omega
  | timeout hwaiting hqueue htime =>
      rw [hwaiting] at hs
      simp only [Counted, Option.toList, List.length_nil, List.length_cons] at hs ⊢
      omega

/-- The invariants of every run. -/
structure Invariant (s : ClockProbes) : Prop where
  numbered : s.Numbered
  own : s.OwnExchange
  late : s.TimeoutsLate
  counted : s.Counted

theorem invariant_start (now : Nat) : (start now).Invariant :=
  ⟨numbered_start now, ownExchange_start now, timeoutsLate_start now, rfl⟩

theorem Invariant.step (hs : s.Invariant) (h : s.Changes event t) : t.Invariant :=
  ⟨hs.numbered.step h, hs.own.step hs.numbered h, hs.late.step hs.numbered hs.own h,
    hs.counted.step h⟩

/-- What waits in the queue is late, awaited, or a duplicate, and every mismatch
was caused by a stale response. -/
structure Paired (s : ClockProbes) : Prop where
  queue_cases : ∀ a ∈ s.queue, Late a ∨ (∃ r, s.waiting = some r ∧ r.probe = a.probe) ∨
    ∃ other ∈ s.received, other.probe = a.probe
  mismatches_le : s.mismatches ≤ staleCount s.received

theorem paired_start (now : Nat) : (start now).Paired where
  queue_cases a ha := by cases ha
  mismatches_le := Nat.le_refl _

/-- A response that is taken for another one answers an earlier request. -/
theorem OwnExchange.probe_ne {r : ClockDatagram} {a : ClockArrival} {t4 : UInt64}
    (hs : s.OwnExchange) (hr : s.waiting = some r) (ha : a ∈ s.queue)
    (hmismatch : ClockSyncClient.examine r.message a.message t4 = .mismatch) :
    a.probe ≠ r.probe := by
  intro hprobe
  have heq := hs.queue_eq r hr a ha hprobe
  exact ClockSyncClient.examine_ne_mismatch (hs.queue_response a ha)
    (congrArg (fun key => key.2.2.1) heq) (congrArg (fun key => key.2.2.2) heq) t4 hmismatch

theorem Paired.step (ho : s.OwnExchange) (hs : s.Paired) (hok : s.NoneAbandoned event)
    (h : s.Changes event t) : t.Paired := by
  cases h with
  | carry hnow hcarries => exact ⟨hs.queue_cases, hs.mismatches_le⟩
  | send hidle =>
      refine ⟨?_, hs.mismatches_le⟩
      intro a ha
      rcases hs.queue_cases a ha with hlate | ⟨r, hr, -⟩ | hreceived
      · exact .inl hlate
      · rw [hidle] at hr
        cases hr
      · exact .inr (.inr hreceived)
  | arrive hresponse =>
      refine ⟨?_, hs.mismatches_le⟩
      intro a ha
      rcases mem_queue_arrive ha with ha | rfl
      · exact hs.queue_cases a ha
      · exact hok _ hresponse
  | @receive request arrival rest _ _ _ hwaiting hqueue hcount hmismatch =>
      have hhead : arrival ∈ s.queue := hqueue ▸ List.mem_cons_self
      constructor
      · intro a ha
        rcases hs.queue_cases a (hqueue ▸ List.mem_cons_of_mem _ ha) with
          hlate | ⟨r, hr, hprobe⟩ | ⟨other, hother, hprobe⟩
        · exact .inl hlate
        · rw [hwaiting] at hr
          cases hr
          by_cases hown : arrival.probe = request.probe
          · exact .inr (.inr ⟨arrival, List.mem_cons_self, hown.trans hprobe⟩)
          · refine .inl (hok request hwaiting arrival ?_ hown a ?_ hprobe.symm)
            · rw [hqueue]
              rfl
            · rw [hqueue]
              exact ha
        · exact .inr (.inr ⟨other, List.mem_cons_of_mem _ hother, hprobe⟩)
      · have hle := hs.mismatches_le
        rcases hmismatch with heq | ⟨heq, t4, hexamine⟩
        · rw [heq]
          exact hle.trans (Nat.le_add_left _ _)
        · have hstale : Stale arrival s.received := by
            rcases hs.queue_cases arrival hhead with hlate | ⟨r, hr, hprobe⟩ | hreceived
            · exact .inl hlate
            · rw [hwaiting] at hr
              cases hr
              exact absurd hprobe.symm (ho.probe_ne hwaiting hhead hexamine)
            · exact .inr hreceived
          rw [staleCount, if_pos hstale, heq, Nat.add_comm 1]
          exact Nat.succ_le_succ hle
  | timeout hwaiting hqueue htime =>
      refine ⟨?_, hs.mismatches_le⟩
      intro a ha
      rw [hqueue] at ha
      cases ha

end Steps

/-- Late responses are stale. -/
theorem countP_late_le (received : List ClockArrival) :
    received.countP (fun a => decide (Late a)) ≤ staleCount received := by
  induction received with
  | nil => exact Nat.le_refl _
  | cons a earlier ih =>
      rw [List.countP_cons, staleCount]
      by_cases hlate : Late a
      · rw [if_pos (decide_eq_true hlate), if_pos (.inl hlate)]
        omega
      · rw [if_neg (by simpa using hlate)]
        omega

/-- Requests whose late responses were all received are no more than those. -/
theorem timedOut_length_le {s : ClockProbes} (hs : s.Invariant)
    (hanswered : ∀ r ∈ s.timedOut, ∃ a ∈ s.received, a.probe = r.probe) :
    s.timedOut.length ≤ staleCount s.received := by
  have hsub : s.timedOut.map ClockDatagram.probe ⊆
      (s.received.filter fun a => decide (Late a)).map fun a => a.probe := by
    intro probe hprobe
    obtain ⟨r, hr, rfl⟩ := List.mem_map.mp hprobe
    obtain ⟨a, ha, heq⟩ := hanswered r hr
    refine List.mem_map.mpr ⟨a, List.mem_filter.mpr ⟨ha, ?_⟩, heq⟩
    exact decide_eq_true (hs.late.received_late r hr a ha heq)
  have hlength := (List.subperm_of_subset hs.numbered.timedOut_nodup hsub).length_le
  rw [List.length_map, List.length_map, ← List.countP_eq_length_filter] at hlength
  exact hlength.trans (countP_late_le s.received)

/-- As long as no response in time is given up, every mismatch is paid for by a
stale response, and every request beyond the samples by two of them. -/
theorem mismatches_le_stale {settings : MeasureSettings} {now : Nat} {events : List Event}
    {s : ClockProbes} (h : run (guarded NoneAbandoned (step settings)) (start now) events = some s) :
    s.mismatches ≤ staleCount s.received ∧
    ((∀ r ∈ s.timedOut, ∃ a ∈ s.received, a.probe = r.probe) → s.invalid = 0 →
      s.sent ≤ s.samples.length + 2 * staleCount s.received + s.waiting.toList.length) := by
  have hinvariant : s.Invariant ∧ s.Paired := by
    refine run_preserves (P := fun s : ClockProbes => s.Invariant ∧ s.Paired) ?_
      ⟨invariant_start now, paired_start now⟩ h
    intro s event t hs hstep
    obtain ⟨hok, hstep⟩ := guarded_some.mp hstep
    have hchanges := step_changes hstep
    exact ⟨hs.1.step hchanges, hs.2.step hs.1.own hok hchanges⟩
  obtain ⟨hs, hpaired⟩ := hinvariant
  refine ⟨hpaired.mismatches_le, ?_⟩
  intro hanswered hinvalid
  have hmismatches := hpaired.mismatches_le
  have htimedOut := timedOut_length_le hs hanswered
  have hcounted : s.sent = _ := hs.counted
  omega

section Shift

variable {settings : MeasureSettings} {s : ClockProbes} {a : ClockArrival}

/-- The client is idle and the response to its last request waits in the queue. -/
structure Shifted (s : ClockProbes) (a : ClockArrival) : Prop where
  idle : s.waiting = none
  way_nil : s.toHost = [] ∧ s.toClient = []
  queue_eq : s.queue = [a]
  requestId_ne : a.message.requestId ≠ s.requestId
  probe_le : ∀ b ∈ a :: s.received, b.probe ≤ s.sent
  stale_eq : staleCount (a :: s.received) = 1
  samples_nil : s.samples = []

/-- An iteration whose response is in time. -/
def timelyIteration : List Event := [.send, .receive, .answer 0 1 2, .arrive 0]

/-- The response to the next request, if it takes no time. -/
def promptResponse (s : ClockProbes) : ClockArrival where
  probe := s.sent + 1
  sentAt := s.now
  message := { s.request.message with
    type := .response
    hostReceiveTimestampNanoseconds := 1
    hostSendTimestampNanoseconds := 2 }
  arrivedAt := s.now

theorem requestId_ne_succ (requestId : UInt32) : requestId ≠ requestId + 1 := by
  intro h
  have hval := congrArg UInt32.toNat h
  rw [UInt32.toNat_add] at hval
  have hlt := requestId.toNat_lt
  have hone : (1 : UInt32).toNat = 1 := rfl
  omega

theorem timelyIteration_run (hs : s.Shifted a) (hdeadline : s.now < settings.deadline) :
    run (step settings) s timelyIteration = some { s with
      requestId := s.requestId + 1
      sent := s.sent + 1
      queue := [s.promptResponse]
      mismatches := s.mismatches + 1
      received := a :: s.received } := by
  obtain ⟨hidle, ⟨hhost, hclient⟩, hqueue, hid, -, -, hsamples⟩ := hs
  have hdesired : 0 < settings.desiredSamples.toNat := by
    apply Nat.pos_of_ne_zero
    intro hzero
    exact settings.desiredSamples_ne (UInt32.toNat_inj.mp hzero)
  have hexamine : ClockSyncClient.examine s.request.message a.message (UInt64.ofNat s.now) =
      .mismatch := ClockSyncClient.examine_mismatch hid _
  have hsend : step settings s .send = some { s with
      requestId := s.requestId + 1
      sent := s.sent + 1
      waiting := some s.request
      toHost := s.toHost ++ [s.request] } := by
    refine if_pos ⟨hidle, ?_, hdeadline⟩
    rw [hsamples]
    exact hdesired
  have hreceive : step settings { s with
      requestId := s.requestId + 1
      sent := s.sent + 1
      waiting := some s.request
      toHost := s.toHost ++ [s.request] } .receive = some { s with
      requestId := s.requestId + 1
      sent := s.sent + 1
      toHost := s.toHost ++ [s.request]
      waiting := none
      queue := []
      mismatches := s.mismatches + 1
      received := a :: s.received } := by
    simp only [step, hqueue, take, hexamine]
  refine run_cons_some.mpr ⟨_, hsend, run_cons_some.mpr ⟨_, hreceive, ?_⟩⟩
  rw [hhost, hclient, hidle]
  rfl

/-- The pairing stays shifted. -/
theorem Shifted.next (hs : s.Shifted a) : ({ s with
      requestId := s.requestId + 1
      sent := s.sent + 1
      queue := [s.promptResponse]
      mismatches := s.mismatches + 1
      received := a :: s.received } : ClockProbes).Shifted s.promptResponse := by
  refine ⟨hs.idle, hs.way_nil, rfl, requestId_ne_succ s.requestId, ?_, ?_, hs.samples_nil⟩
  · intro b hb
    rcases List.mem_cons.mp hb with rfl | hb
    · exact Nat.le_refl _
    · exact Nat.le_succ_of_le (hs.probe_le b hb)
  · have hfirst : ¬ Stale s.promptResponse (a :: s.received) := by
      rintro (hlate | ⟨b, hb, hprobe⟩)
      · exact absurd (show s.now + receiveTimeout < s.now from hlate) (by omega)
      · have hle := hs.probe_le b hb
        have hnew : s.promptResponse.probe = s.sent + 1 := rfl
        omega
    rw [staleCount, if_neg hfirst, hs.stale_eq]

/-- Any number of iterations fail behind one stale response, although all their
own responses are in time. -/
theorem shifted_run (n : Nat) (hs : s.Shifted a) (hdeadline : s.now < settings.deadline) :
    ∃ t b, run (step settings) s (List.replicate n timelyIteration).flatten = some t ∧
      t.Shifted b ∧ t.sent = s.sent + n ∧ t.mismatches = s.mismatches + n := by
  induction n generalizing s a with
  | zero => exact ⟨s, a, rfl, hs, rfl, rfl⟩
  | succ n ih =>
      obtain ⟨t, b, hrun, ht, hsent, hmismatches⟩ := ih hs.next hdeadline
      refine ⟨t, b, ?_, ht, ?_, ?_⟩
      · rw [List.replicate_succ, List.flatten_cons]
        exact run_append.mpr ⟨_, timelyIteration_run hs hdeadline, hrun⟩
      · exact hsent.trans (Nat.add_right_comm s.sent 1 n)
      · exact hmismatches.trans (Nat.add_right_comm s.mismatches 1 n)

/-- Behind a shifted pairing at most one stale response was received. -/
theorem Shifted.staleCount_le (hs : s.Shifted a) : staleCount s.received ≤ 1 := by
  have hall := hs.stale_eq
  rw [staleCount] at hall
  omega

/-- The settings of the runs below. -/
def eightSamples : MeasureSettings where
  desiredSamples := 8
  deadline := 2000000000
  desiredSamples_ne := by decide

/-- The response to the first request arrives just after the timeout. -/
def lateResponse : List Event := [.send, .tick 200000001, .timeout, .answer 0 1 2, .arrive 0]

/-- One late response makes the next twenty iterations fail, so that ten requests
are not enough for eight samples. -/
theorem stale_response_costs_all :
    ∃ s, run (step eightSamples) (start 0)
        (lateResponse ++ (List.replicate 20 timelyIteration).flatten) = some s ∧
      staleCount s.received ≤ 1 ∧ s.mismatches = 20 ∧ s.sent = 21 ∧ s.samples = [] := by
  have hlate : ∃ s a, run (step eightSamples) (start 0) lateResponse = some s ∧ s.Shifted a ∧
      s.now < eightSamples.deadline ∧ s.sent = 1 ∧ s.mismatches = 0 :=
    ⟨_, _, rfl, ⟨rfl, ⟨rfl, rfl⟩, rfl, by decide, by decide, by decide, rfl⟩, by decide, rfl, rfl⟩
  obtain ⟨s, a, hrun, hs, hdeadline, hfirst, hnone⟩ := hlate
  obtain ⟨t, b, hrest, ht, hsent, hmismatches⟩ := shifted_run 20 hs hdeadline
  rw [hfirst] at hsent
  rw [hnone] at hmismatches
  exact ⟨t, run_append.mpr ⟨s, hrun, hrest⟩, ht.staleCount_le, hmismatches, hsent, ht.samples_nil⟩

/-- The second request is lost, so its iteration gives nothing up. -/
theorem mismatches_le_stale_lost :
    ∃ s, run (guarded NoneAbandoned (step eightSamples)) (start 0)
        (lateResponse ++ [.send, .loseRequest 0, .receive]) = some s ∧
      s.sent ≤ s.samples.length + 2 * staleCount s.received + s.waiting.toList.length := by
  have hrun : ∃ s, run (guarded NoneAbandoned (step eightSamples)) (start 0)
        (lateResponse ++ [.send, .loseRequest 0, .receive]) = some s ∧
      (∀ r ∈ s.timedOut, ∃ a ∈ s.received, a.probe = r.probe) ∧ s.invalid = 0 :=
    ⟨_, rfl, by decide, rfl⟩
  obtain ⟨s, hrun, hanswered, hinvalid⟩ := hrun
  exact ⟨s, hrun, (mismatches_le_stale hrun).2 hanswered hinvalid⟩

end Shift

end ClockProbes

end SyncAudio
