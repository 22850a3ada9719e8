import SyncAudio.Desktop.ControlChannel
import SyncAudio.Ios.ClientReport
import SyncAudio.Ios.HostWelcome

/-!
# Health reports from the phone to the host

The phone prints the numbers of a report, the host reads them from the line and checks
each of them. Every number arrives as it was sent. The host accepts the report exactly
if the clock of the phone is at most a thousand seconds away from its own.
-/

namespace SyncAudio.HealthReport

open Text Binary64 FloatText ControlServer ReceiverViewModel

/-- The connection is the one that its device has joined with. -/
def IsMember (room : Room) (client : ControlClient) : Prop :=
  client.joinedDeviceId ≠ [] ∧ ∃ member, room.members.lookup client.joinedDeviceId = some member ∧
    member.deviceId = client.joinedDeviceId ∧ member.membershipToken = client.membershipToken

/-- The phone has a line for its report, it fits the buffer of the server with its line
feed, and the connection answers it with `OK`. -/
def Accepted (state : ControlStreamState) (peerAddress : Text) (now : Nat → Int)
    (connection : Connection) (status : ClientStatus) : Prop :=
  ∃ line, reportClientState status = some line ∧ line.length + 1 ≤ 256 ∧
    (∃ response, responseFor state connection.room peerAddress (now connection.responses.length)
      connection.client line = .ok response ∧ response.text = "OK\n".toList) ∧
    ((line ++ ['\n']).foldl (receiveChar state peerAddress now) connection).responses =
      connection.responses ++ ["OK\n".toList]

section Reading

variable {rtt jitter loss buffer syncError outputLatency offset : Finite} {words : List Text}
  {member : RoomMember} {room : Room} {client : ControlClient}

/-- The numbers of a report on the side of the server. -/
def receivedMetrics (rtt jitter loss buffer syncError outputLatency offset : Finite) :
    ClientMetrics where
  roundTripMs := .finite rtt
  networkJitterMs := .finite jitter
  packetLossPercent := .finite loss
  bufferDepthMs := .finite buffer
  estimatedSyncErrorMs := .finite syncError
  outputLatencyMs := .finite outputLatency
  clockOffsetMs := .finite offset

/-- The numbers arrive as they were sent. -/
theorem readMetrics_spaced :
    readMetrics (spaced ([rtt, jitter, loss, buffer, syncError, outputLatency, offset].map
      (fun x => description (.finite x)) ++ words)) =
      some (receivedMetrics rtt jitter loss buffer syncError outputLatency offset, spaced words) := by
  simp only [List.map_cons, List.map_nil, List.cons_append, List.nil_append]
  unfold readMetrics
  simp only [readFloat_spaced, Option.bind_eq_bind, Option.bind_some, Option.pure_def]
  rfl

/-- A route of the phone passes the check, also an empty one. -/
theorem readRoute_routeText (outputRoute : String) (current : Text) :
    ∃ route, readRoute (spaced [HostControlChannel.routeText outputRoute]) current = some route := by
  have hlength := routeText_length outputRoute
  have hvalid : ∀ c ∈ HostControlChannel.routeText outputRoute,
      (isAlnum c || c = '_' || c = '-') = true := fun c hc => mem_routeText hc
  generalize HostControlChannel.routeText outputRoute = route at hlength hvalid
  unfold readRoute
  by_cases hempty : route = []
  · subst hempty
    exact ⟨current, rfl⟩
  · have hgraphic : IsGraphic route := ⟨hempty, fun c hc => visible_of_accepted (hvalid c hc)⟩
    have haccepted : validRoute route = true :=
      decide_eq_true ⟨hempty, hlength, List.all_eq_true.mpr hvalid⟩
    have hrest : (readWord (spaced [])).isNone = true := rfl
    rw [readWord_spaced hgraphic.isWord []]
    dsimp only
    rw [if_pos haccepted, if_pos hrest]
    exact ⟨route, rfl⟩

theorem parseConnection_stateName (state : ReceiverConnectionState) :
    ∃ connectionState, parseConnection (stateName state) = some connectionState := by
  cases state <;> exact ⟨_, rfl⟩

/-- All numbers but the offset pass the check of the server. -/
theorem all_acceptedMetric {status : ClientStatus}
    (h : Reported status rtt jitter loss buffer syncError outputLatency offset) :
    (receivedMetrics rtt jitter loss buffer syncError outputLatency offset).toList.all
      acceptedMetric = decide (offset.magnitude ≤ 1000000) := by
  have haccepted {x : Finite} (hx : x.magnitude ≤ 1000000) : acceptedMetric (.finite x) = true :=
    decide_eq_true hx
  unfold ClientMetrics.toList receivedMetrics
  simp only [List.all_cons, List.all_nil, haccepted h.rtt_le, haccepted h.jitter_le,
    haccepted h.loss_le, haccepted h.buffer_le, haccepted h.syncError_le,
    haccepted h.outputLatency_le, Bool.true_and, Bool.and_true]
  rfl

/-- The server reads a report unless its offset is too large. -/
theorem readClientState_isSome {status : ClientStatus} (member : RoomMember)
    (h : Reported status rtt jitter loss buffer syncError outputLatency offset) :
    (readClientState member (reportText status
      [rtt, jitter, loss, buffer, syncError, outputLatency, offset])).isSome =
      decide (offset.magnitude ≤ 1000000) := by
  obtain ⟨connectionState, hstate⟩ := parseConnection_stateName status.connectionState
  obtain ⟨route, hroute⟩ := readRoute_routeText status.outputRouteType member.outputRoute
  have hchecks := all_acceptedMetric h
  unfold readClientState reportText
  rw [readWord_append (isGraphic_stateName status.connectionState).isWord]
  simp only [Option.bind_eq_bind, Option.bind_some, readMetrics_spaced, hroute, hchecks, hstate]
  by_cases hoffset : offset.magnitude ≤ 1000000
  · rw [decide_eq_true hoffset]
    rfl
  · rw [decide_eq_false hoffset]
    rfl

/-- The answer to a report of the current member. -/
theorem clientStateResponse_reported {status : ClientStatus} (hmember : IsMember room client)
    (h : Reported status rtt jitter loss buffer syncError outputLatency offset) :
    (clientStateResponse room client (reportText status
      [rtt, jitter, loss, buffer, syncError, outputLatency, offset])).1 =
      if offset.magnitude ≤ 1000000 then "OK\n".toList
      else "ERROR invalid-client-state\n".toList := by
  obtain ⟨hjoined, member, hlookup, hname, htoken⟩ := hmember
  have hsome := readClientState_isSome member h
  rw [clientStateResponse_member hjoined hlookup hname htoken]
  cases hread : readClientState member (reportText status
      [rtt, jitter, loss, buffer, syncError, outputLatency, offset]) with
  | none =>
      rw [hread] at hsome
      exact (if_neg (of_decide_eq_false hsome.symm)).symm
  | some updated =>
      rw [hread] at hsome
      exact (if_pos (of_decide_eq_true hsome.symm)).symm

end Reading

section Answer

variable {std : SortAlgorithm} {status : ClientStatus} {state : ControlStreamState}
  {peerAddress line : Text} {now : Nat → Int} {connection : Connection} {room : Room}

theorem responseFor_report (state : ControlStreamState) (room : Room) (peerAddress : Text)
    (now : Int) (client : ControlClient) (report : Text) :
    responseFor state (some room) peerAddress now client ("CLIENT_STATE ".toList ++ report) =
      .ok { text := (clientStateResponse room client report).1
            room := some (clientStateResponse room client report).2
            client } := rfl

/-- What a connection appends to its responses for a printable line. -/
theorem responses_line {response : Response} (hopen : connection.closed = false)
    (hempty : connection.line = []) (hlength : line.length ≤ 256)
    (hprintable : ∀ c ∈ line, 32 ≤ c.toNat ∧ c.toNat < 127)
    (hresponse : responseFor state connection.room peerAddress (now connection.responses.length)
      connection.client line = .ok response) :
    ((line ++ ['\n']).foldl (receiveChar state peerAddress now) connection).responses =
      connection.responses ++ [response.text] := by
  have hreturn : stripReturn line = line := by
    apply if_neg
    intro hlast
    have hvisible := hprintable _ (List.mem_of_getLast? hlast)
    exact absurd hvisible.1 (by decide)
  have hcollected := @receive_printable state peerAddress now connection line hopen hprintable
    (by rw [hempty]; simpa using hlength)
  rw [List.foldl_append, hcollected, List.foldl_cons, List.foldl_nil]
  unfold receiveChar
  dsimp only
  rw [hopen, if_neg Bool.false_ne_true, if_pos rfl, hempty, List.nil_append, hreturn, hresponse]
  dsimp only
  split_ifs <;> rfl

/-- The report of the current member gets one of two answers, and it is `OK` exactly if the
offset of the estimate is at most a thousand seconds. -/
theorem report_answer (hopen : connection.closed = false) (hempty : connection.line = [])
    (hroom : connection.room = some room) (hmember : IsMember room connection.client)
    (hmetrics : status.Moderate) (hestimate : ∀ e ∈ status.clockEstimate, e.Produced std) :
    ∃ line response, reportClientState status = some line ∧ line.length + 1 ≤ 256 ∧
      responseFor state connection.room peerAddress (now connection.responses.length)
        connection.client line = .ok response ∧
      ((line ++ ['\n']).foldl (receiveChar state peerAddress now) connection).responses =
        connection.responses ++ [response.text] ∧
      response.text = if ∀ e ∈ status.clockEstimate, |e.offsetNanoseconds.toRat| ≤ 10 ^ 12 then
        "OK\n".toList else "ERROR invalid-client-state\n".toList := by
  obtain ⟨rtt, jitter, loss, buffer, syncError, outputLatency, offset, hreported⟩ :=
    exists_reported hmetrics hestimate
  obtain ⟨hlength, hprintable⟩ := hreported.line_fits hreported.line
  have hanswer := clientStateResponse_reported hmember hreported
  have hresponse := responseFor_report state room peerAddress (now connection.responses.length)
    connection.client (reportText status
      [rtt, jitter, loss, buffer, syncError, outputLatency, offset])
  rw [← hroom] at hresponse
  have hresponses := responses_line hopen hempty (by omega) hprintable hresponse
  refine ⟨_, _, hreported.line, by omega, hresponse, hresponses, ?_⟩
  dsimp only
  rw [hanswer]
  simp only [hreported.offset_le_iff]

theorem accepted_offset (hopen : connection.closed = false) (hempty : connection.line = [])
    (hroom : connection.room = some room) (hmember : IsMember room connection.client)
    (hmetrics : status.Moderate) (hestimate : ∀ e ∈ status.clockEstimate, e.Produced std)
    (h : Accepted state peerAddress now connection status) :
    ∀ e ∈ status.clockEstimate, |e.offsetNanoseconds.toRat| ≤ 10 ^ 12 := by
  obtain ⟨line, response, hline, -, hresponse, -, htext⟩ :=
    @report_answer std status state peerAddress now connection room hopen hempty hroom hmember
      hmetrics hestimate
  obtain ⟨line', hline', -, ⟨response', hresponse', hok⟩, -⟩ := h
  obtain rfl := Option.some.inj (hline.symm.trans hline')
  obtain rfl := Except.ok.inj (hresponse.symm.trans hresponse')
  by_contra hlarge
  rw [hok, if_neg hlarge] at htext
  exact absurd htext (by decide)

/-- The phone ends its session on the other answer. -/
theorem handle_refusal {Address : Type} (ipv4Address : Text → Option Address)
    (session : HostControlChannel.Session Address) :
    session.handle ipv4Address "ERROR invalid-client-state".toList = session.retry := rfl

/-- The report of a member is accepted exactly if the clock of the host, as far as the phone has
an estimate of it, is at most a thousand seconds away. -/
theorem report_accepted_iff (hopen : connection.closed = false) (hempty : connection.line = [])
    (hroom : connection.room = some room) (hmember : IsMember room connection.client)
    (hmetrics : status.Moderate) (hestimate : ∀ e ∈ status.clockEstimate, e.Produced std) :
    Accepted state peerAddress now connection status ↔
      ∀ e ∈ status.clockEstimate, |e.offsetNanoseconds.toRat| ≤ 10 ^ 12 := by
  constructor
  · exact accepted_offset hopen hempty hroom hmember hmetrics hestimate
  · intro hsmall
    obtain ⟨line, response, hline, hlength, hresponse, hresponses, htext⟩ :=
      @report_answer std status state peerAddress now connection room hopen hempty hroom hmember
        hmetrics hestimate
    rw [if_pos hsmall] at htext
    rw [htext] at hresponses
    exact ⟨line, hline, hlength, ⟨response, hresponse, htext⟩, hresponses⟩

end Answer

section Examples

/-- Estimates of a phone that has run for a hundred seconds. -/
theorem exists_produced {ahead : Nat} (hlow : 2000000 ≤ ahead) (hhigh : ahead ≤ 10 ^ 13) :
    ∃ e : DoubleEstimate, e.Produced .stable ∧ |e.offsetNanoseconds.toRat| = ahead := by
  have hsize : 100002000000 + ahead < 2 ^ 64 := by omega
  have hhost : (UInt64.ofNat (100002000000 + ahead)).toNat = 100002000000 + ahead :=
    UInt64.toNat_ofNat_of_lt' hsize
  have hsent : (100000000000 : UInt64).toNat = 100000000000 := rfl
  have hreceived : (100004000000 : UInt64).toNat = 100004000000 := rfl
  obtain ⟨e, he, hoffset⟩ := @ClockSyncWire.doubleSample_exact
    (UInt64.ofNat (100002000000 + ahead)) (UInt64.ofNat (100002000000 + ahead))
    100000000000 100004000000 ahead (by rw [hsent, hreceived]; omega) le_rfl (by omega) (by omega)
    (by omega) (by omega) (by omega) (by omega)
  have hanswer := @ClockSyncWire.doubleResponse_hostAnswer 1 100000000000
    (UInt64.ofNat (100002000000 + ahead)) (UInt64.ofNat (100002000000 + ahead)) 100004000000
    (by decide)
  have hsample : e.IsSample := ⟨_, _, _, _, hanswer.trans he⟩
  exact ⟨e, hsample.produced .stable, hoffset⟩

theorem exists_isMember : ∃ (room : Room) (client : ControlClient), IsMember room client := by
  refine ⟨{ state := { roomId := ['1'], roomName := ['R'], hostDeviceId := ['h'], sessionId := 1
                       streamId := 1, sessionId_ne := by decide, streamId_ne := firstStreamId_ne
                       pending_valid := valid_of_empty }
            members := AList.insert ['p'] { deviceId := ['p'], ipv4Address := ['a'] } ∅ },
    { joinedDeviceId := ['p'], membershipToken := 0 }, List.cons_ne_nil _ _, _,
    AList.lookup_insert _, rfl, rfl⟩

theorem moderate_status (e : DoubleEstimate) :
    ({ connectionState := .playing, clockEstimate := some e } : ClientStatus).Moderate where
  networkJitter := moderate_zero
  packetLoss := moderate_zero
  queued := moderate_zero
  estimatedSyncError := fun x hx => absurd hx (Option.not_mem_none x)
  outputLatency := fun x hx => absurd hx (Option.not_mem_none x)

/-- Two clocks that are five hundred seconds apart. -/
theorem report_accepted_near : ∃ (connection : Connection) (e : DoubleEstimate),
    e.Produced .stable ∧ |e.offsetNanoseconds.toRat| = (500000000000 : Nat) ∧
      Accepted {} ['p'] (fun _ => 0) connection
        { connectionState := .playing, clockEstimate := some e } := by
  obtain ⟨e, he, hoffset⟩ := @exists_produced 500000000000 (by decide) (by decide)
  obtain ⟨room, client, hmember⟩ := exists_isMember
  have hestimate : ∀ e' ∈ some e, e'.Produced .stable := by
    rintro e' ⟨⟩
    exact he
  refine ⟨{ room := some room, client }, e, he, hoffset, ?_⟩
  apply (@report_accepted_iff .stable { connectionState := .playing, clockEstimate := some e } {}
    ['p'] (fun _ => 0) { room := some room, client } room rfl rfl rfl hmember (moderate_status e)
    hestimate).mpr
  rintro e' ⟨⟩
  rw [hoffset]
  norm_num

/-- The host has been up for two thousand seconds longer than the phone. -/
theorem report_refused_far : ∃ (room : Room) (connection : Connection) (e : DoubleEstimate),
    connection.closed = false ∧ connection.line = [] ∧ connection.room = some room ∧
      IsMember room connection.client ∧ e.Produced .stable ∧
      ({ connectionState := .playing, clockEstimate := some e } : ClientStatus).Moderate ∧
      ¬ Accepted {} ['p'] (fun _ => 0) connection
        { connectionState := .playing, clockEstimate := some e } := by
  obtain ⟨e, he, hoffset⟩ := @exists_produced 2000000000000 (by decide) (by decide)
  obtain ⟨room, client, hmember⟩ := exists_isMember
  have hestimate : ∀ e' ∈ some e, e'.Produced .stable := by
    rintro e' ⟨⟩
    exact he
  refine ⟨room, { room := some room, client }, e, rfl, rfl, rfl, hmember, he, moderate_status e, ?_⟩
  intro haccepted
  have hsmall := accepted_offset rfl rfl rfl hmember (moderate_status e) hestimate haccepted e rfl
  rw [hoffset] at hsmall
  norm_num at hsmall

end Examples

end SyncAudio.HealthReport
