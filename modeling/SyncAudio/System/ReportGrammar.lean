import SyncAudio.Lib.Numeral
import SyncAudio.System.HealthReport
import SyncAudio.System.Membership

/-!
# The grammar of health reports

What the host accepts behind `CLIENT_STATE`: a state, seven numerals and a route. The
stream extraction skips white space in front of a field and does not ask for it: a
numeral ends where the text no longer continues it, so a sign, a second point or a
route may follow at once. A report that is refused leaves the room as it was.
-/

namespace SyncAudio.ReportGrammar

open Text Binary64 FloatText ControlServer
open HealthReport (IsMember)

/-- What a health report says. -/
structure Report where
  connectionState : RoomConnectionState
  numbers : List Numeral
  route : Option Text
  numbers_length : numbers.length = 7
  route_valid : ∀ name ∈ route, validRoute name = true

/-- Numerals at the front of a text. White space may stand in front of each, and what
follows does not continue it; the last text is what is left. -/
inductive Numbers : List Numeral → Text → Text → Prop
  | nil (rest : Text) : Numbers [] rest rest
  | cons {space rest last : Text} {n : Numeral} {numbers : List Numeral} (hspace : Blank space)
      (hstops : n.Stops rest) (hrest : Numbers numbers rest last) :
      Numbers (n :: numbers) (space ++ (n.text ++ rest)) last

/-- The end of a report, with or without a route. -/
def Ends (route : Option Text) (text : Text) : Prop :=
  match route with
  | none => Blank text
  | some name => ∃ before after, Blank before ∧ Blank after ∧ text = before ++ (name ++ after)

namespace Report

/-- The text of a report. -/
def Spells (report : Report) (text : Text) : Prop :=
  ∃ before numbers tail, Blank before ∧
    text = before ++ (connectionName report.connectionState ++ numbers) ∧
    (∀ c ∈ numbers.head?, isSpace c = true) ∧ Numbers report.numbers numbers tail ∧
    Ends report.route tail

/-- The nearest double of every number is at most a million. -/
def InRange (report : Report) : Prop :=
  ∀ n ∈ report.numbers, ∃ x, n.nearest = .finite x ∧ |x.value| ≤ 1000000

/-- The numbers of a member, in the order of a report. -/
def recorded (member : RoomMember) : List Binary64 :=
  [member.roundTripMs, member.networkJitterMs, member.packetLossPercent, member.bufferDepthMs,
    member.estimatedSyncErrorMs, member.outputLatencyMs, member.clockOffsetMs]

/-- The record of a member behind a report. -/
structure Carries (report : Report) (member updated : RoomMember) : Prop where
  deviceId_eq : updated.deviceId = member.deviceId
  ipv4Address_eq : updated.ipv4Address = member.ipv4Address
  audioPort_eq : updated.audioPort = member.audioPort
  membershipToken_eq : updated.membershipToken = member.membershipToken
  connectionState_eq : updated.connectionState = report.connectionState
  numbers_eq : recorded updated = report.numbers.map Numeral.nearest
  outputRoute_eq : updated.outputRoute = report.route.getD member.outputRoute

end Report

section Extraction

variable {text rest tail : Text} {metrics : ClientMetrics} {numbers : List Numeral}

/-- Extraction of some numbers, one behind the other. -/
def readNumbers : Nat → Text → Option (List Binary64 × Text)
  | 0, text => some ([], text)
  | count + 1, text => do
      let (x, text) ← readFloat text
      let (values, text) ← readNumbers count text
      pure (x :: values, text)

theorem readNumbers_iff {count : Nat} {values : List Binary64} :
    readNumbers count text = some (values, rest) ↔ ∃ numbers : List Numeral,
      numbers.length = count ∧ Numbers numbers text rest ∧ values = numbers.map Numeral.nearest ∧
      ∀ x ∈ values, x.isFinite = true := by
  induction count generalizing text values with
  | zero =>
      constructor
      · intro h
        obtain ⟨rfl, rfl⟩ := Prod.mk.inj (Option.some.inj h)
        exact ⟨[], rfl, .nil _, rfl, fun x hx => absurd hx List.not_mem_nil⟩
      · rintro ⟨numbers, hlength, hnumbers, rfl, -⟩
        cases hnumbers with
        | nil => rfl
        | cons => cases hlength
  | succ count ih =>
      have hunfold : readNumbers (count + 1) text = (readFloat text).bind fun first =>
          (readNumbers count first.2).bind fun others =>
            some (first.1 :: others.1, others.2) := rfl
      rw [hunfold]
      constructor
      · intro h
        obtain ⟨⟨x, middle⟩, hfirst, h⟩ := Option.bind_eq_some_iff.mp h
        obtain ⟨⟨others, last⟩, hothers, h⟩ := Option.bind_eq_some_iff.mp h
        obtain ⟨rfl, rfl⟩ := Prod.mk.inj (Option.some.inj h)
        obtain ⟨space, n, hspace, rfl, hstops, rfl, hfinite⟩ := readFloat_iff.mp hfirst
        obtain ⟨numbers, hlength, hnumbers, rfl, hall⟩ := ih.mp hothers
        refine ⟨n :: numbers, congrArg Nat.succ hlength, .cons hspace hstops hnumbers, rfl, ?_⟩
        exact List.forall_mem_cons.mpr ⟨hfinite, hall⟩
      · rintro ⟨numbers, hlength, hnumbers, rfl, hall⟩
        cases hnumbers with
        | nil => cases hlength
        | @cons space middle _ n numbers hspace hstops hrest =>
            obtain ⟨hfinite, hothers⟩ := List.forall_mem_cons.mp hall
            have hfirst := readFloat_iff.mpr ⟨space, n, hspace, rfl, hstops, rfl, hfinite⟩
            have hrun := ih.mpr ⟨numbers, Nat.succ.inj hlength, hrest, rfl, hothers⟩
            rw [hfirst, Option.bind_some, hrun, Option.bind_some]
            rfl

/-- The numbers of a report are seven. -/
theorem readMetrics_iff :
    readMetrics text = some (metrics, rest) ↔ readNumbers 7 text = some (metrics.toList, rest) := by
  constructor
  · intro h
    unfold readMetrics at h
    simp only [Option.bind_eq_bind, Option.bind_eq_some_iff] at h
    obtain ⟨roundTrip, h1, jitter, h2, loss, h3, buffer, h4, syncError, h5, latency, h6, offset, h7,
      h⟩ := h
    obtain ⟨rfl, rfl⟩ := Prod.mk.inj (Option.some.inj h)
    simp only [readNumbers, h1, h2, h3, h4, h5, h6, h7, Option.bind_eq_bind, Option.bind_some]
    rfl
  · intro h
    simp only [readNumbers, Option.bind_eq_bind, Option.bind_eq_some_iff] at h
    obtain ⟨roundTrip, h1, _, ⟨jitter, h2, _, ⟨loss, h3, _, ⟨buffer, h4, _, ⟨syncError, h5, _,
      ⟨latency, h6, _, ⟨offset, h7, _, ⟨rfl⟩, ⟨rfl⟩⟩, ⟨rfl⟩⟩, ⟨rfl⟩⟩, ⟨rfl⟩⟩, ⟨rfl⟩⟩, ⟨rfl⟩⟩, h⟩ := h
    obtain ⟨hvalues, rfl⟩ := Prod.mk.inj (Option.some.inj h)
    obtain ⟨a, b, c, d, e, f, g⟩ := metrics
    simp only [ClientMetrics.toList, List.cons.injEq, and_true] at hvalues
    obtain ⟨rfl, rfl, rfl, rfl, rfl, rfl, rfl⟩ := hvalues
    simp only [readMetrics, h1, h2, h3, h4, h5, h6, h7, Option.bind_eq_bind, Option.bind_some]
    rfl

/-- A route is read where the text ends with it. -/
theorem readRoute_iff {current route : Text} :
    readRoute text current = some route ↔ ∃ written : Option Text,
      Ends written text ∧ (∀ name ∈ written, validRoute name = true) ∧
        route = written.getD current := by
  unfold readRoute
  constructor
  · intro h
    cases hword : readWord text with
    | none =>
        rw [hword] at h
        cases h
        exact ⟨none, readWord_eq_none_iff.mp hword, fun name hname => absurd hname
          (Option.not_mem_none name), rfl⟩
    | some found =>
        obtain ⟨name, after⟩ := found
        rw [hword] at h
        dsimp only at h
        split_ifs at h with hvalid hend
        cases h
        obtain ⟨before, hbefore, htext, -, -⟩ := readWord_iff.mp hword
        have hafter : Blank after := readWord_eq_none_iff.mp (Option.isNone_iff_eq_none.mp hend)
        refine ⟨some route, ⟨before, after, hbefore, hafter, htext⟩, ?_, rfl⟩
        rintro name ⟨⟩
        exact hvalid
  · rintro ⟨written, hends, hvalid, rfl⟩
    cases written with
    | none =>
        rw [readWord_eq_none_iff.mpr hends]
        rfl
    | some name =>
        obtain ⟨before, after, hbefore, hafter, rfl⟩ := hends
        have hname := hvalid name rfl
        have hword : IsWord name := by
          obtain ⟨hne, -, hall⟩ := of_decide_eq_true hname
          have hgraphic : IsGraphic name := ⟨hne, fun c hc => ReceiverViewModel.visible_of_accepted
            (List.all_eq_true.mp hall c hc)⟩
          exact hgraphic.isWord
        have hread := readWord_iff.mpr ⟨before, hbefore, rfl, hword,
          fun c hc => hafter c (List.mem_of_mem_head? hc)⟩
        rw [hread]
        dsimp only
        rw [if_pos hname, readWord_eq_none_iff.mpr hafter]
        rfl

end Extraction

section Reading

variable {member updated : RoomMember} {text : Text}

theorem parseConnection_iff {status : Text} {state : RoomConnectionState} :
    parseConnection status = some state ↔ status = connectionName state := by
  unfold parseConnection
  constructor
  · intro h
    split_ifs at h with h1 h2 h3 h4 h5 h6
    all_goals
      obtain rfl := Option.some.inj h
      assumption
  · rintro rfl
    cases state <;> decide

theorem isWord_connectionName (state : RoomConnectionState) : IsWord (connectionName state) := by
  cases state <;> exact isWord_of_all rfl

/-- A number that is accepted is a double of at most a million. -/
theorem acceptedMetric_iff {value : Binary64} :
    acceptedMetric value = true ↔ ∃ x, value = .finite x ∧ |x.value| ≤ 1000000 := by
  cases value with
  | finite x =>
      unfold acceptedMetric
      rw [decide_eq_true_iff, ← Finite.abs_value]
      constructor
      · intro h
        exact ⟨x, rfl, h⟩
      · rintro ⟨y, heq, h⟩
        cases heq
        exact h
  | infinite negative =>
      apply iff_of_false Bool.false_ne_true
      rintro ⟨x, heq, -⟩
      cases heq
  | nan =>
      apply iff_of_false Bool.false_ne_true
      rintro ⟨x, heq, -⟩
      cases heq

/-- A report is read exactly if it is spelled and in range, and the record is the
one it carries. -/
theorem readClientState_iff :
    readClientState member text = some updated ↔
      ∃ report : Report, report.Spells text ∧ report.InRange ∧ report.Carries member updated := by
  constructor
  · intro h
    unfold readClientState at h
    simp only [Option.bind_eq_bind, Option.bind_eq_some_iff] at h
    obtain ⟨⟨status, fields⟩, hstatus, ⟨metrics, tail⟩, hmetrics, route, hroute, h⟩ := h
    dsimp only at hmetrics hroute h
    split_ifs at h with hrefused
    obtain ⟨state, hstate, hupdated⟩ := Option.bind_eq_some_iff.mp h
    obtain ⟨before, hbefore, htext, -, hspace⟩ := readWord_iff.mp hstatus
    obtain ⟨numbers, hlength, hnumbers, hvalues, -⟩ := readNumbers_iff.mp (readMetrics_iff.mp hmetrics)
    obtain ⟨written, hends, hvalid, rfl⟩ := readRoute_iff.mp hroute
    obtain rfl := parseConnection_iff.mp hstate
    let report : Report := {
      connectionState := state
      numbers
      route := written
      numbers_length := hlength
      route_valid := hvalid }
    refine ⟨report, ⟨before, fields, tail, hbefore, htext, hspace, hnumbers, hends⟩, ?_, ?_⟩
    · intro n hn
      have hall : metrics.toList.all acceptedMetric = true := by simpa using hrefused
      apply acceptedMetric_iff.mp
      apply List.all_eq_true.mp hall
      rw [hvalues]
      exact List.mem_map_of_mem hn
    · obtain rfl := Option.some.inj hupdated
      exact ⟨rfl, rfl, rfl, rfl, rfl, hvalues, rfl⟩
  · rintro ⟨report, ⟨before, fields, tail, hbefore, rfl, hspace, hnumbers, hends⟩, hrange, hcarries⟩
    have hstatus := readWord_iff.mpr ⟨before, hbefore, rfl,
      isWord_connectionName report.connectionState, hspace⟩
    have hfinite : ∀ x ∈ report.numbers.map Numeral.nearest, x.isFinite = true := by
      intro x hx
      obtain ⟨n, hn, rfl⟩ := List.mem_map.mp hx
      obtain ⟨y, hy, -⟩ := hrange n hn
      rw [hy]
      rfl
    have hread := readNumbers_iff.mpr ⟨report.numbers, report.numbers_length, hnumbers, rfl, hfinite⟩
    -- The metrics are those of the record.
    let metrics : ClientMetrics := {
      roundTripMs := updated.roundTripMs
      networkJitterMs := updated.networkJitterMs
      packetLossPercent := updated.packetLossPercent
      bufferDepthMs := updated.bufferDepthMs
      estimatedSyncErrorMs := updated.estimatedSyncErrorMs
      outputLatencyMs := updated.outputLatencyMs
      clockOffsetMs := updated.clockOffsetMs }
    have hmetrics : metrics.toList = report.numbers.map Numeral.nearest := hcarries.numbers_eq
    rw [← hmetrics] at hread
    have hroute : readRoute tail member.outputRoute =
        some (report.route.getD member.outputRoute) :=
      readRoute_iff.mpr ⟨report.route, hends, report.route_valid, rfl⟩
    have hall : metrics.toList.all acceptedMetric = true := by
      rw [hmetrics]
      apply List.all_eq_true.mpr
      intro x hx
      obtain ⟨n, hn, rfl⟩ := List.mem_map.mp hx
      exact acceptedMetric_iff.mpr (hrange n hn)
    have hstate : parseConnection (connectionName report.connectionState) =
        some report.connectionState := parseConnection_iff.mpr rfl
    have hread := readMetrics_iff.mpr hread
    unfold readClientState
    simp only [hstatus, hread, hroute, hall, hstate, Option.bind_eq_bind, Option.bind_some,
      Bool.not_true, Bool.false_eq_true, if_false]
    rw [← hcarries.connectionState_eq, ← hcarries.outputRoute_eq]
    obtain ⟨hdevice, haddress, hport, htoken, -, -, -⟩ := hcarries
    obtain ⟨deviceId, ipv4Address, audioPort, membershipToken⟩ := member
    cases updated
    cases hdevice
    cases haddress
    cases hport
    cases htoken
    rfl

/-- Every report has a record that carries it. -/
theorem Report.exists_carries (report : Report) (member : RoomMember) :
    ∃ updated, report.Carries member updated := by
  match hnumbers : report.numbers, report.numbers_length with
  | [roundTrip, jitter, loss, buffer, syncError, latency, offset], _ =>
      refine ⟨{ member with
        connectionState := report.connectionState
        outputRoute := report.route.getD member.outputRoute
        roundTripMs := roundTrip.nearest
        networkJitterMs := jitter.nearest
        packetLossPercent := loss.nearest
        bufferDepthMs := buffer.nearest
        estimatedSyncErrorMs := syncError.nearest
        outputLatencyMs := latency.nearest
        clockOffsetMs := offset.nearest }, rfl, rfl, rfl, rfl, rfl, ?_, rfl⟩
      rw [hnumbers]
      rfl

end Reading

section Answer

variable {room : Room} {client : ControlClient}

/-- Exactly the record of one device is another one. -/
structure Stores (room : Room) (deviceId : Text) (updated : RoomMember) (next : Room) : Prop where
  state_eq : next.state = room.state
  nextMembershipToken_eq : next.nextMembershipToken = room.nextMembershipToken
  keys_eq : next.members.keys = room.members.keys
  lookup_self : next.members.lookup deviceId = some updated
  lookup_other : ∀ other, other ≠ deviceId → next.members.lookup other = room.members.lookup other

theorem stores_replace {member : RoomMember} {deviceId : Text} (updated : RoomMember)
    (hlookup : room.members.lookup deviceId = some member) :
    Stores room deviceId updated
      { room with members := room.members.replace deviceId updated } where
  state_eq := rfl
  nextMembershipToken_eq := rfl
  keys_eq := AList.keys_replace _ _ _
  lookup_self := by
    have hkey : deviceId ∈ room.members := AList.lookup_isSome.mp (by rw [hlookup]; rfl)
    exact dlookup_kreplace_self hkey
  lookup_other := fun other hother => dlookup_kreplace_of_ne hother

/-- The grammar of `CLIENT_STATE`. A connection that holds the current membership of its
device gets `OK` exactly for the text of a report that is in range, and then the record of
this member carries the report and nothing else in the room changes. After any other
answer the room is the same. -/
theorem clientState_grammar (hmember : IsMember room client) (state : ControlStreamState)
    (peerAddress : Text) (now : Int) (line : Text)
    (hline : "CLIENT_STATE ".toList.isPrefixOf line = true) :
    ∃ response next, responseFor state (some room) peerAddress now client line = .ok response ∧
      response.client = client ∧ response.room = some next ∧
      (response.text = "OK\n".toList ↔
        ∃ report : Report, report.Spells (line.drop 13) ∧ report.InRange) ∧
      (∀ report : Report, report.Spells (line.drop 13) → report.InRange →
        ∃ member updated, room.members.lookup client.joinedDeviceId = some member ∧
          report.Carries member updated ∧ Stores room client.joinedDeviceId updated next) ∧
      (response.text ≠ "OK\n".toList → next = room) := by
  obtain ⟨hjoined, member, hlookup, hname, htoken⟩ := hmember
  obtain ⟨text, rfl⟩ := List.isPrefixOf_iff_prefix.mp hline
  have hanswer := clientStateResponse_member hjoined hlookup hname htoken text
  have hrefused : "ERROR invalid-client-state\n".toList ≠ "OK\n".toList := by decide
  have hdrop : ("CLIENT_STATE ".toList ++ text).drop 13 = text := rfl
  refine ⟨_, _, HealthReport.responseFor_report state room peerAddress now client text, rfl, rfl, ?_⟩
  dsimp only
  rw [hdrop, hanswer]
  have hcarried (report : Report) (hspells : report.Spells text) (hrange : report.InRange) :
      ∃ updated, report.Carries member updated ∧ readClientState member text = some updated := by
    obtain ⟨updated, hcarries⟩ := report.exists_carries member
    exact ⟨updated, hcarries, readClientState_iff.mpr ⟨report, hspells, hrange, hcarries⟩⟩
  cases hread : readClientState member text with
  | none =>
      have hnone (report : Report) (hspells : report.Spells text) (hrange : report.InRange) :
          False := by
        obtain ⟨updated, -, hsome⟩ := hcarried report hspells hrange
        rw [hread] at hsome
        cases hsome
      refine ⟨iff_of_false hrefused ?_, ?_, fun _ => rfl⟩
      · rintro ⟨report, hspells, hrange⟩
        exact hnone report hspells hrange
      · intro report hspells hrange
        exact (hnone report hspells hrange).elim
  | some updated =>
      obtain ⟨written, hwritten, hinRange, -⟩ := readClientState_iff.mp hread
      refine ⟨iff_of_true rfl ⟨written, hwritten, hinRange⟩, ?_, fun hother => absurd rfl hother⟩
      intro report hspells hrange
      obtain ⟨other, hcarries, hsome⟩ := hcarried report hspells hrange
      obtain rfl := Option.some.inj (hread.symm.trans hsome)
      exact ⟨member, updated, hlookup, hcarries, stores_replace updated hlookup⟩

/-- The fields of a text: what lies between white space. -/
def fieldsFrom (field : Text) : Text → List Text
  | [] => if field = [] then [] else [field]
  | c :: rest =>
      if isSpace c then if field = [] then fieldsFrom [] rest else field :: fieldsFrom [] rest
      else fieldsFrom (field ++ [c]) rest

/-- A report whose fields are separated by white space, with a bound on the numbers as
they are written. -/
def Separated (text : Text) : Prop :=
  ∃ (connectionState : RoomConnectionState) (numbers : List Numeral) (route : Option Text),
    fieldsFrom [] text =
      connectionName connectionState :: (numbers.map Numeral.text ++ route.toList) ∧
    numbers.length = 7 ∧ (∀ n ∈ numbers, n.magnitude ≤ 1000000) ∧
    ∀ name ∈ route, validRoute name = true

end Answer

section Examples

/-- A number that is written within a million is in range. -/
theorem nearest_of_le {n : Numeral} (h : n.magnitude ≤ 1000000) :
    ∃ x, n.nearest = .finite x ∧ |x.value| ≤ 1000000 := by
  obtain ⟨million, -, hmillion⟩ := @exists_finite_of_lt 1000000 (by decide)
  have hnonneg : 0 ≤ n.magnitude := by
    unfold Numeral.magnitude
    exact mul_nonneg (Nat.cast_nonneg _) (zpow_nonneg (by norm_num) _)
  obtain ⟨x, hx, -, hle⟩ := round_le n.sign.negative hnonneg (h.trans_eq
    (by rw [hmillion]; norm_num))
  refine ⟨x, hx, ?_⟩
  rw [Finite.abs_value]
  rw [hmillion] at hle
  exact hle.trans (by norm_num)

/-- What follows a numeral does not continue it, whatever the numeral is. -/
theorem stops_of_head (n : Numeral) {c : Char} (rest : Text) (hdigit : c.isDigit = false)
    (hmark : ¬ (c = 'e' ∨ c = 'E')) (hpoint : c ≠ '.') : n.Stops (c :: rest) where
  digit := by
    rintro d ⟨⟩
    exact hdigit
  mark := by
    rintro - d ⟨⟩
    exact hmark
  point := by
    rintro - - d ⟨⟩
    exact hpoint

theorem stops_nil (n : Numeral) : n.Stops [] where
  digit := fun c hc => absurd hc (Option.not_mem_none c)
  mark := fun _ c hc => absurd hc (Option.not_mem_none c)
  point := fun _ _ c hc => absurd hc (Option.not_mem_none c)

theorem blank_space : Blank [' '] := by
  intro c hc
  rw [List.mem_singleton.mp hc]
  rfl

/-- Numerals with a space in front of each. -/
theorem numbers_spaced (numbers : List Numeral) :
    Numbers numbers (spaced (numbers.map Numeral.text)) [] := by
  induction numbers with
  | nil => exact .nil []
  | cons n numbers ih =>
      have hstops : n.Stops (spaced (numbers.map Numeral.text)) := by
        cases numbers with
        | nil => exact stops_nil n
        | cons next numbers => exact stops_of_head n _ rfl (by decide) (by decide)
      exact .cons blank_space hstops ih

/-- A numeral of one digit. -/
def digit (sign : Sign) (c : Char) (h : c.isDigit = true) : Numeral where
  sign
  whole := [c]
  fraction := none
  exponent := none
  whole_isDigit := fun _ hd => (List.mem_singleton.mp hd).symm ▸ h
  fraction_isDigit := fun _ hd => absurd hd List.not_mem_nil
  digits_ne := List.cons_ne_nil c _

theorem isDigit_zero : '0'.isDigit = true := by
  decide

theorem isDigit_one : '1'.isDigit = true := by
  decide

theorem isDigit_two : '2'.isDigit = true := by
  decide

/-- The numbers of a report behind its first one. -/
def furtherNumbers : List Numeral :=
  List.replicate 5 (digit .unsigned '0' isDigit_zero)

/-- A report in which the second number has a sign and no space in front of it. -/
def unseparated : Report where
  connectionState := .synced
  numbers := digit .unsigned '1' isDigit_one :: digit .minus '2' isDigit_two :: furtherNumbers
  route := none
  numbers_length := rfl
  route_valid := fun name hname => absurd hname (Option.not_mem_none name)

def unseparatedText : Text := "SYNCED 1-2 0 0 0 0 0".toList

theorem unseparated_spells : unseparated.Spells unseparatedText := by
  refine ⟨[], " 1-2 0 0 0 0 0".toList, [], fun c hc => absurd hc List.not_mem_nil, rfl, ?_, ?_, ?_⟩
  · rintro c ⟨⟩
    rfl
  · have hfurther := numbers_spaced furtherNumbers
    have hsecond : Numbers (digit .minus '2' isDigit_two :: furtherNumbers)
        "-2 0 0 0 0 0".toList [] :=
      @Numbers.cons [] " 0 0 0 0 0".toList [] (digit .minus '2' isDigit_two) furtherNumbers
        (fun c hc => absurd hc List.not_mem_nil) (stops_of_head _ _ rfl (by decide) (by decide))
        hfurther
    exact @Numbers.cons [' '] "-2 0 0 0 0 0".toList [] (digit .unsigned '1' isDigit_one) _
      blank_space (stops_of_head _ _ rfl (by decide) (by decide)) hsecond
  · exact fun c hc => absurd hc List.not_mem_nil

/-- A number of one digit is in range. -/
theorem digit_inRange (sign : Sign) {c : Char} (h : c.isDigit = true) :
    ∃ x, (digit sign c h).nearest = .finite x ∧ |x.value| ≤ 1000000 := by
  have hvalue : value [c] < 10 ^ 1 := value_lt (digit sign c h).whole_isDigit
  have hcast : (value [c] : ℚ) ≤ 10 := by exact_mod_cast hvalue.le
  have hmagnitude : (digit sign c h).magnitude = value [c] := by
    change (value [c] : ℚ) * 10 ^ (0 : Int) = value [c]
    rw [zpow_zero, mul_one]
  apply nearest_of_le
  rw [hmagnitude]
  linarith

theorem unseparated_inRange : unseparated.InRange := by
  intro n hn
  rcases List.mem_cons.mp hn with rfl | hn
  · exact digit_inRange _ _
  · rcases List.mem_cons.mp hn with rfl | hn
    · exact digit_inRange _ _
    · rw [List.eq_of_mem_replicate hn]
      exact digit_inRange _ _

theorem not_separated : ¬ Separated unseparatedText := by
  rintro ⟨state, numbers, route, hfields, hlength, -, -⟩
  have hcount : (fieldsFrom [] unseparatedText).length = 7 := by decide
  rw [hfields, List.length_cons, List.length_append, List.length_map, hlength] at hcount
  omega

/-- The host accepts a report whose fields are not separated. -/
theorem unseparated_report_accepted : ∃ (room : Room) (client : ControlClient) (response : Response),
    IsMember room client ∧ responseFor {} (some room) ['p'] 0 client
      ("CLIENT_STATE ".toList ++ unseparatedText) = .ok response ∧
    response.text = "OK\n".toList ∧ ¬ Separated unseparatedText := by
  obtain ⟨room, client, hmember⟩ := HealthReport.exists_isMember
  obtain ⟨hjoined, member, hlookup, hname, htoken⟩ := hmember
  obtain ⟨updated, hcarries⟩ := unseparated.exists_carries member
  have hread := readClientState_iff.mpr ⟨unseparated, unseparated_spells, unseparated_inRange, hcarries⟩
  have hanswer := clientStateResponse_member hjoined hlookup hname htoken unseparatedText
  rw [hread] at hanswer
  refine ⟨room, client, _, ⟨hjoined, member, hlookup, hname, htoken⟩,
    HealthReport.responseFor_report {} room ['p'] 0 client unseparatedText, ?_, not_separated⟩
  rw [hanswer]

theorem clientState_grammar_unseparated : ∃ (room : Room) (client : ControlClient)
    (response : Response), responseFor {} (some room) ['p'] 0 client
      ("CLIENT_STATE ".toList ++ unseparatedText) = .ok response ∧
    response.text = "OK\n".toList := by
  obtain ⟨room, client, hmember⟩ := HealthReport.exists_isMember
  obtain ⟨response, next, hresponse, -, -, haccepted, -⟩ :=
    clientState_grammar hmember {} ['p'] 0 ("CLIENT_STATE ".toList ++ unseparatedText) rfl
  exact ⟨room, client, response, hresponse,
    haccepted.mpr ⟨unseparated, unseparated_spells, unseparated_inRange⟩⟩

end Examples

end SyncAudio.ReportGrammar
