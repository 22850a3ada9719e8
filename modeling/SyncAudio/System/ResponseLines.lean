import SyncAudio.Lib.FixedPoint
import SyncAudio.System.RoomRecords

/-!
# The lines of the answers

Every answer of the host is a sequence of printable lines of at most 256 characters, and
its command alone decides how many. The texts and numbers in the answers come from many
connections, but none of them brings a line feed or outgrows its field, so both clients
read the answers within the limits of their buffers.

## Implementation notes

An answer is taken at any state of the fine-grained runs of the connections, with any
locals of its connection. The host state that it prints may differ from the one of the
run, since other threads move its frame and its stream.
-/

namespace SyncAudio

open Text FloatText ControlServer LabelledRun HostControlChannel JoinRoundTrip

/-- A line within the bound of the control channel. -/
structure BoundedLine (line : Text) : Prop where
  printable : RoomJoinClient.Printable line
  length_le : line.length ≤ 256

/-- Lines with a line feed behind each. -/
def terminated (lines : List Text) : Text := lines.flatMap fun line => line ++ ['\n']

/-- The text is a number of bounded lines. -/
def IsLines (count : Nat) (text : Text) : Prop :=
  ∃ lines : List Text, lines.length = count ∧ text = terminated lines ∧
    ∀ line ∈ lines, BoundedLine line

section Lines

variable {lines others words : List Text} {line text more : Text} {m n : Nat}

theorem terminated_cons (line : Text) (lines : List Text) :
    terminated (line :: lines) = line ++ '\n' :: terminated lines := by
  unfold terminated
  rw [List.flatMap_cons, List.append_assoc, List.singleton_append]

theorem terminated_append (lines others : List Text) :
    terminated (lines ++ others) = terminated lines ++ terminated others :=
  List.flatMap_append

theorem IsLines.append (h : IsLines m text) (hmore : IsLines n more) :
    IsLines (m + n) (text ++ more) := by
  obtain ⟨lines, rfl, rfl, hlines⟩ := h
  obtain ⟨others, rfl, rfl, hothers⟩ := hmore
  refine ⟨lines ++ others, List.length_append, (terminated_append _ _).symm, ?_⟩
  intro line hline
  obtain hfirst | hsecond := List.mem_append.mp hline
  · exact hlines line hfirst
  · exact hothers line hsecond

theorem BoundedLine.isLines (h : BoundedLine line) : IsLines 1 (line ++ ['\n']) := by
  refine ⟨[line], rfl, (terminated_cons line []).symm, ?_⟩
  intro other hother
  rw [List.mem_singleton.mp hother]
  exact h

/-- A check of a fixed text. -/
theorem isLines_of_all
    (h : (text.getLast? = some '\n' && decide (text.length ≤ 257) &&
      text.dropLast.all fun c => 32 ≤ c.toNat && c.toNat < 127) = true) : IsLines 1 text := by
  simp only [Bool.and_eq_true, decide_eq_true_eq] at h
  obtain ⟨⟨hlast, hlength⟩, hall⟩ := h
  obtain ⟨line, rfl⟩ := List.getLast?_eq_some_iff.mp hlast
  rw [List.dropLast_concat] at hall
  rw [List.length_append, List.length_singleton] at hlength
  apply BoundedLine.isLines
  constructor
  · intro c hc
    simpa using List.all_eq_true.mp hall c hc
  · exact Nat.le_of_succ_le_succ hlength

theorem boundedLine_joinWords (hwords : ∀ word ∈ words, IsGraphic word)
    (hlength : (words.map fun word => word.length + 1).sum ≤ 256) :
    BoundedLine (joinWords words) where
  printable := printable_joinWords hwords
  length_le := (joinWords_length words).trans hlength

end Lines

section Members

variable {member : RoomMember} {word : Text}

/-- The words of a line on a member. -/
def memberWords (member : RoomMember) : List Text :=
  ["MEMBER".toList, member.deviceId, connectionName member.connectionState,
    toStringFixed member.roundTripMs, toStringFixed member.packetLossPercent,
    toStringFixed member.bufferDepthMs, toStringFixed member.outputLatencyMs, member.outputRoute]

theorem memberLine_eq (member : RoomMember) :
    memberLine member = joinWords (memberWords member) ++ ['\n'] := by
  have hfirst : "MEMBER ".toList = "MEMBER".toList ++ [' '] := by simp
  unfold memberLine memberWords
  rw [hfirst]
  generalize "MEMBER".toList = first
  simp only [joinWords, List.append_assoc, List.cons_append, List.nil_append]

theorem membersResponse_eq (room : Room) :
    membersResponse room = terminated
      (room.members.entries.map (fun entry => joinWords (memberWords entry.2)) ++
        ["END".toList]) := by
  have hend : terminated ["END".toList] = "END\n".toList := rfl
  unfold membersResponse
  rw [terminated_append, hend]
  congr 1
  unfold terminated
  rw [List.flatMap_map]
  simp only [memberLine_eq]

/-- Letters, digits and two marks are visible. -/
theorem visible_of_identifier {c : Char} (h : isAlnum c = true ∨ c = '-' ∨ c = '_') :
    33 ≤ c.toNat ∧ c.toNat < 127 := by
  rcases h with halnum | rfl | rfl
  · exact visible_of_isAlnum halnum
  · decide
  · decide

theorem validDeviceId_shape (h : validDeviceId word = true) :
    IsGraphic word ∧ word.length ≤ 64 := by
  obtain ⟨hne, hlength, hall⟩ := of_decide_eq_true h
  refine ⟨⟨hne, fun c hc => visible_of_identifier ?_⟩, hlength⟩
  simpa [or_assoc] using List.all_eq_true.mp hall c hc

theorem validRoute_shape (h : validRoute word = true) : IsGraphic word ∧ word.length ≤ 32 := by
  obtain ⟨hne, hlength, hall⟩ := of_decide_eq_true h
  refine ⟨⟨hne, fun c hc => visible_of_identifier ?_⟩, hlength⟩
  have hclass : (isAlnum c = true ∨ c = '_') ∨ c = '-' := by
    simpa using List.all_eq_true.mp hall c hc
  tauto

theorem isGraphic_connectionName (state : RoomConnectionState) :
    IsGraphic (connectionName state) ∧ (connectionName state).length ≤ 12 := by
  cases state
  all_goals
    exact ⟨isGraphic_of_all rfl, of_decide_eq_true rfl⟩

theorem acceptedMetric_finite {value : Binary64} (h : acceptedMetric value = true) :
    ∃ x, value = .finite x ∧ x.magnitude ≤ 1000000 := by
  cases value with
  | finite x => exact ⟨x, rfl, of_decide_eq_true h⟩
  | infinite negative => cases h
  | nan => cases h

theorem acceptedMetric_shape {value : Binary64} (h : acceptedMetric value = true) :
    IsGraphic (toStringFixed value) ∧ (toStringFixed value).length ≤ 15 := by
  obtain ⟨x, rfl, hx⟩ := acceptedMetric_finite h
  exact toStringFixed_shape hx

/-- The four numbers that are printed. -/
theorem RoomMember.Sound.printed (h : member.Sound) :
    acceptedMetric member.roundTripMs = true ∧ acceptedMetric member.packetLossPercent = true ∧
      acceptedMetric member.bufferDepthMs = true ∧ acceptedMetric member.outputLatencyMs = true := by
  have hall := h.metrics
  simp only [RoomMember.metrics, ClientMetrics.toList, List.all_cons, List.all_nil,
    Bool.and_eq_true] at hall
  obtain ⟨hround, -, hloss, hbuffer, -, hlatency, -⟩ := hall
  exact ⟨hround, hloss, hbuffer, hlatency⟩

/-- The words of a member, with the length of each. -/
theorem RoomMember.Sound.words (h : member.Sound) :
    (∀ word ∈ memberWords member, IsGraphic word) ∧
      ((memberWords member).map fun word => word.length + 1).sum ≤ 182 := by
  obtain ⟨hround, hloss, hbuffer, hlatency⟩ := h.printed
  have hid := validDeviceId_shape h.deviceId
  have hname := isGraphic_connectionName member.connectionState
  have hfirst := acceptedMetric_shape hround
  have hsecond := acceptedMetric_shape hloss
  have hthird := acceptedMetric_shape hbuffer
  have hfourth := acceptedMetric_shape hlatency
  have hroute := validRoute_shape h.outputRoute
  have hkeyword : "MEMBER".toList.length = 6 := by simp
  constructor
  · intro word hword
    simp only [memberWords, List.mem_cons, List.not_mem_nil, or_false] at hword
    rcases hword with rfl | rfl | rfl | rfl | rfl | rfl | rfl | rfl
    · exact isGraphic_of_all (by simp)
    · exact hid.1
    · exact hname.1
    · exact hfirst.1
    · exact hsecond.1
    · exact hthird.1
    · exact hfourth.1
    · exact hroute.1
  · simp only [memberWords, List.map_cons, List.map_nil, List.sum_cons, List.sum_nil, hkeyword]
    omega

theorem RoomMember.Sound.line (h : member.Sound) : BoundedLine (joinWords (memberWords member)) :=
  boundedLine_joinWords h.words.1 (h.words.2.trans (by decide))

theorem Room.Sound.entry {identity : RoomState} {room : Room} (h : room.Sound identity)
    {entry : Sigma fun _ : Text => RoomMember} (hentry : entry ∈ room.members.entries) :
    entry.2.Sound :=
  h.records entry.1 entry.2 (AList.mem_lookup_iff.mpr hentry)

/-- One line for each member and the last. -/
theorem membersResponse_lines {identity : RoomState} {room : Room} (h : room.Sound identity) :
    IsLines (room.members.entries.length + 1) (membersResponse room) := by
  refine ⟨_, ?_, membersResponse_eq room, ?_⟩
  · rw [List.length_append, List.length_map, List.length_singleton]
  · intro line hline
    obtain hmember | hend := List.mem_append.mp hline
    · obtain ⟨entry, hentry, rfl⟩ := List.mem_map.mp hmember
      exact (h.entry hentry).line
    · rw [List.mem_singleton.mp hend]
      have hwords : ∀ word ∈ ["END".toList], IsGraphic word := by
        intro word hword
        rw [List.mem_singleton.mp hword]
        exact isGraphic_of_all (by simp)
      exact boundedLine_joinWords hwords (by simp)

end Members

section Answers

variable {control : ControlStreamState} {identity : RoomState} {room next : Room}
  {peerAddress line deviceId text : Text} {now : Int} {client : ControlClient}
  {response : Response} {a b c d : UInt8}

/-- The number of lines that answer a line. -/
def lineCount (room : Room) (peerAddress line : Text) : Nat :=
  if "JOIN ".toList.isPrefixOf line ∧ validDeviceId (line.drop 5) = true then 4
  else if line = "MEMBERS".toList ∧ peerAddress = "127.0.0.1".toList then
    room.members.entries.length + 1
  else 1

theorem Room.Sound.titled (h : room.Sound identity) (htitled : Titled identity) :
    Titled room.state where
  roomId_length := h.roomId ▸ htitled.roomId_length
  roomId_alnum := h.roomId ▸ htitled.roomId_alnum
  roomName_length := h.roomName ▸ htitled.roomName_length
  roomName_printable := h.roomName ▸ htitled.roomName_printable

theorem hostStateLine_lines (h : Installed room.state) :
    IsLines 1 (hostStateLine control (some room)) := by
  rw [hostStateLine_eq]
  apply BoundedLine.isLines
  constructor
  · exact printable_joinWords fun word hword => isGraphic_lineFields hword
  · exact (stateLine_length h).trans (by decide)

/-- The answer to a JOIN that succeeds is its four lines. -/
theorem joinResponse_text (hdevice : validDeviceId deviceId = true)
    (h : joinResponse control (some room) peerAddress now client deviceId = .ok response) :
    response.text = answerText control room now := by
  have hcomplete : peerAddress ≠ [] ∧ control.audioPort ≠ 0 := by
    by_contra hmissing
    have hincomplete : deviceId = [] ∨ peerAddress = [] ∨ control.audioPort = 0 := by tauto
    unfold joinResponse at h
    rw [hdevice, if_neg (by decide)] at h
    dsimp only at h
    unfold Room.join at h
    rw [if_pos hincomplete] at h
    cases h
  obtain ⟨expected, hexpected, htext⟩ := @responseFor_join control room now peerAddress deviceId
    client hdevice hcomplete.1 hcomplete.2
  have hsame : expected = response := Except.ok.inj (hexpected.symm.trans h)
  rw [← hsame]
  exact htext

theorem answerText_lines (htitled : Titled room.state) (hinstalled : Installed room.state)
    (hhost : control.hostAddress = dotted a b c d) (hlow : -2 ^ 63 ≤ now)
    (hbound : now + 500000000 < 2 ^ 63) : IsLines 4 (answerText control room now) := by
  refine ⟨[joinWords (welcomeWords control), roomLine room, syncLine now, stateLine control room],
    rfl, ?_, ?_⟩
  · simp only [terminated_cons]
    rfl
  · intro line hline
    simp only [List.mem_cons, List.not_mem_nil, or_false] at hline
    rcases hline with rfl | rfl | rfl | rfl
    · constructor
      · exact printable_joinWords fun word hword => isGraphic_welcomeWords hhost hword
      · exact (welcome_length hhost).trans (by decide)
    · have hshape := roomLine_shape htitled
      exact ⟨hshape.1, hshape.2.trans (by decide)⟩
    · have hshape := syncLine_shape hlow hbound
      exact ⟨hshape.1, hshape.2.trans (by decide)⟩
    · constructor
      · exact printable_joinWords fun word hword => isGraphic_lineFields hword
      · exact (stateLine_length hinstalled).trans (by decide)

theorem joinResponse_lines (htitled : Titled room.state) (hinstalled : Installed room.state)
    (hhost : control.hostAddress = dotted a b c d) (hlow : -2 ^ 63 ≤ now)
    (hbound : now + 500000000 < 2 ^ 63)
    (h : joinResponse control (some room) peerAddress now client deviceId = .ok response) :
    IsLines (if validDeviceId deviceId = true then 4 else 1) response.text := by
  by_cases hdevice : validDeviceId deviceId = true
  · rw [if_pos hdevice, joinResponse_text hdevice h]
    exact answerText_lines htitled hinstalled hhost hlow hbound
  · rw [if_neg hdevice]
    unfold joinResponse at h
    rw [Bool.eq_false_iff.mpr hdevice, Bool.not_false, if_pos rfl] at h
    cases h
    exact isLines_of_all rfl

theorem isLines_of_fixed (h : text ∈ fixedAnswers) : IsLines 1 text := by
  have hall : (fixedAnswers.all fun text => text.getLast? = some '\n' && decide (text.length ≤ 257) &&
      text.dropLast.all fun c => 32 ≤ c.toNat && c.toNat < 127) = true := by decide +kernel
  exact isLines_of_all (List.all_eq_true.mp hall text h)

/-- The words of the answer to an accepted command. -/
def scheduledWords (command : RoomCommand) (effective : Int) : List Text :=
  ["SCHEDULED".toList, actionName command.action, ofInt effective, ofNat command.seekFrame.toNat]

theorem scheduledLine_eq (command : RoomCommand) (effective : Int) :
    scheduledLine command effective = joinWords (scheduledWords command effective) ++ ['\n'] := by
  have hfirst : "SCHEDULED ".toList = "SCHEDULED".toList ++ [' '] := by simp
  unfold scheduledLine scheduledWords
  rw [hfirst]
  generalize "SCHEDULED".toList = first
  simp only [joinWords, List.append_assoc, List.cons_append, List.nil_append]

theorem scheduled_line (command : RoomCommand) {effective : Int} (hlow : -2 ^ 63 ≤ effective)
    (hhigh : effective < 2 ^ 63) : BoundedLine (joinWords (scheduledWords command effective)) := by
  have hname := isGraphic_actionName command.action
  have htime := ofInt64_length hlow hhigh
  have hframe := ofNat64_length command.seekFrame
  have hkeyword : "SCHEDULED".toList.length = 9 := by simp
  apply boundedLine_joinWords
  · intro word hword
    simp only [scheduledWords, List.mem_cons, List.not_mem_nil, or_false] at hword
    rcases hword with rfl | rfl | rfl | rfl
    · exact isGraphic_of_all (by simp)
    · exact hname.1
    · exact isGraphic_ofInt effective
    · exact isGraphic_ofNat _
  · simp only [scheduledWords, List.map_cons, List.map_nil, List.sum_cons, List.sum_nil, hkeyword]
    omega

theorem commandAnswer_lines {answer : Text × Option Room} (hlow : -2 ^ 63 ≤ now)
    (hbound : effectiveTime now < 2 ^ 63)
    (h : commandAnswer control (some room) peerAddress now line = .ok answer) :
    IsLines 1 answer.1 := by
  obtain hfixed | ⟨command, hscheduled⟩ := commandAnswer_text h
  · exact isLines_of_fixed hfixed
  · have heffective : -2 ^ 63 ≤ effectiveTime now := by
      unfold effectiveTime
      omega
    rw [hscheduled, scheduledLine_eq]
    exact (scheduled_line command heffective hbound).isLines

/-- Every answer on a room whose data have passed their checks. -/
theorem responseFor_lines (htitled : Titled identity) (hroom : room.Sound identity)
    (hhost : control.hostAddress = dotted a b c d) (hreading : Membership.ClockReading now)
    (h : responseFor control (some room) peerAddress now client line = .ok response) :
    IsLines (lineCount room peerAddress line) response.text := by
  have hbound : now + 500000000 < 2 ^ 63 := by
    have hlater := hreading.2
    unfold effectiveTime at hlater
    omega
  have hanswer {count : Nat} {text : Text} {answered : Option Room} {client : ControlClient}
      (htext : IsLines count text)
      (heq : (.ok { text, room := answered, client } : Except String Response) = .ok response) :
      IsLines count response.text := by
    cases heq
    exact htext
  by_cases hjoin : "JOIN ".toList.isPrefixOf line = true
  · obtain ⟨deviceId, rfl⟩ := List.isPrefixOf_iff_prefix.mp hjoin
    have hresponse : joinResponse control (some room) peerAddress now client deviceId =
        .ok response := h
    have hcount : lineCount room peerAddress ("JOIN ".toList ++ deviceId) =
        if validDeviceId deviceId = true then 4 else 1 := by
      have hdrop : ("JOIN ".toList ++ deviceId).drop 5 = deviceId := rfl
      have hother : ¬ ("JOIN ".toList ++ deviceId = "MEMBERS".toList ∧
          peerAddress = "127.0.0.1".toList) := fun hboth => absurd hboth.1 (by simp)
      unfold lineCount
      rw [hjoin, hdrop, if_neg hother]
      simp only [true_and]
    rw [hcount]
    exact joinResponse_lines (hroom.titled htitled) hroom.installed hhost hreading.1 hbound
      hresponse
  by_cases hmembers : line = "MEMBERS".toList
  · rw [hmembers] at h ⊢
    have hresponse : (.ok ⟨membersAnswer (some room) peerAddress, some room, client⟩ :
        Except String Response) = .ok response := h
    refine hanswer ?_ hresponse
    unfold lineCount membersAnswer
    rw [if_neg (fun hjoin => absurd hjoin.1 (by simp))]
    dsimp only
    by_cases hpeer : peerAddress = "127.0.0.1".toList
    · rw [if_pos ⟨rfl, hpeer⟩, if_pos hpeer]
      exact membersResponse_lines hroom
    · rw [if_neg fun hboth => hpeer hboth.2, if_neg hpeer]
      exact isLines_of_all rfl
  have hcount : lineCount room peerAddress line = 1 := by
    unfold lineCount
    rw [if_neg fun hboth => hjoin hboth.1, if_neg fun hboth => hmembers hboth.1]
  rw [hcount]
  unfold responseFor at h
  rw [if_neg hjoin, if_neg hmembers] at h
  split_ifs at h
  · exact hanswer (isLines_of_all rfl) h
  · exact hanswer (isLines_of_all rfl) h
  · exact hanswer (hostStateLine_lines hroom.installed) h
  · exact hanswer (isLines_of_fixed (clientStateResponse_fixed room client (line.drop 13))) h
  · exact hanswer (isLines_of_all rfl) h
  · cases hcommand : commandAnswer control (some room) peerAddress now line with
    | error message =>
        rw [hcommand] at h
        cases h
    | ok answer =>
        rw [hcommand] at h
        exact hanswer (commandAnswer_lines hreading.1 hreading.2 hcommand) h
  · exact hanswer (isLines_of_all rfl) h

end Answers

section Readers

variable {Address : Type} {ipv4Address : Text → Option Address} {session : Session Address}
  {lines chunks : List Text} {received tail text data : Text}

/-- Some calls of `readLine` in a row. -/
def readLines : Nat → Text → Except String (List Text × Text)
  | 0, received => .ok ([], received)
  | count + 1, received => do
      let (line, received) ← RoomJoinClient.readLine received
      let (lines, received) ← readLines count received
      pure (line :: lines, received)

/-- The desktop client reads bounded lines within its limit. -/
theorem readLines_terminated (hlines : ∀ line ∈ lines, BoundedLine line) (rest : Text) :
    readLines lines.length (terminated lines ++ rest) = .ok (lines, rest) := by
  induction lines with
  | nil => rfl
  | cons line lines ih =>
      have hline := hlines line List.mem_cons_self
      have hrest := ih fun other hother => hlines other (List.mem_cons_of_mem _ hother)
      have hlength : line.length < 512 := Nat.lt_of_le_of_lt hline.length_le (by decide)
      rw [terminated_cons, List.append_assoc, List.cons_append, List.length_cons, readLines,
        RoomJoinClient.readLine_line hline.printable hlength]
      simp only [bind, Except.bind, hrest]
      rfl

/-- What is left of the beginning of some lines is the beginning of one of them. -/
theorem cutLines_prefix (hlines : ∀ line ∈ lines, BoundedLine line)
    (htext : received ++ tail = terminated lines) : (cutLines [] received).2.length ≤ 256 := by
  induction lines generalizing received with
  | nil =>
      rw [List.append_eq_nil_iff.mp htext |>.1]
      exact Nat.zero_le _
  | cons line lines ih =>
      have hline := hlines line List.mem_cons_self
      have hfeed := noFeed_of_printable hline.printable
      rw [terminated_cons] at htext
      obtain ⟨more, hmore, -⟩ | ⟨more, hmore, hrest⟩ := List.append_eq_append_iff.mp htext
      · -- The line is not complete yet.
        have hpart : ∀ c ∈ received, c ≠ '\n' := fun c hc =>
          hfeed c (hmore ▸ List.mem_append_left _ hc)
        have hcut := cutLines_word hpart [] []
        rw [List.append_nil, List.nil_append, cutLines] at hcut
        have hlength := hline.length_le
        rw [hmore, List.length_append] at hlength
        rw [hcut]
        exact (Nat.le_add_right _ _).trans hlength
      · cases more with
        | nil =>
            have hcut := cutLines_word hfeed [] []
            rw [List.append_nil, List.nil_append, cutLines] at hcut
            rw [hmore, List.append_nil, hcut]
            exact hline.length_le
        | cons c more =>
            obtain ⟨rfl, hsame⟩ := List.cons.inj hrest
            rw [hmore, cutLines_line hfeed]
            exact ih (fun other hother => hlines other (List.mem_cons_of_mem _ hother)) hsame.symm

/-- The phone keeps the line that is not complete, as long as the connection lasts. -/
structure Buffered (received : Text) (connection : HostControlChannel.Connection Address) :
    Prop where
  lost : connection.session.lost = true → connection.input = []
  kept : connection.session.lost = false → connection.input = (cutLines [] received).2

theorem Buffered.length_le {connection : HostControlChannel.Connection Address}
    (h : Buffered received connection) (hlines : ∀ line ∈ lines, BoundedLine line)
    (htext : received ++ tail = terminated lines) : connection.input.length ≤ 256 := by
  cases hlost : connection.session.lost with
  | true =>
      rw [h.lost hlost]
      exact Nat.zero_le _
  | false =>
      rw [h.kept hlost]
      exact cutLines_prefix hlines htext

/-- Data within the limit. -/
theorem Buffered.receive {connection : HostControlChannel.Connection Address}
    (h : Buffered received connection) (hlimit : (connection.input ++ data).length ≤ 1024) :
    Buffered (received ++ data) (receive ipv4Address connection data) := by
  unfold HostControlChannel.receive
  dsimp only
  by_cases hlost : connection.session.lost = true
  · rw [if_pos hlost]
    exact ⟨h.lost, fun hopen => absurd (hlost.symm.trans hopen) nofun⟩
  · have hfeed := cutLines_rest (fun _ h => absurd h List.not_mem_nil) received
    rw [if_neg hlost, if_neg (Nat.not_lt.mpr hlimit), h.kept (Bool.eq_false_iff.mpr hlost),
      cutLines_word hfeed, List.nil_append]
    constructor
    · intro hover
      exact if_pos hover
    · intro hopen
      rw [cutLines_append]
      exact if_neg (by rw [hopen]; exact Bool.false_ne_true)

/-- Whatever pieces of at most 512 bytes the lines arrive in, the phone stays within
its limit. -/
theorem receive_within (hlines : ∀ line ∈ lines, BoundedLine line)
    (hchunks : ∀ chunk ∈ chunks, chunk.length ≤ 512) (hdata : data.length ≤ 512)
    (htext : chunks.flatten ++ data ++ tail = terminated lines) :
    ((chunks.foldl (receive ipv4Address) { session }).input ++ data).length ≤ 1024 := by
  have hbuffered : Buffered chunks.flatten (chunks.foldl (receive ipv4Address) { session }) := by
    induction chunks using List.reverseRecOn generalizing data tail with
    | nil => exact ⟨fun _ => rfl, fun _ => rfl⟩
    | append_singleton chunks chunk ih =>
        rw [List.flatten_append, List.flatten_singleton] at htext ⊢
        have hchunk : chunk.length ≤ 512 := hchunks chunk (by simp)
        have hbefore : chunks.flatten ++ chunk ++ (data ++ tail) = terminated lines := by
          rw [← htext]
          simp only [List.append_assoc]
        have hheld := ih (fun other hother => hchunks other (List.mem_append_left _ hother)) hchunk
          hbefore
        have hlength := hheld.length_le hlines (by rw [← List.append_assoc]; exact hbefore)
        rw [List.foldl_append, List.foldl_cons, List.foldl_nil]
        apply hheld.receive
        rw [List.length_append]
        omega
  have hlength := hbuffered.length_le hlines (by rw [← List.append_assoc]; exact htext)
  rw [List.length_append]
  omega

end Readers

section Server

/-- What `responseFor` returns for a line, at some moment of some run of a server that
starts with a new room. -/
structure Answer (room : Room) where
  host : ControlStreamState
  events : List Membership.Event
  moment : Membership
  reached : run (Membership.clockedStep host) { room } events = some moment
  control : ControlStreamState
  octets : UInt8 × UInt8 × UInt8 × UInt8
  hostAddress : control.hostAddress = dotted octets.1 octets.2.1 octets.2.2.1 octets.2.2.2
  peerAddress : Text
  client : ControlClient
  line : Text
  now : Int
  reading : Membership.ClockReading now
  response : Response
  responded : responseFor control (some moment.room) peerAddress now client line = .ok response

/-- The number of lines that the line asks for. -/
def Answer.count {room : Room} (answer : Answer room) : Nat :=
  lineCount answer.moment.room answer.peerAddress answer.line

variable {roomId roomName hostDeviceId : Text} {sessionId : UInt64} {streamId : UInt32}
  {room : Room}

theorem titled_make (hmake : Room.make roomId roomName hostDeviceId sessionId streamId = .ok room)
    (hlength : roomId.length = 32) (hdigits : ∀ c ∈ roomId, isAlnum c = true) :
    Titled room.state := by
  unfold Room.make at hmake
  split_ifs at hmake with _ hname
  cases hmake
  simp only [not_or, not_lt, not_not, List.all_eq_true, decide_eq_true_eq] at hname
  exact ⟨hlength, hdigits, hname.1, hname.2⟩

/-- Some lines behind each other, for the answers to some lines. -/
theorem answers_lines (hone : ∀ answer : Answer room, IsLines answer.count answer.response.text)
    (answers : List (Answer room)) :
    IsLines (answers.map Answer.count).sum
      (answers.flatMap fun answer => answer.response.text) := by
  induction answers with
  | nil => exact ⟨[], rfl, rfl, fun _ h => absurd h List.not_mem_nil⟩
  | cons answer answers ih =>
      rw [List.map_cons, List.sum_cons, List.flatMap_cons]
      exact (hone answer).append ih

/-- Every answer of a server whose room has been built by its constructor, with an
identifier of 32 digits or letters, is a number of bounded lines, at least one and as many
as its line asks for. Both clients read any sequence of answers within their limits. -/
theorem answers_wellFormed
    (hmake : Room.make roomId roomName hostDeviceId sessionId streamId = .ok room)
    (hlength : roomId.length = 32) (hdigits : ∀ c ∈ roomId, isAlnum c = true) :
    (∀ answer : Answer room, 0 < answer.count ∧ IsLines answer.count answer.response.text) ∧
      ∀ answers : List (Answer room), ∃ lines : List Text,
        (answers.flatMap fun answer => answer.response.text) = terminated lines ∧
          (∀ rest, readLines lines.length (terminated lines ++ rest) = .ok (lines, rest)) ∧
          ∀ {Address : Type} (ipv4Address : Text → Option Address) (session : Session Address)
            (chunks : List Text) (data tail : Text), (∀ chunk ∈ chunks, chunk.length ≤ 512) →
              data.length ≤ 512 → chunks.flatten ++ data ++ tail = terminated lines →
              ((chunks.foldl (receive ipv4Address) { session }).input ++ data).length ≤ 1024 := by
  have htitled := titled_make hmake hlength hdigits
  have hone (answer : Answer room) : IsLines answer.count answer.response.text :=
    responseFor_lines htitled (Membership.run_sound hmake answer.reached).room answer.hostAddress
      answer.reading answer.responded
  constructor
  · intro answer
    refine ⟨?_, hone answer⟩
    unfold Answer.count lineCount
    split_ifs <;> omega
  · intro answers
    obtain ⟨lines, -, htext, hlines⟩ := answers_lines hone answers
    refine ⟨lines, htext, fun rest => readLines_terminated hlines rest, ?_⟩
    intro Address ipv4Address session chunks data tail hchunks hdata hsplit
    exact receive_within hlines hchunks hdata hsplit

/-- A room as its constructor leaves it. -/
def newRoom : Room where
  state := {
    roomId := List.replicate 32 'a'
    roomName := "Living Room".toList
    hostDeviceId := "tandem".toList
    sessionId := 42
    streamId := 1
    sessionId_ne := livingSession_ne
    streamId_ne := firstStreamId_ne
    pending_valid := valid_of_empty }

/-- Its host. -/
def newHost : ControlStreamState where
  sessionId := 42
  hostAddress := dotted 192 168 1 10
  sampleRate := 48000
  channels := 2

/-- The desktop shell and a phone connect and join. -/
def twoJoins : List Membership.Event :=
  [.accept Membership.loopback, .accept ⟨"192.168.1.20".toList, by decide⟩] ++
    Membership.sendLine 0 "JOIN shell" ++ Membership.sendLine 1 "JOIN phone"

/-- The first device of a new room gets four lines, and the shell of a room with two members gets
a line for each of them and a last one. -/
theorem answers_wellFormed_newRoom : IsLines 4 (answerText newHost newRoom 1000) ∧
    ∃ moment, run (Membership.clockedStep newHost) { room := newRoom } twoJoins = some moment ∧
      moment.room.members.entries.length = 2 ∧
      IsLines 3 (membersAnswer (some moment.room) "127.0.0.1".toList) := by
  have hmake : Room.make (List.replicate 32 'a') "Living Room".toList "tandem".toList 42 1 =
      .ok newRoom := rfl
  have hall : (List.replicate 32 'a').all isAlnum = true := rfl
  constructor
  · obtain ⟨response, hresponse, htext⟩ := @responseFor_join newHost newRoom 1000
      "192.168.1.20".toList "phone".toList {} rfl (by decide) (by decide)
    have hanswer := (answers_wellFormed hmake rfl (List.all_eq_true.mp hall)).1 {
      host := newHost
      events := []
      moment := { room := newRoom }
      reached := rfl
      control := newHost
      octets := (192, 168, 1, 10)
      hostAddress := rfl
      peerAddress := "192.168.1.20".toList
      client := {}
      line := "JOIN ".toList ++ "phone".toList
      now := 1000
      reading := by decide
      response := response
      responded := hresponse }
    rw [← htext]
    exact hanswer.2
  · have hheld : (run (Membership.clockedStep newHost) { room := newRoom } twoJoins).any
        fun moment => moment.room.members.entries.length = 2 := by
      decide +kernel
    obtain ⟨moment, hmoment, hheld⟩ := (Option.any_eq_true _ _).mp hheld
    have hmembers : moment.room.members.entries.length = 2 := of_decide_eq_true hheld
    have hanswer := (answers_wellFormed hmake rfl (List.all_eq_true.mp hall)).1 {
      host := newHost
      events := twoJoins
      moment := moment
      reached := hmoment
      control := newHost
      octets := (192, 168, 1, 10)
      hostAddress := rfl
      peerAddress := "127.0.0.1".toList
      client := {}
      line := "MEMBERS".toList
      now := 1000
      reading := by decide
      response := ⟨membersAnswer (some moment.room) "127.0.0.1".toList, some moment.room, {}⟩
      responded := rfl }
    refine ⟨moment, hmoment, hmembers, ?_⟩
    have hcount : lineCount moment.room "127.0.0.1".toList "MEMBERS".toList = 3 := by
      change moment.room.members.entries.length + 1 = 3
      rw [hmembers]
    rw [← hcount]
    exact hanswer.2

end Server

end SyncAudio
