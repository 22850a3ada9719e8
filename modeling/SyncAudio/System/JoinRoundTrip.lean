import SyncAudio.Desktop.RoomJoinClient
import SyncAudio.Ios.HostWelcome

/-!
# The answer to a JOIN, read by both clients

The host writes one text, which the desktop client takes apart with the extractions of
an input stream and the phone by splitting each line at its spaces. Both get back what
the host has put in, whatever the name of the room and the announced action are.

## Implementation notes

The answer names two streams: that of the `ControlStreamState` in the welcome and that
of the `Room` in the line on the state.
-/

namespace SyncAudio

open Text ControlServer HostControlChannel

section Installed

/-- An action that a line of a shell puts into the mailbox. Its time is a valid one of
the clock. -/
def Installable (action : ScheduledRoomAction) : Prop :=
  ∃ totalFrames snapshot peerAddress line command now,
    checkCommand totalFrames snapshot peerAddress line = .ok command ∧
      0 < effectiveTime now ∧ effectiveTime now < 2 ^ 63 ∧
      action = command.scheduled (effectiveTime now)

/-- The actions of a room have come in through `responseFor`. -/
def Installed (room : RoomState) : Prop :=
  (∀ action ∈ room.pendingAction, Installable action) ∧
    ∀ action ∈ room.recentAction, Installable action

variable {room next : Room} {action : ScheduledRoomAction}

theorem Installable.time (h : Installable action) :
    0 ≤ action.effectiveHostNanoseconds ∧ action.effectiveHostNanoseconds < 2 ^ 63 := by
  obtain ⟨_, _, _, _, command, now, -, hpositive, hbound, rfl⟩ := h
  exact ⟨le_of_lt hpositive, hbound⟩

theorem Installed.announcement (h : Installed room.state) :
    ∀ action ∈ announcement room.state, Installable action := by
  intro action haction
  obtain hpending | ⟨-, hrecent⟩ := Option.or_eq_some_iff.mp haction
  · exact h.1 action hpending
  · exact h.2 action hrecent

/-- A new room has no actions. -/
theorem Installed.make {roomId roomName hostDeviceId : Text} {sessionId : UInt64}
    {streamId : UInt32} (h : Room.make roomId roomName hostDeviceId sessionId streamId = .ok room) :
    Installed room.state := by
  unfold Room.make at h
  split_ifs at h
  cases h
  exact ⟨nofun, nofun⟩

/-- `takeAction` makes the pending action the most recent one. -/
theorem Installed.takeAction (h : Installed room.state) : Installed room.takeAction.2.state :=
  ⟨nofun, h.announcement⟩

/-- An accepted action is valid and fills an empty mailbox. Nothing else changes. -/
theorem scheduleAction_accepted (h : room.scheduleAction action = .ok (true, next)) :
    action.Valid ∧ room.state.pendingAction = none ∧ next.members = room.members ∧
      ∃ hvalid, next.state =
        { room.state with pendingAction := some action, pending_valid := hvalid } := by
  unfold Room.scheduleAction at h
  by_cases hvalid : action.Valid
  · rw [dif_pos hvalid] at h
    split_ifs at h with hpending
    · cases h
    · cases h
      exact ⟨hvalid, Option.not_isSome_iff_eq_none.mp hpending, rfl, _, rfl⟩
  · rw [dif_neg hvalid] at h
    cases h

/-- A refused action leaves the room as it is. -/
theorem scheduleAction_refused (h : room.scheduleAction action = .ok (false, next)) :
    next = room := by
  unfold Room.scheduleAction at h
  split_ifs at h <;> cases h
  rfl

theorem leave_state (room : Room) (deviceId : Text) (token : UInt64) :
    (room.leave deviceId token).state = room.state := by
  unfold Room.leave
  split_ifs <;> rfl

theorem join_state {deviceId ipv4Address : Text} {audioPort : UInt16} {token : UInt64}
    (h : room.join deviceId ipv4Address audioPort = .ok (token, next)) :
    next.state = room.state := by
  unfold Room.join at h
  split_ifs at h
  cases h
  rfl

/-- A JOIN concerns the members only. -/
theorem joinResponse_state {control : ControlStreamState} {peerAddress deviceId : Text} {now : Int}
    {client : ControlClient} {response : Response}
    (h : joinResponse control (some room) peerAddress now client deviceId = .ok response)
    (hnext : response.room = some next) : next.state = room.state := by
  unfold joinResponse at h
  by_cases hvalid : (!validDeviceId deviceId) = true
  · rw [if_pos hvalid] at h
    cases h
    exact congrArg Room.state (Option.some.inj hnext).symm
  · rw [if_neg hvalid] at h
    dsimp only at h
    cases hjoin : Room.join (if client.joinedDeviceId ≠ [] then
        room.leave client.joinedDeviceId client.membershipToken else room)
        deviceId peerAddress control.audioPort with
    | error message =>
        rw [hjoin] at h
        cases h
    | ok joined =>
        rw [hjoin] at h
        cases h
        obtain rfl := Option.some.inj hnext
        rw [join_state hjoin]
        split_ifs
        · exact leave_state room _ _
        · rfl

theorem clientStateResponse_state (room : Room) (client : ControlClient) (report : Text) :
    (clientStateResponse room client report).2.state = room.state := by
  unfold clientStateResponse
  split_ifs
  · rfl
  · split
    · rfl
    · split
      · rfl
      · unfold Room.updateMember
        split_ifs <;> rfl

/-- A command leaves the room as it is, or its action has been accepted. -/
theorem commandAnswer_room {control : ControlStreamState} {peerAddress line : Text} {now : Int}
    {answer : Text × Option Room}
    (h : commandAnswer control (some room) peerAddress now line = .ok answer) :
    answer.2 = some room ∨ ∃ command next,
      checkCommand control.totalFrames room.state peerAddress line = .ok command ∧
        room.scheduleAction (command.scheduled (effectiveTime now)) = .ok (true, next) ∧
        answer.2 = some next := by
  unfold ControlServer.commandAnswer commandResponse at h
  dsimp only at h
  cases hcheck : checkCommand control.totalFrames room.state peerAddress line with
  | error message =>
      rw [hcheck] at h
      cases h
      exact .inl rfl
  | ok command =>
      rw [hcheck] at h
      dsimp only at h
      unfold commitCommand at h
      cases hschedule : room.scheduleAction (command.scheduled (effectiveTime now)) with
      | error message =>
          rw [hschedule] at h
          cases h
      | ok result =>
          obtain ⟨accepted, next⟩ := result
          rw [hschedule] at h
          cases accepted with
          | true =>
              cases h
              exact .inr ⟨command, next, rfl, hschedule, rfl⟩
          | false =>
              cases h
              exact .inl (congrArg some (scheduleAction_refused hschedule))

/-- A line does not change the state of the room, unless it is a command whose
action has been accepted. -/
theorem responseFor_state {control : ControlStreamState} {peerAddress line : Text} {now : Int}
    {client : ControlClient} {response : Response}
    (h : responseFor control (some room) peerAddress now client line = .ok response)
    (hnext : response.room = some next) :
    next.state = room.state ∨ ∃ command,
      checkCommand control.totalFrames room.state peerAddress line = .ok command ∧
        room.scheduleAction (command.scheduled (effectiveTime now)) = .ok (true, next) := by
  have hanswer {text : Text} {answered : Room} {client : ControlClient}
      (hstate : answered.state = room.state)
      (heq : (.ok { text, room := some answered, client } : Except String Response) =
        .ok response) : next.state = room.state := by
    cases heq
    rw [← Option.some.inj hnext, hstate]
  unfold ControlServer.responseFor at h
  split_ifs at h
  · exact .inl (hanswer rfl h)
  · exact .inl (hanswer rfl h)
  · exact .inl (joinResponse_state h hnext)
  · exact .inl (hanswer rfl h)
  · exact .inl (hanswer rfl h)
  · exact .inl (hanswer (clientStateResponse_state room client _) h)
  · exact .inl (hanswer rfl h)
  · cases hcommand : ControlServer.commandAnswer control (some room) peerAddress now line with
    | error message =>
        rw [hcommand] at h
        cases h
    | ok answer =>
        rw [hcommand] at h
        cases h
        obtain hroom | ⟨command, accepted, hcheck, hschedule, hroom⟩ := commandAnswer_room hcommand
        · obtain rfl := Option.some.inj (hroom.symm.trans hnext)
          exact .inl rfl
        · obtain rfl := Option.some.inj (hroom.symm.trans hnext)
          exact .inr ⟨command, hcheck, hschedule⟩
  · exact .inl (hanswer rfl h)

/-- No line brings other actions into the room. -/
theorem Installed.responseFor {control : ControlStreamState} {peerAddress line : Text} {now : Int}
    {client : ControlClient} {response : Response} (h : Installed room.state)
    (hbound : effectiveTime now < 2 ^ 63)
    (hresponse : responseFor control (some room) peerAddress now client line = .ok response)
    (hnext : response.room = some next) : Installed next.state := by
  obtain hstate | ⟨command, hcheck, hschedule⟩ := responseFor_state hresponse hnext
  · rw [hstate]
    exact h
  · obtain ⟨hvalid, -, -, _, hstate⟩ := scheduleAction_accepted hschedule
    rw [hstate]
    refine ⟨?_, h.2⟩
    rintro action ⟨⟩
    exact ⟨_, _, _, _, command, now, hcheck, hvalid.1, hbound, rfl⟩

end Installed

namespace JoinRoundTrip

/-- A numeric IPv4 address. -/
def dotted (a b c d : UInt8) : Text :=
  ofNat a.toNat ++ '.' :: ofNat b.toNat ++ '.' :: ofNat c.toNat ++ '.' :: ofNat d.toNat

/-- The hosts and rooms that clients are made for. -/
structure Joinable (control : ControlStreamState) (room : Room) : Prop where
  sessionId_ne : control.sessionId ≠ 0
  streamId_ne : control.streamId ≠ 0
  audioPort_ne : control.audioPort ≠ 0
  clockPort_ne : control.clockPort ≠ 0
  sampleRate_mem : 8000 ≤ control.sampleRate.toNat ∧ control.sampleRate.toNat ≤ 192000
  channels_mem : 1 ≤ control.channels.toNat ∧ control.channels.toNat ≤ 2
  roomId_length : room.state.roomId.length = 32
  /-- Hexadecimal digits are among them. -/
  roomId_alnum : ∀ c ∈ room.state.roomId, isAlnum c = true
  roomName_ne : room.state.roomName ≠ []
  roomName_length : room.state.roomName.length ≤ 48
  roomName_printable : ∀ c ∈ room.state.roomName, 32 ≤ c.toNat ∧ c.toNat ≤ 126
  installed : Installed room.state

/-- The name and the identifier that a room is announced with. -/
structure Titled (room : RoomState) : Prop where
  roomId_length : room.roomId.length = 32
  roomId_alnum : ∀ c ∈ room.roomId, isAlnum c = true
  roomName_length : room.roomName.length ≤ 48
  roomName_printable : ∀ c ∈ room.roomName, 32 ≤ c.toNat ∧ c.toNat ≤ 126

theorem Joinable.titled {control : ControlStreamState} {room : Room} (h : Joinable control room) :
    Titled room.state where
  roomId_length := h.roomId_length
  roomId_alnum := h.roomId_alnum
  roomName_length := h.roomName_length
  roomName_printable := h.roomName_printable

section Words

variable {words : List Text}

theorem isGraphic_dotted (a b c d : UInt8) : IsGraphic (dotted a b c d) where
  ne_nil := List.append_ne_nil_of_right_ne_nil _ (List.cons_ne_nil _ _)
  visible := by
    intro character hcharacter
    simp only [dotted, List.mem_append, List.mem_cons, or_assoc] at hcharacter
    rcases hcharacter with h | rfl | h | rfl | h | rfl | h
    · exact (isGraphic_ofNat _).visible _ h
    · decide
    · exact (isGraphic_ofNat _).visible _ h
    · decide
    · exact (isGraphic_ofNat _).visible _ h
    · decide
    · exact (isGraphic_ofNat _).visible _ h

theorem printable_joinWords (h : ∀ word ∈ words, IsGraphic word) :
    RoomJoinClient.Printable (joinWords words) := by
  intro c hc
  obtain rfl | ⟨word, hword, hc⟩ := mem_joinWords hc
  · decide
  · exact ⟨Nat.le_of_succ_le ((h word hword).visible c hc).1, ((h word hword).visible c hc).2⟩

theorem noFeed_of_printable {line : Text} (h : RoomJoinClient.Printable line) :
    ∀ c ∈ line, c ≠ '\n' := by
  rintro c hc rfl
  exact absurd (h _ hc).1 (by decide)

end Words

section Lines

variable (control : ControlStreamState) (room : Room) (now : Int)

def welcomeWords : List Text :=
  ["WELCOME".toList, ofNat control.sessionId.toNat, ofNat control.streamId.toNat,
    ofNat control.audioPort.toNat, ofNat control.clockPort.toNat, ofNat control.sampleRate.toNat,
    ofNat control.channels.toNat, control.hostAddress]

def roomLine : Text := "ROOM ".toList ++ room.state.roomId ++ ' ' :: room.state.roomName

def syncLine : Text := "SYNC_AT ".toList ++ ofInt (now + 500000000)

def stateLine : Text := joinWords (lineFields control room)

/-- The four lines of the answer. -/
def answerText : Text :=
  joinWords (welcomeWords control) ++ '\n' :: (roomLine room ++ '\n' ::
    (syncLine now ++ '\n' :: (stateLine control room ++ ['\n'])))

theorem lineFields_of_state {next : Room} (h : next.state = room.state) :
    lineFields control next = lineFields control room := by
  unfold lineFields stateFields playbackWord
  rw [h]

theorem joinWords_welcomeWords :
    "WELCOME ".toList ++ ofNat control.sessionId.toNat ++ ' ' :: ofNat control.streamId.toNat ++
      ' ' :: ofNat control.audioPort.toNat ++ ' ' :: ofNat control.clockPort.toNat ++
      ' ' :: ofNat control.sampleRate.toNat ++ ' ' :: ofNat control.channels.toNat ++
      ' ' :: control.hostAddress ++ ['\n'] = joinWords (welcomeWords control) ++ ['\n'] := by
  have hfirst : "WELCOME ".toList = "WELCOME".toList ++ [' '] := by simp
  simp only [welcomeWords, joinWords, hfirst, List.append_assoc, List.cons_append,
    List.nil_append]

/-- A complete endpoint is taken into the room. -/
theorem join_ok {room : Room} {deviceId ipv4Address : Text} {audioPort : UInt16}
    (hdevice : deviceId ≠ []) (haddress : ipv4Address ≠ []) (hport : audioPort ≠ 0) :
    ∃ token next, room.join deviceId ipv4Address audioPort = .ok (token, next) ∧
      next.state = room.state :=
  ⟨_, _, if_neg (by simp [hdevice, haddress, hport]), rfl⟩

/-- What the host answers to the JOIN of a device. -/
theorem responseFor_join {peerAddress deviceId : Text} {client : ControlClient}
    (hdevice : validDeviceId deviceId = true) (hpeer : peerAddress ≠ [])
    (hport : control.audioPort ≠ 0) :
    ∃ response, responseFor control (some room) peerAddress now client
        ("JOIN ".toList ++ deviceId) = .ok response ∧
      response.text = answerText control room now := by
  have hnonempty : deviceId ≠ [] := by
    rintro rfl
    cases hdevice
  have hanswer : responseFor control (some room) peerAddress now client
      ("JOIN ".toList ++ deviceId) =
        joinResponse control (some room) peerAddress now client deviceId := rfl
  obtain ⟨token, next, hjoin, hstate⟩ := @join_ok (if client.joinedDeviceId ≠ [] then
    room.leave client.joinedDeviceId client.membershipToken else room) deviceId peerAddress
    control.audioPort hnonempty hpeer hport
  have hroom : next.state = room.state := by
    rw [hstate]
    split_ifs
    · exact leave_state room _ _
    · rfl
  rw [hanswer]
  unfold joinResponse
  rw [hdevice, if_neg (by decide), joinWords_welcomeWords]
  dsimp only
  rw [hjoin]
  refine ⟨_, rfl, ?_⟩
  dsimp only
  rw [hostStateLine_eq]
  rw [lineFields_of_state control room hroom]
  rw [hroom]
  unfold answerText roomLine syncLine stateLine
  generalize joinWords (welcomeWords control) = welcome
  generalize joinWords (lineFields control room) = hostState
  generalize "ROOM ".toList = roomKeyword
  generalize "SYNC_AT ".toList = syncKeyword
  simp only [List.append_assoc, List.cons_append, List.nil_append]

end Lines

section Shape

variable {control : ControlStreamState} {room : Room} {now : Int} {a b c d : UInt8} {word : Text}

theorem ofNat64_length (n : UInt64) : (ofNat n.toNat).length ≤ 20 :=
  ofNat_length (by decide) (n.toNat_lt.trans (by decide))

theorem ofNat32_length (n : UInt32) : (ofNat n.toNat).length ≤ 10 :=
  ofNat_length (by decide) (n.toNat_lt.trans (by decide))

theorem ofNat16_length (n : UInt16) : (ofNat n.toNat).length ≤ 5 :=
  ofNat_length (by decide) (n.toNat_lt.trans (by decide))

theorem isGraphic_ofInt (n : Int) : IsGraphic (ofInt n) := by
  unfold Text.ofInt
  split_ifs
  · constructor
    · exact List.cons_ne_nil _ _
    · intro c hc
      obtain rfl | hdigit := List.mem_cons.mp hc
      · decide
      · exact (isGraphic_ofNat _).visible c hdigit
  · exact isGraphic_ofNat _

/-- A 64-bit number has nineteen digits at most, and a sign. -/
theorem ofInt64_length {n : Int} (hlow : -2 ^ 63 ≤ n) (hhigh : n < 2 ^ 63) :
    (ofInt n).length ≤ 20 := by
  have hdigits : (ofNat n.natAbs).length ≤ 19 := ofNat_length (by decide) (by omega)
  unfold Text.ofInt
  split_ifs
  · rw [List.length_cons]
    exact Nat.succ_le_succ hdigits
  · exact hdigits.trans (by decide)

theorem dotted_length (a b c d : UInt8) : (dotted a b c d).length ≤ 15 := by
  have hoctet (n : UInt8) : (ofNat n.toNat).length ≤ 3 :=
    ofNat_length (by decide) (n.toNat_lt.trans (by decide))
  have ha := hoctet a
  have hb := hoctet b
  have hc := hoctet c
  have hd := hoctet d
  simp only [dotted, List.length_append, List.length_cons]
  omega

theorem isGraphic_welcomeWords (hhost : control.hostAddress = dotted a b c d)
    (h : word ∈ welcomeWords control) : IsGraphic word := by
  simp only [welcomeWords, List.mem_cons, List.not_mem_nil, or_false] at h
  rcases h with rfl | rfl | rfl | rfl | rfl | rfl | rfl | rfl
  · exact isGraphic_of_all (by simp)
  · exact isGraphic_ofNat _
  · exact isGraphic_ofNat _
  · exact isGraphic_ofNat _
  · exact isGraphic_ofNat _
  · exact isGraphic_ofNat _
  · exact isGraphic_ofNat _
  · exact hhost ▸ isGraphic_dotted a b c d

theorem welcome_length (hhost : control.hostAddress = dotted a b c d) :
    (joinWords (welcomeWords control)).length ≤ 88 := by
  have hlength := joinWords_length (welcomeWords control)
  have hsession := ofNat64_length control.sessionId
  have hstream := ofNat32_length control.streamId
  have haudio := ofNat16_length control.audioPort
  have hclock := ofNat16_length control.clockPort
  have hrate := ofNat32_length control.sampleRate
  have hchannels := ofNat16_length control.channels
  have haddress := dotted_length a b c d
  have hkeyword : "WELCOME".toList.length = 7 := by simp
  simp only [welcomeWords, hhost, List.map_cons, List.map_nil, List.sum_cons, List.sum_nil,
    hkeyword] at hlength ⊢
  omega

/-- The name of an action has one of four forms. -/
theorem isGraphic_actionName (action : RoomAction) :
    IsGraphic (actionName action) ∧ (actionName action).length ≤ 5 := by
  cases action
  all_goals
    exact ⟨isGraphic_of_all (by simp [actionName]), by simp [actionName]⟩

theorem isGraphic_announcementKeyword (room : RoomState) :
    IsGraphic (announcementKeyword room) ∧ (announcementKeyword room).length ≤ 7 := by
  unfold announcementKeyword
  split_ifs
  all_goals
    exact ⟨isGraphic_of_all (by simp), by simp⟩

theorem isGraphic_playbackWord (control : ControlStreamState) (room : Room) :
    IsGraphic (playbackWord control room) ∧ (playbackWord control room).length ≤ 7 := by
  unfold playbackWord
  split_ifs
  all_goals
    exact ⟨isGraphic_of_all (by simp), by simp⟩

theorem isGraphic_stateFields (h : word ∈ stateFields control room) : IsGraphic word := by
  simp only [stateFields, List.mem_cons, List.not_mem_nil, or_false] at h
  rcases h with rfl | rfl | rfl | rfl | rfl | rfl
  · exact isGraphic_of_all (by simp)
  · exact (isGraphic_playbackWord control room).1
  · exact isGraphic_ofNat _
  · exact isGraphic_ofNat _
  · exact isGraphic_of_all (by simp)
  · exact isGraphic_ofNat _

theorem isGraphic_actionWords {action : ScheduledRoomAction}
    (h : word ∈ actionWords room.state action) : IsGraphic word := by
  simp only [actionWords, List.mem_cons, List.not_mem_nil, or_false] at h
  rcases h with rfl | rfl | rfl | rfl | rfl
  · exact (isGraphic_announcementKeyword room.state).1
  · exact (isGraphic_actionName action.action).1
  · exact isGraphic_ofInt _
  · exact isGraphic_ofNat _
  · exact isGraphic_ofNat _

/-- The words of the announced action, if there is one. -/
def announcedWords (room : RoomState) : List Text :=
  match announcement room with
  | some action => actionWords room action
  | none => []

theorem lineFields_eq (control : ControlStreamState) (room : Room) :
    lineFields control room = stateFields control room ++ announcedWords room.state := rfl

theorem isGraphic_announcedWords (hword : word ∈ announcedWords room.state) :
    IsGraphic word := by
  unfold announcedWords at hword
  cases hannouncement : announcement room.state with
  | none =>
      rw [hannouncement] at hword
      cases hword
  | some action =>
      rw [hannouncement] at hword
      exact isGraphic_actionWords hword

theorem isGraphic_lineFields (hword : word ∈ lineFields control room) : IsGraphic word := by
  obtain hstate | haction := List.mem_append.mp hword
  · exact isGraphic_stateFields hstate
  · exact isGraphic_announcedWords haction

theorem announcedWords_length (h : Installed room.state) :
    ((announcedWords room.state).map fun word => word.length + 1).sum ≤ 70 := by
  unfold announcedWords
  cases hannouncement : announcement room.state with
  | none => exact Nat.zero_le _
  | some action =>
      obtain ⟨hpositive, hbound⟩ := (h.announcement action hannouncement).time
      have htime : (ofNat action.effectiveHostNanoseconds.toNat).length ≤ 20 :=
        ofNat_length (by decide) (by omega)
      have hkeyword := (isGraphic_announcementKeyword room.state).2
      have hname := (isGraphic_actionName action.action).2
      have hframe := ofNat64_length action.seekFrame
      have hstream := ofNat32_length action.nextStreamId
      simp only [actionWords, List.map_cons, List.map_nil, List.sum_cons, List.sum_nil,
        ofInt_of_nonneg hpositive]
      omega

theorem stateLine_length (h : Installed room.state) : (stateLine control room).length ≤ 160 := by
  have hlength := joinWords_length (lineFields control room)
  have hannounced := announcedWords_length h
  have hplayback := (isGraphic_playbackWord control room).2
  have hsession := ofNat64_length control.sessionId
  have hframe := ofNat64_length control.currentFrame
  have hstream := ofNat32_length room.state.streamId
  have hfirst : "HOST_STATE".toList.length = 10 := by simp
  have hkeyword : "STREAM".toList.length = 6 := by simp
  rw [lineFields_eq, List.map_append, List.sum_append] at hlength
  simp only [stateFields, List.map_cons, List.map_nil, List.sum_cons, List.sum_nil, hfirst,
    hkeyword] at hlength
  exact hlength.trans (by omega)

theorem roomLine_shape (h : Titled room.state) :
    RoomJoinClient.Printable (roomLine room) ∧ (roomLine room).length ≤ 86 := by
  have hkeyword : "ROOM ".toList.length = 5 := by simp
  have hprintable : RoomJoinClient.Printable "ROOM ".toList := by
    apply RoomJoinClient.printable_of_all
    simp
  unfold roomLine
  generalize "ROOM ".toList = keyword at hkeyword hprintable ⊢
  constructor
  · intro character hcharacter
    simp only [List.mem_append, List.mem_cons] at hcharacter
    rcases hcharacter with (hfirst | hid) | rfl | hname
    · exact hprintable _ hfirst
    · have hvisible := visible_of_isAlnum (h.roomId_alnum _ hid)
      exact ⟨Nat.le_of_succ_le hvisible.1, hvisible.2⟩
    · decide
    · exact ⟨(h.roomName_printable _ hname).1, Nat.lt_succ_of_le (h.roomName_printable _ hname).2⟩
  · have hid := h.roomId_length
    have hname := h.roomName_length
    simp only [List.length_append, List.length_cons]
    omega

theorem printable_syncLine (now : Int) : RoomJoinClient.Printable (syncLine now) := by
  have hprintable : RoomJoinClient.Printable "SYNC_AT ".toList := by
    apply RoomJoinClient.printable_of_all
    simp
  unfold syncLine
  intro character hcharacter
  obtain hfirst | hdigit := List.mem_append.mp hcharacter
  · exact hprintable _ hfirst
  · have hvisible := (isGraphic_ofInt _).visible _ hdigit
    exact ⟨Nat.le_of_succ_le hvisible.1, hvisible.2⟩

theorem syncLine_shape (hlow : -2 ^ 63 ≤ now) (hbound : now + 500000000 < 2 ^ 63) :
    RoomJoinClient.Printable (syncLine now) ∧ (syncLine now).length ≤ 28 := by
  have hkeyword : "SYNC_AT ".toList.length = 8 := by simp
  have hdigits : (ofInt (now + 500000000)).length ≤ 20 := ofInt64_length (by omega) hbound
  refine ⟨printable_syncLine now, ?_⟩
  unfold syncLine
  rw [List.length_append, hkeyword]
  omega

end Shape

section DesktopClient

variable {control : ControlStreamState} {room : Room} {now : Int} {a b c d : UInt8}

theorem extractWelcome_welcome (hhost : control.hostAddress = dotted a b c d) :
    RoomJoinClient.extractWelcome (joinWords (welcomeWords control)) =
      some ("WELCOME".toList, control.sessionId, control.streamId, control.audioPort.toNat,
        control.clockPort.toNat) := by
  have hkeyword : IsWord "WELCOME".toList := isWord_of_all (by simp [isSpace])
  have haddress : IsWord control.hostAddress := hhost ▸ (isGraphic_dotted a b c d).isWord
  have hport (n : UInt16) : n.toNat < 2 ^ 32 := n.toNat_lt.trans (by decide)
  unfold RoomJoinClient.extractWelcome welcomeWords
  generalize "WELCOME".toList = keyword at hkeyword ⊢
  simp only [joinWords_cons, readWord_append hkeyword, Option.bind_eq_bind, Option.bind_some,
    readUnsigned_spaced control.sessionId.toNat_lt, readUnsigned_spaced control.streamId.toNat_lt,
    readUnsigned_spaced (hport control.audioPort), readUnsigned_spaced (hport control.clockPort),
    readUnsigned_spaced control.sampleRate.toNat_lt, readUnsigned_spaced (hport control.channels),
    readWord_spaced haddress, UInt64.ofNat_toNat, UInt32.ofNat_toNat]
  rfl

theorem readWelcome_welcome (h : Joinable control room)
    (hhost : control.hostAddress = dotted a b c d) :
    RoomJoinClient.readWelcome (joinWords (welcomeWords control)) = .ok {
      sessionId := control.sessionId
      streamId := control.streamId
      audioPort := control.audioPort
      clockPort := control.clockPort } := by
  have hvalid : ¬ ("WELCOME".toList ≠ "WELCOME".toList ∨ control.sessionId = 0 ∨
      control.streamId = 0 ∨ control.audioPort.toNat = 0 ∨ 65535 < control.audioPort.toNat ∨
      control.clockPort.toNat = 0 ∨ 65535 < control.clockPort.toNat) := by
    have haudio : control.audioPort.toNat ≠ 0 := mt (UInt16.toNat_inj (b := 0)).mp h.audioPort_ne
    have hclock : control.clockPort.toNat ≠ 0 := mt (UInt16.toNat_inj (b := 0)).mp h.clockPort_ne
    have haudioLt := control.audioPort.toNat_lt
    have hclockLt := control.clockPort.toNat_lt
    simp only [h.sessionId_ne, h.streamId_ne, ne_eq, not_true_eq_false, false_or]
    omega
  unfold RoomJoinClient.readWelcome
  rw [extractWelcome_welcome hhost]
  dsimp only
  rw [if_neg hvalid, UInt16.ofNat_toNat, UInt16.ofNat_toNat]

/-- The name keeps its spaces. -/
theorem readRoom_roomLine (h : Joinable control room) (state : JoinedRoomState) :
    RoomJoinClient.readRoom state (roomLine room) =
      .ok { state with roomName := room.state.roomName } := by
  have hbegins : "ROOM ".toList.isPrefixOf (roomLine room) = true := rfl
  have hdrop : (roomLine room).drop 5 = room.state.roomId ++ ' ' :: room.state.roomName := rfl
  have hid : ∀ c ∈ room.state.roomId, (fun c => decide (c ≠ ' ')) c = true := by
    intro c hc
    apply decide_eq_true
    rintro rfl
    exact absurd (h.roomId_alnum _ hc) (by decide)
  unfold RoomJoinClient.readRoom
  rw [if_pos hbegins, hdrop, List.dropWhile_append_of_pos hid, List.dropWhile_cons_of_neg (by simp)]

theorem extractState_stateLine (control : ControlStreamState) (room : Room) :
    RoomJoinClient.extractState (stateLine control room) =
      some ("HOST_STATE".toList, playbackWord control room, control.sessionId,
        spaced ("STREAM".toList :: ofNat room.state.streamId.toNat ::
          announcedWords room.state)) := by
  have hkeyword : IsWord "HOST_STATE".toList := isWord_of_all (by simp [isSpace])
  unfold RoomJoinClient.extractState stateLine
  rw [lineFields_eq]
  unfold stateFields
  generalize "HOST_STATE".toList = keyword at hkeyword ⊢
  generalize "STREAM".toList = stream
  simp only [List.cons_append, joinWords_cons, readWord_append hkeyword, Option.bind_eq_bind,
    Option.bind_some, readWord_spaced (isWord_playbackWord control room),
    readUnsigned_spaced control.sessionId.toNat_lt, readUnsigned_spaced control.currentFrame.toNat_lt,
    UInt64.ofNat_toNat]
  rfl

theorem ne_stream_of_mem {word : Text} (h : word ∈ announcedWords room.state)
    (hinstalled : Installed room.state) : word ≠ "STREAM".toList := by
  have hdigits (n : Nat) : ofNat n ≠ "STREAM".toList := by
    intro heq
    have hletter : 'S' ∈ ofNat n := heq ▸ (by simp : 'S' ∈ "STREAM".toList)
    exact absurd (ofNat_isDigit hletter) (by decide)
  unfold announcedWords at h
  cases hannouncement : announcement room.state with
  | none =>
      rw [hannouncement] at h
      cases h
  | some action =>
      rw [hannouncement] at h
      simp only [actionWords, List.mem_cons, List.not_mem_nil, or_false] at h
      rcases h with rfl | rfl | rfl | rfl | rfl
      · unfold announcementKeyword
        split_ifs <;> simp
      · cases action.action <;> simp [actionName]
      · rw [ofInt_of_nonneg (hinstalled.announcement action hannouncement).time.1]
        exact hdigits _
      · exact hdigits _
      · exact hdigits _

/-- The state line moves the client to the stream of the room. -/
theorem updateState_stateLine (h : Joinable control room) {state : JoinedRoomState}
    (hsession : state.sessionId = control.sessionId) :
    RoomJoinClient.updateState state (stateLine control room) =
      .ok { state with
        playbackState := playbackWord control room
        streamId := room.state.streamId } := by
  have hstream : RoomJoinClient.readStream state.streamId
      (spaced ("STREAM".toList :: ofNat room.state.streamId.toNat :: announcedWords room.state)) =
        .ok room.state.streamId := by
    rw [RoomJoinClient.readStream_stream]
    apply RoomJoinClient.readStream_words
    intro word hword
    exact ⟨(isGraphic_announcedWords hword).isWord,
      ne_stream_of_mem hword h.installed⟩
  unfold RoomJoinClient.updateState
  rw [extractState_stateLine]
  dsimp only
  rw [if_neg (by simp [hsession]), hstream]
  rfl

/-- Everything that the host has sent once it has answered HELLO and JOIN. -/
def sentText (control : ControlStreamState) (room : Room) (now : Int) : Text :=
  "VERSION 2".toList ++ '\n' :: answerText control room now

theorem isLine_version : RoomJoinClient.IsLine "VERSION 2".toList where
  printable := by
    apply RoomJoinClient.printable_of_all
    simp
  length_lt := by simp

theorem isLine_welcome (hhost : control.hostAddress = dotted a b c d) :
    RoomJoinClient.IsLine (joinWords (welcomeWords control)) where
  printable := printable_joinWords fun _ => isGraphic_welcomeWords hhost
  length_lt := Nat.lt_of_le_of_lt (welcome_length hhost) (by decide)

theorem isLine_roomLine (h : Joinable control room) : RoomJoinClient.IsLine (roomLine room) where
  printable := (roomLine_shape h.titled).1
  length_lt := Nat.lt_of_le_of_lt (roomLine_shape h.titled).2 (by decide)

theorem isLine_syncLine (hnow : 0 ≤ now) (hbound : now + 500000000 < 2 ^ 63) :
    RoomJoinClient.IsLine (syncLine now) where
  printable := (syncLine_shape (by omega) hbound).1
  length_lt := Nat.lt_of_le_of_lt (syncLine_shape (by omega) hbound).2 (by decide)

theorem isLine_stateLine (h : Joinable control room) :
    RoomJoinClient.IsLine (stateLine control room) where
  printable := printable_joinWords fun _ => isGraphic_lineFields
  length_lt := Nat.lt_of_le_of_lt (stateLine_length h.installed) (by decide)

/-- What the desktop client has joined. -/
theorem join_sentText (h : Joinable control room) (hhost : control.hostAddress = dotted a b c d)
    (hnow : 0 ≤ now) (hbound : now + 500000000 < 2 ^ 63) :
    RoomJoinClient.join (sentText control room now) = .ok {
      sessionId := control.sessionId
      streamId := room.state.streamId
      audioPort := control.audioPort
      clockPort := control.clockPort
      roomName := room.state.roomName
      playbackState := playbackWord control room
      connected := true } := by
  have hbegins : "SYNC_AT ".toList.isPrefixOf (syncLine now) = true :=
    List.isPrefixOf_iff_prefix.mpr (List.prefix_append _ _)
  have hlines := RoomJoinClient.join_lines isLine_version (isLine_welcome hhost)
    (isLine_roomLine h) (isLine_syncLine hnow hbound) (isLine_stateLine h) rfl hbegins
  unfold sentText answerText
  rw [hlines, readWelcome_welcome h hhost]
  simp only [bind, Except.bind]
  rw [readRoom_roomLine h]
  dsimp only
  rw [updateState_stateLine h rfl]
  rfl

end DesktopClient

section Phone

variable {Address : Type} {ipv4Address : Text → Option Address} {address : Address}
  {control : ControlStreamState} {room : Room} {now : Int} {a b c d : UInt8}

/-- The welcome that the phone gets. -/
def welcomeOf (control : ControlStreamState) (hostIPv4 : Address) : HostWelcome Address where
  sessionID := control.sessionId
  streamID := control.streamId
  audioPort := control.audioPort
  clockPort := control.clockPort
  sampleRate := control.sampleRate
  channels := control.channels
  hostIPv4

theorem hostWelcome_welcome (h : Joinable control room)
    (hhost : control.hostAddress = dotted a b c d)
    (haddress : ipv4Address control.hostAddress = some address) :
    hostWelcome ipv4Address (joinWords (welcomeWords control)) =
      some (welcomeOf control address) := by
  have hfields : splitFields (joinWords (welcomeWords control)) = welcomeWords control :=
    splitFields_joinWords fun _ hword => (isGraphic_welcomeWords hhost hword).isWord
  have hnumbers : control.sessionId.toNat > 0 ∧ control.streamId.toNat > 0 ∧
      control.audioPort.toNat > 0 ∧ control.clockPort.toNat > 0 ∧
      (8000 ≤ control.sampleRate.toNat ∧ control.sampleRate.toNat ≤ 192000) ∧
      (1 ≤ control.channels.toNat ∧ control.channels.toNat ≤ 2) := by
    refine ⟨?_, ?_, ?_, ?_, h.sampleRate_mem, h.channels_mem⟩
    · exact Nat.pos_of_ne_zero (mt (UInt64.toNat_inj (b := 0)).mp h.sessionId_ne)
    · exact Nat.pos_of_ne_zero (mt (UInt32.toNat_inj (b := 0)).mp h.streamId_ne)
    · exact Nat.pos_of_ne_zero (mt (UInt16.toNat_inj (b := 0)).mp h.audioPort_ne)
    · exact Nat.pos_of_ne_zero (mt (UInt16.toNat_inj (b := 0)).mp h.clockPort_ne)
  unfold hostWelcome
  rw [hfields]
  unfold welcomeWords
  dsimp only
  rw [if_pos rfl]
  unfold welcomeFields
  rw [parseUnsigned_ofNat control.sessionId.toNat_lt, parseUnsigned_ofNat control.streamId.toNat_lt,
    parseUnsigned_ofNat control.audioPort.toNat_lt, parseUnsigned_ofNat control.clockPort.toNat_lt,
    parseUnsigned_ofNat control.sampleRate.toNat_lt, parseUnsigned_ofNat control.channels.toNat_lt,
    haddress]
  simp only [Option.bind_eq_bind, Option.bind_some]
  rw [if_pos hnumbers]
  simp only [UInt64.ofNat_toNat, UInt32.ofNat_toNat, UInt16.ofNat_toNat]
  rfl

theorem splitFields_cons {word : Text} (h : IsWord word) (rest : Text) :
    splitFields (word ++ ' ' :: rest) = word :: splitFields rest := by
  unfold splitFields
  rw [splitFrom_append h.ne_space, List.nil_append, splitFrom, if_pos rfl, if_neg h.ne_nil]

/-- Only a line that begins with the keyword can be a welcome. -/
theorem hostWelcome_none {keyword : Text} (hword : IsWord keyword)
    (hne : keyword ≠ "WELCOME".toList) (rest : Text) :
    hostWelcome ipv4Address (keyword ++ ' ' :: rest) = none := by
  unfold hostWelcome
  rw [splitFields_cons hword]
  split
  · next heq =>
      obtain ⟨rfl, -⟩ := List.cons.inj heq
      exact if_neg hne
  · rfl

variable (session : Session Address)

theorem handle_version :
    session.handle ipv4Address "VERSION 2".toList =
      session.call [.state "Protocol version 2".toList] := by
  have hnone : hostWelcome ipv4Address "VERSION 2".toList = none := rfl
  unfold Session.handle
  rw [hnone]
  rfl

theorem handle_room (h : Joinable control room) :
    session.handle ipv4Address (roomLine room) =
      session.call [.room room.state.roomId room.state.roomName] := by
  have hkeyword : IsWord "ROOM".toList := isWord_of_all (by simp [isSpace])
  have hid : IsWord room.state.roomId :=
    ⟨List.ne_nil_of_length_pos (by rw [h.roomId_length]; decide), fun character hcharacter =>
      (⟨List.cons_ne_nil _ _, fun _ hmem => List.mem_singleton.mp hmem ▸
        visible_of_isAlnum (h.roomId_alnum _ hcharacter)⟩ : IsGraphic [character]).isWord.noSpace _
          List.mem_cons_self⟩
  have hline : roomLine room =
      "ROOM".toList ++ ' ' :: (room.state.roomId ++ ' ' :: room.state.roomName) := rfl
  have hnone : hostWelcome ipv4Address (roomLine room) = none := by
    rw [hline]
    exact hostWelcome_none hkeyword (by simp) _
  have hsplit : splitAtMost 2 [] (roomLine room) =
      ["ROOM".toList, room.state.roomId, room.state.roomName] := by
    rw [hline, splitAtMost_cons hkeyword, splitAtMost_cons hid, splitAtMost_zero h.roomName_ne]
  have hstate : ¬ "HOST_STATE ".toList.isPrefixOf (roomLine room) = true := by
    have hfalse : "HOST_STATE ".toList.isPrefixOf (roomLine room) = false := rfl
    rw [hfalse]
    exact Bool.false_ne_true
  have hroom : "ROOM ".toList.isPrefixOf (roomLine room) = true := rfl
  unfold Session.handle
  rw [hnone]
  dsimp only
  rw [if_neg hstate, if_pos hroom, hsplit]

theorem handle_sync (hnow : 0 ≤ now) (hbound : now + 500000000 < 2 ^ 63) :
    session.handle ipv4Address (syncLine now) =
      session.call [.syncAt (UInt64.ofNat (now + 500000000).toNat)] := by
  have hkeyword : IsWord "SYNC_AT".toList := isWord_of_all (by simp [isSpace])
  have htime : ofInt (now + 500000000) = ofNat (now + 500000000).toNat :=
    ofInt_of_nonneg (by omega)
  have hnone : hostWelcome ipv4Address (syncLine now) = none :=
    hostWelcome_none hkeyword (by simp) _
  have hparse : parseUnsigned (2 ^ 64) ((syncLine now).drop 8) =
      some (now + 500000000).toNat := by
    have hdrop : (syncLine now).drop 8 = ofInt (now + 500000000) := rfl
    rw [hdrop, htime, parseUnsigned_ofNat (by omega)]
  have hstate : ¬ "HOST_STATE ".toList.isPrefixOf (syncLine now) = true := by
    have hfalse : "HOST_STATE ".toList.isPrefixOf (syncLine now) = false := rfl
    rw [hfalse]
    exact Bool.false_ne_true
  have hroom : ¬ "ROOM ".toList.isPrefixOf (syncLine now) = true := by
    have hfalse : "ROOM ".toList.isPrefixOf (syncLine now) = false := rfl
    rw [hfalse]
    exact Bool.false_ne_true
  have hsync : "SYNC_AT ".toList.isPrefixOf (syncLine now) = true := rfl
  unfold Session.handle
  rw [hnone]
  dsimp only
  rw [if_neg hstate, if_neg hroom, if_pos hsync, hparse]

theorem received_hostStateLine (h : Joinable control room) :
    received (hostStateLine control (some room)) = stateLine control room := by
  have hline : ∀ character ∈ stateLine control room, character ≠ '\n' :=
    noFeed_of_printable (isLine_stateLine h).printable
  rw [hostStateLine_eq, received]
  exact (@takeWhile_run (stateLine control room) ['\n'] (fun c => c ≠ '\n')
    (fun c hc => decide_eq_true (hline c hc)) (by rintro c ⟨⟩; rfl)).1

theorem handle_state (h : Joinable control room)
    (hsession : session.joinedSessionID = some control.sessionId) :
    session.handle ipv4Address (stateLine control room) =
      session.call (.state (stateLine control room) ::
        .hostPlayback (playbackWord control room) control.currentFrame ::
          ((announcement room.state).map announced).toList.map .scheduledAction) := by
  have hkeyword : IsWord "HOST_STATE".toList := isWord_of_all (by simp [isSpace])
  have hline : ∃ rest, stateLine control room = "HOST_STATE".toList ++ ' ' :: rest := ⟨_, rfl⟩
  obtain ⟨rest, hline⟩ := hline
  have hnone : hostWelcome ipv4Address (stateLine control room) = none := by
    rw [hline]
    exact hostWelcome_none hkeyword (by simp) rest
  have hstate : "HOST_STATE ".toList.isPrefixOf (stateLine control room) = true := by
    rw [hline]
    rfl
  have hhandled := handleHostState_received hsession fun action haction =>
    have htime := (h.installed.announcement action haction).time
    ⟨htime.1, htime.2.trans (by decide)⟩
  rw [received_hostStateLine h] at hhandled
  unfold Session.handle
  rw [hnone]
  dsimp only
  rw [if_pos hstate, hhandled]
  rfl

/-- The calls that the answers to HELLO and JOIN lead to. -/
def answerEvents (control : ControlStreamState) (room : Room) (now : Int) (hostIPv4 : Address) :
    List (Event Address) :=
  [.state "Protocol version 2".toList, .welcome (welcomeOf control hostIPv4),
    .room room.state.roomId room.state.roomName,
    .syncAt (UInt64.ofNat (now + 500000000).toNat), .state (stateLine control room),
    .hostPlayback (playbackWord control room) control.currentFrame] ++
      ((announcement room.state).map announced).toList.map .scheduledAction

/-- On an open connection the next line is handled. -/
theorem foldl_open {line : Text} (lines : List Text) (hopen : session.lost = false) :
    (line :: lines).foldl (Session.handleNext ipv4Address) session =
      lines.foldl (Session.handleNext ipv4Address) (session.handle ipv4Address line) := by
  rw [List.foldl_cons, Session.handleNext, if_neg (by rw [hopen]; exact Bool.false_ne_true)]

theorem cutLines_sentText (h : Joinable control room)
    (hhost : control.hostAddress = dotted a b c d) (hnow : 0 ≤ now)
    (hbound : now + 500000000 < 2 ^ 63) :
    cutLines [] (sentText control room now) =
      (["VERSION 2".toList, joinWords (welcomeWords control), roomLine room, syncLine now,
        stateLine control room], []) := by
  unfold sentText answerText
  rw [cutLines_line (noFeed_of_printable isLine_version.printable),
    cutLines_line (noFeed_of_printable (isLine_welcome hhost).printable),
    cutLines_line (noFeed_of_printable (isLine_roomLine h).printable),
    cutLines_line (noFeed_of_printable (isLine_syncLine hnow hbound).printable),
    cutLines_line (noFeed_of_printable (isLine_stateLine h).printable)]
  rfl

theorem sentText_length (h : Joinable control room)
    (hhost : control.hostAddress = dotted a b c d) (hnow : 0 ≤ now)
    (hbound : now + 500000000 < 2 ^ 63) : (sentText control room now).length ≤ 1024 := by
  have hversion : "VERSION 2".toList.length = 9 := by simp
  have hwelcome := welcome_length hhost
  have hroom := (roomLine_shape h.titled).2
  have hsync := (syncLine_shape (by omega) hbound).2
  have hstate := @stateLine_length control room h.installed
  unfold sentText answerText
  generalize "VERSION 2".toList = version at hversion ⊢
  generalize joinWords (welcomeWords control) = welcome at hwelcome ⊢
  generalize roomLine room = roomLine at hroom ⊢
  generalize syncLine now = syncLine at hsync ⊢
  generalize stateLine control room = stateLine at hstate ⊢
  simp only [List.length_append, List.length_cons, List.length_nil]
  omega

/-- What the phone makes of the answers, in whatever pieces they arrive. -/
theorem receive_sentText (h : Joinable control room)
    (hhost : control.hostAddress = dotted a b c d)
    (haddress : ipv4Address control.hostAddress = some address) (hnow : 0 ≤ now)
    (hbound : now + 500000000 < 2 ^ 63) {chunks : List Text}
    (hchunks : chunks.flatten = sentText control room now) :
    (chunks.foldl (receive ipv4Address) {}).session = {
      joinedSessionID := some control.sessionId
      events := answerEvents control room now address } := by
  have hlength : chunks.flatten.length ≤ 1024 :=
    hchunks ▸ sentText_length h hhost hnow hbound
  have hwelcome (session : Session Address) :
      session.handle ipv4Address (joinWords (welcomeWords control)) =
        { session with
          joinedSessionID := some control.sessionId
          events := session.events ++ [.welcome (welcomeOf control address)] } := by
    unfold Session.handle
    rw [hostWelcome_welcome h hhost haddress]
    rfl
  rw [(foldl_receive ipv4Address {} hlength).1, hchunks, cutLines_sentText h hhost hnow hbound]
  rw [foldl_open _ _ rfl, handle_version, foldl_open _ _ rfl, hwelcome, foldl_open _ _ rfl,
    handle_room _ h, foldl_open _ _ rfl, handle_sync _ hnow hbound, foldl_open _ _ rfl,
    handle_state _ h rfl]
  rfl

end Phone

section RoundTrip

theorem greeting_append (control : ControlStreamState) (room : Room) (now : Int) :
    "VERSION 2\n".toList ++ answerText control room now = sentText control room now := by
  have hversion : "VERSION 2\n".toList = "VERSION 2".toList ++ ['\n'] := by simp
  rw [hversion, List.append_assoc]
  rfl

/-- Both clients read the answer to a JOIN as it is meant. The desktop client gets the
session, the ports, the name and the playback, and the stream of the room. The phone
gets the welcome with the stream of the host, the room and the pending action, or else
the most recent one, in whatever pieces the text arrives. -/
theorem join_roundTrip {control : ControlStreamState} {room : Room} {a b c d : UInt8}
    {peerAddress deviceId : Text} {now : Int} {client : ControlClient} {Address : Type}
    {ipv4Address : Text → Option Address} {address : Address} (h : Joinable control room)
    (hhost : control.hostAddress = dotted a b c d)
    (haddress : ipv4Address control.hostAddress = some address)
    (hdevice : validDeviceId deviceId = true) (hpeer : peerAddress ≠ []) (hnow : 0 ≤ now)
    (hbound : now + 500000000 < 2 ^ 63) :
    ∃ greeting response,
      responseFor control (some room) peerAddress now client "HELLO 2".toList = .ok greeting ∧
        responseFor control (some room) peerAddress now client ("JOIN ".toList ++ deviceId) =
          .ok response ∧
        RoomJoinClient.join (greeting.text ++ response.text) = .ok {
          sessionId := control.sessionId
          streamId := room.state.streamId
          audioPort := control.audioPort
          clockPort := control.clockPort
          roomName := room.state.roomName
          playbackState := playbackWord control room
          connected := true } ∧
        ∀ chunks : List Text, chunks.flatten = greeting.text ++ response.text →
          (chunks.foldl (receive ipv4Address) {}).session.events =
            [.state "Protocol version 2".toList,
              .welcome {
                sessionID := control.sessionId
                streamID := control.streamId
                audioPort := control.audioPort
                clockPort := control.clockPort
                sampleRate := control.sampleRate
                channels := control.channels
                hostIPv4 := address },
              .room room.state.roomId room.state.roomName,
              .syncAt (UInt64.ofNat (now + 500000000).toNat),
              .state (stateLine control room),
              .hostPlayback (playbackWord control room) control.currentFrame] ++
            ((room.state.pendingAction.or room.state.recentAction).toList.map fun action =>
              .scheduledAction {
                name := actionName action.action
                effectiveHostNanoseconds := UInt64.ofNat action.effectiveHostNanoseconds.toNat
                seekFrame := action.seekFrame
                nextStreamID := action.nextStreamId }) := by
  obtain ⟨response, hresponse, htext⟩ := @responseFor_join control room now peerAddress deviceId
    client hdevice hpeer h.audioPort_ne
  have hsent : "VERSION 2\n".toList ++ response.text = sentText control room now := by
    rw [htext, greeting_append]
  refine ⟨{ text := "VERSION 2\n".toList, room := some room, client }, response, rfl, hresponse,
    ?_, ?_⟩
  · dsimp only
    rw [hsent]
    exact join_sentText h hhost hnow hbound
  · intro chunks hchunks
    have hreceived := receive_sentText h hhost haddress hnow hbound (hchunks.trans hsent)
    have hactions : ((announcement room.state).map announced).toList.map
        (Event.scheduledAction : ScheduledHostAction → Event Address) =
          (room.state.pendingAction.or room.state.recentAction).toList.map fun action =>
            Event.scheduledAction (announced action) := by
      unfold announcement
      cases room.state.pendingAction.or room.state.recentAction <;> rfl
    rw [hreceived]
    unfold answerEvents
    rw [hactions]
    rfl

theorem livingSession_ne : (42 : UInt64) ≠ 0 := by
  decide

theorem livingStream_ne : (2 : UInt32) ≠ 0 := by
  decide

theorem livingPending_valid : ∀ action ∈ some ({
    action := .pause, effectiveHostNanoseconds := effectiveTime 1000000000, nextStreamId := 2 } :
      ScheduledRoomAction), action.Valid := by
  rintro action ⟨⟩
  decide

/-- A room that has been moved to its second stream and is asked to pause. -/
def livingRoom : Room where
  state := {
    roomId := List.replicate 32 '7'
    roomName := [' ', 'D', 'e', 'n', ' ', ' ', '2', ' ']
    hostDeviceId := ['h']
    sessionId := 42
    streamId := 2
    playbackState := .playing
    pendingAction := some {
      action := .pause, effectiveHostNanoseconds := effectiveTime 1000000000, nextStreamId := 2 }
    sessionId_ne := livingSession_ne
    streamId_ne := livingStream_ne
    pending_valid := livingPending_valid }

/-- Its host, with the stream that it has published. -/
def livingHost (streamId : UInt32) : ControlStreamState where
  sessionId := 42
  streamId
  hostAddress := dotted 127 0 0 1
  sampleRate := 48000
  channels := 2
  playing := true

theorem joinable_livingRoom {streamId : UInt32} (h : streamId ≠ 0) :
    Joinable (livingHost streamId) livingRoom where
  sessionId_ne := livingSession_ne
  streamId_ne := h
  audioPort_ne := (by decide : (40100 : UInt16) ≠ 0)
  clockPort_ne := (by decide : (40101 : UInt16) ≠ 0)
  sampleRate_mem := (by decide : 8000 ≤ (48000 : UInt32).toNat ∧ (48000 : UInt32).toNat ≤ 192000)
  channels_mem := (by decide : 1 ≤ (2 : UInt16).toNat ∧ (2 : UInt16).toNat ≤ 2)
  roomId_length := rfl
  roomId_alnum := List.all_eq_true.mp (by decide : (List.replicate 32 '7').all isAlnum = true)
  roomName_ne := List.cons_ne_nil _ _
  roomName_length := by decide
  roomName_printable := by
    have hall : (livingRoom.state.roomName.all fun c => 32 ≤ c.toNat ∧ c.toNat ≤ 126) = true := rfl
    exact fun c hc => of_decide_eq_true (List.all_eq_true.mp hall c hc)
  installed := by
    refine ⟨?_, nofun⟩
    rintro action ⟨⟩
    exact ⟨0, livingRoom.state, "127.0.0.1".toList, "PAUSE".toList,
      { action := .pause, seekFrame := 0, nextStreamId := 2 }, 1000000000, rfl, by decide, by decide,
      rfl⟩

/-- A device that joins the room of a host which has published the same stream. -/
theorem join_roundTrip_livingRoom :
    ∃ greeting response,
      responseFor (livingHost 2) (some livingRoom) ['p'] 0 {} ("JOIN ".toList ++ ['d']) =
          .ok response ∧
        RoomJoinClient.join (greeting ++ response.text) = .ok {
          sessionId := 42
          streamId := 2
          audioPort := 40100
          clockPort := 40101
          roomName := livingRoom.state.roomName
          playbackState := playbackWord (livingHost 2) livingRoom
          connected := true } := by
  obtain ⟨greeting, response, -, hresponse, hjoin, -⟩ :=
    @join_roundTrip (livingHost 2) livingRoom 127 0 0 1 ['p'] ['d'] 0 {} (List Nat)
      (fun text => if text = dotted 127 0 0 1 then some [127, 0, 0, 1] else none) [127, 0, 0, 1]
      (joinable_livingRoom (by decide)) rfl (if_pos rfl) rfl (by decide) le_rfl (by decide)
  exact ⟨greeting.text, response, hresponse, hjoin⟩

/-- Between the two stores of a seek the host still has the old stream; the desktop client
joins with the new one of the room. -/
theorem join_between_streams :
    Joinable (livingHost 1) livingRoom ∧ ∃ response joined,
      responseFor (livingHost 1) (some livingRoom) ['p'] 0 {} ("JOIN ".toList ++ ['d']) =
          .ok response ∧
        RoomJoinClient.join ("VERSION 2\n".toList ++ response.text) = .ok joined ∧
        joined.streamId ≠ (livingHost 1).streamId := by
  have hjoinable := @joinable_livingRoom 1 (by decide)
  obtain ⟨response, hresponse, htext⟩ := @responseFor_join (livingHost 1) livingRoom 0 ['p'] ['d']
    {} rfl (by decide) hjoinable.audioPort_ne
  have hjoin := @join_sentText (livingHost 1) livingRoom 0 127 0 0 1 hjoinable rfl le_rfl (by decide)
  rw [← greeting_append, ← htext] at hjoin
  exact ⟨hjoinable, response, _, hresponse, hjoin, (by decide : (2 : UInt32) ≠ 1)⟩

end RoundTrip

end JoinRoundTrip

end SyncAudio
