import SyncAudio.Desktop.ControlChannel

/-!
# The control channel of the phone

`handle` reads the `HOST_STATE` lines of the host. The phone takes the playback
state, the frame and the announced action from a line; the field behind
`STREAM` is not read.

## Implementation notes

Swift reads an unsigned number with an optional sign in front.
-/

namespace SyncAudio

open Text

structure ScheduledHostAction where
  name : Text
  effectiveHostNanoseconds : UInt64
  seekFrame : UInt64
  nextStreamID : UInt32
  deriving DecidableEq

namespace HostControlChannel

/-- `UInt64(field)` and its smaller siblings. -/
def parseUnsigned (bound : Nat) : Text → Option Nat
  | '+' :: digits => toNat? bound digits
  | '-' :: digits => toNat? 1 digits
  | digits => toNat? bound digits

/-- What comes of a `HOST_STATE` line: the session is over, or the callbacks run. -/
inductive HostStateOutcome where
  | retry
  | state (playback : Option (Text × UInt64)) (action : Option ScheduledHostAction)

/-- The line names another session than the one that was joined. -/
def sessionChanged (joinedSessionID : Option UInt64) : List Text → Bool
  | _ :: _ :: session :: _ :: _ =>
      (parseUnsigned (2 ^ 64) session).any fun session => some (UInt64.ofNat session) ≠ joinedSessionID
  | _ => false

def hostPlayback : List Text → Option (Text × UInt64)
  | _ :: playback :: _ :: frame :: _ =>
      (parseUnsigned (2 ^ 64) frame).map fun frame => (playback, UInt64.ofNat frame)
  | _ => none

/-- The word stands in front of an announced action. -/
def isKeyword (field : Text) : Bool := field = "PENDING".toList || field = "ACTION".toList

/-- The action behind the first keyword. -/
def scheduledAction (fields : List Text) : Option ScheduledHostAction :=
  match fields.dropWhile fun field => !isKeyword field with
  | _ :: name :: timestamp :: frame :: streamID :: _ => do
      let timestamp ← parseUnsigned (2 ^ 64) timestamp
      let frame ← parseUnsigned (2 ^ 64) frame
      let streamID ← parseUnsigned (2 ^ 32) streamID
      pure {
        name
        effectiveHostNanoseconds := UInt64.ofNat timestamp
        seekFrame := UInt64.ofNat frame
        nextStreamID := UInt32.ofNat streamID }
  | _ => none

/-- `handle` of a line that starts with `HOST_STATE `. -/
def handleHostState (joinedSessionID : Option UInt64) (line : Text) : HostStateOutcome :=
  let fields := splitFields line
  if sessionChanged joinedSessionID fields then .retry
  else .state (hostPlayback fields) (scheduledAction fields)

/-- `receive` cuts a line at its line feed. -/
def received (line : Text) : Text := line.takeWhile fun c => c ≠ '\n'

/-- An action of the host as the phone sees it. -/
def announced (action : ScheduledRoomAction) : ScheduledHostAction where
  name := ControlServer.actionName action.action
  effectiveHostNanoseconds := UInt64.ofNat action.effectiveHostNanoseconds.toNat
  seekFrame := action.seekFrame
  nextStreamID := action.nextStreamId

/-- The action a `HOST_STATE` line announces: a pending one hides the recent one. -/
def announcement (room : RoomState) : Option ScheduledRoomAction :=
  room.pendingAction.or room.recentAction

theorem parseUnsigned_ofNat {n bound : Nat} (h : n < bound) :
    parseUnsigned bound (ofNat n) = some n := by
  have hdigit : ∀ c ∈ ofNat n, c.isDigit = true := fun _ hc => ofNat_isDigit hc
  unfold parseUnsigned
  split
  · next digits heq => exact absurd (hdigit '+' (heq ▸ List.mem_cons_self)) (by decide)
  · next digits heq => exact absurd (hdigit '-' (heq ▸ List.mem_cons_self)) (by decide)
  · exact toNat?_ofNat h

/-- The word in front of an announced action. -/
def announcementKeyword (room : RoomState) : Text :=
  if room.pendingAction.isSome then "PENDING".toList else "ACTION".toList

def playbackWord (control : ControlStreamState) (room : Room) : Text :=
  if room.state.playbackState = .paused then "PAUSED".toList
  else if control.playing then "PLAYING".toList else "STOPPED".toList

/-- The fields of a `HOST_STATE` line up to the stream. -/
def stateFields (control : ControlStreamState) (room : Room) : List Text :=
  ["HOST_STATE".toList, playbackWord control room, ofNat control.sessionId.toNat,
    ofNat control.currentFrame.toNat, "STREAM".toList, ofNat room.state.streamId.toNat]

def actionWords (room : RoomState) (action : ScheduledRoomAction) : List Text :=
  [announcementKeyword room, ControlServer.actionName action.action,
    ofInt action.effectiveHostNanoseconds, ofNat action.seekFrame.toNat,
    ofNat action.nextStreamId.toNat]

/-- The fields of a `HOST_STATE` line. -/
def lineFields (control : ControlStreamState) (room : Room) : List Text :=
  stateFields control room ++
    match announcement room.state with
    | some action => actionWords room.state action
    | none => []

theorem joinWords_stateFields (control : ControlStreamState) (room : Room) :
    joinWords (stateFields control room) =
      "HOST_STATE ".toList ++ playbackWord control room ++ ' ' :: ofNat control.sessionId.toNat ++
        ' ' :: ofNat control.currentFrame.toNat ++ " STREAM ".toList ++
          ofNat room.state.streamId.toNat := by
  have hfirst : "HOST_STATE ".toList = "HOST_STATE".toList ++ [' '] := by simp
  have hstream : " STREAM ".toList = ' ' :: ("STREAM".toList ++ [' ']) := by simp
  simp only [stateFields, joinWords, hfirst, hstream, List.append_assoc, List.cons_append,
    List.nil_append]

theorem joinWords_actionWords (room : RoomState) (action : ScheduledRoomAction) :
    joinWords (actionWords room action) =
      announcementKeyword room ++ ' ' :: ControlServer.actionFields action := by
  simp only [actionWords, joinWords, ControlServer.actionFields, List.append_assoc,
    List.cons_append]

theorem announcementText_eq (room : RoomState) :
    ControlServer.announcementText room =
      match announcement room with
      | some action => ' ' :: joinWords (actionWords room action)
      | none => [] := by
  have hpendingWord : " PENDING ".toList = ' ' :: ("PENDING".toList ++ [' ']) := by simp
  have hactionWord : " ACTION ".toList = ' ' :: ("ACTION".toList ++ [' ']) := by simp
  unfold ControlServer.announcementText announcement
  cases hpending : room.pendingAction with
  | some pending =>
      rw [Option.some_or]
      dsimp only
      rw [joinWords_actionWords, announcementKeyword, hpending, Option.isSome_some,
        if_pos rfl, hpendingWord, List.cons_append, List.append_assoc, List.singleton_append]
  | none =>
      cases hrecent : room.recentAction with
      | some recent =>
          rw [Option.none_or]
          dsimp only
          rw [joinWords_actionWords, announcementKeyword, hpending,
            Option.isSome_none, if_neg Bool.false_ne_true, hactionWord, List.cons_append,
            List.append_assoc, List.singleton_append]
      | none => rfl

/-- A `HOST_STATE` line is its fields with a space between each two. -/
theorem hostStateLine_eq (control : ControlStreamState) (room : Room) :
    ControlServer.hostStateLine control (some room) = joinWords (lineFields control room) ++ ['\n'] := by
  have hplayback : (if (some room).any fun room => room.state.playbackState = .paused then
      "PAUSED".toList else if control.playing then "PLAYING".toList else "STOPPED".toList) =
        playbackWord control room := by
    unfold playbackWord
    simp only [Option.any_some, decide_eq_true_eq]
  have hfields : joinWords (lineFields control room) =
      joinWords (stateFields control room) ++ ControlServer.announcementText room.state := by
    unfold lineFields
    rw [announcementText_eq]
    cases announcement room.state with
    | none => rw [List.append_nil, List.append_nil]
    | some action =>
        have hstate : stateFields control room ≠ [] := List.cons_ne_nil _ _
        have haction : actionWords room.state action ≠ [] := List.cons_ne_nil _ _
        exact joinWords_append hstate haction
  rw [hfields, joinWords_stateFields]
  unfold ControlServer.hostStateLine
  dsimp only
  rw [hplayback]
  generalize "HOST_STATE ".toList = first
  generalize " STREAM ".toList = stream
  simp only [List.append_assoc, List.cons_append]

theorem isWord_playbackWord (control : ControlStreamState) (room : Room) :
    IsWord (playbackWord control room) := by
  unfold playbackWord
  split_ifs <;> exact isWord_of_all (by simp [isSpace])

theorem isWord_actionName (action : RoomAction) : IsWord (ControlServer.actionName action) := by
  cases action <;> exact isWord_of_all (by simp [ControlServer.actionName, isSpace])

theorem isWord_actionWords {room : RoomState} {action : ScheduledRoomAction}
    (htime : 0 ≤ action.effectiveHostNanoseconds) {word : Text}
    (h : word ∈ actionWords room action) : IsWord word := by
  have hkeyword : IsWord (announcementKeyword room) := by
    unfold announcementKeyword
    split_ifs <;> exact isWord_of_all (by simp [isSpace])
  simp only [actionWords, List.mem_cons, List.not_mem_nil, or_false] at h
  rcases h with rfl | rfl | rfl | rfl | rfl
  · exact hkeyword
  · exact isWord_actionName action.action
  · rw [ofInt_of_nonneg htime]
    exact isWord_ofNat _
  · exact isWord_ofNat _
  · exact isWord_ofNat _

theorem isWord_stateFields {control : ControlStreamState} {room : Room} {word : Text}
    (h : word ∈ stateFields control room) : IsWord word := by
  simp only [stateFields, List.mem_cons, List.not_mem_nil, or_false] at h
  rcases h with rfl | rfl | rfl | rfl | rfl | rfl
  · exact isWord_of_all (by simp [isSpace])
  · exact isWord_playbackWord control room
  · exact isWord_ofNat _
  · exact isWord_ofNat _
  · exact isWord_of_all (by simp [isSpace])
  · exact isWord_ofNat _

/-- The phone gets the fields of the line. -/
theorem splitFields_received (control : ControlStreamState) {room : Room}
    (htime : ∀ action ∈ announcement room.state, 0 ≤ action.effectiveHostNanoseconds) :
    splitFields (received (ControlServer.hostStateLine control (some room))) =
      lineFields control room := by
  have hwords : ∀ word ∈ lineFields control room, IsWord word := by
    intro word hword
    unfold lineFields at hword
    rcases List.mem_append.mp hword with hstate | haction
    · exact isWord_stateFields hstate
    · cases hannouncement : announcement room.state with
      | none =>
          rw [hannouncement] at haction
          cases haction
      | some action =>
          rw [hannouncement] at haction
          exact isWord_actionWords (htime action hannouncement) haction
  have hline : ∀ c ∈ joinWords (lineFields control room), c ≠ '\n' := by
    rintro c hc rfl
    rcases mem_joinWords hc with hspace | ⟨word, hword, hc⟩
    · exact absurd hspace (by decide)
    · exact absurd ((hwords word hword).noSpace _ hc) (by decide)
  rw [hostStateLine_eq, received, List.takeWhile_append_of_pos (by simpa using hline),
    List.takeWhile_cons_of_neg (by simp), List.append_nil, splitFields_joinWords hwords]

theorem isKeyword_of_ne {word : Text} (hpending : word ≠ "PENDING".toList)
    (haction : word ≠ "ACTION".toList) : isKeyword word = false := by
  unfold isKeyword
  rw [decide_eq_false hpending, decide_eq_false haction]
  rfl

theorem isKeyword_ofNat (n : Nat) : isKeyword (ofNat n) = false := by
  have hletter {word : Text} {c : Char} (hc : c ∈ word) (hdigit : c.isDigit = false) :
      ofNat n ≠ word := by
    rintro rfl
    rw [ofNat_isDigit hc] at hdigit
    cases hdigit
  have hpending : 'P' ∈ "PENDING".toList := by simp
  have haction : 'A' ∈ "ACTION".toList := by simp
  exact isKeyword_of_ne (hletter hpending (by decide)) (hletter haction (by decide))

theorem isKeyword_stateFields {control : ControlStreamState} {room : Room} {word : Text}
    (h : word ∈ stateFields control room) : isKeyword word = false := by
  simp only [stateFields, List.mem_cons, List.not_mem_nil, or_false] at h
  rcases h with rfl | rfl | rfl | rfl | rfl | rfl
  · simp [isKeyword]
  · unfold playbackWord
    split_ifs <;> simp [isKeyword]
  · exact isKeyword_ofNat _
  · exact isKeyword_ofNat _
  · simp [isKeyword]
  · exact isKeyword_ofNat _

theorem isKeyword_announcementKeyword (room : RoomState) :
    isKeyword (announcementKeyword room) = true := by
  unfold announcementKeyword
  split_ifs <;> simp [isKeyword]

theorem scheduledAction_actionWords {room : RoomState} {action : ScheduledRoomAction}
    (htime : 0 ≤ action.effectiveHostNanoseconds ∧ action.effectiveHostNanoseconds < 2 ^ 64) :
    scheduledAction (actionWords room action) = some (announced action) := by
  have hdrop : (actionWords room action).dropWhile (fun field => !isKeyword field) =
      actionWords room action := by
    refine List.dropWhile_cons_of_neg ?_
    rw [isKeyword_announcementKeyword]
    exact Bool.false_ne_true
  unfold scheduledAction
  rw [hdrop]
  unfold actionWords
  dsimp only
  rw [ofInt_of_nonneg htime.1, parseUnsigned_ofNat (by omega),
    parseUnsigned_ofNat action.seekFrame.toNat_lt, parseUnsigned_ofNat action.nextStreamId.toNat_lt]
  simp [announced]

/-- The fields in front of the keyword are skipped. -/
theorem scheduledAction_skip (control : ControlStreamState) (room : Room) (others : List Text) :
    scheduledAction (stateFields control room ++ others) = scheduledAction others := by
  have hdrop : (stateFields control room ++ others).dropWhile (fun field => !isKeyword field) =
      others.dropWhile (fun field => !isKeyword field) :=
    List.dropWhile_append_of_pos fun word hword => by rw [isKeyword_stateFields hword]; rfl
  unfold scheduledAction
  rw [hdrop]

/-- The phone reads the announced action out of a line of its session. -/
theorem handleHostState_received {joinedSessionID : Option UInt64} {control : ControlStreamState}
    {room : Room} (hsession : joinedSessionID = some control.sessionId)
    (htime : ∀ action ∈ announcement room.state,
      0 ≤ action.effectiveHostNanoseconds ∧ action.effectiveHostNanoseconds < 2 ^ 64) :
    handleHostState joinedSessionID (received (ControlServer.hostStateLine control (some room))) =
      .state (some (playbackWord control room, control.currentFrame))
        ((announcement room.state).map announced) := by
  have hfields := splitFields_received control fun action haction =>
    (htime action haction).1
  have hsame : sessionChanged joinedSessionID (lineFields control room) = false := by
    unfold lineFields stateFields sessionChanged
    dsimp only [List.cons_append]
    rw [parseUnsigned_ofNat control.sessionId.toNat_lt, hsession]
    simp
  have hplayback : hostPlayback (lineFields control room) =
      some (playbackWord control room, control.currentFrame) := by
    unfold lineFields stateFields hostPlayback
    dsimp only [List.cons_append]
    rw [parseUnsigned_ofNat control.currentFrame.toNat_lt]
    simp
  have haction : scheduledAction (lineFields control room) =
      (announcement room.state).map announced := by
    unfold lineFields
    rw [scheduledAction_skip]
    cases hannouncement : announcement room.state with
    | none => rfl
    | some action => exact scheduledAction_actionWords (htime action hannouncement)
  unfold handleHostState
  rw [hfields]
  dsimp only
  rw [hsame, hplayback, haction]
  rfl

end HostControlChannel

end SyncAudio
