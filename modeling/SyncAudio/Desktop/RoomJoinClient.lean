import SyncAudio.Lib.InputStream
import SyncAudio.Lib.Word

/-!
# The desktop client of a room

`RoomJoinClient` says `HELLO` and `JOIN` to a host and reads five lines: the version,
the welcome, the name of the room, the sync point and the state of the host. Later it
asks for the state again and again.

## Implementation notes

The lines come out of the text that the host sends; its end is a lost connection. The
socket itself and the messages sent are left out.
-/

namespace SyncAudio

open Text

structure JoinedRoomState where
  sessionId : UInt64 := 0
  streamId : UInt32 := 0
  audioPort : UInt16 := 0
  clockPort : UInt16 := 0
  roomName : Text := []
  playbackState : Text := "STOPPED".toList
  connected : Bool := false
  deriving DecidableEq

namespace RoomJoinClient

/-- The loop of `readLine`, with some characters of the line read. -/
def readCharacters : Nat → Text → Text → Except String (Text × Text)
  | 0, _, _ => .error "Room control line exceeded limit"
  | _ + 1, _, [] => .error "Room control connection was lost"
  | count + 1, line, character :: rest =>
      if character = '\n' then .ok (line, rest)
      else if 32 ≤ character.toNat ∧ character.toNat < 127 then
        readCharacters count (line ++ [character]) rest
      else .error "Malformed room control response"

/-- A line and what follows it. -/
def readLine (received : Text) : Except String (Text × Text) := readCharacters 512 [] received

/-- The extractions from the welcome: its keyword and the fields of the state. -/
def extractWelcome (line : Text) : Option (Text × UInt64 × UInt32 × Nat × Nat) := do
  let (keyword, input) ← readWord line
  let (sessionId, input) ← readUnsigned (2 ^ 64) input
  let (streamId, input) ← readUnsigned (2 ^ 32) input
  let (audioPort, input) ← readUnsigned (2 ^ 32) input
  let (clockPort, input) ← readUnsigned (2 ^ 32) input
  let (_sampleRate, input) ← readUnsigned (2 ^ 32) input
  let (_channels, input) ← readUnsigned (2 ^ 32) input
  let (_host, _) ← readWord input
  pure (keyword, UInt64.ofNat sessionId, UInt32.ofNat streamId, audioPort, clockPort)

/-- The state behind the welcome. -/
def readWelcome (line : Text) : Except String JoinedRoomState :=
  match extractWelcome line with
  | none => .error "Room welcome was invalid"
  | some (keyword, sessionId, streamId, audioPort, clockPort) =>
      if keyword ≠ "WELCOME".toList ∨ sessionId = 0 ∨ streamId = 0 ∨ audioPort = 0 ∨
          65535 < audioPort ∨ clockPort = 0 ∨ 65535 < clockPort then
        .error "Room welcome was invalid"
      else
        .ok {
          sessionId, streamId
          audioPort := UInt16.ofNat audioPort
          clockPort := UInt16.ofNat clockPort }

/-- The name of the room: what follows the first space behind the prefix. -/
def readRoom (state : JoinedRoomState) (line : Text) : Except String JoinedRoomState :=
  if "ROOM ".toList.isPrefixOf line then
    match (line.drop 5).dropWhile fun c => c ≠ ' ' with
    | [] => .ok state
    | _ :: roomName => .ok { state with roomName }
  else .error "Room metadata was missing"

/-- The loop of `updateState` over the words behind the frame: the number behind the
last `STREAM`. -/
def readStream (stream : UInt32) (input : Text) : Except String UInt32 :=
  match _hword : readWord input with
  | none => .ok stream
  | some (token, rest) =>
      if token = "STREAM".toList then
        match _hnumber : readUnsigned (2 ^ 32) rest with
        | none => .error "Room stream ID was invalid"
        | some (number, rest') => readStream (UInt32.ofNat number) rest'
      else readStream stream rest
termination_by input.length
decreasing_by
  · exact Nat.lt_of_le_of_lt (readUnsigned_length _hnumber) (readWord_length _hword)
  · exact readWord_length _hword

/-- The extractions of `updateState`: keyword, playback, session and what is left. -/
def extractState (line : Text) : Option (Text × Text × UInt64 × Text) := do
  let (keyword, input) ← readWord line
  let (playback, input) ← readWord input
  let (session, input) ← readUnsigned (2 ^ 64) input
  let (_frame, input) ← readUnsigned (2 ^ 64) input
  pure (keyword, playback, UInt64.ofNat session, input)

def updateState (state : JoinedRoomState) (line : Text) : Except String JoinedRoomState :=
  match extractState line with
  | none => .error "Room session changed"
  | some (keyword, playback, session, input) =>
      if keyword ≠ "HOST_STATE".toList ∨ session ≠ state.sessionId then
        .error "Room session changed"
      else do
        let stream ← readStream state.streamId input
        pure { state with playbackState := playback, streamId := stream }

/-- The constructor, on what the host sends. -/
def join (received : Text) : Except String JoinedRoomState := do
  let (version, received) ← readLine received
  if version ≠ "VERSION 2".toList then .error "Room protocol version differs"
  else
    let (welcome, received) ← readLine received
    let state ← readWelcome welcome
    let (roomLine, received) ← readLine received
    let state ← readRoom state roomLine
    let (syncPoint, received) ← readLine received
    if ¬ "SYNC_AT ".toList.isPrefixOf syncPoint then .error "Room sync point was missing"
    else
      let (hostState, _) ← readLine received
      let state ← updateState state hostState
      pure { state with connected := true }

section Lines

/-- The characters that a line may have. -/
def Printable (line : Text) : Prop := ∀ c ∈ line, 32 ≤ c.toNat ∧ c.toNat < 127

variable {line : Text} {count : Nat}

theorem printable_of_all (hall : (line.all fun c => 32 ≤ c.toNat ∧ c.toNat < 127) = true) :
    Printable line :=
  fun c hc => of_decide_eq_true (List.all_eq_true.mp hall c hc)

theorem readCharacters_line (hline : Printable line) (hlength : line.length < count)
    (before rest : Text) :
    readCharacters count before (line ++ '\n' :: rest) = .ok (before ++ line, rest) := by
  induction line generalizing count before with
  | nil =>
      cases count with
      | zero => exact absurd hlength (Nat.not_lt_zero _)
      | succ count =>
          rw [List.nil_append, List.append_nil, readCharacters, if_pos rfl]
  | cons c line ih =>
      have hc := hline c List.mem_cons_self
      have hfeed : c ≠ '\n' := by
        rintro rfl
        exact absurd hc.1 (by decide)
      cases count with
      | zero => exact absurd hlength (Nat.not_lt_zero _)
      | succ count =>
          rw [List.cons_append, readCharacters, if_neg hfeed, if_pos hc,
            ih (fun d hd => hline d (List.mem_cons_of_mem _ hd)) (Nat.lt_of_succ_lt_succ hlength),
            List.append_assoc, List.singleton_append]

/-- A printable line of less than 512 characters is read as it is. -/
theorem readLine_line (hline : Printable line) (hlength : line.length < 512) (rest : Text) :
    readLine (line ++ '\n' :: rest) = .ok (line, rest) :=
  readCharacters_line hline hlength [] rest

/-- A line as the host sends it to its clients. -/
structure IsLine (line : Text) : Prop where
  printable : Printable line
  length_lt : line.length < 512

/-- The five lines are handled one by one. -/
theorem join_lines {version welcome roomLine syncPoint hostState : Text} (hversion : IsLine version)
    (hwelcome : IsLine welcome) (hroom : IsLine roomLine) (hsync : IsLine syncPoint)
    (hstate : IsLine hostState) (hequal : version = "VERSION 2".toList)
    (hbegins : "SYNC_AT ".toList.isPrefixOf syncPoint = true) :
    join (version ++ '\n' :: (welcome ++ '\n' :: (roomLine ++ '\n' ::
      (syncPoint ++ '\n' :: (hostState ++ ['\n']))))) = (do
        let state ← readWelcome welcome
        let state ← readRoom state roomLine
        let state ← updateState state hostState
        pure { state with connected := true }) := by
  unfold join
  rw [readLine_line hversion.printable hversion.length_lt]
  simp only [bind, Except.bind]
  rw [if_neg (not_not.mpr hequal), readLine_line hwelcome.printable hwelcome.length_lt]
  dsimp only
  cases readWelcome welcome with
  | error message => rfl
  | ok state =>
      dsimp only
      rw [readLine_line hroom.printable hroom.length_lt]
      dsimp only
      cases readRoom state roomLine with
      | error message => rfl
      | ok state =>
          dsimp only
          rw [readLine_line hsync.printable hsync.length_lt]
          dsimp only
          rw [if_neg (not_not.mpr hbegins), readLine_line hstate.printable hstate.length_lt]

end Lines

section Stream

variable {stream : UInt32}

theorem readStream_nil (stream : UInt32) : readStream stream (spaced []) = .ok stream := by
  rw [readStream]
  rfl

/-- Other words than `STREAM` are skipped. -/
theorem readStream_skip {word : Text} (hword : IsWord word) (hne : word ≠ "STREAM".toList)
    (words : List Text) :
    readStream stream (spaced (word :: words)) = readStream stream (spaced words) := by
  rw [readStream]
  split
  · next hnone =>
      rw [readWord_spaced hword] at hnone
      cases hnone
  · next hsome =>
      rw [readWord_spaced hword] at hsome
      obtain ⟨rfl, rfl⟩ := Prod.mk.inj (Option.some.inj hsome)
      exact if_neg hne

theorem readStream_words {words : List Text}
    (hwords : ∀ word ∈ words, IsWord word ∧ word ≠ "STREAM".toList) :
    readStream stream (spaced words) = .ok stream := by
  induction words with
  | nil => exact readStream_nil stream
  | cons word words ih =>
      obtain ⟨hword, hne⟩ := hwords word List.mem_cons_self
      rw [readStream_skip hword hne]
      exact ih fun other hother => hwords other (List.mem_cons_of_mem _ hother)

theorem readStream_stream (number : UInt32) (words : List Text) :
    readStream stream (spaced ("STREAM".toList :: ofNat number.toNat :: words)) =
      readStream number (spaced words) := by
  have hstream : IsWord "STREAM".toList := isWord_of_all (by simp [isSpace])
  have hnumber := readUnsigned_spaced number.toNat_lt words
  rw [readStream]
  split
  · next hnone =>
      rw [readWord_spaced hstream] at hnone
      cases hnone
  · next hsome =>
      rw [readWord_spaced hstream] at hsome
      obtain ⟨rfl, rfl⟩ := Prod.mk.inj (Option.some.inj hsome)
      rw [if_pos rfl]
      split
      · next hnone =>
          rw [hnumber] at hnone
          cases hnone
      · next hsome =>
          rw [hnumber] at hsome
          obtain ⟨rfl, rfl⟩ := Prod.mk.inj (Option.some.inj hsome)
          rw [UInt32.ofNat_toNat]

end Stream

end RoomJoinClient

end SyncAudio
