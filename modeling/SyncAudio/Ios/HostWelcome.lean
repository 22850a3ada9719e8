import SyncAudio.Ios.HostControlChannel
import SyncAudio.Lib.InputStream

/-!
# The lines of the host on the phone

`receive` gathers the bytes of the connection and cuts them into lines, `handle`
turns each line into calls of the callbacks. The welcome is read by `HostWelcome`.

## Implementation notes

The parser of the numeric address belongs to the system and is a parameter. The calls
of the callbacks are recorded in their order. Once the connection is given up nothing
more is received on it; the retries are left out. A symbol of a line stands for a
`Character` of Swift; the lines of the host are ASCII, one symbol for each byte.
-/

namespace SyncAudio

open Text

structure HostWelcome (Address : Type) where
  sessionID : UInt64
  streamID : UInt32
  audioPort : UInt16
  clockPort : UInt16
  sampleRate : UInt32
  channels : UInt16
  hostIPv4 : Address
  deriving DecidableEq

namespace HostControlChannel

variable {Address : Type} (ipv4Address : Text → Option Address)

/-- The numbers in the fields of a welcome, as wide as they are. -/
def welcomeFields (session stream audio clock rate channels host : Text) :
    Option (HostWelcome Address) := do
  let sessionID ← parseUnsigned (2 ^ 64) session
  let streamID ← parseUnsigned (2 ^ 32) stream
  let audioPort ← parseUnsigned (2 ^ 16) audio
  let clockPort ← parseUnsigned (2 ^ 16) clock
  let sampleRate ← parseUnsigned (2 ^ 32) rate
  let channels ← parseUnsigned (2 ^ 16) channels
  let hostIPv4 ← ipv4Address host
  if sessionID > 0 ∧ streamID > 0 ∧ audioPort > 0 ∧ clockPort > 0 ∧
      (8000 ≤ sampleRate ∧ sampleRate ≤ 192000) ∧ (1 ≤ channels ∧ channels ≤ 2) then
    pure {
      sessionID := UInt64.ofNat sessionID
      streamID := UInt32.ofNat streamID
      audioPort := UInt16.ofNat audioPort
      clockPort := UInt16.ofNat clockPort
      sampleRate := UInt32.ofNat sampleRate
      channels := UInt16.ofNat channels
      hostIPv4 }
  else none

/-- `HostWelcome(line:)`. -/
def hostWelcome (line : Text) : Option (HostWelcome Address) :=
  match splitFields line with
  | [keyword, session, stream, audio, clock, rate, channels, host] =>
      if keyword = "WELCOME".toList then
        welcomeFields ipv4Address session stream audio clock rate channels host
      else none
  | _ => none

/-- A call of a callback. -/
inductive Event (Address : Type) where
  | welcome (welcome : HostWelcome Address)
  | state (text : Text)
  | lost
  | room (roomID name : Text)
  | syncAt (time : UInt64)
  | hostPlayback (playback : Text) (frame : UInt64)
  | scheduledAction (action : ScheduledHostAction)
  deriving DecidableEq

/-- What the lines of a connection have led to. -/
structure Session (Address : Type) where
  joinedSessionID : Option UInt64 := none
  lost : Bool := false
  events : List (Event Address) := []

namespace Session

variable (session : Session Address)

def call (events : List (Event Address)) : Session Address :=
  { session with events := session.events ++ events }

/-- `scheduleRetry` -/
def retry : Session Address := { session with lost := true, events := session.events ++ [.lost] }

/-- The calls for a line on the state of the host. -/
def stateEvents (line : Text) (playback : Option (Text × UInt64))
    (action : Option ScheduledHostAction) : List (Event Address) :=
  .state line ::
    ((playback.toList.map fun (playback, frame) => .hostPlayback playback frame) ++
      action.toList.map .scheduledAction)

def handle (line : Text) : Session Address :=
  match hostWelcome ipv4Address line with
  | some welcome =>
      { session with
        joinedSessionID := some welcome.sessionID
        events := session.events ++ [.welcome welcome] }
  | none =>
      if "HOST_STATE ".toList.isPrefixOf line then
        match handleHostState session.joinedSessionID line with
        | .retry => session.retry
        | .state playback action => session.call (stateEvents line playback action)
      else if "ROOM ".toList.isPrefixOf line then
        match splitAtMost 2 [] line with
        | [_, roomID, name] => session.call [.room roomID name]
        | _ => session
      else if "SYNC_AT ".toList.isPrefixOf line then
        match parseUnsigned (2 ^ 64) (line.drop 8) with
        | some time => session.call [.syncAt (UInt64.ofNat time)]
        | none => session
      else if line = "VERSION 2".toList then session.call [.state "Protocol version 2".toList]
      else if "ERROR ".toList.isPrefixOf line then session.retry
      else session

/-- A line of the loop in `receive`, unless an earlier one has ended the connection. -/
def handleNext (line : Text) : Session Address :=
  if session.lost then session else session.handle ipv4Address line

end Session

/-- A connection to the host. -/
structure Connection (Address : Type) where
  session : Session Address := {}
  input : Text := []

/-- The complete lines of a text and what follows the last of them. -/
def cutLines (line : Text) : Text → List Text × Text
  | [] => ([], line)
  | c :: rest =>
      if c = '\n' then (line :: (cutLines [] rest).1, (cutLines [] rest).2)
      else cutLines (line ++ [c]) rest

/-- `receive` of some data. -/
def receive (connection : Connection Address) (data : Text) : Connection Address :=
  let input := connection.input ++ data
  if connection.session.lost then connection
  else if input.length > 1024 then { session := connection.session.retry }
  else
    let (lines, rest) := cutLines [] input
    let session := lines.foldl (Session.handleNext ipv4Address) connection.session
    { session, input := if session.lost then [] else rest }

section Receive

variable {word rest : Text}

theorem cutLines_word (hword : ∀ c ∈ word, c ≠ '\n') (before rest : Text) :
    cutLines before (word ++ rest) = cutLines (before ++ word) rest := by
  induction word generalizing before with
  | nil => rw [List.nil_append, List.append_nil]
  | cons c word ih =>
      rw [List.cons_append, cutLines, if_neg (hword c List.mem_cons_self),
        ih (fun d hd => hword d (List.mem_cons_of_mem _ hd)), List.append_assoc,
        List.singleton_append]

/-- A line ends at its line feed. -/
theorem cutLines_line (hword : ∀ c ∈ word, c ≠ '\n') (rest : Text) :
    cutLines [] (word ++ '\n' :: rest) = (word :: (cutLines [] rest).1, (cutLines [] rest).2) := by
  rw [cutLines_word hword, List.nil_append, cutLines, if_pos rfl]

/-- What follows the last line has no line feed. -/
theorem cutLines_rest {before : Text} (hbefore : ∀ c ∈ before, c ≠ '\n') (text : Text) :
    ∀ c ∈ (cutLines before text).2, c ≠ '\n' := by
  induction text generalizing before with
  | nil => exact hbefore
  | cons c text ih =>
      rw [cutLines]
      split_ifs with hfeed
      · exact ih nofun
      · apply ih
        intro d hd
        obtain hd | hd := List.mem_append.mp hd
        · exact hbefore d hd
        · exact List.mem_singleton.mp hd ▸ hfeed

theorem cutLines_append (before text more : Text) :
    cutLines before (text ++ more) =
      ((cutLines before text).1 ++ (cutLines (cutLines before text).2 more).1,
        (cutLines (cutLines before text).2 more).2) := by
  induction text generalizing before with
  | nil => rfl
  | cons c text ih =>
      rw [List.cons_append, cutLines, cutLines]
      split_ifs with hfeed
      · rw [ih]
        rfl
      · exact ih _

theorem cutLines_length (before text : Text) :
    (cutLines before text).2.length ≤ before.length + text.length := by
  induction text generalizing before with
  | nil => exact Nat.le_add_right _ _
  | cons c text ih =>
      rw [cutLines]
      split_ifs with hfeed
      · calc
          (cutLines [] text).2.length ≤ 0 + text.length := ih []
          _ ≤ before.length + (text.length + 1) := by omega
      · have hle := ih (before ++ [c])
        rw [List.length_append, List.length_singleton] at hle
        rw [List.length_cons]
        omega

theorem foldl_handleNext_of_lost {session : Session Address} (h : session.lost = true)
    (lines : List Text) : lines.foldl (Session.handleNext ipv4Address) session = session := by
  induction lines with
  | nil => rfl
  | cons line lines ih =>
      rw [List.foldl_cons, Session.handleNext, if_pos h]
      exact ih

/-- However the bytes arrive, the lines that they hold are handled. -/
theorem foldl_receive (session : Session Address) {chunks : List Text}
    (hlength : chunks.flatten.length ≤ 1024) :
    (chunks.foldl (receive ipv4Address) { session }).session =
      (cutLines [] chunks.flatten).1.foldl (Session.handleNext ipv4Address) session ∧
    ((chunks.foldl (receive ipv4Address) { session }).session.lost = false →
      (chunks.foldl (receive ipv4Address) { session }).input = (cutLines [] chunks.flatten).2) := by
  induction chunks using List.reverseRecOn with
  | nil => exact ⟨rfl, fun _ => rfl⟩
  | append_singleton chunks data ih =>
      rw [List.flatten_append, List.flatten_singleton] at hlength ⊢
      rw [List.length_append] at hlength
      obtain ⟨hsession, hinput⟩ := ih (by omega)
      rw [List.foldl_append, List.foldl_cons, List.foldl_nil, cutLines_append, List.foldl_append,
        ← hsession]
      generalize hconnection : chunks.foldl (receive ipv4Address) { session } = connection at *
      unfold receive
      dsimp only
      by_cases hover : connection.session.lost = true
      · rw [if_pos hover, foldl_handleNext_of_lost ipv4Address hover]
        exact ⟨rfl, fun hopen => absurd (hover.symm.trans hopen) nofun⟩
      · have hrest := hinput (Bool.eq_false_iff.mpr hover)
        have hfeed := cutLines_rest (fun _ h => absurd h List.not_mem_nil) chunks.flatten
        have hsmall : ¬ (connection.input ++ data).length > 1024 := by
          have hle := cutLines_length [] chunks.flatten
          rw [List.length_nil, ← hrest] at hle
          rw [List.length_append]
          omega
        rw [if_neg hover, if_neg hsmall, hrest, cutLines_word hfeed, List.nil_append]
        refine ⟨rfl, fun hopen => ?_⟩
        dsimp only at hopen ⊢
        rw [if_neg (by rw [hopen]; exact Bool.false_ne_true)]

end Receive

end HostControlChannel

end SyncAudio
