import SyncAudio.Core.Room
import SyncAudio.Lib.FloatText

/-!
# The control channel

The line protocol between the host and its phones and shells: `responseFor`
answers one line, `serveClient` cuts the bytes of a connection into lines.

## Implementation notes

The room that `ControlStreamState` points to is passed beside it. A line is
answered at one clock reading, which is an input. Sending to a connected peer
succeeds. An exception that a room operation throws escapes the thread.

`hostStateLine` is composed at one moment. The program loads `playing` and the frame and
takes two snapshots of the room, one after the other. The stream and the action of a line
are of the second snapshot alone, and no result relates the word and the frame in front
of them to it.
-/

namespace SyncAudio

open Text

structure ControlStreamState where
  sessionId : UInt64 := 0
  streamId : UInt32 := 1
  audioPort : UInt16 := 40100
  clockPort : UInt16 := 40101
  hostAddress : Text := []
  sampleRate : UInt32 := 0
  channels : UInt16 := 0
  totalFrames : UInt64 := 0
  currentFrame : UInt64 := 0
  playing : Bool := false

/-- The locals of `serveClient` that `responseFor` updates. -/
structure ControlClient where
  joinedDeviceId : Text := []
  membershipToken : UInt64 := 0
  deriving DecidableEq

namespace ControlServer

/-- What `responseFor` returns and what it leaves behind. -/
structure Response where
  text : Text
  room : Option Room
  client : ControlClient

def validDeviceId (id : Text) : Bool :=
  id ≠ [] ∧ id.length ≤ 64 ∧ id.all fun c => isAlnum c || c = '-' || c = '_'

def actionName : RoomAction → Text
  | .play => "PLAY".toList
  | .pause => "PAUSE".toList
  | .seek => "SEEK".toList
  | .stop => "STOP".toList

def connectionName : RoomConnectionState → Text
  | .connected => "CONNECTED".toList
  | .syncing => "SYNCING".toList
  | .buffering => "BUFFERING".toList
  | .synced => "SYNCED".toList
  | .degraded => "DEGRADED".toList
  | .reconnecting => "RECONNECTING".toList

/-- The inverse of `connectionName`, as the branches of `CLIENT_STATE` spell it. -/
def parseConnection (status : Text) : Option RoomConnectionState :=
  if status = "CONNECTED".toList then some .connected
  else if status = "SYNCING".toList then some .syncing
  else if status = "BUFFERING".toList then some .buffering
  else if status = "SYNCED".toList then some .synced
  else if status = "DEGRADED".toList then some .degraded
  else if status = "RECONNECTING".toList then some .reconnecting
  else none

/-- One announced action, behind its keyword. -/
def actionFields (action : ScheduledRoomAction) : Text :=
  actionName action.action ++ ' ' :: ofInt action.effectiveHostNanoseconds ++
    ' ' :: ofNat action.seekFrame.toNat ++ ' ' :: ofNat action.nextStreamId.toNat

/-- The announced action at the end of a `HOST_STATE` line. -/
def announcementText (room : RoomState) : Text :=
  match room.pendingAction, room.recentAction with
  | some pending, _ => " PENDING ".toList ++ actionFields pending
  | none, some recent => " ACTION ".toList ++ actionFields recent
  | none, none => []

def hostStateLine (state : ControlStreamState) (room : Option Room) : Text :=
  let paused := room.any fun room => room.state.playbackState = .paused
  let playback :=
    if paused then "PAUSED".toList else if state.playing then "PLAYING".toList else "STOPPED".toList
  "HOST_STATE ".toList ++ playback ++ ' ' :: ofNat state.sessionId.toNat ++
    ' ' :: ofNat state.currentFrame.toNat ++
    (match room with
      | none => []
      | some room =>
          " STREAM ".toList ++ ofNat room.state.streamId.toNat ++ announcementText room.state) ++
      ['\n']

def joinResponse (state : ControlStreamState) (room : Option Room) (peerAddress : Text)
    (now : Int) (client : ControlClient) (deviceId : Text) : Except String Response :=
  if !validDeviceId deviceId then
    .ok { text := "ERROR invalid-device-id\n".toList, room, client }
  else do
    let welcome := "WELCOME ".toList ++ ofNat state.sessionId.toNat ++
      ' ' :: ofNat state.streamId.toNat ++ ' ' :: ofNat state.audioPort.toNat ++
      ' ' :: ofNat state.clockPort.toNat ++ ' ' :: ofNat state.sampleRate.toNat ++
      ' ' :: ofNat state.channels.toNat ++ ' ' :: state.hostAddress ++ ['\n']
    match room with
    | none => pure { text := welcome, room := none, client }
    | some room =>
        let room :=
          if client.joinedDeviceId ≠ [] then
            room.leave client.joinedDeviceId client.membershipToken
          else room
        let (token, room) ← room.join deviceId peerAddress state.audioPort
        pure {
          text := welcome ++ "ROOM ".toList ++ room.state.roomId ++ ' ' :: room.state.roomName ++
            '\n' :: "SYNC_AT ".toList ++ ofInt (now + 500000000) ++ '\n' ::
            hostStateLine state room
          room := some room
          client := { joinedDeviceId := deviceId, membershipToken := token } }

def memberLine (member : RoomMember) : Text :=
  "MEMBER ".toList ++ member.deviceId ++ ' ' :: connectionName member.connectionState ++
    ' ' :: FloatText.toStringFixed member.roundTripMs ++
    ' ' :: FloatText.toStringFixed member.packetLossPercent ++
    ' ' :: FloatText.toStringFixed member.bufferDepthMs ++
    ' ' :: FloatText.toStringFixed member.outputLatencyMs ++ ' ' :: member.outputRoute ++ ['\n']

def membersResponse (room : Room) : Text :=
  (room.members.entries.flatMap fun entry => memberLine entry.2) ++ "END\n".toList

/-- The seven numbers of a health report, in the order of the line. -/
structure ClientMetrics where
  roundTripMs : Binary64
  networkJitterMs : Binary64
  packetLossPercent : Binary64
  bufferDepthMs : Binary64
  estimatedSyncErrorMs : Binary64
  outputLatencyMs : Binary64
  clockOffsetMs : Binary64

def ClientMetrics.toList (metrics : ClientMetrics) : List Binary64 :=
  [metrics.roundTripMs, metrics.networkJitterMs, metrics.packetLossPercent, metrics.bufferDepthMs,
    metrics.estimatedSyncErrorMs, metrics.outputLatencyMs, metrics.clockOffsetMs]

def readMetrics (text : Text) : Option (ClientMetrics × Text) := do
  let (roundTripMs, text) ← FloatText.readFloat text
  let (networkJitterMs, text) ← FloatText.readFloat text
  let (packetLossPercent, text) ← FloatText.readFloat text
  let (bufferDepthMs, text) ← FloatText.readFloat text
  let (estimatedSyncErrorMs, text) ← FloatText.readFloat text
  let (outputLatencyMs, text) ← FloatText.readFloat text
  let (clockOffsetMs, text) ← FloatText.readFloat text
  pure ({ roundTripMs, networkJitterMs, packetLossPercent, bufferDepthMs, estimatedSyncErrorMs,
          outputLatencyMs, clockOffsetMs }, text)

/-- A metric the server accepts. -/
def acceptedMetric : Binary64 → Bool
  | .finite x => x.magnitude ≤ 1000000
  | _ => false

def validRoute (route : Text) : Bool :=
  route ≠ [] ∧ route.length ≤ 32 ∧ route.all fun c => isAlnum c || c = '_' || c = '-'

/-- The optional route at the end of a health report: `none` where the report
is invalid. -/
def readRoute (text current : Text) : Option Text :=
  match readWord text with
  | none => some current
  | some (route, rest) =>
      if validRoute route then if (readWord rest).isNone then some route else none else none

/-- The record a health report asks for, or nothing if it is invalid. -/
def readClientState (member : RoomMember) (report : Text) : Option RoomMember := do
  let (status, text) ← readWord report
  let (metrics, text) ← readMetrics text
  let outputRoute ← readRoute text member.outputRoute
  if !metrics.toList.all acceptedMetric then none
  else do
    let connectionState ← parseConnection status
    pure { member with
      connectionState, outputRoute
      roundTripMs := metrics.roundTripMs
      networkJitterMs := metrics.networkJitterMs
      packetLossPercent := metrics.packetLossPercent
      bufferDepthMs := metrics.bufferDepthMs
      estimatedSyncErrorMs := metrics.estimatedSyncErrorMs
      outputLatencyMs := metrics.outputLatencyMs
      clockOffsetMs := metrics.clockOffsetMs }

/-- A health report never renames a member. -/
theorem readClientState_identity {member updated : RoomMember} {report : Text}
    (h : readClientState member report = some updated) :
    updated.deviceId = member.deviceId ∧ updated.membershipToken = member.membershipToken := by
  unfold readClientState at h
  simp only [Option.bind_eq_bind, Option.bind_eq_some_iff] at h
  obtain ⟨status, -, metrics, -, route, -, h⟩ := h
  split_ifs at h
  obtain ⟨state, -, h⟩ := Option.bind_eq_some_iff.mp h
  cases h
  exact ⟨rfl, rfl⟩

def clientStateResponse (room : Room) (client : ControlClient) (report : Text) : Text × Room :=
  if client.joinedDeviceId = [] then ("ERROR not-joined\n".toList, room)
  else
    match (room.members.lookup client.joinedDeviceId).filter fun member =>
        member.membershipToken = client.membershipToken with
    | none => ("ERROR not-joined\n".toList, room)
    | some member =>
        match readClientState member report with
        | none => ("ERROR invalid-client-state\n".toList, room)
        | some updated =>
            let (changed, room) := room.updateMember updated
            (if changed then "OK\n".toList else "ERROR not-joined\n".toList, room)

/-- The answer to a report of the current member, and what it stores. -/
theorem clientStateResponse_member {room : Room} {client : ControlClient} {member : RoomMember}
    (hjoined : client.joinedDeviceId ≠ [])
    (hlookup : room.members.lookup client.joinedDeviceId = some member)
    (hname : member.deviceId = client.joinedDeviceId)
    (htoken : member.membershipToken = client.membershipToken) (text : Text) :
    clientStateResponse room client text =
      match readClientState member text with
      | none => ("ERROR invalid-client-state\n".toList, room)
      | some updated => ("OK\n".toList,
          { room with members := room.members.replace client.joinedDeviceId updated }) := by
  have hfound : (some member).filter (fun member => member.membershipToken =
      client.membershipToken) = some member := Option.filter_some_pos (decide_eq_true htoken)
  unfold clientStateResponse
  rw [if_neg hjoined, hlookup, hfound]
  dsimp only
  cases hread : readClientState member text with
  | none => rfl
  | some updated =>
      obtain ⟨hdevice, hkept⟩ := readClientState_identity hread
      have hcurrent : ((room.members.lookup updated.deviceId).any fun current =>
          current.membershipToken = updated.membershipToken) = true := by
        rw [hdevice, hname, hlookup, hkept]
        exact decide_eq_true rfl
      have hupdate : room.updateMember updated = (true,
          { room with members := room.members.replace client.joinedDeviceId updated }) := by
        unfold Room.updateMember
        rw [if_pos hcurrent, hdevice, hname]
      dsimp only
      rw [hupdate]
      rfl

/-- What a command line asks for. -/
structure RoomCommand where
  action : RoomAction
  seekFrame : UInt64
  nextStreamId : UInt32
  deriving DecidableEq, Repr

def isCommand (line : Text) : Bool :=
  line = "PLAY".toList || line = "PAUSE".toList || line = "STOP".toList ||
    "SEEK ".toList.isPrefixOf line

/-- The action and the frame of a command line, or the error line. -/
def parseCommand (totalFrames : UInt64) (line : Text) : Except Text (RoomAction × UInt64) :=
  if line = "PAUSE".toList then .ok (.pause, 0)
  else if line = "STOP".toList then .ok (.stop, 0)
  else if "SEEK ".toList.isPrefixOf line then
    match toNat? (2 ^ 64) (line.drop 5) with
    | none => .error "ERROR invalid-seek\n".toList
    | some frame =>
        if totalFrames ≠ 0 ∧ totalFrames.toNat ≤ frame then
          .error "ERROR seek-out-of-range\n".toList
        else .ok (.seek, UInt64.ofNat frame)
  else .ok (.play, 0)

/-- The successor of a stream identifier, skipping zero. -/
def rotate (streamId : UInt32) : UInt32 := if streamId + 1 = 0 then 1 else streamId + 1

/-- The state check of a command, made on a snapshot of the room. -/
def invalidState (playbackState : RoomPlaybackState) (action : RoomAction) : Bool :=
  (action = .play && playbackState = .playing) || (action = .pause && playbackState ≠ .playing) ||
    (action = .seek && playbackState = .stopped)

/-- The checks of a command line, all on one snapshot of the room. -/
def checkCommand (totalFrames : UInt64) (snapshot : RoomState) (peerAddress line : Text) :
    Except Text RoomCommand :=
  if peerAddress ≠ "127.0.0.1".toList then .error "ERROR host-only-command\n".toList
  else do
    let (action, seekFrame) ← parseCommand totalFrames line
    if invalidState snapshot.playbackState action then .error "ERROR invalid-state\n".toList
    else
      pure {
        action, seekFrame
        nextStreamId := if action = .seek then rotate snapshot.streamId else snapshot.streamId }

/-- The time at which a command takes effect, from the clock reading of its line. -/
def effectiveTime (now : Int) : Int := now + 2000000000

def RoomCommand.scheduled (command : RoomCommand) (effective : Int) : ScheduledRoomAction where
  action := command.action
  effectiveHostNanoseconds := effective
  seekFrame := command.seekFrame
  nextStreamId := command.nextStreamId

/-- The last step of a command: put it into the mailbox of the room and answer. -/
def commitCommand (room : Room) (command : RoomCommand) (effective : Int) :
    Except String (Text × Room) := do
  let (accepted, room) ← room.scheduleAction (command.scheduled effective)
  if accepted then
    pure ("SCHEDULED ".toList ++ actionName command.action ++ ' ' :: ofInt effective ++
      ' ' :: ofNat command.seekFrame.toNat ++ ['\n'], room)
  else pure ("ERROR command-pending\n".toList, room)

def commandResponse (state : ControlStreamState) (room : Room) (peerAddress : Text) (now : Int)
    (line : Text) : Except String (Text × Room) :=
  match checkCommand state.totalFrames room.state peerAddress line with
  | .error text => .ok (text, room)
  | .ok command => commitCommand room command (effectiveTime now)

/-- The answer to `MEMBERS`. -/
def membersAnswer (room : Option Room) (peerAddress : Text) : Text :=
  match room with
  | some room =>
      if peerAddress = "127.0.0.1".toList then membersResponse room
      else "ERROR host-only-command\n".toList
  | none => "ERROR host-only-command\n".toList

/-- The answer to `CLIENT_STATE`. -/
def clientStateAnswer (room : Option Room) (client : ControlClient) (report : Text) :
    Text × Option Room :=
  match room with
  | none => ("OK\n".toList, none)
  | some room =>
      let (text, room) := clientStateResponse room client report
      (text, some room)

/-- The answer to a room command. -/
def commandAnswer (state : ControlStreamState) (room : Option Room) (peerAddress : Text)
    (now : Int) (line : Text) : Except String (Text × Option Room) :=
  match room with
  | none => .ok ("ERROR unsupported-command\n".toList, none)
  | some room => (commandResponse state room peerAddress now line).map fun (text, room) =>
      (text, some room)

def responseFor (state : ControlStreamState) (room : Option Room) (peerAddress : Text)
    (now : Int) (client : ControlClient) (line : Text) : Except String Response :=
  if line = "HELLO 2".toList then .ok { text := "VERSION 2\n".toList, room, client }
  else if "HELLO ".toList.isPrefixOf line then
    .ok { text := "ERROR protocol-version\n".toList, room, client }
  else if "JOIN ".toList.isPrefixOf line then
    joinResponse state room peerAddress now client (line.drop 5)
  else if line = "HOST_STATE".toList then .ok { text := hostStateLine state room, room, client }
  else if line = "MEMBERS".toList then
    .ok { text := membersAnswer room peerAddress, room, client }
  else if "CLIENT_STATE ".toList.isPrefixOf line then
    let (text, room) := clientStateAnswer room client (line.drop 13)
    .ok { text, room, client }
  else if line = "LEAVE".toList then .ok { text := "BYE\n".toList, room, client }
  else if isCommand line then
    (commandAnswer state room peerAddress now line).map fun (text, room) => { text, room, client }
  else .ok { text := "ERROR unknown-command\n".toList, room, client }

/-- The answers that hold no data of the room. -/
def fixedAnswers : List Text :=
  ["VERSION 2\n".toList, "OK\n".toList, "BYE\n".toList, "ERROR protocol-version\n".toList,
    "ERROR invalid-device-id\n".toList, "ERROR not-joined\n".toList,
    "ERROR invalid-client-state\n".toList, "ERROR invalid-seek\n".toList,
    "ERROR seek-out-of-range\n".toList, "ERROR host-only-command\n".toList,
    "ERROR invalid-state\n".toList, "ERROR command-pending\n".toList,
    "ERROR unsupported-command\n".toList, "ERROR unknown-command\n".toList]

/-- The answer to a command that has been accepted. -/
def scheduledLine (command : RoomCommand) (effective : Int) : Text :=
  "SCHEDULED ".toList ++ actionName command.action ++ ' ' :: ofInt effective ++
    ' ' :: ofNat command.seekFrame.toNat ++ ['\n']

section Answers

variable {state : ControlStreamState} {room : Option Room} {peerAddress line text : Text}
  {now : Int}

theorem clientStateResponse_fixed (room : Room) (client : ControlClient) (report : Text) :
    (clientStateResponse room client report).1 ∈ fixedAnswers := by
  unfold clientStateResponse
  by_cases hjoined : client.joinedDeviceId = []
  · rw [if_pos hjoined]
    exact List.mem_of_getElem? (i := 5) rfl
  rw [if_neg hjoined]
  cases (room.members.lookup client.joinedDeviceId).filter fun member =>
      member.membershipToken = client.membershipToken with
  | none => exact List.mem_of_getElem? (i := 5) rfl
  | some member =>
      dsimp only
      cases readClientState member report with
      | none => exact List.mem_of_getElem? (i := 6) rfl
      | some updated =>
          dsimp only
          cases (room.updateMember updated).1 with
          | true => exact List.mem_of_getElem? (i := 1) rfl
          | false => exact List.mem_of_getElem? (i := 5) rfl

theorem clientStateAnswer_fixed (room : Option Room) (client : ControlClient) (report : Text) :
    (clientStateAnswer room client report).1 ∈ fixedAnswers := by
  cases room with
  | none => exact List.mem_of_getElem? (i := 1) rfl
  | some room => exact clientStateResponse_fixed room client report

theorem parseCommand_fixed {totalFrames : UInt64} (h : parseCommand totalFrames line = .error text) :
    text ∈ fixedAnswers := by
  unfold parseCommand at h
  split_ifs at h
  cases hframe : toNat? (2 ^ 64) (line.drop 5) with
  | none =>
      rw [hframe] at h
      cases h
      exact List.mem_of_getElem? (i := 7) rfl
  | some frame =>
      rw [hframe] at h
      dsimp only at h
      split_ifs at h
      cases h
      exact List.mem_of_getElem? (i := 8) rfl

theorem checkCommand_fixed {totalFrames : UInt64} {snapshot : RoomState}
    (h : checkCommand totalFrames snapshot peerAddress line = .error text) :
    text ∈ fixedAnswers := by
  unfold checkCommand at h
  by_cases hpeer : peerAddress ≠ "127.0.0.1".toList
  · rw [if_pos hpeer] at h
    cases h
    exact List.mem_of_getElem? (i := 9) rfl
  rw [if_neg hpeer] at h
  cases hparse : parseCommand totalFrames line with
  | error message =>
      rw [hparse] at h
      cases h
      exact parseCommand_fixed hparse
  | ok command =>
      rw [hparse] at h
      simp only [bind, Except.bind] at h
      by_cases hstate : invalidState snapshot.playbackState command.1 = true
      · rw [if_pos hstate] at h
        cases h
        exact List.mem_of_getElem? (i := 10) rfl
      · rw [if_neg hstate] at h
        cases h

theorem commitCommand_text {room next : Room} {command : RoomCommand} {effective : Int}
    (h : commitCommand room command effective = .ok (text, next)) :
    text ∈ fixedAnswers ∨ text = scheduledLine command effective := by
  unfold commitCommand at h
  cases hschedule : room.scheduleAction (command.scheduled effective) with
  | error message =>
      rw [hschedule] at h
      cases h
  | ok result =>
      rw [hschedule] at h
      simp only [bind, Except.bind] at h
      by_cases haccepted : result.1 = true
      · rw [if_pos haccepted] at h
        cases h
        exact .inr rfl
      · rw [if_neg haccepted] at h
        cases h
        exact .inl (List.mem_of_getElem? (i := 11) rfl)

/-- A command is refused, or answered with its time. -/
theorem commandAnswer_text {answer : Text × Option Room}
    (h : commandAnswer state room peerAddress now line = .ok answer) :
    answer.1 ∈ fixedAnswers ∨ ∃ command, answer.1 = scheduledLine command (effectiveTime now) := by
  unfold commandAnswer commandResponse at h
  cases room with
  | none =>
      cases h
      exact .inl (List.mem_of_getElem? (i := 12) rfl)
  | some room =>
      dsimp only at h
      cases hcheck : checkCommand state.totalFrames room.state peerAddress line with
      | error message =>
          rw [hcheck] at h
          cases h
          exact .inl (checkCommand_fixed hcheck)
      | ok command =>
          rw [hcheck] at h
          dsimp only at h
          cases hcommit : commitCommand room command (effectiveTime now) with
          | error message =>
              rw [hcommit] at h
              cases h
          | ok result =>
              rw [hcommit] at h
              cases h
              exact (commitCommand_text hcommit).imp_right fun htext => ⟨command, htext⟩

end Answers

/-- A connection in `serveClient`. -/
structure Connection where
  line : Text := []
  client : ControlClient := {}
  responses : List Text := []
  closed : Bool := false
  exception : Option String := none
  room : Option Room

/-- The end of the loop: the device leaves the room. -/
def Connection.close (connection : Connection) : Connection :=
  { connection with
    closed := true
    room := connection.room.map fun room =>
      if connection.client.joinedDeviceId ≠ [] then
        room.leave connection.client.joinedDeviceId connection.client.membershipToken
      else room }

/-- `line.pop_back()` on a carriage return. -/
def stripReturn (line : Text) : Text := if line.getLast? = some '\r' then line.dropLast else line

/-- One received character. `now n` is the clock reading of the answer number `n`. -/
def receiveChar (state : ControlStreamState) (peerAddress : Text) (now : Nat → Int)
    (connection : Connection) (character : Char) : Connection :=
  if connection.closed then connection
  else if character = '\n' then
    let line := stripReturn connection.line
    match responseFor state connection.room peerAddress (now connection.responses.length)
        connection.client line with
    | .error message => { connection with exception := some message, closed := true }
    | .ok response =>
        let answered := { connection with
          line := []
          responses := connection.responses ++ [response.text]
          room := response.room
          client := response.client }
        if line = "LEAVE".toList then answered.close else answered
  else if connection.line.length < 256 ∧ 32 ≤ character.toNat ∧ character.toNat < 127 then
    { connection with line := connection.line ++ [character] }
  else
    { connection with
      responses := connection.responses ++ ["ERROR malformed-line\n".toList] }.close

/-- A fresh connection after it has received some characters. -/
def serveClient (state : ControlStreamState) (room : Option Room) (peerAddress : Text)
    (now : Nat → Int) (characters : Text) : Connection :=
  characters.foldl (receiveChar state peerAddress now) { room }

/-- A command line of at most 255 printable characters. -/
structure CommandLine where
  text : Text
  length_le : text.length ≤ 255
  printable : ∀ c ∈ text, 32 ≤ c.toNat ∧ c.toNat < 127

/-- Lines with a line feed behind each. -/
def withLineFeed (lines : List CommandLine) : Text := lines.flatMap fun line => line.text ++ ['\n']

/-- Lines with a carriage return and a line feed behind each. -/
def withReturn (lines : List CommandLine) : Text :=
  lines.flatMap fun line => line.text ++ ['\r', '\n']

/-- Both ways to end a line lead to the same answers and the same room. -/
def SameFraming (state : ControlStreamState) (room : Option Room) (peerAddress : Text)
    (now : Nat → Int) (lines : List CommandLine) : Prop :=
  let fed := serveClient state room peerAddress now (withLineFeed lines)
  let returned := serveClient state room peerAddress now (withReturn lines)
  returned.responses = fed.responses ∧ returned.room = fed.room

section Framing

variable {state : ControlStreamState} {peerAddress : Text} {now : Nat → Int}
  {connection : Connection}

/-- A closed connection answers no more. -/
theorem receive_closed (h : connection.closed = true) (characters : Text) :
    characters.foldl (receiveChar state peerAddress now) connection = connection := by
  induction characters with
  | nil => rfl
  | cons c characters ih => rwa [List.foldl_cons, receiveChar, if_pos h]

/-- Printable characters are collected as long as the line has room. -/
theorem receive_printable {text : Text} (hopen : connection.closed = false)
    (hprintable : ∀ c ∈ text, 32 ≤ c.toNat ∧ c.toNat < 127)
    (hlength : connection.line.length + text.length ≤ 256) :
    text.foldl (receiveChar state peerAddress now) connection =
      { connection with line := connection.line ++ text } := by
  induction text generalizing connection with
  | nil => simp
  | cons c text ih =>
      obtain ⟨hlow, hhigh⟩ := hprintable c List.mem_cons_self
      have hnewline : c ≠ '\n' := by
        rintro rfl
        revert hlow
        decide
      rw [List.length_cons] at hlength
      have hstep : receiveChar state peerAddress now connection c =
          { connection with line := connection.line ++ [c] } := by
        unfold receiveChar
        rw [hopen, if_neg (by decide), if_neg hnewline, if_pos ⟨by omega, hlow, hhigh⟩]
      have hrest := @ih { connection with line := connection.line ++ [c] } hopen
        (fun d hd => hprintable d (List.mem_cons_of_mem _ hd))
        (by rw [List.length_append, List.length_singleton]; omega)
      rw [List.foldl_cons, hstep, hrest]
      simp only [List.append_assoc, List.cons_append, List.nil_append]

/-- The first response on a fresh connection. -/
theorem responses_extend (characters : Text) :
    ∃ later, (characters.foldl (receiveChar state peerAddress now) connection).responses =
      connection.responses ++ later := by
  induction characters generalizing connection with
  | nil => exact ⟨[], by simp⟩
  | cons c characters ih =>
      have hstep : ∃ later, (receiveChar state peerAddress now connection c).responses =
          connection.responses ++ later := by
        unfold receiveChar
        dsimp only
        by_cases hclosed : connection.closed = true
        · rw [if_pos hclosed]
          exact ⟨[], by simp⟩
        rw [if_neg hclosed]
        by_cases hnewline : c = '\n'
        · rw [if_pos hnewline]
          cases responseFor state connection.room peerAddress (now connection.responses.length)
              connection.client (stripReturn connection.line) with
          | error message => exact ⟨[], by simp⟩
          | ok response =>
              dsimp only
              split_ifs <;> exact ⟨[response.text], rfl⟩
        rw [if_neg hnewline]
        split_ifs
        · exact ⟨[], by simp⟩
        · exact ⟨["ERROR malformed-line\n".toList], rfl⟩
      obtain ⟨first, hfirst⟩ := hstep
      obtain ⟨later, hlater⟩ := @ih (receiveChar state peerAddress now connection c)
      exact ⟨first ++ later, by rw [List.foldl_cons, hlater, hfirst, List.append_assoc]⟩

/-- The line that `serveClient` sends before it drops a connection. -/
def malformedLine : Text := "ERROR malformed-line\n".toList

/-- The seventh character tells an answer of `responseFor` from a malformed line. -/
def Regular (text : Text) : Prop := text[6]? ≠ some 'm'

instance (text : Text) : Decidable (Regular text) := inferInstanceAs (Decidable (_ ≠ _))

theorem not_regular_malformedLine : ¬ Regular malformedLine := by
  unfold Regular malformedLine
  simp

theorem regular_append {start : Text} (hlength : 6 < start.length) (h : Regular start)
    (rest : Text) : Regular (start ++ rest) := by
  unfold Regular at *
  rwa [List.getElem?_append_left hlength]

theorem regular_hostStateLine (state : ControlStreamState) (room : Option Room) :
    Regular (hostStateLine state room) := by
  unfold hostStateLine
  dsimp only
  rw [List.append_assoc, List.append_assoc, List.append_assoc, List.append_assoc]
  exact regular_append (by simp) (by simp [Regular]) _

theorem regular_joinResponse {state : ControlStreamState} {room : Option Room}
    {peerAddress : Text} {now : Int} {client : ControlClient} {deviceId : Text}
    {response : Response}
    (h : joinResponse state room peerAddress now client deviceId = .ok response) :
    Regular response.text := by
  unfold joinResponse at h
  by_cases hid : (!validDeviceId deviceId) = true
  · rw [if_pos hid] at h
    cases h
    dsimp only
    simp [Regular]
  · rw [if_neg hid] at h
    cases room with
    | none =>
        cases h
        simp only [List.append_assoc]
        exact regular_append (by simp) (by simp [Regular]) _
    | some room =>
        simp only [bind, Except.bind] at h
        split at h
        · cases h
        · cases h
          simp only [List.append_assoc]
          exact regular_append (by simp) (by simp [Regular]) _

theorem regular_memberLine (member : RoomMember) (rest : Text) :
    Regular (memberLine member ++ rest) := by
  unfold memberLine
  simp only [List.append_assoc]
  exact regular_append (by simp) (by simp [Regular]) _

theorem regular_membersResponse (room : Room) : Regular (membersResponse room) := by
  unfold membersResponse
  cases room.members.entries with
  | nil =>
      rw [List.flatMap_nil, List.nil_append]
      simp [Regular]
  | cons entry entries =>
      rw [List.flatMap_cons, List.append_assoc]
      exact regular_memberLine entry.2 _

theorem regular_membersAnswer (room : Option Room) (peerAddress : Text) :
    Regular (membersAnswer room peerAddress) := by
  unfold membersAnswer
  cases room with
  | none =>
      dsimp only
      simp [Regular]
  | some room =>
      dsimp only
      by_cases hpeer : peerAddress = "127.0.0.1".toList
      · rw [if_pos hpeer]
        exact regular_membersResponse room
      · rw [if_neg hpeer]
        simp [Regular]

theorem regular_of_fixed {text : Text} (h : text ∈ fixedAnswers) : Regular text := by
  have hall : (fixedAnswers.all fun text => decide (Regular text)) = true := by decide +kernel
  exact of_decide_eq_true (List.all_eq_true.mp hall text h)

theorem regular_scheduledLine (command : RoomCommand) (effective : Int) :
    Regular (scheduledLine command effective) := by
  unfold scheduledLine
  simp only [List.append_assoc]
  exact regular_append (by simp) (by simp [Regular]) _

/-- No answer is the one that `serveClient` keeps for malformed lines. -/
theorem regular_responseFor {state : ControlStreamState} {room : Option Room} {peerAddress : Text}
    {now : Int} {client : ControlClient} {line : Text} {response : Response}
    (h : responseFor state room peerAddress now client line = .ok response) :
    Regular response.text := by
  have hanswer {text : Text} {room : Option Room} {client : ControlClient} (htext : Regular text)
      (h : (.ok { text, room, client } : Except String Response) = .ok response) :
      Regular response.text := by
    cases h
    exact htext
  unfold responseFor at h
  split_ifs at h
  · exact hanswer (regular_of_fixed (List.mem_of_getElem? (i := 0) rfl)) h
  · exact hanswer (regular_of_fixed (List.mem_of_getElem? (i := 3) rfl)) h
  · exact regular_joinResponse h
  · exact hanswer (regular_hostStateLine state room) h
  · exact hanswer (regular_membersAnswer room peerAddress) h
  · exact hanswer (regular_of_fixed (clientStateAnswer_fixed room client (line.drop 13))) h
  · exact hanswer (regular_of_fixed (List.mem_of_getElem? (i := 2) rfl)) h
  · cases hcommand : commandAnswer state room peerAddress now line with
    | error message =>
        rw [hcommand] at h
        cases h
    | ok answer =>
        rw [hcommand] at h
        refine hanswer ?_ h
        obtain hfixed | ⟨command, hscheduled⟩ := commandAnswer_text hcommand
        · exact regular_of_fixed hfixed
        · rw [hscheduled]
          exact regular_scheduledLine command (effectiveTime now)
  · exact hanswer (regular_of_fixed (List.mem_of_getElem? (i := 13) rfl)) h

theorem CommandLine.stripReturn_text (line : CommandLine) : stripReturn line.text = line.text := by
  unfold stripReturn
  refine if_neg fun h => ?_
  have := line.printable _ (List.mem_of_getLast? h)
  revert this
  decide

/-- A connection whose first answer is regular has not been dropped by its first line. -/
theorem responses_ne_malformedLine {first : Text} (hregular : Regular first)
    (hfirst : connection.responses = [first]) (characters : Text) :
    (characters.foldl (receiveChar state peerAddress now) connection).responses ≠
      [malformedLine] := by
  obtain ⟨later, hlater⟩ := @responses_extend state peerAddress now connection characters
  rw [hlater, hfirst]
  intro h
  have htext : first = malformedLine := (List.cons.inj h).1
  exact not_regular_malformedLine (htext ▸ hregular)

/-- With line feeds the first answer is not the one for malformed lines. -/
theorem withLineFeed_responses (room : Option Room) (line : CommandLine)
    (lines : List CommandLine) :
    (serveClient state room peerAddress now (withLineFeed (line :: lines))).responses ≠
      [malformedLine] := by
  have hline := @receive_printable state peerAddress now { room } line.text rfl line.printable
    (by have := line.length_le; simpa using Nat.le_succ_of_le this)
  unfold serveClient withLineFeed
  rw [List.flatMap_cons, List.append_assoc, List.foldl_append, hline, List.cons_append,
    List.foldl_cons]
  simp only [List.nil_append]
  have hanswered : receiveChar state peerAddress now { room, line := line.text } '\n' =
      match responseFor state room peerAddress (now 0) {} line.text with
      | .error message => { room, line := line.text, exception := some message, closed := true }
      | .ok response =>
          let answered : Connection :=
            { responses := [response.text], room := response.room, client := response.client }
          if line.text = "LEAVE".toList then answered.close else answered := by
    unfold receiveChar
    dsimp only
    rw [if_neg (by decide), if_pos rfl, line.stripReturn_text]
    rfl
  rw [hanswered]
  cases hresponse : responseFor state room peerAddress (now 0) {} line.text with
  | error message =>
      rw [receive_closed rfl]
      exact List.cons_ne_nil _ _ |>.symm
  | ok response =>
      dsimp only
      apply responses_ne_malformedLine (regular_responseFor hresponse)
      split_ifs <;> rfl

/-- A carriage return is not printable, so the first one drops the connection. -/
theorem withReturn_responses (room : Option Room) (line : CommandLine)
    (lines : List CommandLine) :
    (serveClient state room peerAddress now (withReturn (line :: lines))).responses =
      [malformedLine] := by
  have hline := @receive_printable state peerAddress now { room } line.text rfl line.printable
    (by have := line.length_le; simpa using Nat.le_succ_of_le this)
  have hdropped : receiveChar state peerAddress now { room, line := line.text } '\r' =
      ({ room, line := line.text, responses := [malformedLine] } : Connection).close := by
    unfold receiveChar
    dsimp only
    rw [if_neg (by decide), if_neg (by decide), if_neg fun h => absurd h.2.1 (by decide)]
    rfl
  unfold serveClient withReturn
  rw [List.flatMap_cons, List.append_assoc, List.foldl_append, hline, List.cons_append,
    List.foldl_cons]
  simp only [List.nil_append]
  rw [hdropped, receive_closed rfl]
  rfl

/-- Ending the lines with a carriage return and a line feed makes no difference
if and only if there are no lines. -/
theorem sameFraming_iff (state : ControlStreamState) (room : Option Room) (peerAddress : Text)
    (now : Nat → Int) (lines : List CommandLine) :
    SameFraming state room peerAddress now lines ↔ lines = [] := by
  constructor
  · intro hsame
    cases lines with
    | nil => rfl
    | cons line lines =>
        have hreturned := @withReturn_responses state peerAddress now room line lines
        have hfed := @withLineFeed_responses state peerAddress now room line lines
        exact absurd (hsame.1.symm.trans hreturned) hfed
  · rintro rfl
    exact ⟨rfl, rfl⟩

def hello : CommandLine where
  text := "HELLO 2".toList
  length_le := by decide
  printable := by
    have hall : "HELLO 2".toList.all fun c => 32 ≤ c.toNat ∧ c.toNat < 127 := by simp
    exact fun c hc => of_decide_eq_true (List.all_eq_true.mp hall c hc)

theorem sameFraming_fails_on_hello : ¬ SameFraming {} none "127.0.0.1".toList (fun _ => 1) [hello] := by
  intro hsame
  exact absurd hsame.1 (by decide)

end Framing

end ControlServer

end SyncAudio
