import Mathlib.Data.List.AList
import SyncAudio.Lib.Binary64
import SyncAudio.Lib.Text

/-!
# The room

Membership and the one-slot command mailbox that the control connections share
with the host loop. Every operation holds the mutex throughout, so each is one
step on a `Room`.

## Implementation notes

The members are an association list with distinct
keys; the order in which the source iterates over its hash map is unspecified.
-/

namespace SyncAudio

inductive RoomPlaybackState where
  | stopped
  | playing
  | paused
  deriving DecidableEq, Repr

inductive RoomConnectionState where
  | connected
  | syncing
  | buffering
  | synced
  | degraded
  | reconnecting
  deriving DecidableEq, Repr

inductive RoomAction where
  | play
  | pause
  | seek
  | stop
  deriving DecidableEq, Repr

structure ScheduledRoomAction where
  action : RoomAction := .play
  effectiveHostNanoseconds : Int := 0
  seekFrame : UInt64 := 0
  nextStreamId : UInt32 := 0
  deriving DecidableEq, Repr

/-- The condition under which `scheduleAction` does not throw. -/
def ScheduledRoomAction.Valid (action : ScheduledRoomAction) : Prop :=
  0 < action.effectiveHostNanoseconds ∧ action.nextStreamId ≠ 0

instance (action : ScheduledRoomAction) : Decidable action.Valid :=
  inferInstanceAs (Decidable (_ ∧ _))

structure RoomMember where
  deviceId : Text
  ipv4Address : Text
  audioPort : UInt16 := 0
  membershipToken : UInt64 := 0
  connectionState : RoomConnectionState := .connected
  roundTripMs : Binary64 := .zero
  clockOffsetMs : Binary64 := .zero
  networkJitterMs : Binary64 := .zero
  packetLossPercent : Binary64 := .zero
  bufferDepthMs : Binary64 := .zero
  outputLatencyMs : Binary64 := .zero
  outputRoute : Text := "Unknown".toList
  estimatedSyncErrorMs : Binary64 := .zero
  deriving DecidableEq, Repr

/-- A `RoomSnapshot` without its members. The stream identifier is never zero,
and only a valid action is ever pending. -/
structure RoomState where
  roomId : Text
  roomName : Text
  hostDeviceId : Text
  sessionId : UInt64
  streamId : UInt32
  playbackState : RoomPlaybackState := .stopped
  pendingAction : Option ScheduledRoomAction := none
  recentAction : Option ScheduledRoomAction := none
  sessionId_ne : sessionId ≠ 0
  streamId_ne : streamId ≠ 0
  pending_valid : ∀ action ∈ pendingAction, action.Valid

/-- An empty mailbox holds no invalid action. -/
theorem valid_of_empty : ∀ action ∈ (none : Option ScheduledRoomAction), action.Valid := by
  simp

/-- The first stream identifier is not zero. -/
theorem firstStreamId_ne : (1 : UInt32) ≠ 0 := by
  decide

structure Room where
  state : RoomState
  members : AList fun _ : Text => RoomMember := ∅
  nextMembershipToken : UInt64 := 1

namespace Room

/-- The constructor. -/
def make (roomId roomName hostDeviceId : Text) (sessionId : UInt64) (streamId : UInt32) :
    Except String Room :=
  if h : roomId = [] ∨ roomName = [] ∨ hostDeviceId = [] ∨ sessionId = 0 ∨ streamId = 0 then
    .error "Room identity is incomplete"
  else if roomName.length > 48 ∨ ¬ roomName.all fun c => 32 ≤ c.toNat ∧ c.toNat ≤ 126 then
    .error "Room name must be 1..48 printable ASCII bytes"
  else .ok {
    state := {
      roomId, roomName, hostDeviceId, sessionId, streamId
      sessionId_ne := fun hzero => h (.inr (.inr (.inr (.inl hzero))))
      streamId_ne := fun hzero => h (.inr (.inr (.inr (.inr hzero))))
      pending_valid := valid_of_empty } }

def join (room : Room) (deviceId ipv4Address : Text) (audioPort : UInt16) :
    Except String (UInt64 × Room) :=
  if deviceId = [] ∨ ipv4Address = [] ∨ audioPort = 0 then
    .error "Room member endpoint is incomplete"
  else
    let token := room.nextMembershipToken
    .ok (token, { room with
      nextMembershipToken := token + 1
      members := room.members.insert deviceId
        { deviceId, ipv4Address, audioPort, membershipToken := token } })

def leave (room : Room) (deviceId : Text) (token : UInt64) : Room :=
  if (room.members.lookup deviceId).any fun member => member.membershipToken = token then
    { room with members := room.members.erase deviceId }
  else room

def updateMember (room : Room) (member : RoomMember) : Bool × Room :=
  if (room.members.lookup member.deviceId).any fun current =>
      current.membershipToken = member.membershipToken then
    (true, { room with members := room.members.replace member.deviceId member })
  else (false, room)

def setPlaybackState (room : Room) (state : RoomPlaybackState) : Room :=
  { room with state := { room.state with playbackState := state } }

def setStreamId (room : Room) (streamId : UInt32) : Except String Room :=
  if h : streamId = 0 then .error "Stream ID must be nonzero"
  else .ok { room with state := { room.state with streamId, streamId_ne := h } }

def scheduleAction (room : Room) (action : ScheduledRoomAction) : Except String (Bool × Room) :=
  if h : action.Valid then
    if room.state.pendingAction.isSome then .ok (false, room)
    else .ok (true, { room with
      state := { room.state with
        pendingAction := some action
        pending_valid := by simpa using h } })
  else .error "Scheduled room action is invalid"

def takeAction (room : Room) : Option ScheduledRoomAction × Room :=
  (room.state.pendingAction, { room with
    state := { room.state with
      recentAction := room.state.pendingAction.or room.state.recentAction
      pendingAction := none
      pending_valid := valid_of_empty } })

end Room

end SyncAudio
