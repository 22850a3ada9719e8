import SyncAudio.Desktop.ControlChannel
import SyncAudio.Lib.LabelledRun
import SyncAudio.Lib.Leases

/-!
# Membership

Any number of control connections share the room of the host. Each runs
`serveClient` on a thread of its own, so the calls they make on the room
interleave. The members of the room are leases: a JOIN claims a device, the end
of the connection releases it, and the token keeps a connection from touching a
device that was claimed after it.

## Implementation notes

A thread takes a step with every received character, and one more with every
call that may change the members. The snapshot and the check of a CLIENT_STATE
line are one step, its `updateMember` another. The limit on the number of
connections is left out, which only adds runs. An exception ends the process,
so there is no step. The history of issued tokens is recorded beside the state.
-/

namespace SyncAudio

open ControlServer LabelledRun

/-- What a connection does next. -/
inductive SessionPhase where
  | receiving
  /-- A JOIN has given up the old membership and is about to call `join`. -/
  | joining (deviceId : Text)
  /-- A CLIENT_STATE is about to call `updateMember`. -/
  | reporting (updated : RoomMember)
  /-- The loop is over and `leave` is next. -/
  | ending
  | ended
  deriving DecidableEq

/-- One thread in `serveClient`. The address of a connected peer is never empty. -/
structure ControlSession where
  peerAddress : Text
  line : Text := []
  client : ControlClient := {}
  phase : SessionPhase := .receiving
  peerAddress_ne : peerAddress ≠ []

/-- The calls that the host loop makes. -/
inductive HostCall where
  | setPlaybackState (state : RoomPlaybackState)
  | setStreamId (streamId : UInt32)
  | takeAction

/-- The room, its connections in the order of their arrival, and the pairs that
`join` has issued, newest first. -/
structure Membership where
  room : Room
  sessions : List ControlSession := []
  issued : List (Text × UInt64) := []

/-- The token of a device, if it is a member. -/
def Room.tokenOf (room : Room) (deviceId : Text) : Option UInt64 :=
  (room.members.lookup deviceId).map RoomMember.membershipToken

namespace ControlServer

/-- The `leave` of a JOIN line and of the end of a connection. -/
def giveBack (room : Room) (client : ControlClient) : Room :=
  if client.joinedDeviceId ≠ [] then room.leave client.joinedDeviceId client.membershipToken
  else room

/-- The record that a CLIENT_STATE line is about to store, if it is valid. -/
def reportedMember (room : Room) (client : ControlClient) (report : Text) : Option RoomMember :=
  if client.joinedDeviceId = [] then none
  else
    ((room.members.lookup client.joinedDeviceId).filter fun member =>
      member.membershipToken = client.membershipToken).bind fun member =>
        readClientState member report

end ControlServer

/-- The pair in the locals of a connection, if it has joined. -/
def ControlClient.pair (client : ControlClient) : Option (Text × UInt64) :=
  if client.joinedDeviceId = [] then none
  else some (client.joinedDeviceId, client.membershipToken)

namespace ControlSession

/-- The pair a connection holds. Between the `leave` and the `join` of a JOIN
line, and after its end, it holds none. -/
def holding (session : ControlSession) : Option (Text × UInt64) :=
  match session.phase with
  | .joining _ => none
  | .ended => none
  | _ => session.client.pair

/-- A complete line, up to the next call that may change the members. -/
def answerLine (host : ControlStreamState) (now : Int) (room : Room) (session : ControlSession)
    (line : Text) : Except String (Room × ControlSession) :=
  if "JOIN ".toList.isPrefixOf line ∧ validDeviceId (line.drop 5) = true then
    .ok (giveBack room session.client,
      { session with line := [], phase := .joining (line.drop 5) })
  else if "CLIENT_STATE ".toList.isPrefixOf line then
    match reportedMember room session.client (line.drop 13) with
    | some updated => .ok (room, { session with line := [], phase := .reporting updated })
    | none => .ok (room, { session with line := [] })
  else if line = "LEAVE".toList then .ok (room, { session with phase := .ending })
  else
    (responseFor host (some room) session.peerAddress now session.client line).map
      fun response => (response.room.getD room,
        { session with line := [], client := response.client })

/-- One received character. -/
def receive (host : ControlStreamState) (now : Int) (room : Room) (session : ControlSession)
    (character : Char) : Except String (Room × ControlSession) :=
  if character = '\n' then answerLine host now room session (stripReturn session.line)
  else if session.line.length < 256 ∧ 32 ≤ character.toNat ∧ character.toNat < 127 then
    .ok (room, { session with line := session.line ++ [character] })
  else .ok (room, { session with phase := .ending })

/-- The call on the room that a connection is about to make. -/
def call (host : ControlStreamState) (room : Room) (session : ControlSession) :
    Option (Room × ControlSession) :=
  match session.phase with
  | .joining deviceId =>
      match room.join deviceId session.peerAddress host.audioPort with
      | .error _ => none
      | .ok (token, room) => some (room, { session with
          client := { joinedDeviceId := deviceId, membershipToken := token }
          phase := .receiving })
  | .reporting updated =>
      some ((room.updateMember updated).2, { session with phase := .receiving })
  | .ending => some (giveBack room session.client, { session with phase := .ended })
  | .receiving => none
  | .ended => none

end ControlSession

namespace HostCall

def apply (room : Room) : HostCall → Option Room
  | setPlaybackState state => some (room.setPlaybackState state)
  | setStreamId streamId => (room.setStreamId streamId).toOption
  | takeAction => some room.takeAction.2

end HostCall

namespace Membership

/-- The host has made its room and no one is connected. -/
def start (room : RoomState) : Membership := { room := { state := room } }

inductive Event where
  | accept (peerAddress : { address : Text // address ≠ [] })
  | receive (session : Nat) (character : Char) (now : Int)
  /-- The peer is gone, an answer cannot be sent, or the server stops. -/
  | disconnect (session : Nat)
  | call (session : Nat)
  | host (call : HostCall)

/-- The connection that takes the step. -/
def Event.session : Event → Option Nat
  | .accept _ => none
  | .receive i _ _ => some i
  | .disconnect i => some i
  | .call i => some i
  | .host _ => none

/-- What a connection leaves behind. A `join` adds to the history. -/
def store (s : Membership) (session : Nat) (issued : List (Text × UInt64))
    (result : Room × ControlSession) : Membership where
  room := result.1
  sessions := s.sessions.set session result.2
  issued := issued ++ s.issued

def step (host : ControlStreamState) (s : Membership) : Event → Option Membership
  | .accept peerAddress => some { s with
      sessions := s.sessions ++
        [{ peerAddress := peerAddress.1, peerAddress_ne := peerAddress.2 }] }
  | .receive i character now => do
      let session ← s.sessions[i]?
      if session.phase = .receiving then
        let result ← (session.receive host now s.room character).toOption
        some (s.store i [] result)
      else none
  | .disconnect i => do
      let session ← s.sessions[i]?
      if session.phase = .receiving then
        some (s.store i [] (s.room, { session with phase := .ending }))
      else none
  | .call i => do
      let session ← s.sessions[i]?
      let result ← session.call host s.room
      some (s.store i
        (match session.phase with
          | .joining deviceId => [(deviceId, result.2.client.membershipToken)]
          | _ => [])
        result)
  | .host call => (call.apply s.room).map fun room => { s with room }

/-- The members that a snapshot lists, with their tokens. -/
def memberPairs (s : Membership) : List (Text × UInt64) :=
  s.room.members.entries.map fun entry => (entry.2.deviceId, entry.2.membershipToken)

/-- The pair that connection number `i` holds. -/
def holding (s : Membership) (i : Nat) : Option (Text × UInt64) :=
  s.sessions[i]?.bind ControlSession.holding

/-- The leases behind the room and its connections. -/
def leases (s : Membership) : Leases Nat Text UInt64 where
  table := s.room.tokenOf
  held := s.holding
  issued := s.issued

/-- The token issued last for a device. -/
def lastIssued (s : Membership) (deviceId : Text) : Option UInt64 := s.leases.lastIssued deviceId

end Membership

section AssociationList

variable {κ υ : Type*} [DecidableEq κ] {key key' : κ} {value : υ}

theorem dlookup_kreplace_self {entries : List (Sigma fun _ : κ => υ)} (h : key ∈ entries.keys) :
    (entries.kreplace key value).dlookup key = some value := by
  induction entries with
  | nil => simp at h
  | cons entry entries ih =>
      obtain ⟨key', other⟩ := entry
      by_cases hkey : key = key'
      · subst hkey
        simp [List.kreplace]
      · have hrest : key ∈ entries.keys := by simpa [hkey] using h
        simpa [List.kreplace, hkey, Ne.symm hkey] using ih hrest

theorem dlookup_kreplace_of_ne {entries : List (Sigma fun _ : κ => υ)} (hne : key' ≠ key) :
    (entries.kreplace key value).dlookup key' = entries.dlookup key' := by
  induction entries with
  | nil => rfl
  | cons entry entries ih =>
      obtain ⟨key'', other⟩ := entry
      by_cases hkey : key = key''
      · subst hkey
        simp [List.kreplace, hne]
      · by_cases hkey' : key' = key''
        · subst hkey'
          simp [List.kreplace, hkey]
        · simpa [List.kreplace, hkey, hkey'] using ih

end AssociationList

section RoomCalls

variable {room next : Room} {deviceId peerAddress : Text} {token : UInt64} {audioPort : UInt16}
  {member : RoomMember} {client : ControlClient}

theorem tokenOf_eq_some : room.tokenOf deviceId = some token ↔
    (room.members.lookup deviceId).any (fun member => member.membershipToken = token) = true := by
  unfold Room.tokenOf
  cases room.members.lookup deviceId <;> simp

theorem mem_of_tokenOf (h : room.tokenOf deviceId = some token) : deviceId ∈ room.members := by
  apply AList.lookup_isSome.mp
  unfold Room.tokenOf at h
  cases hlookup : room.members.lookup deviceId with
  | none =>
      rw [hlookup] at h
      cases h
  | some member => rfl

/-- `leave` removes the member only under its own token. -/
theorem leave_tokenOf (room : Room) (deviceId : Text) (token : UInt64) :
    (room.leave deviceId token).tokenOf =
      if room.tokenOf deviceId = some token then Function.update room.tokenOf deviceId none
      else room.tokenOf := by
  unfold Room.leave
  simp only [tokenOf_eq_some]
  by_cases h : (room.members.lookup deviceId).any fun member => member.membershipToken = token
  · rw [if_pos h, if_pos h]
    funext key
    by_cases hkey : key = deviceId
    · subst hkey
      simp [Room.tokenOf]
    · simp [Room.tokenOf, AList.lookup_erase_ne hkey, Function.update_of_ne hkey]
  · rw [if_neg h, if_neg h]

/-- `leave` with a token that the room no longer has does nothing. -/
theorem leave_of_superseded (h : room.tokenOf deviceId ≠ some token) :
    room.leave deviceId token = room := by
  rw [Room.leave, if_neg (mt tokenOf_eq_some.mpr h)]

/-- `join` issues the next token. -/
theorem join_tokenOf (h : room.join deviceId peerAddress audioPort = .ok (token, next)) :
    deviceId ≠ [] ∧ token = room.nextMembershipToken ∧
      next.nextMembershipToken = token + 1 ∧
      next.tokenOf = Function.update room.tokenOf deviceId (some token) := by
  unfold Room.join at h
  by_cases hbad : deviceId = [] ∨ peerAddress = [] ∨ audioPort = 0
  · rw [if_pos hbad] at h
    cases h
  · rw [if_neg hbad] at h
    cases h
    refine ⟨fun hempty => hbad (.inl hempty), rfl, rfl, ?_⟩
    funext key
    by_cases hkey : key = deviceId
    · subst hkey
      simp [Room.tokenOf]
    · simp [Room.tokenOf, AList.lookup_insert_ne hkey, Function.update_of_ne hkey]

theorem join_lookup (h : room.join deviceId peerAddress audioPort = .ok (token, next))
    {key : Text} (hlookup : next.members.lookup key = some member) :
    member.deviceId = key ∨ room.members.lookup key = some member := by
  unfold Room.join at h
  split_ifs at h
  cases h
  by_cases hkey : key = deviceId
  · subst hkey
    rw [AList.lookup_insert] at hlookup
    cases hlookup
    exact .inl rfl
  · rw [AList.lookup_insert_ne hkey] at hlookup
    exact .inr hlookup

/-- `updateMember` stores a record under a member's own token or does nothing. -/
theorem updateMember_lookup (room : Room) (member : RoomMember) (key : Text) :
    (room.updateMember member).2.members.lookup key =
      if key = member.deviceId ∧ room.tokenOf member.deviceId = some member.membershipToken then
        some member
      else room.members.lookup key := by
  unfold Room.updateMember
  by_cases h : room.tokenOf member.deviceId = some member.membershipToken
  · rw [if_pos (tokenOf_eq_some.mp h)]
    by_cases hkey : key = member.deviceId
    · rw [if_pos ⟨hkey, h⟩, hkey]
      exact dlookup_kreplace_self (mem_of_tokenOf h)
    · rw [if_neg fun hboth => hkey hboth.1]
      exact dlookup_kreplace_of_ne hkey
  · rw [if_neg (mt tokenOf_eq_some.mpr h), if_neg fun hboth => h hboth.2]

theorem updateMember_of_superseded (h : room.tokenOf member.deviceId ≠ some member.membershipToken) :
    (room.updateMember member).2 = room := by
  rw [Room.updateMember, if_neg (mt tokenOf_eq_some.mpr h)]

theorem updateMember_tokenOf (room : Room) (member : RoomMember) :
    (room.updateMember member).2.tokenOf = room.tokenOf := by
  funext key
  rw [Room.tokenOf, updateMember_lookup]
  split_ifs with h
  · rw [h.1]
    exact h.2.symm
  · rfl

@[simp] theorem updateMember_nextMembershipToken (room : Room) (member : RoomMember) :
    (room.updateMember member).2.nextMembershipToken = room.nextMembershipToken := by
  unfold Room.updateMember
  split_ifs <;> rfl

@[simp] theorem giveBack_nextMembershipToken (room : Room) (client : ControlClient) :
    (giveBack room client).nextMembershipToken = room.nextMembershipToken := by
  unfold giveBack Room.leave
  split_ifs <;> rfl

theorem giveBack_lookup (hlookup : (giveBack room client).members.lookup deviceId = some member) :
    room.members.lookup deviceId = some member := by
  unfold giveBack Room.leave at hlookup
  split_ifs at hlookup
  · by_cases hkey : deviceId = client.joinedDeviceId
    · rw [hkey, AList.lookup_erase] at hlookup
      cases hlookup
    · rwa [AList.lookup_erase_ne hkey] at hlookup
  · exact hlookup
  · exact hlookup

theorem giveBack_of_none (h : client.pair = none) : giveBack room client = room := by
  unfold ControlClient.pair at h
  rw [giveBack, if_neg]
  intro hne
  rw [if_neg hne] at h
  cases h

theorem giveBack_of_some (h : client.pair = some (deviceId, token)) :
    giveBack room client = room.leave deviceId token := by
  unfold ControlClient.pair at h
  by_cases hempty : client.joinedDeviceId = []
  · rw [if_pos hempty] at h
    cases h
  · rw [if_neg hempty] at h
    cases h
    rw [giveBack, if_pos hempty]

/-- The members and the next token are the same. -/
def SameMembers (room next : Room) : Prop :=
  next.members = room.members ∧ next.nextMembershipToken = room.nextMembershipToken

theorem SameMembers.refl (room : Room) : SameMembers room room := ⟨rfl, rfl⟩

theorem SameMembers.tokenOf (h : SameMembers room next) : next.tokenOf = room.tokenOf := by
  funext key
  unfold Room.tokenOf
  rw [h.1]

theorem scheduleAction_sameMembers {action : ScheduledRoomAction} {accepted : Bool}
    (h : room.scheduleAction action = .ok (accepted, next)) : SameMembers room next := by
  unfold Room.scheduleAction at h
  split_ifs at h <;> cases h <;> exact ⟨rfl, rfl⟩

theorem commitCommand_sameMembers {command : RoomCommand} {effective : Int} {text : Text}
    (h : commitCommand room command effective = .ok (text, next)) : SameMembers room next := by
  unfold commitCommand at h
  cases hschedule : room.scheduleAction (command.scheduled effective) with
  | error message =>
      rw [hschedule] at h
      cases h
  | ok result =>
      rw [hschedule] at h
      simp only [bind, Except.bind] at h
      have hnext : result.2 = next := by split_ifs at h <;> cases h <;> rfl
      rw [← hnext]
      exact scheduleAction_sameMembers hschedule

theorem commandAnswer_sameMembers {host : ControlStreamState} {now : Int} {line text : Text}
    {answered : Option Room}
    (h : commandAnswer host (some room) peerAddress now line = .ok (text, answered)) :
    SameMembers room (answered.getD room) := by
  unfold commandAnswer commandResponse at h
  dsimp only at h
  cases hcheck : checkCommand host.totalFrames room.state peerAddress line with
  | error message =>
      rw [hcheck] at h
      cases h
      exact .refl room
  | ok command =>
      rw [hcheck] at h
      dsimp only at h
      cases hcommit : commitCommand room command (effectiveTime now) with
      | error message =>
          rw [hcommit] at h
          cases h
      | ok answer =>
          rw [hcommit] at h
          cases h
          exact commitCommand_sameMembers hcommit

/-- All other lines leave the members and the locals of the connection alone. -/
theorem responseFor_sameMembers {host : ControlStreamState} {now : Int} {line : Text}
    {response : Response}
    (hjoin : ¬ ("JOIN ".toList.isPrefixOf line ∧ validDeviceId (line.drop 5) = true))
    (hreport : ¬ "CLIENT_STATE ".toList.isPrefixOf line)
    (h : responseFor host (some room) peerAddress now client line = .ok response) :
    SameMembers room (response.room.getD room) ∧ response.client = client := by
  have hanswer {text : Text}
      (h : (.ok { text, room := some room, client } : Except String Response) = .ok response) :
      SameMembers room (response.room.getD room) ∧ response.client = client := by
    cases h
    exact ⟨.refl room, rfl⟩
  unfold responseFor at h
  split_ifs at h with _ _ hstart
  · exact hanswer h
  · exact hanswer h
  · have hinvalid : validDeviceId (line.drop 5) = false :=
      eq_false_of_ne_true fun hvalid => hjoin ⟨hstart, hvalid⟩
    rw [joinResponse, hinvalid] at h
    exact hanswer h
  · exact hanswer h
  · exact hanswer h
  · exact hanswer h
  · cases hcommand : commandAnswer host (some room) peerAddress now line with
    | error message =>
        rw [hcommand] at h
        cases h
    | ok answer =>
        rw [hcommand] at h
        cases h
        exact ⟨commandAnswer_sameMembers hcommand, rfl⟩
  · exact hanswer h

end RoomCalls

theorem HostCall.apply_sameMembers {room next : Room} {call : HostCall}
    (h : call.apply room = some next) : SameMembers room next := by
  cases call with
  | setPlaybackState state =>
      cases h
      exact ⟨rfl, rfl⟩
  | setStreamId streamId =>
      simp only [HostCall.apply, Room.setStreamId] at h
      split_ifs at h <;> cases h
      exact ⟨rfl, rfl⟩
  | takeAction =>
      cases h
      exact ⟨rfl, rfl⟩

/-- What a step of a connection does, and the pair it issues. -/
inductive SessionStep (room : Room) (session : ControlSession) :
    Room → ControlSession → List (Text × UInt64) → Prop where
  | quiet {next : Room} {after : ControlSession} (hphase : session.phase = .receiving)
      (hroom : SameMembers room next) (hclient : after.client = session.client)
      (hafter : after.phase = .receiving ∨ after.phase = .ending) :
      SessionStep room session next after []
  | report {report : Text} {updated : RoomMember} {after : ControlSession}
      (hphase : session.phase = .receiving)
      (hupdated : reportedMember room session.client report = some updated)
      (hclient : after.client = session.client) (hafter : after.phase = .reporting updated) :
      SessionStep room session room after []
  | giveUp {deviceId : Text} {after : ControlSession} (hphase : session.phase = .receiving)
      (hclient : after.client = session.client) (hafter : after.phase = .joining deviceId) :
      SessionStep room session (giveBack room session.client) after []
  | join {deviceId peerAddress : Text} {audioPort : UInt16} {token : UInt64} {next : Room}
      {after : ControlSession} (hphase : session.phase = .joining deviceId)
      (hjoin : room.join deviceId peerAddress audioPort = .ok (token, next))
      (hclient : after.client = { joinedDeviceId := deviceId, membershipToken := token })
      (hafter : after.phase = .receiving) : SessionStep room session next after [(deviceId, token)]
  | update {updated : RoomMember} {after : ControlSession}
      (hphase : session.phase = .reporting updated) (hclient : after.client = session.client)
      (hafter : after.phase = .receiving) :
      SessionStep room session (room.updateMember updated).2 after []
  | finish {after : ControlSession} (hphase : session.phase = .ending)
      (hclient : after.client = session.client) (hafter : after.phase = .ended) :
      SessionStep room session (giveBack room session.client) after []

namespace ControlSession

variable {host : ControlStreamState} {now : Int} {room next : Room}
  {session after : ControlSession}

theorem answerLine_step {line : Text} (hphase : session.phase = .receiving)
    (h : session.answerLine host now room line = .ok (next, after)) :
    SessionStep room session next after [] := by
  unfold answerLine at h
  by_cases hjoin : "JOIN ".toList.isPrefixOf line ∧ validDeviceId (line.drop 5) = true
  · rw [if_pos hjoin] at h
    cases h
    exact .giveUp hphase rfl rfl
  · rw [if_neg hjoin] at h
    by_cases hreport : "CLIENT_STATE ".toList.isPrefixOf line = true
    · rw [if_pos hreport] at h
      cases hmember : reportedMember room session.client (line.drop 13) with
      | none =>
          rw [hmember] at h
          cases h
          exact .quiet hphase (.refl room) rfl (.inl hphase)
      | some updated =>
          rw [hmember] at h
          cases h
          exact .report hphase hmember rfl rfl
    · rw [if_neg hreport] at h
      by_cases hleave : line = "LEAVE".toList
      · rw [if_pos hleave] at h
        cases h
        exact .quiet hphase (.refl room) rfl (.inr rfl)
      · rw [if_neg hleave] at h
        cases hanswer : responseFor host (some room) session.peerAddress now session.client line with
        | error message =>
            rw [hanswer] at h
            cases h
        | ok response =>
            rw [hanswer] at h
            cases h
            obtain ⟨hroom, hclient⟩ := responseFor_sameMembers hjoin hreport hanswer
            exact .quiet hphase hroom hclient (.inl hphase)

theorem receive_step {character : Char} (hphase : session.phase = .receiving)
    (h : session.receive host now room character = .ok (next, after)) :
    SessionStep room session next after [] := by
  unfold receive at h
  split_ifs at h
  · exact answerLine_step hphase h
  · cases h
    exact .quiet hphase (.refl room) rfl (.inl hphase)
  · cases h
    exact .quiet hphase (.refl room) rfl (.inr rfl)

theorem call_step (h : session.call host room = some (next, after)) :
    SessionStep room session next after
      (match session.phase with
        | .joining deviceId => [(deviceId, after.client.membershipToken)]
        | _ => []) := by
  unfold call at h
  cases hphase : session.phase with
  | joining deviceId =>
      rw [hphase] at h
      dsimp only at h ⊢
      cases hjoin : room.join deviceId session.peerAddress host.audioPort with
      | error message =>
          rw [hjoin] at h
          cases h
      | ok result =>
          rw [hjoin] at h
          cases h
          exact .join hphase hjoin rfl rfl
  | reporting updated =>
      rw [hphase] at h
      cases h
      exact .update hphase rfl rfl
  | ending =>
      rw [hphase] at h
      cases h
      exact .finish hphase rfl rfl
  | receiving =>
      rw [hphase] at h
      cases h
  | ended =>
      rw [hphase] at h
      cases h

section Alone

/-- A connection that makes its call at once. -/
def settle (host : ControlStreamState) (result : Room × ControlSession) :
    Option (Room × ControlSession) :=
  if result.2.phase = .receiving then some result else result.2.call host result.1

theorem clientStateResponse_room (room : Room) (client : ControlClient) (report : Text) :
    (clientStateResponse room client report).2 =
      match reportedMember room client report with
      | some updated => (room.updateMember updated).2
      | none => room := by
  unfold clientStateResponse reportedMember
  by_cases hempty : client.joinedDeviceId = []
  · rw [if_pos hempty, if_pos hempty]
  · rw [if_neg hempty, if_neg hempty]
    cases (room.members.lookup client.joinedDeviceId).filter fun member =>
        member.membershipToken = client.membershipToken with
    | none => rfl
    | some member =>
        dsimp only [Option.bind_some]
        cases readClientState member report <;> rfl

/-- If nothing happens between the steps of a line, they add up to the answer of
`responseFor`. -/
theorem answer_alone {line : Text} (hphase : session.phase = .receiving)
    (hline : line ≠ "LEAVE".toList) :
    (session.answerLine host now room line).toOption.bind (settle host) =
      (responseFor host (some room) session.peerAddress now session.client line).toOption.map
        fun response => (response.room.getD room,
          { session with line := [], client := response.client }) := by
  obtain ⟨peerAddress, buffer, client, phase, hpeer⟩ := session
  cases hphase
  unfold answerLine
  by_cases hjoin : "JOIN ".toList.isPrefixOf line ∧ validDeviceId (line.drop 5) = true
  · obtain ⟨rest, rfl⟩ := List.isPrefixOf_iff_prefix.mp hjoin.1
    have hvalid : validDeviceId rest = true := hjoin.2
    rw [if_pos hjoin]
    have hanswer : responseFor host (some room) peerAddress now client ("JOIN ".toList ++ rest) =
        joinResponse host (some room) peerAddress now client rest := rfl
    have hdrop : ("JOIN ".toList ++ rest).drop 5 = rest := rfl
    rw [hanswer, hdrop]
    simp only [Except.toOption, Option.bind_some, settle, call, joinResponse, hvalid, giveBack]
    cases Room.join _ rest peerAddress host.audioPort <;> rfl
  · rw [if_neg hjoin]
    by_cases hreport : "CLIENT_STATE ".toList.isPrefixOf line = true
    · obtain ⟨rest, rfl⟩ := List.isPrefixOf_iff_prefix.mp hreport
      have hanswer : responseFor host (some room) peerAddress now client
          ("CLIENT_STATE ".toList ++ rest) =
          .ok { text := (clientStateResponse room client rest).1
                room := some (clientStateResponse room client rest).2
                client } := rfl
      have hdrop : ("CLIENT_STATE ".toList ++ rest).drop 13 = rest := rfl
      rw [if_pos hreport, hanswer, clientStateResponse_room, hdrop]
      dsimp only
      cases reportedMember room client rest <;> rfl
    · rw [if_neg hreport, if_neg hline]
      cases responseFor host (some room) peerAddress now client line <;> rfl

end Alone

end ControlSession

section SessionStep

variable {session after : ControlSession} {room next : Room} {issued : List (Text × UInt64)}

/-- Every member is stored under its own name. -/
def Labelled (room : Room) : Prop :=
  ∀ deviceId member, room.members.lookup deviceId = some member → member.deviceId = deviceId

/-- The record that a CLIENT_STATE line stores names the pair of its connection. -/
theorem reportedMember_own {client : ControlClient} {report : Text} {updated : RoomMember}
    (hrecords : Labelled room) (h : reportedMember room client report = some updated) :
    client.pair = some (updated.deviceId, updated.membershipToken) := by
  unfold reportedMember at h
  by_cases hempty : client.joinedDeviceId = []
  · rw [if_pos hempty] at h
    cases h
  · rw [if_neg hempty] at h
    obtain ⟨member, hmember, hread⟩ := Option.bind_eq_some_iff.mp h
    obtain ⟨hlookup, htoken⟩ := Option.filter_eq_some_iff.mp hmember
    have hupdated : updated.deviceId = member.deviceId ∧
        updated.membershipToken = member.membershipToken := readClientState_identity hread
    rw [ControlClient.pair, if_neg hempty, hupdated.1, hupdated.2, hrecords _ _ hlookup,
      of_decide_eq_true htoken]

theorem SessionStep.labelled (hrecords : Labelled room)
    (h : SessionStep room session next after issued) : Labelled next := by
  intro deviceId member hlookup
  cases h with
  | quiet hphase hroom hclient hafter =>
      rw [hroom.1] at hlookup
      exact hrecords _ _ hlookup
  | report hphase hupdated hclient hafter => exact hrecords _ _ hlookup
  | giveUp hphase hclient hafter => exact hrecords _ _ (giveBack_lookup hlookup)
  | join hphase hjoin hclient hafter =>
      rcases join_lookup hjoin hlookup with hname | hold
      · exact hname
      · exact hrecords _ _ hold
  | update hphase hclient hafter =>
      rw [updateMember_lookup] at hlookup
      split_ifs at hlookup with hkey
      · cases hlookup
        exact hkey.1.symm
      · exact hrecords _ _ hlookup
  | finish hphase hclient hafter => exact hrecords _ _ (giveBack_lookup hlookup)

/-- A connection that is about to store a record has just read its own. -/
theorem SessionStep.report_own (hrecords : Labelled room)
    (h : SessionStep room session next after issued) (updated : RoomMember)
    (hreporting : after.phase = .reporting updated) :
    after.client.pair = some (updated.deviceId, updated.membershipToken) := by
  cases h with
  | quiet hphase hroom hclient hafter => rcases hafter with hafter | hafter <;> simp_all
  | report hphase hupdated hclient hafter =>
      rw [hafter] at hreporting
      cases hreporting
      rw [hclient]
      exact reportedMember_own hrecords hupdated
  | giveUp hphase hclient hafter => simp_all
  | join hphase hjoin hclient hafter => simp_all
  | update hphase hclient hafter => simp_all
  | finish hphase hclient hafter => simp_all

/-- Only a `join` moves the token counter. -/
theorem SessionStep.next_eq (h : SessionStep room session next after issued) :
    issued = [] ∧ next.nextMembershipToken = room.nextMembershipToken ∨
    (∃ deviceId, issued = [(deviceId, room.nextMembershipToken)]) ∧
      next.nextMembershipToken = room.nextMembershipToken + 1 := by
  cases h with
  | quiet hphase hroom hclient hafter => exact .inl ⟨rfl, hroom.2⟩
  | report hphase hupdated hclient hafter => exact .inl ⟨rfl, rfl⟩
  | giveUp hphase hclient hafter => exact .inl ⟨rfl, giveBack_nextMembershipToken _ _⟩
  | join hphase hjoin hclient hafter =>
      obtain ⟨-, rfl, hnext, -⟩ := join_tokenOf hjoin
      exact .inr ⟨⟨_, rfl⟩, hnext⟩
  | update hphase hclient hafter => exact .inl ⟨rfl, updateMember_nextMembershipToken _ _⟩
  | finish hphase hclient hafter => exact .inl ⟨rfl, giveBack_nextMembershipToken _ _⟩

end SessionStep

namespace Membership

variable {host : ControlStreamState} {s t : Membership} {event : Event} {i : Nat}

/-- A step accepts a connection, is a call of the host loop, or is a step of one
connection. -/
theorem step_cases (h : step host s event = some t) :
    (∃ session : ControlSession, event.session = none ∧ session.holding = none ∧
      session.phase = .receiving ∧ t = { s with sessions := s.sessions ++ [session] }) ∨
    (∃ room, event.session = none ∧ SameMembers s.room room ∧ t = { s with room }) ∨
    ∃ i session next after issued, event.session = some i ∧ s.sessions[i]? = some session ∧
      SessionStep s.room session next after issued ∧ t = s.store i issued (next, after) := by
  cases event with
  | accept peerAddress =>
      cases h
      exact .inl ⟨_, rfl, rfl, rfl, rfl⟩
  | receive i character now =>
      simp only [step, Option.bind_eq_bind, Option.bind_eq_some_iff] at h
      obtain ⟨session, hsession, h⟩ := h
      split_ifs at h with hphase
      cases hreceive : session.receive host now s.room character with
      | error message =>
          rw [hreceive] at h
          cases h
      | ok result =>
          rw [hreceive] at h
          cases h
          exact .inr (.inr ⟨i, session, result.1, result.2, [], rfl, hsession,
            ControlSession.receive_step hphase hreceive, rfl⟩)
  | disconnect i =>
      simp only [step, Option.bind_eq_bind, Option.bind_eq_some_iff] at h
      obtain ⟨session, hsession, h⟩ := h
      split_ifs at h with hphase
      cases h
      exact .inr (.inr ⟨i, session, s.room, { session with phase := .ending }, [], rfl, hsession,
        .quiet hphase (.refl s.room) rfl (.inr rfl), rfl⟩)
  | call i =>
      simp only [step, Option.bind_eq_bind, Option.bind_eq_some_iff] at h
      obtain ⟨session, hsession, result, hcall, h⟩ := h
      cases h
      exact .inr (.inr ⟨i, session, result.1, result.2, _, rfl, hsession,
        ControlSession.call_step hcall, rfl⟩)
  | host call =>
      simp only [step, Option.map_eq_some_iff] at h
      obtain ⟨room, happly, h⟩ := h
      exact .inr (.inl ⟨room, rfl, HostCall.apply_sameMembers happly, h.symm⟩)

/-- A step of a connection. -/
theorem step_session (hevent : event.session = some i) (h : step host s event = some t) :
    ∃ session next after issued, s.sessions[i]? = some session ∧
      SessionStep s.room session next after issued ∧ t = s.store i issued (next, after) := by
  rcases step_cases h with ⟨-, hnone, -⟩ | ⟨-, hnone, -⟩ |
    ⟨j, session, next, after, issued, hj, hsession, hstep, rfl⟩
  · cases hnone.symm.trans hevent
  · cases hnone.symm.trans hevent
  · cases hj.symm.trans hevent
    exact ⟨session, next, after, issued, hsession, hstep, rfl⟩

section Simulation

variable {session after : ControlSession} {next : Room} {issued : List (Text × UInt64)}

theorem holding_of_session (hsession : s.sessions[i]? = some session) :
    s.holding i = session.holding := by
  rw [holding, hsession]
  rfl

theorem leases_store (hsession : s.sessions[i]? = some session) :
    (s.store i issued (next, after)).leases =
      ⟨next.tokenOf, Function.update s.holding i after.holding, issued ++ s.issued⟩ := by
  apply Leases.ext
  · rfl
  · funext j
    obtain ⟨hlt, -⟩ := List.getElem?_eq_some_iff.mp hsession
    by_cases hj : j = i
    · subst hj
      simp [leases, holding, store, hlt]
    · simp [leases, holding, store, List.getElem?_set_ne (Ne.symm hj), Function.update_of_ne hj]
  · rfl

/-- Giving a membership back releases the lease. -/
theorem release_eq (hsession : s.sessions[i]? = some session)
    (hholding : session.holding = session.client.pair) :
    s.leases.release i =
      ⟨(giveBack s.room session.client).tokenOf, Function.update s.holding i none, s.issued⟩ := by
  have hheld : s.leases.held i = session.client.pair :=
    (holding_of_session hsession).trans hholding
  cases hpair : session.client.pair with
  | none =>
      rw [Leases.release_of_none (hheld.trans hpair), giveBack_of_none hpair]
      apply Leases.ext
      · rfl
      · exact (Function.update_eq_self_iff.mpr (hheld.trans hpair).symm).symm
      · rfl
  | some lease =>
      rw [Leases.release, hheld.trans hpair, giveBack_of_some hpair, leave_tokenOf]
      rfl

/-- Each step of a connection keeps the leases, releases its own, or claims one. -/
theorem leases_session (hsession : s.sessions[i]? = some session)
    (h : SessionStep s.room session next after issued) :
    (s.store i issued (next, after)).leases = s.leases ∧ issued = [] ∨
    (s.store i issued (next, after)).leases = s.leases.release i ∧ issued = [] ∨
    ∃ deviceId, s.leases.held i = none ∧ issued = [(deviceId, s.room.nextMembershipToken)] ∧
      (s.store i issued (next, after)).leases =
        s.leases.claim i deviceId s.room.nextMembershipToken := by
  have hsame (htable : next.tokenOf = s.room.tokenOf) (hafter : after.holding = session.holding) :
      (⟨next.tokenOf, Function.update s.holding i after.holding, s.issued⟩ : Leases _ _ _) =
        s.leases := by
    apply Leases.ext
    · exact htable
    · exact Function.update_eq_self_iff.mpr (hafter.trans (holding_of_session hsession).symm)
    · rfl
  rw [leases_store hsession]
  cases h with
  | quiet hphase hroom hclient hafter =>
      refine .inl ⟨hsame hroom.tokenOf ?_, rfl⟩
      rcases hafter with hafter | hafter <;>
        simp [ControlSession.holding, hphase, hafter, hclient]
  | report hphase hupdated hclient hafter =>
      exact .inl ⟨hsame rfl (by simp [ControlSession.holding, hphase, hafter, hclient]), rfl⟩
  | giveUp hphase hclient hafter =>
      rw [release_eq hsession (by simp [ControlSession.holding, hphase])]
      exact .inr (.inl ⟨by simp [ControlSession.holding, hafter], rfl⟩)
  | join hphase hjoin hclient hafter =>
      obtain ⟨hne, rfl, -, htable⟩ := join_tokenOf hjoin
      refine .inr (.inr ⟨_, ?_, rfl, ?_⟩)
      · exact (holding_of_session hsession).trans (by simp [ControlSession.holding, hphase])
      · rw [htable]
        simp [Leases.claim, leases, ControlSession.holding, ControlClient.pair, hafter, hclient,
          hne]
  | update hphase hclient hafter =>
      refine .inl ⟨hsame (updateMember_tokenOf _ _) ?_, rfl⟩
      simp [ControlSession.holding, hphase, hafter, hclient]
  | finish hphase hclient hafter =>
      rw [release_eq hsession (by simp [ControlSession.holding, hphase])]
      exact .inr (.inl ⟨by simp [ControlSession.holding, hafter], rfl⟩)

end Simulation

section Tokens

/-- The first tokens that a room issues, newest first. -/
def tokens : Nat → List UInt64
  | 0 => []
  | n + 1 => UInt64.ofNat (n + 1) :: tokens n

variable {token : UInt64} {n : Nat}

theorem mem_tokens : token ∈ tokens n ↔ ∃ k, k < n ∧ token = UInt64.ofNat (k + 1) := by
  induction n with
  | zero => simp [tokens]
  | succ n ih =>
      rw [tokens, List.mem_cons, ih]
      constructor
      · rintro (rfl | ⟨k, hk, rfl⟩)
        · exact ⟨n, Nat.lt_succ_self n, rfl⟩
        · exact ⟨k, Nat.lt_succ_of_lt hk, rfl⟩
      · rintro ⟨k, hk, rfl⟩
        rcases Nat.lt_succ_iff_lt_or_eq.mp hk with hk | rfl
        · exact .inr ⟨k, hk, rfl⟩
        · exact .inl rfl

/-- The counter wraps after `2 ^ 64` tokens. -/
theorem next_mem_tokens : UInt64.ofNat (n + 1) ∈ tokens n ↔ 2 ^ 64 ≤ n := by
  rw [mem_tokens]
  constructor
  · rintro ⟨k, hk, heq⟩
    have hmod := congrArg UInt64.toNat heq
    rw [UInt64.toNat_ofNat', UInt64.toNat_ofNat'] at hmod
    omega
  · intro hn
    refine ⟨n - 2 ^ 64, by omega, ?_⟩
    apply UInt64.toNat_inj.mp
    rw [UInt64.toNat_ofNat', UInt64.toNat_ofNat']
    omega

theorem nodup_tokens : (tokens n).Nodup ↔ n ≤ 2 ^ 64 := by
  induction n with
  | zero => simp [tokens]
  | succ n ih =>
      rw [tokens, List.nodup_cons, next_mem_tokens, ih]
      omega

end Tokens

/-- What every reachable state satisfies, however many tokens were issued. -/
structure Coherent (s : Membership) : Prop where
  next_eq : s.room.nextMembershipToken = UInt64.ofNat (s.issued.length + 1)
  issued_eq : s.issued.map Prod.snd = tokens s.issued.length
  labelled : Labelled s.room
  report_own : ∀ session ∈ s.sessions, ∀ updated, session.phase = .reporting updated →
    session.client.pair = some (updated.deviceId, updated.membershipToken)

theorem coherent_start (room : RoomState) : (start room).Coherent where
  next_eq := rfl
  issued_eq := rfl
  labelled deviceId member hlookup := by cases hlookup
  report_own session hsession := by cases hsession

section Step

theorem Coherent.step (hs : s.Coherent) (h : Membership.step host s event = some t) :
    t.Coherent := by
  rcases step_cases h with ⟨session, -, -, hphase, rfl⟩ | ⟨room, -, hroom, rfl⟩ |
    ⟨i, session, next, after, issued, -, hsession, hstep, rfl⟩
  · refine ⟨hs.next_eq, hs.issued_eq, hs.labelled, ?_⟩
    intro other hother updated hreporting
    rcases List.mem_append.mp hother with hother | hother
    · exact hs.report_own other hother updated hreporting
    · rw [List.mem_singleton.mp hother, hphase] at hreporting
      cases hreporting
  · refine ⟨hroom.2.trans hs.next_eq, hs.issued_eq, ?_, hs.report_own⟩
    intro deviceId member hlookup
    exact hs.labelled deviceId member (hroom.1 ▸ hlookup)
  · have hreports : ∀ other ∈ s.sessions.set i after, ∀ updated,
        other.phase = .reporting updated →
          other.client.pair = some (updated.deviceId, updated.membershipToken) := by
      intro other hother updated hreporting
      rcases List.mem_or_eq_of_mem_set hother with hother | heq
      · exact hs.report_own other hother updated hreporting
      · rw [heq] at hreporting ⊢
        exact hstep.report_own hs.labelled updated hreporting
    rcases hstep.next_eq with ⟨rfl, hnext⟩ | ⟨⟨deviceId, rfl⟩, hnext⟩
    · exact ⟨hnext.trans hs.next_eq, hs.issued_eq, hstep.labelled hs.labelled, hreports⟩
    · refine ⟨?_, ?_, hstep.labelled hs.labelled, hreports⟩
      · change next.nextMembershipToken = UInt64.ofNat (s.issued.length + 1 + 1)
        rw [hnext, hs.next_eq, UInt64.ofNat_add (s.issued.length + 1) 1]
        rfl
      · change s.room.nextMembershipToken :: s.issued.map Prod.snd = tokens (s.issued.length + 1)
        rw [hs.issued_eq, hs.next_eq]
        rfl

/-- A connection that has just been accepted holds nothing. -/
theorem holding_accept {session : ControlSession} (h : session.holding = none) (j : Nat) :
    ({ s with sessions := s.sessions ++ [session] } : Membership).holding j = s.holding j := by
  change (s.sessions ++ [session])[j]?.bind _ = s.sessions[j]?.bind _
  by_cases hj : j < s.sessions.length
  · rw [List.getElem?_append_left hj]
  · rw [List.getElem?_append_right (Nat.le_of_not_lt hj),
      List.getElem?_eq_none (Nat.le_of_not_lt hj)]
    cases hlast : [session][j - s.sessions.length]? with
    | none => rfl
    | some other =>
        rw [List.mem_singleton.mp (List.mem_of_getElem? hlast)]
        exact h

/-- A step keeps the leases, releases one, or claims one with the next token. -/
theorem leases_step (h : Membership.step host s event = some t) :
    t.leases = s.leases ∨ (∃ i, t.leases = s.leases.release i) ∨
      ∃ i deviceId, s.leases.held i = none ∧
        t.leases = s.leases.claim i deviceId s.room.nextMembershipToken := by
  rcases step_cases h with ⟨session, -, hholding, -, rfl⟩ | ⟨room, -, hroom, rfl⟩ |
    ⟨i, session, next, after, issued, -, hsession, hstep, rfl⟩
  · left
    apply Leases.ext
    · rfl
    · exact funext fun j => holding_accept hholding j
    · rfl
  · left
    apply Leases.ext
    · exact hroom.tokenOf
    · rfl
    · rfl
  · rcases leases_session hsession hstep with ⟨heq, -⟩ | ⟨heq, -⟩ | ⟨deviceId, hfree, -, heq⟩
    · exact .inl heq
    · exact .inr (.inl ⟨i, heq⟩)
    · exact .inr (.inr ⟨i, deviceId, hfree, heq⟩)

/-- As long as the tokens are distinct, the leases are consistent. -/
theorem consistent_step (hs : s.Coherent)
    (hold : s.issued.length ≤ 2 ^ 64 → s.leases.Consistent)
    (h : Membership.step host s event = some t) (hjoins : t.issued.length ≤ 2 ^ 64) :
    t.leases.Consistent := by
  change t.leases.issued.length ≤ 2 ^ 64 at hjoins
  rcases leases_step h with heq | ⟨i, heq⟩ | ⟨i, deviceId, hfree, heq⟩
  · rw [heq] at hjoins ⊢
    exact hold hjoins
  · rw [heq] at hjoins ⊢
    rw [Leases.release_issued] at hjoins
    exact (hold hjoins).release i
  · rw [heq] at hjoins ⊢
    have hlength : s.issued.length + 1 ≤ 2 ^ 64 := hjoins
    refine (hold (by omega)).claim hfree ?_ deviceId
    change s.room.nextMembershipToken ∉ s.issued.map Prod.snd
    rw [hs.issued_eq, hs.next_eq, next_mem_tokens]
    omega

/-- Every member is held by a connection, however many tokens were issued. -/
theorem backed_step (hs : s.leases.Backed) (h : Membership.step host s event = some t) :
    t.leases.Backed := by
  rcases leases_step h with heq | ⟨i, heq⟩ | ⟨i, deviceId, hfree, heq⟩
  · rw [heq]
    exact hs
  · rw [heq]
    exact hs.release i
  · rw [heq]
    exact hs.claim hfree deviceId _

end Step

/-- Every run keeps the members coherent, and as long as it issues no token
twice, the leases are consistent. -/
theorem run_invariant {room : RoomState} {events : List Event}
    (h : run (step host) (start room) events = some t) :
    t.Coherent ∧ (t.issued.length ≤ 2 ^ 64 → t.leases.Consistent) := by
  have hstart : (start room).leases = ⟨fun _ => none, fun _ => none, []⟩ := rfl
  refine run_preserves
    (P := fun s => s.Coherent ∧ (s.issued.length ≤ 2 ^ 64 → s.leases.Consistent)) ?_ ?_ h
  · intro s event t hs hstep
    exact ⟨hs.1.step hstep, consistent_step hs.1 hs.2 hstep⟩
  · refine ⟨coherent_start room, fun _ => ?_⟩
    rw [hstart]
    exact Leases.consistent_empty

section Members

variable {deviceId : Text} {token : UInt64}

/-- The snapshot lists the table of the leases. -/
theorem mem_memberPairs (hs : s.Coherent) :
    (deviceId, token) ∈ s.memberPairs ↔ s.leases.table deviceId = some token := by
  change _ ↔ (s.room.members.lookup deviceId).map RoomMember.membershipToken = some token
  unfold memberPairs
  rw [List.mem_map, Option.map_eq_some_iff]
  constructor
  · rintro ⟨⟨key, member⟩, hentry, heq⟩
    have hlookup : s.room.members.lookup key = some member := AList.mem_lookup_iff.mpr hentry
    have hname := hs.labelled key member hlookup
    cases heq
    exact ⟨member, by rw [hname]; exact hlookup, rfl⟩
  · rintro ⟨member, hlookup, rfl⟩
    refine ⟨⟨deviceId, member⟩, AList.mem_lookup_iff.mp hlookup, ?_⟩
    rw [hs.labelled deviceId member hlookup]

/-- A device is listed once. -/
theorem nodup_memberPairs (hs : s.Coherent) : (s.memberPairs.map Prod.fst).Nodup := by
  have hkeys : s.memberPairs.map Prod.fst = s.room.members.keys := by
    unfold memberPairs
    rw [List.map_map]
    apply List.map_congr_left
    intro entry hentry
    exact hs.labelled entry.1 entry.2 (AList.mem_lookup_iff.mpr hentry)
  rw [hkeys]
  exact s.room.members.nodupKeys

/-- A connection whose token is superseded cannot touch the members. -/
theorem members_eq_of_superseded (hs : s.Coherent) (hleases : s.leases.Consistent)
    (hholding : s.holding i = some (deviceId, token))
    (hsuperseded : s.lastIssued deviceId ≠ some token) (hevent : event.session = some i)
    (h : step host s event = some t) : t.room.members = s.room.members := by
  have htable : s.room.tokenOf deviceId ≠ some token :=
    hleases.table_ne_of_superseded hsuperseded
  obtain ⟨session, next, after, issued, hsession, hstep, rfl⟩ := step_session hevent h
  rw [holding_of_session hsession] at hholding
  have hgive (hpair : session.client.pair = some (deviceId, token)) :
      giveBack s.room session.client = s.room :=
    (giveBack_of_some hpair).trans (leave_of_superseded htable)
  change next.members = s.room.members
  cases hstep with
  | quiet hphase hroom hclient hafter => exact hroom.1
  | report hphase hupdated hclient hafter => rfl
  | giveUp hphase hclient hafter =>
      rw [hgive (by simpa [ControlSession.holding, hphase] using hholding)]
  | join hphase hjoin hclient hafter => simp [ControlSession.holding, hphase] at hholding
  | update hphase hclient hafter =>
      have hown := hs.report_own session (List.mem_of_getElem? hsession) _ hphase
      have hpair : session.client.pair = some (deviceId, token) := by
        simpa [ControlSession.holding, hphase] using hholding
      rw [hpair] at hown
      cases hown
      rw [updateMember_of_superseded htable]
  | finish hphase hclient hafter =>
      rw [hgive (by simpa [ControlSession.holding, hphase] using hholding)]

/-- When the last connection has ended, no one is left in the room. -/
theorem members_eq_empty (hleases : s.leases.Consistent)
    (hended : ∀ session ∈ s.sessions, session.phase = .ended) : s.room.members = ∅ := by
  have hnone : ∀ i, s.leases.held i = none := by
    intro i
    change s.sessions[i]?.bind ControlSession.holding = none
    cases hsession : s.sessions[i]? with
    | none => rfl
    | some session =>
        have hphase := hended session (List.mem_of_getElem? hsession)
        simp [ControlSession.holding, hphase]
  apply AList.ext
  apply List.eq_nil_iff_forall_not_mem.mpr
  intro entry hentry
  have hlookup : s.room.members.lookup entry.1 = some entry.2 := AList.mem_lookup_iff.mpr hentry
  have htable := hleases.table_eq_none hnone entry.1
  change (s.room.members.lookup entry.1).map _ = none at htable
  rw [hlookup] at htable
  cases htable

end Members

/-- As long as at most `2 ^ 64` tokens were issued, membership belongs to live
connections: the room lists the pairs that are held and were issued last. -/
theorem members_are_live_leases {room : RoomState} {events : List Event}
    (h : run (step host) (start room) events = some s) (hjoins : s.issued.length ≤ 2 ^ 64) :
    (∀ deviceId token, (deviceId, token) ∈ s.memberPairs ↔
      (∃ i, s.holding i = some (deviceId, token)) ∧ s.lastIssued deviceId = some token) ∧
    (s.memberPairs.map Prod.fst).Nodup ∧ (s.issued.map Prod.snd).Nodup ∧
    (∀ i deviceId token event t, s.holding i = some (deviceId, token) →
      s.lastIssued deviceId ≠ some token → event.session = some i →
        step host s event = some t → t.room.members = s.room.members) ∧
    ((∀ session ∈ s.sessions, session.phase = .ended) → s.room.members = ∅) := by
  obtain ⟨hs, hconsistent⟩ := run_invariant h
  have hleases := hconsistent hjoins
  refine ⟨?_, nodup_memberPairs hs, ?_, ?_, members_eq_empty hleases⟩
  · intro deviceId token
    rw [mem_memberPairs hs]
    exact hleases.table_iff deviceId token
  · rw [hs.issued_eq]
    exact nodup_tokens.mpr hjoins
  · intro i deviceId token event t hholding hsuperseded hevent hstep
    exact members_eq_of_superseded hs hleases hholding hsuperseded hevent hstep

section Examples

/-- A connection sends a line and makes the call it asks for. -/
def sendLine (session : Nat) (line : String) : List Event :=
  (line.toList.map fun character => Event.receive session character 1) ++
    [.receive session '\n' 1, .call session]

def loopback : { address : Text // address ≠ [] } := ⟨"127.0.0.1".toList, by decide⟩

/-- The identity of the room in the runs below. -/
def livingRoom : RoomState where
  roomId := "1".toList
  roomName := "Room".toList
  hostDeviceId := "host".toList
  sessionId := 1
  streamId := 1
  sessionId_ne := by decide
  streamId_ne := by decide
  pending_valid := valid_of_empty

/-- A device rejoins on a second connection, then the first one ends. -/
def handover : List Event :=
  [.accept loopback, .accept loopback] ++ sendLine 0 "JOIN a" ++ sendLine 1 "JOIN a" ++
    [.disconnect 0, .call 0]

theorem handover_run : ∃ s, run (step {}) (start livingRoom) handover = some s ∧
    s.issued = [("a".toList, 2), ("a".toList, 1)] ∧ s.holding 1 = some ("a".toList, 2) := by
  refine ⟨_, rfl, ?_, ?_⟩
  · decide
  · decide

theorem members_are_live_leases_handover :
    ∃ s, run (step {}) (start livingRoom) handover = some s ∧ ("a".toList, 2) ∈ s.memberPairs := by
  obtain ⟨s, hrun, hissued, hholding⟩ := handover_run
  have hjoins : s.issued.length ≤ 2 ^ 64 := by
    rw [hissued]
    decide
  have hlast : s.lastIssued "a".toList = some 2 := by
    simp [lastIssued, Leases.lastIssued, leases, hissued]
  refine ⟨s, hrun, ?_⟩
  apply ((members_are_live_leases hrun hjoins).1 _ _).mpr
  exact ⟨⟨1, hholding⟩, hlast⟩

/-- One connection joins again and again. -/
def rejoins : Nat → List Event
  | 0 => []
  | n + 1 => sendLine 0 "JOIN a" ++ rejoins n

/-- A room with one connection that waits for a line. -/
def waiting (room : Room) (client : ControlClient) (issued : List (Text × UInt64)) :
    Membership where
  room := room
  sessions := [{ peerAddress := loopback.1, client, peerAddress_ne := loopback.2 }]
  issued := issued

theorem rejoin_run (room : Room) (client : ControlClient) (issued : List (Text × UInt64)) :
    ∃ room' client', run (step {}) (waiting room client issued) (sendLine 0 "JOIN a") =
      some (waiting room' client' (("a".toList, client'.membershipToken) :: issued)) :=
  ⟨_, ⟨_, _⟩, rfl⟩

theorem rejoins_run (n : Nat) (room : Room) (client : ControlClient)
    (issued : List (Text × UInt64)) :
    ∃ s, run (step {}) (waiting room client issued) (rejoins n) = some s ∧
      s.issued.length = issued.length + n := by
  induction n generalizing room client issued with
  | zero => exact ⟨_, rfl, rfl⟩
  | succ n ih =>
      obtain ⟨room', client', hfirst⟩ := rejoin_run room client issued
      obtain ⟨s, hrest, hlength⟩ := ih room' client' (("a".toList, client'.membershipToken) :: issued)
      refine ⟨s, run_append.mpr ⟨_, hfirst, hrest⟩, ?_⟩
      rw [hlength, List.length_cons]
      omega

/-- After `2 ^ 64` further JOINs the first token is issued again. -/
theorem members_reissue_token :
    ∃ s, run (step {}) (start livingRoom) (.accept loopback :: rejoins (2 ^ 64 + 1)) = some s ∧
      ¬ (s.issued.map Prod.snd).Nodup := by
  obtain ⟨s, hrun, hlength⟩ := rejoins_run (2 ^ 64 + 1) { state := livingRoom } {} []
  have hall : run (step {}) (start livingRoom) (.accept loopback :: rejoins (2 ^ 64 + 1)) = some s :=
    run_cons_some.mpr ⟨_, rfl, hrun⟩
  refine ⟨s, hall, ?_⟩
  rw [(run_invariant hall).1.issued_eq, nodup_tokens, hlength, List.length_nil]
  omega

end Examples

end Membership

end SyncAudio
