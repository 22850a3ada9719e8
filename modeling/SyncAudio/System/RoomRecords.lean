import SyncAudio.System.JoinRoundTrip
import SyncAudio.System.Membership

/-!
# What a room stores

The lines of all connections write into one room, and its answers print what they have
written. Every text and number in it has passed the checks of the line it came with:
device identifiers those of JOIN, routes and metrics those of CLIENT_STATE, the times of
the actions those of the clock. The name of the room is checked by its constructor.

## Implementation notes

A record is also checked while a connection carries it from its snapshot to
`updateMember`.
-/

namespace SyncAudio

open Text ControlServer LabelledRun HostControlChannel JoinRoundTrip

/-- The numbers of a record, in the order of a health report. -/
def RoomMember.metrics (member : RoomMember) : ClientMetrics where
  roundTripMs := member.roundTripMs
  networkJitterMs := member.networkJitterMs
  packetLossPercent := member.packetLossPercent
  bufferDepthMs := member.bufferDepthMs
  estimatedSyncErrorMs := member.estimatedSyncErrorMs
  outputLatencyMs := member.outputLatencyMs
  clockOffsetMs := member.clockOffsetMs

/-- A record of which every field has passed its check. -/
structure RoomMember.Sound (member : RoomMember) : Prop where
  deviceId : validDeviceId member.deviceId = true
  outputRoute : validRoute member.outputRoute = true
  metrics : member.metrics.toList.all acceptedMetric = true

/-- What a connection is about to store has passed its check. -/
def SessionPhase.Sound : SessionPhase → Prop
  | .joining deviceId => validDeviceId deviceId = true
  | .reporting updated => updated.Sound
  | .receiving => True
  | .ending => True
  | .ended => True

/-- A room of a given name whose data have passed their checks. -/
structure Room.Sound (identity : RoomState) (room : Room) : Prop where
  roomId : room.state.roomId = identity.roomId
  roomName : room.state.roomName = identity.roomName
  installed : Installed room.state
  records : ∀ deviceId member, room.members.lookup deviceId = some member → member.Sound

/-- The invariant of the runs. -/
structure Membership.Sound (identity : RoomState) (s : Membership) : Prop where
  room : s.room.Sound identity
  phases : ∀ session ∈ s.sessions, session.phase.Sound

section Records

variable {identity : RoomState} {room next : Room} {member updated : RoomMember}
  {deviceId report : Text}

/-- The defaults of a record pass their checks. -/
theorem RoomMember.sound_default {ipv4Address : Text} {audioPort : UInt16} {token : UInt64}
    (h : validDeviceId deviceId = true) :
    RoomMember.Sound { deviceId, ipv4Address, audioPort, membershipToken := token } := by
  have hzero : acceptedMetric .zero = true := by
    obtain ⟨z, hzero, hvalue⟩ := Binary64.exists_zero
    rw [hzero]
    have hmagnitude : z.magnitude ≤ 1000000 := by
      rw [← Finite.abs_value, hvalue, abs_zero]
      norm_num
    exact decide_eq_true hmagnitude
  constructor
  · exact h
  · rfl
  · simp only [RoomMember.metrics, ClientMetrics.toList, List.all_cons, List.all_nil, hzero,
      Bool.and_self]

/-- A health report keeps the identifier and brings checked values only. -/
theorem RoomMember.Sound.readClientState (h : member.Sound)
    (hread : readClientState member report = some updated) : updated.Sound := by
  have hid := (readClientState_identity hread).1
  unfold ControlServer.readClientState at hread
  simp only [Option.bind_eq_bind, Option.bind_eq_some_iff] at hread
  obtain ⟨status, -, metrics, -, route, hroute, hread⟩ := hread
  split_ifs at hread with hrefused
  obtain ⟨state, -, hread⟩ := Option.bind_eq_some_iff.mp hread
  have haccepted : metrics.1.toList.all acceptedMetric = true := by simpa using hrefused
  cases hread
  constructor
  · exact h.deviceId
  · unfold readRoute at hroute
    split at hroute
    · cases hroute
      exact h.outputRoute
    · split_ifs at hroute with hvalid
      cases hroute
      exact hvalid
  · exact haccepted

theorem Room.Sound.of_members (h : room.Sound identity) (hstate : next.state = room.state)
    (hmembers : ∀ deviceId member, next.members.lookup deviceId = some member →
      room.members.lookup deviceId = some member ∨ member.Sound) : next.Sound identity where
  roomId := hstate ▸ h.roomId
  roomName := hstate ▸ h.roomName
  installed := hstate ▸ h.installed
  records := fun deviceId member hlookup => by
    obtain hold | hsound := hmembers deviceId member hlookup
    · exact h.records deviceId member hold
    · exact hsound

theorem giveBack_state (room : Room) (client : ControlClient) :
    (giveBack room client).state = room.state := by
  unfold giveBack
  split_ifs
  · exact leave_state room _ _
  · rfl

theorem Room.Sound.giveBack (h : room.Sound identity) (client : ControlClient) :
    (giveBack room client).Sound identity :=
  h.of_members (giveBack_state room client) fun _ _ hlookup => .inl (giveBack_lookup hlookup)

theorem Room.Sound.join {ipv4Address : Text} {audioPort : UInt16} {token : UInt64}
    (h : room.Sound identity) (hdevice : validDeviceId deviceId = true)
    (hjoin : room.join deviceId ipv4Address audioPort = .ok (token, next)) :
    next.Sound identity := by
  refine h.of_members (join_state hjoin) fun key member hlookup => ?_
  unfold Room.join at hjoin
  split_ifs at hjoin
  cases hjoin
  by_cases hkey : key = deviceId
  · subst hkey
    rw [AList.lookup_insert] at hlookup
    cases hlookup
    exact .inr (RoomMember.sound_default hdevice)
  · rw [AList.lookup_insert_ne hkey] at hlookup
    exact .inl hlookup

theorem updateMember_state (room : Room) (member : RoomMember) :
    (room.updateMember member).2.state = room.state := by
  unfold Room.updateMember
  split_ifs <;> rfl

theorem Room.Sound.updateMember (h : room.Sound identity) (hupdated : updated.Sound) :
    (room.updateMember updated).2.Sound identity := by
  refine h.of_members (updateMember_state room updated) fun key member hlookup => ?_
  rw [updateMember_lookup] at hlookup
  split_ifs at hlookup
  · cases hlookup
    exact .inr hupdated
  · exact .inl hlookup

theorem Room.Sound.reportedMember {client : ControlClient} (h : room.Sound identity)
    (hreported : reportedMember room client report = some updated) : updated.Sound := by
  unfold ControlServer.reportedMember at hreported
  split_ifs at hreported
  obtain ⟨member, hmember, hread⟩ := Option.bind_eq_some_iff.mp hreported
  exact (h.records _ _ (Option.filter_eq_some_iff.mp hmember).1).readClientState hread

/-- A line other than JOIN and CLIENT_STATE. -/
theorem Room.Sound.responseFor {control : ControlStreamState} {peerAddress line : Text} {now : Int}
    {client : ControlClient} {response : Response} (h : room.Sound identity)
    (hbound : effectiveTime now < 2 ^ 63) (hmembers : SameMembers room next)
    (hresponse : responseFor control (some room) peerAddress now client line = .ok response)
    (hnext : response.room = some next) : next.Sound identity := by
  have hidentity : next.state.roomId = room.state.roomId ∧
      next.state.roomName = room.state.roomName := by
    obtain hstate | ⟨command, -, hschedule⟩ := responseFor_state hresponse hnext
    · rw [hstate]
      exact ⟨rfl, rfl⟩
    · obtain ⟨-, -, -, _, hstate⟩ := scheduleAction_accepted hschedule
      rw [hstate]
      exact ⟨rfl, rfl⟩
  constructor
  · exact hidentity.1.trans h.roomId
  · exact hidentity.2.trans h.roomName
  · exact h.installed.responseFor hbound hresponse hnext
  · intro deviceId member hlookup
    rw [hmembers.1] at hlookup
    exact h.records deviceId member hlookup

theorem Room.Sound.host {call : HostCall} (h : room.Sound identity)
    (happly : call.apply room = some next) : next.Sound identity := by
  cases call with
  | setPlaybackState state =>
      cases happly
      exact ⟨h.roomId, h.roomName, h.installed, h.records⟩
  | setStreamId streamId =>
      simp only [HostCall.apply, Room.setStreamId] at happly
      split_ifs at happly <;> cases happly
      exact ⟨h.roomId, h.roomName, h.installed, h.records⟩
  | takeAction =>
      cases happly
      exact ⟨h.roomId, h.roomName, h.installed.takeAction, h.records⟩

/-- A new room has no members. -/
theorem Room.members_make {roomId roomName hostDeviceId : Text} {sessionId : UInt64}
    {streamId : UInt32}
    (h : Room.make roomId roomName hostDeviceId sessionId streamId = .ok room) :
    room.members = ∅ ∧ room = { state := room.state } := by
  unfold Room.make at h
  split_ifs at h
  cases h
  exact ⟨rfl, rfl⟩

theorem Room.Sound.make {roomId roomName hostDeviceId : Text} {sessionId : UInt64}
    {streamId : UInt32}
    (h : Room.make roomId roomName hostDeviceId sessionId streamId = .ok room) :
    room.Sound room.state := by
  constructor
  · rfl
  · rfl
  · exact .make h
  · intro deviceId member hlookup
    rw [(Room.members_make h).1] at hlookup
    cases hlookup

end Records

section Sessions

variable {identity : RoomState} {host : ControlStreamState} {now : Int} {room next : Room}
  {session after : ControlSession} {line : Text} {character : Char}

theorem SessionPhase.Sound.of_receiving {phase : SessionPhase} (h : phase = .receiving) :
    phase.Sound := by
  rw [h]
  trivial

theorem ControlSession.answerLine_sound (h : room.Sound identity)
    (hphase : session.phase = .receiving) (hbound : effectiveTime now < 2 ^ 63)
    (hanswer : session.answerLine host now room line = .ok (next, after)) :
    next.Sound identity ∧ after.phase.Sound := by
  unfold ControlSession.answerLine at hanswer
  by_cases hjoin : "JOIN ".toList.isPrefixOf line ∧ validDeviceId (line.drop 5) = true
  · rw [if_pos hjoin] at hanswer
    cases hanswer
    exact ⟨h.giveBack session.client, hjoin.2⟩
  rw [if_neg hjoin] at hanswer
  by_cases hreport : "CLIENT_STATE ".toList.isPrefixOf line = true
  · rw [if_pos hreport] at hanswer
    cases hmember : reportedMember room session.client (line.drop 13) with
    | none =>
        rw [hmember] at hanswer
        cases hanswer
        exact ⟨h, .of_receiving hphase⟩
    | some updated =>
        rw [hmember] at hanswer
        cases hanswer
        exact ⟨h, h.reportedMember hmember⟩
  rw [if_neg hreport] at hanswer
  by_cases hleave : line = "LEAVE".toList
  · rw [if_pos hleave] at hanswer
    cases hanswer
    exact ⟨h, trivial⟩
  rw [if_neg hleave] at hanswer
  cases hresponse : ControlServer.responseFor host (some room) session.peerAddress now
      session.client line with
  | error message =>
      rw [hresponse] at hanswer
      cases hanswer
  | ok response =>
      rw [hresponse] at hanswer
      cases hanswer
      refine ⟨?_, .of_receiving hphase⟩
      obtain ⟨hmembers, -⟩ := responseFor_sameMembers hjoin hreport hresponse
      cases hroom : response.room with
      | none => exact h
      | some answered =>
          rw [hroom] at hmembers
          exact h.responseFor hbound hmembers hresponse hroom

theorem ControlSession.receive_sound (h : room.Sound identity)
    (hphase : session.phase = .receiving) (hbound : effectiveTime now < 2 ^ 63)
    (hreceive : session.receive host now room character = .ok (next, after)) :
    next.Sound identity ∧ after.phase.Sound := by
  unfold ControlSession.receive at hreceive
  split_ifs at hreceive
  · exact answerLine_sound h hphase hbound hreceive
  · cases hreceive
    exact ⟨h, .of_receiving hphase⟩
  · cases hreceive
    exact ⟨h, trivial⟩

theorem ControlSession.call_sound (h : room.Sound identity) (hphase : session.phase.Sound)
    (hcall : session.call host room = some (next, after)) :
    next.Sound identity ∧ after.phase.Sound := by
  unfold ControlSession.call at hcall
  cases hcurrent : session.phase with
  | receiving =>
      rw [hcurrent] at hcall
      cases hcall
  | joining deviceId =>
      rw [hcurrent] at hcall hphase
      dsimp only at hcall
      cases hjoin : room.join deviceId session.peerAddress host.audioPort with
      | error message =>
          rw [hjoin] at hcall
          cases hcall
      | ok joined =>
          rw [hjoin] at hcall
          cases hcall
          exact ⟨h.join hphase hjoin, trivial⟩
  | reporting updated =>
      rw [hcurrent] at hcall hphase
      cases hcall
      exact ⟨h.updateMember hphase, trivial⟩
  | ending =>
      rw [hcurrent] at hcall
      cases hcall
      exact ⟨h.giveBack session.client, trivial⟩
  | ended =>
      rw [hcurrent] at hcall
      cases hcall

end Sessions

namespace Membership

/-- A reading of the clock in nanoseconds, with the two seconds that a command looks ahead. -/
def ClockReading (now : Int) : Prop := -2 ^ 63 ≤ now ∧ effectiveTime now < 2 ^ 63

instance (now : Int) : Decidable (ClockReading now) := inferInstanceAs (Decidable (_ ∧ _))

/-- The clock reading of the step. -/
def Event.reading : Event → Option Int
  | .receive _ _ now => some now
  | _ => none

/-- The server, with the readings of the clock in their range. -/
def clockedStep (host : ControlStreamState) : Step Membership Event :=
  guarded (fun _ event => ∀ now ∈ event.reading, ClockReading now) (step host)

variable {identity : RoomState} {host : ControlStreamState} {s t : Membership} {event : Event}
  {i : Nat} {session : ControlSession}

theorem Sound.phase (h : s.Sound identity) (hsession : s.sessions[i]? = some session) :
    session.phase.Sound :=
  h.phases session (List.mem_of_getElem? hsession)

/-- A step of one connection changes its own phase only. -/
theorem Sound.store {issued : List (Text × UInt64)} {result : Room × ControlSession}
    (h : s.Sound identity) (hresult : result.1.Sound identity ∧ result.2.phase.Sound) :
    (s.store i issued result).Sound identity where
  room := hresult.1
  phases := by
    intro other hother
    obtain hold | rfl := List.mem_or_eq_of_mem_set hother
    · exact h.phases other hold
    · exact hresult.2

theorem Sound.step (h : s.Sound identity) (hstep : clockedStep host s event = some t) :
    t.Sound identity := by
  obtain ⟨hclock, hstep⟩ := guarded_some.mp hstep
  cases event with
  | accept peerAddress =>
      cases hstep
      constructor
      · exact h.room
      · intro session hsession
        obtain hold | hnew := List.mem_append.mp hsession
        · exact h.phases session hold
        · rw [List.mem_singleton.mp hnew]
          trivial
  | receive i character now =>
      simp only [Membership.step, Option.bind_eq_bind, Option.bind_eq_some_iff] at hstep
      obtain ⟨session, hsession, hstep⟩ := hstep
      split_ifs at hstep with hphase
      cases hreceive : session.receive host now s.room character with
      | error message =>
          rw [hreceive] at hstep
          cases hstep
      | ok result =>
          rw [hreceive] at hstep
          cases hstep
          exact h.store (ControlSession.receive_sound h.room hphase (hclock now rfl).2 hreceive)
  | disconnect i =>
      simp only [Membership.step, Option.bind_eq_bind, Option.bind_eq_some_iff] at hstep
      obtain ⟨session, -, hstep⟩ := hstep
      split_ifs at hstep
      cases hstep
      exact h.store ⟨h.room, trivial⟩
  | call i =>
      simp only [Membership.step, Option.bind_eq_bind, Option.bind_eq_some_iff] at hstep
      obtain ⟨session, hsession, result, hcall, hstep⟩ := hstep
      cases hstep
      exact h.store (ControlSession.call_sound h.room (h.phase hsession) hcall)
  | host call =>
      simp only [Membership.step, Option.map_eq_some_iff] at hstep
      obtain ⟨room, happly, rfl⟩ := hstep
      exact ⟨h.room.host happly, h.phases⟩

/-- The data of a room have passed their checks, whatever its connections do. -/
theorem run_sound {roomId roomName hostDeviceId : Text} {sessionId : UInt64} {streamId : UInt32}
    {room : Room} {events : List Event}
    (hmake : Room.make roomId roomName hostDeviceId sessionId streamId = .ok room)
    (hrun : run (clockedStep host) { room } events = some s) : s.Sound room.state :=
  run_preserves (fun h hstep => h.step hstep)
    ⟨.make hmake, fun _ h => absurd h List.not_mem_nil⟩ hrun

end Membership

end SyncAudio
