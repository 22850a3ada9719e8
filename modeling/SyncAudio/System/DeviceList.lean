import SyncAudio.Desktop.MainWindow
import SyncAudio.System.ResponseLines

/-!
# The device list behind the answer to MEMBERS

The host writes a line for each member and the window makes a row of each line. Every
member is held by a connection and the server takes 32 of them, so the window, which reads
32 lines, always gets to the last member. No field can be empty or hold a space, so the
fields are taken apart as they were put together.

## Implementation notes

The server counts the threads it has not joined yet; the connections that have not ended
are among them. The shell that asks counts as one of the connections, and may itself have
joined the room.
-/

namespace SyncAudio

open Text FloatText ControlServer LabelledRun HostControlChannel JoinRoundTrip MainWindow

/-- A connection that takes a step has not ended. -/
theorem SessionStep.phase_ne {room next : Room} {session after : ControlSession}
    {issued : List (Text × UInt64)}
    (h : SessionStep room session next after issued) : session.phase ≠ .ended := by
  cases h with
  | quiet hphase => simp [hphase]
  | report hphase => simp [hphase]
  | giveUp hphase => simp [hphase]
  | join hphase => simp [hphase]
  | update hphase => simp [hphase]
  | finish hphase => simp [hphase]

namespace Membership

/-- The connections that have not ended. -/
def live (s : Membership) : Nat := s.sessions.countP fun session => session.phase ≠ .ended

def Event.accepting : Event → Bool
  | .accept _ => true
  | _ => false

/-- The server of `acceptLoop`: a connection is taken only if it has less than 32. -/
def limitedStep (host : ControlStreamState) : Step Membership Event :=
  guarded (fun s event => event.accepting = true → s.live < 32) (clockedStep host)

variable {host : ControlStreamState} {s t : Membership} {event : Event} {i : Nat}
  {session after : ControlSession}

theorem live_store {issued : List (Text × UInt64)} {next : Room}
    (hsession : s.sessions[i]? = some session) (hphase : session.phase ≠ .ended) :
    (s.store i issued (next, after)).live ≤ s.live := by
  obtain ⟨hlt, hget⟩ := List.getElem?_eq_some_iff.mp hsession
  have hcounted : 0 < s.live := by
    apply List.countP_pos_iff.mpr
    exact ⟨session, List.mem_of_getElem? hsession, decide_eq_true hphase⟩
  unfold live at hcounted ⊢
  change (s.sessions.set i after).countP _ ≤ _
  rw [List.countP_set hlt, hget, if_pos (decide_eq_true hphase)]
  split_ifs <;> omega

theorem live_step (hs : s.live ≤ 32) (h : limitedStep host s event = some t) : t.live ≤ 32 := by
  obtain ⟨hlimit, hclocked⟩ := guarded_some.mp h
  obtain ⟨-, hstep⟩ := guarded_some.mp hclocked
  have hconnection {i : Nat} (hevent : event.session = some i) : t.live ≤ 32 := by
    obtain ⟨session, next, after, issued, hsession, hmoved, rfl⟩ := step_session hevent hstep
    exact (live_store hsession hmoved.phase_ne).trans hs
  cases event with
  | accept peerAddress =>
      cases hstep
      have hroom := hlimit rfl
      unfold live at hroom ⊢
      rw [List.countP_append, List.countP_singleton]
      split_ifs <;> omega
  | receive i character now => exact hconnection rfl
  | disconnect i => exact hconnection rfl
  | call i => exact hconnection rfl
  | host call =>
      simp only [Membership.step, Option.map_eq_some_iff] at hstep
      obtain ⟨room, -, rfl⟩ := hstep
      exact hs

theorem run_live {room : Room} {events : List Event}
    (hrun : run (limitedStep host) { room } events = some s) : s.live ≤ 32 := by
  have hstart : ({ room } : Membership).live ≤ 32 := Nat.zero_le 32
  exact run_preserves (P := fun s => s.live ≤ 32) live_step hstart hrun

theorem run_backed {room : Room} {events : List Event} (hempty : room.members = ∅)
    (hrun : run (limitedStep host) { room } events = some s) : s.leases.Backed := by
  apply run_preserves (fun hs h => backed_step hs (guarded_some.mp (guarded_some.mp h).2).2) _ hrun
  intro deviceId token htable
  change (room.members.lookup deviceId).map _ = some token at htable
  rw [hempty] at htable
  cases htable

/-- There are no more members than connections. -/
theorem members_le_live (hs : s.leases.Backed) : s.room.members.entries.length ≤ s.live := by
  have hheld : s.room.members.keys ⊆ (s.sessions.filterMap ControlSession.holding).map Prod.fst := by
    intro deviceId hdevice
    obtain ⟨member, hlookup⟩ := Option.isSome_iff_exists.mp
      (AList.lookup_isSome.mpr (AList.mem_keys.mpr hdevice))
    have htable : s.leases.table deviceId = some member.membershipToken :=
      congrArg (Option.map RoomMember.membershipToken) hlookup
    obtain ⟨i, hi⟩ := hs deviceId member.membershipToken htable
    obtain ⟨session, hsession, hholding⟩ := Option.bind_eq_some_iff.mp hi
    apply List.mem_map.mpr
    exact ⟨_, List.mem_filterMap.mpr ⟨session, List.mem_of_getElem? hsession, hholding⟩, rfl⟩
  have hlive : (s.sessions.filterMap ControlSession.holding).length ≤ s.live := by
    rw [List.length_filterMap_eq_countP]
    apply List.countP_mono_left
    intro session _ hholding
    apply decide_eq_true
    intro hended
    unfold ControlSession.holding at hholding
    rw [hended] at hholding
    cases hholding
  have hnodup : s.room.members.keys.Nodup := s.room.members.nodupKeys
  have hkeys := (hnodup.subperm hheld).length_le
  rw [List.length_map] at hkeys
  calc
    s.room.members.entries.length = s.room.members.keys.length := (List.length_map _).symm
    _ ≤ _ := hkeys
    _ ≤ s.live := hlive

end Membership

/-- The double nearest to a number rounded to six decimals. -/
def sixDecimals : Binary64 → Binary64
  | .finite x => Binary64.round x.negative ((millionths x.magnitude : ℚ) / 10 ^ 6)
  | value => value

/-- The row of a member. -/
def memberRow (member : RoomMember) : DeviceRow where
  name := member.deviceId
  state := connectionName member.connectionState
  quality := quality (connectionName member.connectionState) (sixDecimals member.packetLossPercent)
  output := spaceOut member.outputRoute

section Rows

variable {member : RoomMember} {value : Binary64}

/-- The window reads what has been printed. -/
theorem tryParse_toStringFixed (h : acceptedMetric value = true) :
    tryParse (toStringFixed value) = some (sixDecimals value) := by
  obtain ⟨x, rfl, hx⟩ := acceptedMetric_finite h
  obtain ⟨n, htext, hsign, hexponent, hmagnitude⟩ := toStringFixed_numeral x
  have hword := (toStringFixed_shape hx).1.isWord
  rw [htext] at hword ⊢
  rw [tryParse_text hword hexponent, Numeral.nearest, hsign, hmagnitude]
  rfl

theorem deviceRow_memberWords (h : member.Sound) :
    deviceRow (joinWords (memberWords member)) = some (memberRow member) := by
  have hwords : ∀ word ∈ memberWords member, IsWord word := fun word hword =>
    (h.words.1 word hword).isWord
  unfold deviceRow
  rw [splitFields_joinWords hwords]
  unfold memberWords
  dsimp only
  rw [if_pos rfl, tryParse_toStringFixed h.printed.2.1]
  rfl

/-- A line on a member is none of the others. -/
theorem memberWords_line (h : member.Sound) :
    (∀ c ∈ joinWords (memberWords member), c ≠ '\n' ∧ c ≠ '\r') ∧
      joinWords (memberWords member) ≠ "END".toList := by
  constructor
  · intro c hc
    have hprintable := (h.line.printable c hc).1
    constructor
    · rintro rfl
      exact absurd hprintable (by decide)
    · rintro rfl
      exact absurd hprintable (by decide)
  · have hline : ∃ rest, joinWords (memberWords member) = 'M' :: rest := ⟨_, rfl⟩
    obtain ⟨rest, hline⟩ := hline
    rw [hline]
    intro hend
    exact absurd (List.cons.inj hend).1 (by decide)

/-- The window gets a row for each member, if there are not too many. -/
theorem refreshDevices_membersResponse {identity : RoomState} {room : Room}
    (h : room.Sound identity) (hlength : room.members.entries.length ≤ 32) :
    refreshDevices (membersResponse room) =
      room.members.entries.map fun entry => memberRow entry.2 := by
  have hend : terminated ["END".toList] = "END\n".toList := rfl
  have hlines (line : Text)
      (hline : line ∈ room.members.entries.map fun entry => joinWords (memberWords entry.2)) :
      (∀ c ∈ line, c ≠ '\n' ∧ c ≠ '\r') ∧ line ≠ "END".toList := by
    obtain ⟨entry, hentry, rfl⟩ := List.mem_map.mp hline
    exact memberWords_line (h.entry hentry)
  unfold refreshDevices
  rw [membersResponse_eq, terminated_append, hend]
  unfold terminated
  rw [readRows_lines (fun line hline => (hlines line hline).1)
    (fun line hline => (hlines line hline).2) (by rw [List.length_map]; exact hlength),
    List.flatMap_map]
  have hrow : ∀ entry ∈ room.members.entries,
      (deviceRow (joinWords (memberWords entry.2))).toList = [memberRow entry.2] := by
    intro entry hentry
    rw [deviceRow_memberWords (h.entry hentry)]
    rfl
  rw [List.flatMap_congr hrow]
  exact List.map_eq_flatMap.symm

end Rows

/-- At every moment of every run of a server with at most 32 connections, the window reads
the answer to MEMBERS as one row for each member, with its device, the name of its state
and its route. The loss that it classifies is the stored one, rounded to six decimals. -/
theorem deviceList_complete {roomId roomName hostDeviceId : Text} {sessionId : UInt64}
    {streamId : UInt32} {room : Room} {host control : ControlStreamState}
    {events : List Membership.Event} {s : Membership} {client : ControlClient} {now : Int}
    {response : Response}
    (hmake : Room.make roomId roomName hostDeviceId sessionId streamId = .ok room)
    (hrun : run (Membership.limitedStep host) { room } events = some s)
    (hresponse : responseFor control (some s.room) "127.0.0.1".toList now client
      "MEMBERS".toList = .ok response) :
    (refreshDevices response.text = s.room.members.entries.map fun entry => memberRow entry.2) ∧
      (s.room.members.entries.map fun entry => entry.2.deviceId).Nodup ∧
      ∀ entry ∈ s.room.members.entries, ∃ x : Finite,
        entry.2.packetLossPercent = .finite x ∧
          tryParse (toStringFixed entry.2.packetLossPercent) =
            some (sixDecimals entry.2.packetLossPercent) ∧
          |(millionths x.magnitude : ℚ) / 10 ^ 6 - x.magnitude| ≤ 1 / 2 / 10 ^ 6 := by
  have hclocked := run_of_guarded hrun
  have hsound := (Membership.run_sound hmake hclocked).room
  have hempty := Room.members_make hmake
  have hlength : s.room.members.entries.length ≤ 32 :=
    (Membership.members_le_live (Membership.run_backed hempty.1 hrun)).trans
      (Membership.run_live hrun)
  have hanswer : responseFor control (some s.room) "127.0.0.1".toList now client
      "MEMBERS".toList = .ok ⟨membersResponse s.room, some s.room, client⟩ := rfl
  have hcoherent : s.Coherent := by
    have hstart : Membership.start room.state = { room } := by
      unfold Membership.start
      rw [hempty.2]
    exact (Membership.run_invariant (hstart ▸ run_of_guarded hclocked)).1
  refine ⟨?_, ?_, ?_⟩
  · rw [← Except.ok.inj (hanswer.symm.trans hresponse)]
    exact refreshDevices_membersResponse hsound hlength
  · have hnames := Membership.nodup_memberPairs hcoherent
    unfold Membership.memberPairs at hnames
    rw [List.map_map] at hnames
    exact hnames
  · intro entry hentry
    have haccepted := (hsound.entry hentry).printed.2.1
    obtain ⟨x, hx, -⟩ := acceptedMetric_finite haccepted
    exact ⟨x, hx, tryParse_toStringFixed haccepted, abs_millionths_sub_le x.magnitude_nonneg⟩

/-- A phone joins beside the shell. -/
def phoneJoins : List Membership.Event :=
  [.accept Membership.loopback, .accept Membership.loopback] ++ Membership.sendLine 1 "JOIN phone_1"

theorem deviceList_complete_phone :
    ∃ s response, run (Membership.limitedStep newHost) { room := newRoom } phoneJoins = some s ∧
      responseFor newHost (some s.room) "127.0.0.1".toList 2 {} "MEMBERS".toList = .ok response ∧
      (refreshDevices response.text).map (fun row => (row.name, row.state, row.output)) =
        [("phone_1".toList, "CONNECTED".toList, "Unknown".toList)] := by
  have hmake : Room.make (List.replicate 32 'a') "Living Room".toList "tandem".toList 42 1 =
      .ok newRoom := rfl
  have hrun : ∃ s, run (Membership.limitedStep newHost) { room := newRoom } phoneJoins = some s ∧
      s.room.members.entries.map (fun entry => (entry.2.deviceId,
        connectionName entry.2.connectionState, spaceOut entry.2.outputRoute)) =
          [("phone_1".toList, "CONNECTED".toList, "Unknown".toList)] := ⟨_, rfl, rfl⟩
  obtain ⟨s, hrun, hmembers⟩ := hrun
  have hresponse : responseFor newHost (some s.room) "127.0.0.1".toList 2 {} "MEMBERS".toList =
      .ok ⟨membersResponse s.room, some s.room, {}⟩ := rfl
  refine ⟨s, _, hrun, hresponse, ?_⟩
  rw [(deviceList_complete hmake hrun hresponse).1, List.map_map]
  exact hmembers

end SyncAudio
