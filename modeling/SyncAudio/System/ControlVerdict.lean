import SyncAudio.Desktop.DiscoveryService
import SyncAudio.Desktop.MainWindow
import SyncAudio.System.RemotePeers

/-!
# What a local command is told

The shell and the window of a host send one command over the control channel and take the first
line of the answer for the verdict. Over a whole session, with all its connections, the answers
that they take for an acceptance are exactly those to the actions that the room has accepted.

## Implementation notes

The socket is left out: an answer that ends before its line does counts as one that has timed
out. The window sends nothing while it does not host, and checks nothing of what it sends.
-/

namespace SyncAudio

open Text ControlServer LabelledRun HostControlChannel JoinRoundTrip

namespace RoomControlClient

/-- The loop over the characters of the answer. -/
def readResponse : Nat → Text → Option Text
  | 0, _ => some []
  | _ + 1, [] => none
  | count + 1, c :: received =>
      if c = '\n' then some [] else (readResponse count received).map fun response => c :: response

/-- What `issue` refuses to send. -/
def Unsendable (port : UInt16) (command : Text) : Prop :=
  port = 0 ∨ command = [] ∨ 100 < command.length ∨
    command.any (fun c => c = '\r' || c = '\n') = true

instance (port : UInt16) (command : Text) : Decidable (Unsendable port command) :=
  inferInstanceAs (Decidable (port = 0 ∨ command = [] ∨ 100 < command.length ∨
    command.any (fun c => c = '\r' || c = '\n') = true))

/-- `issue`, on what the host has answered. -/
def issue (port : UInt16) (command received : Text) : Except Text Text :=
  if Unsendable port command then .error "Invalid local room command".toList
  else
    match readResponse 256 received with
    | none => .error "Local room command response timed out".toList
    | some response => .ok response

/-- `runControl`. -/
def runControl (port : UInt16) (command received : Text) : Except Text Text :=
  match issue port command received with
  | .error message => .error message
  | .ok response =>
      if "SCHEDULED ".toList.isPrefixOf response then .ok response
      else .error ("Room command was rejected: ".toList ++ response)

end RoomControlClient

/-- `SendControlAsync`, on what the host has answered: the text for an acceptance, or another. -/
def MainWindow.sendControl (command received : Text) : Except Text Text :=
  match MainWindow.readLine received with
  | none => .error "Room control: no response".toList
  | some (response, _) =>
      if "SCHEDULED ".toList.isPrefixOf response then
        .ok (command ++ " scheduled for the room".toList)
      else .error ("Room control: ".toList ++ response)

/-- The answer to an action that was accepted. -/
def ScheduledRoomAction.answer (action : ScheduledRoomAction) : Text :=
  scheduledLine
    { action := action.action, seekFrame := action.seekFrame, nextStreamId := action.nextStreamId }
    action.effectiveHostNanoseconds

namespace ControlVerdict

/-- A reader of the first line that can tell an acceptance from everything else a host sends. -/
structure Reader (verdict : Text → Bool) : Prop where
  accepts : ∀ action : ScheduledRoomAction, verdict action.answer = true
  refuses : ∀ text : Text, text.head? ≠ some 'S' → verdict text = false

section Readers

variable {text received response : Text} {count : Nat} {port : UInt16} {command : Text}

theorem head_of_scheduled (h : "SCHEDULED ".toList.isPrefixOf response = true) :
    response.head? = some 'S' := by
  obtain ⟨rest, rfl⟩ := List.isPrefixOf_iff_prefix.mp h
  rfl

theorem readResponse_head (h : RoomControlClient.readResponse (count + 1) received = some response)
    (hhead : response.head? = some 'S') : received.head? = some 'S' := by
  cases received with
  | nil => cases h
  | cons c received =>
      rw [RoomControlClient.readResponse] at h
      split_ifs at h with hfeed
      · cases h
        cases hhead
      · obtain ⟨more, -, rfl⟩ := Option.map_eq_some_iff.mp h
        exact hhead

/-- An answer with a line feed is read. -/
theorem exists_readResponse (h : '\n' ∈ received) (count : Nat) :
    ∃ response, RoomControlClient.readResponse count received = some response := by
  induction received generalizing count with
  | nil => exact absurd h List.not_mem_nil
  | cons c received ih =>
      cases count with
      | zero => exact ⟨[], rfl⟩
      | succ count =>
          rw [RoomControlClient.readResponse]
          split_ifs with hfeed
          · exact ⟨[], rfl⟩
          · obtain ⟨response, hresponse⟩ :=
              ih ((List.mem_cons.mp h).resolve_left fun heq => hfeed heq.symm) count
            exact ⟨c :: response, by rw [hresponse, Option.map_some]⟩

theorem readResponse_append {front : Text} (hfront : ∀ c ∈ front, c ≠ '\n') :
    RoomControlClient.readResponse (front.length + count) (front ++ received) =
      (RoomControlClient.readResponse count received).map fun response => front ++ response := by
  induction front with
  | nil => simp
  | cons c front ih =>
      have hrest := ih fun d hd => hfront d (List.mem_cons_of_mem c hd)
      rw [List.length_cons, Nat.succ_add, List.cons_append, RoomControlClient.readResponse,
        if_neg (hfront c List.mem_cons_self), hrest, Option.map_map]
      rfl

/-- An acceptance begins with its keyword and ends with a line feed. -/
theorem answer_eq (action : ScheduledRoomAction) :
    ∃ rest, action.answer = "SCHEDULED ".toList ++ rest ∧ '\n' ∈ rest := by
  have hanswer : action.answer = "SCHEDULED ".toList ++ (actionName action.action ++
      (' ' :: ofInt action.effectiveHostNanoseconds ++
        (' ' :: ofNat action.seekFrame.toNat ++ ['\n']))) := by
    unfold ScheduledRoomAction.answer scheduledLine
    simp only [List.append_assoc]
  have hfeed : '\n' ∈ ' ' :: ofNat action.seekFrame.toNat ++ ['\n'] :=
    List.mem_append_right _ (List.mem_singleton_self '\n')
  exact ⟨_, hanswer, List.mem_append_right _ (List.mem_append_right _ hfeed)⟩

/-- The shell can tell, whatever it has sent. -/
theorem runControl_reader (h : ¬ RoomControlClient.Unsendable port command) :
    Reader fun text => (RoomControlClient.runControl port command text).isOk := by
  constructor
  · intro action
    obtain ⟨rest, hanswer, hfeed⟩ := answer_eq action
    obtain ⟨response, hresponse⟩ := exists_readResponse hfeed 246
    have hfront : ∀ c ∈ "SCHEDULED ".toList, c ≠ '\n' := forall_of_check rfl
    have hread : RoomControlClient.readResponse 256 action.answer =
        some ("SCHEDULED ".toList ++ response) := by
      rw [hanswer]
      exact (readResponse_append hfront).trans (by rw [hresponse, Option.map_some])
    have hkeyword : "SCHEDULED ".toList.isPrefixOf ("SCHEDULED ".toList ++ response) = true :=
      List.isPrefixOf_iff_prefix.mpr (List.prefix_append _ _)
    simp only [RoomControlClient.runControl, RoomControlClient.issue, if_neg h, hread, hkeyword,
      if_true]
    rfl
  · intro text hhead
    simp only [RoomControlClient.runControl, RoomControlClient.issue, if_neg h]
    cases hread : RoomControlClient.readResponse 256 text with
    | none => rfl
    | some response =>
        have hkeyword : ¬ "SCHEDULED ".toList.isPrefixOf response = true := fun hkeyword =>
          hhead (readResponse_head hread (head_of_scheduled hkeyword))
        simp only [if_neg hkeyword]
        rfl

/-- So can the window. -/
theorem sendControl_reader (command : Text) :
    Reader fun text => (MainWindow.sendControl command text).isOk := by
  constructor
  · intro action
    obtain ⟨rest, hanswer, -⟩ := answer_eq action
    have hfront : ∀ c ∈ "SCHEDULED ".toList, (c ≠ '\n' && c ≠ '\r') = true := forall_of_check rfl
    have hkeyword : "SCHEDULED ".toList.isPrefixOf
        ((action.answer).takeWhile fun c => c ≠ '\n' && c ≠ '\r') = true := by
      rw [hanswer, List.takeWhile_append_of_pos hfront]
      exact List.isPrefixOf_iff_prefix.mpr (List.prefix_append _ _)
    have hne : action.answer ≠ [] := by
      rw [hanswer]
      exact List.append_ne_nil_of_left_ne_nil (by decide) _
    simp only [MainWindow.sendControl, MainWindow.readLine, if_neg hne, hkeyword, if_true]
    rfl
  · intro text hhead
    cases text with
    | nil => rfl
    | cons c text =>
        have hkeyword : ¬ "SCHEDULED ".toList.isPrefixOf
            ((c :: text).takeWhile fun c => c ≠ '\n' && c ≠ '\r') = true := by
          intro hkeyword
          have hfirst := head_of_scheduled hkeyword
          rw [List.takeWhile_cons] at hfirst
          split_ifs at hfirst
          · exact hhead hfirst
          · cases hfirst
        simp only [MainWindow.sendControl, MainWindow.readLine, if_neg (List.cons_ne_nil c text),
          if_neg hkeyword]
        rfl

end Readers

section Answers

variable {control : ControlStreamState} {room : Room} {peerAddress line text : Text} {now : Int}
  {client : ControlClient} {response : Response}

theorem fixed_head (h : text ∈ fixedAnswers) : text.head? ≠ some 'S' := by
  have hall : (fixedAnswers.all fun text => decide (text.head? ≠ some 'S')) = true := by
    decide +kernel
  exact of_decide_eq_true (List.all_eq_true.mp hall text h)

theorem head_append {front rest : Text} (h : front ≠ [] ∧ front.head? ≠ some 'S') :
    (front ++ rest).head? ≠ some 'S' := by
  rw [List.head?_append_of_ne_nil front h.1]
  exact h.2

theorem joinResponse_head {deviceId : Text}
    (h : joinResponse control (some room) peerAddress now client deviceId = .ok response) :
    response.text.head? ≠ some 'S' := by
  by_cases hdevice : validDeviceId deviceId = true
  · rw [joinResponse_text hdevice h]
    unfold answerText welcomeWords
    simp only [joinWords, List.append_assoc]
    exact head_append (by decide)
  · unfold joinResponse at h
    rw [Bool.eq_false_iff.mpr hdevice, Bool.not_false, if_pos rfl] at h
    cases h
    exact fixed_head (List.mem_of_getElem? (i := 4) rfl)

theorem hostStateLine_head : (hostStateLine control (some room)).head? ≠ some 'S' := by
  unfold hostStateLine
  simp only [List.append_assoc]
  exact head_append (by decide)

theorem memberLine_eq (member : RoomMember) :
    ∃ rest, memberLine member = "MEMBER ".toList ++ rest := by
  unfold memberLine
  simp only [List.append_assoc]
  exact ⟨_, rfl⟩

theorem membersAnswer_head : (membersAnswer (some room) peerAddress).head? ≠ some 'S' := by
  unfold membersAnswer membersResponse
  dsimp only
  split_ifs
  · cases room.members.entries with
    | nil => decide
    | cons entry entries =>
        obtain ⟨rest, hline⟩ := memberLine_eq entry.2
        rw [List.flatMap_cons, hline, List.append_assoc, List.append_assoc]
        exact head_append (by decide)
  · decide

/-- No line but a command is answered with an acceptance. -/
theorem responseFor_head (hcommand : isCommand line = false)
    (h : responseFor control (some room) peerAddress now client line = .ok response) :
    response.text.head? ≠ some 'S' := by
  unfold responseFor at h
  rw [hcommand, if_neg Bool.false_ne_true] at h
  split_ifs at h
  · cases h
    exact fixed_head (List.mem_of_getElem? (i := 0) rfl)
  · cases h
    exact fixed_head (List.mem_of_getElem? (i := 3) rfl)
  · exact joinResponse_head h
  · cases h
    exact hostStateLine_head
  · cases h
    exact membersAnswer_head
  · cases h
    exact fixed_head (clientStateResponse_fixed room client (line.drop 13))
  · cases h
    exact fixed_head (List.mem_of_getElem? (i := 2) rfl)
  · cases h
    exact fixed_head (List.mem_of_getElem? (i := 13) rfl)

end Answers

section Session

variable {setup : HostSetup} {peerAddress : Nat → Text} {verdict : Text → Bool}
  {s t : HostServer} {event : HostServer.Event} {system next : HostSystem} {input : HostInput}

theorem takeStep_scheduled (pc : ScheduledRoomAction → HostThread) (empty : HostPc) :
    (system.takeStep pc empty).scheduled = system.scheduled := by
  unfold HostSystem.takeStep
  dsimp only
  cases system.room.takeAction.1 with
  | none => rfl
  | some action => rfl

theorem installStep_scheduled (command : ScheduledRoomAction) (pc : HostPc) :
    (system.installStep command pc).scheduled = system.scheduled := by
  unfold HostSystem.installStep
  cases system.room.setStreamId command.nextStreamId with
  | error message => rfl
  | ok room => rfl

theorem openSegment_scheduled : (system.openSegment setup input).scheduled = system.scheduled := by
  unfold HostSystem.openSegment
  split
  · rfl
  · split <;> rfl

/-- The host thread accepts nothing by itself. -/
theorem hostStep_scheduled (h : system.hostStep setup input = some next) :
    next.scheduled = system.scheduled := by
  unfold HostSystem.hostStep at h
  cases hpc : system.host.pc <;> rw [hpc] at h <;> dsimp only at h
  case takeCommand => cases h; exact takeStep_scheduled _ _
  case takePlay => cases h; exact takeStep_scheduled _ _
  case takeSeek => cases h; exact takeStep_scheduled _ _
  case takeStop => cases h; exact takeStep_scheduled _ _
  case installSeek command => cases h; exact installStep_scheduled command _
  case openSegment => cases h; exact openSegment_scheduled
  case branch command =>
      cases h
      unfold HostSystem.branchStep
      cases command.action with
      | stop => rfl
      | seek => exact installStep_scheduled command _
      | pause => rfl
      | play => rfl
  case head host segment =>
      cases h
      unfold HostSystem.headStep
      split <;> rfl
  case sending host segment timestamp requested =>
      unfold HostSystem.sendStep at h
      split at h
      · cases h; rfl
      · cases h; rfl
      · split_ifs at h; cases h; rfl
  case paused =>
      cases h
      unfold HostSystem.pausedStep
      split <;> rfl
  case waitCutoff command => split_ifs at h; cases h; rfl
  case waitSeek command => split_ifs at h; cases h; rfl
  case waitStop command => split_ifs at h; cases h; rfl
  case done => cases h
  case failed message => cases h
  all_goals
    cases h
    rfl

/-- The answers that are taken for an acceptance are those to the accepted actions. -/
def Tallied (verdict : Text → Bool) (s : HostServer) : Prop :=
  (s.replies.map Reply.text).filter verdict = s.system.scheduled.map ScheduledRoomAction.answer

theorem Tallied.of_same (h : Tallied verdict s) (hreplies : t.replies = s.replies)
    (hscheduled : t.system.scheduled = s.system.scheduled) : Tallied verdict t := by
  rw [Tallied, hreplies, hscheduled]
  exact h

/-- Another answer. -/
theorem Tallied.send (h : Tallied verdict s) (hreader : Reader verdict) (connection : Nat)
    (line : Text) {text : Text} (hhead : text.head? ≠ some 'S') :
    Tallied verdict (s.send connection line text) := by
  have hrefused := hreader.refuses text hhead
  rw [Tallied, HostServer.send, List.map_append, List.filter_append, h]
  simp [hrefused]

/-- The answer to another action. -/
theorem Tallied.accept (h : Tallied verdict s) (hreader : Reader verdict)
    {action : ScheduledRoomAction}
    (hreplies : t.replies.map Reply.text = s.replies.map Reply.text ++ [action.answer])
    (hscheduled : t.system.scheduled = s.system.scheduled ++ [action]) : Tallied verdict t := by
  have haccepted := hreader.accepts action
  rw [Tallied, hreplies, hscheduled, List.filter_append, List.map_append, h,
    List.filter_cons_of_pos haccepted]
  rfl

theorem Tallied.answerLine (h : Tallied verdict s) (hreader : Reader verdict) {connection : Nat}
    {line : Text} (hstep : s.answerLine peerAddress connection line = some t) :
    Tallied verdict t := by
  unfold HostServer.answerLine at hstep
  cases hphase : s.system.connections connection with
  | idle =>
      rw [hphase] at hstep
      dsimp only at hstep
      split_ifs at hstep with hcommand
      · cases hcheck : checkCommand s.system.control.totalFrames s.system.room.state
            (peerAddress connection) line with
        | error text =>
            rw [hcheck] at hstep
            cases hstep
            exact h.send hreader connection line (fixed_head (checkCommand_fixed hcheck))
        | ok command =>
            rw [hcheck] at hstep
            cases hstep
            exact h.of_same rfl rfl
      · cases hresponse : responseFor s.system.control (some s.system.room)
            (peerAddress connection) s.system.now (s.clients connection) line with
        | error message =>
            rw [hresponse] at hstep
            cases hstep
        | ok response =>
            rw [hresponse] at hstep
            cases hstep
            have hhead := responseFor_head (Bool.eq_false_iff.mpr hcommand) hresponse
            exact (h.send hreader connection line hhead).of_same rfl rfl
  | checked command =>
      rw [hphase] at hstep
      cases hstep
  | stamped command effective =>
      rw [hphase] at hstep
      cases hstep

/-- A commit is answered with an acceptance exactly if its action is accepted. -/
theorem Tallied.commit (h : Tallied verdict s) (hreader : Reader verdict) {connection : Nat}
    (hstep : HostServer.step setup peerAddress s (.commit connection) = some t) :
    Tallied verdict t := by
  obtain ⟨system, hsystem, rfl⟩ := Option.map_eq_some_iff.mp hstep
  simp only [HostSystem.step] at hsystem
  cases hphase : s.system.connections connection with
  | idle =>
      rw [hphase] at hsystem
      cases hsystem
  | checked command =>
      rw [hphase] at hsystem
      cases hsystem
  | stamped command effective =>
      rw [hphase] at hsystem
      cases hsystem
      rw [HostServer.committed, hphase]
      dsimp only
      unfold commitCommand HostSystem.commitStep
      cases s.system.room.scheduleAction (command.scheduled effective) with
      | error message => exact h.of_same (List.append_nil _) rfl
      | ok result =>
          obtain ⟨accepted, room⟩ := result
          cases accepted with
          | false =>
              exact (h.send hreader connection (s.lines connection)
                (show "ERROR command-pending\n".toList.head? ≠ some 'S' by decide)).of_same rfl rfl
          | true =>
              have hreplies : (s.replies ++ [Reply.mk connection (s.lines connection)
                  (command.scheduled effective).answer]).map Reply.text =
                    s.replies.map Reply.text ++ [(command.scheduled effective).answer] :=
                List.map_append
              exact h.accept hreader hreplies rfl

theorem Tallied.step (hreader : Reader verdict) (h : Tallied verdict s)
    (hstep : HostServer.step setup peerAddress s event = some t) : Tallied verdict t := by
  cases event with
  | tick later =>
      obtain ⟨system, hsystem, rfl⟩ := Option.map_eq_some_iff.mp hstep
      rw [HostSystem.step] at hsystem
      split_ifs at hsystem
      cases hsystem
      exact h.of_same rfl rfl
  | host input =>
      obtain ⟨system, hsystem, rfl⟩ := Option.map_eq_some_iff.mp hstep
      exact h.of_same rfl (hostStep_scheduled hsystem)
  | line connection line => exact h.answerLine hreader hstep
  | readClock connection =>
      obtain ⟨system, hsystem, rfl⟩ := Option.map_eq_some_iff.mp hstep
      simp only [HostSystem.step] at hsystem
      split at hsystem
      · cases hsystem
        exact h.of_same rfl rfl
      · cases hsystem
  | commit connection => exact h.commit hreader hstep
  | malformed connection =>
      cases hstep
      exact (h.send hreader connection []
        (show "ERROR malformed-line\n".toList.head? ≠ some 'S' by decide)).of_same rfl rfl
  | close connection =>
      cases hstep
      exact h.of_same rfl rfl

theorem tallied_run {hostAddress : Text} {clockPort : UInt16} {now : Int}
    {events : List HostServer.Event} (hreader : Reader verdict)
    (hrun : run (HostServer.step setup peerAddress)
      (HostServer.initial setup hostAddress clockPort now) events = some s) :
    Tallied verdict s := by
  apply run_preserves (Tallied.step hreader) _ hrun
  rfl

/-- In every session of a host, with any connections, the answers with which the shell would
succeed and the answers that the window would show as accepted are, in order, exactly those to
the actions that the room has accepted. -/
theorem accepted_answers {hostAddress : Text} {clockPort : UInt16} {now : Int}
    (events : List HostServer.Event) (port : UInt16) (command : Text)
    (hsendable : ¬ RoomControlClient.Unsendable port command)
    (hrun : run (HostServer.step setup peerAddress)
      (HostServer.initial setup hostAddress clockPort now) events = some s) :
    (s.replies.map Reply.text).filter
        (fun text => (RoomControlClient.runControl port command text).isOk) =
          s.system.scheduled.map ScheduledRoomAction.answer ∧
      (s.replies.map Reply.text).filter
        (fun text => (MainWindow.sendControl command text).isOk) =
          s.system.scheduled.map ScheduledRoomAction.answer :=
  ⟨tallied_run (runControl_reader hsendable) hrun, tallied_run (sendControl_reader command) hrun⟩

/-- The shell that pauses the session of a host is told so, and no one else is. -/
theorem accepted_answers_visit : ∃ s : HostServer,
    run (HostServer.step HostServer.visitSetup HostServer.visitPeer)
      (HostServer.initial HostServer.visitSetup (dotted 192 168 1 10) 40101 0) HostServer.visit =
        some s ∧
    s.system.scheduled.length = 1 ∧
    (s.replies.map Reply.text).filter
        (fun text => (RoomControlClient.runControl 40102 "PAUSE".toList text).isOk) =
          s.system.scheduled.map ScheduledRoomAction.answer := by
  have hheld : (run (HostServer.step HostServer.visitSetup HostServer.visitPeer)
      (HostServer.initial HostServer.visitSetup (dotted 192 168 1 10) 40101 0)
        HostServer.visit).any fun s => s.system.scheduled.length = 1 := by
    decide +kernel
  obtain ⟨s, hs, hheld⟩ := (Option.any_eq_true _ _).mp hheld
  have hsendable : ¬ RoomControlClient.Unsendable 40102 "PAUSE".toList := by decide +kernel
  exact ⟨s, hs, of_decide_eq_true hheld,
    (accepted_answers HostServer.visit 40102 "PAUSE".toList hsendable hs).1⟩

end Session

end ControlVerdict

end SyncAudio
