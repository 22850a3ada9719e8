import SyncAudio.Ios.AudioPlaybackController

/-!
# The actions of a run

An announced action is to be executed once, at the first tick that finds it due.
An agenda says so: it keeps every action until then. The player has one slot in
place of the agenda, and the two agree as long as no action arrives while another
is waiting.

## Implementation notes

`scheduleRoomAction` ends with a call of `pump`, unless it returns early; here the
two are one step. Each of them reads the clock.
-/

namespace SyncAudio

/-- The actions that wait for their time, and those that had it. -/
structure RoomAgenda where
  waiting : List ScheduledHostAction := []
  executed : List ScheduledHostAction := []

namespace RoomAgenda

def add (agenda : RoomAgenda) (action : ScheduledHostAction) : RoomAgenda :=
  { agenda with waiting := agenda.waiting ++ [action] }

/-- Everything that is due is executed. -/
def tick (agenda : RoomAgenda) (hostNow outputLead : Binary64) : RoomAgenda where
  waiting := agenda.waiting.filter fun action => !action.isDue hostNow outputLead
  executed := agenda.executed ++ agenda.waiting.filter fun action => action.isDue hostNow outputLead

end RoomAgenda

/-- A player and what its actions came to, beside the agenda. -/
structure RoomActions where
  controller : AudioPlaybackController := .start
  accepted : List ScheduledHostAction := []
  executed : List ScheduledHostAction := []
  agenda : RoomAgenda := {}

namespace RoomActions

/-- What the audio queue runs: a call of `scheduleRoomAction` with the host times that
it and its `pump` read, or the timer. -/
inductive Event where
  | announce (action : ScheduledHostAction) (hostNow pumpNow outputLead : Binary64)
  | tick (hostNow outputLead : Binary64)

/-- The action that a call of `pump` took out of the slot. -/
def taken (before after : AudioPlaybackController) : List ScheduledHostAction :=
  if after.scheduledRoomAction = none then before.scheduledRoomAction.toList else []

def pump (s : RoomActions) (hostNow outputLead : Binary64) : RoomActions :=
  let controller := (s.controller.pump hostNow outputLead).2
  { s with
    controller
    executed := s.executed ++ taken s.controller controller
    agenda := s.agenda.tick hostNow outputLead }

/-- The action enters the slot, and the agenda. -/
def accept (s : RoomActions) (hostNow : Binary64) (action : ScheduledHostAction) : RoomActions :=
  { s with
    controller := s.controller.scheduleRoomAction hostNow action
    accepted := s.accepted ++ [action]
    agenda := s.agenda.add action }

def step (s : RoomActions) : Event → RoomActions
  | .announce action hostNow pumpNow outputLead =>
      if s.controller.accepts hostNow action then (s.accept hostNow action).pump pumpNow outputLead
      else s
  | .tick hostNow outputLead => s.pump hostNow outputLead

/-- A started player after some events. -/
def after (events : List Event) : RoomActions := events.foldl step {}

/-- The announcements among some events. -/
def announcements (events : List Event) : List ScheduledHostAction :=
  events.filterMap fun
    | .announce action _ _ _ => some action
    | .tick _ _ => none

/-- Actions are announced in the order of their effective times, any number of times each. -/
def InOrder (events : List Event) : Prop :=
  (announcements events).Pairwise fun a b =>
    a.effectiveHostNanoseconds ≤ b.effectiveHostNanoseconds

/-- No action is accepted while another is waiting. -/
def Admissible (s : RoomActions) : Event → Prop
  | .announce action hostNow _ _ =>
      s.controller.accepts hostNow action = true → s.controller.scheduledRoomAction = none
  | .tick _ _ => True

instance (events : List Event) : Decidable (InOrder events) :=
  inferInstanceAs (Decidable (List.Pairwise _ _))

instance (s : RoomActions) : (event : Event) → Decidable (Admissible s event)
  | .announce action hostNow _ _ =>
      inferInstanceAs (Decidable (s.controller.accepts hostNow action = true →
        s.controller.scheduledRoomAction = none))
  | .tick _ _ => inferInstanceAs (Decidable True)

/-- The accepted actions have all been executed at the first tick that found them due, in
order and each once, but for one that waits in the slot. -/
structure Kept (s : RoomActions) : Prop where
  executed_eq : s.executed = s.agenda.executed
  waiting_eq : s.controller.scheduledRoomAction.toList = s.agenda.waiting
  accepted_eq : s.accepted = s.executed ++ s.controller.scheduledRoomAction.toList
  increasing : s.accepted.Pairwise fun a b =>
    a.effectiveHostNanoseconds < b.effectiveHostNanoseconds

section Order

variable {s : RoomActions} {events : List Event}

theorem after_concat (events : List Event) (event : Event) :
    after (events ++ [event]) = (after events).step event := by
  unfold after
  rw [List.foldl_append]
  rfl

theorem announcements_concat (events : List Event) (event : Event) :
    announcements (events ++ [event]) = announcements events ++ announcements [event] :=
  List.filterMap_append

@[simp] theorem accepted_pump (s : RoomActions) (hostNow outputLead : Binary64) :
    (s.pump hostNow outputLead).accepted = s.accepted := rfl

@[simp] theorem accepted_accept (s : RoomActions) (hostNow : Binary64)
    (action : ScheduledHostAction) : (s.accept hostNow action).accepted = s.accepted ++ [action] :=
  rfl

/-- What is known of the accepted actions, whatever became of them. -/
structure Recorded (events : List Event) (s : RoomActions) : Prop where
  announced : ∀ a ∈ s.accepted, a ∈ announcements events
  last_eq : s.controller.lastRoomActionTimestamp =
    s.accepted.getLast?.map ScheduledHostAction.effectiveHostNanoseconds
  increasing : s.accepted.Pairwise fun a b =>
    a.effectiveHostNanoseconds < b.effectiveHostNanoseconds

theorem pump_lastRoomActionTimestamp (controller : AudioPlaybackController)
    (hostNow outputLead : Binary64) :
    (controller.pump hostNow outputLead).2.lastRoomActionTimestamp =
      controller.lastRoomActionTimestamp := by
  unfold AudioPlaybackController.pump
  split
  · rfl
  · dsimp only
    split_ifs
    all_goals rfl

theorem le_of_getLast? {accepted : List ScheduledHostAction} {a last : ScheduledHostAction}
    (hincreasing : accepted.Pairwise fun a b =>
      a.effectiveHostNanoseconds < b.effectiveHostNanoseconds)
    (hlast : accepted.getLast? = some last) (ha : a ∈ accepted) :
    a.effectiveHostNanoseconds ≤ last.effectiveHostNanoseconds := by
  obtain ⟨front, rfl⟩ := List.getLast?_eq_some_iff.mp hlast
  rcases List.mem_append.mp ha with hfront | hback
  · exact UInt64.le_of_lt
      ((List.pairwise_append.mp hincreasing).2.2 a hfront last (List.mem_singleton_self last))
  · rw [List.mem_singleton.mp hback]
    exact UInt64.le_refl _

/-- An action that is accepted is later than every one accepted before. -/
theorem Recorded.accept {action : ScheduledHostAction} {hostNow : Binary64}
    (h : Recorded events s) (haccepts : s.controller.accepts hostNow action = true)
    (hlater : ∀ a ∈ announcements events,
      a.effectiveHostNanoseconds ≤ action.effectiveHostNanoseconds) :
    (s.accepted ++ [action]).Pairwise fun a b =>
      a.effectiveHostNanoseconds < b.effectiveHostNanoseconds := by
  have hunknown : s.controller.isKnown action = false := by
    simp only [AudioPlaybackController.accepts, Bool.and_eq_true, Bool.not_eq_true'] at haccepts
    exact haccepts.1.2
  apply List.pairwise_append.mpr
  refine ⟨h.increasing, List.pairwise_singleton _ _, ?_⟩
  intro a ha b hb
  rw [List.mem_singleton.mp hb]
  cases hlast : s.accepted.getLast? with
  | none =>
      rw [List.getLast?_eq_none_iff.mp hlast] at ha
      cases ha
  | some last =>
      have hle := le_of_getLast? h.increasing hlast ha
      have hle' := hlater last (h.announced last (List.mem_of_getLast? hlast))
      have htime := h.last_eq
      rw [hlast] at htime
      have hne : last.effectiveHostNanoseconds ≠ action.effectiveHostNanoseconds := by
        intro heq
        unfold AudioPlaybackController.isKnown at hunknown
        rw [htime, Option.map_some, heq] at hunknown
        simp at hunknown
      exact UInt64.lt_of_le_of_lt hle (UInt64.lt_of_le_of_ne hle' hne)

theorem recorded_after (hordered : InOrder events) : Recorded events (after events) := by
  induction events using List.reverseRecOn with
  | nil => exact ⟨nofun, rfl, List.Pairwise.nil⟩
  | append_singleton events event ih =>
      unfold InOrder at hordered
      rw [announcements_concat] at hordered
      obtain ⟨hfront, -, hcross⟩ := List.pairwise_append.mp hordered
      have hrecorded := ih hfront
      have hgrow : ∀ a ∈ announcements events, a ∈ announcements (events ++ [event]) := by
        intro a ha
        rw [announcements_concat]
        exact List.mem_append_left _ ha
      rw [after_concat]
      cases event with
      | tick hostNow outputLead =>
          constructor
          · exact fun a ha => hgrow a (hrecorded.announced a ha)
          · exact (pump_lastRoomActionTimestamp _ _ _).trans hrecorded.last_eq
          · exact hrecorded.increasing
      | announce action hostNow pumpNow outputLead =>
          have hnew : action ∈ announcements [.announce action hostNow pumpNow outputLead] :=
            List.mem_singleton_self action
          unfold step
          dsimp only
          split_ifs with haccepts
          · constructor
            · intro a ha
              rcases List.mem_append.mp ha with hold | hlast
              · exact hgrow a (hrecorded.announced a hold)
              · rw [announcements_concat, List.mem_singleton.mp hlast]
                exact List.mem_append_right _ hnew
            · rw [accepted_pump, accepted_accept, List.getLast?_concat]
              refine (pump_lastRoomActionTimestamp _ _ _).trans ?_
              unfold accept AudioPlaybackController.scheduleRoomAction
              rw [if_pos haccepts]
              rfl
            · exact hrecorded.accept haccepts fun a ha => hcross a ha action hnew
          · exact ⟨fun a ha => hgrow a (hrecorded.announced a ha), hrecorded.last_eq,
              hrecorded.increasing⟩

end Order

section Slot

variable {s : RoomActions} (hostNow outputLead : Binary64)

/-- `pump` empties the slot if and only if its action is due. -/
theorem pump_scheduledRoomAction (controller : AudioPlaybackController) :
    (controller.pump hostNow outputLead).2.scheduledRoomAction =
      controller.scheduledRoomAction.filter fun action => !action.isDue hostNow outputLead := by
  unfold AudioPlaybackController.pump
  cases hscheduled : controller.scheduledRoomAction with
  | none =>
      dsimp only
      rw [hscheduled]
      rfl
  | some action =>
      dsimp only
      cases hdue : action.isDue hostNow outputLead with
      | true =>
          rw [if_pos rfl, Option.filter_some_neg (by simp [hdue])]
          rfl
      | false =>
          rw [if_neg Bool.false_ne_true, Option.filter_some_pos (by simp [hdue])]
          split_ifs
          · rfl
          · exact hscheduled

theorem taken_pump (controller : AudioPlaybackController) :
    taken controller (controller.pump hostNow outputLead).2 =
      controller.scheduledRoomAction.toList.filter fun action =>
        action.isDue hostNow outputLead := by
  unfold taken
  rw [pump_scheduledRoomAction]
  cases controller.scheduledRoomAction with
  | none => rfl
  | some action =>
      rw [Option.filter_some]
      cases hdue : action.isDue hostNow outputLead with
      | true => simp [hdue]
      | false => simp [hdue]

/-- Whatever leaves the slot at a tick is executed by it. -/
theorem executed_pump (s : RoomActions) :
    (s.pump hostNow outputLead).executed ++
        (s.pump hostNow outputLead).controller.scheduledRoomAction.toList =
      s.executed ++ s.controller.scheduledRoomAction.toList := by
  have hexecuted : (s.pump hostNow outputLead).executed =
      s.executed ++ taken s.controller (s.controller.pump hostNow outputLead).2 := rfl
  have hslot := pump_scheduledRoomAction hostNow outputLead s.controller
  change (s.pump hostNow outputLead).controller.scheduledRoomAction = _ at hslot
  rw [hexecuted, hslot, taken_pump, List.append_assoc]
  congr 1
  cases s.controller.scheduledRoomAction with
  | none => rfl
  | some action =>
      rw [Option.filter_some]
      cases hdue : action.isDue hostNow outputLead with
      | true => simp [hdue]
      | false => simp [hdue]

variable {hostNow outputLead}

theorem Kept.pump (h : Kept s) : Kept (s.pump hostNow outputLead) := by
  constructor
  · calc (s.pump hostNow outputLead).executed
        = s.executed ++ taken s.controller (s.controller.pump hostNow outputLead).2 := rfl
      _ = s.agenda.executed ++ s.agenda.waiting.filter fun action =>
            action.isDue hostNow outputLead := by
          rw [taken_pump, h.executed_eq, h.waiting_eq]
      _ = (s.pump hostNow outputLead).agenda.executed := rfl
  · calc (s.pump hostNow outputLead).controller.scheduledRoomAction.toList
        = (s.controller.pump hostNow outputLead).2.scheduledRoomAction.toList := rfl
      _ = s.agenda.waiting.filter fun action => !action.isDue hostNow outputLead := by
          rw [pump_scheduledRoomAction, Option.toList_filter, h.waiting_eq]
      _ = (s.pump hostNow outputLead).agenda.waiting := rfl
  · rw [executed_pump, accepted_pump]
    exact h.accepted_eq
  · exact h.increasing

theorem slot_accept {action : ScheduledHostAction} (s : RoomActions)
    (haccepts : s.controller.accepts hostNow action = true) :
    (s.accept hostNow action).controller.scheduledRoomAction = some action :=
  (AudioPlaybackController.schedule_scheduled haccepts).1

/-- An action that finds the slot empty takes the place it has on the agenda. -/
theorem Kept.accept (h : Kept s) {action : ScheduledHostAction}
    (haccepts : s.controller.accepts hostNow action = true)
    (hempty : s.controller.scheduledRoomAction = none)
    (hincreasing : (s.accepted ++ [action]).Pairwise fun a b =>
      a.effectiveHostNanoseconds < b.effectiveHostNanoseconds) :
    Kept (s.accept hostNow action) := by
  have hwaiting : s.agenda.waiting = [] := by
    rw [← h.waiting_eq, hempty]
    rfl
  have haccepted := h.accepted_eq
  rw [hempty, Option.toList_none, List.append_nil] at haccepted
  constructor
  · exact h.executed_eq
  · rw [slot_accept s haccepts]
    change [action] = s.agenda.waiting ++ [action]
    rw [hwaiting]
    rfl
  · rw [slot_accept s haccepts, accepted_accept, haccepted]
    rfl
  · exact hincreasing

/-- An action that finds the slot taken loses the one in it. -/
theorem not_kept_of_taken {action : ScheduledHostAction} (h : Kept s) {pumpNow : Binary64}
    (haccepts : s.controller.accepts hostNow action = true)
    (htaken : s.controller.scheduledRoomAction ≠ none) :
    ¬ Kept ((s.accept hostNow action).pump pumpNow outputLead) := by
  intro hkept
  obtain ⟨waiting, hwaiting⟩ := Option.ne_none_iff_exists'.mp htaken
  have hlength := congrArg List.length hkept.accepted_eq
  rw [executed_pump, slot_accept s haccepts, accepted_pump, accepted_accept, h.accepted_eq,
    hwaiting] at hlength
  have hexecuted : (s.accept hostNow action).executed = s.executed := rfl
  rw [hexecuted] at hlength
  simp at hlength

end Slot

section Runs

variable {events : List Event}

theorem InOrder.take (h : InOrder events) (n : Nat) : InOrder (events.take n) := by
  unfold InOrder announcements at h ⊢
  exact h.sublist ((List.take_sublist n events).filterMap _)

theorem after_take_succ {n : Nat} {event : Event} (h : events[n]? = some event) :
    after (events.take (n + 1)) = (after (events.take n)).step event := by
  rw [List.take_add_one, h]
  exact after_concat _ event

/-- Every accepted action is executed once, at the first tick that finds it due, and none
is replaced before, in exactly the runs in which no action is accepted while another
waits. -/
theorem actions_kept_iff (hordered : InOrder events) :
    (∀ n, Kept (after (events.take n))) ↔
      ∀ n, ∀ event ∈ events[n]?, Admissible (after (events.take n)) event := by
  constructor
  · intro hkept n event hevent
    cases event with
    | tick hostNow outputLead => exact trivial
    | announce action hostNow pumpNow outputLead =>
        intro haccepts
        by_contra htaken
        have hnext := hkept (n + 1)
        rw [after_take_succ hevent] at hnext
        unfold step at hnext
        dsimp only at hnext
        rw [if_pos haccepts] at hnext
        exact not_kept_of_taken (hkept n) haccepts htaken hnext
  · intro hadmissible n
    induction n with
    | zero => exact ⟨rfl, rfl, rfl, List.Pairwise.nil⟩
    | succ n ih =>
        cases hevent : events[n]? with
        | none =>
            rw [List.take_add_one, hevent]
            simpa using ih
        | some event =>
            have hrecorded := recorded_after (hordered.take (n + 1))
            have hstep := hadmissible n event hevent
            rw [after_take_succ hevent] at hrecorded ⊢
            cases event with
            | tick hostNow outputLead => exact ih.pump
            | announce action hostNow pumpNow outputLead =>
                unfold step at hrecorded ⊢
                dsimp only at hrecorded ⊢
                split_ifs at hrecorded ⊢ with haccepts
                · exact (ih.accept haccepts (hstep haccepts) hrecorded.increasing).pump
                · exact ih

end Runs

section Example

def seekAction : ScheduledHostAction where
  name := "SEEK".toList
  effectiveHostNanoseconds := 2000000000
  seekFrame := 96000
  nextStreamID := 2

def pauseAction : ScheduledHostAction where
  name := "PAUSE".toList
  effectiveHostNanoseconds := 3850000000
  seekFrame := 0
  nextStreamID := 2

/-- A SEEK is polled twice and executed, a PAUSE arrives behind it. -/
def spacedEvents : List Event :=
  [.announce seekAction (.ofInt 1300000000) (.ofInt 1300000000) .zero,
    .announce seekAction (.ofInt 1550000000) (.ofInt 1550000000) .zero,
    .tick (.ofInt 2010000000) .zero,
    .announce pauseAction (.ofInt 2050000000) (.ofInt 2050000000) .zero,
    .tick (.ofInt 3860000000) .zero]

/-- The host has taken the SEEK ahead of its time and accepts the next command, two seconds
ahead of its own, before that time. -/
def crowdedEvents : List Event :=
  [.announce seekAction (.ofInt 1300000000) (.ofInt 1300000000) .zero,
    .announce pauseAction (.ofInt 1850000000) (.ofInt 1850000000) .zero,
    .tick (.ofInt 2010000000) .zero,
    .tick (.ofInt 3860000000) .zero]

theorem inOrder_spaced : InOrder spacedEvents := by decide

theorem inOrder_crowded : InOrder crowdedEvents := by decide

theorem actions_kept_spaced :
    Kept (after (spacedEvents.take 5)) ∧
      (after (spacedEvents.take 5)).executed = [seekAction, pauseAction] := by
  constructor
  · apply (actions_kept_iff inOrder_spaced).mpr
    have hfirst : ∀ n < 5, ∀ event ∈ spacedEvents[n]?,
        Admissible (after (spacedEvents.take n)) event := by
      decide +kernel
    intro n event hevent
    by_cases hn : n < 5
    · exact hfirst n hn event hevent
    · rw [List.getElem?_eq_none (Nat.le_of_not_lt hn)] at hevent
      cases hevent
  · decide +kernel

/-- The SEEK is accepted and never executed. -/
theorem crowded_action_lost :
    InOrder crowdedEvents ∧ (after crowdedEvents).accepted = [seekAction, pauseAction] ∧
      (after crowdedEvents).executed = [pauseAction] ∧
      ¬ ∀ n, Kept (after (crowdedEvents.take n)) := by
  have hlost : (after crowdedEvents).accepted = [seekAction, pauseAction] ∧
      (after crowdedEvents).executed = [pauseAction] ∧
      (after crowdedEvents).controller.scheduledRoomAction = none := by
    decide +kernel
  refine ⟨inOrder_crowded, hlost.1, hlost.2.1, ?_⟩
  intro hkept
  have haccepted := (hkept 4).accepted_eq
  rw [List.take_of_length_le (by decide), hlost.1, hlost.2.1, hlost.2.2] at haccepted
  exact absurd haccepted (by decide)

end Example

end RoomActions

end SyncAudio
