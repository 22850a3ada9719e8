import SyncAudio.Ios.HostControlChannel

/-!
# Room actions on the phone

The player holds one scheduled action of the host. Its timer executes the
action when it is due and, 220 ms before a SEEK takes effect, tells the receiver
to expect the new stream.

## Implementation notes

Only what the room actions need is here: the queue of packets and the audio
engine are left out. The host time is the reading of the clock of the phone plus
the estimated offset, an input. The call of `pump` at the end of
`scheduleRoomAction` is a step of its own.
-/

namespace SyncAudio

structure AudioPlaybackController where
  active : Bool := false
  scheduledRoomAction : Option ScheduledHostAction := none
  lastRoomActionTimestamp : Option UInt64 := none
  seekReceiverSwitched : Bool := false
  roomPaused : Bool := false
  minimumHostStartNanoseconds : Option UInt64 := none
  allowImmediateStart : Bool := false

namespace ScheduledHostAction

def isSeek (action : ScheduledHostAction) : Bool := action.name = "SEEK".toList

/-- `Double(action.effectiveHostNanoseconds)`. -/
def effectiveTime (action : ScheduledHostAction) : Binary64 :=
  .ofInt action.effectiveHostNanoseconds.toNat

/-- The action is more than a second old. -/
def isLate (action : ScheduledHostAction) (hostNow : Binary64) : Bool :=
  (action.effectiveTime.add (.ofInt 1000000000)).lt hostNow

/-- The receiver has to switch streams for a SEEK. -/
def switchDue (action : ScheduledHostAction) (hostNow : Binary64) : Bool :=
  (action.effectiveTime.sub (.ofInt 220000000)).le hostNow

/-- The action has to be executed. -/
def isDue (action : ScheduledHostAction) (hostNow outputLead : Binary64) : Bool :=
  (action.effectiveTime.sub outputLead).le hostNow

open Binary64 in
/-- With an output lead of at most 220 ms the receiver switches before the action is executed. -/
theorem switchDue_of_isDue {action : ScheduledHostAction} {hostNow outputLead : Binary64}
    (hnonneg : zero.le outputLead = true) (hlead : outputLead.le (.ofInt 220000000) = true)
    (h : action.isDue hostNow outputLead = true) : action.switchDue hostNow = true := by
  obtain ⟨z, hz, hzero⟩ := exists_zero
  obtain ⟨limit, hlimit, hwithin⟩ := @within_ofInt 64 220000000 (by norm_num) (by norm_num)
  change outputLead.le (ofInt ((220000000 : Nat) : Int)) = true at hlead
  rw [hz] at hnonneg
  rw [hlimit] at hlead
  obtain ⟨lead, rfl, hlow, hhigh⟩ := exists_finite_between hnonneg hlead
  obtain ⟨time, htime, hbound⟩ := @within_ofInt 64 action.effectiveHostNanoseconds.toNat
    (by norm_num) action.effectiveHostNanoseconds.toNat_lt.le
  have hleadBound : |lead.value| ≤ 2 ^ 64 := by
    rw [abs_of_nonneg (hzero ▸ hlow)]
    exact hhigh.trans ((le_abs_self _).trans hwithin)
  obtain ⟨executed, hexecuted, -⟩ :=
    Within.sub ⟨time, rfl, hbound⟩ ⟨lead, rfl, hleadBound⟩ (by norm_num)
  obtain ⟨switched, hswitched, -⟩ :=
    Within.sub ⟨time, rfl, hbound⟩ ⟨limit, rfl, hwithin⟩ (by norm_num)
  have horder := sub_anti hhigh hexecuted hswitched
  unfold isDue effectiveTime at h
  unfold switchDue effectiveTime
  change ((ofInt _).sub (ofInt ((220000000 : Nat) : Int))).le hostNow = true
  rw [htime, hexecuted] at h
  rw [htime, hlimit, hswitched]
  exact le_of_value_le horder h

end ScheduledHostAction

namespace AudioPlaybackController

def start : AudioPlaybackController := { active := true }

/-- An action with this effective time was scheduled before. -/
def isKnown (controller : AudioPlaybackController) (action : ScheduledHostAction) : Bool :=
  controller.lastRoomActionTimestamp = some action.effectiveHostNanoseconds ||
    controller.scheduledRoomAction.any fun current =>
      current.effectiveHostNanoseconds = action.effectiveHostNanoseconds

/-- `scheduleRoomAction` does not return early. -/
def accepts (controller : AudioPlaybackController) (hostNow : Binary64)
    (action : ScheduledHostAction) : Bool :=
  controller.active && !controller.isKnown action && !action.isLate hostNow

def scheduleRoomAction (controller : AudioPlaybackController) (hostNow : Binary64)
    (action : ScheduledHostAction) : AudioPlaybackController :=
  if controller.accepts hostNow action then
    let isPlay := action.name = "PLAY".toList
    { controller with
      scheduledRoomAction := some action
      lastRoomActionTimestamp := some action.effectiveHostNanoseconds
      seekReceiverSwitched := false
      roomPaused := if isPlay then false else controller.roomPaused
      minimumHostStartNanoseconds :=
        if isPlay then some action.effectiveHostNanoseconds
        else controller.minimumHostStartNanoseconds }
  else controller

/-- The scheduled action is executed. -/
def execute (controller : AudioPlaybackController) (action : ScheduledHostAction) :
    AudioPlaybackController :=
  { controller with
    scheduledRoomAction := none
    roomPaused :=
      if action.name = "PAUSE".toList ∨ action.name = "STOP".toList then true
      else controller.roomPaused
    minimumHostStartNanoseconds :=
      if action.isSeek then some action.effectiveHostNanoseconds
      else controller.minimumHostStartNanoseconds
    allowImmediateStart := controller.allowImmediateStart || action.isSeek }

/-- The SEEK for which the receiver has not switched streams yet. -/
def unswitchedSeek (controller : AudioPlaybackController) : Option ScheduledHostAction :=
  controller.scheduledRoomAction.filter fun action =>
    action.isSeek && !controller.seekReceiverSwitched

/-- The start of `pump`, and the stream it passes to `onSeekStreamReady`. -/
def pump (controller : AudioPlaybackController) (hostNow outputLead : Binary64) :
    Option UInt32 × AudioPlaybackController :=
  match controller.scheduledRoomAction with
  | none => (none, controller)
  | some action =>
      let switches :=
        action.isSeek && !controller.seekReceiverSwitched && action.switchDue hostNow
      let switched := if switches then { controller with seekReceiverSwitched := true } else controller
      (if switches then some action.nextStreamID else none,
        if action.isDue hostNow outputLead then switched.execute action else switched)

/-- The stream the receiver expects once it has switched for the scheduled SEEK. -/
def heading (controller : AudioPlaybackController) (expected : Option UInt32) : Option UInt32 :=
  match controller.unswitchedSeek with
  | some action => some action.nextStreamID
  | none => expected

variable {controller : AudioPlaybackController} {action : ScheduledHostAction}
  {hostNow outputLead : Binary64} {expected : Option UInt32}

theorem unswitchedSeek_of_scheduled (hscheduled : controller.scheduledRoomAction = some action) :
    controller.unswitchedSeek =
      if action.isSeek && !controller.seekReceiverSwitched then some action else none := by
  rw [unswitchedSeek, hscheduled, Option.filter_some]

theorem heading_of_some (h : controller.unswitchedSeek = some action) :
    controller.heading expected = some action.nextStreamID := by
  rw [heading, h]

theorem heading_of_none (h : controller.unswitchedSeek = none) :
    controller.heading expected = expected := by
  rw [heading, h]

theorem schedule_scheduled (haccepts : controller.accepts hostNow action = true) :
    (controller.scheduleRoomAction hostNow action).scheduledRoomAction = some action ∧
      (controller.scheduleRoomAction hostNow action).seekReceiverSwitched = false := by
  rw [scheduleRoomAction, if_pos haccepts]
  exact ⟨rfl, rfl⟩

theorem heading_schedule_seek (haccepts : controller.accepts hostNow action = true)
    (hseek : action.isSeek = true) :
    (controller.scheduleRoomAction hostNow action).heading expected = some action.nextStreamID := by
  obtain ⟨hscheduled, hswitched⟩ := schedule_scheduled haccepts
  refine heading_of_some ?_
  rw [unswitchedSeek_of_scheduled hscheduled, hswitched, hseek]
  rfl

theorem heading_schedule_other (haccepts : controller.accepts hostNow action = true)
    (hseek : action.isSeek = false) :
    (controller.scheduleRoomAction hostNow action).heading expected = expected := by
  obtain ⟨hscheduled, -⟩ := schedule_scheduled haccepts
  refine heading_of_none ?_
  rw [unswitchedSeek_of_scheduled hscheduled, hseek]
  rfl

theorem schedule_refused (haccepts : controller.accepts hostNow action = false) :
    controller.scheduleRoomAction hostNow action = controller :=
  if_neg (by simp [haccepts])

theorem active_schedule : (controller.scheduleRoomAction hostNow action).active = controller.active := by
  unfold scheduleRoomAction
  split_ifs <;> rfl

theorem active_pump : (controller.pump hostNow outputLead).2.active = controller.active := by
  unfold pump
  split
  · rfl
  · dsimp only
    split_ifs <;> rfl

theorem execute_unswitchedSeek : (controller.execute action).unswitchedSeek = none := rfl

/-- The timer keeps the heading unless a SEEK is due before its switch. -/
theorem heading_pump (expected : Option UInt32) (hswitch : ∀ action ∈ controller.unswitchedSeek,
      action.isDue hostNow outputLead = true → action.switchDue hostNow = true) :
    (controller.pump hostNow outputLead).2.heading
        ((controller.pump hostNow outputLead).1.or expected) = controller.heading expected := by
  unfold pump
  cases hscheduled : controller.scheduledRoomAction with
  | none => rfl
  | some action =>
      have hheld := unswitchedSeek_of_scheduled hscheduled
      dsimp only
      cases hunswitched : action.isSeek && !controller.seekReceiverSwitched with
      | false =>
          rw [hunswitched, if_neg Bool.false_ne_true] at hheld
          rw [heading_of_none hheld, Bool.false_and, if_neg Bool.false_ne_true,
            if_neg Bool.false_ne_true]
          split_ifs
          · exact heading_of_none execute_unswitchedSeek
          · exact heading_of_none hheld
      | true =>
          rw [hunswitched, if_pos rfl] at hheld
          rw [heading_of_some hheld, Bool.true_and]
          cases hready : action.switchDue hostNow with
          | true =>
              rw [if_pos rfl, if_pos rfl]
              split_ifs
              · exact heading_of_none execute_unswitchedSeek
              · refine heading_of_none ?_
                rw [@unswitchedSeek_of_scheduled _ action rfl]
                simp
          | false =>
              have hdue : action.isDue hostNow outputLead = false := by
                cases hdue : action.isDue hostNow outputLead with
                | false => rfl
                | true => exact (hswitch action hheld hdue).symm.trans hready
              rw [hdue]
              exact heading_of_some hheld

end AudioPlaybackController

end SyncAudio
