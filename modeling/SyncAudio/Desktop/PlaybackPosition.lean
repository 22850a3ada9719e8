import SyncAudio.Core.PlaybackClock
import SyncAudio.Lib.LabelledRun

/-!
# The playback position of the local player

`currentPlaybackFrame` has three answers: the first frame of the segment before its
start, the frozen frame once the timeline has ended, and otherwise the frame that the
clock has reached among the submitted ones. The timeline ends when the last frames have
been played, or when the player is stopped.

## Implementation notes

The owner of the player asks and stops on one thread, the device calls `dataCallback` on
another. Every reading of the clock and every load or store of the owner is one step; of
the callback, the end of the timeline is a step of its own, and the rest is one step. How
many frames the ring holds is in the label. The counters are those of a file, so they do
not wrap. The elapsed time is left out.
-/

namespace SyncAudio

open LabelledRun

/-- What `playFrom` fixes before the device starts. -/
structure PlayedSegment where
  zeroClock : PlaybackClock
  segmentStartFrame : Nat
  segmentStartTime : Int
  frameOffset : Int
  zero_eq : zeroClock.startTime = 0
  frame_le : segmentStartFrame ≤ PlaybackClock.maximumFrame
  offset_eq : zeroClock.frameToTimestamp segmentStartFrame = .ok frameOffset

/-- `playbackClock_`. -/
def PlayedSegment.playbackClock (segment : PlayedSegment) : PlaybackClock :=
  { segment.zeroClock with startTime := segment.segmentStartTime - segment.frameOffset }

/-- Where the owner of the player is. -/
inductive PlayerOwner where
  | idle
  /-- `currentPlaybackFrame`, not before the start. -/
  | checking
  /-- `currentPlaybackFrame`, while the timeline runs. -/
  | querying
  | queryRead (timestamp : Int)
  /-- `freezeTimeline`, while the timeline runs. -/
  | freezing
  | freezeRead (timestamp : Int)
  | storing (frame : Nat)
  /-- `stop` behind `freezeTimeline`. -/
  | stopping
  deriving DecidableEq

structure PlaybackPosition where
  submittedFrames : Nat
  stoppedFrame : Nat
  timelineRunning : Bool := true
  endReached : Bool := false
  deviceInitialized : Bool := true
  /-- The frame that the callback is about to freeze. -/
  completing : Option Nat := none
  owner : PlayerOwner := .idle
  /-- The last reading of the clock. -/
  now : Int
  /-- What `currentPlaybackFrame` has answered, the last answer first. -/
  answers : List Nat := []

namespace PlaybackPosition

inductive Event where
  | callback (timestamp : Int) (framesRead : Nat) (finished : Bool)
  | complete
  | query (timestamp : Int)
  | stop
  | read (timestamp : Int)
  | proceed

/-- The state behind `playFrom`. -/
def start (segment : PlayedSegment) (now : Int) : PlaybackPosition where
  submittedFrames := segment.segmentStartFrame
  stoppedFrame := segment.segmentStartFrame
  now := now

def currentTimelineFrame (segment : PlayedSegment) (timestamp : Int) (submitted : Nat) : Nat :=
  match segment.playbackClock.timestampToFrame timestamp with
  | .ok timelineFrame => if timelineFrame < submitted then timelineFrame else submitted
  | .error _ => submitted

/-- `dataCallback`, up to the end of `freezeTimeline`. -/
def dataCallback (segment : PlayedSegment) (s : PlaybackPosition) (timestamp : Int)
    (framesRead : Nat) (finished : Bool) : PlaybackPosition :=
  if timestamp < segment.segmentStartTime then s
  else if s.endReached then
    { s with completing := if s.timelineRunning then some s.submittedFrames else none }
  else { s with submittedFrames := s.submittedFrames + framesRead, endReached := finished }

/-- The next load or store of the owner. -/
def proceed (segment : PlayedSegment) (s : PlaybackPosition) : Option PlaybackPosition :=
  match s.owner with
  | .checking =>
      if s.timelineRunning then some { s with owner := .querying }
      else some { s with owner := .idle, answers := s.stoppedFrame :: s.answers }
  | .queryRead timestamp =>
      some { s with
        owner := .idle
        answers := currentTimelineFrame segment timestamp s.submittedFrames :: s.answers }
  | .freezeRead timestamp =>
      some { s with owner := .storing (currentTimelineFrame segment timestamp s.submittedFrames) }
  | .storing frame =>
      some { s with stoppedFrame := frame, timelineRunning := false, owner := .stopping }
  | .stopping =>
      -- The device waits for its callback.
      if s.completing = none then some { s with deviceInitialized := false, owner := .idle }
      else none
  | _ => none

def step (segment : PlayedSegment) : Step PlaybackPosition Event := fun s event =>
  match event with
  | .callback timestamp framesRead finished =>
      if s.deviceInitialized = true ∧ s.completing = none ∧ s.now ≤ timestamp ∧
          s.submittedFrames + framesRead ≤ PlaybackClock.maximumFrame then
        some (({ s with now := timestamp } : PlaybackPosition).dataCallback segment timestamp
          framesRead finished)
      else none
  | .complete =>
      s.completing.map fun frame =>
        { s with stoppedFrame := frame, timelineRunning := false, completing := none }
  | .query timestamp =>
      if s.owner = .idle ∧ s.now ≤ timestamp then
        if timestamp < segment.segmentStartTime then
          some { s with now := timestamp, answers := segment.segmentStartFrame :: s.answers }
        else some { s with now := timestamp, owner := .checking }
      else none
  | .stop =>
      if s.owner = .idle then
        some { s with owner := if s.timelineRunning then .freezing else .stopping }
      else none
  | .read timestamp =>
      if s.now ≤ timestamp then
        match s.owner with
        | .querying => some { s with now := timestamp, owner := .queryRead timestamp }
        | .freezing => some { s with now := timestamp, owner := .freezeRead timestamp }
        | _ => none
      else none
  | .proceed => s.proceed segment

/-- The answers do not decrease and are not below the first frame of the segment. -/
structure Steady (segment : PlayedSegment) (s : PlaybackPosition) : Prop where
  sorted : s.answers.Pairwise fun later earlier => earlier ≤ later
  first_le : ∀ answer ∈ s.answers, segment.segmentStartFrame ≤ answer

/-- If the timeline is frozen in this step, then not before the segment starts, unless the
segment begins with the first frame of the file. -/
def FreezesLate (segment : PlayedSegment) (s : PlaybackPosition) (event : Event) : Prop :=
  ∀ timestamp, event = .read timestamp → s.owner = .freezing →
    segment.segmentStartFrame = 0 ∨ segment.segmentStartTime ≤ timestamp

/-- The frames of the timeline that are due at a time. -/
def dueFrames (segment : PlayedSegment) (timestamp : Int) : Nat :=
  segment.playbackClock.elapsedFrames (segment.playbackClock.elapsedAt timestamp).toNat

variable {segment : PlayedSegment} {s t : PlaybackPosition} {timestamp later : Int}

theorem currentTimelineFrame_eq {submitted : Nat} (h : submitted ≤ PlaybackClock.maximumFrame)
    (timestamp : Int) :
    currentTimelineFrame segment timestamp submitted =
      min (dueFrames segment timestamp) submitted := by
  have hframe : segment.playbackClock.timestampToFrame timestamp =
      if dueFrames segment timestamp ≤ PlaybackClock.maximumFrame then
        .ok (dueFrames segment timestamp)
      else .error "Playback frame exceeds the supported range" :=
    segment.playbackClock.timestampToFrame_eq timestamp
  unfold currentTimelineFrame
  by_cases hrange : dueFrames segment timestamp ≤ PlaybackClock.maximumFrame
  · rw [if_pos hrange] at hframe
    rw [hframe]
    dsimp only
    split_ifs with hlt
    · exact (min_eq_left hlt.le).symm
    · exact (min_eq_right (Nat.le_of_not_lt hlt)).symm
  · rw [if_neg hrange] at hframe
    rw [hframe]
    exact (min_eq_right (h.trans (Nat.le_of_not_le hrange))).symm

theorem dueFrames_mono (h : timestamp ≤ later) :
    dueFrames segment timestamp ≤ dueFrames segment later := by
  apply segment.playbackClock.elapsed_gc.monotone_u
  unfold PlaybackClock.elapsedAt
  omega

/-- The first frame of the segment is due at its start. -/
theorem first_le_dueFrames (h : segment.segmentStartTime ≤ timestamp) :
    segment.segmentStartFrame ≤ dueFrames segment timestamp := by
  have hoffset := (PlaybackClock.frameToTimestamp_eq segment.offset_eq).1
  rw [segment.zero_eq, Int.zero_add] at hoffset
  apply (segment.playbackClock.elapsed_gc _ _).mp
  change segment.zeroClock.frameNanoseconds segment.segmentStartFrame ≤ _
  unfold PlaybackClock.elapsedAt PlayedSegment.playbackClock
  dsimp only
  omega

/-- Before the start it is not. -/
theorem dueFrames_lt (h : timestamp < segment.segmentStartTime)
    (hfirst : 0 < segment.segmentStartFrame) :
    dueFrames segment timestamp < segment.segmentStartFrame := by
  have hoffset := (PlaybackClock.frameToTimestamp_eq segment.offset_eq).1
  rw [segment.zero_eq, Int.zero_add] at hoffset
  have hpos := segment.zeroClock.frameNanoseconds_pos hfirst
  apply Nat.lt_of_not_le
  intro hle
  have hdue := (segment.playbackClock.elapsed_gc _ _).mpr hle
  change segment.zeroClock.frameNanoseconds segment.segmentStartFrame ≤ _ at hdue
  unfold PlaybackClock.elapsedAt PlayedSegment.playbackClock at hdue
  dsimp only at hdue
  omega

/-- What the owner still holds while it asks or stops. -/
def OwnerKeeps (segment : PlayedSegment) (s : PlaybackPosition) : PlayerOwner → Prop
  | .idle => True
  | .checking => segment.segmentStartTime ≤ s.now
  | .querying => segment.segmentStartTime ≤ s.now ∧
      (∀ answer ∈ s.answers, answer ≤ dueFrames segment s.now) ∧
      (s.timelineRunning = false → s.stoppedFrame = s.submittedFrames ∧ s.endReached = true)
  | .queryRead timestamp => segment.segmentStartTime ≤ timestamp ∧ timestamp ≤ s.now ∧
      (∀ answer ∈ s.answers, answer ≤ dueFrames segment timestamp) ∧
      (s.timelineRunning = false → s.stoppedFrame = s.submittedFrames ∧ s.endReached = true)
  | .freezing =>
      ∀ answer ∈ s.answers, answer ≤ max segment.segmentStartFrame (dueFrames segment s.now)
  | .freezeRead timestamp => segment.segmentStartFrame ≤ dueFrames segment timestamp ∧
      ∀ answer ∈ s.answers, answer ≤ dueFrames segment timestamp
  | .storing frame => segment.segmentStartFrame ≤ frame ∧ frame ≤ s.submittedFrames ∧
      ∀ answer ∈ s.answers, answer ≤ frame
  | .stopping => s.timelineRunning = false

/-- The owner holds on to it while others move on. -/
theorem OwnerKeeps.transfer {owner : PlayerOwner} (h : OwnerKeeps segment s owner)
    (hanswers : t.answers = s.answers) (hnow : s.now ≤ t.now)
    (hsubmitted : s.submittedFrames ≤ t.submittedFrames)
    (hstopped : s.timelineRunning = false → t.timelineRunning = false)
    (hended : (s.timelineRunning = false →
        s.stoppedFrame = s.submittedFrames ∧ s.endReached = true) →
      t.timelineRunning = false → t.stoppedFrame = t.submittedFrames ∧ t.endReached = true) :
    OwnerKeeps segment t owner := by
  have hdue : dueFrames segment s.now ≤ dueFrames segment t.now := dueFrames_mono hnow
  cases owner with
  | idle => trivial
  | checking => exact le_trans h hnow
  | querying =>
      obtain ⟨hstart, hbelow, hfrozen⟩ := h
      refine ⟨hstart.trans hnow, ?_, hended hfrozen⟩
      rw [hanswers]
      exact fun answer hanswer => (hbelow answer hanswer).trans hdue
  | queryRead timestamp =>
      obtain ⟨hstart, hle, hbelow, hfrozen⟩ := h
      refine ⟨hstart, hle.trans hnow, ?_, hended hfrozen⟩
      rw [hanswers]
      exact hbelow
  | freezing =>
      intro answer hanswer
      rw [hanswers] at hanswer
      exact (h answer hanswer).trans (max_le_max_left _ hdue)
  | freezeRead timestamp =>
      obtain ⟨hfirst, hbelow⟩ := h
      refine ⟨hfirst, ?_⟩
      rw [hanswers]
      exact hbelow
  | storing frame =>
      obtain ⟨hfirst, hle, hbelow⟩ := h
      refine ⟨hfirst, hle.trans hsubmitted, ?_⟩
      rw [hanswers]
      exact hbelow
  | stopping => exact hstopped h

/-- The invariant of a run that freezes the timeline late. -/
structure Advances (segment : PlayedSegment) (s : PlaybackPosition) : Prop where
  steady : s.Steady segment
  first_le_submitted : segment.segmentStartFrame ≤ s.submittedFrames
  submitted_le : s.submittedFrames ≤ PlaybackClock.maximumFrame
  stopped_le : s.stoppedFrame ≤ s.submittedFrames
  le_submitted : ∀ answer ∈ s.answers, answer ≤ s.submittedFrames
  early : s.now < segment.segmentStartTime →
    ∀ answer ∈ s.answers, answer ≤ segment.segmentStartFrame
  running : s.timelineRunning = true →
    ∀ answer ∈ s.answers, answer ≤ max segment.segmentStartFrame (dueFrames segment s.now)
  frozen : s.timelineRunning = false → segment.segmentStartFrame ≤ s.stoppedFrame ∧
    ∀ answer ∈ s.answers, answer ≤ s.stoppedFrame
  completing : ∀ frame ∈ s.completing, frame = s.submittedFrames ∧ s.endReached = true
  owner : OwnerKeeps segment s s.owner

theorem advances_start (segment : PlayedSegment) (now : Int) :
    (start segment now).Advances segment where
  steady := ⟨List.Pairwise.nil, fun _ h => absurd h List.not_mem_nil⟩
  first_le_submitted := le_rfl
  submitted_le := segment.frame_le
  stopped_le := le_rfl
  le_submitted := fun _ h => absurd h List.not_mem_nil
  early := fun _ _ h => absurd h List.not_mem_nil
  running := fun _ _ h => absurd h List.not_mem_nil
  frozen := fun h => absurd h.symm Bool.false_ne_true
  completing := fun _ h => absurd h (Option.not_mem_none _)
  owner := trivial

/-- The clock moves on. -/
theorem Advances.tick (h : s.Advances segment) (hnow : s.now ≤ timestamp) :
    ({ s with now := timestamp } : PlaybackPosition).Advances segment where
  steady := ⟨h.steady.sorted, h.steady.first_le⟩
  first_le_submitted := h.first_le_submitted
  submitted_le := h.submitted_le
  stopped_le := h.stopped_le
  le_submitted := h.le_submitted
  early := fun hearly => h.early (hnow.trans_lt hearly)
  running := fun hrunning answer hanswer =>
    (h.running hrunning answer hanswer).trans (max_le_max_left _ (dueFrames_mono hnow))
  frozen := h.frozen
  completing := h.completing
  owner := h.owner.transfer rfl hnow le_rfl id id

/-- The owner goes on to where it keeps as much. -/
theorem Advances.goes (h : s.Advances segment) {owner : PlayerOwner}
    (howner : OwnerKeeps segment s owner) :
    ({ s with owner := owner } : PlaybackPosition).Advances segment where
  steady := ⟨h.steady.sorted, h.steady.first_le⟩
  first_le_submitted := h.first_le_submitted
  submitted_le := h.submitted_le
  stopped_le := h.stopped_le
  le_submitted := h.le_submitted
  early := h.early
  running := h.running
  frozen := h.frozen
  completing := h.completing
  owner := howner.transfer rfl le_rfl le_rfl id id

/-- The owner answers, and is idle again. -/
theorem Advances.answers (h : s.Advances segment) {frame : Nat}
    (hfirst : segment.segmentStartFrame ≤ frame) (hsubmitted : frame ≤ s.submittedFrames)
    (hsorted : ∀ answer ∈ s.answers, answer ≤ frame)
    (hearly : s.now < segment.segmentStartTime → frame ≤ segment.segmentStartFrame)
    (hrunning : s.timelineRunning = true →
      frame ≤ max segment.segmentStartFrame (dueFrames segment s.now))
    (hfrozen : s.timelineRunning = false → frame ≤ s.stoppedFrame) :
    ({ s with owner := .idle, answers := frame :: s.answers } : PlaybackPosition).Advances
      segment where
  steady := ⟨List.pairwise_cons.mpr ⟨hsorted, h.steady.sorted⟩,
    List.forall_mem_cons.mpr ⟨hfirst, h.steady.first_le⟩⟩
  first_le_submitted := h.first_le_submitted
  submitted_le := h.submitted_le
  stopped_le := h.stopped_le
  le_submitted := List.forall_mem_cons.mpr ⟨hsubmitted, h.le_submitted⟩
  early := fun hnow => List.forall_mem_cons.mpr ⟨hearly hnow, h.early hnow⟩
  running := fun hon => List.forall_mem_cons.mpr ⟨hrunning hon, h.running hon⟩
  frozen := fun hoff =>
    ⟨(h.frozen hoff).1, List.forall_mem_cons.mpr ⟨hfrozen hoff, (h.frozen hoff).2⟩⟩
  completing := h.completing
  owner := trivial

theorem Advances.dataCallback (h : s.Advances segment) (hidle : s.completing = none)
    {framesRead : Nat} (hroom : s.submittedFrames + framesRead ≤ PlaybackClock.maximumFrame)
    (finished : Bool) :
    (s.dataCallback segment timestamp framesRead finished).Advances segment := by
  unfold PlaybackPosition.dataCallback
  by_cases hearly : timestamp < segment.segmentStartTime
  · rw [if_pos hearly]
    exact h
  rw [if_neg hearly]
  by_cases hend : s.endReached = true
  · rw [if_pos hend]
    refine { h with
      steady := ⟨h.steady.sorted, h.steady.first_le⟩
      completing := ?_
      owner := h.owner.transfer rfl le_rfl le_rfl id id }
    intro frame hframe
    obtain ⟨_, hframe⟩ := Option.ite_none_right_eq_some.mp hframe
    exact ⟨(Option.some.inj hframe).symm, hend⟩
  · rw [if_neg hend]
    have hmore : s.submittedFrames ≤ s.submittedFrames + framesRead := Nat.le_add_right _ _
    refine { h with
      steady := ⟨h.steady.sorted, h.steady.first_le⟩
      first_le_submitted := h.first_le_submitted.trans hmore
      submitted_le := hroom
      stopped_le := h.stopped_le.trans hmore
      le_submitted := fun answer hanswer => (h.le_submitted answer hanswer).trans hmore
      completing := ?_
      owner := h.owner.transfer rfl le_rfl hmore id ?_ }
    · intro frame hframe
      rw [Option.mem_def] at hframe
      exact absurd (hidle.symm.trans hframe) (Option.some_ne_none frame).symm
    · intro hfrozen hoff
      exact absurd (hfrozen hoff).2 hend

theorem Advances.complete (h : s.Advances segment) {frame : Nat}
    (hframe : frame ∈ s.completing) :
    ({ s with stoppedFrame := frame, timelineRunning := false, completing := none } :
      PlaybackPosition).Advances segment := by
  obtain ⟨hsubmitted, hend⟩ := h.completing frame hframe
  rw [hsubmitted]
  exact { h with
    steady := ⟨h.steady.sorted, h.steady.first_le⟩
    stopped_le := le_rfl
    running := fun hon => absurd hon Bool.false_ne_true
    frozen := fun _ => ⟨h.first_le_submitted, h.le_submitted⟩
    completing := fun frame hnone => absurd hnone (Option.not_mem_none frame)
    owner := h.owner.transfer rfl le_rfl le_rfl (fun _ => rfl) fun _ _ => ⟨rfl, hend⟩ }

theorem Advances.query (h : s.Advances segment) (hnow : s.now ≤ timestamp)
    (hearly : timestamp < segment.segmentStartTime) (hidle : s.owner = .idle) :
    ({ s with now := timestamp, answers := segment.segmentStartFrame :: s.answers } :
      PlaybackPosition).Advances segment := by
  have hbefore : s.now < segment.segmentStartTime := hnow.trans_lt hearly
  have hanswered := (h.tick hnow).answers le_rfl h.first_le_submitted (h.early hbefore)
    (fun _ => le_rfl) (fun _ => le_max_left _ _) fun hoff => (h.frozen hoff).1
  rw [← hidle] at hanswered
  exact hanswered

theorem Advances.read_querying (h : s.Advances segment) (hnow : s.now ≤ timestamp)
    (howner : s.owner = .querying) :
    ({ s with now := timestamp, owner := .queryRead timestamp } :
      PlaybackPosition).Advances segment := by
  have hkeeps := h.owner
  rw [howner] at hkeeps
  obtain ⟨hstart, hbelow, hfrozen⟩ := hkeeps
  apply (h.tick hnow).goes
  refine ⟨hstart.trans hnow, le_rfl, ?_, hfrozen⟩
  exact fun answer hanswer => (hbelow answer hanswer).trans (dueFrames_mono hnow)

theorem Advances.read_freezing (h : s.Advances segment) (hnow : s.now ≤ timestamp)
    (howner : s.owner = .freezing)
    (hlate : segment.segmentStartFrame = 0 ∨ segment.segmentStartTime ≤ timestamp) :
    ({ s with now := timestamp, owner := .freezeRead timestamp } :
      PlaybackPosition).Advances segment := by
  have hkeeps := h.owner
  rw [howner] at hkeeps
  have hfirst : segment.segmentStartFrame ≤ dueFrames segment timestamp := by
    cases hlate with
    | inl hzero => omega
    | inr hstart => exact first_le_dueFrames hstart
  apply (h.tick hnow).goes
  refine ⟨hfirst, ?_⟩
  intro answer hanswer
  exact (hkeeps answer hanswer).trans (max_le hfirst (dueFrames_mono hnow))

theorem Advances.proceed (h : s.Advances segment) (hproceed : s.proceed segment = some t) :
    t.Advances segment := by
  have hkeeps := h.owner
  unfold PlaybackPosition.proceed at hproceed
  cases howner : s.owner with
  | idle =>
      rw [howner] at hproceed
      cases hproceed
  | checking =>
      rw [howner] at hproceed hkeeps
      dsimp only at hproceed
      have hstart : segment.segmentStartTime ≤ s.now := hkeeps
      by_cases hrunning : s.timelineRunning = true
      · rw [if_pos hrunning] at hproceed
        cases hproceed
        apply h.goes
        refine ⟨hstart, ?_, fun hoff => absurd (hrunning.symm.trans hoff) Bool.false_ne_true.symm⟩
        intro answer hanswer
        exact (h.running hrunning answer hanswer).trans (max_le (first_le_dueFrames hstart) le_rfl)
      · rw [if_neg hrunning] at hproceed
        cases hproceed
        obtain ⟨hfirst, hbelow⟩ := h.frozen (Bool.eq_false_of_not_eq_true hrunning)
        exact h.answers hfirst h.stopped_le hbelow (fun hearly => absurd hearly hstart.not_gt)
          (fun hon => absurd hon hrunning) fun _ => le_rfl
  | querying =>
      rw [howner] at hproceed
      cases hproceed
  | queryRead timestamp =>
      rw [howner] at hproceed hkeeps
      cases hproceed
      obtain ⟨hstart, hle, hbelow, hfrozen⟩ := hkeeps
      rw [currentTimelineFrame_eq h.submitted_le]
      apply h.answers
      · exact le_min (first_le_dueFrames hstart) h.first_le_submitted
      · exact min_le_right _ _
      · exact fun answer hanswer => le_min (hbelow answer hanswer) (h.le_submitted answer hanswer)
      · exact fun hearly => absurd hearly (hstart.trans hle).not_gt
      · exact fun _ => (min_le_left _ _).trans ((dueFrames_mono hle).trans (le_max_right _ _))
      · exact fun hoff => (min_le_right _ _).trans_eq (hfrozen hoff).1.symm
  | freezing =>
      rw [howner] at hproceed
      cases hproceed
  | freezeRead timestamp =>
      rw [howner] at hproceed hkeeps
      cases hproceed
      obtain ⟨hfirst, hbelow⟩ := hkeeps
      rw [currentTimelineFrame_eq h.submitted_le]
      apply h.goes
      refine ⟨le_min hfirst h.first_le_submitted, min_le_right _ _, ?_⟩
      exact fun answer hanswer => le_min (hbelow answer hanswer) (h.le_submitted answer hanswer)
  | storing frame =>
      rw [howner] at hproceed hkeeps
      cases hproceed
      obtain ⟨hfirst, hle, hbelow⟩ := hkeeps
      exact { h with
        steady := ⟨h.steady.sorted, h.steady.first_le⟩
        stopped_le := hle
        running := fun hon => absurd hon Bool.false_ne_true
        frozen := fun _ => ⟨hfirst, hbelow⟩
        owner := rfl }
  | stopping =>
      rw [howner] at hproceed
      dsimp only at hproceed
      by_cases hidle : s.completing = none
      · rw [if_pos hidle] at hproceed
        cases hproceed
        exact { h with steady := ⟨h.steady.sorted, h.steady.first_le⟩, owner := trivial }
      · rw [if_neg hidle] at hproceed
        cases hproceed

/-- A step that does not freeze the timeline early keeps the invariant. -/
theorem Advances.step (h : s.Advances segment) {event : Event}
    (hlate : FreezesLate segment s event)
    (hstep : PlaybackPosition.step segment s event = some t) : t.Advances segment := by
  cases event with
  | callback timestamp framesRead finished =>
      obtain ⟨⟨_, hidle, hnow, hroom⟩, hnext⟩ := Option.ite_none_right_eq_some.mp hstep
      cases hnext
      exact (h.tick hnow).dataCallback hidle hroom finished
  | complete =>
      obtain ⟨frame, hframe, hnext⟩ := Option.map_eq_some_iff.mp hstep
      cases hnext
      exact h.complete hframe
  | query timestamp =>
      obtain ⟨⟨hidle, hnow⟩, hnext⟩ := Option.ite_none_right_eq_some.mp hstep
      by_cases hearly : timestamp < segment.segmentStartTime
      · rw [if_pos hearly] at hnext
        cases hnext
        exact h.query hnow hearly hidle
      · rw [if_neg hearly] at hnext
        cases hnext
        exact (h.tick hnow).goes (le_of_not_gt hearly)
  | stop =>
      obtain ⟨_, hnext⟩ := Option.ite_none_right_eq_some.mp hstep
      cases hnext
      apply h.goes
      by_cases hrunning : s.timelineRunning = true
      · rw [if_pos hrunning]
        exact h.running hrunning
      · rw [if_neg hrunning]
        exact Bool.eq_false_of_not_eq_true hrunning
  | read timestamp =>
      obtain ⟨hnow, hnext⟩ := Option.ite_none_right_eq_some.mp hstep
      cases howner : s.owner with
      | querying =>
          rw [howner] at hnext
          cases hnext
          exact h.read_querying hnow howner
      | freezing =>
          rw [howner] at hnext
          cases hnext
          exact h.read_freezing hnow howner (hlate timestamp rfl howner)
      | idle => rw [howner] at hnext; cases hnext
      | checking => rw [howner] at hnext; cases hnext
      | queryRead sampled => rw [howner] at hnext; cases hnext
      | freezeRead sampled => rw [howner] at hnext; cases hnext
      | storing frame => rw [howner] at hnext; cases hnext
      | stopping => rw [howner] at hnext; cases hnext
  | proceed => exact h.proceed hstep

/-- What holds in every run: the counter stays in range, and nothing ends before the start. -/
structure Bounded (segment : PlayedSegment) (s : PlaybackPosition) : Prop where
  submitted_le : s.submittedFrames ≤ PlaybackClock.maximumFrame
  early : s.now < segment.segmentStartTime → s.completing = none

theorem Bounded.dataCallback (h : s.Bounded segment) {framesRead : Nat}
    (hnow : s.now = timestamp)
    (hroom : s.submittedFrames + framesRead ≤ PlaybackClock.maximumFrame) (finished : Bool) :
    (s.dataCallback segment timestamp framesRead finished).Bounded segment := by
  unfold PlaybackPosition.dataCallback
  by_cases hearly : timestamp < segment.segmentStartTime
  · rw [if_pos hearly]
    exact h
  rw [if_neg hearly]
  have hstarted : ¬ s.now < segment.segmentStartTime := by
    rw [hnow]
    exact hearly
  by_cases hend : s.endReached = true
  · rw [if_pos hend]
    exact ⟨h.submitted_le, fun hbefore => absurd hbefore hstarted⟩
  · rw [if_neg hend]
    exact ⟨hroom, fun hbefore => absurd hbefore hstarted⟩

theorem Bounded.proceed (h : s.Bounded segment) (hproceed : s.proceed segment = some t) :
    t.Bounded segment := by
  unfold PlaybackPosition.proceed at hproceed
  cases howner : s.owner with
  | checking =>
      rw [howner] at hproceed
      dsimp only at hproceed
      split_ifs at hproceed <;> cases hproceed <;> exact ⟨h.submitted_le, h.early⟩
  | stopping =>
      rw [howner] at hproceed
      dsimp only at hproceed
      split_ifs at hproceed
      cases hproceed
      exact ⟨h.submitted_le, h.early⟩
  | idle => rw [howner] at hproceed; cases hproceed
  | querying => rw [howner] at hproceed; cases hproceed
  | freezing => rw [howner] at hproceed; cases hproceed
  | queryRead timestamp =>
      rw [howner] at hproceed
      cases hproceed
      exact ⟨h.submitted_le, h.early⟩
  | freezeRead timestamp =>
      rw [howner] at hproceed
      cases hproceed
      exact ⟨h.submitted_le, h.early⟩
  | storing frame =>
      rw [howner] at hproceed
      cases hproceed
      exact ⟨h.submitted_le, h.early⟩

theorem Bounded.step (h : s.Bounded segment) {event : Event}
    (hstep : PlaybackPosition.step segment s event = some t) : t.Bounded segment := by
  cases event with
  | callback timestamp framesRead finished =>
      obtain ⟨⟨_, _, hnow, hroom⟩, hnext⟩ := Option.ite_none_right_eq_some.mp hstep
      cases hnext
      have htick : ({ s with now := timestamp } : PlaybackPosition).Bounded segment :=
        ⟨h.submitted_le, fun hearly => h.early (hnow.trans_lt hearly)⟩
      exact htick.dataCallback rfl hroom finished
  | complete =>
      obtain ⟨frame, _, hnext⟩ := Option.map_eq_some_iff.mp hstep
      cases hnext
      exact ⟨h.submitted_le, fun _ => rfl⟩
  | query timestamp =>
      obtain ⟨⟨_, hnow⟩, hnext⟩ := Option.ite_none_right_eq_some.mp hstep
      split_ifs at hnext <;> cases hnext <;>
        exact ⟨h.submitted_le, fun hearly => h.early (hnow.trans_lt hearly)⟩
  | stop =>
      obtain ⟨_, hnext⟩ := Option.ite_none_right_eq_some.mp hstep
      cases hnext
      exact ⟨h.submitted_le, h.early⟩
  | read timestamp =>
      obtain ⟨hnow, hnext⟩ := Option.ite_none_right_eq_some.mp hstep
      split at hnext <;> cases hnext <;>
        exact ⟨h.submitted_le, fun hearly => h.early (hnow.trans_lt hearly)⟩
  | proceed => exact h.proceed hstep

/-- A timeline that is frozen early answers with a frame in front of the segment. -/
theorem early_freeze_steps_back (h : s.Bounded segment) (howner : s.owner = .freezing)
    (hnow : s.now ≤ timestamp) (hearly : timestamp < segment.segmentStartTime)
    (hfirst : 0 < segment.segmentStartFrame) :
    ∃ events t, run (step segment) s (.read timestamp :: events) = some t ∧
      ¬ t.Steady segment := by
  have hcompleting : s.completing = none := h.early (hnow.trans_lt hearly)
  have hframe := @currentTimelineFrame_eq segment _ h.submitted_le timestamp
  have hbehind : currentTimelineFrame segment timestamp s.submittedFrames <
      segment.segmentStartFrame := by
    rw [hframe]
    exact (min_le_left _ _).trans_lt (dueFrames_lt hearly hfirst)
  refine ⟨[.proceed, .proceed, .proceed, .query segment.segmentStartTime, .proceed],
    { s with
      stoppedFrame := currentTimelineFrame segment timestamp s.submittedFrames
      timelineRunning := false
      deviceInitialized := false
      owner := .idle
      now := segment.segmentStartTime
      answers := currentTimelineFrame segment timestamp s.submittedFrames :: s.answers }, ?_, ?_⟩
  · simp [run, step, PlaybackPosition.proceed, howner, hnow, hcompleting, hearly.le]
  · intro hsteady
    exact absurd (hsteady.first_le _ List.mem_cons_self) hbehind.not_ge

/-- In a run whose stops freeze the timeline late the position never goes back, and every
early freeze can make it go back. -/
theorem position_steady (segment : PlayedSegment) (now : Int) (events : List Event)
    (hrun : run (step segment) (start segment now) events = some s) :
    (Along (FreezesLate segment) (step segment) (start segment now) events →
      s.Steady segment) ∧
    ∀ timestamp, s.owner = .freezing → s.now ≤ timestamp →
      timestamp < segment.segmentStartTime → 0 < segment.segmentStartFrame →
      ∃ more t, run (step segment) s (.read timestamp :: more) = some t ∧
        ¬ t.Steady segment := by
  constructor
  · intro hlate
    have hadvances : s.Advances segment := run_along
      (fun h hok hstep => h.step hok hstep) (advances_start segment now) hlate hrun
    exact hadvances.steady
  · intro timestamp howner hnow hearly hfirst
    have hstart : (start segment now).Bounded segment := ⟨segment.frame_le, fun _ => rfl⟩
    have hbounded : s.Bounded segment := run_preserves (fun h hstep => h.step hstep) hstart hrun
    exact early_freeze_steps_back hbounded howner hnow hearly hfirst

theorem secondRate_pos : 0 < 44100 := by
  decide

theorem secondRate_lt : 44100 < 2 ^ 32 := by
  decide

theorem secondFrame_le : 44100 ≤ PlaybackClock.maximumFrame := by
  decide

/-- A segment of a compact disc that begins with its second second. -/
def secondSegment : PlayedSegment where
  zeroClock := ⟨44100, 0, secondRate_pos, secondRate_lt⟩
  segmentStartFrame := 44100
  segmentStartTime := 5000000000
  frameOffset := 1000000000
  zero_eq := rfl
  frame_le := secondFrame_le
  offset_eq := rfl

/-- Asked before the start and after it, and stopped behind it. -/
def lateStop : List Event :=
  [.query 4500000000, .callback 5000000000 441 false, .query 5005000000, .proceed,
    .read 5005000000, .proceed, .stop, .read 5008000000, .proceed, .proceed, .proceed,
    .query 6000000000, .proceed]

/-- The same segment, stopped before its start. -/
def earlyStop : List Event := [.query 4500000000, .stop]

theorem position_steady_lateStop :
    (∃ s, run (step secondSegment) (start secondSegment 4000000000) lateStop = some s ∧
      s.answers = [44452, 44320, 44100] ∧ s.Steady secondSegment) ∧
    ∃ s more t, run (step secondSegment) (start secondSegment 4000000000) earlyStop = some s ∧
      run (step secondSegment) s (.read 4500000000 :: more) = some t ∧
      ¬ t.Steady secondSegment := by
  constructor
  · refine ⟨_, rfl, rfl, ?_⟩
    apply (position_steady secondSegment 4000000000 lateStop rfl).1
    apply along_of_forall
    intro event hevent s timestamp htimestamp _
    rw [htimestamp] at hevent
    have hlate : timestamp = 5005000000 ∨ timestamp = 5008000000 := by
      simpa [lateStop] using hevent
    cases hlate with
    | inl h => exact .inr (by rw [h]; decide)
    | inr h => exact .inr (by rw [h]; decide)
  · obtain ⟨more, t, hrun, hsteady⟩ :=
      (position_steady secondSegment 4000000000 earlyStop rfl).2 4500000000 rfl le_rfl
        (by decide) (by decide)
    exact ⟨_, more, t, rfl, hrun, hsteady⟩

/-- Behind the early stop the position steps back in front of the segment. -/
theorem early_stop_steps_back :
    ¬ ∀ (segment : PlayedSegment) (now : Int) (events : List Event) (s : PlaybackPosition),
      run (step segment) (start segment now) events = some s → s.Steady segment := by
  intro hsteady
  have hrun : run (step secondSegment) (start secondSegment 4000000000)
      (earlyStop ++ [.read 4500000000, .proceed, .proceed, .proceed, .query 5000000000,
        .proceed]) =
      some
        { submittedFrames := 44100
          stoppedFrame := 22050
          timelineRunning := false
          deviceInitialized := false
          now := 5000000000
          answers := [22050, 44100] } := rfl
  have hfirst := (hsteady _ _ _ _ hrun).first_le 22050 List.mem_cons_self
  exact absurd hfirst (by decide)

end PlaybackPosition

end SyncAudio
