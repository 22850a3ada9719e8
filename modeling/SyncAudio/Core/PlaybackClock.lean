import Mathlib.Tactic.Linarith
import Mathlib.Tactic.Ring
import SyncAudio.Lib.Rescale
import SyncAudio.Lib.Word

/-!
# The playback clock

Frame positions are 64-bit counters and timestamps are signed nanosecond
counts. The divisions are made second by second, as the code makes them to
keep every intermediate product inside 64 bits.

## Implementation notes

A difference of two timestamps is exact; the source computes it in 64 bits.
-/

namespace SyncAudio

open Word

/-- The constructor rejects a zero sample rate. -/
structure PlaybackClock where
  sampleRate : Nat
  startTime : Int
  sampleRate_pos : 0 < sampleRate
  sampleRate_lt : sampleRate < 2 ^ 32

namespace PlaybackClock

def nanosecondsPerSecond : Nat := 1000000000

/-- The largest value of a signed 64-bit duration. -/
def maximumDuration : Nat := 2 ^ 63 - 1

def frameToDuration (clock : PlaybackClock) (frame : Nat) : Except String Nat :=
  let wholeSeconds := frame / clock.sampleRate
  let remainingFrames := frame % clock.sampleRate
  if wholeSeconds > maximumDuration / nanosecondsPerSecond then
    .error "Playback duration exceeds the supported range"
  else
    let wholeNanoseconds := mul64 wholeSeconds nanosecondsPerSecond
    let partialNanoseconds :=
      sub64 (add64 (mul64 remainingFrames nanosecondsPerSecond) clock.sampleRate) 1 /
        clock.sampleRate
    if partialNanoseconds > maximumDuration - wholeNanoseconds then
      .error "Playback duration exceeds the supported range"
    else .ok (add64 wholeNanoseconds partialNanoseconds)

def frameToTimestamp (clock : PlaybackClock) (frame : Nat) : Except String Int := do
  let offset ← clock.frameToDuration frame
  if clock.startTime > (maximumDuration : Int) - offset then
    .error "Playback timestamp exceeds the supported range"
  else .ok (clock.startTime + offset)

def elapsedAt (clock : PlaybackClock) (timestamp : Int) : Int := timestamp - clock.startTime

/-- The largest frame position. -/
def maximumFrame : Nat := 2 ^ 64 - 1

def timestampToFrame (clock : PlaybackClock) (timestamp : Int) : Except String Nat :=
  if timestamp ≤ clock.startTime then .ok 0
  else
    let nanoseconds := (clock.elapsedAt timestamp).toNat
    let wholeSeconds := nanoseconds / nanosecondsPerSecond
    let remainingNanoseconds := nanoseconds % nanosecondsPerSecond
    if wholeSeconds > maximumFrame / clock.sampleRate then
      .error "Playback frame exceeds the supported range"
    else
      let wholeFrames := mul64 wholeSeconds clock.sampleRate
      let partialFrames := mul64 remainingNanoseconds clock.sampleRate / nanosecondsPerSecond
      if partialFrames > sub64 maximumFrame wholeFrames then
        .error "Playback frame exceeds the supported range"
      else .ok (add64 wholeFrames partialFrames)

/-- The number of nanoseconds before `frame` is due, rounded up. -/
def frameNanoseconds (clock : PlaybackClock) (frame : Nat) : Nat :=
  (frame * nanosecondsPerSecond + clock.sampleRate - 1) / clock.sampleRate

/-- Rounding up the remainder of a second rounds up the whole duration. -/
theorem frameNanoseconds_split (clock : PlaybackClock) (frame : Nat) :
    clock.frameNanoseconds frame =
      frame / clock.sampleRate * nanosecondsPerSecond +
        (frame % clock.sampleRate * nanosecondsPerSecond + clock.sampleRate - 1) /
          clock.sampleRate := by
  have hpos := clock.sampleRate_pos
  have hdiv := Nat.div_add_mod frame clock.sampleRate
  unfold frameNanoseconds
  rw [Nat.add_comm (frame / clock.sampleRate * nanosecondsPerSecond),
    ← Nat.add_mul_div_left _ _ hpos]
  congr 1
  calc frame * nanosecondsPerSecond + clock.sampleRate - 1
      = (clock.sampleRate * (frame / clock.sampleRate) + frame % clock.sampleRate) *
          nanosecondsPerSecond + clock.sampleRate - 1 := by rw [hdiv]
    _ = frame % clock.sampleRate * nanosecondsPerSecond + clock.sampleRate - 1 +
          clock.sampleRate * (frame / clock.sampleRate * nanosecondsPerSecond) := by
        rw [Nat.add_mul, Nat.mul_assoc]
        omega

theorem nanosecondsPerSecond_pos : 0 < nanosecondsPerSecond := by
  decide

/-- No product wraps on the way to a duration in range, and no other is returned. -/
theorem frameToDuration_eq_ite (clock : PlaybackClock) (frame : Nat) :
    clock.frameToDuration frame =
      if clock.frameNanoseconds frame ≤ maximumDuration then .ok (clock.frameNanoseconds frame)
      else .error "Playback duration exceeds the supported range" := by
  have hpos := clock.sampleRate_pos
  have hrate := clock.sampleRate_lt
  have hmod := Nat.mod_lt frame hpos
  have hmaximum : maximumDuration = 2 ^ 63 - 1 := rfl
  have hremaining : mul64 (frame % clock.sampleRate) nanosecondsPerSecond =
      frame % clock.sampleRate * nanosecondsPerSecond :=
    mul64_of_lt (by unfold nanosecondsPerSecond; omega)
  have hsum : add64 (frame % clock.sampleRate * nanosecondsPerSecond) clock.sampleRate =
      frame % clock.sampleRate * nanosecondsPerSecond + clock.sampleRate :=
    add64_of_lt (by unfold nanosecondsPerSecond; omega)
  have hrounded : sub64 (frame % clock.sampleRate * nanosecondsPerSecond + clock.sampleRate) 1 =
      frame % clock.sampleRate * nanosecondsPerSecond + clock.sampleRate - 1 :=
    sub64_of_le (by omega) (by unfold nanosecondsPerSecond; omega)
  rw [frameNanoseconds_split]
  unfold frameToDuration
  dsimp only
  rw [hremaining, hsum, hrounded]
  generalize (frame % clock.sampleRate * nanosecondsPerSecond + clock.sampleRate - 1) /
    clock.sampleRate = partialNanoseconds
  by_cases hseconds : frame / clock.sampleRate > maximumDuration / nanosecondsPerSecond
  · have hlong : maximumDuration < frame / clock.sampleRate * nanosecondsPerSecond :=
      (Nat.div_lt_iff_lt_mul nanosecondsPerSecond_pos).mp hseconds
    rw [if_pos hseconds, if_neg (by omega)]
  · have hfit : frame / clock.sampleRate * nanosecondsPerSecond ≤ maximumDuration :=
      (Nat.le_div_iff_mul_le nanosecondsPerSecond_pos).mp (Nat.le_of_not_lt hseconds)
    rw [if_neg hseconds, mul64_of_lt (by omega)]
    by_cases htotal : partialNanoseconds >
        maximumDuration - frame / clock.sampleRate * nanosecondsPerSecond
    · rw [if_pos htotal, if_neg (by omega)]
    · rw [if_neg htotal, if_pos (by omega), add64_of_lt (by omega)]

/-- A duration that is returned is exact. -/
theorem frameToDuration_eq {clock : PlaybackClock} {frame duration : Nat}
    (h : clock.frameToDuration frame = .ok duration) :
    duration = clock.frameNanoseconds frame ∧ duration ≤ maximumDuration := by
  rw [frameToDuration_eq_ite] at h
  split_ifs at h with hrange
  obtain rfl := Except.ok.inj h
  exact ⟨rfl, hrange⟩

theorem frameToTimestamp_eq {clock : PlaybackClock} {frame : Nat} {timestamp : Int}
    (h : clock.frameToTimestamp frame = .ok timestamp) :
    timestamp = clock.startTime + clock.frameNanoseconds frame ∧
      timestamp ≤ (maximumDuration : Int) := by
  unfold frameToTimestamp at h
  cases hoffset : clock.frameToDuration frame with
  | error message =>
      rw [hoffset] at h
      cases h
  | ok offset =>
      rw [hoffset] at h
      simp only [bind, Except.bind] at h
      split_ifs at h with hrange
      obtain ⟨rfl, -⟩ := frameToDuration_eq hoffset
      have htimestamp := Except.ok.inj h
      exact ⟨htimestamp.symm, by omega⟩

/-- Up to one frame in a nanosecond, later frames are due strictly later. -/
theorem frameNanoseconds_lt {clock : PlaybackClock} {a b : Nat}
    (hrate : clock.sampleRate ≤ nanosecondsPerSecond) (hab : a < b) :
    clock.frameNanoseconds a < clock.frameNanoseconds b := by
  have hpos := clock.sampleRate_pos
  unfold frameNanoseconds
  have hgap : a * nanosecondsPerSecond + clock.sampleRate - 1 + clock.sampleRate ≤
      b * nanosecondsPerSecond + clock.sampleRate - 1 := by
    have : (a + 1) * nanosecondsPerSecond ≤ b * nanosecondsPerSecond :=
      Nat.mul_le_mul_right _ hab
    rw [Nat.add_mul] at this
    omega
  calc (a * nanosecondsPerSecond + clock.sampleRate - 1) / clock.sampleRate
      < (a * nanosecondsPerSecond + clock.sampleRate - 1) / clock.sampleRate + 1 := Nat.lt_succ_self _
    _ = (a * nanosecondsPerSecond + clock.sampleRate - 1 + clock.sampleRate) / clock.sampleRate :=
        (Nat.add_div_right _ hpos).symm
    _ ≤ (b * nanosecondsPerSecond + clock.sampleRate - 1) / clock.sampleRate :=
        Nat.div_le_div_right hgap

@[simp] theorem frameNanoseconds_zero (clock : PlaybackClock) : clock.frameNanoseconds 0 = 0 := by
  have hpos := clock.sampleRate_pos
  unfold frameNanoseconds
  rw [Nat.div_eq_zero_iff]
  omega

section Adjunction

variable {clock : PlaybackClock} {frame nanoseconds : Nat} {timestamp due : Int}

/-- The number of frames that are due within some nanoseconds. -/
def elapsedFrames (clock : PlaybackClock) (nanoseconds : Nat) : Nat :=
  rescaleDown clock.sampleRate nanosecondsPerSecond nanoseconds

theorem elapsed_gc (clock : PlaybackClock) :
    GaloisConnection clock.frameNanoseconds clock.elapsedFrames :=
  rescale_gc clock.sampleRate_pos nanosecondsPerSecond_pos

/-- Rounding down the remainder of a second rounds down the whole number. -/
theorem elapsedFrames_split (clock : PlaybackClock) (nanoseconds : Nat) :
    clock.elapsedFrames nanoseconds =
      nanoseconds / nanosecondsPerSecond * clock.sampleRate +
        nanoseconds % nanosecondsPerSecond * clock.sampleRate / nanosecondsPerSecond := by
  have hdiv := Nat.div_add_mod nanoseconds nanosecondsPerSecond
  calc nanoseconds * clock.sampleRate / nanosecondsPerSecond
      = (nanosecondsPerSecond * (nanoseconds / nanosecondsPerSecond * clock.sampleRate) +
          nanoseconds % nanosecondsPerSecond * clock.sampleRate) / nanosecondsPerSecond := by
        congr 1
        rw [← Nat.mul_assoc, ← Nat.add_mul, hdiv]
    _ = _ := Nat.mul_add_div nanosecondsPerSecond_pos _ _

/-- What is returned is exact: no product wrapped on the way. -/
theorem timestampToFrame_eq (clock : PlaybackClock) (timestamp : Int) :
    clock.timestampToFrame timestamp =
      if clock.elapsedFrames (clock.elapsedAt timestamp).toNat ≤ maximumFrame then
        .ok (clock.elapsedFrames (clock.elapsedAt timestamp).toNat)
      else .error "Playback frame exceeds the supported range" := by
  unfold timestampToFrame
  by_cases hstart : timestamp ≤ clock.startTime
  · have hzero : (clock.elapsedAt timestamp).toNat = 0 := by
      unfold elapsedAt
      omega
    have hframes : clock.elapsedFrames 0 = 0 := by
      rw [elapsedFrames, rescaleDown, Nat.zero_mul, Nat.zero_div]
    rw [if_pos hstart, hzero, hframes, if_pos (Nat.zero_le _)]
  · rw [if_neg hstart]
    generalize (clock.elapsedAt timestamp).toNat = nanoseconds
    have hrate := clock.sampleRate_lt
    have hremaining := Nat.mod_lt nanoseconds nanosecondsPerSecond_pos
    have hrounded : mul64 (nanoseconds % nanosecondsPerSecond) clock.sampleRate =
        nanoseconds % nanosecondsPerSecond * clock.sampleRate := by
      apply mul64_of_lt
      calc nanoseconds % nanosecondsPerSecond * clock.sampleRate
          ≤ nanosecondsPerSecond * 2 ^ 32 := Nat.mul_le_mul hremaining.le hrate.le
        _ < 2 ^ 64 := by decide
    dsimp only
    rw [hrounded, elapsedFrames_split]
    by_cases hseconds : nanoseconds / nanosecondsPerSecond > maximumFrame / clock.sampleRate
    · have hmany : maximumFrame < nanoseconds / nanosecondsPerSecond * clock.sampleRate :=
        (Nat.div_lt_iff_lt_mul clock.sampleRate_pos).mp hseconds
      rw [if_pos hseconds, if_neg]
      exact Nat.not_le_of_lt (Nat.lt_of_lt_of_le hmany (Nat.le_add_right _ _))
    · have hfew : nanoseconds / nanosecondsPerSecond * clock.sampleRate ≤ maximumFrame :=
        (Nat.le_div_iff_mul_le clock.sampleRate_pos).mp (Nat.le_of_not_lt hseconds)
      have hmaximum : maximumFrame < 2 ^ 64 := by decide
      rw [if_neg hseconds, mul64_of_lt (by omega), sub64_of_le hfew hmaximum]
      by_cases htotal : nanoseconds % nanosecondsPerSecond * clock.sampleRate /
          nanosecondsPerSecond > maximumFrame -
            nanoseconds / nanosecondsPerSecond * clock.sampleRate
      · rw [if_pos htotal, if_neg (by omega)]
      · rw [if_neg htotal, if_pos (by omega), add64_of_lt (by omega)]

theorem timestampToFrame_ok (h : clock.timestampToFrame timestamp = .ok frame) :
    frame = clock.elapsedFrames (clock.elapsedAt timestamp).toNat := by
  rw [timestampToFrame_eq] at h
  split_ifs at h
  exact (Except.ok.inj h).symm

theorem frameNanoseconds_pos (clock : PlaybackClock) (hframe : 1 ≤ frame) :
    0 < clock.frameNanoseconds frame := by
  apply Nat.pos_of_ne_zero
  intro hzero
  have hle : frame ≤ clock.elapsedFrames 0 := (clock.elapsed_gc frame 0).mp hzero.le
  rw [elapsedFrames, rescaleDown, Nat.zero_mul, Nat.zero_div] at hle
  omega

/-- With at most one frame in a nanosecond, a frame that has a timestamp is in range. -/
theorem frame_le_maximumFrame (hrate : clock.sampleRate ≤ nanosecondsPerSecond)
    (h : clock.frameToTimestamp frame = .ok due) : frame ≤ maximumFrame := by
  have hduration : clock.frameNanoseconds frame ≤ maximumDuration := by
    unfold frameToTimestamp at h
    cases hoffset : clock.frameToDuration frame with
    | error message =>
        rw [hoffset] at h
        cases h
    | ok offset =>
        obtain ⟨rfl, hle⟩ := frameToDuration_eq hoffset
        exact hle
  calc frame = clock.elapsedFrames (clock.frameNanoseconds frame) :=
        (rescaleDown_rescaleUp clock.sampleRate_pos hrate).symm
    _ ≤ clock.frameNanoseconds frame * nanosecondsPerSecond / nanosecondsPerSecond :=
        Nat.div_le_div_right (Nat.mul_le_mul_left _ hrate)
    _ = clock.frameNanoseconds frame := Nat.mul_div_cancel _ nanosecondsPerSecond_pos
    _ ≤ maximumDuration := hduration
    _ ≤ maximumFrame := by decide

/-- A time in range is converted. -/
theorem frameToTimestamp_ok (hstart : 0 ≤ clock.startTime)
    (h : clock.startTime + clock.frameNanoseconds frame ≤ maximumDuration) :
    clock.frameToTimestamp frame = .ok (clock.startTime + clock.frameNanoseconds frame) := by
  unfold frameToTimestamp
  rw [frameToDuration_eq_ite, if_pos (by omega)]
  exact if_neg (by omega)

/-- Frames whose durations fit into a gap are due before its end. -/
theorem frameNanoseconds_add_lt {later gap : Nat} (hrate : clock.sampleRate ≤ nanosecondsPerSecond)
    (hgap : (later + 1) * nanosecondsPerSecond ≤ gap * clock.sampleRate) :
    clock.frameNanoseconds (frame + later) < clock.frameNanoseconds frame + gap := by
  have hdue : frame * nanosecondsPerSecond ≤ clock.frameNanoseconds frame * clock.sampleRate :=
    (rescaleUp_le_iff clock.sampleRate_pos).mp le_rfl
  have hpositive : 0 < gap := by
    apply Nat.pos_of_ne_zero
    rintro rfl
    have hone : nanosecondsPerSecond ≤ (later + 1) * nanosecondsPerSecond :=
      Nat.le_mul_of_pos_left _ (Nat.succ_pos _)
    have hsecond := nanosecondsPerSecond_pos
    omega
  have hle : clock.frameNanoseconds (frame + later) ≤ clock.frameNanoseconds frame + gap - 1 := by
    apply (rescaleUp_le_iff clock.sampleRate_pos).mpr
    calc
      (frame + later) * nanosecondsPerSecond
        = frame * nanosecondsPerSecond + ((later + 1) * nanosecondsPerSecond -
            nanosecondsPerSecond) := by rw [Nat.add_mul, Nat.succ_mul, Nat.add_sub_cancel]
      _ ≤ clock.frameNanoseconds frame * clock.sampleRate +
            (gap * clock.sampleRate - clock.sampleRate) :=
          Nat.add_le_add hdue (tsub_le_tsub hgap hrate)
      _ = (clock.frameNanoseconds frame + gap - 1) * clock.sampleRate := by
          rw [Nat.add_sub_assoc hpositive, Nat.add_mul, Nat.sub_mul, Nat.one_mul]
  omega

/-- The conversion of frames rounds up, that of timestamps rounds down, and they
fit: a frame is reached exactly when it is due. -/
theorem frame_time_adjunction (clock : PlaybackClock) :
    (∀ frame reached timestamp due, 1 ≤ frame → clock.frameToTimestamp frame = .ok due →
      clock.timestampToFrame timestamp = .ok reached → (frame ≤ reached ↔ due ≤ timestamp)) ∧
    (∀ first second due later, clock.frameToTimestamp first = .ok due →
      clock.frameToTimestamp second = .ok later → first ≤ second → due ≤ later) ∧
    (∀ timestamp later first second, clock.timestampToFrame timestamp = .ok first →
      clock.timestampToFrame later = .ok second → timestamp ≤ later → first ≤ second) ∧
    (clock.sampleRate ≤ nanosecondsPerSecond → ∀ frame due,
      clock.frameToTimestamp frame = .ok due → clock.timestampToFrame due = .ok frame) := by
  refine ⟨?_, ?_, ?_, ?_⟩
  · intro frame reached timestamp due hframe hdue hreached
    obtain ⟨rfl, -⟩ := frameToTimestamp_eq hdue
    rw [timestampToFrame_ok hreached, ← clock.elapsed_gc frame]
    have hpos := clock.frameNanoseconds_pos hframe
    unfold elapsedAt
    omega
  · intro first second due later hdue hlater hle
    obtain ⟨rfl, -⟩ := frameToTimestamp_eq hdue
    obtain ⟨rfl, -⟩ := frameToTimestamp_eq hlater
    have hmono := clock.elapsed_gc.monotone_l hle
    omega
  · intro timestamp later first second hfirst hsecond hle
    rw [timestampToFrame_ok hfirst, timestampToFrame_ok hsecond]
    apply clock.elapsed_gc.monotone_u
    unfold elapsedAt
    omega
  · intro hrate frame due hdue
    obtain ⟨rfl, hrange⟩ := frameToTimestamp_eq hdue
    have helapsed : (clock.elapsedAt (clock.startTime + clock.frameNanoseconds frame)).toNat =
        clock.frameNanoseconds frame := by
      unfold elapsedAt
      omega
    have hback : clock.elapsedFrames (clock.frameNanoseconds frame) = frame :=
      rescaleDown_rescaleUp clock.sampleRate_pos hrate
    rw [timestampToFrame_eq, helapsed, hback, if_pos]
    exact frame_le_maximumFrame hrate hdue

def compactDisc : PlaybackClock where
  sampleRate := 44100
  startTime := 0
  sampleRate_pos := by decide
  sampleRate_lt := by decide

theorem frame_time_adjunction_compactDisc : compactDisc.timestampToFrame 22676 = .ok 1 := by
  have hrate : compactDisc.sampleRate ≤ nanosecondsPerSecond := by decide
  have hdue : compactDisc.frameToTimestamp 1 = .ok 22676 := by decide
  exact compactDisc.frame_time_adjunction.2.2.2 hrate 1 22676 hdue

end Adjunction

end PlaybackClock

end SyncAudio
