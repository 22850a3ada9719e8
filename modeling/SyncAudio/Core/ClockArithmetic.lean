import SyncAudio.Core.PlaybackClock
import SyncAudio.Lib.Checked

/-!
# The range of the playback clock

Both conversions once more, with every 64-bit operation as a partial function:
a product, a sum or a difference that leaves its type has no value. They always
have one, it is the one the clock returns, and only a result that is out of
range is refused.

## Implementation notes

Divisions, remainders and comparisons cannot leave their type and are written
as they are. An exception is a value of the conversion; no value at all means
that an operation wrapped.
-/

namespace SyncAudio.PlaybackClock

open Checked

variable (clock : PlaybackClock)

/-- `frameToDuration`, with its operations checked. -/
def frameToDurationChecked (frame : Nat) : Option (Except String Nat) :=
  let wholeSeconds := frame / clock.sampleRate
  let remainingFrames := frame % clock.sampleRate
  if wholeSeconds > maximumDuration / nanosecondsPerSecond then
    some (.error "Playback duration exceeds the supported range")
  else do
    let wholeNanoseconds ← mul64 wholeSeconds nanosecondsPerSecond
    let product ← mul64 remainingFrames nanosecondsPerSecond
    let sum ← add64 product clock.sampleRate
    let rounded ← sub64 sum 1
    let partialNanoseconds := rounded / clock.sampleRate
    let remaining ← sub64 maximumDuration wholeNanoseconds
    if partialNanoseconds > remaining then
      some (.error "Playback duration exceeds the supported range")
    else do
      let total ← add64 wholeNanoseconds partialNanoseconds
      let count ← toSigned total
      some (.ok count.toNat)

/-- `frameToTimestamp`, with its operations checked. -/
def frameToTimestampChecked (frame : Nat) : Option (Except String Int) := do
  match ← clock.frameToDurationChecked frame with
  | .error message => some (.error message)
  | .ok offset => do
      let latest ← signed ((maximumDuration : Int) - offset)
      if clock.startTime > latest then
        some (.error "Playback timestamp exceeds the supported range")
      else do
        let count ← signed (clock.startTime + offset)
        some (.ok count)

/-- `timestampToFrame`, with its operations checked. -/
def timestampToFrameChecked (timestamp : Int) : Option (Except String Nat) :=
  if timestamp ≤ clock.startTime then some (.ok 0)
  else do
    let elapsed ← signed (timestamp - clock.startTime)
    let nanoseconds := elapsed.toNat
    let wholeSeconds := nanoseconds / nanosecondsPerSecond
    let remainingNanoseconds := nanoseconds % nanosecondsPerSecond
    if wholeSeconds > maximumFrame / clock.sampleRate then
      some (.error "Playback frame exceeds the supported range")
    else do
      let wholeFrames ← mul64 wholeSeconds clock.sampleRate
      let product ← mul64 remainingNanoseconds clock.sampleRate
      let partialFrames := product / nanosecondsPerSecond
      let remaining ← sub64 maximumFrame wholeFrames
      if partialFrames > remaining then
        some (.error "Playback frame exceeds the supported range")
      else do
        let frames ← add64 wholeFrames partialFrames
        some (.ok frames)

variable {clock} {frame : Nat} {timestamp : Int}

theorem remainingProduct_lt (clock : PlaybackClock) (frame : Nat) :
    frame % clock.sampleRate * nanosecondsPerSecond + clock.sampleRate < 2 ^ 64 := by
  have hremaining := Nat.mod_lt frame clock.sampleRate_pos
  have hrate := clock.sampleRate_lt
  unfold nanosecondsPerSecond
  omega

/-- No operation on the way to a duration leaves its type. -/
theorem frameToDurationChecked_eq (clock : PlaybackClock) (frame : Nat) :
    clock.frameToDurationChecked frame = some (clock.frameToDuration frame) := by
  have hremaining := remainingProduct_lt clock frame
  have hpos := clock.sampleRate_pos
  have hmaximum : maximumDuration = 2 ^ 63 - 1 := rfl
  unfold frameToDurationChecked frameToDuration
  dsimp only
  by_cases hseconds : frame / clock.sampleRate > maximumDuration / nanosecondsPerSecond
  · rw [if_pos hseconds, if_pos hseconds]
  · have hfit : frame / clock.sampleRate * nanosecondsPerSecond ≤ maximumDuration :=
      (Nat.le_div_iff_mul_le nanosecondsPerSecond_pos).mp (Nat.le_of_not_lt hseconds)
    rw [if_neg hseconds, if_neg hseconds]
    have hwhole : frame / clock.sampleRate * nanosecondsPerSecond < 2 ^ 64 := by omega
    have hone : 1 ≤ frame % clock.sampleRate * nanosecondsPerSecond + clock.sampleRate := by omega
    rw [Word.mul64_of_lt hwhole, Word.mul64_of_lt (by omega), Word.add64_of_lt hremaining,
      Word.sub64_of_le hone hremaining]
    rw [mul64_of_lt hwhole, some_bind, mul64_of_lt (by omega), some_bind, add64_of_lt hremaining,
      some_bind, sub64_of_le hone hremaining, some_bind, sub64_of_le hfit (by omega), some_bind]
    -- What is left of the range bounds the sum, whatever the rounded part is.
    generalize (frame % clock.sampleRate * nanosecondsPerSecond + clock.sampleRate - 1) /
      clock.sampleRate = partialNanoseconds
    split_ifs with htotal
    · rfl
    · have hsum : frame / clock.sampleRate * nanosecondsPerSecond + partialNanoseconds < 2 ^ 63 := by
        omega
      rw [add64_of_lt (by omega), some_bind, toSigned_of_lt hsum, some_bind, Int.toNat_natCast,
        Word.add64_of_lt (by omega)]

theorem maximumFrame_lt : maximumFrame < 2 ^ 64 := by
  decide

/-- No operation on the way to a timestamp leaves its type. -/
theorem frameToTimestampChecked_eq (hstart : Signed clock.startTime) :
    clock.frameToTimestampChecked frame = some (clock.frameToTimestamp frame) := by
  have hmaximum : maximumDuration = 2 ^ 63 - 1 := rfl
  unfold frameToTimestampChecked frameToTimestamp
  rw [frameToDurationChecked_eq]
  cases hoffset : clock.frameToDuration frame with
  | error message => rfl
  | ok offset =>
      obtain ⟨-, hrange⟩ := frameToDuration_eq hoffset
      have hlatest : Signed ((maximumDuration : Int) - offset) := by
        unfold Signed
        omega
      rw [some_bind]
      dsimp only
      rw [signed_of_mem hlatest, some_bind]
      change (if clock.startTime > (maximumDuration : Int) - offset then _ else _) =
        some (if clock.startTime > (maximumDuration : Int) - offset then _ else _)
      split_ifs with hlate
      · rfl
      · have hsum : Signed (clock.startTime + offset) := by
          unfold Signed at hstart ⊢
          omega
        rw [signed_of_mem hsum, some_bind]

/-- No operation on the way to a frame leaves its type. -/
theorem timestampToFrameChecked_eq (helapsed : Signed (timestamp - clock.startTime)) :
    clock.timestampToFrameChecked timestamp = some (clock.timestampToFrame timestamp) := by
  have hrate := clock.sampleRate_lt
  unfold timestampToFrameChecked timestampToFrame elapsedAt
  by_cases hstart : timestamp ≤ clock.startTime
  · rw [if_pos hstart, if_pos hstart]
  · rw [if_neg hstart, if_neg hstart, signed_of_mem helapsed]
    rw [some_bind]
    generalize (timestamp - clock.startTime).toNat = nanoseconds
    by_cases hseconds : nanoseconds / nanosecondsPerSecond > maximumFrame / clock.sampleRate
    · rw [if_pos hseconds, if_pos hseconds]
    · have hfit : nanoseconds / nanosecondsPerSecond * clock.sampleRate ≤ maximumFrame :=
        (Nat.le_div_iff_mul_le clock.sampleRate_pos).mp (Nat.le_of_not_lt hseconds)
      have hremaining := Nat.mod_lt nanoseconds nanosecondsPerSecond_pos
      have hproduct : nanoseconds % nanosecondsPerSecond * clock.sampleRate < 2 ^ 64 :=
        calc nanoseconds % nanosecondsPerSecond * clock.sampleRate
            ≤ nanosecondsPerSecond * 2 ^ 32 := Nat.mul_le_mul hremaining.le hrate.le
          _ < 2 ^ 64 := by decide
      have hwhole := Nat.lt_of_le_of_lt hfit maximumFrame_lt
      rw [if_neg hseconds, if_neg hseconds, mul64_of_lt hwhole, Word.mul64_of_lt hwhole,
        some_bind, mul64_of_lt hproduct, Word.mul64_of_lt hproduct, some_bind,
        sub64_of_le hfit maximumFrame_lt]
      dsimp only
      rw [Word.sub64_of_le hfit maximumFrame_lt, some_bind]
      generalize nanoseconds % nanosecondsPerSecond * clock.sampleRate / nanosecondsPerSecond =
        partialFrames
      split_ifs with htotal
      · rfl
      · have hmaximum : maximumFrame = 2 ^ 64 - 1 := rfl
        have hsum : nanoseconds / nanosecondsPerSecond * clock.sampleRate + partialFrames <
            2 ^ 64 := by omega
        rw [add64_of_lt hsum, some_bind, Word.add64_of_lt hsum]

/-- The offset of a frame, as the exact quotient rounded up. -/
theorem frameNanoseconds_eq_ceil (clock : PlaybackClock) (frame : Nat) :
    clock.frameNanoseconds frame = ⌈(frame * nanosecondsPerSecond / clock.sampleRate : ℚ)⌉₊ :=
  rescaleUp_eq_ceil clock.sampleRate_pos

/-- The frames within some nanoseconds, as the exact quotient rounded down. -/
theorem elapsedFrames_eq_floor (clock : PlaybackClock) (nanoseconds : Nat) :
    clock.elapsedFrames nanoseconds =
      ⌊(nanoseconds * clock.sampleRate / nanosecondsPerSecond : ℚ)⌋₊ :=
  rescaleDown_eq_floor

/-- A frame is refused for its offset or for its time, in this order. -/
theorem frameToTimestamp_eq_ite (clock : PlaybackClock) (frame : Nat) :
    clock.frameToTimestamp frame =
      if maximumDuration < clock.frameNanoseconds frame then
        .error "Playback duration exceeds the supported range"
      else if (maximumDuration : Int) < clock.startTime + clock.frameNanoseconds frame then
        .error "Playback timestamp exceeds the supported range"
      else .ok (clock.startTime + clock.frameNanoseconds frame) := by
  unfold frameToTimestamp
  rw [frameToDuration_eq_ite]
  by_cases hlong : maximumDuration < clock.frameNanoseconds frame
  · rw [if_pos hlong, if_neg (Nat.not_le_of_lt hlong)]
    rfl
  · rw [if_neg hlong, if_pos (Nat.le_of_not_lt hlong)]
    simp only [bind, Except.bind]
    congr 1
    rw [gt_iff_lt, sub_lt_iff_lt_add, add_comm]

/-- The clock arithmetic never wraps. A frame has the exact time, rounded up, and
is refused exactly if its offset or its time is out of range; a time has the
exact frame, rounded down, and is refused exactly if that frame is out of range. -/
theorem clock_exact (clock : PlaybackClock) (hstart : Signed clock.startTime) :
    (∀ frame < 2 ^ 64,
      clock.frameToTimestampChecked frame = some (clock.frameToTimestamp frame) ∧
      clock.frameToTimestamp frame =
        let offset := ⌈(frame * nanosecondsPerSecond / clock.sampleRate : ℚ)⌉₊
        if 2 ^ 63 - 1 < offset then .error "Playback duration exceeds the supported range"
        else if 2 ^ 63 - 1 < clock.startTime + offset then
          .error "Playback timestamp exceeds the supported range"
        else .ok (clock.startTime + offset)) ∧
    (∀ timestamp, Signed timestamp → Signed (timestamp - clock.startTime) →
      clock.timestampToFrameChecked timestamp = some (clock.timestampToFrame timestamp) ∧
      clock.timestampToFrame timestamp =
        if timestamp ≤ clock.startTime then .ok 0
        else
          let frames :=
            ⌊((timestamp - clock.startTime : Int) * clock.sampleRate / nanosecondsPerSecond : ℚ)⌋₊
          if 2 ^ 64 - 1 < frames then .error "Playback frame exceeds the supported range"
          else .ok frames) := by
  constructor
  · intro frame _
    constructor
    · exact frameToTimestampChecked_eq hstart
    · dsimp only
      rw [frameToTimestamp_eq_ite, frameNanoseconds_eq_ceil]
      rfl
  · intro timestamp _ helapsed
    constructor
    · exact timestampToFrameChecked_eq helapsed
    · split_ifs with hbefore
      · unfold timestampToFrame
        rw [if_pos hbefore]
      · have hcast : ((timestamp - clock.startTime).toNat : ℚ) = (timestamp - clock.startTime : Int) := by
          have hnonneg : 0 ≤ timestamp - clock.startTime := by omega
          exact_mod_cast Int.toNat_of_nonneg hnonneg
        rw [timestampToFrame_eq, elapsedFrames_eq_floor]
        unfold elapsedAt
        dsimp only
        rw [hcast]
        generalize ⌊((timestamp - clock.startTime : Int) * clock.sampleRate /
          nanosecondsPerSecond : ℚ)⌋₊ = frames
        by_cases hmany : frames ≤ maximumFrame
        · have hfit : ¬ 2 ^ 64 - 1 < frames := Nat.not_lt_of_le hmany
          rw [if_pos hmany, if_neg hfit]
        · have hover : 2 ^ 64 - 1 < frames := Nat.lt_of_not_le hmany
          rw [if_neg hmany, if_pos hover]

theorem clock_exact_compactDisc :
    compactDisc.frameToTimestampChecked 1 = some (compactDisc.frameToTimestamp 1) := by
  have hstart : Signed compactDisc.startTime := by decide
  exact ((clock_exact compactDisc hstart).1 1 (by decide)).1

end SyncAudio.PlaybackClock
