import Mathlib.Data.Rat.Floor
import SyncAudio.Core.JitterBuffer
import SyncAudio.Lib.LabelledRun
import SyncAudio.Lib.Rounding

/-!
# The player of the desktop client

The device callback renders in chunks of at most 256 frames. It reads each chunk
from the jitter buffer, interpolates between neighbouring frames and advances a
cursor with a fractional part. The receiver thread pushes packets at any time in
between. What the next push expires is decided by the end of the last read, so
that end must never lie behind the cursor.

## Implementation notes

Doubles are rational numbers and the steps on them exact. A read and the advance
behind it are two steps, so that pushes may come in between.
-/

namespace SyncAudio

open Word LabelledRun

/-- A ratio that the drift corrector may ask for. -/
structure CorrectionRatio where
  value : ℚ
  ge_value : 1 - 500 / 1000000 ≤ value
  value_le : value ≤ 1 + 500 / 1000000

namespace CorrectionRatio

def one : CorrectionRatio := ⟨1, by norm_num, by norm_num⟩

/-- The change of the ratio in one callback. -/
def change (ratio target : CorrectionRatio) : ℚ :=
  max (-(2 / 100000)) (min (target.value - ratio.value) (2 / 100000))

theorem change_between (ratio target : CorrectionRatio) :
    min ratio.value target.value ≤ ratio.value + ratio.change target ∧
      ratio.value + ratio.change target ≤ max ratio.value target.value := by
  unfold change
  rcases le_total ratio.value target.value with hle | hle
  · rw [min_eq_left hle, max_eq_right hle, max_eq_right (by
      refine le_min ?_ ?_
      · linarith
      · norm_num)]
    have hupper := min_le_left (target.value - ratio.value) (2 / 100000)
    have hlower : 0 ≤ min (target.value - ratio.value) (2 / 100000) :=
      le_min (by linarith) (by norm_num)
    exact ⟨by linarith, by linarith⟩
  · rw [min_eq_right hle, max_eq_left hle, min_eq_left (by linarith)]
    have hlower := le_max_right (-(2 / 100000)) (target.value - ratio.value)
    have hupper : max (-(2 / 100000)) (target.value - ratio.value) ≤ 0 :=
      max_le (by norm_num) (by linarith)
    exact ⟨by linarith, by linarith⟩

theorem ge_toward (ratio target : CorrectionRatio) :
    1 - 500 / 1000000 ≤ ratio.value + ratio.change target :=
  (le_min ratio.ge_value target.ge_value).trans (change_between ratio target).1

theorem toward_le (ratio target : CorrectionRatio) :
    ratio.value + ratio.change target ≤ 1 + 500 / 1000000 :=
  (change_between ratio target).2.trans (max_le ratio.value_le target.value_le)

/-- The ratio after one callback, which limits the change to 20 ppm. -/
def toward (ratio target : CorrectionRatio) : CorrectionRatio :=
  ⟨ratio.value + ratio.change target, ge_toward ratio target, toward_le ratio target⟩

theorem value_pos (ratio : CorrectionRatio) : 0 < ratio.value := by
  have := ratio.ge_value
  linarith

end CorrectionRatio

/-- The cursor: a source frame and the part of a frame behind it. -/
structure SourcePosition where
  sourceFrame : Nat
  sourceFraction : ℚ
  fraction_nonneg : 0 ≤ sourceFraction
  fraction_lt_one : sourceFraction < 1

namespace SourcePosition

/-- The start of a frame. -/
def atFrame (frame : Nat) : SourcePosition := ⟨frame, 0, le_refl 0, zero_lt_one⟩

/-- The position after some output frames, relative to the source frame. -/
def nextPosition (position : SourcePosition) (chunkFrames : Nat) (ratio : CorrectionRatio) : ℚ :=
  position.sourceFraction + chunkFrames * ratio.value

def advancedFrames (position : SourcePosition) (chunkFrames : Nat) (ratio : CorrectionRatio) : Nat :=
  ⌊position.nextPosition chunkFrames ratio⌋₊

theorem nextPosition_nonneg (position : SourcePosition) (chunkFrames : Nat)
    (ratio : CorrectionRatio) : 0 ≤ position.nextPosition chunkFrames ratio :=
  add_nonneg position.fraction_nonneg (mul_nonneg (Nat.cast_nonneg _) ratio.value_pos.le)

theorem advanced_nonneg (position : SourcePosition) (chunkFrames : Nat) (ratio : CorrectionRatio) :
    0 ≤ position.nextPosition chunkFrames ratio - position.advancedFrames chunkFrames ratio :=
  sub_nonneg.mpr (Nat.floor_le (position.nextPosition_nonneg chunkFrames ratio))

theorem advanced_lt_one (position : SourcePosition) (chunkFrames : Nat) (ratio : CorrectionRatio) :
    position.nextPosition chunkFrames ratio - position.advancedFrames chunkFrames ratio < 1 :=
  sub_lt_iff_lt_add'.mpr (Nat.lt_floor_add_one _)

/-- The cursor after a chunk. -/
def advance (position : SourcePosition) (chunkFrames : Nat) (ratio : CorrectionRatio) :
    SourcePosition where
  sourceFrame := add64 position.sourceFrame (position.advancedFrames chunkFrames ratio)
  sourceFraction :=
    position.nextPosition chunkFrames ratio - position.advancedFrames chunkFrames ratio
  fraction_nonneg := position.advanced_nonneg chunkFrames ratio
  fraction_lt_one := position.advanced_lt_one chunkFrames ratio

/-- The frames a chunk reads: those it passes, and two more to interpolate. -/
def sourceFrames (position : SourcePosition) (chunkFrames : Nat) (ratio : CorrectionRatio) : Nat :=
  position.advancedFrames chunkFrames ratio + 2

/-- A chunk reads at most 259 frames, fewer than the player has allocated. -/
theorem sourceFrames_le (position : SourcePosition) {chunkFrames : Nat} (hchunk : chunkFrames ≤ 256)
    (ratio : CorrectionRatio) : position.sourceFrames chunkFrames ratio ≤ 259 := by
  have hframes : (chunkFrames : ℚ) ≤ 256 := by exact_mod_cast hchunk
  have hnext : position.nextPosition chunkFrames ratio < 258 := by
    calc
      position.nextPosition chunkFrames ratio
        = position.sourceFraction + chunkFrames * ratio.value := rfl
      _ ≤ position.sourceFraction + 256 * (1 + 500 / 1000000) := by
          gcongr
          · exact ratio.value_pos.le
          · exact ratio.value_le
      _ < 258 := by linarith [position.fraction_lt_one]
  have hfloor : position.advancedFrames chunkFrames ratio < 258 :=
    (Nat.floor_lt (position.nextPosition_nonneg chunkFrames ratio)).mpr (by exact_mod_cast hnext)
  unfold sourceFrames
  omega

end SourcePosition

/-- A chunk that has been read. -/
structure Chunk where
  chunkFrames : Nat
  sourceFrames : Nat
  copiedFrames : Nat
  /-- Whether the read obtained the lock. -/
  locked : Bool

/-- A callback that is rendering. -/
structure DataCallback where
  frameCount : Nat
  outputStart : Nat := 0
  samples : List Int16 := []
  chunk : Option Chunk := none

structure ScheduledStreamPlayer where
  channelCount : UInt16
  sourceSamples : List Int16
  position : SourcePosition := .atFrame 0
  ratio : CorrectionRatio := .one
  targetRatio : CorrectionRatio := .one
  actualRatio : CorrectionRatio := .one
  currentFrame : Nat := 0
  startTime : Int := 0
  scheduled : Bool := false
  started : Bool := false
  startLatenessNanoseconds : Int := 0
  underrunFrames : Nat := 0
  callback : Option DataCallback := none
  /-- What the last callback gave the device. -/
  output : List Int16 := []

namespace ScheduledStreamPlayer

def chunkLimit : Nat := 256

/-- The constructor. -/
def construct (format : JitterBufferFormat) : ScheduledStreamPlayer where
  channelCount := format.channelCount
  sourceSamples := List.replicate (260 * format.channelCount.toNat) 0

def schedule (player : ScheduledStreamPlayer) (startFrame : Nat) (startTime : Int) :
    ScheduledStreamPlayer :=
  { player with
    currentFrame := startFrame
    position := { player.position with sourceFrame := startFrame }
    startTime
    scheduled := true }

/-- The callback leaves its loop. -/
def finish (player : ScheduledStreamPlayer) (samples : List Int16) : ScheduledStreamPlayer :=
  { player with
    currentFrame := player.position.sourceFrame
    callback := none
    output := samples }

/-- The callback up to its loop. -/
def dataCallback (player : ScheduledStreamPlayer) (frameCount : UInt32) (currentTime : Int) :
    ScheduledStreamPlayer :=
  if !player.started && currentTime < player.startTime then
    { player with
      output := List.replicate (frameCount.toNat * player.channelCount.toNat) 0 }
  else
    let started :=
      if player.started then player
      else { player with
        startLatenessNanoseconds := currentTime - player.startTime
        started := true }
    let ratio := started.ratio.toward started.targetRatio
    let rendering := { started with ratio, actualRatio := ratio }
    if frameCount = 0 then rendering.finish []
    else { rendering with callback := some { frameCount := frameCount.toNat } }

/-- The output frames of the next chunk. -/
def chunkFrames (callback : DataCallback) : Nat :=
  min chunkLimit (callback.frameCount - callback.outputStart)

/-- One output sample of a chunk. -/
def interpolate (player : ScheduledStreamPlayer) (outputFrame channel : Nat) : Int16 :=
  let sourcePosition := player.position.nextPosition outputFrame player.ratio
  let index := ⌊sourcePosition⌋₊
  let fraction := sourcePosition - index
  let channels := player.channelCount.toNat
  let left : ℚ := (player.sourceSamples.getD (index * channels + channel) 0).toInt
  let right : ℚ := (player.sourceSamples.getD ((index + 1) * channels + channel) 0).toInt
  Int16.ofInt (lround ((1 - fraction) * left + fraction * right))

/-- The samples of a chunk. -/
def render (player : ScheduledStreamPlayer) (chunkFrames : Nat) : List Int16 :=
  (List.range chunkFrames).flatMap fun outputFrame =>
    (List.range player.channelCount.toNat).map fun channel => player.interpolate outputFrame channel

/-- The part of the loop body behind the read. `latestEndFrame` is the value that
the callback loads from the buffer. -/
def advance (player : ScheduledStreamPlayer) (callback : DataCallback) (chunk : Chunk)
    (latestEndFrame : Nat) : ScheduledStreamPlayer :=
  let currentFrame := player.position.sourceFrame
  let knownFrames :=
    if latestEndFrame > currentFrame then min chunk.sourceFrames (latestEndFrame - currentFrame)
    else 0
  let samples := callback.samples ++ player.render chunk.chunkFrames
  let outputStart := callback.outputStart + chunk.chunkFrames
  let advanced := { player with
    underrunFrames :=
      if chunk.copiedFrames < knownFrames then
        player.underrunFrames + (knownFrames - chunk.copiedFrames)
      else player.underrunFrames
    position := player.position.advance chunk.chunkFrames player.ratio }
  if outputStart < callback.frameCount then
    { advanced with
      callback := some { frameCount := callback.frameCount, outputStart, samples } }
  else advanced.finish samples

end ScheduledStreamPlayer

/-- The jitter buffer of a client with its player. -/
structure ClientPlayback where
  jitterBuffer : JitterBuffer := {}
  player : Option ScheduledStreamPlayer := none
  /-- The packets that were accepted and that no overflow erased before they expired. -/
  kept : List (Nat × BufferedPacket) := []

namespace ClientPlayback

/-- The steps of the receiver thread, of `run` and of the device thread. -/
inductive Action where
  | push (arrival : Int) (packet : AudioPacket)
  | construct
  | schedule (hostThreshold : Nat) (startTime : Int)
  | setCorrectionRatio (ratio : CorrectionRatio)
  | dataCallback (frameCount : UInt32) (currentTime : Int)
  | read (locked : Bool)
  | advance

/-- The packets that are kept after a push. An eviction does not concern a packet
that had already expired. -/
def keptAfter (jb : JitterBuffer) (kept : List (Nat × BufferedPacket)) (packet : AudioPacket)
    (result : JitterBuffer.PushResult) : List (Nat × BufferedPacket) :=
  (match result.returned with
    | .ok true => (packet.startFrame.toNat, JitterBuffer.bufferedPacket packet) :: kept
    | _ => kept).filter fun e =>
      result.evicted ≠ some e.1 ∨ e.2.endFrame ≤ jb.latestReadFrame

def push (s : ClientPlayback) (arrival : Int) (packet : AudioPacket) : ClientPlayback :=
  let result := s.jitterBuffer.push arrival packet
  { s with
    jitterBuffer := result.buffer
    kept := keptAfter s.jitterBuffer s.kept packet result }

/-- The read of the next chunk; none if it throws. -/
def read (s : ClientPlayback) (player : ScheduledStreamPlayer) (callback : DataCallback)
    (locked : Bool) : Option ClientPlayback :=
  let chunkFrames := ScheduledStreamPlayer.chunkFrames callback
  let sourceFrames := player.position.sourceFrames chunkFrames player.ratio
  let result := s.jitterBuffer.readFrames player.position.sourceFrame
    (sourceFrames * player.channelCount.toNat) true locked
  match result.returned with
  | .error _ => none
  | .ok copiedFrames =>
      some { s with
        jitterBuffer := result.buffer
        player := some { player with
          sourceSamples := result.interleavedOutput ++
            player.sourceSamples.drop result.interleavedOutput.length
          callback := some { callback with
            chunk := some { chunkFrames, sourceFrames, copiedFrames, locked } } } }

def step (s : ClientPlayback) : Action → Option ClientPlayback
  | .push arrival packet => some (s.push arrival packet)
  | .construct =>
      match s.player, s.jitterBuffer.format with
      | none, some format => some { s with player := some (.construct format) }
      | _, _ => none
  | .schedule hostThreshold startTime =>
      match s.player, s.jitterBuffer.firstPacketAtOrAfter hostThreshold with
      | some player, some startPacket =>
          if player.scheduled then none
          else some { s with player := some (player.schedule startPacket.startFrame startTime) }
      | _, _ => none
  | .setCorrectionRatio ratio =>
      s.player.map fun player => { s with player := some { player with targetRatio := ratio } }
  | .dataCallback frameCount currentTime =>
      match s.player with
      | none => none
      | some player =>
          if player.scheduled && player.callback.isNone then
            some { s with player := some (player.dataCallback frameCount currentTime) }
          else none
  | .read locked =>
      match s.player with
      | none => none
      | some player =>
          match player.callback with
          | none => none
          | some callback => if callback.chunk.isNone then s.read player callback locked else none
  | .advance =>
      match s.player with
      | none => none
      | some player =>
          match player.callback with
          | none => none
          | some callback =>
              match callback.chunk with
              | none => none
              | some chunk =>
                  some { s with
                    player := some
                      (player.advance callback chunk s.jitterBuffer.latestEndFrameAtomic) }

/-- What the steps do, one case each. -/
inductive Steps (s : ClientPlayback) : Action → ClientPlayback → Prop
  | push (arrival : Int) (packet : AudioPacket) :
      Steps s (.push arrival packet) (s.push arrival packet)
  | construct {format : JitterBufferFormat} (hplayer : s.player = none)
      (hformat : s.jitterBuffer.format = some format) :
      Steps s .construct { s with player := some (.construct format) }
  | schedule {hostThreshold : Nat} {startTime : Int} (player : ScheduledStreamPlayer)
      {startPacket : BufferedPacketTiming} (hplayer : s.player = some player)
      (hpacket : s.jitterBuffer.firstPacketAtOrAfter hostThreshold = some startPacket)
      (hscheduled : player.scheduled = false) :
      Steps s (.schedule hostThreshold startTime)
        { s with player := some (player.schedule startPacket.startFrame startTime) }
  | setCorrectionRatio (ratio : CorrectionRatio) (player : ScheduledStreamPlayer)
      (hplayer : s.player = some player) :
      Steps s (.setCorrectionRatio ratio)
        { s with player := some { player with targetRatio := ratio } }
  | dataCallback (frameCount : UInt32) (currentTime : Int) {player : ScheduledStreamPlayer}
      (hplayer : s.player = some player) (hscheduled : player.scheduled = true)
      (hidle : player.callback = none) :
      Steps s (.dataCallback frameCount currentTime)
        { s with player := some (player.dataCallback frameCount currentTime) }
  | read (locked : Bool) {player : ScheduledStreamPlayer} {callback : DataCallback}
      {t : ClientPlayback} (hplayer : s.player = some player)
      (hcallback : player.callback = some callback) (hchunk : callback.chunk = none)
      (hread : s.read player callback locked = some t) : Steps s (.read locked) t
  | advance {player : ScheduledStreamPlayer} {callback : DataCallback} {chunk : Chunk}
      (hplayer : s.player = some player) (hcallback : player.callback = some callback)
      (hchunk : callback.chunk = some chunk) :
      Steps s .advance { s with
        player := some (player.advance callback chunk s.jitterBuffer.latestEndFrameAtomic) }

theorem steps_of_step {s t : ClientPlayback} {action : Action} (h : s.step action = some t) :
    Steps s action t := by
  unfold step at h
  split at h
  · cases h
    constructor
  · split at h
    · cases h
      exact .construct ‹_› ‹_›
    · cases h
  · split at h
    · split_ifs at h with hscheduled
      cases h
      exact .schedule _ ‹_› ‹_› (Bool.eq_false_iff.mpr hscheduled)
    · cases h
  · obtain ⟨player, hplayer, rfl⟩ := Option.map_eq_some_iff.mp h
    exact .setCorrectionRatio _ player hplayer
  · split at h
    · cases h
    · simp only [Bool.and_eq_true, Option.isNone_iff_eq_none] at h
      split_ifs at h with hready
      cases h
      exact .dataCallback _ _ ‹_› hready.1 hready.2
  · split at h
    · cases h
    · split at h
      · cases h
      · simp only [Option.isNone_iff_eq_none] at h
        split_ifs at h with hchunk
        exact .read _ ‹_› ‹_› hchunk h
  · split at h
    · cases h
    · split at h
      · cases h
      · split at h
        · cases h
        · cases h
          exact .advance ‹_› ‹_› ‹_›

end ClientPlayback

end SyncAudio
