import SyncAudio.Core.JitterBufferReads
import SyncAudio.Desktop.ScheduledStreamPlayer

/-!
# The underrun counter

The player compares the number a read returns with the number of frames it knows
to exist, and takes the rest for silence. The number adds up copies, so it is the
number of frames with sound only where no two held packets overlap.
-/

namespace SyncAudio.JitterBuffer

/-- The requested frames below the end of the stream that no held packet covers. -/
def silentFrames (jb : JitterBuffer) (startFrame requestedFrames latestEndFrame : Nat) : Nat :=
  ((Finset.range requestedFrames).filter fun i =>
    startFrame + i < latestEndFrame ∧ ¬ 0 < jb.coverage (startFrame + i)).card

/-- The number that a read returned is the number of requested frames with sound, and
the player that continues with it counts every silent frame below the end of the stream. -/
structure CountsCovered (jb : JitterBuffer) (startFrame requestedFrames returned : Nat) :
    Prop where
  returned_eq : returned = jb.coveredFrames startFrame requestedFrames
  returned_le : returned ≤ requestedFrames
  underrunFrames_eq : ∀ (player : ScheduledStreamPlayer) (callback : DataCallback) (chunk : Chunk),
    player.position.sourceFrame = startFrame → chunk.sourceFrames = requestedFrames →
      chunk.copiedFrames = returned → ∀ latestEndFrame ≥ jb.latestEndFrameAtomic,
        (player.advance callback chunk latestEndFrame).underrunFrames =
          player.underrunFrames + jb.silentFrames startFrame requestedFrames latestEndFrame

@[simp] theorem finish_underrunFrames (player : ScheduledStreamPlayer) (samples : List Int16) :
    (player.finish samples).underrunFrames = player.underrunFrames := rfl

/-- What a chunk adds to the counter. -/
theorem advance_underrunFrames (player : ScheduledStreamPlayer) (callback : DataCallback)
    (chunk : Chunk) (latestEndFrame : Nat) :
    (player.advance callback chunk latestEndFrame).underrunFrames = player.underrunFrames +
      (min chunk.sourceFrames (latestEndFrame - player.position.sourceFrame) -
        chunk.copiedFrames) := by
  have hknown : (if latestEndFrame > player.position.sourceFrame then
      min chunk.sourceFrames (latestEndFrame - player.position.sourceFrame) else 0) =
        min chunk.sourceFrames (latestEndFrame - player.position.sourceFrame) := by
    split_ifs
    · rfl
    · omega
  unfold ScheduledStreamPlayer.advance
  dsimp only
  rw [hknown, apply_ite ScheduledStreamPlayer.underrunFrames, finish_underrunFrames, ite_self]
  dsimp only
  split_ifs
  · rfl
  · omega

/-- The frames a read leaves silent below the end of the stream. -/
theorem silentFrames_eq (operations : List Operation) (startFrame requestedFrames : Nat)
    {latestEndFrame : Nat}
    (hlatest : latestEndFrame ≥ (History.after operations).buffer.latestEndFrameAtomic) :
    (History.after operations).buffer.silentFrames startFrame requestedFrames latestEndFrame =
      min requestedFrames (latestEndFrame - startFrame) -
        (History.after operations).buffer.coveredFrames startFrame requestedFrames := by
  apply Coverage.card_uncovered
  intro e he
  rw [(represents_after operations).atomic_eq] at hlatest
  exact (endFrame_le_latestEndFrame operations e he).trans hlatest

/-- After every sequence of pushes and reads, an aligned read with the lock counts the
covered frames exactly when no requested frame is covered by two held packets. -/
theorem counts_covered_iff (operations : List Operation) (startFrame : UInt64)
    {outputSize channels : Nat} (retainLookahead : Bool)
    (hchannels : ∀ format ∈ (History.after operations).buffer.format,
      format.channelCount.toNat = channels)
    (haligned : outputSize % channels = 0)
    (hend : startFrame.toNat + outputSize / channels < 2 ^ 64) :
    (∃ returned,
        ((History.after operations).buffer.readFrames startFrame.toNat outputSize retainLookahead
          true).returned = .ok returned ∧
        (History.after operations).buffer.CountsCovered startFrame.toNat (outputSize / channels)
          returned) ↔
      ∀ i < outputSize / channels,
        (History.after operations).buffer.coverage (startFrame.toNat + i) ≤ 1 := by
  rw [readFrames_returned operations retainLookahead hchannels haligned hend]
  have hsum := @Coverage.sum_overlap_eq_covered_iff _ entryStart entryEnd
    (History.after operations).buffer.packets.entries startFrame.toNat (outputSize / channels)
  constructor
  · rintro ⟨returned, hreturned, hcounts⟩
    apply hsum.mp
    rw [Except.ok.inj hreturned]
    exact hcounts.returned_eq
  · intro hsingle
    have hcovered := hsum.mpr hsingle
    refine ⟨_, rfl, ⟨hcovered, ?_, ?_⟩⟩
    · rw [hcovered]
      exact Coverage.covered_le _ _ _
    · intro player callback chunk hstart hframes hcopied latestEndFrame hlatest
      rw [advance_underrunFrames, silentFrames_eq operations _ _ hlatest, hstart, hframes, hcopied,
        hcovered]
      rfl

/-- Two packets of four frames, two frames apart. -/
def gappedPushes : List Operation :=
  [{ sampleRate := 48000, channelCount := 1, startFrame := 0, frameCount := 4,
     pcmPayload := [1, 0, 2, 0, 3, 0, 4, 0] },
   { sampleRate := 48000, channelCount := 1, startFrame := 6, frameCount := 4,
     pcmPayload := [5, 0, 6, 0, 7, 0, 8, 0] }].map (Operation.push 0)

/-- A read over the gap and beyond the last packet returns the eight frames there are. -/
theorem counts_covered_gap :
    ((History.after gappedPushes).buffer.readFrames (0 : UInt64).toNat 12 true true).returned =
        .ok 8 ∧
      (History.after gappedPushes).buffer.CountsCovered (0 : UInt64).toNat (12 / 1) 8 ∧
      (History.after gappedPushes).buffer.silentFrames 0 12 10 = 2 := by
  obtain ⟨returned, hreturned, hcounts⟩ :=
    (@counts_covered_iff gappedPushes 0 12 1 true (by rintro _ ⟨⟩; rfl) rfl
      (by decide)).mpr (by decide)
  have height : ((History.after gappedPushes).buffer.readFrames (0 : UInt64).toNat 12 true
      true).returned = .ok 8 := rfl
  have hsame : returned = 8 := Except.ok.inj (hreturned.symm.trans height)
  refine ⟨height, hsame ▸ hcounts, ?_⟩
  decide

/-- Two frames are covered twice: the read of six frames returns eight. -/
theorem overlap_counted_twice :
    ¬ ∃ returned,
      ((History.after overlappingPushes).buffer.readFrames (0 : UInt64).toNat 6 true
        true).returned = .ok returned ∧
      (History.after overlappingPushes).buffer.CountsCovered (0 : UInt64).toNat 6 returned := by
  rintro ⟨returned, hreturned, hcounts⟩
  have height : ((History.after overlappingPushes).buffer.readFrames (0 : UInt64).toNat 6 true
      true).returned = .ok 8 := rfl
  rw [height] at hreturned
  have hle := hcounts.returned_le
  rw [← Except.ok.inj hreturned] at hle
  exact absurd hle (by decide)

end SyncAudio.JitterBuffer
