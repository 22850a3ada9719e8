import SyncAudio.Core.JitterBufferReads
import SyncAudio.Desktop.PlaybackCursor

/-!
# The bounds of the resampler

The callback interpolates without checking an index. It need not: the ratio the
drift corrector asks for is bounded, the fraction of the cursor is below one, and
so a chunk requests all the frames it interpolates between and no more than the
player has allocated. What it computes lies between two samples and fits one.
-/

namespace SyncAudio

open LabelledRun

namespace GradualDriftCorrector

def maximumCorrectionPpm : ℚ := 500

def correctionPpm (driftPpm bufferErrorMs : ℚ) : ℚ :=
  max (-maximumCorrectionPpm) (min (driftPpm + 20 * bufferErrorMs) maximumCorrectionPpm)

theorem le_correctionPpm (driftPpm bufferErrorMs : ℚ) :
    -maximumCorrectionPpm ≤ correctionPpm driftPpm bufferErrorMs := le_max_left _ _

theorem correctionPpm_le (driftPpm bufferErrorMs : ℚ) :
    correctionPpm driftPpm bufferErrorMs ≤ maximumCorrectionPpm :=
  max_le (by norm_num [maximumCorrectionPpm]) (min_le_right _ _)

/-- The ratio the corrector asks for; `none` is a value that is not finite. -/
def correctionRatio : Option ℚ → Option ℚ → CorrectionRatio
  | some driftPpm, some bufferErrorMs =>
      { value := 1 + correctionPpm driftPpm bufferErrorMs / 1000000
        ge_value := by
          have hlow := le_correctionPpm driftPpm bufferErrorMs
          unfold maximumCorrectionPpm at hlow
          linarith
        value_le := by
          have hhigh := correctionPpm_le driftPpm bufferErrorMs
          unfold maximumCorrectionPpm at hhigh
          linarith }
  | _, _ => .one

/-- Every ratio of the range is one that the corrector may ask for. -/
theorem exists_correctionRatio_eq (ratio : CorrectionRatio) :
    ∃ driftPpm bufferErrorMs, correctionRatio driftPpm bufferErrorMs = ratio := by
  obtain ⟨value, hlow, hhigh⟩ := ratio
  refine ⟨some ((value - 1) * 1000000), some 0, ?_⟩
  have hppm : correctionPpm ((value - 1) * 1000000) 0 = (value - 1) * 1000000 := by
    unfold correctionPpm maximumCorrectionPpm
    rw [min_eq_left (by linarith), max_eq_right (by linarith)]
    ring
  simp only [correctionRatio, hppm, CorrectionRatio.mk.injEq]
  ring

end GradualDriftCorrector

theorem CorrectionRatio.abs_change_le (ratio target : CorrectionRatio) :
    |ratio.change target| ≤ 2 / 100000 := by
  unfold change
  apply abs_le.mpr
  constructor
  · exact le_max_left _ _
  · exact max_le (by norm_num) (min_le_right _ _)

section Interpolation

variable {fraction low high : ℚ}

/-- A value between two others, at a fraction of the way. -/
theorem interpolation_mem {left right : ℚ} (hfraction : 0 ≤ fraction) (hone : fraction ≤ 1)
    (hleft : low ≤ left ∧ left ≤ high) (hright : low ≤ right ∧ right ≤ high) :
    low ≤ (1 - fraction) * left + fraction * right ∧
      (1 - fraction) * left + fraction * right ≤ high := by
  have hrest : 0 ≤ 1 - fraction := sub_nonneg.mpr hone
  constructor
  · calc low = (1 - fraction) * low + fraction * low := by ring
      _ ≤ (1 - fraction) * left + fraction * right := by
          gcongr
          · exact hleft.1
          · exact hright.1
  · calc (1 - fraction) * left + fraction * right
        ≤ (1 - fraction) * high + fraction * high := by
          gcongr
          · exact hleft.2
          · exact hright.2
      _ = high := by ring

theorem int16_mem (sample : Int16) :
    (-32768 : ℚ) ≤ sample.toInt ∧ (sample.toInt : ℚ) ≤ 32767 := by
  have hlow := sample.le_toInt
  have hhigh := sample.toInt_lt
  constructor
  · exact_mod_cast hlow
  · exact_mod_cast Int.lt_add_one_iff.mp hhigh

end Interpolation

namespace ScheduledStreamPlayer

variable (player : ScheduledStreamPlayer)

/-- The source frame to the left of an output frame, counted from the cursor. -/
def sourceIndex (outputFrame : Nat) : Nat :=
  ⌊player.position.nextPosition outputFrame player.ratio⌋₊

/-- An output sample, before it is rounded. -/
def interpolatedValue (outputFrame channel : Nat) : ℚ :=
  let fraction := player.position.nextPosition outputFrame player.ratio -
    player.sourceIndex outputFrame
  let channels := player.channelCount.toNat
  let index := player.sourceIndex outputFrame
  let left : ℚ := (player.sourceSamples.getD (index * channels + channel) 0).toInt
  let right : ℚ := (player.sourceSamples.getD ((index + 1) * channels + channel) 0).toInt
  (1 - fraction) * left + fraction * right

theorem interpolate_eq (outputFrame channel : Nat) :
    player.interpolate outputFrame channel =
      Int16.ofInt (lround (player.interpolatedValue outputFrame channel)) := rfl

/-- An interpolated sample fits, so the conversion keeps its value. -/
theorem toInt_interpolate (outputFrame channel : Nat) :
    (player.interpolate outputFrame channel).toInt =
      lround (player.interpolatedValue outputFrame channel) := by
  have hnonneg := player.position.nextPosition_nonneg outputFrame player.ratio
  have hfraction := sub_nonneg.mpr (Nat.floor_le hnonneg)
  have hone := (sub_lt_iff_lt_add'.mpr
    (Nat.lt_floor_add_one (player.position.nextPosition outputFrame player.ratio))).le
  obtain ⟨hlow, hhigh⟩ := interpolation_mem hfraction hone
    (int16_mem (player.sourceSamples.getD
      (player.sourceIndex outputFrame * player.channelCount.toNat + channel) 0))
    (int16_mem (player.sourceSamples.getD
      ((player.sourceIndex outputFrame + 1) * player.channelCount.toNat + channel) 0))
  obtain ⟨hfloor, hceil⟩ := @lround_mem ℚ _ _ _ _ (player.interpolatedValue outputFrame channel)
    (-32768) 32767 (by exact_mod_cast hlow) (by exact_mod_cast hhigh)
  rw [interpolate_eq]
  exact Int16.toInt_ofInt_of_le hfloor (Int.lt_add_one_iff.mpr hceil)

theorem chunkFrames_le (callback : DataCallback) : chunkFrames callback ≤ 256 := Nat.min_le_left _ _

/-- An output frame of a chunk lies between two frames that the chunk requests. -/
theorem sourceIndex_lt {outputFrame chunkFrames : Nat} (h : outputFrame < chunkFrames) :
    player.sourceIndex outputFrame + 1 <
      player.position.sourceFrames chunkFrames player.ratio := by
  have hle : player.sourceIndex outputFrame ≤
      player.position.advancedFrames chunkFrames player.ratio := by
    apply Nat.floor_le_floor
    unfold SourcePosition.nextPosition
    gcongr
    exact player.ratio.value_pos.le
  unfold SourcePosition.sourceFrames
  omega

end ScheduledStreamPlayer

namespace ClientPlayback

/-- The player has its buffer, and a chunk that has been read is the next chunk. -/
structure PlayerBounded (player : ScheduledStreamPlayer) : Prop where
  sourceFrame_lt : player.position.sourceFrame < 2 ^ 64
  length_eq : player.sourceSamples.length = 260 * player.channelCount.toNat
  chunk : ∀ callback ∈ player.callback, ∀ chunk ∈ callback.chunk,
    chunk.chunkFrames = ScheduledStreamPlayer.chunkFrames callback ∧
      chunk.sourceFrames = player.position.sourceFrames chunk.chunkFrames player.ratio

structure Bounded (s : ClientPlayback) : Prop where
  reachable : ∃ operations, s.jitterBuffer = (JitterBuffer.History.after operations).buffer
  player : ∀ player ∈ s.player, PlayerBounded player

variable {s t : ClientPlayback} {player : ScheduledStreamPlayer}

theorem after_concat (operations : List JitterBuffer.Operation)
    (operation : JitterBuffer.Operation) :
    JitterBuffer.History.after (operations ++ [operation]) =
      (JitterBuffer.History.after operations).perform operation := by
  unfold JitterBuffer.History.after
  rw [List.foldl_append]
  rfl

theorem bounded_empty : Bounded {} := by
  constructor
  · exact ⟨[], rfl⟩
  · intro player hplayer
    exact absurd hplayer (Option.not_mem_none player)

theorem Bounded.withPlayer (h : Bounded s) (hplayer : PlayerBounded player) :
    Bounded { s with player := some player } := by
  constructor
  · exact h.reachable
  · rintro _ ⟨⟩
    exact hplayer

/-- Packets start at 64-bit frames. -/
theorem startFrame_lt (operations : List JitterBuffer.Operation) {hostThreshold : Nat}
    {startPacket : BufferedPacketTiming}
    (h : (JitterBuffer.History.after operations).buffer.firstPacketAtOrAfter hostThreshold =
      some startPacket) : startPacket.startFrame < 2 ^ 64 := by
  obtain ⟨e, hfind, rfl⟩ := Option.map_eq_some_iff.mp h
  have hmem := List.mem_of_find?_eq_some hfind
  have hrepresents := JitterBuffer.represents_after operations
  have hend := hrepresents.end_lt e hmem
  dsimp only
  rw [hrepresents.key_eq e hmem]
  exact (Nat.le_add_right _ _).trans_lt hend

theorem PlayerBounded.dataCallback (h : PlayerBounded player) (hidle : player.callback = none)
    (frameCount : UInt32) (currentTime : Int) :
    PlayerBounded (player.dataCallback frameCount currentTime) := by
  unfold ScheduledStreamPlayer.dataCallback ScheduledStreamPlayer.finish
  dsimp only
  split_ifs
  all_goals
    constructor
    · exact h.sourceFrame_lt
    · exact h.length_eq
    · simp [hidle]

theorem PlayerBounded.advance (h : PlayerBounded player) (callback : DataCallback) (chunk : Chunk)
    (latestEndFrame : Nat) : PlayerBounded (player.advance callback chunk latestEndFrame) := by
  unfold ScheduledStreamPlayer.advance ScheduledStreamPlayer.finish
  dsimp only
  split_ifs
  all_goals
    constructor
    · exact Nat.mod_lt _ (by norm_num)
    · exact h.length_eq
    · simp

/-- A read fills the front of the player's buffer. -/
theorem Bounded.read (h : Bounded s) (hplayer : s.player = some player) {callback : DataCallback}
    {locked : Bool} (hread : s.read player callback locked = some t) : Bounded t := by
  obtain ⟨operations, hreachable⟩ := h.reachable
  have hbounded := h.player player hplayer
  have hframe : (UInt64.ofNat player.position.sourceFrame).toNat = player.position.sourceFrame :=
    UInt64.toNat_ofNat_of_lt' hbounded.sourceFrame_lt
  have hsize : player.position.sourceFrames (ScheduledStreamPlayer.chunkFrames callback)
      player.ratio * player.channelCount.toNat ≤ 260 * player.channelCount.toNat :=
    Nat.mul_le_mul_right _ ((player.position.sourceFrames_le
      (ScheduledStreamPlayer.chunkFrames_le callback) player.ratio).trans (by decide))
  have hlength := (JitterBuffer.represents_after operations).length_output
    player.position.sourceFrame (player.position.sourceFrames
      (ScheduledStreamPlayer.chunkFrames callback) player.ratio * player.channelCount.toNat)
    true locked
  rw [← hreachable] at hlength
  unfold ClientPlayback.read at hread
  dsimp only at hread
  split at hread
  · cases hread
  · cases hread
    constructor
    · refine ⟨operations ++ [.readFrames (UInt64.ofNat player.position.sourceFrame)
        (player.position.sourceFrames (ScheduledStreamPlayer.chunkFrames callback) player.ratio *
          player.channelCount.toNat) true locked], ?_⟩
      rw [after_concat]
      unfold JitterBuffer.History.perform
      dsimp only
      rw [hframe, hreachable]
    · rintro _ ⟨⟩
      constructor
      · exact hbounded.sourceFrame_lt
      · dsimp only
        rw [List.length_append, List.length_drop, hlength, hbounded.length_eq]
        exact Nat.add_sub_of_le hsize
      · rintro _ ⟨⟩ _ ⟨⟩
        exact ⟨rfl, rfl⟩

theorem Bounded.step {action : Action} (h : Bounded s) (hstep : s.step action = some t) :
    Bounded t := by
  cases steps_of_step hstep with
  | push arrival packet =>
      obtain ⟨operations, hreachable⟩ := h.reachable
      constructor
      · refine ⟨operations ++ [.push arrival packet], ?_⟩
        rw [after_concat]
        unfold JitterBuffer.History.perform ClientPlayback.push
        dsimp only
        rw [hreachable]
      · exact h.player
  | construct hplayer hformat =>
      apply h.withPlayer
      constructor
      · exact Nat.two_pow_pos 64
      · exact List.length_replicate
      · exact nofun
  | schedule player hplayer hpacket hscheduled =>
      obtain ⟨operations, hreachable⟩ := h.reachable
      have hbounded := h.player player hplayer
      rw [hreachable] at hpacket
      apply h.withPlayer
      exact ⟨startFrame_lt operations hpacket, hbounded.length_eq, hbounded.chunk⟩
  | setCorrectionRatio ratio player hplayer =>
      have hbounded := h.player player hplayer
      apply h.withPlayer
      exact ⟨hbounded.sourceFrame_lt, hbounded.length_eq, hbounded.chunk⟩
  | dataCallback frameCount currentTime hplayer hscheduled hidle =>
      apply h.withPlayer
      exact (h.player _ hplayer).dataCallback hidle frameCount currentTime
  | read locked hplayer hcallback hchunk hread => exact h.read hplayer hread
  | advance hplayer hcallback hchunk =>
      apply h.withPlayer
      exact (h.player _ hplayer).advance _ _ _

theorem bounded_of_run {actions : List Action} (h : run step {} actions = some s) : Bounded s :=
  run_preserves (fun hbounded hstep => hbounded.step hstep) bounded_empty h

theorem dataCallback_ratio (player : ScheduledStreamPlayer) (frameCount : UInt32)
    (currentTime : Int) :
    (player.dataCallback frameCount currentTime).ratio = player.ratio ∨
      (player.dataCallback frameCount currentTime).ratio =
        player.ratio.toward player.targetRatio := by
  unfold ScheduledStreamPlayer.dataCallback ScheduledStreamPlayer.finish
  dsimp only
  split_ifs
  · exact .inl rfl
  all_goals exact .inr rfl

@[simp] theorem advance_ratio (player : ScheduledStreamPlayer) (callback : DataCallback)
    (chunk : Chunk) (latestEndFrame : Nat) :
    (player.advance callback chunk latestEndFrame).ratio = player.ratio := by
  unfold ScheduledStreamPlayer.advance ScheduledStreamPlayer.finish
  dsimp only
  split_ifs
  all_goals rfl

theorem read_ratio {callback : DataCallback} {locked : Bool} {after : ScheduledStreamPlayer}
    (hread : s.read player callback locked = some t) (hafter : t.player = some after) :
    after.ratio = player.ratio := by
  unfold ClientPlayback.read at hread
  dsimp only at hread
  split at hread
  · cases hread
  · cases hread
    cases hafter
    rfl

/-- Only a callback changes the ratio, and by no more than 20 ppm. -/
theorem ratio_step {action : Action} {after : ScheduledStreamPlayer} (hstep : s.step action = some t)
    (hplayer : s.player = some player) (hafter : t.player = some after) :
    |after.ratio.value - player.ratio.value| ≤ 2 / 100000 ∧
      ((∀ frameCount currentTime, action ≠ .dataCallback frameCount currentTime) →
        after.ratio = player.ratio) := by
  have hsame (heq : after.ratio = player.ratio) :
      |after.ratio.value - player.ratio.value| ≤ 2 / 100000 := by
    rw [heq, sub_self, abs_zero]
    norm_num
  cases steps_of_step hstep with
  | push arrival packet =>
      cases hplayer.symm.trans hafter
      exact ⟨hsame rfl, fun _ => rfl⟩
  | construct hnone hformat =>
      rw [hplayer] at hnone
      cases hnone
  | schedule old hold hpacket hscheduled =>
      cases hplayer.symm.trans hold
      cases hafter
      exact ⟨hsame rfl, fun _ => rfl⟩
  | setCorrectionRatio ratio old hold =>
      cases hplayer.symm.trans hold
      cases hafter
      exact ⟨hsame rfl, fun _ => rfl⟩
  | dataCallback frameCount currentTime hold hscheduled hidle =>
      cases hplayer.symm.trans hold
      cases hafter
      refine ⟨?_, fun hother => absurd rfl (hother frameCount currentTime)⟩
      rcases dataCallback_ratio player frameCount currentTime with heq | heq
      · exact hsame heq
      · rw [heq]
        unfold CorrectionRatio.toward
        rw [add_sub_cancel_left]
        exact CorrectionRatio.abs_change_le _ _
  | read locked hold hcallback hchunk hread =>
      cases hplayer.symm.trans hold
      have heq := read_ratio hread hafter
      exact ⟨hsame heq, fun _ => heq⟩
  | advance hold hcallback hchunk =>
      cases hplayer.symm.trans hold
      cases hafter
      exact ⟨hsame (advance_ratio _ _ _ _), fun _ => advance_ratio _ _ _ _⟩

/-- In every run of the client, whatever the device and the drift corrector ask for: the
ratio stays within 500 ppm of one and a callback moves it by at most 20 ppm, the fraction
of the cursor stays below one, and a chunk requests at most 259 frames. Behind the read
of a chunk, each of its output frames lies between two requested frames inside the
allocated buffer, and what is interpolated there fits a sample. -/
theorem resampler_in_bounds {actions : List Action} (h : run step {} actions = some s)
    (hplayer : s.player = some player) :
    (0.9995 ≤ player.ratio.value ∧ player.ratio.value ≤ 1.0005) ∧
      (∃ driftPpm bufferErrorMs, player.targetRatio =
        GradualDriftCorrector.correctionRatio driftPpm bufferErrorMs) ∧
      (∀ action t after, s.step action = some t → t.player = some after →
        |after.ratio.value - player.ratio.value| ≤ 0.00002 ∧
          ((∀ frameCount currentTime, action ≠ .dataCallback frameCount currentTime) →
            after.ratio = player.ratio)) ∧
      (0 ≤ player.position.sourceFraction ∧ player.position.sourceFraction < 1) ∧
      player.sourceSamples.length = 260 * player.channelCount.toNat ∧
      ∀ callback ∈ player.callback,
        player.position.sourceFrames (ScheduledStreamPlayer.chunkFrames callback) player.ratio ≤
            259 ∧
          ∀ chunk ∈ callback.chunk,
            chunk.sourceFrames = player.position.sourceFrames
                (ScheduledStreamPlayer.chunkFrames callback) player.ratio ∧
              ∀ outputFrame < chunk.chunkFrames,
                player.sourceIndex outputFrame + 1 < chunk.sourceFrames ∧
                  ∀ channel < player.channelCount.toNat,
                    (player.sourceIndex outputFrame + 1) * player.channelCount.toNat + channel <
                        player.sourceSamples.length ∧
                      (player.interpolate outputFrame channel).toInt =
                        lround (player.interpolatedValue outputFrame channel) := by
  have hbounded := (bounded_of_run h).player player hplayer
  refine ⟨⟨?_, ?_⟩, ?_, ?_, ?_, hbounded.length_eq, ?_⟩
  · have hlow := player.ratio.ge_value
    norm_num at hlow ⊢
    exact hlow
  · have hhigh := player.ratio.value_le
    norm_num at hhigh ⊢
    exact hhigh
  · obtain ⟨driftPpm, bufferErrorMs, heq⟩ :=
      GradualDriftCorrector.exists_correctionRatio_eq player.targetRatio
    exact ⟨driftPpm, bufferErrorMs, heq.symm⟩
  · intro action t after hstep hafter
    obtain ⟨hle, hsame⟩ := ratio_step hstep hplayer hafter
    refine ⟨?_, hsame⟩
    norm_num at hle ⊢
    exact hle
  · exact ⟨player.position.fraction_nonneg, player.position.fraction_lt_one⟩
  · intro callback hcallback
    have hframes := player.position.sourceFrames_le
      (ScheduledStreamPlayer.chunkFrames_le callback) player.ratio
    refine ⟨hframes, ?_⟩
    intro chunk hchunk
    obtain ⟨hcount, hsource⟩ := hbounded.chunk callback hcallback chunk hchunk
    rw [← hcount]
    refine ⟨hsource, ?_⟩
    intro outputFrame houtput
    have hindex := player.sourceIndex_lt houtput
    refine ⟨hsource ▸ hindex, ?_⟩
    intro channel hchannel
    refine ⟨?_, player.toInt_interpolate outputFrame channel⟩
    rw [hbounded.length_eq]
    calc (player.sourceIndex outputFrame + 1) * player.channelCount.toNat + channel
        < (player.sourceIndex outputFrame + 2) * player.channelCount.toNat := by
          rw [Nat.add_mul, Nat.add_mul]
          omega
      _ ≤ 260 * player.channelCount.toNat := Nat.mul_le_mul_right _ (by
          rw [hcount] at hindex
          omega)

/-- A callback reads two frames and advances, with a target ratio at its limit. -/
def limitRun : List Action :=
  [.push 0 shortPacket, .construct, .schedule 0 0,
    .setCorrectionRatio (GradualDriftCorrector.correctionRatio (some 600) (some 0)),
    .dataCallback 2 0, .read true, .advance]

theorem resampler_in_bounds_short :
    (∃ s player callback chunk, run step {} (limitRun.take 6) = some s ∧
      s.player = some player ∧ player.callback = some callback ∧ callback.chunk = some chunk ∧
      player.ratio.value = 1.00002 ∧
      ∀ outputFrame < 2, player.sourceIndex outputFrame + 1 < chunk.sourceFrames ∧
        (player.interpolate outputFrame 0).toInt =
          lround (player.interpolatedValue outputFrame 0)) ∧
    ∃ s player, run step {} limitRun = some s ∧ s.player = some player ∧
      player.position.sourceFrame = 98 ∧ 0 < player.position.sourceFraction ∧
      player.position.sourceFraction < 1 := by
  have hread : (run step {} (limitRun.take 6)).any fun s => s.player.any fun player =>
      decide (player.ratio.value = 1.00002 ∧ player.channelCount = 1) &&
        player.callback.any fun callback =>
          callback.chunk.any fun chunk => chunk.chunkFrames = 2 := by
    decide +kernel
  have hend : (run step {} limitRun).any fun s => s.player.any fun player =>
      player.position.sourceFrame = 98 ∧ 0 < player.position.sourceFraction := by
    decide +kernel
  simp only [Option.any_eq_true, Bool.and_eq_true, decide_eq_true_eq] at hread hend
  constructor
  · obtain ⟨s, hrun, player, hplayer, ⟨hratio, hchannels⟩, callback, hcallback, chunk, hchunk,
      hframes⟩ := hread
    refine ⟨s, player, callback, chunk, hrun, hplayer, hcallback, hchunk, hratio, ?_⟩
    intro outputFrame houtput
    have hbounds := resampler_in_bounds hrun hplayer
    obtain ⟨-, hinside⟩ := (hbounds.2.2.2.2.2 callback hcallback).2 chunk hchunk
    obtain ⟨hindex, hsample⟩ := hinside outputFrame (hframes ▸ houtput)
    have hzero : 0 < player.channelCount.toNat := by
      rw [hchannels]
      decide
    exact ⟨hindex, (hsample 0 hzero).2⟩
  · obtain ⟨s, hrun, player, hplayer, hframe, hfraction⟩ := hend
    have hbounds := resampler_in_bounds hrun hplayer
    exact ⟨s, player, hrun, hplayer, hframe, hfraction, hbounds.2.2.2.1.2⟩

end ClientPlayback

end SyncAudio
