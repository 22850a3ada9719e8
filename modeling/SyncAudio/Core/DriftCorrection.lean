import Mathlib.Data.Rat.Cast.Order
import Mathlib.Tactic.Linarith
import Mathlib.Tactic.NormNum
import SyncAudio.Lib.LeastSquares

/-!
# Estimation of the clock drift

`DriftEstimator` fits a line through the recent clock samples and predicts the
offset of the host clock from it. A sample that is far from the prediction is
dropped; the third one in a row replaces the history.

## Implementation notes

The doubles of the source are exact rational numbers here. An exception is an
error and leaves the estimator as it was.
-/

namespace SyncAudio

namespace DriftEstimator

/-- The host clock minus the client clock, at a time of the client clock. -/
structure Sample where
  time : Int
  offset : Int
  deriving DecidableEq

end DriftEstimator

structure DriftEstimator where
  samples : List DriftEstimator.Sample := []
  slope : ℚ := 0
  fittedOffsetAtLast : ℚ := 0
  consecutiveOutliers : Nat := 0

namespace DriftEstimator

def offsetNanosecondsAt (estimator : DriftEstimator) (time : Int) : ℚ :=
  match estimator.samples.getLast? with
  | none => 0
  | some last => estimator.fittedOffsetAtLast + estimator.slope * (time - last.time : Int)

def estimatedDriftPpm (estimator : DriftEstimator) : ℚ := estimator.slope * 1000000

/-- The sample is further from the prediction than noise explains. -/
def isOutlier (estimator : DriftEstimator) (sample : Sample) : Bool :=
  match estimator.samples.getLast? with
  | none => false
  | some last =>
      let residual := |(sample.offset : ℚ) - estimator.offsetNanosecondsAt sample.time|
      let elapsed : ℚ := (sample.time - last.time : Int)
      let limit := max 5000000 (elapsed * (1 / 1000))
      estimator.samples.length ≥ 4 && residual > limit

/-- The recent history: at most 32 samples, and of more than two none that is
older than two minutes. -/
def keepRecent (time : Int) : List Sample → List Sample
  | [] => []
  | front :: rest =>
      if (front :: rest).length > 32 ∨
          ((front :: rest).length > 2 ∧ time - front.time > 120000000000) then
        keepRecent time rest
      else front :: rest

/-- The slope of the regression line, and its value at `time`. -/
def fit (front : Sample) (samples : List Sample) (time : Int) : ℚ × ℚ :=
  let originTime : ℚ := front.time
  let originOffset : ℚ := front.offset
  let meanTime := (samples.map fun sample => sample.time - originTime).sum / samples.length
  let meanOffset := (samples.map fun sample => sample.offset - originOffset).sum / samples.length
  let covariance := (samples.map fun sample =>
    (sample.time - originTime - meanTime) * (sample.offset - originOffset - meanOffset)).sum
  let variance := (samples.map fun sample =>
    (sample.time - originTime - meanTime) * (sample.time - originTime - meanTime)).sum
  let slope := if variance > 0 then max (-2 / 1000) (min (covariance / variance) (2 / 1000)) else 0
  (slope, originOffset + meanOffset + slope * (time - originTime - meanTime))

/-- The end of `addSample`, behind the test for outliers. -/
def push (samples : List Sample) (consecutiveOutliers : Nat) (sample : Sample) : DriftEstimator :=
  let recent := keepRecent sample.time (samples ++ [sample])
  let streak := if samples = [] then 0 else consecutiveOutliers
  match recent with
  | front :: _ :: _ =>
      { samples := recent
        slope := (fit front recent sample.time).1
        fittedOffsetAtLast := (fit front recent sample.time).2
        consecutiveOutliers := streak }
  | _ =>
      { samples := recent
        slope := 0
        fittedOffsetAtLast := sample.offset
        consecutiveOutliers := streak }

def addSample (estimator : DriftEstimator) (sample : Sample) : Except String DriftEstimator :=
  if ∃ last ∈ estimator.samples.getLast?, sample.time ≤ last.time then
    .error "Clock samples must have increasing timestamps"
  else if estimator.isOutlier sample then
    if estimator.consecutiveOutliers + 1 < 3 then
      .ok { estimator with consecutiveOutliers := estimator.consecutiveOutliers + 1 }
    else
      -- Repeated shifted samples are a discontinuity and not noise.
      .ok (push [] (estimator.consecutiveOutliers + 1) sample)
  else if estimator.samples.length ≥ 4 then .ok (push estimator.samples 0 sample)
  else .ok (push estimator.samples estimator.consecutiveOutliers sample)

/-- A run of `addSample`; it ends with the first exception. -/
def addSamples (estimator : DriftEstimator) : List Sample → Except String DriftEstimator
  | [] => .ok estimator
  | sample :: rest => do (← estimator.addSample sample).addSamples rest

variable {estimator next : DriftEstimator} {samples : List Sample} {sample front : Sample}
  {intercept slope : ℚ} {time : Int}

section History

theorem keepRecent_suffix (time : Int) (samples : List Sample) :
    keepRecent time samples <:+ samples := by
  induction samples with
  | nil => exact List.suffix_rfl
  | cons front rest ih =>
      unfold keepRecent
      split_ifs
      · exact ih.trans (List.suffix_cons _ _)
      · exact List.suffix_rfl

/-- Two samples stay two samples. -/
theorem two_le_keepRecent (time : Int) (h : 2 ≤ samples.length) :
    2 ≤ (keepRecent time samples).length := by
  induction samples with
  | nil => exact h
  | cons front rest ih =>
      unfold keepRecent
      split_ifs with hold
      · apply ih
        simp only [List.length_cons] at hold
        omega
      · exact h

theorem keepRecent_cons (time : Int) (front : Sample) (rest : List Sample) :
    keepRecent time (front :: rest) =
      if (front :: rest).length > 32 ∨
          ((front :: rest).length > 2 ∧ time - front.time > 120000000000) then
        keepRecent time rest
      else front :: rest :=
  rfl

/-- The latest sample is kept. -/
theorem getLast?_keepRecent (time : Int) (samples : List Sample) (sample : Sample) :
    (keepRecent time (samples ++ [sample])).getLast? = some sample := by
  induction samples with
  | nil =>
      rw [List.nil_append, keepRecent_cons, if_neg (by simp)]
      rfl
  | cons front rest ih =>
      rw [List.cons_append, keepRecent_cons]
      split_ifs
      · exact ih
      · rw [← List.cons_append, List.getLast?_concat]

theorem push_samples (samples : List Sample) (consecutiveOutliers : Nat) (sample : Sample) :
    (push samples consecutiveOutliers sample).samples =
      keepRecent sample.time (samples ++ [sample]) := by
  unfold push
  dsimp only
  split <;> rfl

/-- With two recent samples, the line is the one that is fitted to them. -/
theorem push_fit (samples : List Sample) (consecutiveOutliers : Nat) (sample : Sample)
    {front other : Sample} {rest : List Sample}
    (h : keepRecent sample.time (samples ++ [sample]) = front :: other :: rest) :
    (push samples consecutiveOutliers sample).slope =
        (fit front (front :: other :: rest) sample.time).1 ∧
      (push samples consecutiveOutliers sample).fittedOffsetAtLast =
        (fit front (front :: other :: rest) sample.time).2 := by
  unfold push
  rw [h]
  exact ⟨rfl, rfl⟩

end History

section Fit

/-- The time since the origin of the fit. -/
def relativeTime (front : Sample) (sample : Sample) : ℚ := sample.time - front.time

/-- The offset over the one at the origin of the fit. -/
def relativeOffset (front : Sample) (sample : Sample) : ℚ := sample.offset - front.offset

/-- The fit is a regression of the relative offsets on the relative times. -/
theorem fit_eq (front : Sample) (samples : List Sample) (time : Int) :
    fit front samples time =
      let covariance := LeastSquares.covariance (relativeTime front) (relativeOffset front) samples
      let variance := LeastSquares.variance (relativeTime front) samples
      let slope := if variance > 0 then max (-2 / 1000) (min (covariance / variance) (2 / 1000)) else 0
      (slope, front.offset + LeastSquares.mean (relativeOffset front) samples +
        slope * (time - front.time - LeastSquares.mean (relativeTime front) samples)) :=
  rfl

/-- On a line that is no steeper than a clock can drift, the fit is the line. -/
theorem fit_line (time : Int) (hslope : |slope| ≤ 2 / 1000) (hfront : front ∈ samples)
    (hother : ∃ other ∈ samples, other.time ≠ front.time)
    (hline : ∀ sample ∈ samples, (sample.offset : ℚ) = intercept + slope * sample.time) :
    fit front samples time = (slope, intercept + slope * time) := by
  have hrelative : ∀ sample ∈ samples,
      relativeOffset front sample = 0 + slope * relativeTime front sample := by
    intro sample hsample
    unfold relativeOffset relativeTime
    rw [hline sample hsample, hline front hfront]
    ring
  obtain ⟨other, hmem, hne⟩ := hother
  have hdistinct : relativeTime front other ≠ relativeTime front front := by
    unfold relativeTime
    intro heq
    exact hne (by exact_mod_cast sub_left_inj.mp heq)
  have hvariance := LeastSquares.variance_pos hmem hfront hdistinct
  have hmean := LeastSquares.mean_line (List.ne_nil_of_mem hfront) hrelative
  have hcovariance := LeastSquares.covariance_line hrelative
  obtain ⟨hlow, hhigh⟩ := abs_le.mp hslope
  rw [fit_eq]
  dsimp only
  rw [if_pos hvariance, hcovariance, mul_div_assoc, div_self hvariance.ne', mul_one,
    min_eq_left hhigh, max_eq_right (by linarith), hmean, hline front hfront]
  congr 1
  ring

end Fit

section SteadyClock

/-- The history lies on one line, and so does the prediction as soon as there is one. -/
structure Steady (intercept slope : ℚ) (estimator : DriftEstimator) : Prop where
  line : ∀ sample ∈ estimator.samples, (sample.offset : ℚ) = intercept + slope * sample.time
  increasing : estimator.samples.Pairwise fun first second => first.time < second.time
  fit_eq : 2 ≤ estimator.samples.length → estimator.slope = slope ∧
    ∀ last ∈ estimator.samples.getLast?,
      estimator.fittedOffsetAtLast = intercept + slope * last.time

/-- What is added next to a steady history: a later point of the line. -/
structure Continues (intercept slope : ℚ) (estimator : DriftEstimator) (sample : Sample) : Prop where
  line : (sample.offset : ℚ) = intercept + slope * sample.time
  later : ∀ held ∈ estimator.samples, held.time < sample.time

/-- With two samples the prediction is the line. -/
theorem Steady.predicts (hs : Steady intercept slope estimator)
    (h : 2 ≤ estimator.samples.length) (time : Int) :
    estimator.offsetNanosecondsAt time = intercept + slope * time := by
  obtain ⟨hslope, hfitted⟩ := hs.fit_eq h
  unfold offsetNanosecondsAt
  cases hlast : estimator.samples.getLast? with
  | none =>
      rw [List.getLast?_eq_none_iff.mp hlast] at h
      exact absurd h (by decide)
  | some last =>
      dsimp only
      rw [hslope, hfitted last hlast]
      push_cast
      ring

/-- A later point of the line is where it is predicted. -/
theorem Steady.not_outlier (hs : Steady intercept slope estimator)
    (h : Continues intercept slope estimator sample) : estimator.isOutlier sample = false := by
  unfold isOutlier
  cases hlast : estimator.samples.getLast? with
  | none => rfl
  | some last =>
      dsimp only
      by_cases hmany : estimator.samples.length ≥ 4
      · have hpredicts := hs.predicts (by omega) sample.time
        rw [hpredicts, h.line, sub_self, abs_zero]
        simp
      · rw [decide_eq_false hmany, Bool.false_and]

/-- A later point of the line keeps the history steady. -/
theorem steady_push (hslope : |slope| ≤ 2 / 1000) (consecutiveOutliers : Nat)
    (hs : Steady intercept slope estimator) (h : Continues intercept slope estimator sample) :
    Steady intercept slope (push estimator.samples consecutiveOutliers sample) := by
  have hsuffix := keepRecent_suffix sample.time (estimator.samples ++ [sample])
  have hlast := getLast?_keepRecent sample.time estimator.samples sample
  have hincreasing : (estimator.samples ++ [sample]).Pairwise
      fun first second => first.time < second.time := by
    apply List.pairwise_append.mpr
    refine ⟨hs.increasing, List.pairwise_singleton _ _, ?_⟩
    intro held hheld added hadded
    rw [List.mem_singleton.mp hadded]
    exact h.later held hheld
  have hline : ∀ added ∈ estimator.samples ++ [sample],
      (added.offset : ℚ) = intercept + slope * added.time := by
    intro added hadded
    rcases List.mem_append.mp hadded with hheld | hnew
    · exact hs.line added hheld
    · rw [List.mem_singleton.mp hnew]
      exact h.line
  have hrecentLine := fun added hadded => hline added (hsuffix.subset hadded)
  have hrecentIncreasing := hincreasing.sublist hsuffix.sublist
  constructor
  · rw [push_samples]
    exact hrecentLine
  · rw [push_samples]
    exact hrecentIncreasing
  · rw [push_samples]
    intro htwo
    match hrecent : keepRecent sample.time (estimator.samples ++ [sample]) with
    | [] =>
        rw [hrecent] at htwo
        exact absurd htwo (by decide)
    | [front] =>
        rw [hrecent] at htwo
        exact absurd htwo (by simp)
    | front :: other :: rest =>
        rw [hrecent] at hrecentLine hrecentIncreasing hlast
        obtain ⟨hfirst, -⟩ := List.pairwise_cons.mp hrecentIncreasing
        have hother : ∃ later ∈ front :: other :: rest, later.time ≠ front.time :=
          ⟨other, by simp, (hfirst other List.mem_cons_self).ne'⟩
        have hfit := fit_line sample.time hslope List.mem_cons_self hother hrecentLine
        obtain ⟨hpushed, hfitted⟩ := push_fit _ consecutiveOutliers _ hrecent
        rw [hpushed, hfitted, hfit, hlast]
        refine ⟨rfl, fun last hlatest => ?_⟩
        rw [← Option.mem_some.mp hlatest]

/-- A later point of the line is added to the history. -/
theorem steady_addSample (hslope : |slope| ≤ 2 / 1000)
    (hs : Steady intercept slope estimator) (h : Continues intercept slope estimator sample) :
    ∃ next consecutiveOutliers, estimator.addSample sample = .ok next ∧
      next = push estimator.samples consecutiveOutliers sample ∧ Steady intercept slope next := by
  have htime : ¬ ∃ last ∈ estimator.samples.getLast?, sample.time ≤ last.time := by
    rintro ⟨last, hlast, hle⟩
    exact absurd (h.later last (List.mem_of_getLast? hlast)) (Int.not_lt.mpr hle)
  unfold addSample
  rw [if_neg htime, hs.not_outlier h, if_neg Bool.false_ne_true]
  split_ifs
  · exact ⟨_, 0, rfl, rfl, steady_push hslope 0 hs h⟩
  · exact ⟨_, estimator.consecutiveOutliers, rfl, rfl,
      steady_push hslope estimator.consecutiveOutliers hs h⟩

/-- The history of a run: a suffix of what was added that ends with the latest
sample, and two samples as soon as two were added. -/
structure History (added : List Sample) (estimator : DriftEstimator) : Prop where
  suffix : estimator.samples <:+ added
  latest : estimator.samples.getLast? = added.getLast?
  two_le : 2 ≤ added.length → 2 ≤ estimator.samples.length

/-- Adding a sample extends the history by it. -/
theorem history_push {added : List Sample} (consecutiveOutliers : Nat)
    (hs : History added estimator) :
    History (added ++ [sample]) (push estimator.samples consecutiveOutliers sample) := by
  have hsuffix : estimator.samples ++ [sample] <:+ added ++ [sample] := by
    obtain ⟨before, hbefore⟩ := hs.suffix
    exact ⟨before, by rw [← hbefore, List.append_assoc]⟩
  constructor
  · rw [push_samples]
    exact (keepRecent_suffix _ _).trans hsuffix
  · rw [push_samples, getLast?_keepRecent, List.getLast?_concat]
  · intro htwo
    rw [push_samples]
    apply two_le_keepRecent
    cases hadded : added with
    | nil =>
        rw [hadded] at htwo
        exact absurd htwo (by simp)
    | cons front rest =>
        have hheld : estimator.samples ≠ [] := by
          intro hempty
          have hlatest := hs.latest
          rw [hempty, hadded, List.getLast?_nil, List.getLast?_cons] at hlatest
          cases hlatest
        have hpos := List.length_pos_of_ne_nil hheld
        rw [List.length_append, List.length_singleton]
        omega

/-- A run on a line accepts every sample. -/
theorem steady_run (hslope : |slope| ≤ 2 / 1000) (samples : List Sample) {before : List Sample}
    (hs : Steady intercept slope estimator) (hhistory : History before estimator)
    (htimes : (before ++ samples).Pairwise fun first second => first.time < second.time)
    (hline : ∀ sample ∈ samples, (sample.offset : ℚ) = intercept + slope * sample.time) :
    ∃ last, estimator.addSamples samples = .ok last ∧ Steady intercept slope last ∧
      History (before ++ samples) last := by
  induction samples generalizing estimator before with
  | nil =>
      rw [List.append_nil]
      exact ⟨estimator, rfl, hs, hhistory⟩
  | cons sample rest ih =>
      have hcontinues : Continues intercept slope estimator sample := by
        constructor
        · exact hline sample List.mem_cons_self
        · intro held hheld
          obtain ⟨-, -, hcross⟩ := List.pairwise_append.mp htimes
          exact hcross held (hhistory.suffix.subset hheld) sample List.mem_cons_self
      obtain ⟨next, consecutiveOutliers, hnext, hpush, hsteady⟩ :=
        steady_addSample hslope hs hcontinues
      have hextended : History (before ++ [sample]) next := by
        rw [hpush]
        exact history_push consecutiveOutliers hhistory
      rw [← List.singleton_append, ← List.append_assoc] at htimes ⊢
      obtain ⟨last, hlast, hlastSteady, hlastHistory⟩ := ih hsteady hextended htimes
        (fun later hlater => hline later (List.mem_cons_of_mem _ hlater))
      refine ⟨last, ?_, hlastSteady, hlastHistory⟩
      rw [List.singleton_append, addSamples, hnext]
      exact hlast

theorem steady_initial (intercept slope : ℚ) : Steady intercept slope {} where
  line := fun sample hsample => absurd hsample List.not_mem_nil
  increasing := List.Pairwise.nil
  fit_eq := fun h => absurd h (by decide)

theorem history_initial : History [] {} where
  suffix := List.suffix_rfl
  latest := rfl
  two_le := fun h => absurd h (by decide)

/-- On a steady clock the regression is exact: no sample is an outlier, and with
two samples the drift and all predictions are those of the clock, whatever the
history has lost. -/
theorem regression_exact {intercept slope : ℚ} (hslope : |slope| ≤ 0.002) (samples : List Sample)
    (htimes : samples.Pairwise fun first second => first.time < second.time)
    (hnonneg : ∀ sample ∈ samples, 0 ≤ sample.time)
    (hline : ∀ sample ∈ samples, (sample.offset : ℚ) = intercept + slope * sample.time) :
    (∀ before sample after, samples = before ++ sample :: after → ∃ held next,
      addSamples {} before = .ok held ∧ held.isOutlier sample = false ∧
        held.addSample sample = .ok next ∧ next.samples.getLast? = some sample) ∧
    ∃ estimator, addSamples {} samples = .ok estimator ∧
      (2 ≤ samples.length → estimator.estimatedDriftPpm = slope * 10 ^ 6 ∧
        ∀ time : Int, estimator.offsetNanosecondsAt time = intercept + slope * time) := by
  have hslope : |slope| ≤ 2 / 1000 := by
    norm_num at hslope ⊢
    exact hslope
  constructor
  · rintro before sample after rfl
    have hbefore : (before ++ [sample]).Pairwise fun first second => first.time < second.time := by
      rw [← List.singleton_append, ← List.append_assoc] at htimes
      exact (List.pairwise_append.mp htimes).1
    obtain ⟨hpast, -, hcross⟩ := List.pairwise_append.mp hbefore
    obtain ⟨held, hheld, hsteady, hhistory⟩ := steady_run hslope before
      (steady_initial intercept slope) history_initial hpast
      (fun earlier hearlier => hline earlier (List.mem_append_left _ hearlier))
    have hcontinues : Continues intercept slope held sample :=
      { line := hline sample (List.mem_append_right _ List.mem_cons_self)
        later := fun earlier hearlier =>
          hcross earlier (hhistory.suffix.subset hearlier) sample List.mem_cons_self }
    obtain ⟨next, consecutiveOutliers, hnext, rfl, -⟩ :=
      steady_addSample hslope hsteady hcontinues
    refine ⟨held, _, hheld, hsteady.not_outlier hcontinues, hnext, ?_⟩
    rw [push_samples, getLast?_keepRecent]
  · obtain ⟨estimator, hrun, hsteady, hhistory⟩ := steady_run hslope samples
      (steady_initial intercept slope) history_initial htimes hline
    refine ⟨estimator, hrun, fun htwo => ?_⟩
    have hheld := hhistory.two_le htwo
    constructor
    · unfold estimatedDriftPpm
      rw [(hsteady.fit_eq hheld).1]
      norm_num
    · exact hsteady.predicts hheld

/-- Three samples of a clock that gains one part in a thousand. -/
def gaining : List Sample := [⟨0, 7⟩, ⟨1000, 8⟩, ⟨2000, 9⟩]

theorem regression_exact_gaining : ∃ estimator, addSamples {} gaining = .ok estimator ∧
    estimator.estimatedDriftPpm = 1 / 1000 * 10 ^ 6 ∧
    ∀ time : Int, estimator.offsetNanosecondsAt time = 7 + 1 / 1000 * time := by
  have hslope : |(1 / 1000 : ℚ)| ≤ 0.002 := by norm_num
  have hline : ∀ sample ∈ gaining, (sample.offset : ℚ) = 7 + 1 / 1000 * sample.time := by
    intro sample hsample
    simp only [gaining, List.mem_cons, List.not_mem_nil, or_false] at hsample
    rcases hsample with rfl | rfl | rfl <;> norm_num
  obtain ⟨estimator, hrun, hexact⟩ :=
    (regression_exact hslope gaining (by decide) (by decide) hline).2
  exact ⟨estimator, hrun, hexact (by decide)⟩

end SteadyClock

section Outliers

/-- The sample is dropped and the history stays. -/
structure Drops (estimator : DriftEstimator) (sample : Sample) (next : DriftEstimator) : Prop where
  addSample_eq : estimator.addSample sample = .ok next
  isOutlier_eq : estimator.isOutlier sample = true
  samples_eq : next.samples = estimator.samples

/-- The sample is later than all that is held. -/
def Later (estimator : DriftEstimator) (sample : Sample) : Prop :=
  ¬ ∃ last ∈ estimator.samples.getLast?, sample.time ≤ last.time

/-- A history of four samples accepts a sample whatever the streak was. -/
theorem addSample_accepted (hmany : 4 ≤ estimator.samples.length) (streak : Nat)
    (h : estimator.isOutlier sample = false) :
    addSample { estimator with consecutiveOutliers := streak } sample =
      estimator.addSample sample := by
  have hstreak : isOutlier { estimator with consecutiveOutliers := streak } sample = false := h
  unfold addSample
  rw [hstreak, h, if_neg Bool.false_ne_true, if_neg Bool.false_ne_true, if_pos hmany, if_pos hmany]

/-- Up to the second outlier only the streak changes. -/
theorem addSample_outlier (hlater : estimator.Later sample)
    (h : estimator.isOutlier sample = true) (hstreak : estimator.consecutiveOutliers < 2) :
    estimator.addSample sample =
      .ok { estimator with consecutiveOutliers := estimator.consecutiveOutliers + 1 } := by
  unfold addSample
  rw [if_neg hlater, if_pos h, if_pos (by omega)]

/-- The third outlier in a row starts a new history. -/
theorem addSample_third (hlater : estimator.Later sample)
    (h : estimator.isOutlier sample = true) (hstreak : estimator.consecutiveOutliers = 2) :
    estimator.addSample sample =
      .ok { samples := [sample], slope := 0, fittedOffsetAtLast := sample.offset
            consecutiveOutliers := 0 } := by
  unfold addSample
  rw [if_neg hlater, if_pos h, hstreak, if_neg (by decide)]
  have hrecent : keepRecent sample.time ([] ++ [sample]) = [sample] := by
    rw [List.nil_append, keepRecent_cons, if_neg (by simp)]
  unfold push
  rw [hrecent, if_pos rfl]

/-- What drops a sample has counted it, and is the same estimator otherwise. -/
theorem Drops.eq (h : estimator.Drops sample next) (hmany : 4 ≤ estimator.samples.length) :
    next = { estimator with consecutiveOutliers := estimator.consecutiveOutliers + 1 } := by
  have hadd := h.addSample_eq
  unfold addSample at hadd
  split_ifs at hadd with htime houtlier hstreak
  · exact (Except.ok.inj hadd).symm
  · -- A history that was replaced has one sample.
    have hone : next.samples.length ≤ 1 := by
      rw [← Except.ok.inj hadd, push_samples]
      exact (keepRecent_suffix _ _).length_le
    rw [h.samples_eq] at hone
    omega
  · exact absurd h.isOutlier_eq houtlier

/-- Outliers are invisible or decisive. One or two of them leave no trace in what
the next accepted sample leads to; the third in a row is all that is held, and is
predicted at every time. -/
theorem outliers_invisible_or_decisive (estimator : DriftEstimator)
    (hmany : 4 ≤ estimator.samples.length) (hstreak : estimator.consecutiveOutliers = 0) :
    (∀ first accepted one, estimator.Drops first one → one.isOutlier accepted = false →
      one.addSample accepted = estimator.addSample accepted) ∧
    (∀ first second accepted one two, estimator.Drops first one → one.Drops second two →
      two.isOutlier accepted = false → two.addSample accepted = estimator.addSample accepted) ∧
    (∀ first second third,
      (∀ sample ∈ [first, second, third], estimator.Later sample ∧ estimator.isOutlier sample) →
      ∃ reset, estimator.addSamples [first, second, third] = .ok reset ∧
        reset.samples = [third] ∧ reset.slope = 0 ∧
        ∀ time, reset.offsetNanosecondsAt time = third.offset) := by
  refine ⟨?_, ?_, ?_⟩
  · intro first accepted one hone haccepted
    rw [hone.eq hmany] at haccepted ⊢
    exact addSample_accepted hmany _ haccepted
  · intro first second accepted one two hone htwo haccepted
    have heq := hone.eq hmany
    have hmanyOne : 4 ≤ one.samples.length := by
      rw [hone.samples_eq]
      exact hmany
    rw [htwo.eq hmanyOne, heq] at haccepted ⊢
    exact addSample_accepted hmany _ haccepted
  · intro first second third houtliers
    obtain ⟨hfirst, hfirstOutlier⟩ := houtliers first (by simp)
    obtain ⟨hsecond, hsecondOutlier⟩ := houtliers second (by simp)
    obtain ⟨hthird, hthirdOutlier⟩ := houtliers third (by simp)
    let one : DriftEstimator := { estimator with consecutiveOutliers := 1 }
    let two : DriftEstimator := { estimator with consecutiveOutliers := 2 }
    have hone : estimator.addSample first = .ok one := by
      rw [addSample_outlier hfirst hfirstOutlier (by omega), hstreak]
    have htwo : one.addSample second = .ok two :=
      @addSample_outlier one second hsecond hsecondOutlier Nat.one_lt_two
    have hreset := @addSample_third two third hthird hthirdOutlier rfl
    refine ⟨{ samples := [third], fittedOffsetAtLast := third.offset }, ?_, rfl, rfl, ?_⟩
    · rw [addSamples, hone]
      change one.addSamples [second, third] = _
      rw [addSamples, htwo]
      change two.addSamples [third] = _
      rw [addSamples, hreset]
      rfl
    · intro time
      unfold offsetNanosecondsAt
      simp

/-- Four samples of clocks that agree. -/
def agreeing : DriftEstimator where
  samples := [⟨0, 0⟩, ⟨1, 0⟩, ⟨2, 0⟩, ⟨3, 0⟩]

theorem outliers_invisible_or_decisive_agreeing : ∃ reset,
    agreeing.addSamples [⟨4, 30000000⟩, ⟨5, 30000000⟩, ⟨6, 30000000⟩] = .ok reset ∧
      ∀ time, reset.offsetNanosecondsAt time = (30000000 : Int) := by
  have houtliers : ∀ sample ∈ [(⟨4, 30000000⟩ : Sample), ⟨5, 30000000⟩, ⟨6, 30000000⟩],
      agreeing.Later sample ∧ agreeing.isOutlier sample := by
    intro sample hsample
    simp only [List.mem_cons, List.not_mem_nil, or_false] at hsample
    rcases hsample with rfl | rfl | rfl <;>
      simp [Later, agreeing, isOutlier, offsetNanosecondsAt] <;> norm_num
  obtain ⟨reset, hrun, -, -, hpredicts⟩ :=
    (outliers_invisible_or_decisive agreeing (by decide) rfl).2.2 _ _ _ houtliers
  exact ⟨reset, hrun, hpredicts⟩

end Outliers

end DriftEstimator

end SyncAudio
