import Mathlib.Tactic.Positivity
import SyncAudio.Desktop.Resampler
import SyncAudio.Lib.DampedStep

/-!
# The phase control loop

Every 100 ms the client measures how far it is behind the host and sets the ratio
of the resampler from that and from the drift of the host clock. The correction
saturates at 500 ppm. For clocks that are within 200 ppm of the nominal rate, the
phase error approaches one fixed point from every start and does not overshoot.

## Implementation notes

One step is 100 ms of nominal time; the arithmetic is that of the rational
numbers. The estimated drift is the drift of the host.
-/

namespace SyncAudio

/-- The frames the host timeline asks for, and the ones that were played. -/
structure PhaseLoop where
  desiredFrames : ℚ
  playedFrames : ℚ

namespace PhaseLoop

/-- The rates of the clocks and of the stream. -/
structure Rates where
  hostDriftPpm : ℚ
  deviceDriftPpm : ℚ
  sampleRate : ℚ
  host_le : |hostDriftPpm| ≤ 200
  device_le : |deviceDriftPpm| ≤ 200
  sampleRate_pos : 0 < sampleRate

def bufferErrorMilliseconds (rates : Rates) (state : PhaseLoop) : ℚ :=
  (state.desiredFrames - state.playedFrames) * 1000 / rates.sampleRate

/-- The ratio that is set for the next 100 ms. -/
def correctionRatio (rates : Rates) (state : PhaseLoop) : CorrectionRatio :=
  GradualDriftCorrector.correctionRatio (some rates.hostDriftPpm)
    (some (state.bufferErrorMilliseconds rates))

def step (rates : Rates) (state : PhaseLoop) : PhaseLoop where
  desiredFrames :=
    state.desiredFrames + rates.sampleRate * (1 / 10) * (1 + rates.hostDriftPpm / 1000000)
  playedFrames :=
    state.playedFrames + rates.sampleRate * (1 / 10) * (1 + rates.deviceDriftPpm / 1000000) *
      (state.correctionRatio rates).value

/-- The correction in parts per million that makes up for both drifts. -/
def requiredPpm (rates : Rates) : ℚ :=
  (rates.hostDriftPpm - rates.deviceDriftPpm) * 1000000 / (1000000 + rates.deviceDriftPpm)

/-- The phase error at which the loop rests. -/
def restingError (rates : Rates) : ℚ := (requiredPpm rates - rates.hostDriftPpm) / 20

/-- How much of a correction in parts per million one step takes from the error. -/
def gain (rates : Rates) : ℚ := (1000000 + rates.deviceDriftPpm) / 10000000000

/-- What one step takes from the error. -/
def correction (rates : Rates) (error : ℚ) : ℚ :=
  gain rates * (GradualDriftCorrector.correctionPpm rates.hostDriftPpm error - requiredPpm rates)

variable {rates : Rates}

theorem device_pos (rates : Rates) : 0 < 1000000 + rates.deviceDriftPpm := by
  have hlow := (abs_le.mp rates.device_le).1
  linarith

/-- A step of the loop is one correction of the error. -/
theorem error_step (rates : Rates) (state : PhaseLoop) :
    (state.step rates).bufferErrorMilliseconds rates =
      Damped.next (correction rates) (state.bufferErrorMilliseconds rates) := by
  have hrate := rates.sampleRate_pos.ne'
  have hdevice := (device_pos rates).ne'
  have hratio : (state.correctionRatio rates).value = 1 +
      GradualDriftCorrector.correctionPpm rates.hostDriftPpm (state.bufferErrorMilliseconds rates) /
        1000000 := rfl
  unfold Damped.next correction gain requiredPpm
  generalize hppm : GradualDriftCorrector.correctionPpm rates.hostDriftPpm
    (state.bufferErrorMilliseconds rates) = ppm at hratio ⊢
  unfold bufferErrorMilliseconds step
  rw [hratio]
  field_simp
  ring

/-- The loop rests well inside the range of the correction. -/
theorem requiredPpm_mem (rates : Rates) : -500 < requiredPpm rates ∧ requiredPpm rates < 500 := by
  have hpos := device_pos rates
  obtain ⟨hhostLow, hhostHigh⟩ := abs_le.mp rates.host_le
  obtain ⟨hdeviceLow, hdeviceHigh⟩ := abs_le.mp rates.device_le
  unfold requiredPpm
  constructor
  · rw [lt_div_iff₀ hpos]
    linarith
  · rw [div_lt_iff₀ hpos]
    linarith

theorem restingError_eq (rates : Rates) :
    rates.hostDriftPpm + 20 * restingError rates = requiredPpm rates := by
  unfold restingError
  ring

/-- The fixed point is near zero. -/
theorem abs_restingError_le (rates : Rates) : |restingError rates| ≤ 11 := by
  have hpos := device_pos rates
  obtain ⟨hhostLow, hhostHigh⟩ := abs_le.mp rates.host_le
  obtain ⟨hdeviceLow, hdeviceHigh⟩ := abs_le.mp rates.device_le
  have hproduct : |rates.hostDriftPpm * rates.deviceDriftPpm| ≤ 200 * 200 := by
    rw [abs_mul]
    exact mul_le_mul rates.host_le rates.device_le (abs_nonneg _) (by norm_num)
  obtain ⟨hproductLow, hproductHigh⟩ := abs_le.mp hproduct
  have heq : restingError rates =
      -(rates.deviceDriftPpm * 1000000 + rates.hostDriftPpm * rates.deviceDriftPpm) /
        (20 * (1000000 + rates.deviceDriftPpm)) := by
    unfold restingError requiredPpm
    have hne := hpos.ne'
    field_simp
    ring
  have hden : 0 < 20 * (1000000 + rates.deviceDriftPpm) := by linarith
  rw [heq, abs_le]
  constructor
  · rw [le_div_iff₀ hden]
    linarith
  · rw [div_le_iff₀ hden]
    linarith

/-- The correction pulls the error to the fixed point and not past it. -/
theorem damped_correction (rates : Rates) : Damped (correction rates) (restingError rates) := by
  obtain ⟨hlow, hhigh⟩ := requiredPpm_mem rates
  rw [← restingError_eq] at hlow hhigh
  have hgain : 0 < gain rates := by
    have hpos := device_pos rates
    unfold gain
    positivity
  have hone : gain rates * 20 ≤ 1 := by
    have hdevice := (abs_le.mp rates.device_le).2
    unfold gain
    linarith
  have hclamp := damped_clamp hlow hhigh hgain (by norm_num) hone
  unfold correction
  rw [← restingError_eq]
  exact hclamp

/-- The phase control loop is stable. For clocks within 200 ppm, at every rate, from
every start and behind any number of steps: the ratio is within 500 ppm of one, the
error comes no further from its fixed point, nearer wherever it is not there, and stays
on its side. The fixed point is unique and within 11 ms of zero. -/
theorem phase_loop_stable (rates : Rates) :
    ∃ target, |target| ≤ 11 ∧
      (∀ state : PhaseLoop, (state.step rates).bufferErrorMilliseconds rates =
        state.bufferErrorMilliseconds rates ↔ state.bufferErrorMilliseconds rates = target) ∧
      ∀ (initial : PhaseLoop) (count : Nat),
        let state := (step rates)^[count] initial
        let error := state.bufferErrorMilliseconds rates
        let nextError := (state.step rates).bufferErrorMilliseconds rates
        |(state.correctionRatio rates).value - 1| ≤ 500 / 1000000 ∧
          |nextError - target| ≤ |error - target| ∧
          (error ≠ target → |nextError - target| < |error - target|) ∧
          (target ≤ error → target ≤ nextError) ∧ (error ≤ target → nextError ≤ target) := by
  have hdamped := damped_correction rates
  refine ⟨restingError rates, abs_restingError_le rates, fun state => ?_, fun initial count => ?_⟩
  · rw [error_step]
    exact hdamped.fixed_iff
  · dsimp only
    generalize (step rates)^[count] initial = state
    rw [error_step]
    obtain ⟨habove, hbelow⟩ := hdamped.not_past (state.bufferErrorMilliseconds rates)
    refine ⟨?_, hdamped.dist_le _, hdamped.dist_lt, habove, hbelow⟩
    have hlow := (state.correctionRatio rates).ge_value
    have hhigh := (state.correctionRatio rates).value_le
    rw [abs_le]
    constructor <;> linarith

/-- A host that is fast and a device that is slow. -/
def opposed : Rates where
  hostDriftPpm := 120
  deviceDriftPpm := -60
  sampleRate := 48000
  host_le := by norm_num
  device_le := by norm_num
  sampleRate_pos := by norm_num

/-- A client that starts one second behind comes nearer, unless it is there. -/
theorem phase_loop_stable_opposed : ∃ target : ℚ, |target| ≤ 11 ∧
    |((step opposed ⟨48000, 0⟩).bufferErrorMilliseconds opposed) - target| ≤
      |(bufferErrorMilliseconds opposed ⟨48000, 0⟩) - target| := by
  obtain ⟨target, hle, -, hrun⟩ := phase_loop_stable opposed
  exact ⟨target, hle, (hrun ⟨48000, 0⟩ 0).2.1⟩

end PhaseLoop

end SyncAudio
