import SyncAudio.Lib.Binary64

/-!
# The times of the playback

When a packet has to be heard, in nanoseconds of the phone and in ticks of its host clock,
and how many frames the player keeps ready. The packet comes from the network and the
offset from the clock exchange, but no time leaves its type.

## Implementation notes

`AVAudioTime` and `mach_absolute_time` belong to the system. The conversion to ticks is a
parameter of which only the rate of the host clock is known.
-/

namespace SyncAudio

namespace Binary64

/-- `min`: the second number only if it is smaller. -/
def smaller (x y : Binary64) : Binary64 := if y.lt x then y else x

/-- `max`: the first number only if it is larger, or the second is not a number. -/
def larger (x y : Binary64) : Binary64 := if x.le y then y else x

end Binary64

/-- The offset of an estimate of the host clock. -/
structure ClockOffset where
  offset : Finite
  offset_le : |offset.value| ≤ 2 ^ 65

/-- The output latency: less than 36 years in nanoseconds. -/
structure OutputLead where
  lead : Finite
  lead_le : |lead.value| ≤ 2 ^ 60

/-- `AVAudioTime.hostTime(forSeconds:)` of a device whose host clock ticks 24 million times
a second. -/
structure HostClock where
  hostTime : Binary64 → UInt64
  hostTime_le : ∀ seconds : Finite, 0 ≤ seconds.value →
    ((hostTime (.finite seconds)).toNat : ℚ) ≤ seconds.value * 24000000 + 1

namespace PlaybackTiming

open Binary64

/-- The offset that `ClockSyncWire.response` draws from an exchange. -/
def responseOffset (hostReceive sentAt hostSend receivedAt : UInt64) : Binary64 :=
  (((ofInt hostReceive.toNat).sub (ofInt sentAt.toNat)).add
    ((ofInt hostSend.toNat).sub (ofInt receivedAt.toNat))).div (ofInt 2)

def safetyDelayNanoseconds : Binary64 := ofInt 20000000

def minimumStartLeadNanoseconds : Binary64 := ofInt 100000000

/-- `estimate.localTime(forHostNanoseconds:)`. -/
def localTime (hostTime : UInt64) (offset : ClockOffset) : Binary64 :=
  (ofInt hostTime.toNat).sub (.finite offset.offset)

def startDelayNanoseconds (presentationTimestampNanoseconds : UInt64) (offset : ClockOffset)
    (outputLead : OutputLead) (nowNanoseconds : UInt64) : Binary64 :=
  (((localTime presentationTimestampNanoseconds offset).add safetyDelayNanoseconds).sub
    (.finite outputLead.lead)).sub (ofInt nowNanoseconds.toNat)

def minimumPacketTimestamp (offset : ClockOffset) (outputLead : OutputLead)
    (nowNanoseconds : UInt64) : Binary64 :=
  ((((ofInt nowNanoseconds.toNat).add (.finite offset.offset)).add
    (.finite outputLead.lead)).add minimumStartLeadNanoseconds).sub safetyDelayNanoseconds

/-- The host time at which the player starts. -/
def startTime (clock : HostClock) (machAbsoluteTime : UInt64) (delay : Binary64) : Option Nat :=
  Checked.add64 machAbsoluteTime.toNat (clock.hostTime (delay.div (ofInt 1000000000))).toNat

/-- `Int(Double(sampleRate) * milliseconds / 1_000)`. -/
def framesFor (sampleRate : UInt32) (milliseconds : Binary64) : Option Int :=
  (((ofInt sampleRate.toNat).mul milliseconds).div (ofInt 1000)).toSigned

/-- The target of `updateTargetBuffer`. -/
def clampTarget (milliseconds : Binary64) : Binary64 :=
  smaller (ofInt 350) (larger (ofInt 120) milliseconds)

/-- The target after an underrun. -/
def raiseTarget (target : Binary64) : Binary64 := smaller (ofInt 350) (target.add (ofInt 20))

/-- A length of the buffer that the player can have as its target. -/
def IsTarget (target : Binary64) : Prop :=
  ∃ x, target = .finite x ∧ 0 ≤ x.value ∧ x.value ≤ 350

section Times

variable {offset : ClockOffset} {outputLead : OutputLead} {clock : HostClock}
  {timestamp now machAbsoluteTime : UInt64} {delay : Binary64}

theorem within_reading (time : UInt64) : Within (ofInt time.toNat) 64 :=
  within_ofInt (by norm_num) time.toNat_lt.le

/-- Every exchange leads to an offset of this size. -/
theorem exists_responseOffset (hostReceive sentAt hostSend receivedAt : UInt64) :
    ∃ offset : ClockOffset,
      responseOffset hostReceive sentAt hostSend receivedAt = .finite offset.offset := by
  have hfirst := (within_reading hostReceive).sub (within_reading sentAt) (by norm_num)
  have hsecond := (within_reading hostSend).sub (within_reading receivedAt) (by norm_num)
  obtain ⟨x, hx, hvalue⟩ := (hfirst.add hsecond (by norm_num)).half (by norm_num)
  exact ⟨⟨x, hvalue⟩, hx⟩

theorem within_startDelay (htimestamp : timestamp.toNat < 2 ^ 63) :
    Within (startDelayNanoseconds timestamp offset outputLead now) 69 := by
  have hhost : Within (ofInt timestamp.toNat) 65 :=
    (within_ofInt (by norm_num) htimestamp.le).mono (by norm_num)
  have hoffset : Within (.finite offset.offset) 65 := ⟨_, rfl, offset.offset_le⟩
  have hsafety : Within safetyDelayNanoseconds 66 := by
    have hsmall : Within (ofInt ((20000000 : Nat) : Int)) 25 :=
      within_ofInt (by norm_num) (by norm_num)
    exact hsmall.mono (by norm_num)
  have hlead : Within (.finite outputLead.lead) 67 := by
    have hsmall : Within (.finite outputLead.lead) 60 := ⟨_, rfl, outputLead.lead_le⟩
    exact hsmall.mono (by norm_num)
  have hnow : Within (ofInt now.toNat) 68 := (within_reading now).mono (by norm_num)
  have hlocal := hhost.sub hoffset (by norm_num)
  have hsafe := hlocal.add hsafety (by norm_num)
  have hled := hsafe.sub hlead (by norm_num)
  exact hled.sub hnow (by norm_num)

/-- The ticks of a delay fit beside a reading of a clock that has run for less than three
thousand years. -/
theorem exists_startTime (hdelay : Within delay 69) (hpositive : zero.lt delay = true)
    (hmach : machAbsoluteTime.toNat < 2 ^ 61) :
    ∃ time, startTime clock machAbsoluteTime delay = some time := by
  obtain ⟨x, rfl, hx⟩ := hdelay
  obtain ⟨second, hsecond, hsign, hvalue⟩ := @ofInt_of_lt 1000000000 (by norm_num)
  obtain ⟨bound, -, hbound⟩ := @exists_finite_of_lt 590295810359 (by norm_num)
  obtain ⟨origin, horigin, hzero⟩ := exists_zero
  have hpos : 0 < x.value := by
    rw [horigin] at hpositive
    rw [← hzero]
    exact of_decide_eq_true hpositive
  have hxsign : x.negative = false := by
    by_contra hnegative
    unfold Finite.value at hpos
    rw [if_pos (Bool.eq_true_of_not_eq_false hnegative)] at hpos
    have := x.magnitude_nonneg
    linarith
  have hmagnitude : second.magnitude = 1000000000 := by
    unfold Finite.value at hvalue
    rw [hsign, if_neg Bool.false_ne_true] at hvalue
    exact_mod_cast hvalue
  have hle : x.magnitude / second.magnitude ≤ bound.magnitude := by
    rw [hbound, hmagnitude, div_le_iff₀ (by norm_num), ← x.abs_value]
    exact hx.trans (by norm_num)
  obtain ⟨seconds, hseconds, hsecondsSign, hsecondsLe⟩ :=
    quotient_bounded (by rw [hmagnitude]; norm_num) hle
  have hsecondsValue : seconds.value = seconds.magnitude := by
    unfold Finite.value
    rw [hsecondsSign, hxsign, hsign]
    rfl
  have hticks := clock.hostTime_le seconds (hsecondsValue ▸ seconds.magnitude_nonneg)
  have hlimit : (clock.hostTime (.finite seconds)).toNat ≤ 14167099448616000001 := by
    have hcast : ((clock.hostTime (.finite seconds)).toNat : ℚ) ≤ 14167099448616000001 := by
      rw [hsecondsValue] at hticks
      rw [hbound] at hsecondsLe
      norm_num at hsecondsLe
      linarith
    exact_mod_cast hcast
  have hdiv : (Binary64.finite x).div (ofInt 1000000000) = .finite seconds := by
    rw [← hseconds, ← hsecond]
    rfl
  unfold startTime
  rw [hdiv]
  exact ⟨_, Checked.add64_of_lt (by omega)⟩

theorem startTime_lt {time : Nat} (h : startTime clock machAbsoluteTime delay = some time) :
    time < 2 ^ 64 := by
  unfold startTime Checked.add64 Checked.unsigned at h
  split_ifs at h with hlt
  rw [← Option.some.inj h]
  exact hlt

end Times

section Targets

variable {sampleRate : UInt32} {target milliseconds : Binary64}

theorem isTarget_ofInt {n : Nat} (hn : n ≤ 350) : IsTarget (ofInt n) := by
  obtain ⟨x, hx, -, hvalue⟩ := @ofInt_of_lt n (by omega)
  refine ⟨x, hx, ?_, ?_⟩
  · rw [hvalue]
    exact Nat.cast_nonneg n
  · rw [hvalue]
    exact_mod_cast hn

/-- A number of milliseconds gives at most so many frames. -/
theorem exists_framesFor_le (hrate : sampleRate.toNat ≤ 192000) {x : Finite} {most : Nat}
    (hmost : most ≤ 2 ^ 40) (h : sampleRate.toNat * |x.value| ≤ 1000 * most) :
    ∃ frames, framesFor sampleRate (.finite x) = some frames ∧ frames ≤ most := by
  obtain ⟨rate, hrateEq, -, hrateValue⟩ := @ofInt_of_lt sampleRate.toNat (by omega)
  obtain ⟨second, hsecond, hsign, hvalue⟩ := @ofInt_of_lt 1000 (by norm_num)
  obtain ⟨product, -, hproduct⟩ := @exists_finite_of_lt (1000 * most) (by omega)
  obtain ⟨bound, -, hbound⟩ := @exists_finite_of_lt most (by omega)
  have hmul : |rate.value| * |x.value| ≤ product.magnitude := by
    rw [hproduct, hrateValue, abs_of_nonneg (Nat.cast_nonneg _)]
    push_cast
    exact h
  obtain ⟨y, hy, hyLe⟩ := mul_bounded hmul
  have hmagnitude : second.magnitude = 1000 := by
    unfold Finite.value at hvalue
    rw [hsign, if_neg Bool.false_ne_true] at hvalue
    exact_mod_cast hvalue
  have hquotient : y.magnitude / second.magnitude ≤ bound.magnitude := by
    rw [hbound, hmagnitude, div_le_iff₀ (by norm_num), ← y.abs_value]
    exact hyLe.trans_eq (by rw [hproduct]; push_cast; ring)
  obtain ⟨z, hz, -, hzLe⟩ := quotient_bounded (by rw [hmagnitude]; norm_num) hquotient
  have hzValue : |z.value| ≤ ((most : Int) : ℚ) := by
    rw [z.abs_value]
    exact hzLe.trans_eq (by rw [hbound]; norm_cast)
  obtain ⟨frames, hframes, -, hle⟩ := toSigned_bounded hzValue (by omega)
  refine ⟨frames, ?_, hle⟩
  have hthousand : ofInt 1000 = .finite second := hsecond
  unfold framesFor
  rw [hrateEq, hy, hthousand, hz, hframes]

/-- A number of milliseconds below the target plus its reserve gives a number of frames. -/
theorem exists_framesFor (hrate : sampleRate.toNat ≤ 192000) {x : Finite} (hlow : 0 ≤ x.value)
    (hhigh : x.value ≤ 420) :
    ∃ frames, framesFor sampleRate (.finite x) = some frames ∧ frames ≤ 80640 := by
  apply exists_framesFor_le hrate (by norm_num)
  have hle : (sampleRate.toNat : ℚ) ≤ 192000 := by exact_mod_cast hrate
  rw [abs_of_nonneg hlow]
  calc (sampleRate.toNat : ℚ) * x.value ≤ 192000 * 420 := mul_le_mul hle hhigh hlow (by norm_num)
    _ = 1000 * ((80640 : Nat) : ℚ) := by norm_num

/-- A positive number of milliseconds gives at least so many frames. -/
theorem le_framesFor (hrate : sampleRate.toNat ≤ 192000) {x : Finite} (hx : x.negative = false)
    {least : Nat} (hleast : least ≤ 2 ^ 40) (h : 1000 * least ≤ sampleRate.toNat * x.value)
    {frames : Int} (hframes : framesFor sampleRate (.finite x) = some frames) :
    (least : Int) ≤ frames := by
  obtain ⟨rate, hrateEq, hrateSign, hrateValue⟩ := @ofInt_of_lt sampleRate.toNat (by omega)
  obtain ⟨second, hsecond, hsign, hvalue⟩ := @ofInt_of_lt 1000 (by norm_num)
  obtain ⟨product, -, hproduct⟩ := @exists_finite_of_lt (1000 * least) (by omega)
  obtain ⟨bound, -, hbound⟩ := @exists_finite_of_lt least (by omega)
  have hmagnitude : second.magnitude = 1000 := by
    unfold Finite.value at hvalue
    rw [hsign, if_neg Bool.false_ne_true] at hvalue
    exact_mod_cast hvalue
  have hthousand : ofInt 1000 = .finite second := hsecond
  have hmul : product.magnitude ≤ rate.magnitude * x.magnitude := by
    unfold Finite.value at hrateValue h
    rw [hrateSign, if_neg Bool.false_ne_true] at hrateValue
    rw [hx, if_neg Bool.false_ne_true] at h
    rw [hproduct, hrateValue]
    push_cast
    exact h
  unfold framesFor at hframes
  rw [hrateEq, hthousand] at hframes
  cases hy : (Binary64.finite rate).mul (.finite x) with
  | nan =>
      rw [hy] at hframes
      cases hframes
  | infinite negative =>
      rw [hy] at hframes
      cases hframes
  | finite y =>
      have hround : round (rate.negative != x.negative) (rate.magnitude * x.magnitude) =
          .finite y := hy
      have hyLe := le_round hmul hround
      have hySign : y.negative = false := by
        rw [(ofParts_eq hround).1, hrateSign, hx]
        rfl
      rw [hy] at hframes
      cases hz : (Binary64.finite y).div (.finite second) with
      | nan =>
          rw [hz] at hframes
          cases hframes
      | infinite negative =>
          rw [hz] at hframes
          cases hframes
      | finite z =>
          have hquotient : round (y.negative != second.negative)
              (y.magnitude / second.magnitude) = .finite z := by
            unfold div at hz
            dsimp only at hz
            rw [if_neg (by rw [hmagnitude]; norm_num)] at hz
            exact hz
          have hzLe : bound.magnitude ≤ z.magnitude := by
            apply le_round _ hquotient
            rw [hbound, hmagnitude, le_div_iff₀ (by norm_num)]
            calc (least : ℚ) * 1000 = product.magnitude := by rw [hproduct]; push_cast; ring
              _ ≤ y.magnitude := hyLe
          have hzSign : z.negative = false := by
            rw [(ofParts_eq hquotient).1, hySign, hsign]
            rfl
          rw [hz] at hframes
          have hfloor : frames = ⌊z.magnitude⌋ := by
            have hvalue := Checked.signed_eq hframes
            rw [hzSign, if_neg Bool.false_ne_true] at hvalue
            exact hvalue
          rw [hfloor]
          apply Int.le_floor.mpr
          exact_mod_cast hbound ▸ hzLe

theorem IsTarget.framesFor (h : IsTarget target) (hrate : sampleRate.toNat ≤ 192000) :
    ∃ frames, framesFor sampleRate target = some frames ∧ frames ≤ 80640 := by
  obtain ⟨x, rfl, hlow, hhigh⟩ := h
  exact exists_framesFor hrate hlow (by linarith)

/-- A target and a reserve. -/
theorem IsTarget.add (h : IsTarget target) {n : Nat} (hn : n ≤ 70) :
    ∃ x, target.add (ofInt n) = .finite x ∧ 0 ≤ x.value ∧ x.value ≤ 420 := by
  obtain ⟨x, rfl, hlow, hhigh⟩ := h
  obtain ⟨reserve, hreserve, -, hvalue⟩ := @ofInt_of_lt n (by omega)
  obtain ⟨bound, -, hbound⟩ := @exists_finite_of_lt 420 (by norm_num)
  have hle : (n : ℚ) ≤ 70 := by exact_mod_cast hn
  have hsum : x.value + reserve.value ≤ bound.magnitude := by
    rw [hbound, hvalue]
    norm_num
    linarith
  obtain ⟨z, hz, hzLow, hzHigh⟩ :=
    add_nonneg_bounded hlow (hvalue ▸ Nat.cast_nonneg n) hsum
  refine ⟨z, ?_, hzLow, hzHigh.trans (by rw [hbound]; norm_num)⟩
  rw [hreserve]
  exact hz

theorem IsTarget.reserve (h : IsTarget target) (hrate : sampleRate.toNat ≤ 192000) :
    ∃ frames, PlaybackTiming.framesFor sampleRate (target.add (ofInt 70)) = some frames ∧
      frames ≤ 80640 := by
  obtain ⟨x, hx, hlow, hhigh⟩ := @IsTarget.add target h 70 le_rfl
  have hsum : target.add (ofInt 70) = .finite x := hx
  rw [hsum]
  exact exists_framesFor hrate hlow hhigh

/-- The sum of a target and its reserve, up to a millisecond. -/
theorem reserve_ge {x : Finite} (hx : 0 ≤ x.value) (hhigh : x.value ≤ 350) :
    ∃ z, add (.finite x) (ofInt 70) = .finite z ∧ z.negative = false ∧
      x.value + 69 ≤ z.value := by
  obtain ⟨reserve, hreserve, -, hvalue⟩ := @ofInt_of_lt 70 (by norm_num)
  obtain ⟨z, hz, -, -⟩ := @IsTarget.add (.finite x) ⟨x, rfl, hx, hhigh⟩ 70 le_rfl
  have hadd : add (.finite x) (ofInt 70) = .finite z := hz
  have hfloorLow : 0 ≤ ⌊x.value⌋ := Int.floor_nonneg.mpr hx
  have hfloorHigh : ⌊x.value⌋ ≤ 350 := Int.floor_le_iff.mpr (by push_cast; linarith)
  obtain ⟨floor, hfloor⟩ := Int.eq_ofNat_of_zero_le hfloorLow
  obtain ⟨bound, -, hbound⟩ := @exists_finite_of_lt (floor + 70) (by omega)
  have hfloorValue : (floor : ℚ) ≤ x.value ∧ x.value < floor + 1 := by
    have hboth := Int.floor_eq_iff.mp hfloor
    push_cast at hboth
    exact hboth
  have hpositive : 0 < x.value + reserve.value := by
    rw [hvalue]
    push_cast
    linarith
  have hround : round (decide (x.value + reserve.value < 0)) |x.value + reserve.value| =
      .finite z := by
    have hsum : add (.finite x) (ofInt 70) = .finite z := hadd
    have hseventy : ofInt 70 = .finite reserve := hreserve
    rw [hseventy] at hsum
    unfold add at hsum
    dsimp only at hsum
    rw [if_neg hpositive.ne'] at hsum
    exact hsum
  have hsign : z.negative = false := by
    rw [(ofParts_eq hround).1]
    exact decide_eq_false (not_lt.mpr hpositive.le)
  refine ⟨z, hadd, hsign, ?_⟩
  have hle : bound.magnitude ≤ z.magnitude := by
    apply le_round _ hround
    rw [abs_of_pos hpositive, hbound, hvalue]
    push_cast
    linarith
  unfold Finite.value
  rw [hsign, if_neg Bool.false_ne_true]
  rw [hbound] at hle
  push_cast at hle
  unfold Finite.value at hfloorValue
  linarith

/-- The reserve is worth a frame at least. -/
theorem IsTarget.framesFor_lt (h : IsTarget target) (hlow : 8000 ≤ sampleRate.toNat)
    (hhigh : sampleRate.toNat ≤ 192000) {prebufferFrames targetFrames : Int}
    (hprebuffer : PlaybackTiming.framesFor sampleRate target = some prebufferFrames)
    (htarget : PlaybackTiming.framesFor sampleRate (target.add (ofInt 70)) = some targetFrames) :
    prebufferFrames < targetFrames ∧ 0 < targetFrames := by
  obtain ⟨x, rfl, hx, hxLe⟩ := h
  obtain ⟨z, hz, hsign, hge⟩ := reserve_ge hx hxLe
  have hlowValue : (8000 : ℚ) ≤ sampleRate.toNat := by exact_mod_cast hlow
  have hhighValue : (sampleRate.toNat : ℚ) ≤ 192000 := by exact_mod_cast hhigh
  have hproductLow : 0 ≤ (sampleRate.toNat : ℚ) * x.value :=
    mul_nonneg (Nat.cast_nonneg _) hx
  have hproduct : (sampleRate.toNat : ℚ) * x.value ≤ 192000 * 350 :=
    mul_le_mul hhighValue hxLe hx (by norm_num)
  obtain ⟨most, hmost⟩ := Int.eq_ofNat_of_zero_le
    (Int.ceil_nonneg (div_nonneg hproductLow (by norm_num : (0 : ℚ) ≤ 1000)))
  have hceil : sampleRate.toNat * x.value / 1000 ≤ most ∧
      (most : ℚ) < sampleRate.toNat * x.value / 1000 + 1 := by
    constructor
    · exact_mod_cast (Int.le_ceil _).trans_eq (congrArg Int.cast hmost)
    · have hlt := Int.ceil_lt_add_one ((sampleRate.toNat : ℚ) * x.value / 1000)
      rw [hmost] at hlt
      exact_mod_cast hlt
  have hmostLe : most ≤ 2 ^ 20 := by
    have hbound : (most : ℚ) ≤ 2 ^ 20 := by linarith [hceil.2]
    exact_mod_cast hbound
  obtain ⟨frames, hframes, hle⟩ := @exists_framesFor_le sampleRate hhigh x most (by omega) (by
    rw [abs_of_nonneg hx]
    linarith [hceil.1])
  have hmore : (((most + 1 : Nat) : Int)) ≤ targetFrames := by
    apply le_framesFor hhigh hsign (by omega) _ (hz ▸ htarget)
    have hreserve : sampleRate.toNat * (x.value + 69) ≤ sampleRate.toNat * z.value :=
      mul_le_mul_of_nonneg_left hge (Nat.cast_nonneg _)
    have hpart : (8000 : ℚ) * 69 ≤ sampleRate.toNat * 69 := by linarith
    push_cast
    linarith [hceil.2]
  have hsame : frames = prebufferFrames := Option.some.inj (hframes.symm.trans hprebuffer)
  omega

/-- Below 350 a number is a target unless it is negative. -/
theorem isTarget_smaller (h : ∀ x, milliseconds = .finite x → 0 ≤ x.value)
    (hinfinite : milliseconds ≠ .infinite true) : IsTarget (smaller (ofInt 350) milliseconds) := by
  obtain ⟨most, hmost, -, hvalue⟩ := @ofInt_of_lt 350 (by norm_num)
  have hlimit : ofInt 350 = .finite most := hmost
  unfold smaller
  split_ifs with hlt
  · rw [hlimit] at hlt
    cases milliseconds with
    | finite x =>
        have hless : x.value < most.value := of_decide_eq_true hlt
        rw [hvalue] at hless
        exact ⟨x, rfl, h x rfl, by exact_mod_cast hless.le⟩
    | infinite negative =>
        cases negative with
        | true => exact absurd rfl hinfinite
        | false => cases hlt
    | nan => cases hlt
  · exact isTarget_ofInt le_rfl

/-- Whatever the receiver asks for. -/
theorem isTarget_clampTarget (milliseconds : Binary64) : IsTarget (clampTarget milliseconds) := by
  obtain ⟨least, hleast, -, hvalue⟩ := @ofInt_of_lt 120 (by norm_num)
  have hlimit : ofInt 120 = .finite least := hleast
  have hpos : 0 ≤ least.value := hvalue ▸ Nat.cast_nonneg _
  unfold clampTarget larger
  rw [hlimit]
  split_ifs with hle
  · apply isTarget_smaller
    · rintro x rfl
      have hmore : least.value ≤ x.value := of_decide_eq_true hle
      linarith
    · rintro rfl
      cases hle
  · apply isTarget_smaller
    · intro x hx
      cases hx
      exact hpos
    · exact nofun

theorem IsTarget.raise (h : IsTarget target) : IsTarget (raiseTarget target) := by
  obtain ⟨x, hx, hlow, -⟩ := @IsTarget.add target h 20 (by norm_num)
  have hsum : target.add (ofInt 20) = .finite x := hx
  unfold raiseTarget
  rw [hsum]
  apply isTarget_smaller
  · intro y hy
    cases hy
    exact hlow
  · exact nofun

end Targets

end PlaybackTiming

end SyncAudio
