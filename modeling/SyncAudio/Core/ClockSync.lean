import Mathlib.Data.Rat.Floor
import SyncAudio.Lib.Rounding
import SyncAudio.Lib.Word

/-!
# The clock estimate of one exchange

`ClockSyncMath::estimate` gets four timestamps: the request is sent at `t1`,
reaches the host at `t2`, the response is sent at `t3` and arrives at `t4`.
The host's clock minus the client's is estimated as the mean of `t2 - t1` and
`t3 - t4`.

## Implementation notes

The steps on `long double` values are exact steps on rational numbers.
-/

namespace SyncAudio

inductive ClockSyncMessageType where
  | request
  | response
  deriving DecidableEq, Repr

structure ClockSyncMessage where
  type : ClockSyncMessageType := .request
  requestId : UInt32 := 0
  clientSendTimestampNanoseconds : UInt64 := 0
  hostReceiveTimestampNanoseconds : UInt64 := 0
  hostSendTimestampNanoseconds : UInt64 := 0
  deriving DecidableEq, Repr

structure ClockSyncEstimate where
  hostMinusClientOffset : Int
  roundTripTime : Int
  samples : UInt32 := 0
  clientSampleTimestampNanoseconds : Int
  deriving DecidableEq, Repr

namespace ClockSyncMath

/-- The largest signed value of 64 bits. -/
def maximum : Nat := 2 ^ 63 - 1

/-- The four timestamps, as the `long double` values they are converted to. -/
structure Exchange where
  t1 : ℚ
  t2 : ℚ
  t3 : ℚ
  t4 : ℚ

namespace Exchange

def roundTrip (e : Exchange) : ℚ := (e.t4 - e.t1) - (e.t3 - e.t2)

def offset (e : Exchange) : ℚ := ((e.t2 - e.t1) + (e.t3 - e.t4)) / 2

end Exchange

def exchange (clientSend hostReceive hostSend clientReceive : UInt64) : Exchange where
  t1 := clientSend.toNat
  t2 := hostReceive.toNat
  t3 := hostSend.toNat
  t4 := clientReceive.toNat

/-- The check on the timestamps themselves. -/
def InvalidTimestamps (clientSend hostReceive hostSend clientReceive : UInt64) : Prop :=
  clientSend.toNat > maximum ∨ hostReceive.toNat > maximum ∨ hostSend.toNat > maximum ∨
    clientReceive.toNat > maximum ∨ clientReceive < clientSend ∨ hostSend < hostReceive

instance (clientSend hostReceive hostSend clientReceive : UInt64) :
    Decidable (InvalidTimestamps clientSend hostReceive hostSend clientReceive) :=
  inferInstanceAs (Decidable (_ ∨ _))

def estimate (clientSend hostReceive hostSend clientReceive : UInt64) :
    Except String ClockSyncEstimate :=
  if InvalidTimestamps clientSend hostReceive hostSend clientReceive then
    .error "Clock-sync timestamps are invalid"
  else
    let e := exchange clientSend hostReceive hostSend clientReceive
    if e.roundTrip < 0 ∨ e.roundTrip > maximum ∨ |e.offset| > maximum then
      .error "Clock-sync timing sample is invalid"
    else
      .ok {
        hostMinusClientOffset := lround e.offset
        roundTripTime := lround e.roundTrip
        samples := 1
        clientSampleTimestampNanoseconds :=
          (clientSend + (clientReceive - clientSend) / 2).toInt64.toInt }

section Exact

variable {e : Exchange}

/-- The error of the offset is half the difference of the two delays. -/
theorem Exchange.abs_offset_sub_le {theta d1 d2 : ℚ} (hd1 : 0 ≤ d1) (hd2 : 0 ≤ d2)
    (hforward : e.t2 = e.t1 + theta + d1) (hback : e.t4 = e.t3 - theta + d2) :
    |e.offset - theta| ≤ e.roundTrip / 2 := by
  have hoffset : e.offset - theta = (d1 - d2) / 2 := by
    unfold Exchange.offset
    rw [hforward, hback]
    ring
  have hroundTrip : e.roundTrip = d1 + d2 := by
    unfold Exchange.roundTrip
    rw [hforward, hback]
    ring
  rw [hoffset, hroundTrip]
  exact abs_le.mpr ⟨by linarith, by linarith⟩

/-- The steps of the estimate on timestamps of 63 bits. -/
structure Exchange.InRange (e : Exchange) : Prop where
  clientElapsed : |e.t4 - e.t1| ≤ maximum
  hostElapsed : |e.t3 - e.t2| ≤ maximum
  forward : |e.t2 - e.t1| ≤ maximum
  back : |e.t3 - e.t4| ≤ maximum
  /-- The sum needs the whole significand of 64 bits. -/
  sum : |(e.t2 - e.t1) + (e.t3 - e.t4)| < 2 ^ 64
  roundTrip_le : e.roundTrip ≤ maximum
  abs_offset_le : |e.offset| ≤ maximum

theorem Exchange.inRange (h1 : 0 ≤ e.t1 ∧ e.t1 ≤ maximum) (h2 : 0 ≤ e.t2 ∧ e.t2 ≤ maximum)
    (h3 : 0 ≤ e.t3 ∧ e.t3 ≤ maximum) (h4 : 0 ≤ e.t4 ∧ e.t4 ≤ maximum) (hhost : e.t2 ≤ e.t3) :
    e.InRange := by
  have hmaximum : (maximum : ℚ) = 2 ^ 63 - 1 := by norm_num [maximum]
  constructor
  · exact abs_le.mpr ⟨by linarith, by linarith⟩
  · exact abs_le.mpr ⟨by linarith, by linarith⟩
  · exact abs_le.mpr ⟨by linarith, by linarith⟩
  · exact abs_le.mpr ⟨by linarith, by linarith⟩
  · exact abs_lt.mpr ⟨by linarith, by linarith⟩
  · unfold Exchange.roundTrip
    linarith
  · unfold Exchange.offset
    exact abs_le.mpr ⟨by linarith, by linarith⟩

end Exact

section Estimate

variable {clientSend hostReceive hostSend clientReceive : UInt64}

/-- The middle of the exchange on the client's clock: nothing wraps. -/
theorem sampleTime_eq (hle : clientSend ≤ clientReceive)
    (hmaximum : clientReceive.toNat ≤ maximum) :
    (clientSend + (clientReceive - clientSend) / 2).toInt64.toInt =
      (clientSend.toNat + (clientReceive.toNat - clientSend.toNat) / 2 : Nat) := by
  have hlt : clientReceive.toNat < 2 ^ 63 := Nat.lt_of_le_of_lt hmaximum (by decide)
  have hle' : clientSend.toNat ≤ clientReceive.toNat := UInt64.le_iff_toNat_le.mp hle
  have hsum : (clientSend + (clientReceive - clientSend) / 2).toNat =
      clientSend.toNat + (clientReceive.toNat - clientSend.toNat) / 2 := by
    have hhalf : ((clientReceive - clientSend) / 2).toNat =
        (clientReceive.toNat - clientSend.toNat) / 2 := by
      rw [UInt64.toNat_div, UInt64.toNat_sub_of_le _ _ hle]
      rfl
    rw [UInt64.toNat_add, hhalf]
    omega
  calc
    (clientSend + (clientReceive - clientSend) / 2).toInt64.toInt
      = (clientSend + (clientReceive - clientSend) / 2).toBitVec.toInt := rfl
    _ = ((clientSend + (clientReceive - clientSend) / 2).toNat : Int) := by
        apply BitVec.toInt_eq_toNat_of_lt
        change 2 * (clientSend + (clientReceive - clientSend) / 2).toNat < 2 ^ 64
        omega
    _ = _ := by rw [hsum]

theorem not_invalidTimestamps :
    ¬ InvalidTimestamps clientSend hostReceive hostSend clientReceive ↔
      clientSend.toNat ≤ maximum ∧ hostReceive.toNat ≤ maximum ∧ hostSend.toNat ≤ maximum ∧
        clientReceive.toNat ≤ maximum ∧ clientSend ≤ clientReceive ∧ hostReceive ≤ hostSend := by
  simp only [InvalidTimestamps, not_or, gt_iff_lt, Nat.not_lt, UInt64.not_lt]

theorem exchange_inRange (h : ¬ InvalidTimestamps clientSend hostReceive hostSend clientReceive) :
    (exchange clientSend hostReceive hostSend clientReceive).InRange := by
  obtain ⟨h1, h2, h3, h4, -, hhost⟩ := not_invalidTimestamps.mp h
  apply Exchange.inRange
  · exact ⟨Nat.cast_nonneg _, Nat.cast_le.mpr h1⟩
  · exact ⟨Nat.cast_nonneg _, Nat.cast_le.mpr h2⟩
  · exact ⟨Nat.cast_nonneg _, Nat.cast_le.mpr h3⟩
  · exact ⟨Nat.cast_nonneg _, Nat.cast_le.mpr h4⟩
  · exact Nat.cast_le.mpr (UInt64.le_iff_toNat_le.mp hhost)

/-- The round trip in integers. -/
def roundTripNanoseconds (clientSend hostReceive hostSend clientReceive : UInt64) : Int :=
  ((clientReceive.toNat : Int) - clientSend.toNat) - ((hostSend.toNat : Int) - hostReceive.toNat)

theorem roundTrip_eq (clientSend hostReceive hostSend clientReceive : UInt64) :
    (exchange clientSend hostReceive hostSend clientReceive).roundTrip =
      roundTripNanoseconds clientSend hostReceive hostSend clientReceive := by
  unfold Exchange.roundTrip roundTripNanoseconds exchange
  push_cast
  rfl

/-- Behind the first check only the sign of the round trip matters. -/
theorem estimate_cases (clientSend hostReceive hostSend clientReceive : UInt64) :
    InvalidTimestamps clientSend hostReceive hostSend clientReceive ∧
        estimate clientSend hostReceive hostSend clientReceive =
          .error "Clock-sync timestamps are invalid" ∨
      ¬ InvalidTimestamps clientSend hostReceive hostSend clientReceive ∧
        roundTripNanoseconds clientSend hostReceive hostSend clientReceive < 0 ∧
        estimate clientSend hostReceive hostSend clientReceive =
          .error "Clock-sync timing sample is invalid" ∨
      ¬ InvalidTimestamps clientSend hostReceive hostSend clientReceive ∧
        0 ≤ roundTripNanoseconds clientSend hostReceive hostSend clientReceive ∧
        estimate clientSend hostReceive hostSend clientReceive = .ok {
          hostMinusClientOffset :=
            lround (exchange clientSend hostReceive hostSend clientReceive).offset
          roundTripTime := roundTripNanoseconds clientSend hostReceive hostSend clientReceive
          samples := 1
          clientSampleTimestampNanoseconds :=
            (clientSend.toNat + (clientReceive.toNat - clientSend.toNat) / 2 : Nat) } := by
  by_cases hinvalid : InvalidTimestamps clientSend hostReceive hostSend clientReceive
  · exact .inl ⟨hinvalid, if_pos hinvalid⟩
  · have hrange := exchange_inRange hinvalid
    have hroundTrip := roundTrip_eq clientSend hostReceive hostSend clientReceive
    have hbehind : estimate clientSend hostReceive hostSend clientReceive = _ :=
      if_neg hinvalid
    refine .inr ?_
    rw [hbehind]
    dsimp only
    by_cases hnegative : roundTripNanoseconds clientSend hostReceive hostSend clientReceive < 0
    · have hlt : (exchange clientSend hostReceive hostSend clientReceive).roundTrip < 0 := by
        rw [hroundTrip]
        exact_mod_cast hnegative
      exact .inl ⟨hinvalid, hnegative, if_pos (.inl hlt)⟩
    · have hpasses : ¬ ((exchange clientSend hostReceive hostSend clientReceive).roundTrip < 0 ∨
          (exchange clientSend hostReceive hostSend clientReceive).roundTrip > maximum ∨
          |(exchange clientSend hostReceive hostSend clientReceive).offset| > maximum) := by
        rintro (hlt | hgt | hgt)
        · rw [hroundTrip] at hlt
          exact hnegative (by exact_mod_cast hlt)
        · exact absurd hrange.roundTrip_le (not_le.mpr hgt)
        · exact absurd hrange.abs_offset_le (not_le.mpr hgt)
      obtain ⟨-, -, -, hmaximum, hclient, -⟩ := not_invalidTimestamps.mp hinvalid
      refine .inr ⟨hinvalid, Int.not_lt.mp hnegative, ?_⟩
      rw [if_neg hpasses, sampleTime_eq hclient hmaximum, hroundTrip, lround_intCast]

end Estimate

/-- `estimate` rejects exactly what it must. What it returns is the round trip, a time
within the exchange and an offset that is off by at most half the round trip and half
a nanosecond, whatever the delays were. -/
theorem estimate_error_bound (clientSend hostReceive hostSend clientReceive : UInt64) :
    ((∃ message, estimate clientSend hostReceive hostSend clientReceive = .error message) ↔
      InvalidTimestamps clientSend hostReceive hostSend clientReceive ∨
        roundTripNanoseconds clientSend hostReceive hostSend clientReceive < 0) ∧
      ∀ result, estimate clientSend hostReceive hostSend clientReceive = .ok result →
        result.roundTripTime =
            roundTripNanoseconds clientSend hostReceive hostSend clientReceive ∧
          (exchange clientSend hostReceive hostSend clientReceive).InRange ∧
          |result.hostMinusClientOffset| ≤ maximum ∧
          0 ≤ result.roundTripTime ∧ result.roundTripTime ≤ maximum ∧
          (clientSend.toNat : Int) ≤ result.clientSampleTimestampNanoseconds ∧
          result.clientSampleTimestampNanoseconds ≤ clientReceive.toNat ∧
          ∀ (theta : Int) (d1 d2 : ℚ), 0 ≤ d1 → 0 ≤ d2 →
            (hostReceive.toNat : ℚ) = clientSend.toNat + theta + d1 →
            (clientReceive.toNat : ℚ) = hostSend.toNat - theta + d2 →
            |(result.hostMinusClientOffset : ℚ) - theta| ≤
              (result.roundTripTime : ℚ) / 2 + 1 / 2 := by
  rcases estimate_cases clientSend hostReceive hostSend clientReceive with
    ⟨hinvalid, heq⟩ | ⟨hvalid, hnegative, heq⟩ | ⟨hvalid, hnonneg, heq⟩ <;> rw [heq]
  · exact ⟨⟨fun _ => .inl hinvalid, fun _ => ⟨_, rfl⟩⟩, nofun⟩
  · exact ⟨⟨fun _ => .inr hnegative, fun _ => ⟨_, rfl⟩⟩, nofun⟩
  · constructor
    · constructor
      · rintro ⟨message, ⟨⟩⟩
      · rintro (hinvalid | hnegative)
        · exact absurd hinvalid hvalid
        · omega
    · rintro result ⟨⟩
      have hrange := exchange_inRange hvalid
      have hroundTrip := roundTrip_eq clientSend hostReceive hostSend clientReceive
      obtain ⟨-, -, -, -, hclient, -⟩ := not_invalidTimestamps.mp hvalid
      have hclient := UInt64.le_iff_toNat_le.mp hclient
      refine ⟨rfl, hrange, ?_, hnonneg, ?_, ?_, ?_, ?_⟩
      · apply abs_lround_le
        exact_mod_cast hrange.abs_offset_le
      · have hle := hrange.roundTrip_le
        rw [hroundTrip] at hle
        exact_mod_cast hle
      · dsimp only
        omega
      · dsimp only
        omega
      · intro theta d1 d2 hd1 hd2 hforward hback
        have hexact := Exchange.abs_offset_sub_le
          (e := exchange clientSend hostReceive hostSend clientReceive) hd1 hd2 hforward hback
        have hrounded := abs_lround_sub_le
          (exchange clientSend hostReceive hostSend clientReceive).offset
        rw [hroundTrip] at hexact
        calc
          |((lround (exchange clientSend hostReceive hostSend clientReceive).offset : Int) : ℚ) -
              theta|
            ≤ |((lround (exchange clientSend hostReceive hostSend clientReceive).offset : Int) : ℚ) -
                (exchange clientSend hostReceive hostSend clientReceive).offset| +
              |(exchange clientSend hostReceive hostSend clientReceive).offset - theta| :=
                abs_sub_le _ _ _
          _ ≤ _ := by linarith

end ClockSyncMath

end SyncAudio
