import SyncAudio.Ios.ClockSyncWire
import SyncAudio.Lib.ShortestDecimal

/-!
# The health report of the phone

`reportClientState` collects the numbers of a report, and `updateClientState` makes the
`CLIENT_STATE` line of them. The offset and the round trip come from the clock estimate.

## Implementation notes

The clock estimate has the doubles of the code here: the differences of the four times
and the choice of the filter, as in `response` and `add`. A report carries neither the
drift nor the quality of an estimate, so they are left out, with the traps of the drift.
-/

namespace SyncAudio

open Text Binary64 FloatText

/-- `ClockEstimate`, with its doubles. -/
structure DoubleEstimate where
  offsetNanoseconds : Binary64
  roundTripNanoseconds : Binary64
  measuredAtNanoseconds : UInt64
  deriving DecidableEq, Repr

namespace DoubleEstimate

def offsetMilliseconds (estimate : DoubleEstimate) : Binary64 :=
  div estimate.offsetNanoseconds (Binary64.ofInt 1000000)

def roundTripMilliseconds (estimate : DoubleEstimate) : Binary64 :=
  div estimate.roundTripNanoseconds (Binary64.ofInt 1000000)

end DoubleEstimate

namespace ClockSyncWire

/-- The checks of `response` up to the two times of the host. -/
def hostTimes (data : List UInt8) (id : UInt32) (sentAt receivedAt : UInt64) :
    Option (Option (UInt64 × UInt64)) :=
  if data.length ≠ messageSize ∨ data.take 4 ≠ magic then some none
  else do
    let version ← data[4]?
    let type ← data[5]?
    let sizeHigh ← data[6]?
    let sizeLow ← data[7]?
    let responseID ← read32 data 8
    let echoed ← read64 data 16
    if version ≠ 1 ∨ type ≠ 2 ∨ sizeHigh ≠ 0 ∨ sizeLow ≠ UInt8.ofNat messageSize ∨
        responseID ≠ id ∨ echoed ≠ sentAt ∨ receivedAt < sentAt then some none
    else do
      let hostReceive ← read64 data 24
      let hostSend ← read64 data 32
      some (some (hostReceive, hostSend))

/-- `Double(time)`. -/
def double (time : UInt64) : Binary64 := Binary64.ofInt time.toNat

/-- `sample`, with doubles. -/
def doubleSample (hostReceive hostSend sentAt receivedAt : UInt64) :
    Option (Option DoubleEstimate) :=
  if hostSend < hostReceive then some none
  else do
    let elapsed ← ClockSampleFilter.checkedSub receivedAt sentAt
    let held ← ClockSampleFilter.checkedSub hostSend hostReceive
    let roundTrip := sub (double elapsed) (double held)
    if le zero roundTrip && lt roundTrip (Binary64.ofInt 1000000000) then
      some (some {
        offsetNanoseconds :=
          div (add (sub (double hostReceive) (double sentAt))
            (sub (double hostSend) (double receivedAt))) (Binary64.ofInt 2)
        roundTripNanoseconds := roundTrip
        measuredAtNanoseconds := receivedAt })
    else some none

/-- `response`, with doubles. -/
def doubleResponse (data : List UInt8) (id : UInt32) (sentAt receivedAt : UInt64) :
    Option (Option DoubleEstimate) :=
  (hostTimes data id sentAt receivedAt).bind fun times =>
    times.elim (some none) fun (hostReceive, hostSend) =>
      doubleSample hostReceive hostSend sentAt receivedAt

/-- The checks are those of `response`. -/
theorem response_eq (data : List UInt8) (id : UInt32) (sentAt receivedAt : UInt64) :
    response data id sentAt receivedAt =
      (hostTimes data id sentAt receivedAt).bind fun times =>
        times.elim (some none) fun (hostReceive, hostSend) =>
          sample hostReceive hostSend sentAt receivedAt := by
  unfold response hostTimes
  split_ifs with hheader
  · rfl
  · simp only [Option.bind_eq_bind, Option.bind_assoc]
    apply Option.bind_congr
    intro version hversion
    apply Option.bind_congr
    intro type htype
    apply Option.bind_congr
    intro sizeHigh hhigh
    apply Option.bind_congr
    intro sizeLow hlow
    apply Option.bind_congr
    intro responseID hid
    apply Option.bind_congr
    intro echoed hechoed
    split_ifs with hfields
    · rfl
    · simp only [Option.bind_assoc]
      rfl

end ClockSyncWire

namespace ClockSampleFilter

/-- `min()` of some doubles. -/
def minimum? : List Binary64 → Option Binary64
  | [] => none
  | first :: rest => some (rest.foldl (fun least x => if x.lt least then x else least) first)

/-- `appended`, with doubles. -/
def doubleAppended (samples : List DoubleEstimate) (sample : DoubleEstimate) :
    List DoubleEstimate :=
  let samples := samples ++ [sample]
  if samples.length > 16 then samples.drop 1 else samples

/-- The three fastest of the last eight samples. -/
def fastest (std : SortAlgorithm) (samples : List DoubleEstimate) : List DoubleEstimate :=
  (std.sort (fun e => e.roundTripNanoseconds.toRat) (samples.drop (samples.length - 8))).take 3

/-- `add`, with doubles. -/
def doubleAdd (std : SortAlgorithm) (samples : List DoubleEstimate) (sample : DoubleEstimate) :
    Option (DoubleEstimate × List DoubleEstimate) := do
  let samples := doubleAppended samples sample
  let fast := fastest std samples
  let sortedOffsets := std.sort toRat (fast.map DoubleEstimate.offsetNanoseconds)
  let median ← sortedOffsets[sortedOffsets.length / 2]?
  let minimumRTT := (minimum? (fast.map DoubleEstimate.roundTripNanoseconds)).getD
    sample.roundTripNanoseconds
  some
    ({ offsetNanoseconds := median
       roundTripNanoseconds := minimumRTT
       measuredAtNanoseconds := sample.measuredAtNanoseconds }, samples)

/-- The samples that the filter keeps after some responses. -/
def doubleAddAll (std : SortAlgorithm) (samples : List DoubleEstimate) :
    Option (List DoubleEstimate) :=
  samples.foldlM (fun kept sample => (doubleAdd std kept sample).map Prod.snd) []

end ClockSampleFilter

/-- A sample that `response` takes of some message. -/
def DoubleEstimate.IsSample (sample : DoubleEstimate) : Prop :=
  ∃ data id sentAt receivedAt,
    ClockSyncWire.doubleResponse data id sentAt receivedAt = some (some sample)

/-- An estimate that the filter draws from the samples of a run. -/
def DoubleEstimate.Produced (std : SortAlgorithm) (estimate : DoubleEstimate) : Prop :=
  ∃ samples sample kept after, (∀ e ∈ samples ++ [sample], e.IsSample) ∧
    ClockSampleFilter.doubleAddAll std samples = some kept ∧
    ClockSampleFilter.doubleAdd std kept sample = some (estimate, after)

inductive ReceiverConnectionState where
  | disconnected
  | discovering
  | connecting
  | syncing
  | buffering
  | playing
  | degraded
  | reconnecting
  deriving DecidableEq, Repr

/-- What `reportClientState` reads of the view model. -/
structure ClientStatus where
  connectionState : ReceiverConnectionState
  clockEstimate : Option DoubleEstimate := none
  networkJitterMilliseconds : Binary64 := zero
  packetLossPercent : Binary64 := zero
  queuedMilliseconds : Binary64 := zero
  estimatedSyncErrorMilliseconds : Option Binary64 := none
  effectiveOutputLatencyMilliseconds : Option Binary64 := none
  outputRouteType : String := "Unknown"

namespace HostControlChannel

/-- The characters of a route that the host accepts; any other byte becomes a low line. -/
def routeCharacter (byte : UInt8) : Char :=
  if (48 ≤ byte ∧ byte ≤ 57) ∨ (65 ≤ byte ∧ byte ≤ 90) ∨ (97 ≤ byte ∧ byte ≤ 122) ∨ byte = 45 then
    Char.ofNat byte.toNat
  else '_'

def routeText (outputRoute : String) : Text :=
  (outputRoute.toUTF8.data.toList.take 32).map routeCharacter

/-- `latestClientState`, unless a number is not finite. -/
def updateClientState (state : Text)
    (rtt jitter loss buffer syncError outputLatency offset : Binary64) (outputRoute : String) :
    Option Text :=
  let values := [rtt, jitter, loss, buffer, syncError, outputLatency, offset]
  if values.all isFinite then
    some ("CLIENT_STATE ".toList ++ state ++ ' ' :: joinWords (values.map description) ++
      ' ' :: routeText outputRoute)
  else none

end HostControlChannel

namespace ReceiverViewModel

/-- The name of a state in a report. -/
def stateName : ReceiverConnectionState → Text
  | .playing => "SYNCED".toList
  | .degraded => "DEGRADED".toList
  | .buffering => "BUFFERING".toList
  | .syncing => "SYNCING".toList
  | .reconnecting => "RECONNECTING".toList
  | _ => "CONNECTED".toList

/-- The report, behind the guard that keeps two reports a second apart. -/
def reportClientState (status : ClientStatus) : Option Text :=
  HostControlChannel.updateClientState (stateName status.connectionState)
    ((status.clockEstimate.map DoubleEstimate.roundTripMilliseconds).getD zero)
    status.networkJitterMilliseconds
    status.packetLossPercent
    status.queuedMilliseconds
    (status.estimatedSyncErrorMilliseconds.getD zero)
    (status.effectiveOutputLatencyMilliseconds.getD zero)
    ((status.clockEstimate.map DoubleEstimate.offsetMilliseconds).getD zero)
    status.outputRouteType

end ReceiverViewModel

section Estimates

variable {std : SortAlgorithm} {samples kept after : List DoubleEstimate}
  {sample estimate : DoubleEstimate}

/-- The numbers of an estimate are finite, and the round trip takes less than a second. -/
structure DoubleEstimate.Credible (estimate : DoubleEstimate) : Prop where
  offset : ∃ x, estimate.offsetNanoseconds = .finite x
  roundTrip : ∃ x, estimate.roundTripNanoseconds = .finite x ∧ x.magnitude ≤ 10 ^ 9

namespace ClockSyncWire

variable {hostReceive hostSend sentAt receivedAt : UInt64}

theorem double_bounded (time : UInt64) : ∃ x, double time = .finite x ∧ |x.value| ≤ 2 ^ 64 := by
  obtain ⟨bound, hbound⟩ := exists_two_pow (k := 64) (by decide)
  have hle : |((time.toNat : Int) : ℚ)| ≤ bound.magnitude := by
    rw [hbound, Int.cast_natCast, abs_of_nonneg (Nat.cast_nonneg _)]
    exact_mod_cast time.toNat_lt.le
  rw [← hbound]
  exact ofRat_bounded hle

theorem sub_double_bounded (a b : UInt64) :
    ∃ x, sub (double a) (double b) = .finite x ∧ |x.value| ≤ 2 ^ 65 := by
  obtain ⟨x, hx, hxle⟩ := double_bounded a
  obtain ⟨y, hy, hyle⟩ := double_bounded b
  obtain ⟨bound, hbound⟩ := exists_two_pow (k := 65) (by decide)
  rw [hx, hy, ← hbound]
  apply sub_bounded
  rw [hbound]
  linarith

theorem offset_finite (hostReceive hostSend sentAt receivedAt : UInt64) :
    ∃ x, div (add (sub (double hostReceive) (double sentAt))
      (sub (double hostSend) (double receivedAt))) (Binary64.ofInt 2) = .finite x := by
  obtain ⟨x, hx, hxle⟩ := sub_double_bounded hostReceive sentAt
  obtain ⟨y, hy, hyle⟩ := sub_double_bounded hostSend receivedAt
  obtain ⟨bound, hbound⟩ := exists_two_pow (k := 66) (by decide)
  obtain ⟨sum, hsum, -⟩ := @add_bounded x y bound (by rw [hbound]; linarith)
  obtain ⟨two, htwo, -, hvalue⟩ := ofInt_of_lt (n := 2) (by decide)
  have hone : 1 ≤ two.magnitude := by
    rw [← two.abs_value, hvalue]
    norm_num
  obtain ⟨z, hz, -⟩ := @div_bounded sum two hone
  have htwo : Binary64.ofInt 2 = .finite two := htwo
  rw [hx, hy, hsum, htwo]
  exact ⟨z, hz⟩

theorem doubleSample_credible
    (h : doubleSample hostReceive hostSend sentAt receivedAt = some (some sample)) :
    sample.Credible := by
  unfold doubleSample at h
  split_ifs at h with hhost
  · cases h
  obtain ⟨elapsed, -, h⟩ := Option.bind_eq_some_iff.mp h
  obtain ⟨held, -, h⟩ := Option.bind_eq_some_iff.mp h
  obtain ⟨x, hx, -⟩ := sub_double_bounded elapsed held
  obtain ⟨second, hsecond, -, hvalue⟩ := ofInt_of_lt (n := 1000000000) (by decide)
  have hsecond : Binary64.ofInt 1000000000 = .finite second := hsecond
  dsimp only at h
  obtain ⟨start, hstart, hzero⟩ := exists_zero
  rw [hx, hsecond, hstart] at h
  split_ifs at h with hrange
  · cases h
    obtain ⟨hlow, hhigh⟩ := Bool.and_eq_true_iff.mp hrange
    have hlow : start.value ≤ x.value := of_decide_eq_true hlow
    have hhigh : x.value < second.value := of_decide_eq_true hhigh
    rw [hzero] at hlow
    refine ⟨offset_finite hostReceive hostSend sentAt receivedAt, x, rfl, ?_⟩
    rw [← x.abs_value, abs_of_nonneg hlow]
    rw [hvalue] at hhigh
    push_cast at hhigh
    linarith
  · cases h

theorem doubleResponse_credible {data : List UInt8} {id : UInt32}
    (h : doubleResponse data id sentAt receivedAt = some (some sample)) : sample.Credible := by
  obtain ⟨times, -, h⟩ := Option.bind_eq_some_iff.mp h
  cases times with
  | none => cases h
  | some times => exact doubleSample_credible h

end ClockSyncWire

namespace ClockSampleFilter

theorem minimum?_mem {values : List Binary64} {least : Binary64} (h : minimum? values = some least) :
    least ∈ values := by
  have hfold (first : Binary64) (rest : List Binary64) :
      rest.foldl (fun least x => if x.lt least then x else least) first ∈ first :: rest := by
    induction rest generalizing first with
    | nil => exact List.mem_cons_self
    | cons x rest ih =>
        rw [List.foldl_cons]
        split_ifs
        · exact List.mem_cons_of_mem _ (ih x)
        · rcases List.mem_cons.mp (ih first) with hfirst | hrest
          · rw [hfirst]
            exact List.mem_cons_self
          · exact List.mem_cons_of_mem _ (List.mem_cons_of_mem _ hrest)
  cases values with
  | nil => cases h
  | cons first rest =>
      cases h
      exact hfold first rest

theorem mem_doubleAppended (h : estimate ∈ doubleAppended kept sample) :
    estimate ∈ kept ++ [sample] := by
  unfold doubleAppended at h
  dsimp only at h
  split_ifs at h with hmany
  · exact List.mem_of_mem_drop h
  · exact h

theorem mem_fastest (h : estimate ∈ fastest std samples) : estimate ∈ samples :=
  List.mem_of_mem_drop ((std.perm _ _).subset (List.mem_of_mem_take h))

/-- The filter only drops samples, and its estimate has an offset and a round trip of
samples that it has kept. -/
theorem doubleAdd_spec (h : doubleAdd std kept sample = some (estimate, after)) :
    after = doubleAppended kept sample ∧
      (∃ e ∈ kept ++ [sample], e.offsetNanoseconds = estimate.offsetNanoseconds) ∧
      ∃ e ∈ kept ++ [sample], e.roundTripNanoseconds = estimate.roundTripNanoseconds := by
  obtain ⟨median, hmedian, h⟩ := Option.bind_eq_some_iff.mp h
  obtain ⟨rfl, rfl⟩ := Prod.mk.inj (Option.some.inj h)
  have hkept {e : DoubleEstimate} (he : e ∈ fastest std (doubleAppended kept sample)) :
      e ∈ kept ++ [sample] := mem_doubleAppended (mem_fastest he)
  refine ⟨rfl, ?_, ?_⟩
  · have hoffset := (std.perm _ _).subset (List.mem_of_getElem? hmedian)
    obtain ⟨e, he, heq⟩ := List.mem_map.mp hoffset
    exact ⟨e, hkept he, heq⟩
  · dsimp only
    cases hleast : minimum? ((fastest std (doubleAppended kept sample)).map
        DoubleEstimate.roundTripNanoseconds) with
    | none => exact ⟨sample, List.mem_append_right _ List.mem_cons_self, rfl⟩
    | some least =>
        obtain ⟨e, he, heq⟩ := List.mem_map.mp (minimum?_mem hleast)
        exact ⟨e, hkept he, heq⟩

theorem doubleAddAll_credible (hsamples : ∀ e ∈ samples, e.Credible)
    (h : doubleAddAll std samples = some kept) : ∀ e ∈ kept, e.Credible := by
  induction samples using List.reverseRecOn generalizing kept with
  | nil =>
      obtain rfl : [] = kept := Option.some.inj h
      exact fun e he => nomatch he
  | append_singleton samples sample ih =>
      unfold doubleAddAll at h
      rw [List.foldlM_append] at h
      obtain ⟨before, hbefore, h⟩ := Option.bind_eq_some_iff.mp h
      rw [List.foldlM_cons] at h
      obtain ⟨last, hlast, hkept⟩ := Option.bind_eq_some_iff.mp h
      obtain rfl : last = kept := Option.some.inj hkept
      obtain ⟨result, hresult, rfl⟩ := Option.map_eq_some_iff.mp hlast
      obtain ⟨hafter, -, -⟩ := doubleAdd_spec hresult
      have hold := ih (fun e he => hsamples e (List.mem_append_left _ he)) hbefore
      intro e he
      rw [hafter] at he
      rcases List.mem_append.mp (mem_doubleAppended he) with he | he
      · exact hold e he
      · exact hsamples e (List.mem_append_right _ he)

end ClockSampleFilter

namespace DoubleEstimate

/-- Whatever the filter was fed, its estimates are credible. -/
theorem Produced.credible (h : estimate.Produced std) : estimate.Credible := by
  obtain ⟨samples, sample, kept, after, hsamples, hkept, hestimate⟩ := h
  have hall : ∀ e ∈ samples ++ [sample], e.Credible := by
    intro e he
    obtain ⟨data, id, sentAt, receivedAt, hresponse⟩ := hsamples e he
    exact ClockSyncWire.doubleResponse_credible hresponse
  have hold := ClockSampleFilter.doubleAddAll_credible
    (fun e he => hall e (List.mem_append_left _ he)) hkept
  have heach : ∀ e ∈ kept ++ [sample], e.Credible := by
    intro e he
    rcases List.mem_append.mp he with he | he
    · exact hold e he
    · exact hall e (List.mem_append_right _ he)
  obtain ⟨-, ⟨e, he, hoffset⟩, ⟨e', he', hroundTrip⟩⟩ :=
    ClockSampleFilter.doubleAdd_spec hestimate
  constructor
  · rw [← hoffset]
    exact (heach e he).offset
  · rw [← hroundTrip]
    exact (heach e' he').roundTrip

/-- The divisor of both conversions. -/
theorem exists_million : ∃ million : Finite, Binary64.ofInt 1000000 = .finite million ∧
    million.negative = false ∧ million.magnitude = 1000000 := by
  obtain ⟨million, hmillion, hsign, hvalue⟩ := ofInt_of_lt (n := 1000000) (by decide)
  refine ⟨million, hmillion, hsign, ?_⟩
  rw [← million.abs_value, hvalue]
  norm_num

/-- The round trip that is reported. -/
theorem Credible.roundTripMilliseconds (h : estimate.Credible) :
    ∃ z, estimate.roundTripMilliseconds = .finite z ∧ z.magnitude ≤ 1000000 := by
  obtain ⟨x, hx, hle⟩ := h.roundTrip
  obtain ⟨million, hmillion, -, hmagnitude⟩ := exists_million
  have hquotient : x.magnitude / million.magnitude ≤ million.magnitude := by
    rw [hmagnitude, div_le_iff₀ (by norm_num)]
    linarith
  obtain ⟨z, hz, -, hbound⟩ := round_le (x.negative != million.negative)
    (div_nonneg x.magnitude_nonneg million.magnitude_nonneg) hquotient
  refine ⟨z, ?_, hmagnitude ▸ hbound⟩
  unfold DoubleEstimate.roundTripMilliseconds
  rw [hx, hmillion]
  unfold div
  dsimp only
  rw [if_neg (by rw [hmagnitude]; norm_num), hz]

/-- The largest offset in nanoseconds that is a million milliseconds, as a double. -/
def trillion : Finite where
  negative := false
  significand := 8192000000000000
  exponent := -13
  significand_lt := by norm_num
  exponent_ge := by norm_num
  exponent_le := by norm_num
  normal := .inl (by norm_num)

theorem trillion_magnitude : trillion.magnitude = 10 ^ 12 := by
  norm_num [trillion, Finite.magnitude]

/-- The double behind a million. -/
def pastMillion : Finite where
  negative := false
  significand := 8589934592000001
  exponent := -33
  significand_lt := by norm_num
  exponent_ge := by norm_num
  exponent_le := by norm_num
  normal := .inl (by norm_num)

/-- A million milliseconds are a trillion nanoseconds, in doubles too. -/
theorem offsetMilliseconds_le_iff {x : Finite} (hx : estimate.offsetNanoseconds = .finite x) :
    ∃ z, estimate.offsetMilliseconds = .finite z ∧
      (z.magnitude ≤ 1000000 ↔ |estimate.offsetNanoseconds.toRat| ≤ 10 ^ 12) := by
  obtain ⟨million, hmillion, hsign, hmagnitude⟩ := exists_million
  obtain ⟨z, hz, -⟩ := @div_bounded x million (by rw [hmagnitude]; norm_num)
  have hround : round (x.negative != million.negative) (x.magnitude / million.magnitude) =
      .finite z := by
    unfold div at hz
    dsimp only at hz
    rwa [if_neg (by rw [hmagnitude]; norm_num)] at hz
  refine ⟨z, ?_, ?_⟩
  · unfold DoubleEstimate.offsetMilliseconds
    rw [hx, hmillion, hz]
  · have habs : |estimate.offsetNanoseconds.toRat| = x.magnitude := by
      rw [hx]
      exact x.abs_value
    rw [habs]
    constructor
    · intro hle
      by_contra hlt
      have hlarge : trillion.magnitude < x.magnitude := by
        rw [trillion_magnitude]
        exact not_le.mp hlt
      have hnext := magnitude_next (by decide) hlarge
      have hquotient : pastMillion.magnitude ≤ x.magnitude / million.magnitude := by
        rw [hmagnitude, le_div_iff₀ (by norm_num)]
        refine le_trans ?_ hnext
        norm_num [trillion, pastMillion, Finite.magnitude]
      have hbound := le_round hquotient hround
      have hpast : (1000000 : ℚ) < pastMillion.magnitude := by
        norm_num [pastMillion, Finite.magnitude]
      linarith
    · intro hle
      have hquotient : x.magnitude / million.magnitude ≤ million.magnitude := by
        rw [hmagnitude, div_le_iff₀ (by norm_num)]
        linarith
      obtain ⟨w, hw, -, hbound⟩ := round_le (x.negative != million.negative)
        (div_nonneg x.magnitude_nonneg million.magnitude_nonneg) hquotient
      rw [hround] at hw
      cases hw
      exact hmagnitude ▸ hbound

end DoubleEstimate

end Estimates

section Report

variable {std : SortAlgorithm} {status : ClientStatus} {x : Binary64}

/-- A finite number of at most a million. -/
def Moderate (x : Binary64) : Prop := ∃ y, x = .finite y ∧ y.magnitude ≤ 1000000

theorem moderate_zero : Moderate zero := by
  obtain ⟨z, hz, hvalue⟩ := exists_zero
  refine ⟨z, hz, ?_⟩
  rw [← z.abs_value, hvalue, abs_zero]
  norm_num

theorem moderate_getD {metric : Option Binary64} (h : ∀ x ∈ metric, Moderate x) :
    Moderate (metric.getD zero) := by
  cases metric with
  | none => exact moderate_zero
  | some x => exact h x rfl

/-- The numbers of a report that are not taken from the clock estimate. -/
structure ClientStatus.Moderate (status : ClientStatus) : Prop where
  networkJitter : SyncAudio.Moderate status.networkJitterMilliseconds
  packetLoss : SyncAudio.Moderate status.packetLossPercent
  queued : SyncAudio.Moderate status.queuedMilliseconds
  estimatedSyncError : ∀ x ∈ status.estimatedSyncErrorMilliseconds, SyncAudio.Moderate x
  outputLatency : ∀ x ∈ status.effectiveOutputLatencyMilliseconds, SyncAudio.Moderate x

namespace ReceiverViewModel

/-- What follows the keyword in a line. -/
def reportText (status : ClientStatus) (numbers : List Finite) : Text :=
  stateName status.connectionState ++ spaced (numbers.map (fun x => description (.finite x)) ++
    [HostControlChannel.routeText status.outputRouteType])

/-- The numbers of a report: all of them are finite, and all but the offset are small. -/
structure Reported (status : ClientStatus) (rtt jitter loss buffer syncError outputLatency
    offset : Finite) : Prop where
  rtt_le : rtt.magnitude ≤ 1000000
  jitter_le : jitter.magnitude ≤ 1000000
  loss_le : loss.magnitude ≤ 1000000
  buffer_le : buffer.magnitude ≤ 1000000
  syncError_le : syncError.magnitude ≤ 1000000
  outputLatency_le : outputLatency.magnitude ≤ 1000000
  offset_le_iff : offset.magnitude ≤ 1000000 ↔
    ∀ e ∈ status.clockEstimate, |e.offsetNanoseconds.toRat| ≤ 10 ^ 12
  line : reportClientState status = some ("CLIENT_STATE ".toList ++
    reportText status [rtt, jitter, loss, buffer, syncError, outputLatency, offset])

theorem reportLine_eq (keyword state route word : Text) (words : List Text) :
    keyword ++ state ++ ' ' :: joinWords (word :: words) ++ ' ' :: route =
      keyword ++ (state ++ spaced (word :: words ++ [route])) := by
  have hspaced : spaced (word :: words ++ [route]) = ' ' :: joinWords (word :: words) ++ ' ' :: route := by
    unfold spaced
    rw [List.flatMap_append, joinWords_cons]
    simp [spaced]
  rw [hspaced]
  simp only [List.append_assoc, List.cons_append]

theorem exists_reported (hmetrics : status.Moderate)
    (hestimate : ∀ e ∈ status.clockEstimate, e.Produced std) :
    ∃ rtt jitter loss buffer syncError outputLatency offset,
      Reported status rtt jitter loss buffer syncError outputLatency offset := by
  obtain ⟨jitter, hjitter, hjitterLe⟩ := hmetrics.networkJitter
  obtain ⟨loss, hloss, hlossLe⟩ := hmetrics.packetLoss
  obtain ⟨buffer, hbuffer, hbufferLe⟩ := hmetrics.queued
  obtain ⟨syncError, hsyncError, hsyncErrorLe⟩ := moderate_getD hmetrics.estimatedSyncError
  obtain ⟨outputLatency, houtput, houtputLe⟩ := moderate_getD hmetrics.outputLatency
  have hrtt : SyncAudio.Moderate
      ((status.clockEstimate.map DoubleEstimate.roundTripMilliseconds).getD zero) := by
    apply moderate_getD
    intro x hx
    obtain ⟨e, he, rfl⟩ := Option.map_eq_some_iff.mp hx
    exact (hestimate e he).credible.roundTripMilliseconds
  obtain ⟨rtt, hrtt, hrttLe⟩ := hrtt
  have hoffset : ∃ offset,
      (status.clockEstimate.map DoubleEstimate.offsetMilliseconds).getD zero = .finite offset ∧
        (offset.magnitude ≤ 1000000 ↔
          ∀ e ∈ status.clockEstimate, |e.offsetNanoseconds.toRat| ≤ 10 ^ 12) := by
    cases hclock : status.clockEstimate with
    | none =>
        obtain ⟨z, hz, hle⟩ := moderate_zero
        exact ⟨z, hz, iff_of_true hle fun e he => absurd he (Option.not_mem_none e)⟩
    | some e =>
        obtain ⟨x, hx⟩ := (hestimate e hclock).credible.offset
        obtain ⟨z, hz, hiff⟩ := DoubleEstimate.offsetMilliseconds_le_iff hx
        refine ⟨z, hz, hiff.trans ?_⟩
        simp
  obtain ⟨offset, hoffset, hiff⟩ := hoffset
  refine ⟨rtt, jitter, loss, buffer, syncError, outputLatency, offset, hrttLe, hjitterLe, hlossLe,
    hbufferLe, hsyncErrorLe, houtputLe, hiff, ?_⟩
  unfold reportClientState HostControlChannel.updateClientState
  rw [hrtt, hjitter, hloss, hbuffer, hsyncError, houtput, hoffset]
  exact (if_pos rfl).trans (congrArg some (reportLine_eq _ _ _ _ _))

theorem routeCharacter_accepted (byte : UInt8) :
    (isAlnum (HostControlChannel.routeCharacter byte) ||
      HostControlChannel.routeCharacter byte = '_' ||
      HostControlChannel.routeCharacter byte = '-') = true := by
  have hall : ∀ n < 128, (48 ≤ n ∧ n ≤ 57) ∨ (65 ≤ n ∧ n ≤ 90) ∨ (97 ≤ n ∧ n ≤ 122) ∨ n = 45 →
      (isAlnum (Char.ofNat n) || Char.ofNat n = '_' || Char.ofNat n = '-') = true := by
    decide
  unfold HostControlChannel.routeCharacter
  split_ifs with hclass
  · simp only [UInt8.le_iff_toNat_le, UInt8.toNat_ofNat, ← UInt8.toNat_inj] at hclass
    exact hall byte.toNat (by omega) hclass
  · rfl

theorem routeText_length (outputRoute : String) :
    (HostControlChannel.routeText outputRoute).length ≤ 32 := by
  unfold HostControlChannel.routeText
  rw [List.length_map, List.length_take]
  exact Nat.min_le_left 32 _

theorem mem_routeText {outputRoute : String} {c : Char}
    (h : c ∈ HostControlChannel.routeText outputRoute) :
    (isAlnum c || c = '_' || c = '-') = true := by
  obtain ⟨byte, -, rfl⟩ := List.mem_map.mp h
  exact routeCharacter_accepted byte

theorem visible_of_accepted {c : Char} (h : (isAlnum c || c = '_' || c = '-') = true) :
    33 ≤ c.toNat ∧ c.toNat < 127 := by
  simp only [Bool.or_eq_true, decide_eq_true_eq] at h
  rcases h with (halnum | rfl) | rfl
  · exact visible_of_isAlnum halnum
  · decide
  · decide

theorem isGraphic_stateName (state : ReceiverConnectionState) : IsGraphic (stateName state) := by
  apply isGraphic_of_all
  cases state <;> rfl

theorem stateName_length (state : ReceiverConnectionState) : (stateName state).length ≤ 12 := by
  cases state <;> exact of_decide_eq_true rfl

section Line

variable {rtt jitter loss buffer syncError outputLatency offset : Finite}

/-- The line of a report fits, and all of its characters are printable. -/
theorem Reported.line_fits {line : Text}
    (h : Reported status rtt jitter loss buffer syncError outputLatency offset)
    (hline : reportClientState status = some line) :
    line.length ≤ 240 ∧ ∀ c ∈ line, 32 ≤ c.toNat ∧ c.toNat < 127 := by
  obtain rfl := Option.some.inj (h.line.symm.trans hline)
  have hkeyword : ("CLIENT_STATE ".toList.all fun c => 32 ≤ c.toNat && c.toNat < 127) = true := rfl
  have hkeywordLength : "CLIENT_STATE ".toList.length = 13 := rfl
  have hstate := isGraphic_stateName status.connectionState
  unfold reportText
  generalize "CLIENT_STATE ".toList = keyword at hkeyword hkeywordLength
  constructor
  · have hname := stateName_length status.connectionState
    have hroute := routeText_length status.outputRouteType
    have hrtt := description_length rtt
    have hjitter := description_length jitter
    have hloss := description_length loss
    have hbuffer := description_length buffer
    have hsync := description_length syncError
    have houtput := description_length outputLatency
    have hoffset := description_length offset
    simp only [List.map_cons, List.map_nil, spaced, List.flatMap_append, List.flatMap_cons,
      List.flatMap_nil, List.length_append, List.length_cons, List.length_nil]
    omega
  · intro c hc
    have hprintable (hvisible : 33 ≤ c.toNat ∧ c.toNat < 127) : 32 ≤ c.toNat ∧ c.toNat < 127 :=
      ⟨Nat.le_of_succ_le hvisible.1, hvisible.2⟩
    rcases List.mem_append.mp hc with hc | hc
    · simpa using List.all_eq_true.mp hkeyword c hc
    rcases List.mem_append.mp hc with hc | hc
    · exact hprintable (hstate.visible c hc)
    obtain ⟨word, hword, hc⟩ := List.mem_flatMap.mp hc
    rcases List.mem_cons.mp hc with rfl | hc
    · decide
    apply hprintable
    rcases List.mem_append.mp hword with hword | hword
    · obtain ⟨x, -, rfl⟩ := List.mem_map.mp hword
      exact (isGraphic_description x).visible c hc
    · obtain rfl := List.mem_singleton.mp hword
      exact visible_of_accepted (mem_routeText hc)

end Line

end ReceiverViewModel

end Report

section Exchanges

namespace ClockSyncWire

variable {hostReceive hostSend sentAt receivedAt : UInt64}

theorem double_exact {time : UInt64} (h : time.toNat < 2 ^ 53) :
    ∃ x, double time = .finite x ∧ x.value = time.toNat := by
  obtain ⟨x, hx, -, hvalue⟩ := ofInt_of_lt h
  exact ⟨x, hx, hvalue⟩

theorem sub_double_exact {a b : UInt64} (ha : a.toNat < 2 ^ 53) (hle : b.toNat ≤ a.toNat) :
    ∃ x, sub (double a) (double b) = .finite x ∧ x.value = (a.toNat - b.toNat : Nat) := by
  obtain ⟨x, hx, hxvalue⟩ := double_exact ha
  obtain ⟨y, hy, hyvalue⟩ := double_exact (hle.trans_lt ha)
  rw [hx, hy]
  apply sub_exact (by omega)
  rw [hxvalue, hyvalue, Nat.cast_sub hle]

/-- The sample of an exchange with a host whose clock is ahead by a whole number. -/
theorem doubleSample_exact {ahead : Nat} (hlocal : sentAt.toNat ≤ receivedAt.toNat)
    (hhost : hostReceive.toNat ≤ hostSend.toNat)
    (hheld : hostSend.toNat - hostReceive.toNat ≤ receivedAt.toNat - sentAt.toNat)
    (hfast : receivedAt.toNat - sentAt.toNat < 10 ^ 9)
    (hbefore : sentAt.toNat ≤ hostReceive.toNat) (hafter : receivedAt.toNat ≤ hostSend.toNat)
    (hbound : hostSend.toNat < 2 ^ 52)
    (hahead : hostReceive.toNat - sentAt.toNat + (hostSend.toNat - receivedAt.toNat) = ahead * 2) :
    ∃ e, doubleSample hostReceive hostSend sentAt receivedAt = some (some e) ∧
      |e.offsetNanoseconds.toRat| = ahead := by
  obtain ⟨x, hx, hxvalue⟩ := @sub_double_exact hostReceive sentAt (by omega) hbefore
  obtain ⟨y, hy, hyvalue⟩ := @sub_double_exact hostSend receivedAt (by omega) hafter
  obtain ⟨sum, hsum, hsumvalue⟩ := @add_exact x y (ahead * 2) (by omega) (by
    rw [hxvalue, hyvalue]
    exact_mod_cast hahead)
  obtain ⟨two, htwo, -, htwovalue⟩ := ofInt_of_lt (n := 2) (by decide)
  have htwomagnitude : two.magnitude = 2 := by
    rw [← two.abs_value, htwovalue]
    norm_num
  have hsummagnitude : sum.magnitude = ahead * two.magnitude := by
    rw [← sum.abs_value, hsumvalue, htwomagnitude]
    push_cast
    exact abs_of_nonneg (by positivity)
  obtain ⟨z, hz, hzmagnitude⟩ := @div_exact sum two ahead (by omega)
    (by rw [htwomagnitude]; norm_num) hsummagnitude
  have helapsed : (receivedAt - sentAt).toNat = receivedAt.toNat - sentAt.toNat :=
    UInt64.toNat_sub_of_le _ _ (UInt64.le_iff_toNat_le.mpr hlocal)
  have hkept : (hostSend - hostReceive).toNat = hostSend.toNat - hostReceive.toNat :=
    UInt64.toNat_sub_of_le _ _ (UInt64.le_iff_toNat_le.mpr hhost)
  obtain ⟨trip, htrip, htripvalue⟩ := @sub_double_exact (receivedAt - sentAt)
    (hostSend - hostReceive) (by omega) (by omega)
  obtain ⟨second, hsecond, -, hsecondvalue⟩ := ofInt_of_lt (n := 1000000000) (by decide)
  obtain ⟨start, hstart, hzero⟩ := exists_zero
  have hrange : (le zero (.finite trip) && lt (.finite trip) (Binary64.ofInt 1000000000)) = true := by
    have hsecond : Binary64.ofInt 1000000000 = .finite second := hsecond
    rw [hstart, hsecond, Bool.and_eq_true]
    constructor
    · apply decide_eq_true
      rw [hzero, htripvalue]
      exact Nat.cast_nonneg _
    · apply decide_eq_true
      rw [htripvalue, hsecondvalue]
      exact_mod_cast (by omega : _ < 1000000000)
  have htwo : Binary64.ofInt 2 = .finite two := htwo
  have hforward : ¬ hostSend < hostReceive :=
    UInt64.not_lt.mpr (UInt64.le_iff_toNat_le.mpr hhost)
  have helapsed' : ClockSampleFilter.checkedSub receivedAt sentAt = some (receivedAt - sentAt) :=
    if_pos (UInt64.le_iff_toNat_le.mpr hlocal)
  have hheld' : ClockSampleFilter.checkedSub hostSend hostReceive = some (hostSend - hostReceive) :=
    if_pos (UInt64.le_iff_toNat_le.mpr hhost)
  refine ⟨{ offsetNanoseconds := .finite z
            roundTripNanoseconds := .finite trip
            measuredAtNanoseconds := receivedAt }, ?_, z.abs_value.trans hzmagnitude⟩
  unfold doubleSample
  rw [if_neg hforward, helapsed', hheld']
  simp only [Option.bind_eq_bind, Option.bind_some]
  rw [htrip, if_pos hrange, hx, hy, hsum, htwo, hz]

/-- What the phone makes of the answer of the server. -/
theorem doubleResponse_hostAnswer (id : UInt32) (t1 t2 t3 : UInt64) {t4 : UInt64} (h : t1 ≤ t4) :
    doubleResponse (ClockSyncSerializer.serialize (hostAnswer id t1 t2 t3)) id t1 t4 =
      doubleSample t2 t3 t1 t4 := by
  have hanswer := response_serialize (hostAnswer id t1 t2 t3) id t1 t4
  obtain ⟨hlength, hmagic, hversion, htype, hhigh, hlow⟩ :=
    header_serialize (hostAnswer id t1 t2 t3)
  have htimes : hostTimes (ClockSyncSerializer.serialize (hostAnswer id t1 t2 t3)) id t1 t4 =
      some (some (t2, t3)) := by
    unfold hostTimes
    rw [if_neg (by simp [hlength, hmagic]), hversion, htype, hhigh, hlow, read_requestId,
      read_clientSend, read_hostReceive, read_hostSend]
    simp only [Option.bind_eq_bind, Option.bind_some]
    rw [if_neg (by simp [hostAnswer, ClockSyncSerializer.typeCode, UInt64.not_lt.mpr h])]
    rfl
  unfold doubleResponse
  rw [htimes]
  rfl

end ClockSyncWire

namespace ClockSampleFilter

variable {std : SortAlgorithm} {sample : DoubleEstimate}

/-- The first estimate is the first sample. -/
theorem doubleAdd_first (std : SortAlgorithm) (sample : DoubleEstimate) :
    doubleAdd std [] sample = some (sample, [sample]) := by
  have hsort {α K : Type} [LinearOrder K] (key : α → K) (a : α) : std.sort key [a] = [a] :=
    List.perm_singleton.mp (std.perm key [a])
  have hfast : fastest std [sample] = [sample] := by
    have hrecent : [sample].drop ([sample].length - 8) = [sample] := rfl
    unfold fastest
    rw [hrecent, hsort]
    rfl
  have hkept : doubleAppended [] sample = [sample] := rfl
  unfold doubleAdd
  dsimp only
  rw [hkept, hfast, List.map_singleton, hsort]
  simp [minimum?]

end ClockSampleFilter

theorem DoubleEstimate.IsSample.produced {sample : DoubleEstimate} (std : SortAlgorithm)
    (h : sample.IsSample) : sample.Produced std := by
  refine ⟨[], sample, [], [sample], ?_, rfl, ClockSampleFilter.doubleAdd_first std sample⟩
  intro e he
  obtain rfl := List.mem_singleton.mp he
  exact h

end Exchanges

end SyncAudio
