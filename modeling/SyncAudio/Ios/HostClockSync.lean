import Mathlib.Data.List.Pairwise
import SyncAudio.Ios.ClockSyncWire

/-!
# The probes of the phone's clock

`HostClockSync` sends a request to its host now and then, and takes the answer to the last one
into its filter. What the filter says is as close to the host's clock as the samples are.

## Implementation notes

A function returns the state of the clock, the request it sends and its call of `onEstimate`.
The port of a host is valid. The status texts and the errors of sending are left out.
-/

namespace SyncAudio

open ClockSampleFilter

/-- Two entries of a sorted list are no further apart than its ends. -/
theorem abs_sub_le_spread {values : List ℚ} {x y : ℚ} (hsorted : values.Pairwise (· ≤ ·))
    (hx : x ∈ values) (hy : y ∈ values) (d : ℚ) :
    |x - y| ≤ values.getLast?.getD d - values.head?.getD d := by
  have hne : values ≠ [] := List.ne_nil_of_mem hx
  rw [List.getLast?_eq_some_getLast hne, List.head?_eq_some_head hne]
  have hlow := hsorted.rel_head hx
  have hlow' := hsorted.rel_head hy
  have hhigh := hsorted.rel_getLast hx
  have hhigh' := hsorted.rel_getLast hy
  simp only [Option.getD_some]
  exact abs_le.mpr ⟨by linarith, by linarith⟩

/-- An estimate of good quality is close to the fastest of the recent samples, and that one
was fast. -/
theorem ClockSampleFilter.add_good {std : SortAlgorithm} {filter : ClockSampleFilter}
    {sample : ClockEstimate} {result : ClockEstimate × ClockSampleFilter}
    (h : filter.add std sample = some result) (hgood : result.1.measurementQuality = "Good") :
    ∃ fastest ∈ suffix 8 (filter.appended sample), fastest.roundTripNanoseconds < 10000000 ∧
      |result.1.offsetNanoseconds - fastest.offsetNanoseconds| < 2000000 := by
  simp only [add, bind, Option.bind_eq_some_iff, Option.some.injEq] at h
  obtain ⟨median, hmedian, drift, -, rfl⟩ := h
  generalize suffix 8 (filter.appended sample) = recent at hmedian hgood ⊢
  simp only [quality] at hgood
  split_ifs at hgood with hquality
  · obtain ⟨hcount, hfast, hspread⟩ := hquality
    have hlength := std.length_sort ClockEstimate.roundTripNanoseconds recent
    obtain ⟨fastest, hfirst⟩ : ∃ fastest,
        (std.sort ClockEstimate.roundTripNanoseconds recent).head? = some fastest := by
      rw [List.head?_eq_getElem?, List.getElem?_eq_getElem (by omega)]
      exact ⟨_, rfl⟩
    have hmem : fastest ∈ (std.sort ClockEstimate.roundTripNanoseconds recent).take 3 := by
      apply List.mem_of_mem_head?
      rw [List.head?_take]
      exact hfirst
    rw [min?_map_take (std.sorted ClockEstimate.roundTripNanoseconds recent) hfirst (n := 2),
      Option.getD_some] at hfast
    refine ⟨fastest, (std.perm _ _).subset (List.mem_of_mem_take hmem), hfast, ?_⟩
    have hoffset := (std.perm id _).mem_iff.mpr
      (List.mem_map_of_mem (f := ClockEstimate.offsetNanoseconds) hmem)
    have hends := abs_sub_le_spread (std.sorted id _) (List.mem_of_getElem? hmedian) hoffset median
    exact hends.trans_lt hspread
  · exact absurd hgood (by decide)
  · exact absurd hgood (by decide)

/-- The estimate is stamped with the time of the new sample. -/
theorem ClockSampleFilter.add_measuredAt {std : SortAlgorithm} {filter : ClockSampleFilter}
    {sample : ClockEstimate} {result : ClockEstimate × ClockSampleFilter}
    (h : filter.add std sample = some result) :
    result.1.measuredAtNanoseconds = sample.measuredAtNanoseconds := by
  simp only [add, bind, Option.bind_eq_some_iff, Option.some.injEq] at h
  obtain ⟨median, -, drift, -, rfl⟩ := h
  rfl

/-- A sample is stamped with the time of its reception. -/
theorem ClockSyncWire.response_measuredAt {data : List UInt8} {id : UInt32}
    {sentAt receivedAt : UInt64} {sample : ClockEstimate}
    (h : response data id sentAt receivedAt = some (some sample)) :
    sample.measuredAtNanoseconds = receivedAt := by
  obtain hnone | ⟨-, -, hsent, hostReceive, hostSend, hsample⟩ :=
    response_cases data id sentAt receivedAt
  · rw [hnone] at h
    cases h
  · rw [hsample] at h
    by_cases hhost : hostSend < hostReceive
    · rw [ClockSyncWire.sample, if_pos hhost] at h
      cases h
    · rw [sample_eq hsent (UInt64.not_lt.mp hhost)] at h
      simp only [Option.some.injEq] at h
      split_ifs at h
      rw [← Option.some.inj h]

end SyncAudio

namespace SyncAudio.Ios

/-- A connection to a host, with the number of its generation. -/
structure ClockConnection (ι : Type) where
  host : ι
  identifier : Nat
  deriving DecidableEq

structure PendingProbe where
  id : UInt32
  sentAt : UInt64

structure HostClockSync (ι : Type) where
  connection : Option (ClockConnection ι) := none
  generation : Nat := 0
  nextID : UInt32 := 1
  pending : Option PendingProbe := none
  filter : ClockSampleFilter := {}
  lastProbe : UInt64 := 0

namespace HostClockSync

variable {ι : Type}

/-- What a block leaves: the clock, the request it sends and the call of `onEstimate`. -/
structure Effect (ι : Type) where
  clock : HostClockSync ι
  sent : Option (ClockConnection ι × List UInt8) := none
  published : Option (Option ClockEstimate) := none

def cancelCurrent (clock : HostClockSync ι) : HostClockSync ι :=
  { clock with
    connection := none
    pending := none
    filter := {}
    lastProbe := 0 }

def start (clock : HostClockSync ι) (host : ι) : HostClockSync ι :=
  let clock := { clock with generation := clock.generation + 1 }.cancelCurrent
  { clock with connection := some ⟨host, clock.generation⟩ }

def stop (clock : HostClockSync ι) : Effect ι where
  clock := { clock with generation := clock.generation + 1 }.cancelCurrent
  published := some none

/-- The answer to the last probe may still come. -/
def awaits (clock : HostClockSync ι) (now : UInt64) : Option Bool :=
  match clock.pending with
  | none => some false
  | some pending =>
      (ClockSampleFilter.checkedSub now pending.sentAt).map fun elapsed =>
        decide (elapsed < 400000000)

/-- There are enough samples for some seconds. -/
def rests (clock : HostClockSync ι) (now : UInt64) : Option Bool :=
  if 8 ≤ clock.filter.samples.length then
    (ClockSampleFilter.checkedSub now clock.lastProbe).map fun elapsed =>
      decide (elapsed < 5000000000)
  else some false

def probe (clock : HostClockSync ι) (now : UInt64) : Option (Effect ι) :=
  match clock.connection with
  | none => some { clock }
  | some connection => do
      if ← clock.awaits now then return { clock }
      if ← clock.rests now then return { clock }
      return {
        clock := { clock with
          nextID := clock.nextID + 1
          lastProbe := now
          pending := some ⟨clock.nextID, now⟩ }
        sent := some (connection, ClockSyncWire.request clock.nextID now) }

/-- The completion of a receive in its generation, up to the next receive. -/
def completed (std : SortAlgorithm) (clock : HostClockSync ι) (data : Option (List UInt8))
    (now : UInt64) : Option (Effect ι) :=
  match data, clock.pending with
  | some data, some pending => do
      match ← ClockSyncWire.response data pending.id pending.sentAt now with
      | none => return { clock }
      | some sample =>
          let (estimate, filter) ← clock.filter.add std sample
          return {
            clock := { clock with
              pending := none
              filter }
            published := some (some estimate) }
  | _, _ => some { clock }

variable {clock : HostClockSync ι} {now : UInt64} {effect : Effect ι}
  {std : SortAlgorithm} {data : Option (List UInt8)}

/-- A probe that is sent is the pending one, and stamped with the clock. -/
theorem probe_cases (h : clock.probe now = some effect) :
    effect = { clock := clock } ∨ ∃ connection, clock.connection = some connection ∧
      effect = {
        clock := { clock with
          nextID := clock.nextID + 1
          lastProbe := now
          pending := some ⟨clock.nextID, now⟩ }
        sent := some (connection, ClockSyncWire.request clock.nextID now) } := by
  rw [probe] at h
  cases hconnection : clock.connection with
  | none =>
      rw [hconnection] at h
      exact .inl (Option.some.inj h).symm
  | some connection =>
      rw [hconnection] at h
      obtain ⟨awaiting, -, h⟩ := Option.bind_eq_some_iff.mp h
      cases awaiting with
      | true => exact .inl (Option.some.inj h).symm
      | false =>
          obtain ⟨resting, -, h⟩ := Option.bind_eq_some_iff.mp h
          cases resting with
          | true => exact .inl (Option.some.inj h).symm
          | false => exact .inr ⟨connection, rfl, (Option.some.inj h).symm⟩

/-- A clock that has read what it holds does not trap. -/
theorem probe_total (hpending : ∀ pending ∈ clock.pending, pending.sentAt ≤ now)
    (hlast : clock.lastProbe ≤ now) : ∃ effect, clock.probe now = some effect := by
  have hawaits : ∃ awaiting, clock.awaits now = some awaiting := by
    rw [awaits]
    cases hcase : clock.pending with
    | none => exact ⟨false, rfl⟩
    | some pending =>
        have helapsed : ClockSampleFilter.checkedSub now pending.sentAt =
            some (now - pending.sentAt) := if_pos (hpending pending hcase)
        simp only [helapsed]
        exact ⟨_, rfl⟩
  have hrests : ∃ resting, clock.rests now = some resting := by
    rw [rests]
    split_ifs
    · have helapsed : ClockSampleFilter.checkedSub now clock.lastProbe =
          some (now - clock.lastProbe) := if_pos hlast
      rw [helapsed]
      exact ⟨_, rfl⟩
    · exact ⟨false, rfl⟩
  obtain ⟨awaiting, hawaiting⟩ := hawaits
  obtain ⟨resting, hresting⟩ := hrests
  rw [probe]
  cases clock.connection with
  | none => exact ⟨_, rfl⟩
  | some connection =>
      simp only [hawaiting, hresting, Option.bind_eq_bind, Option.bind_some]
      cases awaiting with
      | true => exact ⟨_, rfl⟩
      | false =>
          cases resting with
          | true => exact ⟨_, rfl⟩
          | false => exact ⟨_, rfl⟩

/-- Only the answer to the pending probe is taken. -/
theorem completed_cases (h : clock.completed std data now = some effect) :
    effect = { clock := clock } ∨ ∃ bytes pending sample result,
      data = some bytes ∧ clock.pending = some pending ∧
      ClockSyncWire.response bytes pending.id pending.sentAt now = some (some sample) ∧
      clock.filter.add std sample = some result ∧
      effect = {
        clock := { clock with
          pending := none
          filter := result.2 }
        published := some (some result.1) } := by
  unfold completed at h
  cases data with
  | none => exact .inl (Option.some.inj h).symm
  | some bytes =>
      cases hpending : clock.pending with
      | none =>
          rw [hpending] at h
          exact .inl (Option.some.inj h).symm
      | some pending =>
          rw [hpending] at h
          obtain ⟨answer, hresponse, h⟩ := Option.bind_eq_some_iff.mp h
          cases answer with
          | none => exact .inl (Option.some.inj h).symm
          | some sample =>
              obtain ⟨result, hresult, h⟩ := Option.bind_eq_some_iff.mp h
              exact .inr ⟨bytes, pending, sample, result, rfl, rfl, hresponse, hresult,
                (Option.some.inj h).symm⟩

theorem probe_frame (h : clock.probe now = some effect) :
    effect.clock.connection = clock.connection ∧ effect.clock.generation = clock.generation ∧
      effect.published = none := by
  cases probe_cases h with
  | inl hsame =>
      subst hsame
      exact ⟨rfl, rfl, rfl⟩
  | inr hsent =>
      obtain ⟨connection, -, rfl⟩ := hsent
      exact ⟨rfl, rfl, rfl⟩

theorem completed_connection (h : clock.completed std data now = some effect) :
    effect.clock.connection = clock.connection := by
  cases completed_cases h with
  | inl hsame =>
      subst hsame
      rfl
  | inr htaken =>
      obtain ⟨bytes, pending, sample, result, -, -, -, -, rfl⟩ := htaken
      rfl

end HostClockSync

end SyncAudio.Ios
