import SyncAudio.Ios.HostClockSync
import SyncAudio.Lib.Generations
import SyncAudio.Lib.LabelledRun

/-!
# The clock of the phone on a network

The network delays, reorders, loses and duplicates; timers, state changes and completed
receives of old connections still call back. Whatever arrives in which order, no callback traps.
If only hosts answer, each estimate that is published is of the host the phone was told to
follow, and one of good quality is within 7 ms of what the clock of that host has been ahead by
since the eighth estimate before.

## Implementation notes

The clock of a host is any function of the phone's, and the arithmetic on the readings is exact.
What was sent stays on its way: it may arrive any number of times, or never. The timer may fire
at any time. A stray datagram is one that the host of the connection has not sent.
-/

namespace SyncAudio.Ios

open LabelledRun

/-- A request that a host has taken, and its clock then. -/
structure TakenProbe (ι : Type) where
  connection : ClockConnection ι
  buffer : List UInt8
  received : UInt64

/-- The clock of the phone, the network and the hosts. -/
structure PhoneClock (ι : Type) where
  now : Nat
  clock : HostClockSync ι := {}
  handlers : List (Captured (ClockConnection ι)) := []
  receives : List (Captured (ClockConnection ι)) := []
  requests : List (ClockConnection ι × List UInt8) := []
  taken : List (TakenProbe ι) := []
  responses : List (ClockConnection ι × List UInt8) := []
  /-- The calls of `onEstimate`, the last one first. -/
  published : List (Option ClockEstimate) := []

namespace PhoneClock

variable {ι : Type}

inductive Event (ι : Type) where
  | tick (nanoseconds : Nat)
  | start (host : ι)
  | stop
  | timer
  | ready (index : Nat)
  | take (index : Nat)
  | answer (index : Nat)
  | stray (connection : ClockConnection ι) (bytes : List UInt8)
  /-- A receive is completed with a response, or with an error and nothing. -/
  | message (index : Nat) (response : Option Nat)

/-- The bytes come from nowhere. -/
def Event.isStray : Event ι → Bool
  | .stray _ _ => true
  | _ => false

/-- Some seconds before the clock of the phone ends. -/
def horizon : Nat := UInt64.size - 5000000000

/-- `uptimeNanoseconds`. -/
def time (s : PhoneClock ι) : UInt64 := UInt64.ofNat s.now

/-- The estimates that were published, the last one first. -/
def estimates (s : PhoneClock ι) : List ClockEstimate := s.published.reduceOption

def after (s : PhoneClock ι) (effect : HostClockSync.Effect ι) : PhoneClock ι :=
  { s with
    clock := effect.clock
    requests := effect.sent.toList ++ s.requests
    published := effect.published.toList ++ s.published }

/-- `receiveNext`: the connection gets a receive. -/
def receiveNext (s : PhoneClock ι) : PhoneClock ι :=
  { s with
    receives := (s.clock.connection.map fun connection =>
      ⟨connection, s.clock.generation⟩).toList ++ s.receives }

/-- What a receive on the connection may be completed with. -/
def arriving [DecidableEq ι] (s : PhoneClock ι) (connection : ClockConnection ι) :
    Option Nat → Option (Option (List UInt8))
  | none => some none
  | some index => do
      let response ← s.responses[index]?
      if response.1 = connection then some (some response.2) else none

def step [DecidableEq ι] (std : SortAlgorithm) (clocks : ι → Nat → UInt64) :
    Step (PhoneClock ι) (Event ι)
  | s, .tick nanoseconds =>
      if s.now + nanoseconds < horizon then some { s with now := s.now + nanoseconds }
      else none
  | s, .start host =>
      some { s with
        clock := s.clock.start host
        handlers := ⟨⟨host, s.clock.generation + 1⟩, s.clock.generation + 1⟩ :: s.handlers }
  | s, .stop => some (s.after s.clock.stop)
  | s, .timer => (s.clock.probe s.time).map s.after
  | s, .ready index =>
      s.handlers[index]?.bind fun handler =>
        if s.clock.generation = handler.generation then
          (s.clock.probe s.time).map s.receiveNext.after
        else some s
  | s, .take index =>
      s.requests[index]?.map fun request =>
        { s with taken := ⟨request.1, request.2, clocks request.1.host s.now⟩ :: s.taken }
  | s, .answer index =>
      s.taken[index]?.map fun taken =>
        let reply := ClockSyncServer.reply taken.buffer taken.received
          (clocks taken.connection.host s.now)
        { s with
          responses := (reply.map fun bytes => (taken.connection, bytes)).toList ++ s.responses }
  | s, .stray connection bytes =>
      some { s with responses := (connection, bytes) :: s.responses }
  | s, .message index response =>
      s.receives[index]?.bind fun pending =>
        (s.arriving pending.callback response).bind fun data =>
          let s := { s with receives := s.receives.eraseIdx index }
          if s.clock.generation = pending.generation then
            (s.clock.completed std data s.time).map fun effect => (s.after effect).receiveNext
          else some s

/-- The host that the calls ask for in the end. -/
def Event.ask (asked : Option ι) : Event ι → Option ι
  | .start host => some host
  | .stop => none
  | _ => asked

def asked (events : List (Event ι)) : Option ι := events.foldl Event.ask none

section Exchanges

variable {clocks : ι → Nat → UInt64} {host : ι} {since earlier now later : Nat}
  {sample : ClockEstimate} {low high : ℚ}

/-- What the clock of a host is ahead by. -/
def ahead (clocks : ι → Nat → UInt64) (host : ι) (now : Nat) : ℚ := (clocks host now).toNat - now

/-- The bytes are the host's answer to a request of the phone. -/
def Exchanged (clocks : ι → Nat → UInt64) (host : ι) (now : Nat) (bytes : List UInt8) : Prop :=
  ∃ id sentAt received answered, sentAt.toNat ≤ received ∧ received ≤ answered ∧ answered ≤ now ∧
    bytes = ClockSyncSerializer.serialize
      (ClockSyncWire.hostAnswer id sentAt (clocks host received) (clocks host answered))

theorem Exchanged.mono {bytes : List UInt8} (h : Exchanged clocks host now bytes)
    (hle : now ≤ later) : Exchanged clocks host later bytes := by
  obtain ⟨id, sentAt, received, answered, hsent, hheld, hanswered, hrest⟩ := h
  exact ⟨id, sentAt, received, answered, hsent, hheld, hanswered.trans hle, hrest⟩

/-- A sample of a host, which has received the request and answered it in some time. -/
structure Near (clocks : ι → Nat → UInt64) (host : ι) (since now : Nat)
    (sample : ClockEstimate) : Prop where
  exchange : ∃ received answered, since ≤ received ∧ received ≤ answered ∧ answered ≤ now ∧
    ahead clocks host received - sample.roundTripNanoseconds / 2 ≤ sample.offsetNanoseconds ∧
    sample.offsetNanoseconds ≤ ahead clocks host answered + sample.roundTripNanoseconds / 2
  roundTrip_lt : sample.roundTripNanoseconds < 1000000000

theorem Near.mono (h : Near clocks host since now sample) (hsince : earlier ≤ since)
    (hnow : now ≤ later) : Near clocks host earlier later sample := by
  obtain ⟨received, answered, hreceived, hheld, hanswered, hbounds⟩ := h.exchange
  exact ⟨⟨received, answered, hsince.trans hreceived, hheld, hanswered.trans hnow, hbounds⟩,
    h.roundTrip_lt⟩

/-- The clock of the host has been ahead by something between the bounds. -/
def Bounded (clocks : ι → Nat → UInt64) (host : ι) (since now : Nat) (low high : ℚ) : Prop :=
  ∀ t, since ≤ t → t ≤ now → low ≤ ahead clocks host t ∧ ahead clocks host t ≤ high

theorem Near.bounds (h : Near clocks host since now sample)
    (hbounded : Bounded clocks host since now low high) :
    low - sample.roundTripNanoseconds / 2 ≤ sample.offsetNanoseconds ∧
      sample.offsetNanoseconds ≤ high + sample.roundTripNanoseconds / 2 := by
  obtain ⟨received, answered, hreceived, hheld, hanswered, hlow, hhigh⟩ := h.exchange
  have hfirst := (hbounded received hreceived (hheld.trans hanswered)).1
  have hsecond := (hbounded answered (hreceived.trans hheld) hanswered).2
  exact ⟨by linarith, by linarith⟩

/-- A clock that gains or loses at most `rate` nanoseconds in one. -/
theorem bounded_of_rate {rate : ℚ} (hrate : ∀ t, since ≤ t → t ≤ now →
    |ahead clocks host t - ahead clocks host now| ≤ rate * (now - t)) (hpos : 0 ≤ rate) :
    Bounded clocks host since now (ahead clocks host now - rate * (now - since))
      (ahead clocks host now + rate * (now - since)) := by
  intro t hsince hle
  have hdrift := abs_le.mp (hrate t hsince hle)
  have hcast : (since : ℚ) ≤ t := by exact_mod_cast hsince
  have hage : rate * (now - t) ≤ rate * (now - since) :=
    mul_le_mul_of_nonneg_left (by linarith) hpos
  exact ⟨by linarith, by linarith⟩

theorem Exchanged.near {bytes : List UInt8} {id : UInt32} {sentAt : UInt64}
    (h : Exchanged clocks host now bytes) (hnow : now < 2 ^ 64)
    (hresponse : ClockSyncWire.response bytes id sentAt (UInt64.ofNat now) = some (some sample)) :
    Near clocks host sentAt.toNat now sample := by
  obtain ⟨id', sentAt', received, answered, hsent, hheld, hanswered, rfl⟩ := h
  rw [ClockSyncWire.response_serialize] at hresponse
  split_ifs at hresponse with hother
  · cases hresponse
  · have hchecks := not_or.mp (not_or.mp (not_or.mp hother).2).2
    have hecho : sentAt' = sentAt := not_not.mp hchecks.1
    have hle : sentAt ≤ UInt64.ofNat now := UInt64.not_lt.mp hchecks.2
    simp only [ClockSyncWire.hostAnswer] at hresponse
    by_cases hhost : clocks host answered < clocks host received
    · rw [ClockSyncWire.sample, if_pos hhost] at hresponse
      cases hresponse
    · rw [ClockSyncWire.sample_eq hle (UInt64.not_lt.mp hhost)] at hresponse
      simp only [Option.some.injEq] at hresponse
      split_ifs at hresponse with hbounds
      · rw [← Option.some.inj hresponse]
        have htime : ((UInt64.ofNat now).toNat : ℚ) = now := by
          rw [UInt64.toNat_ofNat_of_lt' hnow]
        have hforward : (sentAt.toNat : ℚ) ≤ received := by exact_mod_cast hecho ▸ hsent
        have hback : (answered : ℚ) ≤ now := by exact_mod_cast hanswered
        refine ⟨⟨received, answered, hecho ▸ hsent, hheld, hanswered, ?_, ?_⟩, hbounds.2⟩
        · simp only [ahead, ClockSyncMath.exchange, ClockSyncMath.Exchange.offset,
            ClockSyncMath.Exchange.roundTrip, htime]
          linarith
        · simp only [ahead, ClockSyncMath.exchange, ClockSyncMath.Exchange.offset,
            ClockSyncMath.Exchange.roundTrip, htime]
          linarith

end Exchanges

section Filter

theorem appended_sublist (filter : ClockSampleFilter) (sample : ClockEstimate) :
    (filter.appended sample).Sublist (filter.samples ++ [sample]) := by
  rw [ClockSampleFilter.appended]
  split_ifs
  · exact List.drop_sublist _ _
  · exact List.Sublist.refl _

/-- The newest samples come first from the other end. -/
theorem reverse_appended (filter : ClockSampleFilter) (sample : ClockEstimate) :
    (filter.appended sample).reverse <+: sample :: filter.samples.reverse := by
  have hreverse : (filter.samples ++ [sample]).reverse = sample :: filter.samples.reverse := by
    rw [List.reverse_append]
    rfl
  rw [← hreverse, ClockSampleFilter.appended, List.reverse_prefix]
  split_ifs
  · exact List.drop_suffix _ _
  · exact List.suffix_rfl

/-- The recent samples are the last eight. -/
theorem index_of_mem_suffix {samples : List ClockEstimate} {sample : ClockEstimate}
    (h : sample ∈ ClockSampleFilter.suffix 8 samples) :
    ∃ index < 8, samples.reverse[index]? = some sample := by
  rw [ClockSampleFilter.suffix, ← List.mem_reverse, List.reverse_drop] at h
  obtain ⟨index, hindex⟩ := List.mem_iff_getElem?.mp h
  rw [List.getElem?_take] at hindex
  split_ifs at hindex with hlt
  exact ⟨index, by omega, hindex⟩

end Filter

section Timely

variable {s next : PhoneClock ι} {event : Event ι} {clock : HostClockSync ι} {std : SortAlgorithm}
  {effect : HostClockSync.Effect ι} {sample : ClockEstimate} {now later : Nat}

/-- All times that the clock keeps are past, and those of the samples are in order. -/
structure Timely (clock : HostClockSync ι) (now : Nat) : Prop where
  fits : now < horizon
  sorted : clock.filter.samples.Pairwise fun a b =>
    a.measuredAtNanoseconds ≤ b.measuredAtNanoseconds
  past : ∀ sample ∈ clock.filter.samples, sample.measuredAtNanoseconds.toNat ≤ now
  pending : ∀ pending ∈ clock.pending, pending.sentAt.toNat ≤ now
  lastProbe : clock.lastProbe.toNat ≤ now

theorem add_lt_of_horizon (h : now < horizon) : now + 5000000000 < 2 ^ 64 := by
  rw [horizon, UInt64.size] at h
  omega

theorem Timely.lt_size (h : Timely clock now) : now < 2 ^ 64 :=
  Nat.lt_of_add_right_lt (add_lt_of_horizon h.fits)

theorem Timely.time_toNat (h : Timely clock now) : (UInt64.ofNat now).toNat = now :=
  UInt64.toNat_ofNat_of_lt' h.lt_size

theorem Timely.mono (h : Timely clock now) (hle : now ≤ later) (hfits : later < horizon) :
    Timely clock later := by
  constructor
  · exact hfits
  · exact h.sorted
  · exact fun sample hmem => (h.past sample hmem).trans hle
  · exact fun pending hmem => (h.pending pending hmem).trans hle
  · exact h.lastProbe.trans hle

/-- A clock that has just started over. -/
theorem timely_fresh (hfits : now < horizon) (hsamples : clock.filter.samples = [])
    (hpending : clock.pending = none) (hlast : clock.lastProbe = 0) : Timely clock now := by
  constructor
  · exact hfits
  · rw [hsamples]
    exact List.Pairwise.nil
  · rw [hsamples]
    exact fun sample hmem => absurd hmem List.not_mem_nil
  · rw [hpending]
    exact fun pending hmem => absurd hmem (Option.not_mem_none _)
  · rw [hlast]
    exact Nat.zero_le _

theorem Timely.probe (h : Timely clock now)
    (hprobe : clock.probe (UInt64.ofNat now) = some effect) : Timely effect.clock now := by
  cases HostClockSync.probe_cases hprobe with
  | inl hsame =>
      subst hsame
      exact h
  | inr hsent =>
      obtain ⟨connection, -, rfl⟩ := hsent
      constructor
      · exact h.fits
      · exact h.sorted
      · exact h.past
      · intro pending hmem
        rw [← Option.mem_some_iff.mp hmem]
        exact h.time_toNat.le
      · exact h.time_toNat.le

/-- The samples with one that is taken now. -/
theorem Timely.sorted_append (h : Timely clock now)
    (hmeasured : sample.measuredAtNanoseconds.toNat = now) :
    (clock.filter.samples ++ [sample]).Pairwise fun a b =>
      a.measuredAtNanoseconds ≤ b.measuredAtNanoseconds := by
  rw [List.pairwise_append]
  refine ⟨h.sorted, List.pairwise_singleton _ _, ?_⟩
  intro old hold new hnew
  rw [List.mem_singleton.mp hnew, UInt64.le_iff_toNat_le, hmeasured]
  exact h.past old hold

theorem Timely.past_append (h : Timely clock now)
    (hmeasured : sample.measuredAtNanoseconds.toNat = now) :
    ∀ other ∈ clock.filter.samples ++ [sample], other.measuredAtNanoseconds.toNat ≤ now := by
  intro other hmem
  cases List.mem_append.mp hmem with
  | inl hold => exact h.past other hold
  | inr hnew => exact (List.mem_singleton.mp hnew ▸ hmeasured).le

/-- Whatever arrives, the times stay in order. -/
theorem Timely.completed (h : Timely clock now) {data : Option (List UInt8)}
    (hcompleted : clock.completed std data (UInt64.ofNat now) = some effect) :
    Timely effect.clock now := by
  cases HostClockSync.completed_cases hcompleted with
  | inl hsame =>
      subst hsame
      exact h
  | inr htaken =>
      obtain ⟨bytes, pending, sample, result, rfl, -, hresponse, hresult, rfl⟩ := htaken
      have hmeasured : sample.measuredAtNanoseconds.toNat = now :=
        ClockSyncWire.response_measuredAt hresponse ▸ h.time_toNat
      have hsub := appended_sublist clock.filter sample
      rw [← ClockSampleFilter.add_samples hresult] at hsub
      constructor
      · exact h.fits
      · exact (h.sorted_append hmeasured).sublist hsub
      · exact fun other hmem => h.past_append hmeasured other (hsub.subset hmem)
      · exact fun pending hmem => absurd hmem (Option.not_mem_none _)
      · exact h.lastProbe

theorem Timely.probe_total (h : Timely clock now) :
    ∃ effect, clock.probe (UInt64.ofNat now) = some effect := by
  apply HostClockSync.probe_total
  · intro pending hmem
    rw [UInt64.le_iff_toNat_le, h.time_toNat]
    exact h.pending pending hmem
  · rw [UInt64.le_iff_toNat_le, h.time_toNat]
    exact h.lastProbe

/-- The filter takes a sample that was measured now. -/
theorem Timely.add_total (h : Timely clock now) (std : SortAlgorithm)
    (hmeasured : sample.measuredAtNanoseconds.toNat = now) :
    ∃ result, clock.filter.add std sample = some result := by
  have hsub : (ClockSampleFilter.suffix 8 (clock.filter.appended sample)).Sublist
      (clock.filter.samples ++ [sample]) :=
    (List.drop_sublist _ _).trans (appended_sublist clock.filter sample)
  have hsorted := h.sorted_append hmeasured
  have hordered : ClockSampleFilter.Ordered (clock.filter.samples ++ [sample]) := by
    constructor
    · exact hsorted
    · intro other hmem
      have hle := h.past_append hmeasured other hmem
      have hfits := add_lt_of_horizon h.fits
      omega
  apply ClockSampleFilter.add_total
  intro first hfirst
  refine ⟨hordered.fits first (hsub.subset (List.mem_of_mem_head? hfirst)), ?_⟩
  have hrecent := hsorted.sublist hsub
  cases hcase : ClockSampleFilter.suffix 8 (clock.filter.appended sample) with
  | nil => exact fun other hmem => absurd hmem List.not_mem_nil
  | cons oldest rest =>
      rw [hcase] at hfirst hrecent
      rw [← Option.mem_some_iff.mp hfirst]
      intro other hmem
      cases List.mem_cons.mp hmem with
      | inl hsame => exact hsame ▸ UInt64.le_refl _
      | inr hrest => exact (List.pairwise_cons.mp hrecent).1 other hrest

/-- Whatever arrives, the completion of a receive does not trap. -/
theorem Timely.completed_total (h : Timely clock now) (std : SortAlgorithm)
    (data : Option (List UInt8)) :
    ∃ effect, clock.completed std data (UInt64.ofNat now) = some effect := by
  unfold HostClockSync.completed
  cases data with
  | none => exact ⟨_, rfl⟩
  | some bytes =>
      cases hpending : clock.pending with
      | none => exact ⟨_, rfl⟩
      | some pending =>
          have hresponse :=
            ClockSyncWire.response_isSome bytes pending.id pending.sentAt (UInt64.ofNat now)
          obtain ⟨answer, hanswer⟩ := Option.isSome_iff_exists.mp hresponse
          simp only [hanswer, Option.bind_eq_bind, Option.bind_some]
          cases answer with
          | none => exact ⟨_, rfl⟩
          | some sample =>
              have hmeasured := ClockSyncWire.response_measuredAt hanswer
              obtain ⟨result, hresult⟩ := h.add_total std (hmeasured ▸ h.time_toNat)
              simp only [hresult, Option.bind_some]
              exact ⟨_, rfl⟩

theorem Timely.step [DecidableEq ι] {clocks : ι → Nat → UInt64} (h : Timely s.clock s.now)
    (hstep : step std clocks s event = some next) : Timely next.clock next.now := by
  cases event with
  | tick nanoseconds =>
      obtain ⟨hfits, hnext⟩ := Option.ite_none_right_eq_some.mp hstep
      cases hnext
      exact h.mono (Nat.le_add_right _ _) hfits
  | start host =>
      cases hstep
      exact timely_fresh h.fits rfl rfl rfl
  | stop =>
      cases hstep
      exact timely_fresh h.fits rfl rfl rfl
  | timer =>
      obtain ⟨effect, hprobe, rfl⟩ := Option.map_eq_some_iff.mp hstep
      exact h.probe hprobe
  | ready index =>
      obtain ⟨handler, -, hsome⟩ := Option.bind_eq_some_iff.mp hstep
      split_ifs at hsome
      · obtain ⟨effect, hprobe, rfl⟩ := Option.map_eq_some_iff.mp hsome
        exact h.probe hprobe
      · cases hsome
        exact h
  | take index =>
      obtain ⟨request, -, rfl⟩ := Option.map_eq_some_iff.mp hstep
      exact h
  | answer index =>
      obtain ⟨taken, -, rfl⟩ := Option.map_eq_some_iff.mp hstep
      exact h
  | stray connection bytes =>
      cases hstep
      exact h
  | message index response =>
      obtain ⟨pending, -, hsome⟩ := Option.bind_eq_some_iff.mp hstep
      obtain ⟨data, -, hsome⟩ := Option.bind_eq_some_iff.mp hsome
      dsimp only at hsome
      split_ifs at hsome
      · obtain ⟨effect, hcompleted, rfl⟩ := Option.map_eq_some_iff.mp hsome
        exact h.completed hcompleted
      · cases hsome
        exact h

theorem timely_run [DecidableEq ι] {clocks : ι → Nat → UInt64} {events : List (Event ι)}
    (hfits : now < horizon) (hrun : run (step std clocks) { now := now } events = some s) :
    Timely s.clock s.now := by
  apply run_preserves (P := fun s => Timely s.clock s.now) Timely.step _ hrun
  exact timely_fresh hfits rfl rfl rfl

end Timely

section Invariant

variable {clocks : ι → Nat → UInt64} {s next : PhoneClock ι} {event : Event ι}
  {clock : HostClockSync ι} {connection : ClockConnection ι} {std : SortAlgorithm}
  {effect : HostClockSync.Effect ι} {estimates : List ClockEstimate} {sample : ClockEstimate}
  {began now later : Nat}

/-- When the estimate before so many others was measured. -/
def measuredBefore (began : Nat) (estimates : List ClockEstimate) (count : Nat) : Nat :=
  estimates[count]?.elim began fun estimate => estimate.measuredAtNanoseconds.toNat

/-- The estimates stand in the order of their times, the last one first. -/
structure Dated (began now : Nat) (estimates : List ClockEstimate) : Prop where
  sorted : estimates.Pairwise fun a b =>
    b.measuredAtNanoseconds.toNat ≤ a.measuredAtNanoseconds.toNat
  from_began : ∀ estimate ∈ estimates, began ≤ estimate.measuredAtNanoseconds.toNat
  past : ∀ estimate ∈ estimates, estimate.measuredAtNanoseconds.toNat ≤ now
  began_le : began ≤ now

theorem Dated.mono (h : Dated began now estimates) (hle : now ≤ later) :
    Dated began later estimates := by
  constructor
  · exact h.sorted
  · exact h.from_began
  · exact fun estimate hmem => (h.past estimate hmem).trans hle
  · exact h.began_le.trans hle

theorem Dated.cons (h : Dated began now estimates) {estimate : ClockEstimate}
    (hmeasured : estimate.measuredAtNanoseconds.toNat = now) :
    Dated began now (estimate :: estimates) := by
  constructor
  · refine List.pairwise_cons.mpr ⟨?_, h.sorted⟩
    intro old hold
    rw [hmeasured]
    exact h.past old hold
  · exact List.forall_mem_cons.mpr ⟨hmeasured ▸ h.began_le, h.from_began⟩
  · exact List.forall_mem_cons.mpr ⟨hmeasured.le, h.past⟩
  · exact h.began_le

theorem Dated.measuredBefore_le (h : Dated began now estimates) (count : Nat) :
    measuredBefore began estimates count ≤ now := by
  rw [measuredBefore]
  cases hcount : estimates[count]? with
  | none => exact h.began_le
  | some estimate => exact h.past estimate (List.mem_of_getElem? hcount)

/-- More estimates back is earlier. -/
theorem Dated.antitone (h : Dated began now estimates) {count more : Nat} (hle : count ≤ more) :
    measuredBefore began estimates more ≤ measuredBefore began estimates count := by
  rw [measuredBefore, measuredBefore]
  cases hmore : estimates[more]? with
  | none =>
      cases hcount : estimates[count]? with
      | none => exact Nat.le_refl _
      | some estimate => exact h.from_began estimate (List.mem_of_getElem? hcount)
  | some earlier =>
      obtain ⟨hlength, rfl⟩ := List.getElem?_eq_some_iff.mp hmore
      rw [List.getElem?_eq_getElem (hle.trans_lt hlength)]
      cases Nat.eq_or_lt_of_le hle with
      | inl hsame =>
          subst hsame
          exact Nat.le_refl _
      | inr hlt => exact List.pairwise_iff_getElem.mp h.sorted _ _ _ _ hlt

/-- Each sample is of the host of the connection, and its exchange came behind the estimate
before it. -/
structure Recent (clocks : ι → Nat → UInt64) (began now : Nat) (clock : HostClockSync ι)
    (estimates : List ClockEstimate) : Prop where
  near : ∀ index sample, clock.filter.samples.reverse[index]? = some sample →
    ∃ connection, clock.connection = some connection ∧
      Near clocks connection.host (measuredBefore began estimates (index + 1)) now sample
  pending : ∀ pending ∈ clock.pending, measuredBefore began estimates 0 ≤ pending.sentAt.toNat

theorem Recent.mono (h : Recent clocks began now clock estimates) (hle : now ≤ later) :
    Recent clocks began later clock estimates := by
  constructor
  · intro index sample hsample
    obtain ⟨connection, hconnection, hnear⟩ := h.near index sample hsample
    exact ⟨connection, hconnection, hnear.mono (Nat.le_refl _) hle⟩
  · exact h.pending

theorem recent_fresh (hsamples : clock.filter.samples = []) (hpending : clock.pending = none) :
    Recent clocks began now clock estimates := by
  constructor
  · intro index sample hsample
    rw [hsamples] at hsample
    cases hsample
  · rw [hpending]
    exact fun pending hmem => absurd hmem (Option.not_mem_none _)

/-- A sample that is taken now is one more of them. -/
theorem Recent.completed (h : Recent clocks began now clock estimates)
    (hconnection : clock.connection = some connection) {pending : Ios.PendingProbe}
    (hpending : clock.pending = some pending)
    (hnear : Near clocks connection.host pending.sentAt.toNat now sample)
    {filter : ClockSampleFilter} (hfilter : filter.samples = clock.filter.appended sample)
    (estimate : ClockEstimate) :
    Recent clocks began now { clock with
      pending := none
      filter } (estimate :: estimates) := by
  constructor
  · intro index other hother
    obtain ⟨more, hmore⟩ := reverse_appended clock.filter sample
    rw [← hfilter] at hmore
    have hindex : (sample :: clock.filter.samples.reverse)[index]? = some other := by
      rw [← hmore, List.getElem?_append_left (List.getElem?_eq_some_iff.mp hother).1]
      exact hother
    cases index with
    | zero =>
        cases hindex
        exact ⟨connection, hconnection, hnear.mono (h.pending pending hpending) (Nat.le_refl _)⟩
    | succ index => exact h.near index other hindex
  · exact fun pending hmem => absurd hmem (Option.not_mem_none _)

/-- What is on its way was sent by the phone, or by a host as the answer to it. -/
structure Honest (clocks : ι → Nat → UInt64) (s : PhoneClock ι) : Prop where
  requests : ∀ request ∈ s.requests, ∃ id sentAt, sentAt.toNat ≤ s.now ∧
    request.2 = ClockSyncWire.request id sentAt
  taken : ∀ taken ∈ s.taken, ∃ id sentAt received, sentAt.toNat ≤ received ∧ received ≤ s.now ∧
    taken.received = clocks taken.connection.host received ∧
    taken.buffer = ClockSyncWire.request id sentAt
  responses : ∀ response ∈ s.responses, Exchanged clocks response.1.host s.now response.2

/-- The callbacks of this generation belong to the connection. -/
structure Guarded (s : PhoneClock ι) : Prop where
  handlers : Captured.Current (fun connection => s.clock.connection = some connection)
    s.clock.generation s.handlers
  receives : Captured.Current (fun connection => s.clock.connection = some connection)
    s.clock.generation s.receives

/-- The phone in a network where only hosts answer. -/
structure Sound (clocks : ι → Nat → UInt64) (began : Nat) (s : PhoneClock ι) : Prop where
  timely : Timely s.clock s.now
  dated : Dated began s.now s.estimates
  recent : Recent clocks began s.now s.clock s.estimates
  honest : Honest clocks s
  guarded : Guarded s

theorem Sound.tick (h : Sound clocks began s) {nanoseconds : Nat}
    (hfits : s.now + nanoseconds < horizon) :
    Sound clocks began { s with now := s.now + nanoseconds } := by
  have hle : s.now ≤ s.now + nanoseconds := Nat.le_add_right _ _
  constructor
  · exact h.timely.mono hle hfits
  · exact h.dated.mono hle
  · exact h.recent.mono hle
  · constructor
    · intro request hmem
      obtain ⟨id, sentAt, hsent, hbytes⟩ := h.honest.requests request hmem
      exact ⟨id, sentAt, hsent.trans hle, hbytes⟩
    · intro taken hmem
      obtain ⟨id, sentAt, received, hsent, hreceived, hrest⟩ := h.honest.taken taken hmem
      exact ⟨id, sentAt, received, hsent, hreceived.trans hle, hrest⟩
    · exact fun response hmem => (h.honest.responses response hmem).mono hle
  · exact ⟨h.guarded.handlers, h.guarded.receives⟩

theorem Sound.start (h : Sound clocks began s) (host : ι) :
    Sound clocks began { s with
      clock := s.clock.start host
      handlers := ⟨⟨host, s.clock.generation + 1⟩, s.clock.generation + 1⟩ :: s.handlers } := by
  constructor
  · exact timely_fresh h.timely.fits rfl rfl rfl
  · exact h.dated
  · exact recent_fresh rfl rfl
  · exact ⟨h.honest.requests, h.honest.taken, h.honest.responses⟩
  · exact ⟨h.guarded.handlers.next.cons rfl, h.guarded.receives.next⟩

theorem Sound.stop (h : Sound clocks began s) : Sound clocks began (s.after s.clock.stop) := by
  constructor
  · exact timely_fresh h.timely.fits rfl rfl rfl
  · exact h.dated
  · exact recent_fresh rfl rfl
  · exact ⟨h.honest.requests, h.honest.taken, h.honest.responses⟩
  · exact ⟨h.guarded.handlers.next, h.guarded.receives.next⟩

/-- A block that stays in the generation and sends requests of now. -/
theorem Sound.after (h : Sound clocks began s)
    (hconnection : effect.clock.connection = s.clock.connection)
    (hgeneration : effect.clock.generation = s.clock.generation)
    (hsent : ∀ request ∈ effect.sent, ∃ id, request.2 = ClockSyncWire.request id s.time)
    (htimely : Timely effect.clock s.now)
    (hdated : Dated began s.now (s.after effect).estimates)
    (hrecent : Recent clocks began s.now effect.clock (s.after effect).estimates) :
    Sound clocks began (s.after effect) := by
  constructor
  · exact htimely
  · exact hdated
  · exact hrecent
  · constructor
    · intro request hmem
      cases List.mem_append.mp hmem with
      | inl hnew =>
          obtain ⟨id, hbytes⟩ := hsent request (Option.mem_toList.mp hnew)
          exact ⟨id, s.time, h.timely.time_toNat.le, hbytes⟩
      | inr hold => exact h.honest.requests request hold
    · exact h.honest.taken
    · exact h.honest.responses
  · constructor
    · rw [PhoneClock.after, hconnection, hgeneration]
      exact h.guarded.handlers
    · rw [PhoneClock.after, hconnection, hgeneration]
      exact h.guarded.receives

theorem Sound.receiveNext (h : Sound clocks began s) : Sound clocks began s.receiveNext := by
  have hreceives := h.guarded.receives.optional fun connection hconnection => hconnection
  exact ⟨h.timely, h.dated, h.recent, ⟨h.honest.requests, h.honest.taken, h.honest.responses⟩,
    ⟨h.guarded.handlers, hreceives⟩⟩

theorem Sound.probe (h : Sound clocks began s) (hprobe : s.clock.probe s.time = some effect) :
    Sound clocks began (s.after effect) := by
  have htimely := h.timely.probe hprobe
  cases HostClockSync.probe_cases hprobe with
  | inl hsame =>
      subst hsame
      exact h.after rfl rfl (fun _ hmem => absurd hmem (Option.not_mem_none _)) htimely h.dated
        h.recent
  | inr hsent =>
      obtain ⟨connection, -, rfl⟩ := hsent
      apply h.after rfl rfl
      · intro request hmem
        rw [← Option.mem_some_iff.mp hmem]
        exact ⟨_, rfl⟩
      · exact htimely
      · exact h.dated
      · constructor
        · exact h.recent.near
        · intro pending hmem
          rw [← Option.mem_some_iff.mp hmem]
          exact (h.dated.measuredBefore_le 0).trans h.timely.time_toNat.ge

/-- What is published is close to the host's clock. -/
structure Accurate (low high : ℚ) (estimate : ClockEstimate) : Prop where
  fair : low - 500000000 < estimate.offsetNanoseconds ∧
    estimate.offsetNanoseconds < high + 500000000
  good : estimate.measurementQuality = "Good" →
    low - 7000000 < estimate.offsetNanoseconds ∧ estimate.offsetNanoseconds < high + 7000000

/-- What that comes to for a clock that gains or loses at most `rate` nanoseconds in one. -/
theorem Accurate.of_rate {host : ι} {since : Nat} {rate : ℚ} {estimate : ClockEstimate}
    (h : ∀ low high, Bounded clocks host since now low high → Accurate low high estimate)
    (hrate : ∀ t, since ≤ t → t ≤ now →
      |ahead clocks host t - ahead clocks host now| ≤ rate * (now - t)) (hpos : 0 ≤ rate) :
    |estimate.offsetNanoseconds - ahead clocks host now| < 500000000 + rate * (now - since) ∧
      (estimate.measurementQuality = "Good" →
        |estimate.offsetNanoseconds - ahead clocks host now| < 7000000 + rate * (now - since)) := by
  have haccurate := h _ _ (bounded_of_rate hrate hpos)
  obtain ⟨hlow, hhigh⟩ := haccurate.fair
  refine ⟨abs_lt.mpr ⟨by linarith, by linarith⟩, ?_⟩
  intro hgood
  obtain ⟨hlow, hhigh⟩ := haccurate.good hgood
  exact abs_lt.mpr ⟨by linarith, by linarith⟩

theorem accurate_add {filter : ClockSampleFilter} {host : ι} {since : Nat} {low high : ℚ}
    {result : ClockEstimate × ClockSampleFilter}
    (hnear : ∀ other ∈ ClockSampleFilter.suffix 8 (filter.appended sample),
      Near clocks host since now other)
    (hbounded : Bounded clocks host since now low high)
    (h : filter.add std sample = some result) : Accurate low high result.1 := by
  constructor
  · obtain ⟨fast, hmedian, -⟩ := ClockSampleFilter.add_spec h
    obtain ⟨chosen, hchosen, hvalue⟩ := hmedian.exists_value
    have hchosenNear := hnear chosen (hmedian.areLeast.subset hchosen)
    obtain ⟨hlow, hhigh⟩ := hchosenNear.bounds hbounded
    have hlt := hchosenNear.roundTrip_lt
    rw [← hvalue]
    exact ⟨by linarith, by linarith⟩
  · intro hgood
    obtain ⟨fastest, hmem, hfast, hspread⟩ := ClockSampleFilter.add_good h hgood
    obtain ⟨hlow, hhigh⟩ := (hnear fastest hmem).bounds hbounded
    obtain ⟨hbelow, habove⟩ := abs_lt.mp hspread
    exact ⟨by linarith, by linarith⟩

/-- What the completion of a receive publishes: nothing, or an estimate of its host. -/
def Publishes (clocks : ι → Nat → UInt64) (began : Nat) (s : PhoneClock ι)
    (connection : ClockConnection ι) (estimate : ClockEstimate) : Prop :=
  s.clock.connection = some connection ∧ estimate.measuredAtNanoseconds = s.time ∧
    ∀ low high, Bounded clocks connection.host (measuredBefore began s.estimates 7) s.now low high →
      Accurate low high estimate

/-- What the completion of a receive does, if what arrives on the connection is the host's. -/
theorem Sound.completed (h : Sound clocks began s)
    (hconnection : s.clock.connection = some connection) {data : Option (List UInt8)}
    (hdata : ∀ bytes ∈ data, Exchanged clocks connection.host s.now bytes)
    (hcompleted : s.clock.completed std data s.time = some effect) :
    Sound clocks began (s.after effect) ∧
      ∀ published ∈ effect.published, ∃ estimate, published = some estimate ∧
        Publishes clocks began s connection estimate := by
  have htimely := h.timely.completed hcompleted
  cases HostClockSync.completed_cases hcompleted with
  | inl hsame =>
      subst hsame
      exact ⟨h.after rfl rfl (fun _ hmem => absurd hmem (Option.not_mem_none _)) htimely h.dated
        h.recent, fun _ hmem => absurd hmem (Option.not_mem_none _)⟩
  | inr htaken =>
      obtain ⟨bytes, pending, sample, result, rfl, hpending, hresponse, hresult, rfl⟩ := htaken
      have hnear := (hdata bytes rfl).near h.timely.lt_size hresponse
      have hmeasured : result.1.measuredAtNanoseconds = s.time :=
        (ClockSampleFilter.add_measuredAt hresult).trans
          (ClockSyncWire.response_measuredAt hresponse)
      have hdated : Dated began s.now (result.1 :: s.estimates) :=
        h.dated.cons (hmeasured ▸ h.timely.time_toNat)
      have hfilter := ClockSampleFilter.add_samples hresult
      have hrecent := h.recent.completed hconnection hpending hnear hfilter result.1
      refine ⟨h.after rfl rfl (fun _ hmem => absurd hmem (Option.not_mem_none _)) htimely hdated
        hrecent, ?_⟩
      intro published hmem
      rw [← Option.mem_some_iff.mp hmem]
      refine ⟨_, rfl, hconnection, hmeasured, ?_⟩
      intro low high hbounded
      apply accurate_add _ hbounded hresult
      intro other hother
      obtain ⟨index, hlt, hindex⟩ := index_of_mem_suffix hother
      rw [← hfilter] at hindex
      obtain ⟨connection', hconnection', hother⟩ := hrecent.near index other hindex
      have hsame : connection' = connection :=
        Option.some.inj (hconnection'.symm.trans hconnection)
      subst hsame
      exact hother.mono (hdated.antitone (Nat.succ_le_of_lt hlt)) (Nat.le_refl _)

/-- The server answers a request of the phone. -/
theorem reply_request (id : UInt32) (t1 t2 t3 : UInt64) :
    ClockSyncServer.reply (ClockSyncWire.request id t1) t2 t3 =
      some (ClockSyncSerializer.serialize (ClockSyncWire.hostAnswer id t1 t2 t3)) := by
  rw [ClockSyncServer.reply, ClockSyncWire.request_eq_serialize,
    ClockSyncSerializer.deserialize_serialize]
  rfl

theorem Sound.take (h : Sound clocks began s) {request : ClockConnection ι × List UInt8}
    (hmem : request ∈ s.requests) :
    Sound clocks began { s with
      taken := ⟨request.1, request.2, clocks request.1.host s.now⟩ :: s.taken } := by
  constructor
  · exact h.timely
  · exact h.dated
  · exact h.recent
  · constructor
    · exact h.honest.requests
    · intro taken htaken
      cases List.mem_cons.mp htaken with
      | inl hnew =>
          obtain ⟨id, sentAt, hsent, hbytes⟩ := h.honest.requests request hmem
          subst hnew
          exact ⟨id, sentAt, s.now, hsent, Nat.le_refl _, rfl, hbytes⟩
      | inr hold => exact h.honest.taken taken hold
    · exact h.honest.responses
  · exact ⟨h.guarded.handlers, h.guarded.receives⟩

theorem Sound.answer (h : Sound clocks began s) {taken : TakenProbe ι} (hmem : taken ∈ s.taken) :
    Sound clocks began { s with
      responses := ((ClockSyncServer.reply taken.buffer taken.received
        (clocks taken.connection.host s.now)).map fun bytes =>
          (taken.connection, bytes)).toList ++ s.responses } := by
  obtain ⟨id, sentAt, received, hsent, hreceived, hstamp, hbuffer⟩ := h.honest.taken taken hmem
  constructor
  · exact h.timely
  · exact h.dated
  · exact h.recent
  · constructor
    · exact h.honest.requests
    · exact h.honest.taken
    · intro response hresponse
      rw [hbuffer, reply_request] at hresponse
      cases List.mem_cons.mp hresponse with
      | inl hnew =>
          subst hnew
          exact ⟨id, sentAt, received, s.now, hsent, hreceived, Nat.le_refl _, hstamp ▸ rfl⟩
      | inr hold => exact h.honest.responses response hold
  · exact ⟨h.guarded.handlers, h.guarded.receives⟩

theorem Sound.erased (h : Sound clocks began s) (index : Nat) :
    Sound clocks began { s with receives := s.receives.eraseIdx index } :=
  ⟨h.timely, h.dated, h.recent, ⟨h.honest.requests, h.honest.taken, h.honest.responses⟩,
    ⟨h.guarded.handlers, h.guarded.receives.subset List.eraseIdx_subset⟩⟩

/-- A probe publishes nothing. -/
theorem probe_publishes (hprobe : s.clock.probe s.time = some effect) (other : PhoneClock ι) :
    (other.after effect).published = other.published := by
  rw [after, (HostClockSync.probe_frame hprobe).2.2]
  rfl

/-- The phone when its clock is made. -/
theorem sound_start (clocks : ι → Nat → UInt64) (hfits : now < horizon) :
    Sound clocks now { now := now } := by
  constructor
  · exact timely_fresh hfits rfl rfl rfl
  · constructor
    · exact List.Pairwise.nil
    · exact fun _ hmem => absurd hmem List.not_mem_nil
    · exact fun _ hmem => absurd hmem List.not_mem_nil
    · exact Nat.le_refl _
  · exact recent_fresh rfl rfl
  · constructor
    · exact fun _ hmem => absurd hmem List.not_mem_nil
    · exact fun _ hmem => absurd hmem List.not_mem_nil
    · exact fun _ hmem => absurd hmem List.not_mem_nil
  · exact ⟨Captured.current_nil, Captured.current_nil⟩

end Invariant

section Runs

variable [DecidableEq ι] {clocks : ι → Nat → UInt64} {s next : PhoneClock ι} {event : Event ι}
  {std : SortAlgorithm} {connection : ClockConnection ι} {began now : Nat}

/-- What arrives on a connection is of its host. -/
theorem Sound.arriving (h : Sound clocks began s) {response : Option Nat}
    {data : Option (List UInt8)} (harriving : s.arriving connection response = some data) :
    ∀ bytes ∈ data, Exchanged clocks connection.host s.now bytes := by
  intro bytes hbytes
  cases response with
  | none =>
      cases harriving
      exact absurd hbytes (Option.not_mem_none _)
  | some index =>
      obtain ⟨found, hfound, hsome⟩ := Option.bind_eq_some_iff.mp harriving
      obtain ⟨rfl, hdata⟩ := Option.ite_none_right_eq_some.mp hsome
      cases hdata
      rw [← Option.mem_some_iff.mp hbytes]
      exact h.honest.responses found (List.mem_of_getElem? hfound)

/-- A step publishes nothing, that there is no clock, or an estimate. -/
theorem Sound.step (h : Sound clocks began s) (hhonest : event.isStray = false)
    (hstep : step std clocks s event = some next) :
    Sound clocks began next ∧ (next.published = s.published ∨
      next.published = none :: s.published ∨
      ∃ connection estimate, next.published = some estimate :: s.published ∧
        Publishes clocks began s connection estimate) := by
  cases event with
  | tick nanoseconds =>
      obtain ⟨hfits, hnext⟩ := Option.ite_none_right_eq_some.mp hstep
      cases hnext
      exact ⟨h.tick hfits, .inl rfl⟩
  | start host =>
      cases hstep
      exact ⟨h.start host, .inl rfl⟩
  | stop =>
      cases hstep
      exact ⟨h.stop, .inr (.inl rfl)⟩
  | timer =>
      obtain ⟨effect, hprobe, rfl⟩ := Option.map_eq_some_iff.mp hstep
      exact ⟨h.probe hprobe, .inl (probe_publishes hprobe s)⟩
  | ready index =>
      obtain ⟨handler, hhandler, hsome⟩ := Option.bind_eq_some_iff.mp hstep
      split_ifs at hsome with hgeneration
      · obtain ⟨effect, hprobe, rfl⟩ := Option.map_eq_some_iff.mp hsome
        exact ⟨h.receiveNext.probe hprobe, .inl (probe_publishes hprobe s.receiveNext)⟩
      · cases hsome
        exact ⟨h, .inl rfl⟩
  | take index =>
      obtain ⟨request, hrequest, rfl⟩ := Option.map_eq_some_iff.mp hstep
      exact ⟨h.take (List.mem_of_getElem? hrequest), .inl rfl⟩
  | answer index =>
      obtain ⟨taken, htaken, rfl⟩ := Option.map_eq_some_iff.mp hstep
      exact ⟨h.answer (List.mem_of_getElem? htaken), .inl rfl⟩
  | stray connection bytes => cases hhonest
  | message index response =>
      obtain ⟨pending, hpending, hsome⟩ := Option.bind_eq_some_iff.mp hstep
      obtain ⟨data, hdata, hsome⟩ := Option.bind_eq_some_iff.mp hsome
      dsimp only at hsome
      split_ifs at hsome with hgeneration
      · obtain ⟨effect, hcompleted, rfl⟩ := Option.map_eq_some_iff.mp hsome
        have hconnection := h.guarded.receives.get (List.mem_of_getElem? hpending) hgeneration.symm
        obtain ⟨hsound, hpublished⟩ := (h.erased index).completed hconnection
          (h.arriving hdata) hcompleted
        refine ⟨hsound.receiveNext, ?_⟩
        cases hnew : effect.published with
        | none =>
            left
            rw [PhoneClock.receiveNext, PhoneClock.after, hnew]
            rfl
        | some published =>
            obtain ⟨estimate, rfl, hpublishes⟩ := hpublished published hnew
            refine .inr (.inr ⟨pending.callback, estimate, ?_, hpublishes⟩)
            rw [PhoneClock.receiveNext, PhoneClock.after, hnew]
            rfl
      · cases hsome
        exact ⟨h.erased index, .inl rfl⟩

theorem sound_run {events : List (Event ι)} (hfits : now < horizon)
    (hhonest : ∀ event ∈ events, event.isStray = false)
    (hrun : run (PhoneClock.step std clocks) { now := now } events = some s) :
    Sound clocks now s := by
  have halong : Along (fun (_ : PhoneClock ι) event => Event.isStray event = false)
      (PhoneClock.step std clocks) { now := now } events :=
    along_of_forall fun event hevent _ => hhonest event hevent
  exact run_along (fun h hhonest hstep => (Sound.step h hhonest hstep).1)
    (sound_start clocks hfits) halong hrun

/-- The host of the connection is the one the calls ask for. -/
theorem step_host (hstep : step std clocks s event = some next) :
    next.clock.connection.map ClockConnection.host =
      event.ask (s.clock.connection.map ClockConnection.host) := by
  cases event with
  | tick nanoseconds =>
      obtain ⟨-, hnext⟩ := Option.ite_none_right_eq_some.mp hstep
      cases hnext
      rfl
  | start host =>
      cases hstep
      rfl
  | stop =>
      cases hstep
      rfl
  | timer =>
      obtain ⟨effect, hprobe, rfl⟩ := Option.map_eq_some_iff.mp hstep
      exact congrArg _ (HostClockSync.probe_frame hprobe).1
  | ready index =>
      obtain ⟨handler, -, hsome⟩ := Option.bind_eq_some_iff.mp hstep
      split_ifs at hsome
      · obtain ⟨effect, hprobe, rfl⟩ := Option.map_eq_some_iff.mp hsome
        exact congrArg _ (HostClockSync.probe_frame hprobe).1
      · cases hsome
        rfl
  | take index =>
      obtain ⟨request, -, rfl⟩ := Option.map_eq_some_iff.mp hstep
      rfl
  | answer index =>
      obtain ⟨taken, -, rfl⟩ := Option.map_eq_some_iff.mp hstep
      rfl
  | stray connection bytes =>
      cases hstep
      rfl
  | message index response =>
      obtain ⟨pending, -, hsome⟩ := Option.bind_eq_some_iff.mp hstep
      obtain ⟨data, -, hsome⟩ := Option.bind_eq_some_iff.mp hsome
      dsimp only at hsome
      split_ifs at hsome
      · obtain ⟨effect, hcompleted, rfl⟩ := Option.map_eq_some_iff.mp hsome
        exact congrArg _ (HostClockSync.completed_connection hcompleted)
      · cases hsome
        rfl

theorem run_host {events : List (Event ι)}
    (hrun : run (step std clocks) s events = some next) :
    next.clock.connection.map ClockConnection.host =
      events.foldl Event.ask (s.clock.connection.map ClockConnection.host) := by
  induction events generalizing s with
  | nil =>
      cases hrun
      rfl
  | cons event events ih =>
      obtain ⟨middle, hstep, hrest⟩ := run_cons_some.mp hrun
      rw [ih hrest, step_host hstep]
      rfl

/-- Whatever the network does to the datagrams of the phone and the hosts, an estimate is of the
host that the last call asks for. It lies between the bounds of what the clock of that host has
been ahead by since the eighth estimate before, up to half a second, and up to 7 ms if its
quality is good. -/
theorem published_accurate (events : List (Event ι)) (hfits : now < horizon)
    (hhonest : ∀ event ∈ events, event.isStray = false)
    (hrun : run (step std clocks) { now := now } events = some s)
    (hstep : step std clocks s event = some next) :
    next.published = s.published ∨ next.published = none :: s.published ∨
      ∃ estimate host, next.published = some estimate :: s.published ∧
        asked events = some host ∧ estimate.measuredAtNanoseconds = s.time ∧
        ∀ low high, Bounded clocks host (measuredBefore now s.estimates 7) s.now low high →
          Accurate low high estimate := by
  have hsound := sound_run hfits hhonest hrun
  cases hstray : event.isStray with
  | true =>
      cases event <;> cases hstray
      cases hstep
      exact .inl rfl
  | false =>
      obtain hsame | hnone | hestimate := (hsound.step hstray hstep).2
      · exact .inl hsame
      · exact .inr (.inl hnone)
      · obtain ⟨connection, estimate, hpublished, hconnection, hmeasured, haccurate⟩ := hestimate
        refine .inr (.inr ⟨estimate, connection.host, hpublished, ?_, hmeasured, haccurate⟩)
        have hhost := run_host hrun
        rw [hconnection] at hhost
        exact hhost.symm

/-- A host that is 5 us ahead of the phone. -/
def aheadClock (_ : Unit) (now : Nat) : UInt64 := UInt64.ofNat (now + 5000)

/-- A probe of the host, its answer and some time in each direction. -/
def firstExchange : List (Event Unit) :=
  [.start (), .ready 0, .tick 10, .take 0, .tick 10, .answer 0, .tick 10]

/-- The host has taken the request. -/
def takenPhone : PhoneClock Unit where
  now := 1020
  clock :=
    { connection := some ⟨(), 1⟩
      generation := 1
      nextID := 2
      pending := some ⟨1, 1000⟩
      lastProbe := 1000 }
  handlers := [⟨⟨(), 1⟩, 1⟩]
  receives := [⟨⟨(), 1⟩, 1⟩]
  requests := [(⟨(), 1⟩, ClockSyncWire.request 1 1000)]
  taken := [⟨⟨(), 1⟩, ClockSyncWire.request 1 1000, 6010⟩]

/-- The answer is on its way. -/
def answeredPhone : PhoneClock Unit :=
  { takenPhone with
    now := 1030
    responses := [(⟨(), 1⟩, ClockSyncSerializer.serialize
      (ClockSyncWire.hostAnswer 1 1000 6010 6020))] }

theorem run_firstExchange (std : SortAlgorithm) :
    run (step std aheadClock) { now := 1000 } firstExchange = some answeredPhone := by
  have htaken : run (step std aheadClock) { now := 1000 }
      [.start (), .ready 0, .tick 10, .take 0, .tick 10] = some takenPhone := rfl
  have hanswer : step std aheadClock takenPhone (.answer 0) =
      some { answeredPhone with now := 1020 } := by
    rw [step]
    simp only [takenPhone, List.getElem?_cons_zero, Option.map_some, reply_request]
    rfl
  have hlast : run (step std aheadClock) { answeredPhone with now := 1020 } [.tick 10] =
      some answeredPhone := rfl
  have hall := run_append.mpr ⟨takenPhone, htaken, run_cons_some.mpr ⟨_, hanswer, hlast⟩⟩
  exact hall

/-- The estimate of the first exchange. -/
def firstEstimate : ClockEstimate where
  offsetNanoseconds := 5000
  roundTripNanoseconds := 20
  measuredAtNanoseconds := 1030
  sampleCount := 1

theorem response_firstExchange : ClockSyncWire.response
    (ClockSyncSerializer.serialize (ClockSyncWire.hostAnswer 1 1000 6010 6020)) 1 1000 1030 =
      some (some firstEstimate) := by
  have hbounds : 0 ≤ (ClockSyncMath.exchange 1000 6010 6020 1030).roundTrip ∧
      (ClockSyncMath.exchange 1000 6010 6020 1030).roundTrip < 1000000000 := by
    decide +kernel
  rw [ClockSyncWire.response_serialize, if_neg (by decide)]
  simp only [ClockSyncWire.hostAnswer]
  rw [ClockSyncWire.sample_eq (by decide) (by decide)]
  simp only [if_pos hbounds]
  have hoffset : (ClockSyncMath.exchange 1000 6010 6020 1030).offset = 5000 := by decide +kernel
  have hroundTrip : (ClockSyncMath.exchange 1000 6010 6020 1030).roundTrip = 20 := by
    decide +kernel
  rw [hoffset, hroundTrip]
  rfl

theorem add_firstEstimate : ({} : ClockSampleFilter).add .stable firstEstimate =
    some (firstEstimate, ⟨[firstEstimate]⟩) := by
  simp [ClockSampleFilter.add, ClockSampleFilter.appended, ClockSampleFilter.suffix,
    SortAlgorithm.stable, ClockSampleFilter.drift, ClockSampleFilter.checkedAdd,
    ClockSampleFilter.quality, firstEstimate]

/-- The answer is taken, and the filter has its first sample. -/
theorem completed_firstExchange :
    HostClockSync.completed .stable answeredPhone.clock
      (some (ClockSyncSerializer.serialize (ClockSyncWire.hostAnswer 1 1000 6010 6020))) 1030 =
    some
      { clock := { answeredPhone.clock with
          pending := none
          filter := ⟨[firstEstimate]⟩ }
        published := some (some firstEstimate) } := by
  simp only [HostClockSync.completed, answeredPhone, takenPhone, response_firstExchange,
    add_firstEstimate, Option.bind_eq_bind, Option.bind_some]
  rfl

theorem published_accurate_ahead : ∃ next,
    step .stable aheadClock answeredPhone (.message 0 (some 0)) = some next ∧
      next.published = [some firstEstimate] ∧ asked firstExchange = some () ∧
        Accurate 5000 5000 firstEstimate := by
  have hfits : 1000 < horizon := by decide
  have hstep : step .stable aheadClock answeredPhone (.message 0 (some 0)) =
      some (PhoneClock.receiveNext (PhoneClock.after { answeredPhone with receives := [] }
        { clock := { answeredPhone.clock with
            pending := none
            filter := ⟨[firstEstimate]⟩ }
          published := some (some firstEstimate) })) := by
    change Option.map _ (HostClockSync.completed .stable answeredPhone.clock _ 1030) = _
    rw [completed_firstExchange]
    rfl
  have hhonest : ∀ event ∈ firstExchange, event.isStray = false := by decide
  obtain hsame | hnone | ⟨estimate, host, hpublished, hasked, -, haccurate⟩ :=
    published_accurate firstExchange hfits hhonest (run_firstExchange .stable) hstep
  · cases hsame
  · cases hnone
  · cases hpublished
    refine ⟨_, hstep, rfl, rfl, haccurate 5000 5000 ?_⟩
    intro t _ hle
    have hclock : (aheadClock () t).toNat = t + 5000 := by
      apply UInt64.toNat_ofNat_of_lt'
      show t + 5000 < 2 ^ 64
      have hnow : t ≤ 1030 := hle
      omega
    rw [ahead, hclock, Nat.cast_add, add_sub_cancel_left]
    exact ⟨le_refl _, le_refl _⟩

/-- In no state that the phone reaches does a callback trap, whatever arrives. -/
theorem callbacks_never_trap (events : List (Event ι)) (hfits : now < horizon)
    (hrun : run (step std clocks) { now := now } events = some s) :
    (step std clocks s .timer).isSome ∧
      (∀ index, index < s.handlers.length → (step std clocks s (.ready index)).isSome) ∧
      ∀ index pending response data, s.receives[index]? = some pending →
        s.arriving pending.callback response = some data →
        (step std clocks s (.message index response)).isSome := by
  have htimely := timely_run hfits hrun
  obtain ⟨probed, hprobe⟩ := htimely.probe_total
  have hprobe : s.clock.probe s.time = some probed := hprobe
  refine ⟨?_, ?_, ?_⟩
  · rw [step, hprobe]
    rfl
  · intro index hindex
    rw [step, List.getElem?_eq_getElem hindex, Option.bind_some]
    split_ifs
    · rw [hprobe]
      rfl
    · rfl
  · intro index pending response data hpending harriving
    rw [step, hpending, Option.bind_some, harriving, Option.bind_some]
    dsimp only
    split_ifs
    · obtain ⟨effect, hcompleted⟩ := htimely.completed_total std data
      have hsome : s.clock.completed std data
          (PhoneClock.time { s with receives := s.receives.eraseIdx index }) = some effect :=
        hcompleted
      rw [hsome]
      rfl
    · rfl

/-- An answer that is none, and no clock at all, between the phone and its host. -/
theorem callbacks_never_trap_stray : ∃ s,
    run (step .stable fun _ _ => 0) { now := 1000 }
        [.start (), .ready 0, .stray ⟨(), 1⟩ (List.replicate 40 255), .stray ⟨(), 1⟩ []] =
      some s ∧ s.receives.length = 1 ∧
    (step .stable (fun _ _ => 0) s .timer).isSome ∧
      (∀ index, index < s.handlers.length →
        (step .stable (fun _ _ => 0) s (.ready index)).isSome) ∧
      ∀ index pending response data, s.receives[index]? = some pending →
        s.arriving pending.callback response = some data →
        (step .stable (fun _ _ => 0) s (.message index response)).isSome := by
  have hfits : 1000 < horizon := by decide
  refine ⟨_, rfl, rfl, ?_⟩
  exact callbacks_never_trap
    [.start (), .ready 0, .stray ⟨(), 1⟩ (List.replicate 40 255), .stray ⟨(), 1⟩ []] hfits rfl

end Runs

end PhoneClock

end SyncAudio.Ios
