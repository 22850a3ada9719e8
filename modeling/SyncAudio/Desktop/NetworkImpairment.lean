import SyncAudio.Lib.Binary64
import SyncAudio.Lib.LabelledRun
import SyncAudio.Lib.ReleaseQueue

/-!
# The network impairment simulator

`submit` drops a datagram or queues one or two copies of it, each with a delivery time drawn at
random. `drain` delivers the copies that are due, in the order of their delivery times.

## Implementation notes

The random engine and the distributions are a parameter. Times do not overflow, and neither does
the sequence number of the copies.
-/

namespace SyncAudio.NetworkImpairment

open LabelledRun ReleaseQueue

structure NetworkImpairmentConfig where
  packetLossPercent : Binary64 := .zero
  baseDelayMs : UInt32 := 0
  jitterMs : UInt32 := 0
  duplicatePercent : Binary64 := .zero
  reorderPercent : Binary64 := .zero
  blackoutDurationMs : UInt32 := 0
  seed : UInt32 := 1
  deriving DecidableEq

structure ImpairedDatagram where
  deliveryTime : Int
  bytes : List UInt8
  sequence : Nat
  deriving DecidableEq

/-- A random engine with the two distributions drawn from it. The integers lie within their
limits. -/
structure RandomSource (ρ : Type) where
  seeded : UInt32 → ρ
  uniformReal : ρ → Binary64 × ρ
  uniformInt : UInt32 → ρ → UInt32 × ρ
  uniformInt_le : ∀ limit random, (uniformInt limit random).1 ≤ limit

def hundred : Binary64 := .ofInt 100

def checkPercent (value : Binary64) : Except String Unit :=
  if !(Binary64.zero.le value && value.le hundred) then
    .error "Impairment percent must be within 0..100"
  else .ok ()

/-- The limits of the constructor on the durations. -/
def WithinLimits (config : NetworkImpairmentConfig) : Prop :=
  config.baseDelayMs ≤ 10000 ∧ config.jitterMs ≤ 10000 ∧ config.blackoutDurationMs ≤ 60000

instance (config : NetworkImpairmentConfig) : Decidable (WithinLimits config) :=
  inferInstanceAs (Decidable (_ ∧ _ ∧ _))

structure Simulator (ρ : Type) where
  config : NetworkImpairmentConfig
  random : ρ
  pending : List ImpairedDatagram := []
  nextSequence : Nat := 0
  started : Bool := false
  startTime : Int := 0
  within : WithinLimits config
  deriving DecidableEq

variable {ρ : Type} (source : RandomSource ρ)

/-- The constructor. -/
def construct (config : NetworkImpairmentConfig) : Except String (Simulator ρ) := do
  checkPercent config.packetLossPercent
  checkPercent config.duplicatePercent
  checkPercent config.reorderPercent
  if h : WithinLimits config then
    .ok { config, random := source.seeded config.seed, within := h }
  else .error "Impairment duration exceeds debug limit"

def chance (percent : Binary64) (random : ρ) : Bool × ρ :=
  if percent.le .zero then (false, random)
  else if hundred.le percent then (true, random)
  else
    let draw := source.uniformReal random
    (draw.1.lt percent, draw.2)

/-- The body of the loop of `submit`. -/
def pushCopy (datagram : List UInt8) (now : Int) (simulator : Simulator ρ) : Simulator ρ :=
  let jitter :=
    if simulator.config.jitterMs = 0 then (0, simulator.random)
    else source.uniformInt simulator.config.jitterMs simulator.random
  let reorder := chance source simulator.config.reorderPercent jitter.2
  let extra : UInt32 := if reorder.1 then 30 else 0
  { simulator with
    random := reorder.2
    pending := simulator.pending ++ [{
      deliveryTime := now + (simulator.config.baseDelayMs + jitter.1 + extra).toNat
      bytes := datagram
      sequence := simulator.nextSequence }]
    nextSequence := simulator.nextSequence + 1 }

def pushCopies (datagram : List UInt8) (now : Int) : Nat → Simulator ρ → Simulator ρ
  | 0, simulator => simulator
  | count + 1, simulator => pushCopies datagram now count (pushCopy source datagram now simulator)

def start (now : Int) (simulator : Simulator ρ) : Simulator ρ :=
  if simulator.started then simulator
  else { simulator with
    started := true
    startTime := now }

/-- `submit` behind the blackout. -/
def impair (datagram : List UInt8) (now : Int) (simulator : Simulator ρ) : Simulator ρ :=
  let loss := chance source simulator.config.packetLossPercent simulator.random
  if loss.1 then { simulator with random := loss.2 }
  else
    let duplicate := chance source simulator.config.duplicatePercent loss.2
    pushCopies source datagram now (if duplicate.1 then 2 else 1)
      { simulator with random := duplicate.2 }

def submit (datagram : List UInt8) (now : Int) (simulator : Simulator ρ) : Simulator ρ :=
  let simulator := start now simulator
  if now - simulator.startTime < simulator.config.blackoutDurationMs.toNat then simulator
  else impair source datagram now simulator

/-- The comparison of the sort. -/
def before (left right : ImpairedDatagram) : Bool :=
  if left.deliveryTime = right.deliveryTime then left.sequence < right.sequence
  else left.deliveryTime < right.deliveryTime

/-- `std::stable_sort` by a comparison. -/
def stableSort (less : ImpairedDatagram → ImpairedDatagram → Bool)
    (datagrams : List ImpairedDatagram) : List ImpairedDatagram :=
  datagrams.mergeSort fun left right => !less right left

def drain (now : Int) (simulator : Simulator ρ) : List ImpairedDatagram × Simulator ρ :=
  let parts := simulator.pending.partition fun datagram => datagram.deliveryTime ≤ now
  (stableSort before parts.1, { simulator with pending := parts.2 })

/-- `pending()`. -/
def pendingCount (simulator : Simulator ρ) : Nat := simulator.pending.length

inductive Event where
  | submit (datagram : List UInt8) (now : Int)
  | drain (now : Int)

def Event.now : Event → Int
  | submit _ now => now
  | drain now => now

/-- A call of `submit` with the copies that it has queued, or one of `drain` with what it has
delivered. -/
abbrev Call := ReleaseQueue.Call (List UInt8) Int ImpairedDatagram

/-- The simulator and the calls so far. -/
structure Recorder (ρ : Type) where
  simulator : Simulator ρ
  calls : List Call := []

def perform (recorder : Recorder ρ) : Event → Recorder ρ
  | .submit datagram now =>
      let simulator := submit source datagram now recorder.simulator
      let copies := simulator.pending.drop recorder.simulator.pending.length
      { simulator, calls := recorder.calls ++ [.added datagram now copies] }
  | .drain now =>
      let result := drain now recorder.simulator
      { simulator := result.2, calls := recorder.calls ++ [.released now result.1] }

/-- The next call, which is not earlier than any before it. -/
def step : Step (Recorder ρ) Event := fun recorder event =>
  if ∀ call ∈ recorder.calls, call.now ≤ event.now then some (perform source recorder event)
  else none

section Submit

variable {source} {datagram : List UInt8} {now : Int} {simulator result : Simulator ρ}

/-- The copy carries the datagram and is delivered after the delay. -/
def Carries (config : NetworkImpairmentConfig) (datagram : List UInt8) (now : Int)
    (copy : ImpairedDatagram) : Prop :=
  copy.bytes = datagram ∧ now + config.baseDelayMs.toNat ≤ copy.deliveryTime ∧
    copy.deliveryTime ≤ now + config.baseDelayMs.toNat + config.jitterMs.toNat + 30

/-- What pushing copies does to the simulator. -/
structure Pushed (datagram : List UInt8) (now : Int) (simulator result : Simulator ρ)
    (copies : List ImpairedDatagram) : Prop where
  config : result.config = simulator.config
  pending : result.pending = simulator.pending ++ copies
  nextSequence : result.nextSequence = simulator.nextSequence + copies.length
  sequences : copies.map (·.sequence) = List.range' simulator.nextSequence copies.length
  carries : ∀ copy ∈ copies, Carries simulator.config datagram now copy

theorem Pushed.refl : Pushed datagram now simulator simulator [] where
  config := rfl
  pending := (List.append_nil _).symm
  nextSequence := rfl
  sequences := rfl
  carries := fun _ hmem => absurd hmem List.not_mem_nil

theorem Pushed.trans {middle : Simulator ρ} {copies others : List ImpairedDatagram}
    (h : Pushed datagram now simulator middle copies)
    (h' : Pushed datagram now middle result others) :
    Pushed datagram now simulator result (copies ++ others) where
  config := h'.config.trans h.config
  pending := by rw [h'.pending, h.pending, List.append_assoc]
  nextSequence := by rw [h'.nextSequence, h.nextSequence, List.length_append, Nat.add_assoc]
  sequences := by
    rw [List.map_append, h.sequences, h'.sequences, h.nextSequence, List.length_append,
      ← List.range'_append_1]
  carries := by
    intro copy hmem
    rcases List.mem_append.mp hmem with hcopy | hother
    · exact h.carries copy hcopy
    · rw [← h.config]
      exact h'.carries copy hother

/-- The delays do not overflow. -/
theorem toNat_delay {config : NetworkImpairmentConfig} (h : WithinLimits config)
    {jitter extra : UInt32} (hjitter : jitter ≤ config.jitterMs) (hextra : extra ≤ 30) :
    (config.baseDelayMs + jitter + extra).toNat =
      config.baseDelayMs.toNat + jitter.toNat + extra.toNat := by
  have hbase : config.baseDelayMs.toNat ≤ 10000 := UInt32.le_iff_toNat_le.mp h.1
  have hlimit : config.jitterMs.toNat ≤ 10000 := UInt32.le_iff_toNat_le.mp h.2.1
  have hdrawn := UInt32.le_iff_toNat_le.mp hjitter
  have hreorder : extra.toNat ≤ 30 := UInt32.le_iff_toNat_le.mp hextra
  rw [UInt32.toNat_add, UInt32.toNat_add]
  omega

theorem jitter_le (source : RandomSource ρ) (limit : UInt32) (random : ρ) :
    (if limit = 0 then (0, random) else source.uniformInt limit random).1 ≤ limit := by
  split_ifs with hzero
  · exact UInt32.le_iff_toNat_le.mpr (Nat.zero_le _)
  · exact source.uniformInt_le limit random

theorem pushed_pushCopy (source : RandomSource ρ) (datagram : List UInt8) (now : Int)
    (simulator : Simulator ρ) :
    ∃ copy, Pushed datagram now simulator (pushCopy source datagram now simulator) [copy] := by
  have hjitter := jitter_le source simulator.config.jitterMs simulator.random
  unfold pushCopy
  dsimp only
  generalize (if simulator.config.jitterMs = 0 then (0, simulator.random)
    else source.uniformInt simulator.config.jitterMs simulator.random) = jitter at hjitter ⊢
  generalize chance source simulator.config.reorderPercent jitter.2 = reorder
  have hextra : (if reorder.1 then 30 else 0 : UInt32) ≤ 30 := by
    cases reorder.1 with
    | false => decide
    | true => decide
  have hdelay := toNat_delay simulator.within hjitter hextra
  have hdrawn := UInt32.le_iff_toNat_le.mp hjitter
  have hreorder : (if reorder.1 then 30 else 0 : UInt32).toNat ≤ 30 :=
    UInt32.le_iff_toNat_le.mp hextra
  refine ⟨_, rfl, rfl, rfl, rfl, ?_⟩
  intro copy hmem
  rw [List.mem_singleton.mp hmem]
  refine ⟨rfl, ?_, ?_⟩
  · dsimp only
    omega
  · dsimp only
    omega

theorem pushed_pushCopies (source : RandomSource ρ) (datagram : List UInt8) (now : Int) (count : Nat)
    (simulator : Simulator ρ) :
    ∃ copies, copies.length = count ∧
      Pushed datagram now simulator (pushCopies source datagram now count simulator) copies := by
  induction count generalizing simulator with
  | zero => exact ⟨[], rfl, .refl⟩
  | succ count ih =>
    obtain ⟨copy, hcopy⟩ := pushed_pushCopy source datagram now simulator
    obtain ⟨copies, hlength, hcopies⟩ := ih (pushCopy source datagram now simulator)
    refine ⟨copy :: copies, ?_, hcopy.trans hcopies⟩
    rw [List.length_cons, hlength]

/-- The other fields do not matter. -/
theorem Pushed.of_eq {first : Simulator ρ} {copies : List ImpairedDatagram}
    (h : Pushed datagram now first result copies) (hconfig : first.config = simulator.config)
    (hpending : first.pending = simulator.pending)
    (hnext : first.nextSequence = simulator.nextSequence) :
    Pushed datagram now simulator result copies where
  config := h.config.trans hconfig
  pending := by rw [h.pending, hpending]
  nextSequence := by rw [h.nextSequence, hnext]
  sequences := by rw [h.sequences, hnext]
  carries := by
    rw [← hconfig]
    exact h.carries

theorem pushed_impair (source : RandomSource ρ) (datagram : List UInt8) (now : Int)
    (simulator : Simulator ρ) :
    ∃ copies, copies.length ≤ 2 ∧
      Pushed datagram now simulator (impair source datagram now simulator) copies := by
  unfold impair
  dsimp only
  split_ifs with hloss
  · exact ⟨[], Nat.zero_le _, Pushed.refl.of_eq rfl rfl rfl⟩
  all_goals
    obtain ⟨copies, hlength, hpushed⟩ := pushed_pushCopies source datagram now _ _
    refine ⟨copies, ?_, hpushed.of_eq rfl rfl rfl⟩
    omega

theorem start_eq (now : Int) (simulator : Simulator ρ) :
    (start now simulator).config = simulator.config ∧
      (start now simulator).pending = simulator.pending ∧
      (start now simulator).nextSequence = simulator.nextSequence := by
  unfold start
  split_ifs
  · exact ⟨rfl, rfl, rfl⟩
  · exact ⟨rfl, rfl, rfl⟩

/-- `submit` queues at most two copies. -/
theorem pushed_submit (source : RandomSource ρ) (datagram : List UInt8) (now : Int)
    (simulator : Simulator ρ) :
    ∃ copies, copies.length ≤ 2 ∧
      Pushed datagram now simulator (submit source datagram now simulator) copies := by
  obtain ⟨hconfig, hpending, hnext⟩ := start_eq now simulator
  unfold submit
  dsimp only
  split_ifs with hblackout
  · exact ⟨[], Nat.zero_le _, Pushed.refl.of_eq hconfig hpending hnext⟩
  · obtain ⟨copies, hlength, hpushed⟩ := pushed_impair source datagram now (start now simulator)
    exact ⟨copies, hlength, hpushed.of_eq hconfig hpending hnext⟩

end Submit

section Drain

theorem not_before_iff {left right : ImpairedDatagram} :
    (!before right left) = true ↔
      ¬ Before ImpairedDatagram.deliveryTime ImpairedDatagram.sequence right left := by
  unfold before Before
  split_ifs with heq
  · simp [heq]
  · simp [heq]

theorem stableSort_pairwise (datagrams : List ImpairedDatagram) :
    (stableSort before datagrams).Pairwise fun left right =>
      ¬ Before ImpairedDatagram.deliveryTime ImpairedDatagram.sequence right left := by
  have hsorted := @List.pairwise_mergeSort _ (fun left right => !before right left) ?_ ?_ datagrams
  · exact hsorted.imp fun h => not_before_iff.mp h
  · intro a b c hab hbc
    rw [not_before_iff] at *
    unfold Before at *
    omega
  · intro a b
    rw [Bool.or_eq_true, not_before_iff, not_before_iff]
    unfold Before
    omega

theorem drain_snd (now : Int) (simulator : Simulator ρ) :
    (drain now simulator).2 = { simulator with
      pending := simulator.pending.filter fun datagram => ¬ datagram.deliveryTime ≤ now } := by
  unfold drain
  rw [List.partition_eq_filter_filter]
  simp only [Function.comp_def, decide_not]

theorem drain_fst_perm (now : Int) (simulator : Simulator ρ) :
    (drain now simulator).1.Perm
      (simulator.pending.filter fun datagram => datagram.deliveryTime ≤ now) := by
  unfold drain
  rw [List.partition_eq_filter_filter]
  exact List.mergeSort_perm _ _

end Drain

section Runs

variable {source} {config : NetworkImpairmentConfig} {recorder result : Recorder ρ} {event : Event}

/-- The invariant of a run. -/
structure Recorded (config : NetworkImpairmentConfig) (recorder : Recorder ρ) : Prop where
  config_eq : recorder.simulator.config = config
  queue : Released ImpairedDatagram.deliveryTime ImpairedDatagram.sequence
    recorder.simulator.pending recorder.calls
  sequence_lt : ∀ copy ∈ entered recorder.calls,
    copy.sequence < recorder.simulator.nextSequence
  copies : ∀ datagram now copies, .added datagram now copies ∈ recorder.calls →
    copies.length ≤ 2 ∧ ∀ copy ∈ copies, Carries config datagram now copy

/-- What follows a check that has passed. -/
theorem of_checkPercent {α : Type} {value : Binary64} {next : Unit → Except String α} {x : α}
    (h : (checkPercent value >>= next) = .ok x) : next () = .ok x := by
  cases hcheck : checkPercent value with
  | error message =>
    rw [hcheck] at h
    cases h
  | ok _ =>
    rw [hcheck] at h
    exact h

/-- What the constructor makes. -/
theorem construct_ok {simulator : Simulator ρ} (h : construct source config = .ok simulator) :
    ∃ within, simulator = { config, random := source.seeded config.seed, within } := by
  have hlimits := of_checkPercent (of_checkPercent (of_checkPercent h))
  split_ifs at hlimits with hwithin
  cases hlimits
  exact ⟨hwithin, rfl⟩

theorem recorded_construct {simulator : Simulator ρ} (h : construct source config = .ok simulator) :
    Recorded config { simulator } := by
  obtain ⟨within, rfl⟩ := construct_ok h
  constructor
  case config_eq => rfl
  case queue => exact .nil
  case sequence_lt => exact fun _ hmem => absurd hmem List.not_mem_nil
  case copies => exact fun _ _ _ hmem => absurd hmem List.not_mem_nil

theorem recorded_submit (source : RandomSource ρ) (datagram : List UInt8) (now : Int)
    (h : Recorded config recorder) (hnow : ∀ call ∈ recorder.calls, call.now ≤ now) :
    Recorded config (perform source recorder (.submit datagram now)) := by
  obtain ⟨copies, hlength, hpushed⟩ := pushed_submit source datagram now recorder.simulator
  have hcarries := hpushed.carries
  rw [h.config_eq] at hcarries
  have hsequence : ∀ copy ∈ copies, recorder.simulator.nextSequence ≤ copy.sequence ∧
      copy.sequence < recorder.simulator.nextSequence + copies.length := by
    intro copy hmem
    have hrange := List.mem_map_of_mem (f := (·.sequence)) hmem
    rw [hpushed.sequences, List.mem_range'_1] at hrange
    exact hrange
  have hranked : copies.Pairwise fun left right => left.sequence < right.sequence := by
    have hrange := @List.pairwise_lt_range' recorder.simulator.nextSequence copies.length 1 Nat.one_pos
    rw [← hpushed.sequences] at hrange
    exact List.pairwise_map.mp hrange
  have hqueue := h.queue.add datagram hnow (fun copy hmem => ?_)
    (fun old hold copy hmem => (h.sequence_lt old hold).trans_le (hsequence copy hmem).1) hranked
  · have hcopies : (submit source datagram now recorder.simulator).pending.drop
        recorder.simulator.pending.length = copies := by
      rw [hpushed.pending, List.drop_left]
    unfold perform
    dsimp only
    rw [hcopies]
    constructor
    case config_eq => exact hpushed.config.trans h.config_eq
    case queue =>
      rw [hpushed.pending]
      exact hqueue
    case sequence_lt =>
      intro copy hmem
      rw [entered_added] at hmem
      rw [hpushed.nextSequence]
      rcases List.mem_append.mp hmem with hold | hnew
      · exact Nat.lt_add_right _ (h.sequence_lt copy hold)
      · exact (hsequence copy hnew).2
    case copies =>
      intro datagram' now' copies' hmem
      rcases List.mem_append.mp hmem with hold | hnew
      · exact h.copies datagram' now' copies' hold
      · cases List.mem_singleton.mp hnew
        exact ⟨hlength, hcarries⟩
  · have hdelay := (hcarries copy hmem).2.1
    omega

theorem recorded_drain (source : RandomSource ρ) (now : Int) (h : Recorded config recorder) :
    Recorded config (perform source recorder (.drain now)) := by
  have hsnd := drain_snd now recorder.simulator
  constructor
  case config_eq => exact h.config_eq
  case queue =>
    apply h.queue.release (drain_fst_perm now recorder.simulator)
    · exact congrArg Simulator.pending hsnd
    · exact stableSort_pairwise _
  case sequence_lt =>
    intro copy hmem
    unfold perform at hmem
    rw [entered_released] at hmem
    exact h.sequence_lt copy hmem
  case copies =>
    intro datagram now' copies hmem
    rcases List.mem_append.mp hmem with hold | hnew
    · exact h.copies datagram now' copies hold
    · cases List.mem_singleton.mp hnew

theorem recorded_step (h : Recorded config recorder) (hstep : step source recorder event = some result) :
    Recorded config result := by
  obtain ⟨hnow, hresult⟩ := Option.ite_none_right_eq_some.mp hstep
  cases hresult
  cases event with
  | submit datagram now => exact recorded_submit source datagram now h hnow
  | drain now => exact recorded_drain source now h

/-- The request of a call. -/
def request : Call → Event
  | .added datagram now _ => .submit datagram now
  | .released now _ => .drain now

theorem requests_of_run {events : List Event} (h : run (step source) recorder events = some result) :
    result.calls.map request = recorder.calls.map request ++ events := by
  induction events generalizing recorder with
  | nil =>
    cases h
    simp
  | cons event events ih =>
    obtain ⟨next, hstep, hrest⟩ := run_cons_some.mp h
    obtain ⟨-, hnext⟩ := Option.ite_none_right_eq_some.mp hstep
    rw [ih hrest, ← Option.some.inj hnext]
    cases event with
    | submit datagram now => simp [perform, request]
    | drain now => simp [perform, request]

end Runs

/-- Nothing is lost, invented or delivered out of turn. -/
structure Conserves (config : NetworkImpairmentConfig) (recorder : Recorder ρ) : Prop where
  /-- A datagram is copied, and its copies delivered, at most twice. -/
  copies : ∀ datagram now copies, .added datagram now copies ∈ recorder.calls →
    copies.length ≤ 2 ∧ ((left recorder.calls).filter (· ∈ copies)).length ≤ 2 ∧
      ∀ copy ∈ copies, Carries config datagram now copy
  distinct : ((entered recorder.calls).map (·.sequence)).Nodup
  /-- The copies delivered and pending are the copies made. -/
  conserved : (left recorder.calls ++ recorder.simulator.pending).Perm (entered recorder.calls)
  /-- A copy is delivered by the first drain at or after its delivery time. -/
  first : ∀ i datagram now copies, recorder.calls[i]? = some (.added datagram now copies) →
    ∀ copy ∈ copies, ∀ k time delivered, recorder.calls[k]? = some (.released time delivered) →
      (copy ∈ delivered ↔ i < k ∧ copy.deliveryTime ≤ time ∧
        Waits ImpairedDatagram.deliveryTime recorder.calls i k copy)
  sorted : (left recorder.calls).Pairwise
    (Before ImpairedDatagram.deliveryTime ImpairedDatagram.sequence)
  pendingCount_eq : (pendingCount recorder.simulator : Int) =
    (entered recorder.calls).length - (left recorder.calls).length

theorem conserves_of_recorded {config : NetworkImpairmentConfig} {recorder : Recorder ρ}
    (h : Recorded config recorder) : Conserves config recorder := by
  have hdistinct := h.queue.ranked.imp fun hlt => Nat.ne_of_lt hlt
  have hlength := h.queue.conserved.length_eq
  rw [List.length_append] at hlength
  constructor
  case copies =>
    intro datagram now copies hmem
    obtain ⟨htwo, hcarries⟩ := h.copies datagram now copies hmem
    refine ⟨htwo, ?_, hcarries⟩
    have hsubset : (left recorder.calls).filter (· ∈ copies) ⊆ copies := by
      intro copy hcopy
      exact of_decide_eq_true (List.mem_filter.mp hcopy).2
    have hnodup := h.queue.nodup_left.filter (· ∈ copies)
    exact ((List.subperm_of_subset hnodup hsubset).length_le).trans htwo
  case distinct => exact List.pairwise_map.mpr hdistinct
  case conserved => exact h.queue.conserved
  case first => exact h.queue.mem_released
  case sorted => exact h.queue.sorted
  case pendingCount_eq =>
    unfold pendingCount
    omega

/-- Every run of the simulator conserves and orders the datagrams. -/
theorem run_conserves (source : RandomSource ρ) {config : NetworkImpairmentConfig}
    {simulator : Simulator ρ} {events : List Event} {recorder : Recorder ρ}
    (hconstruct : construct source config = .ok simulator)
    (hrun : run (step source) { simulator } events = some recorder) :
    recorder.calls.map request = events ∧ Conserves config recorder := by
  constructor
  · simpa using requests_of_run hrun
  · apply conserves_of_recorded
    exact run_preserves recorded_step (recorded_construct hconstruct) hrun

/-- A source that counts its draws. -/
def countingSource : RandomSource Nat where
  seeded := fun _ => 0
  uniformReal := fun count => (.zero, count + 1)
  uniformInt := fun limit count =>
    (if UInt32.ofNat count ≤ limit then UInt32.ofNat count else limit, count + 1)
  uniformInt_le := by
    intro limit count
    dsimp only
    split_ifs with hle
    · exact hle
    · exact UInt32.le_refl limit

def jitteryConfig : NetworkImpairmentConfig where
  baseDelayMs := 20
  jitterMs := 5

def jitteryEvents : List Event :=
  [.submit [0x7f] 0, .submit [1] 0, .drain 20, .drain 30]

theorem withinLimits_jitteryConfig : WithinLimits jitteryConfig := by decide

def jitterySimulator : Simulator Nat where
  config := jitteryConfig
  random := 0
  within := withinLimits_jitteryConfig

theorem run_conserves_jittery :
    ∃ recorder, construct countingSource jitteryConfig = .ok jitterySimulator ∧
      run (step countingSource) { simulator := jitterySimulator } jitteryEvents = some recorder ∧
      left recorder.calls = [⟨20, [0x7f], 0⟩, ⟨21, [1], 1⟩] ∧
      recorder.calls.map request = jitteryEvents ∧ Conserves jitteryConfig recorder := by
  have hconstruct : construct countingSource jitteryConfig = .ok jitterySimulator := by
    decide +kernel
  have hleft : (run (step countingSource) { simulator := jitterySimulator } jitteryEvents).map
      (fun recorder => left recorder.calls) = some [⟨20, [0x7f], 0⟩, ⟨21, [1], 1⟩] := by
    decide +kernel
  obtain ⟨recorder, hrun, hcalls⟩ := Option.map_eq_some_iff.mp hleft
  exact ⟨recorder, hconstruct, hrun, hcalls, run_conserves countingSource hconstruct hrun⟩

end SyncAudio.NetworkImpairment
