import SyncAudio.Ios.PlaybackTraps

/-!
# The buffers that the player has scheduled

`pump` hands buffers to the engine and counts their frames. The completion of a buffer
comes back later, in any order and perhaps behind a reset of the stream, and takes its
frames off the count if the generation is still the one in which it was scheduled.

## Implementation notes

`pumpCall` is `pump` with a record of what it hands to the engine: `pumpCall_player` says
that the player behind it is the same. A completion is a step of its own, for a buffer
that has not been completed yet.
-/

namespace SyncAudio.Ios

open Checked LabelledRun PlaybackTiming

/-- A buffer of the engine, with what its completion captures. -/
structure ScheduledBuffer where
  generation : Int
  item : PlaybackItem
  deriving DecidableEq

/-- A call of `player.play(at:)`, with the packet behind its start time. -/
structure PlayerStart where
  generation : Int
  packet : AudioPacket
  deriving DecidableEq

/-- One call on the queue of the player: the player behind it, and what it hands to the
engine. -/
structure PlaybackCall where
  player : Playback
  buffers : List ScheduledBuffer := []
  started : Option PlayerStart := none

/-- The player at the loop of `pump`, and the frames at which it starts and the loop ends. -/
structure LoopEntry where
  player : Playback
  offset : ClockOffset
  prebufferFrames : Int
  targetFrames : Int

namespace Playback

/-- `pump` up to its loop, or up to where it returns before the loop. -/
def enter (s : Playback) (input : PumpInput) : Option (Playback ⊕ LoopEntry) := do
  let s ← s.takeAction input
  match s.ready input with
  | none => some (.inl s)
  | some (sampleRate, offset) => do
      let prebufferFrames ← framesFor sampleRate s.targetBufferMilliseconds
      let targetFrames ← framesFor sampleRate (s.targetBufferMilliseconds.add (.ofInt 70))
      let player := { s.discardLate offset input with formatted := true }
      let entry := { player, offset, prebufferFrames, targetFrames : LoopEntry }
      if player.primed then some (.inr entry)
      else do
        let buffered ← player.packets.bufferedFrames
        let buffered ← toSigned buffered
        if buffered < prebufferFrames then some (.inl player) else some (.inr entry)

/-- `fill`, with the buffers that it schedules. -/
def schedule (targetFrames : Int) (converted : Nat → Bool) :
    Nat → Nat → Playback → Option (Playback × List ScheduledBuffer)
  | 0, _, s => some (s, [])
  | fuel + 1, index, s =>
      if s.queuedFrames < targetFrames then do
        let (item, _) ← s.packets.popChecked
        let (next, goesOn) ← s.queueItem (converted index)
        if goesOn then do
          let (last, buffers) ← schedule targetFrames converted fuel (index + 1) next
          some (last, (item.map (ScheduledBuffer.mk s.generation)).toList ++ buffers)
        else some (next, [])
      else some (s, [])

end Playback

namespace LoopEntry

/-- The loop. -/
def fill (entry : LoopEntry) (input : PumpInput) : Option (Playback × List ScheduledBuffer) :=
  entry.player.schedule entry.targetFrames input.converted
    (entry.targetFrames - entry.player.queuedFrames).toNat 0

/-- `pump` behind the loop. -/
def finish (clock : HostClock) (entry : LoopEntry) (input : PumpInput) (s : Playback)
    (buffers : List ScheduledBuffer) : Option PlaybackCall := do
  let firstPacket := entry.player.packets.firstPacket
  let (begun, goesOn) ← s.begin clock entry.offset input firstPacket entry.prebufferFrames
  let started := if !s.primed && begun.primed then
    firstPacket.map (PlayerStart.mk begun.generation) else none
  if goesOn then do
    let player ← begun.countUnderrun
    let _ ← player.tickDifference input
    some { player, buffers, started }
  else some { player := begun, buffers, started }

end LoopEntry

namespace Playback

/-- `pump`, with what it hands to the engine. -/
def pumpCall (clock : HostClock) (s : Playback) (input : PumpInput) : Option PlaybackCall := do
  match ← s.enter input with
  | .inl player => some { player }
  | .inr entry => do
      let (filled, buffers) ← entry.fill input
      entry.finish clock input filled buffers

/-- `step`, with what it hands to the engine. -/
def call (clock : HostClock) (s : Playback) (event : Event) : Option PlaybackCall :=
  (s.prepare event).bind fun next =>
    match next.2 with
    | none => some { player := next.1 }
    | some input => next.1.pumpCall clock input

/-- The completion of a buffer of any length. -/
def complete (s : Playback) (buffer : ScheduledBuffer) : Option Playback :=
  if s.generation = buffer.generation then do
    let queuedFrames ← subSigned s.queuedFrames buffer.item.frames
    some { s with queuedFrames := max 0 queuedFrames }
  else some s

/-- The call is a completion. -/
def Event.isCompletion : Event → Bool
  | .completed _ _ => true
  | _ => false

end Playback

/-- The player and its engine. -/
structure Scheduling where
  player : Playback := {}
  /-- All buffers that have been scheduled. -/
  scheduled : List ScheduledBuffer := []
  /-- The buffers whose completion has not been handled. -/
  inFlight : List ScheduledBuffer := []
  starts : List PlayerStart := []

namespace Scheduling

inductive Event where
  | call (event : Playback.Event)
  | completed (index : Nat)

def step (clock : HostClock) : Step Scheduling Event := fun s event =>
  match event with
  | .call event =>
      if event.isCompletion then none
      else (s.player.call clock event).map fun call =>
        { player := call.player
          scheduled := s.scheduled ++ call.buffers
          inFlight := s.inFlight ++ call.buffers
          starts := s.starts ++ call.started.toList }
  | .completed index => do
      let buffer ← s.inFlight[index]?
      let player ← s.player.complete buffer
      some { s with player, inFlight := s.inFlight.eraseIdx index }

end Scheduling

section Parts

variable {s t : Playback} {clock : HostClock} {input : PumpInput} {buffer : ScheduledBuffer}

/-- A turn of the loop pops an item of the queue. -/
theorem Playback.queueItem_popped {converted goesOn : Bool}
    (h : s.queueItem converted = some (t, goesOn)) :
    ∃ item packets, s.packets.popChecked = some (item, packets) := by
  unfold Playback.queueItem at h
  obtain ⟨⟨item, packets⟩, hpop, _⟩ := Option.bind_eq_some_iff.mp h
  exact ⟨item, packets, hpop⟩

theorem Playback.schedule_player (targetFrames : Int) (converted : Nat → Bool)
    (fuel index : Nat) (s : Playback) :
    (s.schedule targetFrames converted fuel index).map Prod.fst =
      Playback.fill targetFrames converted fuel index s := by
  induction fuel generalizing s index with
  | zero => rfl
  | succ fuel ih =>
      rw [Playback.schedule, Playback.fill]
      by_cases hless : s.queuedFrames < targetFrames
      · rw [if_pos hless, if_pos hless]
        cases hitem : s.queueItem (converted index) with
        | none =>
            cases s.packets.popChecked with
            | none => rfl
            | some popped => rfl
        | some next =>
            obtain ⟨item, packets, hpop⟩ := Playback.queueItem_popped hitem
            obtain ⟨next, goesOn⟩ := next
            rw [hpop, some_bind, some_bind]
            dsimp only
            rw [some_bind]
            dsimp only
            cases goesOn with
            | false => rfl
            | true =>
                have hrest := ih (index + 1) next
                rw [if_pos rfl, if_pos rfl, ← hrest]
                cases next.schedule targetFrames converted fuel (index + 1) with
                | none => rfl
                | some last => rfl
      · rw [if_neg hless, if_neg hless]
        rfl

/-- Behind its loop the record follows `play`. -/
theorem LoopEntry.finish_player (clock : HostClock) (entry : LoopEntry) (input : PumpInput) :
    (entry.fill input).bind (fun filled => (entry.finish clock input filled.1 filled.2).map
      PlaybackCall.player) =
      entry.player.play clock entry.offset input entry.prebufferFrames entry.targetFrames := by
  have hfill := entry.player.schedule_player entry.targetFrames input.converted
    (entry.targetFrames - entry.player.queuedFrames).toNat 0
  unfold LoopEntry.fill Playback.play
  rw [← hfill]
  cases entry.player.schedule entry.targetFrames input.converted
      (entry.targetFrames - entry.player.queuedFrames).toNat 0 with
  | none => rfl
  | some filled =>
      obtain ⟨s, buffers⟩ := filled
      rw [Option.bind_some, Option.map_some]
      unfold LoopEntry.finish
      rw [some_bind]
      dsimp only
      cases s.begin clock entry.offset input entry.player.packets.firstPacket
          entry.prebufferFrames with
      | none => rfl
      | some begun =>
          obtain ⟨begun, goesOn⟩ := begun
          cases goesOn with
          | false => rfl
          | true =>
              rw [some_bind, some_bind]
              dsimp only
              rw [if_pos rfl, if_pos rfl]
              cases begun.countUnderrun with
              | none => rfl
              | some player =>
                  rw [some_bind, some_bind]
                  cases player.tickDifference input with
                  | none => rfl
                  | some difference => rfl

/-- `pump` returns before its loop or plays on from there. -/
theorem Playback.pump_eq (clock : HostClock) (s : Playback) (input : PumpInput) :
    s.pump clock input = (s.enter input).bind (Sum.elim some fun entry =>
      entry.player.play clock entry.offset input entry.prebufferFrames entry.targetFrames) := by
  unfold Playback.pump Playback.enter
  cases s.takeAction input with
  | none => rfl
  | some s =>
      rw [some_bind, some_bind]
      cases s.ready input with
      | none => rfl
      | some rated =>
          obtain ⟨sampleRate, offset⟩ := rated
          dsimp only
          cases framesFor sampleRate s.targetBufferMilliseconds with
          | none => rfl
          | some prebufferFrames =>
              rw [some_bind, some_bind]
              cases framesFor sampleRate (s.targetBufferMilliseconds.add (.ofInt 70)) with
              | none => rfl
              | some targetFrames =>
                  rw [some_bind, some_bind]
                  unfold Playback.checkPrebuffer
                  dsimp only
                  by_cases hprimed : (s.discardLate offset input).primed = true
                  · rw [if_pos hprimed, if_pos hprimed]
                    rfl
                  rw [if_neg hprimed, if_neg hprimed]
                  cases (s.discardLate offset input).packets.bufferedFrames with
                  | none => rfl
                  | some buffered =>
                      rw [some_bind, some_bind]
                      cases toSigned buffered with
                      | none => rfl
                      | some buffered =>
                          rw [some_bind, some_bind]
                          by_cases hfew : buffered < prebufferFrames
                          · rw [if_pos hfew, if_pos hfew]
                            rfl
                          · rw [if_neg hfew, if_neg hfew]
                            rfl

/-- The record leaves `pump` as it is. -/
theorem Playback.pumpCall_player (clock : HostClock) (s : Playback) (input : PumpInput) :
    (s.pumpCall clock input).map PlaybackCall.player = s.pump clock input := by
  rw [Playback.pump_eq]
  unfold Playback.pumpCall
  cases s.enter input with
  | none => rfl
  | some entered =>
      cases entered with
      | inl player => rfl
      | inr entry =>
          rw [Option.bind_some, Sum.elim_inr, ← entry.finish_player, some_bind]
          dsimp only
          cases entry.fill input with
          | none => rfl
          | some filled => rfl

theorem Playback.call_player (clock : HostClock) (s : Playback) (event : Playback.Event) :
    (s.call clock event).map PlaybackCall.player = Playback.step clock s event := by
  unfold Playback.call Playback.step
  cases s.prepare event with
  | none => rfl
  | some next =>
      obtain ⟨next, input⟩ := next
      cases input with
      | none => rfl
      | some input => exact next.pumpCall_player clock input

/-- For a buffer of the engine the completion is the one of the player. -/
theorem Playback.complete_eq (clock : HostClock) (s : Playback) {frames : UInt16}
    (h : buffer.item.frames = frames.toNat) :
    s.complete buffer = Playback.step clock s (.completed buffer.generation frames) := by
  unfold Playback.complete Playback.step Playback.prepare
  rw [h]
  by_cases hgeneration : s.generation = buffer.generation
  · rw [if_pos hgeneration]
    dsimp only
    rw [if_pos hgeneration]
    cases subSigned s.queuedFrames frames.toNat with
    | none => rfl
    | some queuedFrames => rfl
  · rw [if_neg hgeneration]
    dsimp only
    rw [if_neg hgeneration]
    rfl

/-- The stream goes on as it is. -/
structure Playback.Continues (s t : Playback) : Prop where
  generation_eq : t.generation = s.generation
  queuedFrames_eq : t.queuedFrames = s.queuedFrames
  primed_eq : t.primed = s.primed

/-- The stream is cut off, and a new generation begins. -/
structure Playback.CutOff (s t : Playback) : Prop where
  generation_lt : s.generation < t.generation
  queuedFrames_eq : t.queuedFrames = 0
  primed_eq : t.primed = false

namespace Playback

theorem CutOff.after {u : Playback} (h : t.CutOff u) (hlt : s.generation ≤ t.generation) :
    s.CutOff u :=
  { h with generation_lt := hlt.trans_lt h.generation_lt }

/-- What is not about the buffers either goes on with the stream or cuts it off. -/
def Keeps (s t : Playback) : Prop := s.Continues t ∨ s.CutOff t

theorem Keeps.rfl (s : Playback) : s.Keeps s :=
  .inl ⟨Eq.refl _, Eq.refl _, Eq.refl _⟩

theorem Keeps.generation_le (h : s.Keeps t) : s.generation ≤ t.generation := by
  cases h with
  | inl h => exact h.generation_eq.ge
  | inr h => exact h.generation_lt.le

theorem Keeps.trans {u : Playback} (h : s.Keeps t) (hnext : t.Keeps u) : s.Keeps u := by
  cases hnext with
  | inr hcut => exact .inr (hcut.after h.generation_le)
  | inl hnext =>
      cases h with
      | inl h =>
          exact .inl ⟨hnext.generation_eq.trans h.generation_eq,
            hnext.queuedFrames_eq.trans h.queuedFrames_eq, hnext.primed_eq.trans h.primed_eq⟩
      | inr h =>
          exact .inr ⟨h.generation_lt.trans_eq hnext.generation_eq.symm,
            hnext.queuedFrames_eq.trans h.queuedFrames_eq, hnext.primed_eq.trans h.primed_eq⟩

theorem resetStream_cutOff (h : s.resetStream = some t) : s.CutOff t := by
  obtain ⟨generation, hgeneration, hnext⟩ := Option.bind_eq_some_iff.mp h
  cases hnext
  exact ⟨by rw [addSigned_eq hgeneration]; exact Int.lt_succ _, rfl, rfl⟩

theorem resetIf_keeps {condition : Prop} [Decidable condition]
    (h : s.resetIf condition = some t) : s.Keeps t := by
  unfold Playback.resetIf at h
  by_cases hreset : condition
  · rw [if_pos hreset] at h
    exact .inr (resetStream_cutOff h)
  · rw [if_neg hreset] at h
    cases h
    exact Keeps.rfl s

theorem takeAction_keeps (h : s.takeAction input = some t) : s.Keeps t := by
  unfold Playback.takeAction at h
  cases haction : s.control.scheduledRoomAction with
  | none =>
      rw [haction] at h
      cases h
      exact Keeps.rfl s
  | some action =>
      cases hestimate : s.clockEstimate with
      | none =>
          rw [haction, hestimate] at h
          cases h
          exact Keeps.rfl s
      | some offset =>
          rw [haction, hestimate] at h
          dsimp only at h
          split_ifs at h
          · obtain ⟨u, hreset, hu⟩ := Option.map_eq_some_iff.mp h
            cases hu
            have hcut := resetStream_cutOff hreset
            exact .inr ⟨hcut.generation_lt, hcut.queuedFrames_eq, hcut.primed_eq⟩
          · obtain ⟨u, hreset, hu⟩ := Option.map_eq_some_iff.mp h
            cases hu
            have hcut := resetStream_cutOff hreset
            exact .inr ⟨hcut.generation_lt, hcut.queuedFrames_eq, hcut.primed_eq⟩
          · cases h
            exact .inl ⟨rfl, rfl, rfl⟩
          · cases h
            exact .inl ⟨rfl, rfl, rfl⟩

theorem discardLate_keeps (s : Playback) (offset : ClockOffset) (input : PumpInput) :
    s.Keeps { s.discardLate offset input with formatted := true } := by
  unfold Playback.discardLate
  split_ifs
  · exact .inl ⟨rfl, rfl, rfl⟩
  · exact .inl ⟨rfl, rfl, rfl⟩

/-- The player where `pump` gets to. -/
def entered : Playback ⊕ LoopEntry → Playback :=
  Sum.elim id LoopEntry.player

/-- `pump` up to its loop takes the action and perhaps drops what is late. -/
theorem enter_cases {reached : Playback ⊕ LoopEntry} (h : s.enter input = some reached) :
    ∃ u, s.takeAction input = some u ∧
      (entered reached = u ∨ ∃ offset,
        entered reached = { u.discardLate offset input with formatted := true }) := by
  obtain ⟨u, haction, h⟩ := Option.bind_eq_some_iff.mp h
  refine ⟨u, haction, ?_⟩
  cases hready : u.ready input with
  | none =>
      rw [hready] at h
      cases h
      exact .inl rfl
  | some rated =>
      rw [hready] at h
      dsimp only at h
      obtain ⟨prebufferFrames, -, h⟩ := Option.bind_eq_some_iff.mp h
      obtain ⟨targetFrames, -, h⟩ := Option.bind_eq_some_iff.mp h
      refine .inr ⟨rated.2, ?_⟩
      split_ifs at h
      · cases h
        rfl
      · obtain ⟨_, -, h⟩ := Option.bind_eq_some_iff.mp h
        obtain ⟨_, -, h⟩ := Option.bind_eq_some_iff.mp h
        split_ifs at h <;> cases h <;> rfl

theorem enter_keeps {reached : Playback ⊕ LoopEntry} (h : s.enter input = some reached) :
    s.Keeps (entered reached) := by
  obtain ⟨u, haction, hreached⟩ := enter_cases h
  have hu := takeAction_keeps haction
  cases hreached with
  | inl hsame => exact hsame ▸ hu
  | inr hready =>
      obtain ⟨offset, hready⟩ := hready
      rw [hready]
      exact hu.trans (discardLate_keeps u offset input)

/-- What `store` does: nothing, or it stages the packet, or puts it into the queue. -/
theorem store_cases {packet : AudioPacket} {pumps : Option PumpInput}
    (h : s.store packet input = some (t, pumps)) :
    (t = s ∧ pumps = none) ∨
      (8000 ≤ packet.sampleRate.toNat ∧ packet.sampleRate.toNat ≤ 192000) ∧
        ((s.stages packet = true ∧ pumps = none ∧
            t = { s with stagedPackets := (s.stagedPackets.insert packet).2 }) ∨
          (s.stages packet = false ∧ pumps = some input ∧ ∃ u receivedPackets latePackets,
            s.resetIf (s.packets.sessionID.isSome ∧ s.packets.Foreign packet) = some u ∧
              t = { u with
                packets := (u.packets.insert packet).2, receivedPackets, latePackets })) := by
  unfold Playback.store at h
  by_cases hrefused : (!s.control.active || decide (packet.channels > 2) ||
      decide (packet.sampleRate < 8000) || decide (packet.sampleRate > 192000)) = true
  · rw [if_pos hrefused] at h
    cases h
    exact .inl ⟨rfl, rfl⟩
  have hrate : 8000 ≤ packet.sampleRate.toNat ∧ packet.sampleRate.toNat ≤ 192000 := by
    rw [Bool.or_eq_true, Bool.or_eq_true, decide_eq_true_eq, decide_eq_true_eq] at hrefused
    push Not at hrefused
    have hlow : (8000 : UInt32).toNat ≤ packet.sampleRate.toNat :=
      UInt32.le_iff_toNat_le.mp (UInt32.not_lt.mp hrefused.1.2)
    have hhigh : packet.sampleRate.toNat ≤ (192000 : UInt32).toNat :=
      UInt32.le_iff_toNat_le.mp (UInt32.not_lt.mp hrefused.2)
    exact ⟨hlow, hhigh⟩
  rw [if_neg hrefused] at h
  by_cases hstages : s.stages packet = true
  · rw [if_pos hstages] at h
    cases h
    exact .inr ⟨hrate, .inl ⟨hstages, rfl, rfl⟩⟩
  rw [if_neg hstages] at h
  split_ifs at h
  · cases h
    exact .inl ⟨rfl, rfl⟩
  · obtain ⟨u, hreset, h⟩ := Option.bind_eq_some_iff.mp h
    obtain ⟨receivedPackets, -, h⟩ := Option.bind_eq_some_iff.mp h
    obtain ⟨latePackets, -, h⟩ := Option.bind_eq_some_iff.mp h
    cases h
    exact .inr ⟨hrate, .inr ⟨Bool.eq_false_of_not_eq_true hstages, rfl, u, receivedPackets,
      latePackets, hreset, rfl⟩⟩

theorem store_keeps {packet : AudioPacket} {pumps : Option PumpInput}
    (h : s.store packet input = some (t, pumps)) : s.Keeps t := by
  obtain ⟨rfl, -⟩ | ⟨-, ⟨-, -, rfl⟩ | ⟨-, -, u, receivedPackets, latePackets, hreset, rfl⟩⟩ :=
    store_cases h
  · exact Keeps.rfl _
  · exact .inl ⟨rfl, rfl, rfl⟩
  · exact (resetIf_keeps hreset).trans (.inl ⟨rfl, rfl, rfl⟩)

/-- Whatever a call does before its `pump`, it keeps the count or begins a generation. -/
theorem prepare_keeps {event : Event} (hcall : event.isCompletion = false)
    {next : Playback × Option PumpInput} (h : s.prepare event = some next) :
    s.Keeps next.1 := by
  cases event with
  | start =>
      obtain ⟨generation, hgeneration, hnext⟩ := Option.bind_eq_some_iff.mp h
      cases hnext
      exact .inr ⟨by rw [addSigned_eq hgeneration]; exact Int.lt_succ _, rfl, rfl⟩
  | stop =>
      obtain ⟨generation, hgeneration, hnext⟩ := Option.bind_eq_some_iff.mp h
      cases hnext
      exact .inr ⟨by rw [addSigned_eq hgeneration]; exact Int.lt_succ _, rfl, rfl⟩
  | receive received input => exact store_keeps h
  | tick input =>
      cases h
      exact Keeps.rfl s
  | completed generation frames => cases hcall
  | updateClock estimate input =>
      cases h
      exact .inl ⟨rfl, rfl, rfl⟩
  | scheduleRoomAction action now input =>
      unfold Playback.prepare at h
      dsimp only at h
      split_ifs at h
      · obtain ⟨u, hreset, hnext⟩ := Option.bind_eq_some_iff.mp h
        cases hnext
        exact (resetIf_keeps hreset).trans (.inl ⟨rfl, rfl, rfl⟩)
      · cases h
        exact Keeps.rfl s
  | updateRoomSyncPoint hostTimestampNanoseconds input =>
      cases h
      exact .inl ⟨rfl, rfl, rfl⟩
  | updateTargetBuffer milliseconds =>
      cases h
      exact .inl ⟨rfl, rfl, rfl⟩
  | setManualCalibration =>
      obtain ⟨u, hreset, hnext⟩ := Option.map_eq_some_iff.mp h
      cases hnext
      exact .inr (resetStream_cutOff hreset)
  | interruptionEnded =>
      unfold Playback.prepare at h
      dsimp only at h
      split_ifs at h
      · obtain ⟨generation, hgeneration, hnext⟩ := Option.bind_eq_some_iff.mp h
        cases hnext
        exact .inr ⟨by rw [addSigned_eq hgeneration]; exact Int.lt_succ _, rfl, rfl⟩
      · cases h
        exact Keeps.rfl s
  | routeChanged =>
      unfold Playback.prepare at h
      dsimp only at h
      split_ifs at h
      · obtain ⟨generation, hgeneration, hnext⟩ := Option.bind_eq_some_iff.mp h
        obtain ⟨u, hreset, hnext⟩ := Option.bind_eq_some_iff.mp hnext
        cases hnext
        have hlt : s.generation ≤ generation := by
          rw [addSigned_eq hgeneration]
          exact (Int.lt_succ _).le
        exact .inr ((resetStream_cutOff hreset).after hlt)
      · cases h
        exact Keeps.rfl s

/-- What `begin` does: nothing, if the player plays or waits for frames; or it starts the
player, or gives the stream up. -/
theorem begin_cases {offset : ClockOffset} {firstPacket : Option AudioPacket}
    {prebufferFrames : Int} {goesOn : Bool}
    (h : s.begin clock offset input firstPacket prebufferFrames = some (t, goesOn)) :
    (t = s ∧ (s.primed = true ∨ s.queuedFrames < prebufferFrames)) ∨
    (t = s ∧ firstPacket = none) ∨
    (s.primed = false ∧ firstPacket.isSome = true ∧ ∃ hostTime, t = { s with
      scheduledHostTime := some hostTime
      primed := true
      control := { s.control with allowImmediateStart := false } }) ∨
    (s.resetStream = some t ∧ goesOn = false) := by
  unfold Playback.begin at h
  by_cases hstart : (!s.primed && decide (prebufferFrames ≤ s.queuedFrames)) = true
  · rw [if_pos hstart] at h
    cases firstPacket with
    | none =>
        cases h
        exact .inr (.inl ⟨rfl, rfl⟩)
    | some packet =>
        dsimp only at h
        split_ifs at h with hdelay
        · obtain ⟨hostTime, -, hnext⟩ := Option.bind_eq_some_iff.mp h
          cases hnext
          have hunprimed : s.primed = false := by
            have hboth := (Bool.and_eq_true _ _).mp hstart
            exact Bool.not_eq_true' s.primed |>.mp hboth.1
          exact .inr (.inr (.inl ⟨hunprimed, rfl, hostTime, rfl⟩))
        · obtain ⟨u, hreset, hnext⟩ := Option.map_eq_some_iff.mp h
          cases hnext
          exact .inr (.inr (.inr ⟨hreset, rfl⟩))
  · rw [if_neg hstart] at h
    cases h
    refine .inl ⟨rfl, ?_⟩
    by_cases hprimed : s.primed = true
    · exact .inl hprimed
    · exact .inr (by simpa [hprimed] using hstart)

theorem countUnderrun_cases (h : s.countUnderrun = some t) :
    (t = s ∧ (s.primed = true → s.queuedFrames ≠ 0)) ∨
      (s.primed = true ∧ s.queuedFrames = 0 ∧ ∃ underruns, ({ s with
        underruns
        targetBufferMilliseconds := raiseTarget s.targetBufferMilliseconds } :
          Playback).resetStream = some t) := by
  unfold Playback.countUnderrun at h
  by_cases hunderrun : (s.primed && decide (s.queuedFrames = 0)) = true
  · rw [if_pos hunderrun] at h
    obtain ⟨underruns, -, hreset⟩ := Option.bind_eq_some_iff.mp h
    have hboth := (Bool.and_eq_true _ _).mp hunderrun
    exact .inr ⟨hboth.1, of_decide_eq_true hboth.2, underruns, hreset⟩
  · rw [if_neg hunderrun] at h
    cases h
    refine .inl ⟨rfl, ?_⟩
    intro hprimed hzero
    exact hunderrun ((Bool.and_eq_true _ _).mpr ⟨hprimed, decide_eq_true hzero⟩)

theorem countUnderrun_keeps (h : s.countUnderrun = some t) : s.Keeps t := by
  obtain ⟨rfl, -⟩ | ⟨-, -, underruns, hreset⟩ := countUnderrun_cases h
  · exact Keeps.rfl _
  · have hcut := resetStream_cutOff hreset
    exact .inr ⟨hcut.generation_lt, hcut.queuedFrames_eq, hcut.primed_eq⟩

/-- One turn of the loop: it counts the item that it has popped, or it is the last one. -/
theorem queueItem_cases {converted goesOn : Bool} {item : Option PlaybackItem}
    {packets : PacketPlaybackQueue} (hpop : s.packets.popChecked = some (item, packets))
    (h : s.queueItem converted = some (t, goesOn)) :
    (∃ concealedFrames, t = { s with
        packets, concealedFrames, queuedFrames := t.queuedFrames }) ∧
      ((goesOn = false ∧ t.queuedFrames = s.queuedFrames ∧
          (converted = true → item = none)) ∨
        goesOn = true ∧ ∃ popped, item = some popped ∧
          t.queuedFrames = s.queuedFrames + popped.frames) := by
  unfold Playback.queueItem at h
  rw [hpop, some_bind] at h
  cases item with
  | none =>
      cases h
      exact ⟨⟨_, rfl⟩, .inl ⟨rfl, rfl, fun _ => rfl⟩⟩
  | some popped =>
      dsimp only at h
      obtain ⟨concealedFrames, -, h⟩ := Option.bind_eq_some_iff.mp h
      cases converted with
      | true =>
          rw [if_pos rfl] at h
          obtain ⟨queuedFrames, hqueued, hnext⟩ := Option.bind_eq_some_iff.mp h
          cases hnext
          exact ⟨⟨_, rfl⟩, .inr ⟨rfl, popped, rfl, addSigned_eq hqueued⟩⟩
      | false =>
          rw [if_neg Bool.false_ne_true] at h
          cases h
          exact ⟨⟨_, rfl⟩, .inl ⟨rfl, rfl, fun hconverted => absurd hconverted
            Bool.false_ne_true⟩⟩

/-- The ways in which the loop may take its next turn: with enough frames, with the last item,
or with an item that it schedules before it goes on. -/
inductive ScheduleTurn (targetFrames : Int) (converted : Nat → Bool) (fuel index : Nat)
    (s : Playback) : Playback → List ScheduledBuffer → Prop
  | enough (h : targetFrames ≤ s.queuedFrames) :
      ScheduleTurn targetFrames converted fuel index s s []
  | stopped {item : Option PlaybackItem} {packets : PacketPlaybackQueue} {concealedFrames : Int}
      (hless : s.queuedFrames < targetFrames)
      (hpop : s.packets.popChecked = some (item, packets))
      (hnone : converted index = true → item = none) :
      ScheduleTurn targetFrames converted fuel index s { s with packets, concealedFrames } []
  | scheduled {popped : PlaybackItem} {packets : PacketPlaybackQueue} {concealedFrames : Int}
      {last : Playback} {rest : List ScheduledBuffer}
      (hless : s.queuedFrames < targetFrames)
      (hpop : s.packets.popChecked = some (some popped, packets))
      (hrest : { s with
        packets, concealedFrames, queuedFrames := s.queuedFrames + popped.frames }.schedule
          targetFrames converted fuel (index + 1) = some (last, rest)) :
      ScheduleTurn targetFrames converted fuel index s last (⟨s.generation, popped⟩ :: rest)

theorem scheduleTurn {targetFrames : Int} {converted : Nat → Bool} {fuel index : Nat}
    {buffers : List ScheduledBuffer}
    (h : s.schedule targetFrames converted (fuel + 1) index = some (t, buffers)) :
    ScheduleTurn targetFrames converted fuel index s t buffers := by
  rw [Playback.schedule] at h
  by_cases hless : s.queuedFrames < targetFrames
  · rw [if_pos hless] at h
    obtain ⟨⟨item, packets⟩, hpop, h⟩ := Option.bind_eq_some_iff.mp h
    obtain ⟨⟨next, goesOn⟩, hitem, h⟩ := Option.bind_eq_some_iff.mp h
    obtain ⟨⟨concealedFrames, hnext⟩, hcases⟩ := queueItem_cases hpop hitem
    dsimp only at h
    obtain ⟨hstop, hqueued, hnone⟩ | ⟨hgo, popped, hpopped, hqueued⟩ := hcases
    · rw [hstop, if_neg Bool.false_ne_true] at h
      cases h
      rw [hqueued] at hnext
      rw [hnext]
      exact .stopped hless hpop hnone
    · rw [hgo, if_pos rfl] at h
      obtain ⟨⟨last, rest⟩, hrest, h⟩ := Option.bind_eq_some_iff.mp h
      cases h
      cases hpopped
      rw [hqueued] at hnext
      rw [hnext] at hrest
      exact .scheduled hless hpop hrest
  · rw [if_neg hless] at h
    cases h
    exact .enough (Int.not_lt.mp hless)

end Playback

end Parts

/-- The frames of the buffers of one generation. -/
def framesOf (generation : Int) (buffers : List ScheduledBuffer) : Int :=
  ((buffers.filter fun buffer => buffer.generation = generation).map
    fun buffer => (buffer.item.frames : Int)).sum

/-- The player counts the buffers of its generation, and no buffer is of a later one. -/
structure Counts (buffers : List ScheduledBuffer) (s : Playback) : Prop where
  generation_le : ∀ buffer ∈ buffers, buffer.generation ≤ s.generation
  queuedFrames_eq : s.queuedFrames = framesOf s.generation buffers

section Counting

variable {s t : Playback} {clock : HostClock} {input : PumpInput} {buffer : ScheduledBuffer}
  {buffers more : List ScheduledBuffer}

theorem framesOf_append (generation : Int) (buffers more : List ScheduledBuffer) :
    framesOf generation (buffers ++ more) = framesOf generation buffers + framesOf generation more := by
  unfold framesOf
  rw [List.filter_append, List.map_append, List.sum_append]

theorem framesOf_perm {generation : Int} (h : buffers.Perm more) :
    framesOf generation buffers = framesOf generation more :=
  ((h.filter _).map _).sum_eq

theorem framesOf_cons (generation : Int) (buffer : ScheduledBuffer)
    (buffers : List ScheduledBuffer) :
    framesOf generation (buffer :: buffers) =
      (if buffer.generation = generation then (buffer.item.frames : Int) else 0) +
        framesOf generation buffers := by
  unfold framesOf
  by_cases h : buffer.generation = generation
  · rw [List.filter_cons_of_pos (by simpa using h), if_pos h]
    rfl
  · rw [List.filter_cons_of_neg (by simpa using h), if_neg h, Int.zero_add]

theorem framesOf_nonneg (generation : Int) (buffers : List ScheduledBuffer) :
    0 ≤ framesOf generation buffers := by
  induction buffers with
  | nil => exact le_rfl
  | cons buffer buffers ih =>
      rw [framesOf_cons]
      split_ifs
      · omega
      · omega

theorem framesOf_fresh {generation : Int}
    (h : ∀ buffer ∈ buffers, buffer.generation < generation) : framesOf generation buffers = 0 := by
  induction buffers with
  | nil => rfl
  | cons buffer buffers ih =>
      obtain ⟨hhead, htail⟩ := List.forall_mem_cons.mp h
      rw [framesOf_cons, if_neg hhead.ne, ih htail]
      rfl

/-- A new generation counts nothing. -/
theorem Counts.cutOff (h : Counts buffers s) (hcut : s.CutOff t) : Counts buffers t := by
  have hfresh : ∀ buffer ∈ buffers, buffer.generation < t.generation :=
    fun buffer hbuffer => (h.generation_le buffer hbuffer).trans_lt hcut.generation_lt
  constructor
  · exact fun buffer hbuffer => (hfresh buffer hbuffer).le
  · rw [framesOf_fresh hfresh]
    exact hcut.queuedFrames_eq

theorem Counts.same (h : Counts buffers s) (hgeneration : t.generation = s.generation)
    (hqueued : t.queuedFrames = s.queuedFrames) : Counts buffers t := by
  constructor
  · rw [hgeneration]
    exact h.generation_le
  · rw [hgeneration, hqueued]
    exact h.queuedFrames_eq

theorem Counts.keeps (h : Counts buffers s) (hkeeps : s.Keeps t) : Counts buffers t := by
  cases hkeeps with
  | inl hsame => exact h.same hsame.generation_eq hsame.queuedFrames_eq
  | inr hcut => exact h.cutOff hcut

theorem Counts.add (h : Counts buffers s) (item : PlaybackItem)
    (hgeneration : t.generation = s.generation)
    (hqueued : t.queuedFrames = s.queuedFrames + item.frames) :
    Counts (buffers ++ [⟨s.generation, item⟩]) t := by
  constructor
  · rw [hgeneration]
    intro buffer hbuffer
    cases List.mem_append.mp hbuffer with
    | inl hbefore => exact h.generation_le buffer hbefore
    | inr hnew =>
        rw [List.mem_singleton.mp hnew]
  · rw [hgeneration, hqueued, framesOf_append, framesOf_cons, if_pos rfl, h.queuedFrames_eq]
    exact (congrArg _ (Int.add_zero _)).symm

/-- The loop counts what it schedules. -/
theorem Counts.schedule (h : Counts buffers s) {targetFrames : Int} {converted : Nat → Bool}
    {fuel index : Nat}
    (hschedule : s.schedule targetFrames converted fuel index = some (t, more)) :
    Counts (buffers ++ more) t := by
  induction fuel generalizing s index buffers more with
  | zero =>
      cases hschedule
      rw [List.append_nil]
      exact h
  | succ fuel ih =>
      cases Playback.scheduleTurn hschedule with
      | enough =>
          rw [List.append_nil]
          exact h
      | stopped =>
          rw [List.append_nil]
          exact h.same rfl rfl
      | scheduled _ _ hrest =>
          rw [List.append_cons]
          refine ih ?_ hrest
          exact h.add _ rfl rfl

theorem Counts.finish (h : Counts buffers s) {entry : LoopEntry} {call : PlaybackCall}
    (hfinish : entry.finish clock input s more = some call) :
    Counts buffers call.player ∧ call.buffers = more := by
  obtain ⟨⟨begun, goesOn⟩, hbegin, hfinish⟩ := Option.bind_eq_some_iff.mp hfinish
  have hbegun : Counts buffers begun := by
    obtain ⟨rfl, -⟩ | ⟨rfl, -⟩ | ⟨-, -, hostTime, rfl⟩ | ⟨hreset, -⟩ :=
      Playback.begin_cases hbegin
    · exact h
    · exact h
    · exact h.same rfl rfl
    · exact h.cutOff (Playback.resetStream_cutOff hreset)
  dsimp only at hfinish
  by_cases hgo : goesOn = true
  · rw [if_pos hgo] at hfinish
    obtain ⟨player, hunderrun, hfinish⟩ := Option.bind_eq_some_iff.mp hfinish
    obtain ⟨_, -, hfinish⟩ := Option.bind_eq_some_iff.mp hfinish
    cases hfinish
    exact ⟨hbegun.keeps (Playback.countUnderrun_keeps hunderrun), rfl⟩
  · rw [if_neg hgo] at hfinish
    cases hfinish
    exact ⟨hbegun, rfl⟩

theorem Counts.pumpCall (h : Counts buffers s) {call : PlaybackCall}
    (hcall : s.pumpCall clock input = some call) :
    Counts (buffers ++ call.buffers) call.player := by
  obtain ⟨reached, henter, hcall⟩ := Option.bind_eq_some_iff.mp hcall
  have hentered := h.keeps (Playback.enter_keeps henter)
  cases reached with
  | inl player =>
      cases hcall
      rw [List.append_nil]
      exact hentered
  | inr entry =>
      obtain ⟨⟨filled, scheduled⟩, hfill, hfinish⟩ := Option.bind_eq_some_iff.mp hcall
      have hplayer : Counts buffers entry.player := hentered
      obtain ⟨hcounts, hbuffers⟩ := (hplayer.schedule hfill).finish hfinish
      rw [hbuffers]
      exact hcounts

/-- Every call but a completion. -/
theorem Counts.call (h : Counts buffers s) {event : Playback.Event}
    (hkind : event.isCompletion = false) {call : PlaybackCall}
    (hcall : s.call clock event = some call) :
    Counts (buffers ++ call.buffers) call.player := by
  obtain ⟨⟨next, pumps⟩, hprepare, hcall⟩ := Option.bind_eq_some_iff.mp hcall
  have hnext : Counts buffers next := h.keeps (Playback.prepare_keeps hkind hprepare)
  cases pumps with
  | none =>
      cases hcall
      rw [List.append_nil]
      exact hnext
  | some input => exact hnext.pumpCall hcall

/-- The frames of a buffer are in the count. -/
theorem le_framesOf (hmem : buffer ∈ buffers) :
    (buffer.item.frames : Int) ≤ framesOf buffer.generation buffers := by
  have hsplit := @framesOf_perm _ _ buffer.generation (List.perm_cons_erase hmem)
  have hrest := framesOf_nonneg buffer.generation (buffers.erase buffer)
  rw [framesOf_cons, if_pos rfl] at hsplit
  omega

theorem Counts.frames_le (h : Counts buffers s) (hmem : buffer ∈ buffers)
    (hgeneration : buffer.generation = s.generation) :
    (buffer.item.frames : Int) ≤ s.queuedFrames := by
  rw [h.queuedFrames_eq, ← hgeneration]
  exact le_framesOf hmem

/-- A completion takes its buffer off the count. -/
theorem Counts.complete (h : Counts (buffer :: buffers) s)
    (hcomplete : s.complete buffer = some t) : Counts buffers t := by
  have hrest := framesOf_nonneg s.generation buffers
  have hcount := h.queuedFrames_eq
  rw [framesOf_cons] at hcount
  have hle : ∀ other ∈ buffers, other.generation ≤ s.generation :=
    fun other hother => h.generation_le other (List.mem_cons_of_mem _ hother)
  unfold Playback.complete at hcomplete
  by_cases hgeneration : s.generation = buffer.generation
  · rw [if_pos hgeneration] at hcomplete
    obtain ⟨queuedFrames, hsub, hnext⟩ := Option.bind_eq_some_iff.mp hcomplete
    cases hnext
    rw [if_pos hgeneration.symm] at hcount
    refine ⟨hle, ?_⟩
    dsimp only
    rw [subSigned_eq hsub]
    omega
  · rw [if_neg hgeneration] at hcomplete
    cases hcomplete
    rw [if_neg (Ne.symm hgeneration), Int.zero_add] at hcount
    exact ⟨hle, hcount⟩

theorem Counts.perm (h : Counts buffers s) (hperm : buffers.Perm more) : Counts more s := by
  constructor
  · exact fun buffer hbuffer => h.generation_le buffer (hperm.mem_iff.mpr hbuffer)
  · rw [← framesOf_perm hperm]
    exact h.queuedFrames_eq

end Counting

namespace Scheduling

variable {clock : HostClock}

theorem counts_step {s t : Scheduling} {event : Event} (h : Counts s.inFlight s.player)
    (hstep : step clock s event = some t) : Counts t.inFlight t.player := by
  cases event with
  | call event =>
      unfold step at hstep
      dsimp only at hstep
      split_ifs at hstep with hkind
      obtain ⟨call, hcall, hnext⟩ := Option.map_eq_some_iff.mp hstep
      cases hnext
      exact h.call (Bool.eq_false_of_not_eq_true hkind) hcall
  | completed index =>
      obtain ⟨buffer, hbuffer, hstep⟩ := Option.bind_eq_some_iff.mp hstep
      obtain ⟨player, hcomplete, hnext⟩ := Option.bind_eq_some_iff.mp hstep
      cases hnext
      obtain ⟨hindex, hget⟩ := List.getElem?_eq_some_iff.mp hbuffer
      have hperm : s.inFlight.Perm (buffer :: s.inFlight.eraseIdx index) := by
        rw [← hget]
        exact (List.getElem_cons_eraseIdx_perm hindex).symm
      exact (h.perm hperm).complete hcomplete

/-- In every run the count is exact, so that no completion takes it below zero. -/
theorem queuedFrames_exact (clock : HostClock) (events : List Event) (s : Scheduling)
    (hrun : run (step clock) {} events = some s) :
    s.player.queuedFrames = framesOf s.player.generation s.inFlight ∧
      0 ≤ s.player.queuedFrames ∧
      ∀ buffer ∈ s.inFlight, buffer.generation = s.player.generation →
        max 0 (s.player.queuedFrames - buffer.item.frames) =
          s.player.queuedFrames - buffer.item.frames := by
  have hinitial : Counts ({} : Scheduling).inFlight ({} : Scheduling).player :=
    ⟨fun _ hmem => absurd hmem List.not_mem_nil, rfl⟩
  have hcounts : Counts s.inFlight s.player :=
    run_preserves (P := fun s : Scheduling => Counts s.inFlight s.player)
      (fun h hstep => counts_step h hstep) hinitial hrun
  refine ⟨hcounts.queuedFrames_eq, ?_, ?_⟩
  · rw [hcounts.queuedFrames_eq]
    exact framesOf_nonneg _ _
  · intro buffer hmem hgeneration
    have hle := hcounts.frames_le hmem hgeneration
    omega

/-- A packet behind a gap of silence. -/
def gapPacket : AudioPacket := { Playback.originPacket with startFrame := 9000 }

def gapDatagram : List UInt8 :=
  Playback.datagramHead ++ [0, 0, 0, 0, 0, 0, 0x23, 0x28] ++ Playback.datagramTail

theorem gapDatagram_parsed : AudioPacket.ofDatagram gapDatagram = some (some gapPacket) := by
  decide

/-- The player starts with the packet, the silence in pieces of 1024 frames, and the other
packet. -/
def startedRun : List Event :=
  (Playback.onePacket ++ [Playback.Event.receive ⟨gapPacket, gapDatagram, gapDatagram_parsed⟩
    Playback.zeroInput]).map .call

/-- A buffer is completed, the stream is reset, and another completion comes too late. -/
def resetRun : List Event := startedRun ++ [.completed 3, .call .setManualCalibration, .completed 0]

theorem queuedFrames_exact_startedRun :
    (∃ s, run (step Playback.deviceClock) {} startedRun = some s ∧
      s.player.queuedFrames = 9001 ∧ framesOf s.player.generation s.inFlight = 9001) ∧
    ∃ s, run (step Playback.deviceClock) {} resetRun = some s ∧
      s.inFlight.length = 9 ∧ framesOf s.player.generation s.inFlight = 0 := by
  have hstarted : (run (step Playback.deviceClock) {} startedRun).map
      (fun s => s.player.queuedFrames) = some 9001 := by
    decide +kernel
  have hreset : (run (step Playback.deviceClock) {} resetRun).map
      (fun s => (s.player.queuedFrames, s.inFlight.length)) = some (0, 9) := by
    decide +kernel
  obtain ⟨s, hs, hqueued⟩ := Option.map_eq_some_iff.mp hstarted
  obtain ⟨t, ht, hboth⟩ := Option.map_eq_some_iff.mp hreset
  have hsCount := (queuedFrames_exact Playback.deviceClock startedRun s hs).1
  have htCount := (queuedFrames_exact Playback.deviceClock resetRun t ht).1
  exact ⟨⟨s, hs, hqueued, hsCount.symm.trans hqueued⟩,
    t, ht, congrArg Prod.snd hboth, htCount.symm.trans (congrArg Prod.fst hboth)⟩

end Scheduling

end SyncAudio.Ios
