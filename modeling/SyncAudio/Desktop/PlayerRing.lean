import Mathlib.Data.List.TakeDrop
import Mathlib.Data.Nat.ModEq
import Mathlib.Tactic.SplitIfs
import SyncAudio.Lib.LabelledRun
import SyncAudio.Lib.Word

/-!
# The local playback ring

`prefetch` runs on its own thread and fills the ring from the decoder, the
device calls `dataCallback` to drain it. Both threads are program counters
over one shared state: every atomic load or store is one step, and the decoder
and the two `memcpy` calls move one frame in each step.

## Implementation notes

The counter values a thread has loaded live in its program counter, so a stale
copy stays visible. Clock readings, callback frame counts, decoder read sizes
and decoder results are in the labels. `freezeTimeline` changes only the
position queries, which this module does not read.
-/

namespace SyncAudio.DesktopAudioPlayer

open LabelledRun Word

/-- What `playFrom` fixes before the worker and the device start. -/
structure Segment (Frame : Type*) where
  ringCapacityFrames : Nat
  segmentStartFrame : Nat
  segmentStartTime : Int
  /-- The frames the decoder returns after the seek, in order. -/
  decoderFrames : List Frame
  capacity_pos : 0 < ringCapacityFrames
  capacity_lt : ringCapacityFrames < 2 ^ 64
  /-- Frame positions of a decoded file are 64-bit values. -/
  frames_lt : segmentStartFrame + decoderFrames.length < 2 ^ 64

/-- Where `prefetch` stands, with the locals it still needs. -/
inductive Prefetch
  | loop
  | loadWritten
  | loadRead (written : Nat)
  | decoding (written request framesRead : Nat)
  | storeWritten (written request framesRead : Nat) (success : Bool)
  | storeFinished
  | returned
  deriving DecidableEq

/-- Where `dataCallback` stands; `idle` is outside of any callback. -/
inductive Callback (Frame : Type*)
  | idle
  | loadEnd (frameCount : Nat)
  | storeStopped
  | loadRead (frameCount : Nat)
  | loadWritten (frameCount read : Nat)
  | copying (read written framesRead first : Nat) (output : List Frame)
  | storeRead (read written framesRead : Nat) (output : List Frame)
  | addSubmitted (read written framesRead : Nat) (output : List Frame)
  | loadFinished (read written framesRead : Nat)
  | storeEnd
  deriving DecidableEq

/-- The shared fields, both program counters and the frames given to the device. -/
structure State (Frame : Type*) where
  ring : Nat → Frame
  readFrame : Nat
  writtenFrame : Nat
  prefetchRunning : Bool
  decoderFinished : Bool
  endReached : Bool
  playing : Bool
  submittedFrames : Nat
  prefetch : Prefetch
  callback : Callback Frame
  delivered : List Frame

/-- One step of one of the threads. -/
inductive Action
  | prefetch
  | decodeFrame
  | decodeReturn (success : Bool)
  | stop
  | callback (frameCount : Nat) (now : Int)
  | callbackStep
  deriving DecidableEq

variable {Frame : Type*}

/-- The state in which `playFrom` starts the worker; the ring keeps old bytes. -/
def start (seg : Segment Frame) (ring : Nat → Frame) : State Frame where
  ring := ring
  readFrame := 0
  writtenFrame := 0
  prefetchRunning := true
  decoderFinished := false
  endReached := false
  playing := true
  submittedFrames := seg.segmentStartFrame
  prefetch := .loop
  callback := .idle
  delivered := []

/-- How many frames `prefetch` asks the decoder for. -/
def requestFrames (seg : Segment Frame) (available written : Nat) : Nat :=
  min available (min (seg.ringCapacityFrames - written % seg.ringCapacityFrames) 4096)

/-- The ring slot of the next frame the decoder writes, while it is writing. -/
def writeTarget (seg : Segment Frame) (s : State Frame) : Option Nat :=
  match s.prefetch with
  | .decoding written request framesRead =>
      if framesRead < request then some (written % seg.ringCapacityFrames + framesRead) else none
  | _ => none

/-- The loads and stores of `prefetch`. -/
def prefetchStep (seg : Segment Frame) (s : State Frame) : Option (State Frame) :=
  match s.prefetch with
  | .loop => some { s with prefetch := if s.prefetchRunning then .loadWritten else .returned }
  | .loadWritten => some { s with prefetch := .loadRead s.writtenFrame }
  | .loadRead written =>
      let available := sub64 seg.ringCapacityFrames (sub64 written s.readFrame)
      if available = 0 then some { s with prefetch := .loop }
      else some { s with prefetch := .decoding written (requestFrames seg available written) 0 }
  | .decoding _ _ _ => none
  | .storeWritten written request framesRead success =>
      some { s with
        writtenFrame := add64 written framesRead
        prefetch := if !success || framesRead < request then .storeFinished else .loop }
  | .storeFinished => some { s with decoderFinished := true, prefetch := .returned }
  | .returned => none

/-- The decoder writes one more frame behind `ring_.data()`. -/
def decodeFrameStep (seg : Segment Frame) (s : State Frame) : Option (State Frame) :=
  match s.prefetch with
  | .decoding written request framesRead =>
      if framesRead < request then
        (seg.decoderFrames[written + framesRead]?).map fun frame =>
          { s with
            ring := fun slot => if slot = written % seg.ringCapacityFrames + framesRead then frame
              else s.ring slot
            prefetch := .decoding written request (framesRead + 1) }
      else none
  | _ => none

/-- The decoder returns with the frames it has written so far, possibly none. -/
def decodeReturnStep (success : Bool) (s : State Frame) : Option (State Frame) :=
  match s.prefetch with
  | .decoding written request framesRead =>
      some { s with prefetch := .storeWritten written request framesRead success }
  | _ => none

/-- The device enters `dataCallback`; before the segment starts it gets silence. -/
def enterCallback (seg : Segment Frame) (frameCount : Nat) (now : Int) (s : State Frame) :
    Option (State Frame) :=
  match s.callback with
  | .idle =>
      if now < seg.segmentStartTime then some s
      else some { s with callback := .loadEnd frameCount }
  | _ => none

/-- The loads, stores and copies inside `dataCallback`. -/
def callbackStep (seg : Segment Frame) (s : State Frame) : Option (State Frame) :=
  match s.callback with
  | .idle => none
  | .loadEnd frameCount =>
      some { s with callback := if s.endReached then .storeStopped else .loadRead frameCount }
  | .storeStopped => some { s with playing := false, callback := .idle }
  | .loadRead frameCount => some { s with callback := .loadWritten frameCount s.readFrame }
  | .loadWritten frameCount read =>
      let framesRead := min frameCount (sub64 s.writtenFrame read)
      let first := min framesRead (seg.ringCapacityFrames - read % seg.ringCapacityFrames)
      some { s with callback := .copying read s.writtenFrame framesRead first [] }
  | .copying read written framesRead first output =>
      if output.length < framesRead then
        let slot := if output.length < first then read % seg.ringCapacityFrames + output.length
          else output.length - first
        some { s with callback := .copying read written framesRead first (output ++ [s.ring slot]) }
      else some { s with callback := .storeRead read written framesRead output }
  | .storeRead read written framesRead output =>
      some { s with
        readFrame := add64 read framesRead
        callback := .addSubmitted read written framesRead output }
  | .addSubmitted read written framesRead output =>
      some { s with
        submittedFrames := add64 s.submittedFrames framesRead
        delivered := s.delivered ++ output
        callback := .loadFinished read written framesRead }
  | .loadFinished read written framesRead =>
      some { s with
        callback := if s.decoderFinished && add64 read framesRead == written then .storeEnd
          else .idle }
  | .storeEnd => some { s with endReached := true, callback := .idle }

/-- One step of the segment. -/
def step (seg : Segment Frame) : Step (State Frame) Action := fun s action =>
  match action with
  | .prefetch => prefetchStep seg s
  | .decodeFrame => decodeFrameStep seg s
  | .decodeReturn success => decodeReturnStep success s
  | .stop => some { s with prefetchRunning := false }
  | .callback frameCount now => enterCallback seg frameCount now s
  | .callbackStep => callbackStep seg s

/-- What the locals of `prefetch` say about the counters. A stale read counter
only makes the request smaller, so the bound uses the current one. -/
def PrefetchInv (seg : Segment Frame) (s : State Frame) : Prop :=
  match s.prefetch with
  | .loadRead written => written = s.writtenFrame
  | .decoding written request framesRead =>
      written = s.writtenFrame ∧ framesRead ≤ request ∧
        written + request ≤ s.readFrame + seg.ringCapacityFrames ∧
        written % seg.ringCapacityFrames + request ≤ seg.ringCapacityFrames ∧
        written + framesRead ≤ seg.decoderFrames.length ∧
        ∀ i < framesRead, seg.decoderFrames[written + i]? =
          some (s.ring ((written + i) % seg.ringCapacityFrames))
  | .storeWritten written request framesRead _ =>
      written = s.writtenFrame ∧ framesRead ≤ request ∧
        written + request ≤ s.readFrame + seg.ringCapacityFrames ∧
        written + framesRead ≤ seg.decoderFrames.length ∧
        ∀ i < framesRead, seg.decoderFrames[written + i]? =
          some (s.ring ((written + i) % seg.ringCapacityFrames))
  | _ => True

/-- What the locals of `dataCallback` say about the counters and the output.
The written counter it loaded may be stale, the read counter is its own. -/
def CallbackInv (seg : Segment Frame) (s : State Frame) : Prop :=
  match s.callback with
  | .loadWritten _ read =>
      read = s.readFrame ∧ s.delivered = seg.decoderFrames.take s.readFrame
  | .copying read written framesRead first output =>
      read = s.readFrame ∧ read + framesRead ≤ written ∧ written ≤ s.writtenFrame ∧
        first = min framesRead (seg.ringCapacityFrames - read % seg.ringCapacityFrames) ∧
        output.length ≤ framesRead ∧ s.delivered = seg.decoderFrames.take s.readFrame ∧
        s.delivered ++ output = seg.decoderFrames.take (read + output.length)
  | .storeRead read written framesRead output =>
      read = s.readFrame ∧ read + framesRead ≤ written ∧ written ≤ s.writtenFrame ∧
        output.length = framesRead ∧ s.delivered = seg.decoderFrames.take s.readFrame ∧
        s.delivered ++ output = seg.decoderFrames.take (read + framesRead)
  | .addSubmitted read _ framesRead output =>
      read + framesRead = s.readFrame ∧ output.length = framesRead ∧
        s.delivered ++ output = seg.decoderFrames.take s.readFrame
  | _ => s.delivered = seg.decoderFrames.take s.readFrame

/-- The invariant of a segment: the counters are ordered, every unread slot
holds the decoder's frame, and the delivered frames are counted. -/
structure Inv (seg : Segment Frame) (s : State Frame) : Prop where
  read_le : s.readFrame ≤ s.writtenFrame
  written_le : s.writtenFrame ≤ s.readFrame + seg.ringCapacityFrames
  written_le_length : s.writtenFrame ≤ seg.decoderFrames.length
  unread : ∀ k, s.readFrame ≤ k → k < s.writtenFrame →
    seg.decoderFrames[k]? = some (s.ring (k % seg.ringCapacityFrames))
  submitted : s.submittedFrames = seg.segmentStartFrame + s.delivered.length
  prefetch : PrefetchInv seg s
  callback : CallbackInv seg s

/-- Positions less than one revolution apart sit in different slots. -/
theorem slot_ne {capacity j k : Nat} (hjk : j < k) (hk : k < j + capacity) :
    j % capacity ≠ k % capacity := by
  intro heq
  have hdvd : capacity ∣ k - j := (Nat.modEq_iff_dvd' hjk.le).mp heq
  have hle := Nat.le_of_dvd (by omega) hdvd
  omega

/-- Inside the contiguous part a slot is an offset. -/
theorem slot_add {capacity position i : Nat} (h : position % capacity + i < capacity) :
    (position + i) % capacity = position % capacity + i := by
  rw [Nat.add_mod, Nat.mod_eq_of_lt (a := i) (by omega), Nat.mod_eq_of_lt h]

/-- The two `memcpy` ranges together read consecutive positions. -/
theorem copySlot_eq {capacity read framesRead i : Nat} (hcap : 0 < capacity)
    (hi : i < framesRead) (hle : framesRead ≤ capacity) :
    (if i < min framesRead (capacity - read % capacity) then read % capacity + i
      else i - min framesRead (capacity - read % capacity)) = (read + i) % capacity := by
  have hread := Nat.mod_lt read hcap
  split
  · rename_i h
    exact (slot_add (by omega)).symm
  · rename_i h
    have hfirst : min framesRead (capacity - read % capacity) = capacity - read % capacity := by
      omega
    have hwrap : (read % capacity + i) % capacity = read % capacity + i - capacity := by
      rw [Nat.mod_eq_sub_mod (by omega), Nat.mod_eq_of_lt (by omega)]
    rw [hfirst, Nat.add_mod, Nat.mod_eq_of_lt (a := i) (by omega), hwrap]
    omega

section Invariant

variable {seg : Segment Frame} {s t : State Frame}

theorem inv_start (seg : Segment Frame) (ring : Nat → Frame) : Inv seg (start seg ring) where
  read_le := le_rfl
  written_le := Nat.zero_le _
  written_le_length := Nat.zero_le _
  unread := by intro k _ hk; exact absurd hk (Nat.not_lt_zero k)
  submitted := rfl
  prefetch := trivial
  callback := List.take_zero.symm

/-- The worker may advance the written counter under a callback. -/
theorem CallbackInv.of_written_le (h : CallbackInv seg s) (hcallback : t.callback = s.callback)
    (hread : t.readFrame = s.readFrame) (hdelivered : t.delivered = s.delivered)
    (hwritten : s.writtenFrame ≤ t.writtenFrame) : CallbackInv seg t := by
  unfold CallbackInv at h ⊢
  rw [hcallback, hread, hdelivered]
  cases hpc : s.callback with
  | copying | storeRead =>
      rw [hpc] at h
      obtain ⟨h₁, h₂, h₃, h₄⟩ := h
      exact ⟨h₁, h₂, h₃.trans hwritten, h₄⟩
  | _ =>
      rw [hpc] at h
      exact h

/-- The callback may advance the read counter under the worker. -/
theorem PrefetchInv.of_read_le (h : PrefetchInv seg s) (hprefetch : t.prefetch = s.prefetch)
    (hwritten : t.writtenFrame = s.writtenFrame) (hring : t.ring = s.ring)
    (hread : s.readFrame ≤ t.readFrame) : PrefetchInv seg t := by
  unfold PrefetchInv at h ⊢
  rw [hprefetch, hwritten, hring]
  cases hpc : s.prefetch with
  | decoding | storeWritten =>
      rw [hpc] at h
      obtain ⟨h₁, h₂, h₃, h₄⟩ := h
      exact ⟨h₁, h₂, by omega, h₄⟩
  | _ =>
      rw [hpc] at h
      exact h

/-- The free space the worker computes is exact, its counters do not wrap. -/
theorem available_eq (h : Inv seg s) :
    sub64 seg.ringCapacityFrames (sub64 s.writtenFrame s.readFrame) =
      s.readFrame + seg.ringCapacityFrames - s.writtenFrame := by
  have hread := h.read_le
  have hwritten := h.written_le
  have hlength := h.written_le_length
  have hframes := seg.frames_lt
  have hcapacity := seg.capacity_lt
  rw [sub64_of_le hread (by omega), sub64_of_le (by omega) hcapacity]
  omega

/-- A step that only moves the worker keeps everything about the callback. -/
theorem Inv.with_prefetch (h : Inv seg s) {pc : Prefetch}
    (hpc : PrefetchInv seg { s with prefetch := pc }) : Inv seg { s with prefetch := pc } where
  read_le := h.read_le
  written_le := h.written_le
  written_le_length := h.written_le_length
  unread := h.unread
  submitted := h.submitted
  prefetch := hpc
  callback := h.callback

/-- A step that only moves the callback keeps everything about the worker. -/
theorem Inv.with_callback (h : Inv seg s) {pc : Callback Frame}
    (hpc : CallbackInv seg { s with callback := pc }) : Inv seg { s with callback := pc } where
  read_le := h.read_le
  written_le := h.written_le
  written_le_length := h.written_le_length
  unread := h.unread
  submitted := h.submitted
  prefetch := h.prefetch
  callback := hpc

theorem prefetchStep_inv (h : Inv seg s) (hstep : prefetchStep seg s = some t) : Inv seg t := by
  have hp := h.prefetch
  unfold prefetchStep at hstep
  unfold PrefetchInv at hp
  split at hstep <;> rename_i hpc <;> rw [hpc] at hp
  case h_1 =>
    cases hstep
    apply h.with_prefetch
    cases s.prefetchRunning <;> trivial
  case h_2 =>
    cases hstep
    exact h.with_prefetch rfl
  case h_3 written =>
    subst hp
    rw [available_eq h] at hstep
    dsimp only at hstep
    split at hstep
    · cases hstep
      exact h.with_prefetch trivial
    · cases hstep
      have hmod := Nat.mod_lt s.writtenFrame seg.capacity_pos
      refine h.with_prefetch ⟨rfl, Nat.zero_le _, ?_, ?_, h.written_le_length, ?_⟩
      · simp only [requestFrames]
        omega
      · simp only [requestFrames]
        omega
      · intro i hi
        exact absurd hi (Nat.not_lt_zero i)
  case h_5 written request framesRead success =>
    cases hstep
    obtain ⟨rfl, hle, hspace, hlength, hslots⟩ := hp
    have hframes := seg.frames_lt
    have hwritten : add64 s.writtenFrame framesRead = s.writtenFrame + framesRead :=
      add64_of_lt (by omega)
    rw [hwritten]
    refine ⟨h.read_le.trans (Nat.le_add_right _ _), ?_, hlength, ?_, h.submitted, ?_,
      h.callback.of_written_le rfl rfl rfl (Nat.le_add_right _ _)⟩
    · show s.writtenFrame + framesRead ≤ s.readFrame + seg.ringCapacityFrames
      omega
    · intro k hread hk
      rcases Nat.lt_or_ge k s.writtenFrame with hold | hnew
      · exact h.unread k hread hold
      · obtain ⟨i, rfl⟩ := Nat.exists_eq_add_of_le hnew
        change s.writtenFrame + i < s.writtenFrame + framesRead at hk
        exact hslots i (by omega)
    · unfold PrefetchInv
      dsimp only
      split_ifs <;> trivial
  case h_6 =>
    cases hstep
    exact ⟨h.read_le, h.written_le, h.written_le_length, h.unread, h.submitted, trivial,
      h.callback⟩
  all_goals cases hstep

/-- No unread frame sits in the slot the decoder writes next, which is inside the ring. -/
theorem writeTarget_free (h : Inv seg s) {slot : Nat} (htarget : writeTarget seg s = some slot) :
    slot < seg.ringCapacityFrames ∧
      ∀ k, s.readFrame ≤ k → k < s.writtenFrame → k % seg.ringCapacityFrames ≠ slot := by
  have hp := h.prefetch
  unfold writeTarget at htarget
  unfold PrefetchInv at hp
  split at htarget <;> rename_i hpc
  · rw [hpc] at hp
    obtain ⟨rfl, hle, hspace, hcontiguous, -, -⟩ := hp
    split at htarget <;> cases htarget
    rename_i hlt
    refine ⟨by omega, ?_⟩
    intro k hread hk
    rw [← slot_add (by omega)]
    exact slot_ne (by omega) (by omega)
  · cases htarget

theorem decodeFrameStep_inv (h : Inv seg s) (hstep : decodeFrameStep seg s = some t) :
    Inv seg t := by
  have hp := h.prefetch
  unfold decodeFrameStep at hstep
  unfold PrefetchInv at hp
  split at hstep <;> rename_i hpc
  · rename_i written request framesRead
    rw [hpc] at hp
    obtain ⟨rfl, hle, hspace, hcontiguous, hlength, hslots⟩ := hp
    split at hstep <;> rename_i hlt
    · rw [Option.map_eq_some_iff] at hstep
      obtain ⟨frame, hframe, rfl⟩ := hstep
      have hfree := (writeTarget_free h (by rw [writeTarget, hpc]; exact if_pos hlt)).2
      have hbound := (List.getElem?_eq_some_iff.mp hframe).1
      refine ⟨h.read_le, h.written_le, h.written_le_length, ?_, h.submitted, ?_, h.callback⟩
      · intro k hread hk
        simp only [if_neg (hfree k hread hk)]
        exact h.unread k hread hk
      · refine ⟨rfl, hlt, hspace, hcontiguous, hbound, ?_⟩
        intro i hi
        rcases Nat.lt_succ_iff_lt_or_eq.mp hi with hold | rfl
        · have hne : (s.writtenFrame + i) % seg.ringCapacityFrames ≠
              s.writtenFrame % seg.ringCapacityFrames + framesRead := by
            rw [slot_add (by omega)]
            omega
          simp only [if_neg hne]
          exact hslots i hold
        · simp only [slot_add (show s.writtenFrame % seg.ringCapacityFrames + i <
            seg.ringCapacityFrames by omega), if_true]
          exact hframe
    · cases hstep
  · cases hstep

theorem decodeReturnStep_inv (h : Inv seg s) {success : Bool}
    (hstep : decodeReturnStep success s = some t) : Inv seg t := by
  have hp := h.prefetch
  unfold decodeReturnStep at hstep
  unfold PrefetchInv at hp
  split at hstep <;> rename_i hpc
  · cases hstep
    rw [hpc] at hp
    obtain ⟨h₁, h₂, h₃, -, h₅⟩ := hp
    exact h.with_prefetch ⟨h₁, h₂, h₃, h₅⟩
  · cases hstep

theorem enterCallback_inv (h : Inv seg s) {frameCount : Nat} {now : Int}
    (hstep : enterCallback seg frameCount now s = some t) : Inv seg t := by
  have hc := h.callback
  unfold enterCallback at hstep
  unfold CallbackInv at hc
  split at hstep <;> rename_i hpc
  · rw [hpc] at hc
    split at hstep <;> cases hstep
    · exact h
    · exact h.with_callback hc
  · cases hstep

/-- The frame the callback copies next is the decoder's frame at that position. -/
theorem copied_frame (h : Inv seg s) {framesRead i : Nat}
    (havailable : s.readFrame + framesRead ≤ s.writtenFrame) (hi : i < framesRead) :
    seg.decoderFrames.take (s.readFrame + (i + 1)) = seg.decoderFrames.take (s.readFrame + i) ++
      [s.ring (if i < min framesRead
          (seg.ringCapacityFrames - s.readFrame % seg.ringCapacityFrames) then
        s.readFrame % seg.ringCapacityFrames + i
      else i - min framesRead
        (seg.ringCapacityFrames - s.readFrame % seg.ringCapacityFrames))] := by
  have hcapacity : framesRead ≤ seg.ringCapacityFrames := by
    have := h.written_le
    omega
  have hframe := h.unread (s.readFrame + i) (Nat.le_add_right _ _) (by omega)
  rw [copySlot_eq seg.capacity_pos hi hcapacity, ← Nat.add_assoc, List.take_add_one, hframe]
  rfl

theorem callbackStep_inv (h : Inv seg s) (hstep : callbackStep seg s = some t) : Inv seg t := by
  have hc := h.callback
  have hframes := seg.frames_lt
  have hlength := h.written_le_length
  unfold callbackStep at hstep
  unfold CallbackInv at hc
  cases hpc : s.callback with
  | idle =>
      rw [hpc] at hstep
      cases hstep
  | loadEnd frameCount =>
      rw [hpc] at hstep hc
      cases hstep
      apply h.with_callback
      cases s.endReached <;> exact hc
  | storeStopped =>
      rw [hpc] at hstep hc
      cases hstep
      exact ⟨h.read_le, h.written_le, h.written_le_length, h.unread, h.submitted, h.prefetch, hc⟩
  | loadRead frameCount =>
      rw [hpc] at hstep hc
      cases hstep
      exact h.with_callback ⟨rfl, hc⟩
  | loadWritten frameCount read =>
      rw [hpc] at hstep hc
      cases hstep
      obtain ⟨rfl, hdelivered⟩ := hc
      have hread := h.read_le
      have hsub : sub64 s.writtenFrame s.readFrame = s.writtenFrame - s.readFrame :=
        sub64_of_le hread (by omega)
      rw [hsub]
      exact h.with_callback ⟨rfl, by omega, le_rfl, rfl, Nat.zero_le _, hdelivered,
        by rw [List.append_nil, hdelivered]; rfl⟩
  | copying read written framesRead first output =>
      rw [hpc] at hstep hc
      obtain ⟨rfl, havailable, hstale, rfl, hcount, hdelivered, hinitial⟩ := hc
      dsimp only at hstep
      split at hstep <;> cases hstep
      · rename_i hlt
        refine h.with_callback ⟨rfl, havailable, hstale, rfl, ?_, hdelivered, ?_⟩
        · rw [List.length_append]
          exact hlt
        · dsimp only
          rw [← List.append_assoc, hinitial, List.length_append, List.length_singleton,
            copied_frame h (havailable.trans hstale) hlt]
      · have hfull : output.length = framesRead := by omega
        exact h.with_callback ⟨rfl, havailable, hstale, hfull, hdelivered, hfull ▸ hinitial⟩
  | storeRead read written framesRead output =>
      rw [hpc] at hstep hc
      cases hstep
      obtain ⟨rfl, havailable, hstale, hcount, hdelivered, hinitial⟩ := hc
      have hread : add64 s.readFrame framesRead = s.readFrame + framesRead :=
        add64_of_lt (by omega)
      have hwritten := h.written_le
      rw [hread]
      refine ⟨havailable.trans hstale, ?_, h.written_le_length, ?_, h.submitted,
        h.prefetch.of_read_le rfl rfl rfl (Nat.le_add_right _ _), rfl, hcount, hinitial⟩
      · show s.writtenFrame ≤ s.readFrame + framesRead + seg.ringCapacityFrames
        omega
      · intro k hle hk
        exact h.unread k ((Nat.le_add_right _ _).trans hle) hk
  | addSubmitted read written framesRead output =>
      rw [hpc] at hstep hc
      cases hstep
      obtain ⟨hread, hcount, hinitial⟩ := hc
      have hread_le := h.read_le
      have htotal : s.delivered.length + framesRead = s.readFrame := by
        have := congrArg List.length hinitial
        rw [List.length_append, hcount, List.length_take, Nat.min_eq_left (by omega)] at this
        exact this
      have hsubmitted : add64 s.submittedFrames framesRead = s.submittedFrames + framesRead :=
        add64_of_lt (by have := h.submitted; omega)
      refine ⟨h.read_le, h.written_le, h.written_le_length, h.unread, ?_, h.prefetch, hinitial⟩
      show add64 s.submittedFrames framesRead =
        seg.segmentStartFrame + (s.delivered ++ output).length
      rw [hsubmitted, h.submitted, List.length_append, hcount, Nat.add_assoc]
  | loadFinished read written framesRead =>
      rw [hpc] at hstep hc
      cases hstep
      apply h.with_callback
      cases s.decoderFinished && add64 read framesRead == written <;> exact hc
  | storeEnd =>
      rw [hpc] at hstep hc
      cases hstep
      exact ⟨h.read_le, h.written_le, h.written_le_length, h.unread, h.submitted, h.prefetch, hc⟩

/-- Every step of either thread keeps the invariant. -/
theorem step_inv (h : Inv seg s) {action : Action} (hstep : step seg s action = some t) :
    Inv seg t := by
  cases action with
  | prefetch => exact prefetchStep_inv h hstep
  | decodeFrame => exact decodeFrameStep_inv h hstep
  | decodeReturn success => exact decodeReturnStep_inv h hstep
  | stop =>
      cases hstep
      exact ⟨h.read_le, h.written_le, h.written_le_length, h.unread, h.submitted, h.prefetch,
        h.callback⟩
  | callback frameCount now => exact enterCallback_inv h hstep
  | callbackStep => exact callbackStep_inv h hstep

theorem run_inv {ring : Nat → Frame} {actions : List Action}
    (h : run (step seg) (start seg ring) actions = some s) : Inv seg s :=
  run_preserves (fun hs hstep => step_inv hs hstep) (inv_start seg ring) h

/-- The delivered frames always are the first frames of the decoder. -/
theorem Inv.delivered_prefix (h : Inv seg s) : s.delivered <+: seg.decoderFrames := by
  have hc := h.callback
  unfold CallbackInv at hc
  cases hpc : s.callback with
  | addSubmitted =>
      rw [hpc] at hc
      obtain ⟨-, -, hinitial⟩ := hc
      exact (List.prefix_append _ _).trans (hinitial ▸ List.take_prefix _ _)
  | loadWritten =>
      rw [hpc] at hc
      exact hc.2 ▸ List.take_prefix _ _
  | copying =>
      rw [hpc] at hc
      obtain ⟨-, -, -, -, -, hdelivered, -⟩ := hc
      exact hdelivered ▸ List.take_prefix _ _
  | storeRead =>
      rw [hpc] at hc
      obtain ⟨-, -, -, -, hdelivered, -⟩ := hc
      exact hdelivered ▸ List.take_prefix _ _
  | _ =>
      rw [hpc] at hc
      exact hc ▸ List.take_prefix _ _

end Invariant

/-- The request of a callback that has not loaded the written counter yet. -/
def Callback.awaiting : Callback Frame → Option Nat
  | .loadEnd frameCount | .loadRead frameCount | .loadWritten frameCount _ => some frameCount
  | _ => none

/-- The frames that the callback is about to give to the device. -/
def Callback.owed : Callback Frame → Nat
  | .copying _ _ framesRead _ _ | .storeRead _ _ framesRead _ | .addSubmitted _ _ framesRead _ =>
      framesRead
  | _ => 0

/-- The frames that the device has got or gets from the running callback. -/
def State.promised (s : State Frame) : Nat := s.delivered.length + s.callback.owed

/-- The device asks for frames. -/
def Action.enters : Action → Bool
  | .callback _ _ => true
  | _ => false

/-- What the worker leaves to the callback. -/
structure Worked (s t : State Frame) : Prop where
  callback : t.callback = s.callback
  delivered : t.delivered = s.delivered
  readFrame : t.readFrame = s.readFrame
  endReached : t.endReached = s.endReached
  written_le : s.writtenFrame ≤ t.writtenFrame

section Delivery

variable {seg : Segment Frame} {s t : State Frame} {action : Action} {rest : List Action}
  {frameCount : Nat}

theorem prefetchStep_worked (h : Inv seg s) (hstep : prefetchStep seg s = some t) : Worked s t := by
  have hp := h.prefetch
  have hframes := seg.frames_lt
  unfold prefetchStep at hstep
  unfold PrefetchInv at hp
  cases hpc : s.prefetch <;> rw [hpc] at hstep hp <;> dsimp only at hstep
  case loadRead written =>
    split at hstep <;> cases hstep <;> exact ⟨rfl, rfl, rfl, rfl, le_rfl⟩
  case storeWritten written request framesRead success =>
    obtain ⟨hwritten, -, -, hlength, -⟩ := hp
    cases hstep
    refine ⟨rfl, rfl, rfl, rfl, ?_⟩
    show s.writtenFrame ≤ add64 written framesRead
    rw [add64_of_lt (by omega)]
    omega
  case decoding => cases hstep
  case returned => cases hstep
  all_goals
    cases hstep
    exact ⟨rfl, rfl, rfl, rfl, le_rfl⟩

/-- Between the steps of a callback the worker only writes behind the unread frames. -/
theorem step_worked (h : Inv seg s) (henters : action.enters = false)
    (haction : action ≠ .callbackStep) (hstep : step seg s action = some t) : Worked s t := by
  cases action with
  | prefetch => exact prefetchStep_worked h hstep
  | decodeFrame =>
      change decodeFrameStep seg s = some t at hstep
      unfold decodeFrameStep at hstep
      split at hstep
      · split at hstep
        · obtain ⟨frame, -, rfl⟩ := Option.map_eq_some_iff.mp hstep
          exact ⟨rfl, rfl, rfl, rfl, le_rfl⟩
        · cases hstep
      · cases hstep
  | decodeReturn success =>
      change decodeReturnStep success s = some t at hstep
      unfold decodeReturnStep at hstep
      split at hstep
      · cases hstep
        exact ⟨rfl, rfl, rfl, rfl, le_rfl⟩
      · cases hstep
  | stop =>
      cases hstep
      exact ⟨rfl, rfl, rfl, rfl, le_rfl⟩
  | callback frameCount now => cases henters
  | callbackStep => exact absurd rfl haction

/-- Up to the load of the written counter the callback changes nothing; the load fixes how
many frames it delivers. -/
theorem callbackStep_awaiting (h : Inv seg s) (hopen : s.endReached = false)
    (hawaiting : s.callback.awaiting = some frameCount) (hstep : callbackStep seg s = some t) :
    t.writtenFrame = s.writtenFrame ∧ t.delivered = s.delivered ∧ t.readFrame = s.readFrame ∧
      (t.endReached = false ∧ t.callback.awaiting = some frameCount ∨
        s.callback = .loadWritten frameCount s.readFrame ∧ t.callback.awaiting = none ∧
          t.callback.owed = min frameCount (s.writtenFrame - s.readFrame)) := by
  have hc := h.callback
  unfold callbackStep at hstep
  unfold CallbackInv at hc
  cases hpc : s.callback <;> rw [hpc] at hstep hc hawaiting <;> cases hawaiting <;> cases hstep
  case loadEnd.refl.refl =>
    refine ⟨rfl, rfl, rfl, .inl ⟨hopen, ?_⟩⟩
    dsimp only
    rw [hopen]
    rfl
  case loadRead.refl.refl => exact ⟨rfl, rfl, rfl, .inl ⟨hopen, rfl⟩⟩
  case loadWritten.refl.refl =>
    obtain ⟨rfl, -⟩ := hc
    have hlength := h.written_le_length
    have hframes := seg.frames_lt
    refine ⟨rfl, rfl, rfl, .inr ⟨rfl, rfl, ?_⟩⟩
    show min frameCount (sub64 s.writtenFrame s.readFrame) = _
    rw [sub64_of_le h.read_le (by omega)]

/-- Behind the load nothing changes how many frames the device gets. -/
theorem callbackStep_promised (h : Inv seg s) (hfixed : s.callback.awaiting = none)
    (hstep : callbackStep seg s = some t) :
    t.writtenFrame = s.writtenFrame ∧ t.callback.awaiting = none ∧ t.promised = s.promised := by
  have hc := h.callback
  unfold callbackStep at hstep
  unfold CallbackInv at hc
  unfold State.promised
  cases hpc : s.callback <;> rw [hpc] at hstep hc hfixed <;> dsimp only at hstep <;>
    try cases hfixed
  case idle => cases hstep
  case copying read written framesRead first output =>
    split at hstep <;> cases hstep <;> exact ⟨rfl, rfl, rfl⟩
  case addSubmitted read written framesRead output =>
    cases hstep
    obtain ⟨-, hcount, -⟩ := hc
    refine ⟨rfl, rfl, ?_⟩
    show (s.delivered ++ output).length = s.delivered.length + framesRead
    rw [List.length_append, hcount]
  case loadFinished read written framesRead =>
    cases hstep
    cases s.decoderFinished && add64 read framesRead == written <;> exact ⟨rfl, rfl, rfl⟩
  all_goals
    cases hstep
    exact ⟨rfl, rfl, rfl⟩

theorem run_promised (h : Inv seg s) (hfixed : s.callback.awaiting = none)
    (hrest : ∀ action ∈ rest, action.enters = false) (hrun : run (step seg) s rest = some t) :
    s.writtenFrame ≤ t.writtenFrame ∧ t.promised = s.promised := by
  induction rest generalizing s with
  | nil =>
      cases hrun
      exact ⟨le_rfl, rfl⟩
  | cons action rest ih =>
      obtain ⟨next, hstep, hrun⟩ := run_cons_some.mp hrun
      have hbehind : s.writtenFrame ≤ next.writtenFrame ∧ next.callback.awaiting = none ∧
          next.promised = s.promised := by
        by_cases haction : action = .callbackStep
        · subst haction
          obtain ⟨hwritten, hnone, hpromised⟩ := callbackStep_promised h hfixed hstep
          exact ⟨hwritten.ge, hnone, hpromised⟩
        · have hworked := step_worked h (hrest action List.mem_cons_self) haction hstep
          refine ⟨hworked.written_le, hworked.callback ▸ hfixed, ?_⟩
          unfold State.promised
          rw [hworked.delivered, hworked.callback]
      obtain ⟨hwritten, hnone, hpromised⟩ := hbehind
      obtain ⟨hlater, hkept⟩ := ih (step_inv h hstep) hnone
        (fun other hother => hrest other (List.mem_cons_of_mem _ hother)) hrun
      exact ⟨hwritten.trans hlater, hkept.trans hpromised⟩

/-- A callback that comes to its end has delivered what it was asked for, or all that the ring
held when it loaded the written counter. -/
theorem run_delivers (h : Inv seg s) (hopen : s.endReached = false)
    (hawaiting : s.callback.awaiting = some frameCount)
    (hrest : ∀ action ∈ rest, action.enters = false) (hrun : run (step seg) s rest = some t)
    (hdone : t.callback = .idle) :
    ∃ before after u, rest = before ++ after ∧ run (step seg) s before = some u ∧
      u.callback = .loadWritten frameCount s.readFrame ∧
      s.writtenFrame ≤ u.writtenFrame ∧ u.writtenFrame ≤ t.writtenFrame ∧
      t.delivered.length = s.delivered.length + min frameCount (u.writtenFrame - s.readFrame) := by
  induction rest generalizing s with
  | nil =>
      cases hrun
      rw [hdone] at hawaiting
      cases hawaiting
  | cons action rest ih =>
      obtain ⟨next, hstep, hbehind⟩ := run_cons_some.mp hrun
      have hrest' : ∀ other ∈ rest, other.enters = false :=
        fun other hother => hrest other (List.mem_cons_of_mem _ hother)
      by_cases haction : action = .callbackStep
      · subst haction
        obtain ⟨hwritten, hdelivered, hread, ⟨hopen, hnext⟩ | ⟨hload, hnone, howed⟩⟩ :=
          callbackStep_awaiting h hopen hawaiting hstep
        · obtain ⟨before, after, u, rfl, hbefore, hu, hle, hlater, hcount⟩ :=
            ih (step_inv h hstep) hopen hnext hrest' hbehind
          rw [hread] at hu
          rw [hwritten] at hle
          rw [hdelivered, hread] at hcount
          exact ⟨.callbackStep :: before, after, u, rfl,
            run_cons_some.mpr ⟨next, hstep, hbefore⟩, hu, hle, hlater, hcount⟩
        · obtain ⟨hlater, hpromised⟩ := run_promised (step_inv h hstep) hnone hrest' hbehind
          rw [hwritten] at hlater
          refine ⟨[], _, s, rfl, rfl, hload, le_rfl, hlater, ?_⟩
          unfold State.promised at hpromised
          rw [hdone, howed, hdelivered] at hpromised
          exact hpromised
      · have hworked := step_worked h (hrest action List.mem_cons_self) haction hstep
        obtain ⟨before, after, u, rfl, hbefore, hu, hle, hlater, hcount⟩ :=
          ih (step_inv h hstep) (hworked.endReached ▸ hopen) (hworked.callback ▸ hawaiting)
            hrest' hbehind
        rw [hworked.readFrame] at hu
        rw [hworked.delivered, hworked.readFrame] at hcount
        exact ⟨action :: before, after, u, rfl, run_cons_some.mpr ⟨next, hstep, hbefore⟩, hu,
          hworked.written_le.trans hle, hlater, hcount⟩

/-- From the moment in which the device asks for frames. -/
theorem callback_delivers (h : Inv seg s) {now : Int} (hidle : s.callback = .idle)
    (hopen : s.endReached = false) (hstarted : seg.segmentStartTime ≤ now)
    (hrest : ∀ action ∈ rest, action.enters = false)
    (hrun : run (step seg) s (.callback frameCount now :: rest) = some t)
    (hdone : t.callback = .idle) :
    ∃ before after u, rest = before ++ after ∧
      run (step seg) s (.callback frameCount now :: before) = some u ∧
      u.callback = .loadWritten frameCount s.readFrame ∧
      s.writtenFrame ≤ u.writtenFrame ∧ u.writtenFrame ≤ t.writtenFrame ∧
      t.delivered.length = s.delivered.length + min frameCount (u.writtenFrame - s.readFrame) := by
  have henter : step seg s (.callback frameCount now) =
      some { s with callback := .loadEnd frameCount } := by
    change enterCallback seg frameCount now s = _
    unfold enterCallback
    rw [hidle]
    exact if_neg (not_lt.mpr hstarted)
  obtain ⟨next, hstep, hrun⟩ := run_cons_some.mp hrun
  have hinv := step_inv h hstep
  obtain rfl := Option.some.inj (henter.symm.trans hstep)
  obtain ⟨before, after, u, hsplit, hbefore, hu⟩ :=
    run_delivers hinv hopen rfl hrest hrun hdone
  exact ⟨before, after, u, hsplit, run_cons_some.mpr ⟨_, henter, hbefore⟩, hu⟩

end Delivery

/-- Along every run of a segment the ring is a lossless FIFO: the counters stay
within one revolution, the decoder never writes an unread slot, and the device
gets exactly the decoder's first frames, all of them counted. A callback that
comes to its end has delivered as many of them as it was asked for, or all that
were in the ring when it loaded the written counter. -/
theorem ring_lossless_fifo {seg : Segment Frame} {ring : Nat → Frame} {actions : List Action}
    {s : State Frame} (h : run (step seg) (start seg ring) actions = some s) :
    (s.readFrame ≤ s.writtenFrame ∧ s.writtenFrame ≤ s.readFrame + seg.ringCapacityFrames) ∧
      (∀ slot, writeTarget seg s = some slot → slot < seg.ringCapacityFrames ∧
        ∀ k, s.readFrame ≤ k → k < s.writtenFrame → k % seg.ringCapacityFrames ≠ slot) ∧
      s.delivered <+: seg.decoderFrames ∧
      s.submittedFrames = seg.segmentStartFrame + s.delivered.length ∧
      ∀ frameCount now rest t, s.callback = .idle → s.endReached = false →
        seg.segmentStartTime ≤ now → (∀ action ∈ rest, action.enters = false) →
        run (step seg) s (.callback frameCount now :: rest) = some t → t.callback = .idle →
        ∃ before after u, rest = before ++ after ∧
          run (step seg) s (.callback frameCount now :: before) = some u ∧
          u.callback = .loadWritten frameCount s.readFrame ∧
          s.writtenFrame ≤ u.writtenFrame ∧ u.writtenFrame ≤ t.writtenFrame ∧
          t.delivered.length =
            s.delivered.length + min frameCount (u.writtenFrame - s.readFrame) := by
  have hinv := run_inv h
  refine ⟨⟨hinv.read_le, hinv.written_le⟩, fun _ htarget => writeTarget_free hinv htarget,
    hinv.delivered_prefix, hinv.submitted, ?_⟩
  intro frameCount now rest t hidle hopen hstarted hrest hrun hdone
  exact callback_delivers hinv hidle hopen hstarted hrest hrun hdone

/-- A two-slot ring of three frames, played from frame 5 of a file. -/
def shortSegment : Segment Nat where
  ringCapacityFrames := 2
  segmentStartFrame := 5
  segmentStartTime := 0
  decoderFrames := [10, 11, 12]
  capacity_pos := by decide
  capacity_lt := by decide
  frames_lt := by decide

/-- The worker fills the ring. -/
def shortFill : List Action :=
  List.replicate 3 .prefetch ++ [.decodeFrame, .decodeFrame, .decodeReturn true, .prefetch]

/-- The device takes one frame, and the worker is about to reuse the first slot while the
second frame is still unread. -/
def shortActions : List Action :=
  shortFill ++ [.callback 1 0] ++ List.replicate 8 .callbackStep ++ List.replicate 3 .prefetch

theorem ring_lossless_fifo_short : ∃ s, run (step shortSegment) (start shortSegment fun _ => 0)
      shortActions = some s ∧
    (s.readFrame ≤ s.writtenFrame ∧ s.writtenFrame ≤ s.readFrame + 2) ∧
      (∀ slot, writeTarget shortSegment s = some slot → slot < 2 ∧
        ∀ k, s.readFrame ≤ k → k < s.writtenFrame → k % 2 ≠ slot) ∧
      s.delivered = [10] ∧ s.submittedFrames = 5 + s.delivered.length := by
  have hfilled : (run (step shortSegment) (start shortSegment fun _ => 0) shortFill).any fun s =>
      (run (step shortSegment) s (.callback 1 0 :: List.replicate 8 .callbackStep)).any fun t =>
        (run (step shortSegment) t (List.replicate 3 .prefetch)).any fun u =>
          s.callback = .idle ∧ s.endReached = false ∧ s.delivered = [] ∧ s.readFrame = 0 ∧
            s.writtenFrame = 2 ∧ t.callback = .idle ∧ t.writtenFrame = 2 ∧
            u.delivered = t.delivered := by
    decide
  obtain ⟨s, hs, hfilled⟩ := (Option.any_eq_true _ _).mp hfilled
  obtain ⟨t, ht, hfilled⟩ := (Option.any_eq_true _ _).mp hfilled
  obtain ⟨u, hu, hfilled⟩ := (Option.any_eq_true _ _).mp hfilled
  obtain ⟨hidle, hopen, hempty, hread, hwritten, hdone, hlater, hkept⟩ := of_decide_eq_true hfilled
  obtain ⟨-, -, -, -, hdelivers⟩ := ring_lossless_fifo hs
  obtain ⟨-, -, v, -, -, -, hfrom, hto, hcount⟩ :=
    hdelivers 1 0 _ t hidle hopen (by decide) (by decide) ht hdone
  have hrun : run (step shortSegment) (start shortSegment fun _ => 0) shortActions = some u := by
    refine run_append.mpr ⟨t, ?_, hu⟩
    rw [List.append_assoc]
    exact run_append.mpr ⟨s, hs, ht⟩
  obtain ⟨hcounters, htarget, hprefix, hsubmitted, -⟩ := ring_lossless_fifo hrun
  have hone : u.delivered.length = 1 := by
    rw [hkept, hcount, hempty, hread]
    simp only [List.length_nil]
    omega
  refine ⟨u, hrun, hcounters, htarget, ?_, hsubmitted⟩
  rw [List.prefix_iff_eq_take.mp hprefix, hone]
  rfl

end SyncAudio.DesktopAudioPlayer
