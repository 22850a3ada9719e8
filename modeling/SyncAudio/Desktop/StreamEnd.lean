import SyncAudio.Desktop.PlayerRing

/-!
# The end of the stream

`dataCallback` loads the written counter, drains the ring and only then loads
`decoderFinished_`. `prefetch` stores the counter before the flag. A last chunk
that is stored between the two loads of the callback is dropped: the flag is
new, the counter is old. As long as the counter is still the one in force when
the flag is found set, the end is declared only after every frame was delivered.
-/

namespace SyncAudio.DesktopAudioPlayer

open LabelledRun Word

variable {Frame : Type*}

/-- The written counter under which the callback has found the ring empty. -/
def Callback.emptyUnder : Callback Frame → Option Nat
  | .loadFinished read written framesRead =>
      if add64 read framesRead = written then some written else none
  | _ => none

/-- No frame is being handed to the device. -/
def Callback.outside : Callback Frame → Bool
  | .idle | .loadEnd _ | .storeStopped => true
  | _ => false

namespace State

/-- The decoder has finished and its last frame was delivered. -/
def Drained (s : State Frame) : Prop :=
  s.decoderFinished = true ∧ s.readFrame = s.writtenFrame

/-- Where the callback finds the flag set over an empty ring, its written counter is still in
force: `prefetch` has stored no more frames between the two loads. -/
def CurrentCounter (s : State Frame) (action : Action) : Prop :=
  action = .callbackStep → s.decoderFinished = true →
    ∀ written ∈ s.callback.emptyUnder, written = s.writtenFrame

instance (s : State Frame) (action : Action) : Decidable (s.CurrentCounter action) :=
  inferInstanceAs (Decidable (_ → _ → ∀ _ ∈ _, _))

end State

/-- The written counter that the callback goes by until it has loaded `decoderFinished_`. -/
def Callback.loaded : Callback Frame → Option Nat
  | .copying _ written _ _ _ | .storeRead _ written _ _ | .addSubmitted _ written _ _
  | .loadFinished _ written _ => some written
  | _ => none

namespace State

/-- `prefetch` stores `writtenFrame_`. -/
def stores (s : State Frame) (action : Action) : Bool :=
  match action, s.prefetch with
  | .prefetch, .storeWritten _ _ _ _ => true
  | _, _ => false

/-- `writtenFrame_` is not stored between the callback's two loads. -/
def Unstored (s : State Frame) (action : Action) : Prop :=
  s.stores action = true → s.callback.loaded = none

instance (s : State Frame) (action : Action) : Decidable (s.Unstored action) :=
  inferInstanceAs (Decidable (_ → _))

end State

/-- The end is declared over an empty ring and a finished decoder. -/
structure EndInv (s : State Frame) : Prop where
  finished : s.decoderFinished = true → s.prefetch = .returned
  counted : ∀ read written framesRead, s.callback = .loadFinished read written framesRead →
    add64 read framesRead = s.readFrame
  ended : s.endReached = true → s.Drained ∧ s.callback.outside = true
  storing : s.callback = .storeEnd → s.Drained
  stopping : s.callback = .storeStopped → s.endReached = true
  silent : s.playing = false → s.endReached = true

section Invariant

variable {seg : Segment Frame} {s t : State Frame}

theorem endInv_start (seg : Segment Frame) (ring : Nat → Frame) : EndInv (start seg ring) := by
  constructor <;> intros <;> contradiction

/-- A step of the worker, which runs only until the decoder has finished. -/
theorem EndInv.of_worker (h : EndInv s) (hrunning : s.prefetch ≠ .returned)
    (hfinished : t.decoderFinished = true → t.prefetch = .returned)
    (hread : t.readFrame = s.readFrame) (hended : t.endReached = s.endReached)
    (hplaying : t.playing = s.playing) (hcallback : t.callback = s.callback) : EndInv t := by
  have hundrained : ¬ s.Drained := fun hdrained => hrunning (h.finished hdrained.1)
  have hopen : t.endReached = true → False := by
    intro hreached
    rw [hended] at hreached
    exact hundrained (h.ended hreached).1
  constructor
  · exact hfinished
  · rw [hcallback, hread]
    exact h.counted
  · intro hreached
    exact (hopen hreached).elim
  · intro hstoring
    rw [hcallback] at hstoring
    exact absurd (h.storing hstoring) hundrained
  · rw [hcallback, hended]
    exact h.stopping
  · rw [hplaying, hended]
    exact h.silent

/-- A step of the callback that declares nothing. -/
theorem EndInv.of_callback {ring : Nat → Frame} {readFrame submittedFrames : Nat}
    {callback : Callback Frame} {delivered : List Frame} (h : EndInv s)
    (hopen : s.callback.outside = false)
    (hcounted : ∀ read written framesRead, callback = .loadFinished read written framesRead →
      add64 read framesRead = readFrame)
    (hstoring : callback ≠ .storeEnd) (hstopping : callback ≠ .storeStopped) :
    EndInv { s with ring, readFrame, submittedFrames, callback, delivered } := by
  have hended : s.endReached = true → False := by
    intro hreached
    exact Bool.false_ne_true (hopen.symm.trans (h.ended hreached).2)
  constructor
  · exact h.finished
  · exact hcounted
  · intro hreached
    exact (hended hreached).elim
  · intro hstore
    exact absurd hstore hstoring
  · intro hstop
    exact absurd hstop hstopping
  · exact h.silent

theorem prefetchStep_endInv (h : EndInv s) (hstep : prefetchStep seg s = some t) : EndInv t := by
  have hfinished := h.finished
  unfold prefetchStep at hstep
  cases hpc : s.prefetch <;> rw [hpc] at hstep hfinished <;> dsimp only at hstep
  case loadRead written =>
    apply h.of_worker (by rw [hpc]; exact nofun)
    · intro hset
      split at hstep <;> cases hstep <;> exact absurd (hfinished hset) nofun
    all_goals split at hstep <;> cases hstep <;> rfl
  case decoding => cases hstep
  case returned => cases hstep
  case storeFinished =>
    cases hstep
    exact h.of_worker (by rw [hpc]; exact nofun) (fun _ => rfl) rfl rfl rfl rfl
  all_goals
    cases hstep
    refine h.of_worker (by rw [hpc]; exact nofun) ?_ rfl rfl rfl rfl
    intro hset
    exact absurd (hfinished hset) nofun

theorem decodeFrameStep_endInv (h : EndInv s) (hstep : decodeFrameStep seg s = some t) :
    EndInv t := by
  unfold decodeFrameStep at hstep
  split at hstep <;> rename_i hpc
  · split at hstep
    · obtain ⟨frame, -, rfl⟩ := Option.map_eq_some_iff.mp hstep
      refine h.of_worker (by rw [hpc]; exact nofun) ?_ rfl rfl rfl rfl
      intro hset
      exact absurd (hpc.symm.trans (h.finished hset)) nofun
    · cases hstep
  · cases hstep

theorem decodeReturnStep_endInv {success : Bool} (h : EndInv s)
    (hstep : decodeReturnStep success s = some t) : EndInv t := by
  unfold decodeReturnStep at hstep
  split at hstep <;> rename_i hpc
  · cases hstep
    refine h.of_worker (by rw [hpc]; exact nofun) ?_ rfl rfl rfl rfl
    intro hset
    exact absurd (hpc.symm.trans (h.finished hset)) nofun
  · cases hstep

theorem enterCallback_endInv {frameCount : Nat} {now : Int} (h : EndInv s)
    (hstep : enterCallback seg frameCount now s = some t) : EndInv t := by
  unfold enterCallback at hstep
  split at hstep
  · split at hstep <;> cases hstep
    · exact h
    · constructor
      · exact h.finished
      · exact nofun
      · intro hreached
        exact ⟨(h.ended hreached).1, rfl⟩
      · exact nofun
      · exact nofun
      · exact h.silent
  · cases hstep

theorem callbackStep_endInv (hinv : Inv seg s) (h : EndInv s)
    (hcurrent : s.CurrentCounter .callbackStep) (hstep : callbackStep seg s = some t) :
    EndInv t := by
  have hcallback := hinv.callback
  unfold callbackStep at hstep
  unfold CallbackInv at hcallback
  cases hpc : s.callback <;> rw [hpc] at hstep hcallback <;> dsimp only at hstep
  case idle => cases hstep
  case loadEnd frameCount =>
    cases hstep
    by_cases hreached : s.endReached = true
    · rw [if_pos hreached]
      constructor
      · exact h.finished
      · exact nofun
      · intro _
        exact ⟨(h.ended hreached).1, rfl⟩
      · exact nofun
      · intro _
        exact hreached
      · exact h.silent
    · rw [if_neg hreached]
      constructor
      · exact h.finished
      · exact nofun
      · intro hopen
        exact absurd hopen hreached
      · exact nofun
      · exact nofun
      · exact h.silent
  case storeStopped =>
    cases hstep
    constructor
    · exact h.finished
    · exact nofun
    · intro hreached
      exact ⟨(h.ended hreached).1, rfl⟩
    · exact nofun
    · exact nofun
    · intro _
      exact h.stopping hpc
  case copying read written framesRead first output =>
    split at hstep <;> cases hstep <;>
      exact h.of_callback (by rw [hpc]; rfl) nofun nofun nofun
  case addSubmitted read written framesRead output =>
    cases hstep
    obtain ⟨hread, -⟩ := hcallback
    refine h.of_callback (by rw [hpc]; rfl) ?_ nofun nofun
    rintro _ _ _ ⟨⟩
    have hread_le := hinv.read_le
    have hlength := hinv.written_le_length
    have hframes := seg.frames_lt
    rw [add64_of_lt (by omega), hread]
  case loadFinished read written framesRead =>
    cases hstep
    have hcounted := h.counted read written framesRead hpc
    have hcurrent := hcurrent rfl
    rw [hpc] at hcurrent
    by_cases hlast : (s.decoderFinished && add64 read framesRead == written) = true
    · rw [if_pos hlast]
      obtain ⟨hset, hempty⟩ := Bool.and_eq_true_iff.mp hlast
      have hempty : add64 read framesRead = written := of_decide_eq_true hempty
      have hunder : (Callback.loadFinished read written framesRead : Callback Frame).emptyUnder =
          some written := if_pos hempty
      constructor
      · exact h.finished
      · exact nofun
      · intro hreached
        have houtside := (h.ended hreached).2
        rw [hpc] at houtside
        cases houtside
      · intro _
        refine ⟨hset, ?_⟩
        calc s.readFrame = add64 read framesRead := hcounted.symm
          _ = written := hempty
          _ = s.writtenFrame := hcurrent hset written hunder
      · exact nofun
      · exact h.silent
    · rw [if_neg hlast]
      exact h.of_callback (by rw [hpc]; rfl) nofun nofun nofun
  case storeEnd =>
    cases hstep
    have hdrained := h.storing hpc
    constructor
    · exact h.finished
    · exact nofun
    · intro _
      exact ⟨hdrained, rfl⟩
    · exact nofun
    · exact nofun
    · intro _
      rfl
  all_goals
    cases hstep
    exact h.of_callback (by rw [hpc]; rfl) nofun nofun nofun

/-- Every step that meets the condition keeps both invariants. -/
theorem step_endInv {action : Action} (h : Inv seg s ∧ EndInv s)
    (hstep : guarded State.CurrentCounter (step seg) s action = some t) : Inv seg t ∧ EndInv t := by
  obtain ⟨hcurrent, hstep⟩ := guarded_some.mp hstep
  obtain ⟨hinv, hend⟩ := h
  refine ⟨step_inv hinv hstep, ?_⟩
  cases action with
  | prefetch => exact prefetchStep_endInv hend hstep
  | decodeFrame => exact decodeFrameStep_endInv hend hstep
  | decodeReturn success => exact decodeReturnStep_endInv hend hstep
  | stop =>
      cases hstep
      exact ⟨hend.finished, hend.counted, hend.ended, hend.storing, hend.stopping, hend.silent⟩
  | callback frameCount now => exact enterCallback_endInv hend hstep
  | callbackStep => exact callbackStep_endInv hinv hend hcurrent hstep

/-- Outside of a copy the device has got the frames that were read. -/
theorem delivered_of_outside (h : Inv seg s) (houtside : s.callback.outside = true) :
    s.delivered = seg.decoderFrames.take s.readFrame := by
  have hcallback := h.callback
  unfold CallbackInv at hcallback
  cases hpc : s.callback <;> rw [hpc] at hcallback houtside <;> first
    | exact hcallback
    | cases houtside

end Invariant

section Unstored

variable {seg : Segment Frame} {s t : State Frame} {action : Action} {written : Nat}

/-- Only the store of the worker changes the counter. -/
theorem written_of_not_stores (h : s.stores action = false) (hstep : step seg s action = some t) :
    t.writtenFrame = s.writtenFrame := by
  cases action with
  | prefetch =>
      unfold State.stores at h
      change prefetchStep seg s = some t at hstep
      unfold prefetchStep at hstep
      cases hpc : s.prefetch <;> rw [hpc] at hstep h <;> dsimp only at hstep
      case loadRead written => split at hstep <;> cases hstep <;> rfl
      case storeWritten => cases h
      case decoding => cases hstep
      case returned => cases hstep
      all_goals
        cases hstep
        rfl
  | decodeFrame =>
      change decodeFrameStep seg s = some t at hstep
      unfold decodeFrameStep at hstep
      split at hstep
      · split at hstep
        · obtain ⟨frame, -, rfl⟩ := Option.map_eq_some_iff.mp hstep
          rfl
        · cases hstep
      · cases hstep
  | decodeReturn success =>
      change decodeReturnStep success s = some t at hstep
      unfold decodeReturnStep at hstep
      split at hstep <;> cases hstep
      rfl
  | stop =>
      cases hstep
      rfl
  | callback frameCount now =>
      change enterCallback seg frameCount now s = some t at hstep
      unfold enterCallback at hstep
      split at hstep
      · split at hstep <;> cases hstep <;> rfl
      · cases hstep
  | callbackStep =>
      change callbackStep seg s = some t at hstep
      unfold callbackStep at hstep
      cases hpc : s.callback <;> rw [hpc] at hstep <;> dsimp only at hstep
      case idle => cases hstep
      case copying => split at hstep <;> cases hstep <;> rfl
      all_goals
        cases hstep
        rfl

theorem callbackStep_loaded (hstep : callbackStep seg s = some t)
    (h : written ∈ t.callback.loaded) :
    written = s.writtenFrame ∨ written ∈ s.callback.loaded := by
  unfold callbackStep at hstep
  cases hpc : s.callback <;> rw [hpc] at hstep <;> dsimp only at hstep
  case idle => cases hstep
  case loadEnd frameCount =>
    cases hstep
    cases hreached : s.endReached <;> rw [hreached] at h <;> cases h
  case loadWritten frameCount read =>
    cases hstep
    cases h
    exact .inl rfl
  case copying read loaded framesRead first output =>
    split at hstep <;> cases hstep <;> exact .inr h
  case storeRead => cases hstep; exact .inr h
  case addSubmitted => cases hstep; exact .inr h
  case loadFinished read loaded framesRead =>
    cases hstep
    dsimp only at h
    split at h <;> cases h
  all_goals
    cases hstep
    cases h

/-- What the callback has loaded it has loaded just now, or before. -/
theorem loaded_step (hinv : Inv seg s) (hstep : step seg s action = some t)
    (h : written ∈ t.callback.loaded) :
    action = .callbackStep ∧ written = s.writtenFrame ∨ written ∈ s.callback.loaded := by
  by_cases haction : action = .callbackStep
  · subst haction
    exact (callbackStep_loaded hstep h).imp_left fun hwritten => ⟨rfl, hwritten⟩
  · cases henters : action.enters with
    | false => exact .inr ((step_worked hinv henters haction hstep).callback ▸ h)
    | true =>
        cases action with
        | callback frameCount now =>
            change enterCallback seg frameCount now s = some t at hstep
            unfold enterCallback at hstep
            split at hstep
            · split at hstep <;> cases hstep
              · exact .inr h
              · cases h
            · cases hstep
        | _ => cases henters

/-- Without a store between its two loads the callback goes by the counter in force. -/
theorem loaded_eq_step (hinv : Inv seg s) (h : ∀ written ∈ s.callback.loaded, written = s.writtenFrame)
    (hunstored : s.Unstored action) (hstep : step seg s action = some t) :
    ∀ written ∈ t.callback.loaded, written = t.writtenFrame := by
  intro written hwritten
  have hloaded := loaded_step hinv hstep hwritten
  cases hstores : s.stores action with
  | true =>
      -- The worker stores only while the callback has loaded nothing.
      rw [hunstored hstores] at hloaded
      obtain ⟨rfl, -⟩ | hnone := hloaded
      · cases hstores
      · cases hnone
  | false =>
      rw [written_of_not_stores hstores hstep]
      obtain ⟨-, hnow⟩ | hbefore := hloaded
      · exact hnow
      · exact h written hbefore

end Unstored

/-- In a run in which `writtenFrame_` is never stored between the two loads of a callback, the
callback finds the flag set only over the counter in force. -/
theorem run_currentCounter_of_unstored {seg : Segment Frame} {ring : Nat → Frame}
    {actions : List Action} {s : State Frame}
    (hrun : run (guarded State.Unstored (step seg)) (start seg ring) actions = some s) :
    run (guarded State.CurrentCounter (step seg)) (start seg ring) actions = some s := by
  refine run_guarded_of_guarded (P := fun s =>
    Inv seg s ∧ ∀ written ∈ s.callback.loaded, written = s.writtenFrame) ?_ ?_ ?_ hrun
  · exact fun h hunstored hstep => ⟨step_inv h.1 hstep, loaded_eq_step h.1 h.2 hunstored hstep⟩
  · intro s action h _ _ _ written hempty
    apply h.2
    cases hpc : s.callback <;> rw [hpc] at hempty <;> try cases hempty
    case loadFinished read other framesRead =>
      change written ∈ (if add64 read framesRead = other then some other else none) at hempty
      split_ifs at hempty
      · exact hempty
      · cases hempty
  · exact ⟨inv_start seg ring, nofun⟩

/-- In every run in which the callback never finds the flag set over an old counter,
the end is declared only after the decoder has finished and each frame it wrote
was delivered, and the player goes silent only then. -/
theorem end_after_drain {seg : Segment Frame} {ring : Nat → Frame} {actions : List Action}
    {s : State Frame}
    (hrun : run (guarded State.CurrentCounter (step seg)) (start seg ring) actions = some s) :
    (s.endReached = true → s.decoderFinished = true ∧ s.readFrame = s.writtenFrame ∧
      s.delivered = seg.decoderFrames.take s.writtenFrame) ∧
      (s.playing = false → s.endReached = true) := by
  obtain ⟨hinv, hend⟩ := run_preserves (fun h hstep => step_endInv h hstep)
    (⟨inv_start seg ring, endInv_start seg ring⟩ : Inv seg _ ∧ EndInv _) hrun
  constructor
  · intro hreached
    obtain ⟨⟨hfinished, hread⟩, houtside⟩ := hend.ended hreached
    refine ⟨hfinished, hread, ?_⟩
    rw [← hread]
    exact delivered_of_outside hinv houtside
  · exact hend.silent

/-- A file of 8,000 frames a second, played from its beginning on the ring of `playFrom`. -/
def fileSegment (frames : List Nat) (h : frames.length < 2 ^ 64) : Segment Nat where
  ringCapacityFrames := max 8000 4096
  segmentStartFrame := 0
  segmentStartTime := 0
  decoderFrames := frames
  capacity_pos := by decide
  capacity_lt := by decide
  frames_lt := by omega

/-- A file of three frames. -/
def shortFile : Segment Nat := fileSegment [10, 11, 12] (by decide)

/-- The worker writes a chunk of frames, up to the store of the counter. -/
def chunkActions (frames : Nat) : List Action :=
  List.replicate 3 .prefetch ++ List.replicate frames .decodeFrame ++ [.decodeReturn true, .prefetch]

/-- The device asks for some frames and gets some of them, up to the load of the flag. -/
def deliverActions (frameCount framesRead : Nat) : List Action :=
  [.callback frameCount 0] ++ List.replicate 3 .callbackStep ++
    List.replicate framesRead .callbackStep ++ List.replicate 3 .callbackStep

/-- The device stops the player behind the end. -/
def stopActions : List Action := .callback 80 0 :: List.replicate 2 .callbackStep

theorem end_after_drain_short : ∃ s : State Nat, s.endReached = true ∧ s.playing = false ∧
    s.delivered = [10, 11, 12] := by
  have hheld : (run (guarded State.Unstored (step shortFile)) (start shortFile fun _ => 0)
      (chunkActions 3 ++ [.prefetch] ++ deliverActions 80 3 ++ List.replicate 2 .callbackStep ++
        stopActions)).any fun s =>
      s.endReached = true ∧ s.playing = false ∧ s.writtenFrame = 3 := by
    decide +kernel
  obtain ⟨s, hs, hheld⟩ := (Option.any_eq_true _ _).mp hheld
  obtain ⟨hreached, hplaying, hwritten⟩ := of_decide_eq_true hheld
  obtain ⟨-, -, hdelivered⟩ := (end_after_drain (run_currentCounter_of_unstored hs)).1 hreached
  refine ⟨s, hreached, hplaying, ?_⟩
  rw [hdelivered, hwritten]
  rfl

section Pieces

variable (seg : Segment Frame) {s : State Frame}

theorem decode_run (frames : Nat) {written request framesRead : Nat}
    (hprefetch : s.prefetch = .decoding written request framesRead)
    (hrequest : framesRead + frames ≤ request)
    (hlength : written + framesRead + frames ≤ seg.decoderFrames.length) :
    ∃ ring, run (step seg) s (List.replicate frames .decodeFrame) =
      some { s with ring, prefetch := .decoding written request (framesRead + frames) } := by
  induction frames generalizing s framesRead with
  | zero =>
      refine ⟨s.ring, ?_⟩
      rw [Nat.add_zero, ← hprefetch]
      rfl
  | succ frames ih =>
      obtain ⟨frame, hframe⟩ : ∃ frame, seg.decoderFrames[written + framesRead]? = some frame :=
        ⟨_, List.getElem?_eq_getElem (by omega)⟩
      have hstep : ∃ ring, step seg s .decodeFrame =
          some { s with ring, prefetch := .decoding written request (framesRead + 1) } := by
        change ∃ ring, decodeFrameStep seg s = some _
        unfold decodeFrameStep
        rw [hprefetch]
        dsimp only
        rw [if_pos (by omega), hframe]
        exact ⟨_, rfl⟩
      obtain ⟨ring, hstep⟩ := hstep
      obtain ⟨later, hrun⟩ := ih (s := { s with
        ring
        prefetch := .decoding written request (framesRead + 1) }) rfl (by omega) (by omega)
      refine ⟨later, ?_⟩
      rw [List.replicate_succ, run_cons_some]
      refine ⟨_, hstep, ?_⟩
      rw [hrun, Nat.add_assoc, Nat.add_comm 1]

theorem copy_run (frames : Nat) {read written framesRead first : Nat} {output : List Frame}
    (hcallback : s.callback = .copying read written framesRead first output)
    (hcount : output.length + frames ≤ framesRead) :
    ∃ copied : List Frame, copied.length = output.length + frames ∧
      run (step seg) s (List.replicate frames .callbackStep) =
        some { s with callback := .copying read written framesRead first copied } := by
  induction frames generalizing s output with
  | zero =>
      refine ⟨output, rfl, ?_⟩
      rw [← hcallback]
      rfl
  | succ frames ih =>
      have hstep : ∃ frame, step seg s .callbackStep = some { s with
          callback := .copying read written framesRead first (output ++ [frame]) } := by
        change ∃ frame, callbackStep seg s = some _
        unfold callbackStep
        rw [hcallback]
        dsimp only
        rw [if_pos (by omega)]
        exact ⟨_, rfl⟩
      obtain ⟨frame, hstep⟩ := hstep
      obtain ⟨copied, hlength, hrun⟩ := ih (s := { s with
        callback := .copying read written framesRead first (output ++ [frame]) }) rfl (by
          rw [List.length_append, List.length_singleton]
          omega)
      refine ⟨copied, ?_, ?_⟩
      · rw [hlength, List.length_append, List.length_singleton]
        omega
      · rw [List.replicate_succ, run_cons_some]
        exact ⟨_, hstep, hrun⟩

variable {seg}

/-- The worker writes one more chunk. -/
theorem chunk_run (frames request written : Nat) (h : Inv seg s) (hloop : s.prefetch = .loop)
    (hrunning : s.prefetchRunning = true)
    (hspace : s.writtenFrame < s.readFrame + seg.ringCapacityFrames)
    (hrequest : requestFrames seg (s.readFrame + seg.ringCapacityFrames - s.writtenFrame)
      s.writtenFrame = request)
    (hframes : frames ≤ request) (hwritten : s.writtenFrame + frames = written)
    (hlength : written ≤ seg.decoderFrames.length) :
    ∃ ring, run (step seg) s (chunkActions frames) = some { s with
      ring
      writtenFrame := written
      prefetch := if frames < request then .storeFinished else .loop } := by
  have hloads : run (step seg) s (List.replicate 3 .prefetch) =
      some { s with prefetch := .decoding s.writtenFrame request 0 } := by
    have havailable := available_eq h
    refine run_cons_some.mpr ⟨{ s with prefetch := .loadWritten }, ?_, ?_⟩
    · change prefetchStep seg s = _
      unfold prefetchStep
      rw [hloop, hrunning]
      rfl
    · refine run_cons_some.mpr ⟨{ s with prefetch := .loadRead s.writtenFrame }, rfl, ?_⟩
      refine run_cons_some.mpr ⟨_, ?_, rfl⟩
      change prefetchStep seg { s with prefetch := .loadRead s.writtenFrame } = _
      unfold prefetchStep
      dsimp only
      rw [havailable, if_neg (by omega), hrequest]
  obtain ⟨ring, hdecoded⟩ := decode_run seg frames
    (s := { s with prefetch := .decoding s.writtenFrame request 0 }) rfl (by omega) (by omega)
  refine ⟨ring, run_append.mpr ⟨_, run_append.mpr ⟨_, hloads, hdecoded⟩, ?_⟩⟩
  have hposition := seg.frames_lt
  have hstored : add64 s.writtenFrame (0 + frames) = written := by
    rw [Nat.zero_add, add64_of_lt (by omega), hwritten]
  refine run_cons_some.mpr ⟨_, rfl, run_cons_some.mpr ⟨_, rfl, ?_⟩⟩
  change some _ = some _
  dsimp only
  rw [hstored, Nat.zero_add]
  simp only [Bool.not_true, Bool.false_or, decide_eq_true_eq]

/-- The device gets frames, and the callback has come to its load of the flag. -/
theorem deliver_run (frameCount framesRead read : Nat) (h : Inv seg s) (hidle : s.callback = .idle)
    (hopen : s.endReached = false) (hstarted : seg.segmentStartTime ≤ 0)
    (hcount : min frameCount (s.writtenFrame - s.readFrame) = framesRead)
    (hread : s.readFrame + framesRead = read) :
    ∃ submittedFrames delivered, run (step seg) s (deliverActions frameCount framesRead) =
      some { s with
        readFrame := read
        submittedFrames
        delivered
        callback := .loadFinished s.readFrame s.writtenFrame framesRead } := by
  have hle := h.read_le
  have hlength := h.written_le_length
  have hframes := seg.frames_lt
  have hsub : sub64 s.writtenFrame s.readFrame = s.writtenFrame - s.readFrame :=
    sub64_of_le hle (by omega)
  have henter : run (step seg) s [.callback frameCount 0] =
      some { s with callback := .loadEnd frameCount } := by
    refine run_cons_some.mpr ⟨_, ?_, rfl⟩
    change enterCallback seg frameCount 0 s = _
    unfold enterCallback
    rw [hidle]
    exact if_neg (not_lt.mpr hstarted)
  have hloads : run (step seg) { s with callback := .loadEnd frameCount }
      (List.replicate 3 .callbackStep) = some { s with
        callback := .copying s.readFrame s.writtenFrame framesRead
          (min framesRead (seg.ringCapacityFrames - s.readFrame % seg.ringCapacityFrames)) [] } := by
    refine run_cons_some.mpr ⟨{ s with callback := .loadRead frameCount }, ?_, ?_⟩
    · change callbackStep seg { s with callback := .loadEnd frameCount } = _
      unfold callbackStep
      dsimp only
      rw [hopen]
      rfl
    · refine run_cons_some.mpr ⟨_, rfl, run_cons_some.mpr ⟨_, rfl, ?_⟩⟩
      change some _ = some _
      dsimp only
      rw [hsub, hcount]
  obtain ⟨copied, hcopied, hrun⟩ := copy_run seg framesRead (s := { s with
    callback := .copying s.readFrame s.writtenFrame framesRead
      (min framesRead (seg.ringCapacityFrames - s.readFrame % seg.ringCapacityFrames)) [] })
    rfl (by simp)
  refine ⟨add64 s.submittedFrames framesRead, s.delivered ++ copied, run_append.mpr ⟨_, run_append.mpr
    ⟨_, run_append.mpr ⟨_, henter, hloads⟩, hrun⟩, ?_⟩⟩
  have hdone : ¬ copied.length < framesRead := by
    rw [hcopied]
    simp
  refine run_cons_some.mpr ⟨_, if_neg hdone, run_cons_some.mpr ⟨_, rfl,
    run_cons_some.mpr ⟨_, rfl, ?_⟩⟩⟩
  change some _ = some _
  dsimp only
  rw [add64_of_lt (by omega), hread]

/-- Callback after callback gets all its frames. -/
theorem callbacks_run (frameCount count read : Nat) (h : Inv seg s) (hidle : s.callback = .idle)
    (hopen : s.endReached = false) (hunfinished : s.decoderFinished = false)
    (hstarted : seg.segmentStartTime ≤ 0) (hread : s.readFrame + count * frameCount = read)
    (hcount : read ≤ s.writtenFrame) :
    ∃ submittedFrames delivered, run (step seg) s
      (List.replicate count (deliverActions frameCount frameCount ++ [.callbackStep])).flatten =
        some { s with readFrame := read, submittedFrames, delivered } := by
  induction count generalizing s with
  | zero =>
      refine ⟨s.submittedFrames, s.delivered, ?_⟩
      rw [Nat.zero_mul, Nat.add_zero] at hread
      rw [← hread]
      rfl
  | succ count ih =>
      rw [Nat.succ_mul] at hread
      obtain ⟨submittedFrames, delivered, hdeliver⟩ := deliver_run frameCount frameCount _ h hidle
        hopen hstarted (by omega) rfl
      have hone : run (step seg) s (deliverActions frameCount frameCount ++ [.callbackStep]) =
          some { s with
            readFrame := s.readFrame + frameCount
            submittedFrames
            delivered } := by
        refine run_append.mpr ⟨_, hdeliver, run_cons_some.mpr ⟨_, rfl, ?_⟩⟩
        change some _ = some _
        dsimp only
        rw [hunfinished, hidle]
        rfl
      obtain ⟨later, frames, hrest⟩ := ih (s := { s with
        readFrame := s.readFrame + frameCount
        submittedFrames
        delivered }) (run_preserves (fun h hstep => step_inv h hstep) h hone) hidle hopen
          hunfinished (by dsimp only; omega) hcount
      refine ⟨later, frames, ?_⟩
      rw [List.replicate_succ, List.flatten_cons]
      exact run_append.mpr ⟨_, hone, hrest⟩

end Pieces

/-- A file with one frame more than the worker writes at once. -/
def longFile : Segment Nat := fileSegment (List.replicate 4097 0) (by rw [List.length_replicate]; decide)

/-- The worker writes 4,096 frames, more than `playFrom` waits for, and the device takes them
80 at a time. In the last callback, between its two loads, the worker writes the last frame
and finishes. -/
def lateStore : List Action :=
  chunkActions 4096 ++
    (List.replicate 51 (deliverActions 80 80 ++ [.callbackStep])).flatten ++ deliverActions 80 16 ++
      (chunkActions 1 ++ [.prefetch]) ++ List.replicate 2 .callbackStep ++ stopActions

/-- The last frame arrives after the callback has loaded the written counter. -/
theorem end_before_last_frame : ∃ s : State Nat,
    run (step longFile) (start longFile fun _ => 0) lateStore = some s ∧
      s.endReached = true ∧ s.playing = false ∧ s.decoderFinished = true ∧
      s.writtenFrame = 4097 ∧ s.delivered = longFile.decoderFrames.take 4096 := by
  have hstart := inv_start longFile fun _ => 0
  have hlength : longFile.decoderFrames.length = 4097 := List.length_replicate
  have hkeeps {s t : State Nat} {actions : List Action} (hs : Inv longFile s)
      (h : run (step longFile) s actions = some t) : Inv longFile t :=
    run_preserves (fun h hstep => step_inv h hstep) hs h
  obtain ⟨ring, hchunk⟩ := chunk_run 4096 4096 4096 hstart rfl rfl (by decide) (by decide) le_rfl
    (by decide) (by rw [hlength]; decide)
  have hfilled := hkeeps hstart hchunk
  obtain ⟨_, _, hcallbacks⟩ := callbacks_run 80 51 4080 hfilled rfl rfl rfl le_rfl
    (show 0 + 51 * 80 = 4080 by decide) (show 4080 ≤ 4096 by decide)
  have htaken := hkeeps hfilled hcallbacks
  obtain ⟨_, _, hdeliver⟩ := deliver_run 80 16 4096 htaken rfl rfl le_rfl
    (show min 80 (4096 - 4080) = 16 by decide) (show 4080 + 16 = 4096 by decide)
  have hempty := hkeeps htaken hdeliver
  obtain ⟨_, hstored⟩ := chunk_run 1 3904 4097 hempty rfl rfl (show 4096 < 4096 + 8000 by decide)
    (show requestFrames longFile (4096 + 8000 - 4096) 4096 = 3904 by decide) (by decide)
    (show 4096 + 1 = 4097 by decide) (by rw [hlength])
  have hrun : ∃ s, run (step longFile) (start longFile fun _ => 0) lateStore = some s ∧
      s.callback = .idle ∧ s.readFrame = 4096 ∧ s.endReached = true ∧ s.playing = false ∧
      s.decoderFinished = true ∧ s.writtenFrame = 4097 := by
    refine ⟨_, run_append.mpr ⟨_, run_append.mpr ⟨_, run_append.mpr ⟨_, run_append.mpr ⟨_,
      run_append.mpr ⟨_, hchunk, hcallbacks⟩, hdeliver⟩,
        run_append.mpr ⟨_, hstored, rfl⟩⟩, rfl⟩, rfl⟩, rfl, rfl, rfl, rfl, rfl, rfl⟩
  obtain ⟨s, hs, hidle, hread, hreached, hplaying, hfinished, hwritten⟩ := hrun
  refine ⟨s, hs, hreached, hplaying, hfinished, hwritten, ?_⟩
  rw [← hread]
  exact delivered_of_outside (run_inv hs) (by rw [hidle]; rfl)

end SyncAudio.DesktopAudioPlayer
