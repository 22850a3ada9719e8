import Mathlib.Data.List.DropRight
import SyncAudio.Core.JitterBufferOrder

/-!
# Rejected packets

A push that rejects its packet may already have erased packets. Those end at or
before the last read, and no call that starts there or later can tell whether
they are still held.
-/

namespace SyncAudio.JitterBuffer

/-- The second buffer is the first without some packets at its front that end at or
before `position`, and otherwise differs at most in its arrival statistics. -/
structure Sheds (position : Nat) (first second : JitterBuffer) : Prop where
  packets : ∃ stale, first.packets.entries = stale ++ second.packets.entries ∧
    ∀ e ∈ stale, e.2.endFrame ≤ position
  position_le : position ≤ first.latestReadFrame
  format_eq : first.format = second.format
  latestEndFrame_eq : first.latestEndFrame = second.latestEndFrame
  latestEndFrameAtomic_eq : first.latestEndFrameAtomic = second.latestEndFrameAtomic
  latestReadFrame_eq : first.latestReadFrame = second.latestReadFrame
  overflowPackets_eq : first.metrics.overflowPackets = second.metrics.overflowPackets

/-- A buffer after a push that left nothing but a higher count of rejected packets. -/
structure Unnoticed (jb result : JitterBuffer) : Prop where
  format_eq : result.format = jb.format
  latestEndFrame_eq : result.latestEndFrame = jb.latestEndFrame
  latestEndFrameAtomic_eq : result.latestEndFrameAtomic = jb.latestEndFrameAtomic
  latestReadFrame_eq : result.latestReadFrame = jb.latestReadFrame
  packetCount_eq : result.packetCount = jb.packetCount
  firstPacketAtOrAfter_eq : ∀ hostTimestampNanoseconds,
    result.firstPacketAtOrAfter hostTimestampNanoseconds =
      jb.firstPacketAtOrAfter hostTimestampNanoseconds
  outputs_eq : ∀ operations : List Operation,
    (∀ startFrame outputSize retainLookahead locked,
      .readFrames startFrame outputSize retainLookahead locked ∈ operations →
        jb.latestReadFrame ≤ startFrame.toNat) →
      outputs result operations = outputs jb operations
  lastArrival_eq : result.lastArrival = jb.lastArrival
  lastPresentationNanoseconds_eq :
    result.lastPresentationNanoseconds = jb.lastPresentationNanoseconds
  metrics_eq : ∃ latePackets duplicatePackets,
    result.metrics = { jb.metrics with latePackets, duplicatePackets }

section Sheds

variable {position : Nat} {first second : JitterBuffer}

theorem Agrees.sheds (h : Agrees first second) (hposition : position ≤ first.latestReadFrame) :
    Sheds position first second := by
  refine ⟨⟨[], ?_, nofun⟩, hposition, h.format_eq, h.latestEndFrame_eq, h.latestEndFrameAtomic_eq,
    h.latestReadFrame_eq, h.overflowPackets_eq⟩
  rw [h.packets_eq]
  rfl

/-- The next push erases what the second buffer has already lost. -/
theorem Sheds.expire (h : Sheds position first second) : Agrees first.expire second.expire := by
  obtain ⟨stale, hentries, hstale⟩ := h.packets
  refine ⟨?_, h.format_eq, h.latestEndFrame_eq, h.latestEndFrameAtomic_eq, h.latestReadFrame_eq,
    h.overflowPackets_eq⟩
  apply OrderedMap.ext
  unfold JitterBuffer.expire OrderedMap.eraseWhile
  dsimp only
  rw [hentries, ← h.latestReadFrame_eq, List.dropWhile_append_of_pos]
  intro e he
  exact decide_eq_true ((hstale e he).trans h.position_le)

theorem expire_expire (jb : JitterBuffer) : jb.expire.expire = jb.expire := by
  have hpackets : jb.expire.expire.packets = jb.expire.packets := by
    apply OrderedMap.ext
    exact List.dropWhile_idempotent _ _
  exact congrArg (fun packets => { jb with packets }) hpackets

/-- `push` starts with the erasure. -/
theorem pushLocked_expire (jb : JitterBuffer) (arrival : Int) (packet : AudioPacket) :
    jb.expire.pushLocked arrival packet = jb.pushLocked arrival packet := by
  unfold JitterBuffer.pushLocked
  rw [expire_expire]

theorem Sheds.push (h : Sheds position first second) (arrival : Int) (packet : AudioPacket) :
    Sheds position (first.push arrival packet).buffer (second.push arrival packet).buffer := by
  have hread := push_latestReadFrame first arrival packet
  unfold JitterBuffer.push at hread ⊢
  split_ifs at hread ⊢
  · exact h
  · exact h
  · apply Agrees.sheds
    · rw [← pushLocked_expire first, ← pushLocked_expire second]
      exact (h.expire.pushLocked arrival packet).2
    · rw [hread]
      exact h.position_le

/-- The loop of a read skips what ends before it starts. -/
theorem copyPackets_append {channels startFrame requestedEnd : Nat}
    {stale entries : List (Nat × BufferedPacket)}
    (hstale : ∀ e ∈ stale, e.2.endFrame ≤ startFrame) (copiedFrames : Nat) (output : List Int16) :
    copyPackets channels startFrame requestedEnd (stale ++ entries) copiedFrames output =
      copyPackets channels startFrame requestedEnd entries copiedFrames output := by
  induction stale with
  | nil => rfl
  | cons e stale ih =>
      have hskip := hstale e List.mem_cons_self
      rw [List.cons_append, copyPackets, if_pos hskip]
      exact ih fun e he => hstale e (List.mem_cons_of_mem _ he)

theorem Sheds.readFrames (h : Sheds position first second) {startFrame : Nat}
    (hstart : position ≤ startFrame) (outputSize : Nat) (retainLookahead locked : Bool) :
    (first.readFrames startFrame outputSize retainLookahead locked).returned =
        (second.readFrames startFrame outputSize retainLookahead locked).returned ∧
      (first.readFrames startFrame outputSize retainLookahead locked).interleavedOutput =
        (second.readFrames startFrame outputSize retainLookahead locked).interleavedOutput ∧
      Sheds position (first.readFrames startFrame outputSize retainLookahead locked).buffer
        (second.readFrames startFrame outputSize retainLookahead locked).buffer := by
  obtain ⟨stale, hentries, hstale⟩ := h.packets
  unfold JitterBuffer.readFrames
  rw [h.format_eq, hentries, h.latestReadFrame_eq]
  cases locked with
  | false => exact ⟨rfl, rfl, h⟩
  | true =>
      cases second.format with
      | none => exact ⟨rfl, rfl, h⟩
      | some format =>
          dsimp only [Bool.not_true, Bool.false_eq_true, if_false]
          by_cases haligned : outputSize % format.channelCount.toNat = 0
          · rw [if_neg (not_not.mpr haligned), if_neg (not_not.mpr haligned),
              copyPackets_append fun e he => (hstale e he).trans hstart]
            refine ⟨rfl, rfl, ⟨⟨stale, hentries, hstale⟩, ?_, rfl, h.latestEndFrame_eq,
              h.latestEndFrameAtomic_eq, rfl, h.overflowPackets_eq⟩⟩
            rw [← h.latestReadFrame_eq]
            exact h.position_le.trans (le_max_left _ _)
          · rw [if_pos haligned, if_pos haligned]
            exact ⟨rfl, rfl, h⟩

/-- Later calls that read nothing before `position` answer alike. -/
theorem Sheds.outputs (h : Sheds position first second) {operations : List Operation}
    (hreads : ∀ startFrame outputSize retainLookahead locked,
      .readFrames startFrame outputSize retainLookahead locked ∈ operations →
        position ≤ startFrame.toNat) :
    first.outputs operations = second.outputs operations := by
  induction operations generalizing first second with
  | nil => rfl
  | cons operation operations ih =>
      have hrest : ∀ startFrame outputSize retainLookahead locked,
          .readFrames startFrame outputSize retainLookahead locked ∈ operations →
            position ≤ startFrame.toNat := fun startFrame outputSize retainLookahead locked hmem =>
        hreads startFrame outputSize retainLookahead locked (List.mem_cons_of_mem _ hmem)
      cases operation with
      | push arrival packet => exact ih (h.push arrival packet) hrest
      | readFrames startFrame outputSize retainLookahead locked =>
          have hstart := hreads startFrame outputSize retainLookahead locked List.mem_cons_self
          obtain ⟨hreturned, houtput, hbuffer⟩ :=
            h.readFrames hstart outputSize retainLookahead locked
          unfold JitterBuffer.outputs
          dsimp only
          rw [hreturned, houtput, ih hbuffer hrest]

theorem Sheds.packetCount (h : Sheds position first second) :
    first.packetCount = second.packetCount := by
  obtain ⟨stale, hentries, hstale⟩ := h.packets
  have hread : stale.countP (fun e => decide (second.latestReadFrame < e.2.endFrame)) = 0 := by
    rw [List.countP_eq_zero]
    intro e he
    have hend := hstale e he
    have hposition := h.position_le
    rw [h.latestReadFrame_eq] at hposition
    simp only [decide_eq_true_eq]
    omega
  unfold JitterBuffer.packetCount
  rw [hentries, h.latestReadFrame_eq, List.countP_append, hread, Nat.zero_add]

theorem Sheds.firstPacketAtOrAfter (h : Sheds position first second)
    (hostTimestampNanoseconds : Nat) :
    first.firstPacketAtOrAfter hostTimestampNanoseconds =
      second.firstPacketAtOrAfter hostTimestampNanoseconds := by
  obtain ⟨stale, hentries, hstale⟩ := h.packets
  have hread : stale.find? (fun e => decide (second.latestReadFrame < e.2.endFrame) &&
      decide (hostTimestampNanoseconds ≤ e.2.presentationTimestampNanoseconds)) = none := by
    rw [List.find?_eq_none]
    intro e he
    have hend := hstale e he
    have hposition := h.position_le
    rw [h.latestReadFrame_eq] at hposition
    simp only [Bool.and_eq_true, decide_eq_true_eq, not_and]
    omega
  unfold JitterBuffer.firstPacketAtOrAfter
  rw [hentries, h.latestReadFrame_eq, List.find?_append, hread, Option.none_or]

end Sheds

section Rejection

variable {jb : JitterBuffer} {arrival : Int} {packet : AudioPacket}

/-- A rejection counts the packet as late or as a duplicate, if at all, and records nothing
of its arrival. -/
theorem metrics_of_rejected (h : (jb.push arrival packet).returned ≠ .ok true) :
    (∃ latePackets duplicatePackets, (jb.push arrival packet).buffer.metrics =
        { jb.metrics with latePackets, duplicatePackets }) ∧
      (jb.push arrival packet).buffer.lastArrival = jb.lastArrival ∧
      (jb.push arrival packet).buffer.lastPresentationNanoseconds =
        jb.lastPresentationNanoseconds := by
  unfold push pushLocked at h ⊢
  dsimp only at h ⊢
  split_ifs at h ⊢
  · exact ⟨⟨_, _, rfl⟩, rfl, rfl⟩
  · exact ⟨⟨_, _, rfl⟩, rfl, rfl⟩
  · exact ⟨⟨_, _, rfl⟩, rfl, rfl⟩
  · exact ⟨⟨_, _, rfl⟩, rfl, rfl⟩
  · cases hinsert : jb.expire.packets.tryEmplace packet.startFrame.toNat (bufferedPacket packet) with
    | none => exact ⟨⟨_, _, rfl⟩, rfl, rfl⟩
    | some packets =>
        rw [hinsert] at h
        exact absurd (evictOverflow_returned _) h

/-- The packets that a rejecting push erases. -/
theorem Rejected.sheds {result : PushResult} (h : Rejected jb packet result)
    (hformat : result.buffer.format = jb.format)
    (hoverflow : result.buffer.metrics.overflowPackets = jb.metrics.overflowPackets) :
    Sheds jb.latestReadFrame jb result.buffer := by
  refine ⟨?_, le_refl _, hformat.symm, h.latestEndFrame_eq.symm, h.latestEndFrameAtomic_eq.symm,
    h.latestReadFrame_eq.symm, hoverflow.symm⟩
  rcases h.packets_eq with heq | heq
  · exact ⟨[], by rw [heq]; rfl, nofun⟩
  · refine ⟨jb.packets.entries.takeWhile fun e => e.2.endFrame ≤ jb.latestReadFrame, ?_, ?_⟩
    · rw [heq]
      exact List.takeWhile_append_dropWhile.symm
    · intro e he
      have hstale := List.mem_takeWhile_imp he
      exact of_decide_eq_true hstale

end Rejection

/-- After every sequence of calls, a push that rejects its packet goes unnoticed: every
accessor and every later read from the last read position on answers as without it. -/
theorem rejected_push_unnoticed (operations : List Operation) (arrival : Int)
    {packet : AudioPacket}
    (hrejected : ((History.after operations).buffer.push arrival packet).returned ≠ .ok true) :
    Unnoticed (History.after operations).buffer
      ((History.after operations).buffer.push arrival packet).buffer := by
  have hrepresents := represents_after operations
  rcases push_cases (History.after operations).buffer arrival packet with h | h
  · obtain ⟨⟨latePackets, duplicatePackets, hmetrics⟩, harrival, hpresentation⟩ :=
      metrics_of_rejected hrejected
    have hformat := hrepresents.format_of_rejected h
    have hsheds := h.sheds hformat (by rw [hmetrics])
    constructor
    · exact hformat
    · exact h.latestEndFrame_eq
    · exact h.latestEndFrameAtomic_eq
    · exact h.latestReadFrame_eq
    · exact hsheds.packetCount.symm
    · exact fun hostTimestampNanoseconds =>
        (hsheds.firstPacketAtOrAfter hostTimestampNanoseconds).symm
    · exact fun later hreads => (hsheds.outputs hreads).symm
    · exact harrival
    · exact hpresentation
    · exact ⟨latePackets, duplicatePackets, hmetrics⟩
  · exact absurd h.returned_eq hrejected

/-- A packet of two frames. -/
def earlyPacket : AudioPacket where
  sampleRate := 48000
  channelCount := 1
  startFrame := 96
  frameCount := 2
  pcmPayload := [1, 0, 2, 0]

/-- A buffer that has read all of its packet. -/
def readBuffer : JitterBuffer :=
  (History.after [.push 10 earlyPacket, .readFrames 96 4 false true]).buffer

/-- The packet is erased, and then rejected as late. -/
theorem rejected_push_unnoticed_late :
    (readBuffer.push 20 earlyPacket).returned = .ok false ∧
      (readBuffer.push 20 earlyPacket).buffer.packets.size = 0 ∧
      Unnoticed readBuffer (readBuffer.push 20 earlyPacket).buffer := by
  have hreturned : (readBuffer.push 20 earlyPacket).returned = .ok false := rfl
  refine ⟨hreturned, rfl, ?_⟩
  apply rejected_push_unnoticed
  intro htrue
  cases hreturned.symm.trans htrue

end SyncAudio.JitterBuffer
