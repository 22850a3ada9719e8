import SyncAudio.Core.JitterBuffer

/-!
# The representation of the jitter buffer

`readFrames` copies with offsets it does not check. They are right because every
held packet carries the samples of its frames in the one format of the buffer,
a fact that `push` establishes and that every call keeps. The end of a read may
wrap; it then lies before the start, and nothing is copied.

## Implementation notes

The packets that were inserted are recorded beside the buffer, in order.
-/

namespace SyncAudio.JitterBuffer

open Word

/-- One `std::copy_n` of `readFrames`. -/
structure CopyRange where
  packet : BufferedPacket
  sourceOffset : Nat
  count : Nat
  destinationOffset : Nat

/-- The copy reads inside its packet and writes inside a span of `outputSize` samples. -/
def CopyRange.Inside (range : CopyRange) (outputSize : Nat) : Prop :=
  range.sourceOffset + range.count ≤ range.packet.samples.length ∧
    range.destinationOffset + range.count ≤ outputSize

/-- The copies that the loop of `readFrames` makes. -/
def copyRanges (channels startFrame requestedEnd : Nat) :
    List (Nat × BufferedPacket) → List CopyRange
  | [] => []
  | (_, p) :: rest =>
      if p.endFrame ≤ startFrame then copyRanges channels startFrame requestedEnd rest
      else if p.startFrame ≥ requestedEnd then []
      else
        let copyStart := max startFrame p.startFrame
        let copyEnd := min requestedEnd p.endFrame
        if copyStart < copyEnd then
          { packet := p
            sourceOffset := (copyStart - p.startFrame) * channels
            count := (copyEnd - copyStart) * channels
            destinationOffset := (copyStart - startFrame) * channels } ::
              copyRanges channels startFrame requestedEnd rest
        else copyRanges channels startFrame requestedEnd rest

/-- The copies of a call of `readFrames` that holds the mutex. -/
def readCopies (jb : JitterBuffer) (startFrame outputSize : Nat) : List CopyRange :=
  match jb.format with
  | none => []
  | some format =>
      let channels := format.channelCount.toNat
      if outputSize % channels ≠ 0 then []
      else copyRanges channels startFrame (add64 startFrame (outputSize / channels)) jb.packets.entries

/-- A call of one of the two threads. -/
inductive Operation where
  | push (arrival : Int) (packet : AudioPacket)
  | readFrames (startFrame : UInt64) (outputSize : Nat) (retainLookahead locked : Bool)

/-- A buffer and the packets that were ever inserted into it. -/
structure History where
  buffer : JitterBuffer := {}
  inserted : List AudioPacket := []

namespace History

def perform (history : History) : Operation → History
  | .push arrival packet =>
      let result := history.buffer.push arrival packet
      { buffer := result.buffer
        inserted := history.inserted ++
          match result.returned with
          | .ok true => [packet]
          | _ => [] }
  | .readFrames startFrame outputSize retainLookahead locked =>
      { history with
        buffer := (history.buffer.readFrames startFrame.toNat outputSize retainLookahead locked).buffer }

/-- The history of an empty buffer after some calls. -/
def after (operations : List Operation) : History := operations.foldl perform {}

end History

/-- The end of a packet that was accepted. -/
def packetEnd (packet : AudioPacket) : Nat := packet.startFrame.toNat + packet.frameCount.toNat

/-- The buffer represents the packets that were inserted. -/
structure Represents (history : History) : Prop where
  size_le : history.buffer.packets.size ≤ maximumPackets
  key_eq : ∀ e ∈ history.buffer.packets.entries, e.1 = e.2.startFrame
  end_lt : ∀ e ∈ history.buffer.packets.entries, e.2.endFrame < 2 ^ 64
  samples_eq : ∀ e ∈ history.buffer.packets.entries, ∃ format ∈ history.buffer.format,
    e.2.samples.length = e.2.frameCount * format.channelCount.toNat
  format_eq : history.buffer.format = history.inserted.head?.map incomingFormat
  latestEndFrame_eq :
    history.buffer.latestEndFrame = (history.inserted.map packetEnd).foldl max 0
  atomic_eq : history.buffer.latestEndFrameAtomic = history.buffer.latestEndFrame

section Copies

variable {channels startFrame requestedEnd outputSize : Nat} {entries : List (Nat × BufferedPacket)}

/-- The loop fills the span with its copies, one after another. -/
theorem copyPackets_eq_foldl (copiedFrames : Nat) (output : List Int16) :
    (copyPackets channels startFrame requestedEnd entries copiedFrames output).2 =
      (copyRanges channels startFrame requestedEnd entries).foldl (fun output range =>
        copyInto range.packet.samples range.sourceOffset range.count output
          range.destinationOffset) output := by
  induction entries generalizing copiedFrames output with
  | nil => rfl
  | cons e entries ih =>
      unfold copyPackets copyRanges
      dsimp only
      split_ifs
      · exact ih copiedFrames output
      · rfl
      · exact ih _ _
      · exact ih copiedFrames output

/-- What `readFrames` returns in the span are its copies over silence. -/
theorem readFrames_output (jb : JitterBuffer) (startFrame outputSize : Nat)
    (retainLookahead : Bool) :
    (jb.readFrames startFrame outputSize retainLookahead true).interleavedOutput =
      (jb.readCopies startFrame outputSize).foldl (fun output range =>
        copyInto range.packet.samples range.sourceOffset range.count output
          range.destinationOffset) (List.replicate outputSize 0) := by
  unfold readFrames readCopies
  cases jb.format with
  | none => rfl
  | some format =>
      dsimp only
      by_cases haligned : outputSize % format.channelCount.toNat = 0
      · rw [if_neg (not_not.mpr haligned), if_neg (not_not.mpr haligned)]
        exact copyPackets_eq_foldl 0 _
      · rw [if_pos haligned, if_pos haligned]
        rfl

theorem copyRanges_inside (hend : requestedEnd ≤ startFrame + outputSize / channels)
    (haligned : outputSize % channels = 0)
    (hsamples : ∀ e ∈ entries, e.2.samples.length = e.2.frameCount * channels) :
    ∀ range ∈ copyRanges channels startFrame requestedEnd entries, range.Inside outputSize := by
  induction entries with
  | nil =>
      intro range hrange
      cases hrange
  | cons e entries ih =>
      have hrest := ih fun e he => hsamples e (List.mem_cons_of_mem _ he)
      intro range hrange
      unfold copyRanges at hrange
      dsimp only at hrange
      split_ifs at hrange with hskip hstop hcopy
      · exact hrest range hrange
      · cases hrange
      · rcases List.mem_cons.mp hrange with rfl | hrange
        · have hpacket := hsamples e List.mem_cons_self
          constructor
          · exact copyPacket_source_le hpacket hcopy
          · have hsize : outputSize / channels * channels = outputSize :=
              Nat.div_mul_cancel (Nat.dvd_of_mod_eq_zero haligned)
            calc _ = (min requestedEnd e.2.endFrame - startFrame) * channels := by
                  rw [← Nat.add_mul]
                  congr 1
                  omega
              _ ≤ outputSize / channels * channels := Nat.mul_le_mul_right _ (by omega)
              _ = outputSize := hsize
        · exact hrest range hrange
      · exact hrest range hrange

end Copies

section Preservation

variable {history : History}

theorem decodePcm_length (payload : List UInt8) : (decodePcm payload).length = payload.length / 2 := by
  induction payload using decodePcm.induct with
  | case1 low high rest ih =>
      rw [decodePcm, List.length_cons, List.length_cons, List.length_cons, ih]
      omega
  | case2 payload hshort =>
      cases payload with
      | nil => simp [decodePcm]
      | cons low rest =>
          cases rest with
          | nil => simp [decodePcm]
          | cons high rest => exact absurd rfl (hshort low high rest)

theorem represents_empty : Represents {} := by
  constructor
  · exact Nat.zero_le _
  · exact nofun
  · exact nofun
  · exact nofun
  · rfl
  · rfl
  · rfl

/-- The packets of a buffer that has inserted nothing yet. -/
theorem Represents.format_isSome (h : Represents history)
    (hheld : history.buffer.packets.entries ≠ []) : history.buffer.format.isSome := by
  obtain ⟨e, he⟩ := List.exists_mem_of_ne_nil _ hheld
  obtain ⟨format, hformat, -⟩ := h.samples_eq e he
  rw [Option.mem_def.mp hformat]
  rfl

theorem size_expire_le (jb : JitterBuffer) : jb.expire.packets.size ≤ jb.packets.size :=
  (List.dropWhile_sublist _).length_le

/-- The format of the buffer is never written by a push that rejects. -/
theorem Represents.format_of_rejected {packet : AudioPacket} {result : PushResult}
    (h : Represents history) (hrejected : Rejected history.buffer packet result) :
    result.buffer.format = history.buffer.format := by
  rcases hrejected.format_eq with heq | ⟨heq, hformer, hheld⟩
  · exact heq
  · obtain ⟨format, hformat⟩ := Option.isSome_iff_exists.mp (h.format_isSome hheld)
    rw [heq, hformat, hformer format hformat]

/-- A push that inserts nothing leaves what the buffer represents. -/
theorem Represents.rejected {packet : AudioPacket} {result : PushResult} (h : Represents history)
    (hrejected : Rejected history.buffer packet result) :
    Represents { history with buffer := result.buffer } := by
  have hmem : ∀ e ∈ result.buffer.packets.entries, e ∈ history.buffer.packets.entries := by
    intro e he
    rcases hrejected.packets_eq with heq | heq
    · exact heq ▸ he
    · exact mem_expire (heq ▸ he)
  have hformat := h.format_of_rejected hrejected
  constructor
  · rcases hrejected.packets_eq with heq | heq
    · exact heq ▸ h.size_le
    · exact heq ▸ (size_expire_le history.buffer).trans h.size_le
  · exact fun e he => h.key_eq e (hmem e he)
  · exact fun e he => h.end_lt e (hmem e he)
  · intro e he
    dsimp only
    rw [hformat]
    exact h.samples_eq e (hmem e he)
  · exact hformat.trans h.format_eq
  · exact hrejected.latestEndFrame_eq.trans h.latestEndFrame_eq
  · exact hrejected.latestEndFrameAtomic_eq.trans
      (h.atomic_eq.trans hrejected.latestEndFrame_eq.symm)

theorem bufferedPacket_samples {packet : AudioPacket}
    (hpayload : packet.pcmPayload.length =
      packet.frameCount.toNat * packet.channelCount.toNat * 2) :
    (bufferedPacket packet).samples.length =
      packet.frameCount.toNat * packet.channelCount.toNat := by
  change (decodePcm packet.pcmPayload).length = _
  rw [decodePcm_length, hpayload]
  exact Nat.mul_div_cancel _ (by decide)

/-- A push that inserts a packet adds it to what the buffer represents. -/
theorem Represents.accepted {packet : AudioPacket} {result : PushResult} (h : Represents history)
    (haccepted : Accepted history.buffer packet result) :
    Represents { buffer := result.buffer, inserted := history.inserted ++ [packet] } := by
  obtain ⟨packets, hinsert, hpackets⟩ := haccepted.inserted
  obtain ⟨-, hentries⟩ := OrderedMap.tryEmplace_some hinsert
  have hmem : ∀ e ∈ result.buffer.packets.entries,
      e = (packet.startFrame.toNat, bufferedPacket packet) ∨
        e ∈ history.buffer.packets.entries := by
    intro e he
    have he : e ∈ packets.entries := by
      rcases hpackets with ⟨-, -, heq⟩ | ⟨-, -, heq⟩
      · exact heq ▸ he
      · exact (OrderedMap.mem_eraseFirst.mp (heq ▸ he)).1
    rw [hentries, OrderedMap.mem_insertEntry] at he
    exact he.imp_right mem_expire
  have hend : packetEnd packet < 2 ^ 64 := by
    have hrange : ¬ packet.startFrame.toNat > 2 ^ 64 - 1 - packet.frameCount.toNat := fun hlate =>
      haccepted.valid (.inr (.inr (.inr (.inr (.inr (.inr hlate))))))
    have hcount := packet.frameCount.toNat_lt
    unfold packetEnd
    omega
  constructor
  · rcases hpackets with ⟨hsize, -, heq⟩ | ⟨-, -, heq⟩
    · exact heq ▸ hsize
    · have hsize : packets.size ≤ maximumPackets + 1 := by
        rw [OrderedMap.size, hentries, OrderedMap.length_insertEntry]
        exact Nat.succ_le_succ ((size_expire_le history.buffer).trans h.size_le)
      rw [heq, OrderedMap.size, OrderedMap.eraseFirst, List.length_tail]
      exact Nat.sub_le_of_le_add hsize
  · intro e he
    rcases hmem e he with rfl | hold
    · rfl
    · exact h.key_eq e hold
  · intro e he
    rcases hmem e he with rfl | hold
    · exact hend
    · exact h.end_lt e hold
  · intro e he
    refine ⟨incomingFormat packet, haccepted.format_eq, ?_⟩
    rcases hmem e he with rfl | hold
    · exact bufferedPacket_samples haccepted.payload_eq
    · obtain ⟨format, hformat, hsamples⟩ := h.samples_eq e hold
      rw [← haccepted.formerFormat format hformat]
      exact hsamples
  · have hformat := h.format_eq
    have hformer := haccepted.formerFormat
    dsimp only
    rw [haccepted.format_eq]
    cases hinserted : history.inserted with
    | nil => rfl
    | cons first rest =>
        rw [hinserted] at hformat
        rw [← hformer (incomingFormat first) (by rw [hformat]; rfl)]
        rfl
  · dsimp only
    rw [haccepted.latestEndFrame_eq, h.latestEndFrame_eq, List.map_append, List.foldl_append]
    rfl
  · exact haccepted.latestEndFrameAtomic_eq

theorem Represents.perform (h : Represents history) (operation : Operation) :
    Represents (history.perform operation) := by
  cases operation with
  | push arrival packet =>
      unfold History.perform
      dsimp only
      rcases push_cases history.buffer arrival packet with hrejected | haccepted
      · have hreturned := hrejected.returned_ne
        have hrepresents := h.rejected hrejected
        split
        · exact absurd ‹_› hreturned
        · rw [List.append_nil]
          exact hrepresents
      · have hrepresents := h.accepted haccepted
        rw [haccepted.returned_eq]
        exact hrepresents
  | readFrames startFrame outputSize retainLookahead locked =>
      unfold History.perform
      dsimp only
      rcases history.buffer.readFrames_cases startFrame.toNat outputSize retainLookahead locked with
        heq | ⟨position, heq⟩ <;> rw [heq]
      · exact h
      · exact { h with }

theorem represents_after (operations : List Operation) :
    Represents (History.after operations) := by
  have hrun (history : History) (h : Represents history) :
      Represents (operations.foldl History.perform history) := by
    induction operations generalizing history with
    | nil => exact h
    | cons operation operations ih => exact ih _ (h.perform operation)
  exact hrun {} represents_empty

end Preservation

/-- A buffer that represents its packets never copies outside of them or of the span. -/
theorem Represents.readCopies_inside {history : History} (h : Represents history)
    (startFrame outputSize : Nat) :
    ∀ range ∈ history.buffer.readCopies startFrame outputSize, range.Inside outputSize := by
  unfold readCopies
  cases hformat : history.buffer.format with
  | none =>
      intro range hrange
      cases hrange
  | some format =>
      dsimp only
      by_cases haligned : outputSize % format.channelCount.toNat = 0
      · rw [if_neg (not_not.mpr haligned)]
        apply copyRanges_inside (Nat.mod_le _ _) haligned
        intro e he
        obtain ⟨held, hheld, hsamples⟩ := h.samples_eq e he
        rw [hformat] at hheld
        cases hheld
        exact hsamples
      · rw [if_pos haligned]
        intro range hrange
        cases hrange

/-- After every sequence of calls the buffer represents what was inserted. A read
fills its span by copies over silence, and each one stays inside its packet and
inside the span. -/
theorem representation_kept (operations : List Operation) :
    Represents (History.after operations) ∧
      ∀ (startFrame : UInt64) (outputSize : Nat) (retainLookahead : Bool),
        ((History.after operations).buffer.readFrames startFrame.toNat outputSize retainLookahead
            true).interleavedOutput =
          ((History.after operations).buffer.readCopies startFrame.toNat outputSize).foldl
            (fun output range => copyInto range.packet.samples range.sourceOffset range.count output
              range.destinationOffset) (List.replicate outputSize 0) ∧
        ∀ range ∈ (History.after operations).buffer.readCopies startFrame.toNat outputSize,
          range.Inside outputSize := by
  have hrepresents := represents_after operations
  refine ⟨hrepresents, ?_⟩
  intro startFrame outputSize retainLookahead
  constructor
  · exact readFrames_output _ startFrame.toNat outputSize retainLookahead
  · exact hrepresents.readCopies_inside startFrame.toNat outputSize

end SyncAudio.JitterBuffer
