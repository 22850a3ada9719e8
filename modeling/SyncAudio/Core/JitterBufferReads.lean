import Mathlib.Algebra.Group.Action.Defs
import SyncAudio.Core.JitterBufferInvariant
import SyncAudio.Lib.Coverage

/-!
# What a read returns

Packets may overlap. The span of a read then carries, in each frame, the samples
of the covering packet that starts last, because the loop copies in the order of
the start frames. The number returned adds up the copies, so it counts a frame
once for every packet that covers it.
-/

namespace SyncAudio.JitterBuffer

open Word

/-- The held packet that starts last among those that cover a frame. -/
structure LastCovering (jb : JitterBuffer) (f : Nat) (p : BufferedPacket) : Prop where
  held : (p.startFrame, p) ∈ jb.packets.entries
  covers : p.Covers f
  last : ∀ e ∈ jb.packets.entries, e.2.Covers f → e.2.startFrame ≤ p.startFrame

def entryStart (e : Nat × BufferedPacket) : Nat := e.2.startFrame

def entryEnd (e : Nat × BufferedPacket) : Nat := e.2.endFrame

/-- The number of held packets that cover a frame. -/
def coverage (jb : JitterBuffer) (f : Nat) : Nat :=
  Coverage.multiplicity entryStart entryEnd jb.packets.entries f

/-- The number of requested frames that a held packet covers. -/
def coveredFrames (jb : JitterBuffer) (startFrame requestedFrames : Nat) : Nat :=
  Coverage.covered entryStart entryEnd jb.packets.entries startFrame requestedFrames

section Provenance

variable {history : History}

/-- Every held packet was inserted. -/
def HoldsInserted (history : History) : Prop :=
  ∀ e ∈ history.buffer.packets.entries, ∃ packet ∈ history.inserted,
    e = (packet.startFrame.toNat, bufferedPacket packet)

theorem HoldsInserted.perform (h : HoldsInserted history) (operation : Operation) :
    HoldsInserted (history.perform operation) := by
  intro e he
  cases operation with
  | push arrival packet =>
      rcases mem_push he with hold | ⟨hreturned, rfl⟩
      · obtain ⟨old, hmem, rfl⟩ := h e hold
        exact ⟨old, List.mem_append_left _ hmem, rfl⟩
      · refine ⟨packet, List.mem_append_right _ ?_, rfl⟩
        rw [hreturned]
        exact List.mem_singleton_self packet
  | readFrames startFrame outputSize retainLookahead locked =>
      unfold History.perform at he
      rw [readFrames_packets] at he
      exact h e he

theorem holdsInserted_after (operations : List Operation) :
    HoldsInserted (History.after operations) := by
  have hrun (history : History) (h : HoldsInserted history) :
      HoldsInserted (operations.foldl History.perform history) := by
    induction operations generalizing history with
    | nil => exact h
    | cons operation operations ih => exact ih _ (h.perform operation)
  apply hrun
  exact nofun

theorem foldl_max_ge (xs : List Nat) (first : Nat) :
    first ≤ xs.foldl max first ∧ ∀ x ∈ xs, x ≤ xs.foldl max first := by
  induction xs generalizing first with
  | nil => exact ⟨le_refl first, nofun⟩
  | cons y xs ih =>
      obtain ⟨hfirst, hrest⟩ := ih (max first y)
      constructor
      · exact (le_max_left first y).trans hfirst
      · intro x hx
        rcases List.mem_cons.mp hx with rfl | hx
        · exact (le_max_right first x).trans hfirst
        · exact hrest x hx

/-- No held packet reaches behind the end of the stream. -/
theorem endFrame_le_latestEndFrame (operations : List Operation) :
    ∀ e ∈ (History.after operations).buffer.packets.entries,
      e.2.endFrame ≤ (History.after operations).buffer.latestEndFrame := by
  intro e he
  obtain ⟨packet, hmem, rfl⟩ := holdsInserted_after operations e he
  rw [(represents_after operations).latestEndFrame_eq]
  exact (foldl_max_ge _ 0).2 _ (List.mem_map_of_mem hmem)

end Provenance

section Samples

variable {jb : JitterBuffer} {f : Nat} {p : BufferedPacket}

/-- The packet that is copied last for a frame starts last. -/
theorem lastCovering_of_some (hkey : ∀ e ∈ jb.packets.entries, e.1 = e.2.startFrame)
    (h : lastCovering jb.packets.entries f = some p) : jb.LastCovering f p := by
  obtain ⟨e, he, rfl⟩ := Option.map_eq_some_iff.mp h
  obtain ⟨front, hfront⟩ := List.getLast?_eq_some_iff.mp he
  obtain ⟨hmem, hcovers⟩ := List.mem_filter.mp (List.mem_of_getLast? he)
  constructor
  · rw [← hkey e hmem]
    exact hmem
  · exact of_decide_eq_true hcovers
  · intro other hother hover
    have hsorted := jb.packets.sorted.filter fun e => decide (e.2.Covers f)
    have hfiltered : other ∈ front ++ [e] := by
      rw [← hfront]
      exact List.mem_filter.mpr ⟨hother, decide_eq_true hover⟩
    rw [← hkey other hother, ← hkey e hmem]
    rw [hfront] at hsorted
    rcases List.mem_append.mp hfiltered with hbefore | hsame
    · exact ((List.pairwise_append.mp hsorted).2.2 other hbefore e
        (List.mem_singleton_self e)).le
    · rw [List.mem_singleton.mp hsame]

theorem not_covers_of_none (h : lastCovering jb.packets.entries f = none) :
    ∀ e ∈ jb.packets.entries, ¬ e.2.Covers f := by
  intro e he hcovers
  obtain ⟨p, hp⟩ := lastCovering_isSome he hcovers
  rw [h] at hp
  cases hp

theorem length_foldl_copyInto {ranges : List CopyRange} {output : List Int16}
    (hinside : ∀ range ∈ ranges, range.Inside output.length) :
    (ranges.foldl (fun output range => copyInto range.packet.samples range.sourceOffset
      range.count output range.destinationOffset) output).length = output.length := by
  induction ranges generalizing output with
  | nil => rfl
  | cons range ranges ih =>
      obtain ⟨hsource, hdestination⟩ := hinside range List.mem_cons_self
      have hlength := copyInto_length hsource hdestination
      rw [List.foldl_cons, ih, hlength]
      intro other hother
      rw [hlength]
      exact hinside other (List.mem_cons_of_mem _ hother)

/-- A read fills exactly its span. -/
theorem Represents.length_output {history : History} (h : Represents history)
    (startFrame outputSize : Nat) (retainLookahead locked : Bool) :
    (history.buffer.readFrames startFrame outputSize retainLookahead
      locked).interleavedOutput.length = outputSize := by
  cases locked with
  | false => exact List.length_replicate
  | true =>
      rw [readFrames_output, length_foldl_copyInto]
      · exact List.length_replicate
      · rw [List.length_replicate]
        exact h.readCopies_inside startFrame outputSize

end Samples

/-- An aligned read with the lock, when the buffer has a format. -/
theorem readFrames_of_format {jb : JitterBuffer} {format : JitterBufferFormat}
    (hformat : jb.format = some format) {startFrame outputSize : Nat}
    (haligned : outputSize % format.channelCount.toNat = 0) (retainLookahead : Bool)
    (hend : startFrame + outputSize / format.channelCount.toNat < 2 ^ 64) :
    let copied := copyPackets format.channelCount.toNat startFrame
      (startFrame + outputSize / format.channelCount.toNat) jb.packets.entries 0
      (List.replicate outputSize 0)
    (jb.readFrames startFrame outputSize retainLookahead true).returned = .ok copied.1 ∧
      (jb.readFrames startFrame outputSize retainLookahead true).interleavedOutput = copied.2 := by
  unfold readFrames
  dsimp only [Bool.not_true, Bool.false_eq_true, if_false]
  rw [hformat]
  dsimp only
  rw [if_neg (not_not.mpr haligned), add64_of_lt hend]
  exact ⟨rfl, rfl⟩

/-- After every sequence of pushes and reads, a frame of an aligned read with the lock
carries the samples of the covering packet that starts last, and silence if no held
packet covers it. Every held packet is one that was inserted. -/
theorem read_content (operations : List Operation) (startFrame : UInt64) {outputSize channels : Nat}
    (retainLookahead : Bool)
    (hchannels : ∀ format ∈ (History.after operations).buffer.format,
      format.channelCount.toNat = channels)
    (haligned : outputSize % channels = 0)
    (hend : startFrame.toNat + outputSize / channels < 2 ^ 64) :
    let jb := (History.after operations).buffer
    let output := (jb.readFrames startFrame.toNat outputSize retainLookahead true).interleavedOutput
    output.length = outputSize ∧
      (∀ e ∈ jb.packets.entries, ∃ packet ∈ (History.after operations).inserted,
        e = (packet.startFrame.toNat, bufferedPacket packet)) ∧
      ∀ i < outputSize / channels, ∀ c < channels,
        (∃ p, jb.LastCovering (startFrame.toNat + i) p ∧
          output[i * channels + c]? =
            p.samples[(startFrame.toNat + i - p.startFrame) * channels + c]?) ∨
        (∀ e ∈ jb.packets.entries, ¬ e.2.Covers (startFrame.toNat + i)) ∧
          output[i * channels + c]? = some 0 := by
  have hrepresents := represents_after operations
  intro jb output
  refine ⟨hrepresents.length_output _ _ _ _, holdsInserted_after operations, ?_⟩
  intro i hi c hc
  have hindex : i * channels + c < outputSize := by
    calc i * channels + c
        < (i + 1) * channels := by rw [Nat.add_mul]; omega
      _ ≤ outputSize / channels * channels := Nat.mul_le_mul_right _ hi
      _ ≤ outputSize := Nat.div_mul_le_self _ _
  cases hformat : jb.format with
  | none =>
      right
      constructor
      · intro e he
        obtain ⟨format, hsome, -⟩ := hrepresents.samples_eq e he
        rw [hformat] at hsome
        cases hsome
      · have hsilence : output = List.replicate outputSize 0 := by
          change (readFrames jb _ _ _ _).interleavedOutput = _
          unfold readFrames
          rw [hformat]
          rfl
        rw [hsilence, List.getElem?_replicate, if_pos hindex]
  | some format =>
      obtain rfl := hchannels format hformat
      have hsamples : ∀ e ∈ jb.packets.entries,
          e.2.samples.length = e.2.frameCount * format.channelCount.toNat := by
        intro e he
        obtain ⟨held, hheld, hlength⟩ := hrepresents.samples_eq e he
        rw [hformat] at hheld
        cases hheld
        exact hlength
      have hsilence : (List.replicate outputSize (0 : Int16)).length =
          (startFrame.toNat + outputSize / format.channelCount.toNat - startFrame.toNat) *
            format.channelCount.toNat := by
        rw [List.length_replicate, Nat.add_sub_cancel_left,
          Nat.div_mul_cancel (Nat.dvd_of_mod_eq_zero haligned)]
      have hread := (readFrames_of_format hformat haligned retainLookahead hend).2
      change output = _ at hread
      rw [hread, copyPackets_getElem? jb.packets.sorted hrepresents.key_eq hsamples hsilence
        (Nat.add_lt_add_left hi _) hc]
      cases hlast : lastCovering jb.packets.entries (startFrame.toNat + i) with
      | some p => exact .inl ⟨p, lastCovering_of_some hrepresents.key_eq hlast, rfl⟩
      | none =>
          right
          constructor
          · exact not_covers_of_none hlast
          · dsimp only
            rw [List.getElem?_replicate, if_pos hindex]

/-- Two packets of four frames, the second of which starts inside the first. -/
def overlappingPackets : List AudioPacket :=
  [{ sampleRate := 48000, channelCount := 1, startFrame := 0, frameCount := 4,
     pcmPayload := [1, 0, 2, 0, 3, 0, 4, 0] },
   { sampleRate := 48000, channelCount := 1, startFrame := 2, frameCount := 4,
     pcmPayload := [5, 0, 6, 0, 7, 0, 8, 0] }]

def overlappingPushes : List Operation := overlappingPackets.map (Operation.push 0)

theorem read_content_overlapping :
    ((History.after overlappingPushes).buffer.readFrames (0 : UInt64).toNat 8 true
        true).interleavedOutput = [1, 2, 5, 6, 7, 8, 0, 0] ∧
      ∀ i < 8, ∀ c < 1,
        (∃ p, (History.after overlappingPushes).buffer.LastCovering ((0 : UInt64).toNat + i) p ∧
          [1, 2, 5, 6, 7, 8, 0, 0][i * 1 + c]? =
            p.samples[((0 : UInt64).toNat + i - p.startFrame) * 1 + c]?) ∨
        (∀ e ∈ (History.after overlappingPushes).buffer.packets.entries,
            ¬ e.2.Covers ((0 : UInt64).toNat + i)) ∧
          [1, 2, 5, 6, 7, 8, 0, 0][i * 1 + c]? = some (0 : Int16) := by
  constructor
  · rfl
  · have hcontent := @read_content overlappingPushes 0 8 1 true (by rintro _ ⟨⟩; rfl) rfl (by decide)
    exact hcontent.2.2

section Count

variable {channels startFrame requestedFrames : Nat}

/-- The loop adds up the overlaps of the packets with the request. -/
theorem copyPackets_copied {entries : List (Nat × BufferedPacket)}
    (hsorted : entries.Pairwise fun a b => a.1 < b.1)
    (hkey : ∀ e ∈ entries, e.1 = e.2.startFrame) {copiedFrames : Nat} (output : List Int16)
    (hfit : copiedFrames +
      (entries.map (Coverage.overlap entryStart entryEnd startFrame requestedFrames)).sum < 2 ^ 32) :
    (copyPackets channels startFrame (startFrame + requestedFrames) entries copiedFrames output).1 =
      copiedFrames +
        (entries.map (Coverage.overlap entryStart entryEnd startFrame requestedFrames)).sum := by
  induction entries generalizing copiedFrames output with
  | nil => rfl
  | cons e entries ih =>
      obtain ⟨key, p⟩ := e
      obtain ⟨hfirst, hrest⟩ := List.pairwise_cons.mp hsorted
      have hkey' : ∀ e ∈ entries, e.1 = e.2.startFrame := fun e he =>
        hkey e (List.mem_cons_of_mem _ he)
      have hkeyp : key = p.startFrame := hkey _ List.mem_cons_self
      have hoverlap : Coverage.overlap entryStart entryEnd startFrame requestedFrames (key, p) =
          min (startFrame + requestedFrames) p.endFrame - max startFrame p.startFrame := rfl
      rw [List.map_cons, List.sum_cons] at hfit ⊢
      unfold copyPackets
      dsimp only
      split_ifs with hskip hbreak hcopy
      · rw [ih hrest hkey' output (by omega)]
        omega
      · have hlater : (entries.map
            (Coverage.overlap entryStart entryEnd startFrame requestedFrames)).sum = 0 := by
          apply List.sum_eq_zero
          intro n hn
          obtain ⟨e, he, rfl⟩ := List.mem_map.mp hn
          have hbehind := hfirst e he
          have hstart := hkey' e he
          have hover : Coverage.overlap entryStart entryEnd startFrame requestedFrames e =
            min (startFrame + requestedFrames) e.2.endFrame - max startFrame e.2.startFrame := rfl
          dsimp only at hbehind
          omega
        dsimp only
        omega
      · have hmod : (copiedFrames + (min (startFrame + requestedFrames) p.endFrame -
            max startFrame p.startFrame)) % 2 ^ 32 = copiedFrames +
              Coverage.overlap entryStart entryEnd startFrame requestedFrames (key, p) := by
          rw [hoverlap]
          exact Nat.mod_eq_of_lt (by omega)
        rw [hmod, ih hrest hkey' _ (by omega), Nat.add_assoc]
      · rw [ih hrest hkey' output (by omega)]
        omega

/-- The packets are too few and too short for the count to wrap. -/
theorem sum_overlap_lt (operations : List Operation) :
    ((History.after operations).buffer.packets.entries.map
      (Coverage.overlap entryStart entryEnd startFrame requestedFrames)).sum < 2 ^ 32 := by
  have hsize := (represents_after operations).size_le
  have hsum : ((History.after operations).buffer.packets.entries.map
      (Coverage.overlap entryStart entryEnd startFrame requestedFrames)).sum ≤
        (History.after operations).buffer.packets.entries.length * 2 ^ 16 := by
    rw [← smul_eq_mul, ← List.length_map]
    apply List.sum_le_card_nsmul
    intro n hn
    obtain ⟨e, he, rfl⟩ := List.mem_map.mp hn
    obtain ⟨packet, -, rfl⟩ := holdsInserted_after operations e he
    have hcount := packet.frameCount.toNat_lt
    have hend : entryEnd (packet.startFrame.toNat, bufferedPacket packet) =
      packet.startFrame.toNat + packet.frameCount.toNat := rfl
    have hstart : entryStart (packet.startFrame.toNat, bufferedPacket packet) =
      packet.startFrame.toNat := rfl
    unfold Coverage.overlap
    omega
  unfold OrderedMap.size maximumPackets at hsize
  omega

/-- What an aligned read with the lock returns: the overlaps of all held packets. -/
theorem readFrames_returned (operations : List Operation) {outputSize : Nat}
    (retainLookahead : Bool)
    (hchannels : ∀ format ∈ (History.after operations).buffer.format,
      format.channelCount.toNat = channels)
    (haligned : outputSize % channels = 0)
    (hend : startFrame + outputSize / channels < 2 ^ 64) :
    ((History.after operations).buffer.readFrames startFrame outputSize retainLookahead
        true).returned =
      .ok ((History.after operations).buffer.packets.entries.map
        (Coverage.overlap entryStart entryEnd startFrame (outputSize / channels))).sum := by
  have hrepresents := represents_after operations
  cases hformat : (History.after operations).buffer.format with
  | none =>
      have hempty : (History.after operations).buffer.packets.entries = [] := by
        by_contra hheld
        have hsome := hrepresents.format_isSome hheld
        rw [hformat] at hsome
        cases hsome
      unfold readFrames
      rw [hformat, hempty]
      rfl
  | some format =>
      obtain rfl := hchannels format hformat
      rw [(readFrames_of_format hformat haligned retainLookahead hend).1,
        copyPackets_copied (OrderedMap.sorted _) hrepresents.key_eq, Nat.zero_add]
      rw [Nat.zero_add]
      exact sum_overlap_lt operations

end Count

end SyncAudio.JitterBuffer
