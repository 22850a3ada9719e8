import Mathlib.Algebra.Order.Ring.Rat
import Mathlib.Algebra.Order.Group.Unbundled.Abs
import SyncAudio.Core.PacketSerializer
import SyncAudio.Lib.OrderedMap
import SyncAudio.Lib.Word

/-!
# The jitter buffer

`push` runs on the receiver thread and `readFrames` in the audio callback.
Each is one step, because both hold the mutex for their whole effect; a failed
`try_lock` of `readFrames` is an input.

## Implementation notes

Frame positions are natural numbers. `push` rejects a packet whose end would
not fit 64 bits, so packet ends are plain sums, while the end of a read wraps
as in the code. The adaptive delay, kept in doubles there, is kept in rational
numbers here; no other result of the buffer depends on it.
-/

namespace SyncAudio

open Word

/-- Interleaved samples of a PCM payload. -/
def decodePcm : List UInt8 → List Int16
  | low :: high :: rest => (low.toUInt16 ||| (high.toUInt16 <<< 8)).toInt16 :: decodePcm rest
  | _ => []

structure BufferedPacket where
  startFrame : Nat
  presentationTimestampNanoseconds : Nat
  frameCount : Nat
  samples : List Int16
  deriving DecidableEq, Repr

namespace BufferedPacket

def endFrame (p : BufferedPacket) : Nat := p.startFrame + p.frameCount

/-- The packet holds the samples of frame `f`. -/
def Covers (p : BufferedPacket) (f : Nat) : Prop := p.startFrame ≤ f ∧ f < p.endFrame

instance (p : BufferedPacket) (f : Nat) : Decidable (p.Covers f) :=
  inferInstanceAs (Decidable (_ ∧ _))

end BufferedPacket

structure BufferedPacketTiming where
  startFrame : Nat
  presentationTimestampNanoseconds : Nat
  deriving DecidableEq, Repr

structure JitterBufferFormat where
  sampleRate : UInt32
  channelCount : UInt16
  deriving DecidableEq, Repr

structure JitterBufferMetrics where
  networkJitterMilliseconds : ℚ := 0
  targetBufferMilliseconds : ℚ := 180
  latePackets : Nat := 0
  duplicatePackets : Nat := 0
  overflowPackets : Nat := 0

structure JitterBuffer where
  packets : OrderedMap Nat BufferedPacket := .empty
  format : Option JitterBufferFormat := none
  latestEndFrame : Nat := 0
  latestEndFrameAtomic : Nat := 0
  latestReadFrame : Nat := 0
  lastPresentationNanoseconds : Nat := 0
  lastArrival : Int := 0
  metrics : JitterBufferMetrics := {}

namespace JitterBuffer

/-- What `push` returns or throws, the buffer it leaves, and the key it erased
for overflow, if any. -/
structure PushResult where
  returned : Except String Bool
  evicted : Option Nat := none
  buffer : JitterBuffer

/-- What `readFrames` returns or throws, the span it filled and the buffer it leaves. -/
structure ReadResult where
  returned : Except String Nat
  interleavedOutput : List Int16
  buffer : JitterBuffer

def bufferedPacket (packet : AudioPacket) : BufferedPacket where
  startFrame := packet.startFrame.toNat
  presentationTimestampNanoseconds := packet.presentationTimestampNanoseconds.toNat
  frameCount := packet.frameCount.toNat
  samples := decodePcm packet.pcmPayload

/-- The format of a packet, as `push` compares it. -/
def incomingFormat (packet : AudioPacket) : JitterBufferFormat :=
  ⟨packet.sampleRate, packet.channelCount⟩

/-- The format and range check at the top of `push`. -/
def InvalidFormat (packet : AudioPacket) : Prop :=
  packet.sampleFormat ≠ .pcmS16LittleEndian ∨
    packet.sampleRate < 8000 ∨ packet.sampleRate > 192000 ∨
    packet.channelCount = 0 ∨ packet.channelCount > 2 ∨ packet.frameCount = 0 ∨
    packet.startFrame.toNat > 2 ^ 64 - 1 - packet.frameCount.toNat

instance (packet : AudioPacket) : Decidable (InvalidFormat packet) :=
  inferInstanceAs (Decidable (_ ∨ _))

/-- Erase the leading packets that end at or before the last read. -/
def expire (jb : JitterBuffer) : JitterBuffer :=
  { jb with
    packets := jb.packets.eraseWhile fun e => e.2.endFrame ≤ jb.latestReadFrame }

/-- The moving average of the arrival deviation and the delay it asks for. -/
def updateDelay (metrics : JitterBufferMetrics) (arrivalGap streamGap : ℚ) :
    JitterBufferMetrics :=
  let deviation := |arrivalGap - streamGap|
  let jitter := metrics.networkJitterMilliseconds +
    (deviation - metrics.networkJitterMilliseconds) / 16
  let desired := max 120 (min 350 (150 + 4 * jitter))
  { metrics with
    networkJitterMilliseconds := jitter
    targetBufferMilliseconds :=
      if desired > metrics.targetBufferMilliseconds then
        min desired (metrics.targetBufferMilliseconds + 10)
      else max desired (metrics.targetBufferMilliseconds - 1 / 4) }

/-- The bookkeeping of an inserted packet, before the overflow check. -/
def recordArrival (jb : JitterBuffer) (arrival : Int) (packet : AudioPacket) : JitterBuffer :=
  let presentation := packet.presentationTimestampNanoseconds.toNat
  let latestEndFrame := max jb.latestEndFrame (packet.startFrame.toNat + packet.frameCount.toNat)
  { jb with
    metrics :=
      if jb.lastPresentationNanoseconds ≠ 0 ∧ presentation > jb.lastPresentationNanoseconds then
        updateDelay jb.metrics ((arrival - jb.lastArrival : Int) / 1000000)
          ((presentation - jb.lastPresentationNanoseconds : Nat) / 1000000)
      else jb.metrics
    lastArrival := arrival
    lastPresentationNanoseconds := presentation
    latestEndFrame := latestEndFrame
    latestEndFrameAtomic := latestEndFrame }

def maximumPackets : Nat := 1024

/-- Erase the packet with the smallest start frame when there are too many. -/
def evictOverflow (jb : JitterBuffer) : PushResult :=
  if jb.packets.size > maximumPackets then
    { returned := .ok true
      evicted := jb.packets.entries.head?.map Prod.fst
      buffer := { jb with
        packets := jb.packets.eraseFirst
        metrics := { jb.metrics with overflowPackets := jb.metrics.overflowPackets + 1 } } }
  else { returned := .ok true, buffer := jb }

/-- `push`, from the point where it holds the mutex. -/
def pushLocked (jb : JitterBuffer) (arrival : Int) (packet : AudioPacket) : PushResult :=
  let jb := jb.expire
  if packet.startFrame.toNat + packet.frameCount.toNat ≤ jb.latestReadFrame then
    { returned := .ok false
      buffer := { jb with
        metrics := { jb.metrics with latePackets := jb.metrics.latePackets + 1 } } }
  else if jb.format.any fun format => format ≠ incomingFormat packet then
    { returned := .error "Audio stream format changed within a session", buffer := jb }
  else
    let jb := { jb with format := some (incomingFormat packet) }
    match jb.packets.tryEmplace packet.startFrame.toNat (bufferedPacket packet) with
    | none =>
        { returned := .ok false
          buffer := { jb with
            metrics := { jb.metrics with duplicatePackets := jb.metrics.duplicatePackets + 1 } } }
    | some packets => ({ jb with packets }.recordArrival arrival packet).evictOverflow

def push (jb : JitterBuffer) (arrival : Int) (packet : AudioPacket) : PushResult :=
  if InvalidFormat packet then
    { returned := .error "Jitter buffer received an invalid audio format", buffer := jb }
  else if packet.pcmPayload.length ≠ packet.frameCount.toNat * packet.channelCount.toNat * 2 then
    { returned := .error "Jitter buffer PCM size does not match frames", buffer := jb }
  else jb.pushLocked arrival packet

/-- `std::copy_n` from `source` at `sourceOffset` into `output` at `destinationOffset`. -/
def copyInto (source : List Int16) (sourceOffset count : Nat) (output : List Int16)
    (destinationOffset : Nat) : List Int16 :=
  output.take destinationOffset ++ (source.drop sourceOffset).take count ++
    output.drop (destinationOffset + count)

/-- The loop of `readFrames`: skip packets that end before the read, stop at
the first that starts behind it, copy the rest. -/
def copyPackets (channels startFrame requestedEnd : Nat) :
    List (Nat × BufferedPacket) → Nat → List Int16 → Nat × List Int16
  | [], copiedFrames, output => (copiedFrames, output)
  | (_, p) :: rest, copiedFrames, output =>
      if p.endFrame ≤ startFrame then
        copyPackets channels startFrame requestedEnd rest copiedFrames output
      else if p.startFrame ≥ requestedEnd then (copiedFrames, output)
      else
        let copyStart := max startFrame p.startFrame
        let copyEnd := min requestedEnd p.endFrame
        if copyStart < copyEnd then
          let frames := copyEnd - copyStart
          copyPackets channels startFrame requestedEnd rest ((copiedFrames + frames) % 2 ^ 32)
            (copyInto p.samples ((copyStart - p.startFrame) * channels) (frames * channels) output
              ((copyStart - startFrame) * channels))
        else copyPackets channels startFrame requestedEnd rest copiedFrames output

/-- `readFrames` over a span of `outputSize` samples; `locked` is the outcome of
`try_lock`. -/
def readFrames (jb : JitterBuffer) (startFrame outputSize : Nat) (retainLookahead locked : Bool) :
    ReadResult :=
  let silence := List.replicate outputSize 0
  if !locked then { returned := .ok 0, interleavedOutput := silence, buffer := jb }
  else
    match jb.format with
    | none => { returned := .ok 0, interleavedOutput := silence, buffer := jb }
    | some format =>
        let channels := format.channelCount.toNat
        if outputSize % channels ≠ 0 then
          { returned := .error "Jitter buffer output is not frame aligned"
            interleavedOutput := silence
            buffer := jb }
        else
          let requestedFrames := outputSize / channels
          let requestedEnd := add64 startFrame requestedFrames
          let lookahead := if retainLookahead then min 2 requestedFrames else 0
          let copied := copyPackets channels startFrame requestedEnd jb.packets.entries 0 silence
          { returned := .ok copied.1
            interleavedOutput := copied.2
            buffer := { jb with
              latestReadFrame := max jb.latestReadFrame (sub64 requestedEnd lookahead) } }

/-- The timing of the first packet that has not been read and is presented at
`hostTimestampNanoseconds` or later. -/
def firstPacketAtOrAfter (jb : JitterBuffer) (hostTimestampNanoseconds : Nat) :
    Option BufferedPacketTiming :=
  (jb.packets.entries.find? fun e =>
    jb.latestReadFrame < e.2.endFrame &&
      hostTimestampNanoseconds ≤ e.2.presentationTimestampNanoseconds).map fun e =>
    ⟨e.1, e.2.presentationTimestampNanoseconds⟩

section Copy

variable {source output : List Int16} {sourceOffset count destinationOffset : Nat}

@[simp] theorem copyInto_length (hsource : sourceOffset + count ≤ source.length)
    (hdestination : destinationOffset + count ≤ output.length) :
    (copyInto source sourceOffset count output destinationOffset).length = output.length := by
  simp only [copyInto, List.length_append, List.length_take, List.length_drop]
  omega

theorem copyInto_getElem? (hsource : sourceOffset + count ≤ source.length)
    (hdestination : destinationOffset + count ≤ output.length) (j : Nat) :
    (copyInto source sourceOffset count output destinationOffset)[j]? =
      if destinationOffset ≤ j ∧ j < destinationOffset + count then
        source[sourceOffset + (j - destinationOffset)]?
      else output[j]? := by
  have htake : (output.take destinationOffset).length = destinationOffset := by
    rw [List.length_take]
    omega
  have hmiddle : ((source.drop sourceOffset).take count).length = count := by
    rw [List.length_take, List.length_drop]
    omega
  unfold copyInto
  rw [List.append_assoc, List.getElem?_append, htake]
  split_ifs with hlow hrange hrange
  · omega
  · exact List.getElem?_take_of_lt hlow
  · rw [List.getElem?_append_left (by omega), List.getElem?_take_of_lt (by omega),
      List.getElem?_drop]
  · rw [List.getElem?_append_right (by omega), hmiddle, List.getElem?_drop]
    congr 1
    omega

/-- A sample index lies behind a frame boundary if its frame does. -/
theorem mul_le_index_iff {channels a i c : Nat} (hc : c < channels) :
    a * channels ≤ i * channels + c ↔ a ≤ i := by
  have hdiv : (i * channels + c) / channels = i := by
    rw [Nat.mul_comm, Nat.mul_add_div (by omega), Nat.div_eq_of_lt hc, Nat.add_zero]
  rw [← Nat.le_div_iff_mul_le (by omega), hdiv]

/-- The entry whose copy of frame `f` is the last one `readFrames` makes. -/
def lastCovering (entries : List (Nat × BufferedPacket)) (f : Nat) : Option BufferedPacket :=
  ((entries.filter fun e => e.2.Covers f).getLast?).map Prod.snd

theorem lastCovering_cons_of_not {e : Nat × BufferedPacket} {f : Nat} (h : ¬ e.2.Covers f)
    (entries : List (Nat × BufferedPacket)) :
    lastCovering (e :: entries) f = lastCovering entries f := by
  simp only [lastCovering, List.filter_cons, decide_eq_true_eq, if_neg h]

theorem lastCovering_cons {e : Nat × BufferedPacket} {f : Nat} (h : e.2.Covers f)
    (entries : List (Nat × BufferedPacket)) :
    lastCovering (e :: entries) f = some ((lastCovering entries f).getD e.2) := by
  simp only [lastCovering, List.filter_cons, decide_eq_true_eq, if_pos h, List.getLast?_cons]
  cases (entries.filter fun e => e.2.Covers f).getLast? <;> rfl

theorem lastCovering_some {entries : List (Nat × BufferedPacket)} {f : Nat} {p : BufferedPacket}
    (h : lastCovering entries f = some p) : ∃ e ∈ entries, e.2 = p ∧ p.Covers f := by
  obtain ⟨e, he, rfl⟩ := Option.map_eq_some_iff.mp h
  have hmem := List.mem_filter.mp (List.mem_of_getLast? he)
  exact ⟨e, hmem.1, rfl, of_decide_eq_true hmem.2⟩

theorem lastCovering_isSome {entries : List (Nat × BufferedPacket)} {f : Nat}
    {e : Nat × BufferedPacket} (he : e ∈ entries) (hcovers : e.2.Covers f) :
    ∃ p, lastCovering entries f = some p := by
  have hmem : e ∈ entries.filter fun e => e.2.Covers f :=
    List.mem_filter.mpr ⟨he, decide_eq_true hcovers⟩
  exact ⟨_, by rw [lastCovering, List.getLast?_eq_some_getLast (List.ne_nil_of_mem hmem)]; rfl⟩

theorem copyPacket_source_le {channels startFrame requestedEnd : Nat} {p : BufferedPacket}
    (hp : p.samples.length = p.frameCount * channels)
    (hcopy : max startFrame p.startFrame < min requestedEnd p.endFrame) :
    (max startFrame p.startFrame - p.startFrame) * channels +
      (min requestedEnd p.endFrame - max startFrame p.startFrame) * channels ≤
        p.samples.length := by
  have hend : p.endFrame = p.startFrame + p.frameCount := rfl
  rw [hp, ← Nat.add_mul]
  exact Nat.mul_le_mul_right _ (by omega)

theorem copyPacket_destination_le {channels startFrame requestedEnd : Nat} {p : BufferedPacket}
    (houtput : output.length = (requestedEnd - startFrame) * channels)
    (hcopy : max startFrame p.startFrame < min requestedEnd p.endFrame) :
    (max startFrame p.startFrame - startFrame) * channels +
      (min requestedEnd p.endFrame - max startFrame p.startFrame) * channels ≤
        output.length := by
  rw [houtput, ← Nat.add_mul]
  exact Nat.mul_le_mul_right _ (by omega)

/-- One copy of `readFrames`: it replaces exactly the frames the packet covers. -/
theorem copyPacket_getElem? {channels startFrame requestedEnd : Nat} {p : BufferedPacket}
    (hp : p.samples.length = p.frameCount * channels)
    (houtput : output.length = (requestedEnd - startFrame) * channels)
    (hcopy : max startFrame p.startFrame < min requestedEnd p.endFrame)
    {i c : Nat} (hi : startFrame + i < requestedEnd) (hc : c < channels) :
    (copyInto p.samples ((max startFrame p.startFrame - p.startFrame) * channels)
        ((min requestedEnd p.endFrame - max startFrame p.startFrame) * channels) output
        ((max startFrame p.startFrame - startFrame) * channels))[i * channels + c]? =
      if p.Covers (startFrame + i) then
        p.samples[(startFrame + i - p.startFrame) * channels + c]?
      else output[i * channels + c]? := by
  have hend : p.endFrame = p.startFrame + p.frameCount := rfl
  rw [copyInto_getElem? (copyPacket_source_le hp hcopy) (copyPacket_destination_le houtput hcopy)]
  have hrange : ((max startFrame p.startFrame - startFrame) * channels ≤ i * channels + c ∧
      i * channels + c < (max startFrame p.startFrame - startFrame) * channels +
        (min requestedEnd p.endFrame - max startFrame p.startFrame) * channels) ↔
      p.Covers (startFrame + i) := by
    rw [← Nat.add_mul, mul_le_index_iff hc, ← not_le, mul_le_index_iff hc]
    unfold BufferedPacket.Covers
    omega
  by_cases hcovers : p.Covers (startFrame + i)
  · rw [if_pos (hrange.mpr hcovers), if_pos hcovers]
    unfold BufferedPacket.Covers at hcovers
    have hsplit : (startFrame + i - p.startFrame) * channels =
        (max startFrame p.startFrame - p.startFrame) * channels +
          (i - (max startFrame p.startFrame - startFrame)) * channels := by
      rw [← Nat.add_mul]
      congr 1
      omega
    have hle := (hrange.mpr hcovers).1
    have hsub := Nat.sub_mul i (max startFrame p.startFrame - startFrame) channels
    have hmul := Nat.mul_le_mul_right channels
      (show max startFrame p.startFrame - startFrame ≤ i by omega)
    congr 1
    omega
  · rw [if_neg fun h => hcovers (hrange.mp h), if_neg hcovers]

/-- After the loop a frame holds the samples of the covering packet that starts
last, and what the span held before when no packet covers it. -/
theorem copyPackets_getElem? {channels startFrame requestedEnd : Nat}
    {entries : List (Nat × BufferedPacket)} {copiedFrames : Nat} {output : List Int16}
    (hsorted : entries.Pairwise fun a b => a.1 < b.1)
    (hkey : ∀ e ∈ entries, e.1 = e.2.startFrame)
    (hsamples : ∀ e ∈ entries, e.2.samples.length = e.2.frameCount * channels)
    (houtput : output.length = (requestedEnd - startFrame) * channels)
    {i c : Nat} (hi : startFrame + i < requestedEnd) (hc : c < channels) :
    (copyPackets channels startFrame requestedEnd entries copiedFrames output).2[i * channels + c]? =
      match lastCovering entries (startFrame + i) with
      | some p => p.samples[(startFrame + i - p.startFrame) * channels + c]?
      | none => output[i * channels + c]? := by
  induction entries generalizing copiedFrames output with
  | nil => rfl
  | cons e entries ih =>
      obtain ⟨key, p⟩ := e
      obtain ⟨hfirst, hrest⟩ := List.pairwise_cons.mp hsorted
      have hp : p.samples.length = p.frameCount * channels := hsamples _ List.mem_cons_self
      have hkeyp : key = p.startFrame := hkey _ List.mem_cons_self
      have hkey' : ∀ e ∈ entries, e.1 = e.2.startFrame := fun e he =>
        hkey e (List.mem_cons_of_mem _ he)
      have hsamples' : ∀ e ∈ entries, e.2.samples.length = e.2.frameCount * channels :=
        fun e he => hsamples e (List.mem_cons_of_mem _ he)
      unfold copyPackets
      dsimp only
      split_ifs with hskip hbreak hcopy
      · rw [lastCovering_cons_of_not fun h : p.Covers _ => by unfold BufferedPacket.Covers at h; omega]
        exact ih hrest hkey' hsamples' houtput
      · have hnone : lastCovering ((key, p) :: entries) (startFrame + i) = none := by
          rw [Option.eq_none_iff_forall_ne_some]
          intro q hq
          obtain ⟨e, he, rfl, hcovers⟩ := lastCovering_some hq
          unfold BufferedPacket.Covers at hcovers
          rcases List.mem_cons.mp he with rfl | he
          · dsimp only at hcovers
            omega
          · have := hfirst e he
            have := hkey' e he
            omega
        rw [hnone]
      · have hlength := copyInto_length (copyPacket_source_le hp hcopy)
          (copyPacket_destination_le houtput hcopy)
        rw [ih hrest hkey' hsamples' (hlength.trans houtput),
          copyPacket_getElem? hp houtput hcopy hi hc]
        by_cases hcovers : p.Covers (startFrame + i)
        · rw [lastCovering_cons (e := (key, p)) hcovers, if_pos hcovers]
          cases lastCovering entries (startFrame + i) <;> rfl
        · rw [lastCovering_cons_of_not (e := (key, p)) hcovers, if_neg hcovers]
      · rw [lastCovering_cons_of_not fun h : p.Covers _ => by unfold BufferedPacket.Covers at h; omega]
        exact ih hrest hkey' hsamples' houtput

end Copy

section Read

/-- A read changes nothing but the position of the last read. -/
theorem readFrames_cases (jb : JitterBuffer) (startFrame outputSize : Nat)
    (retainLookahead locked : Bool) :
    (jb.readFrames startFrame outputSize retainLookahead locked).buffer = jb ∨
      ∃ position, (jb.readFrames startFrame outputSize retainLookahead locked).buffer =
        { jb with latestReadFrame := max jb.latestReadFrame position } := by
  unfold readFrames
  cases locked with
  | false => exact .inl rfl
  | true =>
      cases jb.format with
      | none => exact .inl rfl
      | some format =>
          dsimp only
          by_cases haligned : outputSize % format.channelCount.toNat = 0
          · rw [if_neg (not_not.mpr haligned)]
            exact .inr ⟨_, rfl⟩
          · rw [if_pos haligned]
            exact .inl rfl

@[simp] theorem readFrames_packets (jb : JitterBuffer) (startFrame outputSize : Nat)
    (retainLookahead locked : Bool) :
    (jb.readFrames startFrame outputSize retainLookahead locked).buffer.packets = jb.packets := by
  rcases jb.readFrames_cases startFrame outputSize retainLookahead locked with h | ⟨_, h⟩ <;>
    rw [h]

@[simp] theorem readFrames_format (jb : JitterBuffer) (startFrame outputSize : Nat)
    (retainLookahead locked : Bool) :
    (jb.readFrames startFrame outputSize retainLookahead locked).buffer.format = jb.format := by
  rcases jb.readFrames_cases startFrame outputSize retainLookahead locked with h | ⟨_, h⟩ <;>
    rw [h]

theorem latestReadFrame_le_readFrames (jb : JitterBuffer) (startFrame outputSize : Nat)
    (retainLookahead locked : Bool) :
    jb.latestReadFrame ≤
      (jb.readFrames startFrame outputSize retainLookahead locked).buffer.latestReadFrame := by
  rcases jb.readFrames_cases startFrame outputSize retainLookahead locked with h | ⟨_, h⟩ <;>
    rw [h]
  exact Nat.le_max_left _ _

end Read

section Push

/-- What `push` does when it does not insert: it may still drop expired packets
and, on a duplicate, write the format it has just compared with that of the
packets it holds. -/
structure Rejected (jb : JitterBuffer) (packet : AudioPacket) (result : PushResult) : Prop where
  returned_ne : result.returned ≠ .ok true
  evicted_eq : result.evicted = none
  packets_eq : result.buffer.packets = jb.packets ∨ result.buffer.packets = jb.expire.packets
  latestReadFrame_eq : result.buffer.latestReadFrame = jb.latestReadFrame
  format_eq : result.buffer.format = jb.format ∨
    result.buffer.format = some (incomingFormat packet) ∧
      (∀ format ∈ jb.format, format = incomingFormat packet) ∧ jb.packets.entries ≠ []
  latestEndFrame_eq : result.buffer.latestEndFrame = jb.latestEndFrame
  latestEndFrameAtomic_eq : result.buffer.latestEndFrameAtomic = jb.latestEndFrameAtomic

/-- What `push` does when it inserts. -/
structure Accepted (jb : JitterBuffer) (packet : AudioPacket) (result : PushResult) : Prop where
  returned_eq : result.returned = .ok true
  valid : ¬ InvalidFormat packet
  payload_eq : packet.pcmPayload.length =
    packet.frameCount.toNat * packet.channelCount.toNat * 2
  latestReadFrame_eq : result.buffer.latestReadFrame = jb.latestReadFrame
  format_eq : result.buffer.format = some (incomingFormat packet)
  formerFormat : ∀ format ∈ jb.format, format = incomingFormat packet
  inserted : ∃ packets,
    jb.expire.packets.tryEmplace packet.startFrame.toNat (bufferedPacket packet) = some packets ∧
      (packets.size ≤ maximumPackets ∧ result.evicted = none ∧ result.buffer.packets = packets ∨
        maximumPackets < packets.size ∧ result.evicted = packets.entries.head?.map Prod.fst ∧
          result.buffer.packets = packets.eraseFirst)
  latestEndFrame_eq : result.buffer.latestEndFrame =
    max jb.latestEndFrame (packet.startFrame.toNat + packet.frameCount.toNat)
  latestEndFrameAtomic_eq : result.buffer.latestEndFrameAtomic = result.buffer.latestEndFrame
  overflowPackets_eq : result.buffer.metrics.overflowPackets =
    jb.metrics.overflowPackets + result.evicted.toList.length

variable {jb : JitterBuffer} {arrival : Int} {packet : AudioPacket}

/-- The overflow check keeps the buffer or erases its first packet. -/
theorem evictOverflow_cases (jb : JitterBuffer) :
    jb.packets.size ≤ maximumPackets ∧
        jb.evictOverflow = { returned := .ok true, buffer := jb } ∨
      maximumPackets < jb.packets.size ∧ ∃ first, jb.packets.entries.head? = some first ∧
        jb.evictOverflow = {
          returned := .ok true
          evicted := some first.1
          buffer := { jb with
            packets := jb.packets.eraseFirst
            metrics := { jb.metrics with
              overflowPackets := jb.metrics.overflowPackets + 1 } } } := by
  unfold evictOverflow
  by_cases hsize : jb.packets.size > maximumPackets
  · refine .inr ⟨hsize, ?_⟩
    rw [if_pos hsize]
    cases hentries : jb.packets.entries with
    | nil =>
        rw [OrderedMap.size, hentries] at hsize
        exact absurd hsize (Nat.not_lt_zero _)
    | cons first rest => exact ⟨first, rfl, rfl⟩
  · rw [if_neg hsize]
    exact .inl ⟨Nat.le_of_not_lt hsize, rfl⟩

theorem evictOverflow_returned (jb : JitterBuffer) : jb.evictOverflow.returned = .ok true := by
  rcases evictOverflow_cases jb with ⟨-, heq⟩ | ⟨-, _, -, heq⟩
  · rw [heq]
  · rw [heq]

theorem overflowPackets_recordArrival (jb : JitterBuffer) (arrival : Int) (packet : AudioPacket) :
    (jb.recordArrival arrival packet).metrics.overflowPackets = jb.metrics.overflowPackets := by
  unfold recordArrival updateDelay
  dsimp only
  split_ifs <;> rfl

theorem pushLocked_cases (hvalid : ¬ InvalidFormat packet)
    (hpayload : packet.pcmPayload.length =
      packet.frameCount.toNat * packet.channelCount.toNat * 2) :
    Rejected jb packet (jb.pushLocked arrival packet) ∨
      Accepted jb packet (jb.pushLocked arrival packet) := by
  unfold pushLocked
  dsimp only
  by_cases hlate : packet.startFrame.toNat + packet.frameCount.toNat ≤ jb.expire.latestReadFrame
  · rw [if_pos hlate]
    exact .inl ⟨by simp, rfl, .inr rfl, rfl, .inl rfl, rfl, rfl⟩
  rw [if_neg hlate]
  by_cases hformat : (jb.expire.format.any fun format => format ≠ incomingFormat packet) = true
  · rw [if_pos hformat]
    exact .inl ⟨by simp, rfl, .inr rfl, rfl, .inl rfl, rfl, rfl⟩
  rw [if_neg hformat]
  have hformer : ∀ format ∈ jb.format, format = incomingFormat packet := by
    intro format hmem
    rw [Option.mem_def] at hmem
    simpa [expire, hmem] using hformat
  cases hinsert : jb.expire.packets.tryEmplace packet.startFrame.toNat (bufferedPacket packet) with
  | none =>
      have hheld : jb.packets.entries ≠ [] := by
        obtain ⟨e, he, -⟩ := OrderedMap.tryEmplace_none hinsert
        exact List.ne_nil_of_mem (OrderedMap.mem_of_mem_eraseWhile he)
      exact .inl ⟨by simp, rfl, .inr rfl, rfl, .inr ⟨rfl, hformer, hheld⟩, rfl, rfl⟩
  | some packets =>
      refine .inr ?_
      dsimp only
      have hoverflow := overflowPackets_recordArrival
        { jb.expire with format := some (incomingFormat packet), packets } arrival packet
      rcases evictOverflow_cases (recordArrival { jb.expire with
          format := some (incomingFormat packet), packets } arrival packet) with
        ⟨hsize, heq⟩ | ⟨hsize, first, hfirst, heq⟩ <;> rw [heq]
      · exact ⟨rfl, hvalid, hpayload, rfl, rfl, hformer, ⟨packets, hinsert, .inl ⟨hsize, rfl, rfl⟩⟩,
          rfl, rfl, hoverflow⟩
      · exact ⟨rfl, hvalid, hpayload, rfl, rfl, hformer,
          ⟨packets, hinsert, .inr ⟨hsize, congrArg (Option.map Prod.fst) hfirst.symm, rfl⟩⟩,
          rfl, rfl, congrArg (· + 1) hoverflow⟩

/-- Everything `push` can do. -/
theorem push_cases (jb : JitterBuffer) (arrival : Int) (packet : AudioPacket) :
    Rejected jb packet (jb.push arrival packet) ∨ Accepted jb packet (jb.push arrival packet) := by
  unfold push
  by_cases hvalid : InvalidFormat packet
  · rw [if_pos hvalid]
    exact .inl ⟨by simp, rfl, .inl rfl, rfl, .inl rfl, rfl, rfl⟩
  rw [if_neg hvalid]
  by_cases hpayload : packet.pcmPayload.length =
      packet.frameCount.toNat * packet.channelCount.toNat * 2
  · rw [if_neg (not_not.mpr hpayload)]
    exact pushLocked_cases hvalid hpayload
  · rw [if_pos hpayload]
    exact .inl ⟨by simp, rfl, .inl rfl, rfl, .inl rfl, rfl, rfl⟩

theorem mem_expire {e : Nat × BufferedPacket} (h : e ∈ jb.expire.packets.entries) :
    e ∈ jb.packets.entries :=
  OrderedMap.mem_of_mem_eraseWhile h

/-- Expiry drops only what ends at or before the last read. -/
theorem mem_expire_or {e : Nat × BufferedPacket} (h : e ∈ jb.packets.entries) :
    e ∈ jb.expire.packets.entries ∨ e.2.endFrame ≤ jb.latestReadFrame := by
  by_cases hend : e.2.endFrame ≤ jb.latestReadFrame
  · exact .inr hend
  · exact .inl (OrderedMap.mem_eraseWhile_of_not h (decide_eq_false hend))

@[simp] theorem push_latestReadFrame (jb : JitterBuffer) (arrival : Int) (packet : AudioPacket) :
    (jb.push arrival packet).buffer.latestReadFrame = jb.latestReadFrame := by
  rcases push_cases jb arrival packet with h | h
  · exact h.latestReadFrame_eq
  · exact h.latestReadFrame_eq

/-- `push` leaves the format alone or sets the one of the packet, and sets it
when it inserts. -/
theorem push_format (jb : JitterBuffer) (arrival : Int) (packet : AudioPacket) :
    ((jb.push arrival packet).buffer.format = jb.format ∨
        (jb.push arrival packet).buffer.format = some (incomingFormat packet)) ∧
      ((jb.push arrival packet).returned = .ok true →
        (jb.push arrival packet).buffer.format = some (incomingFormat packet)) := by
  rcases push_cases jb arrival packet with h | h
  · exact ⟨h.format_eq.imp_right (·.1), fun hok => absurd hok h.returned_ne⟩
  · exact ⟨.inr h.format_eq, fun _ => h.format_eq⟩

/-- A held packet was held before or is the one just accepted. -/
theorem mem_push {e : Nat × BufferedPacket}
    (he : e ∈ (jb.push arrival packet).buffer.packets.entries) :
    e ∈ jb.packets.entries ∨ (jb.push arrival packet).returned = .ok true ∧
      e = (packet.startFrame.toNat, bufferedPacket packet) := by
  rcases push_cases jb arrival packet with h | h
  · rcases h.packets_eq with heq | heq
    · exact .inl (heq ▸ he)
    · exact .inl (mem_expire (heq ▸ he))
  · obtain ⟨packets, hinsert, hpackets⟩ := h.inserted
    have hmem : e ∈ packets.entries := by
      rcases hpackets with ⟨-, -, heq⟩ | ⟨-, -, heq⟩
      · exact heq ▸ he
      · exact (OrderedMap.mem_eraseFirst.mp (heq ▸ he)).1
    rw [(OrderedMap.tryEmplace_some hinsert).2, OrderedMap.mem_insertEntry] at hmem
    rcases hmem with rfl | hmem
    · exact .inr ⟨h.returned_eq, rfl⟩
    · exact .inl (mem_expire hmem)

/-- An entry that was in the map after the insertion is held, unless it is the
one that was evicted. -/
theorem Accepted.mem_or_evicted {result : PushResult} {e : Nat × BufferedPacket}
    (h : Accepted jb packet result)
    (he : e = (packet.startFrame.toNat, bufferedPacket packet) ∨
      e ∈ jb.expire.packets.entries) :
    e ∈ result.buffer.packets.entries ∨ result.evicted = some e.1 := by
  obtain ⟨packets, hinsert, hpackets⟩ := h.inserted
  have hmem : e ∈ packets.entries := by
    rw [(OrderedMap.tryEmplace_some hinsert).2, OrderedMap.mem_insertEntry]
    exact he
  rcases hpackets with ⟨-, -, heq⟩ | ⟨-, hevicted, heq⟩
  · exact .inl (heq ▸ hmem)
  · by_cases hfirst : packets.entries.head? = some e
    · exact .inr (by rw [hevicted, hfirst]; rfl)
    · exact .inl (heq ▸ OrderedMap.mem_eraseFirst.mpr ⟨hmem, hfirst⟩)

/-- A held packet stays, expires or is evicted. -/
theorem mem_push_of_mem (arrival : Int) (packet : AudioPacket) {e : Nat × BufferedPacket}
    (he : e ∈ jb.packets.entries) :
    e ∈ (jb.push arrival packet).buffer.packets.entries ∨
      e.2.endFrame ≤ jb.latestReadFrame ∨ (jb.push arrival packet).evicted = some e.1 := by
  rcases mem_expire_or he with hexpire | hend
  · rcases push_cases jb arrival packet with h | h
    · rcases h.packets_eq with heq | heq
      · exact .inl (heq ▸ he)
      · exact .inl (heq ▸ hexpire)
    · rcases h.mem_or_evicted (.inr hexpire) with hmem | hevicted
      · exact .inl hmem
      · exact .inr (.inr hevicted)
  · exact .inr (.inl hend)

/-- An accepted packet is held, unless it was evicted at once. -/
theorem mem_push_of_accepted (h : (jb.push arrival packet).returned = .ok true) :
    (packet.startFrame.toNat, bufferedPacket packet) ∈
        (jb.push arrival packet).buffer.packets.entries ∨
      (jb.push arrival packet).evicted = some packet.startFrame.toNat := by
  rcases push_cases jb arrival packet with hrejected | haccepted
  · exact absurd h hrejected.returned_ne
  · exact haccepted.mem_or_evicted (.inl rfl)

end Push

end JitterBuffer

end SyncAudio
