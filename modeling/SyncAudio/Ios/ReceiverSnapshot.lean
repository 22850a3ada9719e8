import Mathlib.Data.Finset.Card
import SyncAudio.Core.PacketSerializer

/-!
# Packet statistics of the phone

`StreamAccumulator.record` decides which packets of the expected stream reach
the player: a packet whose sequence number was seen among the last 4,096 is a
duplicate.

## Implementation notes

The arrival times, and the jitter and the rates computed from them, do not
decide anything here and are left out. The counters are natural numbers.
-/

namespace SyncAudio

structure ReceiverSnapshot where
  lastSequenceNumber : Option UInt32 := none
  packetsReceived : Nat := 0
  packetsLost : Nat := 0
  sampleRate : Option UInt32 := none
  channels : Option UInt16 := none

structure StreamAccumulator where
  snapshot : ReceiverSnapshot := {}
  sessionID : Option UInt64 := none
  streamID : Option UInt32 := none
  highestSequence : Option UInt32 := none
  missingSequences : Finset UInt32 := ∅
  recentSequences : Finset UInt32 := ∅
  recentSequenceOrder : List UInt32 := []
  packets : List AudioPacket := []
  bufferedFrames : Nat := 0
  bufferedBytes : Nat := 0

namespace StreamAccumulator

/-- A packet of another stream starts the statistics again. -/
def expectPacket (accumulator : StreamAccumulator) (packet : AudioPacket) : StreamAccumulator :=
  if accumulator.sessionID ≠ some packet.sessionId ∨
      accumulator.streamID ≠ some packet.streamId then
    { sessionID := some packet.sessionId, streamID := some packet.streamId }
  else accumulator

/-- The packet does not have the format of the stream. -/
def formatChanged (accumulator : StreamAccumulator) (packet : AudioPacket) : Bool :=
  accumulator.snapshot.sampleRate.any fun sampleRate =>
    sampleRate ≠ packet.sampleRate ∨ accumulator.snapshot.channels ≠ some packet.channelCount

/-- Enter a sequence number into the duplicate filter, which holds 4,096 of them. -/
def remember (accumulator : StreamAccumulator) (sequenceNumber : UInt32) : StreamAccumulator :=
  let recentSequences := insert sequenceNumber accumulator.recentSequences
  let recentSequenceOrder := accumulator.recentSequenceOrder ++ [sequenceNumber]
  match recentSequenceOrder with
  | oldest :: rest =>
      if rest.length + 1 > 4096 then
        { accumulator with
          recentSequences := recentSequences.erase oldest, recentSequenceOrder := rest }
      else { accumulator with recentSequences, recentSequenceOrder }
  | [] => { accumulator with recentSequences, recentSequenceOrder }

/-- The sequence numbers of a gap of `gap` packets behind `highest`. -/
def addMissing (missing : Finset UInt32) (highest : UInt32) (gap : Nat) : Finset UInt32 :=
  (List.range gap).foldl (fun set i => insert (highest + 1 + UInt32.ofNat i) set) missing

/-- Loss accounting; nothing if the sequence number is the highest one. -/
def advance (accumulator : StreamAccumulator) (sequenceNumber : UInt32) :
    Option StreamAccumulator :=
  match accumulator.highestSequence with
  | none => some { accumulator with highestSequence := some sequenceNumber }
  | some highest =>
      let delta := (sequenceNumber - highest).toInt32.toInt
      if delta = 0 then none
      else if 0 < delta then
        let gap := (delta - 1).toNat
        some { accumulator with
          snapshot := { accumulator.snapshot with
            packetsLost := accumulator.snapshot.packetsLost + gap }
          missingSequences :=
            if gap ≤ 4096 ∧ accumulator.missingSequences.card + gap ≤ 4096 then
              addMissing accumulator.missingSequences highest gap
            else accumulator.missingSequences
          highestSequence := some sequenceNumber }
      else if sequenceNumber ∈ accumulator.missingSequences then
        some { accumulator with
          snapshot := { accumulator.snapshot with
            packetsLost := accumulator.snapshot.packetsLost - 1 }
          missingSequences := accumulator.missingSequences.erase sequenceNumber }
      else some accumulator

/-- The history keeps half a second and 512 KiB. -/
def trim (sampleRate : UInt32) : List AudioPacket → Nat → Nat → List AudioPacket × Nat × Nat
  | [], frames, bytes => ([], frames, bytes)
  | packet :: packets, frames, bytes =>
      if frames > sampleRate.toNat / 2 ∨ bytes > 512 * 1024 then
        trim sampleRate packets (frames - packet.frameCount.toNat)
          (bytes - packet.pcmPayload.length)
      else (packet :: packets, frames, bytes)

/-- The packet is counted and enters the history. -/
def store (accumulator : StreamAccumulator) (packet : AudioPacket) : StreamAccumulator :=
  let (packets, bufferedFrames, bufferedBytes) :=
    trim packet.sampleRate (accumulator.packets ++ [packet])
      (accumulator.bufferedFrames + packet.frameCount.toNat)
      (accumulator.bufferedBytes + packet.pcmPayload.length)
  { accumulator with
    snapshot := { accumulator.snapshot with
      lastSequenceNumber := some packet.sequenceNumber
      packetsReceived := accumulator.snapshot.packetsReceived + 1
      sampleRate := some packet.sampleRate
      channels := some packet.channelCount }
    packets, bufferedFrames, bufferedBytes }

/-- `record`: whether the packet is accepted, and the statistics behind it. -/
def record (accumulator : StreamAccumulator) (packet : AudioPacket) : Bool × StreamAccumulator :=
  let accumulator := accumulator.expectPacket packet
  if accumulator.formatChanged packet then (false, accumulator)
  else if packet.sequenceNumber ∈ accumulator.recentSequences then (false, accumulator)
  else
    let accumulator := accumulator.remember packet.sequenceNumber
    match accumulator.advance packet.sequenceNumber with
    | none => (false, accumulator)
    | some accumulator => (true, accumulator.store packet)

/-- The answers of `record` to a list of packets. -/
def recordAll : StreamAccumulator → List AudioPacket → List Bool
  | _, [] => []
  | accumulator, packet :: packets =>
      let (accepted, accumulator) := accumulator.record packet
      accepted :: recordAll accumulator packets

/-- What all packets of one stream have in common. -/
structure Stream where
  sessionId : UInt64
  streamId : UInt32
  sampleRate : UInt32
  channelCount : UInt16

/-- Packet number `number` of a stream. -/
structure Stream.Numbered (stream : Stream) (number : Nat) (packet : AudioPacket) : Prop where
  sessionId_eq : packet.sessionId = stream.sessionId
  streamId_eq : packet.streamId = stream.streamId
  sampleRate_eq : packet.sampleRate = stream.sampleRate
  channelCount_eq : packet.channelCount = stream.channelCount
  sequenceNumber_eq : packet.sequenceNumber = UInt32.ofNat number

/-- The last accepted packet of the stream was number `number`, and no later one
is known. -/
structure Follows (stream : Stream) (number : Nat) (accumulator : StreamAccumulator) : Prop where
  sessionID_eq : accumulator.sessionID = some stream.sessionId
  streamID_eq : accumulator.streamID = some stream.streamId
  sampleRate_eq : accumulator.snapshot.sampleRate = some stream.sampleRate
  channels_eq : accumulator.snapshot.channels = some stream.channelCount
  highest_eq : accumulator.highestSequence = some (UInt32.ofNat number)
  recent_le : ∀ sequenceNumber ∈ accumulator.recentSequences, sequenceNumber.toNat ≤ number

variable {stream : Stream} {accumulator : StreamAccumulator} {packet : AudioPacket} {number : Nat}

theorem mem_remember {sequenceNumber other : UInt32}
    (h : other ∈ (accumulator.remember sequenceNumber).recentSequences) :
    other = sequenceNumber ∨ other ∈ accumulator.recentSequences := by
  unfold remember at h
  dsimp only at h
  split at h
  · split_ifs at h
    · exact Finset.mem_insert.mp (Finset.mem_of_mem_erase h)
    · exact Finset.mem_insert.mp h
  · exact Finset.mem_insert.mp h

/-- The duplicate filter is all that `remember` touches. -/
theorem remember_frame (accumulator : StreamAccumulator) (sequenceNumber : UInt32) :
    (accumulator.remember sequenceNumber).sessionID = accumulator.sessionID ∧
      (accumulator.remember sequenceNumber).streamID = accumulator.streamID ∧
      (accumulator.remember sequenceNumber).highestSequence = accumulator.highestSequence := by
  unfold remember
  dsimp only
  split
  · split_ifs <;> exact ⟨rfl, rfl, rfl⟩
  · exact ⟨rfl, rfl, rfl⟩

/-- The accounting keeps the stream and the duplicate filter. -/
theorem advance_frame {sequenceNumber : UInt32} {advanced : StreamAccumulator}
    (h : accumulator.advance sequenceNumber = some advanced) :
    advanced.sessionID = accumulator.sessionID ∧ advanced.streamID = accumulator.streamID ∧
      advanced.recentSequences = accumulator.recentSequences := by
  unfold advance at h
  dsimp only at h
  split at h
  · cases h
    exact ⟨rfl, rfl, rfl⟩
  · split_ifs at h <;> cases h <;> exact ⟨rfl, rfl, rfl⟩

/-- The successor of the highest sequence number advances the stream. -/
theorem advance_next {sequenceNumber : UInt32}
    (h : accumulator.highestSequence = none ∨
      ∃ highest, accumulator.highestSequence = some highest ∧ sequenceNumber = highest + 1) :
    ∃ advanced, accumulator.advance sequenceNumber = some advanced ∧
      advanced.highestSequence = some sequenceNumber := by
  unfold advance
  rcases h with hnone | ⟨highest, hhighest, rfl⟩
  · rw [hnone]
    exact ⟨_, rfl, rfl⟩
  · rw [hhighest]
    have hdelta : (highest + 1 - highest).toInt32.toInt = 1 := by
      rw [UInt32.add_comm, UInt32.add_sub_cancel]
      rfl
    dsimp only
    rw [hdelta, if_neg (by decide), if_pos (by decide)]
    exact ⟨_, rfl, rfl⟩

/-- An accepted packet is the last one of its stream. -/
theorem follows_store {advanced : StreamAccumulator} (hpacket : stream.Numbered number packet)
    (hsession : advanced.sessionID = some stream.sessionId)
    (hstream : advanced.streamID = some stream.streamId)
    (hhighest : advanced.highestSequence = some packet.sequenceNumber)
    (hrecent : ∀ sequenceNumber ∈ advanced.recentSequences, sequenceNumber.toNat ≤ number) :
    Follows stream number (advanced.store packet) where
  sessionID_eq := hsession
  streamID_eq := hstream
  sampleRate_eq := congrArg some hpacket.sampleRate_eq
  channels_eq := congrArg some hpacket.channelCount_eq
  highest_eq := hhighest.trans (congrArg some hpacket.sequenceNumber_eq)
  recent_le := hrecent

/-- A packet of the right format is accepted if its number is new and next in order. -/
theorem record_next (hpacket : stream.Numbered number packet)
    (hsession : (accumulator.expectPacket packet).sessionID = some stream.sessionId)
    (hstream : (accumulator.expectPacket packet).streamID = some stream.streamId)
    (hformat : (accumulator.expectPacket packet).formatChanged packet = false)
    (hrecent : ∀ sequenceNumber ∈ (accumulator.expectPacket packet).recentSequences,
      sequenceNumber.toNat < number)
    (hnext : (accumulator.expectPacket packet).highestSequence = none ∨
      ∃ highest, (accumulator.expectPacket packet).highestSequence = some highest ∧
        packet.sequenceNumber = highest + 1)
    (hnumber : number < 2 ^ 32) :
    ∃ later, accumulator.record packet = (true, later) ∧ Follows stream number later := by
  have htoNat : packet.sequenceNumber.toNat = number := by
    rw [hpacket.sequenceNumber_eq]
    exact UInt32.toNat_ofNat_of_lt' hnumber
  have hnew : packet.sequenceNumber ∉ (accumulator.expectPacket packet).recentSequences :=
    fun hmem => by
      have := hrecent _ hmem
      omega
  obtain ⟨hsession', hstream', hhighest'⟩ :=
    remember_frame (accumulator.expectPacket packet) packet.sequenceNumber
  obtain ⟨advanced, hadvance, hhighest⟩ := advance_next
    (show ((accumulator.expectPacket packet).remember packet.sequenceNumber).highestSequence = none ∨ _ by
      rw [hhighest']; exact hnext)
  obtain ⟨hsession'', hstream'', hrecent''⟩ := advance_frame hadvance
  refine ⟨advanced.store packet, ?_, follows_store hpacket ?_ ?_ hhighest ?_⟩
  · unfold record
    dsimp only
    rw [hformat, if_neg Bool.false_ne_true, if_neg hnew, hadvance]
  · rw [hsession'', hsession', hsession]
  · rw [hstream'', hstream', hstream]
  · intro sequenceNumber hmem
    rw [hrecent''] at hmem
    rcases mem_remember hmem with rfl | hold
    · exact Nat.le_of_eq htoNat
    · exact Nat.le_of_lt (hrecent _ hold)

/-- A fresh receiver accepts any packet. -/
theorem record_first (hpacket : stream.Numbered number packet) (hnumber : number < 2 ^ 32) :
    ∃ later, ({} : StreamAccumulator).record packet = (true, later) ∧
      Follows stream number later := by
  have hexpect : ({} : StreamAccumulator).expectPacket packet =
      { sessionID := some packet.sessionId, streamID := some packet.streamId } :=
    if_pos (.inl (by simp))
  refine record_next hpacket ?_ ?_ ?_ ?_ ?_ hnumber <;> rw [hexpect]
  · exact congrArg some hpacket.sessionId_eq
  · exact congrArg some hpacket.streamId_eq
  · rfl
  · exact fun _ hmem => absurd hmem (Finset.notMem_empty _)
  · exact .inl rfl

/-- The next packet of the stream is accepted. -/
theorem record_follows (hs : Follows stream number accumulator)
    (hpacket : stream.Numbered (number + 1) packet) (hnumber : number + 1 < 2 ^ 32) :
    ∃ later, accumulator.record packet = (true, later) ∧ Follows stream (number + 1) later := by
  have hexpect : accumulator.expectPacket packet = accumulator := by
    refine if_neg ?_
    rw [hs.sessionID_eq, hs.streamID_eq, hpacket.sessionId_eq, hpacket.streamId_eq]
    simp
  refine record_next hpacket ?_ ?_ ?_ ?_ ?_ hnumber <;> rw [hexpect]
  · exact hs.sessionID_eq
  · exact hs.streamID_eq
  · simp [formatChanged, hs.sampleRate_eq, hs.channels_eq, hpacket.sampleRate_eq,
      hpacket.channelCount_eq]
  · exact fun _ hmem => Nat.lt_succ_of_le (hs.recent_le _ hmem)
  · refine .inr ⟨_, hs.highest_eq, ?_⟩
    rw [hpacket.sequenceNumber_eq, UInt32.ofNat_add]
    rfl

/-- Consecutive packets of a stream, the first of them number `number`. -/
def Consecutive (stream : Stream) : Nat → List AudioPacket → Prop
  | _, [] => True
  | number, packet :: packets =>
      stream.Numbered number packet ∧ Consecutive stream (number + 1) packets

theorem recordAll_follows {packets : List AudioPacket} (hs : Follows stream number accumulator)
    (hpackets : Consecutive stream (number + 1) packets)
    (hnumber : number + packets.length < 2 ^ 32) :
    ∀ accepted ∈ accumulator.recordAll packets, accepted = true := by
  induction packets generalizing accumulator number with
  | nil => simp [recordAll]
  | cons packet packets ih =>
      rw [List.length_cons] at hnumber
      obtain ⟨later, hrecord, hfollows⟩ := record_follows hs hpackets.1 (by omega)
      rw [recordAll, hrecord]
      intro accepted haccepted
      rcases List.mem_cons.mp haccepted with rfl | hrest
      · rfl
      · exact ih hfollows hpackets.2 (by omega) accepted hrest

/-- A fresh receiver accepts every one of a list of consecutive packets. -/
theorem recordAll_consecutive {packets : List AudioPacket}
    (hpackets : Consecutive stream number packets) (hnumber : number + packets.length ≤ 2 ^ 32) :
    ∀ accepted ∈ ({} : StreamAccumulator).recordAll packets, accepted = true := by
  cases packets with
  | nil => simp [recordAll]
  | cons packet packets =>
      rw [List.length_cons] at hnumber
      obtain ⟨later, hrecord, hfollows⟩ := record_first hpackets.1 (by omega)
      rw [recordAll, hrecord]
      intro accepted haccepted
      rcases List.mem_cons.mp haccepted with rfl | hrest
      · rfl
      · exact recordAll_follows hfollows hpackets.2 (by omega) accepted hrest

end StreamAccumulator

end SyncAudio
