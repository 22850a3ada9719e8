import SyncAudio.Ios.ReceiverSnapshot
import SyncAudio.Lib.Checked

/-!
# The books of the packet statistics

`record` and `trim` take unsigned numbers from each other, and Swift stops the
program where a result would be negative. The counters are tied to the sets and
lists beside them, whatever sequence numbers arrive.

## Implementation notes

`recordChecked` and `refreshChecked` are `record` and `refresh` with every unsigned
subtraction checked. Of the arrival statistics they keep the timestamp of the last
packet, from which one of the subtractions is made; the times of arrival decide
nothing.
-/

namespace SyncAudio.StreamAccumulator

open Checked

/-- `advance`, with its subtraction checked. -/
def advanceChecked (accumulator : StreamAccumulator) (sequenceNumber : UInt32) :
    Option (Option StreamAccumulator) :=
  match accumulator.highestSequence with
  | none => some (some { accumulator with highestSequence := some sequenceNumber })
  | some highest =>
      let delta := (sequenceNumber - highest).toInt32.toInt
      if delta = 0 then some none
      else if 0 < delta then some (accumulator.advance sequenceNumber)
      else if sequenceNumber ∈ accumulator.missingSequences then do
        let packetsLost ← minus accumulator.snapshot.packetsLost 1
        some (some { accumulator with
          snapshot := { accumulator.snapshot with packetsLost }
          missingSequences := accumulator.missingSequences.erase sequenceNumber })
      else some (some accumulator)

/-- The loop of `trim`, with its subtractions checked. -/
def trimChecked (sampleRate : UInt32) :
    List AudioPacket → Nat → Nat → Option (List AudioPacket × Nat × Nat)
  | [], frames, bytes => some ([], frames, bytes)
  | packet :: packets, frames, bytes =>
      if frames > sampleRate.toNat / 2 ∨ bytes > 512 * 1024 then do
        let frames ← minus frames packet.frameCount.toNat
        let bytes ← minus bytes packet.pcmPayload.length
        trimChecked sampleRate packets frames bytes
      else some (packet :: packets, frames, bytes)

/-- The time in the stream since the last packet, if the timestamps rise. -/
def streamGap (last : Option UInt64) (packet : AudioPacket) : Option (Option Nat) :=
  match last with
  | none => some none
  | some last =>
      if packet.presentationTimestampNanoseconds > last then do
        let gap ← minus packet.presentationTimestampNanoseconds.toNat last.toNat
        some (some gap)
      else some none

/-- `store`, with the subtractions of its `trim` checked. -/
def storeChecked (accumulator : StreamAccumulator) (packet : AudioPacket) :
    Option StreamAccumulator := do
  let (packets, bufferedFrames, bufferedBytes) ←
    trimChecked packet.sampleRate (accumulator.packets ++ [packet])
      (accumulator.bufferedFrames + packet.frameCount.toNat)
      (accumulator.bufferedBytes + packet.pcmPayload.length)
  some { accumulator with
    snapshot := { accumulator.snapshot with
      lastSequenceNumber := some packet.sequenceNumber
      packetsReceived := accumulator.snapshot.packetsReceived + 1
      sampleRate := some packet.sampleRate
      channels := some packet.channelCount }
    packets, bufferedFrames, bufferedBytes }

/-- The statistics with the timestamp of the last packet. -/
structure Timed where
  accumulator : StreamAccumulator := {}
  lastPresentationNanoseconds : Option UInt64 := none

def recordChecked (timed : Timed) (packet : AudioPacket) : Option (Bool × Timed) :=
  let lastPresentationNanoseconds :=
    if timed.accumulator.sessionID ≠ some packet.sessionId ∨
        timed.accumulator.streamID ≠ some packet.streamId then none
    else timed.lastPresentationNanoseconds
  let accumulator := timed.accumulator.expectPacket packet
  if accumulator.formatChanged packet then
    some (false, { accumulator, lastPresentationNanoseconds })
  else if packet.sequenceNumber ∈ accumulator.recentSequences then
    some (false, { accumulator, lastPresentationNanoseconds })
  else do
    let accumulator := accumulator.remember packet.sequenceNumber
    match ← accumulator.advanceChecked packet.sequenceNumber with
    | none => some (false, { accumulator, lastPresentationNanoseconds })
    | some accumulator => do
        let _ ← streamGap lastPresentationNanoseconds packet
        let accumulator ← accumulator.storeChecked packet
        some (true, {
          accumulator
          lastPresentationNanoseconds := some packet.presentationTimestampNanoseconds })

def refreshChecked (timed : Timed) : Option Timed :=
  match timed.accumulator.snapshot.sampleRate with
  | none => some timed
  | some sampleRate => do
      let (packets, bufferedFrames, bufferedBytes) ← trimChecked sampleRate
        timed.accumulator.packets timed.accumulator.bufferedFrames timed.accumulator.bufferedBytes
      some { timed with
        accumulator := { timed.accumulator with packets, bufferedFrames, bufferedBytes } }

/-- The calls on the statistics. -/
inductive Call where
  | record (packet : AudioPacket)
  | refresh

def Timed.call (timed : Timed) : Call → Option Timed
  | .record packet => (recordChecked timed packet).map Prod.snd
  | .refresh => refreshChecked timed

/-- The statistics after a list of calls, unless a subtraction stops the program. -/
def Timed.calls : Timed → List Call → Option Timed
  | timed, [] => some timed
  | timed, call :: calls => do
      let timed ← timed.call call
      timed.calls calls

def frames (packets : List AudioPacket) : Nat :=
  (packets.map fun packet => packet.frameCount.toNat).sum

def bytes (packets : List AudioPacket) : Nat :=
  (packets.map fun packet => packet.pcmPayload.length).sum

/-- The counters agree with the sets and lists, and these are short. -/
structure Balanced (accumulator : StreamAccumulator) : Prop where
  bufferedFrames_eq : accumulator.bufferedFrames = frames accumulator.packets
  bufferedBytes_eq : accumulator.bufferedBytes = bytes accumulator.packets
  bufferedFrames_le :
    accumulator.bufferedFrames ≤ (accumulator.snapshot.sampleRate.getD 0).toNat / 2
  bufferedBytes_le : accumulator.bufferedBytes ≤ 524288
  recent_eq : accumulator.recentSequences = accumulator.recentSequenceOrder.toFinset
  recent_nodup : accumulator.recentSequenceOrder.Nodup
  recent_le : accumulator.recentSequenceOrder.length ≤ 4096
  missing_le : accumulator.missingSequences.card ≤ 4096
  missing_le_lost : accumulator.missingSequences.card ≤ accumulator.snapshot.packetsLost

variable {accumulator : StreamAccumulator} {packet : AudioPacket} {sequenceNumber : UInt32}

theorem balanced_initial (sessionID : Option UInt64) (streamID : Option UInt32) :
    ({ sessionID, streamID } : StreamAccumulator).Balanced where
  bufferedFrames_eq := rfl
  bufferedBytes_eq := rfl
  bufferedFrames_le := Nat.zero_le _
  bufferedBytes_le := Nat.zero_le _
  recent_eq := rfl
  recent_nodup := List.nodup_nil
  recent_le := Nat.zero_le _
  missing_le := Nat.zero_le _
  missing_le_lost := Nat.zero_le _

theorem Balanced.expectPacket (h : accumulator.Balanced) (packet : AudioPacket) :
    (accumulator.expectPacket packet).Balanced := by
  unfold StreamAccumulator.expectPacket
  split_ifs
  · exact balanced_initial _ _
  · exact h

/-- A new number enters the filter, which gives up its oldest number beyond 4,096. -/
theorem Balanced.remember (h : accumulator.Balanced)
    (hnew : sequenceNumber ∉ accumulator.recentSequences) :
    (accumulator.remember sequenceNumber).Balanced := by
  have hnotMem : sequenceNumber ∉ accumulator.recentSequenceOrder := by
    rw [h.recent_eq, List.mem_toFinset] at hnew
    exact hnew
  have hnodup : (accumulator.recentSequenceOrder ++ [sequenceNumber]).Nodup :=
    List.nodup_append.mpr ⟨h.recent_nodup, List.nodup_singleton _, fun a ha b hb =>
      fun heq => hnotMem (List.mem_singleton.mp hb ▸ heq ▸ ha)⟩
  have hset : insert sequenceNumber accumulator.recentSequences =
      (accumulator.recentSequenceOrder ++ [sequenceNumber]).toFinset := by
    rw [h.recent_eq, List.toFinset_append, List.toFinset_cons, List.toFinset_nil,
      Finset.union_comm]
    rfl
  have hlength : (accumulator.recentSequenceOrder ++ [sequenceNumber]).length ≤ 4097 := by
    have hle := h.recent_le
    rw [List.length_append, List.length_singleton]
    omega
  unfold StreamAccumulator.remember
  rw [hset]
  generalize accumulator.recentSequenceOrder ++ [sequenceNumber] = order at hnodup hlength
  cases order with
  | nil => exact { h with recent_eq := rfl, recent_nodup := hnodup, recent_le := Nat.zero_le _ }
  | cons oldest rest =>
      obtain ⟨holdest, hrest⟩ := List.nodup_cons.mp hnodup
      rw [List.length_cons] at hlength
      dsimp only
      by_cases hfull : rest.length + 1 > 4096
      · have hle : rest.length ≤ 4096 := by omega
        rw [if_pos hfull]
        refine { h with recent_eq := ?_, recent_nodup := hrest, recent_le := hle }
        rw [List.toFinset_cons, Finset.erase_insert]
        exact fun hmem => holdest (List.mem_toFinset.mp hmem)
      · rw [if_neg hfull]
        refine { h with recent_eq := rfl, recent_nodup := hnodup, recent_le := ?_ }
        rw [List.length_cons]
        omega

theorem card_addMissing_le (missing : Finset UInt32) (highest : UInt32) (gap : Nat) :
    (addMissing missing highest gap).card ≤ missing.card + gap := by
  induction gap with
  | zero => exact le_rfl
  | succ gap ih =>
      have hsucc : addMissing missing highest (gap + 1) =
          insert (highest + 1 + UInt32.ofNat gap) (addMissing missing highest gap) := by
        rw [addMissing, List.range_succ, List.foldl_append]
        rfl
      rw [hsucc]
      exact (Finset.card_insert_le _ _).trans (Nat.succ_le_succ ih)

/-- Numbers enter the set of missing ones only as they are counted, and leave it only as they
are taken off the count. -/
theorem Balanced.advance (h : accumulator.Balanced) (sequenceNumber : UInt32) :
    accumulator.advanceChecked sequenceNumber = some (accumulator.advance sequenceNumber) ∧
      ∀ advanced, accumulator.advance sequenceNumber = some advanced → advanced.Balanced := by
  unfold advanceChecked StreamAccumulator.advance
  cases hhighest : accumulator.highestSequence with
  | none =>
      refine ⟨rfl, ?_⟩
      rintro advanced ⟨⟩
      exact { h with }
  | some highest =>
      dsimp only
      by_cases hzero : (sequenceNumber - highest).toInt32.toInt = 0
      · rw [if_pos hzero, if_pos hzero]
        exact ⟨rfl, fun advanced hadvanced => absurd hadvanced (Option.some_ne_none _).symm⟩
      · rw [if_neg hzero, if_neg hzero]
        by_cases hahead : 0 < (sequenceNumber - highest).toInt32.toInt
        · rw [if_pos hahead, if_pos hahead]
          refine ⟨rfl, ?_⟩
          rintro advanced ⟨⟩
          have hmissing := h.missing_le
          have hlost := h.missing_le_lost
          by_cases hroom : ((sequenceNumber - highest).toInt32.toInt - 1).toNat ≤ 4096 ∧
              accumulator.missingSequences.card +
                ((sequenceNumber - highest).toInt32.toInt - 1).toNat ≤ 4096
          · have hcard := card_addMissing_le accumulator.missingSequences highest
              ((sequenceNumber - highest).toInt32.toInt - 1).toNat
            rw [if_pos hroom]
            exact { h with
              missing_le := hcard.trans hroom.2
              missing_le_lost := hcard.trans (Nat.add_le_add_right hlost _) }
          · rw [if_neg hroom]
            exact { h with missing_le_lost := hlost.trans (Nat.le_add_right _ _) }
        · rw [if_neg hahead, if_neg hahead]
          by_cases hmem : sequenceNumber ∈ accumulator.missingSequences
          · have hcard := Finset.card_erase_add_one hmem
            have hmissing := h.missing_le
            have hlost := h.missing_le_lost
            have hpositive : 1 ≤ accumulator.snapshot.packetsLost := by omega
            rw [if_pos hmem, if_pos hmem, minus_of_le hpositive]
            refine ⟨rfl, ?_⟩
            rintro advanced ⟨⟩
            have hfewer : (accumulator.missingSequences.erase sequenceNumber).card ≤ 4096 := by
              omega
            have hcounted : (accumulator.missingSequences.erase sequenceNumber).card ≤
                accumulator.snapshot.packetsLost - 1 := by
              omega
            exact { h with missing_le := hfewer, missing_le_lost := hcounted }
          · rw [if_neg hmem, if_neg hmem]
            refine ⟨rfl, ?_⟩
            rintro advanced ⟨⟩
            exact h

theorem frames_append (packets : List AudioPacket) (packet : AudioPacket) :
    frames (packets ++ [packet]) = frames packets + packet.frameCount.toNat := by
  rw [frames, List.map_append, List.sum_append]
  rfl

theorem bytes_append (packets : List AudioPacket) (packet : AudioPacket) :
    bytes (packets ++ [packet]) = bytes packets + packet.pcmPayload.length := by
  rw [bytes, List.map_append, List.sum_append]
  rfl

/-- The loop of `trim` takes off what it counted, and stops within the bounds. -/
theorem trim_balanced (sampleRate : UInt32) (packets : List AudioPacket) :
    trimChecked sampleRate packets (frames packets) (bytes packets) =
        some (trim sampleRate packets (frames packets) (bytes packets)) ∧
      ∃ kept, trim sampleRate packets (frames packets) (bytes packets) =
          (kept, frames kept, bytes kept) ∧
        frames kept ≤ sampleRate.toNat / 2 ∧ bytes kept ≤ 524288 := by
  induction packets with
  | nil => exact ⟨rfl, [], rfl, Nat.zero_le _, Nat.zero_le _⟩
  | cons packet packets ih =>
      have hframes : frames (packet :: packets) = packet.frameCount.toNat + frames packets := by
        rw [frames, List.map_cons, List.sum_cons]
        rfl
      have hbytes : bytes (packet :: packets) = packet.pcmPayload.length + bytes packets := by
        rw [bytes, List.map_cons, List.sum_cons]
        rfl
      rw [hframes, hbytes, trimChecked, trim]
      by_cases hover : packet.frameCount.toNat + frames packets > sampleRate.toNat / 2 ∨
          packet.pcmPayload.length + bytes packets > 512 * 1024
      · rw [if_pos hover, if_pos hover, minus_of_le (Nat.le_add_right _ _), some_bind,
          minus_of_le (Nat.le_add_right _ _), some_bind, Nat.add_sub_cancel_left,
          Nat.add_sub_cancel_left]
        exact ih
      · rw [if_neg hover, if_neg hover]
        refine ⟨rfl, packet :: packets, ?_, ?_, ?_⟩
        · rw [hframes, hbytes]
        · omega
        · omega

theorem Balanced.store (h : accumulator.Balanced) (packet : AudioPacket) :
    accumulator.storeChecked packet = some (accumulator.store packet) ∧
      (accumulator.store packet).Balanced := by
  obtain ⟨hchecked, kept, htrim, hframes, hbytes⟩ :=
    trim_balanced packet.sampleRate (accumulator.packets ++ [packet])
  rw [frames_append, bytes_append, ← h.bufferedFrames_eq, ← h.bufferedBytes_eq] at hchecked htrim
  unfold storeChecked StreamAccumulator.store
  rw [hchecked, htrim]
  exact ⟨rfl, { h with
    bufferedFrames_eq := rfl
    bufferedBytes_eq := rfl
    bufferedFrames_le := hframes
    bufferedBytes_le := hbytes }⟩

theorem streamGap_isSome (last : Option UInt64) (packet : AudioPacket) :
    ∃ gap, streamGap last packet = some gap := by
  unfold streamGap
  cases last with
  | none => exact ⟨none, rfl⟩
  | some last =>
      dsimp only
      by_cases hlater : packet.presentationTimestampNanoseconds > last
      · have hle : last.toNat ≤ packet.presentationTimestampNanoseconds.toNat :=
          (UInt64.lt_iff_toNat_lt.mp hlater).le
        rw [if_pos hlater, minus_of_le hle]
        exact ⟨_, rfl⟩
      · rw [if_neg hlater]
        exact ⟨none, rfl⟩

/-- No subtraction of `record` goes below zero, and the books stay balanced. -/
theorem Balanced.recordChecked {timed : Timed} (h : timed.accumulator.Balanced)
    (packet : AudioPacket) :
    ∃ later, StreamAccumulator.recordChecked timed packet =
        some ((timed.accumulator.record packet).1, later) ∧
      later.accumulator = (timed.accumulator.record packet).2 ∧ later.accumulator.Balanced := by
  have hexpect := h.expectPacket packet
  unfold StreamAccumulator.recordChecked record
  dsimp only
  by_cases hformat : (timed.accumulator.expectPacket packet).formatChanged packet = true
  · rw [if_pos hformat, if_pos hformat]
    exact ⟨_, rfl, rfl, hexpect⟩
  · rw [if_neg hformat, if_neg hformat]
    by_cases hrecent :
        packet.sequenceNumber ∈ (timed.accumulator.expectPacket packet).recentSequences
    · rw [if_pos hrecent, if_pos hrecent]
      exact ⟨_, rfl, rfl, hexpect⟩
    · rw [if_neg hrecent, if_neg hrecent]
      have hremember := hexpect.remember hrecent
      obtain ⟨hchecked, hadvanced⟩ := hremember.advance packet.sequenceNumber
      rw [hchecked, some_bind]
      cases hadvance : ((timed.accumulator.expectPacket packet).remember
          packet.sequenceNumber).advance packet.sequenceNumber with
      | none => exact ⟨_, rfl, rfl, hremember⟩
      | some advanced =>
          obtain ⟨hstored, hbalanced⟩ := (hadvanced advanced hadvance).store packet
          dsimp only
          obtain ⟨gap, hgap⟩ := streamGap_isSome
            (if timed.accumulator.sessionID ≠ some packet.sessionId ∨
              timed.accumulator.streamID ≠ some packet.streamId then none
            else timed.lastPresentationNanoseconds) packet
          rw [hgap, some_bind, hstored, some_bind]
          exact ⟨_, rfl, rfl, hbalanced⟩

theorem Balanced.refreshChecked {timed : Timed} (h : timed.accumulator.Balanced) :
    ∃ later, StreamAccumulator.refreshChecked timed = some later ∧ later.accumulator.Balanced := by
  unfold StreamAccumulator.refreshChecked
  cases hrate : timed.accumulator.snapshot.sampleRate with
  | none => exact ⟨timed, rfl, h⟩
  | some sampleRate =>
      obtain ⟨hchecked, kept, htrim, hframes, hbytes⟩ :=
        trim_balanced sampleRate timed.accumulator.packets
      rw [← h.bufferedFrames_eq, ← h.bufferedBytes_eq] at hchecked htrim
      dsimp only
      rw [hchecked, htrim, some_bind]
      refine ⟨_, rfl, ?_⟩
      have hbound : frames kept ≤ (timed.accumulator.snapshot.sampleRate.getD 0).toNat / 2 := by
        rw [hrate]
        exact hframes
      exact { h with
        bufferedFrames_eq := rfl
        bufferedBytes_eq := rfl
        bufferedFrames_le := hbound
        bufferedBytes_le := hbytes }

theorem Balanced.calls {timed : Timed} (h : timed.accumulator.Balanced) (calls : List Call) :
    ∃ later, timed.calls calls = some later ∧ later.accumulator.Balanced := by
  induction calls generalizing timed with
  | nil => exact ⟨timed, rfl, h⟩
  | cons call calls ih =>
      rw [Timed.calls]
      cases call with
      | record packet =>
          obtain ⟨later, hrecord, -, hbalanced⟩ := h.recordChecked packet
          rw [Timed.call, hrecord, Option.map_some, some_bind]
          exact ih hbalanced
      | refresh =>
          obtain ⟨later, hrefresh, hbalanced⟩ := h.refreshChecked
          rw [Timed.call, hrefresh, some_bind]
          exact ih hbalanced

/-- Whatever packets are recorded, no unsigned subtraction goes below zero, and after every
call the counters are the sums and sizes that they stand for, within their bounds. -/
theorem books_balanced (calls : List Call) :
    ∃ timed, ({} : Timed).calls calls = some timed ∧ timed.accumulator.Balanced :=
  (balanced_initial none none).calls calls

end SyncAudio.StreamAccumulator
