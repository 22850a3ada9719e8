import SyncAudio.Lib.Checked
import SyncAudio.Ios.PacketPlaybackQueue
import SyncAudio.Ios.PlaybackTiming

/-!
# The arithmetic of the playback queue

Swift stops the program when an integer leaves its type. Whatever packets the parser lets
through, no operation of the queue does so. Only the length of the queue, which is a
64-bit count, need not fit a signed one.

## Implementation notes

`popChecked` is `popNext` with the operations of the machine. A value none is a trap.
-/

namespace SyncAudio.Ios

open Checked

/-- A packet that the initializer has accepted. -/
structure ReceivedPacket where
  packet : AudioPacket
  datagram : List UInt8
  parsed : AudioPacket.ofDatagram datagram = some (some packet)

namespace AudioPacket

variable {packet : AudioPacket} {bytes : List UInt8}

/-- What the playback needs of the checks of the parser. -/
structure Accepted (packet : AudioPacket) : Prop where
  endFrame_lt : packet.endFrame < 2 ^ 64
  frameCount_pos : 0 < packet.frameCount.toNat
  sampleRate_le : packet.sampleRate.toNat ≤ 192000
  timestamp_lt : packet.presentationTimestampNanoseconds.toNat < 2 ^ 63

/-- What the parser returns has passed its second guard. -/
theorem acceptable_of_parsed (h : ofDatagram bytes = some (some packet)) :
    ∃ payloadSize byteCount, packet.Acceptable payloadSize byteCount := by
  have hread : readFields bytes = some (some packet) := by
    unfold ofDatagram at h
    split_ifs at h
    · cases h
    · simp only [bind, Option.bind_eq_some_iff] at h
      obtain ⟨_, -, _, -, _, -, _, -, _, -, h⟩ := h
      split_ifs at h
      · exact h
      · cases h
  unfold readFields at hread
  simp only [bind, Option.bind_eq_some_iff] at hread
  obtain ⟨_, -, _, -, _, -, _, -, _, -, _, -, _, -, frameCount, -, _, -, _, -, h⟩ := hread
  split_ifs at h with hacceptable
  · have hpacket := Option.some.inj (Option.some.inj h)
    rw [hpacket] at hacceptable
    exact ⟨_, _, hacceptable⟩
  · cases h

theorem accepted_of_parsed (h : ofDatagram bytes = some (some packet)) : packet.Accepted := by
  obtain ⟨_, _, ⟨-, hrate⟩, -, -, hframes, -, hend, htime, -⟩ := acceptable_of_parsed h
  have hcount := packet.frameCount.toNat_lt
  constructor
  · unfold endFrame
    omega
  · exact UInt16.lt_iff_toNat_lt.mp hframes
  · exact UInt32.le_iff_toNat_le.mp hrate
  · omega

/-- What the parser returns can be played. -/
theorem playable_of_parsed (h : ofDatagram bytes = some (some packet)) :
    packet.channels ≤ 2 ∧ 8000 ≤ packet.sampleRate ∧ packet.sampleRate ≤ 192000 := by
  obtain ⟨_, _, ⟨hlow, hhigh⟩, -, hchannels, -⟩ := acceptable_of_parsed h
  exact ⟨hchannels, hlow, hhigh⟩

/-- `$0.startFrame + UInt64($0.frameCount)`. -/
def checkedEnd (packet : AudioPacket) : Option Nat :=
  add64 packet.startFrame.toNat packet.frameCount.toNat

theorem Accepted.checkedEnd_eq (h : packet.Accepted) : packet.checkedEnd = some packet.endFrame :=
  add64_of_lt h.endFrame_lt

end AudioPacket

def PlaybackItem.frames : PlaybackItem → Nat
  | .packet sent => sent.frameCount.toNat
  | .silence count => count

namespace PacketPlaybackQueue

def bufferedFrames (queue : PacketPlaybackQueue) : Option Nat :=
  match queue.cursor with
  | none => some 0
  | some first => do
      let ends : List Nat ← queue.packets.entries.mapM fun entry => entry.2.checkedEnd
      match ends.max? with
      | none => some 0
      | some last => if last > first then sub64 last first else some 0

def firstPacket (queue : PacketPlaybackQueue) : Option AudioPacket :=
  queue.packets.entries.head?.map Prod.snd

/-- `discard(beforeHostNanoseconds:)`. -/
def discard (queue : PacketPlaybackQueue) (timestamp : Binary64) : PacketPlaybackQueue :=
  let packets := queue.packets.filter fun entry =>
    timestamp.le (.ofInt entry.2.presentationTimestampNanoseconds.toNat)
  { queue with packets, cursor := packets.firstKey }

def popChecked (queue : PacketPlaybackQueue) :
    Option (Option PlaybackItem × PacketPlaybackQueue) :=
  match queue.cursor, queue.packets.firstKey with
  | some cursor, some next =>
      match queue.packets.lookup cursor with
      | some packet => do
          let position ← add64 cursor packet.frameCount.toNat
          some (some (.packet packet), { queue with
            packets := queue.packets.erase cursor
            cursor := some position })
      | none =>
          if next > cursor then do
            let gap ← sub64 next cursor
            let count := min gap 1024
            let _ ← toSigned count
            let position ← add64 cursor count
            some (some (.silence count), { queue with cursor := some position })
          else some (none, queue)
  | _, _ => some (none, queue)

/-- Every packet of a queue has passed the parser and lies at its own frame. -/
structure Sound (queue : PacketPlaybackQueue) : Prop where
  entries : ∀ e ∈ queue.packets.entries, e.1 = e.2.startFrame.toNat ∧ e.2.Accepted
  cursor : ∀ c ∈ queue.cursor, c < 2 ^ 64
  sampleRate : ∀ rate ∈ queue.sampleRate, rate.toNat ≤ 192000

/-- No packet ends 2^63 frames or more behind the cursor. -/
def Spans (queue : PacketPlaybackQueue) : Prop :=
  ∀ c ∈ queue.cursor, ∀ e ∈ queue.packets.entries, e.2.endFrame < c + 2 ^ 63

section Operations

variable {queue : PacketPlaybackQueue} {packet : AudioPacket}

theorem sound_empty : ({} : PacketPlaybackQueue).Sound where
  entries := fun _ he => absurd he List.not_mem_nil
  cursor := fun c hc => absurd hc (Option.not_mem_none c)
  sampleRate := fun rate hrate => absurd hrate (Option.not_mem_none rate)

theorem sound_forStream (h : packet.Accepted) : (forStream packet).Sound where
  entries := fun _ he => absurd he List.not_mem_nil
  cursor := fun c hc => absurd hc (Option.not_mem_none c)
  sampleRate := fun _ hrate => Option.some.inj hrate ▸ h.sampleRate_le

theorem firstKey_lt {packets : OrderedMap Nat AudioPacket}
    (h : ∀ e ∈ packets.entries, e.1 = e.2.startFrame.toNat ∧ e.2.Accepted) :
    ∀ c ∈ packets.firstKey, c < 2 ^ 64 := by
  intro c hc
  obtain ⟨packet, hmem⟩ := OrderedMap.mem_of_firstKey hc
  have hstart : c = packet.startFrame.toNat := (h _ hmem).1
  rw [hstart]
  exact packet.startFrame.toNat_lt

theorem Sound.insertOfStream (h : queue.Sound) (hpacket : packet.Accepted) :
    (queue.insertOfStream packet).2.Sound := by
  have hentries : ∀ e ∈ (queue.packets.assign packet.startFrame.toNat packet).entries,
      e.1 = e.2.startFrame.toNat ∧ e.2.Accepted := by
    intro e he
    obtain rfl | hbefore := OrderedMap.mem_assign he
    · exact ⟨rfl, hpacket⟩
    · exact h.entries e hbefore
  unfold PacketPlaybackQueue.insertOfStream
  dsimp only
  split_ifs
  · exact h
  · have hkept : ∀ e ∈ (queue.packets.assign packet.startFrame.toNat packet).eraseFirst.entries,
        e.1 = e.2.startFrame.toNat ∧ e.2.Accepted :=
      fun e he => hentries e (OrderedMap.mem_eraseFirst.mp he).1
    exact ⟨hkept, firstKey_lt hkept, h.sampleRate⟩
  · refine ⟨hentries, ?_, h.sampleRate⟩
    intro c hc
    rw [← Option.some.inj hc]
    cases hcursor : queue.cursor with
    | none => exact packet.startFrame.toNat_lt
    | some cursor => exact h.cursor cursor hcursor

theorem Sound.insert (h : queue.Sound) (hpacket : packet.Accepted) :
    (queue.insert packet).2.Sound := by
  unfold PacketPlaybackQueue.insert
  split_ifs
  · exact (sound_forStream hpacket).insertOfStream hpacket
  · exact h.insertOfStream hpacket

theorem Sound.discard (h : queue.Sound) (timestamp : Binary64) : (queue.discard timestamp).Sound := by
  have hkept : ∀ e ∈ (queue.discard timestamp).packets.entries,
      e.1 = e.2.startFrame.toNat ∧ e.2.Accepted :=
    fun e he => h.entries e (List.mem_filter.mp he).1
  exact ⟨hkept, firstKey_lt hkept, h.sampleRate⟩

/-- A gap ends before a packet that is in the queue. -/
theorem Sound.gap_lt (h : queue.Sound) {next : Nat} (hnext : queue.packets.firstKey = some next) :
    next < 2 ^ 64 :=
  firstKey_lt h.entries next hnext

/-- No operation of `popNext` leaves its type. -/
theorem Sound.popChecked_eq (h : queue.Sound) : queue.popChecked = some queue.popNext := by
  unfold popChecked popNext
  cases hcursor : queue.cursor with
  | none => rfl
  | some cursor =>
      cases hnext : queue.packets.firstKey with
      | none => rfl
      | some next =>
          dsimp only
          cases hlookup : queue.packets.lookup cursor with
          | some packet =>
              obtain ⟨hstart, haccepted⟩ := h.entries _ (OrderedMap.mem_of_lookup hlookup)
              have hend : cursor + packet.frameCount.toNat < 2 ^ 64 :=
                Nat.lt_of_le_of_lt (Nat.add_le_add_right hstart.le _) haccepted.endFrame_lt
              dsimp only
              rw [add64_of_lt hend]
              rfl
          | none =>
              dsimp only
              split_ifs with hgap
              · have hlt := h.gap_lt hnext
                have hcount : min (next - cursor) 1024 < 2 ^ 63 :=
                  Nat.lt_of_le_of_lt (Nat.min_le_right _ _) (by norm_num)
                have hend : cursor + min (next - cursor) 1024 < 2 ^ 64 := by omega
                rw [sub64_of_le hgap.le hlt, some_bind]
                rw [toSigned_of_lt hcount, some_bind, add64_of_lt hend]
                rfl
              · rfl

theorem Sound.popNext (h : queue.Sound) : queue.popNext.2.Sound := by
  unfold PacketPlaybackQueue.popNext
  cases hcursor : queue.cursor with
  | none => exact h
  | some cursor =>
      cases hnext : queue.packets.firstKey with
      | none => exact h
      | some next =>
          dsimp only
          cases hlookup : queue.packets.lookup cursor with
          | some packet =>
              obtain ⟨hstart, haccepted⟩ := h.entries _ (OrderedMap.mem_of_lookup hlookup)
              refine ⟨fun e he => h.entries e (List.mem_filter.mp he).1, ?_, h.sampleRate⟩
              intro c hc
              rw [← Option.some.inj hc]
              exact Nat.lt_of_le_of_lt (Nat.add_le_add_right hstart.le _) haccepted.endFrame_lt
          | none =>
              dsimp only
              split_ifs
              · refine ⟨h.entries, ?_, h.sampleRate⟩
                intro c hc
                have hlt := h.gap_lt hnext
                rw [← Option.some.inj hc]
                omega
              · exact h

/-- What is handed out has frames, and silence comes in short pieces. -/
theorem Sound.item_frames (h : queue.Sound) {item : PlaybackItem}
    (hitem : queue.popNext.1 = some item) :
    0 < item.frames ∧ item.frames < 65536 ∧ ∀ count, item = .silence count → count ≤ 1024 := by
  unfold PacketPlaybackQueue.popNext at hitem
  cases hcursor : queue.cursor with
  | none =>
      rw [hcursor] at hitem
      cases hitem
  | some cursor =>
      rw [hcursor] at hitem
      cases hnext : queue.packets.firstKey with
      | none =>
          rw [hnext] at hitem
          cases hitem
      | some next =>
          rw [hnext] at hitem
          dsimp only at hitem
          cases hlookup : queue.packets.lookup cursor with
          | some packet =>
              rw [hlookup] at hitem
              cases hitem
              have haccepted := (h.entries _ (OrderedMap.mem_of_lookup hlookup)).2
              exact ⟨haccepted.frameCount_pos, packet.frameCount.toNat_lt, fun _ heq => nomatch heq⟩
          | none =>
              rw [hlookup] at hitem
              dsimp only at hitem
              split_ifs at hitem with hgap
              · cases hitem
                have hcount : min (next - cursor) 1024 ≤ 1024 := Nat.min_le_right _ _
                refine ⟨?_, Nat.lt_of_le_of_lt hcount (by norm_num), ?_⟩
                · unfold PlaybackItem.frames
                  dsimp only
                  omega
                · intro count heq
                  cases heq
                  exact hcount

theorem checkedEnds {entries : List (Nat × AudioPacket)} (h : ∀ e ∈ entries, e.2.Accepted) :
    (entries.mapM fun entry => entry.2.checkedEnd) =
      some (entries.map fun entry => entry.2.endFrame) := by
  induction entries with
  | nil => rfl
  | cons entry entries ih =>
      rw [List.mapM_cons, (h entry List.mem_cons_self).checkedEnd_eq,
        ih fun e he => h e (List.mem_cons_of_mem _ he)]
      rfl

/-- The length of the queue is a 64-bit count, and a signed one exactly if the packets lie
close enough to the cursor. -/
theorem Sound.bufferedFrames_eq (h : queue.Sound) :
    ∃ frames, queue.bufferedFrames = some frames ∧ (frames < 2 ^ 63 ↔ queue.Spans) := by
  unfold bufferedFrames Spans
  cases hcursor : queue.cursor with
  | none => exact ⟨0, rfl, fun _ c hc => absurd hc (Option.not_mem_none c), fun _ => by norm_num⟩
  | some first =>
      have hends := checkedEnds fun e he => (h.entries e he).2
      dsimp only
      rw [hends, some_bind]
      cases hmax : (queue.packets.entries.map fun entry => entry.2.endFrame).max? with
      | none =>
          have hnil := List.max?_eq_none_iff.mp hmax
          refine ⟨0, rfl, fun _ c _ e he => ?_, fun _ => by norm_num⟩
          rw [List.map_eq_nil_iff.mp hnil] at he
          cases he
      | some last =>
          obtain ⟨hmem, hbound⟩ := List.max?_eq_some_iff.mp hmax
          obtain ⟨entry, hentry, hlast⟩ := List.mem_map.mp hmem
          have hlt := (h.entries entry hentry).2.endFrame_lt
          have hspans : last < first + 2 ^ 63 ↔
              ∀ c ∈ some first, ∀ e ∈ queue.packets.entries, e.2.endFrame < c + 2 ^ 63 := by
            constructor
            · intro hless c hc e he
              cases hc
              exact Nat.lt_of_le_of_lt (hbound _ (List.mem_map_of_mem he)) hless
            · intro hall
              rw [← hlast]
              exact hall first rfl entry hentry
          dsimp only
          rw [← hspans]
          split_ifs with hmore
          · exact ⟨last - first, sub64_of_le hmore.le (by omega), by omega⟩
          · exact ⟨0, rfl, by omega⟩

end Operations

end PacketPlaybackQueue

end SyncAudio.Ios
