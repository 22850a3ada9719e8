import SyncAudio.Ios.AudioPacket
import SyncAudio.Lib.LargestKeys

/-!
# The playback queue of the phone

Packets wait in the order of their start frames. A cursor runs over them and
fills gaps with silence. It starts at the packet that arrives first, and whatever
starts before it is refused, so the order of arrival decides what is played.

## Implementation notes

Frame positions are natural numbers. The parser admits only packets that end
within 64 bits, so no sum of the queue overflows.
-/

namespace SyncAudio.Ios

/-- What the queue hands to the player. -/
inductive PlaybackItem where
  | packet (packet : AudioPacket)
  | silence (count : Nat)
  deriving DecidableEq, Repr

structure PacketPlaybackQueue where
  cursor : Option Nat := none
  packets : OrderedMap Nat AudioPacket := .empty
  sampleRate : Option UInt32 := none
  channels : Option UInt16 := none
  sessionID : Option UInt64 := none
  streamID : Option UInt32 := none

namespace AudioPacket

/-- The frame behind the last one of a packet. -/
def endFrame (packet : AudioPacket) : Nat := packet.startFrame.toNat + packet.frameCount.toNat

/-- Two packets belong to one stream of one format. -/
structure SameStream (first second : AudioPacket) : Prop where
  sessionID_eq : first.sessionID = second.sessionID
  streamID_eq : first.streamID = second.streamID
  sampleRate_eq : first.sampleRate = second.sampleRate
  channels_eq : first.channels = second.channels

end AudioPacket

namespace PacketPlaybackQueue

/-- The queue holds another stream than the one of the packet. -/
def Foreign (queue : PacketPlaybackQueue) (packet : AudioPacket) : Prop :=
  queue.sessionID ≠ some packet.sessionID ∨ queue.streamID ≠ some packet.streamID ∨
    queue.sampleRate ≠ some packet.sampleRate ∨ queue.channels ≠ some packet.channels

instance (queue : PacketPlaybackQueue) (packet : AudioPacket) : Decidable (queue.Foreign packet) :=
  inferInstanceAs (Decidable (_ ∨ _))

/-- An empty queue for the stream of a packet. -/
def forStream (packet : AudioPacket) : PacketPlaybackQueue where
  sessionID := some packet.sessionID
  streamID := some packet.streamID
  sampleRate := some packet.sampleRate
  channels := some packet.channels

/-- The number of packets that are kept while the output cannot start. -/
def maximumPackets : Nat := 512

/-- `insert`, for a packet of the stream of the queue. -/
def insertOfStream (queue : PacketPlaybackQueue) (packet : AudioPacket) :
    Bool × PacketPlaybackQueue :=
  if queue.cursor.any fun cursor => packet.startFrame.toNat < cursor then (false, queue)
  else
    let packets := queue.packets.assign packet.startFrame.toNat packet
    if packets.size > maximumPackets then
      (true, { queue with
        packets := packets.eraseFirst
        cursor := packets.eraseFirst.firstKey })
    else
      (true, { queue with
        packets
        cursor := some (queue.cursor.getD packet.startFrame.toNat) })

def insert (queue : PacketPlaybackQueue) (packet : AudioPacket) : Bool × PacketPlaybackQueue :=
  if queue.Foreign packet then (forStream packet).insertOfStream packet
  else queue.insertOfStream packet

def popNext (queue : PacketPlaybackQueue) : Option PlaybackItem × PacketPlaybackQueue :=
  match queue.cursor, queue.packets.firstKey with
  | some cursor, some next =>
      match queue.packets.lookup cursor with
      | some packet =>
          (some (.packet packet), { queue with
            packets := queue.packets.erase cursor
            cursor := some (cursor + packet.frameCount.toNat) })
      | none =>
          if next > cursor then
            let count := min (next - cursor) 1024
            (some (.silence count), { queue with cursor := some (cursor + count) })
          else (none, queue)
  | _, _ => (none, queue)

/-- The items that `popNext` returns, call by call. -/
def item (queue : PacketPlaybackQueue) : Nat → Option PlaybackItem
  | 0 => queue.popNext.1
  | n + 1 => queue.popNext.2.item n

/-- An empty queue after the packets of a list have arrived. -/
def queued (packets : List AudioPacket) : PacketPlaybackQueue :=
  packets.foldl (fun queue packet => (queue.insert packet).2) {}

end PacketPlaybackQueue

/-- Packets of one stream that are put into a queue before it is played: not too many,
with frames, and apart from each other. -/
structure Arrivals (packets : List AudioPacket) : Prop where
  length_le : packets.length ≤ PacketPlaybackQueue.maximumPackets
  stream : ∀ a ∈ packets, ∀ b ∈ packets, a.SameStream b
  frameCount_pos : ∀ p ∈ packets, 0 < p.frameCount.toNat
  apart : packets.Pairwise fun a b =>
    a.endFrame ≤ b.startFrame.toNat ∨ b.endFrame ≤ a.startFrame.toNat

/-- The entry of a packet in the map of the queue. -/
def queueEntry (packet : AudioPacket) : Nat × AudioPacket := (packet.startFrame.toNat, packet)

namespace Arrivals

variable {packets others : List AudioPacket}

/-- Packets that are apart start at different frames. -/
theorem nodup_keys (h : Arrivals packets) : ((packets.map queueEntry).map Prod.fst).Nodup := by
  rw [List.map_map, List.Nodup, List.pairwise_map]
  apply h.apart.imp_of_mem
  intro a b ha hb hor heq
  have hpos := h.frameCount_pos a ha
  have hpos' := h.frameCount_pos b hb
  have hstart : a.startFrame.toNat = b.startFrame.toNat := heq
  unfold AudioPacket.endFrame at hor
  omega

theorem of_perm (h : Arrivals packets) (hperm : packets.Perm others) : Arrivals others := by
  constructor
  · rw [← hperm.length_eq]
    exact h.length_le
  · intro a ha b hb
    exact h.stream a (hperm.mem_iff.mpr ha) b (hperm.mem_iff.mpr hb)
  · intro p hp
    exact h.frameCount_pos p (hperm.mem_iff.mpr hp)
  · exact (hperm.pairwise_iff fun hor => hor.symm).mp h.apart

theorem of_concat {packet : AudioPacket} (h : Arrivals (packets ++ [packet])) :
    Arrivals packets := by
  have hsub : packets.Sublist (packets ++ [packet]) := List.sublist_append_left _ _
  constructor
  · exact hsub.length_le.trans h.length_le
  · intro a ha b hb
    exact h.stream a (hsub.subset ha) b (hsub.subset hb)
  · intro p hp
    exact h.frameCount_pos p (hsub.subset hp)
  · exact h.apart.sublist hsub

end Arrivals

namespace PacketPlaybackQueue

open OrderedMap

/-- The entries of the packets that do not start before the first one. -/
def keptEntries (first : AudioPacket) (packets : List AudioPacket) : List (Nat × AudioPacket) :=
  (packets.filter fun p => first.startFrame.toNat ≤ p.startFrame.toNat).map queueEntry

/-- A queue that packets have reached, the first one `first`. -/
structure Filled (first : AudioPacket) (packets : List AudioPacket) (queue : PacketPlaybackQueue) :
    Prop where
  cursor_eq : queue.cursor = some first.startFrame.toNat
  entries_eq : queue.packets.entries = insertAll (keptEntries first packets)
  sampleRate_eq : queue.sampleRate = some first.sampleRate
  channels_eq : queue.channels = some first.channels
  sessionID_eq : queue.sessionID = some first.sessionID
  streamID_eq : queue.streamID = some first.streamID

section Insertion

variable {first packet : AudioPacket} {packets : List AudioPacket} {queue : PacketPlaybackQueue}

theorem keptEntries_sublist : (keptEntries first packets).Sublist (packets.map queueEntry) :=
  (List.filter_sublist (l := packets)).map queueEntry

theorem length_keptEntries_le : (keptEntries first packets).length ≤ packets.length := by
  have hle := (@keptEntries_sublist first packets).length_le
  rw [List.length_map] at hle
  exact hle

theorem Filled.not_foreign (h : Filled first packets queue) (hstream : first.SameStream packet) :
    ¬ queue.Foreign packet := by
  unfold Foreign
  rw [h.sessionID_eq, h.streamID_eq, h.sampleRate_eq, h.channels_eq, hstream.sessionID_eq,
    hstream.streamID_eq, hstream.sampleRate_eq, hstream.channels_eq]
  simp

/-- Below the limit an insertion adds an entry or refuses the packet. -/
theorem Filled.insert (h : Filled first packets queue)
    (harrivals : Arrivals (packets ++ [packet])) (hstream : first.SameStream packet) :
    Filled first (packets ++ [packet]) (queue.insert packet).2 := by
  unfold PacketPlaybackQueue.insert insertOfStream
  rw [if_neg (h.not_foreign hstream), h.cursor_eq]
  simp only [Option.any_some, decide_eq_true_eq, Option.getD_some]
  by_cases hbefore : packet.startFrame.toNat < first.startFrame.toNat
  · rw [if_pos hbefore]
    refine ⟨h.cursor_eq, ?_, h.sampleRate_eq, h.channels_eq, h.sessionID_eq, h.streamID_eq⟩
    rw [h.entries_eq]
    unfold keptEntries
    rw [List.filter_append, List.filter_cons_of_neg (by simpa using hbefore), List.filter_nil,
      List.append_nil]
  · have hkept : keptEntries first (packets ++ [packet]) =
        keptEntries first packets ++ [queueEntry packet] := by
      unfold keptEntries
      rw [List.filter_append, List.filter_cons_of_pos (by simpa using hbefore), List.filter_nil,
        List.map_append]
      rfl
    have hkeys := harrivals.nodup_keys.sublist ((@keptEntries_sublist first _).map Prod.fst)
    have hnew : ∀ e ∈ queue.packets.entries, e.1 ≠ packet.startFrame.toNat := by
      rw [hkept, List.map_append, List.nodup_append] at hkeys
      intro e he
      rw [h.entries_eq] at he
      exact hkeys.2.2 e.1 (List.mem_map_of_mem ((perm_insertAll _).subset he)) _
        (List.mem_singleton_self _)
    have hentries := entries_assign packet hnew
    have hsorted : (queue.packets.assign packet.startFrame.toNat packet).entries =
        insertAll (keptEntries first (packets ++ [packet])) := by
      rw [hentries, h.entries_eq, hkept, insertAll_concat]
      rfl
    have hsize : ¬ (queue.packets.assign packet.startFrame.toNat packet).size > maximumPackets := by
      have hlength := (@length_keptEntries_le first (packets ++ [packet])).trans harrivals.length_le
      unfold OrderedMap.size
      rw [hsorted, (perm_insertAll _).length_eq]
      omega
    rw [if_neg hbefore, if_neg hsize]
    exact ⟨rfl, hsorted, h.sampleRate_eq, h.channels_eq, h.sessionID_eq, h.streamID_eq⟩

theorem filled_single (packet : AudioPacket) : Filled packet [packet] (queued [packet]) := by
  have hforeign : ({} : PacketPlaybackQueue).Foreign packet := .inl nofun
  have hkept : keptEntries packet [packet] = [queueEntry packet] := by
    simp [keptEntries]
  unfold queued PacketPlaybackQueue.insert
  rw [List.foldl_cons, List.foldl_nil, if_pos hforeign]
  refine ⟨rfl, ?_, rfl, rfl, rfl, rfl⟩
  rw [hkept]
  rfl

/-- Whatever arrives, the queue holds what does not start before the first packet. -/
theorem filled_queued (first : AudioPacket) (packets : List AudioPacket)
    (harrivals : Arrivals (first :: packets)) :
    Filled first (first :: packets) (queued (first :: packets)) := by
  induction packets using List.reverseRecOn with
  | nil => exact filled_single first
  | append_singleton packets packet ih =>
      rw [← List.cons_append] at harrivals ⊢
      unfold queued
      rw [List.foldl_append]
      apply (ih harrivals.of_concat).insert harrivals
      exact harrivals.stream first List.mem_cons_self packet (by simp)

/-- The first item is the packet that arrived first. -/
theorem Filled.item_zero (h : Filled first packets queue) (hmem : first ∈ packets) :
    queue.item 0 = some (.packet first) := by
  have hentry : (first.startFrame.toNat, first) ∈ queue.packets.entries := by
    rw [h.entries_eq, (perm_insertAll _).mem_iff]
    exact List.mem_map_of_mem (List.mem_filter.mpr ⟨hmem, decide_eq_true (le_refl _)⟩)
  have hkey : ∃ next, queue.packets.firstKey = some next := by
    unfold firstKey
    cases hentries : queue.packets.entries with
    | nil =>
        rw [hentries] at hentry
        cases hentry
    | cons e es => exact ⟨_, rfl⟩
  obtain ⟨next, hnext⟩ := hkey
  unfold item popNext
  rw [h.cursor_eq, hnext]
  dsimp only
  rw [lookup_of_mem hentry]

/-- The queue does not depend on the order behind the first packet. -/
theorem Filled.eq_of_perm (h : Filled first packets queue) {others : List AudioPacket}
    {other : PacketPlaybackQueue} (h' : Filled first others other) (harrivals : Arrivals packets)
    (hperm : packets.Perm others) : queue = other := by
  have hkept : (keptEntries first packets).Perm (keptEntries first others) :=
    (hperm.filter _).map queueEntry
  have hkeys := harrivals.nodup_keys.sublist ((@keptEntries_sublist first _).map Prod.fst)
  have hpackets : queue.packets = other.packets := by
    apply OrderedMap.ext
    rw [h.entries_eq, h'.entries_eq, insertAll_eq_of_perm hkept hkeys]
  cases queue
  cases other
  simp only [PacketPlaybackQueue.mk.injEq]
  exact ⟨h.cursor_eq.trans h'.cursor_eq.symm, hpackets, h.sampleRate_eq.trans h'.sampleRate_eq.symm,
    h.channels_eq.trans h'.channels_eq.symm, h.sessionID_eq.trans h'.sessionID_eq.symm,
    h.streamID_eq.trans h'.streamID_eq.symm⟩

end Insertion

/-- Two orders of arrival play the same items exactly if the same packet arrives first. -/
theorem same_items_iff {packets others : List AudioPacket} (harrivals : Arrivals packets)
    (hperm : packets.Perm others) :
    (∀ n, (queued packets).item n = (queued others).item n) ↔ packets.head? = others.head? := by
  cases packets with
  | nil =>
      rw [hperm.nil_eq]
      exact ⟨fun _ => rfl, fun _ _ => rfl⟩
  | cons first rest =>
      cases others with
      | nil => exact absurd hperm.eq_nil (List.cons_ne_nil first rest)
      | cons other rest' =>
          have hfilled := filled_queued first rest harrivals
          have hfilled' := filled_queued other rest' (harrivals.of_perm hperm)
          constructor
          · intro hitems
            have hzero := hitems 0
            rw [hfilled.item_zero List.mem_cons_self, hfilled'.item_zero List.mem_cons_self] at hzero
            cases hzero
            rfl
          · intro hhead
            cases hhead
            rw [hfilled.eq_of_perm hfilled' harrivals hperm]
            exact fun n => rfl

/-- Two packets of two frames, one behind the other. -/
def earlyPacket : AudioPacket where
  sessionID := 42
  streamID := 1
  sequenceNumber := 0
  sampleRate := 48000
  channels := 1
  startFrame := 0
  presentationTimestampNanoseconds := 0
  frameCount := 2
  pcmPayload := [1, 0, 2, 0]

def latePacket : AudioPacket :=
  { earlyPacket with sequenceNumber := 1, startFrame := 2, pcmPayload := [3, 0, 4, 0] }

def laterPacket : AudioPacket :=
  { earlyPacket with sequenceNumber := 2, startFrame := 4, pcmPayload := [5, 0, 6, 0] }

theorem arrivals_example : Arrivals [earlyPacket, latePacket, laterPacket] where
  length_le := by decide
  stream := by
    have hsame : ∀ p ∈ [earlyPacket, latePacket, laterPacket],
        p.sessionID = 42 ∧ p.streamID = 1 ∧ p.sampleRate = 48000 ∧ p.channels = 1 := by decide
    intro a ha b hb
    obtain ⟨hsession, hstream, hrate, hchannels⟩ := hsame a ha
    obtain ⟨hsession', hstream', hrate', hchannels'⟩ := hsame b hb
    exact ⟨hsession.trans hsession'.symm, hstream.trans hstream'.symm, hrate.trans hrate'.symm,
      hchannels.trans hchannels'.symm⟩
  frameCount_pos := by decide
  apart := by decide

theorem same_items_later :
    (queued [earlyPacket, latePacket, laterPacket]).item 1 =
      (queued [earlyPacket, laterPacket, latePacket]).item 1 := by
  have hperm : [earlyPacket, latePacket, laterPacket].Perm [earlyPacket, laterPacket, latePacket] :=
    (List.Perm.swap laterPacket latePacket []).cons earlyPacket
  exact (same_items_iff arrivals_example hperm).mpr rfl 1

/-- The packet at frame 2 arrives first, and the one before it is lost. -/
theorem first_arrival_decides :
    Arrivals [earlyPacket, latePacket] ∧
      [earlyPacket, latePacket].Perm [latePacket, earlyPacket] ∧
      ¬ ∀ n, (queued [earlyPacket, latePacket]).item n =
        (queued [latePacket, earlyPacket]).item n := by
  have harrivals : Arrivals ([earlyPacket, latePacket] ++ [laterPacket]) := arrivals_example
  refine ⟨harrivals.of_concat, List.Perm.swap latePacket earlyPacket [], ?_⟩
  intro hitems
  exact absurd (hitems 0) (by decide)

end PacketPlaybackQueue

end SyncAudio.Ios
