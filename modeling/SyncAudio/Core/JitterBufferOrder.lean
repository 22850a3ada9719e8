import Mathlib.Data.List.Nodup
import Mathlib.Data.List.Perm.Basic
import SyncAudio.Core.JitterBufferInvariant
import SyncAudio.Lib.LargestKeys

/-!
# The order of arrival

Packets that arrive before any read leave the same buffer in every order: the
1,024 with the largest start frames. Only the statistics of the arrival times
differ, which no other result depends on.
-/

namespace SyncAudio.JitterBuffer

open OrderedMap

/-- `push` has no objection to the packet itself. -/
structure Pushable (packet : AudioPacket) : Prop where
  valid : ¬ InvalidFormat packet
  payload_eq : packet.pcmPayload.length =
    packet.frameCount.toNat * packet.channelCount.toNat * 2

/-- Push the packets of a list, each with its arrival time. -/
def pushAll (jb : JitterBuffer) (arrivals : List (Int × AudioPacket)) : JitterBuffer :=
  arrivals.foldl (fun jb arrival => (jb.push arrival.1 arrival.2).buffer) jb

/-- The packets that have not been read yet. -/
def packetCount (jb : JitterBuffer) : Nat :=
  jb.packets.entries.countP fun e => jb.latestReadFrame < e.2.endFrame

/-- What the reads among some calls return, with the spans they fill. -/
def outputs : JitterBuffer → List Operation → List (Except String Nat × List Int16)
  | _, [] => []
  | jb, .push arrival packet :: rest => outputs (jb.push arrival packet).buffer rest
  | jb, .readFrames startFrame outputSize retainLookahead locked :: rest =>
      let result := jb.readFrames startFrame.toNat outputSize retainLookahead locked
      (result.returned, result.interleavedOutput) :: outputs result.buffer rest

/-- The map entry of a packet. -/
def entryOf (packet : AudioPacket) : Nat × BufferedPacket :=
  (packet.startFrame.toNat, bufferedPacket packet)

/-- Two buffers that differ at most in their arrival statistics. -/
structure Agrees (first second : JitterBuffer) : Prop where
  packets_eq : first.packets = second.packets
  format_eq : first.format = second.format
  latestEndFrame_eq : first.latestEndFrame = second.latestEndFrame
  latestEndFrameAtomic_eq : first.latestEndFrameAtomic = second.latestEndFrameAtomic
  latestReadFrame_eq : first.latestReadFrame = second.latestReadFrame
  overflowPackets_eq : first.metrics.overflowPackets = second.metrics.overflowPackets

section Agreement

variable {first second : JitterBuffer}

theorem Agrees.firstPacketAtOrAfter (h : Agrees first second) (hostTimestampNanoseconds : Nat) :
    first.firstPacketAtOrAfter hostTimestampNanoseconds =
      second.firstPacketAtOrAfter hostTimestampNanoseconds := by
  unfold JitterBuffer.firstPacketAtOrAfter
  rw [h.packets_eq, h.latestReadFrame_eq]

theorem Agrees.packetCount (h : Agrees first second) : first.packetCount = second.packetCount := by
  unfold JitterBuffer.packetCount
  rw [h.packets_eq, h.latestReadFrame_eq]

theorem Agrees.expire (h : Agrees first second) : Agrees first.expire second.expire := by
  obtain ⟨hpackets, hformat, hend, hatomic, hread, hoverflow⟩ := h
  refine ⟨?_, hformat, hend, hatomic, hread, hoverflow⟩
  unfold JitterBuffer.expire
  rw [hpackets, hread]

theorem Agrees.recordArrival (h : Agrees first second) (arrival : Int) (packet : AudioPacket) :
    Agrees (first.recordArrival arrival packet) (second.recordArrival arrival packet) := by
  have hmax := congrArg (max · (packet.startFrame.toNat + packet.frameCount.toNat))
    h.latestEndFrame_eq
  refine ⟨h.packets_eq, h.format_eq, hmax, hmax, h.latestReadFrame_eq, ?_⟩
  rw [overflowPackets_recordArrival, overflowPackets_recordArrival]
  exact h.overflowPackets_eq

theorem Agrees.evictOverflow (h : Agrees first second) :
    first.evictOverflow.returned = second.evictOverflow.returned ∧
      Agrees first.evictOverflow.buffer second.evictOverflow.buffer := by
  unfold JitterBuffer.evictOverflow
  rw [h.packets_eq]
  split_ifs
  · refine ⟨rfl, ⟨rfl, h.format_eq, h.latestEndFrame_eq, h.latestEndFrameAtomic_eq,
      h.latestReadFrame_eq, ?_⟩⟩
    exact congrArg (· + 1) h.overflowPackets_eq
  · exact ⟨rfl, h⟩

theorem Agrees.pushLocked (h : Agrees first second) (arrival : Int) (packet : AudioPacket) :
    (first.pushLocked arrival packet).returned = (second.pushLocked arrival packet).returned ∧
      Agrees (first.pushLocked arrival packet).buffer (second.pushLocked arrival packet).buffer := by
  have hexpire := h.expire
  have ⟨hpackets, hformat, hend, hatomic, hread, hoverflow⟩ := hexpire
  unfold JitterBuffer.pushLocked
  dsimp only
  rw [hread, hformat, hpackets]
  split_ifs
  · exact ⟨rfl, ⟨rfl, rfl, hend, hatomic, rfl, hoverflow⟩⟩
  · exact ⟨rfl, hexpire⟩
  · cases second.expire.packets.tryEmplace packet.startFrame.toNat (bufferedPacket packet) with
    | none => exact ⟨rfl, ⟨rfl, rfl, hend, hatomic, rfl, hoverflow⟩⟩
    | some packets =>
        apply Agrees.evictOverflow
        apply Agrees.recordArrival
        exact ⟨rfl, rfl, hend, hatomic, rfl, hoverflow⟩

theorem Agrees.push (h : Agrees first second) (arrival : Int) (packet : AudioPacket) :
    Agrees (first.push arrival packet).buffer (second.push arrival packet).buffer := by
  unfold JitterBuffer.push
  split_ifs
  · exact h
  · exact h
  · exact (h.pushLocked arrival packet).2

theorem Agrees.readFrames (h : Agrees first second) (startFrame outputSize : Nat)
    (retainLookahead locked : Bool) :
    (first.readFrames startFrame outputSize retainLookahead locked).returned =
        (second.readFrames startFrame outputSize retainLookahead locked).returned ∧
      (first.readFrames startFrame outputSize retainLookahead locked).interleavedOutput =
        (second.readFrames startFrame outputSize retainLookahead locked).interleavedOutput ∧
      Agrees (first.readFrames startFrame outputSize retainLookahead locked).buffer
        (second.readFrames startFrame outputSize retainLookahead locked).buffer := by
  unfold JitterBuffer.readFrames
  rw [h.format_eq, h.packets_eq, h.latestReadFrame_eq]
  cases locked with
  | false => exact ⟨rfl, rfl, h⟩
  | true =>
      cases second.format with
      | none => exact ⟨rfl, rfl, h⟩
      | some format =>
          dsimp only [Bool.not_true, Bool.false_eq_true, if_false]
          by_cases haligned : outputSize % format.channelCount.toNat = 0
          · rw [if_neg (not_not.mpr haligned), if_neg (not_not.mpr haligned)]
            exact ⟨rfl, rfl, ⟨rfl, rfl, h.latestEndFrame_eq, h.latestEndFrameAtomic_eq, rfl,
              h.overflowPackets_eq⟩⟩
          · rw [if_pos haligned, if_pos haligned]
            exact ⟨rfl, rfl, h⟩

/-- Buffers that agree answer every later sequence of calls alike. -/
theorem Agrees.outputs (h : Agrees first second) (operations : List Operation) :
    first.outputs operations = second.outputs operations := by
  induction operations generalizing first second with
  | nil => rfl
  | cons operation operations ih =>
      cases operation with
      | push arrival packet => exact ih (h.push arrival packet)
      | readFrames startFrame outputSize retainLookahead locked =>
          obtain ⟨hreturned, houtput, hbuffer⟩ :=
            h.readFrames startFrame.toNat outputSize retainLookahead locked
          unfold JitterBuffer.outputs
          dsimp only
          rw [hreturned, houtput, ih hbuffer]

end Agreement

/-- A buffer that some packets have reached and no read. -/
structure Collected (packets : List AudioPacket) (jb : JitterBuffer) : Prop where
  entries_eq : jb.packets.entries = largest maximumPackets (packets.map entryOf)
  format_eq : jb.format = packets.head?.map incomingFormat
  latestEndFrame_eq : jb.latestEndFrame = (packets.map packetEnd).foldl max 0
  latestEndFrameAtomic_eq : jb.latestEndFrameAtomic = jb.latestEndFrame
  latestReadFrame_eq : jb.latestReadFrame = 0
  overflowPackets_eq : jb.metrics.overflowPackets = packets.length - maximumPackets

section Collection

variable {jb : JitterBuffer} {packets : List AudioPacket} {packet : AudioPacket}

theorem collected_empty : Collected [] {} := by
  constructor <;> rfl

theorem Pushable.frameCount_pos (h : Pushable packet) : 0 < packet.frameCount.toNat := by
  apply Nat.pos_of_ne_zero
  intro hzero
  exact h.valid (.inr (.inr (.inr (.inr (.inr (.inl (UInt16.toNat_inj.mp hzero)))))))

/-- Before the first read nothing has expired. -/
theorem expire_of_unread (hread : jb.latestReadFrame = 0)
    (hheld : ∀ e ∈ jb.packets.entries, 0 < e.2.endFrame) : jb.expire = jb := by
  have hkeep : jb.packets.entries.dropWhile (fun e => e.2.endFrame ≤ jb.latestReadFrame) =
      jb.packets.entries := by
    cases hentries : jb.packets.entries with
    | nil => rfl
    | cons e es =>
        have hpos := hheld e (hentries ▸ List.mem_cons_self)
        apply List.dropWhile_cons_of_neg
        rw [hread, decide_eq_true_eq]
        exact Nat.not_le.mpr hpos
  have hpackets : (jb.packets.eraseWhile fun e => e.2.endFrame ≤ jb.latestReadFrame) =
      jb.packets := OrderedMap.ext hkeep
  unfold expire
  rw [hpackets]

theorem push_returned_true (arrival : Int) (h : Pushable packet) (hread : jb.latestReadFrame = 0)
    (hheld : ∀ e ∈ jb.packets.entries, 0 < e.2.endFrame)
    (hformat : ∀ format ∈ jb.format, format = incomingFormat packet)
    (hnew : ∀ e ∈ jb.packets.entries, e.1 ≠ packet.startFrame.toNat) :
    (jb.push arrival packet).returned = .ok true := by
  have hpos := h.frameCount_pos
  have hsame : ¬ (jb.format.any fun format => format ≠ incomingFormat packet) = true := by
    cases hjb : jb.format with
    | none => simp
    | some format => simp [hformat format hjb]
  have hinsert : ∃ inserted,
      jb.packets.tryEmplace packet.startFrame.toNat (bufferedPacket packet) = some inserted :=
    ⟨_, dif_pos hnew⟩
  obtain ⟨inserted, hinsert⟩ := hinsert
  unfold push pushLocked
  rw [if_neg h.valid, if_neg (not_not.mpr h.payload_eq), expire_of_unread hread hheld]
  dsimp only
  rw [hread, if_neg (by omega), if_neg hsame, hinsert]
  unfold evictOverflow
  dsimp only
  split_ifs <;> rfl

theorem Collected.mem (h : Collected packets jb) {e : Nat × BufferedPacket}
    (he : e ∈ jb.packets.entries) : ∃ p ∈ packets, entryOf p = e := by
  rw [h.entries_eq] at he
  have hsorted := List.mem_of_mem_drop he
  exact List.mem_map.mp ((perm_insertAll _).subset hsorted)

theorem Collected.size_eq (h : Collected packets jb) :
    jb.packets.size = min maximumPackets packets.length := by
  rw [OrderedMap.size, h.entries_eq, length_largest, List.length_map]

/-- One more packet is collected. -/
theorem Collected.push (h : Collected packets jb) (arrival : Int)
    (hpackets : ∀ p ∈ packets ++ [packet], Pushable p)
    (hformat : ∀ p ∈ packets, incomingFormat p = incomingFormat packet)
    (hkeys : (((packets ++ [packet]).map entryOf).map Prod.fst).Nodup) :
    Collected (packets ++ [packet]) (jb.push arrival packet).buffer := by
  rw [List.map_append, List.map_append, List.nodup_append] at hkeys
  obtain ⟨hkeys, -, hfresh⟩ := hkeys
  have hheld : ∀ e ∈ jb.packets.entries, 0 < e.2.endFrame := by
    intro e he
    obtain ⟨p, hp, rfl⟩ := h.mem he
    have hpos := (hpackets p (List.mem_append_left _ hp)).frameCount_pos
    exact Nat.add_pos_right _ hpos
  have hformer : ∀ format ∈ jb.format, format = incomingFormat packet := by
    intro format hmem
    rw [h.format_eq] at hmem
    obtain ⟨p, hp, rfl⟩ := Option.map_eq_some_iff.mp hmem
    exact hformat p (List.mem_of_mem_head? hp)
  have hnew : ∀ e ∈ jb.packets.entries, e.1 ≠ packet.startFrame.toNat := by
    intro e he
    obtain ⟨p, hp, rfl⟩ := h.mem he
    exact hfresh _ (List.mem_map_of_mem (List.mem_map_of_mem hp)) _ (List.mem_singleton_self _)
  have hreturned := push_returned_true arrival (hpackets packet (by simp)) h.latestReadFrame_eq
    hheld hformer hnew
  rcases push_cases jb arrival packet with hrejected | haccepted
  · exact absurd hreturned hrejected.returned_ne
  obtain ⟨inserted, hinsert, hcases⟩ := haccepted.inserted
  rw [expire_of_unread h.latestReadFrame_eq hheld] at hinsert
  obtain ⟨-, hentries⟩ := OrderedMap.tryEmplace_some hinsert
  have hsize : inserted.size = min maximumPackets packets.length + 1 := by
    rw [OrderedMap.size, hentries, length_insertEntry]
    exact congrArg (· + 1) h.size_eq
  rw [h.entries_eq] at hentries
  have hlength : (packets.map entryOf).length = packets.length := List.length_map _
  have hconcat : (packets ++ [packet]).map entryOf = packets.map entryOf ++ [entryOf packet] :=
    List.map_append
  constructor
  · rcases hcases with ⟨hle, -, heq⟩ | ⟨hlt, -, heq⟩
    · rw [heq, hentries, hconcat, largest_concat_of_le _ (by omega)]
      rfl
    · have htail : inserted.eraseFirst.entries = inserted.entries.tail := rfl
      rw [heq, htail, hentries, hconcat, largest_concat_of_lt _ hkeys (by omega)]
      rfl
  · rw [haccepted.format_eq]
    cases packets with
    | nil => rfl
    | cons p packets => exact congrArg some (hformat p List.mem_cons_self).symm
  · rw [haccepted.latestEndFrame_eq, h.latestEndFrame_eq, List.map_append, List.foldl_append]
    rfl
  · exact haccepted.latestEndFrameAtomic_eq
  · exact haccepted.latestReadFrame_eq.trans h.latestReadFrame_eq
  · rw [haccepted.overflowPackets_eq, h.overflowPackets_eq, List.length_append,
      List.length_singleton]
    rcases hcases with ⟨hle, hevicted, -⟩ | ⟨hlt, hevicted, -⟩
    · rw [hevicted, Option.toList_none, List.length_nil]
      omega
    · have hfirst : inserted.entries ≠ [] := List.ne_nil_of_length_pos (Nat.zero_lt_of_lt hlt)
      rw [hevicted, List.head?_eq_some_head hfirst, Option.map_some, Option.toList_some,
        List.length_singleton]
      omega

theorem collected_pushAll {arrivals : List (Int × AudioPacket)} {format : JitterBufferFormat}
    (hpackets : ∀ arrival ∈ arrivals, Pushable arrival.2)
    (hformat : ∀ arrival ∈ arrivals, incomingFormat arrival.2 = format)
    (hkeys : (((arrivals.map Prod.snd).map entryOf).map Prod.fst).Nodup) :
    Collected (arrivals.map Prod.snd) (pushAll {} arrivals) := by
  induction arrivals using List.reverseRecOn with
  | nil => exact collected_empty
  | append_singleton arrivals arrival ih =>
      have hmem {a : Int × AudioPacket} (ha : a ∈ arrivals) : a ∈ arrivals ++ [arrival] :=
        List.mem_append_left _ ha
      have hlast : arrival ∈ arrivals ++ [arrival] := by simp
      have hconcat : (arrivals ++ [arrival]).map Prod.snd = arrivals.map Prod.snd ++ [arrival.2] :=
        List.map_append
      rw [hconcat] at hkeys ⊢
      have hformer : (((arrivals.map Prod.snd).map entryOf).map Prod.fst).Nodup := by
        rw [List.map_append, List.map_append, List.nodup_append] at hkeys
        exact hkeys.1
      have hcollected := ih (fun a ha => hpackets a (hmem ha)) (fun a ha => hformat a (hmem ha))
        hformer
      unfold pushAll
      rw [List.foldl_append]
      refine hcollected.push arrival.1 ?_ ?_ hkeys
      · intro p hp
        rw [← hconcat] at hp
        obtain ⟨a, ha, rfl⟩ := List.mem_map.mp hp
        exact hpackets a ha
      · intro p hp
        obtain ⟨a, ha, rfl⟩ := List.mem_map.mp hp
        exact (hformat a (hmem ha)).trans (hformat arrival hlast).symm

/-- Two orders of the same packets collect the same buffer. -/
theorem Collected.agrees {packets packets' : List AudioPacket} {jb' : JitterBuffer}
    (h : Collected packets jb) (h' : Collected packets' jb') (hperm : packets.Perm packets')
    (hkeys : ((packets.map entryOf).map Prod.fst).Nodup) {format : JitterBufferFormat}
    (hformat : ∀ p ∈ packets, incomingFormat p = format) : Agrees jb jb' := by
  have hend : jb.latestEndFrame = jb'.latestEndFrame := by
    rw [h.latestEndFrame_eq, h'.latestEndFrame_eq]
    exact (hperm.map packetEnd).foldl_eq 0
  constructor
  · apply OrderedMap.ext
    rw [h.entries_eq, h'.entries_eq]
    exact largest_eq_of_perm maximumPackets (hperm.map entryOf) hkeys
  · rw [h.format_eq, h'.format_eq]
    cases packets with
    | nil => rw [hperm.nil_eq]
    | cons p packets =>
        cases packets' with
        | nil => exact absurd hperm.eq_nil (List.cons_ne_nil _ _)
        | cons p' packets' =>
            have hp := hformat p List.mem_cons_self
            have hp' := hformat p' (hperm.symm.subset List.mem_cons_self)
            exact congrArg some (hp.trans hp'.symm)
  · exact hend
  · rw [h.latestEndFrameAtomic_eq, h'.latestEndFrameAtomic_eq, hend]
  · rw [h.latestReadFrame_eq, h'.latestReadFrame_eq]
  · rw [h.overflowPackets_eq, h'.overflowPackets_eq, hperm.length_eq]

end Collection

/-- Valid packets of one format with distinct start frames, pushed in two orders
with no read in between, leave buffers that hold the same packets, the 1,024 with
the largest start frames, and that answer everything alike from then on. -/
theorem arrival_order_irrelevant {arrivals others : List (Int × AudioPacket)}
    {format : JitterBufferFormat}
    (hperm : (arrivals.map Prod.snd).Perm (others.map Prod.snd))
    (hvalid : ∀ arrival ∈ arrivals, Pushable arrival.2)
    (hformat : ∀ arrival ∈ arrivals, incomingFormat arrival.2 = format)
    (hdistinct : (arrivals.map fun arrival => arrival.2.startFrame).Nodup) :
    (pushAll {} arrivals).packets = (pushAll {} others).packets ∧
      (∀ e, e ∈ (pushAll {} arrivals).packets.entries ↔
        ∃ arrival ∈ arrivals, entryOf arrival.2 = e ∧
          (arrivals.countP fun other => arrival.2.startFrame < other.2.startFrame) <
            maximumPackets) ∧
      (pushAll {} arrivals).format = (pushAll {} others).format ∧
      (pushAll {} arrivals).latestEndFrame = (pushAll {} others).latestEndFrame ∧
      (pushAll {} arrivals).latestEndFrameAtomic = (pushAll {} others).latestEndFrameAtomic ∧
      (pushAll {} arrivals).metrics.overflowPackets = arrivals.length - maximumPackets ∧
      (pushAll {} others).metrics.overflowPackets = arrivals.length - maximumPackets ∧
      (pushAll {} arrivals).packetCount = (pushAll {} others).packetCount ∧
      (∀ hostTimestampNanoseconds,
        (pushAll {} arrivals).firstPacketAtOrAfter hostTimestampNanoseconds =
          (pushAll {} others).firstPacketAtOrAfter hostTimestampNanoseconds) ∧
      ∀ operations, (pushAll {} arrivals).outputs operations =
        (pushAll {} others).outputs operations := by
  have hkeys : (((arrivals.map Prod.snd).map entryOf).map Prod.fst).Nodup := by
    have hnat := List.Nodup.map (fun a b => UInt64.toNat_inj.mp) hdistinct
    rw [List.map_map] at hnat
    rw [List.map_map, List.map_map]
    exact hnat
  have hkeys' : (((others.map Prod.snd).map entryOf).map Prod.fst).Nodup :=
    ((hperm.map entryOf).map Prod.fst).nodup_iff.mp hkeys
  have hsame {other : Int × AudioPacket} (hother : other ∈ others) :
      ∃ arrival ∈ arrivals, arrival.2 = other.2 :=
    List.mem_map.mp (hperm.symm.subset (List.mem_map_of_mem hother))
  have hcollected := collected_pushAll hvalid hformat hkeys
  have hcollected' : Collected (others.map Prod.snd) (pushAll {} others) := by
    refine @collected_pushAll others format ?_ ?_ hkeys'
    · intro other hother
      obtain ⟨arrival, harrival, heq⟩ := hsame hother
      exact heq ▸ hvalid arrival harrival
    · intro other hother
      obtain ⟨arrival, harrival, heq⟩ := hsame hother
      exact heq ▸ hformat arrival harrival
  have hformats : ∀ p ∈ arrivals.map Prod.snd, incomingFormat p = format := by
    intro p hp
    obtain ⟨arrival, harrival, rfl⟩ := List.mem_map.mp hp
    exact hformat arrival harrival
  have hagrees : Agrees (pushAll {} arrivals) (pushAll {} others) :=
    hcollected.agrees hcollected' hperm hkeys hformats
  have hlength : (arrivals.map Prod.snd).length = arrivals.length := List.length_map _
  refine ⟨hagrees.packets_eq, ?_, hagrees.format_eq, hagrees.latestEndFrame_eq,
    hagrees.latestEndFrameAtomic_eq, ?_, ?_, hagrees.packetCount, hagrees.firstPacketAtOrAfter,
    hagrees.outputs⟩
  · intro e
    have hcount (packet : AudioPacket) :
        (((arrivals.map Prod.snd).map entryOf).countP fun a => (entryOf packet).1 < a.1) =
          arrivals.countP fun other => packet.startFrame < other.2.startFrame := by
      rw [List.countP_map, List.countP_map]
      rfl
    rw [hcollected.entries_eq, mem_largest hkeys]
    constructor
    · rintro ⟨he, hlt⟩
      obtain ⟨p, hp, rfl⟩ := List.mem_map.mp he
      obtain ⟨arrival, harrival, rfl⟩ := List.mem_map.mp hp
      exact ⟨arrival, harrival, rfl, hcount arrival.2 ▸ hlt⟩
    · rintro ⟨arrival, harrival, rfl, hlt⟩
      exact ⟨List.mem_map_of_mem (List.mem_map_of_mem harrival), (hcount arrival.2).symm ▸ hlt⟩
  · rw [hcollected.overflowPackets_eq, hlength]
  · rw [hcollected'.overflowPackets_eq, ← hperm.length_eq, hlength]

/-- Two overlapping packets arrive in either order. -/
theorem arrival_order_irrelevant_pair :
    let early : AudioPacket := {
      sampleRate := 48000, channelCount := 1, startFrame := 96, frameCount := 2
      pcmPayload := [1, 0, 2, 0] }
    let late : AudioPacket := {
      sampleRate := 48000, channelCount := 1, startFrame := 97, frameCount := 2
      pcmPayload := [3, 0, 4, 0] }
    ∀ operations, (pushAll {} [(10, early), (20, late)]).outputs operations =
      (pushAll {} [(30, late), (40, early)]).outputs operations := by
  intro early late operations
  have hvalid : ∀ arrival ∈ [((10 : Int), early), (20, late)], Pushable arrival.2 := by
    intro arrival harrival
    rcases List.mem_pair.mp harrival with rfl | rfl
    · exact ⟨by decide, by decide⟩
    · exact ⟨by decide, by decide⟩
  have hformat : ∀ arrival ∈ [((10 : Int), early), (20, late)],
      incomingFormat arrival.2 = ⟨48000, 1⟩ := by
    intro arrival harrival
    rcases List.mem_pair.mp harrival with rfl | rfl
    · rfl
    · rfl
  have hagree := @arrival_order_irrelevant [(10, early), (20, late)] [(30, late), (40, early)] _
    (List.Perm.swap late early []) hvalid hformat (by decide)
  exact hagree.2.2.2.2.2.2.2.2.2 operations

end SyncAudio.JitterBuffer
