import SyncAudio.Ios.QueueArithmetic

/-!
# Progress of the playback queue

Packets of any start and length may be held together. The cursor moves to the
end of each packet that is returned, and a held packet that starts before that
end is left behind it. Such a packet is neither returned nor dropped, and it is
the first one of the queue, so `popNext` has no silence to return either.

## Implementation notes

`popNext` returns what `popChecked` does, so no arithmetic traps. A packet may be
inserted again after it was returned; the history counts insertions.
-/

namespace SyncAudio.Ios.PacketPlaybackQueue

/-- The calls on a queue. -/
inductive Operation where
  | insert (received : ReceivedPacket)
  | popNext
  | discard (timestamp : Binary64)

/-- A queue, the packets that it took, and those that it returned. -/
structure History where
  queue : PacketPlaybackQueue := {}
  taken : List AudioPacket := []
  returned : List AudioPacket := []

/-- The packet of an item, if it is one. -/
def sentPacket : Option PlaybackItem → List AudioPacket
  | some (.packet packet) => [packet]
  | _ => []

namespace History

def step (history : History) : Operation → History
  | .insert received =>
      let (inserted, queue) := history.queue.insert received.packet
      { history with
        queue
        taken := if inserted then received.packet :: history.taken else history.taken }
  | .popNext =>
      let (item, queue) := history.queue.popNext
      { history with queue, returned := sentPacket item ++ history.returned }
  | .discard timestamp => { history with queue := history.queue.discard timestamp }

def after (operations : List Operation) : History :=
  operations.foldl step {}

end History

/-- A held packet that ends behind the cursor does not lie before it, or another packet
starts right at the cursor. -/
def Unblocked (queue : PacketPlaybackQueue) : Prop :=
  ∀ c ∈ queue.cursor, (∃ e ∈ queue.packets.entries, c < e.2.endFrame) →
    (∃ e ∈ queue.packets.entries, e.1 = c) ∨ ∀ e ∈ queue.packets.entries, c < e.1

/-- No other held packet starts before the end of the packet at the cursor. -/
def TakesAlone (queue : PacketPlaybackQueue) : Prop :=
  ∀ e ∈ queue.packets.entries, queue.cursor = some e.1 →
    ∀ other ∈ queue.packets.entries, other ≠ e → e.2.endFrame ≤ other.1

/-- Whenever a packet is returned, no other held packet starts before its end. -/
def History.PopsAlone (operations : List Operation) : Prop :=
  ∀ before rest, operations = before ++ .popNext :: rest → (History.after before).queue.TakesAlone

/-- What the queue promises to the player. -/
structure History.KeepsPlaying (history : History) : Prop where
  progress : ∀ e ∈ history.queue.packets.entries,
    (∀ c ∈ history.queue.cursor, c < e.2.endFrame) → ∃ item, history.queue.popNext.1 = some item
  forward : ∀ item, history.queue.popNext.1 = some item →
    ∃ c later, history.queue.cursor = some c ∧ history.queue.popNext.2.cursor = some later ∧
      c < later
  own_frame : ∀ packet, history.queue.popNext.1 = some (.packet packet) →
    history.queue.cursor = some packet.startFrame.toNat
  once : ∀ packet, history.returned.count packet ≤ history.taken.count packet
  silence : ∀ count, history.queue.popNext.1 = some (.silence count) →
    ∀ c ∈ history.queue.cursor, ∀ e ∈ history.queue.packets.entries,
      c + count ≤ e.2.startFrame.toNat
  size_le : history.queue.packets.size ≤ maximumPackets

variable {queue : PacketPlaybackQueue} {packet : AudioPacket} {history : History}

/-- The packets of the queue. -/
def held (queue : PacketPlaybackQueue) : List AudioPacket :=
  queue.packets.entries.map Prod.snd

/-- The three outcomes of `popNext`. -/
theorem popNext_cases (queue : PacketPlaybackQueue) :
    (∃ c packet, queue.cursor = some c ∧ (c, packet) ∈ queue.packets.entries ∧
        queue.popNext = (some (.packet packet), { queue with
          packets := queue.packets.erase c
          cursor := some (c + packet.frameCount.toNat) })) ∨
      (∃ c next, queue.cursor = some c ∧ queue.packets.firstKey = some next ∧ c < next ∧
        queue.popNext = (some (.silence (min (next - c) 1024)), { queue with
          cursor := some (c + min (next - c) 1024) })) ∨
      queue.popNext = (none, queue) ∧ ∀ c ∈ queue.cursor, ∀ next ∈ queue.packets.firstKey,
        queue.packets.lookup c = none ∧ next ≤ c := by
  unfold popNext
  cases hcursor : queue.cursor with
  | none => exact .inr (.inr ⟨rfl, fun c hc => absurd hc (Option.not_mem_none c)⟩)
  | some c =>
      cases hnext : queue.packets.firstKey with
      | none => exact .inr (.inr ⟨rfl, fun _ _ next hn => absurd hn (Option.not_mem_none next)⟩)
      | some next =>
          dsimp only
          cases hlookup : queue.packets.lookup c with
          | some packet =>
              exact .inl ⟨c, packet, rfl, OrderedMap.mem_of_lookup hlookup, rfl⟩
          | none =>
              dsimp only
              by_cases hgap : next > c
              · rw [if_pos hgap]
                exact .inr (.inl ⟨c, next, rfl, rfl, hgap, rfl⟩)
              · rw [if_neg hgap]
                refine .inr (.inr ⟨rfl, ?_⟩)
                intro position hposition first hfirst
                cases hposition
                cases hfirst
                exact ⟨hlookup, Nat.le_of_not_lt hgap⟩

/-- The queue that an insertion starts from. -/
def baseFor (queue : PacketPlaybackQueue) (packet : AudioPacket) : PacketPlaybackQueue :=
  if queue.Foreign packet then forStream packet else queue

/-- The three outcomes of `insert`. -/
theorem insert_cases (queue : PacketPlaybackQueue) (packet : AudioPacket) :
    let base := queue.baseFor packet
    let packets := base.packets.assign packet.startFrame.toNat packet
    queue.insert packet = (false, base) ∨
      (∀ c ∈ base.cursor, c ≤ packet.startFrame.toNat) ∧
        ((packets.size ≤ maximumPackets ∧
            queue.insert packet = (true, { base with
              packets, cursor := some (base.cursor.getD packet.startFrame.toNat) })) ∨
          maximumPackets < packets.size ∧
            queue.insert packet = (true, { base with
              packets := packets.eraseFirst, cursor := packets.eraseFirst.firstKey })) := by
  intro base packets
  have hinsert : queue.insert packet = base.insertOfStream packet := by
    unfold insert base baseFor
    split_ifs
    · rfl
    · rfl
  rw [hinsert]
  unfold insertOfStream
  by_cases hrefused : (base.cursor.any fun cursor => packet.startFrame.toNat < cursor) = true
  · rw [if_pos hrefused]
    exact .inl rfl
  · have hle : ∀ c ∈ base.cursor, c ≤ packet.startFrame.toNat := by
      intro c hc
      rw [Option.mem_def.mp hc, Option.any_some, decide_eq_true_eq] at hrefused
      exact Nat.le_of_not_lt hrefused
    rw [if_neg hrefused]
    dsimp only
    by_cases hsize : packets.size > maximumPackets
    · rw [if_pos hsize]
      exact .inr ⟨hle, .inr ⟨hsize, rfl⟩⟩
    · rw [if_neg hsize]
      exact .inr ⟨hle, .inl ⟨Nat.le_of_not_lt hsize, rfl⟩⟩

/-- What is refused starts before the cursor. -/
theorem insert_refused (h : (queue.insert packet).1 = false) :
    ∃ c ∈ (queue.baseFor packet).cursor, packet.startFrame.toNat < c := by
  have hinsert : queue.insert packet = (queue.baseFor packet).insertOfStream packet := by
    unfold insert baseFor
    split_ifs
    · rfl
    · rfl
  rw [hinsert] at h
  unfold insertOfStream at h
  dsimp only at h
  split_ifs at h with hrefused
  obtain ⟨c, hc, hlt⟩ := (Option.any_eq_true _ _).mp hrefused
  exact ⟨c, hc, of_decide_eq_true hlt⟩

/-- What holds of a queue and its history after any operations. -/
structure History.Kept (history : History) : Prop where
  sound : history.queue.Sound
  size_le : history.queue.packets.size ≤ maximumPackets
  empty : history.queue.cursor = none → history.queue.packets.entries = []
  once : ∀ packet, history.returned.count packet + history.queue.held.count packet ≤
    history.taken.count packet

/-- Every held packet starts at the cursor or behind it. -/
def Ahead (queue : PacketPlaybackQueue) : Prop :=
  ∀ c ∈ queue.cursor, ∀ e ∈ queue.packets.entries, c ≤ e.1

theorem size_assign_le (packets : OrderedMap Nat AudioPacket) (k : Nat) (packet : AudioPacket) :
    (packets.assign k packet).size ≤ packets.size + 1 := by
  unfold OrderedMap.size OrderedMap.assign
  dsimp only
  rw [OrderedMap.length_insertEntry]
  exact Nat.succ_le_succ (List.length_filter_le _ _)

theorem held_sublist {entries others : List (Nat × AudioPacket)} (h : entries.Sublist others)
    (packet : AudioPacket) :
    (entries.map Prod.snd).count packet ≤ (others.map Prod.snd).count packet :=
  (h.map Prod.snd).count_le packet

theorem held_assign (packets : OrderedMap Nat AudioPacket) (k : Nat) (packet other : AudioPacket) :
    ((packets.assign k packet).entries.map Prod.snd).count other ≤
      (packet :: packets.entries.map Prod.snd).count other := by
  have hperm := (OrderedMap.perm_insertEntry k packet
    (packets.entries.filter fun e => e.1 ≠ k)).map Prod.snd
  unfold OrderedMap.assign
  dsimp only
  rw [hperm.count_eq, List.map_cons, List.count_cons, List.count_cons]
  exact Nat.add_le_add_right (held_sublist List.filter_sublist other) _

/-- The erased packet is no longer held. -/
theorem held_erase {packets : OrderedMap Nat AudioPacket} {k : Nat}
    (h : (k, packet) ∈ packets.entries) (other : AudioPacket) :
    ([packet].count other) + ((packets.erase k).entries.map Prod.snd).count other ≤
      (packets.entries.map Prod.snd).count other := by
  have hperm := List.filter_append_perm (fun e => e.1 = k) packets.entries
  have hmem : packet ∈ (packets.entries.filter fun e => e.1 = k).map Prod.snd :=
    List.mem_map.mpr ⟨_, List.mem_filter.mpr ⟨h, decide_eq_true rfl⟩, rfl⟩
  have hone := (List.singleton_sublist.mpr hmem).count_le other
  have hcount := (hperm.map Prod.snd).count_eq other
  rw [List.map_append, List.count_append] at hcount
  rw [← hcount]
  apply Nat.add_le_add hone
  apply le_of_eq
  unfold OrderedMap.erase
  simp

theorem held_baseFor (queue : PacketPlaybackQueue) (packet other : AudioPacket) :
    (queue.baseFor packet).held.count other ≤ queue.held.count other := by
  unfold baseFor
  split_ifs
  · exact Nat.zero_le _
  · exact le_rfl

theorem size_baseFor (queue : PacketPlaybackQueue) (packet : AudioPacket) :
    (queue.baseFor packet).packets.size ≤ queue.packets.size := by
  unfold baseFor
  split_ifs
  · exact Nat.zero_le _
  · exact le_rfl

theorem empty_baseFor (h : queue.cursor = none → queue.packets.entries = [])
    (hcursor : (queue.baseFor packet).cursor = none) :
    (queue.baseFor packet).packets.entries = [] := by
  unfold baseFor at hcursor ⊢
  split_ifs at hcursor ⊢
  · rfl
  · exact h hcursor

theorem ahead_baseFor (h : queue.Ahead) : (queue.baseFor packet).Ahead := by
  unfold baseFor
  split_ifs
  · exact fun c hc => absurd hc (Option.not_mem_none c)
  · exact h

theorem kept_initial : ({} : History).Kept where
  sound := sound_empty
  size_le := Nat.zero_le _
  empty := fun _ => rfl
  once := fun _ => le_rfl

theorem History.Kept.insert (h : history.Kept) (received : ReceivedPacket) :
    (history.step (.insert received)).Kept := by
  have hsound := h.sound.insert (AudioPacket.accepted_of_parsed received.parsed)
  have hbase := size_baseFor history.queue received.packet
  have hassign := size_assign_le (history.queue.baseFor received.packet).packets
    received.packet.startFrame.toNat received.packet
  have hheld := held_baseFor history.queue received.packet
  have hassigned := held_assign (history.queue.baseFor received.packet).packets
    received.packet.startFrame.toNat received.packet
  have hsize := h.size_le
  obtain hrefused | ⟨-, ⟨hfits, htaken⟩ | ⟨-, htaken⟩⟩ := insert_cases history.queue received.packet
  · rw [hrefused] at hsound
    rw [step, hrefused]
    refine ⟨hsound, hbase.trans hsize, empty_baseFor h.empty, ?_⟩
    intro other
    exact (Nat.add_le_add_left (hheld other) _).trans (h.once other)
  · rw [htaken] at hsound
    rw [step, htaken]
    refine ⟨hsound, hfits, fun hnone => absurd hnone (Option.some_ne_none _), ?_⟩
    intro other
    have honce := h.once other
    have hother := hassigned other
    have hbefore := hheld other
    unfold held at honce hbefore ⊢
    dsimp only at honce ⊢
    rw [if_pos rfl]
    rw [List.count_cons] at hother ⊢
    omega
  · rw [htaken] at hsound
    rw [step, htaken]
    refine ⟨hsound, ?_, OrderedMap.firstKey_eq_none, ?_⟩
    · unfold OrderedMap.size OrderedMap.eraseFirst at *
      dsimp only
      rw [List.length_tail]
      omega
    · intro other
      have honce := h.once other
      have hother := hassigned other
      have hbefore := hheld other
      have htail := held_sublist (List.tail_sublist
        ((history.queue.baseFor received.packet).packets.assign
          received.packet.startFrame.toNat received.packet).entries) other
      unfold held at honce hbefore ⊢
      unfold OrderedMap.eraseFirst
      dsimp only at honce ⊢
      rw [if_pos rfl]
      rw [List.count_cons] at hother ⊢
      omega

theorem History.Kept.popNext (h : history.Kept) : (history.step .popNext).Kept := by
  have hsound := h.sound.popNext
  obtain ⟨c, packet, hcursor, hmem, hpop⟩ | ⟨c, next, hcursor, -, -, hpop⟩ | ⟨hpop, -⟩ :=
    popNext_cases history.queue
  · rw [hpop] at hsound
    rw [step, hpop]
    refine ⟨hsound, ?_, fun hnone => absurd hnone (Option.some_ne_none _), ?_⟩
    · exact (List.length_filter_le _ _).trans h.size_le
    · intro other
      have honce := h.once other
      have herase := held_erase hmem other
      unfold held at honce ⊢
      unfold sentPacket
      dsimp only at honce ⊢
      rw [List.count_append]
      omega
  · rw [hpop] at hsound
    rw [step, hpop]
    exact ⟨hsound, h.size_le, fun hnone => absurd hnone (Option.some_ne_none _), h.once⟩
  · rw [step, hpop]
    exact h

theorem History.Kept.discard (h : history.Kept) (timestamp : Binary64) :
    (history.step (.discard timestamp)).Kept where
  sound := h.sound.discard timestamp
  size_le := (List.length_filter_le _ _).trans h.size_le
  empty := OrderedMap.firstKey_eq_none
  once := fun other => (Nat.add_le_add_left (held_sublist List.filter_sublist other) _).trans
    (h.once other)

theorem History.after_concat (operations : List Operation) (operation : Operation) :
    after (operations ++ [operation]) = (after operations).step operation := by
  rw [after, List.foldl_append]
  rfl

/-- The invariant of all runs. -/
theorem kept_after (operations : List Operation) : (History.after operations).Kept := by
  induction operations using List.reverseRecOn with
  | nil => exact kept_initial
  | append_singleton operations operation ih =>
      rw [History.after_concat]
      cases operation with
      | insert received => exact ih.insert received
      | popNext => exact ih.popNext
      | discard timestamp => exact ih.discard timestamp

theorem ahead_firstKey (packets : OrderedMap Nat AudioPacket) :
    ({ queue with packets, cursor := packets.firstKey } : PacketPlaybackQueue).Ahead :=
  fun _ hc => OrderedMap.firstKey_le hc

theorem History.Kept.ahead_insert (h : history.Kept) (hahead : history.queue.Ahead)
    (received : ReceivedPacket) : (history.step (.insert received)).queue.Ahead := by
  have hbase := @ahead_baseFor history.queue received.packet hahead
  have hempty := @empty_baseFor history.queue received.packet h.empty
  obtain hrefused | ⟨hle, ⟨-, htaken⟩ | ⟨-, htaken⟩⟩ := insert_cases history.queue received.packet
  · rw [step, hrefused]
    exact hbase
  · rw [step, htaken]
    intro c hc e he
    dsimp only at hc he
    cases hcursor : (history.queue.baseFor received.packet).cursor with
    | none =>
        rw [hcursor] at hc
        cases hc
        obtain rfl | hheld := OrderedMap.mem_assign he
        · exact le_rfl
        · rw [hempty hcursor] at hheld
          cases hheld
    | some first =>
        rw [hcursor] at hc
        cases hc
        obtain rfl | hheld := OrderedMap.mem_assign he
        · exact hle first hcursor
        · exact hbase first hcursor e hheld
  · rw [step, htaken]
    exact ahead_firstKey _

theorem History.Kept.ahead_popNext (h : history.Kept) (hahead : history.queue.Ahead)
    (halone : history.queue.TakesAlone) : (history.step .popNext).queue.Ahead := by
  obtain ⟨c, packet, hcursor, hmem, hpop⟩ | ⟨c, next, hcursor, hnext, hgap, hpop⟩ | ⟨hpop, -⟩ :=
    popNext_cases history.queue
  · rw [step, hpop]
    intro later hlater e he
    cases hlater
    obtain ⟨hheld, hother⟩ := List.mem_filter.mp he
    have hne : e ≠ (c, packet) := by
      rintro rfl
      exact of_decide_eq_true hother rfl
    have hend := halone (c, packet) hmem hcursor e hheld hne
    have hstart : c = packet.startFrame.toNat := (h.sound.entries _ hmem).1
    unfold AudioPacket.endFrame at hend
    dsimp only at hend
    omega
  · rw [step, hpop]
    intro later hlater e he
    cases hlater
    have hfirst := OrderedMap.firstKey_le hnext e he
    omega
  · rw [step, hpop]
    exact hahead

/-- A queue that returns no packet over the start of another one stays ahead of its cursor. -/
theorem ahead_after (operations : List Operation) (halone : History.PopsAlone operations) :
    (History.after operations).queue.Ahead := by
  induction operations using List.reverseRecOn with
  | nil => exact fun c hc => absurd hc (Option.not_mem_none c)
  | append_singleton operations operation ih =>
      have hbefore : History.PopsAlone operations := by
        intro before rest heq
        apply halone before (rest ++ [operation])
        rw [heq, List.append_assoc]
        rfl
      have hkept := kept_after operations
      have hahead := ih hbefore
      rw [History.after_concat]
      cases operation with
      | insert received => exact hkept.ahead_insert hahead received
      | popNext => exact hkept.ahead_popNext hahead (halone operations [] rfl)
      | discard timestamp => exact ahead_firstKey _

theorem Ahead.unblocked (h : queue.Ahead) : queue.Unblocked := by
  intro c hc _
  by_cases hat : ∃ e ∈ queue.packets.entries, e.1 = c
  · exact .inl hat
  · refine .inr fun e he => lt_of_le_of_ne (h c hc e he) ?_
    intro heq
    exact hat ⟨e, he, heq.symm⟩

/-- A packet that is returned starts at the cursor, which moves behind it. -/
theorem History.Kept.forward (h : history.Kept) {item : PlaybackItem}
    (hitem : history.queue.popNext.1 = some item) :
    ∃ c later, history.queue.cursor = some c ∧ history.queue.popNext.2.cursor = some later ∧
      c < later := by
  obtain ⟨c, packet, hcursor, hmem, hpop⟩ | ⟨c, next, hcursor, -, hgap, hpop⟩ | ⟨hpop, -⟩ :=
    popNext_cases history.queue
  · have hframes := (h.sound.entries _ hmem).2.frameCount_pos
    rw [hpop]
    exact ⟨c, _, hcursor, rfl, Nat.lt_add_of_pos_right hframes⟩
  · rw [hpop]
    exact ⟨c, _, hcursor, rfl, by omega⟩
  · rw [hpop] at hitem
    cases hitem

theorem History.Kept.own_frame (h : history.Kept)
    (hitem : history.queue.popNext.1 = some (.packet packet)) :
    history.queue.cursor = some packet.startFrame.toNat := by
  obtain ⟨c, sent, hcursor, hmem, hpop⟩ | ⟨c, next, -, -, -, hpop⟩ | ⟨hpop, -⟩ :=
    popNext_cases history.queue
  · rw [hpop] at hitem
    cases hitem
    have hstart : c = packet.startFrame.toNat := (h.sound.entries _ hmem).1
    rw [hcursor, hstart]
  · rw [hpop] at hitem
    cases hitem
  · rw [hpop] at hitem
    cases hitem

theorem History.Kept.silence (h : history.Kept) {count : Nat}
    (hitem : history.queue.popNext.1 = some (.silence count)) :
    ∀ c ∈ history.queue.cursor, ∀ e ∈ history.queue.packets.entries,
      c + count ≤ e.2.startFrame.toNat := by
  obtain ⟨c, sent, -, -, hpop⟩ | ⟨c, next, hcursor, hnext, hgap, hpop⟩ | ⟨hpop, -⟩ :=
    popNext_cases history.queue
  · rw [hpop] at hitem
    cases hitem
  · rw [hpop] at hitem
    cases hitem
    intro position hposition e he
    have heq : position = c := Option.some.inj (hposition.symm.trans hcursor)
    have hfirst := OrderedMap.firstKey_le hnext e he
    have hstart := (h.sound.entries e he).1
    omega
  · rw [hpop] at hitem
    cases hitem

/-- There is something to return exactly if the queue is not blocked. -/
theorem History.Kept.progress_iff (h : history.Kept) :
    (∀ e ∈ history.queue.packets.entries, (∀ c ∈ history.queue.cursor, c < e.2.endFrame) →
      ∃ item, history.queue.popNext.1 = some item) ↔ history.queue.Unblocked := by
  constructor
  · intro hprogress c hc hends
    obtain ⟨e, he, hend⟩ := hends
    obtain ⟨item, hitem⟩ := hprogress e he fun position hposition =>
      Option.some.inj (hc.symm.trans hposition) ▸ hend
    obtain ⟨first, packet, hcursor, hmem, -⟩ | ⟨first, next, hcursor, hnext, hgap, -⟩ | ⟨hpop, -⟩ :=
      popNext_cases history.queue
    · exact .inl ⟨_, hmem, Option.some.inj (hcursor.symm.trans hc)⟩
    · have heq : first = c := Option.some.inj (hcursor.symm.trans hc)
      exact .inr fun other hother =>
        (heq ▸ hgap).trans_le (OrderedMap.firstKey_le hnext other hother)
    · rw [hpop] at hitem
      cases hitem
  · intro hunblocked e he hends
    obtain ⟨c, packet, -, -, hpop⟩ | ⟨c, next, -, -, -, hpop⟩ | ⟨hpop, hblocked⟩ :=
      popNext_cases history.queue
    · rw [hpop]
      exact ⟨_, rfl⟩
    · rw [hpop]
      exact ⟨_, rfl⟩
    · exfalso
      cases hcursor : history.queue.cursor with
      | none =>
          rw [h.empty hcursor] at he
          cases he
      | some c =>
          cases hnext : history.queue.packets.firstKey with
          | none =>
              rw [OrderedMap.firstKey_eq_none hnext] at he
              cases he
          | some next =>
              obtain ⟨hlookup, hle⟩ := hblocked c hcursor next hnext
              obtain ⟨other, hother, hat⟩ | hlater :=
                hunblocked c hcursor ⟨e, he, hends c hcursor⟩
              · have hfound : history.queue.packets.lookup c = some other.2 :=
                  OrderedMap.lookup_of_mem (hat ▸ hother)
                rw [hlookup] at hfound
                cases hfound
              · obtain ⟨first, hfirst⟩ := OrderedMap.mem_of_firstKey hnext
                exact absurd (hlater _ hfirst) (Nat.not_lt_of_le hle)

/-- After any operations the queue keeps its promises exactly if it is not blocked, and it is
never blocked as long as no packet is returned over the start of another one. -/
theorem keeps_playing_iff (operations : List Operation) :
    ((History.after operations).KeepsPlaying ↔ (History.after operations).queue.Unblocked) ∧
      (History.PopsAlone operations → (History.after operations).queue.Unblocked) := by
  have hkept := kept_after operations
  constructor
  · rw [← hkept.progress_iff]
    constructor
    · exact fun h => h.progress
    · intro hprogress
      constructor
      · exact hprogress
      · exact fun item hitem => hkept.forward hitem
      · exact fun packet hitem => hkept.own_frame hitem
      · exact fun packet => (Nat.le_add_right _ _).trans (hkept.once packet)
      · exact fun count hitem => hkept.silence hitem
      · exact hkept.size_le
  · exact fun halone => (ahead_after operations halone).unblocked

/-- A mono packet of two frames that starts at frame `start`. -/
def pairDatagram (start : UInt8) : List UInt8 :=
  [0x53, 0x41, 0x55, 0x44, 2, 52, 0, 0, 0, 0, 0, 0, 0, 0, 0, 7, 0, 0, 0, start, 0, 0, 0xbb, 0x80,
    0, 1, 1, 0, 0, 0, 0, 0, 0, 0, 0, start, 0, 0, 0, 0, 0x3b, 0x9a, 0xca, 0, 0, 4, 0, 2,
    0, 0, 0, 1, 5, 6, 7, 8]

def pairPacket (start : UInt8) : AudioPacket where
  sessionID := 7
  streamID := 1
  sequenceNumber := start.toUInt32
  sampleRate := 48000
  channels := 1
  startFrame := start.toUInt64
  presentationTimestampNanoseconds := 1000000000
  frameCount := 2
  pcmPayload := [5, 6, 7, 8]

theorem firstPair_parsed :
    AudioPacket.ofDatagram (pairDatagram 0) = some (some (pairPacket 0)) := by
  decide

theorem secondPair_parsed :
    AudioPacket.ofDatagram (pairDatagram 1) = some (some (pairPacket 1)) := by
  decide

/-- The second packet starts inside the first one. -/
def overlapping : List Operation :=
  [.insert ⟨pairPacket 0, pairDatagram 0, firstPair_parsed⟩,
    .insert ⟨pairPacket 1, pairDatagram 1, secondPair_parsed⟩, .popNext]

theorem overlapping_blocked : ¬ (History.after overlapping).KeepsPlaying := by
  intro h
  have hmem : (1, pairPacket 1) ∈ (History.after overlapping).queue.packets.entries := by decide
  have hcursor : (History.after overlapping).queue.cursor = some 2 := by decide
  have hnone : (History.after overlapping).queue.popNext.1 = none := by decide
  obtain ⟨item, hitem⟩ := h.progress _ hmem (by
    intro c hc
    have heq : c = 2 := Option.some.inj (hc.symm.trans hcursor)
    rw [heq]
    decide)
  rw [hnone] at hitem
  cases hitem

end SyncAudio.Ios.PacketPlaybackQueue
