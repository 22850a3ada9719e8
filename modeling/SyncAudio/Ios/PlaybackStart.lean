import SyncAudio.Ios.QueueProgress
import SyncAudio.Ios.ScheduledBuffers

/-!
# The frame on which the player starts

`pump` reads the first packet of the queue, fills the engine and then computes the start
time from that packet. The buffer that is played first has to be the one of this packet,
and a player that has filled the engine must not stay unstarted.

## Implementation notes

The packets of one stream are equal or lie apart, whatever stream they belong to, and every
buffer can be created. Before the start nothing has been popped, so the cursor stands at
the first packet; the loop then drains the whole queue or reaches its target.
-/

namespace SyncAudio.Ios

open Checked LabelledRun PlaybackTiming

/-- Packets of one stream are equal or lie apart. -/
def Apart (packets : List AudioPacket) : Prop :=
  ∀ a ∈ packets, ∀ b ∈ packets, a.sessionID = b.sessionID → a.streamID = b.streamID →
    a = b ∨ a.endFrame ≤ b.startFrame.toNat ∨ b.endFrame ≤ a.startFrame.toNat

/-- The packets of a queue are of its stream. -/
structure Holds (packets : List AudioPacket) (queue : PacketPlaybackQueue) : Prop where
  entries : ∀ e ∈ queue.packets.entries, e.2 ∈ packets ∧ e.1 = e.2.startFrame.toNat ∧
    e.2.Accepted ∧ queue.sessionID = some e.2.sessionID ∧ queue.streamID = some e.2.streamID
  sampleRate : ∀ rate ∈ queue.sampleRate, 8000 ≤ rate.toNat ∧ rate.toNat ≤ 192000

/-- A queue from which nothing has been popped. -/
structure Waits (packets : List AudioPacket) (queue : PacketPlaybackQueue) : Prop where
  entries : ∀ e ∈ queue.packets.entries, e.2 ∈ packets ∧ e.1 = e.2.startFrame.toNat ∧
    e.2.Accepted ∧ queue.sessionID = some e.2.sessionID ∧ queue.streamID = some e.2.streamID
  cursor_eq : queue.cursor = queue.packets.firstKey
  sampleRate : ∀ rate ∈ queue.sampleRate, 8000 ≤ rate.toNat ∧ rate.toNat ≤ 192000

/-- A queue that is being popped: its packets lie apart behind the cursor, and the last one
ends at `goal`. -/
structure Drains (goal cursor : Nat) (queue : PacketPlaybackQueue) : Prop where
  sound : queue.Sound
  cursor_eq : queue.cursor = some cursor
  ahead : ∀ e ∈ queue.packets.entries, cursor ≤ e.1
  apart : ∀ e ∈ queue.packets.entries, ∀ f ∈ queue.packets.entries, e.1 < f.1 →
    e.2.endFrame ≤ f.1
  le_goal : ∀ e ∈ queue.packets.entries, e.2.endFrame ≤ goal
  reaches : cursor = goal ∨ ∃ e ∈ queue.packets.entries, e.2.endFrame = goal

section Queues

variable {packets : List AudioPacket} {queue : PacketPlaybackQueue} {packet : AudioPacket}

theorem waits_empty (packets : List AudioPacket) : Waits packets {} where
  entries := fun _ he => absurd he List.not_mem_nil
  cursor_eq := rfl
  sampleRate := fun rate hrate => absurd hrate (Option.not_mem_none rate)

theorem Waits.sound (h : Waits packets queue) : queue.Sound := by
  have hentries : ∀ e ∈ queue.packets.entries, e.1 = e.2.startFrame.toNat ∧ e.2.Accepted := by
    intro e he
    obtain ⟨-, hkey, haccepted, -⟩ := h.entries e he
    exact ⟨hkey, haccepted⟩
  refine ⟨hentries, ?_, fun rate hrate => (h.sampleRate rate hrate).2⟩
  rw [h.cursor_eq]
  exact PacketPlaybackQueue.firstKey_lt hentries

theorem Waits.discard (h : Waits packets queue) (timestamp : Binary64) :
    Waits packets (queue.discard timestamp) where
  entries := fun e he => h.entries e (List.mem_filter.mp he).1
  cursor_eq := rfl
  sampleRate := h.sampleRate

theorem Waits.holds (h : Waits packets queue) : Holds packets queue :=
  ⟨h.entries, h.sampleRate⟩

/-- The queue that an insertion starts from is of the stream of the packet. -/
theorem Holds.baseFor (h : Holds packets queue)
    (hrate : 8000 ≤ packet.sampleRate.toNat ∧ packet.sampleRate.toNat ≤ 192000) :
    Holds packets (queue.baseFor packet) ∧
      (queue.baseFor packet).sessionID = some packet.sessionID ∧
      (queue.baseFor packet).streamID = some packet.streamID := by
  unfold PacketPlaybackQueue.baseFor
  by_cases hforeign : queue.Foreign packet
  · rw [if_pos hforeign]
    refine ⟨⟨fun _ he => absurd he List.not_mem_nil, ?_⟩, rfl, rfl⟩
    intro rate hmem
    rw [← Option.some.inj hmem]
    exact hrate
  · rw [if_neg hforeign]
    unfold PacketPlaybackQueue.Foreign at hforeign
    push Not at hforeign
    exact ⟨h, hforeign.1, hforeign.2.1⟩

theorem Waits.baseFor_cursor (h : Waits packets queue) :
    (queue.baseFor packet).cursor = (queue.baseFor packet).packets.firstKey := by
  unfold PacketPlaybackQueue.baseFor
  split_ifs
  · rfl
  · exact h.cursor_eq

theorem Holds.insert (h : Holds packets queue) (hmem : packet ∈ packets)
    (haccepted : packet.Accepted)
    (hrate : 8000 ≤ packet.sampleRate.toNat ∧ packet.sampleRate.toNat ≤ 192000) :
    Holds packets (queue.insert packet).2 := by
  obtain ⟨hbase, hsession, hstream⟩ := h.baseFor hrate
  have hentries : ∀ e ∈ ((queue.baseFor packet).packets.assign packet.startFrame.toNat
      packet).entries, e.2 ∈ packets ∧ e.1 = e.2.startFrame.toNat ∧ e.2.Accepted ∧
        (queue.baseFor packet).sessionID = some e.2.sessionID ∧
        (queue.baseFor packet).streamID = some e.2.streamID := by
    intro e he
    obtain rfl | hbefore := OrderedMap.mem_assign he
    · exact ⟨hmem, rfl, haccepted, hsession, hstream⟩
    · exact hbase.entries e hbefore
  obtain hrefused | ⟨-, ⟨-, hkept⟩ | ⟨-, hevicted⟩⟩ := queue.insert_cases packet
  · rw [hrefused]
    exact hbase
  · rw [hkept]
    exact ⟨hentries, hbase.sampleRate⟩
  · rw [hevicted]
    refine ⟨?_, hbase.sampleRate⟩
    exact fun e he => hentries e (OrderedMap.mem_eraseFirst.mp he).1

theorem Waits.insert (h : Waits packets queue) (hmem : packet ∈ packets)
    (haccepted : packet.Accepted)
    (hrate : 8000 ≤ packet.sampleRate.toNat ∧ packet.sampleRate.toNat ≤ 192000) :
    Waits packets (queue.insert packet).2 := by
  have hholds := h.holds.insert hmem haccepted hrate
  have hcursor : (queue.insert packet).2.cursor = (queue.insert packet).2.packets.firstKey := by
    obtain hrefused | ⟨hle, ⟨-, hkept⟩ | ⟨-, hevicted⟩⟩ := queue.insert_cases packet
    · rw [hrefused]
      exact h.baseFor_cursor
    · rw [hkept]
      rw [h.baseFor_cursor] at hle ⊢
      exact (OrderedMap.firstKey_assign packet hle).symm
    · rw [hevicted]
  exact ⟨hholds.entries, hcursor, hholds.sampleRate⟩

/-- The packets of a queue lie apart. -/
theorem Holds.apart (h : Holds packets queue) (hapart : Apart packets) :
    ∀ e ∈ queue.packets.entries, ∀ f ∈ queue.packets.entries, e.1 < f.1 →
      e.2.endFrame ≤ f.1 := by
  intro e he f hf hlt
  obtain ⟨heMem, heKey, -, heSession, heStream⟩ := h.entries e he
  obtain ⟨hfMem, hfKey, hfAccepted, hfSession, hfStream⟩ := h.entries f hf
  have hsession := Option.some.inj (heSession.symm.trans hfSession)
  have hstream := Option.some.inj (heStream.symm.trans hfStream)
  obtain heq | hbefore | hbehind := hapart e.2 heMem f.2 hfMem hsession hstream
  · rw [heKey, hfKey, heq] at hlt
    exact absurd hlt (Nat.lt_irrefl _)
  · rw [hfKey]
    exact hbefore
  · have hfEnd : f.2.startFrame.toNat ≤ f.2.endFrame := Nat.le_add_right _ _
    omega

/-- What is buffered reaches from the first packet to the end of the last one. -/
theorem Waits.drains (h : Waits packets queue) (hapart : Apart packets) {cursor frames : Nat}
    (hcursor : queue.cursor = some cursor) (hframes : queue.bufferedFrames = some frames) :
    ∃ goal, Drains goal cursor queue ∧ cursor + frames = goal := by
  have hfirst : queue.packets.firstKey = some cursor := h.cursor_eq.symm.trans hcursor
  obtain ⟨packet, hpacket⟩ := OrderedMap.mem_of_firstKey hfirst
  have hends := PacketPlaybackQueue.checkedEnds fun e he => (h.sound.entries e he).2
  unfold PacketPlaybackQueue.bufferedFrames at hframes
  rw [hcursor] at hframes
  dsimp only at hframes
  rw [hends, some_bind] at hframes
  cases hmax : (queue.packets.entries.map fun entry => entry.2.endFrame).max? with
  | none =>
      have hnil := List.map_eq_nil_iff.mp (List.max?_eq_none_iff.mp hmax)
      rw [hnil] at hpacket
      cases hpacket
  | some last =>
      obtain ⟨hmem, hbound⟩ := List.max?_eq_some_iff.mp hmax
      obtain ⟨entry, hentry, hlast⟩ := List.mem_map.mp hmem
      have hle : ∀ e ∈ queue.packets.entries, e.2.endFrame ≤ last :=
        fun e he => hbound _ (List.mem_map_of_mem he)
      have hkey : cursor = packet.startFrame.toNat := (h.entries _ hpacket).2.1
      have hpositive := (h.entries _ hpacket).2.2.1.frameCount_pos
      have hend := hle _ hpacket
      have hless : cursor < last := by
        unfold AudioPacket.endFrame at hend
        dsimp only at hend hpositive
        omega
      rw [hmax] at hframes
      dsimp only at hframes
      rw [if_pos hless] at hframes
      refine ⟨last, ⟨h.sound, hcursor, OrderedMap.firstKey_le hfirst, h.holds.apart hapart, hle,
        .inr ⟨entry, hentry, hlast⟩⟩, ?_⟩
      have hlastLt := (h.sound.entries entry hentry).2.endFrame_lt
      rw [sub64_of_le hless.le (by omega)] at hframes
      have hframesEq := Option.some.inj hframes
      omega

variable {goal cursor : Nat}

/-- A queue that is being popped is at the end of its last packet or hands out an item. -/
theorem Drains.popNext (h : Drains goal cursor queue) :
    (queue.popNext = (none, queue) ∧ cursor = goal) ∨
      ∃ item next, queue.popNext = (some item, next) ∧ 0 < item.frames ∧
        Drains goal (cursor + item.frames) next := by
  have hsound := h.sound.popNext
  obtain ⟨c, packet, hc, hmem, hpop⟩ | ⟨c, next, hc, hnext, hlt, hpop⟩ | ⟨hpop, hnone⟩ :=
    queue.popNext_cases
  · have hcursor : c = cursor := Option.some.inj (hc.symm.trans h.cursor_eq)
    subst hcursor
    obtain ⟨hkey, haccepted⟩ : c = packet.startFrame.toNat ∧ packet.Accepted :=
      h.sound.entries _ hmem
    have hend : c + packet.frameCount.toNat = packet.endFrame :=
      congrArg (· + packet.frameCount.toNat) hkey
    rw [hpop] at hsound
    refine .inr ⟨_, _, hpop, haccepted.frameCount_pos, hsound, rfl, ?_, ?_, ?_, ?_⟩
    · intro e he
      obtain ⟨hbefore, hne⟩ := List.mem_filter.mp he
      have hbehind : c < e.1 := lt_of_le_of_ne (h.ahead e hbefore)
        (Ne.symm (of_decide_eq_true hne))
      exact hend.trans_le (h.apart _ hmem e hbefore hbehind)
    · intro e he f hf
      exact h.apart e (List.mem_filter.mp he).1 f (List.mem_filter.mp hf).1
    · exact fun e he => h.le_goal e (List.mem_filter.mp he).1
    · obtain hdone | ⟨last, hlast, hgoal⟩ := h.reaches
      · have hle := h.le_goal _ hmem
        have hpositive := haccepted.frameCount_pos
        dsimp only at hle hpositive
        omega
      · by_cases hsame : last.1 = c
        · left
          rw [← hgoal, OrderedMap.eq_of_key_eq hlast hmem hsame]
          exact hend
        · exact .inr ⟨last, List.mem_filter.mpr ⟨hlast, decide_eq_true hsame⟩, hgoal⟩
  · have hcursor : c = cursor := Option.some.inj (hc.symm.trans h.cursor_eq)
    subst hcursor
    have hfirst := OrderedMap.firstKey_le hnext
    obtain ⟨first, hfirstMem⟩ := OrderedMap.mem_of_firstKey hnext
    have hcount : 0 < min (next - c) 1024 := by omega
    have hwithin : c + min (next - c) 1024 ≤ next := by omega
    rw [hpop] at hsound
    refine .inr ⟨_, _, hpop, hcount, hsound, rfl, ?_, h.apart, h.le_goal, ?_⟩
    · exact fun e he => hwithin.trans (hfirst e he)
    · obtain hdone | hlast := h.reaches
      · have hle := h.le_goal _ hfirstMem
        have hkey := (h.sound.entries _ hfirstMem).1
        unfold AudioPacket.endFrame at hle
        dsimp only at hle hkey
        omega
      · exact .inr hlast
  · refine .inl ⟨hpop, ?_⟩
    obtain hdone | ⟨last, hlast, -⟩ := h.reaches
    · exact hdone
    · cases hfirst : queue.packets.firstKey with
      | none =>
          rw [OrderedMap.firstKey_eq_none hfirst] at hlast
          cases hlast
      | some next =>
          obtain ⟨hlookup, hle⟩ := hnone cursor h.cursor_eq next hfirst
          obtain ⟨first, hmem⟩ := OrderedMap.mem_of_firstKey hfirst
          have hsame : next = cursor := Nat.le_antisymm hle (h.ahead _ hmem)
          rw [hsame] at hmem
          rw [OrderedMap.lookup_of_mem hmem] at hlookup
          cases hlookup

/-- The first item of a queue from which nothing has been popped is its first packet. -/
theorem Waits.popNext_firstPacket (h : Waits packets queue)
    (hcursor : queue.cursor = some cursor) :
    ∃ packet next, queue.firstPacket = some packet ∧
      queue.popNext = (some (.packet packet), next) := by
  have hfirst : queue.packets.firstKey = some cursor := h.cursor_eq.symm.trans hcursor
  obtain ⟨entry, hhead, hkey⟩ := Option.map_eq_some_iff.mp hfirst
  have hmem : (cursor, entry.2) ∈ queue.packets.entries := by
    rw [← hkey]
    exact List.mem_of_head? hhead
  refine ⟨entry.2, { queue with
    packets := queue.packets.erase cursor
    cursor := some (cursor + entry.2.frameCount.toNat) }, ?_, ?_⟩
  · unfold PacketPlaybackQueue.firstPacket
    rw [hhead]
    rfl
  · unfold PacketPlaybackQueue.popNext
    rw [hcursor, hfirst]
    dsimp only
    rw [OrderedMap.lookup_of_mem hmem]

end Queues

section Loop

variable {s t : Playback} {clock : HostClock} {input : PumpInput}
  {buffers : List ScheduledBuffer} {targetFrames : Int} {converted : Nat → Bool}
  {fuel index goal cursor : Nat}

/-- The loop pops the queue, counts frames, and leaves everything else. -/
theorem schedule_frame
    (hschedule : s.schedule targetFrames converted fuel index = some (t, buffers)) :
    ∃ packets concealedFrames, t = { s with
      packets, concealedFrames, queuedFrames := t.queuedFrames } := by
  induction fuel generalizing s index buffers with
  | zero =>
      cases hschedule
      exact ⟨_, _, rfl⟩
  | succ fuel ih =>
      cases Playback.scheduleTurn hschedule with
      | enough => exact ⟨_, _, rfl⟩
      | stopped => exact ⟨_, _, rfl⟩
      | scheduled _ _ hrest =>
          obtain ⟨packets, concealedFrames, hlast⟩ := ih hrest
          exact ⟨packets, concealedFrames, hlast⟩

/-- Every buffer of the loop is of the generation of the player. -/
theorem schedule_generation
    (hschedule : s.schedule targetFrames converted fuel index = some (t, buffers)) :
    ∀ buffer ∈ buffers, buffer.generation = s.generation := by
  induction fuel generalizing s index buffers with
  | zero =>
      cases hschedule
      exact fun _ hmem => absurd hmem List.not_mem_nil
  | succ fuel ih =>
      cases Playback.scheduleTurn hschedule with
      | enough => exact fun _ hmem => absurd hmem List.not_mem_nil
      | stopped => exact fun _ hmem => absurd hmem List.not_mem_nil
      | scheduled _ _ hrest =>
          intro buffer hmem
          cases List.mem_cons.mp hmem with
          | inl hnew => rw [hnew]
          | inr hlater => exact ih hrest buffer hlater

/-- The loop ends at its target or behind the last packet. -/
theorem schedule_enough (hdrains : Drains goal cursor s.packets)
    (hconverted : ∀ index, converted index = true)
    (hfuel : targetFrames - s.queuedFrames ≤ fuel)
    (hschedule : s.schedule targetFrames converted fuel index = some (t, buffers)) :
    targetFrames ≤ t.queuedFrames ∨ t.queuedFrames = s.queuedFrames + (goal - cursor) := by
  induction fuel generalizing s index buffers cursor with
  | zero =>
      cases hschedule
      exact .inl (by omega)
  | succ fuel ih =>
      cases Playback.scheduleTurn hschedule with
      | enough hreached => exact .inl hreached
      | stopped _ hpop hnone =>
          have hpopNext := Option.some.inj (hdrains.sound.popChecked_eq.symm.trans hpop)
          rw [hnone (hconverted index)] at hpopNext
          obtain ⟨-, hdone⟩ | ⟨_, _, hsome, -⟩ := hdrains.popNext
          · right
            dsimp only
            omega
          · cases hpopNext.symm.trans hsome
      | scheduled _ hpop hrest =>
          have hpopNext := Option.some.inj (hdrains.sound.popChecked_eq.symm.trans hpop)
          obtain ⟨hempty, -⟩ | ⟨taken, _, hsome, hpositive, hnext⟩ := hdrains.popNext
          · cases hpopNext.symm.trans hempty
          · cases hpopNext.symm.trans hsome
            obtain hreached | hall := ih hnext (by dsimp only; omega) hrest
            · exact .inl hreached
            · dsimp only at hall
              exact .inr (by omega)

/-- The first buffer of the loop is the first item of the queue. -/
theorem schedule_head {item : PlaybackItem} {packets : PacketPlaybackQueue}
    (hpop : s.packets.popChecked = some (some item, packets))
    (hconverted : ∀ index, converted index = true) (hless : s.queuedFrames < targetFrames)
    (hschedule : s.schedule targetFrames converted (fuel + 1) index = some (t, buffers)) :
    buffers.head? = some ⟨s.generation, item⟩ := by
  cases Playback.scheduleTurn hschedule with
  | enough hreached => exact absurd hreached (Int.not_le.mpr hless)
  | stopped _ hstop hnone =>
      rw [hnone (hconverted index)] at hstop
      cases hpop.symm.trans hstop
  | scheduled _ hfirst _ =>
      cases hpop.symm.trans hfirst
      rfl

end Loop

/-- The queues of a player: before the start nothing has been popped. -/
structure QueuesWait (packets : List AudioPacket) (s : Playback) : Prop where
  target : IsTarget s.targetBufferMilliseconds
  staged : Waits packets s.stagedPackets
  queue : s.primed = false → Waits packets s.packets

/-- An unstarted player has scheduled nothing in its generation. -/
structure Unstarted (scheduled : List ScheduledBuffer) (s : Playback) : Prop where
  generation_le : ∀ buffer ∈ scheduled, buffer.generation ≤ s.generation
  empty : s.primed = false → s.queuedFrames = 0
  fresh : s.primed = false → ∀ buffer ∈ scheduled, buffer.generation < s.generation

section Players

variable {packets : List AudioPacket} {s t : Playback} {clock : HostClock} {input : PumpInput}
  {scheduled : List ScheduledBuffer}

theorem QueuesWait.primed (h : QueuesWait packets s) (htarget : IsTarget t.targetBufferMilliseconds)
    (hstaged : t.stagedPackets = s.stagedPackets) (hprimed : t.primed = true) :
    QueuesWait packets t where
  target := htarget
  staged := hstaged ▸ h.staged
  queue := fun hunprimed => absurd (hprimed.symm.trans hunprimed) Bool.false_ne_true.symm

theorem QueuesWait.resetStream (h : QueuesWait packets s) (hreset : s.resetStream = some t) :
    QueuesWait packets t := by
  obtain ⟨generation, -, hnext⟩ := Option.bind_eq_some_iff.mp hreset
  cases hnext
  exact ⟨h.target, h.staged, fun _ => waits_empty packets⟩

theorem QueuesWait.resetIf (h : QueuesWait packets s) {condition : Prop} [Decidable condition]
    (hreset : s.resetIf condition = some t) : QueuesWait packets t := by
  unfold Playback.resetIf at hreset
  by_cases hcondition : condition
  · rw [if_pos hcondition] at hreset
    exact h.resetStream hreset
  · rw [if_neg hcondition] at hreset
    cases hreset
    exact h

theorem QueuesWait.takeAction (h : QueuesWait packets s) (htake : s.takeAction input = some t) :
    QueuesWait packets t := by
  unfold Playback.takeAction at htake
  cases haction : s.control.scheduledRoomAction with
  | none =>
      rw [haction] at htake
      cases htake
      exact h
  | some action =>
      cases hestimate : s.clockEstimate with
      | none =>
          rw [haction, hestimate] at htake
          cases htake
          exact h
      | some offset =>
          rw [haction, hestimate] at htake
          dsimp only at htake
          split_ifs at htake
          · obtain ⟨u, hreset, hu⟩ := Option.map_eq_some_iff.mp htake
            cases hu
            have hnext := h.resetStream hreset
            exact ⟨hnext.target, hnext.staged, hnext.queue⟩
          · obtain ⟨u, hreset, hu⟩ := Option.map_eq_some_iff.mp htake
            cases hu
            have hnext := h.resetStream hreset
            exact ⟨hnext.target, waits_empty packets, fun _ => hnext.staged⟩
          · cases htake
            exact ⟨h.target, h.staged, h.queue⟩
          · cases htake
            exact ⟨h.target, h.staged, h.queue⟩

theorem QueuesWait.discardLate (h : QueuesWait packets s) (offset : ClockOffset)
    (input : PumpInput) :
    QueuesWait packets { s.discardLate offset input with formatted := true } := by
  unfold Playback.discardLate
  split_ifs
  · exact ⟨h.target, h.staged, fun hunprimed => (h.queue hunprimed).discard _⟩
  · exact ⟨h.target, h.staged, h.queue⟩

/-- What `pump` has computed and checked where it reaches its loop. -/
theorem enter_inr {entry : LoopEntry} (h : s.enter input = some (.inr entry)) :
    (∃ sampleRate, entry.player.packets.sampleRate = some sampleRate ∧
      framesFor sampleRate entry.player.targetBufferMilliseconds = some entry.prebufferFrames ∧
      framesFor sampleRate (entry.player.targetBufferMilliseconds.add (.ofInt 70)) =
        some entry.targetFrames) ∧
    (entry.player.primed = false → ∃ buffered, entry.player.packets.bufferedFrames = some buffered ∧
      entry.prebufferFrames ≤ buffered) := by
  obtain ⟨u, -, h⟩ := Option.bind_eq_some_iff.mp h
  cases hready : u.ready input with
  | none =>
      rw [hready] at h
      cases h
  | some rated =>
      obtain ⟨sampleRate, offset⟩ := rated
      have hrate := Playback.ready_rate hready
      have hsame : (u.discardLate offset input).packets.sampleRate = some sampleRate ∧
          (u.discardLate offset input).targetBufferMilliseconds = u.targetBufferMilliseconds := by
        unfold Playback.discardLate
        split_ifs
        · exact ⟨hrate, rfl⟩
        · exact ⟨hrate, rfl⟩
      rw [hready] at h
      dsimp only at h
      obtain ⟨prebufferFrames, hprebuffer, h⟩ := Option.bind_eq_some_iff.mp h
      obtain ⟨targetFrames, htarget, h⟩ := Option.bind_eq_some_iff.mp h
      rw [← hsame.2] at hprebuffer htarget
      split_ifs at h with hprimed
      · cases h
        refine ⟨⟨sampleRate, hsame.1, hprebuffer, htarget⟩, ?_⟩
        exact fun hunprimed => absurd (hprimed.symm.trans hunprimed) Bool.false_ne_true.symm
      · obtain ⟨buffered, hbuffered, h⟩ := Option.bind_eq_some_iff.mp h
        obtain ⟨count, hcount, h⟩ := Option.bind_eq_some_iff.mp h
        split_ifs at h with hfew
        · cases h
        · cases h
          refine ⟨⟨sampleRate, hsame.1, hprebuffer, htarget⟩, fun _ => ⟨buffered, hbuffered, ?_⟩⟩
          rw [← signed_eq hcount]
          exact Int.not_lt.mp hfew

theorem QueuesWait.enter (h : QueuesWait packets s) {reached : Playback ⊕ LoopEntry}
    (henter : s.enter input = some reached) : QueuesWait packets (Playback.entered reached) := by
  obtain ⟨u, haction, hreached⟩ := Playback.enter_cases henter
  have hu := h.takeAction haction
  cases hreached with
  | inl hsame => exact hsame ▸ hu
  | inr hready =>
      obtain ⟨offset, hready⟩ := hready
      rw [hready]
      exact hu.discardLate offset input

theorem Unstarted.keeps (h : Unstarted scheduled s) (hkeeps : s.Keeps t) :
    Unstarted scheduled t := by
  cases hkeeps with
  | inl hsame =>
      constructor
      · rw [hsame.generation_eq]
        exact h.generation_le
      · rw [hsame.primed_eq, hsame.queuedFrames_eq]
        exact h.empty
      · rw [hsame.primed_eq, hsame.generation_eq]
        exact h.fresh
  | inr hcut =>
      have hfresh : ∀ buffer ∈ scheduled, buffer.generation < t.generation :=
        fun buffer hmem => (h.generation_le buffer hmem).trans_lt hcut.generation_lt
      exact ⟨fun buffer hmem => (hfresh buffer hmem).le, fun _ => hcut.queuedFrames_eq,
        fun _ => hfresh⟩

/-- The first buffer of a generation is the one of a packet. -/
def FirstIs (scheduled : List ScheduledBuffer) (start : PlayerStart) : Prop :=
  (scheduled.filter fun buffer => buffer.generation = start.generation).head? =
    some ⟨start.generation, .packet start.packet⟩

theorem FirstIs.append {start : PlayerStart} (h : FirstIs scheduled start)
    (more : List ScheduledBuffer) : FirstIs (scheduled ++ more) start := by
  unfold FirstIs at h ⊢
  rw [List.filter_append, List.head?_append, h]
  rfl

/-- The first buffer behind those of earlier generations. -/
theorem firstIs_fresh {start : PlayerStart} {more : List ScheduledBuffer}
    (hfresh : ∀ buffer ∈ scheduled, buffer.generation < start.generation)
    (hhead : more.head? = some ⟨start.generation, .packet start.packet⟩) :
    FirstIs (scheduled ++ more) start := by
  have hnone : (scheduled.filter fun buffer => buffer.generation = start.generation) = [] := by
    apply List.filter_eq_nil_iff.mpr
    intro buffer hmem hsame
    exact absurd (of_decide_eq_true hsame) (hfresh buffer hmem).ne
  cases more with
  | nil => cases hhead
  | cons first rest =>
      cases hhead
      unfold FirstIs
      rw [List.filter_append, hnone, List.nil_append, List.filter_cons_of_pos (by simp)]
      rfl

/-- What one call leaves: queues that wait, and either a player that plays or one that has
scheduled nothing in its generation; and a start is on the first buffer. -/
structure CallStarts (packets : List AudioPacket) (scheduled : List ScheduledBuffer)
    (call : PlaybackCall) : Prop where
  queues : QueuesWait packets call.player
  unstarted : Unstarted (scheduled ++ call.buffers) call.player
  first : ∀ start ∈ call.started, FirstIs (scheduled ++ call.buffers) start

theorem unstarted_primed {buffers : List ScheduledBuffer}
    (hgeneration : ∀ buffer ∈ buffers, buffer.generation ≤ t.generation)
    (hprimed : t.primed = true) : Unstarted buffers t := by
  have hnot : ∀ {P : Prop}, t.primed = false → P :=
    fun hunprimed => absurd (hprimed.symm.trans hunprimed) Bool.false_ne_true.symm
  exact ⟨hgeneration, hnot, hnot⟩

theorem QueuesWait.countUnderrun (h : QueuesWait packets s)
    (hunderrun : s.countUnderrun = some t) : QueuesWait packets t := by
  obtain ⟨rfl, -⟩ | ⟨-, -, underruns, hreset⟩ := Playback.countUnderrun_cases hunderrun
  · exact h
  · apply QueuesWait.resetStream _ hreset
    exact ⟨h.target.raise, h.staged, h.queue⟩

/-- An unstarted player with an empty queue. -/
theorem schedule_empty {targetFrames : Int} {converted : Nat → Bool} {fuel index : Nat}
    {buffers : List ScheduledBuffer} (hcursor : s.packets.cursor = none)
    (hschedule : s.schedule targetFrames converted fuel index = some (t, buffers)) :
    t = s ∧ buffers = [] := by
  cases fuel with
  | zero =>
      cases hschedule
      exact ⟨rfl, rfl⟩
  | succ fuel =>
      have hpop : s.packets.popChecked = some (none, s.packets) := by
        unfold PacketPlaybackQueue.popChecked
        rw [hcursor]
      rw [Playback.schedule] at hschedule
      by_cases hless : s.queuedFrames < targetFrames
      · unfold Playback.queueItem at hschedule
        rw [if_pos hless, hpop, some_bind] at hschedule
        cases hschedule
        exact ⟨rfl, rfl⟩
      · rw [if_neg hless] at hschedule
        cases hschedule
        exact ⟨rfl, rfl⟩

/-- Before the start the loop has nothing to do, or schedules enough frames, the first
packet first. -/
theorem fill_unstarted {entry : LoopEntry} {filled : Playback} {buffers : List ScheduledBuffer}
    (hapart : Apart packets) (hqueues : QueuesWait packets entry.player)
    (hunstarted : Unstarted scheduled entry.player) (hprimed : entry.player.primed = false)
    (henter : s.enter input = some (.inr entry))
    (hconverted : ∀ index, input.converted index = true)
    (hfill : entry.fill input = some (filled, buffers)) :
    (filled = entry.player ∧ buffers = [] ∧ entry.player.packets.firstPacket = none) ∨
      (entry.prebufferFrames ≤ filled.queuedFrames ∧
        ∃ packet, entry.player.packets.firstPacket = some packet ∧
          buffers.head? = some ⟨entry.player.generation, .packet packet⟩) := by
  have hwaits := hqueues.queue hprimed
  have hzero := hunstarted.empty hprimed
  obtain ⟨⟨sampleRate, hrate, hprebuffer, htarget⟩, hbuffered⟩ := enter_inr henter
  obtain ⟨buffered, hbuffered, henough⟩ := hbuffered hprimed
  obtain ⟨hrateLow, hrateHigh⟩ := hwaits.sampleRate sampleRate hrate
  obtain ⟨hless, hpositive⟩ := hqueues.target.framesFor_lt hrateLow hrateHigh hprebuffer htarget
  unfold LoopEntry.fill at hfill
  cases hcursor : entry.player.packets.cursor with
  | none =>
      have hempty : entry.player.packets.packets.entries = [] :=
        OrderedMap.firstKey_eq_none (hwaits.cursor_eq.symm.trans hcursor)
      obtain ⟨rfl, rfl⟩ := schedule_empty hcursor hfill
      refine .inl ⟨rfl, rfl, ?_⟩
      unfold PacketPlaybackQueue.firstPacket
      rw [hempty]
      rfl
  | some cursor =>
      obtain ⟨goal, hdrains, hgoal⟩ := hwaits.drains hapart hcursor hbuffered
      obtain ⟨packet, next, hfirst, hpop⟩ := hwaits.popNext_firstPacket hcursor
      have hpopChecked : entry.player.packets.popChecked = some (some (.packet packet), next) := by
        rw [hwaits.sound.popChecked_eq, hpop]
      have hfuel : entry.targetFrames - entry.player.queuedFrames ≤
          ((entry.targetFrames - entry.player.queuedFrames).toNat : Nat) := Int.self_le_toNat _
      refine .inr ⟨?_, packet, hfirst, ?_⟩
      · obtain hreached | hall := schedule_enough hdrains hconverted hfuel hfill
        · omega
        · omega
      · obtain ⟨fuel, hfuelSucc⟩ : ∃ fuel,
            (entry.targetFrames - entry.player.queuedFrames).toNat = fuel + 1 :=
          ⟨(entry.targetFrames - entry.player.queuedFrames).toNat - 1, by omega⟩
        rw [hfuelSucc] at hfill
        exact schedule_head hpopChecked hconverted (by omega) hfill

/-- What the loop leaves to the rest of `pump`. -/
structure Filled (packets : List AudioPacket) (scheduled : List ScheduledBuffer)
    (entry : LoopEntry) (filled : Playback) (buffers : List ScheduledBuffer) : Prop where
  target : IsTarget filled.targetBufferMilliseconds
  staged : Waits packets filled.stagedPackets
  generation_le : ∀ buffer ∈ scheduled ++ buffers, buffer.generation ≤ filled.generation
  unstarted : filled.primed = false →
    (∀ buffer ∈ scheduled, buffer.generation < filled.generation) ∧
    ((filled = entry.player ∧ buffers = [] ∧ entry.player.packets.firstPacket = none) ∨
      (entry.prebufferFrames ≤ filled.queuedFrames ∧
        ∃ packet, entry.player.packets.firstPacket = some packet ∧
          buffers.head? = some ⟨filled.generation, .packet packet⟩))

theorem filled_of_fill {entry : LoopEntry} {filled : Playback} {buffers : List ScheduledBuffer}
    (hapart : Apart packets) (hqueues : QueuesWait packets entry.player)
    (hunstarted : Unstarted scheduled entry.player)
    (henter : s.enter input = some (.inr entry))
    (hconverted : ∀ index, input.converted index = true)
    (hfill : entry.fill input = some (filled, buffers)) :
    Filled packets scheduled entry filled buffers := by
  obtain ⟨popped, concealedFrames, hframe⟩ := schedule_frame hfill
  have hgeneration : filled.generation = entry.player.generation := by rw [hframe]
  have hprimed : filled.primed = entry.player.primed := by rw [hframe]
  constructor
  · rw [hframe]
    exact hqueues.target
  · rw [hframe]
    exact hqueues.staged
  · rw [hgeneration]
    intro buffer hmem
    cases List.mem_append.mp hmem with
    | inl hbefore => exact hunstarted.generation_le buffer hbefore
    | inr hnew => exact (schedule_generation hfill buffer hnew).le
  · rw [hprimed, hgeneration]
    intro hunprimed
    exact ⟨hunstarted.fresh hunprimed,
      fill_unstarted hapart hqueues hunstarted hunprimed henter hconverted hfill⟩

/-- Behind `begin`, the player waits with its queue, or plays from its first packet. -/
theorem Filled.begin {entry : LoopEntry} {filled begun : Playback}
    {buffers : List ScheduledBuffer} {goesOn : Bool}
    (h : Filled packets scheduled entry filled buffers)
    (hqueues : QueuesWait packets entry.player) (hunstarted : Unstarted scheduled entry.player)
    (hbegin : filled.begin clock entry.offset input entry.player.packets.firstPacket
      entry.prebufferFrames = some (begun, goesOn)) :
    QueuesWait packets begun ∧ Unstarted (scheduled ++ buffers) begun ∧
      ((!filled.primed && begun.primed) = true → ∀ packet,
        entry.player.packets.firstPacket = some packet →
          FirstIs (scheduled ++ buffers) ⟨begun.generation, packet⟩) := by
  obtain ⟨rfl, hwhy⟩ | ⟨rfl, hnone⟩ | ⟨hunprimed, hsome, hostTime, rfl⟩ | ⟨hreset, -⟩ :=
    Playback.begin_cases hbegin
  · cases hprimed : begun.primed with
    | true =>
        refine ⟨⟨h.target, h.staged, fun hunprimed => ?_⟩,
          unstarted_primed h.generation_le hprimed, fun hstarted => ?_⟩
        · cases hprimed.symm.trans hunprimed
        · cases hstarted
    | false =>
        obtain ⟨-, ⟨rfl, rfl, hnone⟩ | ⟨henough, -⟩⟩ := h.unstarted hprimed
        · rw [List.append_nil]
          exact ⟨hqueues, hunstarted, fun hstarted => absurd hstarted Bool.false_ne_true⟩
        · cases hwhy with
          | inl hprimedToo => cases hprimed.symm.trans hprimedToo
          | inr hfew => exact absurd henough (Int.not_le.mpr hfew)
  · cases hprimed : begun.primed with
    | true =>
        refine ⟨⟨h.target, h.staged, fun hunprimed => ?_⟩,
          unstarted_primed h.generation_le hprimed, fun hstarted => ?_⟩
        · cases hprimed.symm.trans hunprimed
        · cases hstarted
    | false =>
        obtain ⟨-, ⟨rfl, rfl, -⟩ | ⟨-, packet, hfirst, -⟩⟩ := h.unstarted hprimed
        · rw [List.append_nil]
          exact ⟨hqueues, hunstarted, fun hstarted => absurd hstarted Bool.false_ne_true⟩
        · cases hnone.symm.trans hfirst
  · obtain ⟨hfresh, ⟨-, -, hnone⟩ | ⟨-, packet, hfirst, hhead⟩⟩ := h.unstarted hunprimed
    · rw [hnone] at hsome
      cases hsome
    · refine ⟨⟨h.target, h.staged, fun hfalse => by cases hfalse⟩,
        unstarted_primed h.generation_le rfl, ?_⟩
      intro _ other hother
      cases hfirst.symm.trans hother
      exact firstIs_fresh hfresh hhead
  · have hcut := Playback.resetStream_cutOff hreset
    have hfresh : ∀ buffer ∈ scheduled ++ buffers, buffer.generation < begun.generation :=
      fun buffer hmem => (h.generation_le buffer hmem).trans_lt hcut.generation_lt
    obtain ⟨generation, -, hnext⟩ := Option.bind_eq_some_iff.mp hreset
    cases hnext
    refine ⟨⟨h.target, h.staged, fun _ => waits_empty packets⟩,
      ⟨fun buffer hmem => (hfresh buffer hmem).le, fun _ => rfl, fun _ => hfresh⟩, ?_⟩
    intro hstarted
    rw [Bool.and_false] at hstarted
    cases hstarted

theorem Filled.finish {entry : LoopEntry} {filled : Playback} {buffers : List ScheduledBuffer}
    {call : PlaybackCall} (h : Filled packets scheduled entry filled buffers)
    (hqueues : QueuesWait packets entry.player) (hunstarted : Unstarted scheduled entry.player)
    (hfinish : entry.finish clock input filled buffers = some call) :
    CallStarts packets scheduled call := by
  obtain ⟨⟨begun, goesOn⟩, hbegin, hfinish⟩ := Option.bind_eq_some_iff.mp hfinish
  obtain ⟨hbegunQueues, hbegun, hfirst⟩ := h.begin hqueues hunstarted hbegin
  have hstarts : ∀ start ∈ (if (!filled.primed && begun.primed) = true then
      entry.player.packets.firstPacket.map (PlayerStart.mk begun.generation) else none),
      FirstIs (scheduled ++ buffers) start := by
    intro start hmem
    obtain ⟨hstarted, hstart⟩ := Option.ite_none_right_eq_some.mp hmem
    obtain ⟨packet, hpacket, rfl⟩ := Option.map_eq_some_iff.mp hstart
    exact hfirst hstarted packet hpacket
  dsimp only at hfinish
  by_cases hgo : goesOn = true
  · rw [if_pos hgo] at hfinish
    obtain ⟨player, hunderrun, hfinish⟩ := Option.bind_eq_some_iff.mp hfinish
    obtain ⟨_, -, hfinish⟩ := Option.bind_eq_some_iff.mp hfinish
    cases hfinish
    exact ⟨hbegunQueues.countUnderrun hunderrun,
      hbegun.keeps (Playback.countUnderrun_keeps hunderrun), hstarts⟩
  · rw [if_neg hgo] at hfinish
    cases hfinish
    exact ⟨hbegunQueues, hbegun, hstarts⟩

/-- A call that hands nothing to the engine. -/
theorem callStarts_of (hqueues : QueuesWait packets s) (hunstarted : Unstarted scheduled s) :
    CallStarts packets scheduled { player := s } where
  queues := hqueues
  unstarted := by
    rw [List.append_nil]
    exact hunstarted
  first := fun start hmem => absurd hmem (Option.not_mem_none start)

theorem pumpCall_starts (hapart : Apart packets) (hqueues : QueuesWait packets s)
    (hunstarted : Unstarted scheduled s) (hconverted : ∀ index, input.converted index = true)
    {call : PlaybackCall} (hcall : s.pumpCall clock input = some call) :
    CallStarts packets scheduled call := by
  obtain ⟨reached, henter, hcall⟩ := Option.bind_eq_some_iff.mp hcall
  have henteredQueues := hqueues.enter henter
  have hentered := hunstarted.keeps (Playback.enter_keeps henter)
  cases reached with
  | inl player =>
      cases hcall
      exact callStarts_of henteredQueues hentered
  | inr entry =>
      obtain ⟨⟨filled, buffers⟩, hfill, hfinish⟩ := Option.bind_eq_some_iff.mp hcall
      have hfilled := filled_of_fill hapart henteredQueues hentered henter hconverted hfill
      exact hfilled.finish henteredQueues hentered hfinish

/-- The packets that a call brings. -/
def callPackets : Playback.Event → List AudioPacket
  | .receive received _ => [received.packet]
  | _ => []

/-- The readings of the system that a call brings for its `pump`. -/
def callInput : Playback.Event → Option PumpInput
  | .receive _ input => some input
  | .tick input => some input
  | .updateClock _ input => some input
  | .scheduleRoomAction _ _ input => some input
  | .updateRoomSyncPoint _ input => some input
  | _ => none

theorem store_input {packet : AudioPacket} {pumps : Option PumpInput}
    (h : s.store packet input = some (t, pumps)) : ∀ used ∈ pumps, used = input := by
  obtain ⟨-, rfl⟩ | ⟨-, ⟨-, rfl, -⟩ | ⟨-, rfl, -⟩⟩ := Playback.store_cases h
  · exact fun used hused => absurd hused (Option.not_mem_none used)
  · exact fun used hused => absurd hused (Option.not_mem_none used)
  · exact fun used hused => (Option.some.inj hused).symm

theorem QueuesWait.store (h : QueuesWait packets s) {received : ReceivedPacket}
    (hmem : received.packet ∈ packets) {pumps : Option PumpInput}
    (hstore : s.store received.packet input = some (t, pumps)) : QueuesWait packets t := by
  have haccepted := AudioPacket.accepted_of_parsed received.parsed
  obtain ⟨rfl, -⟩ | ⟨hrate, ⟨-, -, rfl⟩ | ⟨-, -, u, receivedPackets, latePackets, hreset, rfl⟩⟩ :=
    Playback.store_cases hstore
  · exact h
  · exact ⟨h.target, h.staged.insert hmem haccepted hrate, h.queue⟩
  · have hu := h.resetIf hreset
    exact ⟨hu.target, hu.staged,
      fun hunprimed => (hu.queue hunprimed).insert hmem haccepted hrate⟩

theorem QueuesWait.prepare (h : QueuesWait packets s) {event : Playback.Event}
    (hmem : ∀ packet ∈ callPackets event, packet ∈ packets) {pumps : Option PumpInput}
    (hprepare : s.prepare event = some (t, pumps)) :
    QueuesWait packets t ∧ ∀ input ∈ pumps, callInput event = some input := by
  have hnone : ∀ used ∈ (none : Option PumpInput), callInput event = some used :=
    fun used hused => absurd hused (Option.not_mem_none used)
  cases event with
  | start =>
      obtain ⟨generation, -, hnext⟩ := Option.bind_eq_some_iff.mp hprepare
      cases hnext
      exact ⟨⟨isTarget_ofInt (by norm_num : 180 ≤ 350), waits_empty packets,
        fun _ => waits_empty packets⟩, hnone⟩
  | stop =>
      obtain ⟨generation, -, hnext⟩ := Option.bind_eq_some_iff.mp hprepare
      cases hnext
      exact ⟨⟨isTarget_ofInt (by norm_num : 180 ≤ 350), waits_empty packets,
        fun _ => waits_empty packets⟩, hnone⟩
  | receive received input =>
      have hpacket : received.packet ∈ packets := hmem received.packet List.mem_cons_self
      refine ⟨h.store hpacket hprepare, ?_⟩
      intro used hused
      rw [store_input hprepare used hused]
      rfl
  | tick input =>
      cases hprepare
      exact ⟨h, fun used hused => hused⟩
  | completed generation frames =>
      unfold Playback.prepare at hprepare
      dsimp only at hprepare
      split_ifs at hprepare
      · obtain ⟨queuedFrames, -, hnext⟩ := Option.bind_eq_some_iff.mp hprepare
        cases hnext
        exact ⟨⟨h.target, h.staged, h.queue⟩, hnone⟩
      · cases hprepare
        exact ⟨h, hnone⟩
  | updateClock estimate input =>
      cases hprepare
      exact ⟨⟨h.target, h.staged, h.queue⟩, fun used hused => hused⟩
  | scheduleRoomAction action now input =>
      unfold Playback.prepare at hprepare
      dsimp only at hprepare
      split_ifs at hprepare
      · obtain ⟨u, hreset, hnext⟩ := Option.bind_eq_some_iff.mp hprepare
        cases hnext
        have hu := h.resetIf hreset
        exact ⟨⟨hu.target, hu.staged, hu.queue⟩, fun used hused => hused⟩
      · cases hprepare
        exact ⟨h, hnone⟩
  | updateRoomSyncPoint hostTimestampNanoseconds input =>
      cases hprepare
      exact ⟨⟨h.target, h.staged, h.queue⟩, fun used hused => hused⟩
  | updateTargetBuffer milliseconds =>
      cases hprepare
      exact ⟨⟨isTarget_clampTarget milliseconds, h.staged, h.queue⟩, hnone⟩
  | setManualCalibration =>
      obtain ⟨u, hreset, hnext⟩ := Option.map_eq_some_iff.mp hprepare
      cases hnext
      exact ⟨h.resetStream hreset, hnone⟩
  | interruptionEnded =>
      unfold Playback.prepare at hprepare
      dsimp only at hprepare
      split_ifs at hprepare
      · obtain ⟨generation, -, hnext⟩ := Option.bind_eq_some_iff.mp hprepare
        cases hnext
        exact ⟨⟨h.target, h.staged, fun _ => waits_empty packets⟩, hnone⟩
      · cases hprepare
        exact ⟨h, hnone⟩
  | routeChanged =>
      unfold Playback.prepare at hprepare
      dsimp only at hprepare
      split_ifs at hprepare
      · obtain ⟨generation, -, hnext⟩ := Option.bind_eq_some_iff.mp hprepare
        obtain ⟨u, hreset, hnext⟩ := Option.bind_eq_some_iff.mp hnext
        cases hnext
        have hcut : QueuesWait packets { s with generation, formatted := false } :=
          ⟨h.target, h.staged, h.queue⟩
        exact ⟨hcut.resetStream hreset, hnone⟩
      · cases hprepare
        exact ⟨h, hnone⟩

/-- A completion leaves an unstarted player at zero frames. -/
theorem complete_starts {buffer : ScheduledBuffer} (hqueues : QueuesWait packets s)
    (hunstarted : Unstarted scheduled s) (hcomplete : s.complete buffer = some t) :
    QueuesWait packets t ∧ Unstarted scheduled t := by
  unfold Playback.complete at hcomplete
  by_cases hgeneration : s.generation = buffer.generation
  · rw [if_pos hgeneration] at hcomplete
    obtain ⟨queuedFrames, hsub, hnext⟩ := Option.bind_eq_some_iff.mp hcomplete
    cases hnext
    refine ⟨⟨hqueues.target, hqueues.staged, hqueues.queue⟩,
      ⟨hunstarted.generation_le, ?_, hunstarted.fresh⟩⟩
    intro hunprimed
    have hzero := hunstarted.empty hunprimed
    have hdifference := subSigned_eq hsub
    dsimp only
    omega
  · rw [if_neg hgeneration] at hcomplete
    cases hcomplete
    exact ⟨hqueues, hunstarted⟩

end Players

namespace Scheduling

def Event.packets : Event → List AudioPacket
  | .call event => callPackets event
  | .completed _ => []

/-- The packets that a run receives. -/
def receivedPackets (events : List Event) : List AudioPacket := events.flatMap Event.packets

/-- Every buffer can be created. -/
def Event.Converts : Event → Prop
  | .call event => ∀ input ∈ callInput event, ∀ index, input.converted index = true
  | .completed _ => True

/-- The invariant of a run: the queues of the player wait for its start, and every start was
on the first buffer of its generation. -/
structure StartsOnFirst (packets : List AudioPacket) (s : Scheduling) : Prop where
  queues : QueuesWait packets s.player
  unstarted : Unstarted s.scheduled s.player
  first : ∀ start ∈ s.starts, FirstIs s.scheduled start

variable {packets : List AudioPacket} {s t : Scheduling} {clock : HostClock}

theorem StartsOnFirst.step (h : StartsOnFirst packets s) (hapart : Apart packets) {event : Event}
    (hmem : ∀ packet ∈ event.packets, packet ∈ packets) (hconverts : event.Converts)
    (hstep : Scheduling.step clock s event = some t) : StartsOnFirst packets t := by
  cases event with
  | completed index =>
      obtain ⟨buffer, -, hstep⟩ := Option.bind_eq_some_iff.mp hstep
      obtain ⟨player, hcomplete, hnext⟩ := Option.bind_eq_some_iff.mp hstep
      cases hnext
      obtain ⟨hqueues, hunstarted⟩ := complete_starts h.queues h.unstarted hcomplete
      exact ⟨hqueues, hunstarted, h.first⟩
  | call event =>
      unfold Scheduling.step at hstep
      dsimp only at hstep
      split_ifs at hstep with hkind
      obtain ⟨call, hcall, hnext⟩ := Option.map_eq_some_iff.mp hstep
      cases hnext
      obtain ⟨⟨next, pumps⟩, hprepare, hcall⟩ := Option.bind_eq_some_iff.mp hcall
      obtain ⟨hqueues, hinput⟩ := h.queues.prepare hmem hprepare
      have hunstarted : Unstarted s.scheduled next := h.unstarted.keeps
        (Playback.prepare_keeps (Bool.eq_false_of_not_eq_true hkind) hprepare)
      have hstarts : CallStarts packets s.scheduled call := by
        cases pumps with
        | none =>
            cases hcall
            exact callStarts_of hqueues hunstarted
        | some input =>
            exact pumpCall_starts hapart hqueues hunstarted (hconverts input (hinput input rfl)) hcall
      refine ⟨hstarts.queues, hstarts.unstarted, ?_⟩
      intro start hstart
      cases List.mem_append.mp hstart with
      | inl hbefore => exact (h.first start hbefore).append call.buffers
      | inr hnew => exact hstarts.first start (Option.mem_toList.mp hnew)

theorem startsOnFirst_initial (packets : List AudioPacket) : StartsOnFirst packets {} :=
  ⟨⟨isTarget_ofInt (by norm_num : 180 ≤ 350), waits_empty _, fun _ => waits_empty _⟩,
    ⟨fun _ hmem => absurd hmem List.not_mem_nil, fun _ => rfl,
      fun _ _ hmem => absurd hmem List.not_mem_nil⟩,
    fun _ hmem => absurd hmem List.not_mem_nil⟩

/-- A player that has filled the engine has started, and it has started on the packet behind
its start time. -/
theorem starts_on_first (clock : HostClock) (events : List Event) (s : Scheduling)
    (hapart : Apart (receivedPackets events)) (hconverts : ∀ event ∈ events, event.Converts)
    (hrun : run (step clock) {} events = some s) :
    (s.player.primed = true ∨ s.player.queuedFrames = 0) ∧
      ∀ start ∈ s.starts, FirstIs s.scheduled start := by
  have hinitial := startsOnFirst_initial (receivedPackets events)
  have halong : Along (fun _ event => (∀ packet ∈ event.packets,
      packet ∈ receivedPackets events) ∧ event.Converts) (step clock) {} events := by
    apply along_of_forall
    intro event hevent _
    refine ⟨?_, hconverts event hevent⟩
    exact fun packet hpacket => List.mem_flatMap.mpr ⟨event, hevent, hpacket⟩
  have hstarts : StartsOnFirst (receivedPackets events) s :=
    run_along (fun h hok hstep => h.step hapart hok.1 hok.2 hstep) hinitial halong hrun
  refine ⟨?_, hstarts.first⟩
  cases hprimed : s.player.primed with
  | true => exact .inl rfl
  | false => exact .inr (hstarts.unstarted.empty hprimed)

theorem starts_on_first_startedRun :
    ∃ s, run (step Playback.deviceClock) {} startedRun = some s ∧
      s.starts = [⟨1, Playback.originPacket⟩] ∧
      FirstIs s.scheduled ⟨1, Playback.originPacket⟩ := by
  have hstarted : (run (step Playback.deviceClock) {} startedRun).map (fun s => s.starts) =
      some [⟨1, Playback.originPacket⟩] := by
    decide +kernel
  have hapart : Apart (receivedPackets startedRun) := by
    unfold Apart
    decide
  have hconverts : ∀ event ∈ startedRun, event.Converts := by
    simp [startedRun, Playback.onePacket, Event.Converts, callInput, Playback.zeroInput]
  obtain ⟨s, hs, hstarts⟩ := Option.map_eq_some_iff.mp hstarted
  have hfirst := (starts_on_first Playback.deviceClock startedRun s hapart hconverts hs).2
  exact ⟨s, hs, hstarts, hfirst _ (hstarts ▸ List.mem_cons_self)⟩

end Scheduling

end SyncAudio.Ios
