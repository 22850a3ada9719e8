import SyncAudio.Ios.PlaybackStart

/-!
# The queue of a SEEK

Until a SEEK is due, `pump` leaves it pending and the packets of its stream are staged. The
`pump` that finds it due makes the staged packets the queue of the player. From then on a
packet waits for its turn, and the loop that fills the engine hands it over or stops short of
it because the engine has enough.

## Implementation notes

A queue whose packets lie apart is handed out without loss. A queue that nothing pops keeps its
cursor at its first packet, so a staged packet may not be older than the first one.
-/

namespace SyncAudio.Ios

open Checked LabelledRun PlaybackTiming

/-- A queue that is being popped: what it holds lies at its cursor or behind it. -/
structure Tidy (packets : List AudioPacket) (queue : PacketPlaybackQueue) : Prop where
  holds : Holds packets queue
  sound : queue.Sound
  cursor_some : queue.cursor.isSome = true
  ahead : queue.Ahead

section Queues

variable {packets : List AudioPacket} {queue next : PacketPlaybackQueue} {packet : AudioPacket}

theorem Waits.tidy (h : Waits packets queue) (hheld : packet ∈ queue.held) : Tidy packets queue := by
  obtain ⟨entry, hentry, -⟩ := List.mem_map.mp hheld
  refine ⟨h.holds, h.sound, ?_, ?_⟩
  · rw [h.cursor_eq]
    cases hfirst : queue.packets.firstKey with
    | some first => rfl
    | none =>
        rw [OrderedMap.firstKey_eq_none hfirst] at hentry
        cases hentry
  · intro cursor hcursor
    rw [h.cursor_eq] at hcursor
    exact OrderedMap.firstKey_le hcursor

/-- A queue hands out its packets, or it is empty. -/
theorem Tidy.popNext (h : Tidy packets queue) (hapart : Apart packets) {item : Option PlaybackItem}
    (hpop : queue.popNext = (item, next)) :
    Tidy packets next ∧ (∀ held ∈ queue.held, held ∈ next.held ∨ item = some (.packet held)) ∧
      (item = none → next.held = []) ∧ ∀ popped ∈ item, 0 < popped.frames := by
  have hsound := h.sound.popNext
  rw [hpop] at hsound
  obtain ⟨c, packet, hc, hmem, hcase⟩ | ⟨c, first, hc, hfirst, hlt, hcase⟩ | ⟨hcase, hnone⟩ :=
    queue.popNext_cases
  · cases hpop.symm.trans hcase
    obtain ⟨-, hkey, haccepted, -⟩ := h.holds.entries _ hmem
    have hend : c + packet.frameCount.toNat = packet.endFrame :=
      congrArg (· + packet.frameCount.toNat) hkey
    refine ⟨⟨⟨?_, h.holds.sampleRate⟩, hsound, rfl, ?_⟩, ?_, ?_, ?_⟩
    · exact fun e he => h.holds.entries e (List.mem_filter.mp he).1
    · intro cursor hcursor e he
      cases hcursor
      obtain ⟨hbefore, hne⟩ := List.mem_filter.mp he
      have hbehind : c < e.1 := lt_of_le_of_ne (h.ahead c hc e hbefore)
        (Ne.symm (of_decide_eq_true hne))
      exact hend.trans_le (h.holds.apart hapart _ hmem e hbefore hbehind)
    · intro held hheld
      obtain ⟨e, he, rfl⟩ := List.mem_map.mp hheld
      by_cases hsame : e.1 = c
      · right
        rw [OrderedMap.eq_of_key_eq he hmem hsame]
      · exact .inl (List.mem_map_of_mem (List.mem_filter.mpr ⟨he, decide_eq_true hsame⟩))
    · intro hitem
      cases hitem
    · intro popped hpopped
      cases hpopped
      exact haccepted.frameCount_pos
  · cases hpop.symm.trans hcase
    have hle := OrderedMap.firstKey_le hfirst
    refine ⟨⟨⟨h.holds.entries, h.holds.sampleRate⟩, hsound, rfl, ?_⟩, ?_, ?_, ?_⟩
    · intro cursor hcursor e he
      cases hcursor
      have hbehind := hle e he
      omega
    · exact fun held hheld => .inl hheld
    · intro hitem
      cases hitem
    · intro popped hpopped
      cases hpopped
      change 0 < min (first - c) 1024
      omega
  · cases hpop.symm.trans hcase
    have hno : ∀ popped ∈ (none : Option PlaybackItem), 0 < popped.frames :=
      fun popped hpopped => absurd hpopped (Option.not_mem_none popped)
    refine ⟨h, fun held hheld => .inl hheld, fun _ => ?_, hno⟩
    obtain ⟨c, hc⟩ := Option.isSome_iff_exists.mp h.cursor_some
    cases hfirst : queue.packets.firstKey with
    | none =>
        unfold PacketPlaybackQueue.held
        rw [OrderedMap.firstKey_eq_none hfirst]
        rfl
    | some first =>
        obtain ⟨hlookup, hle⟩ := hnone c hc first hfirst
        obtain ⟨packet, hmem⟩ := OrderedMap.mem_of_firstKey hfirst
        have hsame : first = c := Nat.le_antisymm hle (h.ahead c hc _ hmem)
        rw [hsame] at hmem
        rw [OrderedMap.lookup_of_mem hmem] at hlookup
        cases hlookup

/-- Below the limit an insertion keeps what the queue holds, and takes what it does not refuse. -/
theorem Holds.held_insert (h : Holds packets queue) (hapart : Apart packets)
    (hmem : packet ∈ packets) (haccepted : packet.Accepted)
    (hrate : 8000 ≤ packet.sampleRate.toNat ∧ packet.sampleRate.toNat ≤ 192000)
    (hsize : (queue.baseFor packet).packets.size < PacketPlaybackQueue.maximumPackets) :
    (∀ held ∈ (queue.baseFor packet).held, held ∈ (queue.insert packet).2.held) ∧
      ((∀ cursor ∈ (queue.baseFor packet).cursor, cursor ≤ packet.startFrame.toNat) →
        packet ∈ (queue.insert packet).2.held) := by
  obtain ⟨hbase, hsession, hstream⟩ := h.baseFor hrate
  obtain hrefused | ⟨-, ⟨-, hkept⟩ | ⟨hlarge, -⟩⟩ := queue.insert_cases packet
  · have hearly := PacketPlaybackQueue.insert_refused (congrArg Prod.fst hrefused)
    rw [hrefused]
    refine ⟨fun _ hheld => hheld, fun htakes => ?_⟩
    obtain ⟨cursor, hcursor, hlt⟩ := hearly
    exact absurd hlt (Nat.not_lt.mpr (htakes cursor hcursor))
  · rw [hkept]
    have hnew : packet ∈ (((queue.baseFor packet).packets.assign packet.startFrame.toNat
        packet).entries.map Prod.snd) :=
      List.mem_map_of_mem (OrderedMap.mem_assign_iff.mpr (.inl rfl))
    refine ⟨?_, fun _ => hnew⟩
    intro held hheld
    obtain ⟨e, he, rfl⟩ := List.mem_map.mp hheld
    by_cases hkey : e.1 = packet.startFrame.toNat
    · obtain ⟨heMem, heKey, heAccepted, heSession, heStream⟩ := hbase.entries e he
      have hsame : e.2 = packet := by
        have hboth := hapart e.2 heMem packet hmem (Option.some.inj (heSession.symm.trans hsession))
          (Option.some.inj (heStream.symm.trans hstream))
        have hpositive := haccepted.frameCount_pos
        have hpositive' := heAccepted.frameCount_pos
        obtain heq | hbefore | hbehind := hboth
        · exact heq
        · unfold AudioPacket.endFrame at hbefore
          omega
        · unfold AudioPacket.endFrame at hbehind
          omega
      rw [hsame]
      exact hnew
    · exact List.mem_map_of_mem (OrderedMap.mem_assign_iff.mpr (.inr ⟨he, hkey⟩))
  · have hle := PacketPlaybackQueue.size_assign_le (queue.baseFor packet).packets
      packet.startFrame.toNat packet
    omega

theorem Tidy.insert (h : Tidy packets queue) (hmem : packet ∈ packets)
    (haccepted : packet.Accepted)
    (hrate : 8000 ≤ packet.sampleRate.toNat ∧ packet.sampleRate.toNat ≤ 192000)
    (hown : ¬ queue.Foreign packet)
    (hsize : queue.packets.size < PacketPlaybackQueue.maximumPackets) :
    Tidy packets (queue.insert packet).2 := by
  have hbase : queue.baseFor packet = queue := if_neg hown
  have hholds := h.holds.insert hmem haccepted hrate
  have hsound := h.sound.insert haccepted
  obtain hrefused | ⟨hle, ⟨-, hkept⟩ | ⟨hlarge, -⟩⟩ := queue.insert_cases packet
  · rw [hrefused, hbase]
    exact h
  · rw [hbase] at hle hkept
    refine ⟨hholds, hsound, ?_, ?_⟩
    · rw [hkept]
      rfl
    · rw [hkept]
      obtain ⟨cursor, hcursor⟩ := Option.isSome_iff_exists.mp h.cursor_some
      intro c hc e he
      change some (queue.cursor.getD packet.startFrame.toNat) = some c at hc
      rw [hcursor] at hc
      cases hc
      obtain rfl | hbefore := OrderedMap.mem_assign he
      · exact hle cursor hcursor
      · exact h.ahead cursor hcursor e hbefore
  · rw [hbase] at hlarge
    have hle := PacketPlaybackQueue.size_assign_le queue.packets packet.startFrame.toNat packet
    omega

end Queues

section Loop

variable {packets : List AudioPacket} {s t : Playback} {buffers : List ScheduledBuffer}
  {targetFrames : Int} {converted : Nat → Bool} {fuel index : Nat}

/-- What the loop takes off the queue it hands to the engine, and it goes on until the engine
has enough or the queue is empty. -/
theorem schedule_tidy (hapart : Apart packets) (htidy : Tidy packets s.packets)
    (hconverted : ∀ index, converted index = true) (hfuel : targetFrames - s.queuedFrames ≤ fuel)
    (hschedule : s.schedule targetFrames converted fuel index = some (t, buffers)) :
    Tidy packets t.packets ∧
      (∀ held ∈ s.packets.held, held ∈ t.packets.held ∨
        ⟨s.generation, .packet held⟩ ∈ buffers) ∧
      (targetFrames ≤ t.queuedFrames ∨ t.packets.held = []) := by
  induction fuel generalizing s index buffers with
  | zero =>
      cases hschedule
      exact ⟨htidy, fun _ hheld => .inl hheld, .inl (by omega)⟩
  | succ fuel ih =>
      cases Playback.scheduleTurn hschedule with
      | enough hreached => exact ⟨htidy, fun _ hheld => .inl hheld, .inl hreached⟩
      | stopped _ hpop hnone =>
          have hpopNext := Option.some.inj (htidy.sound.popChecked_eq.symm.trans hpop)
          obtain ⟨hnext, hheld, hempty, -⟩ := htidy.popNext hapart hpopNext
          have hnoItem := hnone (hconverted index)
          refine ⟨hnext, ?_, .inr (hempty hnoItem)⟩
          intro held hmem
          refine .inl ((hheld held hmem).resolve_right ?_)
          rw [hnoItem]
          exact Option.some_ne_none _ ∘ Eq.symm
      | scheduled hless hpop hrest =>
          have hpopNext := Option.some.inj (htidy.sound.popChecked_eq.symm.trans hpop)
          obtain ⟨hnext, hheld, -, hpositive⟩ := htidy.popNext hapart hpopNext
          have hcount := hpositive _ rfl
          obtain ⟨htidyLast, hheldLast, hend⟩ := ih hnext (by dsimp only; omega) hrest
          refine ⟨htidyLast, ?_, hend⟩
          intro held hmem
          cases hheld held hmem with
          | inl hkept => exact (hheldLast held hkept).imp_right (List.mem_cons_of_mem _)
          | inr htaken =>
              cases htaken
              exact .inr List.mem_cons_self

end Loop

namespace Playback

/-- The SEEK that waits for its time. -/
def pendingSeek (s : Playback) : Option ScheduledHostAction :=
  s.control.scheduledRoomAction.filter ScheduledHostAction.isSeek

/-- The stream for which `pump` calls `onSeekStreamReady`. -/
def seekStream (s : Playback) (input : PumpInput) : Option UInt32 :=
  s.clockEstimate.bind fun offset =>
    (s.control.pump (hostTime input.actionNow offset) (.finite input.actionLead.lead)).1

/-- The same for a whole call. -/
def announcedStream (s : Playback) (event : Event) : Option UInt32 :=
  (s.prepare event).bind fun next => next.2.bind next.1.seekStream

/-- The scheduled action is due. -/
def actionDue (s : Playback) (input : PumpInput) : Bool :=
  match s.control.scheduledRoomAction, s.clockEstimate with
  | some action, some offset =>
      action.isDue (hostTime input.actionNow offset) (.finite input.actionLead.lead)
  | _, _ => false

/-- A start that `pump` makes with such packets in its queue is in time. -/
def StartsInTime (s : Playback) (arrived : List AudioPacket) (input : PumpInput) : Prop :=
  ∀ reached ∈ s.enter input, ∀ entry ∈ Sum.getRight? reached, entry.player.primed = false →
    (∃ packet ∈ arrived, packet ∈ entry.player.packets.held) →
    ∀ first ∈ entry.player.packets.firstPacket, Binary64.zero.lt
      (startDelayNanoseconds first.presentationTimestampNanoseconds entry.offset input.outputLead
        input.startNow) = true

/-- A SEEK to the stream of the packet is pending. -/
def Awaited (s : Playback) (packet : AudioPacket) : Prop :=
  s.control.active = true ∧ ∃ action, s.control.scheduledRoomAction = some action ∧
    action.isSeek = true ∧ packet.streamID = action.nextStreamID

/-- The packet waits behind a pending SEEK. -/
def Stages (s : Playback) (packet : AudioPacket) : Prop :=
  s.Awaited packet ∧ packet ∈ s.stagedPackets.held

/-- The packet waits in the queue, and nothing but its turn is missing. -/
structure Queues (packets : List AudioPacket) (s : Playback) (packet : AudioPacket) : Prop where
  idle : s.control.scheduledRoomAction = none
  held : packet ∈ s.packets.held
  tidy : s.primed = true → Tidy packets s.packets
  immediate : s.primed = false → s.control.allowImmediateStart = true

/-- The call schedules another room action. -/
def replacesAction (s : Playback) : Event → Bool
  | .scheduleRoomAction action now _ =>
      s.control.accepts ((Binary64.ofInt now.toNat).add
        ((s.clockEstimate.map fun estimate => .finite estimate.offset).getD .zero)) action
  | _ => false

/-- The call starts or stops the player. -/
def Event.restarts : Event → Bool
  | .start => true
  | .stop => true
  | _ => false

/-- The call cuts off the stream of a player that listens. -/
def Event.cutsOff : Event → Bool
  | .setManualCalibration => true
  | .interruptionEnded => true
  | .routeChanged => true
  | _ => false

/-- The call is that of a received packet or of a completion. -/
def Event.isPassedOn : Event → Bool
  | .receive _ _ => true
  | .completed _ _ => true
  | _ => false

end Playback

/-- The staged packets take another one without loss. -/
structure PacketPlaybackQueue.Fits (arrived : List AudioPacket) (queue : PacketPlaybackQueue)
    (packet : AudioPacket) : Prop where
  own : queue.Foreign packet → ∀ held ∈ queue.held, held ∉ arrived
  room : ¬ queue.Foreign packet → queue.packets.size < PacketPlaybackQueue.maximumPackets
  inOrder : ¬ queue.Foreign packet → packet ∈ arrived →
    ∀ cursor ∈ queue.cursor, cursor ≤ packet.startFrame.toNat

/-- The queue of the player takes another packet without loss, and the stream is not cut off. -/
structure PacketPlaybackQueue.Continues (queue : PacketPlaybackQueue) (packet : AudioPacket) :
    Prop where
  own : ¬ (queue.sessionID.isSome = true ∧ queue.Foreign packet)
  room : queue.packets.size < PacketPlaybackQueue.maximumPackets

section Pumping

variable {packets : List AudioPacket} {packet : AudioPacket} {s t : Playback} {clock : HostClock}
  {input : PumpInput} {scheduled inFlight buffers : List ScheduledBuffer}

theorem Playback.takeAction_idle (h : s.control.scheduledRoomAction = none) (input : PumpInput) :
    s.takeAction input = some s := by
  unfold Playback.takeAction
  rw [h]

/-- A pending SEEK stays pending with what is staged, or hands it over to the queue. -/
theorem Playback.takeAction_seek {action : ScheduledHostAction}
    (haction : s.control.scheduledRoomAction = some action) (hseek : action.isSeek = true)
    (h : s.takeAction input = some t) :
    (s.actionDue input = false ∧ t.control.active = s.control.active ∧
      t.control.scheduledRoomAction = some action ∧ t.stagedPackets = s.stagedPackets) ∨
    (s.actionDue input = true ∧ t.control.scheduledRoomAction = none ∧
      t.packets = s.stagedPackets ∧ t.primed = false ∧
      t.control.allowImmediateStart = true) := by
  have hname : ¬ (action.name = "PAUSE".toList ∨ action.name = "STOP".toList) := by
    have hequal : action.name = "SEEK".toList := of_decide_eq_true hseek
    rw [hequal]
    decide
  unfold Playback.takeAction at h
  unfold Playback.actionDue
  cases hestimate : s.clockEstimate with
  | none =>
      rw [haction, hestimate] at h
      cases h
      rw [haction]
      exact .inl ⟨rfl, rfl, rfl, rfl⟩
  | some offset =>
      rw [haction, hestimate] at h
      rw [haction]
      dsimp only at h ⊢
      unfold AudioPlaybackController.pump at h
      rw [haction] at h
      dsimp only at h
      by_cases hdue : action.isDue (hostTime input.actionNow offset)
          (.finite input.actionLead.lead) = true
      · rw [if_pos hdue, if_neg hname, if_pos hseek, if_pos hdue] at h
        obtain ⟨u, hreset, hu⟩ := Option.map_eq_some_iff.mp h
        obtain ⟨generation, -, hnext⟩ := Option.bind_eq_some_iff.mp hreset
        cases hnext
        cases hu
        refine .inr ⟨hdue, rfl, rfl, rfl, ?_⟩
        change (_ || action.isSeek) = true
        rw [hseek, Bool.or_true]
      · rw [if_neg hdue, if_neg hdue] at h
        cases h
        refine .inl ⟨Bool.eq_false_of_not_eq_true hdue, ?_⟩
        dsimp only
        split_ifs
        · exact ⟨rfl, rfl, rfl⟩
        · exact ⟨rfl, haction, rfl⟩

theorem Playback.discardLate_of (h : s.primed = true ∨ s.control.allowImmediateStart = true)
    (offset : ClockOffset) (input : PumpInput) : s.discardLate offset input = s := by
  unfold Playback.discardLate
  rw [if_neg]
  cases h with
  | inl hprimed => simp [hprimed]
  | inr hallow => simp [hallow]

theorem Playback.Queues.keepsQueue (h : s.Queues packets packet) :
    s.primed = true ∨ s.control.allowImmediateStart = true := by
  cases hprimed : s.primed with
  | true => exact .inl rfl
  | false => exact .inr (h.immediate hprimed)

theorem Playback.Queues.enter (h : s.Queues packets packet) {reached : Playback ⊕ LoopEntry}
    (henter : s.enter input = some reached) :
    (Playback.entered reached).Queues packets packet ∧
      (Playback.entered reached).primed = s.primed ∧
      (Playback.entered reached).generation = s.generation := by
  obtain ⟨u, haction, hreached⟩ := Playback.enter_cases henter
  rw [Playback.takeAction_idle h.idle] at haction
  cases haction
  cases hreached with
  | inl hsame =>
      rw [hsame]
      exact ⟨h, rfl, rfl⟩
  | inr hready =>
      obtain ⟨offset, hready⟩ := hready
      rw [hready, Playback.discardLate_of h.keepsQueue]
      exact ⟨⟨h.idle, h.held, h.tidy, h.immediate⟩, rfl, rfl⟩

/-- A pending SEEK stays pending with what is staged, or `pump` goes on with a queue of it. -/
theorem Playback.Awaited.enter (h : s.Awaited packet) {reached : Playback ⊕ LoopEntry}
    (henter : s.enter input = some reached) :
    (s.actionDue input = false ∧ (Playback.entered reached).Awaited packet ∧
        (Playback.entered reached).stagedPackets = s.stagedPackets) ∨
      (s.actionDue input = true ∧ (Playback.entered reached).primed = false ∧
        ∀ staged ∈ s.stagedPackets.held, (Playback.entered reached).Queues packets staged) := by
  obtain ⟨hactive, action, hscheduled, hseek, hstream⟩ := h
  obtain ⟨u, haction, hreached⟩ := Playback.enter_cases henter
  obtain ⟨hdue, hstays, hpending, hstaged⟩ | ⟨hdue, hidle, hpackets, hunprimed, hallow⟩ :=
    Playback.takeAction_seek hscheduled hseek haction
  · left
    have hu : u.Awaited packet := ⟨hstays.trans hactive, action, hpending, hseek, hstream⟩
    cases hreached with
    | inl hsame => exact ⟨hdue, hsame ▸ hu, hsame ▸ hstaged⟩
    | inr hready =>
        obtain ⟨offset, hready⟩ := hready
        rw [hready]
        unfold Playback.discardLate
        split_ifs
        · exact ⟨hdue, hu, hstaged⟩
        · exact ⟨hdue, hu, hstaged⟩
  · right
    have hu : ∀ staged ∈ s.stagedPackets.held, u.Queues packets staged := by
      intro staged hheld
      exact ⟨hidle, hpackets ▸ hheld, fun hprimed => absurd (hunprimed.symm.trans hprimed)
        Bool.false_ne_true, fun _ => hallow⟩
    cases hreached with
    | inl hsame =>
        rw [hsame]
        exact ⟨hdue, hunprimed, hu⟩
    | inr hready =>
        obtain ⟨offset, hready⟩ := hready
        rw [hready, Playback.discardLate_of (.inr hallow)]
        refine ⟨hdue, hunprimed, fun staged hheld => ?_⟩
        have hqueued := hu staged hheld
        exact ⟨hqueued.idle, hqueued.held, hqueued.tidy, hqueued.immediate⟩

/-- The stream goes on with its queue and without another action. -/
structure Playback.GoesOn (s t : Playback) : Prop where
  generation_eq : t.generation = s.generation
  queuedFrames_eq : t.queuedFrames = s.queuedFrames
  packets_eq : t.packets = s.packets
  action_eq : t.control.scheduledRoomAction = s.control.scheduledRoomAction

/-- A player that plays goes on, and so does one that starts in time. -/
theorem Playback.begin_goesOn {offset : ClockOffset} {first : Option AudioPacket}
    {prebufferFrames : Int} {goesOn : Bool}
    (hready : s.primed = true ∨ s.primed = false ∧ prebufferFrames ≤ s.queuedFrames ∧
      ∃ packet, first = some packet ∧ Binary64.zero.lt
        (startDelayNanoseconds packet.presentationTimestampNanoseconds offset input.outputLead
          input.startNow) = true)
    (hbegin : s.begin clock offset input first prebufferFrames = some (t, goesOn)) :
    goesOn = true ∧ t.primed = true ∧ s.GoesOn t := by
  unfold Playback.begin at hbegin
  obtain hprimed | ⟨hunprimed, henough, packet, rfl, hdelay⟩ := hready
  · rw [hprimed, Bool.not_true, Bool.false_and, if_neg Bool.false_ne_true] at hbegin
    cases hbegin
    exact ⟨rfl, hprimed, rfl, rfl, rfl, rfl⟩
  · have hstart : (!s.primed && decide (prebufferFrames ≤ s.queuedFrames)) = true := by
      rw [hunprimed, decide_eq_true henough]
      rfl
    rw [if_pos hstart] at hbegin
    dsimp only at hbegin
    rw [if_pos hdelay] at hbegin
    obtain ⟨hostTime, -, hnext⟩ := Option.bind_eq_some_iff.mp hbegin
    cases hnext
    exact ⟨rfl, rfl, rfl, rfl, rfl, rfl⟩

/-- What `pump` does behind its loop, where the player goes on and has frames. -/
theorem LoopEntry.finish_goesOn {entry : LoopEntry} {filled : Playback} {call : PlaybackCall}
    (hready : filled.primed = true ∨ filled.primed = false ∧
      entry.prebufferFrames ≤ filled.queuedFrames ∧
      ∃ packet, entry.player.packets.firstPacket = some packet ∧ Binary64.zero.lt
        (startDelayNanoseconds packet.presentationTimestampNanoseconds entry.offset
          input.outputLead input.startNow) = true)
    (hframes : filled.queuedFrames ≠ 0)
    (hfinish : entry.finish clock input filled buffers = some call) :
    call.buffers = buffers ∧ call.player.primed = true ∧ filled.GoesOn call.player ∧
      (filled.primed = false → ∃ start ∈ call.started,
        start.generation = call.player.generation) := by
  obtain ⟨⟨begun, goesOn⟩, hbegin, hfinish⟩ := Option.bind_eq_some_iff.mp hfinish
  obtain ⟨hgo, hprimed, hsame⟩ := Playback.begin_goesOn hready hbegin
  dsimp only at hfinish
  rw [if_pos hgo] at hfinish
  obtain ⟨player, hunderrun, hfinish⟩ := Option.bind_eq_some_iff.mp hfinish
  obtain ⟨_, -, hfinish⟩ := Option.bind_eq_some_iff.mp hfinish
  cases hfinish
  obtain ⟨rfl, -⟩ | ⟨-, hzero, -⟩ := Playback.countUnderrun_cases hunderrun
  · refine ⟨rfl, hprimed, hsame, fun hunprimed => ?_⟩
    obtain hstarted | ⟨-, -, packet, hfirst, -⟩ := hready
    · cases hstarted.symm.trans hunprimed
    · refine ⟨⟨player.generation, packet⟩, ?_, rfl⟩
      rw [hunprimed, hprimed, hfirst]
      rfl
  · rw [hsame.queuedFrames_eq] at hzero
    exact absurd hzero hframes

/-- A packet whose turn is in this call goes on waiting or is played from now on. -/
theorem LoopEntry.plays {entry : LoopEntry} {filled : Playback} {call : PlaybackCall}
    (hapart : Apart packets) (hqueues : QueuesWait packets entry.player)
    (hunstarted : Unstarted scheduled entry.player) (hcounts : Counts inFlight entry.player)
    (henter : s.enter input = some (.inr entry))
    (hconverted : ∀ index, input.converted index = true)
    (hpacket : entry.player.Queues packets packet)
    (hintime : entry.player.primed = false → ∀ first ∈ entry.player.packets.firstPacket,
      Binary64.zero.lt (startDelayNanoseconds first.presentationTimestampNanoseconds entry.offset
        input.outputLead input.startNow) = true)
    (hfill : entry.fill input = some (filled, buffers))
    (hfinish : entry.finish clock input filled buffers = some call) :
    call.buffers = buffers ∧ call.player.primed = true ∧
      call.player.generation = entry.player.generation ∧
      call.player.control.scheduledRoomAction = entry.player.control.scheduledRoomAction ∧
      Tidy packets call.player.packets ∧
      (packet ∈ call.player.packets.held ∧ entry.targetFrames ≤ call.player.queuedFrames ∨
        ⟨entry.player.generation, .packet packet⟩ ∈ buffers) ∧
      (entry.player.primed = false → ∃ start ∈ call.started,
        start.generation = call.player.generation) := by
  have htidy : Tidy packets entry.player.packets := by
    cases hprimed : entry.player.primed with
    | true => exact hpacket.tidy hprimed
    | false => exact (hqueues.queue hprimed).tidy hpacket.held
  obtain ⟨⟨sampleRate, hrate, hprebuffer, htarget⟩, -⟩ := enter_inr henter
  obtain ⟨hrateLow, hrateHigh⟩ := htidy.holds.sampleRate sampleRate hrate
  obtain ⟨hless, hpositive⟩ := hqueues.target.framesFor_lt hrateLow hrateHigh hprebuffer htarget
  have hfuel : entry.targetFrames - entry.player.queuedFrames ≤
      ((entry.targetFrames - entry.player.queuedFrames).toNat : Nat) := Int.self_le_toNat _
  obtain ⟨htidyFilled, hheld, hend⟩ := schedule_tidy hapart htidy hconverted hfuel hfill
  have hcountsFilled : Counts (inFlight ++ buffers) filled := hcounts.schedule hfill
  obtain ⟨popped, concealedFrames, hframe⟩ := schedule_frame hfill
  have hgeneration : filled.generation = entry.player.generation := by rw [hframe]
  have hprimedFilled : filled.primed = entry.player.primed := by rw [hframe]
  have hframes : filled.queuedFrames ≠ 0 := by
    cases hheld packet hpacket.held with
    | inl hkept =>
        cases hend with
        | inl henough => omega
        | inr hempty =>
            rw [hempty] at hkept
            cases hkept
    | inr htaken =>
        have hcount := hcountsFilled.frames_le (List.mem_append_right inFlight htaken)
          hgeneration.symm
        obtain ⟨e, he, hsame⟩ := List.mem_map.mp hpacket.held
        have haccepted := (htidy.holds.entries e he).2.2.1.frameCount_pos
        rw [hsame] at haccepted
        change (packet.frameCount.toNat : Int) ≤ _ at hcount
        omega
  have hready : filled.primed = true ∨ filled.primed = false ∧
      entry.prebufferFrames ≤ filled.queuedFrames ∧
      ∃ first, entry.player.packets.firstPacket = some first ∧ Binary64.zero.lt
        (startDelayNanoseconds first.presentationTimestampNanoseconds entry.offset
          input.outputLead input.startNow) = true := by
    rw [hprimedFilled]
    cases hprimed : entry.player.primed with
    | true => exact .inl rfl
    | false =>
        right
        obtain ⟨-, -, hnone⟩ | ⟨henough, first, hfirst, -⟩ :=
          fill_unstarted hapart hqueues hunstarted hprimed henter hconverted hfill
        · have hheldNone := hpacket.held
          unfold PacketPlaybackQueue.firstPacket at hnone
          rw [Option.map_eq_none_iff, List.head?_eq_none_iff] at hnone
          unfold PacketPlaybackQueue.held at hheldNone
          rw [hnone] at hheldNone
          cases hheldNone
        · exact ⟨rfl, henough, first, hfirst, hintime hprimed first hfirst⟩
  obtain ⟨hbuffers, hprimedCall, hgoes, hstarted⟩ := finish_goesOn hready hframes hfinish
  rw [hprimedFilled] at hstarted
  have haction : filled.control = entry.player.control := by rw [hframe]
  refine ⟨hbuffers, hprimedCall, hgoes.generation_eq.trans hgeneration, ?_,
    hgoes.packets_eq ▸ htidyFilled, ?_, hstarted⟩
  · rw [← haction]
    exact hgoes.action_eq
  · rw [hgoes.packets_eq, hgoes.queuedFrames_eq]
    cases hheld packet hpacket.held with
    | inl hkept =>
        refine .inl ⟨hkept, hend.resolve_right ?_⟩
        exact List.ne_nil_of_mem hkept
    | inr htaken => exact .inr htaken

/-- The rest of `pump` touches neither the action nor what is staged. -/
theorem LoopEntry.finish_action {entry : LoopEntry} {filled : Playback} {call : PlaybackCall}
    (hfill : entry.fill input = some (filled, buffers))
    (hfinish : entry.finish clock input filled buffers = some call) :
    call.buffers = buffers ∧
      (∃ allow, call.player.control =
        { entry.player.control with allowImmediateStart := allow }) ∧
      call.player.stagedPackets = entry.player.stagedPackets := by
  obtain ⟨popped, concealedFrames, hframe⟩ := schedule_frame hfill
  have hreset : ∀ {u v : Playback}, u.resetStream = some v →
      v.control = u.control ∧ v.stagedPackets = u.stagedPackets := by
    intro u v hreset
    obtain ⟨generation, -, hnext⟩ := Option.bind_eq_some_iff.mp hreset
    cases hnext
    exact ⟨rfl, rfl⟩
  have hfilled : filled.control = entry.player.control ∧
      filled.stagedPackets = entry.player.stagedPackets := by
    rw [hframe]
    exact ⟨rfl, rfl⟩
  obtain ⟨⟨begun, goesOn⟩, hbegin, hfinish⟩ := Option.bind_eq_some_iff.mp hfinish
  have hbegun : (∃ allow, begun.control =
        { entry.player.control with allowImmediateStart := allow }) ∧
      begun.stagedPackets = entry.player.stagedPackets := by
    rw [← hfilled.1, ← hfilled.2]
    obtain ⟨rfl, -⟩ | ⟨rfl, -⟩ | ⟨-, -, hostTime, rfl⟩ | ⟨hgiven, -⟩ :=
      Playback.begin_cases hbegin
    · exact ⟨⟨_, rfl⟩, rfl⟩
    · exact ⟨⟨_, rfl⟩, rfl⟩
    · exact ⟨⟨_, rfl⟩, rfl⟩
    · obtain ⟨hcontrol, hstaged⟩ := hreset hgiven
      rw [hcontrol]
      exact ⟨⟨_, rfl⟩, hstaged⟩
  dsimp only at hfinish
  by_cases hgo : goesOn = true
  · rw [if_pos hgo] at hfinish
    obtain ⟨player, hunderrun, hfinish⟩ := Option.bind_eq_some_iff.mp hfinish
    obtain ⟨_, -, hfinish⟩ := Option.bind_eq_some_iff.mp hfinish
    cases hfinish
    refine ⟨rfl, ?_⟩
    obtain ⟨rfl, -⟩ | ⟨-, -, underruns, hgiven⟩ := Playback.countUnderrun_cases hunderrun
    · exact hbegun
    · obtain ⟨hcontrol, hstaged⟩ := hreset hgiven
      rw [hcontrol, hstaged]
      exact hbegun
  · rw [if_neg hgo] at hfinish
    cases hfinish
    exact ⟨rfl, hbegun⟩

/-- A player that plays goes on, or it has played everything of its generation. -/
theorem LoopEntry.sounds {entry : LoopEntry} {filled : Playback} {call : PlaybackCall}
    (hcounts : Counts inFlight entry.player) (hprimed : entry.player.primed = true)
    (hfill : entry.fill input = some (filled, buffers))
    (hfinish : entry.finish clock input filled buffers = some call) :
    (call.player.primed = true ∧ call.player.generation = entry.player.generation) ∨
      framesOf entry.player.generation (inFlight ++ buffers) = 0 := by
  have hcountsFilled : Counts (inFlight ++ buffers) filled := hcounts.schedule hfill
  obtain ⟨popped, concealedFrames, hframe⟩ := schedule_frame hfill
  have hgeneration : filled.generation = entry.player.generation := by rw [hframe]
  have hprimedFilled : filled.primed = true := by
    rw [hframe]
    exact hprimed
  by_cases hframes : filled.queuedFrames = 0
  · right
    rw [← hgeneration, ← hcountsFilled.queuedFrames_eq]
    exact hframes
  · left
    obtain ⟨-, hprimedCall, hgoes, -⟩ := finish_goesOn (.inl hprimedFilled) hframes hfinish
    exact ⟨hprimedCall, hgoes.generation_eq.trans hgeneration⟩

/-- What holds of every player between two calls. -/
structure Grounded (packets : List AudioPacket) (scheduled inFlight : List ScheduledBuffer)
    (s : Playback) : Prop where
  queues : QueuesWait packets s
  unstarted : Unstarted scheduled s
  counts : Counts inFlight s

theorem Grounded.enter (h : Grounded packets scheduled inFlight s)
    {reached : Playback ⊕ LoopEntry} (henter : s.enter input = some reached) :
    Grounded packets scheduled inFlight (Playback.entered reached) :=
  ⟨h.queues.enter henter, h.unstarted.keeps (Playback.enter_keeps henter),
    h.counts.keeps (Playback.enter_keeps henter)⟩

theorem Grounded.prepare (h : Grounded packets scheduled inFlight s) {event : Playback.Event}
    (hkind : event.isCompletion = false) (hmem : ∀ packet ∈ callPackets event, packet ∈ packets)
    {pumps : Option PumpInput} (hprepare : s.prepare event = some (t, pumps)) :
    Grounded packets scheduled inFlight t ∧ ∀ input ∈ pumps, callInput event = some input := by
  obtain ⟨hqueues, hinput⟩ := h.queues.prepare hmem hprepare
  have hkeeps := Playback.prepare_keeps hkind hprepare
  exact ⟨⟨hqueues, h.unstarted.keeps hkeeps, h.counts.keeps hkeeps⟩, hinput⟩

/-- The player listens on with its action and what it has staged. -/
structure Playback.Listens (s t : Playback) : Prop where
  active_eq : t.control.active = s.control.active
  action_eq : t.control.scheduledRoomAction = s.control.scheduledRoomAction
  staged_eq : t.stagedPackets = s.stagedPackets

/-- Its stream is not cut off. -/
structure Playback.StreamsOn (s t : Playback) : Prop where
  packets_eq : t.packets = s.packets
  primed_eq : t.primed = s.primed
  generation_eq : t.generation = s.generation
  allow_eq : t.control.allowImmediateStart = s.control.allowImmediateStart

theorem Playback.resetStream_listens (h : s.resetStream = some t) : s.Listens t := by
  obtain ⟨generation, -, hnext⟩ := Option.bind_eq_some_iff.mp h
  cases hnext
  exact ⟨rfl, rfl, rfl⟩

/-- A call that neither restarts the player nor brings another action leaves what is staged; and
the stream, if it does not cut it off. -/
theorem Playback.prepare_listens {event : Playback.Event} (hpassed : event.isPassedOn = false)
    (hrestarts : event.restarts = false) (hreplaces : s.replacesAction event = false)
    {pumps : Option PumpInput} (hprepare : s.prepare event = some (t, pumps)) :
    s.Listens t ∧ (event.cutsOff = false → s.StreamsOn t) := by
  cases event with
  | start => cases hrestarts
  | stop => cases hrestarts
  | receive received input => cases hpassed
  | completed generation frames => cases hpassed
  | tick input =>
      cases hprepare
      exact ⟨⟨rfl, rfl, rfl⟩, fun _ => ⟨rfl, rfl, rfl, rfl⟩⟩
  | updateClock estimate input =>
      cases hprepare
      exact ⟨⟨rfl, rfl, rfl⟩, fun _ => ⟨rfl, rfl, rfl, rfl⟩⟩
  | scheduleRoomAction action now input =>
      unfold Playback.prepare at hprepare
      dsimp only at hprepare
      unfold Playback.replacesAction at hreplaces
      dsimp only at hreplaces
      rw [hreplaces, if_neg Bool.false_ne_true] at hprepare
      cases hprepare
      exact ⟨⟨rfl, rfl, rfl⟩, fun _ => ⟨rfl, rfl, rfl, rfl⟩⟩
  | updateRoomSyncPoint hostTimestampNanoseconds input =>
      cases hprepare
      exact ⟨⟨rfl, rfl, rfl⟩, fun _ => ⟨rfl, rfl, rfl, rfl⟩⟩
  | updateTargetBuffer milliseconds =>
      cases hprepare
      exact ⟨⟨rfl, rfl, rfl⟩, fun _ => ⟨rfl, rfl, rfl, rfl⟩⟩
  | setManualCalibration =>
      obtain ⟨u, hreset, hnext⟩ := Option.map_eq_some_iff.mp hprepare
      cases hnext
      exact ⟨Playback.resetStream_listens hreset, fun hcuts => by cases hcuts⟩
  | interruptionEnded =>
      refine ⟨?_, fun hcuts => by cases hcuts⟩
      unfold Playback.prepare at hprepare
      dsimp only at hprepare
      split_ifs at hprepare
      · obtain ⟨generation, -, hnext⟩ := Option.bind_eq_some_iff.mp hprepare
        cases hnext
        exact ⟨rfl, rfl, rfl⟩
      · cases hprepare
        exact ⟨rfl, rfl, rfl⟩
  | routeChanged =>
      refine ⟨?_, fun hcuts => by cases hcuts⟩
      unfold Playback.prepare at hprepare
      dsimp only at hprepare
      split_ifs at hprepare
      · obtain ⟨generation, -, hnext⟩ := Option.bind_eq_some_iff.mp hprepare
        obtain ⟨u, hreset, hnext⟩ := Option.bind_eq_some_iff.mp hnext
        cases hnext
        have hlistens := Playback.resetStream_listens hreset
        exact ⟨hlistens.active_eq, hlistens.action_eq, hlistens.staged_eq⟩
      · cases hprepare
        exact ⟨rfl, rfl, rfl⟩

theorem Playback.Awaited.listens (h : s.Awaited packet) (hlistens : s.Listens t) :
    t.Awaited packet := by
  unfold Playback.Awaited
  rw [hlistens.active_eq, hlistens.action_eq]
  exact h

theorem Playback.Queues.streamsOn (h : s.Queues packets packet) (hlistens : s.Listens t)
    (hstreams : s.StreamsOn t) : t.Queues packets packet := by
  constructor
  · rw [hlistens.action_eq]
    exact h.idle
  · rw [hstreams.packets_eq]
    exact h.held
  · rw [hstreams.primed_eq, hstreams.packets_eq]
    exact h.tidy
  · rw [hstreams.primed_eq, hstreams.allow_eq]
    exact h.immediate

theorem Playback.Awaited.stages (h : s.Awaited packet) : s.stages packet = true := by
  obtain ⟨-, action, hscheduled, hseek, hstream⟩ := h
  unfold Playback.stages
  rw [hscheduled, Option.any_some, hseek, hstream]
  simp

/-- A packet of a pending SEEK is staged. -/
theorem Playback.store_staged (hawaited : s.Awaited packet) {bytes : List UInt8}
    (hparsed : AudioPacket.ofDatagram bytes = some (some packet)) (input : PumpInput) :
    s.store packet input =
      some ({ s with stagedPackets := (s.stagedPackets.insert packet).2 }, none) := by
  obtain ⟨hchannels, hlow, hhigh⟩ := AudioPacket.playable_of_parsed hparsed
  unfold Playback.store
  rw [if_neg, if_pos hawaited.stages]
  rw [hawaited.1, decide_eq_false (UInt16.not_lt.mpr hchannels),
    decide_eq_false (UInt32.not_lt.mpr hlow), decide_eq_false (UInt32.not_lt.mpr hhigh)]
  exact Bool.false_ne_true

/-- A received packet leaves the action, and the stream if it belongs to it. -/
theorem Playback.store_control {pumps : Option PumpInput}
    (hstore : s.store packet input = some (t, pumps)) :
    t.control = s.control ∧
      (¬ (s.packets.sessionID.isSome = true ∧ s.packets.Foreign packet) →
        t.primed = s.primed ∧ t.generation = s.generation) := by
  obtain ⟨rfl, -⟩ | ⟨-, ⟨-, -, rfl⟩ | ⟨-, -, u, receivedPackets, latePackets, hreset, rfl⟩⟩ :=
    Playback.store_cases hstore
  · exact ⟨rfl, fun _ => ⟨rfl, rfl⟩⟩
  · exact ⟨rfl, fun _ => ⟨rfl, rfl⟩⟩
  · unfold Playback.resetIf at hreset
    split_ifs at hreset with hforeign
    · obtain ⟨generation, -, hnext⟩ := Option.bind_eq_some_iff.mp hreset
      cases hnext
      exact ⟨rfl, fun hown => absurd hforeign hown⟩
    · cases hreset
      exact ⟨rfl, fun _ => ⟨rfl, rfl⟩⟩

/-- What has arrived stays among the staged packets. -/
theorem Playback.store_keepsStaged (hapart : Apart packets) (hs : QueuesWait packets s)
    (hmem : packet ∈ packets) (haccepted : packet.Accepted) {arrived : List AudioPacket}
    (hfits : s.stages packet = true → s.stagedPackets.Fits arrived packet)
    {pumps : Option PumpInput} (hstore : s.store packet input = some (t, pumps)) :
    ∀ staged ∈ arrived, staged ∈ s.stagedPackets.held → staged ∈ t.stagedPackets.held := by
  intro staged harrived hheld
  obtain ⟨rfl, -⟩ | ⟨hrate, ⟨hstages, -, rfl⟩ |
    ⟨-, -, u, receivedPackets, latePackets, hreset, rfl⟩⟩ := Playback.store_cases hstore
  · exact hheld
  · have hfit := hfits hstages
    have hown : ¬ s.stagedPackets.Foreign packet := fun hforeign =>
      hfit.own hforeign staged hheld harrived
    have hbase : s.stagedPackets.baseFor packet = s.stagedPackets := if_neg hown
    have hkeeps := (hs.staged.holds.held_insert hapart hmem haccepted hrate
      (hbase.symm ▸ hfit.room hown)).1
    rw [hbase] at hkeeps
    exact hkeeps staged hheld
  · unfold Playback.resetIf at hreset
    split_ifs at hreset
    · rw [(Playback.resetStream_listens hreset).staged_eq]
      exact hheld
    · cases hreset
      exact hheld

/-- A packet that has arrived is staged. -/
theorem Playback.store_stagesArrived (hapart : Apart packets) (hs : QueuesWait packets s)
    (hmem : packet ∈ packets) {bytes : List UInt8}
    (hparsed : AudioPacket.ofDatagram bytes = some (some packet)) {arrived : List AudioPacket}
    (harrived : packet ∈ arrived) (hawaited : s.Awaited packet)
    (hfits : s.stagedPackets.Fits arrived packet) {pumps : Option PumpInput}
    (hstore : s.store packet input = some (t, pumps)) : packet ∈ t.stagedPackets.held := by
  obtain ⟨-, hlow, hhigh⟩ := AudioPacket.playable_of_parsed hparsed
  have hrate : 8000 ≤ packet.sampleRate.toNat ∧ packet.sampleRate.toNat ≤ 192000 :=
    ⟨UInt32.le_iff_toNat_le.mp hlow, UInt32.le_iff_toNat_le.mp hhigh⟩
  have haccepted := AudioPacket.accepted_of_parsed hparsed
  rw [Playback.store_staged hawaited hparsed] at hstore
  cases hstore
  by_cases hforeign : s.stagedPackets.Foreign packet
  · have hbase : s.stagedPackets.baseFor packet = .forStream packet := if_pos hforeign
    refine (hs.staged.holds.held_insert hapart hmem haccepted hrate ?_).2 ?_
    · rw [hbase]
      exact Nat.succ_pos 511
    · rw [hbase]
      exact fun cursor hcursor => absurd hcursor (Option.not_mem_none cursor)
  · have hbase : s.stagedPackets.baseFor packet = s.stagedPackets := if_neg hforeign
    refine (hs.staged.holds.held_insert hapart hmem haccepted hrate ?_).2 ?_
    · rw [hbase]
      exact hfits.room hforeign
    · rw [hbase]
      exact hfits.inOrder hforeign harrived

/-- A waiting packet stays in the queue when another one is received. -/
theorem Playback.Queues.store {received : AudioPacket} (h : s.Queues packets packet)
    (hapart : Apart packets) (hs : QueuesWait packets s) (hmem : received ∈ packets)
    (haccepted : received.Accepted) (hfits : s.packets.Continues received)
    {pumps : Option PumpInput} (hstore : s.store received input = some (t, pumps)) :
    t.Queues packets packet := by
  have hholds : Holds packets s.packets := by
    cases hprimed : s.primed with
    | true => exact (h.tidy hprimed).holds
    | false => exact (hs.queue hprimed).holds
  have hsession : s.packets.sessionID.isSome = true := by
    obtain ⟨e, he, -⟩ := List.mem_map.mp h.held
    rw [(hholds.entries e he).2.2.2.1]
    rfl
  have hown : ¬ s.packets.Foreign received := fun hforeign => hfits.own ⟨hsession, hforeign⟩
  have hbase : s.packets.baseFor received = s.packets := if_neg hown
  obtain ⟨rfl, -⟩ | ⟨hrate, ⟨hstages, -, rfl⟩ |
    ⟨-, -, u, receivedPackets, latePackets, hreset, rfl⟩⟩ := Playback.store_cases hstore
  · exact h
  · exact ⟨h.idle, h.held, h.tidy, h.immediate⟩
  · unfold Playback.resetIf at hreset
    rw [if_neg hfits.own] at hreset
    cases hreset
    refine ⟨h.idle, ?_, ?_, h.immediate⟩
    · have hkeeps := (hholds.held_insert hapart hmem haccepted hrate (hbase.symm ▸ hfits.room)).1
      rw [hbase] at hkeeps
      exact hkeeps packet h.held
    · exact fun hprimed => (h.tidy hprimed).insert hmem haccepted hrate hown hfits.room

end Pumping

namespace Scheduling

/-- The player and its engine behind a call. -/
def handed (s : Scheduling) (call : PlaybackCall) : Scheduling where
  player := call.player
  scheduled := s.scheduled ++ call.buffers
  inFlight := s.inFlight ++ call.buffers
  starts := s.starts ++ call.started.toList

/-- The generation of the player has been started. -/
def Started (s : Scheduling) : Prop :=
  ∃ start ∈ s.starts, start.generation = s.player.generation

/-- The packet waits for its turn. -/
structure Queued (packets : List AudioPacket) (s : Scheduling) (packet : AudioPacket) : Prop where
  queues : s.player.Queues packets packet
  started : s.player.primed = true → s.Started

/-- The packet has been handed to the engine, which plays. -/
structure Sounds (s : Scheduling) (packet : AudioPacket) : Prop where
  idle : s.player.control.scheduledRoomAction = none
  primed : s.player.primed = true
  started : s.Started
  scheduled : ⟨s.player.generation, .packet packet⟩ ∈ s.scheduled

section Calls

variable {packets arrived : List AudioPacket} {packet : AudioPacket} {s : Scheduling}
  {next : Playback} {clock : HostClock} {input : PumpInput} {call : PlaybackCall}

/-- A packet in the queue of the player at its loop. -/
theorem queued_play {entry : LoopEntry} {filled : Playback} {buffers : List ScheduledBuffer}
    (hapart : Apart packets) (hs : Grounded packets s.scheduled s.inFlight entry.player)
    (hconverted : ∀ index, input.converted index = true) (hmem : packet ∈ arrived)
    (hintime : next.StartsInTime arrived input) (henter : next.enter input = some (.inr entry))
    (hpacket : entry.player.Queues packets packet)
    (hstarted : entry.player.primed = true →
      ∃ start ∈ s.starts, start.generation = entry.player.generation)
    (hfill : entry.fill input = some (filled, buffers))
    (hfinish : entry.finish clock input filled buffers = some call) :
    (s.handed call).Queued packets packet ∧ entry.targetFrames ≤ call.player.queuedFrames ∨
      (s.handed call).Sounds packet := by
  obtain ⟨hbuffers, hprimed, hgeneration, haction, htidy, hturn, hstart⟩ :=
    LoopEntry.plays hapart hs.queues hs.unstarted hs.counts henter hconverted hpacket
      (fun hunprimed => hintime _ henter entry rfl hunprimed ⟨packet, hmem, hpacket.held⟩) hfill
      hfinish
  have hidle : call.player.control.scheduledRoomAction = none := haction.trans hpacket.idle
  have hbegun : (s.handed call).Started := by
    cases hprimedEntry : entry.player.primed with
    | true =>
        obtain ⟨start, hmemStart, hsame⟩ := hstarted hprimedEntry
        exact ⟨start, List.mem_append_left _ hmemStart, hsame.trans hgeneration.symm⟩
    | false =>
        obtain ⟨start, hmemStart, hsame⟩ := hstart hprimedEntry
        exact ⟨start, List.mem_append_right _ (Option.mem_toList.mpr hmemStart), hsame⟩
  cases hturn with
  | inl hkept =>
      refine .inl ⟨⟨⟨hidle, hkept.1, fun _ => htidy, fun hunprimed => ?_⟩, fun _ => hbegun⟩,
        hkept.2⟩
      exact absurd (hunprimed.symm.trans hprimed) Bool.false_ne_true
  | inr htaken =>
      rw [← hgeneration, ← hbuffers] at htaken
      exact .inr ⟨hidle, hprimed, hbegun, List.mem_append_right _ htaken⟩

theorem queued_pumpCall (hapart : Apart packets)
    (hs : Grounded packets s.scheduled s.inFlight next)
    (hconverted : ∀ index, input.converted index = true) (hmem : packet ∈ arrived)
    (hintime : next.StartsInTime arrived input) (hpacket : next.Queues packets packet)
    (hstarted : next.primed = true → ∃ start ∈ s.starts, start.generation = next.generation)
    (hcall : next.pumpCall clock input = some call) :
    (s.handed call).Queued packets packet ∨ (s.handed call).Sounds packet := by
  obtain ⟨reached, henter, hcall⟩ := Option.bind_eq_some_iff.mp hcall
  obtain ⟨hentered, hprimed, hgeneration⟩ := hpacket.enter henter
  rw [← hprimed, ← hgeneration] at hstarted
  cases reached with
  | inl player =>
      cases hcall
      refine .inl ⟨hentered, fun hplays => ?_⟩
      obtain ⟨start, hstart, hsame⟩ := hstarted hplays
      exact ⟨start, List.mem_append_left _ hstart, hsame⟩
  | inr entry =>
      obtain ⟨⟨filled, buffers⟩, hfill, hfinish⟩ := Option.bind_eq_some_iff.mp hcall
      exact (queued_play hapart (hs.enter henter) hconverted hmem hintime henter hentered hstarted
        hfill hfinish).imp_left And.left

/-- A SEEK stays pending with what is staged, or that is played or waits for its turn. -/
theorem awaited_pumpCall (hapart : Apart packets)
    (hs : Grounded packets s.scheduled s.inFlight next)
    (hconverted : ∀ index, input.converted index = true)
    (hintime : next.StartsInTime arrived input) (hpacket : next.Awaited packet)
    (hcall : next.pumpCall clock input = some call) :
    (next.actionDue input = false ∧ call.player.Awaited packet ∧
        call.player.stagedPackets = next.stagedPackets) ∨
      (next.actionDue input = true ∧
        ∀ staged ∈ arrived, staged ∈ next.stagedPackets.held →
          (s.handed call).Queued packets staged ∨ (s.handed call).Sounds staged) := by
  obtain ⟨reached, henter, hcall⟩ := Option.bind_eq_some_iff.mp hcall
  obtain ⟨hdue, hawaited, hsame⟩ | ⟨hdue, hunprimed, hqueued⟩ :=
    @Playback.Awaited.enter packets _ _ _ hpacket _ henter
  · refine .inl ⟨hdue, ?_⟩
    cases reached with
    | inl player =>
        cases hcall
        exact ⟨hawaited, hsame⟩
    | inr entry =>
        obtain ⟨⟨filled, buffers⟩, hfill, hfinish⟩ := Option.bind_eq_some_iff.mp hcall
        obtain ⟨-, ⟨allow, hcontrol⟩, hstaged⟩ := LoopEntry.finish_action hfill hfinish
        refine ⟨?_, hstaged.trans hsame⟩
        unfold Playback.Awaited
        rw [hcontrol]
        exact hawaited
  · refine .inr ⟨hdue, fun staged hmem hheld => ?_⟩
    have hnot : ∀ {P : Prop}, (Playback.entered reached).primed = true → P :=
      fun hprimed => absurd (hunprimed.symm.trans hprimed) Bool.false_ne_true
    cases reached with
    | inl player =>
        cases hcall
        exact .inl ⟨hqueued staged hheld, hnot⟩
    | inr entry =>
        obtain ⟨⟨filled, buffers⟩, hfill, hfinish⟩ := Option.bind_eq_some_iff.mp hcall
        exact (queued_play hapart (hs.enter henter) hconverted hmem hintime henter
          (hqueued staged hheld) hnot hfill hfinish).imp_left And.left

/-- A packet that the engine has is played on, or its buffer has been completed. -/
theorem sounding_pumpCall (hs : Grounded packets s.scheduled s.inFlight next)
    (hidle : next.control.scheduledRoomAction = none) (hprimed : next.primed = true)
    (hstarted : ∃ start ∈ s.starts, start.generation = next.generation)
    (hscheduled : ⟨next.generation, .packet packet⟩ ∈ s.scheduled)
    (hframes : 0 < packet.frameCount.toNat) (hcall : next.pumpCall clock input = some call) :
    (s.handed call).Sounds packet ∨
      ⟨next.generation, .packet packet⟩ ∉ (s.handed call).inFlight := by
  obtain ⟨reached, henter, hcall⟩ := Option.bind_eq_some_iff.mp hcall
  obtain ⟨u, haction, hreached⟩ := Playback.enter_cases henter
  rw [Playback.takeAction_idle hidle] at haction
  cases haction
  have hsame : (Playback.entered reached).primed = next.primed ∧
      (Playback.entered reached).generation = next.generation ∧
      (Playback.entered reached).control = next.control := by
    cases hreached with
    | inl hsame =>
        rw [hsame]
        exact ⟨rfl, rfl, rfl⟩
    | inr hready =>
        obtain ⟨offset, hready⟩ := hready
        rw [hready, Playback.discardLate_of (.inl hprimed)]
        exact ⟨rfl, rfl, rfl⟩
  obtain ⟨hprimedEntry, hgeneration, hcontrol⟩ := hsame
  have hplays : ∀ {call : PlaybackCall}, call.player.primed = true →
      call.player.generation = next.generation →
      call.player.control.scheduledRoomAction = none → (s.handed call).Sounds packet := by
    intro call hprimedCall hgenerationCall hidleCall
    obtain ⟨start, hstart, hgenerationStart⟩ := hstarted
    refine ⟨hidleCall, hprimedCall, ⟨start, List.mem_append_left _ hstart, ?_⟩,
      List.mem_append_left _ ?_⟩
    · exact hgenerationStart.trans hgenerationCall.symm
    · change (⟨call.player.generation, .packet packet⟩ : ScheduledBuffer) ∈ s.scheduled
      rw [hgenerationCall]
      exact hscheduled
  cases reached with
  | inl player =>
      cases hcall
      refine .inl (hplays (hprimedEntry.trans hprimed) hgeneration ?_)
      change player.control = next.control at hcontrol
      rw [hcontrol]
      exact hidle
  | inr entry =>
      obtain ⟨⟨filled, buffers⟩, hfill, hfinish⟩ := Option.bind_eq_some_iff.mp hcall
      obtain ⟨hbuffers, ⟨allow, hallow⟩, -⟩ := LoopEntry.finish_action hfill hfinish
      change entry.player.control = next.control at hcontrol
      change entry.player.generation = next.generation at hgeneration
      have haction : call.player.control.scheduledRoomAction = none := by
        rw [hallow, hcontrol]
        exact hidle
      obtain ⟨hprimedCall, hgenerationCall⟩ | hdone :=
        LoopEntry.sounds (hs.enter henter).counts (hprimedEntry.trans hprimed) hfill hfinish
      · exact .inl (hplays hprimedCall (hgenerationCall.trans hgeneration) haction)
      · right
        intro hinFlight
        have hcount := le_framesOf hinFlight
        unfold handed at hcount
        rw [hbuffers, ← hgeneration, hdone] at hcount
        change (packet.frameCount.toNat : Int) ≤ 0 at hcount
        omega

end Calls

end Scheduling

end SyncAudio.Ios
