import SyncAudio.Ios.PlaybackPump

/-!
# Traps of the player

One operation of the player can leave its type. Before it starts, the player converts the
length of the queue to a signed count, and two packets of one stream can lie so far apart
that it does not fit. Everything else stays in range as long as the counters do, which
last for 2^41 calls.
-/

namespace SyncAudio.Ios

open Checked LabelledRun PlaybackTiming

namespace Playback

/-- The integers are in range, the counters up to `limit`. -/
structure Sound (limit : Int) (s : Playback) : Prop where
  packets : s.packets.Sound
  stagedPackets : s.stagedPackets.Sound
  target : IsTarget s.targetBufferMilliseconds
  scheduledHostTime : ∀ time ∈ s.scheduledHostTime, time < 2 ^ 64
  queuedFrames : 0 ≤ s.queuedFrames ∧ s.queuedFrames < 2 ^ 18
  generation : 0 ≤ s.generation ∧ s.generation ≤ limit
  receivedPackets : 0 ≤ s.receivedPackets ∧ s.receivedPackets ≤ limit
  latePackets : 0 ≤ s.latePackets ∧ s.latePackets ≤ limit
  underruns : 0 ≤ s.underruns ∧ s.underruns ≤ limit
  concealedFrames : 0 ≤ s.concealedFrames ∧ s.concealedFrames ≤ limit

/-- No counter is about to run out. -/
structure CountersLow (s : Playback) : Prop where
  generation : s.generation ≤ 2 ^ 62
  receivedPackets : s.receivedPackets ≤ 2 ^ 62
  latePackets : s.latePackets ≤ 2 ^ 62
  underruns : s.underruns ≤ 2 ^ 62
  concealedFrames : s.concealedFrames ≤ 2 ^ 62

/-- A player that is about to compare the length of its queue has packets that lie close
enough to the cursor. -/
def NearAtPump (s : Playback) (input : PumpInput) : Prop :=
  ∀ t, s.takeAction input = some t → ∀ sampleRate offset,
    t.ready input = some (sampleRate, offset) → t.primed = false →
      (t.discardLate offset input).packets.Spans

/-- The same of the call of `pump` at the end of a step, if there is one. -/
def Near (s : Playback) (event : Event) : Prop :=
  ∀ t input, s.prepare event = some (t, some input) → t.NearAtPump input

section Parts

variable {s t : Playback} {limit : Int} {clock : HostClock} {input : PumpInput}
  {offset : ClockOffset} {packet : AudioPacket}

theorem Sound.mono (h : Sound limit s) {more : Int} (hle : limit ≤ more) : Sound more s where
  packets := h.packets
  stagedPackets := h.stagedPackets
  target := h.target
  scheduledHostTime := h.scheduledHostTime
  queuedFrames := h.queuedFrames
  generation := ⟨h.generation.1, h.generation.2.trans hle⟩
  receivedPackets := ⟨h.receivedPackets.1, h.receivedPackets.2.trans hle⟩
  latePackets := ⟨h.latePackets.1, h.latePackets.2.trans hle⟩
  underruns := ⟨h.underruns.1, h.underruns.2.trans hle⟩
  concealedFrames := ⟨h.concealedFrames.1, h.concealedFrames.2.trans hle⟩

theorem Sound.of_low (h : Sound limit s) (hlow : s.CountersLow) : Sound (2 ^ 62) s where
  packets := h.packets
  stagedPackets := h.stagedPackets
  target := h.target
  scheduledHostTime := h.scheduledHostTime
  queuedFrames := h.queuedFrames
  generation := ⟨h.generation.1, hlow.generation⟩
  receivedPackets := ⟨h.receivedPackets.1, hlow.receivedPackets⟩
  latePackets := ⟨h.latePackets.1, hlow.latePackets⟩
  underruns := ⟨h.underruns.1, hlow.underruns⟩
  concealedFrames := ⟨h.concealedFrames.1, hlow.concealedFrames⟩

theorem Sound.low (h : Sound limit s) (hlimit : limit ≤ 2 ^ 62) : s.CountersLow where
  generation := h.generation.2.trans hlimit
  receivedPackets := h.receivedPackets.2.trans hlimit
  latePackets := h.latePackets.2.trans hlimit
  underruns := h.underruns.2.trans hlimit
  concealedFrames := h.concealedFrames.2.trans hlimit

theorem sound_initial : Sound 0 {} where
  packets := PacketPlaybackQueue.sound_empty
  stagedPackets := PacketPlaybackQueue.sound_empty
  target := isTarget_ofInt (by norm_num : 180 ≤ 350)
  scheduledHostTime := fun time htime => absurd htime (Option.not_mem_none time)
  queuedFrames := ⟨le_rfl, by norm_num⟩
  generation := ⟨le_rfl, le_rfl⟩
  receivedPackets := ⟨le_rfl, le_rfl⟩
  latePackets := ⟨le_rfl, le_rfl⟩
  underruns := ⟨le_rfl, le_rfl⟩
  concealedFrames := ⟨le_rfl, le_rfl⟩

/-- The generation is counted up. -/
theorem Sound.count (h : Sound limit s) (hlimit : limit + 1 < 2 ^ 63) :
    addSigned s.generation 1 = some (s.generation + 1) ∧
      Sound (limit + 1) { s with generation := s.generation + 1 } := by
  obtain ⟨hlow, hhigh⟩ := h.generation
  have hmore := h.mono (show limit ≤ limit + 1 by omega)
  exact ⟨addSigned_of_mem (by omega) (by omega),
    { hmore with generation := ⟨by dsimp only; omega, by dsimp only; omega⟩ }⟩

/-- A state without a stream. -/
theorem Sound.cleared (h : Sound limit s) (hlimit : 0 ≤ limit) :
    Sound limit { s with
      queuedFrames := 0
      primed := false
      packets := {}
      receivedPackets := 0
      scheduledHostTime := none } :=
  { h with
    packets := PacketPlaybackQueue.sound_empty
    scheduledHostTime := fun time htime => absurd htime (Option.not_mem_none time)
    queuedFrames := ⟨le_rfl, by norm_num⟩
    receivedPackets := ⟨le_rfl, hlimit⟩ }

theorem Sound.resetStream (h : Sound limit s) (hlimit : limit + 1 < 2 ^ 63) :
    ∃ t, s.resetStream = some t ∧ Sound (limit + 1) t := by
  obtain ⟨hadd, hcounted⟩ := h.count hlimit
  have hpositive : 0 ≤ limit + 1 := by
    have := h.generation
    omega
  unfold Playback.resetStream
  rw [hadd]
  exact ⟨_, rfl, hcounted.cleared hpositive⟩

/-- A player that has been stopped, with a new snapshot. -/
theorem Sound.stopped (h : Sound limit s) (hlimit : 0 ≤ limit) :
    Sound limit s.stopCurrent.newSnapshot :=
  { h with
    packets := PacketPlaybackQueue.sound_empty
    stagedPackets := PacketPlaybackQueue.sound_empty
    target := isTarget_ofInt (by norm_num : 180 ≤ 350)
    scheduledHostTime := fun time htime => absurd htime (Option.not_mem_none time)
    queuedFrames := ⟨le_rfl, (by norm_num : (0 : Int) < 2 ^ 18)⟩
    latePackets := ⟨le_rfl, hlimit⟩
    underruns := ⟨le_rfl, hlimit⟩
    concealedFrames := ⟨le_rfl, hlimit⟩ }

theorem Sound.takeAction (h : Sound limit s) (hlimit : limit + 1 < 2 ^ 63) (input : PumpInput) :
    ∃ t, s.takeAction input = some t ∧ Sound (limit + 1) t := by
  have hmore : Sound (limit + 1) s := h.mono (by omega)
  obtain ⟨t, hreset, ht⟩ := h.resetStream hlimit
  unfold Playback.takeAction
  rw [hreset]
  cases s.control.scheduledRoomAction with
  | none => exact ⟨s, rfl, hmore⟩
  | some action =>
      cases s.clockEstimate with
      | none => exact ⟨s, rfl, hmore⟩
      | some offset =>
          dsimp only
          split_ifs
          · exact ⟨_, rfl, { ht with }⟩
          · exact ⟨_, rfl, { ht with
              packets := ht.stagedPackets
              stagedPackets := PacketPlaybackQueue.sound_empty }⟩
          · exact ⟨_, rfl, { hmore with }⟩
          · exact ⟨_, rfl, { hmore with }⟩

theorem Sound.discardLate (h : Sound limit s) (offset : ClockOffset) (input : PumpInput) :
    Sound limit (s.discardLate offset input) := by
  unfold Playback.discardLate
  split_ifs
  · exact { h with packets := h.packets.discard _ }
  · exact h

theorem discardLate_primed (s : Playback) (offset : ClockOffset) (input : PumpInput) :
    (s.discardLate offset input).primed = s.primed := by
  unfold Playback.discardLate
  split_ifs
  · rfl
  · rfl

theorem ready_rate {sampleRate : UInt32} (h : s.ready input = some (sampleRate, offset)) :
    s.packets.sampleRate = some sampleRate := by
  unfold ready at h
  by_cases hpaused : (s.control.roomPaused || !s.control.active) = true
  · rw [if_pos hpaused] at h
    cases h
  rw [if_neg hpaused] at h
  cases hrate : s.packets.sampleRate with
  | none =>
      rw [hrate] at h
      cases h
  | some rate =>
      cases hestimate : s.clockEstimate with
      | none =>
          rw [hrate, hestimate] at h
          cases h
      | some estimate =>
          rw [hrate, hestimate] at h
          dsimp only at h
          split_ifs at h
          cases h
          rfl

/-- The first packet of a queue has passed the parser. -/
theorem Sound.firstPacket (h : Sound limit s) (hfirst : s.packets.firstPacket = some packet) :
    packet.Accepted := by
  obtain ⟨entry, hentry, rfl⟩ := Option.map_eq_some_iff.mp hfirst
  exact (h.packets.entries entry (List.mem_of_head? hentry)).2

/-- One turn of the loop. Every frame of silence that it counts is queued, unless it is
the last turn. -/
theorem Sound.queueItem (h : Sound limit s) (hqueued : s.queuedFrames < 2 ^ 17)
    (hlimit : limit + 1024 < 2 ^ 63) (converted : Bool) :
    ∃ t goesOn, ∃ count : Int, s.queueItem converted = some (t, goesOn) ∧
      Sound (limit + count) t ∧ (0 ≤ count ∧ count ≤ 1024) ∧
      (goesOn = true → s.queuedFrames < t.queuedFrames ∧
        s.queuedFrames + count ≤ t.queuedFrames) := by
  have hlow := h.queuedFrames
  have hconcealed := h.concealedFrames
  have hsame : Sound (limit + 0) s := h.mono (by omega)
  have hpackets := h.packets.popNext
  unfold Playback.queueItem
  rw [h.packets.popChecked_eq, some_bind]
  cases hpop : s.packets.popNext with
  | mk item packets =>
      rw [hpop] at hpackets
      cases item with
      | none =>
          exact ⟨_, false, 0, rfl, { hsame with packets := hpackets }, by omega,
            fun heq => absurd heq Bool.false_ne_true⟩
      | some item =>
          obtain ⟨hpositive, hframes, hsilence⟩ :=
            @PacketPlaybackQueue.Sound.item_frames s.packets h.packets item (by rw [hpop])
          obtain ⟨count, hcount, hcountLe, hcountFrames⟩ : ∃ count : Int,
              conceal s.concealedFrames item = some (s.concealedFrames + count) ∧
                (0 ≤ count ∧ count ≤ 1024) ∧ count ≤ item.frames := by
            cases item with
            | packet packet =>
                exact ⟨0, congrArg some (add_zero _).symm, by omega, Int.natCast_nonneg _⟩
            | silence count =>
                have hle := hsilence count rfl
                exact ⟨count, addSigned_of_mem (by omega) (by omega), by omega, le_rfl⟩
          have hmore : Sound (limit + count) s := h.mono (by omega)
          have hcounted : 0 ≤ s.concealedFrames + count ∧
              s.concealedFrames + count ≤ limit + count := by omega
          dsimp only
          rw [hcount, some_bind]
          cases converted with
          | true =>
              have hadd : addSigned s.queuedFrames item.frames =
                some (s.queuedFrames + item.frames) := addSigned_of_mem (by omega) (by omega)
              rw [if_pos rfl, hadd, some_bind]
              refine ⟨_, true, count, rfl, { hmore with
                packets := hpackets
                concealedFrames := hcounted
                queuedFrames := ⟨by dsimp only; omega, by dsimp only; omega⟩ }, hcountLe, ?_⟩
              intro _
              dsimp only
              omega
          | false =>
              rw [if_neg Bool.false_ne_true]
              exact ⟨_, false, count, rfl, { hmore with
                packets := hpackets
                concealedFrames := hcounted }, hcountLe,
                fun heq => absurd heq Bool.false_ne_true⟩

variable {targetFrames : Int} {converted : Nat → Bool} {fuel index : Nat}

/-- The loop does not trap. -/
theorem Sound.fill (h : Sound limit s) (htarget : targetFrames ≤ 2 ^ 17)
    (hlimit : limit + (2 ^ 18 - s.queuedFrames) + 1024 < 2 ^ 63) :
    ∃ t, Playback.fill targetFrames converted fuel index s = some t ∧
      Sound (limit + (2 ^ 18 - s.queuedFrames) + 1024) t := by
  induction fuel generalizing s index limit with
  | zero =>
      have hqueued := h.queuedFrames
      exact ⟨s, rfl, h.mono (by omega)⟩
  | succ fuel ih =>
      have hqueued := h.queuedFrames
      rw [Playback.fill]
      by_cases hless : s.queuedFrames < targetFrames
      · obtain ⟨t, goesOn, count, hitem, ht, hcount, hmore⟩ :=
          h.queueItem (by omega) (by omega) (converted index)
        rw [if_pos hless, hitem, some_bind]
        dsimp only
        cases goesOn with
        | true =>
            have hrest := hmore rfl
            obtain ⟨u, hu, hsound⟩ := @ih t (limit + count) (index + 1) ht (by omega)
            rw [if_pos rfl]
            exact ⟨u, hu, hsound.mono (by omega)⟩
        | false =>
            rw [if_neg Bool.false_ne_true]
            exact ⟨t, rfl, ht.mono (by omega)⟩
      · rw [if_neg hless]
        exact ⟨s, rfl, h.mono (by omega)⟩

/-- The fuel is enough: with more of it the loop does the same. -/
theorem Sound.fill_enough (h : Sound limit s) (htarget : targetFrames ≤ 2 ^ 17)
    (hlimit : limit + (2 ^ 18 - s.queuedFrames) + 1024 < 2 ^ 63)
    (hfuel : targetFrames - s.queuedFrames ≤ fuel) (more : Nat) :
    Playback.fill targetFrames converted (fuel + more) index s =
      Playback.fill targetFrames converted fuel index s := by
  induction fuel generalizing s index limit with
  | zero =>
      have hdone : ¬ s.queuedFrames < targetFrames := by omega
      cases more with
      | zero => rfl
      | succ more => exact if_neg hdone
  | succ fuel ih =>
      have hqueued := h.queuedFrames
      rw [Nat.add_right_comm, Playback.fill, Playback.fill]
      by_cases hless : s.queuedFrames < targetFrames
      · obtain ⟨t, goesOn, count, hitem, ht, hcount, hmore⟩ :=
          h.queueItem (by omega) (by omega) (converted index)
        rw [if_pos hless, if_pos hless, hitem, some_bind, some_bind]
        dsimp only
        cases goesOn with
        | true =>
            have hrest := hmore rfl
            rw [if_pos rfl, if_pos rfl]
            exact @ih t (limit + count) (index + 1) ht (by omega) (by omega)
        | false => rfl
      · rw [if_neg hless, if_neg hless]

/-- The player starts, waits or gives up. -/
theorem Sound.begin (h : Sound limit s) (hlimit : limit + 1 < 2 ^ 63)
    {firstPacket : Option AudioPacket} (hfirst : ∀ packet ∈ firstPacket, packet.Accepted)
    (prebufferFrames : Int) :
    ∃ t goesOn, s.begin clock offset input firstPacket prebufferFrames = some (t, goesOn) ∧
      Sound (limit + 1) t := by
  have hmore : Sound (limit + 1) s := h.mono (by omega)
  unfold Playback.begin
  split_ifs
  · cases hpacket : firstPacket with
    | none => exact ⟨s, false, rfl, hmore⟩
    | some packet =>
        have hdelay := @within_startDelay offset input.outputLead
          packet.presentationTimestampNanoseconds input.startNow
          (hfirst packet hpacket).timestamp_lt
        dsimp only
        split_ifs with hpositive
        · obtain ⟨time, htime⟩ := @exists_startTime clock input.machAbsoluteTime _ hdelay hpositive
            input.machAbsoluteTime_lt
          rw [htime, some_bind]
          refine ⟨_, true, rfl, { hmore with scheduledHostTime := ?_ }⟩
          intro scheduled hscheduled
          rw [← Option.some.inj hscheduled]
          exact startTime_lt htime
        · obtain ⟨t, hreset, ht⟩ := h.resetStream hlimit
          rw [hreset]
          exact ⟨t, false, rfl, ht⟩
  · exact ⟨s, true, rfl, hmore⟩

theorem Sound.countUnderrun (h : Sound limit s) (hlimit : limit + 2 < 2 ^ 63) :
    ∃ t, s.countUnderrun = some t ∧ Sound (limit + 2) t := by
  unfold Playback.countUnderrun
  split_ifs
  · obtain ⟨hlow, hhigh⟩ := h.underruns
    have hadd : addSigned s.underruns 1 = some (s.underruns + 1) :=
      addSigned_of_mem (by omega) (by omega)
    have hcounted : Sound (limit + 1) { s with
        underruns := s.underruns + 1
        targetBufferMilliseconds := raiseTarget s.targetBufferMilliseconds } :=
      { h.mono (show limit ≤ limit + 1 by omega) with
        underruns := ⟨by dsimp only; omega, by dsimp only; omega⟩
        target := h.target.raise }
    obtain ⟨t, ht, hsound⟩ := hcounted.resetStream (by omega)
    rw [hadd, some_bind]
    exact ⟨t, ht, hsound.mono (by omega)⟩
  · exact ⟨s, rfl, h.mono (by omega)⟩

theorem Sound.tickDifference (h : Sound limit s) :
    ∃ difference, s.tickDifference input = some difference := by
  unfold Playback.tickDifference
  cases hscheduled : s.scheduledHostTime with
  | none => exact ⟨0, rfl⟩
  | some scheduled =>
      have hlt := h.scheduledHostTime scheduled hscheduled
      cases input.renderTime with
      | none => exact ⟨0, rfl⟩
      | some render =>
          dsimp only
          split_ifs with hle
          · exact ⟨_, sub64_of_le hle render.toNat_lt⟩
          · exact ⟨_, sub64_of_le (by omega) hlt⟩

theorem Sound.play (h : Sound limit s) (hlimit : limit + 2 ^ 19 < 2 ^ 63)
    (htarget : targetFrames ≤ 2 ^ 17) (prebufferFrames : Int) :
    ∃ t, s.play clock offset input prebufferFrames targetFrames = some t ∧
      Sound (limit + 2 ^ 19) t := by
  have hqueued := h.queuedFrames
  obtain ⟨filled, hfill, hfilled⟩ := @Sound.fill s limit targetFrames input.converted
    (targetFrames - s.queuedFrames).toNat 0 h htarget (by omega)
  have hfilled : Sound (limit + 2 ^ 18 + 1024) filled := hfilled.mono (by omega)
  obtain ⟨started, goesOn, hbegin, hstarted⟩ := @Sound.begin filled _ clock input offset hfilled
    (by omega) s.packets.firstPacket (fun packet hpacket => h.firstPacket hpacket) prebufferFrames
  unfold Playback.play
  dsimp only
  rw [hfill, some_bind, hbegin, some_bind]
  cases goesOn with
  | false => exact ⟨started, rfl, hstarted.mono (by omega)⟩
  | true =>
      obtain ⟨t, hcount, ht⟩ := hstarted.countUnderrun (by omega)
      obtain ⟨difference, hdifference⟩ := @Sound.tickDifference t _ input ht
      dsimp only
      rw [if_pos rfl, hcount, some_bind, hdifference]
      exact ⟨t, rfl, ht.mono (by omega)⟩

/-- The check traps exactly if it converts the length of a queue that is too long. -/
theorem Sound.checkPrebuffer (h : Sound limit s) (hlimit : limit + 2 ^ 19 < 2 ^ 63)
    (htarget : targetFrames ≤ 2 ^ 17) (prebufferFrames : Int) :
    ((s.checkPrebuffer clock offset input prebufferFrames targetFrames).isSome = true ↔
        (s.primed = false → s.packets.Spans)) ∧
      ∀ t, s.checkPrebuffer clock offset input prebufferFrames targetFrames = some t →
        Sound (limit + 2 ^ 19) t := by
  obtain ⟨played, hplay, hplayed⟩ := @Sound.play s limit clock input offset targetFrames h
    hlimit htarget prebufferFrames
  unfold Playback.checkPrebuffer
  rw [hplay]
  cases s.primed with
  | true =>
      rw [if_pos rfl]
      refine ⟨⟨fun _ heq => absurd heq (by decide), fun _ => rfl⟩, ?_⟩
      intro t ht
      rw [← Option.some.inj ht]
      exact hplayed
  | false =>
      obtain ⟨frames, hframes, hspans⟩ := h.packets.bufferedFrames_eq
      rw [if_neg Bool.false_ne_true, hframes, some_bind, ← hspans]
      by_cases hshort : frames < 2 ^ 63
      · rw [toSigned_of_lt hshort, some_bind]
        split_ifs
        · refine ⟨⟨fun _ _ => hshort, fun _ => rfl⟩, ?_⟩
          intro t ht
          rw [← Option.some.inj ht]
          exact h.mono (by omega)
        · refine ⟨⟨fun _ _ => hshort, fun _ => rfl⟩, ?_⟩
          intro t ht
          rw [← Option.some.inj ht]
          exact hplayed
      · have hnone : toSigned frames = none := by
          rw [← Option.not_isSome_iff_eq_none, toSigned_isSome_iff]
          exact hshort
        rw [hnone]
        refine ⟨⟨fun hsome => absurd hsome Bool.false_ne_true,
          fun hnear => absurd (hnear rfl) hshort⟩, ?_⟩
        intro t ht
        cases ht

/-- `pump` behind the scheduled action. -/
theorem Sound.pumpReady (h : Sound limit t) (hlimit : limit + 2 ^ 19 < 2 ^ 63)
    (htake : s.takeAction input = some t) {sampleRate : UInt32}
    (hready : t.ready input = some (sampleRate, offset)) :
    ((s.pump clock input).isSome = true ↔
        (t.primed = false → (t.discardLate offset input).packets.Spans)) ∧
      ∀ u, s.pump clock input = some u → Sound (limit + 2 ^ 19) u := by
  have hrate : sampleRate.toNat ≤ 192000 := h.packets.sampleRate sampleRate (ready_rate hready)
  obtain ⟨prebufferFrames, hprebuffer, -⟩ := h.target.framesFor hrate
  obtain ⟨targetFrames, htarget, htargetLe⟩ := h.target.reserve hrate
  have hkept : Sound limit { t.discardLate offset input with formatted := true } :=
    { h.discardLate offset input with }
  have hcheck := @Sound.checkPrebuffer _ limit clock input offset targetFrames hkept hlimit
    (by omega) prebufferFrames
  unfold Playback.pump
  rw [htake, some_bind, hready]
  dsimp only
  rw [hprebuffer, some_bind, htarget, some_bind]
  refine ⟨?_, hcheck.2⟩
  rw [← discardLate_primed t offset input]
  exact hcheck.1

/-- A call of `pump` traps exactly if it converts the length of a queue that is too long. -/
theorem Sound.pump (h : Sound limit s) (hlimit : limit + 2 ^ 20 < 2 ^ 63) :
    ((s.pump clock input).isSome = true ↔ s.NearAtPump input) ∧
      ∀ u, s.pump clock input = some u → Sound (limit + 2 ^ 20) u := by
  obtain ⟨t, htake, ht⟩ := h.takeAction (by omega) input
  unfold NearAtPump
  rw [htake]
  cases hready : t.ready input with
  | none =>
      have hpump : s.pump clock input = some t := by
        unfold Playback.pump
        rw [htake, some_bind, hready]
      rw [hpump]
      constructor
      · refine ⟨fun _ u hu sampleRate offset hu' => ?_, fun _ => rfl⟩
        rw [← Option.some.inj hu, hready] at hu'
        cases hu'
      · intro u hu
        rw [← Option.some.inj hu]
        exact ht.mono (by omega)
  | some values =>
      obtain ⟨sampleRate, offset⟩ := values
      obtain ⟨hiff, hsound⟩ := @Sound.pumpReady s t _ clock input offset ht (by omega) htake
        sampleRate hready
      rw [hiff]
      constructor
      · constructor
        · intro hnear u hu rate other hother
          rw [← Option.some.inj hu, hready] at hother
          rw [← Option.some.inj hu]
          cases hother
          exact hnear
        · exact fun hnear => hnear t rfl sampleRate offset hready
      · exact fun u hu => (hsound u hu).mono (by omega)

end Parts

section Steps

variable {s t : Playback} {limit : Int} {clock : HostClock} {event : Event}

theorem Sound.resetIf (h : Sound limit s) (hlimit : limit + 1 < 2 ^ 63) (condition : Prop)
    [Decidable condition] :
    ∃ t, s.resetIf condition = some t ∧ Sound (limit + 1) t := by
  unfold Playback.resetIf
  split_ifs
  · exact h.resetStream hlimit
  · exact ⟨s, rfl, h.mono (by omega)⟩

/-- A packet that is put into the queue of the player. -/
theorem Sound.enqueue (h : Sound limit s) (hlimit : limit + 1 < 2 ^ 63) {packet : AudioPacket}
    (hpacket : packet.Accepted) {queue : PacketPlaybackQueue} {inserted : Bool}
    (hinsert : s.packets.insert packet = (inserted, queue)) :
    ∃ late, addSigned s.receivedPackets 1 = some (s.receivedPackets + 1) ∧
      s.countLate inserted = some late ∧
      Sound (limit + 1) { s with
        packets := queue
        receivedPackets := s.receivedPackets + 1
        latePackets := late } := by
  obtain ⟨hlow, hhigh⟩ := h.receivedPackets
  obtain ⟨hlowLate, hhighLate⟩ := h.latePackets
  have hmore : Sound (limit + 1) s := h.mono (by omega)
  have hqueue : queue.Sound := by
    have hsound := h.packets.insert hpacket
    rw [hinsert] at hsound
    exact hsound
  have hreceived : 0 ≤ s.receivedPackets + 1 ∧ s.receivedPackets + 1 ≤ limit + 1 := by omega
  cases inserted with
  | true =>
      exact ⟨s.latePackets, addSigned_of_mem (by omega) (by omega), rfl, { hmore with
        packets := hqueue
        receivedPackets := hreceived }⟩
  | false =>
      exact ⟨s.latePackets + 1, addSigned_of_mem (by omega) (by omega),
        addSigned_of_mem (by omega) (by omega), { hmore with
          packets := hqueue
          receivedPackets := hreceived
          latePackets := ⟨by dsimp only; omega, by dsimp only; omega⟩ }⟩

theorem Sound.store (h : Sound limit s) (hlimit : limit + 2 < 2 ^ 63) {packet : AudioPacket}
    (hpacket : packet.Accepted) (input : PumpInput) :
    ∃ t next, s.store packet input = some (t, next) ∧ Sound (limit + 2) t := by
  have hmore : Sound (limit + 2) s := h.mono (by omega)
  obtain ⟨t, hreset, ht⟩ := h.resetIf (by omega)
    (s.packets.sessionID.isSome = true ∧ s.packets.Foreign packet)
  unfold Playback.store
  rw [hreset]
  split_ifs
  · exact ⟨_, _, rfl, hmore⟩
  · exact ⟨_, _, rfl, { hmore with stagedPackets := h.stagedPackets.insert hpacket }⟩
  · exact ⟨_, _, rfl, hmore⟩
  · rw [some_bind]
    cases hinsert : t.packets.insert packet with
    | mk inserted queue =>
        obtain ⟨late, hreceived, hlate, hsound⟩ := ht.enqueue (by omega) hpacket hinsert
        rw [hreceived, some_bind]
        dsimp only
        rw [hlate, some_bind]
        exact ⟨_, _, rfl, hsound.mono (by omega)⟩

/-- The first part of a call does not trap. -/
theorem Sound.prepare (h : Sound limit s) (hlimit : limit + 2 < 2 ^ 63) (event : Event) :
    ∃ t next, s.prepare event = some (t, next) ∧ Sound (limit + 2) t := by
  have hmore : Sound (limit + 2) s := h.mono (by omega)
  obtain ⟨hcount, hcounted⟩ := h.count (by omega)
  have hlow := h.generation
  cases event with
  | start =>
      have hstopped := hcounted.stopped (by omega)
      rw [Playback.prepare, hcount, some_bind]
      exact ⟨_, _, rfl, { hstopped.mono (show limit + 1 ≤ limit + 2 by omega) with }⟩
  | stop =>
      have hstopped := hcounted.stopped (by omega)
      rw [Playback.prepare, hcount, some_bind]
      exact ⟨_, _, rfl, hstopped.mono (by omega)⟩
  | receive received input =>
      exact h.store hlimit (AudioPacket.accepted_of_parsed received.parsed) input
  | tick input => exact ⟨s, _, rfl, hmore⟩
  | completed generation frames =>
      obtain ⟨hqueued, hless⟩ := h.queuedFrames
      have hframes := frames.toNat_lt
      rw [Playback.prepare]
      split_ifs
      · rw [subSigned_of_mem (by omega) (by omega), some_bind]
        exact ⟨_, _, rfl, { hmore with queuedFrames := ⟨by dsimp only; omega, by dsimp only; omega⟩ }⟩
      · exact ⟨s, _, rfl, hmore⟩
  | updateClock clockEstimate input => exact ⟨_, _, rfl, { hmore with }⟩
  | scheduleRoomAction action now input =>
      obtain ⟨t, hreset, ht⟩ := h.resetIf (by omega) (action.name = "PLAY".toList)
      rw [Playback.prepare, hreset]
      split_ifs
      · rw [some_bind]
        exact ⟨_, _, rfl, { ht.mono (show limit + 1 ≤ limit + 2 by omega) with }⟩
      · exact ⟨s, _, rfl, hmore⟩
  | updateRoomSyncPoint hostTimestampNanoseconds input => exact ⟨_, _, rfl, { hmore with }⟩
  | updateTargetBuffer milliseconds =>
      exact ⟨_, _, rfl, { hmore with target := isTarget_clampTarget milliseconds }⟩
  | setManualCalibration =>
      obtain ⟨t, hreset, ht⟩ := h.resetStream (by omega)
      rw [Playback.prepare, hreset]
      exact ⟨t, _, rfl, ht.mono (by omega)⟩
  | interruptionEnded =>
      rw [Playback.prepare]
      split_ifs
      · rw [hcount, some_bind]
        exact ⟨_, _, rfl, { hcounted.mono (show limit + 1 ≤ limit + 2 by omega) with
          packets := PacketPlaybackQueue.sound_empty
          scheduledHostTime := fun time htime => absurd htime (Option.not_mem_none time)
          queuedFrames := ⟨le_rfl, by norm_num⟩ }⟩
      · exact ⟨s, _, rfl, hmore⟩
  | routeChanged =>
      have hunformatted : Sound (limit + 1) { s with
          generation := s.generation + 1, formatted := false } := { hcounted with }
      obtain ⟨t, hreset, ht⟩ := hunformatted.resetStream (by omega)
      rw [Playback.prepare]
      split_ifs
      · rw [hcount, some_bind, hreset, some_bind]
        exact ⟨t, _, rfl, ht.mono (by omega)⟩
      · exact ⟨s, _, rfl, hmore⟩

/-- A call traps exactly if its `pump` does. -/
theorem Sound.step (h : Sound limit s) (hlimit : limit + 2 ^ 21 < 2 ^ 63) (event : Event) :
    ((s.step clock event).isSome = true ↔ s.Near event) ∧
      ∀ t, s.step clock event = some t → Sound (limit + 2 ^ 21) t := by
  obtain ⟨t, next, hprepare, ht⟩ := h.prepare (by omega) event
  unfold Playback.step Near
  rw [hprepare, Option.bind_some]
  cases next with
  | none =>
      constructor
      · refine ⟨fun _ u input hu => ?_, fun _ => rfl⟩
        cases hu
      · intro u hu
        rw [← Option.some.inj hu]
        exact ht.mono (by omega)
  | some input =>
      obtain ⟨hiff, hsound⟩ := @Sound.pump t _ clock input ht (by omega)
      dsimp only
      rw [hiff]
      constructor
      · constructor
        · intro hnear u other hu
          cases hu
          exact hnear
        · exact fun hnear => hnear t input rfl
      · exact fun u hu => (hsound u hu).mono (by omega)

/-- The counters last: each call adds 2^21 at most. -/
theorem Sound.along_low {events : List Event} (h : Sound limit s)
    (hlimit : limit + events.length * 2 ^ 21 ≤ 2 ^ 62) :
    Along (fun s _ => s.CountersLow) (Playback.step clock) s events := by
  induction events generalizing s limit with
  | nil => trivial
  | cons event events ih =>
      rw [List.length_cons] at hlimit
      refine ⟨h.low (by omega), ?_⟩
      intro t ht
      have hstep := @Sound.step s limit clock h (by omega) event
      apply ih (hstep.2 t ht)
      push_cast at hlimit ⊢
      omega

/-- As long as no counter is about to run out, a run of the player traps nowhere exactly if
in every step that reaches the check of the prebuffer the packets of the queue lie close
enough to its cursor. -/
theorem traps_iff (clock : HostClock) (events : List Event)
    (hcounters : Along (fun s _ => s.CountersLow) (Playback.step clock) {} events) :
    (run (Playback.step clock) {} events).isSome = true ↔
      Along Near (Playback.step clock) {} events := by
  have hinitial : Sound (2 ^ 62 + 2 ^ 21) {} := sound_initial.mono (by norm_num)
  apply run_isSome_iff _ _ hinitial hcounters
  · intro s event hs hlow
    exact (@Sound.step s _ clock (hs.of_low hlow) (by norm_num) event).1
  · intro s event t hs hlow hstep
    exact (@Sound.step s _ clock (hs.of_low hlow) (by norm_num) event).2 t hstep

end Steps

section Datagrams

/-- The header of a packet of one mono frame, up to its start frame. -/
def datagramHead : List UInt8 :=
  [0x53, 0x41, 0x55, 0x44, 2, 52, 0, 0,
   0, 0, 0, 0, 0, 0, 0, 7, 0, 0, 0, 0, 0, 0, 0xbb, 0x80, 0, 1, 1, 0]

/-- The rest of the packet, which is to be heard at one second. -/
def datagramTail : List UInt8 :=
  [0, 0, 0, 0, 0x3b, 0x9a, 0xca, 0, 0, 2, 0, 1, 0, 0, 0, 1, 5, 6]

def originPacket : AudioPacket where
  sessionID := 7
  streamID := 1
  sequenceNumber := 0
  sampleRate := 48000
  channels := 1
  startFrame := 0
  presentationTimestampNanoseconds := 1000000000
  frameCount := 1
  pcmPayload := [5, 6]

/-- The same frame, 2^63 frames later. -/
def farPacket : AudioPacket := { originPacket with startFrame := 0x8000000000000000 }

def originDatagram : List UInt8 := datagramHead ++ [0, 0, 0, 0, 0, 0, 0, 0] ++ datagramTail

def farDatagram : List UInt8 := datagramHead ++ [0x80, 0, 0, 0, 0, 0, 0, 0] ++ datagramTail

theorem originDatagram_parsed :
    AudioPacket.ofDatagram originDatagram = some (some originPacket) := by
  decide

theorem farDatagram_parsed : AudioPacket.ofDatagram farDatagram = some (some farPacket) := by
  decide

theorem zero_exponent_le : (-1074 : Int) ≤ 971 := by
  decide

def zeroFinite : Finite where
  negative := false
  significand := 0
  exponent := -1074
  significand_lt := Nat.two_pow_pos 53
  exponent_ge := le_refl (-1074)
  exponent_le := zero_exponent_le
  normal := .inr rfl

theorem zeroFinite_value : zeroFinite.value = 0 := by
  simp [Finite.value, Finite.magnitude, zeroFinite]

theorem zeroFinite_le (k : Nat) : |zeroFinite.value| ≤ 2 ^ k := by
  rw [zeroFinite_value, abs_zero]
  positivity

theorem zero_reading_lt : (0 : UInt64).toNat < 2 ^ 61 := by
  decide

/-- No latency, and clocks that start at zero. -/
def zeroInput : PumpInput where
  actionLead := ⟨zeroFinite, zeroFinite_le 60⟩
  outputLead := ⟨zeroFinite, zeroFinite_le 60⟩
  machAbsoluteTime_lt := zero_reading_lt

def deviceTicks (seconds : Binary64) : UInt64 := UInt64.ofNat ⌊seconds.toRat * 24000000⌋.toNat

theorem deviceTicks_le (seconds : Finite) (h : 0 ≤ seconds.value) :
    ((deviceTicks (.finite seconds)).toNat : ℚ) ≤ seconds.value * 24000000 + 1 := by
  have hnonneg : 0 ≤ ⌊seconds.value * 24000000⌋ := Int.floor_nonneg.mpr (by positivity)
  have hmod : (deviceTicks (.finite seconds)).toNat ≤ ⌊seconds.value * 24000000⌋.toNat := by
    unfold deviceTicks
    rw [UInt64.toNat_ofNat']
    exact Nat.mod_le _ _
  have hfloor := Int.floor_le (seconds.value * 24000000)
  have hcast : ((⌊seconds.value * 24000000⌋.toNat : Nat) : ℚ) = ⌊seconds.value * 24000000⌋ := by
    exact_mod_cast congrArg (Int.cast : Int → ℚ) (Int.toNat_of_nonneg hnonneg)
  have hle : ((deviceTicks (.finite seconds)).toNat : ℚ) ≤ ⌊seconds.value * 24000000⌋.toNat := by
    exact_mod_cast hmod
  linarith

def deviceClock : HostClock where
  hostTime := deviceTicks
  hostTime_le := deviceTicks_le

/-- The player has been started, knows the clock, and has one packet. -/
def onePacket : List Event :=
  [.start, .updateClock (some ⟨zeroFinite, zeroFinite_le 65⟩) zeroInput,
    .receive ⟨originPacket, originDatagram, originDatagram_parsed⟩ zeroInput]

/-- A packet far behind it arrives. -/
def twoPackets : List Event :=
  onePacket ++ [.receive ⟨farPacket, farDatagram, farDatagram_parsed⟩ zeroInput]

theorem traps_iff_onePacket : Along Near (Playback.step deviceClock) {} onePacket := by
  have hlow := @Sound.along_low {} 0 deviceClock onePacket sound_initial (by decide)
  have hheld : (run (Playback.step deviceClock) {} onePacket).isSome = true := by
    decide +kernel
  exact (traps_iff deviceClock onePacket hlow).mp hheld

/-- The conversion of the length of the queue traps. -/
theorem far_packet_traps :
    Along (fun s _ => s.CountersLow) (Playback.step deviceClock) {} twoPackets ∧
      run (Playback.step deviceClock) {} twoPackets = none := by
  constructor
  · exact @Sound.along_low {} 0 deviceClock twoPackets sound_initial (by decide)
  · rw [← Option.isNone_iff_eq_none]
    decide +kernel

end Datagrams

end Playback

end SyncAudio.Ios
