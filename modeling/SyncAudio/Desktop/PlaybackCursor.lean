import SyncAudio.Desktop.ScheduledStreamPlayer

/-!
# The playback cursor and the end of the last read

A chunk reads the frames it passes and two more, and tells the buffer to retain
two. So the last read ends exactly where the cursor arrives, and no push expires
a packet that the cursor has not passed.
-/

namespace SyncAudio.ClientPlayback

open Word LabelledRun JitterBuffer

/-- The frames that the next chunk reads have indices of 64 bits. -/
def FramesFit (s : ClientPlayback) : Prop :=
  ∀ player ∈ s.player, ∀ callback ∈ player.callback,
    player.position.sourceFrame + player.position.sourceFrames
      (ScheduledStreamPlayer.chunkFrames callback) player.ratio ≤ 2 ^ 64

instance (s : ClientPlayback) : Decidable s.FramesFit :=
  inferInstanceAs (Decidable (∀ player ∈ s.player, ∀ callback ∈ player.callback, _))

/-- Where the last read ends, before a chunk is read and after it. -/
structure CursorAt (jb : JitterBuffer) (player : ScheduledStreamPlayer) : Prop where
  le_sourceFrame : player.callback.bind DataCallback.chunk = none →
    jb.latestReadFrame ≤ player.position.sourceFrame
  read : ∀ chunk ∈ player.callback.bind DataCallback.chunk,
    player.position.sourceFrame +
        player.position.sourceFrames chunk.chunkFrames player.ratio ≤ 2 ^ 64 ∧
      (chunk.locked = true → jb.latestReadFrame =
        player.position.sourceFrame +
          player.position.advancedFrames chunk.chunkFrames player.ratio) ∧
      (chunk.locked = false → jb.latestReadFrame ≤ player.position.sourceFrame)

/-- A format is known while packets are held, and it has channels. -/
structure FormatKnown (jb : JitterBuffer) : Prop where
  held : jb.packets.entries ≠ [] → jb.format ≠ none
  channels : ∀ format ∈ jb.format, format.channelCount ≠ 0

structure Invariant (s : ClientPlayback) : Prop where
  formatKnown : FormatKnown s.jitterBuffer
  unread : s.player = none → s.jitterBuffer.latestReadFrame = 0
  unscheduled : ∀ player ∈ s.player, player.scheduled = false →
    s.jitterBuffer.latestReadFrame = 0 ∧ player.callback = none
  format_eq : ∀ player ∈ s.player, ∃ format ∈ s.jitterBuffer.format,
    format.channelCount = player.channelCount
  cursor : ∀ player ∈ s.player, CursorAt s.jitterBuffer player
  kept : ∀ e ∈ s.kept, e ∈ s.jitterBuffer.packets.entries ∨
    e.2.endFrame ≤ s.jitterBuffer.latestReadFrame

section Buffer

variable {jb : JitterBuffer} {packet : AudioPacket}

/-- A format that is known stays. -/
theorem push_format_of_some {format : JitterBufferFormat} (h : jb.format = some format)
    (arrival : Int) (packet : AudioPacket) :
    (jb.push arrival packet).buffer.format = some format := by
  rcases push_cases jb arrival packet with hrejected | haccepted
  · rcases hrejected.format_eq with heq | ⟨heq, hformer, -⟩
    · exact heq.trans h
    · exact heq.trans (congrArg some (hformer format h).symm)
  · exact haccepted.format_eq.trans (congrArg some (haccepted.formerFormat format h).symm)

theorem FormatKnown.push (h : FormatKnown jb) (arrival : Int) (packet : AudioPacket) :
    FormatKnown (jb.push arrival packet).buffer := by
  cases hformat : jb.format with
  | some format =>
      have hpushed := push_format_of_some hformat arrival packet
      constructor
      · intro _ hnone
        rw [hpushed] at hnone
        cases hnone
      · intro other hother
        rw [hpushed] at hother
        exact h.channels other (hformat.trans hother)
  | none =>
      have hempty : jb.packets.entries = [] := by
        by_contra hheld
        exact h.held hheld hformat
      rcases push_cases jb arrival packet with hrejected | haccepted
      · have hnone : (jb.push arrival packet).buffer.format = none := by
          rcases hrejected.format_eq with heq | ⟨-, -, hheld⟩
          · exact heq.trans hformat
          · exact absurd hempty hheld
        constructor
        · intro hheld
          obtain ⟨e, he⟩ := List.exists_mem_of_ne_nil _ hheld
          rcases mem_push he with hold | ⟨hok, -⟩
          · rw [hempty] at hold
            cases hold
          · exact absurd hok hrejected.returned_ne
        · intro format hmem
          rw [hnone] at hmem
          cases hmem
      · constructor
        · intro _ hnone
          rw [haccepted.format_eq] at hnone
          cases hnone
        · intro format hmem hzero
          rw [haccepted.format_eq] at hmem
          cases hmem
          exact haccepted.valid (.inr (.inr (.inr (.inl hzero))))

/-- A read of whole frames of the known format. -/
theorem readFrames_aligned {format : JitterBufferFormat} (hformat : jb.format = some format)
    (hchannels : format.channelCount ≠ 0) (startFrame requestedFrames : Nat) (locked : Bool) :
    ∃ copiedFrames,
      (jb.readFrames startFrame (requestedFrames * format.channelCount.toNat) true locked).returned =
          .ok copiedFrames ∧
        (jb.readFrames startFrame (requestedFrames * format.channelCount.toNat) true locked).buffer =
          if locked then {
            jb with
            latestReadFrame := max jb.latestReadFrame
              (sub64 (add64 startFrame requestedFrames) (min 2 requestedFrames)) }
          else jb := by
  have hpos : 0 < format.channelCount.toNat :=
    Nat.pos_of_ne_zero fun hzero => hchannels (UInt16.toNat_inj.mp hzero)
  unfold readFrames
  cases locked with
  | false => exact ⟨0, rfl, rfl⟩
  | true =>
      rw [hformat]
      dsimp only
      rw [Nat.mul_mod_left, Nat.mul_div_cancel _ hpos]
      exact ⟨_, rfl, rfl⟩

/-- Two frames back from the end of a read of at least two. -/
theorem sub64_add64_two {startFrame requestedFrames : Nat} (htwo : 2 ≤ requestedFrames)
    (hfit : startFrame + requestedFrames ≤ 2 ^ 64) :
    sub64 (add64 startFrame requestedFrames) (min 2 requestedFrames) =
      startFrame + (requestedFrames - 2) := by
  rw [Nat.min_eq_left htwo]
  unfold sub64 add64
  omega

end Buffer

section Steps

variable {s : ClientPlayback} {player : ScheduledStreamPlayer}

theorem invariant_empty : Invariant {} := by
  constructor
  · constructor
    · exact fun h => absurd rfl h
    · intro format hformat
      cases hformat
  · exact fun _ => rfl
  · intro player hplayer
    cases hplayer
  · intro player hplayer
    cases hplayer
  · intro player hplayer
    cases hplayer
  · intro e he
    cases he

/-- A push moves no cursor, and what it drops was evicted or has been passed. -/
theorem Invariant.push (h : Invariant s) (arrival : Int) (packet : AudioPacket) :
    Invariant (s.push arrival packet) := by
  have hread := push_latestReadFrame s.jitterBuffer arrival packet
  constructor
  · exact h.formatKnown.push arrival packet
  · exact fun hnone => hread.trans (h.unread hnone)
  · intro player hplayer hscheduled
    obtain ⟨hzero, hidle⟩ := h.unscheduled player hplayer hscheduled
    exact ⟨hread.trans hzero, hidle⟩
  · intro player hplayer
    obtain ⟨format, hformat, heq⟩ := h.format_eq player hplayer
    exact ⟨format, push_format_of_some hformat arrival packet, heq⟩
  · intro player hplayer
    have hcursor := h.cursor player hplayer
    have hsame : (s.push arrival packet).jitterBuffer.latestReadFrame =
        s.jitterBuffer.latestReadFrame := hread
    constructor
    · rw [hsame]
      exact hcursor.le_sourceFrame
    · rw [hsame]
      exact hcursor.read
  · intro e he
    obtain ⟨he, hnot⟩ := List.mem_filter.mp he
    have hnot := of_decide_eq_true hnot
    have hheld (hor : e ∈ (s.push arrival packet).jitterBuffer.packets.entries ∨
        (s.jitterBuffer.push arrival packet).evicted = some e.1) :
        e ∈ (s.push arrival packet).jitterBuffer.packets.entries ∨
          e.2.endFrame ≤ (s.push arrival packet).jitterBuffer.latestReadFrame := by
      rcases hor with hmem | hevicted
      · exact .inl hmem
      · exact .inr (hread.symm ▸ hnot.resolve_left (not_not.mpr hevicted))
    have hold (he : e ∈ s.kept) : e ∈ (s.push arrival packet).jitterBuffer.packets.entries ∨
        e.2.endFrame ≤ (s.push arrival packet).jitterBuffer.latestReadFrame := by
      rcases h.kept e he with hmem | hend
      · rcases mem_push_of_mem arrival packet hmem with hmem | hend | hevicted
        · exact .inl hmem
        · exact .inr (hread.symm ▸ hend)
        · exact hheld (.inr hevicted)
      · exact .inr (hread.symm ▸ hend)
    by_cases hok : (s.jitterBuffer.push arrival packet).returned = .ok true
    · rw [hok] at he
      rcases List.mem_cons.mp he with rfl | he
      · exact hheld (mem_push_of_accepted hok)
      · exact hold he
    · apply hold
      split at he
      · exact absurd ‹_› hok
      · exact he

/-- A step of the player that leaves the buffer alone. -/
theorem Invariant.withPlayer (h : Invariant s) {player : ScheduledStreamPlayer}
    (hscheduled : player.scheduled = false →
      s.jitterBuffer.latestReadFrame = 0 ∧ player.callback = none)
    (hformat : ∃ format ∈ s.jitterBuffer.format, format.channelCount = player.channelCount)
    (hcursor : CursorAt s.jitterBuffer player) : Invariant { s with player := some player } := by
  constructor
  · exact h.formatKnown
  · exact nofun
  · rintro _ ⟨⟩
    exact hscheduled
  · rintro _ ⟨⟩
    exact hformat
  · rintro _ ⟨⟩
    exact hcursor
  · exact h.kept

/-- A cursor between two chunks. -/
theorem CursorAt.of_le {jb : JitterBuffer} {player : ScheduledStreamPlayer}
    (hchunk : player.callback.bind DataCallback.chunk = none)
    (hle : jb.latestReadFrame ≤ player.position.sourceFrame) : CursorAt jb player := by
  constructor
  · exact fun _ => hle
  · intro chunk hmem
    rw [hchunk] at hmem
    cases hmem

/-- The callback up to its loop moves no cursor. -/
theorem dataCallback_frame (player : ScheduledStreamPlayer) (frameCount : UInt32)
    (currentTime : Int) (hidle : player.callback = none) :
    (player.dataCallback frameCount currentTime).position = player.position ∧
      (player.dataCallback frameCount currentTime).scheduled = player.scheduled ∧
      (player.dataCallback frameCount currentTime).channelCount = player.channelCount ∧
      (player.dataCallback frameCount currentTime).callback.bind DataCallback.chunk = none := by
  unfold ScheduledStreamPlayer.dataCallback ScheduledStreamPlayer.finish
  dsimp only
  split_ifs <;> simp [hidle]

theorem Invariant.dataCallback (h : Invariant s) (hplayer : s.player = some player)
    (hscheduled : player.scheduled = true) (hidle : player.callback = none) (frameCount : UInt32)
    (currentTime : Int) :
    Invariant { s with player := some (player.dataCallback frameCount currentTime) } := by
  obtain ⟨hposition, hsame, hchannels, hchunk⟩ :=
    dataCallback_frame player frameCount currentTime hidle
  apply h.withPlayer
  · intro hfalse
    rw [hsame, hscheduled] at hfalse
    cases hfalse
  · rw [hchannels]
    exact h.format_eq player hplayer
  · apply CursorAt.of_le hchunk
    rw [hposition]
    apply (h.cursor player hplayer).le_sourceFrame
    rw [hidle]
    rfl

/-- The read of a chunk never throws. It ends where the cursor will arrive, or
does not happen. -/
theorem Invariant.read (h : Invariant s) (hplayer : s.player = some player)
    {callback : DataCallback} (hcallback : player.callback = some callback)
    (hchunk : callback.chunk = none) (hfit : FramesFit s) (locked : Bool) :
    ∃ t, s.read player callback locked = some t ∧ Invariant t := by
  obtain ⟨format, hformat, hchannels⟩ := h.format_eq player hplayer
  have hcount := h.formatKnown.channels format hformat
  have hfit := hfit player hplayer callback hcallback
  have hle := (h.cursor player hplayer).le_sourceFrame (by rw [hcallback]; exact hchunk)
  obtain ⟨copiedFrames, hreturned, hbuffer⟩ := readFrames_aligned hformat hcount
    player.position.sourceFrame (player.position.sourceFrames
      (ScheduledStreamPlayer.chunkFrames callback) player.ratio) locked
  rw [hchannels] at hreturned hbuffer
  have htwo : 2 ≤ player.position.sourceFrames (ScheduledStreamPlayer.chunkFrames callback)
      player.ratio := Nat.le_add_left 2 _
  rw [sub64_add64_two htwo hfit] at hbuffer
  have hlatest := congrArg JitterBuffer.latestReadFrame hbuffer
  have hpackets := s.jitterBuffer.readFrames_packets player.position.sourceFrame
    (player.position.sourceFrames (ScheduledStreamPlayer.chunkFrames callback) player.ratio *
      player.channelCount.toNat) true locked
  have hsame := s.jitterBuffer.readFrames_format player.position.sourceFrame
    (player.position.sourceFrames (ScheduledStreamPlayer.chunkFrames callback) player.ratio *
      player.channelCount.toNat) true locked
  have hgrows := s.jitterBuffer.latestReadFrame_le_readFrames player.position.sourceFrame
    (player.position.sourceFrames (ScheduledStreamPlayer.chunkFrames callback) player.ratio *
      player.channelCount.toNat) true locked
  unfold ClientPlayback.read
  dsimp only
  rw [hreturned]
  refine ⟨_, rfl, ?_⟩
  constructor
  · constructor
    · dsimp only
      rw [hpackets, hsame]
      exact h.formatKnown.held
    · dsimp only
      rw [hsame]
      exact h.formatKnown.channels
  · exact nofun
  · rintro _ ⟨⟩ hfalse
    have hidle := (h.unscheduled player hplayer hfalse).2
    rw [hcallback] at hidle
    cases hidle
  · rintro _ ⟨⟩
    exact ⟨format, hsame.trans hformat, hchannels⟩
  · rintro _ ⟨⟩
    constructor
    · intro hnone
      cases hnone
    · rintro _ ⟨⟩
      refine ⟨hfit, ?_, ?_⟩
      · rintro ⟨⟩
        rw [if_pos rfl] at hlatest
        refine hlatest.trans (max_eq_right ?_)
        exact hle.trans (Nat.le_add_right _ _)
      · rintro ⟨⟩
        exact hlatest.trans_le hle
  · intro e he
    rcases h.kept e he with hmem | hend
    · left
      dsimp only
      rw [hpackets]
      exact hmem
    · exact .inr (hend.trans hgrows)

/-- The cursor arrives where the read has ended, if it happened. -/
theorem Invariant.sourceFrame_advance (h : Invariant s) (hplayer : s.player = some player)
    {callback : DataCallback} (hcallback : player.callback = some callback) {chunk : Chunk}
    (hchunk : callback.chunk = some chunk) (latestEndFrame : Nat) :
    (player.advance callback chunk latestEndFrame).position.sourceFrame =
        player.position.sourceFrame +
          player.position.advancedFrames chunk.chunkFrames player.ratio ∧
      (chunk.locked = true → s.jitterBuffer.latestReadFrame =
        (player.advance callback chunk latestEndFrame).position.sourceFrame) ∧
      s.jitterBuffer.latestReadFrame ≤
        (player.advance callback chunk latestEndFrame).position.sourceFrame := by
  have hpending : player.callback.bind DataCallback.chunk = some chunk := by
    rw [hcallback]
    exact hchunk
  obtain ⟨hfit, hlocked, hfailed⟩ := (h.cursor player hplayer).read chunk hpending
  have hadvance : (player.advance callback chunk latestEndFrame).position.sourceFrame =
      player.position.sourceFrame +
        player.position.advancedFrames chunk.chunkFrames player.ratio := by
    have hposition : (player.advance callback chunk latestEndFrame).position =
        player.position.advance chunk.chunkFrames player.ratio := by
      unfold ScheduledStreamPlayer.advance ScheduledStreamPlayer.finish
      dsimp only
      split_ifs <;> rfl
    have hlt : player.position.sourceFrame +
        player.position.advancedFrames chunk.chunkFrames player.ratio < 2 ^ 64 := by
      unfold SourcePosition.sourceFrames at hfit
      omega
    rw [hposition]
    exact add64_of_lt hlt
  refine ⟨hadvance, ?_, ?_⟩
  · intro hlock
    exact (hlocked hlock).trans hadvance.symm
  · rw [hadvance]
    cases hlock : chunk.locked with
    | true => exact (hlocked hlock).le
    | false => exact (hfailed hlock).trans (Nat.le_add_right _ _)

theorem Invariant.advance (h : Invariant s) (hplayer : s.player = some player)
    {callback : DataCallback} (hcallback : player.callback = some callback) {chunk : Chunk}
    (hchunk : callback.chunk = some chunk) (latestEndFrame : Nat) :
    Invariant { s with player := some (player.advance callback chunk latestEndFrame) } := by
  have hframe : (player.advance callback chunk latestEndFrame).scheduled = player.scheduled ∧
      (player.advance callback chunk latestEndFrame).channelCount = player.channelCount ∧
      (player.advance callback chunk latestEndFrame).callback.bind DataCallback.chunk = none := by
    unfold ScheduledStreamPlayer.advance ScheduledStreamPlayer.finish
    dsimp only
    split_ifs <;> exact ⟨rfl, rfl, rfl⟩
  obtain ⟨hsame, hchannels, hbetween⟩ := hframe
  apply h.withPlayer
  · intro hfalse
    have hidle := (h.unscheduled player hplayer (hsame ▸ hfalse)).2
    rw [hcallback] at hidle
    cases hidle
  · rw [hchannels]
    exact h.format_eq player hplayer
  · exact CursorAt.of_le hbetween
      (h.sourceFrame_advance hplayer hcallback hchunk latestEndFrame).2.2

theorem Invariant.step {action : Action} {t : ClientPlayback} (h : Invariant s)
    (hfit : FramesFit s) (hstep : s.step action = some t) : Invariant t := by
  cases steps_of_step hstep with
  | push arrival packet => exact h.push arrival packet
  | construct hplayer hformat =>
      have hzero := h.unread hplayer
      apply h.withPlayer
      · exact fun _ => ⟨hzero, rfl⟩
      · exact ⟨_, hformat, rfl⟩
      · exact CursorAt.of_le rfl hzero.le
  | schedule player hplayer hpacket hscheduled =>
      obtain ⟨hzero, hidle⟩ := h.unscheduled player hplayer hscheduled
      apply h.withPlayer
      · exact nofun
      · exact h.format_eq player hplayer
      · apply CursorAt.of_le
        · exact congrArg (Option.bind · DataCallback.chunk) hidle
        · exact hzero.trans_le (Nat.zero_le _)
  | setCorrectionRatio ratio player hplayer =>
      have hcursor := h.cursor player hplayer
      exact h.withPlayer (h.unscheduled player hplayer) (h.format_eq player hplayer)
        ⟨hcursor.le_sourceFrame, hcursor.read⟩
  | dataCallback frameCount currentTime hplayer hscheduled hidle =>
      exact h.dataCallback hplayer hscheduled hidle frameCount currentTime
  | read locked hplayer hcallback hchunk hread =>
      obtain ⟨u, hsame, hinvariant⟩ := h.read hplayer hcallback hchunk hfit locked
      cases hread.symm.trans hsame
      exact hinvariant
  | advance hplayer hcallback hchunk => exact h.advance hplayer hcallback hchunk _

end Steps

/-- A run in which all frame indices fit 64 bits. -/
def Reaches (actions : List Action) (s : ClientPlayback) : Prop :=
  run (guarded (fun s _ => FramesFit s) step) {} actions = some s

theorem invariant_of_reaches {actions : List Action} {s : ClientPlayback}
    (h : Reaches actions s) : Invariant s := by
  refine run_preserves ?_ invariant_empty h
  intro s action t hinvariant hstep
  obtain ⟨hfit, hstep⟩ := guarded_some.mp hstep
  exact hinvariant.step hfit hstep

/-- Before each chunk the cursor is at or beyond the end of the last read, and the
buffer holds every packet that overlaps the chunk, that was accepted and that no
overflow erased. The read does not throw, and behind a chunk whose read obtained the
lock the cursor is exactly at its end. -/
theorem needed_audio_kept {actions : List Action} {s : ClientPlayback} (h : Reaches actions s)
    (hfit : FramesFit s) {player : ScheduledStreamPlayer} (hplayer : s.player = some player)
    {callback : DataCallback} (hcallback : player.callback = some callback) :
    (callback.chunk = none →
      s.jitterBuffer.latestReadFrame ≤ player.position.sourceFrame ∧
        (∀ e ∈ s.kept, ∀ frame, e.2.Covers frame → player.position.sourceFrame ≤ frame →
          frame < player.position.sourceFrame + player.position.sourceFrames
            (ScheduledStreamPlayer.chunkFrames callback) player.ratio →
          e ∈ s.jitterBuffer.packets.entries) ∧
        ∀ locked, (s.step (.read locked)).isSome) ∧
      ∀ chunk ∈ callback.chunk, chunk.locked = true → ∀ t, s.step .advance = some t →
        ∃ advanced ∈ t.player,
          t.jitterBuffer.latestReadFrame = advanced.position.sourceFrame := by
  have hinvariant := invariant_of_reaches h
  constructor
  · intro hchunk
    have hle := (hinvariant.cursor player hplayer).le_sourceFrame (by rw [hcallback]; exact hchunk)
    refine ⟨hle, ?_, ?_⟩
    · intro e he frame hcovers hstart _
      refine (hinvariant.kept e he).resolve_right ?_
      intro hend
      have hlt : frame < e.2.endFrame := hcovers.2
      omega
    · intro locked
      obtain ⟨t, hread, -⟩ := hinvariant.read hplayer hcallback hchunk hfit locked
      simp [step, hplayer, hcallback, hchunk, hread]
  · intro chunk hchunk hlocked t hstep
    simp only [step, hplayer, hcallback, Option.mem_def.mp hchunk, Option.some.injEq] at hstep
    rw [← hstep]
    exact ⟨_, rfl, (hinvariant.sourceFrame_advance hplayer hcallback hchunk _).2.1 hlocked⟩

/-- A packet of four frames, of which a callback renders the first two. -/
def shortPacket : AudioPacket where
  sampleRate := 48000
  channelCount := 1
  startFrame := 96
  frameCount := 4
  pcmPayload := [1, 0, 2, 0, 3, 0, 4, 0]

/-- A callback reads its two frames and advances, and the next one begins. -/
def shortRun : List Action :=
  [.push 0 shortPacket, .construct, .schedule 0 0, .dataCallback 2 0, .read true, .advance,
    .dataCallback 2 0]

theorem needed_audio_kept_short :
    (∃ s player callback, Reaches shortRun s ∧ s.player = some player ∧
      player.callback = some callback ∧ s.jitterBuffer.latestReadFrame = 98 ∧
      s.jitterBuffer.latestReadFrame ≤ player.position.sourceFrame ∧
      ∀ locked, (s.step (.read locked)).isSome) ∧
    ∃ s t, Reaches (shortRun.take 5) s ∧ s.step .advance = some t ∧
      ∃ advanced ∈ t.player, t.jitterBuffer.latestReadFrame = advanced.position.sourceFrame := by
  have hend : (run (guarded (fun s _ => FramesFit s) step) {} shortRun).any fun s =>
      s.jitterBuffer.latestReadFrame = 98 && decide s.FramesFit && s.player.any fun player =>
        player.callback.any fun callback => callback.chunk.isNone := by
    decide +kernel
  have hread : (run (guarded (fun s _ => FramesFit s) step) {} (shortRun.take 5)).any fun s =>
      decide s.FramesFit && (s.step .advance).isSome && s.player.any fun player =>
        player.callback.any fun callback => callback.chunk.any Chunk.locked := by
    decide +kernel
  simp only [Option.any_eq_true, Bool.and_eq_true, decide_eq_true_eq, Option.isNone_iff_eq_none,
    Option.isSome_iff_exists] at hend hread
  constructor
  · obtain ⟨s, hreaches, ⟨hlatest, hfit⟩, player, hplayer, callback, hcallback, hchunk⟩ := hend
    have hkept := (needed_audio_kept hreaches hfit hplayer hcallback).1 hchunk
    exact ⟨s, player, callback, hreaches, hplayer, hcallback, hlatest, hkept.1, hkept.2.2⟩
  · obtain ⟨s, hreaches, ⟨hfit, t, hadvance⟩, player, hplayer, callback, hcallback, chunk, hchunk,
      hlocked⟩ := hread
    have hkept := (needed_audio_kept hreaches hfit hplayer hcallback).2 chunk hchunk hlocked
    exact ⟨s, t, hreaches, hadvance, hkept t hadvance⟩

end SyncAudio.ClientPlayback
