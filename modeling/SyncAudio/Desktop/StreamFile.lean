import SyncAudio.Desktop.NetworkHost
import SyncAudio.Lib.Spans

/-!
# The packets of a segment

The loop of `streamFile`, pass after pass. The packets follow each other without a gap,
each is accepted by the serializer, and none reaches behind the cutoff of an action that
was pending when it was cut.

## Implementation notes

What the other threads, the device and the decoder do in a pass is an input of the pass.
The number of frames before a cutoff is a parameter: the code computes it with doubles,
and `exactRequestedFrames` is the same formula without rounding.
-/

namespace SyncAudio.DesktopNetworkHost

open Word

/-- The frames to request, computed with exact numbers. -/
def exactRequestedFrames (segment : Segment) (gap : Int) : Nat :=
  let framesUntilCutoff : ℚ := (gap : ℚ) / 1000000000 * segment.clock.sampleRate
  if framesUntilCutoff < segment.framesPerPacket then max 1 ⌊framesUntilCutoff⌋.toNat
  else segment.framesPerPacket

/-- `turn`, for any way to find the frames to request. -/
def turnWith (requestedFrames : Segment → Int → Nat) (host : DesktopNetworkHost)
    (segment : Segment) (outputRouteChanged : Bool)
    (pendingAction : Option ScheduledRoomAction) : Except String Turn :=
  if outputRouteChanged then
    .error "Host output route changed; restart with a calibration for the new route"
  else do
    let presentationTimestamp ←
      segment.clock.frameToTimestamp (sub64 segment.startFrame segment.initialFrame)
    match pendingAction with
    | none => pure (.send presentationTimestamp segment.framesPerPacket)
    | some pending =>
        if presentationTimestamp ≥ host.cutoff pending then pure .endedForCommand
        else
          pure (.send presentationTimestamp
            (requestedFrames segment (host.cutoff pending - presentationTimestamp)))

/-- What happens around a pass. No number of frames is a failure of the decoder. -/
structure Pass where
  outputRouteChanged : Bool := false
  pendingAction : Option ScheduledRoomAction := none
  ready : Option Nat := some 574

/-- How the loop has ended, if it has. -/
inductive Outcome where
  | running
  | endedForCommand
  | sourceExhausted
  | failed (message : String)
  deriving DecidableEq

/-- A packet and the action that its pass saw. -/
structure Built where
  packet : AudioPacket
  datagram : List UInt8
  pendingAction : Option ScheduledRoomAction

/-- The loop of `streamFile` with what it has built. -/
structure Stream where
  segment : Segment
  packets : List Built := []
  framesSent : Nat := 0
  outcome : Outcome := .running

namespace Stream

/-- `stats.lastFrame` -/
def lastFrame (s : Stream) : Nat := s.segment.startFrame

/-- The packet of a pass has been sent. -/
def extend (s : Stream) (pending : Option ScheduledRoomAction) (framesRead : Nat) (sent : Sent) :
    Stream where
  segment := sent.segment
  packets := s.packets ++ [⟨sent.packet, sent.datagram, pending⟩]
  framesSent := add64 s.framesSent framesRead

/-- The part of a pass behind the decision to read. -/
def send (source : AudioSource) (s : Stream) (pass : Pass) (presentationTimestamp : Int)
    (requested : Nat) : Stream :=
  match sendPacket source s.segment presentationTimestamp requested pass.ready with
  | .error message => { s with outcome := .failed message }
  | .ok none => { s with outcome := .sourceExhausted }
  | .ok (some sent) =>
      s.extend pass.pendingAction
        ((pass.ready.map (decoderRead source s.segment requested)).getD 0) sent

/-- One pass of the loop. -/
def step (requestedFrames : Segment → Int → Nat) (host : DesktopNetworkHost)
    (source : AudioSource) (s : Stream) (pass : Pass) : Stream :=
  match s.outcome with
  | .running =>
      match host.turnWith requestedFrames s.segment pass.outputRouteChanged pass.pendingAction with
      | .error message => { s with outcome := .failed message }
      | .ok .endedForCommand => { s with outcome := .endedForCommand }
      | .ok (.send presentationTimestamp requested) =>
          s.send source pass presentationTimestamp requested
  | _ => s

/-- The loop over some passes. -/
def run (requestedFrames : Segment → Int → Nat) (host : DesktopNetworkHost)
    (source : AudioSource) (s : Stream) (passes : List Pass) : Stream :=
  passes.foldl (step requestedFrames host source) s

end Stream

/-- With its own doubles the loop takes the turns of the code. -/
theorem turnWith_requestedFrames (host : DesktopNetworkHost) (segment : Segment)
    (outputRouteChanged : Bool) (pendingAction : Option ScheduledRoomAction) :
    host.turnWith requestedFrames segment outputRouteChanged pendingAction =
      host.turn segment outputRouteChanged pendingAction := rfl

/-- A way to find the frames to request that never asks for a frame behind the gap, but for
a single one. -/
structure Cautious (requestedFrames : Segment → Int → Nat) : Prop where
  pos : ∀ segment gap, 0 < segment.framesPerPacket → 0 < requestedFrames segment gap
  le : ∀ segment gap, 0 < segment.framesPerPacket →
    requestedFrames segment gap ≤ segment.framesPerPacket
  fits : ∀ segment gap, 0 < gap → requestedFrames segment gap ≤ 1 ∨
    (requestedFrames segment gap : Int) * 1000000000 ≤ gap * segment.clock.sampleRate

section Requested

variable {segment : Segment} {gap : Int}

/-- The exact number is at most that of the whole frames in the gap. -/
theorem exactRequestedFrames_fits (segment : Segment) (gap : Int) :
    exactRequestedFrames segment gap ≤ 1 ∨
      (exactRequestedFrames segment gap : Int) * 1000000000 ≤ gap * segment.clock.sampleRate := by
  have hexact {n : Nat}
      (h : (n : ℚ) ≤ (gap : ℚ) / 1000000000 * segment.clock.sampleRate) :
      (n : Int) * 1000000000 ≤ gap * segment.clock.sampleRate := by
    have hscaled : (n : ℚ) * 1000000000 ≤ gap * segment.clock.sampleRate := by
      calc
        (n : ℚ) * 1000000000
          ≤ (gap : ℚ) / 1000000000 * segment.clock.sampleRate * 1000000000 :=
            mul_le_mul_of_nonneg_right h (by norm_num)
        _ = gap * segment.clock.sampleRate := by ring
    exact_mod_cast hscaled
  unfold exactRequestedFrames
  dsimp only
  split_ifs with hcut
  · by_cases hfew : ⌊(gap : ℚ) / 1000000000 * segment.clock.sampleRate⌋.toNat ≤ 1
    · exact .inl (max_le le_rfl hfew)
    · refine .inr (hexact ?_)
      rw [max_eq_right (by omega)]
      have hfloor : 0 ≤ ⌊(gap : ℚ) / 1000000000 * segment.clock.sampleRate⌋ := by omega
      calc
        ((⌊(gap : ℚ) / 1000000000 * segment.clock.sampleRate⌋.toNat : Nat) : ℚ)
          = (⌊(gap : ℚ) / 1000000000 * segment.clock.sampleRate⌋ : ℚ) := by
            exact_mod_cast Int.toNat_of_nonneg hfloor
        _ ≤ (gap : ℚ) / 1000000000 * segment.clock.sampleRate := Int.floor_le _
  · exact .inr (hexact (not_lt.mp hcut))

theorem exactRequestedFrames_le (hpos : 0 < segment.framesPerPacket) :
    exactRequestedFrames segment gap ≤ segment.framesPerPacket := by
  unfold exactRequestedFrames
  dsimp only
  split_ifs with hcut
  · apply max_le hpos
    have hfloor : ⌊(gap : ℚ) / 1000000000 * segment.clock.sampleRate⌋ <
        (segment.framesPerPacket : Int) := Int.floor_lt.mpr (by exact_mod_cast hcut)
    omega
  · exact le_rfl

theorem cautious_exactRequestedFrames : Cautious exactRequestedFrames where
  pos := by
    intro segment gap hpos
    unfold exactRequestedFrames
    dsimp only
    split_ifs
    · exact lt_max_of_lt_left Nat.one_pos
    · exact hpos
  le := fun _ _ hpos => exactRequestedFrames_le hpos
  fits := fun segment gap _ => exactRequestedFrames_fits segment gap

end Requested

/-- The segment with which the loop begins. -/
structure Opened (host : DesktopNetworkHost) (source : AudioSource) (start : Segment) : Prop where
  wellFormed : start.WellFormed source
  startFrame_eq : start.startFrame = start.initialFrame
  sequenceNumber_eq : start.sequenceNumber = 0
  framesPerPacket_eq : start.framesPerPacket = host.framesPerPacket source
  streamId_ne : start.streamId ≠ 0

/-- The times of all frames up to the end of the source are in range. -/
structure InRange (source : AudioSource) (start : Segment) : Prop where
  start_nonneg : 0 ≤ start.clock.startTime
  end_le : start.clock.startTime +
    start.clock.frameNanoseconds (source.frameCount - start.initialFrame) ≤
      (PlaybackClock.maximumDuration : Int)

def Built.frameCount (built : Built) : Nat := built.packet.frameCount.toNat

/-- The frames of some packets. -/
def frames (packets : List Built) : Nat := Spans.total Built.frameCount packets

/-- The loop behind some packets: only the position and the number have moved. -/
def Segment.behind (start : Segment) (packets : List Built) : Segment :=
  { start with
    startFrame := start.initialFrame + frames packets
    sequenceNumber := UInt32.ofNat packets.length
    decoderPosition := start.initialFrame + frames packets }

/-- What holds of a packet behind some others. -/
structure Follows (host : DesktopNetworkHost) (source : AudioSource) (start : Segment)
    (packets : List Built) (built : Built) : Prop where
  sequenceNumber_eq : built.packet.sequenceNumber = UInt32.ofNat packets.length
  startFrame_eq : built.packet.startFrame.toNat = start.initialFrame + frames packets
  frameCount_pos : 0 < built.packet.frameCount.toNat
  frameCount_le : built.packet.frameCount.toNat ≤ start.framesPerPacket
  accepted : PacketSerializer.serialize built.packet = .ok built.datagram
  payload_eq : built.packet.pcmPayload = toLittleEndianPcm
    (source.slice built.packet.startFrame.toNat built.packet.frameCount.toNat)
  due : start.clock.frameToTimestamp (frames packets) =
    .ok (built.packet.presentationTimestampNanoseconds.toNat : Int)
  cut : ∀ action ∈ built.pendingAction, ∀ later < built.packet.frameCount.toNat,
    ∃ time, start.clock.frameToTimestamp (frames packets + later) = .ok time ∧
      time < host.cutoff action

section Packets

variable {host : DesktopNetworkHost} {source : AudioSource} {start : Segment}
  {packets : List Built}

theorem frames_append (packets : List Built) (built : Built) :
    frames (packets ++ [built]) = frames packets + built.packet.frameCount.toNat :=
  Spans.total_append packets built

/-- What fits into a packet of the segment fits into a datagram. -/
theorem payload_le {framesRead : Nat} (hframes : framesRead ≤ host.framesPerPacket source) :
    framesRead * source.channels.toNat * 2 ≤ PacketSerializer.maximumPayloadSize := by
  have hle : framesRead ≤ PacketSerializer.maximumPayloadSize / (source.channels.toNat * 2) :=
    hframes.trans (min_le_right _ _)
  calc
    framesRead * source.channels.toNat * 2 = framesRead * (source.channels.toNat * 2) :=
      Nat.mul_assoc _ _ _
    _ ≤ PacketSerializer.maximumPayloadSize := (Nat.le_div_iff_mul_le
      (Nat.mul_pos source.channels_ge Nat.two_pos)).mp hle

/-- A packet of the loop is accepted by the serializer. -/
theorem packet_valid {segment : Segment} {presentationTimestamp : Int} {framesRead : Nat}
    (hstream : segment.streamId ≠ 0) (hposition : segment.decoderPosition = segment.startFrame)
    (hpos : 0 < framesRead) (hframes : framesRead ≤ host.framesPerPacket source)
    (hend : segment.startFrame + framesRead ≤ source.frameCount)
    (hmaximum : presentationTimestamp ≤ (PlaybackClock.maximumDuration : Int)) :
    PacketSerializer.Valid (packet source segment presentationTimestamp framesRead) := by
  have hsmall := framesPerPacket_le host source
  have hlength := source.length_lt
  have hfit : source.frameCount < 2 ^ 64 := hlength
  have hcount : (UInt16.ofNat framesRead).toNat = framesRead :=
    UInt16.toNat_ofNat_of_lt' (by simp only [UInt16.size]; omega)
  have hstart : (UInt64.ofNat segment.startFrame).toNat = segment.startFrame :=
    UInt64.toNat_ofNat_of_lt' (by simp only [UInt64.size]; omega)
  have htime : presentationTimestamp.toNat < 2 ^ 63 := by
    have hvalue : PlaybackClock.maximumDuration = 2 ^ 63 - 1 := rfl
    omega
  have hstamp : (UInt64.ofNat presentationTimestamp.toNat).toNat = presentationTimestamp.toNat :=
    UInt64.toNat_ofNat_of_lt' (by simp only [UInt64.size]; omega)
  have hpayload : (packet source segment presentationTimestamp framesRead).pcmPayload.length =
      framesRead * source.channels.toNat * 2 := by
    unfold packet
    rw [toLittleEndianPcm_length, slice_length (by rw [hposition]; exact hend)]
  constructor
  · rfl
  · exact source.sampleRate_ge
  · exact source.sampleRate_le
  · exact source.channels_ge
  · exact source.channels_le
  · exact hstream
  · exact hcount.symm ▸ hpos
  · dsimp only [packet]
    rw [hcount, hstart]
    omega
  · exact hstamp.symm ▸ htime
  · rw [hpayload]
    exact payload_le hframes
  · rfl
  · rw [hpayload]
    dsimp only [packet]
    rw [hcount]
    ring

/-- The time at which the packet behind the others is due. -/
def nextTime (start : Segment) (packets : List Built) : Int :=
  start.clock.startTime + start.clock.frameNanoseconds (frames packets)

/-- The packet behind the others, when its pass has read some frames. -/
def nextBuilt (source : AudioSource) (start : Segment) (packets : List Built)
    (pending : Option ScheduledRoomAction) (framesRead : Nat) : Built where
  packet := packet source (start.behind packets) (nextTime start packets) framesRead
  datagram := PacketSerializer.wireBytes
    (packet source (start.behind packets) (nextTime start packets) framesRead)
  pendingAction := pending

variable {pending : Option ScheduledRoomAction} {requested framesRead : Nat}

theorem nextBuilt_frameCount (hframes : framesRead ≤ host.framesPerPacket source) :
    (nextBuilt source start packets pending framesRead).packet.frameCount.toNat = framesRead := by
  have hsmall := framesPerPacket_le host source
  exact UInt16.toNat_ofNat_of_lt' (by simp only [UInt16.size]; omega)

theorem Opened.sampleRate_le (h : Opened host source start) :
    start.clock.sampleRate ≤ PlaybackClock.nanosecondsPerSecond := by
  have hrate := source.sampleRate_le
  rw [h.wellFormed.sampleRate_eq]
  exact hrate.trans (by decide)

/-- Every frame of the source has its time. -/
theorem InRange.time (h : InRange source start) {frame : Nat}
    (hframe : frame ≤ source.frameCount - start.initialFrame) :
    start.clock.frameToTimestamp frame =
        .ok (start.clock.startTime + start.clock.frameNanoseconds frame) ∧
      start.clock.startTime + start.clock.frameNanoseconds frame ≤
        (PlaybackClock.maximumDuration : Int) := by
  have hmono := start.clock.elapsed_gc.monotone_l hframe
  have hend := h.end_le
  have hle : start.clock.startTime + start.clock.frameNanoseconds frame ≤
      (PlaybackClock.maximumDuration : Int) := by omega
  exact ⟨PlaybackClock.frameToTimestamp_ok h.start_nonneg hle, hle⟩

/-- The request keeps clear of the cutoff of a pending action, but for one frame. -/
def Clear (host : DesktopNetworkHost) (start : Segment) (packets : List Built)
    (pending : Option ScheduledRoomAction) (requested : Nat) : Prop :=
  ∀ action ∈ pending, nextTime start packets < host.cutoff action ∧
    (requested ≤ 1 ∨ (requested : Int) * 1000000000 ≤
      (host.cutoff action - nextTime start packets) * start.clock.sampleRate)

/-- A packet that is cut behind the others follows them. -/
theorem follows_nextBuilt (hopened : Opened host source start) (hrange : InRange source start)
    (hpos : 0 < framesRead) (hrequested : framesRead ≤ requested)
    (hle : requested ≤ start.framesPerPacket)
    (hend : start.initialFrame + frames packets + framesRead ≤ source.frameCount)
    (hclear : Clear host start packets pending requested) :
    Follows host source start packets (nextBuilt source start packets pending framesRead) := by
  have hframes : framesRead ≤ host.framesPerPacket source :=
    hopened.framesPerPacket_eq ▸ hrequested.trans hle
  have hcount := @nextBuilt_frameCount host source start packets pending framesRead hframes
  have hlength : source.frameCount < 2 ^ 64 := source.length_lt
  have hstart : (nextBuilt source start packets pending framesRead).packet.startFrame.toNat =
      start.initialFrame + frames packets := by
    apply UInt64.toNat_ofNat_of_lt'
    change start.initialFrame + frames packets < 2 ^ 64
    omega
  have hfit : frames packets ≤ source.frameCount - start.initialFrame := by omega
  obtain ⟨hdue, hmaximum⟩ := hrange.time hfit
  have hnonneg : 0 ≤ nextTime start packets := by
    have hfirst := hrange.start_nonneg
    unfold nextTime
    omega
  have hstamp : (nextBuilt source start packets pending
      framesRead).packet.presentationTimestampNanoseconds.toNat = (nextTime start packets).toNat := by
    have hvalue : PlaybackClock.maximumDuration = 2 ^ 63 - 1 := rfl
    apply UInt64.toNat_ofNat_of_lt'
    change (nextTime start packets).toNat < 2 ^ 64
    unfold nextTime
    omega
  constructor
  · rfl
  · exact hstart
  · exact hcount.symm ▸ hpos
  · exact hcount.symm ▸ hrequested.trans hle
  · apply PacketSerializer.serialize_eq_ok_iff.mpr
    exact ⟨@packet_valid host source (start.behind packets) (nextTime start packets) framesRead
      hopened.streamId_ne rfl hpos hframes hend hmaximum, rfl⟩
  · rw [hstart, hcount]
    rfl
  · rw [hstamp, Int.toNat_of_nonneg hnonneg]
    exact hdue
  · intro action haction later hlater
    obtain ⟨hbefore, hfits⟩ := hclear action haction
    rw [hcount] at hlater
    have hinside : frames packets + later ≤ source.frameCount - start.initialFrame := by omega
    refine ⟨_, (hrange.time hinside).1, ?_⟩
    unfold nextTime at hbefore hfits
    by_cases hone : requested ≤ 1
    · obtain rfl : later = 0 := by omega
      exact hbefore
    · have hgap := hfits.resolve_left hone
      have hsecond : PlaybackClock.nanosecondsPerSecond = 1000000000 := rfl
      have hlt := @PlaybackClock.frameNanoseconds_add_lt start.clock (frames packets) later
        (host.cutoff action - (start.clock.startTime +
          start.clock.frameNanoseconds (frames packets))).toNat hopened.sampleRate_le (by
          zify
          rw [Int.toNat_of_nonneg (by omega), hsecond]
          calc
            ((later : Int) + 1) * ((1000000000 : Nat) : Int) ≤ (requested : Int) * 1000000000 := by
              push_cast
              omega
            _ ≤ _ := hgap)
      omega

/-- The part of a pass behind the decision to read. -/
theorem sendPacket_behind (hopened : Opened host source start) (hrange : InRange source start)
    (hle : requested ≤ start.framesPerPacket) (ready : Nat)
    (pending : Option ScheduledRoomAction) :
    let framesRead := decoderRead source (start.behind packets) requested ready
    let built := nextBuilt source start packets pending framesRead
    sendPacket source (start.behind packets) (nextTime start packets) requested (some ready) =
      if framesRead = 0 then .ok none
      else .ok (some ⟨built.packet, built.datagram, start.behind (packets ++ [built])⟩) := by
  intro framesRead built
  have hread : framesRead ≤ requested ∧
      framesRead ≤ source.frameCount - (start.initialFrame + frames packets) :=
    ⟨(min_le_right _ _).trans (min_le_left _ _), (min_le_right _ _).trans (min_le_right _ _)⟩
  have hlength : source.frameCount < 2 ^ 64 := source.length_lt
  have hframes : framesRead ≤ host.framesPerPacket source :=
    hopened.framesPerPacket_eq ▸ hread.1.trans hle
  unfold sendPacket
  dsimp only
  by_cases hempty : framesRead = 0
  · rw [if_pos hempty, if_pos hempty]
  · have hfit : frames packets ≤ source.frameCount - start.initialFrame := by omega
    obtain ⟨-, hmaximum⟩ := hrange.time hfit
    have hnonneg : ¬ nextTime start packets < 0 := by
      have hfirst := hrange.start_nonneg
      unfold nextTime
      omega
    have hvalid := @packet_valid host source (start.behind packets) (nextTime start packets)
      framesRead hopened.streamId_ne rfl (Nat.pos_of_ne_zero hempty) hframes
      (by change start.initialFrame + frames packets + framesRead ≤ _; omega) hmaximum
    have hserialize := PacketSerializer.serialize_eq_ok_iff.mpr ⟨hvalid, rfl⟩
    have hsegment : ({ start.behind packets with
        startFrame := add64 (start.behind packets).startFrame framesRead
        sequenceNumber := (start.behind packets).sequenceNumber + 1
        decoderPosition := (start.behind packets).decoderPosition + framesRead } : Segment) =
          start.behind (packets ++ [built]) := by
      have hcount : built.packet.frameCount.toNat = framesRead := nextBuilt_frameCount hframes
      unfold Segment.behind
      dsimp only
      rw [add64_of_lt (by omega), frames_append, hcount, List.length_append, List.length_singleton,
        UInt32.ofNat_add, Nat.add_assoc]
      rfl
    rw [if_neg hempty, if_neg hempty, if_neg hnonneg, hserialize]
    exact congrArg (fun segment => Except.ok (some (Sent.mk _ _ segment))) hsegment

end Packets

/-- The route stays and the decoder does not fail. -/
def Pass.Healthy (pass : Pass) : Prop := pass.outputRouteChanged = false ∧ pass.ready.isSome

/-- The pass finds frames to send, and no action is at its cutoff. -/
structure Pass.Sends (host : DesktopNetworkHost) (source : AudioSource) (start : Segment)
    (packets : List Built) (pass : Pass) : Prop where
  healthy : pass.Healthy
  ready_pos : ∀ ready ∈ pass.ready, 0 < ready
  inSource : start.initialFrame + frames packets < source.frameCount
  early : ∀ action ∈ pass.pendingAction, nextTime start packets < host.cutoff action

namespace Stream

/-- The running loop behind some packets. -/
def behind (start : Segment) (packets : List Built) : Stream where
  segment := start.behind packets
  packets
  framesSent := frames packets

/-- The loop has sent its packets one behind the other. -/
structure Invariant (host : DesktopNetworkHost) (source : AudioSource) (start : Segment)
    (s : Stream) : Prop where
  stream_eq : { s with outcome := .running } = behind start s.packets
  inSource : start.initialFrame + frames s.packets ≤ max start.initialFrame source.frameCount
  follows : ∀ before built after, s.packets = before ++ built :: after →
    Follows host source start before built

variable {requestedFrames : Segment → Int → Nat} {host : DesktopNetworkHost}
  {source : AudioSource} {start : Segment} {packets : List Built} {s : Stream} {pass : Pass}

theorem Invariant.initial (h : Opened host source start) :
    Invariant host source start { segment := start } where
  stream_eq := by
    have hstart := h.startFrame_eq
    have hposition := h.wellFormed.position_eq
    have hsequence := h.sequenceNumber_eq
    obtain ⟨sessionId, streamId, framesPerPacket, clock, initialFrame, startFrame, sequenceNumber,
      decoderPosition⟩ := start
    dsimp only at hstart hposition hsequence
    subst hstart hposition hsequence
    rfl
  inSource := le_max_left _ _
  follows := by
    intro before built after h
    exact absurd h.symm (List.append_ne_nil_of_right_ne_nil _ (List.cons_ne_nil _ _))

/-- One more packet behind the others keeps the invariant. -/
theorem Invariant.extend (hs : Invariant host source start s) {built : Built}
    (hfollows : Follows host source start s.packets built)
    (hend : start.initialFrame + frames (s.packets ++ [built]) ≤ source.frameCount) :
    Invariant host source start (behind start (s.packets ++ [built])) where
  stream_eq := rfl
  inSource := hend.trans (le_max_right _ _)
  follows := by
    intro before other after h
    change s.packets ++ [built] = before ++ other :: after at h
    obtain rfl | ⟨rest, last, rfl⟩ := List.eq_nil_or_concat after
    · obtain ⟨hbefore, hother⟩ := List.append_inj' h rfl
      rw [← hbefore, ← (List.cons.inj hother).1]
      exact hfollows
    · rw [List.concat_eq_append, ← List.cons_append, ← List.append_assoc] at h
      exact hs.follows before other rest (List.append_inj' h rfl).1

/-- The loop ends behind its packets, or sends one more. -/
def Continues (host : DesktopNetworkHost) (source : AudioSource) (start : Segment)
    (packets : List Built) (pass : Pass) (next : Stream) : Prop :=
  (∃ outcome, next = { behind start packets with outcome } ∧
      (pass.Healthy → ∀ message, outcome ≠ .failed message) ∧
      ¬ pass.Sends host source start packets) ∨
    ∃ built, Follows host source start packets built ∧
      start.initialFrame + frames (packets ++ [built]) ≤ source.frameCount ∧
      built.pendingAction = pass.pendingAction ∧ next = behind start (packets ++ [built])

theorem send_exhausted {presentationTimestamp : Int} {requested : Nat}
    (h : sendPacket source s.segment presentationTimestamp requested pass.ready = .ok none) :
    s.send source pass presentationTimestamp requested =
      { s with outcome := .sourceExhausted } := by
  unfold send
  rw [h]

theorem send_sent {presentationTimestamp : Int} {requested : Nat} {sent : Sent}
    (h : sendPacket source s.segment presentationTimestamp requested pass.ready =
      .ok (some sent)) :
    s.send source pass presentationTimestamp requested =
      s.extend pass.pendingAction
        ((pass.ready.map (decoderRead source s.segment requested)).getD 0) sent := by
  unfold send
  rw [h]

theorem send_continues (hopened : Opened host source start) (hrange : InRange source start)
    {requested : Nat} (hpos : 0 < requested) (hle : requested ≤ start.framesPerPacket)
    (hclear : Clear host start packets pass.pendingAction requested) :
    Continues host source start packets pass
      ((behind start packets).send source pass (nextTime start packets) requested) := by
  obtain ⟨outputRouteChanged, pendingAction, ready⟩ := pass
  cases ready with
  | none =>
      have hunhealthy : ¬ Pass.Healthy ⟨outputRouteChanged, pendingAction, none⟩ :=
        fun healthy => absurd healthy.2 Bool.false_ne_true
      exact .inl ⟨_, rfl, fun healthy => absurd healthy hunhealthy,
        fun hsends => hunhealthy hsends.healthy⟩
  | some ready =>
      have hsent := @sendPacket_behind host source start packets requested hopened hrange hle ready
        pendingAction
      have hread : decoderRead source (start.behind packets) requested ready ≤ requested ∧
          decoderRead source (start.behind packets) requested ready ≤
            source.frameCount - (start.initialFrame + frames packets) :=
        ⟨(min_le_right _ _).trans (min_le_left _ _), (min_le_right _ _).trans (min_le_right _ _)⟩
      dsimp only at hsent
      by_cases hempty : decoderRead source (start.behind packets) requested ready = 0
      · rw [if_pos hempty] at hsent
        refine .inl ⟨_, send_exhausted hsent, fun _ => nofun, fun hsends => ?_⟩
        have hready : 0 < ready := hsends.ready_pos ready rfl
        have hleft := hsends.inSource
        have hzero : min ready
            (min requested (source.frameCount - (start.initialFrame + frames packets))) = 0 := hempty
        omega
      · rw [if_neg hempty] at hsent
        generalize hframes : decoderRead source (start.behind packets) requested ready = framesRead
          at hsent hread hempty
        have hlength : source.frameCount < 2 ^ 64 := source.length_lt
        have hcount := @nextBuilt_frameCount host source start packets pendingAction framesRead
          (hopened.framesPerPacket_eq ▸ hread.1.trans hle)
        have hfollows := @follows_nextBuilt host source start packets pendingAction requested
          framesRead hopened hrange (Nat.pos_of_ne_zero hempty) hread.1 hle (by omega) hclear
        have hall : frames (packets ++ [nextBuilt source start packets pendingAction framesRead]) =
            frames packets + framesRead := by rw [frames_append, hcount]
        refine .inr ⟨nextBuilt source start packets pendingAction framesRead, hfollows, ?_, rfl, ?_⟩
        · rw [hall]
          omega
        · refine (send_sent hsent).trans ?_
          unfold extend behind
          dsimp only [Option.map_some, Option.getD_some]
          rw [hframes, hall, add64_of_lt (by omega)]
          rfl

section Turn

variable {segment : Segment} {time : Int}
  (h : segment.clock.frameToTimestamp (sub64 segment.startFrame segment.initialFrame) = .ok time)

include h

theorem turnWith_none : host.turnWith requestedFrames segment false none =
    .ok (.send time segment.framesPerPacket) := by
  unfold turnWith
  rw [if_neg Bool.false_ne_true, h]
  rfl

theorem turnWith_some (action : ScheduledRoomAction) :
    host.turnWith requestedFrames segment false (some action) =
      if time ≥ host.cutoff action then .ok .endedForCommand
      else .ok (.send time (requestedFrames segment (host.cutoff action - time))) := by
  unfold turnWith
  rw [if_neg Bool.false_ne_true, h]
  rfl

end Turn

section Step

variable (hrunning : s.outcome = .running)

include hrunning

theorem step_failed {message : String}
    (h : host.turnWith requestedFrames s.segment pass.outputRouteChanged pass.pendingAction =
      .error message) :
    s.step requestedFrames host source pass = { s with outcome := .failed message } := by
  unfold step
  rw [hrunning]
  dsimp only
  rw [h]

theorem step_endedForCommand
    (h : host.turnWith requestedFrames s.segment pass.outputRouteChanged pass.pendingAction =
      .ok .endedForCommand) :
    s.step requestedFrames host source pass = { s with outcome := .endedForCommand } := by
  unfold step
  rw [hrunning]
  dsimp only
  rw [h]

theorem step_send {presentationTimestamp : Int} {requested : Nat}
    (h : host.turnWith requestedFrames s.segment pass.outputRouteChanged pass.pendingAction =
      .ok (.send presentationTimestamp requested)) :
    s.step requestedFrames host source pass =
      s.send source pass presentationTimestamp requested := by
  unfold step
  rw [hrunning]
  dsimp only
  rw [h]

end Step

/-- A pass of the running loop. -/
theorem step_continues (hcautious : Cautious requestedFrames) (hopened : Opened host source start)
    (hrange : InRange source start)
    (hinSource : start.initialFrame + frames packets ≤ max start.initialFrame source.frameCount)
    (pass : Pass) :
    Continues host source start packets pass
      ((behind start packets).step requestedFrames host source pass) := by
  have hfit : frames packets ≤ source.frameCount - start.initialFrame := by omega
  have hlength : source.frameCount < 2 ^ 64 := source.length_lt
  have hstart := hopened.wellFormed.startFrame_lt
  have hinitial := hopened.startFrame_eq
  have hpos := hopened.wellFormed.framesPerPacket_pos
  have htime : (start.behind packets).clock.frameToTimestamp
      (sub64 (start.behind packets).startFrame (start.behind packets).initialFrame) =
        .ok (nextTime start packets) := by
    change start.clock.frameToTimestamp
      (sub64 (start.initialFrame + frames packets) start.initialFrame) = _
    rw [sub64_of_le (Nat.le_add_right _ _) (by omega), Nat.add_sub_cancel_left]
    exact (hrange.time hfit).1
  obtain ⟨outputRouteChanged, pendingAction, ready⟩ := pass
  cases outputRouteChanged with
  | true =>
      have hunhealthy : ¬ Pass.Healthy ⟨true, pendingAction, ready⟩ :=
        fun healthy => absurd healthy.1 nofun
      exact .inl ⟨_, step_failed rfl rfl, fun healthy => absurd healthy hunhealthy,
        fun hsends => hunhealthy hsends.healthy⟩
  | false =>
      cases pendingAction with
      | none =>
          have hturn := @turnWith_none requestedFrames host (start.behind packets) _ htime
          have hstep := @step_send requestedFrames host source (behind start packets)
            ⟨false, none, ready⟩ rfl _ _ hturn
          rw [hstep]
          exact send_continues hopened hrange hpos le_rfl nofun
      | some action =>
          have hturn := @turnWith_some requestedFrames host (start.behind packets) _ htime action
          by_cases hcutoff : nextTime start packets ≥ host.cutoff action
          · rw [if_pos hcutoff] at hturn
            refine .inl ⟨_, step_endedForCommand rfl hturn, fun _ => nofun, fun hsends => ?_⟩
            exact absurd (hsends.early action rfl) (not_lt.mpr hcutoff)
          · rw [if_neg hcutoff] at hturn
            have hstep := @step_send requestedFrames host source (behind start packets)
              ⟨false, some action, ready⟩ rfl _ _ hturn
            rw [hstep]
            refine send_continues hopened hrange (hcautious.pos _ _ hpos) (hcautious.le _ _ hpos) ?_
            rintro other ⟨⟩
            exact ⟨Int.not_le.mp hcutoff, hcautious.fits _ _ (by omega)⟩

/-- A loop that has ended stays as it is. -/
theorem step_ended (h : s.outcome ≠ .running) : s.step requestedFrames host source pass = s := by
  unfold step
  cases houtcome : s.outcome with
  | running => exact absurd houtcome h
  | endedForCommand => rfl
  | sourceExhausted => rfl
  | failed message => rfl

theorem Invariant.step (hs : Invariant host source start s) (hcautious : Cautious requestedFrames)
    (hopened : Opened host source start) (hrange : InRange source start) (pass : Pass) :
    Invariant host source start (s.step requestedFrames host source pass) := by
  by_cases hrunning : s.outcome = .running
  · have hbehind : s = behind start s.packets := by
      rw [← hs.stream_eq, ← hrunning]
    have hcontinues := step_continues hcautious hopened hrange hs.inSource pass
    rw [← hbehind] at hcontinues
    obtain ⟨outcome, hnext, -⟩ | ⟨built, hfollows, hend, -, hnext⟩ := hcontinues
    · rw [hnext]
      exact ⟨rfl, hs.inSource, hs.follows⟩
    · rw [hnext]
      exact hs.extend hfollows hend
  · rw [step_ended hrunning]
    exact hs

/-- Healthy passes do not fail. -/
theorem step_not_failed (hs : Invariant host source start s) (hcautious : Cautious requestedFrames)
    (hopened : Opened host source start) (hrange : InRange source start) (hhealthy : pass.Healthy)
    (h : ∀ message, s.outcome ≠ .failed message) (message : String) :
    (s.step requestedFrames host source pass).outcome ≠ .failed message := by
  by_cases hrunning : s.outcome = .running
  · have hbehind : s = behind start s.packets := by
      rw [← hs.stream_eq, ← hrunning]
    have hcontinues := step_continues hcautious hopened hrange hs.inSource pass
    rw [← hbehind] at hcontinues
    obtain ⟨outcome, hnext, hfine, -⟩ | ⟨built, -, -, -, hnext⟩ := hcontinues
    · rw [hnext]
      exact hfine hhealthy message
    · rw [hnext]
      exact nofun
  · rw [step_ended hrunning]
    exact h message

/-- A pass of the running loop that finds frames to send adds one packet. -/
theorem step_sends (hs : Invariant host source start s) (hcautious : Cautious requestedFrames)
    (hopened : Opened host source start) (hrange : InRange source start)
    (hrunning : s.outcome = .running) (hsends : pass.Sends host source start s.packets) :
    ∃ built, built.pendingAction = pass.pendingAction ∧
      s.step requestedFrames host source pass = behind start (s.packets ++ [built]) := by
  have hbehind : s = behind start s.packets := by
    rw [← hs.stream_eq, ← hrunning]
  have hcontinues := step_continues hcautious hopened hrange hs.inSource pass
  rw [← hbehind] at hcontinues
  obtain ⟨-, -, -, hnot⟩ | ⟨built, -, -, hpending, hnext⟩ := hcontinues
  · exact absurd hsends hnot
  · exact ⟨built, hpending, hnext⟩

/-- Behind any passes the packets follow each other. -/
theorem Invariant.run (hs : Invariant host source start s) (hcautious : Cautious requestedFrames)
    (hopened : Opened host source start) (hrange : InRange source start) (passes : List Pass) :
    Invariant host source start (s.run requestedFrames host source passes) := by
  induction passes generalizing s with
  | nil => exact hs
  | cons pass passes ih => exact ih (hs.step hcautious hopened hrange pass)

theorem run_not_failed (hs : Invariant host source start s) (hcautious : Cautious requestedFrames)
    (hopened : Opened host source start) (hrange : InRange source start) {passes : List Pass}
    (hhealthy : ∀ pass ∈ passes, pass.Healthy) (h : ∀ message, s.outcome ≠ .failed message) :
    ∀ message, (s.run requestedFrames host source passes).outcome ≠ .failed message := by
  induction passes generalizing s with
  | nil => exact h
  | cons pass passes ih =>
      apply ih (hs.step hcautious hopened hrange pass)
      · exact fun other hother => hhealthy other (List.mem_cons_of_mem _ hother)
      · exact step_not_failed hs hcautious hopened hrange (hhealthy pass List.mem_cons_self) h

theorem Invariant.follows_get (hs : Invariant host source start s) {k : Nat} {built : Built}
    (h : s.packets[k]? = some built) : Follows host source start (s.packets.take k) built := by
  obtain ⟨hk, rfl⟩ := List.getElem?_eq_some_iff.mp h
  exact hs.follows _ _ (s.packets.drop (k + 1)) (by
    rw [← List.drop_eq_getElem_cons hk, List.take_append_drop])

end Stream

/-- Every source fits: there is at least one frame in a packet. -/
theorem framesPerPacket_pos (host : DesktopNetworkHost) (source : AudioSource) :
    0 < host.framesPerPacket source := by
  have hpos := source.channels_ge
  have hle := source.channels_le
  have hmaximum : 0 < PacketSerializer.maximumPayloadSize / (source.channels.toNat * 2) := by
    apply Nat.div_pos _ (by omega)
    exact (Nat.mul_le_mul_right 2 hle).trans (by decide)
  exact lt_min (lt_max_of_lt_left Nat.one_pos) hmaximum

/-- The segment with which `streamFile` gets to its loop. -/
def firstSegment (host : DesktopNetworkHost) (source : AudioSource) (playbackStartTime : Int)
    (initialFrame created : UInt64) : Segment where
  sessionId := host.statsSessionId created
  streamId := host.streamId
  framesPerPacket := host.framesPerPacket source
  clock := {
    sampleRate := source.sampleRate.toNat
    startTime := playbackStartTime + host.hostOutputLatency * millisecond
    sampleRate_pos := source.sampleRate_pos
    sampleRate_lt := source.sampleRate_lt }
  initialFrame := initialFrame.toNat
  startFrame := initialFrame.toNat
  sequenceNumber := 0
  decoderPosition := initialFrame.toNat

theorem beginSegment_first (host : DesktopNetworkHost) (source : AudioSource)
    (playbackStartTime : Int) (initialFrame created : UInt64) :
    host.beginSegment source playbackStartTime source.sampleRate source.channels initialFrame true
      created = .ok (host.firstSegment source playbackStartTime initialFrame created) := by
  have hpos := framesPerPacket_pos host source
  have hle := framesPerPacket_le host source
  have hformat : ¬ (source.sampleRate ≠ source.sampleRate ∨ source.channels ≠ source.channels) := by
    simp
  unfold beginSegment
  rw [if_neg (by simp), if_neg hformat]
  dsimp only
  rw [if_neg (by omega)]
  rfl

theorem opened_first (host : DesktopNetworkHost) (source : AudioSource)
    (playbackStartTime : Int) (initialFrame created : UInt64) :
    Opened host source (host.firstSegment source playbackStartTime initialFrame created) where
  wellFormed := (beginSegment_ok (beginSegment_first host source playbackStartTime initialFrame
    created)).1
  startFrame_eq := rfl
  sequenceNumber_eq := rfl
  framesPerPacket_eq := rfl
  streamId_ne := host.streamId_ne

/-- The frame is in the packet. -/
def Holds (packet : AudioPacket) (frame : Nat) : Prop :=
  packet.startFrame.toNat ≤ frame ∧ frame < packet.startFrame.toNat + packet.frameCount.toNat

namespace Stream.Invariant

variable {host : DesktopNetworkHost} {source : AudioSource} {start : Segment} {s : Stream}
  {pass : Pass} {built : Built} {k frame : Nat}

theorem segment_eq (hs : Invariant host source start s) : s.segment = start.behind s.packets :=
  congrArg Stream.segment hs.stream_eq

theorem framesSent_eq (hs : Invariant host source start s) : s.framesSent = frames s.packets :=
  congrArg Stream.framesSent hs.stream_eq

theorem lastFrame_eq (hs : Invariant host source start s) :
    s.lastFrame = start.initialFrame + frames s.packets := by
  unfold Stream.lastFrame
  rw [hs.segment_eq]
  rfl

/-- The cutoff of a pending action is behind all frames of the packet. -/
theorem cut_get (hs : Invariant host source start s) (hbuilt : s.packets[k]? = some built)
    {action : ScheduledRoomAction} (haction : action ∈ built.pendingAction)
    (hframe : Holds built.packet frame) :
    ∃ time, start.clock.frameToTimestamp (frame - start.initialFrame) = .ok time ∧
      time < host.cutoff action := by
  obtain ⟨hfirst, hbehind⟩ := hframe
  have hfollows := hs.follows_get hbuilt
  have hstart := hfollows.startFrame_eq
  have hlater : frame - built.packet.startFrame.toNat < built.packet.frameCount.toNat := by
    omega
  obtain ⟨time, htime, hlt⟩ := hfollows.cut action haction _ hlater
  have hframes : frames (s.packets.take k) + (frame - built.packet.startFrame.toNat) =
      frame - start.initialFrame := by
    omega
  rw [hframes] at htime
  exact ⟨time, htime, hlt⟩

/-- Each frame that was sent is in one packet. -/
theorem existsUnique_holds (hs : Invariant host source start s) (hfirst : start.initialFrame ≤ frame)
    (hbefore : frame < s.lastFrame) :
    ∃! k : Nat, ∃ built, s.packets[k]? = some built ∧ Holds built.packet frame := by
  have htotal : frame - start.initialFrame < Spans.total Built.frameCount s.packets := by
    rw [hs.lastFrame_eq] at hbefore
    change _ < frames s.packets
    omega
  have hwithin (k : Nat) : (∃ built, s.packets[k]? = some built ∧ Holds built.packet frame) ↔
      Spans.Within Built.frameCount s.packets (frame - start.initialFrame) k := by
    apply exists_congr
    intro built
    apply and_congr_right
    intro hbuilt
    have hstart : built.packet.startFrame.toNat = start.initialFrame +
        Spans.total Built.frameCount (s.packets.take k) := (hs.follows_get hbuilt).startFrame_eq
    unfold Holds Built.frameCount at *
    rw [hstart]
    omega
  simp only [hwithin]
  exact Spans.existsUnique_within htotal

/-- A pass that finds frames before the cutoff of its action sends some of them. -/
theorem sends_of_early (hs : Invariant host source start s) (hhealthy : pass.Healthy)
    (hready : ∀ ready ∈ pass.ready, 0 < ready) (hleft : s.lastFrame < source.frameCount)
    (hearly : ∀ action ∈ pass.pendingAction, ∃ time,
      start.clock.frameToTimestamp s.framesSent = .ok time ∧ time < host.cutoff action) :
    pass.Sends host source start s.packets where
  healthy := hhealthy
  ready_pos := hready
  inSource := by
    rw [hs.lastFrame_eq] at hleft
    exact hleft
  early := by
    intro action haction
    obtain ⟨time, htime, hlt⟩ := hearly action haction
    rw [hs.framesSent_eq] at htime
    obtain ⟨hvalue, -⟩ := PlaybackClock.frameToTimestamp_eq htime
    rw [hvalue] at hlt
    exact hlt

end Stream.Invariant

/-- Behind any passes the packets of `streamFile` are numbered in order and follow each
other from the initial frame on. The serializer accepts them. They hold the frames that
the decoder has returned, each in one packet, and no frame at or behind the cutoff of an
action that was pending when its packet was cut. As long as the loop runs, every healthy
pass in which the decoder has frames and no action is at its cutoff adds a packet. -/
theorem streamFile_packets (host : DesktopNetworkHost) (source : AudioSource)
    (playbackStartTime : Int) (initialFrame created : UInt64)
    (hrange : InRange source (host.firstSegment source playbackStartTime initialFrame created))
    (passes : List Pass) :
    ∃ start s, host.beginSegment source playbackStartTime source.sampleRate source.channels
        initialFrame true created = .ok start ∧
      Stream.run exactRequestedFrames host source { segment := start } passes = s ∧
      ((∀ pass ∈ passes, pass.Healthy) → ∀ message, s.outcome ≠ .failed message) ∧
      s.lastFrame = initialFrame.toNat + s.framesSent ∧
      s.segment.decoderPosition = s.lastFrame ∧
      (∀ (k : Nat) built, s.packets[k]? = some built →
        built.packet.sequenceNumber = UInt32.ofNat k ∧
          built.packet.startFrame.toNat = initialFrame.toNat +
            ((s.packets.take k).map fun earlier => earlier.packet.frameCount.toNat).sum ∧
          1 ≤ built.packet.frameCount.toNat ∧
          built.packet.frameCount.toNat ≤ start.framesPerPacket ∧
          PacketSerializer.serialize built.packet = .ok built.datagram ∧
          built.packet.pcmPayload = toLittleEndianPcm
            (source.slice built.packet.startFrame.toNat built.packet.frameCount.toNat) ∧
          ∀ action ∈ built.pendingAction, ∀ frame, Holds built.packet frame →
            ∃ time, start.clock.frameToTimestamp (frame - initialFrame.toNat) = .ok time ∧
              time < host.cutoff action) ∧
      (∀ frame, initialFrame.toNat ≤ frame → frame < s.lastFrame →
        ∃! k : Nat, ∃ built, s.packets[k]? = some built ∧ Holds built.packet frame) ∧
      ∀ pass : Pass, s.outcome = .running → pass.Healthy → (∀ ready ∈ pass.ready, 0 < ready) →
        s.lastFrame < source.frameCount →
        (∀ action ∈ pass.pendingAction, ∃ time,
          start.clock.frameToTimestamp s.framesSent = .ok time ∧ time < host.cutoff action) →
        ∃ built, built.pendingAction = pass.pendingAction ∧
          (s.step exactRequestedFrames host source pass).packets = s.packets ++ [built] ∧
          (s.step exactRequestedFrames host source pass).outcome = .running := by
  have hopened := opened_first host source playbackStartTime initialFrame created
  have hinitial := Stream.Invariant.initial hopened
  have hrun := hinitial.run cautious_exactRequestedFrames hopened hrange passes
  refine ⟨_, _, beginSegment_first host source playbackStartTime initialFrame created, rfl, ?_⟩
  generalize hs : Stream.run exactRequestedFrames host source
    { segment := host.firstSegment source playbackStartTime initialFrame created } passes = s at hrun ⊢
  refine ⟨?_, ?_, ?_, ?_, ?_, ?_⟩
  · intro hhealthy
    rw [← hs]
    exact Stream.run_not_failed hinitial cautious_exactRequestedFrames hopened hrange hhealthy
      fun _ => nofun
  · rw [hrun.lastFrame_eq, hrun.framesSent_eq]
    rfl
  · rw [hrun.lastFrame_eq, hrun.segment_eq]
    rfl
  · intro k built hbuilt
    have hfollows := hrun.follows_get hbuilt
    have hlength : k < s.packets.length := (List.getElem?_eq_some_iff.mp hbuilt).1
    refine ⟨?_, hfollows.startFrame_eq, hfollows.frameCount_pos, hfollows.frameCount_le,
      hfollows.accepted, hfollows.payload_eq, ?_⟩
    · rw [hfollows.sequenceNumber_eq, List.length_take, Nat.min_eq_left hlength.le]
    · intro action haction frame hframe
      exact hrun.cut_get hbuilt haction hframe
  · intro frame hfirst hbefore
    exact hrun.existsUnique_holds hfirst hbefore
  · intro pass hrunning hhealthy hready hleft hearly
    obtain ⟨built, hpending, hnext⟩ := Stream.step_sends hrun cautious_exactRequestedFrames hopened
      hrange hrunning (hrun.sends_of_early hhealthy hready hleft hearly)
    exact ⟨built, hpending, congrArg Stream.packets hnext, congrArg Stream.outcome hnext⟩

theorem quietFrames_lt : (List.replicate 100 (0 : Int16)).length / (1 : UInt16).toNat < 2 ^ 64 := by
  decide

/-- A hundred quiet frames. -/
def quietSource : AudioSource where
  sampleRate := 8000
  channels := 1
  samples := List.replicate 100 0
  sampleRate_ge := AudioSource.lowRate_ge
  sampleRate_le := AudioSource.lowRate_le
  channels_ge := AudioSource.mono_ge
  channels_le := AudioSource.mono_le
  aligned := rfl
  length_lt := quietFrames_lt

theorem plainPort_ne : (40100 : UInt16) ≠ 0 := by
  decide

theorem plainDuration_pos : (0 : Int) < 10 := by
  decide

theorem plainAhead_nonneg : (0 : Int) ≤ 500 := by
  decide

theorem plainLatency_ge : (-1000 : Int) ≤ 0 := by
  decide

theorem plainLatency_le : (0 : Int) ≤ 1000 := by
  decide

/-- The host with the defaults of the configuration. -/
def plainHost : DesktopNetworkHost where
  port_ne := plainPort_ne
  streamId_ne := firstStreamId_ne
  desiredPacketDuration_pos := plainDuration_pos
  sendAhead_nonneg := plainAhead_nonneg
  hostOutputLatency_ge := plainLatency_ge
  hostOutputLatency_le := plainLatency_le

/-- The pause behind frame 92. -/
def framePause : ScheduledRoomAction := { effectiveHostNanoseconds := 1011500000, action := .pause }

/-- The second pass cuts its packet short of a pause, the third ends the segment. -/
def pausedPasses : List Pass :=
  [{ ready := some 80 }, { pendingAction := some framePause }, { pendingAction := some framePause }]

theorem streamFile_packets_paused :
    ∃ start s, plainHost.beginSegment quietSource 1000000000 quietSource.sampleRate
        quietSource.channels 0 true 1 = .ok start ∧
      Stream.run exactRequestedFrames plainHost quietSource { segment := start } pausedPasses = s ∧
      s.outcome = .endedForCommand ∧
      (s.packets.map fun built => built.packet.frameCount.toNat) = [80, 12] ∧
      s.lastFrame = 92 ∧
      (∀ k built, s.packets[k]? = some built → built.packet.sequenceNumber = UInt32.ofNat k ∧
        PacketSerializer.serialize built.packet = .ok built.datagram) ∧
      ∀ frame < 92, ∃! k : Nat, ∃ built, s.packets[k]? = some built ∧ Holds built.packet frame := by
  have hrange : InRange quietSource (plainHost.firstSegment quietSource 1000000000 0 1) :=
    ⟨by decide, by decide⟩
  obtain ⟨start, s, hbegin, hrun, -, hlast, -, hpackets, hunique, -⟩ :=
    streamFile_packets plainHost quietSource 1000000000 0 1 hrange pausedPasses
  obtain rfl := Except.ok.inj ((beginSegment_first plainHost quietSource 1000000000 0 1).symm.trans
    hbegin)
  have hheld : (Stream.run exactRequestedFrames plainHost quietSource
      { segment := plainHost.firstSegment quietSource 1000000000 0 1 } pausedPasses).outcome =
        .endedForCommand ∧
      (Stream.run exactRequestedFrames plainHost quietSource
        { segment := plainHost.firstSegment quietSource 1000000000 0 1 } pausedPasses).framesSent =
          92 ∧
      ((Stream.run exactRequestedFrames plainHost quietSource
        { segment := plainHost.firstSegment quietSource 1000000000 0 1 } pausedPasses).packets.map
          fun built => built.packet.frameCount.toNat) = [80, 12] := by
    decide +kernel
  rw [hrun] at hheld
  obtain ⟨hended, hsent, hcounts⟩ := hheld
  have hframes : s.lastFrame = 92 := by
    rw [hlast, hsent]
    rfl
  refine ⟨_, s, hbegin, hrun, hended, hcounts, hframes, fun k built hbuilt => ?_, ?_⟩
  · obtain ⟨hsequence, -, -, -, haccepted, -⟩ := hpackets k built hbuilt
    exact ⟨hsequence, haccepted⟩
  · exact fun frame hframe => hunique frame (Nat.zero_le _) (hframes ▸ hframe)

end SyncAudio.DesktopNetworkHost
