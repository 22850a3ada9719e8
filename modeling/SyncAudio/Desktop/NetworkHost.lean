import SyncAudio.Core.PacketSerializer
import SyncAudio.Core.PlaybackClock
import SyncAudio.Core.Room
import SyncAudio.Lib.Binary64

/-!
# Streaming a file segment

`streamFile` cuts the decoded file into packets and stops at the cutoff of a
pending room action. One pass of its loop is cut where another thread can act:
`turn` reads the room and decides, `sendPacket` reads the decoder and sends.

## Implementation notes

The decoder library is not part of the source. A read takes the number of
frames the decoder has ready, which may be fewer than requested, and a failed
read or seek is an input.
-/

namespace SyncAudio

open Word

/-- Decoded 16-bit audio in a format that fits a packet. -/
structure AudioSource where
  sampleRate : UInt32
  channels : UInt16
  samples : List Int16
  sampleRate_ge : 8000 ≤ sampleRate.toNat
  sampleRate_le : sampleRate.toNat ≤ 192000
  channels_ge : 1 ≤ channels.toNat
  channels_le : channels.toNat ≤ 2
  aligned : samples.length % channels.toNat = 0
  length_lt : samples.length / channels.toNat < 2 ^ 64

namespace AudioSource

theorem lowRate_ge : 8000 ≤ (8000 : UInt32).toNat := by
  decide

theorem lowRate_le : (8000 : UInt32).toNat ≤ 192000 := by
  decide

theorem mono_ge : 1 ≤ (1 : UInt16).toNat := by
  decide

theorem mono_le : (1 : UInt16).toNat ≤ 2 := by
  decide

theorem sampleRate_pos (source : AudioSource) : 0 < source.sampleRate.toNat :=
  Nat.lt_of_lt_of_le (by decide) source.sampleRate_ge

theorem sampleRate_lt (source : AudioSource) : source.sampleRate.toNat < 2 ^ 32 :=
  source.sampleRate.toNat_lt

def frameCount (source : AudioSource) : Nat := source.samples.length / source.channels.toNat

/-- The interleaved samples of `count` frames from frame `first` on. -/
def slice (source : AudioSource) (first count : Nat) : List Int16 :=
  (source.samples.drop (first * source.channels.toNat)).take (count * source.channels.toNat)

end AudioSource

def millisecond : Int := 1000000

structure DesktopNetworkHostConfig where
  port : UInt16 := 40100
  desiredPacketDuration : Int := 10
  sendAhead : Int := 500
  hostOutputLatency : Int := 0
  sessionId : UInt64 := 0
  streamId : UInt32 := 1

/-- A configuration that passed the checks of the constructor. Durations are in
milliseconds. -/
structure DesktopNetworkHost extends DesktopNetworkHostConfig where
  port_ne : port ≠ 0
  streamId_ne : streamId ≠ 0
  desiredPacketDuration_pos : 0 < desiredPacketDuration
  sendAhead_nonneg : 0 ≤ sendAhead
  hostOutputLatency_ge : -1000 ≤ hostOutputLatency
  hostOutputLatency_le : hostOutputLatency ≤ 1000

namespace DesktopNetworkHost

/-- The constructor. -/
def make (config : DesktopNetworkHostConfig) : Except String DesktopNetworkHost :=
  if hids : config.port = 0 ∨ config.streamId = 0 then .error "Host UDP port must be non-zero"
  else if hduration : config.desiredPacketDuration ≤ 0 then
    .error "Packet duration must be positive"
  else if hahead : config.sendAhead < 0 then .error "Send-ahead duration must not be negative"
  else if hlatency : config.hostOutputLatency < -1000 ∨ config.hostOutputLatency > 1000 then
    .error "Host output latency calibration is invalid"
  else .ok {
    config with
    port_ne := fun h => hids (.inl h)
    streamId_ne := fun h => hids (.inr h)
    desiredPacketDuration_pos := by omega
    sendAhead_nonneg := by omega
    hostOutputLatency_ge := by omega
    hostOutputLatency_le := by omega }

/-- Little-endian bytes of 16-bit samples. -/
def toLittleEndianPcm (samples : List Int16) : List UInt8 :=
  samples.flatMap fun sample =>
    let bits : UInt16 := sample.toUInt16
    [UInt16.toUInt8 (bits &&& 0xFF), UInt16.toUInt8 (bits >>> 8)]

/-- The locals of `streamFile`. -/
structure Segment where
  sessionId : UInt64
  streamId : UInt32
  framesPerPacket : Nat
  clock : PlaybackClock
  initialFrame : Nat
  startFrame : Nat
  sequenceNumber : UInt32
  decoderPosition : Nat

def framesPerPacket (host : DesktopNetworkHost) (source : AudioSource) : Nat :=
  let bytesPerFrame := source.channels.toNat * 2
  let maximumFrames := PacketSerializer.maximumPayloadSize / bytesPerFrame
  let desiredFrames :=
    max 1 (add64 (mul64 source.sampleRate.toNat host.desiredPacketDuration.toNat) 999 / 1000)
  min desiredFrames maximumFrames

/-- `stats.sessionId`, where `created` is a random identifier. -/
def statsSessionId (host : DesktopNetworkHost) (created : UInt64) : UInt64 :=
  if host.sessionId ≠ 0 then host.sessionId else created

/-- `streamFile` up to its loop. -/
def beginSegment (host : DesktopNetworkHost) (source : AudioSource) (playbackStartTime : Int)
    (expectedSampleRate : UInt32) (expectedChannelCount : UInt16) (initialFrame : UInt64)
    (seekSucceeds : Bool) (created : UInt64) : Except String Segment :=
  if initialFrame ≠ 0 ∧ ¬ seekSucceeds then .error "Unable to seek network audio source"
  else if source.sampleRate ≠ expectedSampleRate ∨ source.channels ≠ expectedChannelCount then
    .error "Network decoder format does not match local playback format"
  else
    let framesPerPacket := host.framesPerPacket source
    if framesPerPacket = 0 ∨ framesPerPacket > 2 ^ 16 - 1 then
      .error "Audio format cannot fit in an MTU-safe packet"
    else .ok {
      sessionId := host.statsSessionId created
      streamId := host.streamId
      framesPerPacket
      clock := {
        sampleRate := source.sampleRate.toNat
        startTime := playbackStartTime + host.hostOutputLatency * millisecond
        sampleRate_pos := by have := source.sampleRate_ge; omega
        sampleRate_lt := source.sampleRate.toNat_lt }
      initialFrame := initialFrame.toNat
      startFrame := initialFrame.toNat
      sequenceNumber := 0
      decoderPosition := initialFrame.toNat }

/-- The presentation time at which a pending action ends the segment. -/
def cutoff (host : DesktopNetworkHost) (pending : ScheduledRoomAction) : Int :=
  pending.effectiveHostNanoseconds -
    if pending.action = .seek then host.sendAhead * millisecond else 0

/-- The frames to request when `gap` nanoseconds remain before the cutoff. -/
def requestedFrames (segment : Segment) (gap : Int) : Nat :=
  let framesUntilCutoff :=
    ((Binary64.ofInt gap).div (.ofInt 1000000000)).mul (.ofInt segment.clock.sampleRate)
  if framesUntilCutoff.lt (.ofInt segment.framesPerPacket) then max 1 framesUntilCutoff.truncate
  else segment.framesPerPacket

inductive Turn where
  | endedForCommand
  | send (presentationTimestamp : Int) (requestedFrames : Nat)

/-- The top of the loop, up to the decision to read from the decoder. -/
def turn (host : DesktopNetworkHost) (segment : Segment) (outputRouteChanged : Bool)
    (pendingAction : Option ScheduledRoomAction) : Except String Turn :=
  if outputRouteChanged then
    .error "Host output route changed; restart with a calibration for the new route"
  else do
    let presentationTimestamp ←
      segment.clock.frameToTimestamp (sub64 segment.startFrame segment.initialFrame)
    match pendingAction with
    | none => pure (.send presentationTimestamp segment.framesPerPacket)
    | some pending =>
        if presentationTimestamp ≥ host.cutoff pending then pure .endedForCommand
        else
          pure (.send presentationTimestamp
            (requestedFrames segment (host.cutoff pending - presentationTimestamp)))

/-- The number of frames a decoder with `ready` frames delivers. -/
def decoderRead (source : AudioSource) (segment : Segment) (requested ready : Nat) : Nat :=
  min ready (min requested (source.frameCount - segment.decoderPosition))

/-- What one pass of the loop sent, and the segment behind it. -/
structure Sent where
  packet : AudioPacket
  datagram : List UInt8
  segment : Segment

def packet (source : AudioSource) (segment : Segment) (presentationTimestamp : Int)
    (framesRead : Nat) : AudioPacket where
  sessionId := segment.sessionId
  streamId := segment.streamId
  sequenceNumber := segment.sequenceNumber
  sampleRate := source.sampleRate
  channelCount := source.channels
  startFrame := UInt64.ofNat segment.startFrame
  presentationTimestampNanoseconds := UInt64.ofNat presentationTimestamp.toNat
  frameCount := UInt16.ofNat framesRead
  pcmPayload := toLittleEndianPcm (source.slice segment.decoderPosition framesRead)

/-- The rest of the loop. `ready` is the number of frames the decoder has, or
nothing if it fails; no packet means that the source is exhausted. -/
def sendPacket (source : AudioSource) (segment : Segment) (presentationTimestamp : Int)
    (requested : Nat) (ready : Option Nat) : Except String (Option Sent) :=
  match ready with
  | none => .error "Unable to decode network audio"
  | some ready =>
      let framesRead := decoderRead source segment requested ready
      if framesRead = 0 then .ok none
      else if presentationTimestamp < 0 then .error "Host monotonic timestamp is negative"
      else do
        let packet := packet source segment presentationTimestamp framesRead
        let datagram ← PacketSerializer.serialize packet
        pure (some {
          packet, datagram
          segment := { segment with
            startFrame := add64 segment.startFrame framesRead
            sequenceNumber := segment.sequenceNumber + 1
            decoderPosition := segment.decoderPosition + framesRead } })

@[simp] theorem toLittleEndianPcm_length (samples : List Int16) :
    (toLittleEndianPcm samples).length = samples.length * 2 := by
  induction samples with
  | nil => rfl
  | cons sample samples ih =>
      change (toLittleEndianPcm samples).length + 2 = _
      rw [ih, List.length_cons]
      omega

theorem slice_length {source : AudioSource} {first count : Nat}
    (h : first + count ≤ source.frameCount) :
    (source.slice first count).length = count * source.channels.toNat := by
  have hframes : source.frameCount * source.channels.toNat = source.samples.length :=
    Nat.div_mul_cancel (Nat.dvd_of_mod_eq_zero source.aligned)
  have hend : (first + count) * source.channels.toNat ≤
      source.frameCount * source.channels.toNat := Nat.mul_le_mul_right _ h
  rw [hframes, Nat.add_mul] at hend
  unfold AudioSource.slice
  rw [List.length_take, List.length_drop]
  omega

/-- What `beginSegment` establishes and every packet keeps: the decoder stands
at the next frame to send, and a packet of the segment fits a datagram. -/
structure Segment.WellFormed (source : AudioSource) (segment : Segment) : Prop where
  framesPerPacket_pos : 0 < segment.framesPerPacket
  framesPerPacket_le : segment.framesPerPacket ≤ 574
  sampleRate_eq : segment.clock.sampleRate = source.sampleRate.toNat
  position_eq : segment.decoderPosition = segment.startFrame
  initialFrame_le : segment.initialFrame ≤ segment.startFrame
  startFrame_lt : segment.startFrame < 2 ^ 64

variable {host : DesktopNetworkHost} {source : AudioSource} {segment : Segment}

theorem framesPerPacket_le (host : DesktopNetworkHost) (source : AudioSource) :
    host.framesPerPacket source ≤ 574 := by
  have hpos := source.channels_ge
  have hmaximum : PacketSerializer.maximumPayloadSize / (source.channels.toNat * 2) ≤
      PacketSerializer.maximumPayloadSize / 2 := Nat.div_le_div_left (by omega) (by decide)
  have hvalue : PacketSerializer.maximumPayloadSize / 2 = 574 := rfl
  unfold framesPerPacket
  dsimp only
  omega

theorem make_ok {config : DesktopNetworkHostConfig} (h : make config = .ok host) :
    host.toDesktopNetworkHostConfig = config := by
  unfold make at h
  split_ifs at h
  cases h
  rfl

/-- What a segment starts with. -/
theorem beginSegment_ok {playbackStartTime : Int} {expectedSampleRate : UInt32}
    {expectedChannelCount : UInt16} {initialFrame : UInt64} {seekSucceeds : Bool}
    {created : UInt64}
    (h : host.beginSegment source playbackStartTime expectedSampleRate expectedChannelCount
      initialFrame seekSucceeds created = .ok segment) :
    segment.WellFormed source ∧
      segment.sessionId = host.statsSessionId created ∧
      segment.streamId = host.streamId ∧
      segment.clock.startTime = playbackStartTime + host.hostOutputLatency * millisecond ∧
      segment.initialFrame = initialFrame.toNat ∧ segment.startFrame = initialFrame.toNat ∧
      segment.sequenceNumber = 0 := by
  unfold beginSegment at h
  dsimp only at h
  split_ifs at h with hseek hformat hframes
  cases h
  refine ⟨⟨?_, framesPerPacket_le host source, rfl, rfl, Nat.le_refl _, initialFrame.toNat_lt⟩,
    rfl, rfl, rfl, rfl, rfl, rfl⟩
  dsimp only
  omega

theorem requestedFrames_bounds (hsegment : segment.WellFormed source) (gap : Int) :
    0 < requestedFrames segment gap ∧ requestedFrames segment gap ≤ segment.framesPerPacket := by
  have hpos := hsegment.framesPerPacket_pos
  have hle := hsegment.framesPerPacket_le
  unfold requestedFrames
  dsimp only
  split_ifs with hcut
  · have := Binary64.truncate_le_of_lt (by omega) hcut
    omega
  · omega

/-- The decision at the top of the loop. -/
theorem turn_send {outputRouteChanged : Bool} {pendingAction : Option ScheduledRoomAction}
    {presentationTimestamp : Int} {requested : Nat} (hsegment : segment.WellFormed source)
    (h : host.turn segment outputRouteChanged pendingAction =
      .ok (.send presentationTimestamp requested)) :
    presentationTimestamp = segment.clock.startTime +
        segment.clock.frameNanoseconds (segment.startFrame - segment.initialFrame) ∧
      presentationTimestamp ≤ (PlaybackClock.maximumDuration : Int) ∧
      (∀ pending ∈ pendingAction, presentationTimestamp < host.cutoff pending) ∧
      0 < requested ∧ requested ≤ segment.framesPerPacket := by
  have hsub : sub64 segment.startFrame segment.initialFrame =
      segment.startFrame - segment.initialFrame :=
    sub64_of_le hsegment.initialFrame_le hsegment.startFrame_lt
  unfold turn at h
  rw [hsub] at h
  split_ifs at h
  cases htimestamp : segment.clock.frameToTimestamp (segment.startFrame - segment.initialFrame) with
  | error message =>
      rw [htimestamp] at h
      cases h
  | ok timestamp =>
      rw [htimestamp] at h
      obtain ⟨heq, hmaximum⟩ := PlaybackClock.frameToTimestamp_eq htimestamp
      cases pendingAction with
      | none =>
          cases h
          exact ⟨heq, hmaximum, by simp, hsegment.framesPerPacket_pos, Nat.le_refl _⟩
      | some pending =>
          simp only [bind, Except.bind] at h
          split_ifs at h with hcutoff
          · cases h
          · cases h
            refine ⟨heq, hmaximum, ?_, requestedFrames_bounds hsegment _⟩
            intro action haction
            cases haction
            omega

/-- A segment ends for a command only at or behind the cutoff of a pending action. -/
theorem turn_ended {outputRouteChanged : Bool} {pendingAction : Option ScheduledRoomAction}
    (h : host.turn segment outputRouteChanged pendingAction = .ok .endedForCommand) :
    ∃ pending, pendingAction = some pending := by
  unfold turn at h
  split_ifs at h
  cases htimestamp : segment.clock.frameToTimestamp
      (sub64 segment.startFrame segment.initialFrame) with
  | error message =>
      rw [htimestamp] at h
      cases h
  | ok timestamp =>
      rw [htimestamp] at h
      cases pendingAction with
      | none => cases h
      | some pending => exact ⟨pending, rfl⟩

/-- What a pass of the loop that sends leaves behind. -/
theorem sendPacket_sent {presentationTimestamp : Int} {requested : Nat} {ready : Option Nat}
    {sent : Sent} (hsegment : segment.WellFormed source)
    (h : sendPacket source segment presentationTimestamp requested ready = .ok (some sent)) :
    ∃ framesRead, 0 < framesRead ∧ framesRead ≤ requested ∧
      segment.startFrame + framesRead ≤ source.frameCount ∧ 0 ≤ presentationTimestamp ∧
      sent.packet = packet source segment presentationTimestamp framesRead ∧
      PacketSerializer.Valid sent.packet ∧
      sent.datagram = PacketSerializer.wireBytes sent.packet ∧
      sent.segment = { segment with
        startFrame := segment.startFrame + framesRead
        sequenceNumber := segment.sequenceNumber + 1
        decoderPosition := segment.startFrame + framesRead } := by
  cases ready with
  | none => cases h
  | some ready =>
      unfold sendPacket at h
      dsimp only at h
      split_ifs at h with hempty hnegative
      · cases h
      · have hread : decoderRead source segment requested ready ≤ requested ∧
            decoderRead source segment requested ready ≤
              source.frameCount - segment.startFrame := by
          unfold decoderRead
          rw [hsegment.position_eq]
          omega
        generalize decoderRead source segment requested ready = framesRead at h hempty hread
        have hlt : source.frameCount < 2 ^ 64 := source.length_lt
        cases hserialize : PacketSerializer.serialize
            (packet source segment presentationTimestamp framesRead) with
        | error message =>
            rw [hserialize] at h
            cases h
        | ok datagram =>
            rw [hserialize] at h
            cases h
            obtain ⟨hvalid, hwire⟩ := PacketSerializer.serialize_eq_ok_iff.mp hserialize
            refine ⟨framesRead, by omega, hread.1, by omega, by omega, rfl, hvalid, hwire, ?_⟩
            dsimp only
            rw [add64_of_lt (by omega), hsegment.position_eq]

theorem Segment.WellFormed.sent {framesRead : Nat} (hsegment : segment.WellFormed source)
    (hend : segment.startFrame + framesRead ≤ source.frameCount) :
    Segment.WellFormed source { segment with
      startFrame := segment.startFrame + framesRead
      sequenceNumber := segment.sequenceNumber + 1
      decoderPosition := segment.startFrame + framesRead } where
  framesPerPacket_pos := hsegment.framesPerPacket_pos
  framesPerPacket_le := hsegment.framesPerPacket_le
  sampleRate_eq := hsegment.sampleRate_eq
  position_eq := rfl
  initialFrame_le := Nat.le_trans hsegment.initialFrame_le (Nat.le_add_right _ _)
  startFrame_lt := Nat.lt_of_le_of_lt hend source.length_lt

end DesktopNetworkHost

end SyncAudio
