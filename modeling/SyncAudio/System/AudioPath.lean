import SyncAudio.Core.JitterBuffer
import SyncAudio.Desktop.NetworkHost
import SyncAudio.Lib.LabelledRun

/-!
# From the source file to the device

One session: `streamFile` segments over one source, a network that may drop,
duplicate, delay and reorder what was sent, and a jitter buffer that is pushed
and read in any order. What a read delivers is the source or silence.

## Implementation notes

A delivery names a datagram by its position among all datagrams sent so far, so
every loss, repetition and order is some list of events and nothing is forged.
`outstanding` is no part of the program: it lists the packets that `push` has
accepted and that overflow has not evicted since.
-/

namespace SyncAudio

open LabelledRun Word

structure AudioPath where
  segment : Option (DesktopNetworkHost × DesktopNetworkHost.Segment) := none
  sent : List (List UInt8) := []
  buffer : JitterBuffer := {}
  outstanding : List BufferedPacket := []

namespace AudioPath

open DesktopNetworkHost

inductive Event where
  | beginSegment (host : DesktopNetworkHost) (playbackStartTime : Int) (initialFrame : UInt64)
      (seekSucceeds : Bool) (created : UInt64)
  | turn (outputRouteChanged : Bool) (pendingAction : Option ScheduledRoomAction)
      (ready : Option Nat)
  | deliver (index : Nat) (arrival : Int)
  | read (startFrame outputSize : Nat) (retainLookahead locked : Bool)

/-- One pass of the loop of `streamFile`. An exception and a normal end both
leave no segment behind. -/
def turnStep (source : AudioSource) (s : AudioPath) (host : DesktopNetworkHost)
    (segment : Segment) (outputRouteChanged : Bool)
    (pendingAction : Option ScheduledRoomAction) (ready : Option Nat) : AudioPath :=
  match host.turn segment outputRouteChanged pendingAction with
  | .ok (.send presentationTimestamp requested) =>
      match sendPacket source segment presentationTimestamp requested ready with
      | .ok (some sent) =>
          { s with segment := some (host, sent.segment), sent := s.sent ++ [sent.datagram] }
      | _ => { s with segment := none }
  | _ => { s with segment := none }

/-- `push` of a decoded packet. -/
def pushStep (s : AudioPath) (arrival : Int) (packet : AudioPacket) : AudioPath :=
  let result := s.buffer.push arrival packet
  let accepted :=
    if result.returned = .ok true then JitterBuffer.bufferedPacket packet :: s.outstanding
    else s.outstanding
  { s with
    buffer := result.buffer
    outstanding := accepted.filter fun p => result.evicted ≠ some p.startFrame }

def step (source : AudioSource) : Step AudioPath Event
  | s, .beginSegment host playbackStartTime initialFrame seekSucceeds created =>
      if s.segment.isSome then none
      else
        match host.beginSegment source playbackStartTime source.sampleRate source.channels
            initialFrame seekSucceeds created with
        | .ok segment => some { s with segment := some (host, segment) }
        | .error _ => some s
  | s, .turn outputRouteChanged pendingAction ready =>
      s.segment.map fun (host, segment) =>
        s.turnStep source host segment outputRouteChanged pendingAction ready
  | s, .deliver index arrival =>
      s.sent[index]?.map fun datagram =>
        match PacketSerializer.deserialize datagram with
        | .ok packet => s.pushStep arrival packet
        | .error _ => s
  | s, .read startFrame outputSize retainLookahead locked =>
      some { s with
        buffer := (s.buffer.readFrames startFrame outputSize retainLookahead locked).buffer }

/-- A packet that carries frames of the source. -/
structure Carries (source : AudioSource) (packet : AudioPacket) : Prop where
  valid : PacketSerializer.Valid packet
  sampleRate_eq : packet.sampleRate = source.sampleRate
  channelCount_eq : packet.channelCount = source.channels
  end_le : packet.startFrame.toNat + packet.frameCount.toNat ≤ source.frameCount
  payload_eq : packet.pcmPayload =
    toLittleEndianPcm (source.slice packet.startFrame.toNat packet.frameCount.toNat)

/-- A buffered packet that holds frames of the source. -/
structure Holds (source : AudioSource) (p : BufferedPacket) : Prop where
  end_le : p.endFrame ≤ source.frameCount
  samples_eq : p.samples = source.slice p.startFrame p.frameCount

def sourceFormat (source : AudioSource) : JitterBufferFormat :=
  ⟨source.sampleRate, source.channels⟩

structure Invariant (source : AudioSource) (s : AudioPath) : Prop where
  segment_wf : ∀ run ∈ s.segment, run.2.WellFormed source
  sent_carries : ∀ datagram ∈ s.sent, ∃ packet, Carries source packet ∧
    datagram = PacketSerializer.wireBytes packet
  key_eq : ∀ e ∈ s.buffer.packets.entries, e.1 = e.2.startFrame
  holds : ∀ e ∈ s.buffer.packets.entries, Holds source e.2
  format_eq : ∀ format ∈ s.buffer.format, format = sourceFormat source
  silent : s.buffer.format = none → s.outstanding = []
  outstanding_held : ∀ p ∈ s.outstanding,
    (p.startFrame, p) ∈ s.buffer.packets.entries ∨ p.endFrame ≤ s.buffer.latestReadFrame

variable {source : AudioSource} {s t : AudioPath}

theorem invariant_initial (source : AudioSource) : Invariant source {} where
  segment_wf := by simp
  sent_carries := by simp
  key_eq := by simp [OrderedMap.empty]
  holds := by simp [OrderedMap.empty]
  format_eq := by simp
  silent := fun _ => rfl
  outstanding_held := by simp

theorem carries_packet {segment : Segment} {presentationTimestamp : Int} {framesRead : Nat}
    (hsegment : segment.WellFormed source) (hread : framesRead ≤ segment.framesPerPacket)
    (hend : segment.startFrame + framesRead ≤ source.frameCount)
    (hvalid : PacketSerializer.Valid (packet source segment presentationTimestamp framesRead)) :
    Carries source (packet source segment presentationTimestamp framesRead) := by
  have hlt : source.frameCount < 2 ^ 64 := source.length_lt
  have hframes := hsegment.framesPerPacket_le
  have hstart : (packet source segment presentationTimestamp framesRead).startFrame.toNat =
      segment.startFrame := UInt64.toNat_ofNat_of_lt' (by simp only [UInt64.size]; omega)
  have hcount : (packet source segment presentationTimestamp framesRead).frameCount.toNat =
      framesRead := UInt16.toNat_ofNat_of_lt' (by simp only [UInt16.size]; omega)
  refine ⟨hvalid, rfl, rfl, ?_, ?_⟩
  · rw [hstart, hcount]
    exact hend
  · rw [hstart, hcount]
    simp only [packet, hsegment.position_eq]

theorem invariant_turnStep {host : DesktopNetworkHost} {segment : Segment}
    {outputRouteChanged : Bool} {pendingAction : Option ScheduledRoomAction} {ready : Option Nat}
    (hs : Invariant source s) (hsegment : segment.WellFormed source) :
    Invariant source
      (s.turnStep source host segment outputRouteChanged pendingAction ready) := by
  have hended : Invariant source { s with segment := none } :=
    { hs with segment_wf := by simp }
  unfold turnStep
  cases hturn : host.turn segment outputRouteChanged pendingAction with
  | error message => exact hended
  | ok result =>
      cases result with
      | endedForCommand => exact hended
      | send presentationTimestamp requested =>
          obtain ⟨-, -, -, -, hrequested⟩ := turn_send hsegment hturn
          dsimp only
          cases hsend : sendPacket source segment presentationTimestamp requested ready with
          | error message => exact hended
          | ok result =>
              cases result with
              | none => exact hended
              | some sent =>
                  obtain ⟨framesRead, -, hle, hend, -, hpacket, hvalid, hwire, hnext⟩ :=
                    sendPacket_sent hsegment hsend
                  refine { hs with segment_wf := ?_, sent_carries := ?_ }
                  · intro run hrun
                    cases hrun
                    dsimp only
                    rw [hnext]
                    exact hsegment.sent hend
                  · intro datagram hdatagram
                    rcases List.mem_append.mp hdatagram with hold | hnew
                    · exact hs.sent_carries datagram hold
                    · rw [List.mem_singleton.mp hnew]
                      refine ⟨sent.packet, ?_, hwire⟩
                      rw [hpacket] at hvalid ⊢
                      exact carries_packet hsegment (hle.trans hrequested) hend hvalid

theorem lowByte (bits : UInt16) : UInt16.toUInt8 (bits &&& 0xFF) = bits.toUInt8 := by
  apply UInt8.toNat_inj.mp
  rw [UInt16.toNat_toUInt8, UInt16.toNat_toUInt8, UInt16.toNat_and]
  change (bits.toNat &&& (2 ^ 8 - 1)) % 2 ^ 8 = bits.toNat % 2 ^ 8
  rw [Nat.and_two_pow_sub_one_eq_mod, Nat.mod_mod]

/-- The receiver reads the byte order the host writes. -/
theorem decodePcm_toLittleEndianPcm (samples : List Int16) :
    decodePcm (toLittleEndianPcm samples) = samples := by
  induction samples with
  | nil => rfl
  | cons sample samples ih =>
      have hword (bits : UInt16) : (UInt16.toUInt8 (bits &&& 0xFF)).toUInt16 |||
          ((UInt16.toUInt8 (bits >>> 8)).toUInt16 <<< 8) = bits := by
        rw [UInt16.or_comm, lowByte]
        exact BigEndian.join16_split bits
      change (_ : UInt16).toInt16 :: decodePcm (toLittleEndianPcm samples) = _
      rw [hword, ih]
      rfl

theorem holds_bufferedPacket {packet : AudioPacket} (h : Carries source packet) :
    Holds source (JitterBuffer.bufferedPacket packet) where
  end_le := h.end_le
  samples_eq := by
    simp only [JitterBuffer.bufferedPacket, h.payload_eq, decodePcm_toLittleEndianPcm]

theorem invariant_pushStep {arrival : Int} {packet : AudioPacket} (hs : Invariant source s)
    (hpacket : Carries source packet) : Invariant source (s.pushStep arrival packet) := by
  have hincoming : JitterBuffer.incomingFormat packet = sourceFormat source := by
    simp only [JitterBuffer.incomingFormat, sourceFormat, hpacket.sampleRate_eq,
      hpacket.channelCount_eq]
  have hformat := JitterBuffer.push_format s.buffer arrival packet
  refine {
    segment_wf := hs.segment_wf
    sent_carries := hs.sent_carries
    key_eq := ?_
    holds := ?_
    format_eq := ?_
    silent := ?_
    outstanding_held := ?_ }
  · intro e he
    rcases JitterBuffer.mem_push he with hold | ⟨-, rfl⟩
    · exact hs.key_eq e hold
    · rfl
  · intro e he
    rcases JitterBuffer.mem_push he with hold | ⟨-, rfl⟩
    · exact hs.holds e hold
    · exact holds_bufferedPacket hpacket
  · intro format hmem
    rcases hformat.1 with hsame | hset
    · exact hs.format_eq format (hsame ▸ hmem)
    · rw [Option.mem_def] at hmem
      rw [← hincoming]
      exact Option.some.inj (hmem.symm.trans hset)
  · intro hnone
    have hreturned : (s.buffer.push arrival packet).returned ≠ .ok true := fun hok => by
      have := (hformat.2 hok).symm.trans hnone
      cases this
    have hold : s.buffer.format = none := by
      rcases hformat.1 with hsame | hset
      · exact hsame.symm.trans hnone
      · exact absurd (hset.symm.trans hnone) (by simp)
    simp only [pushStep, if_neg hreturned, hs.silent hold, List.filter_nil]
  · intro p hp
    obtain ⟨haccepted, hkept⟩ := List.mem_filter.mp hp
    have hevicted : (s.buffer.push arrival packet).evicted ≠ some p.startFrame :=
      of_decide_eq_true hkept
    have hmember : (p.startFrame, p) ∈ s.buffer.packets.entries ∨
        p.endFrame ≤ s.buffer.latestReadFrame ∨
        (s.buffer.push arrival packet).returned = .ok true ∧
          p = JitterBuffer.bufferedPacket packet := by
      split_ifs at haccepted with hok
      · rcases List.mem_cons.mp haccepted with rfl | hold
        · exact .inr (.inr ⟨hok, rfl⟩)
        · exact (hs.outstanding_held p hold).imp_right .inl
      · exact (hs.outstanding_held p haccepted).imp_right .inl
    change _ ∈ (s.buffer.push arrival packet).buffer.packets.entries ∨
      _ ≤ (s.buffer.push arrival packet).buffer.latestReadFrame
    rw [JitterBuffer.push_latestReadFrame]
    rcases hmember with hheld | hend | ⟨hok, rfl⟩
    · rcases JitterBuffer.mem_push_of_mem arrival packet hheld with
        hstays | hend | hgone
      · exact .inl hstays
      · exact .inr hend
      · exact absurd hgone hevicted
    · exact .inr hend
    · rcases JitterBuffer.mem_push_of_accepted hok with hstays | hgone
      · exact .inl hstays
      · exact absurd hgone hevicted

theorem invariant_step {event : Event} (hs : Invariant source s)
    (h : step source s event = some t) : Invariant source t := by
  cases event with
  | beginSegment host playbackStartTime initialFrame seekSucceeds created =>
      unfold step at h
      dsimp only at h
      split_ifs at h
      cases hbegin : host.beginSegment source playbackStartTime source.sampleRate source.channels
          initialFrame seekSucceeds created with
      | error message =>
          rw [hbegin] at h
          cases h
          exact hs
      | ok segment =>
          rw [hbegin] at h
          cases h
          refine { hs with segment_wf := ?_ }
          intro run hrun
          cases hrun
          exact (beginSegment_ok hbegin).1
  | turn outputRouteChanged pendingAction ready =>
      obtain ⟨⟨host, segment⟩, hrun, rfl⟩ := Option.map_eq_some_iff.mp h
      exact invariant_turnStep hs (hs.segment_wf _ hrun)
  | deliver index arrival =>
      obtain ⟨datagram, hdatagram, rfl⟩ := Option.map_eq_some_iff.mp h
      obtain ⟨packet, hpacket, rfl⟩ := hs.sent_carries datagram (List.mem_of_getElem? hdatagram)
      rw [(PacketSerializer.deserialize_wire hpacket.valid).2]
      exact invariant_pushStep hs hpacket
  | read startFrame outputSize retainLookahead locked =>
      cases h
      have hpackets := JitterBuffer.readFrames_packets s.buffer startFrame outputSize retainLookahead
        locked
      have hformat := JitterBuffer.readFrames_format s.buffer startFrame outputSize retainLookahead
        locked
      refine { hs with key_eq := ?_, holds := ?_, format_eq := ?_, silent := ?_, outstanding_held := ?_ }
      · dsimp only
        rw [hpackets]
        exact hs.key_eq
      · dsimp only
        rw [hpackets]
        exact hs.holds
      · dsimp only
        rw [hformat]
        exact hs.format_eq
      · dsimp only
        rw [hformat]
        exact hs.silent
      · intro p hp
        dsimp only
        rw [hpackets]
        exact (hs.outstanding_held p hp).imp_right fun hend =>
          hend.trans (JitterBuffer.latestReadFrame_le_readFrames s.buffer startFrame outputSize
            retainLookahead locked)

theorem invariant_run {events : List Event} (h : run (step source) {} events = some s) :
    Invariant source s :=
  run_preserves (fun hs hstep => invariant_step hs hstep) (invariant_initial source) h

/-- Frame `i` of interleaved samples. -/
def frameAt (channels : Nat) (samples : List Int16) (i : Nat) : List Int16 :=
  (samples.drop (i * channels)).take channels

theorem frameAt_getElem? (channels : Nat) (samples : List Int16) (i c : Nat) :
    (frameAt channels samples i)[c]? =
      if c < channels then samples[i * channels + c]? else none := by
  unfold frameAt
  rw [List.getElem?_take, List.getElem?_drop]

theorem frameAt_eq {channels : Nat} {a b : List Int16} {i j : Nat}
    (h : ∀ c < channels, a[i * channels + c]? = b[j * channels + c]?) :
    frameAt channels a i = frameAt channels b j := by
  apply List.ext_getElem?
  intro c
  rw [frameAt_getElem?, frameAt_getElem?]
  split_ifs with hc
  · exact h c hc
  · rfl

theorem slice_one (source : AudioSource) (f : Nat) :
    source.slice f 1 = frameAt source.channels.toNat source.samples f := by
  rw [AudioSource.slice, Nat.one_mul, frameAt]

theorem slice_getElem? {first count k c : Nat} (hk : k < count) (hc : c < source.channels.toNat) :
    (source.slice first count)[k * source.channels.toNat + c]? =
      source.samples[(first + k) * source.channels.toNat + c]? := by
  have hlt : k * source.channels.toNat + c < count * source.channels.toNat := by
    have : (k + 1) * source.channels.toNat ≤ count * source.channels.toNat :=
      Nat.mul_le_mul_right _ hk
    rw [Nat.add_mul] at this
    omega
  rw [AudioSource.slice, List.getElem?_take_of_lt hlt, List.getElem?_drop, Nat.add_mul,
    Nat.add_assoc]

/-- What a read of whole frames leaves in frame `i`: the source frame if a held
packet covers it, and silence otherwise. -/
theorem frameAt_copyPackets (hs : Invariant source s) {startFrame frames : Nat} {i : Nat}
    (hi : i < frames) :
    frameAt source.channels.toNat
        (JitterBuffer.copyPackets source.channels.toNat startFrame (startFrame + frames)
          s.buffer.packets.entries 0
          (List.replicate (frames * source.channels.toNat) 0)).2 i =
      if (JitterBuffer.lastCovering s.buffer.packets.entries (startFrame + i)).isSome then
        source.slice (startFrame + i) 1
      else List.replicate source.channels.toNat 0 := by
  have hsamples : ∀ e ∈ s.buffer.packets.entries,
      e.2.samples.length = e.2.frameCount * source.channels.toNat := fun e he => by
    rw [(hs.holds e he).samples_eq]
    exact slice_length (hs.holds e he).end_le
  have hcopied (c : Nat) (hc : c < source.channels.toNat) :=
    @JitterBuffer.copyPackets_getElem? source.channels.toNat startFrame (startFrame + frames) _ 0
      (List.replicate (frames * source.channels.toNat) 0)
      s.buffer.packets.sorted hs.key_eq hsamples
      (by rw [List.length_replicate, Nat.add_sub_cancel_left]) i c (by omega) hc
  cases hcovering : JitterBuffer.lastCovering s.buffer.packets.entries (startFrame + i) with
  | none =>
      rw [if_neg (by simp)]
      apply List.ext_getElem?
      intro c
      rw [frameAt_getElem?, List.getElem?_replicate]
      split_ifs with hc
      · have hlt : i * source.channels.toNat + c < frames * source.channels.toNat := by
          have : (i + 1) * source.channels.toNat ≤ frames * source.channels.toNat :=
            Nat.mul_le_mul_right _ hi
          rw [Nat.add_mul] at this
          omega
        rw [hcopied c hc, hcovering, List.getElem?_replicate, if_pos hlt]
      · rfl
  | some p =>
      obtain ⟨e, he, rfl, hcovers⟩ := JitterBuffer.lastCovering_some hcovering
      rw [Option.isSome_some, if_pos rfl, slice_one]
      refine frameAt_eq fun c hc => ?_
      unfold BufferedPacket.Covers BufferedPacket.endFrame at hcovers
      rw [hcopied c hc, hcovering]
      dsimp only
      rw [(hs.holds e he).samples_eq, slice_getElem? (by omega) hc]
      congr 3
      omega

/-- Every frame a read writes is the source frame of its position or silence,
and it is the source frame if `push` accepted a packet that covers it, overflow
has not evicted that packet, the frame is not behind the last read and the read
gets the lock. -/
theorem read_integrity {events : List Event} (hrun : run (step source) {} events = some s)
    (startFrame frames : Nat) (retainLookahead locked : Bool)
    (hend : startFrame + frames < 2 ^ 64) {i : Nat} (hi : i < frames) :
    let output := (s.buffer.readFrames startFrame (frames * source.channels.toNat)
      retainLookahead locked).interleavedOutput
    let frame := frameAt source.channels.toNat output i
    (startFrame + i < source.frameCount ∧ frame = source.slice (startFrame + i) 1 ∨
        frame = List.replicate source.channels.toNat 0) ∧
      (locked = true → s.buffer.latestReadFrame ≤ startFrame + i →
        (∃ p ∈ s.outstanding, p.Covers (startFrame + i)) →
        frame = source.slice (startFrame + i) 1) := by
  have hs := invariant_run hrun
  have hsilence : frameAt source.channels.toNat
      (List.replicate (frames * source.channels.toNat) 0) i =
        List.replicate source.channels.toNat 0 := by
    have hlt : (i + 1) * source.channels.toNat ≤ frames * source.channels.toNat :=
      Nat.mul_le_mul_right _ hi
    rw [Nat.add_mul] at hlt
    rw [frameAt, List.drop_replicate, List.take_replicate]
    congr 1
    omega
  cases locked with
  | false => exact ⟨.inr hsilence, by simp⟩
  | true =>
      cases hformat : s.buffer.format with
      | none =>
          simp only [JitterBuffer.readFrames, hformat, hs.silent hformat]
          exact ⟨.inr hsilence, by simp⟩
      | some format =>
          obtain rfl := hs.format_eq format hformat
          have houtput : (s.buffer.readFrames startFrame (frames * source.channels.toNat)
              retainLookahead true).interleavedOutput =
              (JitterBuffer.copyPackets source.channels.toNat startFrame (startFrame + frames)
                s.buffer.packets.entries 0
                (List.replicate (frames * source.channels.toNat) 0)).2 := by
            have hpos := source.channels_ge
            simp only [JitterBuffer.readFrames, hformat, sourceFormat, Bool.not_true,
              Nat.mul_mod_left, Nat.mul_div_cancel _ hpos, add64_of_lt hend]
            rfl
          dsimp only
          rw [houtput, frameAt_copyPackets hs hi]
          constructor
          · split_ifs with hcovering
            · obtain ⟨p, hp⟩ := Option.isSome_iff_exists.mp hcovering
              obtain ⟨e, he, rfl, hcovers⟩ := JitterBuffer.lastCovering_some hp
              exact .inl ⟨Nat.lt_of_lt_of_le hcovers.2 (hs.holds e he).end_le, rfl⟩
            · exact .inr rfl
          · rintro - hread ⟨p, hp, hcovers⟩
            rcases hs.outstanding_held p hp with hheld | hexpired
            · obtain ⟨q, hq⟩ := JitterBuffer.lastCovering_isSome hheld hcovers
              rw [hq]
              rfl
            · have := hcovers.2
              omega

/-- Two stereo frames at 8,000 Hz. -/
def shortSource : AudioSource where
  sampleRate := 8000
  channels := 2
  samples := [1, -1, 258, -32768]
  sampleRate_ge := AudioSource.lowRate_ge
  sampleRate_le := AudioSource.lowRate_le
  channels_ge := by decide
  channels_le := by decide
  aligned := by decide
  length_lt := by decide

def defaultHost : DesktopNetworkHost where
  sessionId := 7
  port_ne := by decide
  streamId_ne := firstStreamId_ne
  desiredPacketDuration_pos := by decide
  sendAhead_nonneg := by decide
  hostOutputLatency_ge := by decide
  hostOutputLatency_le := by decide

theorem read_integrity_short : ∃ s : AudioPath, ∃ p ∈ s.outstanding,
    p.Covers 1 ∧ s.buffer.latestReadFrame ≤ 1 ∧
    frameAt 2 (s.buffer.readFrames 0 (2 * 2) false true).interleavedOutput 1 = [258, -32768] := by
  have hrun : (run (step shortSource) {} [.beginSegment defaultHost 1000 0 true 0,
      .turn false none (some 2), .deliver 0 5]).any fun s =>
        (s.outstanding.any fun p => p.Covers 1) ∧ s.buffer.latestReadFrame ≤ 1 := by
    decide +kernel
  obtain ⟨s, hs, hheld⟩ := (Option.any_eq_true _ _).mp hrun
  obtain ⟨hany, hread⟩ := of_decide_eq_true hheld
  obtain ⟨p, hp, hcovers⟩ := List.any_eq_true.mp hany
  have hcovers := of_decide_eq_true hcovers
  exact ⟨s, p, hp, hcovers, hread,
    (read_integrity hs 0 2 false true (by decide) (i := 1) (by decide)).2 rfl hread
      ⟨p, hp, hcovers⟩⟩

end AudioPath

end SyncAudio
