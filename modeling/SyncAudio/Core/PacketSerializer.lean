import SyncAudio.Lib.BigEndian

/-!
# Audio packets and their wire format

`serialize` writes the 52-byte version-2 header and the PCM payload,
`deserialize` reads them back. Both run the same `validate`, and both report a
rejection by the text of the `std::invalid_argument` they throw.
-/

namespace SyncAudio

/-- An `enum class` with an 8-bit underlying type holds every 8-bit value. -/
structure AudioSampleFormat where
  code : UInt8
  deriving DecidableEq, Repr

namespace AudioSampleFormat

def pcmS16LittleEndian : AudioSampleFormat := ⟨1⟩

end AudioSampleFormat

/-- One SAUD packet. -/
structure AudioPacket where
  protocolVersion : UInt8 := 2
  flags : UInt16 := 0
  sessionId : UInt64 := 0
  streamId : UInt32 := 1
  sequenceNumber : UInt32 := 0
  sampleRate : UInt32 := 0
  channelCount : UInt16 := 0
  sampleFormat : AudioSampleFormat := .pcmS16LittleEndian
  startFrame : UInt64 := 0
  presentationTimestampNanoseconds : UInt64 := 0
  frameCount : UInt16 := 0
  pcmPayload : List UInt8 := []
  deriving DecidableEq, Repr

namespace AudioPacket

def currentProtocolVersion : UInt8 := 2

end AudioPacket

namespace PacketSerializer

open BigEndian

def headerSize : Nat := 52

def maximumDatagramSize : Nat := 1200

def maximumPayloadSize : Nat := maximumDatagramSize - headerSize

/-- The four bytes `SAUD`. -/
def magic : List UInt8 := [0x53, 0x41, 0x55, 0x44]

def bytesPerSample (format : AudioSampleFormat) : Except String Nat :=
  if format ≠ .pcmS16LittleEndian then .error "Unsupported audio sample format" else .ok 2

/-- The frame checks of `validate`, made once the frame size is known. -/
def validatePayload (packet : AudioPacket) (bytesPerFrame : Nat) : Except String Unit :=
  if packet.pcmPayload.length % bytesPerFrame ≠ 0 then
    .error "PCM payload does not contain complete frames"
  else if packet.pcmPayload.length / bytesPerFrame ≠ packet.frameCount.toNat then
    .error "PCM payload size does not match frame count"
  else .ok ()

def validate (packet : AudioPacket) : Except String Unit :=
  if packet.protocolVersion ≠ AudioPacket.currentProtocolVersion then
    .error "Unsupported audio protocol version"
  else if packet.sampleRate < 8000 ∨ packet.sampleRate > 192000 then
    .error "Audio packet sample rate is unsupported"
  else if packet.channelCount = 0 ∨ packet.channelCount > 2 then
    .error "Audio packet channel count is unsupported"
  else if packet.streamId = 0 ∨ packet.frameCount = 0 ∨
      packet.startFrame.toNat > 2 ^ 64 - 1 - packet.frameCount.toNat ∨
      packet.presentationTimestampNanoseconds.toNat > 2 ^ 63 - 1 then
    .error "Audio packet identifiers or timing are invalid"
  else if packet.pcmPayload = [] then
    .error "Audio packet PCM payload must not be empty"
  else if packet.pcmPayload.length > maximumPayloadSize then
    .error "Audio packet exceeds the payload size limit"
  else do
    let bytesPerSample ← bytesPerSample packet.sampleFormat
    validatePayload packet (bytesPerSample * packet.channelCount.toNat)

/-- The header fields in wire order, followed by the payload. -/
def wireBytes (packet : AudioPacket) : List UInt8 :=
  magic ++ [packet.protocolVersion] ++ [UInt8.ofNat headerSize] ++ bytes16 packet.flags ++
    bytes64 packet.sessionId ++ bytes32 packet.sequenceNumber ++ bytes32 packet.sampleRate ++
    bytes16 packet.channelCount ++ [packet.sampleFormat.code] ++ [0] ++
    bytes64 packet.startFrame ++ bytes64 packet.presentationTimestampNanoseconds ++
    bytes16 (UInt16.ofNat packet.pcmPayload.length) ++ bytes16 packet.frameCount ++
    bytes32 packet.streamId ++ packet.pcmPayload

def serialize (packet : AudioPacket) : Except String (List UInt8) := do
  validate packet
  if packet.pcmPayload.length > 2 ^ 16 - 1 then
    .error "PCM payload cannot be represented on the wire"
  else .ok (wireBytes packet)

/-- The bytes a `Reader` has not consumed yet. -/
abbrev Reader (α : Type) := StateT (List UInt8) (Except String) α

def readU8 : Reader UInt8
  | byte :: rest => .ok (byte, rest)
  | [] => .error "Audio packet is truncated"

def readU16 : Reader UInt16 := do
  let high ← readU8
  let low ← readU8
  pure (join16 high low)

def readU32 : Reader UInt32 := do
  let high ← readU16
  let low ← readU16
  pure (join32 high low)

def readU64 : Reader UInt64 := do
  let high ← readU32
  let low ← readU32
  pure (join64 high low)

def readBytes (count : Nat) : Reader (List UInt8) := fun data =>
  if count > data.length then .error "Audio packet is truncated"
  else .ok (data.take count, data.drop count)

/-- The fields between the header size byte and the payload. -/
def readFields (protocolVersion : UInt8) : Reader (AudioPacket × UInt16) := do
  let flags ← readU16
  let sessionId ← readU64
  let sequenceNumber ← readU32
  let sampleRate ← readU32
  let channelCount ← readU16
  let sampleFormat ← readU8
  let _reserved ← readU8
  let startFrame ← readU64
  let presentationTimestampNanoseconds ← readU64
  let payloadSize ← readU16
  let frameCount ← readU16
  let streamId ← readU32
  pure ({ protocolVersion, flags, sessionId, streamId, sequenceNumber, sampleRate, channelCount,
          sampleFormat := ⟨sampleFormat⟩, startFrame, presentationTimestampNanoseconds,
          frameCount }, payloadSize)

def remaining : Reader Nat := fun data => .ok (data.length, data)

/-- A check that throws `message` when it fails. -/
def require (condition : Prop) [Decidable condition] (message : String) : Reader Unit :=
  fun data => if condition then .ok ((), data) else .error message

/-- The statements of `deserialize` after the two size checks. -/
def readPacket : Reader AudioPacket := do
  let receivedMagic ← readBytes magic.length
  require (receivedMagic = magic) "Audio packet magic is invalid"
  let protocolVersion ← readU8
  let receivedHeaderSize ← readU8
  require (receivedHeaderSize.toNat = headerSize) "Audio packet header size is unsupported"
  let (packet, payloadSize) ← readFields protocolVersion
  let left ← remaining
  require (left = payloadSize.toNat) "Audio packet payload size is inconsistent"
  let payload ← readBytes payloadSize.toNat
  let packet := { packet with pcmPayload := payload }
  StateT.lift (validate packet)
  pure packet

def deserialize (data : List UInt8) : Except String AudioPacket :=
  if data.length < headerSize then .error "Audio packet is shorter than the header"
  else if data.length > maximumDatagramSize then
    .error "Audio datagram exceeds the MTU-safe limit"
  else (readPacket data).map Prod.fst

/-- What `validate` accepts, as one statement about the fields. -/
structure Valid (packet : AudioPacket) : Prop where
  protocolVersion : packet.protocolVersion = AudioPacket.currentProtocolVersion
  sampleRate_ge : 8000 ≤ packet.sampleRate.toNat
  sampleRate_le : packet.sampleRate.toNat ≤ 192000
  channelCount_pos : 0 < packet.channelCount.toNat
  channelCount_le : packet.channelCount.toNat ≤ 2
  streamId : packet.streamId ≠ 0
  frameCount_pos : 0 < packet.frameCount.toNat
  endFrame_lt : packet.startFrame.toNat + packet.frameCount.toNat < 2 ^ 64
  timestamp_lt : packet.presentationTimestampNanoseconds.toNat < 2 ^ 63
  payload_le : packet.pcmPayload.length ≤ maximumPayloadSize
  sampleFormat : packet.sampleFormat = .pcmS16LittleEndian
  payload_length : packet.pcmPayload.length = packet.frameCount.toNat *
    (2 * packet.channelCount.toNat)

theorem bytesPerSample_pcm : bytesPerSample .pcmS16LittleEndian = .ok 2 := rfl

theorem bytesPerSample_ne {format : AudioSampleFormat} (h : format ≠ .pcmS16LittleEndian) :
    bytesPerSample format = .error "Unsupported audio sample format" :=
  if_pos h

theorem channelCount_eq_zero {packet : AudioPacket} :
    packet.channelCount = 0 ↔ packet.channelCount.toNat = 0 :=
  UInt16.toNat_inj.symm

theorem frameCount_eq_zero {packet : AudioPacket} :
    packet.frameCount = 0 ↔ packet.frameCount.toNat = 0 :=
  UInt16.toNat_inj.symm

theorem validatePayload_eq_ok_iff {packet : AudioPacket} {bytesPerFrame : Nat}
    (hpos : 0 < bytesPerFrame) : validatePayload packet bytesPerFrame = .ok () ↔
      packet.pcmPayload.length = packet.frameCount.toNat * bytesPerFrame := by
  unfold validatePayload
  have hdiv := Nat.div_add_mod packet.pcmPayload.length bytesPerFrame
  split_ifs with hmod hcount
  · simp only [false_iff]
    intro heq
    exact hmod (heq ▸ Nat.mul_mod_left _ _)
  · simp only [false_iff]
    intro heq
    exact hcount (by rw [heq, Nat.mul_div_cancel _ hpos])
  · simp only [true_iff]
    simp only [ne_eq, Decidable.not_not] at hmod hcount
    rw [hmod, hcount, Nat.mul_comm] at hdiv
    exact hdiv.symm

/-- `validate` accepts exactly the valid packets. -/
theorem validate_eq_ok_iff {packet : AudioPacket} : validate packet = .ok () ↔ Valid packet := by
  constructor
  · intro h
    unfold validate at h
    split_ifs at h with hversion hrate hchannels hidentifiers hempty hsize
    simp only [not_or, UInt32.not_lt, UInt16.not_lt, UInt32.le_iff_toNat_le, gt_iff_lt,
      UInt16.le_iff_toNat_le, channelCount_eq_zero, frameCount_eq_zero, ne_eq,
      Decidable.not_not] at hversion hrate hchannels hidentifiers
    obtain ⟨hstream, hframes, hend, htime⟩ := hidentifiers
    have hend_lt := packet.frameCount.toNat_lt
    by_cases hformat : packet.sampleFormat = .pcmS16LittleEndian
    · rw [hformat, bytesPerSample_pcm] at h
      have hlength := (validatePayload_eq_ok_iff (by omega)).mp h
      exact ⟨hversion, hrate.1, hrate.2, by omega, hchannels.2, hstream, by omega, by omega,
        by omega, by omega, hformat, hlength⟩
    · rw [bytesPerSample_ne hformat] at h
      cases h
  · intro h
    have hchannels := h.channelCount_pos
    have hframes := h.frameCount_pos
    have hend := h.endFrame_lt
    have htime := h.timestamp_lt
    have hpayload : packet.pcmPayload ≠ [] := by
      intro hnil
      have hlength := h.payload_length
      rw [hnil, List.length_nil] at hlength
      have := Nat.mul_pos hframes (Nat.mul_pos Nat.two_pos hchannels)
      omega
    have hrate : ¬ (packet.sampleRate < 8000 ∨ packet.sampleRate > 192000) := by
      simp only [not_or, UInt32.not_lt, gt_iff_lt, UInt32.le_iff_toNat_le]
      exact ⟨h.sampleRate_ge, h.sampleRate_le⟩
    have hcount : ¬ (packet.channelCount = 0 ∨ packet.channelCount > 2) := by
      simp only [not_or, UInt16.not_lt, gt_iff_lt, UInt16.le_iff_toNat_le, channelCount_eq_zero]
      exact ⟨by omega, h.channelCount_le⟩
    have hidentifiers : ¬ (packet.streamId = 0 ∨ packet.frameCount = 0 ∨
        packet.startFrame.toNat > 2 ^ 64 - 1 - packet.frameCount.toNat ∨
        packet.presentationTimestampNanoseconds.toNat > 2 ^ 63 - 1) := by
      simp only [not_or, frameCount_eq_zero]
      exact ⟨h.streamId, by omega, by omega, by omega⟩
    unfold validate
    rw [if_neg (not_not_intro h.protocolVersion), if_neg hrate, if_neg hcount, if_neg hidentifiers,
      if_neg hpayload, if_neg (Nat.not_lt.mpr h.payload_le), h.sampleFormat, bytesPerSample_pcm]
    exact (validatePayload_eq_ok_iff (by omega)).mpr h.payload_length

@[simp] theorem readU8_cons (byte : UInt8) (rest : List UInt8) :
    readU8 (byte :: rest) = .ok (byte, rest) := rfl

@[simp] theorem readU16_bytes16 (value : UInt16) (rest : List UInt8) :
    readU16 (bytes16 value ++ rest) = .ok (value, rest) := by
  show Except.ok (join16 (value >>> 8).toUInt8 value.toUInt8, rest) = _
  rw [join16_split]

theorem readU32_eq (data : List UInt8) : readU32 data =
    (readU16 data).bind fun high => (readU16 high.2).bind fun low =>
      .ok (join32 high.1 low.1, low.2) := rfl

@[simp] theorem readU32_bytes32 (value : UInt32) (rest : List UInt8) :
    readU32 (bytes32 value ++ rest) = .ok (value, rest) := by
  rw [readU32_eq, bytes32, List.append_assoc, readU16_bytes16]
  simp only [Except.bind, readU16_bytes16, join32_split]

theorem readU64_eq (data : List UInt8) : readU64 data =
    (readU32 data).bind fun high => (readU32 high.2).bind fun low =>
      .ok (join64 high.1 low.1, low.2) := rfl

@[simp] theorem readU64_bytes64 (value : UInt64) (rest : List UInt8) :
    readU64 (bytes64 value ++ rest) = .ok (value, rest) := by
  rw [readU64_eq, bytes64, List.append_assoc, readU32_bytes32]
  simp only [Except.bind, readU32_bytes32, join64_split]

@[simp] theorem readBytes_append (bytes rest : List UInt8) :
    readBytes bytes.length (bytes ++ rest) = .ok (bytes, rest) := by
  simp [readBytes]

theorem wireBytes_length (packet : AudioPacket) :
    (wireBytes packet).length = headerSize + packet.pcmPayload.length := by
  simp [wireBytes, magic, headerSize]
  omega

theorem pure_eq {α : Type} (a : α) (data : List UInt8) :
    (pure a : Reader α) data = .ok (a, data) :=
  rfl

theorem lift_ok {α : Type} (a : α) (data : List UInt8) :
    (StateT.lift (.ok a) : Reader α) data = .ok (a, data) :=
  rfl

/-- A reader behind one that has read something. -/
theorem bind_of_ok {α β : Type} {x : Reader α} {next : α → Reader β} {data rest : List UInt8} {a : α}
    (h : x data = .ok (a, rest)) : (x >>= next) data = next a rest := by
  show (x data).bind (fun read => next read.1 read.2) = next a rest
  rw [h]
  rfl

/-- The header fields are read back in the order they were written. -/
theorem readFields_wire (packet : AudioPacket) (rest : List UInt8) :
    readFields packet.protocolVersion (bytes16 packet.flags ++
        (bytes64 packet.sessionId ++ (bytes32 packet.sequenceNumber ++
        (bytes32 packet.sampleRate ++ (bytes16 packet.channelCount ++
        (packet.sampleFormat.code :: 0 :: (bytes64 packet.startFrame ++
        (bytes64 packet.presentationTimestampNanoseconds ++
        (bytes16 (UInt16.ofNat packet.pcmPayload.length) ++ (bytes16 packet.frameCount ++
        (bytes32 packet.streamId ++ rest))))))))))) =
      .ok (({ packet with pcmPayload := [] }, UInt16.ofNat packet.pcmPayload.length), rest) := by
  unfold readFields
  rw [bind_of_ok (readU16_bytes16 _ _), bind_of_ok (readU64_bytes64 _ _),
    bind_of_ok (readU32_bytes32 _ _), bind_of_ok (readU32_bytes32 _ _),
    bind_of_ok (readU16_bytes16 _ _), bind_of_ok (readU8_cons _ _), bind_of_ok (readU8_cons _ _),
    bind_of_ok (readU64_bytes64 _ _), bind_of_ok (readU64_bytes64 _ _),
    bind_of_ok (readU16_bytes16 _ _), bind_of_ok (readU16_bytes16 _ _),
    bind_of_ok (readU32_bytes32 _ _), pure_eq]

/-- The payload length of a valid packet fits its 16-bit wire field. -/
theorem Valid.payload_toNat {packet : AudioPacket} (h : Valid packet) :
    (UInt16.ofNat packet.pcmPayload.length).toNat = packet.pcmPayload.length := by
  have hle := h.payload_le
  simp only [maximumPayloadSize, maximumDatagramSize, headerSize] at hle
  exact UInt16.toNat_ofNat_of_lt' (by simp only [UInt16.size]; omega)

theorem require_of {condition : Prop} [Decidable condition] {message : String}
    {data : List UInt8} (h : condition) : require condition message data = .ok ((), data) :=
  if_pos h

theorem readPacket_wire {packet : AudioPacket} (h : Valid packet) :
    readPacket (wireBytes packet) = .ok (packet, []) := by
  have hmagic (rest : List UInt8) : readBytes magic.length (magic ++ rest) = .ok (magic, rest) :=
    readBytes_append magic rest
  have hpayload : readBytes packet.pcmPayload.length packet.pcmPayload =
      .ok (packet.pcmPayload, []) := by
    simpa using readBytes_append packet.pcmPayload []
  have hvalid := validate_eq_ok_iff.mpr h
  have hheader : (UInt8.ofNat headerSize).toNat = headerSize := rfl
  simp only [readPacket, wireBytes, List.append_assoc, List.cons_append, List.nil_append, bind,
    StateT.bind, hmagic, Except.bind, require_of, hheader, readU8_cons, readFields_wire, remaining,
    h.payload_toNat, hpayload, hvalid, lift_ok, pure_eq]

theorem serialize_eq_ok_iff {packet : AudioPacket} {data : List UInt8} :
    serialize packet = .ok data ↔ Valid packet ∧ data = wireBytes packet := by
  constructor
  · intro h
    unfold serialize at h
    cases hvalidate : validate packet with
    | error message =>
        rw [hvalidate] at h
        cases h
    | ok _ =>
        rw [hvalidate] at h
        simp only [bind, Except.bind] at h
        split_ifs at h
        exact ⟨validate_eq_ok_iff.mp hvalidate, (Except.ok.inj h).symm⟩
  · intro ⟨hvalid, hdata⟩
    have hle := hvalid.payload_le
    simp only [maximumPayloadSize, maximumDatagramSize, headerSize] at hle
    unfold serialize
    rw [hdata, validate_eq_ok_iff.mpr hvalid]
    exact if_neg (by omega)

/-- A serialized packet fits one datagram and `deserialize` gives the packet back. -/
theorem deserialize_wire {packet : AudioPacket} (h : Valid packet) :
    (wireBytes packet).length ≤ maximumDatagramSize ∧
      deserialize (wireBytes packet) = .ok packet := by
  have hle := h.payload_le
  have hlength := wireBytes_length packet
  have hmaximum : maximumPayloadSize = maximumDatagramSize - headerSize := rfl
  have hheader : headerSize ≤ maximumDatagramSize := by decide
  refine ⟨by omega, ?_⟩
  unfold deserialize
  rw [if_neg (by omega), if_neg (by omega), readPacket_wire h]
  rfl

end PacketSerializer

end SyncAudio
