import SyncAudio.Core.PacketSerializer

/-!
# The packet parser of the phone

`AudioPacket(datagram:)` reads every field at its own offset, where the host's
`deserialize` moves a cursor. The two are compared field by field. They differ in
one place: the phone insists that the reserved byte is zero, the host skips it.

## Implementation notes

A Swift array traps on an index out of range. The functions return an optional
value that is none for a trap; the initializer returns an optional packet in it.
-/

namespace SyncAudio.Ios

open BigEndian

structure AudioPacket where
  sessionID : UInt64
  streamID : UInt32
  sequenceNumber : UInt32
  sampleRate : UInt32
  channels : UInt16
  startFrame : UInt64
  presentationTimestampNanoseconds : UInt64
  frameCount : UInt16
  pcmPayload : List UInt8
  deriving DecidableEq, Repr

namespace AudioPacket

def headerSize : Nat := 52

def maximumDatagramSize : Nat := 1200

def readUInt16 (bytes : List UInt8) (offset : Nat) : Option UInt16 :=
  bytes[offset]?.bind fun high => bytes[offset + 1]?.bind fun low => some (join16 high low)

def readUInt32 (bytes : List UInt8) (offset : Nat) : Option UInt32 :=
  (readUInt16 bytes offset).bind fun high =>
    (readUInt16 bytes (offset + 2)).bind fun low => some (join32 high low)

def readUInt64 (bytes : List UInt8) (offset : Nat) : Option UInt64 :=
  (readUInt32 bytes offset).bind fun high =>
    (readUInt32 bytes (offset + 4)).bind fun low => some (join64 high low)

/-- The elements from index `low` to below index `high`. -/
def slice (bytes : List UInt8) (low high : Nat) : Option (List UInt8) :=
  if high ≤ bytes.length then some ((bytes.take high).drop low) else none

/-- The second guard of the initializer. -/
def Acceptable (packet : AudioPacket) (payloadSize byteCount : Nat) : Prop :=
  (8000 ≤ packet.sampleRate ∧ packet.sampleRate ≤ 192000) ∧ packet.channels > 0 ∧
    packet.channels ≤ 2 ∧ packet.frameCount > 0 ∧ packet.streamID > 0 ∧
    packet.startFrame.toNat ≤ 2 ^ 64 - 1 - packet.frameCount.toNat ∧
    packet.presentationTimestampNanoseconds.toNat ≤ 2 ^ 63 - 1 ∧
    payloadSize ≤ maximumDatagramSize - headerSize ∧
    byteCount = headerSize + payloadSize ∧
    payloadSize = packet.frameCount.toNat * packet.channels.toNat * 2

instance (packet : AudioPacket) (payloadSize byteCount : Nat) :
    Decidable (packet.Acceptable payloadSize byteCount) :=
  inferInstanceAs (Decidable (_ ∧ _))

/-- The initializer behind its first guard. -/
def readFields (bytes : List UInt8) : Option (Option AudioPacket) := do
  let sessionID ← readUInt64 bytes 8
  let sequenceNumber ← readUInt32 bytes 16
  let sampleRate ← readUInt32 bytes 20
  let channels ← readUInt16 bytes 24
  let startFrame ← readUInt64 bytes 28
  let presentationTime ← readUInt64 bytes 36
  let payloadSize ← readUInt16 bytes 44
  let frameCount ← readUInt16 bytes 46
  let streamID ← readUInt32 bytes 48
  let pcmPayload ← slice bytes headerSize bytes.length
  let packet : AudioPacket :=
    { sessionID, streamID, sequenceNumber, sampleRate, channels, startFrame,
      presentationTimestampNanoseconds := presentationTime, frameCount, pcmPayload }
  if packet.Acceptable payloadSize.toNat bytes.length then some (some packet) else some none

/-- `init?(datagram:)`. -/
def ofDatagram (bytes : List UInt8) : Option (Option AudioPacket) :=
  if bytes.length < headerSize ∨ bytes.length > maximumDatagramSize then some none
  else do
    let magic ← slice bytes 0 4
    let version ← bytes[4]?
    let size ← bytes[5]?
    let format ← bytes[26]?
    let reserved ← bytes[27]?
    if magic = [0x53, 0x41, 0x55, 0x44] ∧ version = 2 ∧ size.toNat = headerSize ∧ format = 1 ∧
        reserved = 0 then readFields bytes
    else some none

/-- The fields of a host packet that the phone keeps. -/
def ofHost (packet : SyncAudio.AudioPacket) : AudioPacket where
  sessionID := packet.sessionId
  streamID := packet.streamId
  sequenceNumber := packet.sequenceNumber
  sampleRate := packet.sampleRate
  channels := packet.channelCount
  startFrame := packet.startFrame
  presentationTimestampNanoseconds := packet.presentationTimestampNanoseconds
  frameCount := packet.frameCount
  pcmPayload := packet.pcmPayload

section Reads

variable {bytes : List UInt8} {offset : Nat}

theorem exists_byte (h : offset < bytes.length) : ∃ byte, bytes[offset]? = some byte :=
  ⟨_, List.getElem?_eq_getElem h⟩

theorem exists_readUInt16 (h : offset + 2 ≤ bytes.length) :
    ∃ value, readUInt16 bytes offset = some value := by
  obtain ⟨high, hhigh⟩ := exists_byte (show offset < bytes.length by omega)
  obtain ⟨low, hlow⟩ := exists_byte (show offset + 1 < bytes.length by omega)
  exact ⟨join16 high low, by rw [readUInt16, hhigh, Option.bind_some, hlow, Option.bind_some]⟩

theorem exists_readUInt32 (h : offset + 4 ≤ bytes.length) :
    ∃ value, readUInt32 bytes offset = some value := by
  obtain ⟨high, hhigh⟩ := exists_readUInt16 (show offset + 2 ≤ bytes.length by omega)
  obtain ⟨low, hlow⟩ := exists_readUInt16 (show offset + 2 + 2 ≤ bytes.length by omega)
  exact ⟨join32 high low, by rw [readUInt32, hhigh, Option.bind_some, hlow, Option.bind_some]⟩

theorem exists_readUInt64 (h : offset + 8 ≤ bytes.length) :
    ∃ value, readUInt64 bytes offset = some value := by
  obtain ⟨high, hhigh⟩ := exists_readUInt32 (show offset + 4 ≤ bytes.length by omega)
  obtain ⟨low, hlow⟩ := exists_readUInt32 (show offset + 4 + 4 ≤ bytes.length by omega)
  exact ⟨join64 high low, by rw [readUInt64, hhigh, Option.bind_some, hlow, Option.bind_some]⟩

/-- A cursor at an offset reads the byte there. -/
theorem readU8_drop {byte : UInt8} (h : bytes[offset]? = some byte) :
    PacketSerializer.readU8 (bytes.drop offset) = .ok (byte, bytes.drop (offset + 1)) := by
  obtain ⟨hlt, rfl⟩ := List.getElem?_eq_some_iff.mp h
  rw [List.drop_eq_getElem_cons hlt]
  rfl

theorem readU16_drop {value : UInt16} (h : readUInt16 bytes offset = some value) :
    PacketSerializer.readU16 (bytes.drop offset) = .ok (value, bytes.drop (offset + 2)) := by
  obtain ⟨high, hhigh, h⟩ := Option.bind_eq_some_iff.mp h
  obtain ⟨low, hlow, h⟩ := Option.bind_eq_some_iff.mp h
  cases h
  simp only [PacketSerializer.readU16, bind, StateT.bind, Except.bind, readU8_drop hhigh,
    readU8_drop hlow, PacketSerializer.pure_eq]

theorem readU32_drop {value : UInt32} (h : readUInt32 bytes offset = some value) :
    PacketSerializer.readU32 (bytes.drop offset) = .ok (value, bytes.drop (offset + 4)) := by
  obtain ⟨high, hhigh, h⟩ := Option.bind_eq_some_iff.mp h
  obtain ⟨low, hlow, h⟩ := Option.bind_eq_some_iff.mp h
  cases h
  rw [PacketSerializer.readU32_eq, readU16_drop hhigh]
  simp only [Except.bind, readU16_drop hlow]

theorem readU64_drop {value : UInt64} (h : readUInt64 bytes offset = some value) :
    PacketSerializer.readU64 (bytes.drop offset) = .ok (value, bytes.drop (offset + 8)) := by
  obtain ⟨high, hhigh, h⟩ := Option.bind_eq_some_iff.mp h
  obtain ⟨low, hlow, h⟩ := Option.bind_eq_some_iff.mp h
  cases h
  rw [PacketSerializer.readU64_eq, readU32_drop hhigh]
  simp only [Except.bind, readU32_drop hlow]

end Reads

/-- The fields of a packet stand at their offsets in a datagram. -/
structure FieldsAt (bytes : List UInt8) (packet : SyncAudio.AudioPacket) (size reserved : UInt8)
    (payloadSize : UInt16) : Prop where
  protocolVersion : bytes[4]? = some packet.protocolVersion
  size : bytes[5]? = some size
  flags : readUInt16 bytes 6 = some packet.flags
  sessionId : readUInt64 bytes 8 = some packet.sessionId
  sequenceNumber : readUInt32 bytes 16 = some packet.sequenceNumber
  sampleRate : readUInt32 bytes 20 = some packet.sampleRate
  channelCount : readUInt16 bytes 24 = some packet.channelCount
  sampleFormat : bytes[26]? = some packet.sampleFormat.code
  reserved : bytes[27]? = some reserved
  startFrame : readUInt64 bytes 28 = some packet.startFrame
  timestamp : readUInt64 bytes 36 = some packet.presentationTimestampNanoseconds
  payloadSize : readUInt16 bytes 44 = some payloadSize
  frameCount : readUInt16 bytes 46 = some packet.frameCount
  streamId : readUInt32 bytes 48 = some packet.streamId
  pcmPayload : packet.pcmPayload = bytes.drop headerSize

section Datagram

variable {bytes : List UInt8} {packet : SyncAudio.AudioPacket} {size reserved : UInt8}
  {payloadSize : UInt16}

/-- Every datagram of the length of a header has fields. -/
theorem exists_fieldsAt (h : headerSize ≤ bytes.length) :
    ∃ packet size reserved payloadSize, FieldsAt bytes packet size reserved payloadSize := by
  have hle {n : Nat} (hn : n ≤ 52) : n ≤ bytes.length := hn.trans h
  obtain ⟨protocolVersion, hversion⟩ := exists_byte (hle (show 4 < 52 by decide))
  obtain ⟨size, hsize⟩ := exists_byte (hle (show 5 < 52 by decide))
  obtain ⟨flags, hflags⟩ := exists_readUInt16 (hle (show 6 + 2 ≤ 52 by decide))
  obtain ⟨sessionId, hsession⟩ := exists_readUInt64 (hle (show 8 + 8 ≤ 52 by decide))
  obtain ⟨sequenceNumber, hsequence⟩ := exists_readUInt32 (hle (show 16 + 4 ≤ 52 by decide))
  obtain ⟨sampleRate, hrate⟩ := exists_readUInt32 (hle (show 20 + 4 ≤ 52 by decide))
  obtain ⟨channelCount, hchannels⟩ := exists_readUInt16 (hle (show 24 + 2 ≤ 52 by decide))
  obtain ⟨format, hformat⟩ := exists_byte (hle (show 26 < 52 by decide))
  obtain ⟨reserved, hreserved⟩ := exists_byte (hle (show 27 < 52 by decide))
  obtain ⟨startFrame, hstart⟩ := exists_readUInt64 (hle (show 28 + 8 ≤ 52 by decide))
  obtain ⟨timestamp, htimestamp⟩ := exists_readUInt64 (hle (show 36 + 8 ≤ 52 by decide))
  obtain ⟨payloadSize, hpayload⟩ := exists_readUInt16 (hle (show 44 + 2 ≤ 52 by decide))
  obtain ⟨frameCount, hframes⟩ := exists_readUInt16 (hle (show 46 + 2 ≤ 52 by decide))
  obtain ⟨streamId, hstream⟩ := exists_readUInt32 (hle (show 48 + 4 ≤ 52 by decide))
  exact ⟨⟨protocolVersion, flags, sessionId, streamId, sequenceNumber, sampleRate, channelCount,
    ⟨format⟩, startFrame, timestamp, frameCount, bytes.drop headerSize⟩, size, reserved,
    payloadSize, ⟨hversion, hsize, hflags, hsession, hsequence, hrate, hchannels, hformat,
      hreserved, hstart, htimestamp, hpayload, hframes, hstream, rfl⟩⟩

theorem FieldsAt.readFields_drop (h : FieldsAt bytes packet size reserved payloadSize) :
    PacketSerializer.readFields packet.protocolVersion (bytes.drop 6) =
      .ok (({ packet with pcmPayload := [] }, payloadSize), bytes.drop headerSize) := by
  simp only [PacketSerializer.readFields, bind, StateT.bind, Except.bind, readU16_drop h.flags,
    readU64_drop h.sessionId, readU32_drop h.sequenceNumber, readU32_drop h.sampleRate,
    readU16_drop h.channelCount, readU8_drop h.sampleFormat, readU8_drop h.reserved,
    readU64_drop h.startFrame, readU64_drop h.timestamp, readU16_drop h.payloadSize,
    readU16_drop h.frameCount, readU32_drop h.streamId, PacketSerializer.pure_eq]
  rfl

/-- What the host accepts, in terms of the fields. -/
theorem FieldsAt.readPacket_eq_ok_iff (h : FieldsAt bytes packet size reserved payloadSize)
    (hlength : headerSize ≤ bytes.length) {result : SyncAudio.AudioPacket} {rest : List UInt8} :
    PacketSerializer.readPacket bytes = .ok (result, rest) ↔
      bytes.take 4 = PacketSerializer.magic ∧ size.toNat = PacketSerializer.headerSize ∧
        bytes.length - headerSize = payloadSize.toNat ∧ PacketSerializer.Valid packet ∧
        result = packet ∧ rest = [] := by
  have hmagic : PacketSerializer.readBytes PacketSerializer.magic.length bytes =
      .ok (bytes.take 4, bytes.drop 4) := by
    apply if_neg
    have hfour : PacketSerializer.magic.length ≤ headerSize := by decide
    omega
  simp only [PacketSerializer.readPacket, bind, StateT.bind, Except.bind, hmagic]
  by_cases hsame : bytes.take 4 = PacketSerializer.magic
  case neg => simp [PacketSerializer.require, hsame]
  simp only [PacketSerializer.require_of hsame, readU8_drop h.protocolVersion, readU8_drop h.size]
  by_cases hsize : size.toNat = PacketSerializer.headerSize
  case neg => simp [PacketSerializer.require, hsize]
  have hremaining : PacketSerializer.remaining (bytes.drop headerSize) =
      .ok (bytes.length - headerSize, bytes.drop headerSize) := by
    rw [← List.length_drop]
    rfl
  simp only [PacketSerializer.require_of hsize, h.readFields_drop, hremaining]
  by_cases hpayload : bytes.length - headerSize = payloadSize.toNat
  case neg => simp [PacketSerializer.require, hpayload]
  have hread : PacketSerializer.readBytes payloadSize.toNat (bytes.drop headerSize) =
      .ok (packet.pcmPayload, []) := by
    have hlengths : (bytes.drop headerSize).length = payloadSize.toNat := by
      rw [List.length_drop, hpayload]
    rw [h.pcmPayload, PacketSerializer.readBytes, ← hlengths, List.take_length, List.drop_length]
    exact if_neg (lt_irrefl _)
  simp only [PacketSerializer.require_of hpayload, hread]
  cases hvalidate : PacketSerializer.validate packet with
  | error message =>
      have hinvalid : ¬ PacketSerializer.Valid packet := by
        intro hvalid
        rw [PacketSerializer.validate_eq_ok_iff.mpr hvalid] at hvalidate
        cases hvalidate
      simp [hinvalid, StateT.lift, bind, Except.bind]
  | ok valid =>
      have hvalid := PacketSerializer.validate_eq_ok_iff.mp hvalidate
      simp only [PacketSerializer.lift_ok, PacketSerializer.pure_eq]
      constructor
      · intro heq
        cases heq
        exact ⟨hsame, hsize, hpayload, hvalid, rfl, rfl⟩
      · rintro ⟨-, -, -, -, rfl, rfl⟩
        rfl

/-- What the phone accepts, in terms of the fields. It never traps. -/
theorem FieldsAt.ofDatagram_eq (h : FieldsAt bytes packet size reserved payloadSize)
    (hlength : headerSize ≤ bytes.length) (hmaximum : bytes.length ≤ maximumDatagramSize) :
    ofDatagram bytes =
      if (bytes.take 4 = PacketSerializer.magic ∧ packet.protocolVersion = 2 ∧
          size.toNat = headerSize ∧ packet.sampleFormat.code = 1 ∧ reserved = 0) ∧
        (ofHost packet).Acceptable payloadSize.toNat bytes.length then some (some (ofHost packet))
      else some none := by
  have hmagic : slice bytes 0 4 = some (bytes.take 4) := by
    apply if_pos
    exact le_trans (by decide) hlength
  have hpayload : slice bytes headerSize bytes.length = some packet.pcmPayload := by
    rw [h.pcmPayload]
    exact (if_pos (le_refl _)).trans (by rw [List.take_length])
  have hfields : readFields bytes =
      if (ofHost packet).Acceptable payloadSize.toNat bytes.length then some (some (ofHost packet))
      else some none := by
    simp only [readFields, bind, Option.bind_some, h.sessionId, h.sequenceNumber, h.sampleRate,
      h.channelCount, h.startFrame, h.timestamp, h.payloadSize, h.frameCount, h.streamId, hpayload]
    rfl
  unfold ofDatagram
  rw [if_neg (by omega)]
  simp only [bind, Option.bind_some, hmagic, h.protocolVersion, h.size, h.sampleFormat, h.reserved,
    hfields]
  exact (ite_and _ _ _ _).symm

/-- The two parsers check the same relations between the fields. -/
theorem valid_iff_acceptable (hlength : bytes.length = headerSize + packet.pcmPayload.length)
    (hmaximum : bytes.length ≤ maximumDatagramSize) :
    bytes.length - headerSize = payloadSize.toNat ∧ PacketSerializer.Valid packet ↔
      packet.protocolVersion = 2 ∧ packet.sampleFormat.code = 1 ∧
        (ofHost packet).Acceptable payloadSize.toNat bytes.length := by
  have hrate : (8000 ≤ packet.sampleRate ↔ 8000 ≤ packet.sampleRate.toNat) ∧
      (packet.sampleRate ≤ 192000 ↔ packet.sampleRate.toNat ≤ 192000) :=
    ⟨UInt32.le_iff_toNat_le, UInt32.le_iff_toNat_le⟩
  have hchannels : (packet.channelCount > 0 ↔ 0 < packet.channelCount.toNat) ∧
      (packet.channelCount ≤ 2 ↔ packet.channelCount.toNat ≤ 2) :=
    ⟨UInt16.lt_iff_toNat_lt, UInt16.le_iff_toNat_le⟩
  have hframes : packet.frameCount > 0 ↔ 0 < packet.frameCount.toNat := UInt16.lt_iff_toNat_lt
  have hstream : packet.streamId > 0 ↔ packet.streamId ≠ 0 := by
    rw [gt_iff_lt, UInt32.lt_iff_toNat_lt, ne_eq, ← UInt32.toNat_inj]
    exact Nat.pos_iff_ne_zero
  have hformat : packet.sampleFormat = .pcmS16LittleEndian ↔ packet.sampleFormat.code = 1 := by
    cases packet.sampleFormat
    exact AudioSampleFormat.mk.injEq _ _ ▸ Iff.rfl
  have hframesLt := packet.frameCount.toNat_lt
  have hsizes : headerSize = 52 ∧ maximumDatagramSize = 1200 ∧
      PacketSerializer.maximumPayloadSize = 1148 := ⟨rfl, rfl, rfl⟩
  have hproduct : packet.frameCount.toNat * (2 * packet.channelCount.toNat) =
      packet.frameCount.toNat * packet.channelCount.toNat * 2 := by ring
  constructor
  · rintro ⟨hpayload, hvalid⟩
    have hlt := hvalid.endFrame_lt
    have htime := hvalid.timestamp_lt
    have hcount := hvalid.payload_length
    refine ⟨hvalid.protocolVersion, hformat.mp hvalid.sampleFormat,
      ⟨hrate.1.mpr hvalid.sampleRate_ge, hrate.2.mpr hvalid.sampleRate_le⟩,
      hchannels.1.mpr hvalid.channelCount_pos, hchannels.2.mpr hvalid.channelCount_le,
      hframes.mpr hvalid.frameCount_pos, hstream.mpr hvalid.streamId, ?_, ?_, ?_, ?_, ?_⟩
    · change packet.startFrame.toNat ≤ 2 ^ 64 - 1 - packet.frameCount.toNat
      omega
    · change packet.presentationTimestampNanoseconds.toNat ≤ 2 ^ 63 - 1
      omega
    · omega
    · omega
    · change payloadSize.toNat = packet.frameCount.toNat * packet.channelCount.toNat * 2
      omega
  · rintro ⟨hversion, hcode, ⟨hlow, hhigh⟩, hpos, hle, hcount, hid, hend, htime, hsize, htotal,
      hpayload⟩
    change packet.startFrame.toNat ≤ 2 ^ 64 - 1 - packet.frameCount.toNat at hend
    change packet.presentationTimestampNanoseconds.toNat ≤ 2 ^ 63 - 1 at htime
    change payloadSize.toNat = packet.frameCount.toNat * packet.channelCount.toNat * 2 at hpayload
    refine ⟨by omega, ?_⟩
    constructor
    · exact hversion
    · exact hrate.1.mp hlow
    · exact hrate.2.mp hhigh
    · exact hchannels.1.mp hpos
    · exact hchannels.2.mp hle
    · exact hstream.mp hid
    · exact hframes.mp hcount
    · omega
    · omega
    · omega
    · exact hformat.mpr hcode
    · omega

end Datagram

/-- The host's parser checks the size before it reads. -/
theorem deserialize_eq_ok_iff {bytes : List UInt8} {received : SyncAudio.AudioPacket} :
    PacketSerializer.deserialize bytes = .ok received ↔
      (headerSize ≤ bytes.length ∧ bytes.length ≤ maximumDatagramSize) ∧
        ∃ rest, PacketSerializer.readPacket bytes = .ok (received, rest) := by
  have hheader : PacketSerializer.headerSize = headerSize := rfl
  have hmaximum : PacketSerializer.maximumDatagramSize = maximumDatagramSize := rfl
  unfold PacketSerializer.deserialize
  rw [hheader, hmaximum]
  split_ifs with hshort hlong
  · constructor
    · intro h
      cases h
    · rintro ⟨⟨hle, -⟩, -⟩
      omega
  · constructor
    · intro h
      cases h
    · rintro ⟨⟨-, hle⟩, -⟩
      omega
  · cases PacketSerializer.readPacket bytes with
    | error message => simp [Except.map]
    | ok result =>
        obtain ⟨packet, rest⟩ := result
        have hsize : headerSize ≤ bytes.length ∧ bytes.length ≤ maximumDatagramSize := by omega
        simp [Except.map, hsize]

/-- The phone's initializer in terms of the host's parser. -/
theorem ofDatagram_spec (bytes : List UInt8) :
    (∃ result, ofDatagram bytes = some result) ∧
      ∀ packet, ofDatagram bytes = some (some packet) ↔
        ∃ received, PacketSerializer.deserialize bytes = .ok received ∧ bytes[27]? = some 0 ∧
          packet = ofHost received := by
  by_cases hsize : bytes.length < headerSize ∨ bytes.length > maximumDatagramSize
  · have hphone : ofDatagram bytes = some none := if_pos hsize
    refine ⟨⟨none, hphone⟩, ?_⟩
    intro packet
    rw [hphone]
    constructor
    · intro h
      cases h
    · rintro ⟨received, hreceived, -⟩
      have hlength := (deserialize_eq_ok_iff.mp hreceived).1
      omega
  · have hheader : headerSize ≤ bytes.length := by omega
    have hmaximum : bytes.length ≤ maximumDatagramSize := by omega
    obtain ⟨fields, size, reserved, payloadSize, hfields⟩ := exists_fieldsAt hheader
    have hlength : bytes.length = headerSize + fields.pcmPayload.length := by
      rw [hfields.pcmPayload, List.length_drop]
      omega
    have hphone := hfields.ofDatagram_eq hheader hmaximum
    have hhost {received : SyncAudio.AudioPacket} :
        PacketSerializer.deserialize bytes = .ok received ↔
          bytes.take 4 = PacketSerializer.magic ∧ size.toNat = headerSize ∧
            (bytes.length - headerSize = payloadSize.toNat ∧ PacketSerializer.Valid fields) ∧
            received = fields := by
      rw [deserialize_eq_ok_iff]
      constructor
      · rintro ⟨-, rest, hread⟩
        obtain ⟨hmagic, hsize, hpayload, hvalid, heq, -⟩ :=
          (hfields.readPacket_eq_ok_iff hheader).mp hread
        exact ⟨hmagic, hsize, ⟨hpayload, hvalid⟩, heq⟩
      · rintro ⟨hmagic, hsize, ⟨hpayload, hvalid⟩, heq⟩
        exact ⟨⟨hheader, hmaximum⟩, [],
          (hfields.readPacket_eq_ok_iff hheader).mpr ⟨hmagic, hsize, hpayload, hvalid, heq, rfl⟩⟩
    rw [hphone]
    constructor
    · split_ifs
      · exact ⟨_, rfl⟩
      · exact ⟨_, rfl⟩
    · intro packet
      have hsame := @valid_iff_acceptable bytes fields payloadSize hlength hmaximum
      constructor
      · intro h
        split_ifs at h with haccepted
        · obtain ⟨⟨hmagic, hversion, hsize, hformat, hreserved⟩, hacceptable⟩ := haccepted
          refine ⟨fields, hhost.mpr ⟨hmagic, hsize, ?_, rfl⟩, ?_, ?_⟩
          · exact hsame.mpr ⟨hversion, hformat, hacceptable⟩
          · rw [hfields.reserved, hreserved]
          · exact (Option.some.inj (Option.some.inj h)).symm
        · cases h
      · rintro ⟨received, hreceived, hreserved, rfl⟩
        obtain ⟨hmagic, hsize, hvalid, rfl⟩ := hhost.mp hreceived
        obtain ⟨hversion, hformat, hacceptable⟩ := hsame.mp hvalid
        have hzero : reserved = 0 := Option.some.inj (hfields.reserved.symm.trans hreserved)
        rw [if_pos ⟨⟨hmagic, hversion, hsize, hformat, hzero⟩, hacceptable⟩]

/-- The phone accepts exactly the datagrams that the host's parser accepts and whose
reserved byte is zero, and then both read the same fields. The phone never traps. -/
theorem phone_accepts_iff (bytes : List UInt8) :
    (∃ result, ofDatagram bytes = some result) ∧
      ((∃ packet, ofDatagram bytes = some (some packet)) ↔
        (∃ received, PacketSerializer.deserialize bytes = .ok received) ∧ bytes[27]? = some 0) ∧
      ∀ packet received, ofDatagram bytes = some (some packet) →
        PacketSerializer.deserialize bytes = .ok received → packet = ofHost received := by
  obtain ⟨htotal, hspec⟩ := ofDatagram_spec bytes
  refine ⟨htotal, ?_, ?_⟩
  · constructor
    · rintro ⟨packet, hpacket⟩
      obtain ⟨received, hreceived, hreserved, -⟩ := (hspec packet).mp hpacket
      exact ⟨⟨received, hreceived⟩, hreserved⟩
    · rintro ⟨⟨received, hreceived⟩, hreserved⟩
      exact ⟨_, (hspec _).mpr ⟨received, hreceived, hreserved, rfl⟩⟩
  · intro packet received hpacket hreceived
    obtain ⟨other, hother, -, heq⟩ := (hspec packet).mp hpacket
    rw [hreceived] at hother
    cases hother
    exact heq

/-- A packet of one frame whose reserved byte is set. -/
def reservedDatagram : List UInt8 :=
  [0x53, 0x41, 0x55, 0x44, 2, 52, 0, 0,
   0, 0, 0, 0, 0, 0, 0, 1, 0, 0, 0, 0, 0, 0, 0xbb, 0x80, 0, 1, 1, 1,
   0, 0, 0, 0, 0, 0, 0, 0, 0, 0, 0, 0, 0, 0, 0, 0, 0, 2, 0, 1, 0, 0, 0, 1, 5, 6]

/-- The host skips the reserved byte, the phone rejects the packet for it. -/
theorem reserved_byte_splits :
    ¬ ∀ bytes, (∃ packet, ofDatagram bytes = some (some packet)) ↔
      ∃ received, PacketSerializer.deserialize bytes = .ok received := by
  intro hsame
  have hphone : ofDatagram reservedDatagram = some none := by decide
  have hhost : (PacketSerializer.deserialize reservedDatagram).toOption.isSome = true := by
    decide
  cases hreceived : PacketSerializer.deserialize reservedDatagram with
  | error message =>
      rw [hreceived] at hhost
      cases hhost
  | ok received =>
      obtain ⟨packet, hpacket⟩ := (hsame reservedDatagram).mpr ⟨received, hreceived⟩
      rw [hphone] at hpacket
      cases hpacket

/-- The host serializes exactly the packets that pass its checks, and the host and the phone read
them back. -/
theorem serialize_round_trip (packet : SyncAudio.AudioPacket) :
    (∀ message, PacketSerializer.validate packet = .error message →
      PacketSerializer.serialize packet = .error message) ∧
      (PacketSerializer.validate packet = .ok () →
        ∃ data, PacketSerializer.serialize packet = .ok data) ∧
      ∀ data, PacketSerializer.serialize packet = .ok data →
        data.length = 52 + packet.pcmPayload.length ∧ data.length ≤ 1200 ∧
          PacketSerializer.deserialize data = .ok packet ∧
          ofDatagram data = some (some (ofHost packet)) := by
  refine ⟨?_, ?_, ?_⟩
  · intro message hinvalid
    unfold PacketSerializer.serialize
    rw [hinvalid]
    rfl
  · intro hvalid
    exact ⟨_, PacketSerializer.serialize_eq_ok_iff.mpr
      ⟨PacketSerializer.validate_eq_ok_iff.mp hvalid, rfl⟩⟩
  · intro data hdata
    obtain ⟨hvalid, rfl⟩ := PacketSerializer.serialize_eq_ok_iff.mp hdata
    obtain ⟨hlength, hread⟩ := PacketSerializer.deserialize_wire hvalid
    refine ⟨PacketSerializer.wireBytes_length packet, hlength, hread, ?_⟩
    have hreserved : (PacketSerializer.wireBytes packet)[27]? = some 0 := by
      simp [PacketSerializer.wireBytes, PacketSerializer.magic, List.getElem?_append]
    exact ((ofDatagram_spec _).2 _).mpr ⟨packet, hread, hreserved, rfl⟩

/-- Two frames of a stereo stream. -/
def stereoPacket : SyncAudio.AudioPacket where
  sessionId := 7
  sequenceNumber := 3
  sampleRate := 48000
  channelCount := 2
  presentationTimestampNanoseconds := 2000000000
  startFrame := 960
  frameCount := 2
  streamId := 1
  pcmPayload := [1, 0, 2, 0, 255, 255, 254, 255]

theorem serialize_round_trip_stereo : ∃ data,
    PacketSerializer.serialize stereoPacket = .ok data ∧ data.length = 60 ∧
      PacketSerializer.deserialize data = .ok stereoPacket ∧
      ofDatagram data = some (some (ofHost stereoPacket)) := by
  obtain ⟨-, haccepted, hread⟩ := serialize_round_trip stereoPacket
  obtain ⟨data, hdata⟩ := haccepted rfl
  obtain ⟨hlength, -, hhost, hphone⟩ := hread data hdata
  exact ⟨data, hdata, hlength, hhost, hphone⟩

end AudioPacket

end SyncAudio.Ios
