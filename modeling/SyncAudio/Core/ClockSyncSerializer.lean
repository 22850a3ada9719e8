import SyncAudio.Core.ClockSync
import SyncAudio.Lib.BigEndian

/-!
# Clock messages and their wire format

A clock message takes 40 bytes, whether it is a request or a response.
`serialize` writes them, `deserialize` reads them back and throws the texts given
here. The reserved word is written as zero and not looked at.

## Implementation notes

A message has one of the two types, so the check of `serialize` on other values
has nothing to reject. The reader does not check its bounds; a read behind the
end is none.
-/

namespace SyncAudio.ClockSyncSerializer

open BigEndian

def messageSize : Nat := 40

/-- The four bytes `SCLK`. -/
def magic : List UInt8 := [0x53, 0x43, 0x4c, 0x4b]

def protocolVersion : UInt8 := 1

def typeCode : ClockSyncMessageType → UInt8
  | .request => 1
  | .response => 2

/-- The type of a code, if it is one. -/
def typeOfCode (code : UInt8) : Option ClockSyncMessageType :=
  if code = typeCode .request then some .request
  else if code = typeCode .response then some .response
  else none

def serialize (message : ClockSyncMessage) : List UInt8 :=
  magic ++ [protocolVersion] ++ [typeCode message.type] ++ bytes16 (UInt16.ofNat messageSize) ++
    bytes32 message.requestId ++ bytes32 0 ++ bytes64 message.clientSendTimestampNanoseconds ++
    bytes64 message.hostReceiveTimestampNanoseconds ++ bytes64 message.hostSendTimestampNanoseconds

/-- The bytes behind the offset. -/
abbrev Reader (α : Type) := StateT (List UInt8) Option α

def readU8 : Reader UInt8
  | byte :: rest => some (byte, rest)
  | [] => none

def readU16 : Reader UInt16 := do
  let high ← readU8
  let low ← readU8
  pure (join16 high low)

def readU32 : Reader UInt32 := do
  let high ← readU16
  let low ← readU16
  pure (join32 high low)

def readU64 : Reader UInt64 := do
  let high ← readU32
  let low ← readU32
  pure (join64 high low)

/-- The fields behind the size. -/
def readFields (type : ClockSyncMessageType) : Reader ClockSyncMessage := do
  let requestId ← readU32
  let _reserved ← readU32
  let clientSendTimestampNanoseconds ← readU64
  let hostReceiveTimestampNanoseconds ← readU64
  let hostSendTimestampNanoseconds ← readU64
  pure {
    type
    requestId
    clientSendTimestampNanoseconds
    hostReceiveTimestampNanoseconds
    hostSendTimestampNanoseconds }

/-- The part of `deserialize` behind the type. -/
def readSized (type : ClockSyncMessageType) : Reader (Except String ClockSyncMessage) := do
  let size ← readU16
  if size.toNat ≠ messageSize then pure (.error "Clock-sync message size is invalid")
  else
    let message ← readFields type
    pure (.ok message)

/-- The part of `deserialize` behind the magic. -/
def readMessage : Reader (Except String ClockSyncMessage) := do
  let version ← readU8
  if version ≠ protocolVersion then pure (.error "Clock-sync protocol version is unsupported")
  else
    let code ← readU8
    match typeOfCode code with
    | none => pure (.error "Clock-sync message type is invalid")
    | some type => readSized type

def deserialize (data : List UInt8) : Option (Except String ClockSyncMessage) :=
  if data.length ≠ messageSize ∨ data.take magic.length ≠ magic then
    some (.error "Clock-sync message header is invalid")
  else (readMessage (data.drop magic.length)).map Prod.fst

section RoundTrip

variable (rest : List UInt8)

@[simp] theorem readU8_cons (byte : UInt8) : readU8 (byte :: rest) = some (byte, rest) := rfl

@[simp] theorem readU16_bytes16 (value : UInt16) :
    readU16 (bytes16 value ++ rest) = some (value, rest) := by
  have hread : readU16 (bytes16 value ++ rest) =
    some (join16 (value >>> 8).toUInt8 value.toUInt8, rest) := rfl
  rw [hread, join16_split]

@[simp] theorem readU32_bytes32 (value : UInt32) :
    readU32 (bytes32 value ++ rest) = some (value, rest) := by
  have hread : readU32 (bytes32 value ++ rest) =
      (readU16 (bytes16 (value >>> 16).toUInt16 ++ (bytes16 value.toUInt16 ++ rest))).bind fun high =>
        (readU16 high.2).bind fun low => some (join32 high.1 low.1, low.2) := rfl
  rw [hread, readU16_bytes16, Option.bind_some, readU16_bytes16, Option.bind_some, join32_split]

@[simp] theorem readU64_bytes64 (value : UInt64) :
    readU64 (bytes64 value ++ rest) = some (value, rest) := by
  have hread : readU64 (bytes64 value ++ rest) =
      (readU32 (bytes32 (value >>> 32).toUInt32 ++ (bytes32 value.toUInt32 ++ rest))).bind fun high =>
        (readU32 high.2).bind fun low => some (join64 high.1 low.1, low.2) := rfl
  rw [hread, readU32_bytes32, Option.bind_some, readU32_bytes32, Option.bind_some, join64_split]

theorem readFields_serialize (message : ClockSyncMessage) :
    readFields message.type (bytes32 message.requestId ++ (bytes32 0 ++
      (bytes64 message.clientSendTimestampNanoseconds ++
        (bytes64 message.hostReceiveTimestampNanoseconds ++
          (bytes64 message.hostSendTimestampNanoseconds ++ rest))))) = some (message, rest) := by
  unfold readFields
  simp only [StateT.bind, bind, readU32_bytes32, readU64_bytes64, Option.bind_some]
  rfl

theorem readSized_serialize (message : ClockSyncMessage) :
    readSized message.type (bytes16 (UInt16.ofNat messageSize) ++ (bytes32 message.requestId ++
      (bytes32 0 ++ (bytes64 message.clientSendTimestampNanoseconds ++
        (bytes64 message.hostReceiveTimestampNanoseconds ++
          (bytes64 message.hostSendTimestampNanoseconds ++ rest)))))) =
      some (.ok message, rest) := by
  have hsize : (UInt16.ofNat messageSize).toNat = messageSize := rfl
  unfold readSized
  simp only [StateT.bind, bind, readU16_bytes16, Option.bind_some, hsize, ne_eq, not_true_eq_false,
    if_false, readFields_serialize]
  rfl

theorem typeOfCode_typeCode (type : ClockSyncMessageType) : typeOfCode (typeCode type) = some type := by
  cases type with
  | request => rfl
  | response => rfl

end RoundTrip

/-- `deserialize` inverts `serialize`. -/
theorem deserialize_serialize (message : ClockSyncMessage) :
    deserialize (serialize message) = some (.ok message) := by
  have hheader : ¬ ((serialize message).length ≠ messageSize ∨
      (serialize message).take magic.length ≠ magic) := by
    intro h
    rcases h with h | h
    · exact h rfl
    · exact h rfl
  have hdrop : (serialize message).drop magic.length = protocolVersion :: typeCode message.type ::
      (bytes16 (UInt16.ofNat messageSize) ++ (bytes32 message.requestId ++ (bytes32 0 ++
        (bytes64 message.clientSendTimestampNanoseconds ++
          (bytes64 message.hostReceiveTimestampNanoseconds ++
            (bytes64 message.hostSendTimestampNanoseconds ++ [])))))) := rfl
  unfold deserialize
  rw [if_neg hheader, hdrop]
  unfold readMessage
  simp only [StateT.bind, bind, readU8_cons, Option.bind_some, ne_eq, not_true_eq_false, if_false]
  rw [typeOfCode_typeCode]
  exact congrArg (Option.map Prod.fst) (readSized_serialize [] message)

end SyncAudio.ClockSyncSerializer
