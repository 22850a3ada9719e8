import SyncAudio.Desktop.ClockSyncTransport
import SyncAudio.Ios.ClockSync

/-!
# Clock messages on the phone

The phone writes its own requests and reads the answers of the host with its own
code. Both agree with the serializer of the host, byte by byte, and the estimates
that the phone and the desktop client draw from one exchange differ by rounding only.

## Implementation notes

Doubles are rational numbers and the steps on them exact. A function that may trap,
on an index out of range or on a difference below zero, returns an optional value,
none for a trap.
-/

namespace SyncAudio

namespace ClockSyncWire

open BigEndian

def messageSize : Nat := 40

/-- The four bytes `SCLK`. -/
def magic : List UInt8 := [0x53, 0x43, 0x4c, 0x4b]

def put32 (value : UInt32) (bytes : List UInt8) (offset : Nat) : List UInt8 :=
  (List.range 4).foldl (fun bytes i =>
    bytes.set (offset + i) (value >>> UInt32.ofNat (24 - i * 8)).toUInt8) bytes

def put64 (value : UInt64) (bytes : List UInt8) (offset : Nat) : List UInt8 :=
  (List.range 8).foldl (fun bytes i =>
    bytes.set (offset + i) (value >>> UInt64.ofNat (56 - i * 8)).toUInt8) bytes

def read32 (bytes : List UInt8) (offset : Nat) : Option UInt32 :=
  (List.range 4).foldlM (fun value i =>
    bytes[offset + i]?.map fun byte => (value <<< 8) ||| byte.toUInt32) 0

def read64 (bytes : List UInt8) (offset : Nat) : Option UInt64 :=
  (List.range 8).foldlM (fun value i =>
    bytes[offset + i]?.map fun byte => (value <<< 8) ||| byte.toUInt64) 0

def request (id : UInt32) (sentAt : UInt64) : List UInt8 :=
  let bytes := List.replicate messageSize (0 : UInt8)
  let bytes := magic ++ bytes.drop 4
  let bytes := bytes.set 4 1
  let bytes := bytes.set 5 1
  let bytes := bytes.set 7 (UInt8.ofNat messageSize)
  let bytes := put32 id bytes 8
  put64 sentAt bytes 16

/-- The part of `response` behind the checks of the header. -/
def sample (hostReceive hostSend sentAt receivedAt : UInt64) : Option (Option ClockEstimate) :=
  if hostSend < hostReceive then some none
  else do
    let elapsed ← ClockSampleFilter.checkedSub receivedAt sentAt
    let held ← ClockSampleFilter.checkedSub hostSend hostReceive
    let roundTrip : ℚ := elapsed.toNat - held.toNat
    if 0 ≤ roundTrip ∧ roundTrip < 1000000000 then
      some (some {
        offsetNanoseconds := (((hostReceive.toNat : ℚ) - sentAt.toNat) +
          ((hostSend.toNat : ℚ) - receivedAt.toNat)) / 2
        roundTripNanoseconds := roundTrip
        measuredAtNanoseconds := receivedAt
        sampleCount := 1 })
    else some none

def response (data : List UInt8) (id : UInt32) (sentAt receivedAt : UInt64) :
    Option (Option ClockEstimate) :=
  if data.length ≠ messageSize ∨ data.take 4 ≠ magic then some none
  else do
    let version ← data[4]?
    let type ← data[5]?
    let sizeHigh ← data[6]?
    let sizeLow ← data[7]?
    let responseID ← read32 data 8
    let echoed ← read64 data 16
    if version ≠ 1 ∨ type ≠ 2 ∨ sizeHigh ≠ 0 ∨ sizeLow ≠ UInt8.ofNat messageSize ∨
        responseID ≠ id ∨ echoed ≠ sentAt ∨ receivedAt < sentAt then some none
    else do
      let hostReceive ← read64 data 24
      let hostSend ← read64 data 32
      sample hostReceive hostSend sentAt receivedAt

/-- The request of the phone is the one that the host's serializer writes. -/
theorem request_eq_serialize (id : UInt32) (sentAt : UInt64) :
    request id sentAt = ClockSyncSerializer.serialize
      { requestId := id, clientSendTimestampNanoseconds := sentAt } := by
  have hreserved : bytes32 0 = [0, 0, 0, 0] := by decide
  have hunset : bytes64 0 = [0, 0, 0, 0, 0, 0, 0, 0] := by decide
  unfold ClockSyncSerializer.serialize
  rw [bytes32_eq_map id, bytes64_eq_map sentAt, hreserved, hunset]
  rfl

section Reading

variable (message : ClockSyncMessage)

theorem read_requestId :
    read32 (ClockSyncSerializer.serialize message) 8 = some message.requestId := by
  have hread : read32 (ClockSyncSerializer.serialize message) 8 =
    some (gather32 (bytes32 message.requestId)) := rfl
  rw [hread, gather32_bytes32]

theorem read_clientSend : read64 (ClockSyncSerializer.serialize message) 16 =
    some message.clientSendTimestampNanoseconds := by
  have hread : read64 (ClockSyncSerializer.serialize message) 16 =
    some (gather64 (bytes64 message.clientSendTimestampNanoseconds)) := rfl
  rw [hread, gather64_bytes64]

theorem read_hostReceive : read64 (ClockSyncSerializer.serialize message) 24 =
    some message.hostReceiveTimestampNanoseconds := by
  have hread : read64 (ClockSyncSerializer.serialize message) 24 =
    some (gather64 (bytes64 message.hostReceiveTimestampNanoseconds)) := rfl
  rw [hread, gather64_bytes64]

theorem read_hostSend : read64 (ClockSyncSerializer.serialize message) 32 =
    some message.hostSendTimestampNanoseconds := by
  have hread : read64 (ClockSyncSerializer.serialize message) 32 =
    some (gather64 (bytes64 message.hostSendTimestampNanoseconds)) := rfl
  rw [hread, gather64_bytes64]

theorem header_serialize :
    (ClockSyncSerializer.serialize message).length = messageSize ∧
      (ClockSyncSerializer.serialize message).take 4 = magic ∧
      (ClockSyncSerializer.serialize message)[4]? = some 1 ∧
      (ClockSyncSerializer.serialize message)[5]? =
        some (ClockSyncSerializer.typeCode message.type) ∧
      (ClockSyncSerializer.serialize message)[6]? = some 0 ∧
      (ClockSyncSerializer.serialize message)[7]? = some (UInt8.ofNat messageSize) :=
  ⟨rfl, rfl, rfl, rfl, rfl, rfl⟩

theorem typeCode_eq_two {type : ClockSyncMessageType} :
    ClockSyncSerializer.typeCode type = 2 ↔ type = .response := by
  cases type with
  | request => exact iff_of_false (by decide) nofun
  | response => exact iff_of_true rfl rfl

/-- What the phone does with a message of the host's serializer. -/
theorem response_serialize (id : UInt32) (sentAt receivedAt : UInt64) :
    response (ClockSyncSerializer.serialize message) id sentAt receivedAt =
      if message.type ≠ .response ∨ message.requestId ≠ id ∨
          message.clientSendTimestampNanoseconds ≠ sentAt ∨ receivedAt < sentAt then some none
      else sample message.hostReceiveTimestampNanoseconds message.hostSendTimestampNanoseconds
        sentAt receivedAt := by
  obtain ⟨hlength, hmagic, hversion, htype, hhigh, hlow⟩ := header_serialize message
  unfold response
  rw [if_neg (by simp [hlength, hmagic]), hversion, htype, hhigh, hlow, read_requestId,
    read_clientSend, read_hostReceive, read_hostSend]
  simp only [Option.bind_eq_bind, Option.bind_some, ne_eq, not_true_eq_false, false_or,
    typeCode_eq_two]

end Reading

/-- The answer of the server to a request of the phone. -/
def hostAnswer (id : UInt32) (t1 t2 t3 : UInt64) : ClockSyncMessage where
  type := .response
  requestId := id
  clientSendTimestampNanoseconds := t1
  hostReceiveTimestampNanoseconds := t2
  hostSendTimestampNanoseconds := t3

section Traps

/-- A fold succeeds if each of its steps does. -/
theorem isSome_foldlM {α β : Type} {f : β → α → Option β} {items : List α}
    (hstep : ∀ item ∈ items, ∀ value, (f value item).isSome) (value : β) :
    (items.foldlM f value).isSome := by
  induction items generalizing value with
  | nil => rfl
  | cons item rest ih =>
      obtain ⟨next, hnext⟩ := Option.isSome_iff_exists.mp (hstep item List.mem_cons_self value)
      rw [List.foldlM_cons, hnext]
      exact ih (fun item hitem => hstep item (List.mem_cons_of_mem _ hitem)) next

variable {data : List UInt8} {offset : Nat}

theorem read32_isSome (h : offset + 4 ≤ data.length) : (read32 data offset).isSome := by
  apply isSome_foldlM
  intro i hi value
  have hlt : i < 4 := List.mem_range.mp hi
  rw [Option.isSome_map, List.getElem?_eq_getElem (by omega)]
  rfl

theorem read64_isSome (h : offset + 8 ≤ data.length) : (read64 data offset).isSome := by
  apply isSome_foldlM
  intro i hi value
  have hlt : i < 8 := List.mem_range.mp hi
  rw [Option.isSome_map, List.getElem?_eq_getElem (by omega)]
  rfl

/-- Behind its checks the sample is taken without a trap. -/
theorem sample_eq {hostReceive hostSend sentAt receivedAt : UInt64} (hsent : sentAt ≤ receivedAt)
    (hhost : hostReceive ≤ hostSend) :
    sample hostReceive hostSend sentAt receivedAt =
      let e := ClockSyncMath.exchange sentAt hostReceive hostSend receivedAt
      some (if 0 ≤ e.roundTrip ∧ e.roundTrip < 1000000000 then
        some {
          offsetNanoseconds := e.offset
          roundTripNanoseconds := e.roundTrip
          measuredAtNanoseconds := receivedAt
          sampleCount := 1 }
      else none) := by
  have helapsed : ((receivedAt - sentAt).toNat : ℚ) = receivedAt.toNat - sentAt.toNat := by
    rw [UInt64.toNat_sub_of_le _ _ hsent, Nat.cast_sub (UInt64.le_iff_toNat_le.mp hsent)]
  have hheld : ((hostSend - hostReceive).toNat : ℚ) = hostSend.toNat - hostReceive.toNat := by
    rw [UInt64.toNat_sub_of_le _ _ hhost, Nat.cast_sub (UInt64.le_iff_toNat_le.mp hhost)]
  unfold sample ClockSampleFilter.checkedSub
  rw [if_neg (UInt64.not_lt.mpr hhost), if_pos hsent, if_pos hhost]
  simp only [Option.bind_eq_bind, Option.bind_some, helapsed, hheld]
  rw [← apply_ite some]
  rfl

theorem sample_isSome {hostReceive hostSend sentAt receivedAt : UInt64}
    (hsent : sentAt ≤ receivedAt) : (sample hostReceive hostSend sentAt receivedAt).isSome := by
  by_cases hhost : hostSend < hostReceive
  · unfold sample
    rw [if_pos hhost]
    rfl
  · rw [sample_eq hsent (UInt64.not_lt.mp hhost)]
    rfl

variable (data) (id : UInt32) (sentAt receivedAt : UInt64)

/-- A datagram that is not left aside has the number and the time of the request. -/
theorem response_cases :
    response data id sentAt receivedAt = some none ∨
      read32 data 8 = some id ∧ read64 data 16 = some sentAt ∧ sentAt ≤ receivedAt ∧
        ∃ hostReceive hostSend, response data id sentAt receivedAt =
          sample hostReceive hostSend sentAt receivedAt := by
  by_cases hheader : data.length ≠ messageSize ∨ data.take 4 ≠ magic
  · exact .inl (if_pos hheader)
  · have hlength : data.length = 40 := not_not.mp (not_or.mp hheader).1
    obtain ⟨responseID, hid⟩ := Option.isSome_iff_exists.mp (@read32_isSome data 8 (by omega))
    obtain ⟨echoed, hechoed⟩ := Option.isSome_iff_exists.mp (@read64_isSome data 16 (by omega))
    obtain ⟨hostReceive, hreceive⟩ := Option.isSome_iff_exists.mp
      (@read64_isSome data 24 (by omega))
    obtain ⟨hostSend, hsend⟩ := Option.isSome_iff_exists.mp (@read64_isSome data 32 (by omega))
    unfold response
    rw [if_neg hheader, List.getElem?_eq_getElem (by omega), List.getElem?_eq_getElem (by omega),
      List.getElem?_eq_getElem (by omega), List.getElem?_eq_getElem (by omega), hid, hechoed,
      hreceive, hsend]
    simp only [Option.bind_eq_bind, Option.bind_some]
    split_ifs with hchecks
    · exact .inl rfl
    · simp only [not_or, ne_eq, not_not, UInt64.not_lt] at hchecks
      obtain ⟨-, -, -, -, rfl, rfl, hle⟩ := hchecks
      exact .inr ⟨rfl, rfl, hle, hostReceive, hostSend, rfl⟩

/-- Whatever the datagram holds, no index and no difference leaves its range. -/
theorem response_isSome : (response data id sentAt receivedAt).isSome := by
  obtain hnone | ⟨-, -, hle, hostReceive, hostSend, hsample⟩ :=
    response_cases data id sentAt receivedAt
  · rw [hnone]
    rfl
  · rw [hsample]
    exact sample_isSome hle

end Traps

/-- The sample of the phone and the estimate of the desktop client. -/
theorem sample_agrees {t1 t2 t3 t4 : UInt64}
    (hvalid : ¬ ClockSyncMath.InvalidTimestamps t1 t2 t3 t4) :
    ∃ answer, sample t2 t3 t1 t4 = some answer ∧
      (answer.isSome ↔ 0 ≤ ClockSyncMath.roundTripNanoseconds t1 t2 t3 t4 ∧
        ClockSyncMath.roundTripNanoseconds t1 t2 t3 t4 < 1000000000) ∧
      ∀ estimate ∈ answer, ∃ desktop, ClockSyncMath.estimate t1 t2 t3 t4 = .ok desktop ∧
        estimate.roundTripNanoseconds = desktop.roundTripTime ∧
        |estimate.offsetNanoseconds - desktop.hostMinusClientOffset| ≤ 1 / 2 := by
  obtain ⟨-, -, -, -, hclient, hhost⟩ := ClockSyncMath.not_invalidTimestamps.mp hvalid
  have hroundTrip := ClockSyncMath.roundTrip_eq t1 t2 t3 t4
  have hbounds : 0 ≤ (ClockSyncMath.exchange t1 t2 t3 t4).roundTrip ∧
      (ClockSyncMath.exchange t1 t2 t3 t4).roundTrip < 1000000000 ↔
      0 ≤ ClockSyncMath.roundTripNanoseconds t1 t2 t3 t4 ∧
        ClockSyncMath.roundTripNanoseconds t1 t2 t3 t4 < 1000000000 := by
    rw [hroundTrip]
    norm_cast
  refine ⟨_, sample_eq hclient hhost, ?_⟩
  split_ifs with haccepted
  · constructor
    · exact iff_of_true rfl (hbounds.mp haccepted)
    · rintro estimate ⟨⟩
      obtain ⟨hinvalid, -⟩ | ⟨-, hnegative, -⟩ | ⟨-, -, hestimate⟩ :=
        ClockSyncMath.estimate_cases t1 t2 t3 t4
      · exact absurd hinvalid hvalid
      · exact absurd (hbounds.mp haccepted).1 (Int.not_le.mpr hnegative)
      · refine ⟨_, hestimate, hroundTrip, ?_⟩
        rw [abs_sub_comm]
        exact abs_lround_sub_le _
  · constructor
    · exact iff_of_false nofun (mt hbounds.mpr haccepted)
    · exact nofun

/-- The two ends of the clock exchange fit together. The serializer of the host reads
back what it has written, and the phone writes the same request. The answer of the
server is a sample of the phone just when the round trip is below a second; then the
desktop client has the same round trip and, up to rounding, the same offset. An answer
to another request is left aside, and no datagram makes the phone trap. -/
theorem sclk_interoperability :
    (∀ message, ClockSyncSerializer.deserialize (ClockSyncSerializer.serialize message) =
        some (.ok message)) ∧
      (∀ id sentAt, request id sentAt = ClockSyncSerializer.serialize
        { requestId := id, clientSendTimestampNanoseconds := sentAt }) ∧
      (∀ id t1 t2 t3 t4, t1 ≤ t4 → t2 ≤ t3 →
        t1.toNat ≤ ClockSyncMath.maximum → t2.toNat ≤ ClockSyncMath.maximum →
        t3.toNat ≤ ClockSyncMath.maximum → t4.toNat ≤ ClockSyncMath.maximum →
        ∃ bytes answer, ClockSyncServer.reply (request id t1) t2 t3 = some bytes ∧
          response bytes id t1 t4 = some answer ∧
          (answer.isSome ↔ 0 ≤ ClockSyncMath.roundTripNanoseconds t1 t2 t3 t4 ∧
            ClockSyncMath.roundTripNanoseconds t1 t2 t3 t4 < 1000000000) ∧
          ∀ estimate ∈ answer, ∃ desktop, ClockSyncMath.estimate t1 t2 t3 t4 = .ok desktop ∧
            estimate.roundTripNanoseconds = desktop.roundTripTime ∧
            |estimate.offsetNanoseconds - desktop.hostMinusClientOffset| ≤ 1 / 2) ∧
      (∀ data id sentAt receivedAt, read32 data 8 ≠ some id ∨ read64 data 16 ≠ some sentAt →
        response data id sentAt receivedAt = some none) ∧
      (∀ message id sentAt receivedAt, message.requestId ≠ id ∨
        message.clientSendTimestampNanoseconds ≠ sentAt →
        response (ClockSyncSerializer.serialize message) id sentAt receivedAt = some none) ∧
      ∀ data id sentAt receivedAt, (response data id sentAt receivedAt).isSome := by
  refine ⟨ClockSyncSerializer.deserialize_serialize, request_eq_serialize, ?_, ?_, ?_,
    response_isSome⟩
  · intro id t1 t2 t3 t4 hclient hhost h1 h2 h3 h4
    have hreply : ClockSyncServer.reply (request id t1) t2 t3 =
        some (ClockSyncSerializer.serialize (hostAnswer id t1 t2 t3)) := by
      unfold ClockSyncServer.reply
      rw [request_eq_serialize, ClockSyncSerializer.deserialize_serialize]
      rfl
    have hresponse : response (ClockSyncSerializer.serialize (hostAnswer id t1 t2 t3)) id t1 t4 =
        sample t2 t3 t1 t4 := by
      rw [response_serialize, if_neg (by simp [hostAnswer, hclient])]
      rfl
    obtain ⟨answer, hsample, hagrees⟩ := sample_agrees
      (ClockSyncMath.not_invalidTimestamps.mpr ⟨h1, h2, h3, h4, hclient, hhost⟩)
    exact ⟨_, answer, hreply, hresponse.trans hsample, hagrees⟩
  · intro data id sentAt receivedAt hother
    obtain hnone | ⟨hid, hechoed, -⟩ := response_cases data id sentAt receivedAt
    · exact hnone
    · exact absurd hother (by simp [hid, hechoed])
  · intro message id sentAt receivedAt hother
    rw [response_serialize]
    apply if_pos
    tauto

/-- A request with 25 ms of offset and 5 ms of delay in each direction. -/
theorem sclk_interoperability_example :
    ∃ bytes answer,
      ClockSyncServer.reply (request 7 1000000000) 1025000000 1026000000 = some bytes ∧
        response bytes 7 1000000000 1011000000 = some answer ∧ answer.isSome := by
  obtain ⟨bytes, answer, hreply, hresponse, haccepted, -⟩ :=
    sclk_interoperability.2.2.1 7 1000000000 1025000000 1026000000 1011000000
      (by decide) (by decide) (by decide) (by decide) (by decide) (by decide)
  exact ⟨bytes, answer, hreply, hresponse, haccepted.mpr (by decide)⟩

end ClockSyncWire

end SyncAudio
