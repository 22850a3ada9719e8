import SyncAudio.Core.ClockSyncSerializer
import SyncAudio.Lib.OrderStatistic

/-!
# The clock measurement of the desktop client

A request carries a number and the client's clock; the host adds its own two
readings and sends the message back. Once its loop has gathered samples,
`ClockSyncClient::measure` sorts them by round trip, sorts the first three by
offset and returns the middle one of these with the shortest round trip of all.

## Implementation notes

But for the bytes that the server sends, a datagram is the message it holds: both
parties use the same serializer.
-/

namespace SyncAudio

/-- The answer of the server's loop to one message, from its two clock readings. -/
def ClockSyncServer.answer (message : ClockSyncMessage) (t2 t3 : UInt64) :
    Option ClockSyncMessage :=
  if message.type = .request then
    some { message with
      type := .response
      hostReceiveTimestampNanoseconds := t2
      hostSendTimestampNanoseconds := t3 }
  else none

/-- The datagram that the server sends back for the bytes in its buffer, if any. What
cannot be read is ignored. -/
def ClockSyncServer.reply (buffer : List UInt8) (t2 t3 : UInt64) : Option (List UInt8) :=
  match ClockSyncSerializer.deserialize buffer with
  | some (.ok message) => (ClockSyncServer.answer message t2 t3).map ClockSyncSerializer.serialize
  | _ => none

namespace ClockSyncClient

/-- How an iteration of `measure` that has received a datagram ends. -/
inductive Outcome where
  | mismatch
  | invalid
  | sample (estimate : ClockSyncEstimate)

/-- The checks of `measure` on a received message, where `t4` is the time of its
reception. -/
def examine (request response : ClockSyncMessage) (t4 : UInt64) : Outcome :=
  if response.type ≠ .response ∨ response.requestId ≠ request.requestId ∨
      response.clientSendTimestampNanoseconds ≠ request.clientSendTimestampNanoseconds then
    .mismatch
  else
    match ClockSyncMath.estimate response.clientSendTimestampNanoseconds
      response.hostReceiveTimestampNanoseconds response.hostSendTimestampNanoseconds t4 with
    | .error _ => .invalid
    | .ok estimate => .sample estimate

/-- The response to the request itself is never taken for another one. -/
theorem examine_ne_mismatch {request response : ClockSyncMessage} (htype : response.type = .response)
    (hid : response.requestId = request.requestId)
    (hsend : response.clientSendTimestampNanoseconds = request.clientSendTimestampNanoseconds)
    (t4 : UInt64) : examine request response t4 ≠ .mismatch := by
  unfold examine
  rw [if_neg (by simp [htype, hid, hsend])]
  cases ClockSyncMath.estimate response.clientSendTimestampNanoseconds
      response.hostReceiveTimestampNanoseconds response.hostSendTimestampNanoseconds t4 with
  | error message => exact nofun
  | ok estimate => exact nofun

theorem examine_mismatch {request response : ClockSyncMessage}
    (h : response.requestId ≠ request.requestId) (t4 : UInt64) :
    examine request response t4 = .mismatch :=
  if_pos (.inr (.inl h))

/-- The samples after both calls of `std::sort`. -/
def sortedSamples (std : SortAlgorithm) (samples : List ClockSyncEstimate) :
    List ClockSyncEstimate :=
  let sorted := std.sort ClockSyncEstimate.roundTripTime samples
  let selectedCount := min 3 samples.length
  std.sort ClockSyncEstimate.hostMinusClientOffset (sorted.take selectedCount) ++
    sorted.drop selectedCount

theorem selectedCount_lt (std : SortAlgorithm) {samples : List ClockSyncEstimate}
    (h : samples ≠ []) : min 3 samples.length / 2 < (sortedSamples std samples).length := by
  have hpos := List.length_pos_iff.mpr h
  have hsorted := std.length_sort ClockSyncEstimate.roundTripTime samples
  rw [sortedSamples, List.length_append, std.length_sort, List.length_take, List.length_drop]
  omega

theorem sort_ne_nil (std : SortAlgorithm) {samples : List ClockSyncEstimate} (h : samples ≠ []) :
    std.sort ClockSyncEstimate.roundTripTime samples ≠ [] := by
  intro hnil
  have hlength := std.length_sort ClockSyncEstimate.roundTripTime samples
  rw [hnil] at hlength
  exact h (List.eq_nil_of_length_eq_zero hlength.symm)

/-- `measure` behind its loop. -/
def selectEstimate (std : SortAlgorithm) (samples : List ClockSyncEstimate) :
    Except String ClockSyncEstimate :=
  if h : samples = [] then
    .error "Clock sync timed out; ensure the host and control port are reachable"
  else
    let minimumRtt :=
      ((std.sort ClockSyncEstimate.roundTripTime samples).head (sort_ne_nil std h)).roundTripTime
    let middle := (sortedSamples std samples).get ⟨min 3 samples.length / 2, selectedCount_lt std h⟩
    .ok { middle with
      roundTripTime := minimumRtt
      samples := UInt32.ofNat samples.length }

/-- The selection is the median of the fastest samples. -/
theorem selectEstimate_spec (std : SortAlgorithm) {samples : List ClockSyncEstimate}
    (h : samples ≠ []) :
    ∃ result fast, selectEstimate std samples = .ok result ∧
      MedianOfLeast ClockSyncEstimate.roundTripTime ClockSyncEstimate.hostMinusClientOffset 3
        samples fast result.hostMinusClientOffset result.roundTripTime ∧
      result.samples = UInt32.ofNat samples.length := by
  have hresult : selectEstimate std samples = .ok _ := dif_neg h
  have hfirst := List.head?_eq_some_head (sort_ne_nil std h)
  refine ⟨_, (std.sort ClockSyncEstimate.roundTripTime samples).take 3, hresult, ?_, rfl⟩
  dsimp only
  apply medianOfLeast_of_sorted (std.perm _ samples) (std.sorted _ samples) ?_ ?_ ?_ hfirst
  · exact (std.sort ClockSyncEstimate.hostMinusClientOffset
      ((std.sort ClockSyncEstimate.roundTripTime samples).take 3)).map
        ClockSyncEstimate.hostMinusClientOffset
  · exact (std.perm _ _).map _
  · exact List.pairwise_map.mpr (std.sorted _ _)
  · have hpos := List.length_pos_iff.mpr h
    have hsorted := std.length_sort ClockSyncEstimate.roundTripTime samples
    have htake : (std.sort ClockSyncEstimate.roundTripTime samples).take (min 3 samples.length) =
        (std.sort ClockSyncEstimate.roundTripTime samples).take 3 := by
      rw [← hsorted, List.take_eq_take_iff]
      omega
    have hindex : min 3 samples.length / 2 < (std.sort ClockSyncEstimate.hostMinusClientOffset
        ((std.sort ClockSyncEstimate.roundTripTime samples).take 3)).length := by
      rw [std.length_sort, List.length_take]
      omega
    have hmiddle : (sortedSamples std samples)[min 3 samples.length / 2]? =
        (std.sort ClockSyncEstimate.hostMinusClientOffset
          ((std.sort ClockSyncEstimate.roundTripTime samples).take 3))[
            min 3 samples.length / 2]? := by
      unfold sortedSamples
      dsimp only
      rw [htake]
      exact List.getElem?_append_left hindex
    rw [List.getElem?_map, ← hmiddle, List.getElem?_eq_getElem (selectedCount_lt std h)]
    rfl

end ClockSyncClient

end SyncAudio
