import SyncAudio.Ios.HostWelcome
import SyncAudio.Lib.Lines

/-!
# The receive loop of the phone

TCP hands out the bytes of the host in pieces of any size. The loop keeps what follows
the last line, takes off and handles the lines one after the other, and gives the
connection up on a line that asks for it. Which lines are handled does not depend on the
pieces.

## Implementation notes

The channel has joined a host, so there is an endpoint to return to. The decoder of UTF-8
is a parameter, as is the parser of addresses; a symbol of a decoded line stands for a
`Character` of Swift. `handled` and `overflowed` record which
lines `handle` got and whether the guard on the length fired.
-/

namespace SyncAudio.HostControlChannel

open Text

/-- The part of the channel that `receive`, `handle` and `scheduleRetry` work on. -/
structure Control (Address : Type) where
  session : Session Address := {}
  input : List UInt8 := []
  generation : Nat := 0
  retryTimer : Bool := false
  handled : List Text := []
  overflowed : Bool := false

/-- The line feed. -/
def lineFeed : UInt8 := 10

variable {Address : Type} (ipv4Address : Text → Option Address)
  (utf8 : List UInt8 → Option Text)

namespace Control

/-- What a scheduled retry does to the channel. -/
def giveUp (control : Control Address) (session : Session Address) : Control Address :=
  { control with session, input := [], generation := control.generation + 1, retryTimer := true }

def scheduleRetry (control : Control Address) : Control Address :=
  if control.retryTimer then control else control.giveUp control.session.retry

/-- `handle`, which schedules a retry for some lines. -/
def handle (control : Control Address) (line : Text) : Control Address :=
  let session := control.session.handle ipv4Address line
  let control := { control with handled := control.handled ++ [line] }
  if session.lost && !control.retryTimer then control.giveUp session
  else { control with session }

/-- `if let line = String(data: lineData, encoding: .utf8)`. -/
def handleData (control : Control Address) (lineData : List UInt8) : Control Address :=
  match utf8 lineData with
  | none => control
  | some line => control.handle ipv4Address line

theorem length_handleData (control : Control Address) (lineData : List UInt8) :
    (control.handleData ipv4Address utf8 lineData).input.length ≤ control.input.length := by
  unfold handleData handle
  cases utf8 lineData with
  | none => exact Nat.le_refl _
  | some line =>
      dsimp only
      split_ifs
      · exact Nat.zero_le _
      · exact Nat.le_refl _

theorem scan_decreases (control : Control Address) {line rest : List UInt8}
    (h : Lines.first lineFeed control.input = some (line, rest)) :
    (({ control with input := rest } : Control Address).handleData ipv4Address utf8
      line).input.length < control.input.length :=
  Nat.lt_of_le_of_lt (length_handleData _ _ _ _) (Lines.length_first_lt h)

/-- The loop over the complete lines. -/
def scan (control : Control Address) : Control Address :=
  match _h : Lines.first lineFeed control.input with
  | none => control
  | some (line, rest) =>
      scan (({ control with input := rest } : Control Address).handleData ipv4Address utf8 line)
termination_by control.input.length
decreasing_by exact scan_decreases _ _ _ _h

/-- The completion handler of `receive`. -/
def receive (control : Control Address) (generation : Nat) (data : List UInt8)
    (isComplete : Bool) : Control Address :=
  if control.generation ≠ generation then control
  else
    let control := { control with input := control.input ++ data }
    if control.input.length > 1024 then
      ({ control with overflowed := true } : Control Address).scheduleRetry
    else
      let control := control.scan ipv4Address utf8
      if isComplete then control.scheduleRetry else control

/-- A new connection that receives some pieces. -/
def deliver (generation : Nat) (chunks : List (List UInt8)) : Control Address :=
  chunks.foldl (fun control data => control.receive ipv4Address utf8 generation data false)
    { generation }

end Control

/-- The lines up to and with the first one on which `handle` schedules a retry. -/
def upToRetry : Session Address → List Text → List Text
  | _, [] => []
  | session, line :: lines =>
      line :: if (session.handle ipv4Address line).lost then []
        else upToRetry (session.handle ipv4Address line) lines

/-- The lines of a stream that have a text. -/
def streamLines (stream : List UInt8) : List Text :=
  (Lines.cut lineFeed [] stream).1.filterMap utf8

/-- No line of the stream is longer than 512 bytes, nor what follows the last one. -/
def ShortLines (stream : List UInt8) : Prop :=
  ∀ line ∈ (Lines.cut lineFeed [] stream).1 ++ [(Lines.cut lineFeed [] stream).2],
    line.length ≤ 512

instance (stream : List UInt8) : Decidable (ShortLines stream) :=
  inferInstanceAs (Decidable (∀ _ ∈ _, _))

section Segmentation

variable {control : Control Address} {session : Session Address} {lines others : List Text}

/-- The session after some lines. -/
def sessionAfter (session : Session Address) (lines : List Text) : Session Address :=
  lines.foldl (fun session line => session.handle ipv4Address line) session

theorem upToRetry_append (h : session.lost = false) (lines others : List Text) :
    upToRetry ipv4Address session (lines ++ others) =
      upToRetry ipv4Address session lines ++
        if (sessionAfter ipv4Address session (upToRetry ipv4Address session lines)).lost then []
        else upToRetry ipv4Address
          (sessionAfter ipv4Address session (upToRetry ipv4Address session lines)) others := by
  induction lines generalizing session with
  | nil =>
      have hopen : ¬ (sessionAfter ipv4Address session []).lost = true :=
        fun hlost => Bool.false_ne_true (h.symm.trans hlost)
      rw [List.nil_append, upToRetry, if_neg hopen, List.nil_append]
      rfl
  | cons line lines ih =>
      rw [List.cons_append, upToRetry, upToRetry]
      by_cases hlost : (session.handle ipv4Address line).lost = true
      · rw [if_pos hlost, if_pos hlost, sessionAfter, List.foldl_cons, List.foldl_nil,
          if_pos hlost]
        rfl
      · rw [if_neg hlost, if_neg hlost, ih (Bool.eq_false_iff.mpr hlost)]
        rfl

theorem scan_none (h : Lines.first lineFeed control.input = none) :
    control.scan ipv4Address utf8 = control := by
  rw [Control.scan]
  split
  · rfl
  · rename_i hsome
    rw [h] at hsome
    cases hsome

theorem scan_some {line rest : List UInt8}
    (h : Lines.first lineFeed control.input = some (line, rest)) :
    control.scan ipv4Address utf8 =
      (({ control with input := rest } : Control Address).handleData ipv4Address utf8 line).scan
        ipv4Address utf8 := by
  rw [Control.scan]
  split
  · rename_i hnone
    rw [h] at hnone
    cases hnone
  · rename_i found behind hsome
    rw [h] at hsome
    cases hsome
    rfl

/-- The channel after lines were handled, where `rest` follows the last of them. -/
def Control.behind (control : Control Address) (lines : List Text) (rest : List UInt8) :
    Control Address :=
  let session := sessionAfter ipv4Address control.session lines
  let control := { control with handled := control.handled ++ lines }
  if session.lost then control.giveUp session else { control with session, input := rest }

theorem behind_nil (hopen : control.session.lost = false) :
    control.behind ipv4Address [] control.input = control := by
  have hsession : ¬ (sessionAfter ipv4Address control.session []).lost = true :=
    fun hlost => Bool.false_ne_true (hopen.symm.trans hlost)
  unfold Control.behind
  rw [List.append_nil]
  dsimp only
  rw [if_neg hsession]
  rfl

/-- The loop handles the lines of the input, up to a retry. -/
theorem scan_eq (htimer : control.retryTimer = false) (hopen : control.session.lost = false) :
    control.scan ipv4Address utf8 =
      control.behind ipv4Address
        (upToRetry ipv4Address control.session (streamLines utf8 control.input))
        (Lines.cut lineFeed [] control.input).2 := by
  induction hlength : control.input.length using Nat.strong_induction_on generalizing control with
  | _ n ih =>
      cases hfirst : Lines.first lineFeed control.input with
      | none =>
          have hcut := Lines.cut_word (Lines.first_eq_none hfirst) []
          rw [scan_none ipv4Address utf8 hfirst, streamLines, hcut]
          exact (behind_nil ipv4Address hopen).symm
      | some found =>
          obtain ⟨line, rest⟩ := found
          have hshorter : rest.length < n := hlength ▸ Lines.length_first_lt hfirst
          rw [scan_some ipv4Address utf8 hfirst, streamLines, Lines.cut_first hfirst]
          unfold Control.handleData
          cases htext : utf8 line with
          | none =>
              rw [List.filterMap_cons_none htext]
              exact @ih _ hshorter { control with input := rest } htimer hopen rfl
          | some text =>
              rw [List.filterMap_cons_some htext, upToRetry]
              unfold Control.handle
              dsimp only
              by_cases hlost : (control.session.handle ipv4Address text).lost = true
              · rw [if_pos hlost, hlost, htimer, Bool.not_false, Bool.and_true, if_pos rfl]
                rw [scan_none ipv4Address utf8 rfl]
                unfold Control.behind sessionAfter
                rw [List.foldl_cons, List.foldl_nil, if_pos hlost]
                rfl
              · have hstays := Bool.eq_false_iff.mpr hlost
                have hrest := @ih _ hshorter { control with
                  input := rest
                  session := control.session.handle ipv4Address text
                  handled := control.handled ++ [text] } htimer hstays rfl
                rw [if_neg hlost, hstays, Bool.false_and, if_neg Bool.false_ne_true]
                rw [hrest]
                unfold Control.behind streamLines
                dsimp only
                rw [List.append_assoc]
                rfl

/-- The lines of a longer stream. -/
theorem cut_longer (stream data : List UInt8) :
    streamLines utf8 (stream ++ data) = streamLines utf8 stream ++
        streamLines utf8 ((Lines.cut lineFeed [] stream).2 ++ data) ∧
      (Lines.cut lineFeed [] (stream ++ data)).2 =
        (Lines.cut lineFeed [] ((Lines.cut lineFeed [] stream).2 ++ data)).2 := by
  have hrest := @Lines.cut_rest _ _ lineFeed [] (fun _ h => absurd h List.not_mem_nil) stream
  unfold streamLines
  rw [Lines.cut_append, Lines.cut_append, Lines.cut_word hrest, List.nil_append, List.nil_append,
    List.filterMap_append]
  exact ⟨rfl, rfl⟩

/-- What is kept of the beginning of a stream is part of one of its lines. -/
theorem ShortLines.rest_le {stream more : List UInt8} (h : ShortLines (stream ++ more)) :
    (Lines.cut lineFeed [] stream).2.length ≤ 512 := by
  obtain ⟨line, hmem, hle⟩ :=
    @Lines.exists_le_length _ _ lineFeed (Lines.cut lineFeed [] stream).2 more
  apply hle.trans
  apply h
  rw [Lines.cut_append]
  rw [List.append_assoc]
  exact List.mem_append_right _ hmem

theorem behind_of_lost {lines : List Text}
    (h : (sessionAfter ipv4Address control.session lines).lost = true) (rest : List UInt8) :
    control.behind ipv4Address lines rest =
      ({ control with handled := control.handled ++ lines } : Control Address).giveUp
        (sessionAfter ipv4Address control.session lines) :=
  if_pos h

theorem behind_of_open {lines : List Text}
    (h : (sessionAfter ipv4Address control.session lines).lost = false) (rest : List UInt8) :
    control.behind ipv4Address lines rest = { control with
      session := sessionAfter ipv4Address control.session lines
      input := rest
      handled := control.handled ++ lines } :=
  if_neg fun hlost => Bool.false_ne_true (h.symm.trans hlost)

/-- Lines that did not end the connection, and more of them. -/
theorem behind_more (lines others : List Text) (input rest : List UInt8) :
    ({ control with
      session := sessionAfter ipv4Address control.session lines
      input := input
      handled := control.handled ++ lines } : Control Address).behind ipv4Address others rest =
      control.behind ipv4Address (lines ++ others) rest := by
  have hsession : sessionAfter ipv4Address control.session (lines ++ others) =
      sessionAfter ipv4Address (sessionAfter ipv4Address control.session lines) others :=
    List.foldl_append
  unfold Control.behind
  rw [hsession]
  dsimp only
  rw [List.append_assoc]
  rfl

/-- However a stream with short lines is cut, a connection handles its lines up to a retry. -/
theorem deliver_eq (generation : Nat) {chunks : List (List UInt8)}
    (hchunks : ∀ chunk ∈ chunks, chunk.length ≤ 512) (more : List UInt8)
    (hlines : ShortLines (chunks.flatten ++ more)) :
    Control.deliver ipv4Address utf8 generation chunks =
      ({ generation } : Control Address).behind ipv4Address
        (upToRetry ipv4Address {} (streamLines utf8 chunks.flatten))
        (Lines.cut lineFeed [] chunks.flatten).2 := by
  induction chunks using List.reverseRecOn generalizing more with
  | nil => exact (@behind_nil _ ipv4Address { generation } rfl).symm
  | append_singleton chunks data ih =>
      rw [List.flatten_append, List.flatten_singleton] at hlines ⊢
      rw [List.append_assoc] at hlines
      have hdata : data.length ≤ 512 := hchunks data (List.mem_append_right _ (by simp))
      have hbefore := ih (fun chunk hmem => hchunks chunk (List.mem_append_left _ hmem))
        (data ++ more) hlines
      have hrest := hlines.rest_le
      obtain ⟨hstream, hcut⟩ := cut_longer utf8 chunks.flatten data
      have hdeliver : Control.deliver ipv4Address utf8 generation (chunks ++ [data]) =
          (Control.deliver ipv4Address utf8 generation chunks).receive ipv4Address utf8 generation
            data false := by
        rw [Control.deliver, List.foldl_append]
        rfl
      rw [hdeliver, hbefore, hstream, hcut,
        @upToRetry_append _ ipv4Address {} rfl (streamLines utf8 chunks.flatten) _]
      generalize hhandled : upToRetry ipv4Address {} (streamLines utf8 chunks.flatten) = handled
      generalize (Lines.cut lineFeed [] chunks.flatten).2 = rest at hrest
      by_cases hlost : (sessionAfter ipv4Address {} handled).lost = true
      · -- The handler belongs to a connection that was given up.
        rw [if_pos hlost, List.append_nil, @behind_of_lost _ ipv4Address { generation } _ hlost,
          @behind_of_lost _ ipv4Address { generation } _ hlost]
        exact if_pos (Nat.succ_ne_self generation)
      · have hopen := Bool.eq_false_iff.mpr hlost
        have hfits : ¬ (rest ++ data).length > 1024 := by
          rw [List.length_append]
          omega
        rw [if_neg hlost, @behind_of_open _ ipv4Address { generation } _ hopen]
        unfold Control.receive
        dsimp only
        rw [if_neg (not_not.mpr rfl), if_neg hfits, if_neg Bool.false_ne_true,
          scan_eq ipv4Address utf8 rfl hopen]
        exact @behind_more _ ipv4Address { generation } handled _ _ _

/-- For every stream whose lines have at most 512 bytes and every two ways to cut it into pieces
of at most 512 bytes, the same lines are handled, which are those up to the first one that
schedules a retry, and the guard on the length does not fire. -/
theorem segmentation_irrelevant (generation : Nat) (stream : List UInt8)
    (hlines : ShortLines stream) (chunks others : List (List UInt8))
    (hchunks : ∀ chunk ∈ chunks, chunk.length ≤ 512) (hothers : ∀ chunk ∈ others, chunk.length ≤ 512)
    (hstream : chunks.flatten = stream) (hstream' : others.flatten = stream) :
    (Control.deliver ipv4Address utf8 generation chunks).handled =
        upToRetry ipv4Address {} (streamLines utf8 stream) ∧
      (Control.deliver ipv4Address utf8 generation chunks).overflowed = false ∧
      Control.deliver ipv4Address utf8 generation others =
        Control.deliver ipv4Address utf8 generation chunks := by
  have hshort : ShortLines (chunks.flatten ++ []) := by
    rw [List.append_nil, hstream]
    exact hlines
  have hshort' : ShortLines (others.flatten ++ []) := by
    rw [List.append_nil, hstream']
    exact hlines
  have hdeliver := deliver_eq ipv4Address utf8 generation hchunks [] hshort
  have hdeliver' := deliver_eq ipv4Address utf8 generation hothers [] hshort'
  rw [hstream] at hdeliver
  rw [hstream'] at hdeliver'
  rw [hdeliver, hdeliver']
  refine ⟨?_, ?_, rfl⟩
  · cases hlost : (sessionAfter ipv4Address {}
        (upToRetry ipv4Address {} (streamLines utf8 stream))).lost with
    | true =>
        rw [@behind_of_lost _ ipv4Address { generation } _ hlost]
        rfl
    | false =>
        rw [@behind_of_open _ ipv4Address { generation } _ hlost]
        rfl
  · cases hlost : (sessionAfter ipv4Address {}
        (upToRetry ipv4Address {} (streamLines utf8 stream))).lost with
    | true => rw [@behind_of_lost _ ipv4Address { generation } _ hlost, Control.giveUp]
    | false => rw [@behind_of_open _ ipv4Address { generation } _ hlost]

/-- `ERROR` and `VERSION 2` on two lines. -/
def rejection : List UInt8 :=
  [69, 82, 82, 79, 82, 32, 120, 10, 86, 69, 82, 83, 73, 79, 78, 32, 50, 10]

/-- A text of ASCII characters. -/
def ascii (bytes : List UInt8) : Option Text :=
  if bytes.all (· < 128) then some (bytes.map fun byte => Char.ofNat byte.toNat) else none

def noAddress : Text → Option Nat := fun _ => none

theorem segmentation_irrelevant_rejection :
    (Control.deliver noAddress ascii 3 [rejection]).handled =
      (Control.deliver noAddress ascii 3
        [rejection.take 3, rejection.drop 3]).handled := by
  have hsame := segmentation_irrelevant noAddress ascii 3 rejection (by decide)
    [rejection] [rejection.take 3, rejection.drop 3] (by decide) (by decide) rfl rfl
  exact congrArg Control.handled hsame.2.2.symm

end Segmentation

end SyncAudio.HostControlChannel
