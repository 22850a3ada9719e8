import SyncAudio.Lib.Numeral

/-!
# The device list of the desktop window

`RefreshDevicesAsync` asks the host for its members and makes a row of each line that
names one. It reads 32 lines at most.

## Implementation notes

The whole answer has been received; the timeout and the socket are left out. A number is
read as `double.TryParse` reads it in the invariant culture, whose group separator is a
comma.
-/

namespace SyncAudio

open Text FloatText

structure DeviceRow where
  name : Text
  state : Text
  quality : Text
  output : Text
  deriving DecidableEq

namespace MainWindow

/-- `ReadLineAsync`: a line ends at a line feed, a carriage return or both. -/
def readLine (text : Text) : Option (Text × Text) :=
  if text = [] then none
  else
    let ends := text.dropWhile fun c => c ≠ '\n' && c ≠ '\r'
    some (text.takeWhile fun c => c ≠ '\n' && c ≠ '\r',
      match ends with
      | '\r' :: '\n' :: rest => rest
      | _ :: rest => rest
      | [] => [])

/-- The text without the white space on both sides. -/
def trim (text : Text) : Text := (skipSpace (skipSpace text).reverse).reverse

/-- A number with a sign, commas between the digits in front of the point, and an exponent. -/
def parseNumber (text : Text) : Option Binary64 :=
  let (negative, text) := readSign text
  let integral := text.takeWhile fun c => c.isDigit || c = ','
  let whole := integral.filter Char.isDigit
  let (fraction, text) := readFraction (text.dropWhile fun c => c.isDigit || c = ',')
  if integral.head? = some ',' ∨ whole ++ fraction = [] then none
  else
    match readExponent text with
    | some (exponent, []) =>
        some (Binary64.round negative (value (whole ++ fraction) * 10 ^ (exponent - fraction.length)))
    | _ => none

/-- The names of the values that are no numbers, in any case. -/
def parseName (text : Text) : Option Binary64 :=
  let (negative, name) := readSign text
  if name.map Char.toLower = "infinity".toList then some (.infinite negative)
  else if name.map Char.toLower = "nan".toList then some .nan
  else none

/-- `double.TryParse`. -/
def tryParse (text : Text) : Option Binary64 :=
  (parseNumber (trim text)).or (parseName (trim text))

/-- How a connection is shown. -/
def quality (state : Text) (loss : Binary64) : Text :=
  if state = "RECONNECTING".toList then "Reconnecting".toList
  else if Binary64.lt (Binary64.ofInt 5) loss then "Unstable".toList
  else if Binary64.lt (Binary64.ofInt 1) loss then "Good".toList
  else "Excellent".toList

/-- `Replace('_', ' ')` -/
def spaceOut (route : Text) : Text := route.map fun c => if c = '_' then ' ' else c

/-- The row for a line, unless it is skipped. -/
def deviceRow (line : Text) : Option DeviceRow :=
  match splitFields line with
  | keyword :: name :: state :: _ :: loss :: _ :: _ :: output :: _ =>
      if keyword = "MEMBER".toList then
        some {
          name, state
          quality := quality state ((tryParse loss).getD (Binary64.ofInt 100))
          output := spaceOut output }
      else none
  | _ => none

/-- The loop over the lines, with the number of lines it may still read. -/
def readRows : Nat → Text → List DeviceRow
  | 0, _ => []
  | count + 1, text =>
      match readLine text with
      | none => []
      | some (line, rest) =>
          if line = "END".toList then [] else (deviceRow line).toList ++ readRows count rest

def refreshDevices (received : Text) : List DeviceRow := readRows 32 received

section Lines

variable {line : Text} {words lines : List Text} {count : Nat}

/-- A line without ends is read up to its line feed. -/
theorem readLine_line (hline : ∀ c ∈ line, c ≠ '\n' ∧ c ≠ '\r') (rest : Text) :
    readLine (line ++ '\n' :: rest) = some (line, rest) := by
  have hrun := @takeWhile_run line ('\n' :: rest) (fun c => c ≠ '\n' && c ≠ '\r')
    (fun c hc => by simp [hline c hc]) (by rintro c ⟨⟩; rfl)
  have hne : line ++ '\n' :: rest ≠ [] := List.append_ne_nil_of_right_ne_nil _ (List.cons_ne_nil _ _)
  unfold readLine
  rw [if_neg hne]
  dsimp only
  rw [hrun.1, hrun.2]
  rfl

/-- Lines in front of the last one become rows as long as they are not too many. -/
theorem readRows_lines (hlines : ∀ line ∈ lines, ∀ c ∈ line, c ≠ '\n' ∧ c ≠ '\r')
    (hend : ∀ line ∈ lines, line ≠ "END".toList) (hcount : lines.length ≤ count) :
    readRows count ((lines.flatMap fun line => line ++ ['\n']) ++ "END\n".toList) =
      lines.flatMap fun line => (deviceRow line).toList := by
  induction lines generalizing count with
  | nil =>
      cases count with
      | zero => rfl
      | succ count =>
          have hlast : readLine "END\n".toList = some ("END".toList, []) := rfl
          rw [List.flatMap_nil, List.nil_append, readRows, hlast]
          exact if_pos rfl
  | cons line lines ih =>
      cases count with
      | zero => exact absurd hcount (Nat.not_succ_le_zero _)
      | succ count =>
          have hrest := ih (fun other hother => hlines other (List.mem_cons_of_mem _ hother))
            (fun other hother => hend other (List.mem_cons_of_mem _ hother))
            (Nat.le_of_succ_le_succ hcount)
          rw [List.flatMap_cons, List.append_assoc, List.append_assoc, List.singleton_append,
            readRows, readLine_line (hlines line List.mem_cons_self)]
          dsimp only
          rw [if_neg (hend line List.mem_cons_self), hrest, List.flatMap_cons]

end Lines

section Numbers

variable {n : Numeral} {word : Text}

/-- A word has no white space to lose. -/
theorem trim_word (h : IsWord word) : trim word = word := by
  have hreverse : IsWord word.reverse := by
    constructor
    · exact mt List.reverse_eq_nil_iff.mp h.ne_nil
    · intro c hc
      exact h.noSpace c (List.mem_reverse.mp hc)
  have hfront := h.skipSpace_append []
  have hback := hreverse.skipSpace_append []
  rw [List.append_nil] at hfront hback
  unfold trim
  rw [hfront, hback, List.reverse_reverse]

/-- A numeral without an exponent is read as it stands. -/
theorem parseNumber_text (hexponent : n.exponent = none) :
    parseNumber n.text = some n.nearest := by
  have hdigit (c : Char) (hc : c ∈ n.whole) : (c.isDigit || decide (c = ',')) = true := by
    rw [n.whole_isDigit c hc, Bool.true_or]
  have hpoint : ∀ c ∈ (Numeral.fractionText n.fraction).head?,
      (c.isDigit || decide (c = ',')) = false := by
    cases n.fraction with
    | none => exact fun c hc => absurd hc (Option.not_mem_none c)
    | some digits =>
        rintro c ⟨⟩
        rfl
  have hcomma : n.whole.head? ≠ some ',' := by
    intro hhead
    cases n.whole_isDigit ',' (List.mem_of_head? hhead)
  have hdigits : n.whole.filter Char.isDigit = n.whole :=
    List.filter_eq_self.mpr n.whole_isDigit
  have htext : n.text = n.sign.text ++ (n.whole ++ (Numeral.fractionText n.fraction ++ [])) := by
    unfold Numeral.text
    rw [hexponent]
    rfl
  have hrun := takeWhile_run hdigit hpoint
  have hnone : ∀ c ∈ ([] : Text).head?, c.isDigit = false := fun c hc =>
    absurd hc (Option.not_mem_none c)
  have hfraction := Numeral.readFraction_text n.fraction_isDigit hnone
    fun _ c hc => absurd hc (Option.not_mem_none c)
  rw [List.append_nil] at hfraction
  unfold parseNumber
  rw [htext, Numeral.readSign_text n.sign (n.digits_head _), List.append_nil]
  dsimp only
  rw [hrun.1, hrun.2, hfraction, hdigits]
  dsimp only
  rw [if_neg (not_or.mpr ⟨hcomma, n.digits_ne⟩)]
  unfold Numeral.nearest Numeral.magnitude
  rw [hexponent]
  rfl

theorem tryParse_text (hword : IsWord n.text) (hexponent : n.exponent = none) :
    tryParse n.text = some n.nearest := by
  unfold tryParse
  rw [trim_word hword, parseNumber_text hexponent, Option.some_or]

end Numbers

end MainWindow

end SyncAudio
