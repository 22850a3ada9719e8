import SyncAudio.Lib.Binary64
import SyncAudio.Lib.Text

/-!
# Binary64 numbers as text

Reading a number as a C++ input stream does, and printing it with six decimals as
`std::to_string` does.

## Implementation notes

`readFloat` is the standard scan: it takes the longest text of the form sign,
digits, point, digits, exponent and fails if that text is not a number or is
out of range.
-/

namespace SyncAudio.FloatText

open Text Binary64

/-- An optional sign and what follows it. -/
def readSign : Text → Bool × Text
  | '-' :: rest => (true, rest)
  | '+' :: rest => (false, rest)
  | rest => (false, rest)

/-- The digits behind a decimal point, if there is one. -/
def readFraction : Text → Text × Text
  | '.' :: rest => (rest.takeWhile Char.isDigit, rest.dropWhile Char.isDigit)
  | rest => ([], rest)

/-- A decimal exponent. An exponent mark without digits is not a number. -/
def readExponent : Text → Option (Int × Text)
  | c :: rest =>
      if c = 'e' ∨ c = 'E' then
        let (negative, rest) := readSign rest
        let digits := rest.takeWhile Char.isDigit
        if digits = [] then none
        else
          some (if negative then -(value digits : Int) else value digits,
            rest.dropWhile Char.isDigit)
      else some (0, c :: rest)
  | [] => some (0, [])

/-- The number at the front of a text, and what is left. -/
def scanFloat (text : Text) : Option (Binary64 × Text) :=
  let (negative, text) := readSign text
  let whole := text.takeWhile Char.isDigit
  let (fraction, text) := readFraction (text.dropWhile Char.isDigit)
  if whole ++ fraction = [] then none
  else do
    let (exponent, text) ← readExponent text
    let x := round negative (value (whole ++ fraction) * 10 ^ (exponent - fraction.length))
    if x.isFinite then some (x, text) else none

/-- `input >> x` for a floating-point `x`. -/
def readFloat (text : Text) : Option (Binary64 × Text) := scanFloat (skipSpace text)

/-- A magnitude with six decimals. -/
def fixedSix (magnitude : ℚ) : Text :=
  let scaled := (roundEven (magnitude * 10 ^ 6)).toNat
  ofNat (scaled / 10 ^ 6) ++ '.' :: (ofNat (10 ^ 6 + scaled % 10 ^ 6)).tail

/-- `std::to_string`. -/
def toStringFixed : Binary64 → Text
  | .finite x => if x.negative then '-' :: fixedSix x.magnitude else fixedSix x.magnitude
  | .infinite negative => if negative then "-inf".toList else "inf".toList
  | .nan => "nan".toList

end SyncAudio.FloatText
