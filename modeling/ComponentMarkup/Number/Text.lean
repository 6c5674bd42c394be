import ComponentMarkup.Number.Decimal
import ComponentMarkup.Text.CharSet

/-!
# Texts of numbers

How numbers are written and read outside of any format: never with an exponent, and read with
an optional sign, point and exponent.

## Main definitions

* `showFloat` — the shortest digits that read back, positional, keeping the sign of zero
* `showFixed` — a fixed count of places
* `readFloat?` — a decimal number, an infinity or NaN
* `readIndex?` — a natural number below `2 ^ 64`
-/

namespace ComponentMarkup

/-- Whether the sign bit is set. -/
def hasSign (x : Float) : Bool := (Binary.ofFloat x).negative

/-- The shortest digits that read back, without an exponent; an integral number has no point. -/
def showFloat (x : Float) : String :=
  if x.isNaN then "NaN"
  else
    let size :=
      if x.isInf then "inf".toList
      else if x == 0 then ['0']
      else (Decimal.shortest .up x).positional
    String.ofList (if hasSign x then '-' :: size else size)

/-- The number with a fixed count of places. -/
def showFixed (x : Float) (places : Nat) : String :=
  if x.isNaN then "NaN"
  else
    let size := if x.isInf then "inf".toList else fixedPlaces x places
    String.ofList (if hasSign x then '-' :: size else size)

/-- A leading sign, whether it is a minus, and the rest. -/
def readSign : List Char → Bool × List Char
  | '-' :: cs => (true, cs)
  | '+' :: cs => (false, cs)
  | cs => (false, cs)

/-- Whether the character is a decimal digit. -/
def isDigit (c : Char) : Bool := '0' ≤ c && c ≤ '9'

/-- The exponent after the mantissa: nothing, or `e` with a signed number. -/
def readExponent? : List Char → Option Int
  | [] => some 0
  | c :: cs =>
    if c == 'e' || c == 'E' then
      let (negative, ds) := readSign cs
      if ds.isEmpty || !ds.all isDigit then none
      else some (if negative then -(readDecimal ds : Int) else readDecimal ds)
    else none

/-- The double nearest to `digits * 10 ^ exponent`. Exponents far outside the range of doubles
are cut off, which changes no result. -/
def floatOfDecimal (digits : Nat) (exponent : Int) : Float :=
  let length := (Nat.toDigits 10 digits).length
  if digits == 0 || exponent + length < -400 then 0
  else if 400 < exponent + length then 1.0 / 0.0
  else if 0 ≤ exponent then Float.ofScientific (digits * Nat.pow 10 exponent.toNat) false 0
  else Float.ofScientific digits true (-exponent).toNat

/-- An unsigned decimal number: digits with an optional point among, before or after them, then
an optional exponent. -/
def readMantissa? (cs : List Char) : Option Float :=
  let whole := cs.takeWhile isDigit
  let (fraction, rest) :=
    match cs.dropWhile isDigit with
    | '.' :: more => (more.takeWhile isDigit, more.dropWhile isDigit)
    | more => ([], more)
  if whole.isEmpty && fraction.isEmpty then none
  else (readExponent? rest).map fun e =>
    floatOfDecimal (readDecimal (whole ++ fraction)) (e - fraction.length)

/-- A decimal number with an optional sign, or in any case `inf`, `infinity` or `nan`. -/
def readFloat? (text : String) : Option Float :=
  let (negative, cs) := readSign text.toList
  let size :=
    match String.ofList (cs.map Char.toLower) with
    | "inf" | "infinity" => some (1.0 / 0.0)
    | "nan" => some (0.0 / 0.0)
    | _ => readMantissa? cs
  size.map fun x => if negative then -x else x

/-- A natural number below `2 ^ 64` in decimal digits, with an optional plus sign. -/
def readIndex? (text : String) : Option Nat :=
  let ds := match text.toList with
    | '+' :: ds => ds
    | ds => ds
  if ds.isEmpty || !ds.all isDigit then none
  else
    let n := readDecimal ds
    if n < Nat.pow 2 64 then some n else none

end ComponentMarkup
