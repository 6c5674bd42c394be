import ComponentMarkup.Number.Text

/-!
# Numbers as data

Numbers in data are integers or doubles, and stay what they were written as. Numbers that
this library computes become integers whenever that is exact.

## Main definitions

* `Number` — an integer or a double
* `Number.ofFloat?` — the integer if the double is one below `2 ^ 53`, else the double; nothing
  for NaN and the infinities
* `Number.same` — equality; an integer never equals a double
* `showNumber` — the text of a number in markup
-/

namespace ComponentMarkup

/-- A number: an integer or a double. -/
inductive Number
  | integer (value : Int)
  | float (value : Float)

/-- The integer that a double is, if its size is below `2 ^ 53`. -/
def integerOfFloat? (x : Float) : Option Int :=
  if isFiniteFloat x && x.floor == x && x.abs < 9007199254740992 then
    let b := Binary.ofFloat x
    let size := b.mantissa * Nat.pow 2 b.exponent.toNat / Nat.pow 2 (-b.exponent).toNat
    some (if b.negative then -(size : Int) else size)
  else none

namespace Number

/-- The number as a double, rounded to the nearest one. -/
def toFloat : Number → Float
  | integer i => floatOfInt i
  | float x => x

/-- A computed number: an integer when that is exact and below `2 ^ 53` in size, nothing when
it is NaN or infinite. -/
def ofFloat? (x : Float) : Option Number :=
  match integerOfFloat? x with
  | some i => some (integer i)
  | none => if isFiniteFloat x then some (float x) else none

/-- Equality of numbers; an integer and a double are never the same. -/
def same : Number → Number → Bool
  | integer a, integer b => a == b
  | float x, float y => x == y
  | _, _ => false

end Number

/-- The text of a number in markup: integers below `2 ^ 53` without a point and without the
sign of zero, other numbers with their shortest digits. -/
def showNumber (x : Float) : String :=
  if x.isNaN then "NaN"
  else if x.isInf then (if x > 0 then "Infinity" else "-Infinity")
  else match integerOfFloat? x with
    | some i => toString i
    | none => showFloat x

end ComponentMarkup
