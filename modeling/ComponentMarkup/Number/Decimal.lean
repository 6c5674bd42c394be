import ComponentMarkup.Number.Binary

/-!
# Decimal digits of double-precision numbers

The shortest decimal number that reads back as a given double, and the decimal number with a
fixed count of places nearest to it.

## Main definitions

* `Decimal` — the number `digits * 10 ^ exponent`
* `Decimal.shortest` — the fewest digits that read back, of those the nearest to the double
* `Decimal.positional` — the digits around a point, without an exponent
* `fixedPlaces` — a count of places, halves going to the even neighbour
-/

namespace ComponentMarkup

/-- Which of two equally near neighbours is chosen. -/
inductive Tie
  | up
  | even
  deriving DecidableEq

/-- The decimal number `digits * 10 ^ exponent`. -/
structure Decimal where
  digits : Nat
  exponent : Int

/-- A positive fraction, and the interval around it of the reals that round to it. -/
structure RoundingInterval where
  numerator : Nat
  low : Nat
  high : Nat
  denominator : Nat
  closed : Bool

namespace RoundingInterval

/-- The interval of a positive floating-point number: half way to both neighbours, the ends included
when the mantissa is even. The neighbour below the lowest number of a power of two is nearer. -/
def around (b : Binary) (isLowest : Bool) : RoundingInterval :=
  let scale := Nat.pow 2 b.exponent.toNat
  { numerator := 4 * b.mantissa * scale
    low := (if isLowest then 4 * b.mantissa - 1 else 4 * b.mantissa - 2) * scale
    high := (4 * b.mantissa + 2) * scale
    denominator := 4 * Nat.pow 2 (-b.exponent).toNat
    closed := b.mantissa % 2 == 0 }

/-- The interval of a positive double. -/
def ofBinary (b : Binary) : RoundingInterval := around b b.isLowest

/-- Whether `digits * 10 ^ exponent` rounds to the number. -/
def holds (i : RoundingInterval) (digits : Nat) (exponent : Int) : Bool :=
  let value := digits * Nat.pow 10 exponent.toNat * i.denominator
  let scale := Nat.pow 10 (-exponent).toNat
  if i.closed then i.low * scale ≤ value && value ≤ i.high * scale
  else i.low * scale < value && value < i.high * scale

/-- The quotient of the fraction by `10 ^ exponent`, with the remainder and the divisor. -/
def scaled (i : RoundingInterval) (exponent : Int) : Nat × Nat × Nat :=
  let value := i.numerator * Nat.pow 10 (-exponent).toNat
  let unit := i.denominator * Nat.pow 10 exponent.toNat
  (value / unit, value % unit, unit)

/-- Of the two neighbours of the fraction on the grid of `10 ^ exponent`, the one that reads
back; of two, the nearer, and the one that `tie` names when both are equally near. -/
def neighbour? (i : RoundingInterval) (tie : Tie) (exponent : Int) : Option Decimal :=
  let (below, rest, unit) := i.scaled exponent
  let fits (n : Nat) : Bool := i.holds n exponent
  let above : Bool :=
    unit < 2 * rest || (2 * rest == unit && (tie == .up || below % 2 == 1))
  match fits below, fits (below + 1) with
  | true, true => some ⟨if above then below + 1 else below, exponent⟩
  | true, false => some ⟨below, exponent⟩
  | false, true => some ⟨below + 1, exponent⟩
  | false, false => none

/-- The exponent of the leading digit of the fraction. -/
def leadingExponent (i : RoundingInterval) : Int :=
  let guess := Int.fdiv (((i.numerator.log2 : Int) - i.denominator.log2) * 30103) 100000
  let reaches (e : Int) : Bool :=
    i.denominator * Nat.pow 10 e.toNat ≤ i.numerator * Nat.pow 10 (-e).toNat
  if reaches (guess + 1) then guess + 1 else if reaches guess then guess else guess - 1

/-- The first grid with a neighbour that reads back, from one digit on; `count` more digits are
tried after the first `given`. -/
def shortestFrom (i : RoundingInterval) (tie : Tie) (lead : Int) : Nat → Nat → Decimal
  | given, 0 => ⟨(i.scaled (lead - given)).1, lead - given⟩
  | given, count + 1 =>
    match i.neighbour? tie (lead - given) with
    | some d => d
    | none => shortestFrom i tie lead (given + 1) count

end RoundingInterval

namespace Decimal

/-- Without zeros at the end of the digits; `count` bounds how many there can be. -/
def withoutTrailingZeros (d : Decimal) : Nat → Decimal
  | 0 => d
  | count + 1 =>
    if d.digits != 0 && d.digits % 10 == 0 then
      withoutTrailingZeros ⟨d.digits / 10, d.exponent + 1⟩ count
    else d

/-- The fewest digits that read back as the size of a finite, non-zero double, and of those the
nearest to it. Seventeen digits always suffice. -/
def shortest (tie : Tie) (x : Float) : Decimal :=
  let i := RoundingInterval.ofBinary (Binary.ofFloat x)
  (i.shortestFrom tie i.leadingExponent 0 17).withoutTrailingZeros 20

/-- The decimal digits of a natural number. -/
def digitChars (n : Nat) : List Char := Nat.toDigits 10 n

/-- The digits around a point, with no exponent and no point when there is no fraction. -/
def positional (d : Decimal) : List Char :=
  let ds := digitChars d.digits
  if 0 ≤ d.exponent then ds ++ List.replicate d.exponent.toNat '0'
  else
    let places := (-d.exponent).toNat
    if places < ds.length then ds.take (ds.length - places) ++ '.' :: ds.drop (ds.length - places)
    else '0' :: '.' :: List.replicate (places - ds.length) '0' ++ ds

end Decimal

/-- The quotient rounded to the nearest natural number, halves to the even neighbour. -/
def roundHalfEven (numerator denominator : Nat) : Nat :=
  let q := numerator / denominator
  let r := numerator % denominator
  if 2 * r < denominator then q
  else if denominator < 2 * r then q + 1
  else if q % 2 == 0 then q else q + 1

/-- The size of a finite double with `places` decimal places, halves of the exact value going
to the even neighbour. -/
def fixedPlaces (x : Float) (places : Nat) : List Char :=
  let b := Binary.ofFloat x
  let size := b.mantissa * Nat.pow 2 b.exponent.toNat * Nat.pow 10 places
  let n := roundHalfEven size (Nat.pow 2 (-b.exponent).toNat)
  let ds := Decimal.digitChars n
  let padded := List.replicate (places + 1 - ds.length) '0' ++ ds
  if places == 0 then padded
  else padded.take (padded.length - places) ++ '.' :: padded.drop (padded.length - places)

end ComponentMarkup
