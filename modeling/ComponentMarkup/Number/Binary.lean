/-!
# Double-precision numbers as exact fractions

A finite double is a sign, a natural mantissa and a power of two. What this library does with
the digits of a double it does with these exact numbers.

## Main definitions

* `Binary` — the exact value `± mantissa * 2 ^ exponent`
* `Binary.ofFloat` — the parts of a finite double
* `floatRemainder` — what is left of a truncating division, with the sign of the dividend
-/

namespace ComponentMarkup

/-- The number `mantissa * 2 ^ exponent`, negated if `negative`. -/
structure Binary where
  negative : Bool
  mantissa : Nat
  exponent : Int

namespace Binary

/-- The parts of a finite double. -/
def ofFloat (x : Float) : Binary :=
  let bits : Nat := x.toBits.toNat
  let fraction : Nat := bits % Nat.pow 2 52
  let field : Nat := bits / Nat.pow 2 52 % Nat.pow 2 11
  { negative := bits / Nat.pow 2 63 == 1
    mantissa := if field == 0 then fraction else fraction + Nat.pow 2 52
    exponent := (if field == 0 then (1 : Int) else field) - 1075 }

/-- Whether the mantissa is the least one of its power of two, so that the doubles below stand
twice as dense as those above. -/
def isLowest (b : Binary) : Bool := b.mantissa == Nat.pow 2 52 && b.exponent > -1074

/-- The mantissa moved to a lower exponent. -/
def mantissaAt (b : Binary) (exponent : Int) : Nat :=
  b.mantissa * Nat.pow 2 (b.exponent - exponent).toNat

end Binary

/-- The double nearest to a natural number. -/
def floatOfNat (n : Nat) : Float := Float.ofScientific n false 0

/-- The double nearest to an integer. -/
def floatOfInt (i : Int) : Float :=
  if i < 0 then -(floatOfNat i.natAbs) else floatOfNat i.natAbs

/-- The number without its fraction. -/
def truncateFloat (x : Float) : Float := if x < 0 then x.ceil else x.floor

/-- Whether a number is neither infinite nor NaN. -/
def isFiniteFloat (x : Float) : Bool := !x.isNaN && !x.isInf

/-- What a division with a truncated quotient leaves, with the sign of the dividend. -/
def floatRemainder (x y : Float) : Float :=
  if x.isNaN || y.isNaN || x.isInf || y == 0 then 0.0 / 0.0
  else if y.isInf || x == 0 then x
  else
    let a := Binary.ofFloat x
    let b := Binary.ofFloat y
    let low := min a.exponent b.exponent
    let rest := a.mantissaAt low % b.mantissaAt low
    let size := (floatOfNat rest).scaleB low
    if a.negative then -size else size

end ComponentMarkup
