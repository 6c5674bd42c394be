import ComponentMarkup.Number.Decimal
import ComponentMarkup.Text.CharSet

/-!
# Numbers in style sheets

Numbers in style sheets are single-precision floating-point numbers and are written with at most six
significant digits.

## Main definitions

* `Style.Numeral` — a number as it was written: its value, its integer and its sign
* `Style.numberText` — the shortest text of a value
* `Style.plainNumber` — the text of a value with its leading zero
-/

namespace ComponentMarkup.Style

/-- A number as it was written. -/
structure Numeral where
  value : Float32
  /-- The number as an integer, if it was written without point and exponent. -/
  integer : Option Int
  /-- A sign was written. -/
  hasSign : Bool

namespace Numeral

/-- The value of the digits after a point. -/
def fractionOf (digits : List Char) : Float :=
  (digits.foldl (fun ((sum, unit) : Float × Float) c =>
    (sum + unit * Float.ofNat (readDecimal [c]), unit * 0.1)) (0.0, 0.1)).1

/-- The value of the digits before a point. -/
def wholeOf (digits : List Char) : Float :=
  digits.foldl (fun sum c => sum * 10.0 + Float.ofNat (readDecimal [c])) 0.0

/-- A number of 32 bits as near as possible to an integer. -/
def clampInt (i : Int) : Int := max (-2147483648) (min 2147483647 i)

/-- A number from its sign, the digits before and after the point, and the exponent if there is
one. -/
def ofDigits (hasSign negative : Bool) (whole fraction : List Char) (exponent : Option Int) :
    Numeral :=
  let size := wholeOf whole + fractionOf fraction
  let scaled := match exponent with
    | some e => size * Float.pow 10.0 (Float.ofInt e)
    | none => size
  let signed := if negative then -scaled else scaled
  { value := signed.toFloat32
    integer :=
      if fraction.isEmpty && exponent.isNone then
        let n : Int := readDecimal whole
        some (clampInt (if negative then -n else n))
      else none
    hasSign := hasSign }

end Numeral

/-! ### Texts -/

/-- The exact size of a finite single-precision number. -/
def binaryOf (x : Float32) : Binary :=
  let bits : Nat := x.toBits.toNat
  let fraction : Nat := bits % Nat.pow 2 23
  let field : Nat := bits / Nat.pow 2 23 % Nat.pow 2 8
  { negative := bits / Nat.pow 2 31 == 1
    mantissa := if field == 0 then fraction else fraction + Nat.pow 2 23
    exponent := (if field == 0 then (1 : Int) else field) - 150 }

/-- The fewest digits that read back as the size of a finite, non-zero single-precision number. -/
def shortestDigits (x : Float32) : Decimal :=
  let b := binaryOf x
  let isLowest := b.mantissa == Nat.pow 2 23 && b.exponent > -149
  let i := RoundingInterval.around b isLowest
  (i.shortestFrom .up i.leadingExponent 0 9).withoutTrailingZeros 12

/-- A number with at most `count` digits, the last one rounded. -/
def Decimal.rounded (d : Decimal) (count : Nat) : Decimal :=
  let excess := (Decimal.digitChars d.digits).length - count
  if excess == 0 then d
  else
    let unit := Nat.pow 10 excess
    (⟨(d.digits + unit / 2) / unit, d.exponent + excess⟩ : Decimal).withoutTrailingZeros (count + 1)

/-- The digits of a size: with an exponent when it is below a millionth or has more than 21 digits
before the point. -/
def sizeText (d : Decimal) : String :=
  let ds := Decimal.digitChars d.digits
  let point : Int := ds.length + d.exponent
  if -6 < point && point ≤ 21 then String.ofList d.positional
  else
    let mantissa := match ds with
      | [c] => [c]
      | c :: more => c :: '.' :: more
      | [] => []
    String.ofList mantissa ++ "e" ++ toString (point - 1)

/-- The text of a number, with a zero before the point if it is below one. -/
def plainNumber (x : Float32) : String :=
  if x.isNaN then "NaN"
  else
    let size := if x == 0 then "0" else if x.isInf then "inf"
      else sizeText (Decimal.rounded (shortestDigits x) 6)
    if (binaryOf x).negative then "-" ++ size else size

/-- The shortest text of a number. -/
def numberText (x : Float32) : String :=
  let text := plainNumber x
  if x != 0 && x.abs < 1 then
    if x < 0 then "-" ++ String.ofList ((text.toList.drop 1).dropWhile (· == '0'))
    else String.ofList (text.toList.dropWhile (· == '0'))
  else text

/-- The text of a number as it was written: with its sign, and with a point if it had one. -/
def Numeral.text (n : Numeral) : String :=
  let text := plainNumber n.value
  let sign := if n.hasSign && !(binaryOf n.value).negative then "+" else ""
  let point :=
    if n.integer.isNone && n.value.floor == n.value && !text.toList.contains '.' &&
      !text.toList.contains 'e' then ".0" else ""
  sign ++ text ++ point

end ComponentMarkup.Style
