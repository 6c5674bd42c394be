import ComponentMarkup.Text.Blank

/-!
# Sets of characters

Properties of characters are sets of code points. They are written as increasing ranges in
hexadecimal, separated by blanks, the way the Unicode data files list them: `41-5A 61-7A AA`.

## Main definitions

* `CharSet` — a finite union of ranges of code points
* `CharSet.ofRanges` — reads the written form
* `hexValue?`, `readHex`, `hexChars` — hexadecimal digits and numbers
-/

namespace ComponentMarkup

/-! ### Digits -/

/-- The value of a decimal digit. -/
def decimalValue? (c : Char) : Option Nat :=
  if '0' ≤ c ∧ c ≤ '9' then some (c.toNat - 48) else none

/-- The value of a hexadecimal digit in either case. -/
def hexValue? (c : Char) : Option Nat :=
  if '0' ≤ c ∧ c ≤ '9' then some (c.toNat - 48)
  else if 'a' ≤ c ∧ c ≤ 'f' then some (c.toNat - 87)
  else if 'A' ≤ c ∧ c ≤ 'F' then some (c.toNat - 55)
  else none

/-- A hexadecimal digit in either case. -/
def isHexDigit (c : Char) : Bool := (hexValue? c).isSome

/-- The number written by hexadecimal digits, the most significant first; other characters
count as zero. -/
def readHex (cs : List Char) : Nat :=
  cs.foldl (fun acc c => acc * 16 + (hexValue? c).getD 0) 0

/-- The number written by decimal digits, the most significant first; other characters count
as zero. -/
def readDecimal (cs : List Char) : Nat :=
  cs.foldl (fun acc c => acc * 10 + (decimalValue? c).getD 0) 0

/-- The lowercase hexadecimal digit of a number below sixteen. -/
def hexDigit (d : Nat) : Char :=
  if d < 10 then Char.ofNat (48 + d) else Char.ofNat (87 + d)

/-- The lowercase hexadecimal digits of a number, without leading zeros. -/
def hexChars (n : Nat) : List Char :=
  if h : n < 16 then [hexDigit n] else hexChars (n / 16) ++ [hexDigit (n % 16)]
termination_by n
decreasing_by omega

/-! ### Sets -/

/-- A set of characters: a finite union of ranges of code points, both ends included. -/
structure CharSet where
  ranges : Array (Nat × Nat)

namespace CharSet

/-- The range written as `41-5A`, or the single code point written as `AA`. -/
def readRange (text : String) : Nat × Nat :=
  match text.splitOn "-" with
  | [lo, hi] => (readHex lo.toList, readHex hi.toList)
  | _ => (readHex text.toList, readHex text.toList)

/-- The set whose ranges are listed in the text, separated by blanks. -/
def ofRanges (text : String) : CharSet :=
  ⟨((blankFree text).map readRange).toArray⟩

/-- Membership of a character. -/
def contains (s : CharSet) (c : Char) : Bool :=
  s.ranges.any fun r => r.1 ≤ c.toNat && c.toNat ≤ r.2

end CharSet

end ComponentMarkup
