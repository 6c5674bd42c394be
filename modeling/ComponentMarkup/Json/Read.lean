import ComponentMarkup.Value

/-!
# Reading JSON

The JSON grammar, with values read as data: the entries of an object in order, a repeated name
keeping its first place and its last value; a number with a point or an exponent, the number
`-0` and numbers beyond 64 bits as doubles, all others as integers. Values nest at most 127
deep.

## Main definitions

* `Json.read?` — the value that a text holds
* `Json.readNumber?`, `Json.readString?` — numbers and strings at the head of a text

A number is not always read as the nearest double: its digits, as far as they fit 64 bits, are
one double, and its power of ten is applied to it in one operation for every 308.
-/

namespace ComponentMarkup.Json

/-- Blanks between the tokens of JSON. -/
def isGap (c : Char) : Bool := c == ' ' || c == '\n' || c == '\t' || c == '\r'

/-- Drops the blanks at the head. -/
def skipGaps (cs : List Char) : List Char := cs.dropWhile isGap

/-! ### Numbers -/

/-- The largest significand that is kept. -/
def maxSignificand : Nat := Nat.pow 2 64 - 1

/-- Takes digits into the significand as long as it fits 64 bits; gives the significand, the
count of digits taken and what follows them. -/
def takeDigits (significand count : Nat) : List Char → Nat × Nat × List Char
  | [] => (significand, count, [])
  | c :: rest =>
    match decimalValue? c with
    | none => (significand, count, c :: rest)
    | some d =>
      if maxSignificand < significand * 10 + d then (significand, count, c :: rest)
      else takeDigits (significand * 10 + d) (count + 1) rest

/-- Applies a power of ten to a double, at most `10 ^ 308` at a time going down; nothing if the
result is too large. `steps` bounds the count of operations. -/
def applyExponent? (x : Float) (exponent : Int) : Nat → Option Float
  | 0 => some 0
  | steps + 1 =>
    if exponent.natAbs ≤ 308 then
      let power := Float.ofScientific 1 false exponent.natAbs
      if 0 ≤ exponent then
        let y := x * power
        if y.isInf then none else some y
      else some (x / power)
    else if x == 0 then some x
    else if 0 ≤ exponent then none
    else applyExponent? (x / 1e308) (exponent + 308) steps

/-- The double of a significand and a power of ten. -/
def floatOfParts? (negative : Bool) (significand : Nat) (exponent : Int) : Option Number :=
  (applyExponent? (floatOfNat significand) exponent (exponent.natAbs / 308 + 2)).map fun x =>
    .float (if negative then -x else x)

/-- The largest exponent that is read exactly. -/
def maxExponent : Nat := Nat.pow 2 31 - 1

/-- Reads what follows `e`: an optional sign and at least one digit. -/
def readPower? (negative : Bool) (significand : Nat) (exponent : Int) (cs : List Char) :
    Option (Number × List Char) :=
  let (down, cs) := readSign cs
  let digits := cs.takeWhile isDigit
  let rest := cs.dropWhile isDigit
  if digits.isEmpty then none
  else
    let power := readDecimal digits
    if maxExponent < power then
      if significand != 0 && !down then none
      else some (.float (if negative then -0.0 else 0.0), rest)
    else
      (floatOfParts? negative significand (if down then exponent - power else exponent + power)).map
        fun n => (n, rest)

/-- Reads an optional exponent. -/
def readOptionalPower? (negative : Bool) (significand : Nat) (exponent : Int) :
    List Char → Option (Number × List Char)
  | c :: cs =>
    if c == 'e' || c == 'E' then readPower? negative significand exponent cs
    else (floatOfParts? negative significand exponent).map fun n => (n, c :: cs)
  | [] => (floatOfParts? negative significand exponent).map fun n => (n, [])

/-- Reads what follows the point: at least one digit, then an optional exponent. Digits that no
longer fit the significand are skipped. -/
def readFraction? (negative : Bool) (significand : Nat) (exponent : Int) (cs : List Char) :
    Option (Number × List Char) :=
  match takeDigits significand 0 cs with
  | (significand', count, rest) =>
    let skipped := rest.dropWhile isDigit
    if count == 0 && skipped.length == rest.length then none
    else readOptionalPower? negative significand' (exponent - count) skipped

/-- An integer, or a double when it is `-0` or has more than 64 bits. -/
def integerOrFloat (negative : Bool) (significand : Nat) : Number :=
  if !negative then .integer significand
  else if significand == 0 || Nat.pow 2 63 < significand then .float (-(floatOfNat significand))
  else .integer (-significand)

/-- Reads a number after its sign. -/
def readUnsigned? (negative : Bool) (cs : List Char) : Option (Number × List Char) :=
  match cs with
  | [] => none
  | c :: more =>
    if !isDigit c then none
    else if c == '0' && (more.head?.map isDigit).getD false then none
    else
      match takeDigits 0 0 cs with
      | (significand, _, rest) =>
        let extra := rest.takeWhile isDigit
        let rest := rest.dropWhile isDigit
        match rest with
        | '.' :: fraction => readFraction? negative significand extra.length fraction
        | _ =>
          if (rest.head?.map fun c => c == 'e' || c == 'E').getD false || !extra.isEmpty then
            readOptionalPower? negative significand extra.length rest
          else some (integerOrFloat negative significand, rest)

/-- Reads a number at the head of a text. -/
def readNumber? : List Char → Option (Number × List Char)
  | '-' :: cs => readUnsigned? true cs
  | cs => readUnsigned? false cs

/-! ### Strings -/

/-- Four hexadecimal digits. -/
def readUnit? : List Char → Option (Nat × List Char)
  | a :: b :: c :: d :: rest => do
    let w ← hexValue? a
    let x ← hexValue? b
    let y ← hexValue? c
    let z ← hexValue? d
    some (((w * 16 + x) * 16 + y) * 16 + z, rest)
  | _ => none

/-- What follows `\u`: a character, or the two halves of one. -/
def readUnicode? (cs : List Char) : Option (Char × List Char) := do
  let (high, rest) ← readUnit? cs
  if 0xDC00 ≤ high && high ≤ 0xDFFF then none
  else if 0xD800 ≤ high && high ≤ 0xDBFF then
    match rest with
    | '\\' :: 'u' :: more => do
      let (low, rest) ← readUnit? more
      if 0xDC00 ≤ low && low ≤ 0xDFFF then
        some (Char.ofNat (0x10000 + (high - 0xD800) * 0x400 + (low - 0xDC00)), rest)
      else none
    | _ => none
  else some (Char.ofNat high, rest)

/-- What follows a backslash. -/
def readEscape? : List Char → Option (Char × List Char)
  | '"' :: r => some ('"', r)
  | '\\' :: r => some ('\\', r)
  | '/' :: r => some ('/', r)
  | 'b' :: r => some ('\x08', r)
  | 'f' :: r => some ('\x0c', r)
  | 'n' :: r => some ('\n', r)
  | 'r' :: r => some ('\r', r)
  | 't' :: r => some ('\t', r)
  | 'u' :: r => readUnicode? r
  | _ => none

/-- The characters up to the closing quote; `steps` bounds their count. -/
def readChars? (steps : Nat) (cs : List Char) : Option (List Char × List Char) :=
  match steps, cs with
  | 0, _ => none
  | _, [] => none
  | _, '"' :: rest => some ([], rest)
  | steps + 1, '\\' :: rest => do
    let (c, rest) ← readEscape? rest
    let (text, rest) ← readChars? steps rest
    some (c :: text, rest)
  | steps + 1, c :: rest =>
    if c.toNat < 0x20 then none
    else do
      let (text, rest) ← readChars? steps rest
      some (c :: text, rest)

/-- A string after its opening quote. -/
def readString? (cs : List Char) : Option (String × List Char) :=
  (readChars? (cs.length + 1) cs).map fun (text, rest) => (String.ofList text, rest)

/-! ### Values -/

/-- How values are read one level further down. -/
abbrev Reader := List Char → Option (Value × List Char)

/-- The items of a list after the first, up to the bracket; `steps` bounds their count. -/
def readItems? (read : Reader) : Nat → List Char → Option (List Value × List Char)
  | 0, _ => none
  | steps + 1, cs =>
    match skipGaps cs with
    | ']' :: rest => some ([], rest)
    | ',' :: rest => do
      let (v, rest) ← read (skipGaps rest)
      let (vs, rest) ← readItems? read steps rest
      some (v :: vs, rest)
    | _ => none

/-- One entry of an object: its name, a colon and its value. -/
def readEntry? (read : Reader) (cs : List Char) : Option ((String × Value) × List Char) :=
  match cs with
  | '"' :: rest => do
    let (name, rest) ← readString? rest
    match skipGaps rest with
    | ':' :: rest => do
      let (v, rest) ← read (skipGaps rest)
      some ((name, v), rest)
    | _ => none
  | _ => none

/-- The entries of an object after the first, up to the brace; `steps` bounds their count. -/
def readEntries? (read : Reader) : Nat → List Char → Option (List (String × Value) × List Char)
  | 0, _ => none
  | steps + 1, cs =>
    match skipGaps cs with
    | '}' :: rest => some ([], rest)
    | ',' :: rest => do
      let (e, rest) ← readEntry? read (skipGaps rest)
      let (es, rest) ← readEntries? read steps rest
      some (e :: es, rest)
    | _ => none

/-- A value at the head of a text, with at most `depth` levels of lists and objects. -/
def readValue? (depth : Nat) (cs : List Char) : Option (Value × List Char) :=
  match cs with
  | 'n' :: 'u' :: 'l' :: 'l' :: rest => some (.null, rest)
  | 't' :: 'r' :: 'u' :: 'e' :: rest => some (.bool true, rest)
  | 'f' :: 'a' :: 'l' :: 's' :: 'e' :: rest => some (.bool false, rest)
  | '"' :: rest => (readString? rest).map fun (s, rest) => (.text s, rest)
  | '[' :: rest =>
    match depth with
    | 0 => none
    | depth + 1 =>
      match skipGaps rest with
      | ']' :: rest => some (.list [], rest)
      | rest => do
        let (v, rest) ← readValue? depth rest
        let (vs, rest) ← readItems? (readValue? depth) (rest.length + 1) rest
        some (.list (v :: vs), rest)
  | '{' :: rest =>
    match depth with
    | 0 => none
    | depth + 1 =>
      match skipGaps rest with
      | '}' :: rest => some (.record [], rest)
      | rest => do
        let (e, rest) ← readEntry? (readValue? depth) rest
        let (es, rest) ← readEntries? (readValue? depth) (rest.length + 1) rest
        some (.record (Entries.ofPairs (e :: es)), rest)
  | _ => (readNumber? cs).map fun (n, rest) => (.number n, rest)

/-- How deep lists and objects may nest. -/
def maxDepth : Nat := 127

/-- The value that a text holds, blanks around it allowed. -/
def read? (text : String) : Option Value :=
  match readValue? maxDepth (skipGaps text.toList) with
  | some (v, rest) => if (skipGaps rest).isEmpty then some v else none
  | none => none

/-- The entries of the object that a text holds, repeated names included. -/
def readPairs? (text : String) : Option (List (String × Value)) :=
  match skipGaps text.toList with
  | '\x7b' :: rest =>
    match skipGaps rest with
    | '\x7d' :: _ => some []
    | rest => do
      let (e, rest) ← readEntry? (readValue? (maxDepth - 1)) rest
      let (es, _) ← readEntries? (readValue? (maxDepth - 1)) (rest.length + 1) rest
      some (e :: es)
  | _ => none

end ComponentMarkup.Json
