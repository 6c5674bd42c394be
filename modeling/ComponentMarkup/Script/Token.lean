import ComponentMarkup.Number.Text
import ComponentMarkup.Script.Name

/-!
# Tokens of scripts

The words, literals and marks that scripts are made of. A scanner takes the characters that are
left and gives a token with the characters after it; `none` says that the characters begin no
token. Regular expressions and the later pieces of a template begin with characters that can
begin other tokens too, so the grammar asks for them where they can stand.

## Main definitions

* `Script.Token` — a token with what the grammar needs to know of it
* `Script.skipTrivia?` — blanks and comments, with whether a line ended
* `Script.scan?` — the token at the head of a text
* `Script.scanTemplate?`, `Script.scanRegex?` — a piece of a template, a regular expression
-/

namespace ComponentMarkup.Script

/-- A token. -/
inductive Token
  /-- An identifier or a keyword; `escaped` when its spelling has an escape. -/
  | name (id : String) (escaped : Bool)
  | privateName (id : String)
  | number (value : Float)
  | bigInteger (digits : String)
  | text (value : String)
  /-- A piece of a template: its characters unless an escape is invalid, and whether the
  template ends here. -/
  | template (cooked : Option String) (closes : Bool)
  | mark (spelling : String)
  | done

/-! ### Blanks and comments -/

/-- What follows a comment up to its closing mark, and whether a line ended in it. -/
def skipComment? (lineEnded : Bool) : List Char → Option (Bool × List Char)
  | [] => none
  | '*' :: '/' :: rest => some (lineEnded, rest)
  | c :: rest => skipComment? (lineEnded || isLineEnd c) rest

theorem length_of_skipComment? {lineEnded b : Bool} {cs rest : List Char}
    (h : skipComment? lineEnded cs = some (b, rest)) : rest.length < cs.length := by
  fun_induction skipComment? lineEnded cs with
  | case1 => simp at h
  | case2 =>
    simp only [Option.some.injEq, Prod.mk.injEq] at h
    rw [← h.2]
    simp only [List.length_cons]
    omega
  | case3 _ _ _ _ ih =>
    have := ih h
    simp only [List.length_cons]; omega

/-- Skips blanks and comments; tells whether a line ended, and gives nothing when a comment is
not closed. -/
def skipTrivia? (lineEnded : Bool) (cs : List Char) : Option (Bool × List Char) :=
  match cs with
  | [] => some (lineEnded, [])
  | '/' :: '/' :: rest =>
    have : (rest.dropWhile (!isLineEnd ·)).length ≤ rest.length :=
      (List.dropWhile_sublist _).length_le
    skipTrivia? lineEnded (rest.dropWhile (!isLineEnd ·))
  | '/' :: '*' :: rest =>
    match h : skipComment? lineEnded rest with
    | none => none
    | some (ended, rest') =>
      have := length_of_skipComment? h
      skipTrivia? ended rest'
  | c :: rest =>
    if isLineEnd c then skipTrivia? true rest
    else if isScriptBlank c then skipTrivia? lineEnded rest
    else some (lineEnded, c :: rest)
termination_by cs.length
decreasing_by all_goals simp only [List.length_cons]; omega

/-! ### Numbers -/

/-- The value of a digit in a base. -/
def digitIn? (base : Nat) (c : Char) : Option Nat :=
  (hexValue? c).bind fun d => if d < base then some d else none

/-- Digits of a base with single underscores between them. `joins` says that a digit precedes,
`pending` that an underscore does. -/
def takeSeparatedFrom? (base : Nat) (joins pending : Bool) :
    List Char → Option (List Char × List Char)
  | [] => if pending then none else some ([], [])
  | c :: rest =>
    if (digitIn? base c).isSome then
      (takeSeparatedFrom? base true false rest).map fun (ds, r) => (c :: ds, r)
    else if c == '_' then
      if joins then takeSeparatedFrom? base false true rest else none
    else if pending then none else some ([], c :: rest)

/-- Digits of a base with single underscores between them: the digits and what follows. -/
def takeSeparated? (base : Nat) (cs : List Char) : Option (List Char × List Char) :=
  takeSeparatedFrom? base false false cs

/-- The number written by digits of a base. -/
def readBase (base : Nat) (ds : List Char) : Nat :=
  ds.foldl (fun acc c => acc * base + (hexValue? c).getD 0) 0

/-- A number must not run into an identifier or a digit. -/
def endsNumber (rest : List Char) : Bool :=
  match rest with
  | [] => true
  | c :: _ => !(isNameStart c || isDigit c || c == '\\')

/-- The digits after `0x`, `0o` or `0b`, possibly marked as a big integer. -/
def scanBase? (base : Nat) (cs : List Char) : Option (Token × List Char) := do
  let (ds, rest) ← takeSeparated? base cs
  if ds.isEmpty then none
  else
    let n := readBase base ds
    match rest with
    | 'n' :: rest => if endsNumber rest then some (.bigInteger (toString n), rest) else none
    | _ => if endsNumber rest then some (.number (floatOfNat n), rest) else none

/-- An optional exponent after the digits of a number: its value and what follows. -/
def scanExponent? (cs : List Char) : Option (Int × List Char) :=
  match cs with
  | c :: rest =>
    if c == 'e' || c == 'E' then
      let (negative, rest) := readSign rest
      match takeSeparated? 10 rest with
      | some (ds, rest) =>
        if ds.isEmpty then none
        else some (if negative then -(readDecimal ds : Int) else readDecimal ds, rest)
      | none => none
    else some (0, cs)
  | [] => some (0, [])

/-- A decimal number after its whole digits. -/
def scanFraction? (whole cs : List Char) : Option (Token × List Char) := do
  let (fraction, rest) ← match cs with
    | '.' :: rest => takeSeparated? 10 rest
    | _ => some ([], cs)
  let (exponent, rest) ← scanExponent? rest
  if endsNumber rest then
    some (.number (floatOfDecimal (readDecimal (whole ++ fraction))
      (exponent - fraction.length)), rest)
  else none

/-- A decimal number, a big integer, or one in another base. A leading zero makes the other
digits octal unless one of them is not. -/
def scanNumber? (cs : List Char) : Option (Token × List Char) :=
  match cs with
  | '0' :: 'x' :: rest => scanBase? 16 rest
  | '0' :: 'X' :: rest => scanBase? 16 rest
  | '0' :: 'o' :: rest => scanBase? 8 rest
  | '0' :: 'O' :: rest => scanBase? 8 rest
  | '0' :: 'b' :: rest => scanBase? 2 rest
  | '0' :: 'B' :: rest => scanBase? 2 rest
  | '0' :: '_' :: _ => none
  | '.' :: rest => scanFraction? [] ('.' :: rest)
  | _ =>
    let digits := cs.takeWhile isDigit
    if cs.head? == some '0' && 1 < digits.length then
      let rest := cs.dropWhile isDigit
      if digits.all fun c => (digitIn? 8 c).isSome then
        if endsNumber rest then some (.number (floatOfNat (readBase 8 digits)), rest) else none
      else scanFraction? digits rest
    else do
      let (ds, rest) ← takeSeparated? 10 cs
      match rest with
      | 'n' :: rest =>
        if endsNumber rest then some (.bigInteger (toString (readDecimal ds)), rest) else none
      | _ => scanFraction? ds rest

/-! ### Names -/

/-- The hexadecimal digits of `\u` in braces or as exactly four. -/
def scanCodePoint? (cs : List Char) : Option (Nat × List Char) :=
  match cs with
  | '\x7b' :: rest =>
    let ds := rest.takeWhile isHexDigit
    match rest.dropWhile isHexDigit with
    | '\x7d' :: more => if ds.isEmpty || 0x10FFFF < readHex ds then none else some (readHex ds, more)
    | _ => none
  | a :: b :: c :: d :: rest =>
    if [a, b, c, d].all isHexDigit then some (readHex [a, b, c, d], rest) else none
  | _ => none

/-- The characters of an identifier, escapes read, and whether there were any; `steps` bounds
the count of characters. -/
def scanName? (first : Bool) : Nat → List Char → Option (List Char × Bool × List Char)
  | 0, cs => some ([], false, cs)
  | steps + 1, cs =>
    let fits (c : Char) : Bool := if first then isNameStart c else isNamePart c
    match cs with
    | '\\' :: 'u' :: rest => do
      let (n, rest) ← scanCodePoint? rest
      if fits (Char.ofNat n) then
        let (more, _, rest) ← scanName? false steps rest
        some (Char.ofNat n :: more, true, rest)
      else none
    | c :: rest =>
      if fits c then do
        let (more, escaped, rest) ← scanName? false steps rest
        some (c :: more, escaped, rest)
      else some ([], false, cs)
    | [] => some ([], false, [])

/-! ### Texts -/

/-- A character of a text or, when the text holds half of a surrogate pair, that half. -/
abbrev Unit16 := Char ⊕ Nat

/-- Joins the halves of surrogate pairs that stand side by side. -/
def joinSurrogates : List Unit16 → List Unit16
  | .inr high :: .inr low :: rest =>
    if high < 0xDC00 && 0xDC00 ≤ low then
      .inl (Char.ofNat (0x10000 + (high - 0xD800) * 0x400 + (low - 0xDC00))) :: joinSurrogates rest
    else .inr high :: joinSurrogates (.inr low :: rest)
  | u :: rest => u :: joinSurrogates rest
  | [] => []

/-- The text of its units. Where a half of a surrogate pair stands alone, it and every
replacement character are written as a replacement character and four hexadecimal digits. -/
def textOfUnits (units : List Unit16) : String :=
  let units := joinSurrogates units
  let lone := units.any fun u => u.isRight
  let hex4 (n : Nat) : List Char :=
    let ds := hexChars n
    '\uFFFD' :: List.replicate (4 - ds.length) '0' ++ ds
  String.ofList <| units.flatMap fun u => match u with
    | .inl c => if lone && c == '\uFFFD' then hex4 0xFFFD else [c]
    | .inr n => hex4 n

/-- The unit of a code point. -/
def unitOf (n : Nat) : Unit16 :=
  if 0xD800 ≤ n && n ≤ 0xDFFF then .inr n else .inl (Char.ofNat n)

/-- At most `count` octal digits. -/
def takeOctal : Nat → List Char → List Char
  | count + 1, c :: rest => if (digitIn? 8 c).isSome then c :: takeOctal count rest else []
  | _, _ => []

/-- What follows a backslash: the units it stands for and the rest. `octal` admits escapes by
octal digits. -/
def scanEscape? (octal : Bool) (cs : List Char) : Option (List Unit16 × List Char) :=
  match cs with
  | [] => none
  | 'n' :: r => some ([.inl '\n'], r)
  | 't' :: r => some ([.inl '\t'], r)
  | 'r' :: r => some ([.inl '\r'], r)
  | 'b' :: r => some ([.inl '\x08'], r)
  | 'v' :: r => some ([.inl '\x0b'], r)
  | 'f' :: r => some ([.inl '\x0c'], r)
  | '\r' :: '\n' :: r => some ([], r)
  | 'x' :: a :: b :: r =>
    if isHexDigit a && isHexDigit b then some ([.inl (Char.ofNat (readHex [a, b]))], r) else none
  | 'x' :: _ => none
  | 'u' :: r => (scanCodePoint? r).map fun (n, r) => ([unitOf n], r)
  | c :: r =>
    if isLineEnd c then some ([], r)
    else if c == '0' && !((r.head?.map isDigit).getD false) then some ([.inl '\x00'], r)
    else if isDigit c then
      if !octal then none
      else if c == '8' || c == '9' then some ([.inl c], r)
      else
        let ds := takeOctal (if c ≤ '3' then 3 else 2) (c :: r)
        some ([.inl (Char.ofNat (readBase 8 ds))], (c :: r).drop ds.length)
    else some ([.inl c], r)

/-- The units of a text up to the quote that closes it; `steps` bounds their count. -/
def scanText? (quote : Char) : Nat → List Char → Option (List Unit16 × List Char)
  | 0, _ => none
  | _, [] => none
  | steps + 1, c :: rest =>
    if c == quote then some ([], rest)
    else if c == '\n' || c == '\r' then none
    else if c == '\\' then do
      let (us, rest) ← scanEscape? true rest
      let (more, rest) ← scanText? quote steps rest
      some (us ++ more, rest)
    else do
      let (more, rest) ← scanText? quote steps rest
      some (.inl c :: more, rest)

/-! ### Templates -/

/-- Skips an invalid escape: the character after the backslash. -/
def skipEscape : List Char → List Char
  | [] => []
  | _ :: rest => rest

/-- The units of a template piece up to `${` or the closing backtick: the units unless an escape
is invalid, whether the template closes, and the rest; `steps` bounds their count. -/
def scanPiece? : Nat → List Char → Option (Option (List Unit16) × Bool × List Char)
  | 0, _ => none
  | _, [] => none
  | _, '\x60' :: rest => some (some [], true, rest)
  | _, '$' :: '\x7b' :: rest => some (some [], false, rest)
  | steps + 1, '\\' :: rest =>
    match scanEscape? false rest with
    | some (us, rest) => do
      let (more, closes, rest) ← scanPiece? steps rest
      some (more.map (us ++ ·), closes, rest)
    | none => do
      let (_, closes, rest) ← scanPiece? steps (skipEscape rest)
      some (none, closes, rest)
  | steps + 1, '\r' :: '\n' :: rest => do
    let (more, closes, rest) ← scanPiece? steps rest
    some (more.map (.inl '\n' :: ·), closes, rest)
  | steps + 1, c :: rest => do
    let (more, closes, rest) ← scanPiece? steps rest
    some (more.map (.inl (if c == '\r' then '\n' else c) :: ·), closes, rest)

/-- A piece of a template, after the backtick or brace that opens it. -/
def scanTemplate? (cs : List Char) : Option (Token × List Char) :=
  (scanPiece? (cs.length + 1) cs).map fun (units, closes, rest) =>
    (.template (units.map textOfUnits) closes, rest)

/-! ### Regular expressions -/

/-- The rest of a line after the slash that closes a regular expression; a slash in a class does
not close it. -/
def skipRegex? (inClass : Bool) : List Char → Option (List Char)
  | [] => none
  | '\\' :: c :: rest => if isLineEnd c then none else skipRegex? inClass rest
  | c :: rest =>
    if isLineEnd c then none
    else if c == '/' && !inClass then some rest
    else skipRegex? (if c == '[' then true else if c == ']' then false else inClass) rest

/-- The rest after a regular expression and its flags; `cs` follows its first slash. A flag is
one of eight letters and stands at most once. -/
def scanRegex? (cs : List Char) : Option (List Char) := do
  let rest ← skipRegex? false cs
  let flags := rest.takeWhile isNamePart
  if flags.all (fun c => "dgimsuvy".toList.contains c) && flags.eraseDups.length == flags.length then
    some (rest.drop flags.length)
  else none

/-! ### Marks -/

/-- The marks, longer ones before their beginnings. -/
def marks : List String :=
  [">>>=", "...", "===", "!==", "**=", "<<=", ">>=", ">>>", "&&=", "||=", "??=", "=>", "==", "!=",
    "<=", ">=", "&&", "||", "??", "?.", "++", "--", "+=", "-=", "*=", "/=", "%=", "&=", "|=", "^=",
    "<<", ">>", "**", "\x7b", "\x7d", "(", ")", "[", "]", ";", ",", "<", ">", "+", "-", "*", "/",
    "%", "&", "|", "^", "!", "~", "?", ":", "=", ".", "@"]

/-- The mark at the head of a text. A question mark with a point does not link when a digit
follows the point. -/
def scanMark? (cs : List Char) : Option (Token × List Char) :=
  match cs with
  | '?' :: '.' :: c :: rest =>
    if isDigit c then some (.mark "?", '.' :: c :: rest) else some (.mark "?.", c :: rest)
  | _ =>
    (marks.find? fun m => m.toList.isPrefixOf cs).map fun m => (.mark m, cs.drop m.length)

/-- The token at the head of a text that begins with no blank or comment. -/
def scan? (cs : List Char) : Option (Token × List Char) :=
  match cs with
  | [] => some (.done, [])
  | c :: rest =>
    if c == '"' || c == '\'' then
      (scanText? c (rest.length + 1) rest).map fun (us, rest) => (.text (textOfUnits us), rest)
    else if c == '\x60' then scanTemplate? rest
    else if isDigit c || (c == '.' && (rest.head?.map isDigit).getD false) then scanNumber? cs
    else if c == '#' then
      match scanName? true (rest.length + 1) rest with
      | some (id, _, rest) => if id.isEmpty then none else some (.privateName (String.ofList id), rest)
      | none => none
    else if isNameStart c || c == '\\' then
      match scanName? true (cs.length + 1) cs with
      | some (id, escaped, rest) =>
        if id.isEmpty then none else some (.name (String.ofList id) escaped, rest)
      | none => none
    else scanMark? cs

end ComponentMarkup.Script
