import ComponentMarkup.Style.Numeral
import ComponentMarkup.Text.Blank

/-!
# Tokens of style sheets

A style sheet is cut into tokens, each with the text it was read from. Every text can be cut: what
fits nothing else is a token of one character.

## Main definitions

* `Style.Token` — the kinds of tokens
* `Style.Lexeme` — a token with its text
* `Style.readLexeme?` — the first token of a text, and the rest
* `Style.lexemes` — all tokens of a text
-/

namespace ComponentMarkup.Style

/-- The kinds of tokens. -/
inductive Token
  | ident (name : String)
  | atKeyword (name : String)
  /-- A name after `#`; `isId` if it can start an identifier. -/
  | hash (name : String) (isId : Bool)
  | string (value : String)
  | url (value : String)
  | number (n : Numeral)
  | percentage (n : Numeral)
  | dimension (n : Numeral) (unit : String)
  /-- A name with the parenthesis after it. -/
  | function (name : String)
  | delim (c : Char)
  /-- The character and a `=` after it. -/
  | matcher (c : Char)
  | colon
  | semicolon
  | comma
  | blank
  | comment
  | openParen
  | openSquare
  | openCurly
  | closeParen
  | closeSquare
  | closeCurly
  | commentOpen
  | commentClose
  /-- An address or a string that is broken off. -/
  | broken

/-- A token with the text it was read from. -/
structure Lexeme where
  token : Token
  text : List Char

/-! ### Names -/

/-- A line break. -/
def isBreak (c : Char) : Bool := c == '\n' || c == '\r' || c == '\x0C'

/-- Characters that names may start with. -/
def isNameStart (c : Char) : Bool := c.isAlpha || c == '_' || c == '\x00' || 0x80 ≤ c.toNat

/-- Characters of names. -/
def isNameChar (c : Char) : Bool := isNameStart c || c.isDigit || c == '-'

/-- Whether the text starts with an escaped character. -/
def startsEscape : List Char → Bool
  | '\\' :: c :: _ => !isBreak c
  | ['\\'] => true
  | _ => false

/-- Whether the text starts with an identifier. -/
def startsIdent : List Char → Bool
  | '-' :: '-' :: _ => true
  | '-' :: c :: rest => isNameStart c || startsEscape (c :: rest)
  | c :: rest => isNameStart c || startsEscape (c :: rest)
  | [] => false

/-- The character of a code in an escape. -/
def escapedChar (code : Nat) : Char :=
  if code == 0 || 0x10FFFF < code || (0xD800 ≤ code && code ≤ 0xDFFF) then '\uFFFD'
  else Char.ofNat code

/-- Drops one blank; a carriage return takes a line feed with it. -/
def dropOneBlank : List Char → List Char
  | '\r' :: '\n' :: rest => rest
  | c :: rest => if isAsciiBlank c then rest else c :: rest
  | [] => []

/-- Reads an escaped character after its backslash. -/
def readEscape : List Char → Char × List Char
  | [] => ('\uFFFD', [])
  | c :: rest =>
    if isHexDigit c then
      let digits := ((c :: rest).take 6).takeWhile isHexDigit
      (escapedChar (readHex digits), dropOneBlank ((c :: rest).drop digits.length))
    else (if c == '\x00' then '\uFFFD' else c, rest)

/-- Reads a name. Each character of it takes at least one of the text, so `count` bounds its
length. -/
def readNameWithin : Nat → List Char → List Char × List Char
  | 0, cs => ([], cs)
  | count + 1, cs =>
    if startsEscape cs then
      let (c, rest) := readEscape (cs.drop 1)
      let (name, rest) := readNameWithin count rest
      (c :: name, rest)
    else match cs with
      | c :: rest =>
        if isNameChar c then
          let (name, rest) := readNameWithin count rest
          ((if c == '\x00' then '\uFFFD' else c) :: name, rest)
        else ([], cs)
      | [] => ([], [])

/-- Reads a name. -/
def readName (cs : List Char) : String × List Char :=
  let (name, rest) := readNameWithin cs.length cs
  (String.ofList name, rest)

/-! ### Strings and addresses -/

/-- Reads a string after its opening quote: its characters, none if it is broken off by the end of
the line, and the rest. -/
def readStringWithin (quote : Char) : Nat → List Char → Option (List Char) × List Char
  | 0, cs => (some [], cs)
  | _ + 1, [] => (some [], [])
  | count + 1, c :: rest =>
    if c == quote then (some [], rest)
    else if isBreak c then (none, c :: rest)
    else if c == '\\' then
      match rest with
      | [] => (some [], [])
      | '\r' :: '\n' :: more => readStringWithin quote count more
      | d :: more =>
        if isBreak d then readStringWithin quote count more
        else
          let (e, more) := readEscape (d :: more)
          let (value, more) := readStringWithin quote count more
          (value.map (e :: ·), more)
    else
      let (value, more) := readStringWithin quote count rest
      (value.map ((if c == '\x00' then '\uFFFD' else c) :: ·), more)

/-- The rest after an address that is broken off. -/
def dropBrokenUrl : List Char → List Char
  | [] => []
  | ')' :: rest => rest
  | '\\' :: ')' :: rest => dropBrokenUrl rest
  | '\\' :: '\\' :: rest => dropBrokenUrl rest
  | _ :: rest => dropBrokenUrl rest

/-- Characters that break an address off. -/
def breaksUrl (c : Char) : Bool :=
  let n := c.toNat
  c == '"' || c == '\'' || c == '(' || (1 ≤ n && n ≤ 8) || n == 0xB || (0xE ≤ n && n ≤ 0x1F) ||
    n == 0x7F

/-- Reads an address without quotes up to its closing parenthesis. -/
def readUrlWithin : Nat → List Char → Option (List Char) × List Char
  | 0, cs => (some [], cs)
  | _ + 1, [] => (some [], [])
  | count + 1, c :: rest =>
    if c == ')' then (some [], rest)
    else if isAsciiBlank c then
      match rest.dropWhile isAsciiBlank with
      | [] => (some [], [])
      | ')' :: more => (some [], more)
      | more => (none, dropBrokenUrl more)
    else if breaksUrl c || (c == '\\' && !startsEscape (c :: rest)) then (none, dropBrokenUrl rest)
    else if c == '\\' then
      let (e, more) := readEscape rest
      let (value, more) := readUrlWithin count more
      (value.map (e :: ·), more)
    else
      let (value, more) := readUrlWithin count rest
      (value.map ((if c == '\x00' then '\uFFFD' else c) :: ·), more)

/-! ### Numbers -/

/-- Whether the text starts with a number without a sign. -/
def startsDigits : List Char → Bool
  | '.' :: c :: _ => c.isDigit
  | c :: _ => c.isDigit
  | [] => false

/-- Whether the text starts with a number. -/
def startsNumber : List Char → Bool
  | '+' :: rest => startsDigits rest
  | '-' :: rest => startsDigits rest
  | cs => startsDigits cs

/-- The digits of an exponent at the start of the text: its value, and the rest. -/
def readExponentPart? : List Char → Option (Int × List Char)
  | c :: rest =>
    if c == 'e' || c == 'E' then
      let (negative, digits) := match rest with
        | '-' :: ds => (true, ds)
        | '+' :: ds => (false, ds)
        | ds => (false, ds)
      match digits.takeWhile Char.isDigit with
      | [] => none
      | ds =>
        some (if negative then -(readDecimal ds : Int) else readDecimal ds, digits.drop ds.length)
    else none
  | [] => none

/-- Reads a number with its sign. -/
def readNumeral (cs : List Char) : Numeral × List Char :=
  let (hasSign, negative, cs) := match cs with
    | '-' :: rest => (true, true, rest)
    | '+' :: rest => (true, false, rest)
    | rest => (false, false, rest)
  let whole := cs.takeWhile Char.isDigit
  let (fraction, rest) := match cs.drop whole.length with
    | '.' :: more =>
      let digits := more.takeWhile Char.isDigit
      if digits.isEmpty then ([], '.' :: more) else (digits, more.drop digits.length)
    | more => ([], more)
  match readExponentPart? rest with
  | some (e, rest) => (.ofDigits hasSign negative whole fraction (some e), rest)
  | none => (.ofDigits hasSign negative whole fraction none, rest)

/-- Reads a number with its unit. -/
def readNumeric (cs : List Char) : Token × List Char :=
  let (n, rest) := readNumeral cs
  match rest with
  | '%' :: rest => (.percentage n, rest)
  | rest =>
    if startsIdent rest then
      let (unit, rest) := readName rest
      (.dimension n unit, rest)
    else (.number n, rest)

/-! ### Tokens -/

/-- The rest after a comment's opening. -/
def dropComment : List Char → List Char
  | [] => []
  | '*' :: '/' :: rest => rest
  | _ :: rest => dropComment rest

/-- Reads an identifier, the opening of a function, or an address without quotes. -/
def readIdentLike (cs : List Char) : Token × List Char :=
  let (name, rest) := readName cs
  match rest with
  | '(' :: rest =>
    if name.map Char.toLower == "url" then
      let inner := rest.dropWhile isAsciiBlank
      match inner with
      | '"' :: _ => (.function name, rest)
      | '\'' :: _ => (.function name, rest)
      | _ =>
        match readUrlWithin inner.length inner with
        | (some value, rest) => (.url (String.ofList value), rest)
        | (none, rest) => (.broken, rest)
    else (.function name, rest)
  | rest => (.ident name, rest)

/-- Reads a string after its opening quote. -/
def readString (quote : Char) (cs : List Char) : Token × List Char :=
  match readStringWithin quote cs.length cs with
  | (some value, rest) => (.string (String.ofList value), rest)
  | (none, rest) => (.broken, rest)

/-- The token of a character that stands for itself. -/
def punctuation? (c : Char) : Option Token :=
  match c with
  | '(' => some .openParen
  | ')' => some .closeParen
  | '[' => some .openSquare
  | ']' => some .closeSquare
  | '\x7b' => some .openCurly
  | '\x7d' => some .closeCurly
  | ':' => some .colon
  | ';' => some .semicolon
  | ',' => some .comma
  | _ => none

/-- Reads a token that starts with a given character. -/
def readToken (c : Char) (rest : List Char) : Token × List Char :=
  let cs := c :: rest
  if isAsciiBlank c then (.blank, cs.dropWhile isAsciiBlank)
  else if c == '"' || c == '\'' then readString c rest
  else if startsNumber cs then readNumeric cs
  else if c == '-' && rest.take 2 == ['-', '>'] then (.commentClose, rest.drop 2)
  else if startsIdent cs then readIdentLike cs
  else match punctuation? c with
    | some t => (t, rest)
    | none =>
      if c == '#' && (rest.head?.any isNameChar || startsEscape rest) then
        let (name, after) := readName rest
        (.hash name (startsIdent rest), after)
      else if c == '@' && startsIdent rest then
        let (name, rest) := readName rest
        (.atKeyword name, rest)
      else if c == '/' && rest.head? == some '*' then (.comment, dropComment (rest.drop 1))
      else if c == '<' && rest.take 3 == ['!', '-', '-'] then (.commentOpen, rest.drop 3)
      else if ['$', '*', '^', '|', '~'].contains c && rest.head? == some '=' then
        (.matcher c, rest.drop 1)
      else (.delim c, rest)

/-- The first token of a text, and the rest. -/
def readLexeme? : List Char → Option (Lexeme × List Char)
  | [] => none
  | c :: cs =>
    let (token, rest) := readToken c cs
    some (⟨token, (c :: cs).take ((c :: cs).length - rest.length)⟩, rest)

/-- The first `count` tokens of a text. -/
def lexemesWithin : Nat → List Char → List Lexeme
  | 0, _ => []
  | count + 1, cs =>
    match readLexeme? cs with
    | some (lexeme, rest) => lexeme :: lexemesWithin count rest
    | none => []

/-- All tokens of a text; there are at most as many as characters. -/
def lexemes (text : String) : List Lexeme :=
  let cs := text.toList
  lexemesWithin cs.length cs

end ComponentMarkup.Style
