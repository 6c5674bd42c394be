import ComponentMarkup.Script.Token

/-!
# Places in a script

The grammar reads tokens one at a time, with one token of look-ahead. A cursor is a place in a
source text: the token that stands there, where it begins and ends, and what the grammar allows
there.

## Main definitions

* `Script.Cursor` — a place in a source text
* `Script.Parser` — what reads on from a place, or finds the text ungrammatical
* `Script.advance`, `Script.takeMark`, `Script.takeWord` — single tokens
* `Script.many`, `Script.separated` — repetition
* `Script.sourceFrom` — the source text up to the last token taken
-/

namespace ComponentMarkup.Script

/-- A place in a source text. -/
structure Cursor where
  /-- The whole source text and its length. -/
  source : List Char
  length : Nat
  /-- The token at this place, its ends, and whether a line ended before it. -/
  token : Token
  start : Nat
  stop : Nat
  newLine : Bool
  /-- What follows the token. -/
  rest : List Char
  /-- Where the last token taken ended. -/
  lastStop : Nat
  /-- Whether `in` is an operator here, and whether `yield`, `await` and `return` are words of
  the grammar here. -/
  allowIn : Bool
  inGenerator : Bool
  inAsync : Bool
  inFunction : Bool
  /-- How many properties have been read that only a target can hold. -/
  covers : Nat

/-- What reads on from a place in a script; nothing when the text is ungrammatical. -/
abbrev Parser (α : Type) := StateT Cursor Option α

/-- Takes the token at the cursor. -/
def advance : Parser Unit := fun s => do
  let (newLine, cs) ← skipTrivia? false s.rest
  let (token, rest) ← scan? cs
  some ((), { s with
    token := token, start := s.length - cs.length, stop := s.length - rest.length
    newLine := newLine, rest := rest, lastStop := s.stop })

/-- The cursor at the first token of a text. -/
def Cursor.ofText? (text : List Char) : Option Cursor := do
  let s : Cursor :=
    { source := text, length := text.length, token := .done, start := 0, stop := 0
      newLine := false, rest := text, lastStop := 0, allowIn := true, inGenerator := false
      inAsync := true, inFunction := false, covers := 0 }
  let ((), s) ← advance s
  some { s with lastStop := 0 }

/-- The source text from a place up to the last token taken. -/
def sourceFrom (start : Nat) : Parser String := fun s =>
  some (String.ofList ((s.source.drop start).take (s.lastStop - start)), s)

/-- Where the token at the cursor begins. -/
def place : Parser Nat := fun s => some (s.start, s)

/-- The token at the cursor. -/
def token : Parser Token := fun s => some (s.token, s)

/-- Whether a line ended before the token at the cursor. -/
def afterLineEnd : Parser Bool := fun s => some (s.newLine, s)

/-- Runs a parser; if it finds the text ungrammatical, nothing has been read. -/
def attempt {α : Type} (p : Parser α) : Parser (Option α) := fun s =>
  match p s with
  | some (a, s') => some (some a, s')
  | none => some (none, s)

/-- Whether a parser would answer with `true`; nothing is read. -/
def ahead (p : Parser Bool) : Parser Bool := fun s =>
  match p s with
  | some (b, _) => some (b, s)
  | none => some (false, s)

/-- Runs a parser with what the grammar allows changed, and changes it back. -/
def within {α : Type} (change : Cursor → Cursor) (p : Parser α) : Parser α := fun s => do
  let (a, s') ← p (change s)
  some (a, { s' with
    allowIn := s.allowIn, inGenerator := s.inGenerator, inAsync := s.inAsync
    inFunction := s.inFunction })

/-! ### Single tokens -/

/-- Whether the mark stands at the cursor. -/
def atMark (m : String) : Parser Bool := do
  match ← token with
  | .mark m' => pure (m == m')
  | _ => pure false

/-- Takes the mark if it stands at the cursor. -/
def takeMark (m : String) : Parser Bool := do
  if ← atMark m then
    advance
    pure true
  else pure false

/-- Takes the mark, which must stand at the cursor. -/
def expectMark (m : String) : Parser Unit := do
  if ← takeMark m then pure () else failure

/-- Whether the word, written without escapes, stands at the cursor. -/
def atWord (w : String) : Parser Bool := do
  match ← token with
  | .name id escaped => pure (id == w && !escaped)
  | _ => pure false

/-- Takes the word if it stands at the cursor. -/
def takeWord (w : String) : Parser Bool := do
  if ← atWord w then
    advance
    pure true
  else pure false

/-- Takes the word, which must stand at the cursor. -/
def expectWord (w : String) : Parser Unit := do
  if ← takeWord w then pure () else failure

/-- Whether the text has ended. -/
def atEnd : Parser Bool := do
  match ← token with
  | .done => pure true
  | _ => pure false

/-- The words that name nothing in a module. -/
def reservedWords : List String :=
  ["break", "case", "catch", "class", "const", "continue", "debugger", "default", "delete", "do",
    "else", "enum", "export", "extends", "false", "finally", "for", "function", "if", "import",
    "in", "instanceof", "new", "null", "return", "super", "switch", "this", "throw", "true", "try",
    "typeof", "var", "void", "while", "with"]

/-- Takes an identifier: any name but the reserved words, and but `await` and `yield` where they
are words of the grammar. -/
def identifier : Parser String := do
  match ← token with
  | .name id _ =>
    let s ← get
    if reservedWords.contains id || (id == "await" && s.inAsync) || (id == "yield" && s.inGenerator)
    then failure
    else
      advance
      pure id
  | _ => failure

/-- Takes any name, reserved words included. -/
def anyName : Parser String := do
  match ← token with
  | .name id _ =>
    advance
    pure id
  | _ => failure

/-- A statement ends at a semicolon, before a brace, at a line end or at the end of the text. -/
def endStatement : Parser Unit := do
  if ← takeMark ";" then pure ()
  else if (← atMark "\x7d") || (← atEnd) || (← afterLineEnd) then pure ()
  else failure

/-! ### Repetition -/

/-- Repeats a step until it gives nothing; `steps` bounds the count. -/
def repeatWith {σ : Type} (step : σ → Parser (Option σ)) : Nat → σ → Parser σ
  | 0, _ => failure
  | steps + 1, acc => do
    match ← step acc with
    | none => pure acc
    | some acc' => repeatWith step steps acc'

/-- Repeats a step until it gives nothing. Every step takes a token, so that there are at most
as many as characters are left. -/
def iterate {σ : Type} (step : σ → Parser (Option σ)) (acc : σ) : Parser σ := do
  let s ← get
  repeatWith step (s.rest.length + 2) acc

/-- What a parser reads, again and again until a mark, which is taken. -/
def manyUntil {α : Type} (close : String) (p : Parser α) : Parser (List α) := do
  let items ← iterate (fun acc => do
    if ← takeMark close then pure none
    else
      let a ← p
      pure (some (a :: acc))) []
  pure items.reverse

/-- What a parser reads, separated by commas, up to a mark, which is taken; a comma may stand
before the mark. -/
def separated {α : Type} (close : String) (p : Parser α) : Parser (List α) := do
  let items ← iterate (fun acc => do
    if ← takeMark close then pure none
    else
      let a ← p
      if !(← atMark close) then expectMark ","
      pure (some (a :: acc))) []
  pure items.reverse

end ComponentMarkup.Script
