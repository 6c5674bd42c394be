import ComponentMarkup.Style.Part
import ComponentMarkup.Style.Text

/-!
# Reading values

Values are read from parts in which blanks and comments are left out. A reader takes what it
understands from the start; most readers give the shortest text of what they read.

## Main definitions

* `Style.Reader` — readers
* `Style.readAll?` — a value that takes all parts
* `Style.keyword`, `Style.function`, `Style.number`, … — the simplest readers
* `Style.many`, `Style.commaList`, `Style.optional` — readers of several values
-/

namespace ComponentMarkup.Style

/-- A reader: takes what it understands from the start of some parts. -/
abbrev Reader (α : Type) := StateT (List Part) Option α

/-- A value that takes all parts but blanks and comments. -/
def readAll? {α : Type} (r : Reader α) (parts : List Part) : Option α :=
  match r.run (significant parts) with
  | some (a, []) => some a
  | _ => none

/-! ### Single parts -/

/-- The next part, if `f` understands it. -/
def part {α : Type} (f : Part → Option α) : Reader α := fun parts =>
  match parts with
  | p :: rest => (f p).map fun a => (a, rest)
  | [] => none

/-- Succeeds at the end. -/
def atEnd : Reader Unit := fun parts => if parts.isEmpty then some ((), []) else none

/-- The name of an identifier. -/
def identOf? : Part → Option String
  | .token (.ident name) _ => some name
  | _ => none

/-- An identifier. -/
def ident : Reader String := part identOf?

/-- A text in lower case. -/
def lower (text : String) : String := text.map Char.toLower

/-- One of some words, in any case. -/
def keyword (words : List String) : Reader String :=
  part fun p => (identOf? p).bind fun name =>
    if words.contains (lower name) then some (lower name) else none

/-- A given word, in any case. -/
def word (w : String) : Reader String := keyword [w]

/-- Words that every property understands by itself. -/
def isWide (name : String) : Bool :=
  ["initial", "inherit", "unset", "default", "revert", "revert-layer"].contains (lower name)

/-- An identifier of the author's choice. -/
def customIdent : Reader String :=
  part fun p => (identOf? p).bind fun name => if isWide name then none else some (identText name)

/-- An identifier with two hyphens at its start. -/
def dashedIdent : Reader String :=
  part fun p => (identOf? p).bind fun name =>
    match name.toList with
    | '-' :: '-' :: _ => some name
    | _ => none

/-- A character that stands for itself. -/
def delim (c : Char) : Reader Unit :=
  part fun p => match p with
    | .token (.delim d) _ => if c == d then some () else none
    | _ => none

/-- A comma. -/
def comma : Reader Unit := part fun p => if p.isComma then some () else none

/-- A colon. -/
def colon : Reader Unit :=
  part fun p => match p with
    | .token .colon _ => some ()
    | _ => none

/-- The characters of a string. -/
def string : Reader String :=
  part fun p => match p with
    | .token (.string value) _ => some value
    | _ => none

/-! ### Blocks -/

/-- A block of a kind, with all that is in it. -/
def inside {α : Type} (bracket : Bracket → Bool) (r : Reader α) : Reader α :=
  part fun p => match p with
    | .block b _ parts _ => if bracket b then readAll? r parts else none
    | _ => none

/-- A function of a name in lower case, with its arguments. -/
def function {α : Type} (name : String) (r : Reader α) : Reader α :=
  inside (fun b => match b with
    | .function n => lower n == name
    | _ => false) r

/-- A function of any name, with its arguments read by `r` from the name in lower case. -/
def anyFunction {α : Type} (r : String → Reader α) : Reader α :=
  part fun p => match p with
    | .block (.function n) _ parts _ => readAll? (r (lower n)) parts
    | _ => none

/-- What stands in parentheses. -/
def inParens {α : Type} (r : Reader α) : Reader α := inside (· == .paren) r

/-- The address of a `url`. -/
def url : Reader String :=
  part (fun p => match p with
    | .token (.url value) _ => some value
    | _ => none) <|> function "url" string

/-- A string or the address of a `url`. -/
def urlOrString : Reader String := url <|> string

/-! ### Several values -/

/-- What `r` reads, if it reads something. -/
def optional {α : Type} (r : Reader α) : Reader (Option α) := (some <$> r) <|> pure none

/-- As many values as there are, `count` at most. -/
def manyWithin {α : Type} (r : Reader α) : Nat → Reader (List α)
  | 0 => pure []
  | count + 1 => (do
      let a ← r
      let more ← manyWithin r count
      pure (a :: more)) <|> pure []

/-- As many values as there are. -/
def many {α : Type} (r : Reader α) : Reader (List α) := fun parts => manyWithin r parts.length parts

/-- One value or more. -/
def some1 {α : Type} (r : Reader α) : Reader (List α) := do
  let a ← r
  let more ← many r
  pure (a :: more)

/-- Values with commas between them. -/
def commaList {α : Type} (r : Reader α) : Reader (List α) := do
  let a ← r
  let more ← many (do comma; r)
  pure (a :: more)

/-- Values, each by one of the readers and each reader used once at most, in any order, as long as
one understands what comes. -/
def anyOrder {α : Type} (rs : List (Reader α)) : Reader (List (Option α)) := fun parts =>
  let step (found : List (Option α) × List Part) : Option (List (Option α) × List Part) :=
    (List.range rs.length).findSome? fun i =>
      match found.1.getD i none, (rs.getD i failure).run found.2 with
      | none, some (a, rest) => some (found.1.set i (some a), rest)
      | _, _ => none
  let found := (List.range rs.length).foldl (fun found _ => (step found).getD found)
    (List.replicate rs.length none, parts)
  if found.1.all Option.isNone then none else some found

/-! ### Numbers -/

/-- The value of a number. -/
def number : Reader Float32 :=
  part fun p => match p with
    | .token (.number n) _ => some n.value
    | _ => none

/-- The value of an integer. -/
def integer : Reader Int :=
  part fun p => match p with
    | .token (.number n) _ => n.integer
    | _ => none

/-- The value of a percentage. -/
def percentage : Reader Float32 :=
  part fun p => match p with
    | .token (.percentage n) _ => some n.value
    | _ => none

/-- A number with one of some units, the unit in lower case. -/
def dimension (units : List String) : Reader (Float32 × String) :=
  part fun p => match p with
    | .token (.dimension n unit) _ =>
      if units.contains (lower unit) then some (n.value, lower unit) else none
    | _ => none

end ComponentMarkup.Style
