import ComponentMarkup.Style.Declaration

/-!
# Registered properties

Properties of the author's own making whose values are of a given form.

## Main definitions

* `Style.ValueForms` — the form of values
* `Style.Registration` — a registered property
* `Style.registration?` — reads a registration
-/

namespace ComponentMarkup.Style

/-! ### Forms of values -/

/-- How often a value may be given. -/
inductive Repetition
  | once
  | spaced
  | separated
  deriving DecidableEq

/-- A form of values: a kind such as `<length>` or a word, and how often. -/
structure ValueForm where
  kind : String
  repetition : Repetition

/-- The forms that values may have; none if they may have any. -/
abbrev ValueForms := Option (List ValueForm)

/-- A form as it is written. -/
def ValueForm.text (f : ValueForm) : String :=
  f.kind ++ match f.repetition with
    | .once => ""
    | .spaced => "+"
    | .separated => "#"

/-- The forms of values as they are written. -/
def formsText : ValueForms → String
  | none => "\"*\""
  | some forms => "\"" ++ "|".intercalate (forms.map ValueForm.text) ++ "\""

/-- The kinds of values, and how they are read. -/
def kindReaders : List (String × Reader String) :=
  [("<length>", length), ("<number>", plainNumberValue), ("<percentage>", percentageValue),
    ("<length-percentage>", lengthPercentage), ("<color>", color), ("<image>", image),
    ("<url>", urlText <$> url), ("<integer>", integerValue), ("<angle>", angle), ("<time>", time),
    ("<resolution>", (fun (x, unit) => resolutionText x unit) <$>
      dimension ["dpi", "dpcm", "dppx", "x"]),
    ("<transform-function>", transformItem), ("<transform-list>", transform),
    ("<custom-ident>", customIdent)]

/-- How the values of a form are read. -/
def ValueForm.reader (f : ValueForm) : Reader String :=
  let one := match kindReaders.find? (·.1 == f.kind) with
    | some (_, r) => r
    | none => part fun p => (identOf? p).bind fun name =>
      if name == f.kind then some (identText name) else none
  match f.repetition with
  | .once => one
  | .spaced => seriesOf one
  | .separated => listOf one

/-- Whether a character can stand in a word. -/
def isWordChar (c : Char) : Bool := c.isAlphanum || c == '_' || c == '-' || 0x80 ≤ c.toNat

/-- A form of values, from its text. -/
def valueForm? (text : List Char) : Option ValueForm :=
  let text := text.dropWhile isAsciiBlank
  let (kind, after) := match text with
    | '<' :: _ =>
      let name := text.takeWhile (· != '>')
      (name ++ ['>'], text.drop (name.length + 1))
    | _ => text.span isWordChar
  let name := String.ofList kind
  let known := match kind with
    | '<' :: _ => kindReaders.any (·.1 == lower name)
    | c :: _ => !c.isDigit && c != '-'
    | [] => false
  let name := if hasStart name "<" then lower name else name
  let (repetition, rest) := match after with
    | '+' :: rest => (Repetition.spaced, rest)
    | '#' :: rest => (.separated, rest)
    | rest => (.once, rest)
  if known && rest.all isAsciiBlank && !(name == "<transform-list>" && repetition != .once) then
    some ⟨name, repetition⟩
  else none

/-- The forms of values, from their text. -/
def formsOf? (text : String) : Option ValueForms :=
  let trimmed := (text.toList.dropWhile isAsciiBlank).reverse.dropWhile isAsciiBlank |>.reverse
  if trimmed == ['*'] then some none
  else ((trimmed.splitOnP (· == '|')).mapM valueForm?).map some

/-! ### Registrations -/

/-- A registered property. -/
structure Registration where
  name : String
  form : ValueForms
  inherits : Bool
  initial : Option String

/-- A registration as it is written. -/
def Registration.text (r : Registration) : String :=
  "@property " ++ identText r.name ++ "\x7bsyntax:" ++ formsText r.form ++ ";inherits:" ++
    (if r.inherits then "true" else "false") ++
    (match r.initial with
      | some value => ";initial-value:" ++ value
      | none => "") ++ "\x7d"

/-- The value that is registered under a name, the last one if there are some. -/
def registered? (name : String) (found : List (String × List Part)) : Option (List Part) :=
  (found.reverse.find? (·.1 == name)).map Prod.snd

/-- An initial value of a form. -/
def initialValue? (form : ValueForms) (value : List Part) : Option String :=
  match form with
  | none => rawText? value
  | some forms => forms.findSome? fun f => readAll? f.reader value

/-- An entry of a registration. -/
def registrationEntry? : Entry → Option (String × List Part)
  | .declaration name value =>
    if ["syntax", "inherits", "initial-value"].contains (lower name) then some (lower name, value)
    else none
  | _ => none

/-- A registration, from what stands before its block and in it. -/
def registration? (prelude body : List Part) : Option Registration := do
  let name ← readAll? dashedIdent prelude
  let found ← (entries body).mapM registrationEntry?
  let form ← (registered? "syntax" found).bind fun v => (readAll? string v).bind formsOf?
  let inherits ← (registered? "inherits" found).bind (readAll? (keyword ["true", "false"]))
  let initial ← match form, registered? "initial-value" found with
    | none, none => some none
    | some _, none => none
    | form, some value => (initialValue? form value).map some
  pure ⟨name, form, inherits == "true", initial⟩

end ComponentMarkup.Style
