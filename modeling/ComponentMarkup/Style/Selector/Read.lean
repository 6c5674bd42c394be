import ComponentMarkup.Style.Raw
import ComponentMarkup.Style.Selector
import ComponentMarkup.Style.Selector.Name

/-!
# Reading selectors

Blanks matter in selectors and comments do not. A pseudo-element that is known ends its selector,
but for a few pseudo-classes. Selectors in `:is` and its like are left out if they cannot be read.

## Main definitions

* `Style.Manner` — how a list of selectors is read
* `Style.selectorsOf?` — selectors with commas between them
-/

namespace ComponentMarkup.Style

/-! ### How selectors are read -/

/-- What a selector stands for by itself. -/
inductive Stance
  | alone
  /-- Relative to an element, from which a combinator can start. -/
  | relative
  /-- Inside of a rule. -/
  | nested
  deriving DecidableEq

/-- How a list of selectors is read. -/
structure Manner where
  stance : Stance := .alone
  /-- Selectors that cannot be read are left out. -/
  forgiving : Bool := false

/-- What has been read of a selector, as far as it limits what may follow. -/
structure Progress where
  /-- After a pseudo-element that is known. -/
  afterElement : Bool := false
  /-- After a pseudo-element of a scrollbar. -/
  afterScrollbar : Bool := false
  afterPart : Bool := false
  afterSlotted : Bool := false
  /-- No pseudo-elements may stand here. -/
  withoutElements : Bool := false
  /-- No combinators may stand here. -/
  withoutCombinators : Bool := false

namespace Progress

/-- Whether nothing but pseudo-classes and pseudo-elements may follow. -/
def ends (p : Progress) : Bool := p.afterElement || p.afterPart || p.afterSlotted

/-- Whether a pseudo-element may follow. -/
def allowsElement (p : Progress) : Bool := !p.afterElement && !p.withoutElements

end Progress

/-- How the selectors in the parentheses of a pseudo-class are read. -/
abbrev Within := Progress → Manner → List Part → Option (List Selector)

/-! ### Small parts -/

/-- Passes over blanks; whether there were some. -/
def blanks : Reader Bool := fun parts =>
  some (parts.head?.any Part.isBlank, parts.dropWhile Part.isBlank)

/-- Whether nothing is left. -/
def isAtEnd : Reader Bool := fun parts => some (parts.isEmpty, parts)

/-- Fails unless something holds. -/
def require (condition : Bool) : Reader Unit := if condition then pure () else failure

/-- A name after `|`. -/
def nameIn (space : Space) : Reader Simple :=
  (.type space <$> ident) <|> (delim '*' *> pure (.universal space))

/-- A namespace with the `|` after it. -/
def spaceBefore : Reader Space :=
  (delim '|' *> pure .noSpace) <|>
  (delim '*' *> delim '|' *> pure .anySpace) <|>
  (do
    let name ← ident
    delim '|'
    pure (.named name))

/-- The type of an element, if one is given. A namespace must have a name after it. -/
def typeName : Reader (Option Simple) := do
  match ← optional spaceBefore with
  | some space => some <$> nameIn space
  | none => optional (nameIn .unstated)

/-- The operator of an attribute. -/
def attributeOperator : Reader String :=
  (delim '=' *> pure "=") <|>
  part fun p => match p with
    | .token (.matcher c) _ => some (c.toString ++ "=")
    | _ => none

/-- A test of an attribute, from what is in the brackets. -/
def attributeTest : Reader Simple := do
  let _ ← blanks
  let space := (← optional spaceBefore).getD .unstated
  let name ← ident
  let _ ← blanks
  if ← isAtEnd then return .attribute space name none
  let operator ← attributeOperator
  let _ ← blanks
  let value ← ident <|> string
  let _ ← blanks
  let flag ← optional (keyword ["i", "s"])
  let _ ← blanks
  atEnd
  pure (.attribute space name (some ⟨operator, value, (flag.map (" " ++ ·)).getD ""⟩))

/-! ### Series -/

/-- An integer with a sign, or without one. -/
def signedInteger (hasSign : Bool) : Reader Int :=
  part fun p => match p with
    | .token (.number n) _ => if n.hasSign == hasSign then n.integer else none
    | _ => none

/-- The offset of a series after its step. -/
def seriesOffset : Reader Int := do
  let signed (sign : Int) : Reader Int := do
    let _ ← blanks
    (sign * ·) <$> signedInteger false
  match ← optional (do let _ ← blanks; (delim '+' *> pure (1 : Int)) <|> (delim '-' *> pure (-1))) with
  | some sign => signed sign
  | none => (do let _ ← blanks; signedInteger true) <|> pure 0

/-- The step and the offset of a series from a name such as `n`, `n-` or `n-3`, given the step. -/
def seriesFromName (step : Int) (name : String) : Reader (Int × Int) :=
  match (lower name).toList with
  | ['n'] => do pure (step, ← seriesOffset)
  | ['n', '-'] => do
    let _ ← blanks
    pure (step, -(← signedInteger false))
  | 'n' :: '-' :: digits =>
    if digits.all Char.isDigit then
      pure (step, Numeral.clampInt (-(readDecimal digits : Int)))
    else failure
  | _ => failure

/-- The step and the offset of a series from its first part. -/
def seriesFrom : Part → Reader (Int × Int)
  | .token (.number n) _ =>
    match n.integer with
    | some i => pure (0, i)
    | none => failure
  | .token (.dimension n unit) _ =>
    match n.integer with
    | some step => seriesFromName step unit
    | none => failure
  | .token (.ident name) _ =>
    match (lower name).toList with
    | ['e', 'v', 'e', 'n'] => pure (2, 0)
    | ['o', 'd', 'd'] => pure (2, 1)
    | '-' :: more => seriesFromName (-1) (String.ofList more)
    | _ => seriesFromName 1 name
  | .token (.delim '+') _ => do seriesFromName 1 (← ident)
  | _ => failure

/-- The step and the offset of a series. -/
def seriesSteps : Reader (Int × Int) := do
  let _ ← blanks
  seriesFrom (← part some)

/-- A series, with the selectors it is among if the pseudo-class can have some. -/
def series (within : Within) (name : String) (p : Progress) : Reader Simple := do
  let (step, offset) ← seriesSteps
  let s : Series := ⟨name, step, offset⟩
  let _ ← blanks
  if ← isAtEnd then return .nth s
  require (["nth-child", "nth-last-child"].contains name)
  let _ ← word "of"
  let selectors ← within { p with withoutElements := true } { forgiving := true } (← get)
  set ([] : List Part)
  pure (.nthOf s selectors)

/-! ### Pseudo-classes -/

/-- The pseudo-classes of a series. -/
def seriesNames : List String :=
  ["nth-child", "nth-last-child", "nth-of-type", "nth-last-of-type", "nth-col", "nth-last-col"]

/-- The compound selector in the parentheses of a pseudo-class or a pseudo-element. -/
def compoundWithin (within : Within) (p : Progress) (arguments : List Part) : Option Selector :=
  match within { p with withoutElements := true, withoutCombinators := true } {} arguments with
  | some [s] => some s
  | _ => none

/-- The languages or directions that a pseudo-class is about. -/
def words : Reader String := do
  let names ← commaList (identText <$> (ident <|> string))
  pure (",".intercalate names)

/-- A pseudo-class with arguments. -/
def functionalState (within : Within) (p : Progress) (name : String) (arguments : List Part) :
    Option Simple :=
  let called := lower name
  if seriesNames.contains called then
    if p.ends then none
    else match (series within called p).run (withoutComments arguments) with
      | some (s, []) => some s
      | _ => none
  else if ["is", "where", "-webkit-any", "-moz-any"].contains called then
    (within { p with withoutElements := true } { forgiving := true } arguments).map (.among called)
  else if called == "not" then
    (within { p with withoutElements := true } {} arguments).map (.among called)
  else if called == "has" then
    (within p { stance := .relative, forgiving := true } arguments).map .has
  else if called == "host" then
    if p.ends then none else (compoundWithin within p arguments).map .host
  else if p.afterSlotted then none
  else if called == "lang" || called == "dir" then
    (readAll? words arguments).map fun text => .state (":" ++ called ++ "(" ++ text ++ ")")
  else (verbatimText? arguments).map fun text => .state (":" ++ name ++ "(" ++ text ++ ")")

/-- A pseudo-class without arguments. -/
def plainState (p : Progress) (name : String) : Option Simple :=
  let called := lower name
  if p.afterSlotted then none
  else if !p.ends && called == "scope" then some .scope
  else if !p.ends && structuralStates.contains called then some (.state (stateText called))
  else if p.afterScrollbar then
    if followsScrollbar called then some (.state (stateText name)) else none
  else if p.afterElement then
    if isUserAction called then some (.state (stateText name)) else none
  else if scrollbarStates.contains called then none
  else if structuralStates.contains called then some (.state (":" ++ name))
  else some (.state (stateText name))

/-! ### Pseudo-elements -/

/-- A pseudo-element with arguments. -/
def functionalElement (within : Within) (p : Progress) (name : String) (arguments : List Part) :
    Option (Simple × Progress) :=
  if !p.allowsElement then none
  else if lower name == "part" then
    if p.ends then none
    else (readAll? (some1 ident) arguments).map fun names =>
      (.part names, { p with afterPart := true })
  else if lower name == "slotted" then
    if p.ends then none
    else (compoundWithin within p arguments).map fun s =>
      (.slotted s, { p with afterSlotted := true })
  else if p.afterSlotted then none
  else (verbatimText? arguments).map fun text => (.element ("::" ++ name ++ "(" ++ text ++ ")"), p)

/-- A pseudo-element without arguments. -/
def plainElement (p : Progress) (name : String) : Option (Simple × Progress) :=
  let called := lower name
  if !p.allowsElement then none
  else if p.afterSlotted && !followsSlotted called then none
  else some (.element (elementText name),
    { p with
      afterElement := isKnownElement called
      afterScrollbar := scrollbarElements.contains called })

/-! ### Simple selectors -/

/-- What follows one colon or two: a name, with its arguments if it has some. -/
def pseudoName : Reader (String × Option (List Part)) :=
  part fun p => match p with
    | .token (.ident name) _ => some (name, none)
    | .block (.function name) _ arguments _ => some (name, some arguments)
    | _ => none

/-- A pseudo-class or pseudo-element after its first colon. -/
def pseudo (within : Within) (p : Progress) : Reader (Simple × Progress) := do
  let double := (← optional colon).isSome
  let (name, arguments) ← pseudoName
  let read :=
    if double || singleColonElements.contains (lower name) then
      match arguments with
      | some parts => functionalElement within p name parts
      | none => plainElement p name
    else
      (match arguments with
      | some parts => functionalState within p name parts
      | none => plainState p name).map fun s => (s, p)
  StateT.lift read

/-- The next simple selector, if there is one. -/
def simple (within : Within) (p : Progress) : Reader (Option (Simple × Progress)) := fun parts =>
  match parts with
  | .token (.hash name true) _ :: rest =>
    if p.ends then none else some (some (.id name, p), rest)
  | .token (.delim '.') _ :: .token (.ident name) _ :: rest =>
    if p.ends then none else some (some (.classed name, p), rest)
  | .token (.delim '.') _ :: _ => none
  | .block .square _ inside _ :: rest =>
    if p.ends then none
    else (attributeTest.run' (withoutComments inside)).map fun s => (some (s, p), rest)
  | .token .colon _ :: rest => (pseudo within p).run rest |>.map fun (s, rest) => (some s, rest)
  | .token (.delim '&') _ :: rest => some (some (.parent, p), rest)
  | parts => some (none, parts)

/-- Simple selectors, `count` at most, as long as there are some. -/
def simples (within : Within) : Nat → Progress → Reader (Selector × Progress)
  | 0, p => pure ([], p)
  | count + 1, p => do
    match ← simple within p with
    | none => pure ([], p)
    | some (s, p) =>
      let (more, p) ← simples within count p
      pure (s :: more, p)

/-- The simple selectors of one element. -/
def compound (within : Within) (p : Progress) : Reader (Selector × Progress) := do
  let _ ← blanks
  let parent ← optional (delim '&')
  let type ← typeName
  require (type.isNone || !p.ends)
  let (more, p) ← simples within (← get).length p
  pure ((parent.map fun _ => Simple.parent).toList ++ type.toList ++ more, p)

/-! ### Selectors -/

/-- A combinator that has a character of its own. -/
def shownCombinator : Reader Combinator :=
  (delim '>' *> pure .child) <|> (delim '+' *> pure .next) <|> (delim '~' *> pure .subsequent)

/-- The combinator before the next element, if there is one. -/
def combinator : Reader (Option Combinator) := do
  let spaced ← blanks
  match ← optional shownCombinator with
  | some c => pure (some c)
  | none => if spaced && !(← isAtEnd) then pure (some .descendant) else pure none

/-- A selector of at most `count` elements. -/
def elements (within : Within) : Nat → Progress → Reader Selector
  | 0, _ => failure
  | count + 1, p => do
    let (found, p) ← compound within p
    require !found.isEmpty
    if p.ends then
      let _ ← blanks
      atEnd
      return found
    match ← combinator with
    | none => pure found
    | some c =>
      require !p.withoutCombinators
      pure (found ++ .join c :: (← elements within count p))

/-- A selector. One inside of a rule that does not speak of what it is nested in is about what is
inside of that. -/
def selector (within : Within) (stance : Stance) (p : Progress) : Reader Selector := do
  let _ ← blanks
  let first ← if stance == .alone then pure none else optional shownCombinator
  let found ← elements within (← get).length p
  match stance, first with
  | .nested, some c => pure (.parent :: .join c :: found)
  | .nested, none =>
    if mentionsParent found then pure found else pure (.parent :: .join .descendant :: found)
  | _, some c => pure (.scope :: .join c :: found)
  | _, none => pure found

/-- Selectors with commas between them. -/
def selectorsWith (within : Within) : Within := fun p manner parts =>
  let read (segment : List Part) : Option Selector :=
    match (selector within manner.stance p).run segment with
    | some (s, []) => some s
    | _ => none
  let segments := (withoutComments parts).splitOnP Part.isComma
  if manner.forgiving then some (segments.filterMap read) else segments.mapM read

/-- Selectors, with others in parentheses up to some depth. -/
def selectorsWithin : Nat → Within
  | 0 => fun _ _ _ => none
  | depth + 1 => selectorsWith (selectorsWithin depth)

/-- Selectors with commas between them. -/
def selectorsOf? (manner : Manner) (parts : List Part) : Option (List Selector) :=
  selectorsWithin (sourceOf parts).length.succ {} manner parts

end ComponentMarkup.Style
