import ComponentMarkup.Style.Text

/-!
# Selectors

What a rule applies to. A selector is a list of simple selectors; those without a combinator between
them speak of the same element.

## Main definitions

* `Style.Simple` — simple selectors, and the combinators between them
* `Style.Selector` — selectors
* `Style.selectorText`, `Style.selectorsText` — their shortest texts
* `Style.mentionsParent` — whether a selector speaks of what a rule is nested in
-/

namespace ComponentMarkup.Style

/-! ### Parts of simple selectors -/

/-- How an element stands to the one before it. -/
inductive Combinator
  | descendant
  | child
  | next
  | subsequent
  deriving DecidableEq

/-- A combinator as it is written. -/
def Combinator.text : Combinator → String
  | .descendant => " "
  | .child => ">"
  | .next => "+"
  | .subsequent => "~"

/-- The namespace of a name. -/
inductive Space
  | unstated
  | anySpace
  | noSpace
  | named (name : String)
  deriving DecidableEq

/-- A namespace as it stands before a name. -/
def Space.text : Space → String
  | .unstated => ""
  | .anySpace => "*|"
  | .noSpace => "|"
  | .named name => identText name ++ "|"

/-- A test of the value of an attribute. -/
structure AttributeTest where
  /-- The operator, such as `=` or `^=`. -/
  operator : String
  value : String
  /-- The letter that says whether case matters, with a blank before it. -/
  flag : String

/-- The value of an attribute, without quotes where they are not needed. -/
def attributeValueText (value : String) : String :=
  let bare := identText value
  let quoted := stringText value
  if !bare.isEmpty && bare.utf8ByteSize < quoted.utf8ByteSize then bare else quoted

/-- A test of an attribute as it is written. Names with a namespace have their values in quotes. -/
def attributeText (space : Space) (name : String) (test : Option AttributeTest) : String :=
  let space := if space == .noSpace then .unstated else space
  let value (v : String) := if space == .unstated then attributeValueText v else stringText v
  let tested := match test with
    | some t => t.operator ++ value t.value ++ t.flag
    | none => ""
  "[" ++ space.text ++ identText name ++ tested ++ "]"

/-- Every so many of the elements that have the same parent, from some one on. -/
structure Series where
  /-- The name of the pseudo-class, such as `nth-child`. -/
  name : String
  step : Int
  offset : Int

/-- A number with its sign. -/
def signedText (i : Int) : String := if 0 ≤ i then "+" ++ toString i else toString i

/-- The steps of a series. -/
def Series.stepText (s : Series) : String :=
  if s.step == 0 then toString s.offset
  else if s.step == 2 && s.offset == 1 then "odd"
  else
    let step := if s.step == 1 then "n" else if s.step == -1 then "-n" else toString s.step ++ "n"
    if s.offset == 0 then step else step ++ signedText s.offset

/-- The pseudo-classes that stand for a series of one element. -/
def singleName? : String → Option String
  | "nth-child" => some "first-child"
  | "nth-last-child" => some "last-child"
  | "nth-of-type" => some "first-of-type"
  | "nth-last-of-type" => some "last-of-type"
  | _ => none

/-- A series as it is written. -/
def Series.text (s : Series) : String :=
  match singleName? s.name, s.step == 0 && s.offset == 1 with
  | some name, true => ":" ++ name
  | _, _ => ":" ++ s.name ++ "(" ++ s.stepText ++ ")"

/-! ### Selectors -/

/-- Simple selectors, and the combinators between them. -/
inductive Simple
  /-- The combinator between two elements. -/
  | join (c : Combinator)
  /-- What the rule is nested in. -/
  | parent
  | type (space : Space) (name : String)
  | universal (space : Space)
  | id (name : String)
  | classed (name : String)
  | attribute (space : Space) (name : String) (test : Option AttributeTest)
  /-- The element that a relative selector is about. -/
  | scope
  /-- A pseudo-class without selectors in it, as it is written. -/
  | state (text : String)
  | nth (series : Series)
  | nthOf (series : Series) (selectors : List (List Simple))
  /-- A pseudo-class about some selectors: `is`, `where`, `not`, … -/
  | among (name : String) (selectors : List (List Simple))
  /-- Elements that have others, given by relative selectors. -/
  | has (selectors : List (List Simple))
  | host (compound : List Simple)
  | slotted (compound : List Simple)
  /-- A pseudo-element, as it is written. -/
  | element (text : String)
  | part (names : List String)

/-- A selector: simple selectors with combinators among them. -/
abbrev Selector := List Simple

namespace Simple

/-- Whether this is a combinator. -/
def isJoin : Simple → Bool
  | .join _ => true
  | _ => false

/-- Whether this is about the type of an element. -/
def isType : Simple → Bool
  | .type _ _ => true
  | .universal _ => true
  | _ => false

/-- Whether this says of an element without it that its type does not matter. -/
def impliesUniversal : Simple → Bool
  | .join _ => false
  | .part _ => false
  | _ => true

/-- Whether this is the element that a relative selector is about. -/
def isScope : Simple → Bool
  | .scope => true
  | _ => false

end Simple

/-- Whether a choice among selectors is the same as its only one. -/
def isPlainChoice (name : String) (selectors : List Selector) : Bool :=
  match selectors with
  | [s] => name == "is" && !(s.head?.any Simple.isType) && !s.any Simple.isJoin
  | _ => false

mutual

/-- The text of a simple selector; `more` is what follows it. -/
def simpleText (more : Selector) : Simple → String
  | .join c => c.text
  | .parent => "&"
  | .type space name => space.text ++ identText name
  | .universal space =>
    if space == .unstated && (more.head?.any Simple.impliesUniversal) then "" else space.text ++ "*"
  | .id name => "#" ++ identText name
  | .classed name => "." ++ identText name
  | .attribute space name test => attributeText space name test
  | .scope => ":scope"
  | .state text => text
  | .nth series => series.text
  | .nthOf series selectors =>
    ":" ++ series.name ++ "(" ++ series.stepText ++ " of " ++ selectorsText true selectors ++ ")"
  | .among name selectors =>
    if isPlainChoice name selectors then selectorsText false selectors
    else ":" ++ name ++ "(" ++ selectorsText false selectors ++ ")"
  | .has selectors => ":has(" ++ selectorsText true selectors ++ ")"
  | .host compound => ":host(" ++ selectorText compound ++ ")"
  | .slotted compound => "::slotted(" ++ selectorText compound ++ ")"
  | .element text => text
  | .part names => "::part(" ++ " ".intercalate (names.map identText) ++ ")"
termination_by structural s => s

/-- The text of a selector. -/
def selectorText : List Simple → String
  | [] => ""
  | s :: more => simpleText more s ++ selectorText more
termination_by structural s => s

/-- The text of a selector. The element that a `relative` one is about is left out at its start. -/
def relativeText (relative : Bool) : List Simple → String
  | [] => ""
  | s :: more =>
    if relative && s.isScope then selectorText more else simpleText more s ++ selectorText more
termination_by structural s => s

/-- The text of selectors with commas between them. -/
def selectorsText (relative : Bool) : List (List Simple) → String
  | [] => ""
  | s :: more =>
    if more.isEmpty then relativeText relative s
    else relativeText relative s ++ "," ++ selectorsText relative more
termination_by structural s => s

end

/-! ### Nesting -/

mutual

/-- Whether a simple selector speaks of what a rule is nested in. -/
def Simple.mentionsParent : Simple → Bool
  | .parent => true
  | .nthOf _ selectors => anyMentionsParent selectors
  | .among _ selectors => anyMentionsParent selectors
  | .has selectors => anyMentionsParent selectors
  | .host compound => Style.mentionsParent compound
  | .slotted compound => Style.mentionsParent compound
  | _ => false
termination_by structural s => s

/-- Whether a selector speaks of what a rule is nested in. -/
def mentionsParent : List Simple → Bool
  | [] => false
  | s :: more => s.mentionsParent || Style.mentionsParent more
termination_by structural s => s

/-- Whether one of some selectors speaks of what a rule is nested in. -/
def anyMentionsParent : List (List Simple) → Bool
  | [] => false
  | s :: more => Style.mentionsParent s || anyMentionsParent more
termination_by structural s => s

end

/-- The text of the selectors of a rule. -/
def selectorListText (selectors : List Selector) : String := selectorsText false selectors

end ComponentMarkup.Style
