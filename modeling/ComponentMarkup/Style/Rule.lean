import ComponentMarkup.Style.Declaration
import ComponentMarkup.Style.Query.Container
import ComponentMarkup.Style.Query.Media
import ComponentMarkup.Style.Query.Supports
import ComponentMarkup.Style.Selector

/-!
# Rules

The rules of a style sheet and their shortest texts.

## Main definitions

* `Style.Group` — what a group of rules depends on
* `Style.Rule` — rules
* `Style.ruleText`, `Style.rulesText`, `Style.blockText` — their texts
-/

namespace ComponentMarkup.Style

/-! ### Groups -/

/-- What a group of rules depends on. -/
inductive Group
  | media (queries : List MediaQuery)
  | supports (c : Condition Support)
  | layer (name : Option String)
  | container (q : ContainerQuery)
  /-- A block that one browser understands. -/
  | document
  /-- A part of the document, from some elements down to others. -/
  | scope (start stop : Option (List Selector))
  | startingStyle

namespace Group

/-- The text of the selectors of a scope. -/
def scopeText (start stop : Option (List Selector)) : String :=
  (match start with
    | some selectors => "(" ++ selectorListText selectors ++ ")"
    | none => "") ++
  match stop with
    | some selectors => " to (" ++ selectorListText selectors ++ ")"
    | none => ""

/-- What stands before the block of a group. -/
def heading : Group → String
  | media queries => "@media " ++ mediaText queries
  | supports c => "@supports " ++ supportsText c
  | layer name => "@layer" ++ (match name with
    | some n => " " ++ n
    | none => "")
  | container q => "@container " ++ q.text
  | document => "@-moz-document url-prefix()"
  | scope start stop => "@scope" ++ scopeText start stop
  | startingStyle => "@starting-style"

/-- Whether the rules of a group are written without it. -/
def isTransparent : Group → Bool
  | media queries => alwaysMatches queries
  | _ => false

/-- The text of a group around the text of its rules. -/
def wrap (g : Group) (contents : String) : String :=
  if g.isTransparent then contents else g.heading ++ "\x7b" ++ contents ++ "\x7d"

end Group

/-! ### Rules -/

/-- A rule. -/
inductive Rule
  /-- Declarations for some elements, and the rules inside of these. -/
  | style (selectors : List Selector) (own : List Declaration) (rules : List Rule)
  /-- A rule inside of another one, that says so. -/
  | nest (selectors : List Selector) (own : List Declaration) (rules : List Rule)
  | group (g : Group) (rules : List Rule)
  /-- Declarations for the elements of the rule around them. -/
  | declarations (own : List Declaration)
  /-- Any other rule, as it is written. -/
  | other (text : String)

/-- Whether a rule is written without brackets around it. -/
def Rule.isBare : Rule → Bool
  | .declarations _ => true
  | _ => false

/-- A block of declarations before the text of some rules. -/
def blockAround (own : List Declaration) (rules : String) (isLast : Bool) : String :=
  "\x7b" ++ declarationsText own ++ (if own.isEmpty || isLast then "" else ";") ++ rules ++ "\x7d"

mutual

/-- A rule as it is written. -/
def ruleText : Rule → String
  | .style selectors own rules =>
    selectorListText selectors ++ blockAround own (rulesText rules) rules.isEmpty
  | .nest selectors own rules =>
    "@nest " ++ selectorListText selectors ++ blockAround own (rulesText rules) rules.isEmpty
  | .group g rules => g.wrap (rulesText rules)
  | .declarations own => declarationsText own
  | .other text => text
termination_by structural r => r

/-- Rules as they are written. -/
def rulesText : List Rule → String
  | [] => ""
  | r :: rules =>
    ruleText r ++ (if r.isBare && !rules.isEmpty then ";" else "") ++ rulesText rules
termination_by structural rules => rules

end

/-- The block of a rule as it is written. -/
def blockText (own : List Declaration) (rules : List Rule) : String :=
  blockAround own (rulesText rules) rules.isEmpty

end ComponentMarkup.Style
