import ComponentMarkup.Style.ScopeId
import ComponentMarkup.Style.Sheet
import ComponentMarkup.Text.Blank
import ComponentMarkup.Text.Search
import ComponentMarkup.Text.Word

/-!
# Scoping

Restricting a style sheet to a part of a document: all its selectors are put under a class. A rule
for the host of that part is about the class itself.

## Main definitions

* `Style.scopedSelector` — a selector under a scope
* `Style.scopedRules` — rules under a scope
* `Style.scopeSheet` — a style sheet under a scope
-/

namespace ComponentMarkup.Style

/-! ### Selectors -/

/-- What follows the parenthesis that closes a first one, and what stands before it. `depth` is how
many are open, `quote` the quote that a string is in, and `escaped` whether the next character of it
stands for itself. -/
def splitClosing (depth : Nat) (quote : Option Char) (escaped : Bool) :
    List Char → Option (List Char × List Char)
  | [] => none
  | c :: rest =>
    let go (depth : Nat) (quote : Option Char) (escaped : Bool) :=
      (splitClosing depth quote escaped rest).map fun (before, after) => (c :: before, after)
    match quote with
    | some q =>
      if escaped then go depth quote false
      else if c == '\\' then go depth quote true
      else if c == q then go depth none false
      else go depth quote false
    | none =>
      if c == '"' || c == '\'' then go depth (some c) false
      else if c == '(' then go (depth + 1) none false
      else if c == ')' then
        match depth with
        | 0 => some ([], rest)
        | depth + 1 => go depth none false
      else go depth none false

/-- Whether a selector is one of the class of a scope already. -/
def isScoped (scope selector : String) : Bool :=
  match dropStart? selector scope with
  | some rest =>
    match rest.toList with
    | c :: _ => !(isAlphanumeric c || c == '-' || c == '_')
    | [] => true
  | none => false

/-- A selector for the host, from what follows the word. -/
def hostSelector (scope rest : String) : String :=
  match rest.toList with
  | '(' :: arguments =>
    match splitClosing 0 none false arguments with
    | some (inner, after) => scope ++ trim (String.ofList inner) ++ String.ofList after
    | none => scope ++ trim (String.ofList arguments)
  | _ => scope ++ rest

/-- A selector under the class of a scope. What is outside of the scope is left alone. -/
def scopedSelector (scope selector : String) : String :=
  if isScoped scope selector || hasStart selector ":host-context" then selector
  else
    match dropStart? selector ":host" with
    | some rest => hostSelector scope rest
    | none => scope ++ " " ++ selector

/-! ### Rules -/

/-- Whether the rules of a group are put under a scope. -/
def Group.isScoped : Group → Bool
  | .scope _ _ => false
  | .startingStyle => false
  | _ => true

mutual

/-- A rule under the class of a scope, as it is written. -/
def scopedRule (scope : String) : Rule → String
  | .style selectors own rules =>
    ",".intercalate (selectors.map fun s => scopedSelector scope (selectorText s)) ++
      blockText own rules
  | .group g rules => g.wrap (if g.isScoped then scopedRules scope rules else rulesText rules)
  | r => ruleText r
termination_by structural r => r

/-- Rules under the class of a scope, as they are written. -/
def scopedRules (scope : String) : List Rule → String
  | [] => ""
  | r :: rules => scopedRule scope r ++ scopedRules scope rules
termination_by structural rules => rules

end

/-- A style sheet under the class of a scope. -/
def scopeSheet (scopeId css : String) : Except String String :=
  match sheet? css with
  | some rules => .ok (scopedRules ("." ++ scopeId) rules)
  | none => .error "invalid stylesheet: unexpected token"

end ComponentMarkup.Style
