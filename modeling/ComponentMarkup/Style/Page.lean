import ComponentMarkup.Style.Declaration

/-!
# Pages

How pages are laid out that are printed: declarations for the pages and for the boxes in their
margins.

## Main definitions

* `Style.PageRule` — a rule for pages
* `Style.page?` — reads a rule for pages
-/

namespace ComponentMarkup.Style

/-- The pages that a rule is for: their name and their pseudo-classes. -/
structure PageSelector where
  name : Option String
  states : List String

/-- A selector of pages as it is written. -/
def PageSelector.text (s : PageSelector) : String :=
  (s.name.getD "") ++ String.join (s.states.map (":" ++ ·))

/-- A box in the margin of a page. -/
structure MarginBox where
  name : String
  declarations : List Declaration

/-- A box in the margin as it is written. -/
def MarginBox.text (b : MarginBox) : String := "@" ++ b.name ++ declarationBlockText b.declarations

/-- A rule for pages. -/
structure PageRule where
  selectors : List PageSelector
  declarations : List Declaration
  boxes : List MarginBox

/-- A rule for pages as it is written. -/
def PageRule.text (r : PageRule) : String :=
  let spaced := match r.selectors with
    | s :: _ => if s.name.isSome then " " else ""
    | [] => ""
  let own := declarationsText r.declarations
  let own := if r.declarations.isEmpty || r.boxes.isEmpty then own else own ++ ";"
  "@page" ++ spaced ++ ",".intercalate (r.selectors.map PageSelector.text) ++ "\x7b" ++ own ++
    String.join (r.boxes.map MarginBox.text) ++ "\x7d"

/-! ### Reading -/

/-- The names of the boxes in the margins of a page. -/
def marginBoxes : List String :=
  ["top-left-corner", "top-left", "top-center", "top-right", "top-right-corner", "left-top",
    "left-middle", "left-bottom", "right-top", "right-middle", "right-bottom",
    "bottom-left-corner", "bottom-left", "bottom-center", "bottom-right", "bottom-right-corner"]

/-- A selector of pages. -/
def pageSelector : Reader PageSelector := do
  let name ← optional (identText <$> ident)
  let states ← many (do
    colon
    keyword ["left", "right", "first", "last", "blank"])
  if name.isNone && states.isEmpty then failure
  pure ⟨name, states⟩

/-- A box in the margin of a page. -/
def marginBox? : Entry → Option MarginBox
  | .atRule name prelude (some body) =>
    if marginBoxes.contains (lower name) && (significant prelude).isEmpty then
      (declarations? body).map fun ds => ⟨lower name, ds⟩
    else none
  | _ => none

/-- Whether an entry is a declaration. -/
def Entry.isDeclaration : Entry → Bool
  | .declaration _ _ => true
  | _ => false

/-- A rule for pages, from what stands before its block and in it. -/
def page? (prelude body : List Part) : Option PageRule := do
  let selectors ←
    if (significant prelude).isEmpty then some [] else readAll? (commaList pageSelector) prelude
  let found := entries body
  let declarations ← (found.filter Entry.isDeclaration).mapM Entry.declaration?
  let boxes ← (found.filter (!·.isDeclaration)).mapM marginBox?
  pure ⟨selectors, declarations, boxes⟩

end ComponentMarkup.Style
