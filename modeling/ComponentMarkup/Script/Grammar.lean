import ComponentMarkup.Script.Grammar.Statement

/-!
# The grammar of expressions and scripts

The rules of the grammar tied together, and the two forms in which source texts arrive: an
expression, after which anything may follow as long as it begins with a token, and a module.

## Main definitions

* `Script.Rules.upTo` — the rules, with texts nested at most a given depth
* `Script.parseExpression?` — the expression that a text begins with
* `Script.parseModule?` — the items of a module
-/

namespace ComponentMarkup.Script

/-- The rules of the grammar for texts that nest at most as deep as given. -/
def Rules.upTo : Nat → Rules
  | 0 => Rules.none
  | depth + 1 =>
    let r := Rules.upTo depth
    { assignment := assignmentExpression r
      unary := unaryExpression r
      power := powerExpression r
      construction := constructionExpression r
      pattern := bindingPattern r
      statement := anyStatement r }

/-- The rules of the grammar for a text: no text nests deeper than it is long. -/
def Rules.forText (text : List Char) : Rules := Rules.upTo (text.length + 2)

/-- Runs a parser on a text. Properties that only a target can hold must have been read as part
of one. -/
def parseText? {α : Type} (p : Parser α) (text : List Char) : Option α := do
  let s ← Cursor.ofText? text
  let (a, s) ← p s
  if s.covers == 0 then some a else none

/-- The expression that a text begins with. The token after it must be one, but is not read. -/
def parseExpression? (text : String) : Option Expr :=
  parseText? (expression (Rules.forText text.toList)) text.toList

/-! ### Modules -/

/-- The name of an export or import, which may be a text. -/
def moduleName : Parser Unit := do
  match ← token with
  | .text _ => advance
  | _ =>
    let _ ← anyName
    pure ()

/-- What follows `from`: a text, and attributes that may follow it. -/
def fromClause (r : Rules) : Parser Unit := do
  match ← token with
  | .text _ => advance
  | _ => failure
  if ← takeWord "with" then
    expectMark "\x7b"
    let _ ← separated "\x7d" do
      let _ ← propertyKey r
      expectMark ":"
      match ← token with
      | .text _ => advance
      | _ => failure

/-- The names of an import in braces: each may be renamed to an identifier. -/
def importNames : Parser Unit := do
  let _ ← separated "\x7d" do
    let plain ← ahead do
      let _ ← identifier
      pure !(← atWord "as")
    if plain then advance
    else
      moduleName
      expectWord "as"
      let _ ← identifier
      pure ()

/-- An import declaration after its first word. -/
def importRest (r : Rules) : Parser Unit := do
  match ← token with
  | .text _ => fromClause r
  | _ =>
    let star : Parser Unit := do
      expectWord "as"
      let _ ← identifier
      pure ()
    if ← takeMark "*" then star
    else if ← takeMark "\x7b" then importNames
    else
      let _ ← identifier
      if ← takeMark "," then
        if ← takeMark "*" then star
        else
          expectMark "\x7b"
          importNames
    expectWord "from"
    fromClause r
  endStatement

/-- The names of an export in braces; without a module they come from, they are identifiers. -/
def exportNames (r : Rules) : Parser Unit := do
  let plain ← separated "\x7d" do
    let isName ← ahead do
      let _ ← identifier
      pure true
    moduleName
    if ← takeWord "as" then moduleName
    pure isName
  if ← takeWord "from" then fromClause r
  else if !plain.all id then failure
  endStatement

/-- What a module exports by default, after the word `default`. -/
def defaultExport (r : Rules) : Parser DefaultExport := do
  let isAsyncFunction ← ahead do
    expectWord "async"
    pure (!(← afterLineEnd) && (← atWord "function"))
  if ← atWord "function" then
    let f ← functionExpression r false
    pure (.function f)
  else if isAsyncFunction then
    advance
    let f ← functionExpression r true
    pure (.function f)
  else if ← takeWord "class" then
    let _ ← classRest r
    pure .other
  else
    let e ← r.assignment
    endStatement
    pure (.expr e)

/-- An export declaration after its first word. -/
def exportRest (r : Rules) (start : Nat) : Parser Item := do
  if ← takeMark "*" then
    if ← takeWord "as" then moduleName
    expectWord "from"
    fromClause r
    endStatement
    pure (.statement (.foreign (← sourceFrom start) []))
  else if ← takeMark "\x7b" then
    exportNames r
    pure .exportNames
  else if ← takeWord "default" then
    let d ← defaultExport r
    pure (.exportDefault d)
  else if let some kind ← takeDeclarationWord then
    let ds ← declarators r kind
    endStatement
    pure (.exportVariables ds)
  else
    match ← token with
    | .name word false =>
      if word == "function" || word == "class" || word == "async" then
        match ← foreignWord r word with
        | some _ => pure (.exportOther (← sourceFrom start))
        | none => failure
      else failure
    | _ => failure

/-- One item of a module. -/
def moduleItem (r : Rules) : Parser Item := do
  let start ← place
  let isImport ← ahead do
    expectWord "import"
    pure (!(← atMark "(") && !(← atMark "."))
  if isImport then
    advance
    importRest r
    pure (.statement (.foreign (← sourceFrom start) []))
  else if ← takeWord "export" then exportRest r start
  else
    let s ← r.statement
    pure (.statement s)

/-- A text that stands alone at the head of a module gives directions and is no item. -/
def Item.isDirective : Item → Bool
  | .statement s => Script.isDirective s
  | _ => false

/-- All items up to the end of the text. -/
def moduleItems (r : Rules) : Parser (List Item) := do
  let items ← iterate (fun acc => do
    if ← atEnd then pure none
    else
      let i ← moduleItem r
      pure (some (i :: acc))) []
  pure (items.reverse.dropWhile Item.isDirective)

/-- A line at the very head that begins with `#!` is no part of a module. -/
def skipInterpreterLine : List Char → List Char
  | '#' :: '!' :: rest => rest.dropWhile (!isLineEnd ·)
  | cs => cs

/-- The items of a module. -/
def parseModule? (text : String) : Option (List Item) :=
  let cs := skipInterpreterLine text.toList
  parseText? (moduleItems (Rules.forText cs)) cs

end ComponentMarkup.Script
