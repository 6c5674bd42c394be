import ComponentMarkup.Script.Grammar.Expression

/-!
# Statements

The rules for statements. Declarations, expressions, `return`, `if`, blocks and empty statements
are kept; every other statement becomes a foreign one with its source text.

## Main definitions

* `Script.anyStatement` — one statement
* `Script.declarators` — the variables of a declaration
-/

namespace ComponentMarkup.Script

/-- A foreign statement that began at a place and ends with the last token taken. -/
def foreignStatement (start : Nat) (mentions : List Mention) : Parser Stmt := do
  pure (.foreign (← sourceFrom start) mentions)

/-! ### Declarations -/

/-- How variables are declared, as far as it decides whether they need a value. -/
inductive DeclarationKind
  | free
  | valued
  deriving DecidableEq

/-- Takes the words that begin a declaration of variables, if they stand at the cursor: `var`,
`const`, and those that are also identifiers, where a name or a pattern follows. -/
def takeDeclarationWord : Parser (Option DeclarationKind) := do
  let follows (patterns : Bool) : Parser Bool := do
    match ← token with
    | .name id _ => pure (!reservedWords.contains id && id != "in" && id != "of")
    | .mark m => pure (patterns && (m == "[" || m == "\x7b"))
    | _ => pure false
  let begins ← ahead do
    advance
    follows true
  if ← takeWord "var" then pure (some .free)
  else if ← takeWord "const" then pure (some .valued)
  else if (← atWord "let") && begins then
    advance
    pure (some .free)
  else
    let usingBegins ← ahead do
      advance
      if ← afterLineEnd then pure false else follows false
    let awaitBegins ← ahead do
      advance
      if ← afterLineEnd then pure false
      else
        expectWord "using"
        if ← afterLineEnd then pure false else follows false
    if (← atWord "using") && usingBegins then
      advance
      pure (some .valued)
    else if (← atWord "await") && awaitBegins then
      advance
      advance
      pure (some .valued)
    else pure none

/-- Whether the pattern is a single name. -/
def Pattern.isName : Pattern → Bool
  | .name _ => true
  | _ => false

/-- Variables without regard to whether they have the value they need. -/
def looseDeclarators (r : Rules) : Parser (List Declarator) := do
  let one : Parser Declarator := do
    let p ← r.pattern
    if ← takeMark "=" then
      let e ← r.assignment
      pure (.mk p (some e))
    else pure (.mk p none)
  let first ← one
  let ds ← iterate (fun acc => do
    if ← takeMark "," then
      let d ← one
      pure (some (d :: acc))
    else pure none) [first]
  pure ds.reverse

/-- Whether the variable has the value that its kind or its pattern asks for. -/
def Declarator.isComplete (kind : DeclarationKind) : Declarator → Bool
  | .mk p value => value.isSome || (kind == .free && p.isName)

/-- The variables of a declaration. -/
def declarators (r : Rules) (kind : DeclarationKind) : Parser (List Declarator) := do
  let ds ← looseDeclarators r
  if ds.all (Declarator.isComplete kind) then pure ds else failure

/-! ### Loops and other foreign statements -/

/-- What stands in the parentheses of a `for`, as the names it mentions. -/
def loopHead (r : Rules) : Parser (List Mention) := do
  let tail (first : List Mention) : Parser (List Mention) := do
    expectMark ";"
    let test ← if ← atMark ";" then pure [] else do
      let e ← expression r
      pure e.mentions
    expectMark ";"
    let step ← if ← atMark ")" then pure [] else do
      let e ← expression r
      pure e.mentions
    expectMark ")"
    pure (first ++ test ++ step)
  let across (first : List Mention) : Parser (List Mention) := do
    let e ← if ← takeWord "of" then r.assignment else do
      expectWord "in"
      expression r
    expectMark ")"
    pure (first ++ e.mentions)
  expectMark "("
  if ← atMark ";" then tail []
  else
    let noIn {α : Type} (p : Parser α) : Parser α := within (fun s => { s with allowIn := false }) p
    match ← takeDeclarationWord with
    | some kind =>
      let ds ← noIn (looseDeclarators r)
      let mentions := declaratorsMentions ds
      if ← atMark ";" then
        if ds.all (Declarator.isComplete kind) then tail mentions else failure
      else across mentions
    | none =>
      let steps ← get
      let e ← noIn (expression r)
      if ← atMark ";" then tail e.mentions
      else if e.isTarget (steps.rest.length + 2) then
        modify fun s => { s with covers := steps.covers }
        across e.mentions
      else failure

/-- A statement in parentheses' company: an expression in parentheses. -/
def parenthesized (r : Rules) : Parser Expr := do
  expectMark "("
  let e ← expression r
  expectMark ")"
  pure e

/-- A block, as its statements. -/
def blockStatements (r : Rules) : Parser (List Stmt) := do
  expectMark "\x7b"
  manyUntil "\x7d" r.statement

/-- The parts of a `try` after the word, as the names they mention. -/
def tryRest (r : Rules) : Parser (List Mention) := do
  let body ← blockStatements r
  let handler ← if ← takeWord "catch" then do
      let parameter ← if ← takeMark "(" then do
          let p ← r.pattern
          expectMark ")"
          pure p.mentions
        else pure []
      let ss ← blockStatements r
      pure (some (parameter ++ stmtsMentions ss))
    else pure none
  let finalizer ← if ← takeWord "finally" then do
      let ss ← blockStatements r
      pure (some (stmtsMentions ss))
    else pure none
  if handler.isNone && finalizer.isNone then failure
  pure (stmtsMentions body ++ handler.getD [] ++ finalizer.getD [])

/-- The cases of a `switch` up to its brace, as the names they mention. -/
def switchCases (r : Rules) : Parser (List Mention) := do
  let cases ← manyUntil "\x7d" do
    let test ← if ← takeWord "default" then pure []
      else do
        expectWord "case"
        let e ← expression r
        pure e.mentions
    expectMark ":"
    let ss ← iterate (fun acc => do
      if (← atMark "\x7d") || (← atWord "case") || (← atWord "default") then pure none
      else
        let s ← r.statement
        pure (some (s :: acc))) []
    pure (test ++ stmtsMentions ss.reverse)
  pure cases.flatten

/-- The rest of a statement that begins with one of the words of loops, jumps and declarations
that the evaluator does not know, as the names it mentions; nothing for other words. -/
def foreignWord (r : Rules) (word : String) : Parser (Option (List Mention)) := do
  match word with
  | "for" =>
    advance
    let _ ← takeWord "await"
    let head ← loopHead r
    let body ← r.statement
    pure (some (head ++ body.mentions))
  | "while" =>
    advance
    let test ← parenthesized r
    let body ← r.statement
    pure (some (test.mentions ++ body.mentions))
  | "do" =>
    advance
    let body ← r.statement
    expectWord "while"
    let test ← parenthesized r
    let _ ← takeMark ";"
    pure (some (body.mentions ++ test.mentions))
  | "with" =>
    advance
    let object ← parenthesized r
    let body ← r.statement
    pure (some (object.mentions ++ body.mentions))
  | "continue" | "break" =>
    advance
    if !(← afterLineEnd) then
      let _ ← attempt identifier
    endStatement
    pure (some [])
  | "debugger" =>
    advance
    endStatement
    pure (some [])
  | "throw" =>
    advance
    if ← afterLineEnd then failure
    let e ← expression r
    endStatement
    pure (some e.mentions)
  | "try" =>
    advance
    let mentions ← tryRest r
    pure (some mentions)
  | "switch" =>
    advance
    let value ← parenthesized r
    expectMark "\x7b"
    let cases ← switchCases r
    pure (some (value.mentions ++ cases))
  | "function" =>
    let f ← functionExpression r false
    match f with
    | .mk none .. => failure
    | _ => pure (some f.mentions)
  | "class" =>
    advance
    if ← atMark "\x7b" then failure
    let mentions ← classRest r
    pure (some mentions)
  | "async" =>
    let isFunction ← ahead do
      advance
      pure (!(← afterLineEnd) && (← atWord "function"))
    if isFunction then
      advance
      let f ← functionExpression r true
      match f with
      | .mk none .. => failure
      | _ => pure (some f.mentions)
    else pure none
  | _ => pure none

/-! ### Statements -/

/-- An expression as a statement, or a statement with a label. -/
def expressionStatement (r : Rules) (start : Nat) : Parser Stmt := do
  let labelled ← ahead do
    let _ ← identifier
    atMark ":"
  if labelled then
    let _ ← identifier
    expectMark ":"
    let s ← r.statement
    foreignStatement start s.mentions
  else
    let e ← grouped r
    endStatement
    pure (.expr e)

/-- One statement. -/
def anyStatement (r : Rules) : Parser Stmt := do
  let start ← place
  let s ← get
  match s.token with
  | .mark "\x7b" =>
    let ss ← blockStatements r
    pure (.block ss)
  | .mark ";" =>
    advance
    pure .empty
  | .name word false =>
    if let some kind ← takeDeclarationWord then
      let ds ← declarators r kind
      endStatement
      return .declare ds
    if word == "if" then
      advance
      let test ← parenthesized r
      let consequent ← r.statement
      let alternate ← if ← takeWord "else" then do
          let s ← r.statement
          pure (some s)
        else pure none
      return .cond test consequent alternate
    if word == "return" then
      if !s.inFunction then failure
      advance
      let value ← if (← atMark ";") || (← atMark "\x7d") || (← atEnd) || (← afterLineEnd) then
          pure none
        else do
          let e ← grouped r
          pure (some e)
      endStatement
      return .ret value
    match ← foreignWord r word with
    | some mentions => foreignStatement start mentions
    | none => expressionStatement r start
  | _ => expressionStatement r start

end ComponentMarkup.Script
