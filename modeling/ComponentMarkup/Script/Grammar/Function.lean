import ComponentMarkup.Script.Grammar.Rules

/-!
# Patterns, functions and classes

## Main definitions

* `Script.bindingPattern` — what a declaration or a parameter binds
* `Script.functionRest` — parameters and body of a function
* `Script.functionExpression`, `Script.arrow?`, `Script.asyncArrow?` — functions in expressions
* `Script.classRest` — what follows the word `class`, as the names it mentions
-/

namespace ComponentMarkup.Script

/-! ### Patterns -/

/-- A pattern with an optional default value. -/
def patternWithDefault (r : Rules) : Parser Pattern := do
  let p ← r.pattern
  if ← takeMark "=" then
    let e ← within (fun s => { s with allowIn := true }) r.assignment
    pure (.withDefault p e)
  else pure p

/-- One property of an object pattern: a key with a pattern, or a name that is both. -/
def objectTarget (r : Rules) : Parser Target := do
  match ← token with
  | .name id _ =>
    let short ← ahead do
      advance
      pure (!(← atMark ":"))
    if short then
      let _ ← identifier
      if ← takeMark "=" then
        let e ← within (fun s => { s with allowIn := true }) r.assignment
        pure (.named id (.withDefault (.name id) e))
      else pure (.named id (.name id))
    else
      advance
      expectMark ":"
      pure (.named id (← patternWithDefault r))
  | _ =>
    let key ← propertyKey r
    expectMark ":"
    let p ← patternWithDefault r
    match key with
    | .named k => pure (.named k p)
    | .computed literal e => pure (.computed literal e p)

/-- The properties of an object pattern up to its brace; a rest element comes last. -/
def objectPattern (r : Rules) : Parser Pattern := do
  let result ← iterate (fun (acc : List Target × Option Pattern × Bool) => do
    let (targets, rest, closed) := acc
    if closed then pure none
    else if ← takeMark "\x7d" then pure (some (targets, rest, true))
    else if ← takeMark "..." then
      let id ← identifier
      expectMark "\x7d"
      pure (some (targets, some (.name id), true))
    else
      let t ← objectTarget r
      if !(← atMark "\x7d") then expectMark ","
      pure (some (t :: targets, rest, false))) ([], none, false)
  pure (.object result.1.reverse result.2.1)

/-- The elements of an array pattern up to its bracket; a rest element comes last. -/
def arrayPattern (r : Rules) : Parser Pattern := do
  let result ← iterate (fun (acc : List Slot × Option Pattern × Bool) => do
    let (slots, rest, closed) := acc
    if closed then pure none
    else if ← takeMark "]" then pure (some (slots, rest, true))
    else if ← takeMark "," then pure (some (.hole :: slots, rest, false))
    else if ← takeMark "..." then
      let p ← r.pattern
      expectMark "]"
      pure (some (slots, some p, true))
    else
      let p ← patternWithDefault r
      if !(← atMark "]") then expectMark ","
      pure (some (.target p :: slots, rest, false))) ([], none, false)
  pure (.array result.1.reverse result.2.1)

/-- What a declaration or a parameter binds. -/
def bindingPattern (r : Rules) : Parser Pattern := do
  if ← takeMark "\x7b" then objectPattern r
  else if ← takeMark "[" then arrayPattern r
  else
    let id ← identifier
    pure (.name id)

/-! ### Parameters and bodies -/

/-- One parameter. -/
def parameter (r : Rules) : Parser Param := do
  let p ← r.pattern
  if ← takeMark "=" then
    let e ← within (fun s => { s with allowIn := true }) r.assignment
    pure (.mk p (some e))
  else pure (.mk p none)

/-- The parameters after the opening parenthesis; a rest parameter comes last. -/
def parameters (r : Rules) : Parser (List Param × Option Pattern) := do
  let result ← iterate (fun (acc : List Param × Option Pattern × Bool) => do
    let (params, rest, closed) := acc
    if closed then pure none
    else if ← takeMark ")" then pure (some (params, rest, true))
    else if ← takeMark "..." then
      let p ← r.pattern
      expectMark ")"
      pure (some (params, some p, true))
    else
      let p ← parameter r
      if !(← atMark ")") then expectMark ","
      pure (some (p :: params, rest, false))) ([], none, false)
  pure (result.1.reverse, result.2.1)

/-- A string that stands alone at the head of a body gives directions and is no statement. -/
def isDirective : Stmt → Bool
  | .expr (.text _) => true
  | _ => false

/-- The statements of a body up to its brace; those that `return` may stand in. -/
def functionBody (r : Rules) : Parser (List Stmt) := do
  expectMark "\x7b"
  let ss ← within (fun s => { s with inFunction := true, allowIn := true })
    (manyUntil "\x7d" r.statement)
  pure (ss.dropWhile isDirective)

/-- The parameters and the body of a function. -/
def functionRest (r : Rules) (name : Option String) (async generator : Bool) : Parser Function :=
  within (fun s => { s with allowIn := true, inAsync := async, inGenerator := generator }) do
    expectMark "("
    let (params, rest) ← parameters r
    let body ← functionBody r
    pure (.mk name params rest (.block body))

/-- A function expression from the word `function` on. -/
def functionExpression (r : Rules) (async : Bool) : Parser Function := do
  expectWord "function"
  let generator ← takeMark "*"
  if ← atMark "(" then functionRest r none async generator
  else
    let id ← within (fun s => { s with inAsync := async, inGenerator := generator }) identifier
    functionRest r (some id) async generator

/-- The body of an arrow function, after the arrow. -/
def arrowBody (r : Rules) (async : Bool) : Parser Body :=
  within (fun s => { s with inAsync := s.inAsync || async, inGenerator := false }) do
    if ← atMark "\x7b" then
      let ss ← functionBody r
      pure (.block ss)
    else
      let e ← r.assignment
      pure (.expr e)

/-- The arrow of a function stands on the line of its parameters. -/
def arrowMark : Parser Unit := do
  if ← afterLineEnd then failure else expectMark "=>"

/-- The parameters of an arrow function and the arrow. -/
def arrowHead (r : Rules) (async : Bool) : Parser (List Param × Option Pattern) :=
  within (fun s => { s with inAsync := s.inAsync || async }) do
    if ← takeMark "(" then
      let ps ← parameters r
      arrowMark
      pure ps
    else
      let id ← identifier
      arrowMark
      pure ([.mk (.name id) none], none)

/-- An arrow function, if one begins at the cursor. -/
def arrow? (r : Rules) (async : Bool) (start : Nat) : Parser (Option Expr) := do
  match ← attempt (arrowHead r async) with
  | none => pure none
  | some (params, rest) =>
    let body ← arrowBody r async
    pure (some (.function (← sourceFrom start) (.mk none params rest body)))

/-- An asynchronous arrow function, if one begins at the cursor. -/
def asyncArrow? (r : Rules) (start : Nat) : Parser (Option Expr) := do
  let begins ← attempt do
    expectWord "async"
    if ← afterLineEnd then failure
    arrowHead r true
  match begins with
  | none => pure none
  | some (params, rest) =>
    let body ← arrowBody r true
    pure (some (.function (← sourceFrom start) (.mk none params rest body)))

/-! ### Classes -/

/-- A word that modifies the member after it, unless it is the member's own name. -/
def takeModifier (w : String) (sameLine : Bool) : Parser Bool := do
  if ← atWord w then
    let modifies ← ahead do
      advance
      if sameLine && (← afterLineEnd) then pure false
      else match ← token with
        | .mark m => pure (m == "[" || m == "*" || (w == "static" && m == "\x7b"))
        | .done => pure false
        | .template .. => pure false
        | _ => pure true
    if modifies then
      advance
      pure true
    else pure false
  else pure false

/-- The name of a class member, as the names it mentions. -/
def memberName (r : Rules) : Parser (List Mention) := do
  match ← token with
  | .privateName _ =>
    advance
    pure []
  | _ =>
    let key ← propertyKey r
    pure key.mentions

/-- A member of a class, as the names it mentions. -/
def classMember (r : Rules) : Parser (List Mention) := do
  if ← takeMark ";" then pure []
  else
    let isStatic ← takeModifier "static" false
    if isStatic && (← atMark "\x7b") then
      let ss ← functionBody r
      pure (stmtsMentions ss)
    else
      let async ← takeModifier "async" true
      let generator ← takeMark "*"
      let accessor ← if async || generator then pure false
        else do
          if ← takeModifier "get" false then pure true else takeModifier "set" false
      let name ← memberName r
      if ← atMark "(" then
        let f ← functionRest r none async generator
        pure (name ++ f.mentions)
      else if accessor || async || generator then failure
      else
        let value ← if ← takeMark "=" then
            within (fun s => { s with allowIn := true, inAsync := false }) do
              let e ← r.assignment
              pure e.mentions
          else pure []
        endStatement
        pure (name ++ value)

/-- What follows the word `class`: an optional name, what the class extends, and its members. -/
def classRest (r : Rules) : Parser (List Mention) := do
  let name ← if (← atMark "\x7b") || (← atWord "extends") then pure []
    else do
      let id ← identifier
      pure [.bound id]
  let parent ← if ← takeWord "extends" then do
      let e ← r.unary
      pure e.mentions
    else pure []
  expectMark "\x7b"
  let members ← manyUntil "\x7d" (classMember r)
  pure (name ++ parent ++ members.flatten)

end ComponentMarkup.Script
