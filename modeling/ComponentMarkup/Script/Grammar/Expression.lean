import ComponentMarkup.Script.Grammar.Function

/-!
# Expressions

The rules for expressions, from literals up to assignments and sequences. What the evaluator
does not compute with becomes a foreign expression with its source text.

## Main definitions

* `Script.primary` — literals, identifiers, functions and groups
* `Script.leftHandSide` — accesses, calls and constructions
* `Script.unaryExpression`, `Script.binaryExpression` — operators by their binding strength
* `Script.assignmentExpression`, `Script.expression` — the loosest forms
-/

namespace ComponentMarkup.Script

/-- A foreign expression that began at a place and ends with the last token taken. -/
def foreignFrom (start : Nat) (mentions : List Mention) : Parser Expr := do
  pure (.foreign (← sourceFrom start) mentions)

/-- Expressions separated by commas. -/
def expression (r : Rules) : Parser Expr := do
  let e ← r.assignment
  if ← atMark "," then
    let es ← iterate (fun acc => do
      if ← takeMark "," then
        let e ← r.assignment
        pure (some (e :: acc))
      else pure none) [e]
    pure (.sequence es.reverse)
  else pure e

/-- An expression in a group, where `in` is an operator. -/
def grouped (r : Rules) : Parser Expr :=
  within (fun s => { s with allowIn := true }) (expression r)

/-! ### Literals -/

/-- The pieces of a template after one that does not close it: expressions and pieces in turn.
The pieces are `none` where an escape is invalid. -/
def templateRest (r : Rules) : Parser (List (Expr × Option String)) := do
  let result ← iterate (fun (acc : List (Expr × Option String) × Bool) => do
    if acc.2 then pure none
    else
      let e ← grouped r
      if !(← atMark "\x7d") then failure
      let s ← get
      match scanTemplate? s.rest with
      | some (.template cooked closes, rest) =>
        set { s with
          token := .template cooked closes, stop := s.length - rest.length, rest := rest }
        advance
        pure (some ((e, cooked) :: acc.1, closes))
      | _ => failure) ([], false)
  pure result.1.reverse

/-- The first piece of a template, which stands at the cursor, and all others. -/
def template (r : Rules) : Parser (Option String × List (Expr × Option String)) := do
  match ← token with
  | .template cooked closes =>
    advance
    if closes then pure (cooked, [])
    else
      let more ← templateRest r
      pure (cooked, more)
  | _ => failure

/-- A template without a tag, in which all escapes must be valid. -/
def untagged (r : Rules) : Parser Expr := do
  let (first, more) ← template r
  match first, more.mapM fun (e, cooked) => cooked.map fun t => [Part.value e, Part.text t] with
  | some t, some parts => pure (.template (.text t :: parts.flatten))
  | _, _ => failure

/-- The elements of an array literal up to its bracket. -/
def arrayLiteral (r : Rules) : Parser Expr := do
  let elements ← within (fun s => { s with allowIn := true }) <| iterate
    (fun (acc : List Element × Bool) => do
      let (elements, closed) := acc
      if closed then pure none
      else if ← takeMark "]" then pure (some (elements, true))
      else if ← takeMark "," then pure (some (.hole :: elements, false))
      else
        let element ← if ← takeMark "..." then do
            let e ← r.assignment
            pure (Element.spread e)
          else do
            let e ← r.assignment
            pure (Element.item e)
        if !(← atMark "]") then expectMark ","
        pure (some (element :: elements, false))) ([], false)
  pure (.array elements.1.reverse)

/-- The property with a key. -/
def Key.property (key : Key) (value : Expr) : Property :=
  match key with
  | .named k => .named k value
  | .computed _ e => .computed e value

/-- A method as a property: its value is a function whose source text begins with its
parameters. -/
def method (r : Rules) (key : Key) (async generator : Bool) : Parser Property := do
  let start ← place
  let f ← functionRest r none async generator
  pure (key.property (.function (← sourceFrom start) f))

/-- A property of an object literal. A name with a default can only stand in a target; how many
there are is counted until an assignment shows that they do. -/
def property (r : Rules) : Parser Property := do
  if ← takeMark "..." then
    let e ← r.assignment
    pure (.spread e)
  else
    let async ← takeModifier "async" true
    let generator ← takeMark "*"
    if async || generator then
      let key ← propertyKey r
      method r key async generator
    else
      let accessor ← if ← takeModifier "get" false then pure true else takeModifier "set" false
      if accessor then
        let key ← propertyKey r
        method r key false false
      else
        let start ← place
        let short ← ahead do
          let _ ← identifier
          pure (!(← atMark ":") && !(← atMark "("))
        if short then
          let id ← identifier
          if ← takeMark "=" then
            let e ← r.assignment
            modify fun s => { s with covers := s.covers + 1 }
            pure (.named id (.assign (← sourceFrom start) false (.name id) e))
          else pure (.named id (.name id))
        else
          let key ← propertyKey r
          if ← atMark "(" then method r key false false
          else
            expectMark ":"
            let e ← r.assignment
            pure (key.property e)

/-- The properties of an object literal up to its brace. -/
def objectLiteral (r : Rules) : Parser Expr := do
  let ps ← within (fun s => { s with allowIn := true }) (separated "\x7d" (property r))
  pure (.object ps)

/-- A regular expression whose first slash stands at the cursor. -/
def regex (start : Nat) (more : List Char) : Parser Expr := do
  match scanRegex? more with
  | none => failure
  | some rest =>
    modify fun s => { s with stop := s.length - rest.length, rest := rest }
    advance
    foreignFrom start []

/-- Literals, identifiers, functions, classes and groups. -/
def primary (r : Rules) : Parser Expr := do
  let start ← place
  let s ← get
  match s.token with
  | .number x =>
    advance
    pure (.number x)
  | .bigInteger _ =>
    advance
    foreignFrom start []
  | .text t =>
    advance
    pure (.text t)
  | .template .. => untagged r
  | .mark "(" =>
    advance
    let e ← grouped r
    expectMark ")"
    pure (.paren e)
  | .mark "[" =>
    advance
    arrayLiteral r
  | .mark "\x7b" =>
    advance
    objectLiteral r
  | .mark "/" => regex start s.rest
  | .mark "/=" => regex start ('=' :: s.rest)
  | .name id escaped =>
    if escaped then
      let id ← identifier
      pure (.name id)
    else match id with
      | "this" =>
        advance
        pure .this
      | "null" =>
        advance
        pure .null
      | "true" =>
        advance
        pure (.bool true)
      | "false" =>
        advance
        pure (.bool false)
      | "function" =>
        let f ← functionExpression r false
        pure (.function (← sourceFrom start) f)
      | "class" =>
        advance
        let mentions ← classRest r
        foreignFrom start mentions
      | "super" =>
        advance
        if (← atMark ".") || (← atMark "[") || (← atMark "(") then foreignFrom start []
        else failure
      | "import" =>
        advance
        if ← takeMark "." then
          expectWord "meta"
          foreignFrom start []
        else
          expectMark "("
          let es ← within (fun s => { s with allowIn := true }) (separated ")" r.assignment)
          if es.isEmpty || 2 < es.length then failure
          foreignFrom start (exprsMentions es)
      | "async" =>
        let isFunction ← ahead do
          advance
          pure (!(← afterLineEnd) && (← atWord "function"))
        if isFunction then
          advance
          let f ← functionExpression r true
          pure (.function (← sourceFrom start) f)
        else
          let id ← identifier
          pure (.name id)
      | _ =>
        let id ← identifier
        pure (.name id)
  | _ => failure

/-! ### Accesses and calls -/

/-- The arguments of a call, after the opening parenthesis. -/
def arguments (r : Rules) : Parser (List Argument) :=
  within (fun s => { s with allowIn := true }) <| separated ")" do
    if ← takeMark "..." then
      let e ← r.assignment
      pure (.spread e)
    else
      let start ← place
      let e ← r.assignment
      pure (.value (← sourceFrom start) e)

/-- An access by name after its point. -/
def memberAccess (start : Nat) (e : Expr) (optional : Bool) : Parser Expr := do
  match ← token with
  | .privateName _ =>
    advance
    foreignFrom start e.mentions
  | _ =>
    let key ← anyName
    pure (.member e key optional)

/-- An access by an expression after its bracket. -/
def indexAccess (r : Rules) (e : Expr) (optional : Bool) : Parser Expr := do
  let key ← grouped r
  expectMark "]"
  pure (.index e key optional)

/-- One access, call or tag after an expression, if there is one. The flag says whether the
chain has an optional link. -/
def link (r : Rules) (start : Nat) (calls : Bool) (acc : Expr × Bool) :
    Parser (Option (Expr × Bool)) := do
  let (e, linked) := acc
  match ← token with
  | .mark "." =>
    advance
    let e ← memberAccess start e false
    pure (some (e, linked))
  | .mark "?." =>
    if !calls then failure
    let callee ← sourceFrom start
    advance
    match ← token with
    | .mark "(" =>
      advance
      let args ← arguments r
      pure (some (.call callee e args true, true))
    | .mark "[" =>
      advance
      let e ← indexAccess r e true
      pure (some (e, true))
    | .template .. => failure
    | _ =>
      let e ← memberAccess start e true
      pure (some (e, true))
  | .mark "[" =>
    advance
    let e ← indexAccess r e false
    pure (some (e, linked))
  | .mark "(" =>
    if calls then
      let callee ← sourceFrom start
      advance
      let args ← arguments r
      pure (some (.call callee e args false, linked))
    else pure none
  | .template .. =>
    if linked then failure
    let (_, more) ← template r
    let e ← foreignFrom start (e.mentions ++ exprsMentions (more.map Prod.fst))
    pure (some (e, linked))
  | _ => pure none

/-- Accesses and calls after an expression that began at a place. A chain with an optional link
is closed where it ends. -/
def links (r : Rules) (start : Nat) (calls : Bool) (e : Expr) : Parser Expr := do
  let (e, linked) ← iterate (link r start calls) (e, false)
  pure (if linked then .chain e else e)

/-- A construction from the word `new` on, as far as its arguments. -/
def constructionExpression (r : Rules) : Parser Expr := do
  let start ← place
  expectWord "new"
  if ← takeMark "." then
    expectWord "target"
    foreignFrom start []
  else
    let calleeStart ← place
    if ← atWord "import" then
      let isCall ← ahead do
        advance
        atMark "("
      if isCall then failure
    let base ← if ← atWord "new" then r.construction else primary r
    let callee ← links r calleeStart false base
    if ← takeMark "(" then
      let args ← arguments r
      foreignFrom start (callee.mentions ++ argumentsMentions args)
    else foreignFrom start callee.mentions

/-- Accesses, calls and constructions. -/
def leftHandSide (r : Rules) : Parser Expr := do
  let start ← place
  let base ← if ← atWord "new" then constructionExpression r else primary r
  links r start true base

/-! ### Operators -/

/-- An expression with `++` or `--` after it, or without. -/
def postfixExpression (r : Rules) : Parser Expr := do
  let start ← place
  let e ← leftHandSide r
  if ((← atMark "++") || (← atMark "--")) && !(← afterLineEnd) then
    if !e.isPlace then failure
    advance
    foreignFrom start e.mentions
  else pure e

/-- The operator before an operand at the cursor. -/
def unaryOp? : Token → Option UnaryOp
  | .mark "!" => some .not
  | .mark "-" => some .negate
  | .mark "+" => some .plus
  | .mark "~" => some .complement
  | .name "typeof" false => some .typeOf
  | .name "void" false => some .void
  | .name "delete" false => some .delete
  | _ => none

/-- Operators before an operand. Their result is no base of a power. -/
def unaryExpression (r : Rules) : Parser Expr := do
  let start ← place
  let s ← get
  match unaryOp? s.token with
  | some op =>
    advance
    let e ← r.unary
    if ← atMark "**" then failure
    pure (.unary op e)
  | none =>
    if (← atMark "++") || (← atMark "--") then
      advance
      let e ← r.unary
      if !e.isPlace then failure
      foreignFrom start e.mentions
    else if s.inAsync && (← atWord "await") then
      advance
      let e ← r.unary
      if ← atMark "**" then failure
      pure (.await e)
    else postfixExpression r

/-- Powers, which associate to the right. -/
def powerExpression (r : Rules) : Parser Expr := do
  let base ← unaryExpression r
  if ← takeMark "**" then
    let exponent ← r.power
    pure (.binary .power base exponent)
  else pure base

/-- The operators between two operands, the tightest first. -/
def binaryLevels : List (List (Token → Option BinaryOp)) :=
  let mark (spelling : String) (op : BinaryOp) : Token → Option BinaryOp
    | .mark m => if m == spelling then some op else none
    | _ => none
  let word (spelling : String) (op : BinaryOp) : Token → Option BinaryOp
    | .name id false => if id == spelling then some op else none
    | _ => none
  [[mark "*" .multiply, mark "/" .divide, mark "%" .remainder],
    [mark "+" .add, mark "-" .subtract],
    [mark "<<" .shiftLeft, mark ">>" .shiftRight, mark ">>>" .shiftRightZero],
    [mark "<" .less, mark ">" .greater, mark "<=" .lessEqual, mark ">=" .greaterEqual,
      word "in" .isIn, word "instanceof" .instanceOf],
    [mark "==" .equal, mark "!=" .notEqual, mark "===" .strictEqual, mark "!==" .strictNotEqual],
    [mark "&" .bitAnd],
    [mark "^" .bitXor],
    [mark "|" .bitOr]]

/-- Operands joined by the operators of the given levels, the loosest level first, all
associating to the left. A private name can stand before `in`. -/
def binaryAt (r : Rules) : List (List (Token → Option BinaryOp)) → Parser Expr
  | [] => powerExpression r
  | level :: tighter => do
    let start ← place
    let first ← match ← token with
      | .privateName _ =>
        advance
        if !(← atWord "in") then failure
        advance
        let e ← binaryAt r tighter
        foreignFrom start e.mentions
      | _ => binaryAt r tighter
    iterate (fun left => do
      let s ← get
      match level.findSome? fun op? => op? s.token with
      | none => pure none
      | some op =>
        if op == .isIn && !s.allowIn then pure none
        else
          advance
          let right ← binaryAt r tighter
          pure (some (.binary op left right))) first

/-- Whether the expression is an unparenthesized `||` or `&&`. -/
def Expr.isDisjunctive : Expr → Bool
  | .logical .or _ _ => true
  | .logical .and _ _ => true
  | _ => false

/-- Operands joined by `&&`. -/
def andExpression (r : Rules) : Parser Expr := do
  let first ← binaryAt r binaryLevels.reverse
  iterate (fun left => do
    if ← takeMark "&&" then
      let right ← binaryAt r binaryLevels.reverse
      pure (some (.logical .and left right))
    else pure none) first

/-- Operands joined by `||`. -/
def orExpression (r : Rules) : Parser Expr := do
  let first ← andExpression r
  iterate (fun left => do
    if ← takeMark "||" then
      let right ← andExpression r
      pure (some (.logical .or left right))
    else pure none) first

/-- Operands joined by `??`, which does not mix with `||` and `&&`. -/
def binaryExpression (r : Rules) : Parser Expr := do
  let first ← orExpression r
  iterate (fun left => do
    if ← takeMark "??" then
      let right ← orExpression r
      if left.isDisjunctive || right.isDisjunctive then failure
      pure (some (.logical .coalesce left right))
    else pure none) first

/-- A choice between two expressions, or an operand of one. What gives an operand a type in
other dialects may not follow it on its line. -/
def conditionalExpression (r : Rules) : Parser Expr := do
  let test ← binaryExpression r
  if ((← atWord "as") || (← atWord "satisfies")) && !(← afterLineEnd) then failure
  if ← takeMark "?" then
    let consequent ← within (fun s => { s with allowIn := true }) r.assignment
    expectMark ":"
    let alternate ← r.assignment
    pure (.conditional test consequent alternate)
  else pure test

/-! ### Assignments -/

/-- The operators of assignments that compute. -/
def compoundMarks : List String :=
  ["+=", "-=", "*=", "/=", "%=", "**=", "<<=", ">>=", ">>>=", "&=", "|=", "^=", "&&=", "||=",
    "??="]

/-- What `yield` gives, where it is a word of the grammar. -/
def yieldExpression (r : Rules) : Parser Expr := do
  let start ← place
  expectWord "yield"
  let delegates ← if ← afterLineEnd then pure false else takeMark "*"
  let ends ← do
    match ← token with
    | .mark m => pure ([")", "]", "\x7d", ",", ";", ":"].contains m)
    | .name "in" false => pure true
    | .name "of" false => pure true
    | .done => pure true
    | _ => pure false
  if !delegates && (ends || (← afterLineEnd)) then foreignFrom start []
  else
    let e ← r.assignment
    foreignFrom start e.mentions

/-- Whether `yield` stands at the cursor with an operand on its line. -/
def meansYield : Parser Bool := ahead do
  expectWord "yield"
  if ← afterLineEnd then pure false
  else match ← token with
    | .name .. => pure true
    | .number _ => pure true
    | .bigInteger _ => pure true
    | .text _ => pure true
    | .template .. => pure true
    | _ => pure false

/-- Arrow functions, assignments, and what they are made of. -/
def assignmentExpression (r : Rules) : Parser Expr := do
  let start ← place
  let s ← get
  if ← atWord "yield" then
    if s.inGenerator then return ← yieldExpression r
    if ← meansYield then failure
  if let some e ← asyncArrow? r start then return e
  if let some e ← arrow? r false start then return e
  let target ← conditionalExpression r
  match ← token with
  | .mark "=" =>
    if !target.isTarget (s.rest.length + 2) then failure
    advance
    modify fun s' => { s' with covers := s.covers }
    let value ← r.assignment
    pure (.assign (← sourceFrom start) false target value)
  | .mark m =>
    if compoundMarks.contains m then
      if !target.isPlace then failure
      advance
      let value ← r.assignment
      pure (.assign (← sourceFrom start) true target value)
    else pure target
  | _ => pure target

end ComponentMarkup.Script
