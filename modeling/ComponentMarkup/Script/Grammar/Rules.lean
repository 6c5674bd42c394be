import ComponentMarkup.Script.Cursor
import ComponentMarkup.Script.Syntax

/-!
# Rules of the grammar that refer to each other

The grammar is recursive through a few of its rules. Each rule is a function of the rules it may
refer to; the whole grammar ties them together at a depth that the length of the text bounds.

## Main definitions

* `Script.Rules` — the rules through which the grammar is recursive
* `Script.keyText` — the name that a number gives a property
* `Script.Expr.isTarget` — the expressions that can be assigned to
* `Script.propertyKey` — the key of a property
-/

namespace ComponentMarkup.Script

/-- The rules through which the grammar is recursive. -/
structure Rules where
  assignment : Parser Expr
  unary : Parser Expr
  power : Parser Expr
  construction : Parser Expr
  pattern : Parser Pattern
  statement : Parser Stmt

/-- No text is grammatical. -/
def Rules.none : Rules := ⟨failure, failure, failure, failure, failure, failure⟩

/-- The name that a number gives a property: its shortest digits, with an exponent from
`10 ^ 21` on and below `10 ^ (-6)`. -/
def keyText (x : Float) : String :=
  if x.isInf then "Infinity"
  else if x == 0 then "0"
  else
    let d := Decimal.shortest .even x
    let ds := Decimal.digitChars d.digits
    let lead := d.exponent + ds.length - 1
    if -7 < lead && lead < 21 then String.ofList d.positional
    else
      String.ofList (ds.take 1 ++ (if ds.length == 1 then [] else '.' :: ds.drop 1) ++
        'e' :: (if lead < 0 then '-' else '+') :: Decimal.digitChars lead.natAbs)

/-! ### Targets of assignments -/

/-- An expression that names one place: an identifier or an access without optional links. -/
def Expr.isPlace : Expr → Bool
  | .name _ => true
  | .member _ _ optional => !optional
  | .index _ _ optional => !optional
  | .paren body => body.isPlace
  | _ => false

/-- An expression that can be assigned to: a place, or an array or object literal of targets;
`depth` bounds their nesting. -/
def Expr.isTarget : Nat → Expr → Bool
  | 0, _ => false
  | depth + 1, e =>
    let entry (e : Expr) : Bool :=
      match e with
      | .assign _ compound target _ => !compound && target.isTarget depth
      | e => e.isTarget depth
    match e with
    | .array elements => elements.all fun x => match x with
      | .item e => entry e
      | .spread e => e.isTarget depth
      | .hole => true
    | .object properties => properties.all fun p => match p with
      | .named _ e => entry e
      | .computed _ e => entry e
      | .spread e => e.isPlace
    | e => e.isPlace

/-! ### Keys -/

/-- The key of a property. -/
inductive Key
  | named (key : String)
  | computed (literal : Option String) (key : Expr)

/-- The name that a literal in brackets gives, as far as its syntax shows it. -/
def Expr.literalKey? : Expr → Option String
  | .text s => some s
  | .number x => some (keyText x)
  | .null => some "null"
  | .template [] => some ""
  | .template [.text s] => some s
  | .foreign source [] =>
    let cs := source.toList
    if cs.head? == some '/' then some source
    else if (cs.head?.map isDigit).getD false && cs.getLast? == some 'n' then
      (scan? cs).bind fun (t, _) => match t with
        | .bigInteger digits => some digits
        | _ => none
    else none
  | _ => none

/-- Reads the key of a property. -/
def propertyKey (r : Rules) : Parser Key := do
  match ← token with
  | .name id _ =>
    advance
    pure (.named id)
  | .text s =>
    advance
    pure (.named s)
  | .number x =>
    advance
    pure (.named (keyText x))
  | .bigInteger digits =>
    advance
    pure (.named digits)
  | .mark "[" =>
    advance
    let e ← within (fun s => { s with allowIn := true }) r.assignment
    expectMark "]"
    pure (.computed e.literalKey? e)
  | _ => failure

/-- The names mentioned in a key. -/
def Key.mentions : Key → List Mention
  | .named _ => []
  | .computed _ e => e.mentions

end ComponentMarkup.Script
