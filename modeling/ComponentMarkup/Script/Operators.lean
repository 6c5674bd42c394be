import ComponentMarkup.Script.Failure
import ComponentMarkup.Script.Syntax
import ComponentMarkup.Text.Blank

/-!
# Operators on values

What the operators of expressions compute, and how values are read as numbers, names of
properties and sequences.

## Main definitions

* `Value.toNumber` — a value as a number
* `Value.property` — a property of a value
* `Value.strictEquals`, `Value.looseEquals`, `Value.order` — comparison
* `Script.UnaryOp.apply`, `Script.BinaryOp.apply` — the operators
-/

namespace ComponentMarkup

namespace Value

/-- A value as a number: texts without the blanks around them, NaN where there is none. -/
def toNumber : Value → Float
  | null => 0
  | bool b => if b then 1 else 0
  | number n => n.toFloat
  | text s =>
    let t := trim s
    if t.isEmpty then 0 else (readFloat? t).getD (0.0 / 0.0)
  | list [] => 0
  | list _ => 0.0 / 0.0
  | record _ => 0.0 / 0.0

/-- The characters of a text as texts. -/
def ofChars (cs : List Char) : List Value := cs.map fun c => text c.toString

/-- A property of a value: an entry of a record, a place or the length of a list or text. What
is not there is `null`. -/
def property (v : Value) (key : String) : Value :=
  match v with
  | record fields => (Entries.get? key fields).getD null
  | list items =>
    if key == "length" then ofNat items.length
    else ((readIndex? key).bind fun i => items[i]?).getD null
  | text s =>
    if key == "length" then ofNat s.length
    else (((readIndex? key).bind fun i => s.toList[i]?).map fun c => text c.toString).getD null
  | _ => null

/-- The items of a list or the characters of a text. -/
def toItems : Value → Except Script.Failure (List Value)
  | list items => .ok items
  | text s => .ok (ofChars s.toList)
  | v => .error (.notIterable v.kind)

/-- Equality without conversion; numbers are equal when they are as doubles. -/
def strictEquals (a b : Value) : Bool :=
  match a, b with
  | number m, number n => m.toFloat == n.toFloat
  | _, _ => a.same b

/-- Equality after conversion: numbers with texts, and booleans with anything, as numbers;
`null` equals only itself. -/
def looseEquals (a b : Value) : Bool :=
  match a, b with
  | null, null => true
  | null, _ => false
  | _, null => false
  | number _, text _ => a.toNumber == b.toNumber
  | text _, number _ => a.toNumber == b.toNumber
  | bool _, _ => a.toNumber == b.toNumber
  | _, bool _ => a.toNumber == b.toNumber
  | _, _ => a.strictEquals b

/-- The order of two values: of texts by their characters, of all others as numbers; none when
one is no number. -/
def order (a b : Value) : Option Ordering :=
  match a, b with
  | text s, text t => some (compare s t)
  | _, _ =>
    let x := a.toNumber
    let y := b.toNumber
    if x < y then some .lt else if x == y then some .eq else if y < x then some .gt else none

/-- Whether `+` joins this value as a text. -/
def isTextual : Value → Bool
  | text _ => true
  | list _ => true
  | record _ => true
  | _ => false

end Value

namespace Script

/-- What an operator before one operand computes. -/
def UnaryOp.apply (op : UnaryOp) (v : Value) : Except Failure Value :=
  match op with
  | .not => .ok (.bool !v.isTruthy)
  | .negate => .ok (.ofFloat (-v.toNumber))
  | .plus => .ok (.ofFloat v.toNumber)
  | .typeOf => .ok (.text (match v with
      | .list _ => "object"
      | v => v.kind))
  | .void => .ok .null
  | .complement => .error (.unsupportedOperator op.text)
  | .delete => .error (.unsupportedOperator op.text)

/-- Whether a name is one of a record or a place of a list. -/
def searchIn (key container : Value) : Except Failure Value :=
  match container with
  | .record fields => .ok (.bool (Entries.has key.display fields))
  | .list items =>
    .ok (.bool (((readIndex? key.display).map fun i => decide (i < items.length)).getD false))
  | v => .error (.notSearchable v.kind)

/-- What an operator between two operands computes. -/
def BinaryOp.apply (op : BinaryOp) (a b : Value) : Except Failure Value :=
  let x := a.toNumber
  let y := b.toNumber
  match op with
  | .add =>
    if a.isTextual || b.isTextual then .ok (.text (a.display ++ b.display))
    else .ok (.ofFloat (x + y))
  | .subtract => .ok (.ofFloat (x - y))
  | .multiply => .ok (.ofFloat (x * y))
  | .divide => .ok (.ofFloat (x / y))
  | .remainder => .ok (.ofFloat (floatRemainder x y))
  | .power => .ok (.ofFloat (x.pow y))
  | .equal => .ok (.bool (a.looseEquals b))
  | .notEqual => .ok (.bool !a.looseEquals b)
  | .strictEqual => .ok (.bool (a.strictEquals b))
  | .strictNotEqual => .ok (.bool !a.strictEquals b)
  | .less => .ok (.bool (a.order b == some .lt))
  | .lessEqual => .ok (.bool (a.order b == some .lt || a.order b == some .eq))
  | .greater => .ok (.bool (a.order b == some .gt))
  | .greaterEqual => .ok (.bool (a.order b == some .gt || a.order b == some .eq))
  | .isIn => searchIn a b
  | _ => .error (.unsupportedOperator op.text)

end Script

end ComponentMarkup
