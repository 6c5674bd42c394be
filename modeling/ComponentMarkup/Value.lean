import ComponentMarkup.Entries
import ComponentMarkup.Number.Value

/-!
# Data values

The values that data, expressions and attributes hold.

## Main definitions

* `Value` — nothing, booleans, numbers, texts, lists and records
* `Value.isTruthy` — the values that count as true
* `Value.display` — the text of a value in markup
* `Value.kind` — the name of a value's type
* `Value.same` — equality, records without regard to the order of their entries
* `Value.ofFloat` — a computed number, nothing if it is NaN or infinite
-/

namespace ComponentMarkup

/-- A data value. The entries of a record are in the order of their insertion. -/
inductive Value
  | null
  | bool (value : Bool)
  | number (value : Number)
  | text (value : String)
  | list (items : List Value)
  | record (fields : List (String × Value))

instance : Inhabited Value := ⟨.null⟩

namespace Value

/-- An integer value. -/
def ofInt (i : Int) : Value := number (.integer i)

/-- A value that counts or indexes. -/
def ofNat (n : Nat) : Value := number (.integer n)

/-- A computed number; NaN and the infinities give `null`. -/
def ofFloat (x : Float) : Value :=
  match Number.ofFloat? x with
  | some n => number n
  | none => null

/-- Whether the value is `null`. -/
def isNull : Value → Bool
  | null => true
  | _ => false

/-- The values that count as true: all but `null`, `false`, zero and the empty text. -/
def isTruthy : Value → Bool
  | null => false
  | bool b => b
  | number n => n.toFloat != 0 && !n.toFloat.isNaN
  | text s => !s.isEmpty
  | list _ => true
  | record _ => true

/-- The name of a value's type; `null` is what an undefined name gives. -/
def kind : Value → String
  | null => "undefined"
  | bool _ => "boolean"
  | number _ => "number"
  | text _ => "string"
  | list _ => "array"
  | record _ => "object"

mutual

/-- The text of a value in markup. `null` gives nothing and the items of a list are joined by
commas. -/
def display : Value → String
  | null => ""
  | bool b => if b then "true" else "false"
  | number n => showNumber n.toFloat
  | text s => s
  | list items => ",".intercalate (displayItems items)
  | record _ => "[object Object]"
termination_by structural v => v

/-- The texts of the items of a list. -/
def displayItems : List Value → List String
  | [] => []
  | v :: vs => display v :: displayItems vs
termination_by structural v => v

end

mutual

/-- Equality of values. Records are equal when they give the same names equal values, in any
order. -/
def same : Value → Value → Bool
  | null, null => true
  | bool a, bool b => a == b
  | number a, number b => a.same b
  | text a, text b => a == b
  | list a, list b => sameItems a b
  | record a, record b => a.length == b.length && sameFields a b
  | _, _ => false
termination_by structural v => v

/-- Equality of lists, item by item. -/
def sameItems : List Value → List Value → Bool
  | [], [] => true
  | a :: as, b :: bs => same a b && sameItems as bs
  | _, _ => false
termination_by structural v => v

/-- Every entry of the first list has an equal one in the second. -/
def sameFields : List (String × Value) → List (String × Value) → Bool
  | [], _ => true
  | a :: as, bs => sameField a bs && sameFields as bs
termination_by structural v => v

/-- The entry has an equal one in the list. -/
def sameField : String × Value → List (String × Value) → Bool
  | (k, a), bs =>
    match Entries.get? k bs with
    | some b => same a b
    | none => false
termination_by structural v => v

end

/-- The entries of a record; no entries for other values. -/
def fields : Value → Entries Value
  | record fs => fs
  | _ => []

end Value

/-- A helper that expressions can call: a function of its arguments that may fail with a
text. -/
abbrev Helper := List Value → Except String Value

end ComponentMarkup
