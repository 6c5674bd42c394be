import ComponentMarkup.Json.Read
import ComponentMarkup.Json.Write
import ComponentMarkup.Script.Operators
import ComponentMarkup.Text.Case
import ComponentMarkup.Text.Search

/-!
# Functions that are always there

The functions and methods that expressions can call without a helper.

## Main definitions

* `Script.globalFunction?` — functions called by name
* `Script.namespaceMethod` — functions of the namespaces
* `Script.listMethod`, `Script.textMethod`, `Script.numberMethod` — methods of values
* `Script.callbackMethod` — methods of lists that call a function for each item
-/

namespace ComponentMarkup.Script

/-- The argument at a place, `null` when it is missing. -/
def argument (args : List Value) (i : Nat) : Value := (args[i]?).getD .null

/-- The natural number below `2 ^ 64` nearest below a double; zero for NaN and negative
numbers. -/
def floatToIndex (x : Float) : Nat := x.toUInt64.toNat

/-- The larger of two numbers, of which NaN is none. -/
def floatMax (x y : Float) : Float :=
  if x.isNaN then y else if y.isNaN then x else if x < y then y else x

/-- The smaller of two numbers, of which NaN is none. -/
def floatMin (x y : Float) : Float :=
  if x.isNaN then y else if y.isNaN then x else if y < x then y else x

/-! ### Slices -/

/-- A place counted from the start, or from the end when negative, held inside the bounds. -/
def relativeIndex (index : Float) (length : Nat) : Nat :=
  let n := floatOfNat length
  floatToIndex (if index < 0 then floatMax (n + index) 0 else floatMin index n)

/-- One bound of a slice. -/
def sliceBound (args : List Value) (i length default : Nat) : Nat :=
  match argument args i with
  | .null => default
  | v => relativeIndex v.toNumber length

/-- The items between the bounds that the arguments give. -/
def slice {α : Type} (xs : List α) (args : List Value) : List α :=
  let start := sliceBound args 0 xs.length 0
  let stop := sliceBound args 1 xs.length xs.length
  (xs.take (max start stop)).drop start

/-! ### Functions -/

/-- A function called by its name. -/
def globalFunction? (name : String) (args : List Value) : Option Value :=
  let first := argument args 0
  match name with
  | "String" => some (.text first.display)
  | "Number" => some (.ofFloat first.toNumber)
  | "Boolean" => some (.bool first.isTruthy)
  | "parseFloat" => some (.ofFloat first.toNumber)
  | "parseInt" => some (.ofFloat (truncateFloat first.toNumber))
  | _ => none

/-- The namespaces that exist unless data shadows them. -/
def isNamespace (name : String) : Bool :=
  ["Object", "JSON", "Math", "Array", "Number"].contains name

/-- The ratio of a circle's circumference to its diameter. -/
def pi : Float := 3.141592653589793

/-- The functions of `Math`. -/
def mathFunction (method : String) (args : List Value) : Except Failure Value :=
  let nan : Float := 0.0 / 0.0
  let x := (args.head?.map Value.toNumber).getD nan
  let y := ((args[1]?).map Value.toNumber).getD nan
  match method with
  | "floor" => .ok (.ofFloat x.floor)
  | "ceil" => .ok (.ofFloat x.ceil)
  | "round" => .ok (.ofFloat (x + 0.5).floor)
  | "trunc" => .ok (.ofFloat (truncateFloat x))
  | "abs" => .ok (.ofFloat x.abs)
  | "sqrt" => .ok (.ofFloat x.sqrt)
  | "sign" => .ok (.ofFloat (if x == 0 || x.isNaN then x else if x < 0 then -1 else 1))
  | "pow" => .ok (.ofFloat (x.pow y))
  | "max" => .ok (.ofFloat ((args.map Value.toNumber).foldl floatMax (-1.0 / 0.0)))
  | "min" => .ok (.ofFloat ((args.map Value.toNumber).foldl floatMin (1.0 / 0.0)))
  | _ => .error (.notFunction ("Math." ++ method))

/-- The functions of `Object`; nothing for other names. -/
def objectFunction? (method : String) (args : List Value) : Option Value :=
  let first := argument args 0
  match method with
  | "keys" => some (.list (match first with
      | .record fields => (Entries.keys fields).map .text
      | .list items => (List.range items.length).map fun i => .text (toString i)
      | _ => []))
  | "values" => some (.list (match first with
      | .record fields => Entries.values fields
      | .list items => items
      | _ => []))
  | "entries" => some (.list (first.fields.map fun (k, v) => .list [.text k, v]))
  | "assign" => some (.record ((args.map Value.fields).foldl Entries.extend []))
  | _ => none

/-- The functions of `JSON`. -/
def jsonFunction (method : String) (args : List Value) : Except Failure Value :=
  let first := argument args 0
  match method with
  | "stringify" =>
    .ok (.text (if (argument args 2).isNull then Json.write first else Json.writeIndented first))
  | "parse" =>
    match Json.read? first.display with
    | some v => .ok v
    | none => .error .malformedJson
  | _ => .error (.notFunction ("JSON." ++ method))

/-- Whether the value is a number without a fraction. -/
def isIntegral : Value → Bool
  | .number n => isFiniteFloat n.toFloat && n.toFloat.floor == n.toFloat
  | _ => false

/-- A function of one of the namespaces. -/
def namespaceMethod (space method : String) (args : List Value) : Except Failure Value :=
  let first := argument args 0
  match space, method with
  | "Object", _ =>
    match objectFunction? method args with
    | some v => .ok v
    | none => .error (.notFunction (space ++ "." ++ method))
  | "JSON", _ => jsonFunction method args
  | "Array", "isArray" => .ok (.bool (match first with
      | .list _ => true
      | _ => false))
  | "Array", "from" => first.toItems.map .list
  | "Number", "isInteger" => .ok (.bool (isIntegral first))
  | "Math", _ => mathFunction method args
  | _, _ => .error (.notFunction (space ++ "." ++ method))

/-! ### Methods -/

/-- The place of the first item that satisfies `p`, or -1. -/
def firstIndex {α : Type} (p : α → Bool) (xs : List α) : Value :=
  match xs.findIdx? p with
  | some i => .ofNat i
  | none => .ofInt (-1)

/-- A method of a list. -/
def listMethod (items : List Value) (method : String) (args : List Value) :
    Except Failure Value :=
  let first := argument args 0
  match method with
  | "join" =>
    let separator := match first with
      | .null => ","
      | v => v.display
    .ok (.text (separator.intercalate (items.map Value.display)))
  | "includes" => .ok (.bool (items.any (·.strictEquals first)))
  | "indexOf" => .ok (firstIndex (·.strictEquals first) items)
  | "slice" => .ok (.list (slice items args))
  | "concat" => .ok (.list (items ++ args.flatMap fun v => match v with
      | .list more => more
      | v => [v]))
  | "reverse" => .ok (.list items.reverse)
  | "at" =>
    let index := first.toNumber
    let place := if index < 0 then floatOfNat items.length + index else index
    .ok (if place < 0 then .null else (items[floatToIndex place]?).getD .null)
  | _ => .error (.notFunction ("array." ++ method))

/-- The greatest size in bytes of a text made by repetition. -/
def maxTextSize : Nat := Nat.pow 2 24

/-- A text repeated. -/
def repeatText (s : String) (times : Value) : Except Failure Value :=
  let x := times.toNumber
  let count := if x.isNaN then 0 else truncateFloat x
  if count < 0 || count.isInf then .error (.repeatCount (showNumber count))
  else if count * floatOfNat s.utf8ByteSize > floatOfNat maxTextSize then .error .repeatTooLong
  else if s.isEmpty then .ok (.text "")
  else .ok (.text (String.join (List.replicate (floatToIndex count) s)))

/-- A method of a text. -/
def textMethod (s : String) (method : String) (args : List Value) : Except Failure Value :=
  let first := argument args 0
  let part := first.display
  let new := (argument args 1).display
  match method with
  | "toUpperCase" => .ok (.text (toUpper s))
  | "toLowerCase" => .ok (.text (toLower s))
  | "trim" => .ok (.text (trim s))
  | "trimStart" => .ok (.text (trimStart s))
  | "trimEnd" => .ok (.text (trimEnd s))
  | "toString" => .ok (.text s)
  | "includes" => .ok (.bool (hasPart s part))
  | "startsWith" => .ok (.bool (hasStart s part))
  | "endsWith" => .ok (.bool (hasEnd s part))
  | "indexOf" => .ok (match findPart? s part with
      | some i => .ofNat i
      | none => .ofInt (-1))
  | "split" =>
    .ok (.list (if first.isNull then [.text s]
      else if part.isEmpty then Value.ofChars s.toList
      else (piecesOf s part).map .text))
  | "slice" => .ok (.text (String.ofList (slice s.toList args)))
  | "replace" => .ok (.text (replaceFirst s part new))
  | "replaceAll" => .ok (.text (replaceAll s part new))
  | "repeat" => repeatText s first
  | "charAt" =>
    .ok (.text (((s.toList[floatToIndex (floatMax first.toNumber 0)]?).map Char.toString).getD ""))
  | _ => .error (.notFunction ("string." ++ method))

/-- A method of a number. -/
def numberMethod (x : Float) (method : String) (args : List Value) : Except Failure Value :=
  match method with
  | "toFixed" =>
    let places := (args.head?.map Value.toNumber).getD 0
    let places := if places.isNaN then 0 else floatMin (floatMax places 0) 100
    .ok (.text (showFixed x (floatToIndex places)))
  | "toString" => .ok (.text (showNumber x))
  | _ => .error (.notFunction ("number." ++ method))

/-! ### Methods with a callback -/

/-- The methods of lists that call a function for each item. -/
def isCallbackMethod (name : String) : Bool :=
  ["map", "filter", "find", "findIndex", "some", "every"].contains name

/-- Calls a function with each item and its place, and combines the results as the method does;
`found` collects items in reverse. -/
def callbackMethod {ε : Type} (method : String) (call : List Value → Except ε Value)
    (index : Nat) (found : List Value) : List Value → Except ε Value
  | [] => .ok (match method with
      | "map" => .list found.reverse
      | "filter" => .list found.reverse
      | "findIndex" => .ofInt (-1)
      | "some" => .bool false
      | "every" => .bool true
      | _ => .null)
  | item :: items => do
    let result ← call [item, .ofNat index]
    let next (found : List Value) := callbackMethod method call (index + 1) found items
    match method, result.isTruthy with
    | "map", _ => next (result :: found)
    | "filter", true => next (item :: found)
    | "find", true => .ok item
    | "findIndex", true => .ok (.ofNat index)
    | "some", true => .ok (.bool true)
    | "every", false => .ok (.bool false)
    | _, _ => next found

end ComponentMarkup.Script
