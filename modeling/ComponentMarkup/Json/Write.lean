import ComponentMarkup.Value

/-!
# Writing JSON

Values as JSON text, either without any blanks or one item to a line, indented by two spaces.

## Main definitions

* `Json.write` — the text without blanks
* `Json.writeIndented` — the text with one item to a line
* `Json.floatText` — a double: the shortest digits that read back, with a point or an exponent
-/

namespace ComponentMarkup.Json

/-- A double, positional with a point when its leading digit stands between `10 ^ (-5)` and
`10 ^ 15`, else with an exponent that carries its sign. -/
def floatText (x : Float) : List Char :=
  let size :=
    if x == 0 then "0.0".toList
    else
      let d := Decimal.shortest .even x
      let ds := Decimal.digitChars d.digits
      let lead := d.exponent + ds.length - 1
      if -5 ≤ lead && lead ≤ 15 then
        d.positional ++ (if 0 ≤ d.exponent then ['.', '0'] else [])
      else
        ds.take 1 ++ (if ds.length == 1 then [] else '.' :: ds.drop 1) ++
          'e' :: (if lead < 0 then '-' else '+') :: Decimal.digitChars lead.natAbs
  if hasSign x then '-' :: size else size

/-- The text of a number. -/
def numberText : Number → List Char
  | .integer i => (toString i).toList
  | .float x => floatText x

/-- A character in a string: quotes, backslashes and control characters are escaped. -/
def escapeChar (c : Char) : List Char :=
  if c == '"' then ['\\', '"']
  else if c == '\\' then ['\\', '\\']
  else if c == '\n' then ['\\', 'n']
  else if c == '\r' then ['\\', 'r']
  else if c == '\t' then ['\\', 't']
  else if c == '\x08' then ['\\', 'b']
  else if c == '\x0c' then ['\\', 'f']
  else if c.toNat < 0x20 then
    '\\' :: 'u' :: '0' :: '0' :: hexDigit (c.toNat / 16) :: [hexDigit (c.toNat % 16)]
  else [c]

/-- A string between quotes. -/
def quoted (s : String) : List Char := '"' :: (s.toList.flatMap escapeChar ++ ['"'])

/-- The layout of lists and records: what stands before each item, before the closing mark and
after the colon of an entry. -/
structure Layout where
  item : List Char
  close : List Char
  colon : List Char

/-- The layout at a depth: nothing, or a line for each item. -/
def layoutAt (indented : Bool) (depth : Nat) : Layout :=
  if indented then
    ⟨'\n' :: List.replicate (2 * (depth + 1)) ' ', '\n' :: List.replicate (2 * depth) ' ',
      [':', ' ']⟩
  else ⟨[], [], [':']⟩

/-- Items between an opening and a closing mark, separated by commas; nothing between the marks
when there are no items. -/
def enclose (layout : Layout) (opening closing : Char) (items : List (List Char)) : List Char :=
  if items.isEmpty then [opening, closing]
  else
    opening :: (List.intercalate [','] (items.map (layout.item ++ ·)) ++ layout.close ++ [closing])

mutual

/-- The text of a value at a depth. -/
def writeAt (indented : Bool) (depth : Nat) : Value → List Char
  | .null => "null".toList
  | .bool b => if b then "true".toList else "false".toList
  | .number n => numberText n
  | .text s => quoted s
  | .list items => enclose (layoutAt indented depth) '[' ']' (writeItems indented (depth + 1) items)
  | .record fields =>
    enclose (layoutAt indented depth) '{' '}' (writeEntries indented (depth + 1) fields)
termination_by structural v => v

/-- The texts of the items of a list. -/
def writeItems (indented : Bool) (depth : Nat) : List Value → List (List Char)
  | [] => []
  | v :: vs => writeAt indented depth v :: writeItems indented depth vs
termination_by structural v => v

/-- The texts of the entries of a record. -/
def writeEntries (indented : Bool) (depth : Nat) : List (String × Value) → List (List Char)
  | [] => []
  | e :: es => writeEntry indented depth e :: writeEntries indented depth es
termination_by structural v => v

/-- The text of one entry. -/
def writeEntry (indented : Bool) (depth : Nat) : String × Value → List Char
  | (k, v) => quoted k ++ (layoutAt indented depth).colon ++ writeAt indented depth v
termination_by structural v => v

end

/-- The JSON text of a value, without blanks. -/
def write (v : Value) : String := String.ofList (writeAt false 0 v)

/-- The JSON text of a value, one item to a line. -/
def writeIndented (v : Value) : String := String.ofList (writeAt true 0 v)

end ComponentMarkup.Json
