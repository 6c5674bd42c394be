import ComponentMarkup.Style.Property

/-!
# Declarations

Values for properties, and the bodies of rules that have nothing but these. What a declaration ends
with, `!important`, is kept apart from its value.

## Main definitions

* `Style.Declaration`, `Style.declarationsText` — declarations and their texts
* `Style.declaration?` — reads a declaration
* `Style.Entry`, `Style.entries` — what stands between the semicolons of a body
* `Style.declarations?` — reads a body of declarations
-/

namespace ComponentMarkup.Style

/-- A value for a property, both as they are written. -/
structure Declaration where
  name : String
  value : String
  isImportant : Bool

/-- A declaration as it is written. -/
def Declaration.text (d : Declaration) : String :=
  d.name ++ ":" ++ d.value ++ if d.isImportant then "!important" else ""

/-- Declarations as they are written: the important ones stand after the others. -/
def declarationsText (ds : List Declaration) : String :=
  ";".intercalate (((ds.filter (!·.isImportant)) ++ ds.filter (·.isImportant)).map Declaration.text)

/-- Declarations in curly brackets. -/
def declarationBlockText (ds : List Declaration) : String := "\x7b" ++ declarationsText ds ++ "\x7d"

/-! ### Reading -/

/-- Whether parts are the word `important` after its exclamation mark. -/
def isImportance (parts : List Part) : Bool :=
  match significant parts with
  | [p, q] => p.isBang && (identOf? q).any (lower · == "important")
  | _ => false

/-- A declaration from the name of the property and what follows the colon. A block ends the value of
a property that is not of the author's own making. -/
def declaration? (name : String) (parts : List Part) : Option Declaration :=
  let (value, after) := parts.span fun p => !(p.isBang || (p.isCurly && !isCustomProperty name))
  let isImportant := isImportance after
  if isImportant || after.isEmpty then
    (valueText? name value).map fun text => ⟨propertyName name, text, isImportant⟩
  else none

/-! ### Bodies -/

/-- What stands between the semicolons of a body. -/
inductive Entry
  | declaration (name : String) (value : List Part)
  | atRule (name : String) (prelude : List Part) (block : Option (List Part))
  /-- What is neither. -/
  | broken

/-- What follows a colon. -/
def afterColon? (parts : List Part) : Option (List Part) :=
  match dropGaps parts with
  | .token .colon _ :: value => some value
  | _ => none

/-- The block that parts start with. -/
def blockOf? (parts : List Part) : Option (List Part) :=
  match parts with
  | .block .curly _ inside _ :: _ => some inside
  | _ => none

/-- Whether a part stands between the entries of a body. -/
def Part.isIdle (p : Part) : Bool :=
  p.isGap || p.isSemicolon || match p with
    | .token .closeCurly _ => true
    | _ => false

/-- The first `count` entries of a body. -/
def entriesWithin : Nat → List Part → List Entry
  | 0, _ => []
  | count + 1, parts =>
    match parts.dropWhile Part.isIdle with
    | [] => []
    | .token (.atKeyword name) _ :: rest =>
      let (prelude, after) := rest.span fun p => !(p.isSemicolon || p.isCurly)
      .atRule name prelude (blockOf? after) :: entriesWithin count (after.drop 1)
    | first :: rest =>
      let (value, after) := rest.span (!·.isSemicolon)
      let entry := match identOf? first, afterColon? value with
        | some name, some value => .declaration name value
        | _, _ => .broken
      entry :: entriesWithin count (after.drop 1)

/-- The entries of a body. -/
def entries (parts : List Part) : List Entry := entriesWithin parts.length parts

/-- The declaration that an entry is. -/
def Entry.declaration? : Entry → Option Declaration
  | .declaration name value => Style.declaration? name value
  | _ => none

/-- A body of declarations. -/
def declarations? (parts : List Part) : Option (List Declaration) :=
  (entries parts).mapM Entry.declaration?

end ComponentMarkup.Style
