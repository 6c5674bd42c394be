import ComponentMarkup.Error
import ComponentMarkup.Markup.Node
import ComponentMarkup.Script.Evaluate

/-!
# Attributes

The name of an attribute tells whether it is written to the output and whether its value is an
expression:

* `name` — public and literal
* `webc:name`, `@name` — private and literal
* `:name` — public and dynamic
* `:@name` — private and dynamic

Private attributes are never written but are there for expressions.

## Main definitions

* `classify` — the name without its marks, and what they say
* `EvaluatedAttribute` — an attribute with its value
* `evaluateExpression`, `evaluateAttributes` — values from a cascade
* `mergeAttributes` — attributes of several sources as one list
* `serializeAttributes` — the text of the public ones
* `cascadeEntries`, `rawEntries` — attributes as data
-/

namespace ComponentMarkup

/-- Whether an attribute is written to the output. -/
inductive Privacy
  | isPublic
  | isPrivate
  deriving DecidableEq

/-- Whether the value of an attribute is its text or the value of an expression. -/
inductive Evaluation
  | literal
  | dynamic
  deriving DecidableEq

/-- An attribute with its value. -/
structure EvaluatedAttribute where
  name : String
  rawName : String
  value : Value
  rawValue : String
  evaluation : Evaluation
  privacy : Privacy

namespace EvaluatedAttribute

/-- A public attribute with a given text. -/
def ofText (name value : String) : EvaluatedAttribute :=
  ⟨name, name, .text value, value, .literal, .isPublic⟩

/-- Whether the attribute is written to the output. -/
def isPublic (a : EvaluatedAttribute) : Bool := a.privacy == .isPublic

end EvaluatedAttribute

/-- An attribute's name without its marks, and what they say. -/
def classify (rawName : String) : String × Privacy × Evaluation :=
  match rawName.toList with
  | ':' :: '@' :: rest => (String.ofList rest, .isPrivate, .dynamic)
  | ':' :: rest => (String.ofList rest, .isPublic, .dynamic)
  | '@' :: rest => (String.ofList rest, .isPrivate, .literal)
  | _ =>
    if hasStart rawName "webc:" then (rawName, .isPrivate, .literal)
    else (rawName, .isPublic, .literal)

/-- Whether the attribute directs the compiler. -/
def isDirective (rawName : String) : Bool := hasStart rawName "webc:"

/-- Whether the attribute gives an element its content or attributes. -/
def isContentDirective (rawName : String) : Bool :=
  ["@html", "@text", "@raw", "@attributes"].contains rawName

/-- A name in which each hyphen but a leading one makes the next character upper case. -/
def camelCase (name : String) : String :=
  let step (acc : List Char × Bool) (c : Char) : List Char × Bool :=
    if c == '-' then (acc.1, !acc.1.isEmpty)
    else if acc.2 then (acc.1 ++ upperChar c, false)
    else (acc.1 ++ [c], false)
  String.ofList (name.toList.foldl step ([], false)).1

/-! ### Evaluation -/

/-- The value of an expression; a blank one has none. The names it reads from the data are looked
up first. -/
def evaluateExpression (source context : String) (data : Cascade) (file : String) :
    Compiled Value :=
  if isBlankText source then .ok .null
  else (do
    let names ← Script.freeNames source
    Script.evaluate source names data).mapError (.evaluation context source file)

/-- An attribute with its value. -/
def evaluateAttribute (a : Markup.Attribute) (data : Cascade) (file : String) :
    Compiled EvaluatedAttribute :=
  let (name, privacy, evaluation) := classify a.name
  let value : Compiled Value := match evaluation with
    | .literal => .ok (.text a.value)
    | .dynamic => evaluateExpression a.value ("attribute `" ++ a.name ++ "`") data file
  value.map fun v => ⟨name, a.name, v, a.value, evaluation, privacy⟩

/-- The attributes of a node that are no directives, with their values. -/
def evaluateAttributes (attributes : List Markup.Attribute) (data : Cascade) (file : String) :
    Compiled (List EvaluatedAttribute) :=
  (attributes.filter fun a => !isDirective a.name && !isContentDirective a.name).mapM
    fun a => evaluateAttribute a data file

/-- The entries of a record as public attributes. -/
def spreadAttributes (v : Value) : List EvaluatedAttribute :=
  v.fields.map fun (name, value) => ⟨name, name, value, value.display, .dynamic, .isPublic⟩

/-! ### Merging -/

/-- Two values of `class`: the words of both, each once. -/
def mergeClass (a b : Value) : Value :=
  .text (" ".intercalate ([a, b].flatMap fun v => blankFree v.display).eraseDups)

/-- The declarations of a value of `style`. -/
def styleDeclarations (v : Value) : List String :=
  ((piecesOf v.display ";").map trim).filter (!·.isEmpty)

/-- Two values of `style`: the declarations of both. -/
def mergeStyle (a b : Value) : Value :=
  .text ("; ".intercalate ([a, b].flatMap styleDeclarations))

/-- The name under which attributes merge. Private values of `class` and `style` merge apart
from public ones. -/
def mergeKey (a : EvaluatedAttribute) : String :=
  if (a.name == "class" || a.name == "style") && a.privacy == .isPrivate then "@" ++ a.name
  else a.name

/-- An attribute that comes after another under the same key. -/
def mergeAttribute (before after : EvaluatedAttribute) : EvaluatedAttribute :=
  if after.name == "class" then { before with value := mergeClass before.value after.value }
  else if after.name == "style" then { before with value := mergeStyle before.value after.value }
  else after

/-- Adds an attribute to those merged so far. -/
def mergeInto (merged : Entries EvaluatedAttribute) (a : EvaluatedAttribute) :
    Entries EvaluatedAttribute :=
  match Entries.get? (mergeKey a) merged with
  | some before => Entries.insert (mergeKey a) (mergeAttribute before a) merged
  | none => Entries.insert (mergeKey a) a merged

/-- Attributes of several sources as one list: `class` and `style` accumulate, of all others the
last one stands at the place of the first. -/
def mergeAttributes (attributes : List EvaluatedAttribute) : List EvaluatedAttribute :=
  Entries.values (attributes.foldl mergeInto [])

/-! ### Serialization -/

/-- A character in the value of an attribute. -/
def escapeAttributeChar (c : Char) : List Char :=
  if c == '&' then "&amp;".toList else if c == '"' then "&quot;".toList else [c]

/-- A text as the value of an attribute. -/
def escapeAttribute (s : String) : String := String.ofList (s.toList.flatMap escapeAttributeChar)

/-- A character in text. -/
def escapeTextChar (c : Char) : List Char :=
  if c == '&' then "&amp;".toList
  else if c == '<' then "&lt;".toList
  else if c == '>' then "&gt;".toList
  else [c]

/-- A text outside of tags. -/
def escapeText (s : String) : String := String.ofList (s.toList.flatMap escapeTextChar)

/-- One attribute in a tag: nothing for `null` and `false`, the bare name for an empty text. -/
def serializeAttribute (a : EvaluatedAttribute) : String :=
  match a.value with
  | .null => ""
  | .bool false => ""
  | .text "" => " " ++ a.name
  | v => " " ++ a.name ++ "=\"" ++ escapeAttribute v.display ++ "\""

/-- The public attributes in a tag. -/
def serializeAttributes (attributes : List EvaluatedAttribute) : String :=
  String.join ((attributes.filter (·.isPublic)).map serializeAttribute)

/-! ### Attributes as data -/

/-- The attributes by their names in camel case, directives left out. -/
def cascadeEntries (attributes : List EvaluatedAttribute) : Entries Value :=
  Entries.ofPairs ((attributes.filter fun a => !isDirective a.rawName).map fun a =>
    (camelCase a.name, a.value))

/-- The attributes by their names, directives left out. -/
def rawEntries (attributes : List EvaluatedAttribute) : Entries Value :=
  Entries.ofPairs ((attributes.filter fun a => !isDirective a.rawName).map fun a =>
    (a.name, a.value))

end ComponentMarkup
