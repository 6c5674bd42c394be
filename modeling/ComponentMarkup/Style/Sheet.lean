import ComponentMarkup.Style.FontFace
import ComponentMarkup.Style.Import
import ComponentMarkup.Style.Keyframes
import ComponentMarkup.Style.Page
import ComponentMarkup.Style.Registration
import ComponentMarkup.Style.Rule
import ComponentMarkup.Style.Selector.Read

/-!
# Style sheets

Reading whole style sheets. What a block has in it is read by itself: a declaration where one can
stand and can be read, else a rule. A rule that cannot be read spoils the whole sheet.

## Main definitions

* `Style.Body` — declarations and rules in the order in which they count
* `Style.atRule?` — reads a rule that starts with `@`
* `Style.sheet?` — reads a style sheet
-/

namespace ComponentMarkup.Style

/-! ### Bodies -/

/-- What a block has in it: the declarations before its first rule, and its rules, the last one
first. -/
structure Body where
  own : List Declaration := []
  latest : List Rule := []

namespace Body

/-- The rules in order. -/
def rules (b : Body) : List Rule := b.latest.reverse

/-- Adds a rule. -/
def addRule (b : Body) (r : Rule) : Body := { b with latest := r :: b.latest }

/-- Adds a declaration; one after a rule stands among the rules. -/
def addDeclaration (b : Body) (d : Declaration) : Body :=
  match b.latest with
  | [] => { b with own := b.own ++ [d] }
  | .declarations ds :: before => { b with latest := .declarations (ds ++ [d]) :: before }
  | before => { b with latest := .declarations [d] :: before }

/-- The body of a group: its declarations are rules too. -/
def asRules (b : Body) : List Rule :=
  if b.own.isEmpty then b.rules else .declarations b.own :: b.rules

end Body

/-- How what stands in the brackets of a rule is read, inside of a style rule or not. -/
abbrev ReadBody := Bool → List Part → Option Body

/-! ### Rules that start with `@` -/

/-- The names of rules for animations. -/
def keyframesNames : List String :=
  ["keyframes", "-webkit-keyframes", "-moz-keyframes", "-o-keyframes", "-ms-keyframes"]

/-- What stands before the block of a rule and in it. -/
structure AtRule where
  name : String
  prelude : List Part
  block : Option (List Part)

namespace AtRule

/-- A group around the rules in the block. -/
def group? (r : AtRule) (read : ReadBody) (inStyle : Bool) (g : Option Group) : Option Rule := do
  let g ← g
  let body ← r.block.bind (read inStyle)
  pure (.group g body.asRules)

/-- A rule for layers: a group, or a statement of their order. -/
def layer? (r : AtRule) (read : ReadBody) (inStyle : Bool) : Option Rule :=
  let names := if (significant r.prelude).isEmpty then some [] else layerNames? r.prelude
  match names, r.block with
  | some [], some _ => r.group? read inStyle (some (.layer none))
  | some [name], some _ => r.group? read inStyle (some (.layer (some name)))
  | some (n :: names), none =>
    if inStyle then none else some (.other ("@layer " ++ ",".intercalate (n :: names) ++ ";"))
  | _, _ => none

/-- The selectors in the parentheses at the start of a scope. -/
def scopeSelectors : Reader (List Selector) :=
  part fun p => match p with
    | .block .paren _ inside _ => selectorsOf? { stance := .relative, forgiving := true } inside
    | _ => none

/-- A scope, from what stands before its block. -/
def scope : Reader Group := do
  let start ← optional scopeSelectors
  match ← optional (word "to") with
  | some _ => pure (.scope start (some (← scopeSelectors)))
  | none => pure (.scope start none)

/-- Whether parts are an address for one browser: `url-prefix()`. -/
def isAddressPrefix (parts : List Part) : Bool :=
  match significant parts with
  | [.block (.function name) _ inside _] =>
    lower name == "url-prefix" && match significant inside with
      | [] => true
      | [.token (.string value) _] => value.isEmpty
      | _ => false
  | _ => false

/-- A rule inside of another one, that says so. -/
def nest? (r : AtRule) (read : ReadBody) : Option Rule := do
  let selectors ← selectorsOf? {} r.prelude
  if selectors.all mentionsParent then
    let body ← r.block.bind (read true)
    pure (.nest selectors body.own body.rules)
  else none

/-- A block of declarations under a heading, from what stands before it. -/
def described? (r : AtRule) (keyword : String) (title : Option String) : Option Rule := do
  let title ← title
  let ds ← r.block.bind declarations?
  pure (.other ("@" ++ keyword ++ title ++ declarationBlockText ds))

/-- What stands before a block that needs nothing before it. -/
def untitled (r : AtRule) : Option String := if (significant r.prelude).isEmpty then some "" else none

/-- The name that stands before a block. -/
def title (r : AtRule) (name : Reader String) : Option String := (readAll? name r.prelude).map (" " ++ ·)

/-- A rule that is not known, as it is written. -/
def unknown? (r : AtRule) : Option Rule := do
  let prelude ← rawText? (dropGaps r.prelude)
  let heading := "@" ++ r.name ++ if prelude.isEmpty then "" else " " ++ prelude
  match r.block with
  | none => pure (.other (heading ++ ";"))
  | some inside => pure (.other (heading ++ "\x7b" ++ (← rawText? inside) ++ "\x7d"))

/-- The names of rules that can stand in no style rule. -/
def outermostNames : List String :=
  keyframesNames ++ ["font-face", "font-palette-values", "counter-style", "viewport",
    "-ms-viewport", "page", "property", "view-transition"]

/-- Reads a rule that can stand anywhere, by its name in lower case. -/
def nested? (r : AtRule) (read : ReadBody) (inStyle : Bool) : Option Rule :=
  let called := lower r.name
  if inStyle && outermostNames.contains called then none
  else if keyframesNames.contains called then
    r.block.bind fun body => (keyframes? called r.prelude body).map fun k => .other k.text
  else match called with
    | "media" => r.group? read inStyle ((mediaOf? r.prelude).map .media)
    | "supports" => r.group? read inStyle ((supportsOf? r.prelude).map .supports)
    | "container" => r.group? read inStyle ((containerOf? r.prelude).map .container)
    | "layer" => r.layer? read inStyle
    | "scope" => r.group? read inStyle (readAll? scope r.prelude)
    | "starting-style" => r.group? read inStyle (r.untitled.map fun _ => .startingStyle)
    | "-moz-document" =>
      r.group? read inStyle (if isAddressPrefix r.prelude then some .document else none)
    | "nest" => if inStyle then r.nest? read else r.unknown?
    | "font-face" => do
      let _ ← r.untitled
      pure (.other (fontFaceText (← r.block)))
    | "page" => r.block.bind fun body => (page? r.prelude body).map fun p => .other p.text
    | "property" =>
      r.block.bind fun body => (registration? r.prelude body).map fun p => .other p.text
    | "counter-style" => r.described? called (r.title customIdent)
    | "font-palette-values" => r.described? called (r.title (identText <$> dashedIdent))
    | "viewport" => r.described? called r.untitled
    | "-ms-viewport" => r.described? called r.untitled
    | "view-transition" => r.described? called r.untitled
    | _ => r.unknown?

end AtRule

/-- The rule that starts with `@` and a name, and the parts after it. -/
def takeAtRule (name : String) (parts : List Part) : AtRule × List Part :=
  let (prelude, after) := parts.span fun p => !(p.isSemicolon || p.isCurly)
  (⟨name, prelude, blockOf? after⟩, after.drop 1)

/-! ### Style rules -/

/-- A style rule at the start of parts, and the parts after it. Inside of another one a semicolon ends
it before its block. -/
def takeStyleRule (read : ReadBody) (inStyle : Bool) (parts : List Part) :
    Option (Rule × List Part) := do
  let (prelude, after) := parts.span fun p => !(p.isCurly || (inStyle && p.isSemicolon))
  let block ← blockOf? after
  let selectors ← selectorsOf? { stance := if inStyle then .nested else .alone } prelude
  let body ← read true block
  pure (.style selectors body.own body.rules, after.drop 1)

/-- A declaration at the start of parts, and the parts after it. -/
def takeDeclaration (parts : List Part) : Option (Declaration × List Part) :=
  match parts with
  | first :: rest =>
    let (value, after) := rest.span (!·.isSemicolon)
    match identOf? first, afterColon? value with
    | some name, some value => (declaration? name value).map fun d => (d, after.drop 1)
    | _, _ => none
  | [] => none

/-! ### Blocks -/

/-- Adds at most `count` declarations and rules to a body, as long as there are some. -/
def readEntries (read : ReadBody) (inStyle : Bool) : Nat → Body → List Part → Option Body
  | 0, b, _ => some b
  | count + 1, b, parts =>
    match parts.dropWhile Part.isIdle with
    | [] => some b
    | .token (.atKeyword name) _ :: rest =>
      let (r, after) := takeAtRule name rest
      (r.nested? read inStyle).bind fun rule => readEntries read inStyle count (b.addRule rule) after
    | parts =>
      match if inStyle then takeDeclaration parts else none with
      | some (d, after) => readEntries read inStyle count (b.addDeclaration d) after
      | none =>
        match takeStyleRule read inStyle parts with
        | some (rule, after) => readEntries read inStyle count (b.addRule rule) after
        | none => none

/-- Reads a body in which blocks nest to a depth. -/
def readBody : Nat → ReadBody
  | 0 => fun _ _ => none
  | depth + 1 => fun inStyle parts =>
    readEntries (readBody depth) inStyle parts.length.succ {} parts

/-! ### Whole sheets -/

/-- What a style sheet may still have at its start. -/
inductive Stage
  | start
  | layers
  | imports
  | namespaces
  | body
  deriving DecidableEq

namespace Stage

/-- The place of a stage. -/
def rank : Stage → Nat
  | start => 0
  | layers => 1
  | imports => 2
  | namespaces => 3
  | body => 4

/-- The stage after a rule for layers without a block. -/
def afterLayers (s : Stage) : Stage := if s.rank ≤ Stage.layers.rank then layers else body

end Stage

/-- Reads a rule at the top of a sheet that starts with `@`: the rule, if it says something, and the
stage after it. -/
def topRule? (read : ReadBody) (stage : Stage) (r : AtRule) : Option (Option Rule × Stage) :=
  match lower r.name, r.block with
  | "import", none =>
    if stage.rank ≤ Stage.imports.rank then
      (importText? r.prelude).map fun text => (some (.other text), .imports)
    else none
  | "namespace", none =>
    if stage.rank ≤ Stage.namespaces.rank then
      (namespaceText? r.prelude).map fun text => (some (.other text), .namespaces)
    else none
  | "charset", none => (readAll? string r.prelude).map fun _ => (none, stage)
  | "import", some _ => none
  | "namespace", some _ => none
  | "charset", some _ => none
  | called, block =>
    (r.nested? read false).map fun rule =>
      (some rule, if block.isSome then .body
        else if called == "layer" then stage.afterLayers else stage)

/-- Whether a part stands between the rules of a sheet. -/
def Part.isBetweenRules (p : Part) : Bool :=
  p.isGap || match p with
    | .token .commentOpen _ => true
    | .token .commentClose _ => true
    | _ => false

/-- At most `count` rules of a sheet. A statement of its encoding at its start says nothing. -/
def topRules (read : ReadBody) : Nat → Bool → Stage → List Part → Option (List Rule)
  | 0, _, _, _ => some []
  | count + 1, isFirst, stage, parts =>
    match parts.dropWhile Part.isBetweenRules with
    | [] => some []
    | .token (.atKeyword name) _ :: rest =>
      if isFirst && lower name == "charset" then
        topRules read count false stage ((rest.dropWhile (!·.isSemicolon)).drop 1)
      else do
        let (r, after) := takeAtRule name rest
        let (rule, stage) ← topRule? read stage r
        let more ← topRules read count false stage after
        pure (rule.toList ++ more)
    | parts => do
      let (rule, after) ← takeStyleRule read false parts
      let more ← topRules read count false .body after
      pure (rule :: more)

/-- The rules of a style sheet. -/
def sheet? (css : String) : Option (List Rule) :=
  let parts := partsOf css
  topRules (readBody css.length.succ) parts.length.succ true .start parts

end ComponentMarkup.Style
