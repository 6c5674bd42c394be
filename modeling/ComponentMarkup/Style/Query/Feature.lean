import ComponentMarkup.Style.Raw
import ComponentMarkup.Style.Value.Measure
import ComponentMarkup.Text.Search

/-!
# Features

What a media query or a container query asks about: a feature of the surroundings, compared with a
value. Names that start with `min-` or `max-` are comparisons.

## Main definitions

* `Style.FeatureKind` — the kinds of values that features have
* `Style.Feature` — a feature, perhaps compared with values
* `Style.feature` — reads a feature
-/

namespace ComponentMarkup.Style

/-- The kinds of values that features have. -/
inductive FeatureKind
  | length
  | ratio
  | number
  | integer
  | resolution
  | flag
  | word
  | unknown
  deriving DecidableEq

namespace FeatureKind

/-- Whether values of a kind have an order. -/
def isOrdered : FeatureKind → Bool
  | .flag => false
  | .word => false
  | _ => true

/-- Whether a value of a kind can stand where another is expected. -/
def fits (expected : FeatureKind) (kind : FeatureKind) : Bool :=
  expected == .unknown || kind == .unknown || expected == kind

end FeatureKind

/-- Features with the kinds of their values. -/
abbrev FeatureTable := List (String × FeatureKind)

/-- A feature, perhaps compared with values; values and comparisons are given as texts. -/
inductive Feature
  | present (name : String)
  | equal (name value : String)
  | compared (name comparison value : String)
  | between (low lower name upper high : String)

/-- A feature as it is written. -/
def Feature.text : Feature → String
  | .present name => "(" ++ name ++ ")"
  | .equal name value => "(" ++ name ++ ":" ++ value ++ ")"
  | .compared name comparison value => "(" ++ name ++ comparison ++ value ++ ")"
  | .between low lower name upper high => "(" ++ low ++ lower ++ name ++ upper ++ high ++ ")"

/-! ### Values -/

/-- A ratio of two numbers; the second one may be left out if it is one. -/
def ratio (needsSecond : Bool) : Reader String := do
  let first ← plainNumberValue
  match ← optional (do delim '/'; plainNumberValue) with
  | some second => pure (if second == "1" then first else first ++ "/" ++ second)
  | none => if needsSecond then failure else pure first

/-- A resolution. -/
def resolution : Reader String :=
  (fun (x, unit) => resolutionText x unit) <$> dimension ["dpi", "dpcm", "dppx", "x"]

/-- A variable of the surroundings. -/
def environment : Reader String :=
  part fun p => match p with
    | .block (.function name) _ _ _ => if lower name == "env" then rawText? [p] else none
    | _ => none

/-- A value of a kind. -/
def valueOfKind : FeatureKind → Reader String
  | .length => length
  | .ratio => ratio false
  | .number => plainNumberValue
  | .integer => integerValue
  | .resolution => resolution
  | .flag => do
    let i ← integer
    if i == 0 || i == 1 then pure (toString i) else failure
  | .word => identText <$> ident
  | .unknown => failure

/-- A value of any kind, with its kind. -/
def anyValue : Reader (FeatureKind × String) :=
  (Prod.mk .ratio <$> ratio true) <|> (Prod.mk .number <$> plainNumberValue) <|>
    (Prod.mk .length <$> length) <|> (Prod.mk .resolution <$> resolution) <|>
    (Prod.mk .unknown <$> environment) <|> (Prod.mk .word <$> (identText <$> ident))

/-- A value where one of a kind is expected. -/
def featureValue (expected : FeatureKind) : Reader String := do
  let (kind, text) ← (Prod.mk expected <$> valueOfKind expected) <|> anyValue
  if expected.fits kind then pure text else failure

/-! ### Names and comparisons -/

/-- A feature by its name: its name without a bound, the kind of its values, and the comparison that
the name stands for. -/
structure NamedFeature where
  name : String
  kind : FeatureKind
  bound : Option String

/-- A feature by its name. -/
def namedFeature (table : FeatureTable) (name : String) : NamedFeature :=
  if hasStart name "--" then ⟨name, .unknown, none⟩
  else
    let called := lower name
    let (vendor, rest) := match dropStart? called "-webkit-" with
      | some rest => ("-webkit-", rest)
      | none => ("", called)
    let (bound, base) := match dropStart? rest "min-", dropStart? rest "max-" with
      | some base, _ => (some ">=", base)
      | none, some base => (some "<=", base)
      | none, none => (none, rest)
    match table.find? (·.1 == vendor ++ base) with
    | some (known, kind) => ⟨known, kind, bound⟩
    | none => ⟨identText name, .unknown, none⟩

/-- The name of a feature. -/
def featureName (table : FeatureTable) : Reader NamedFeature := namedFeature table <$> ident

/-- A comparison. -/
def comparison : Reader String :=
  (delim '=' *> pure "=") <|> (delim '>' *> delim '=' *> pure ">=") <|> (delim '>' *> pure ">") <|>
    (delim '<' *> delim '=' *> pure "<=") <|> (delim '<' *> pure "<")

/-- A comparison the other way around. -/
def reversed : String → String
  | ">" => "<"
  | ">=" => "<="
  | "<" => ">"
  | "<=" => ">="
  | other => other

/-! ### Features -/

/-- A feature with its name first. -/
def nameFirst (table : FeatureTable) : Reader Feature := do
  let f ← featureName table
  match ← optional ((colon *> pure none) <|> (some <$> comparison)) with
  | none => pure (.present f.name)
  | some shown =>
    if shown.isSome && f.bound.isSome then failure
    let value ← featureValue f.kind
    match shown <|> f.bound with
    | some c => if f.kind.isOrdered then pure (.compared f.name c value) else failure
    | none => pure (.equal f.name value)

/-- A feature with a value first. -/
def valueFirst (table : FeatureTable) : Reader Feature := fun parts =>
  match parts.findSome? identOf? with
  | none => none
  | some name =>
    let f := namedFeature table name
    let read : Reader Feature := do
      if f.bound.isSome || !f.kind.isOrdered then failure
      let low ← featureValue f.kind
      let c ← comparison
      let _ ← ident
      match ← optional comparison with
      | none => pure (.compared f.name (reversed c) low)
      | some d =>
        if c.take 1 != d.take 1 || c == "=" then failure
        let high ← featureValue f.kind
        pure (.between low c f.name d high)
    read.run parts

/-- A feature, from what is in the parentheses. -/
def feature (table : FeatureTable) : Reader Feature := nameFirst table <|> valueFirst table

end ComponentMarkup.Style
