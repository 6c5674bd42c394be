import ComponentMarkup.Style.Reader

/-!
# Conditions

Conditions on something that a style sheet can ask about, with `not`, `and` and `or`. A condition is
written with as few parentheses as it needs.

## Main definitions

* `Style.Condition` — conditions on features
* `Style.Condition.text` — their texts
* `Style.condition` — reads conditions
-/

namespace ComponentMarkup.Style

/-- A condition on features. -/
inductive Condition (α : Type)
  | feature (a : α)
  | not (c : Condition α)
  /-- All of some conditions, or any of them. -/
  | joined (needsAll : Bool) (cs : List (Condition α))

namespace Condition

variable {α : Type}

/-- The word between joined conditions. -/
def joiner (needsAll : Bool) : String := if needsAll then "and" else "or"

/-- Whether a condition needs parentheses inside of joined ones, or of none. -/
def needsParens (around : Option Bool) : Condition α → Bool
  | .feature _ => false
  | .not _ => true
  | .joined needsAll _ => around != some needsAll

mutual

/-- The text of a condition, from the text of features. -/
def text (feature : α → String) : Condition α → String
  | .feature a => feature a
  | .not c =>
    let inner := text feature c
    "not " ++ if c.needsParens none then "(" ++ inner ++ ")" else inner
  | .joined needsAll cs => joinedText feature needsAll cs
termination_by structural c => c

/-- The texts of joined conditions with the word between them. -/
def joinedText (feature : α → String) (needsAll : Bool) : List (Condition α) → String
  | [] => ""
  | c :: cs =>
    let inner := text feature c
    let shown := if c.needsParens (some needsAll) then "(" ++ inner ++ ")" else inner
    if cs.isEmpty then shown
    else shown ++ " " ++ joiner needsAll ++ " " ++ joinedText feature needsAll cs
termination_by structural cs => cs

end

end Condition

/-! ### Reading -/

/-- A condition from a reader of the conditions that stand in parentheses. Alternatives are read only
where they are allowed. -/
def conditionWith {α : Type} (operand : Reader (Condition α)) (allowsAny : Bool) :
    Reader (Condition α) :=
  (do
    let _ ← word "not"
    .not <$> operand) <|> (do
    let first ← operand
    match ← optional (keyword (if allowsAny then ["and", "or"] else ["and"])) with
    | none => pure first
    | some joiner =>
      let second ← operand
      let others ← many (do
        let _ ← word joiner
        operand)
      pure (.joined (joiner == "and") (first :: second :: others)))

/-- What stands between `and` and `or`: a condition in parentheses, or what `leaf` understands.
Parentheses nest to a depth. -/
def operandWithin {α : Type} (leaf : Part → Option α) : Nat → Reader (Condition α)
  | 0 => failure
  | depth + 1 => part fun p => match p with
    | .block .paren opening inside closing =>
      readAll? (conditionWith (operandWithin leaf depth) true) inside <|>
        (leaf (.block .paren opening inside closing)).map .feature
    | p => (leaf p).map .feature

/-- A condition. -/
def condition {α : Type} (leaf : Part → Option α) (allowsAny : Bool) : Reader (Condition α) :=
  fun parts => (conditionWith (operandWithin leaf (sourceOf parts).length.succ) allowsAny).run parts

end ComponentMarkup.Style
