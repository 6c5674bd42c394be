import ComponentMarkup.Style.Declaration
import ComponentMarkup.Style.Value.Measure

/-!
# Keyframes

The steps of an animation. A step that cannot be read is left out.

## Main definitions

* `Style.Keyframe` — a step
* `Style.Keyframes` — an animation
* `Style.keyframes?` — reads an animation
-/

namespace ComponentMarkup.Style

/-- A step of an animation: when it is reached, and the values then. -/
structure Keyframe where
  points : List String
  declarations : List Declaration

/-- A step as it is written. -/
def Keyframe.text (k : Keyframe) : String :=
  ",".intercalate k.points ++ declarationBlockText k.declarations

/-- An animation. -/
structure Keyframes where
  /-- The name of the rule, with the prefix of a browser if it has one. -/
  keyword : String
  name : String
  steps : List Keyframe

/-- An animation as it is written. -/
def Keyframes.text (k : Keyframes) : String :=
  "@" ++ k.keyword ++ " " ++ k.name ++ "\x7b" ++ String.join (k.steps.map Keyframe.text) ++ "\x7d"

/-! ### Reading -/

/-- Whether a name cannot be that of an animation without quotes. -/
def isReservedAnimation (name : String) : Bool := lower name == "none" || isWide name

/-- The name of an animation. -/
def animationTitle : Reader String :=
  part fun p => match p with
    | .token (.ident name) _ => if isReservedAnimation name then none else some (identText name)
    | .token (.string name) _ =>
      some (if isReservedAnimation name then stringText name else identText name)
    | _ => none

/-- A point of an animation. -/
def keyframePoint : Reader String :=
  (do
    let x ← percentage
    pure (if x == 100 then "to" else percentageText x)) <|>
  (word "from" *> pure "0%") <|> (word "to" *> pure "to") <|> (do
    let range ← keyword ["cover", "contain", "entry", "exit", "entry-crossing", "exit-crossing"]
    let x ← percentage
    pure (range ++ " " ++ percentageText x))

/-- A step, from its points and its body. -/
def keyframe? (points body : List Part) : Option Keyframe :=
  match readAll? (commaList keyframePoint) points, declarations? body with
  | some points, some ds => some ⟨points, ds⟩
  | _, _ => none

/-- The first `count` steps of an animation; none for what cannot be read. -/
def keyframesWithin : Nat → List Part → List (Option Keyframe)
  | 0, _ => []
  | count + 1, parts =>
    match parts.dropWhile Part.isIdle with
    | [] => []
    | .token (.atKeyword _) _ :: rest =>
      keyframesWithin count ((rest.dropWhile fun p => !(p.isSemicolon || p.isCurly)).drop 1)
    | parts =>
      let (points, after) := parts.span (!·.isCurly)
      (blockOf? after).bind (keyframe? points) :: keyframesWithin count (after.drop 1)

/-- An animation, from what stands before its block and in it. -/
def keyframes? (keyword : String) (prelude body : List Part) : Option Keyframes :=
  (readAll? animationTitle prelude).map fun name =>
    ⟨keyword, name, (keyframesWithin body.length body).filterMap id⟩

end ComponentMarkup.Style
