import ComponentMarkup.Text.Blank

/-!
# Searching and replacing

Occurrences of one text in another, always the leftmost and without overlap.

## Main definitions

* `cut?` — a text around the first occurrence of another
* `pieces` — the parts between the occurrences of a separator
* `replaceAll`, `replaceFirst` — occurrences replaced
* `hasPart`, `dropStart?`, `dropEnd?` — containment and its two ends
-/

namespace ComponentMarkup

/-- The parts of `text` before and after the first occurrence of `part`. -/
def cut? (part : List Char) : List Char → Option (List Char × List Char)
  | [] => if part.isEmpty then some ([], []) else none
  | c :: rest =>
    if part.isPrefixOf (c :: rest) then some ([], (c :: rest).drop part.length)
    else (cut? part rest).map fun (before, after) => (c :: before, after)

/-- What follows the first occurrence is shorter than the text, unless `part` is empty. -/
theorem length_of_cut? {part text before after : List Char} (h : cut? part text = some (before, after))
    (hp : part ≠ []) : after.length < text.length := by
  induction text generalizing before after with
  | nil => cases part <;> simp_all [cut?]
  | cons c rest ih =>
    unfold cut? at h
    split at h
    · have hpos : 0 < part.length := List.length_pos_iff.mpr hp
      simp only [Option.some.injEq, Prod.mk.injEq] at h
      obtain ⟨-, rfl⟩ := h
      simp only [List.length_drop, List.length_cons]
      omega
    · cases hc : cut? part rest with
      | none => simp [hc] at h
      | some r =>
        obtain ⟨b, a⟩ := r
        simp only [hc, Option.map_some, Option.some.injEq, Prod.mk.injEq] at h
        obtain ⟨-, rfl⟩ := h
        have := ih hc
        simp only [List.length_cons]
        omega

/-- The parts of `text` between the occurrences of `separator`, empty ones included; an empty
separator occurs nowhere. -/
def pieces (separator text : List Char) : List (List Char) :=
  if hs : separator = [] then [text]
  else match h : cut? separator text with
    | none => [text]
    | some (before, after) => before :: pieces separator after
termination_by text.length
decreasing_by exact length_of_cut? h hs

/-- The text with every occurrence of `part` replaced; an empty `part` occurs before every
character and at the end. -/
def replaceAllChars (part new text : List Char) : List Char :=
  if part.isEmpty then new ++ text.flatMap fun c => c :: new
  else List.intercalate new (pieces part text)

/-- The text with every occurrence of `part` replaced. -/
def replaceAll (text part new : String) : String :=
  String.ofList (replaceAllChars part.toList new.toList text.toList)

/-- The text with the first occurrence of `part` replaced. -/
def replaceFirst (text part new : String) : String :=
  match cut? part.toList text.toList with
  | some (before, after) => String.ofList (before ++ new.toList ++ after)
  | none => text

/-- The parts of a text between the occurrences of a separator. -/
def piecesOf (text separator : String) : List String :=
  (pieces separator.toList text.toList).map String.ofList

/-- Whether `part` occurs in `text`. -/
def hasPart (text part : String) : Bool := (cut? part.toList text.toList).isSome

/-- The place of the first occurrence, counted in characters. -/
def findPart? (text part : String) : Option Nat :=
  (cut? part.toList text.toList).map fun (before, _) => before.length

/-- What follows `start` at the head of the text. -/
def dropStartChars? (start text : List Char) : Option (List Char) :=
  if start.isPrefixOf text then some (text.drop start.length) else none

/-- What follows `start` at the head of the text. -/
def dropStart? (text start : String) : Option String :=
  (dropStartChars? start.toList text.toList).map String.ofList

/-- What precedes `ending` at the end of the text. -/
def dropEnd? (text ending : String) : Option String :=
  (dropStartChars? ending.toList.reverse text.toList.reverse).map fun cs =>
    String.ofList cs.reverse

/-- Whether the text begins with `start`. -/
def hasStart (text start : String) : Bool := start.toList.isPrefixOf text.toList

/-- Whether the text ends with `ending`. -/
def hasEnd (text ending : String) : Bool := ending.toList.reverse.isPrefixOf text.toList.reverse

end ComponentMarkup
