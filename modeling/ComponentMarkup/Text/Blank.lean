/-!
# Blanks

The blanks are the characters with the Unicode property White_Space.

## Main definitions

* `isBlank`, `isAsciiBlank` — the property, and that of markup
* `trim`, `trimStart`, `trimEnd` — a text without the blanks around it
* `blankFree` — the maximal runs without blanks, in order
* `isBlankText` — a text of blanks only
-/

namespace ComponentMarkup

/-- A character with the property White_Space. -/
def isBlank (c : Char) : Bool :=
  let n := c.toNat
  (9 ≤ n && n ≤ 13) || n == 0x20 || n == 0x85 || n == 0xA0 || n == 0x1680 ||
    (0x2000 ≤ n && n ≤ 0x200A) || n == 0x2028 || n == 0x2029 || n == 0x202F || n == 0x205F ||
    n == 0x3000

/-- A blank of the first 128 characters that markup counts as one. -/
def isAsciiBlank (c : Char) : Bool :=
  c == ' ' || c == '\t' || c == '\n' || c == '\x0C' || c == '\r'

/-- Drops the elements at the end that satisfy `p`. -/
def dropEndWhile {α : Type} (p : α → Bool) (xs : List α) : List α :=
  (xs.reverse.dropWhile p).reverse

/-- Drops the blanks at both ends. -/
def trimChars (cs : List Char) : List Char := dropEndWhile isBlank (cs.dropWhile isBlank)

/-- The text without the blanks at its start. -/
def trimStart (text : String) : String := String.ofList (text.toList.dropWhile isBlank)

/-- The text without the blanks at its end. -/
def trimEnd (text : String) : String := String.ofList (dropEndWhile isBlank text.toList)

/-- The text without the blanks at its ends. -/
def trim (text : String) : String := String.ofList (trimChars text.toList)

/-- A text of blanks only. -/
def isBlankText (text : String) : Bool := text.toList.all isBlank

/-- The pieces between the elements that satisfy `p`, empty ones included. -/
def splitWhere {α : Type} (p : α → Bool) : List α → List (List α)
  | [] => [[]]
  | x :: xs =>
    if p x then [] :: splitWhere p xs
    else match splitWhere p xs with
      | [] => [[x]]
      | piece :: pieces => (x :: piece) :: pieces

section splitWhere

variable {α : Type} {p : α → Bool} {x : α} {xs piece : List α}

theorem splitWhere_ne_nil (p : α → Bool) (xs : List α) : splitWhere p xs ≠ [] := by
  cases xs with
  | nil => simp [splitWhere]
  | cons x xs =>
    unfold splitWhere
    split
    · simp
    · split <;> simp

/-- A separator ends the parts of what stands before it. -/
theorem splitWhere_append_cons (hx : p x = true) (xs ys : List α) :
    splitWhere p (xs ++ x :: ys) = splitWhere p xs ++ splitWhere p ys := by
  induction xs with
  | nil => simp [splitWhere, hx]
  | cons y xs ih =>
    rw [List.cons_append]
    by_cases hy : p y
    · simp [splitWhere, hy, ih]
    · obtain ⟨piece, pieces, split⟩ := List.exists_cons_of_ne_nil (splitWhere_ne_nil p xs)
      simp [splitWhere, hy, ih, split]

theorem splitWhere_of_forall (h : ∀ x ∈ xs, p x = false) : splitWhere p xs = [xs] := by
  induction xs with
  | nil => rfl
  | cons x xs ih =>
    have rest := ih fun y hy => h y (List.mem_cons_of_mem x hy)
    simp [splitWhere, h x List.mem_cons_self, rest]

/-- No part holds a separator. -/
theorem eq_false_of_mem_splitWhere (hpiece : piece ∈ splitWhere p xs) (hx : x ∈ piece) :
    p x = false := by
  induction xs generalizing piece with
  | nil =>
    obtain rfl : piece = [] := by simpa [splitWhere] using hpiece
    exact absurd hx List.not_mem_nil
  | cons y xs ih =>
    by_cases hy : p y
    · rw [splitWhere, if_pos hy] at hpiece
      rcases List.mem_cons.mp hpiece with rfl | later
      · exact absurd hx List.not_mem_nil
      · exact ih later hx
    · obtain ⟨first, others, split⟩ := List.exists_cons_of_ne_nil (splitWhere_ne_nil p xs)
      rw [splitWhere, if_neg hy, split] at hpiece
      rw [split] at ih
      rcases List.mem_cons.mp hpiece with rfl | later
      · rcases List.mem_cons.mp hx with rfl | hx
        · exact eq_false_of_ne_true hy
        · exact ih List.mem_cons_self hx
      · exact ih (List.mem_cons_of_mem first later) hx

end splitWhere

/-- The maximal runs of characters that are not blanks, in order. -/
def blankFree (text : String) : List String :=
  ((splitWhere isBlank text.toList).filter (!·.isEmpty)).map String.ofList

end ComponentMarkup
