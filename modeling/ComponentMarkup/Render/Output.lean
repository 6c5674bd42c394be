import ComponentMarkup.Asset.Bundle

/-!
# Output

What rendering a part of a document gives: markup in pieces, the styles and scripts found, and the
usages of components, all in the order of the document.

## Main definitions

* `Output` — markup, fragments and usages
* `Output.markup` — the pieces as one text
* `Output.whole` — the same output with its markup in one piece

## Main results

* `markup_ofTexts`, `markup_append`, `markup_concat` — cutting markup into pieces loses nothing
* `usages_append`, `usages_concat`, `usages_whole` — usages stay in order, however markup is cut
-/

namespace ComponentMarkup

/-- What rendering gives. No piece of markup is empty. -/
structure Output where
  pieces : List String := []
  fragments : List Fragment := []
  usages : List Usage := []
  pieces_nonempty : "" ∉ pieces := by simp

namespace Output

/-- Output of several texts, each a piece of its own. -/
def ofTexts (texts : List String) : Output where
  pieces := texts.filter (· != "")
  pieces_nonempty := by simp

/-- Output of one text. -/
def ofText (text : String) : Output := ofTexts [text]

/-- One output after another. -/
def append (a b : Output) : Output where
  pieces := a.pieces ++ b.pieces
  fragments := a.fragments ++ b.fragments
  usages := a.usages ++ b.usages
  pieces_nonempty := by simp [a.pieces_nonempty, b.pieces_nonempty]

instance : Append Output := ⟨append⟩

/-- Several outputs, one after another. -/
def concat (outputs : List Output) : Output where
  pieces := outputs.flatMap pieces
  fragments := outputs.flatMap fragments
  usages := outputs.flatMap usages
  pieces_nonempty := by simp [pieces_nonempty]

/-- The markup as one text. -/
def markup (o : Output) : String := String.join o.pieces

/-- The output with another text for its markup. -/
def withMarkup (o : Output) (text : String) : Output :=
  { ofText text with fragments := o.fragments, usages := o.usages }

/-- The output with its markup in one piece. -/
def whole (o : Output) : Output := o.withMarkup o.markup

/-- Whether there is markup other than blanks. -/
def hasMarkup (o : Output) : Bool := !isBlankText o.markup

/-! ### Markup -/

/-- Empty texts are left out of the pieces and missed by nobody. -/
@[simp] theorem markup_ofTexts (texts : List String) :
    (ofTexts texts).markup = String.join texts := by
  induction texts with
  | nil => rfl
  | cons t ts ih =>
    by_cases h : t = ""
    · subst h
      simpa [markup, ofTexts] using ih
    · simpa [markup, ofTexts, h] using ih

@[simp] theorem markup_ofText (text : String) : (ofText text).markup = text := by simp [ofText]

@[simp] theorem markup_append (a b : Output) : (a ++ b).markup = a.markup ++ b.markup :=
  String.join_append ..

@[simp] theorem markup_concat (outputs : List Output) :
    (concat outputs).markup = String.join (outputs.map markup) := by
  induction outputs with
  | nil => rfl
  | cons o os ih => simpa [markup, concat] using ih

@[simp] theorem markup_withMarkup (o : Output) (text : String) :
    (o.withMarkup text).markup = text := markup_ofText text

@[simp] theorem markup_whole (o : Output) : o.whole.markup = o.markup := markup_withMarkup ..

/-! ### Usages -/

@[simp] theorem usages_ofTexts (texts : List String) : (ofTexts texts).usages = [] := rfl

@[simp] theorem usages_ofText (text : String) : (ofText text).usages = [] := rfl

@[simp] theorem usages_append (a b : Output) : (a ++ b).usages = a.usages ++ b.usages := rfl

@[simp] theorem usages_concat (outputs : List Output) :
    (concat outputs).usages = outputs.flatMap usages := rfl

@[simp] theorem usages_withMarkup (o : Output) (text : String) :
    (o.withMarkup text).usages = o.usages := rfl

@[simp] theorem usages_whole (o : Output) : o.whole.usages = o.usages := rfl

end Output

end ComponentMarkup
