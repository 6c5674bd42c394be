import ComponentMarkup.Markup.Node
import ComponentMarkup.Markup.Reference

/-!
# Tags

A tag is a name and attributes between `<` and `>`. Names are folded to lowercase, values may
stand in quotes of either kind or without, and the first of several attributes of a name counts.

## Main definitions

* `Markup.Tag` — a start or end tag
* `Markup.readAttributes?` — the attributes of a tag up to its end
* `Markup.readTag?` — the tag after its opening
-/

namespace ComponentMarkup.Markup

/-- A start or end tag. -/
structure Tag where
  name : String
  attributes : List Attribute
  isSelfClosing : Bool
  deriving DecidableEq

/-! ### Characters -/

/-- The characters that separate the parts of a tag. -/
def isSpace (c : Char) : Bool := c == ' ' || c == '\n' || c == '\t' || c == '\x0C'

/-- The code point zero becomes the replacement character. -/
def mendChar (c : Char) : Char := if c == '\x00' then '\uFFFD' else c

/-- A text without the code point zero. -/
def mend (cs : List Char) : List Char := cs.map mendChar

/-- A name in lowercase ASCII. -/
def foldName (cs : List Char) : List Char := (mend cs).map Char.toLower

/-- The text after a beginning that is compared without regard to ASCII case. -/
def dropStartNoCase? (start cs : List Char) : Option (List Char) :=
  if (cs.take start.length).map Char.toLower == start.map Char.toLower then
    some (cs.drop start.length)
  else none

/-! ### Attributes -/

/-- Characters that belong to a tag's name. -/
def isTagNameChar (c : Char) : Bool := !(isSpace c || c == '/' || c == '>')

/-- Characters that belong to an attribute's name, after its first one. -/
def isAttributeNameChar (c : Char) : Bool := !(isSpace c || c == '/' || c == '>' || c == '=')

/-- Characters of a value without quotes. -/
def isBareValueChar (c : Char) : Bool := !(isSpace c || c == '>')

/-- Reads to the quote that ends a value. -/
def readQuoted? (quote : Char) (cs : List Char) : Option (List Char × List Char) :=
  match cs.dropWhile (· != quote) with
  | _ :: rest => some (cs.takeWhile (· != quote), rest)
  | [] => none

/-- Reads the value after `=`. -/
def readValue? (cs : List Char) : Option (List Char × List Char) :=
  match cs.dropWhile isSpace with
  | [] => none
  | c :: rest =>
    if c == '"' || c == '\'' then readQuoted? c rest
    else some ((c :: rest).takeWhile isBareValueChar, (c :: rest).dropWhile isBareValueChar)

theorem length_of_readQuoted? {quote : Char} {cs value rest : List Char}
    (h : readQuoted? quote cs = some (value, rest)) : rest.length ≤ cs.length := by
  have tail := length_dropWhile_le (· != quote) cs
  unfold readQuoted? at h
  split at h
  · rename_i c r heq
    simp only [Option.some.injEq, Prod.mk.injEq] at h
    obtain ⟨-, rfl⟩ := h
    rw [heq, List.length_cons] at tail
    omega
  · simp at h

theorem length_of_readValue? {cs value rest : List Char}
    (h : readValue? cs = some (value, rest)) : rest.length ≤ cs.length := by
  have tail := length_dropWhile_le isSpace cs
  unfold readValue? at h
  split at h
  · simp at h
  · rename_i c r heq
    rw [heq] at tail
    split at h
    · have := length_of_readQuoted? h
      rw [List.length_cons] at tail
      omega
    · simp only [Option.some.injEq, Prod.mk.injEq] at h
      obtain ⟨-, rfl⟩ := h
      exact Nat.le_trans (length_dropWhile_le _ _) tail

/-- An attribute as written, before references are resolved. -/
abbrev RawAttribute := List Char × List Char

/-- Reads the attributes of a tag up to its `>`: the attributes, whether a `/` stands before the
`>`, and the rest. A tag that does not end has no attributes. -/
def readRawAttributes? : List Char → Option (List RawAttribute × Bool × List Char)
  | [] => none
  | c :: rest =>
    if isSpace c then readRawAttributes? rest
    else if c == '>' then some ([], false, rest)
    else if c == '/' then
      if rest.head? == some '>' then some ([], true, rest.drop 1) else readRawAttributes? rest
    else
      let name := c :: rest.takeWhile isAttributeNameChar
      match _hr : (rest.dropWhile isAttributeNameChar).dropWhile isSpace with
      | '=' :: after =>
        match _hv : readValue? after with
        | none => none
        | some (value, next) =>
          (readRawAttributes? next).map fun (attrs, closed, r) => ((name, value) :: attrs, closed, r)
      | next => (readRawAttributes? next).map fun (attrs, closed, r) => ((name, []) :: attrs, closed, r)
termination_by cs => cs.length
decreasing_by
  · simp
  · simp
  · have h1 := length_dropWhile_le isSpace (rest.dropWhile isAttributeNameChar)
    have h2 := length_dropWhile_le isAttributeNameChar rest
    have h3 := length_of_readValue? _hv
    rw [_hr, List.length_cons] at h1
    simp only [List.length_cons]
    omega
  · have h1 := length_dropWhile_le isSpace (rest.dropWhile isAttributeNameChar)
    have h2 := length_dropWhile_le isAttributeNameChar rest
    rw [_hr] at h1
    simp only [List.length_cons]
    omega

theorem length_of_readRawAttributes? {cs : List Char} {attrs : List RawAttribute} {closed : Bool}
    {rest : List Char} (h : readRawAttributes? cs = some (attrs, closed, rest)) :
    rest.length < cs.length := by
  fun_induction readRawAttributes? cs generalizing attrs closed rest with
  | case1 => simp at h
  | case2 c r _ ih => exact Nat.lt_trans (ih h) (by simp)
  | case3 c r =>
    simp only [Option.some.injEq, Prod.mk.injEq] at h
    simp [← h.2.2]
  | case4 c r =>
    simp only [Option.some.injEq, Prod.mk.injEq] at h
    rw [← h.2.2, List.length_cons, List.length_drop]
    omega
  | case5 c r _ _ _ _ ih => exact Nat.lt_trans (ih h) (by simp)
  | case6 => simp at h
  | case7 =>
    rename_i c r _ _ _ name after hr value next hv ih
    obtain ⟨⟨_, _, _⟩, hn, heq⟩ := Option.map_eq_some_iff.1 h
    simp only [Prod.mk.injEq] at heq
    have h1 := length_dropWhile_le isSpace (r.dropWhile isAttributeNameChar)
    have h2 := length_dropWhile_le isAttributeNameChar r
    have h3 := length_of_readValue? hv
    have h4 := ih hn
    rw [hr, List.length_cons] at h1
    rw [← heq.2.2, List.length_cons]
    omega
  | case8 =>
    rename_i c r _ _ _ name hx ih
    obtain ⟨⟨_, _, _⟩, hn, heq⟩ := Option.map_eq_some_iff.1 h
    simp only [Prod.mk.injEq] at heq
    have h1 := length_dropWhile_le isSpace (r.dropWhile isAttributeNameChar)
    have h2 := length_dropWhile_le isAttributeNameChar r
    have h4 := ih hn
    rw [← heq.2.2, List.length_cons]
    omega

/-- Of several attributes of a name the first one counts. -/
def dropRepeated (attrs : List Attribute) : List Attribute :=
  attrs.foldl (fun kept a => if kept.any (·.name == a.name) then kept else kept ++ [a]) []

/-- The attribute that is meant. -/
def attributeOfRaw (raw : RawAttribute) : Attribute :=
  ⟨String.ofList (foldName raw.1), String.ofList (decodeReferences true (mend raw.2))⟩

/-- Reads the attributes of a tag up to its end. -/
def readAttributes? (cs : List Char) : Option (List Attribute × Bool × List Char) :=
  (readRawAttributes? cs).map fun (raw, closed, rest) =>
    (dropRepeated (raw.map attributeOfRaw), closed, rest)

theorem length_of_readAttributes? {cs : List Char} {attrs : List Attribute} {closed : Bool}
    {rest : List Char} (h : readAttributes? cs = some (attrs, closed, rest)) :
    rest.length < cs.length := by
  obtain ⟨⟨raw, closed', rest'⟩, hr, heq⟩ := Option.map_eq_some_iff.1 h
  simp only [Prod.mk.injEq] at heq
  rw [← heq.2.2]
  exact length_of_readRawAttributes? hr

/-! ### Tags -/

/-- Reads a tag from its name on. -/
def readTag? (cs : List Char) : Option (Tag × List Char) :=
  (readAttributes? (cs.dropWhile isTagNameChar)).map fun (attrs, closed, rest) =>
    (⟨String.ofList (foldName (cs.takeWhile isTagNameChar)), attrs, closed⟩, rest)

/-- What follows a tag is shorter than the tag and what follows. -/
theorem length_of_readTag? {cs : List Char} {tag : Tag} {rest : List Char}
    (h : readTag? cs = some (tag, rest)) : rest.length < cs.length := by
  obtain ⟨⟨attrs, closed, rest'⟩, hr, heq⟩ := Option.map_eq_some_iff.1 h
  simp only [Prod.mk.injEq] at heq
  have h1 := length_of_readAttributes? hr
  have h2 := length_dropWhile_le isTagNameChar cs
  rw [← heq.2]
  omega

end ComponentMarkup.Markup
