import ComponentMarkup.Compiler
import ComponentMarkup.Proofs.Attribute.Escaping
import Mathlib.Data.List.Chain

/-!
# Start tags read back

A start tag is read back as the attributes that were meant: those that are public and have a value
to show. Values are escaped, so whatever they hold, a reader finds the quote that ends them. Names
are written as they are, and may come from data. They are found again if they are names to the
reader, and if the reader tells them apart, which it does without regard to case.

There is one more trap. An attribute with an empty text is written as its bare name, and a reader
takes a `=` that comes next for its own, also if it begins the name of the attribute that follows.

## Main definitions

* `EvaluatedAttribute.isShown`, `EvaluatedAttribute.inTag` — the attributes that a tag shows, and
  what it shows of them
* `EvaluatedAttribute.meant`, `EvaluatedAttribute.found` — what is to be read, and what is read
* `IsAttributeName`, `IsTagName` — names to the reader
* `ReadsAsMeant` — a start tag is read as its name and what was meant
* `Carried` — names that are told apart, names and values that can be written
* `Apart` — no bare name stands before a `=`

## Main results

* `readRawAttributes?_quoted`, `readRawAttributes?_bare` — one attribute is read
* `readRawAttributes?_flatMap_inTag` — all are read, whatever follows the tag
* `isAttributeName_of_mem_readRawAttributes?` — only names are read as names
* `dropRepeated_eq_self_iff` — no attribute is dropped if names are distinct
* `readsAsMeant_iff_carried` — which start tags read back
* `exists_startTag_misread` — records whose keys add, change and end
-/

namespace ComponentMarkup

open Markup

/-! ### What is written -/

namespace EvaluatedAttribute

variable (a : EvaluatedAttribute)

/-- Whether the attribute is written: it is public, and its value is neither `null` nor `false`. -/
def isShown : Bool :=
  a.isPublic && match a.value with
    | .null | .bool false => false
    | _ => true

/-- Whether no more than the name is written. -/
def isBare : Bool :=
  match a.value with
  | .text s => s == ""
  | _ => false

/-- What a reader should find. -/
def meant : Attribute := ⟨asciiLower a.name, a.value.display⟩

/-- What a reader does find, if the name is one to the reader. -/
def found : Attribute :=
  ⟨String.ofList (foldName a.name.toList), String.ofList (mend a.value.display.toList)⟩

/-- The name and the value between the quotes. -/
def raw : RawAttribute := (a.name.toList, (escapeAttribute a.value.display).toList)

/-- The attribute as it stands in a tag. -/
def inTag : List Char :=
  ' ' :: a.name.toList ++ if a.isBare then [] else '=' :: '"' :: a.raw.2 ++ ['"']

variable {a}

theorem raw_snd_of_isBare (bare : a.isBare = true) : a.raw.2 = [] := by
  unfold isBare at bare
  split at bare
  · rename_i s found
    obtain rfl : s = "" := by simpa using bare
    simp [raw, found, Value.display, escapeAttribute]
  · exact absurd bare Bool.false_ne_true

/-- The text of an attribute is what stands in the tag, if the attribute is shown. -/
theorem toList_serializeAttribute (isPublic : a.isPublic = true) :
    (serializeAttribute a).toList = if a.isShown then a.inTag else [] := by
  have shown : a.isShown = match a.value with
      | .null | .bool false => false
      | _ => true := by rw [isShown, isPublic, Bool.true_and]
  rw [shown]
  unfold serializeAttribute inTag isBare raw
  cases a.value with
  | null => rfl
  | bool b => cases b <;> simp
  | text s => by_cases empty : s = "" <;> simp [empty]
  | number n => simp
  | list items => simp
  | record fields => simp

end EvaluatedAttribute

open EvaluatedAttribute (isShown meant found raw inTag)

theorem toList_serializeAttributes (attributes : List EvaluatedAttribute) :
    (serializeAttributes attributes).toList = (attributes.filter isShown).flatMap inTag := by
  unfold serializeAttributes
  induction attributes with
  | nil => rfl
  | cons a attributes ih =>
    by_cases isPublic : a.isPublic = true
    · rw [List.filter_cons_of_pos isPublic, List.map_cons, String.join_cons, String.toList_append,
        ih, EvaluatedAttribute.toList_serializeAttribute isPublic, List.filter_cons]
      split <;> rfl
    · have hidden : a.isShown ≠ true := fun shown => isPublic (Bool.and_eq_true_iff.mp shown).1
      rw [List.filter_cons_of_neg isPublic, List.filter_cons_of_neg hidden, ih]

/-! ### Reading one attribute -/

/-- Names to the reader: only the first character may be `=`. -/
def IsAttributeName : List Char → Prop
  | [] => False
  | c :: cs => isTagNameChar c = true ∧ ∀ d ∈ cs, isAttributeNameChar d = true

instance : DecidablePred IsAttributeName
  | [] => inferInstanceAs (Decidable False)
  | c :: cs => inferInstanceAs
      (Decidable (isTagNameChar c = true ∧ ∀ d ∈ cs, isAttributeNameChar d = true))

/-- Spaces before an attribute do not count. -/
theorem readRawAttributes?_dropWhile_isSpace (cs : List Char) :
    readRawAttributes? (cs.dropWhile isSpace) = readRawAttributes? cs := by
  induction cs with
  | nil => rfl
  | cons c cs ih =>
    by_cases space : isSpace c = true
    · rw [List.dropWhile_cons_of_pos space, ih, readRawAttributes?.eq_def (c :: cs)]
      simp [space]
    · rw [List.dropWhile_cons_of_neg space]

section Reader

variable {name value tail : List Char} {c : Char}

/-- Where an attribute begins, its name and value are read. -/
theorem readRawAttributes?_cons (begins : isTagNameChar c = true) (cs : List Char) :
    readRawAttributes? (c :: cs) =
      match (cs.dropWhile isAttributeNameChar).dropWhile isSpace with
      | '=' :: after => (readValue? after).bind fun (value, next) =>
        (readRawAttributes? next).map fun (attrs, closed, rest) =>
          ((c :: cs.takeWhile isAttributeNameChar, value) :: attrs, closed, rest)
      | next => (readRawAttributes? next).map fun (attrs, closed, rest) =>
        ((c :: cs.takeWhile isAttributeNameChar, []) :: attrs, closed, rest) := by
  have other : isSpace c = false ∧ (c == '/') = false ∧ (c == '>') = false := by
    simpa [isTagNameChar, and_assoc] using begins
  rw [readRawAttributes?]
  simp only [other, Bool.false_eq_true, if_false]
  split
  · rename_i found
    rw [found]
    split <;> rename_i read <;> simp [read]
  · rename_i none
    split
    · rename_i found
      exact absurd found (none _)
    · rfl

theorem takeWhile_name (tail : List Char) {p : Char → Bool} (inName : ∀ d ∈ name, p d = true)
    (ends : ∀ d ∈ tail.head?, p d = false) :
    (name ++ tail).takeWhile p = name ∧ (name ++ tail).dropWhile p = tail := by
  rw [List.takeWhile_append_of_pos inName, List.dropWhile_append_of_pos inName]
  cases tail with
  | nil => simp
  | cons d tail => simp [ends d rfl]

/-- A name with a value in quotes. -/
theorem readRawAttributes?_quoted (isName : IsAttributeName name) (noQuote : '"' ∉ value)
    (tail : List Char) :
    readRawAttributes? (name ++ '=' :: '"' :: value ++ '"' :: tail) =
      (readRawAttributes? tail).map fun (attrs, closed, rest) =>
        ((name, value) :: attrs, closed, rest) := by
  cases name with
  | nil => exact isName.elim
  | cons c cs =>
    obtain ⟨begins, inName⟩ := isName
    have inside : ∀ d ∈ value, (d != '"') = true := fun d listed =>
      bne_iff_ne.mpr fun quote => noQuote (quote ▸ listed)
    obtain ⟨taken, dropped⟩ := takeWhile_name ('=' :: '"' :: (value ++ '"' :: tail)) inName
      (by rintro d ⟨⟩; rfl)
    obtain ⟨quoted, after⟩ := takeWhile_name ('"' :: tail) inside (by rintro d ⟨⟩; rfl)
    have read : readValue? ('"' :: (value ++ '"' :: tail)) = some (value, tail) := by
      rw [readValue?, List.dropWhile_cons_of_neg (by decide)]
      simp [readQuoted?, quoted, after]
    rw [List.append_assoc, List.cons_append, readRawAttributes?_cons begins, List.cons_append,
      List.cons_append, taken, dropped, List.dropWhile_cons_of_neg (by decide)]
    simp only [read, Option.bind_some]

/-- A name without a value, if no `=` comes next. -/
theorem readRawAttributes?_bare (isName : IsAttributeName name)
    (ends : ∀ d ∈ tail.head?, isAttributeNameChar d = false)
    (noValue : (tail.dropWhile isSpace).head? ≠ some '=') :
    readRawAttributes? (name ++ tail) =
      (readRawAttributes? tail).map fun (attrs, closed, rest) =>
        ((name, []) :: attrs, closed, rest) := by
  cases name with
  | nil => exact isName.elim
  | cons c cs =>
    obtain ⟨begins, inName⟩ := isName
    obtain ⟨taken, dropped⟩ := takeWhile_name tail inName ends
    rw [List.cons_append, readRawAttributes?_cons begins, taken, dropped]
    split
    · rename_i found
      simp [found] at noValue
    · rw [readRawAttributes?_dropWhile_isSpace]

end Reader

/-! ### Reading all attributes -/

variable {attributes as : List EvaluatedAttribute} {a b : EvaluatedAttribute}

/-- No bare name stands directly before a name that begins with `=`. -/
def Apart (as : List EvaluatedAttribute) : Prop :=
  as.IsChain fun a b => a.isBare = true → b.name.toList.head? ≠ some '='

/-- Values in quotes have no quotes. -/
theorem quote_notMem_raw (a : EvaluatedAttribute) : '"' ∉ a.raw.2 := by
  have listed : ('"', "quot;") ∈ attributeEntities := by simp [attributeEntities]
  rw [raw, toList_escapeAttribute]
  exact isSound_attributeEntities.notMem_flatMap_writeChar listed (by decide) _

theorem IsAttributeName.exists_cons {name : List Char} (isName : IsAttributeName name) :
    ∃ c cs, name = c :: cs ∧ isSpace c = false := by
  cases name with
  | nil => exact isName.elim
  | cons c cs =>
    have other : isSpace c = false ∧ c ≠ '/' ∧ c ≠ '>' := by
      simpa [isTagNameChar, and_assoc] using isName.1
    exact ⟨c, cs, rfl, other.1⟩

/-- What stands after a bare name is no part of it. -/
theorem no_value_after_isBare (names : ∀ b ∈ as, IsAttributeName b.name.toList)
    (apart : Apart (a :: as)) (bare : a.isBare = true) (rest : List Char) :
    (∀ d ∈ (as.flatMap inTag ++ '>' :: rest).head?, isAttributeNameChar d = false) ∧
      ((as.flatMap inTag ++ '>' :: rest).dropWhile isSpace).head? ≠ some '=' := by
  cases as with
  | nil => exact ⟨by rintro d ⟨⟩; rfl, by simp [isSpace]⟩
  | cons b bs =>
    obtain ⟨c, cs, name, noSpace⟩ := (names b List.mem_cons_self).exists_cons
    have other : c ≠ '=' := fun same =>
      (List.isChain_cons_cons.mp apart).1 bare (by rw [name, same, List.head?_cons])
    refine ⟨by rintro d ⟨⟩; rfl, ?_⟩
    rw [List.flatMap_cons, inTag, name, List.append_assoc, List.append_assoc, List.cons_append,
      List.cons_append, List.dropWhile_cons_of_pos (by decide),
      List.dropWhile_cons_of_neg (by simp [noSpace])]
    simpa using other

/-- All that stands in a tag is read, whatever follows the tag. -/
theorem readRawAttributes?_flatMap_inTag (names : ∀ a ∈ as, IsAttributeName a.name.toList)
    (apart : Apart as) (rest : List Char) :
    readRawAttributes? (as.flatMap inTag ++ '>' :: rest) =
      some (as.map raw, false, rest) := by
  induction as with
  | nil => simp [readRawAttributes?, isSpace]
  | cons a as ih =>
    obtain ⟨isName, names⟩ := List.forall_mem_cons.mp names
    have first : readRawAttributes? ((a :: as).flatMap inTag ++ '>' :: rest) =
        (readRawAttributes? (as.flatMap inTag ++ '>' :: rest)).map fun (attrs, closed, rest) =>
          ((a.name.toList, a.raw.2) :: attrs, closed, rest) := by
      rw [List.flatMap_cons, inTag, List.append_assoc, List.cons_append, List.cons_append,
        ← readRawAttributes?_dropWhile_isSpace, List.dropWhile_cons_of_pos (by decide),
        readRawAttributes?_dropWhile_isSpace]
      -- A bare name ends where the tag goes on, so it matters what does; quotes end by themselves.
      by_cases bare : a.isBare = true
      · obtain ⟨ends, noValue⟩ := no_value_after_isBare names apart bare rest
        rw [if_pos bare, List.append_nil]
        have read := readRawAttributes?_bare isName ends noValue
        rw [← EvaluatedAttribute.raw_snd_of_isBare bare] at read
        exact read
      · have read := readRawAttributes?_quoted isName (quote_notMem_raw a)
          (as.flatMap inTag ++ '>' :: rest)
        rw [if_neg bare]
        simpa only [List.append_assoc, List.cons_append, List.nil_append] using read
    simp only [first, ih names apart.tail, Option.map_some, List.map_cons, raw]

/-! ### What is found -/

/-- A code point zero is written as it is, so it may be mended before or after escaping. -/
theorem mend_flatMap_writeChar (cs : List Char) :
    mend (cs.flatMap (writeChar attributeEntities)) =
      (mend cs).flatMap (writeChar attributeEntities) := by
  have kept : ∀ e ∈ attributeEntities, ('&' :: e.2.toList).map mendChar = '&' :: e.2.toList := by
    decide
  unfold mend
  rw [List.map_flatMap, List.flatMap_map]
  refine List.flatMap_congr fun c _ => ?_
  by_cases zero : c = '\x00'
  · subst zero
    rfl
  · have same : mendChar c = c := by simp [mendChar, zero]
    rw [same]
    cases entry : attributeEntities.lookup c with
    | none => rw [writeChar_of_lookup_eq_none entry, List.map_singleton, same]
    | some entity =>
      rw [writeChar_of_lookup_eq_some entry]
      exact kept _ (mem_of_lookup entry)

/-- References in a value are those that were written, so they are resolved to what was escaped. -/
theorem attributeOfRaw_raw (a : EvaluatedAttribute) : attributeOfRaw a.raw = a.found := by
  have decoded := isSound_attributeEntities.decodeReferences_flatMap_writeChar true
    (mend a.value.display.toList) []
  rw [attributeOfRaw, raw, toList_escapeAttribute, mend_flatMap_writeChar]
  rw [List.append_nil] at decoded
  simp [decoded, decodeReferences, found]

/-! ### Repeated names -/

theorem dropRepeated_concat (as : List Attribute) (a : Attribute) :
    dropRepeated (as ++ [a]) =
      if (dropRepeated as).any (·.name == a.name) then dropRepeated as
      else dropRepeated as ++ [a] := by
  simp [dropRepeated]

/-- The names that are left are all names, each once. -/
theorem map_name_dropRepeated (as : List Attribute) :
    (dropRepeated as).map Attribute.name = (as.map Attribute.name).eraseDups := by
  induction as using List.reverseRecOn with
  | nil => rfl
  | append_singleton as a ih =>
    rw [dropRepeated_concat, List.map_append, List.map_singleton]
    have known : (dropRepeated as).any (·.name == a.name) = true ↔
        a.name ∈ as.map Attribute.name := by
      rw [← List.mem_eraseDups, ← ih]
      simp
    split
    · rename_i old
      rw [eraseDups_concat_of_mem (known.mp old), ih]
    · rename_i new
      rw [eraseDups_concat_of_notMem (mt known.mpr new), List.map_append, ih, List.map_singleton]

theorem dropRepeated_sublist (as : List Attribute) : (dropRepeated as).Sublist as := by
  induction as using List.reverseRecOn with
  | nil => exact .refl []
  | append_singleton as a ih =>
    rw [dropRepeated_concat]
    split
    · exact ih.trans (List.sublist_append_left as [a])
    · exact ih.append_right [a]

/-- No attribute is dropped if names are distinct, and only then. -/
theorem dropRepeated_eq_self_iff {as : List Attribute} :
    dropRepeated as = as ↔ (as.map Attribute.name).Nodup := by
  constructor
  · intro same
    rw [← same, map_name_dropRepeated]
    exact nodup_eraseDups _
  · intro distinct
    refine (dropRepeated_sublist as).eq_of_length ?_
    have names := congrArg List.length (map_name_dropRepeated as)
    rwa [eraseDups_eq_self distinct, List.length_map, List.length_map] at names

/-! ### Names that are read -/

/-- Lowering case neither makes nor removes a character that comes before the letters. -/
theorem toLower_eq_iff {c d : Char} (early : d.toNat < 65) : c.toLower = d ↔ c = d := by
  unfold Char.toLower
  split
  · rename_i upper
    have atLeast : 65 ≤ c.toNat := upper.1
    have atMost : c.toNat ≤ 90 := upper.2
    -- The character is a capital, and its small letter comes later still.
    refine ⟨fun same => ?_, fun same => absurd (same ▸ early) (by omega)⟩
    have lowered : c.toNat + 32 = d.toNat := by
      rw [← same]
      change c.val.toNat + 32 = (c.val + 32).toNat
      rw [UInt32.toNat_add]
      change c.toNat + 32 = (c.toNat + 32) % 2 ^ 32
      omega
    omega
  · rfl

theorem beq_toLower {c d : Char} (early : d.toNat < 65) : (c.toLower == d) = (c == d) := by
  rw [Bool.eq_iff_iff, beq_iff_eq, beq_iff_eq, toLower_eq_iff early]

theorem isTagNameChar_toLower (c : Char) : isTagNameChar c.toLower = isTagNameChar c := by
  simp (disch := decide) only [isTagNameChar, isSpace, beq_toLower]

theorem isAttributeNameChar_toLower (c : Char) :
    isAttributeNameChar c.toLower = isAttributeNameChar c := by
  simp (disch := decide) only [isAttributeNameChar, isSpace, beq_toLower]

/-- Who does not tell the replacement character from zero does not see what is mended. -/
theorem apply_mendChar {p : Char → Bool} (same : p '\uFFFD' = p '\x00') (c : Char) :
    p (mendChar c) = p c := by
  unfold mendChar
  split
  · rename_i zero
    rw [beq_iff_eq.mp zero, same]
  · rfl

/-- Whether a text is a name does not depend on case. -/
theorem isAttributeName_map_toLower {name : List Char} :
    IsAttributeName (name.map Char.toLower) ↔ IsAttributeName name := by
  cases name <;> simp [IsAttributeName, isTagNameChar_toLower, isAttributeNameChar_toLower]

theorem isAttributeName_foldName {name : List Char} :
    IsAttributeName (foldName name) ↔ IsAttributeName name := by
  unfold foldName mend
  rw [isAttributeName_map_toLower]
  have begins := apply_mendChar (p := isTagNameChar) (by decide)
  have inName := apply_mendChar (p := isAttributeNameChar) (by decide)
  cases name <;> simp [IsAttributeName, begins, inName]

/-- Only names are read as names. -/
theorem isAttributeName_of_mem_readRawAttributes? {cs rest : List Char}
    {attrs : List RawAttribute} {closed : Bool}
    (read : readRawAttributes? cs = some (attrs, closed, rest)) :
    ∀ raw ∈ attrs, IsAttributeName raw.1 := by
  have isName {c : Char} {cs : List Char} (noSpace : ¬ isSpace c = true)
      (noEnd : ¬ (c == '>') = true) (noSlash : ¬ (c == '/') = true) :
      IsAttributeName (c :: cs.takeWhile isAttributeNameChar) :=
    ⟨by simp [isTagNameChar, noSpace, noEnd, noSlash], fun d => List.mem_takeWhile_imp⟩
  fun_induction readRawAttributes? cs generalizing attrs closed rest with
  | case1 => exact absurd read.symm (Option.some_ne_none _)
  | case2 c r _ ih => exact ih read
  | case3 c r =>
    obtain ⟨rfl, -⟩ := Prod.mk.inj (Option.some.inj read)
    exact List.forall_mem_nil _
  | case4 c r =>
    obtain ⟨rfl, -⟩ := Prod.mk.inj (Option.some.inj read)
    exact List.forall_mem_nil _
  | case5 c r _ _ _ _ ih => exact ih read
  | case6 => exact absurd read.symm (Option.some_ne_none _)
  | case7 c r noSpace noEnd noSlash =>
    rename_i ih
    obtain ⟨⟨later, _, _⟩, more, same⟩ := Option.map_eq_some_iff.mp read
    obtain ⟨rfl, -⟩ := Prod.mk.inj same
    exact List.forall_mem_cons.mpr ⟨isName noSpace noEnd noSlash, ih more⟩
  | case8 c r noSpace noEnd noSlash =>
    rename_i ih
    obtain ⟨⟨later, _, _⟩, more, same⟩ := Option.map_eq_some_iff.mp read
    obtain ⟨rfl, -⟩ := Prod.mk.inj same
    exact List.forall_mem_cons.mpr ⟨isName noSpace noEnd noSlash, ih more⟩

/-! ### What is found and what was meant -/

theorem zero_notMem_mend (cs : List Char) : '\x00' ∉ mend cs := by
  intro zero
  obtain ⟨c, -, mended⟩ := List.mem_map.mp zero
  unfold mendChar at mended
  split at mended
  · exact absurd mended (by decide)
  · rename_i other
    exact other (beq_iff_eq.mpr mended)

theorem mend_eq_self_iff {cs : List Char} : mend cs = cs ↔ '\x00' ∉ cs := by
  refine ⟨fun same => same ▸ zero_notMem_mend cs, fun absent => ?_⟩
  have same : ∀ c ∈ cs, mendChar c = id c := fun c listed => by
    have other : c ≠ '\x00' := fun zero => absent (zero ▸ listed)
    simp [mendChar, other]
  rw [mend, List.map_congr_left same, List.map_id]

theorem foldName_eq_iff {cs : List Char} : foldName cs = cs.map Char.toLower ↔ '\x00' ∉ cs := by
  refine ⟨fun same zero => ?_, fun absent => by rw [foldName, mend_eq_self_iff.mpr absent]⟩
  have lowered : '\x00' ∈ foldName cs := same ▸ List.mem_map.mpr ⟨_, zero, rfl⟩
  obtain ⟨c, listed, low⟩ := List.mem_map.mp lowered
  obtain rfl := (toLower_eq_iff (by decide)).mp low
  exact zero_notMem_mend cs listed

/-- What is found is what was meant, if there are no zeros. -/
theorem found_eq_meant_iff :
    a.found = a.meant ↔ '\x00' ∉ a.name.toList ∧ '\x00' ∉ a.value.display.toList := by
  rw [← foldName_eq_iff, ← mend_eq_self_iff, found, meant, Attribute.mk.injEq,
    ← String.toList_inj, ← String.toList_inj, String.toList_ofList, String.toList_ofList,
    asciiLower, String.toList_map]

/-- The names and values that a start tag can carry: all names are names to the reader, who tells
them apart without regard to case, and there are no zeros. -/
structure Carried (as : List EvaluatedAttribute) : Prop where
  isName : ∀ a ∈ as, IsAttributeName a.name.toList
  noZero : ∀ a ∈ as, '\x00' ∉ a.name.toList ∧ '\x00' ∉ a.value.display.toList
  distinct : (as.map fun a => asciiLower a.name).Nodup

/-! ### Start tags -/

/-- Names of tags to the reader. -/
def IsTagName : List Char → Prop
  | [] => False
  | c :: cs => c.isAlpha = true ∧ ∀ d ∈ cs, isTagNameChar d = true

theorem IsTagName.exists_cons {name : List Char} (isTag : IsTagName name) :
    ∃ c cs, name = c :: cs ∧ c.isAlpha = true ∧ ∀ d ∈ cs, isTagNameChar d = true := by
  cases name with
  | nil => exact isTag.elim
  | cons c cs => exact ⟨c, cs, rfl, isTag⟩

/-- A start tag is read as its name and the attributes that were meant, whatever follows it. -/
def ReadsAsMeant (tag : String) (attributes : List EvaluatedAttribute) : Prop :=
  ∀ hasLiterals rest, nextToken? .data hasLiterals ((startTag tag attributes).toList ++ rest) =
    some (.startTag ⟨String.ofList (foldName tag.toList),
      (attributes.filter isShown).map meant, false⟩, rest)

/-- A start tag is read from the attributes on. -/
theorem nextToken?_startTag {tag : String} (isTag : IsTagName tag.toList)
    (attributes : List EvaluatedAttribute) (hasLiterals : Bool) (rest : List Char) :
    nextToken? .data hasLiterals ((startTag tag attributes).toList ++ rest) =
      some (tagToken .startTag
        ((readAttributes? ((attributes.filter isShown).flatMap inTag ++ '>' :: rest)).map
          fun (attrs, closed, rest) =>
            (⟨String.ofList (foldName tag.toList), attrs, closed⟩, rest))) := by
  have text : (startTag tag attributes).toList ++ rest =
      '<' :: (tag.toList ++ ((attributes.filter isShown).flatMap inTag ++ '>' :: rest)) := by
    simp [startTag, toList_serializeAttributes]
  obtain ⟨c, cs, name, alpha, inName⟩ := isTag.exists_cons
  have other {d : Char} (noLetter : d.isAlpha = false) : c ≠ d := by
    rintro rfl
    exact nomatch alpha.symm.trans noLetter
  have first : isTagNameChar c = true := by
    simp [isTagNameChar, isSpace, other (d := ' ') rfl, other (d := '\n') rfl,
      other (d := '\t') rfl, other (d := '\x0C') rfl, other (d := '/') rfl, other (d := '>') rfl]
  have all : ∀ d ∈ tag.toList, isTagNameChar d = true := by
    rw [name]
    exact List.forall_mem_cons.mpr ⟨first, inName⟩
  obtain ⟨taken, dropped⟩ := takeWhile_name
    ((attributes.filter isShown).flatMap inTag ++ '>' :: rest) all
    (by cases attributes.filter isShown <;> (rintro d ⟨⟩; rfl))
  have read (cs : List Char) : dataToken hasLiterals ('<' :: c :: cs) =
      tagToken .startTag (readTag? (c :: cs)) := by
    have opens : opensMarkup ('<' :: c :: cs) = true := by simp [opensMarkup, alpha]
    unfold dataToken
    simp only [opens, Bool.not_true, Bool.false_eq_true, if_false]
    split
    case h_5 =>
      rename_i same
      rw [(List.cons.inj same).2]
    case h_6 =>
      rename_i same
      exact nomatch same
    -- All others begin with a character that is no letter.
    all_goals
      rename_i same
      exact absurd (List.cons.inj (List.cons.inj same).2).1 (other rfl)
  have opened := read (cs ++ ((attributes.filter isShown).flatMap inTag ++ '>' :: rest))
  rw [← List.cons_append, ← name] at opened
  rw [text, nextToken?, if_neg (by simp)]
  simp only [opened, readTag?, taken, dropped]

/-- If names can be read, the attributes that are found are read, the first of each name. -/
theorem readAttributes?_flatMap_inTag (names : ∀ a ∈ as, IsAttributeName a.name.toList)
    (apart : Apart as) (rest : List Char) :
    readAttributes? (as.flatMap inTag ++ '>' :: rest) =
      some (dropRepeated (as.map found), false, rest) := by
  have each : (as.map raw).map attributeOfRaw = as.map found := by
    simp only [List.map_map, Function.comp_def, attributeOfRaw_raw]
  rw [readAttributes?, readRawAttributes?_flatMap_inTag names apart, ← each]
  rfl

/-- If a start tag reads as meant, the attributes meant are read. -/
theorem ReadsAsMeant.readAttributes?_eq {tag : String} (isTag : IsTagName tag.toList)
    (reads : ReadsAsMeant tag attributes) :
    readAttributes? ((attributes.filter isShown).flatMap inTag ++ ['>']) =
      some ((attributes.filter isShown).map meant, false, []) := by
  have token := (nextToken?_startTag isTag attributes false []).symm.trans (reads false [])
  cases read : readAttributes? ((attributes.filter isShown).flatMap inTag ++ ['>']) with
  | none => simp [read, tagToken] at token
  | some result =>
    obtain ⟨attrs, closed, rest⟩ := result
    simpa [read, tagToken, and_assoc] using token

/-- The names of attributes that read as meant are names to the reader. -/
theorem isAttributeName_of_readAttributes? {cs rest : List Char} {closed : Bool}
    (read : readAttributes? cs = some (as.map meant, closed, rest)) :
    ∀ a ∈ as, IsAttributeName a.name.toList := by
  intro a listed
  obtain ⟨⟨raws, _, _⟩, readRaw, same⟩ := Option.map_eq_some_iff.mp read
  obtain ⟨dropped, -⟩ := Prod.mk.inj same
  have kept : a.meant ∈ dropRepeated (raws.map attributeOfRaw) :=
    dropped ▸ List.mem_map_of_mem listed
  obtain ⟨r, isRaw, isMeant⟩ := List.mem_map.mp ((dropRepeated_sublist _).mem kept)
  have name : foldName r.1 = a.name.toList.map Char.toLower := by
    have names := congrArg (fun x => x.name.toList) isMeant
    simpa [attributeOfRaw, meant, asciiLower, String.toList_map] using names
  rw [← isAttributeName_map_toLower, ← name, isAttributeName_foldName]
  exact isAttributeName_of_mem_readRawAttributes? readRaw r isRaw

/-- If what is found is what was meant, whatever is dropped, then each attribute was found as it was
meant and none was dropped. -/
theorem dropRepeated_map_found_eq_iff :
    dropRepeated (as.map found) = as.map meant ↔
      (∀ a ∈ as, '\x00' ∉ a.name.toList ∧ '\x00' ∉ a.value.display.toList) ∧
        (as.map fun a => asciiLower a.name).Nodup := by
  have names : (as.map meant).map Attribute.name = as.map fun a => asciiLower a.name := by
    rw [List.map_map]
    rfl
  constructor
  · intro same
    -- As many are left as there were, so the first of each name is each.
    have whole : dropRepeated (as.map found) = as.map found :=
      (dropRepeated_sublist _).eq_of_length (by rw [same, List.length_map, List.length_map])
    have each : as.map found = as.map meant := whole.symm.trans same
    rw [each] at whole
    exact ⟨fun a listed => found_eq_meant_iff.mp (List.map_inj_left.mp each a listed),
      names ▸ dropRepeated_eq_self_iff.mp whole⟩
  · rintro ⟨noZero, distinct⟩
    have each : as.map found = as.map meant :=
      List.map_congr_left fun a listed => found_eq_meant_iff.mpr (noZero a listed)
    rw [each, dropRepeated_eq_self_iff, names]
    exact distinct

/-- Start tags that read back. The attributes of an element, its own, those it spreads and those
from elsewhere, are read from its start tag as they were meant if they can be carried, and only
then; unless a bare name stands before a name that begins with `=`. -/
theorem readsAsMeant_iff_carried (tag : String) (isTag : IsTagName tag.toList)
    (attributes : List EvaluatedAttribute)
    (apart : Apart ((mergeAttributes attributes).filter isShown)) :
    ReadsAsMeant tag (mergeAttributes attributes) ↔
      Carried ((mergeAttributes attributes).filter isShown) := by
  constructor
  · intro reads
    -- What is read are names. So the tag is read back as far as what was found goes, and it remains
    -- to compare this with what was meant.
    have read := reads.readAttributes?_eq isTag
    have names := isAttributeName_of_readAttributes? read
    rw [readAttributes?_flatMap_inTag names apart] at read
    obtain ⟨noZero, distinct⟩ :=
      dropRepeated_map_found_eq_iff.mp (Prod.mk.inj (Option.some.inj read)).1
    exact ⟨names, noZero, distinct⟩
  · intro carried hasLiterals rest
    rw [nextToken?_startTag isTag, readAttributes?_flatMap_inTag carried.isName apart,
      dropRepeated_map_found_eq_iff.mpr ⟨carried.noZero, carried.distinct⟩]
    rfl

/-- A bare name, a value with quotes and ampersands, and one that is not shown. -/
def quotedValues : List EvaluatedAttribute :=
  [.ofText "hidden" "", .ofText "title" "a\" onclick=\"&quot;",
    ⟨"id", ":id", .null, "missing", .dynamic, .isPublic⟩, .ofText "=" ">"]

/-- A start tag that reads back. -/
theorem readsAsMeant_iff_carried_quotedValues :
    IsTagName "div".toList ∧ Apart ((mergeAttributes quotedValues).filter isShown) ∧
      (mergeAttributes quotedValues).filter isShown ≠ [] ∧
      ReadsAsMeant "div" (mergeAttributes quotedValues) := by
  have isTag : IsTagName "div".toList := by simp [IsTagName, isTagNameChar, isSpace]
  have shown : (mergeAttributes quotedValues).filter isShown =
      [.ofText "hidden" "", .ofText "title" "a\" onclick=\"&quot;", .ofText "=" ">"] := rfl
  have apart : Apart ((mergeAttributes quotedValues).filter isShown) := by
    rw [shown]
    exact .cons_cons (fun _ => by simp [EvaluatedAttribute.ofText])
      (.cons_cons (fun bare => absurd bare (by decide)) (.singleton _))
  refine ⟨isTag, apart, by rw [shown]; simp, ?_⟩
  rw [readsAsMeant_iff_carried "div" isTag quotedValues apart, shown]
  refine ⟨?_, ?_, ?_⟩
  · simp [EvaluatedAttribute.ofText, IsAttributeName, isTagNameChar, isAttributeNameChar, isSpace]
  · simp [EvaluatedAttribute.ofText, Value.display]
  · decide +kernel

/-! ### Keys that are no names -/

/-- The first token of a start tag with the entries of a record. -/
def spreadToken? (fields : List (String × Value)) : Option (Token × List Char) :=
  nextToken? .data false (startTag "p" (mergeAttributes (spreadAttributes (.record fields)))).toList

/-- A page that spreads a record. -/
def spreadPage : Compiler where
  input := some (.content "<p @attributes=\"(\x7b'a': '', '=b': '1'\x7d)\">hi</p>" "index.webc")

/-- Start tags that do not read back. Keys of a record are written as they are, so a key can add an
attribute, end the tag, or become the value of the attribute before it. -/
theorem exists_startTag_misread :
    spreadToken? [("x onclick", .text "1")] =
        some (.startTag ⟨"p", [⟨"x", ""⟩, ⟨"onclick", "1"⟩], false⟩, []) ∧
      spreadToken? [("x>", .text "1")] =
        some (.startTag ⟨"p", [⟨"x", ""⟩], false⟩, "=\"1\">".toList) ∧
      spreadToken? [("a", .text ""), ("=b", .text "1")] =
        some (.startTag ⟨"p", [⟨"a", "b=\"1\""⟩], false⟩, []) ∧
      ¬ ReadsAsMeant "p" (mergeAttributes (spreadAttributes
        (.record [("a", .text ""), ("=b", .text "1")]))) ∧
      (spreadPage.run 10 .text).toOption.map (·.1.markup) = some "<p a =b=\"1\">hi</p>" := by
  have swallowed : spreadToken? [("a", .text ""), ("=b", .text "1")] =
      some (.startTag ⟨"p", [⟨"a", "b=\"1\""⟩], false⟩, []) := by decide +kernel
  refine ⟨by decide +kernel, by decide +kernel, swallowed, fun reads => ?_, by decide +kernel⟩
  have read := reads false []
  rw [List.append_nil] at read
  obtain ⟨token, -⟩ := Prod.mk.inj (Option.some.inj (swallowed.symm.trans read))
  have one : 1 = _ := congrArg (fun tag => tag.attributes.length) (Token.startTag.inj token)
  exact absurd one (by decide)

end ComponentMarkup
