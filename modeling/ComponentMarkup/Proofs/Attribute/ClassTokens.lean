import ComponentMarkup.Attribute
import Mathlib.Data.List.Induction
import Mathlib.Data.List.Nodup

/-!
# The classes of merged attributes

Attributes of several sources that are named `class` become one. Its value is kept as it is if
there was one only; else it is made of the words of all values. Words end at every blank, the tokens
of a class in markup at ASCII blanks only.

## Main definitions

* `EvaluatedAttribute.isClass` — attributes that are written as `class`
* `classTokens` — the tokens of the value of a class
* `mergedUnder` — what the attributes of one key become
* `WritesClass` — attributes with one class, which is written with a given value

## Main results

* `self_mem_classTokens_iff`, `mem_classTokens_mergeClass` — a text as a token of itself, and the
  tokens of two values that were merged
* `exists_mergedUnder` — each attribute is part of the one that is left under its key
* `exists_mergeAttributes_concat` — the one class among attributes to which a class was added last
-/

namespace ComponentMarkup

/-! ### Tokens -/

/-- The tokens of the value of a class: its longest parts without ASCII blanks. -/
def classTokens (value : String) : List String :=
  ((splitWhere isAsciiBlank value.toList).filter (!·.isEmpty)).map String.ofList

/-- Blanks of markup are blanks. -/
theorem isAsciiBlank_eq_false {c : Char} (visible : isBlank c = false) : isAsciiBlank c = false := by
  by_contra blank
  have blank := eq_true_of_ne_false blank
  unfold isAsciiBlank at blank
  simp only [Bool.or_eq_true, beq_iff_eq] at blank
  rcases blank with (((rfl | rfl) | rfl) | rfl) | rfl <;> exact absurd visible (by decide)

section splitWhere

variable {α : Type} {p : α → Bool}

/-- A list is among its own parts between separators if it has none. -/
theorem self_mem_splitWhere_iff {xs : List α} :
    xs ∈ splitWhere p xs ↔ ∀ x ∈ xs, p x = false := by
  constructor
  · intro part x hx
    exact eq_false_of_mem_splitWhere part hx
  · intro none
    rw [splitWhere_of_forall none]
    exact List.mem_singleton_self xs

/-- All that is no separator is in a part. -/
theorem exists_mem_splitWhere {x : α} {xs : List α} (listed : x ∈ xs) (other : p x = false) :
    ∃ piece ∈ splitWhere p xs, x ∈ piece := by
  induction xs with
  | nil => exact absurd listed List.not_mem_nil
  | cons y ys ih =>
    obtain ⟨first, others, split⟩ := List.exists_cons_of_ne_nil (splitWhere_ne_nil p ys)
    rcases List.mem_cons.mp listed with rfl | later
    · exact ⟨x :: first, by simp [splitWhere, other, split], List.mem_cons_self⟩
    · obtain ⟨piece, hpiece, inside⟩ := ih later
      by_cases separator : p y = true
      · exact ⟨piece, by simp [splitWhere, separator, hpiece], inside⟩
      · rw [split] at hpiece
        rw [splitWhere, if_neg separator, split]
        rcases List.mem_cons.mp hpiece with rfl | hpiece
        · exact ⟨y :: piece, List.mem_cons_self, List.mem_cons_of_mem y inside⟩
        · exact ⟨piece, List.mem_cons_of_mem _ hpiece, inside⟩

end splitWhere

/-- The longest parts of a text without certain characters: such a part is not empty and has none
of them. -/
theorem mem_parts_iff {p : Char → Bool} {text token : String} :
    token ∈ ((splitWhere p text.toList).filter (!·.isEmpty)).map String.ofList ↔
      token.toList ∈ splitWhere p text.toList ∧ token ≠ "" := by
  constructor
  · intro h
    obtain ⟨piece, hpiece, rfl⟩ := List.mem_map.mp h
    obtain ⟨part, nonempty⟩ := List.mem_filter.mp hpiece
    refine ⟨by rwa [String.toList_ofList], fun empty => ?_⟩
    have : piece = [] := by simpa using congrArg String.toList empty
    simp [this] at nonempty
  · rintro ⟨part, nonempty⟩
    refine List.mem_map.mpr ⟨token.toList, List.mem_filter.mpr ⟨part, ?_⟩, String.ofList_toList⟩
    simpa using nonempty

theorem self_mem_classTokens_iff {token : String} :
    token ∈ classTokens token ↔ token ≠ "" ∧ ∀ c ∈ token.toList, isAsciiBlank c = false := by
  rw [classTokens, mem_parts_iff, self_mem_splitWhere_iff, and_comm]

theorem self_mem_blankFree_iff {word : String} :
    word ∈ blankFree word ↔ word ≠ "" ∧ ∀ c ∈ word.toList, isBlank c = false := by
  rw [blankFree, mem_parts_iff, self_mem_splitWhere_iff, and_comm]

/-- A word has characters, and no blanks among them. -/
theorem of_mem_blankFree {word text : String} (h : word ∈ blankFree text) :
    word ≠ "" ∧ ∀ c ∈ word.toList, isBlank c = false := by
  rw [blankFree, mem_parts_iff] at h
  exact ⟨h.2, fun c hc => eq_false_of_mem_splitWhere h.1 hc⟩

/-- A text with a character that is no blank has a word. -/
theorem exists_mem_blankFree {text : String} {c : Char} (listed : c ∈ text.toList)
    (visible : isBlank c = false) : ∃ word, word ∈ blankFree text := by
  obtain ⟨piece, part, inside⟩ := exists_mem_splitWhere listed visible
  refine ⟨String.ofList piece, ?_⟩
  rw [blankFree, mem_parts_iff, String.toList_ofList]
  refine ⟨part, fun empty => ?_⟩
  have : piece = [] := by simpa using congrArg String.toList empty
  rw [this] at inside
  exact absurd inside List.not_mem_nil

/-- Texts without certain characters are the parts of the whole that has such characters between
them. -/
theorem parts_intercalate {p : Char → Bool} (separates : p ' ' = true) {words : List String}
    (isWord : ∀ w ∈ words, w ≠ "" ∧ ∀ c ∈ w.toList, p c = false) :
    ((splitWhere p (" ".intercalate words).toList).filter (!·.isEmpty)).map String.ofList =
      words := by
  induction words with
  | nil => rfl
  | cons w ws ih =>
    obtain ⟨nonempty, whole⟩ := isWord w List.mem_cons_self
    have first : splitWhere p w.toList = [w.toList] := splitWhere_of_forall whole
    cases ws with
    | nil => simp [first, nonempty]
    | cons w' ws =>
      -- The blank between the first word and the next ends the first part.
      have rest := ih fun v hv => isWord v (List.mem_cons_of_mem w hv)
      have texts : (" ".intercalate (w :: w' :: ws)).toList =
          w.toList ++ ' ' :: (" ".intercalate (w' :: ws)).toList := by
        simp [String.intercalate_cons_cons, String.toList_append]
      rw [texts, splitWhere_append_cons separates, first, List.filter_append, List.map_append, rest]
      simp [nonempty]

/-- Words with blanks between them are the tokens of the whole. -/
theorem classTokens_intercalate {words : List String}
    (isWord : ∀ w ∈ words, w ≠ "" ∧ ∀ c ∈ w.toList, isBlank c = false) :
    classTokens (" ".intercalate words) = words :=
  parts_intercalate (by decide) fun w hw =>
    ⟨(isWord w hw).1, fun c hc => isAsciiBlank_eq_false ((isWord w hw).2 c hc)⟩

/-- Words with blanks between them are the words of the whole. -/
theorem blankFree_intercalate {words : List String}
    (isWord : ∀ w ∈ words, w ≠ "" ∧ ∀ c ∈ w.toList, isBlank c = false) :
    blankFree (" ".intercalate words) = words :=
  parts_intercalate (by decide) isWord

/-- The tokens of two values that were merged are the words of both. -/
theorem mem_classTokens_mergeClass {v w : Value} {token : String} :
    token ∈ classTokens (mergeClass v w).display ↔
      token ∈ blankFree v.display ∨ token ∈ blankFree w.display := by
  have words : ∀ t ∈ ([v, w].flatMap fun u => blankFree u.display).eraseDups,
      t ≠ "" ∧ ∀ c ∈ t.toList, isBlank c = false := by
    intro t ht
    obtain ⟨u, _, hu⟩ := List.mem_flatMap.mp (List.mem_eraseDups.mp ht)
    exact of_mem_blankFree hu
  have text : (mergeClass v w).display =
      " ".intercalate ([v, w].flatMap fun u => blankFree u.display).eraseDups := rfl
  rw [text, classTokens_intercalate words, List.mem_eraseDups]
  simp

/-- A text that is merged with other classes is a token of the outcome exactly if it is a word. -/
theorem mem_classTokens_mergeClass_text {v : Value} {token : String} (nonempty : token ≠ "") :
    token ∈ classTokens (mergeClass v (.text token)).display ↔
      ∀ c ∈ token.toList, isBlank c = false := by
  rw [mem_classTokens_mergeClass]
  constructor
  · rintro (word | word)
    · exact (of_mem_blankFree word).2
    · exact (of_mem_blankFree word).2
  · intro noBlank
    exact .inr (self_mem_blankFree_iff.mpr ⟨nonempty, noBlank⟩)

/-- What is merged with a text that has a word has some text. -/
theorem display_mergeClass_ne_empty {v : Value} {text : String} {c : Char}
    (listed : c ∈ text.toList) (visible : isBlank c = false) :
    (mergeClass v (.text text)).display ≠ "" := by
  intro empty
  obtain ⟨word, isWord⟩ := exists_mem_blankFree listed visible
  have token : word ∈ classTokens (mergeClass v (.text text)).display :=
    mem_classTokens_mergeClass.mpr (.inr isWord)
  rw [empty] at token
  exact absurd token (by simp [classTokens, splitWhere])

/-! ### Merging -/

/-- Whether the attribute is written under the name `class`. -/
def EvaluatedAttribute.isClass (a : EvaluatedAttribute) : Bool := a.isPublic && a.name == "class"

theorem EvaluatedAttribute.name_of_isClass {a : EvaluatedAttribute} (isClass : a.isClass = true) :
    a.name = "class" := by
  simpa using (Bool.and_eq_true_iff.mp isClass).2

/-- Only attributes that are written as `class` merge under that name. -/
theorem mergeKey_eq_class_iff {a : EvaluatedAttribute} :
    mergeKey a = "class" ↔ a.isClass = true := by
  have marked : ∀ name : String, "@" ++ name ≠ "class" := by
    intro name same
    have heads := congrArg (·.toList.head?) same
    simp at heads
  unfold mergeKey EvaluatedAttribute.isClass EvaluatedAttribute.isPublic
  cases hp : a.privacy <;> by_cases hn : a.name = "class" <;> by_cases hs : a.name = "style" <;>
    simp_all

/-- An attribute that takes up another one merges as both did. -/
theorem mergeKey_mergeAttribute {before after : EvaluatedAttribute}
    (same : mergeKey before = mergeKey after) :
    mergeKey (mergeAttribute before after) = mergeKey after := by
  unfold mergeAttribute
  split
  · exact same
  · split
    · exact same
    · rfl

/-- What an attribute becomes under its key. -/
def mergedWith (merged : Entries EvaluatedAttribute) (a : EvaluatedAttribute) :
    EvaluatedAttribute :=
  match merged.get? (mergeKey a) with
  | some before => mergeAttribute before a
  | none => a

theorem mergeInto_eq (merged : Entries EvaluatedAttribute) (a : EvaluatedAttribute) :
    mergeInto merged a = Entries.insert (mergeKey a) (mergedWith merged a) merged := by
  unfold mergeInto mergedWith
  cases merged.get? (mergeKey a) with
  | none => rfl
  | some before => rfl

/-- Attributes stand under their keys, and no key has two of them. -/
structure Keyed (merged : Entries EvaluatedAttribute) : Prop where
  distinct : merged.keys.Nodup
  key_eq : ∀ key a, merged.get? key = some a → mergeKey a = key

namespace Keyed

variable {merged : Entries EvaluatedAttribute}

theorem mergeKey_mergedWith (keyed : Keyed merged) (a : EvaluatedAttribute) :
    mergeKey (mergedWith merged a) = mergeKey a := by
  unfold mergedWith
  split
  · rename_i before found
    exact mergeKey_mergeAttribute (keyed.key_eq _ _ found)
  · rfl

theorem mergeInto (keyed : Keyed merged) (a : EvaluatedAttribute) :
    Keyed (mergeInto merged a) := by
  rw [mergeInto_eq]
  refine ⟨Entries.nodup_keys_insert keyed.distinct _ _, fun key b found => ?_⟩
  rw [Entries.get?_insert] at found
  split at found
  · rename_i same
    obtain rfl := Option.some.inj found
    rw [keyed.mergeKey_mergedWith, same]
  · exact keyed.key_eq key b found

theorem foldl (keyed : Keyed merged) (attributes : List EvaluatedAttribute) :
    Keyed (attributes.foldl ComponentMarkup.mergeInto merged) := by
  induction attributes generalizing merged with
  | nil => exact keyed
  | cons a as ih => exact ih (keyed.mergeInto a)

theorem nil : Keyed [] := ⟨List.nodup_nil, fun _ _ found => nomatch found⟩

/-- The one attribute under a key, among all that are merged. -/
theorem exists_values_eq (keyed : Keyed merged) {key : String} {a : EvaluatedAttribute}
    (found : merged.get? key = some a) :
    ∃ front back, merged.values = front ++ a :: back ∧
      ∀ b ∈ front ++ back, mergeKey b ≠ key := by
  obtain ⟨front, back, rfl⟩ := List.append_of_mem (Entries.mem_of_get?_eq_some found)
  refine ⟨front.map Prod.snd, back.map Prod.snd, by simp [Entries.values], fun b hb same => ?_⟩
  rw [← List.map_append] at hb
  obtain ⟨⟨other, b⟩, he, rfl⟩ := List.mem_map.mp hb
  have listed : (other, b) ∈ front ++ (key, a) :: back := by
    rcases List.mem_append.mp he with he | he
    · exact List.mem_append_left _ he
    · exact List.mem_append_right _ (List.mem_cons_of_mem _ he)
  -- The attribute would stand under the same key a second time.
  obtain rfl : key = other :=
    same.symm.trans (keyed.key_eq _ _ ((Entries.mem_iff_get?_eq_some keyed.distinct).mp listed))
  have distinct := keyed.distinct
  simp only [Entries.keys, List.map_append, List.map_cons] at distinct
  have absent : key ∉ front.map Prod.fst ++ back.map Prod.fst :=
    (List.nodup_cons.mp (List.nodup_middle.mp distinct)).1
  rw [← List.map_append] at absent
  exact absent (List.mem_map.mpr ⟨(key, b), he, rfl⟩)

end Keyed

/-- The keys of merged attributes are those of the attributes. -/
theorem mem_keys_foldl_mergeInto {attributes : List EvaluatedAttribute} {key : String}
    {merged : Entries EvaluatedAttribute} :
    key ∈ (attributes.foldl mergeInto merged).keys ↔
      key ∈ merged.keys ∨ ∃ a ∈ attributes, mergeKey a = key := by
  induction attributes generalizing merged with
  | nil => simp
  | cons a as ih =>
    rw [List.foldl_cons, ih, mergeInto_eq, Entries.keys_insert]
    by_cases known : mergeKey a ∈ merged.keys
    · -- The attribute merges into one under the same key, so there is no new key.
      rw [if_pos known, List.exists_mem_cons_iff]
      constructor
      · rintro (h | h)
        · exact .inl h
        · exact .inr (.inr h)
      · rintro (h | rfl | h)
        · exact .inl h
        · exact .inl known
        · exact .inr h
    · rw [if_neg known, List.exists_mem_cons_iff, List.mem_append, List.mem_singleton, or_assoc,
        @eq_comm _ key]

/-- What the attributes of a list that merge under a key become, in their order. -/
def mergedUnder (key : String) (attributes : List EvaluatedAttribute) : Option EvaluatedAttribute :=
  match attributes.filter (mergeKey · == key) with
  | [] => none
  | a :: others => some (others.foldl mergeAttribute a)

theorem mergedUnder_concat (key : String) (attributes : List EvaluatedAttribute)
    (a : EvaluatedAttribute) :
    mergedUnder key (attributes ++ [a]) =
      if mergeKey a = key then some (((mergedUnder key attributes).map (mergeAttribute · a)).getD a)
      else mergedUnder key attributes := by
  unfold mergedUnder
  rw [List.filter_append]
  by_cases same : mergeKey a = key
  · cases attributes.filter (mergeKey · == key) with
    | nil => simp [same]
    | cons first others => simp [same]
  · simp [same]

/-- Under each key stands what the attributes of the key become. -/
theorem get?_foldl_mergeInto (attributes : List EvaluatedAttribute) (key : String) :
    (attributes.foldl mergeInto []).get? key = mergedUnder key attributes := by
  induction attributes using List.reverseRecOn with
  | nil => rfl
  | append_singleton attributes a ih =>
    rw [List.foldl_append, List.foldl_cons, List.foldl_nil, mergeInto_eq, Entries.get?_insert,
      mergedUnder_concat]
    by_cases same : mergeKey a = key
    · rw [if_pos same, if_pos same, mergedWith, same, ih]
      cases mergedUnder key attributes with
      | none => rfl
      | some before => rfl
    · rw [if_neg same, if_neg same, ih]

/-- Each attribute is part of the one attribute that is left under its key. -/
theorem exists_mergedUnder {attributes : List EvaluatedAttribute} {a : EvaluatedAttribute}
    (listed : a ∈ attributes) :
    ∃ b front back, mergedUnder (mergeKey a) attributes = some b ∧
      mergeAttributes attributes = front ++ b :: back ∧
      ∀ x ∈ front ++ back, mergeKey x ≠ mergeKey a := by
  have known : mergeKey a ∈ (attributes.foldl mergeInto []).keys :=
    mem_keys_foldl_mergeInto.mpr (.inr ⟨a, listed, rfl⟩)
  cases found : (attributes.foldl mergeInto []).get? (mergeKey a) with
  | none => exact absurd known (Entries.get?_eq_none_iff.mp found)
  | some b =>
    obtain ⟨front, back, values, others⟩ := (Keyed.nil.foldl attributes).exists_values_eq found
    exact ⟨b, front, back, (get?_foldl_mergeInto ..).symm.trans found, values, others⟩

/-- What a class becomes after some attributes: itself, or, if there was a class among these, the value
of that and its own merged. -/
theorem value_mergedWith_class (attributes : List EvaluatedAttribute) {added : EvaluatedAttribute}
    (isClass : added.isClass = true) :
    (∀ b ∈ attributes, b.isClass = false) ∧
        (mergedWith (attributes.foldl mergeInto []) added).value = added.value ∨
      (∃ b ∈ attributes, b.isClass = true) ∧
        ∃ v, (mergedWith (attributes.foldl mergeInto []) added).value =
          mergeClass v added.value := by
  have known : "class" ∈ (attributes.foldl mergeInto []).keys ↔
      ∃ b ∈ attributes, b.isClass = true := by
    simp only [mem_keys_foldl_mergeInto, mergeKey_eq_class_iff, Entries.keys_nil,
      List.not_mem_nil, false_or]
  unfold mergedWith
  rw [mergeKey_eq_class_iff.mpr isClass]
  cases before : (attributes.foldl mergeInto []).get? "class" with
  | none =>
    have absent := mt known.mpr (Entries.get?_eq_none_iff.mp before)
    refine .inl ⟨fun b hb => ?_, rfl⟩
    by_contra other
    exact absent ⟨b, hb, eq_true_of_ne_false other⟩
  | some first =>
    have listed : "class" ∈ (attributes.foldl mergeInto []).keys := by
      by_contra absent
      simp [Entries.get?_eq_none_iff.mpr absent] at before
    refine .inr ⟨known.mp listed, first.value, ?_⟩
    simp [mergeAttribute, EvaluatedAttribute.name_of_isClass isClass]

/-- Attributes to which a class was added last have one class. It is the added one, or, if there was
a class before, the value of that and the added one merged. -/
theorem exists_mergeAttributes_concat (attributes : List EvaluatedAttribute)
    {added : EvaluatedAttribute} (isClass : added.isClass = true) :
    ∃ front a back, mergeAttributes (attributes ++ [added]) = front ++ a :: back ∧
      a.isClass = true ∧ (∀ b ∈ front ++ back, b.isClass = false) ∧
      ((∀ b ∈ attributes, b.isClass = false) ∧ a.value = added.value ∨
        (∃ b ∈ attributes, b.isClass = true) ∧ ∃ v, a.value = mergeClass v added.value) := by
  have key : mergeKey added = "class" := mergeKey_eq_class_iff.mpr isClass
  let merged := attributes.foldl mergeInto []
  have keyed : Keyed merged := Keyed.nil.foldl attributes
  have found : (mergeInto merged added).get? "class" = some (mergedWith merged added) := by
    rw [mergeInto_eq, Entries.get?_insert, if_pos key]
  -- No other attribute stands under the key of classes.
  obtain ⟨front, back, values, others⟩ := (keyed.mergeInto added).exists_values_eq found
  refine ⟨front, mergedWith merged added, back, ?_, ?_, fun b hb => ?_,
    value_mergedWith_class attributes isClass⟩
  · rw [mergeAttributes, List.foldl_append]
    exact values
  · rw [← mergeKey_eq_class_iff, keyed.mergeKey_mergedWith, key]
  · by_contra other
    exact others b hb (mergeKey_eq_class_iff.mpr (eq_true_of_ne_false other))

/-! ### Writing -/

/-- Attributes with one class, which is written with a value. -/
def WritesClass (attributes : List EvaluatedAttribute) (value : String) : Prop :=
  ∃ front a back, attributes = front ++ a :: back ∧ a.isClass = true ∧
    (∀ b ∈ front ++ back, b.isClass = false) ∧
      serializeAttributes attributes = serializeAttributes front ++ " class=\"" ++
        escapeAttribute value ++ "\"" ++ serializeAttributes back

/-- A class with some text is written with it. -/
theorem serializeAttribute_of_isClass {a : EvaluatedAttribute} {value : String}
    (isClass : a.isClass = true) (text : a.value = .text value) (nonempty : value ≠ "") :
    serializeAttribute a = " class=\"" ++ escapeAttribute value ++ "\"" := by
  unfold serializeAttribute
  rw [text]
  split
  · rename_i h; exact nomatch h
  · rename_i h; exact nomatch h
  · rename_i h
    exact absurd (Value.text.inj h) nonempty
  · rw [EvaluatedAttribute.name_of_isClass isClass]
    rfl

theorem serializeAttributes_append (front back : List EvaluatedAttribute) :
    serializeAttributes (front ++ back) = serializeAttributes front ++ serializeAttributes back := by
  simp [serializeAttributes, String.join_append]

/-- One class with some text among attributes is written with it. -/
theorem writesClass_of_text {front back : List EvaluatedAttribute} {a : EvaluatedAttribute}
    {value : String} (isClass : a.isClass = true) (others : ∀ b ∈ front ++ back, b.isClass = false)
    (text : a.value = .text value) (nonempty : value ≠ "") :
    WritesClass (front ++ a :: back) value := by
  have isPublic : a.isPublic = true := (Bool.and_eq_true_iff.mp isClass).1
  have rest : serializeAttributes (a :: back) = serializeAttribute a ++ serializeAttributes back := by
    simp [serializeAttributes, isPublic]
  refine ⟨front, a, back, rfl, isClass, others, ?_⟩
  rw [serializeAttributes_append, rest, serializeAttribute_of_isClass isClass text nonempty]
  simp only [String.append_assoc]

end ComponentMarkup
