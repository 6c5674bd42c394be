import ComponentMarkup.Proofs.Attribute.ClassTokens
import ComponentMarkup.Proofs.Entries
import Mathlib.Data.List.DropRight

/-!
# Merging what was merged

The attributes of a host are merged more than once, each time with some more before or after them.
All that merging leaves of a list are its keys, each once in the order of the first, and one
attribute under each. Both can be told from the parts of a list: the keys of the whole are those of
its parts, and what stands under a key in the whole is what stands there in one part merged with
what stands there in the other. So a part can be merged beforehand.

That what stands under a key does not depend on how the list is split comes down to the values of
`class` and `style`. A merged class has the words of all values, whatever they were merged to
before, and a merged style all declarations.

## Main definitions

* `classWords`, `mergedClass` — the words of some values of `class`, and the value they merge to
* `mergeKeys` — the keys of a list of attributes, each once

## Main results

* `mergeClass_assoc`, `mergeStyle_assoc`, `mergeAttribute_assoc` — three attributes under one key
* `mergedUnder_append` — what stands under a key, from two parts of a list
* `mergeAttributes_eq_of_mergeKeys` — merged attributes are told from their keys and what stands
  under them
* `exists_mergeAttributes_classes` — what several classes merge to
* `mergeAttributes_merged_append`, `mergeAttributes_append_merged` — parts may be merged beforehand
* `mergeAttributes_eq_filterMap` — merged attributes by their keys
-/

namespace ComponentMarkup

/-! ### Classes -/

/-- The words of some values of `class`, each once. -/
def classWords (values : List Value) : List String :=
  (values.flatMap fun v => blankFree v.display).eraseDups

/-- The class that some values are merged to. -/
def mergedClass (values : List Value) : Value := .text (" ".intercalate (classWords values))

/-- Words are not empty and have no blanks. -/
theorem of_mem_classWords {values : List Value} {word : String} (h : word ∈ classWords values) :
    word ≠ "" ∧ ∀ c ∈ word.toList, isBlank c = false := by
  obtain ⟨v, _, listed⟩ := List.mem_flatMap.mp (List.mem_eraseDups.mp h)
  exact of_mem_blankFree listed

/-- The words of a merged class are those of the values. -/
theorem blankFree_mergedClass (values : List Value) :
    blankFree (mergedClass values).display = classWords values :=
  blankFree_intercalate fun _ => of_mem_classWords

/-- A class that was merged before counts as the values it was merged from. -/
theorem classWords_mergedClass_cons (vs ws : List Value) :
    classWords (mergedClass vs :: ws) = classWords (vs ++ ws) := by
  rw [classWords, List.flatMap_cons, blankFree_mergedClass]
  unfold classWords
  rw [eraseDups_eraseDups_append, List.flatMap_append]

theorem classWords_concat_mergedClass (vs ws : List Value) :
    classWords (vs ++ [mergedClass ws]) = classWords (vs ++ ws) := by
  rw [classWords, List.flatMap_append, List.flatMap_singleton, blankFree_mergedClass]
  unfold classWords
  rw [eraseDups_append_eraseDups, List.flatMap_append]

theorem mergeClass_mergedClass (vs : List Value) (w : Value) :
    mergeClass (mergedClass vs) w = mergedClass (vs ++ [w]) :=
  congrArg (fun words => Value.text (" ".intercalate words)) (classWords_mergedClass_cons vs [w])

theorem mergeClass_assoc (u v w : Value) :
    mergeClass (mergeClass u v) w = mergeClass u (mergeClass v w) := by
  have right : classWords [u, mergedClass [v, w]] = classWords [u, v, w] :=
    classWords_concat_mergedClass [u] [v, w]
  calc mergeClass (mergeClass u v) w
      = mergedClass [u, v, w] := mergeClass_mergedClass [u, v] w
    _ = mergedClass [u, mergedClass [v, w]] := by rw [mergedClass, ← right, ← mergedClass]
    _ = mergeClass u (mergeClass v w) := rfl

/-! ### Styles -/

/-- The first occurrence of a single character. -/
theorem cut?_singleton_cons (c d : Char) (text : List Char) :
    cut? [c] (d :: text) = if d = c then some ([], text) else
      (cut? [c] text).map fun parts => (d :: parts.1, parts.2) := by
  by_cases same : d = c <;> simp [cut?, List.isPrefixOf, same, @eq_comm _ c d]

theorem ne_of_cut?_singleton_eq_none {c : Char} {text : List Char} (h : cut? [c] text = none) :
    ∀ d ∈ text, (d == c) = false := by
  induction text with
  | nil => exact nofun
  | cons d text ih =>
    rw [cut?_singleton_cons] at h
    split at h
    · exact nomatch h
    · rename_i other
      exact List.forall_mem_cons.mpr ⟨beq_false_of_ne other, ih (Option.map_eq_none_iff.mp h)⟩

theorem of_cut?_singleton_eq_some {c : Char} {text before after : List Char}
    (h : cut? [c] text = some (before, after)) :
    text = before ++ c :: after ∧ ∀ d ∈ before, (d == c) = false := by
  induction text generalizing before with
  | nil => exact nomatch h
  | cons d text ih =>
    rw [cut?_singleton_cons] at h
    split at h
    · rename_i same
      obtain ⟨rfl, rfl⟩ := Prod.mk.inj (Option.some.inj h)
      exact ⟨same ▸ rfl, nofun⟩
    · rename_i other
      obtain ⟨⟨_, _⟩, cut, parts⟩ := Option.map_eq_some_iff.mp h
      obtain ⟨rfl, rfl⟩ := Prod.mk.inj parts
      obtain ⟨split, whole⟩ := ih cut
      exact ⟨congrArg (d :: ·) split, List.forall_mem_cons.mpr ⟨beq_false_of_ne other, whole⟩⟩

/-- Parts between occurrences of a single character are parts between separators. -/
theorem pieces_singleton (c : Char) (text : List Char) :
    pieces [c] text = splitWhere (· == c) text := by
  induction hn : text.length using Nat.strongRecOn generalizing text with
  | ind n ih =>
    unfold pieces
    rw [dif_neg (List.cons_ne_nil c [])]
    split
    · rename_i none
      exact (splitWhere_of_forall (ne_of_cut?_singleton_eq_none none)).symm
    · rename_i before after cut
      obtain ⟨split, whole⟩ := of_cut?_singleton_eq_some cut
      have shorter := length_of_cut? cut (List.cons_ne_nil c [])
      rw [ih _ (hn ▸ shorter) after rfl, split,
        splitWhere_append_cons (p := (· == c)) (beq_self_eq_true c), splitWhere_of_forall whole]
      rfl

theorem dropEndWhile_eq {α : Type} (p : α → Bool) (xs : List α) :
    dropEndWhile p xs = xs.rdropWhile p := rfl

/-- A text without blanks has nothing to trim. -/
theorem trimChars_of_forall {cs : List Char} (visible : ∀ c ∈ cs, isBlank c = false) :
    trimChars cs = cs := by
  have start : cs.dropWhile isBlank = cs :=
    List.dropWhile_eq_self_iff.mpr fun _ => by simp [visible _ (List.getElem_mem _)]
  rw [trimChars, start, dropEndWhile_eq, List.rdropWhile_eq_self_iff]
  intro nonempty
  simp [visible _ (List.getLast_mem nonempty)]

/-- There is nothing to trim of what was trimmed. -/
theorem trimChars_trimChars (cs : List Char) : trimChars (trimChars cs) = trimChars cs := by
  unfold trimChars
  simp only [dropEndWhile_eq]
  have start : ((cs.dropWhile isBlank).rdropWhile isBlank).dropWhile isBlank =
      (cs.dropWhile isBlank).rdropWhile isBlank := by
    have first := List.head?_dropWhile_not isBlank cs
    obtain ⟨rest, whole⟩ := List.rdropWhile_prefix isBlank (cs.dropWhile isBlank)
    cases left : (cs.dropWhile isBlank).rdropWhile isBlank with
    | nil => rfl
    | cons c others =>
      rw [← whole, left] at first
      exact List.dropWhile_cons_of_neg (by simpa using first)
  rw [start, List.rdropWhile_idempotent]

theorem trimChars_blank_cons {c : Char} (blank : isBlank c = true) (cs : List Char) :
    trimChars (c :: cs) = trimChars cs := by
  rw [trimChars, List.dropWhile_cons_of_pos blank]
  rfl

/-- What is left of a text has only characters of it. -/
theorem mem_of_mem_trimChars {c : Char} {cs : List Char} (h : c ∈ trimChars cs) : c ∈ cs := by
  have back : c ∈ cs.dropWhile isBlank := (List.rdropWhile_prefix _ _).subset h
  exact (List.dropWhile_suffix isBlank).subset back

/-- The declarations in a text. -/
def declarationsIn (text : List Char) : List String :=
  ((splitWhere (· == ';') text).map fun piece => String.ofList (trimChars piece)).filter
    (!·.isEmpty)

theorem styleDeclarations_eq (v : Value) :
    styleDeclarations v = declarationsIn v.display.toList := by
  have separator : (";" : String).toList = [';'] := rfl
  unfold styleDeclarations declarationsIn piecesOf
  rw [separator, pieces_singleton, List.map_map]
  simp only [Function.comp_def, trim, String.toList_ofList]

/-- A declaration has characters, none of them a separator, and no blanks around it. -/
def IsDeclaration (d : String) : Prop :=
  d ≠ "" ∧ trimChars d.toList = d.toList ∧ ∀ c ∈ d.toList, (c == ';') = false

theorem isDeclaration_of_mem {text : List Char} {d : String} (h : d ∈ declarationsIn text) :
    IsDeclaration d := by
  obtain ⟨listed, nonempty⟩ := List.mem_filter.mp h
  obtain ⟨piece, part, rfl⟩ := List.mem_map.mp listed
  refine ⟨by simpa using nonempty, ?_, fun c hc => ?_⟩
  · rw [String.toList_ofList, trimChars_trimChars]
  · rw [String.toList_ofList] at hc
    exact eq_false_of_mem_splitWhere (p := (· == ';')) part (mem_of_mem_trimChars hc)

/-- A separator ends a declaration. -/
theorem declarationsIn_append_cons (text rest : List Char) :
    declarationsIn (text ++ ';' :: rest) = declarationsIn text ++ declarationsIn rest := by
  unfold declarationsIn
  rw [splitWhere_append_cons (by rfl), List.map_append, List.filter_append]

/-- A blank at the start belongs to no declaration. -/
theorem declarationsIn_space_cons (text : List Char) :
    declarationsIn (' ' :: text) = declarationsIn text := by
  have other : ¬ (' ' == ';') = true := by decide
  obtain ⟨first, others, split⟩ :=
    List.exists_cons_of_ne_nil (splitWhere_ne_nil (· == ';') text)
  unfold declarationsIn
  rw [splitWhere, if_neg other, split]
  simp only [List.map_cons, trimChars_blank_cons (show isBlank ' ' = true by decide)]

theorem declarationsIn_of_isDeclaration {d : String} (isDeclaration : IsDeclaration d) :
    declarationsIn d.toList = [d] := by
  obtain ⟨nonempty, trimmed, whole⟩ := isDeclaration
  unfold declarationsIn
  rw [splitWhere_of_forall whole, List.map_singleton, trimmed, String.ofList_toList]
  simp [nonempty]

theorem declarationsIn_intercalate {ds : List String} (each : ∀ d ∈ ds, IsDeclaration d) :
    declarationsIn ("; ".intercalate ds).toList = ds := by
  induction ds with
  | nil => rfl
  | cons d ds ih =>
    have first := declarationsIn_of_isDeclaration (each d List.mem_cons_self)
    cases ds with
    | nil => rwa [String.intercalate_singleton]
    | cons d' ds =>
      have rest := ih fun e he => each e (List.mem_cons_of_mem d he)
      have texts : ("; ".intercalate (d :: d' :: ds)).toList =
          d.toList ++ ';' :: ' ' :: ("; ".intercalate (d' :: ds)).toList := by
        simp [String.intercalate_cons_cons, String.toList_append]
      rw [texts, declarationsIn_append_cons, declarationsIn_space_cons, first, rest]
      rfl

/-- A merged style has the declarations of both values. -/
theorem styleDeclarations_mergeStyle (v w : Value) :
    styleDeclarations (mergeStyle v w) = styleDeclarations v ++ styleDeclarations w := by
  have each : ∀ d ∈ [v, w].flatMap styleDeclarations, IsDeclaration d := by
    intro d hd
    obtain ⟨u, _, listed⟩ := List.mem_flatMap.mp hd
    rw [styleDeclarations_eq] at listed
    exact isDeclaration_of_mem listed
  rw [styleDeclarations_eq]
  refine (declarationsIn_intercalate each).trans ?_
  simp

theorem mergeStyle_assoc (u v w : Value) :
    mergeStyle (mergeStyle u v) w = mergeStyle u (mergeStyle v w) := by
  have left : [mergeStyle u v, w].flatMap styleDeclarations =
      [u, v, w].flatMap styleDeclarations := by
    simp [styleDeclarations_mergeStyle]
  have right : [u, mergeStyle v w].flatMap styleDeclarations =
      [u, v, w].flatMap styleDeclarations := by
    simp [styleDeclarations_mergeStyle]
  rw [mergeStyle, left, mergeStyle, right]

/-! ### Three attributes under one key -/

theorem mergeAttribute_of_class {a b : EvaluatedAttribute} (isClass : b.name = "class") :
    mergeAttribute a b = { a with value := mergeClass a.value b.value } := by
  simp [mergeAttribute, isClass]

theorem mergeAttribute_of_style {a b : EvaluatedAttribute} (isStyle : b.name = "style") :
    mergeAttribute a b = { a with value := mergeStyle a.value b.value } := by
  simp [mergeAttribute, isStyle]

theorem mergeAttribute_of_other {a b : EvaluatedAttribute} (noClass : b.name ≠ "class")
    (noStyle : b.name ≠ "style") : mergeAttribute a b = b := by
  simp [mergeAttribute, noClass, noStyle]

/-- The key of a class or style is its name, or, if it is private, the name with a mark. -/
theorem mergeKey_of_accumulates {a : EvaluatedAttribute}
    (accumulates : a.name = "class" ∨ a.name = "style") :
    mergeKey a = if a.privacy = .isPrivate then "@" ++ a.name else a.name := by
  rcases accumulates with h | h <;> cases hp : a.privacy <;> simp [mergeKey, h, hp]

/-- Classes and styles have no key in common. -/
theorem name_ne_of_mergeKey_eq {a b : EvaluatedAttribute} (same : mergeKey a = mergeKey b)
    (isClass : a.name = "class") : b.name ≠ "style" := by
  intro isStyle
  rw [mergeKey_of_accumulates (.inl isClass), mergeKey_of_accumulates (.inr isStyle), isClass,
    isStyle] at same
  split at same <;> split at same <;> simp_all

/-- Of three attributes under one key, the last two may be merged first. -/
theorem mergeAttribute_assoc (a : EvaluatedAttribute) {b c : EvaluatedAttribute}
    (same : mergeKey b = mergeKey c) :
    mergeAttribute (mergeAttribute a b) c = mergeAttribute a (mergeAttribute b c) := by
  by_cases cClass : c.name = "class"
  · have noStyle := name_ne_of_mergeKey_eq same.symm cClass
    rw [mergeAttribute_of_class cClass, mergeAttribute_of_class cClass]
    by_cases bClass : b.name = "class"
    · have right : mergeAttribute a { b with value := mergeClass b.value c.value } =
          { a with value := mergeClass a.value (mergeClass b.value c.value) } :=
        mergeAttribute_of_class bClass
      rw [right, mergeAttribute_of_class bClass, mergeClass_assoc]
    · -- A private class meets an attribute that has its key as a name.
      have right : mergeAttribute a { b with value := mergeClass b.value c.value } =
          { b with value := mergeClass b.value c.value } :=
        mergeAttribute_of_other bClass noStyle
      rw [right, mergeAttribute_of_other bClass noStyle]
  · by_cases cStyle : c.name = "style"
    · have noClass : b.name ≠ "class" := fun bClass =>
        name_ne_of_mergeKey_eq same bClass cStyle
      rw [mergeAttribute_of_style cStyle, mergeAttribute_of_style cStyle]
      by_cases bStyle : b.name = "style"
      · have right : mergeAttribute a { b with value := mergeStyle b.value c.value } =
            { a with value := mergeStyle a.value (mergeStyle b.value c.value) } :=
          mergeAttribute_of_style bStyle
        rw [right, mergeAttribute_of_style bStyle, mergeStyle_assoc]
      · have right : mergeAttribute a { b with value := mergeStyle b.value c.value } =
            { b with value := mergeStyle b.value c.value } :=
          mergeAttribute_of_other noClass bStyle
        rw [right, mergeAttribute_of_other noClass bStyle]
    · rw [mergeAttribute_of_other cClass cStyle, mergeAttribute_of_other cClass cStyle,
        mergeAttribute_of_other cClass cStyle]

/-! ### Keys and what stands under them -/

/-- The keys of attributes, each once, in the order of the first that has it. -/
def mergeKeys (attributes : List EvaluatedAttribute) : List String :=
  (attributes.map mergeKey).eraseDups

theorem keys_foldl_mergeInto (attributes : List EvaluatedAttribute) :
    (attributes.foldl mergeInto []).keys = mergeKeys attributes := by
  induction attributes using List.reverseRecOn with
  | nil => rfl
  | append_singleton attributes a ih =>
    have known : mergeKey a ∈ mergeKeys attributes ↔ mergeKey a ∈ attributes.map mergeKey :=
      List.mem_eraseDups
    rw [List.foldl_append, List.foldl_cons, List.foldl_nil, mergeInto_eq, Entries.keys_insert, ih]
    unfold mergeKeys at known ⊢
    rw [List.map_append, List.map_singleton]
    by_cases listed : mergeKey a ∈ attributes.map mergeKey
    · rw [if_pos (known.mpr listed), eraseDups_concat_of_mem listed]
    · rw [if_neg (mt known.mp listed), eraseDups_concat_of_notMem listed]

variable {key : String} {xs ys : List EvaluatedAttribute} {a : EvaluatedAttribute}

theorem mergedUnder_of_filter (listed : xs.filter (mergeKey · == key) = a :: ys) :
    mergedUnder key xs = some (ys.foldl mergeAttribute a) := by
  rw [mergedUnder, listed]

theorem mergeKey_of_mergedUnder (left : mergedUnder key xs = some a) : mergeKey a = key := by
  rw [← get?_foldl_mergeInto] at left
  exact (Keyed.nil.foldl xs).key_eq key a left

theorem mem_mergeKeys_of_mergedUnder (stands : mergedUnder key xs = some a) :
    key ∈ mergeKeys xs := by
  rw [← keys_foldl_mergeInto]
  by_contra absent
  rw [← get?_foldl_mergeInto, Entries.get?_eq_none_iff.mpr absent] at stands
  exact nomatch stands

/-- What stands under a key in a list is what stands there in its first part merged with what stands
there in the second. -/
theorem mergedUnder_append (key : String) (xs ys : List EvaluatedAttribute) :
    mergedUnder key (xs ++ ys) =
      Option.merge mergeAttribute (mergedUnder key xs) (mergedUnder key ys) := by
  induction ys using List.reverseRecOn with
  | nil =>
    rw [List.append_nil]
    cases mergedUnder key xs <;> rfl
  | append_singleton ys a ih =>
    rw [← List.append_assoc, mergedUnder_concat, mergedUnder_concat, ih]
    by_cases here : mergeKey a = key
    · rw [if_pos here, if_pos here]
      cases mergedUnder key xs with
      | none => cases mergedUnder key ys <;> rfl
      | some x =>
        cases later : mergedUnder key ys with
        | none => rfl
        | some y =>
          have same : mergeKey y = mergeKey a := (mergeKey_of_mergedUnder later).trans here.symm
          exact congrArg some (mergeAttribute_assoc x same)
    · rw [if_neg here, if_neg here]

/-- The attribute that stands under a key is the only one of that key after merging. -/
theorem filter_mergeAttributes (key : String) (attributes : List EvaluatedAttribute) :
    (mergeAttributes attributes).filter (mergeKey · == key) =
      (mergedUnder key attributes).toList := by
  have keyed := Keyed.nil.foldl attributes
  rw [← get?_foldl_mergeInto]
  cases found : (attributes.foldl mergeInto []).get? key with
  | none =>
    refine List.filter_eq_nil_iff.mpr fun a listed isKey => ?_
    obtain ⟨⟨other, a⟩, entry, rfl⟩ := List.mem_map.mp listed
    have stands := (Entries.mem_iff_get?_eq_some keyed.distinct).mp entry
    obtain rfl : other = key := (keyed.key_eq _ _ stands).symm.trans (beq_iff_eq.mp isKey)
    exact absurd (found.symm.trans stands) (Option.some_ne_none a).symm
  | some a =>
    obtain ⟨front, back, values, others⟩ := keyed.exists_values_eq found
    have none (bs : List EvaluatedAttribute) (part : ∀ b ∈ bs, b ∈ front ++ back) :
        bs.filter (mergeKey · == key) = [] :=
      List.filter_eq_nil_iff.mpr fun b hb => by simpa using others b (part b hb)
    rw [mergeAttributes, values, List.filter_append, List.filter_cons_of_pos
      (by simpa using keyed.key_eq key a found), none front fun _ => List.mem_append_left _,
      none back fun _ => List.mem_append_right _]
    rfl

theorem mergedUnder_mergeAttributes (key : String) (attributes : List EvaluatedAttribute) :
    mergedUnder key (mergeAttributes attributes) = mergedUnder key attributes := by
  rw [mergedUnder, filter_mergeAttributes]
  cases mergedUnder key attributes <;> rfl

theorem map_mergeKey_mergeAttributes (attributes : List EvaluatedAttribute) :
    (mergeAttributes attributes).map mergeKey = mergeKeys attributes := by
  have keyed := Keyed.nil.foldl attributes
  rw [← keys_foldl_mergeInto, mergeAttributes, Entries.values, List.map_map, Entries.keys]
  refine List.map_congr_left fun e entry => ?_
  exact keyed.key_eq e.1 e.2 ((Entries.mem_iff_get?_eq_some keyed.distinct).mp entry)

/-- Merged attributes are told from their keys and what stands under them. -/
theorem mergeAttributes_eq_of_mergeKeys (keys : mergeKeys xs = mergeKeys ys)
    (under : ∀ key, mergedUnder key xs = mergedUnder key ys) :
    mergeAttributes xs = mergeAttributes ys := by
  refine congrArg Entries.values ((Entries.eq_iff_keys_get? (Keyed.nil.foldl xs).distinct
    (Keyed.nil.foldl ys).distinct).mpr ⟨?_, fun key => ?_⟩)
  · rw [keys_foldl_mergeInto, keys_foldl_mergeInto, keys]
  · rw [get?_foldl_mergeInto, get?_foldl_mergeInto, under]

/-- Merged attributes by their keys. -/
theorem mergeAttributes_eq_filterMap (attributes : List EvaluatedAttribute) :
    mergeAttributes attributes = (mergeKeys attributes).filterMap (mergedUnder · attributes) := by
  have keyed := Keyed.nil.foldl attributes
  rw [← keys_foldl_mergeInto, Entries.keys, List.filterMap_map, mergeAttributes, Entries.values,
    ← List.filterMap_eq_map]
  refine List.filterMap_congr fun e entry => ?_
  have stands := (Entries.mem_iff_get?_eq_some keyed.distinct).mp entry
  exact stands.symm.trans (get?_foldl_mergeInto attributes e.1)

/-! ### Several classes -/

/-- An attribute to which classes are added one after the other has the class of all values. -/
theorem foldl_mergeAttribute_of_class (vs : List Value) {a : EvaluatedAttribute}
    {bs : List EvaluatedAttribute} (named : ∀ b ∈ bs, b.name = "class") :
    bs.foldl mergeAttribute { a with value := mergedClass vs } =
      { a with value := mergedClass (vs ++ bs.map EvaluatedAttribute.value) } := by
  induction bs generalizing vs with
  | nil => simp
  | cons b bs ih =>
    have rest := ih (vs ++ [b.value]) fun b hb => named b (List.mem_cons_of_mem _ hb)
    rw [List.foldl_cons, mergeAttribute_of_class (named b List.mem_cons_self)]
    rw [mergeClass_mergedClass, rest, List.append_assoc]
    rfl

/-- Where several attributes are written as `class`, the first of them is left, with the words of
all their values. -/
theorem exists_mergeAttributes_classes (several : 2 ≤ (xs.filter (·.isClass)).length) :
    ∃ first front a back, (xs.filter (·.isClass)).head? = some first ∧
      mergeAttributes xs = front ++ a :: back ∧ (∀ b ∈ front ++ back, b.isClass = false) ∧
      a = { first with value := mergedClass ((xs.filter (·.isClass)).map (·.value)) } := by
  have same : xs.filter (mergeKey · == "class") = xs.filter (·.isClass) :=
    List.filter_congr fun a _ => Bool.eq_iff_iff.mpr (beq_iff_eq.trans mergeKey_eq_class_iff)
  rcases classes : xs.filter (·.isClass) with _ | ⟨first, _ | ⟨second, others⟩⟩
  · simp [classes] at several
  · simp [classes] at several
  · rw [classes] at same ⊢
    have isClass (b : EvaluatedAttribute) (hb : b ∈ first :: second :: others) :
        b ∈ xs ∧ b.isClass = true := List.mem_filter.mp (classes ▸ hb)
    have named (b : EvaluatedAttribute) (hb : b ∈ second :: others) : b.name = "class" :=
      EvaluatedAttribute.name_of_isClass (isClass b (List.mem_cons_of_mem _ hb)).2
    obtain ⟨listed, firstClass⟩ := isClass first List.mem_cons_self
    obtain ⟨a, front, back, stands, merged, apart⟩ := exists_mergedUnder listed
    rw [mergeKey_eq_class_iff.mpr firstClass] at stands apart
    refine ⟨first, front, a, back, rfl, merged, fun b hb => ?_, ?_⟩
    · exact eq_false_of_ne_true (mt mergeKey_eq_class_iff.mpr (apart b hb))
    · have start : mergeAttribute first second =
          { first with value := mergedClass [first.value, second.value] } :=
        mergeAttribute_of_class (named second List.mem_cons_self)
      have whole := foldl_mergeAttribute_of_class [first.value, second.value] (a := first)
        fun b hb => named b (List.mem_cons_of_mem _ hb)
      rw [mergedUnder_of_filter same, List.foldl_cons, start, whole] at stands
      exact (Option.some.inj stands).symm

/-! ### Parts that were merged beforehand -/

/-- The first part of a list may be merged beforehand. -/
theorem mergeAttributes_merged_append (xs ys : List EvaluatedAttribute) :
    mergeAttributes (mergeAttributes xs ++ ys) = mergeAttributes (xs ++ ys) := by
  refine mergeAttributes_eq_of_mergeKeys ?_ fun key => ?_
  · rw [mergeKeys, List.map_append, map_mergeKey_mergeAttributes, mergeKeys,
      eraseDups_eraseDups_append, ← List.map_append, mergeKeys]
  · rw [mergedUnder_append, mergedUnder_append, mergedUnder_mergeAttributes]

/-- So may the last part. -/
theorem mergeAttributes_append_merged (xs ys : List EvaluatedAttribute) :
    mergeAttributes (xs ++ mergeAttributes ys) = mergeAttributes (xs ++ ys) := by
  refine mergeAttributes_eq_of_mergeKeys ?_ fun key => ?_
  · rw [mergeKeys, List.map_append, map_mergeKey_mergeAttributes, mergeKeys,
      eraseDups_append_eraseDups, ← List.map_append, mergeKeys]
  · rw [mergedUnder_append, mergedUnder_append, mergedUnder_mergeAttributes]

theorem mergeAttributes_mergeAttributes (xs : List EvaluatedAttribute) :
    mergeAttributes (mergeAttributes xs) = mergeAttributes xs :=
  mergeAttributes_append_merged [] xs

end ComponentMarkup
