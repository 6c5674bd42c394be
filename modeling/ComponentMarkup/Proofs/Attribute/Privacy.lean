import ComponentMarkup.Compiler
import ComponentMarkup.Proofs.Attribute.Merging

/-!
# Private values in start tags

Private attributes are not written, but they merge with public ones. Of most names the last
attribute wins, so a private value is either dropped or what is left is private. Values of `class`
and `style` accumulate, and private ones do so under a name with a mark, apart from public ones.
That name is not reserved: a public attribute can have it too, when it is spread from a record.
Private values that come after such an attribute are added to it, and written.

What is written for a list of attributes is put together from what is written under each key. Under
a key without a mark private values do not count. Under a marked one they count exactly if the last
attribute that has the marked name is public and a private value comes after it.

## Main definitions

* `EvaluatedAttribute.withSecret`, `SameInPublic` — attributes with other private values
* `IsTaken` — the last attribute that has the marked name is public
* `Leaks` — a private value is added to a public attribute
* `EvaluatedAttribute.isHidden` — private values that accumulate

## Main results

* `serializeAttributes_mergeAttributes` — what is written, key by key
* `mergedUnder_map_withSecret` — keys without a mark do not depend on private values
* `writtenUnder_mark` — what is written under a marked key where nothing leaks
* `privateValues_notWritten_iff` — when private values do not count, and when they may be left out
* `exists_private_class_written` — a private class that is written
-/

namespace ComponentMarkup

variable {xs ys : List EvaluatedAttribute} {a b m : EvaluatedAttribute} {name key : String}

/-! ### What is written, key by key -/

/-- What is written of an attribute, if there is one and it is public. -/
def written : Option EvaluatedAttribute → String
  | some a => if a.isPublic then serializeAttribute a else ""
  | none => ""

/-- What is written under a key. -/
def writtenUnder (key : String) (attributes : List EvaluatedAttribute) : String :=
  written (mergedUnder key attributes)

theorem serializeAttributes_filterMap (f : String → Option EvaluatedAttribute)
    (keys : List String) :
    serializeAttributes (keys.filterMap f) = String.join (keys.map fun key => written (f key)) := by
  induction keys with
  | nil => rfl
  | cons key keys ih =>
    cases found : f key with
    | none => simpa [found, written] using ih
    | some a =>
      rw [List.filterMap_cons_some found, ← List.singleton_append, serializeAttributes_append, ih]
      by_cases isPublic : a.isPublic = true <;>
        simp [serializeAttributes, written, found, isPublic, String.join_cons]

theorem serializeAttributes_mergeAttributes (attributes : List EvaluatedAttribute) :
    serializeAttributes (mergeAttributes attributes) =
      String.join ((mergeKeys attributes).map (writtenUnder · attributes)) := by
  rw [mergeAttributes_eq_filterMap, serializeAttributes_filterMap]
  rfl

/-! ### Other private values -/

/-- The attribute with a given value if it is private. -/
def EvaluatedAttribute.withSecret (v : Value) (a : EvaluatedAttribute) : EvaluatedAttribute :=
  if a.isPublic then a else { a with value := v, rawValue := v.display }

/-- The lists differ in the values of private attributes only. -/
def SameInPublic (xs ys : List EvaluatedAttribute) : Prop :=
  xs.map (EvaluatedAttribute.withSecret .null) = ys.map (EvaluatedAttribute.withSecret .null)

section withSecret

variable (v w : Value)

theorem withSecret_of_isPublic (isPublic : a.isPublic = true) : a.withSecret v = a :=
  if_pos isPublic

@[simp] theorem isPublic_withSecret : (a.withSecret v).isPublic = a.isPublic := by
  unfold EvaluatedAttribute.withSecret
  split <;> rfl

@[simp] theorem name_withSecret : (a.withSecret v).name = a.name := by
  unfold EvaluatedAttribute.withSecret
  split <;> rfl

@[simp] theorem mergeKey_withSecret : mergeKey (a.withSecret v) = mergeKey a := by
  unfold EvaluatedAttribute.withSecret
  split <;> rfl

theorem withSecret_withSecret : (a.withSecret w).withSecret v = a.withSecret v := by
  by_cases isPublic : a.isPublic = true
  · rw [withSecret_of_isPublic w isPublic]
  · have isPrivate : EvaluatedAttribute.isPublic { a with value := w, rawValue := w.display } =
        false := eq_false_of_ne_true isPublic
    simp [EvaluatedAttribute.withSecret, isPublic, isPrivate]

theorem sameInPublic_map_withSecret (xs : List EvaluatedAttribute) :
    SameInPublic xs (xs.map (·.withSecret v)) := by
  simp [SameInPublic, Function.comp_def, withSecret_withSecret]

/-- The value of a private attribute is not written. -/
theorem written_map_withSecret (o : Option EvaluatedAttribute) :
    written (o.map (·.withSecret v)) = written o := by
  rcases o with _ | a
  · rfl
  · by_cases isPublic : a.isPublic = true
    · rw [Option.map_some, withSecret_of_isPublic v isPublic]
    · simp [written, isPublic]

theorem mergeKeys_map_withSecret (xs : List EvaluatedAttribute) :
    mergeKeys (xs.map (·.withSecret v)) = mergeKeys xs := by
  simp [mergeKeys, Function.comp_def]

end withSecret

/-! ### Keys -/

/-- Neither `class` nor `style` is a marked name. -/
theorem ne_mark (accumulates : name = "class" ∨ name = "style") (other : String) :
    name ≠ "@" ++ other := by
  intro same
  have heads := congrArg (·.toList.head?) same
  rcases accumulates with rfl | rfl <;> simp at heads

/-- A marked key is the key of attributes that have it as a name, and of private values of the name
without the mark. -/
theorem mergeKey_eq_mark_iff (accumulates : name = "class" ∨ name = "style") :
    mergeKey a = "@" ++ name ↔ a.name = "@" ++ name ∨ a.name = name ∧ a.isPublic = false := by
  by_cases own : a.name = "class" ∨ a.name = "style"
  · have unmarked := ne_mark own name
    rw [mergeKey_of_accumulates own]
    cases hp : a.privacy <;> simp [EvaluatedAttribute.isPublic, hp, unmarked]
  · have other : a.name ≠ name := fun same => own (same ▸ accumulates)
    simp only [not_or] at own
    simp [mergeKey, own, other]

theorem mergeKey_of_isPublic (isPublic : a.isPublic = true) : mergeKey a = a.name := by
  have privacy : a.privacy = .isPublic := by simpa [EvaluatedAttribute.isPublic] using isPublic
  simp [mergeKey, privacy]

/-- Attributes whose key is `class` or `style` are public ones of that name. -/
theorem of_mergeKey_eq (accumulates : name = "class" ∨ name = "style")
    (isKey : mergeKey a = name) : a.name = name ∧ a.isPublic = true := by
  by_cases own : a.name = "class" ∨ a.name = "style"
  · rw [mergeKey_of_accumulates own] at isKey
    cases hp : a.privacy with
    | isPublic => simpa [EvaluatedAttribute.isPublic, hp] using isKey
    | isPrivate =>
      rw [hp, if_pos rfl] at isKey
      exact absurd isKey.symm (ne_mark accumulates a.name)
  · have unmarked : mergeKey a = a.name := by
      simp only [not_or] at own
      simp [mergeKey, own]
    exact absurd (unmarked.symm.trans isKey ▸ accumulates) own

/-- An attribute to which a class or style is added keeps all but its value. -/
theorem exists_mergeAttribute_eq (accumulates : b.name = "class" ∨ b.name = "style")
    (a : EvaluatedAttribute) : ∃ v, mergeAttribute a b = { a with value := v } := by
  rcases accumulates with isClass | isStyle
  · exact ⟨_, mergeAttribute_of_class isClass⟩
  · exact ⟨_, mergeAttribute_of_style isStyle⟩

/-! ### Keys without a mark -/

/-- Under a key without a mark, attributes merge in the same way whatever private values are. -/
theorem mergeAttribute_withSecret (v : Value) (noClass : key ≠ "@class") (noStyle : key ≠ "@style")
    (first : mergeKey a = key) (second : mergeKey b = key) :
    mergeAttribute (a.withSecret v) (b.withSecret v) = (mergeAttribute a b).withSecret v := by
  by_cases accumulates : b.name = "class" ∨ b.name = "style"
  · -- Both are public, as a private class or style would have a marked key.
    have bPublic : b.isPublic = true := by
      by_contra isPrivate
      have marked := (mergeKey_eq_mark_iff accumulates).mpr
        (.inr ⟨rfl, eq_false_of_ne_true isPrivate⟩)
      rcases accumulates with h | h
      · exact noClass (second.symm.trans (marked.trans (congrArg _ h)))
      · exact noStyle (second.symm.trans (marked.trans (congrArg _ h)))
    have unmarked : mergeKey b = b.name := mergeKey_of_isPublic bPublic
    have aPublic : a.isPublic = true :=
      (of_mergeKey_eq accumulates (first.trans (second.symm.trans unmarked))).2
    obtain ⟨w, merged⟩ := exists_mergeAttribute_eq accumulates a
    rw [withSecret_of_isPublic v aPublic, withSecret_of_isPublic v bPublic, merged]
    exact (withSecret_of_isPublic v (a := { a with value := w }) aPublic).symm
  · have other : (b.withSecret v).name = b.name := name_withSecret v
    simp only [not_or] at accumulates
    rw [mergeAttribute_of_other accumulates.1 accumulates.2, mergeAttribute_of_other
      (other ▸ accumulates.1) (other ▸ accumulates.2)]

/-- Keys without a mark do not depend on private values. -/
theorem mergedUnder_map_withSecret (v : Value) (noClass : key ≠ "@class")
    (noStyle : key ≠ "@style") (xs : List EvaluatedAttribute) :
    mergedUnder key (xs.map (·.withSecret v)) = (mergedUnder key xs).map (·.withSecret v) := by
  induction xs using List.reverseRecOn with
  | nil => rfl
  | append_singleton xs b ih =>
    rw [List.map_append, List.map_singleton, mergedUnder_concat, mergedUnder_concat, ih,
      mergeKey_withSecret]
    by_cases here : mergeKey b = key
    · rw [if_pos here, if_pos here]
      cases before : mergedUnder key xs with
      | none => rfl
      | some a =>
        have first := mergeKey_of_mergedUnder before
        exact congrArg some (mergeAttribute_withSecret v noClass noStyle first here)
    · rw [if_neg here, if_neg here]

/-! ### Marked keys -/

/-- The last attribute that has a name. -/
def lastNamed (name : String) (xs : List EvaluatedAttribute) : Option EvaluatedAttribute :=
  (xs.filter (·.name == name)).getLast?

/-- The last attribute that has the name under which private values accumulate is public. -/
def IsTaken (name : String) (xs : List EvaluatedAttribute) : Prop :=
  ∃ a, lastNamed ("@" ++ name) xs = some a ∧ a.isPublic = true

/-- A private value comes after a public attribute that has the name under which private values
accumulate, and no other attribute of that name follows. -/
def Leaks (name : String) (xs : List EvaluatedAttribute) : Prop :=
  ∃ front b back, xs = front ++ b :: back ∧ b.name = name ∧ b.isPublic = false ∧
    IsTaken name front ∧ ∀ c ∈ back, c.name ≠ "@" ++ name

theorem lastNamed_concat (name : String) (xs : List EvaluatedAttribute) (b : EvaluatedAttribute) :
    lastNamed name (xs ++ [b]) = if b.name = name then some b else lastNamed name xs := by
  unfold lastNamed
  rw [List.filter_append]
  by_cases named : b.name = name <;> simp [named]

theorem lastNamed_map_withSecret (name : String) (v : Value) (xs : List EvaluatedAttribute) :
    lastNamed name (xs.map (·.withSecret v)) = (lastNamed name xs).map (·.withSecret v) := by
  simp [lastNamed, List.filter_map, Function.comp_def]

theorem isTaken_map_withSecret (v : Value) :
    IsTaken name (xs.map (·.withSecret v)) ↔ IsTaken name xs := by
  simp [IsTaken, lastNamed_map_withSecret]

theorem leaks_map_withSecret (v : Value) :
    Leaks name (xs.map (·.withSecret v)) ↔ Leaks name xs := by
  constructor
  · rintro ⟨_, _, _, split, named, isPrivate, taken, others⟩
    obtain ⟨front, rest, rfl, rfl, later⟩ := List.map_eq_append_iff.mp split
    obtain ⟨b, back, rfl, rfl, rfl⟩ := List.map_eq_cons_iff.mp later
    refine ⟨front, b, back, rfl, by simpa using named, by simpa using isPrivate,
      (isTaken_map_withSecret v).mp taken, fun c hc => ?_⟩
    simpa using others _ (List.mem_map_of_mem hc)
  · rintro ⟨front, b, back, rfl, named, isPrivate, taken, others⟩
    refine ⟨front.map (·.withSecret v), b.withSecret v, back.map (·.withSecret v), by simp,
      by simpa using named, by simpa using isPrivate, (isTaken_map_withSecret v).mpr taken, ?_⟩
    simpa using others

theorem leaks_concat :
    Leaks name (xs ++ [b]) ↔ b.name = name ∧ b.isPublic = false ∧ IsTaken name xs ∨
      b.name ≠ "@" ++ name ∧ Leaks name xs := by
  constructor
  · rintro ⟨front, c, back, split, named, isPrivate, taken, others⟩
    rcases List.eq_nil_or_concat back with rfl | ⟨back, last, rfl⟩
    · obtain ⟨rfl, same⟩ := List.append_inj' split rfl
      obtain rfl := List.singleton_inj.mp same
      exact .inl ⟨named, isPrivate, taken⟩
    · rw [List.concat_eq_append] at others split
      rw [← List.cons_append, ← List.append_assoc] at split
      obtain ⟨rfl, same⟩ := List.append_inj' split rfl
      obtain rfl := List.singleton_inj.mp same
      refine .inr ⟨others b (by simp), front, c, back, rfl, named, isPrivate, taken, ?_⟩
      exact fun d hd => others d (List.mem_append_left _ hd)
  · rintro (⟨named, isPrivate, taken⟩ | ⟨unmarked, leaks⟩)
    · exact ⟨xs, b, [], rfl, named, isPrivate, taken, nofun⟩
    · obtain ⟨front, c, back, rfl, named, isPrivate, taken, others⟩ := leaks
      refine ⟨front, c, back ++ [b], by simp, named, isPrivate, taken, fun d hd => ?_⟩
      rcases List.mem_append.mp hd with hd | hd
      · exact others d hd
      · rw [List.mem_singleton.mp hd]
        exact unmarked

/-- What leaks is added to a public attribute, which is the last that has the marked name. -/
theorem Leaks.isTaken (leaks : Leaks name xs) (accumulates : name = "class" ∨ name = "style") :
    IsTaken name xs := by
  induction xs using List.reverseRecOn with
  | nil =>
    obtain ⟨front, b, back, split, _⟩ := leaks
    simp at split
  | append_singleton xs b ih =>
    have kept (unmarked : b.name ≠ "@" ++ name) (taken : IsTaken name xs) :
        IsTaken name (xs ++ [b]) := by
      rwa [IsTaken, lastNamed_concat, if_neg unmarked]
    rcases leaks_concat.mp leaks with ⟨named, _, taken⟩ | ⟨unmarked, leaks⟩
    · exact kept (named ▸ ne_mark accumulates name) taken
    · exact kept unmarked (ih leaks)

section mark

variable (accumulates : name = "class" ∨ name = "style")

include accumulates

/-- Where no attribute has the marked name, what is left under it is private. -/
theorem isPublic_of_mergedUnder_mark (none : lastNamed ("@" ++ name) xs = none)
    (stands : mergedUnder ("@" ++ name) xs = some m) : m.isPublic = false := by
  induction xs using List.reverseRecOn generalizing m with
  | nil => exact nomatch stands
  | append_singleton xs b ih =>
    rw [lastNamed_concat] at none
    rw [mergedUnder_concat] at stands
    split at none
    · exact nomatch none
    · rename_i unmarked
      split at stands
      · rename_i isKey
        obtain ⟨named, isPrivate⟩ :=
          ((mergeKey_eq_mark_iff accumulates).mp isKey).resolve_left unmarked
        obtain rfl := Option.some.inj stands
        cases before : mergedUnder ("@" ++ name) xs with
        | none => exact isPrivate
        | some a =>
          obtain ⟨v, merged⟩ := exists_mergeAttribute_eq (named ▸ accumulates) a
          have same : ((some a).map (mergeAttribute · b)).getD b = { a with value := v } := merged
          rw [same]
          show a.isPublic = false
          exact ih none before
      · exact ih none stands

/-- Where an attribute has the marked name, the last one of that name is left, with another value if
private values were added. -/
theorem exists_mergedUnder_mark (last : lastNamed ("@" ++ name) xs = some a) :
    ∃ v, mergedUnder ("@" ++ name) xs = some { a with value := v } ∧
      (a.isPublic = true → ¬ Leaks name xs → v = a.value) := by
  induction xs using List.reverseRecOn with
  | nil => exact nomatch last
  | append_singleton xs b ih =>
    rw [lastNamed_concat] at last
    rw [mergedUnder_concat]
    by_cases marked : b.name = "@" ++ name
    · -- The attribute takes the place of what was left before.
      rw [if_pos marked] at last
      obtain rfl := Option.some.inj last
      refine ⟨b.value, ?_, fun _ _ => rfl⟩
      rw [if_pos ((mergeKey_eq_mark_iff accumulates).mpr (.inl marked))]
      have replaced (before : EvaluatedAttribute) : mergeAttribute before b = b :=
        mergeAttribute_of_other (fun isClass => ne_mark (.inl isClass) name marked)
          fun isStyle => ne_mark (.inr isStyle) name marked
      cases mergedUnder ("@" ++ name) xs with
      | none => rfl
      | some before => exact congrArg some (replaced before)
    · rw [if_neg marked] at last
      obtain ⟨v, stands, kept⟩ := ih last
      by_cases isKey : mergeKey b = "@" ++ name
      · -- A private value is added.
        obtain ⟨named, isPrivate⟩ :=
          ((mergeKey_eq_mark_iff accumulates).mp isKey).resolve_left marked
        obtain ⟨w, merged⟩ := exists_mergeAttribute_eq (named ▸ accumulates) { a with value := v }
        rw [if_pos isKey, stands]
        refine ⟨w, congrArg some merged, fun isPublic quiet => ?_⟩
        exact absurd (leaks_concat.mpr (.inl ⟨named, isPrivate, a, last, isPublic⟩)) quiet
      · rw [if_neg isKey]
        refine ⟨v, stands, fun isPublic quiet => kept isPublic fun leaks => ?_⟩
        exact quiet (leaks_concat.mpr (.inr ⟨marked, leaks⟩))

/-- Where nothing leaks, what is written under a marked name is the last attribute that has it. -/
theorem writtenUnder_mark (quiet : ¬ Leaks name xs) :
    writtenUnder ("@" ++ name) xs = written (lastNamed ("@" ++ name) xs) := by
  unfold writtenUnder
  cases last : lastNamed ("@" ++ name) xs with
  | none =>
    cases stands : mergedUnder ("@" ++ name) xs with
    | none => rfl
    | some m => simp [written, isPublic_of_mergedUnder_mark accumulates last stands]
  | some a =>
    obtain ⟨v, stands, kept⟩ := exists_mergedUnder_mark accumulates last
    rw [stands]
    by_cases isPublic : a.isPublic = true
    · rw [kept isPublic quiet]
    · have isPrivate : ({ a with value := v } : EvaluatedAttribute).isPublic = false :=
        eq_false_of_ne_true isPublic
      simp [written, isPrivate, isPublic]

/-- Nothing is written under a marked name that is not taken. -/
theorem writtenUnder_mark_eq_empty (free : ¬ IsTaken name xs) :
    writtenUnder ("@" ++ name) xs = "" := by
  rw [writtenUnder_mark accumulates (mt (·.isTaken accumulates) free)]
  cases last : lastNamed ("@" ++ name) xs with
  | none => rfl
  | some a => exact if_neg fun isPublic => free ⟨a, last, isPublic⟩

end mark

/-! ### Secrets that leak -/

/-- A text has at least the length of any of the texts it is put together from. -/
theorem length_le_length_intercalate {s separator : String} {texts : List String}
    (listed : s ∈ texts) : s.length ≤ (separator.intercalate texts).length := by
  induction texts with
  | nil => exact absurd listed List.not_mem_nil
  | cons t texts ih =>
    cases texts with
    | nil => rw [List.mem_singleton.mp listed, String.intercalate_singleton]
    | cons u texts =>
      rw [String.intercalate_cons_cons, String.length_append, String.length_append]
      rcases List.mem_cons.mp listed with rfl | later
      · omega
      · have := ih later
        omega

theorem length_le_length_join {s : String} {texts : List String} (listed : s ∈ texts) :
    s.length ≤ (String.join texts).length := by
  induction texts with
  | nil => exact absurd listed List.not_mem_nil
  | cons t texts ih =>
    rw [String.join_cons, String.length_append]
    rcases List.mem_cons.mp listed with rfl | later
    · omega
    · have := ih later
      omega

theorem length_le_length_escapeAttribute (text : String) :
    text.length ≤ (escapeAttribute text).length := by
  unfold escapeAttribute
  rw [String.length_ofList, ← String.length_toList]
  induction text.toList with
  | nil => simp
  | cons c cs ih =>
    have first : 1 ≤ (escapeAttributeChar c).length := by
      unfold escapeAttributeChar
      split
      · decide
      · split <;> simp
    simp only [List.length_cons, List.flatMap_cons, List.length_append]
    omega

/-- An attribute that is written takes at least as much space as its value. -/
theorem length_le_length_serializeAttribute {text : String} (value : a.value = .text text) :
    text.length ≤ (serializeAttribute a).length := by
  have escaped := length_le_length_escapeAttribute text
  unfold serializeAttribute
  rw [value]
  split
  · rename_i h; exact nomatch h
  · rename_i h; exact nomatch h
  · rename_i h
    obtain rfl := Value.text.inj h
    simp
  · simp only [String.length_append, Value.display]
    omega

/-- A long text that is both a word and a declaration. -/
def secret (n : Nat) : String := String.ofList (List.replicate (n + 1) 'x')

theorem lt_length_secret (n : Nat) : n < (secret n).length := by simp [secret]

theorem secret_ne_empty (n : Nat) : secret n ≠ "" := by
  intro empty
  have long := lt_length_secret n
  rw [empty] at long
  exact absurd long (Nat.not_lt_zero n)

theorem eq_of_mem_secret {n : Nat} {c : Char} (h : c ∈ (secret n).toList) : c = 'x' := by
  rw [secret, String.toList_ofList] at h
  exact (List.mem_replicate.mp h).2

theorem secret_mem_blankFree (n : Nat) : secret n ∈ blankFree (secret n) := by
  refine self_mem_blankFree_iff.mpr ⟨secret_ne_empty n, fun c hc => ?_⟩
  rw [eq_of_mem_secret hc]
  decide

theorem secret_mem_styleDeclarations (n : Nat) :
    secret n ∈ styleDeclarations (.text (secret n)) := by
  have isDeclaration : IsDeclaration (secret n) := by
    refine ⟨secret_ne_empty n, trimChars_of_forall fun c hc => ?_, fun c hc => ?_⟩ <;>
    · rw [eq_of_mem_secret hc]
      decide
  rw [styleDeclarations_eq]
  exact (declarationsIn_of_isDeclaration isDeclaration).symm ▸ List.mem_singleton_self _

/-- A secret that is added to an attribute is part of its value. -/
theorem exists_mergeAttribute_secret {n : Nat} (accumulates : b.name = "class" ∨ b.name = "style")
    (value : b.value = .text (secret n)) (a : EvaluatedAttribute) :
    ∃ text, mergeAttribute a b = { a with value := .text text } ∧ n < text.length := by
  rcases accumulates with isClass | isStyle
  · refine ⟨_, mergeAttribute_of_class isClass, (lt_length_secret n).trans_le ?_⟩
    refine length_le_length_intercalate (List.mem_eraseDups.mpr (List.mem_flatMap.mpr ?_))
    exact ⟨b.value, by simp, value ▸ secret_mem_blankFree n⟩
  · refine ⟨_, mergeAttribute_of_style isStyle, (lt_length_secret n).trans_le ?_⟩
    refine length_le_length_intercalate (List.mem_flatMap.mpr ?_)
    exact ⟨b.value, by simp, value ▸ secret_mem_styleDeclarations n⟩

/-- A secret that leaks is part of a public attribute. -/
theorem exists_mergedUnder_of_leaks {n : Nat} (accumulates : name = "class" ∨ name = "style")
    (secrets : ∀ b ∈ xs, b.isPublic = false → b.value = .text (secret n)) (leaks : Leaks name xs) :
    ∃ m text, mergedUnder ("@" ++ name) xs = some m ∧ m.isPublic = true ∧
      m.value = .text text ∧ n < text.length := by
  induction xs using List.reverseRecOn with
  | nil =>
    obtain ⟨front, b, back, split, _⟩ := leaks
    simp at split
  | append_singleton xs b ih =>
    have earlier : ∀ b ∈ xs, b.isPublic = false → b.value = .text (secret n) :=
      fun b hb => secrets b (List.mem_append_left _ hb)
    rw [mergedUnder_concat]
    by_cases added : b.name = name ∧ b.isPublic = false
    · obtain ⟨a, last, isPublic⟩ : IsTaken name xs := by
        rcases leaks_concat.mp leaks with ⟨_, _, taken⟩ | ⟨_, leaks⟩
        · exact taken
        · exact leaks.isTaken accumulates
      obtain ⟨v, stands, _⟩ := exists_mergedUnder_mark accumulates last
      obtain ⟨text, merged, long⟩ := exists_mergeAttribute_secret (added.1 ▸ accumulates)
        (secrets b (by simp) added.2) { a with value := v }
      rw [if_pos ((mergeKey_eq_mark_iff accumulates).mpr (.inr added)), stands]
      exact ⟨_, text, congrArg some merged, isPublic, rfl, long⟩
    · rcases leaks_concat.mp leaks with ⟨named, isPrivate, _⟩ | ⟨unmarked, leaks⟩
      · exact absurd ⟨named, isPrivate⟩ added
      · have other : mergeKey b ≠ "@" ++ name := fun isKey =>
          added (((mergeKey_eq_mark_iff accumulates).mp isKey).resolve_left unmarked)
        rw [if_neg other]
        exact ih earlier leaks

/-- Where something leaks, other private values give another text. -/
theorem exists_withSecret_ne (accumulates : name = "class" ∨ name = "style")
    (leaks : Leaks name xs) : ∃ v, serializeAttributes (mergeAttributes (xs.map (·.withSecret v))) ≠
      serializeAttributes (mergeAttributes xs) := by
  let n := (serializeAttributes (mergeAttributes xs)).length
  let ys := xs.map (·.withSecret (.text (secret n)))
  have secrets : ∀ b ∈ ys, b.isPublic = false → b.value = .text (secret n) := by
    intro b hb isPrivate
    obtain ⟨a, _, rfl⟩ := List.mem_map.mp hb
    rw [isPublic_withSecret] at isPrivate
    simp [EvaluatedAttribute.withSecret, isPrivate]
  obtain ⟨m, text, stands, isPublic, value, long⟩ :=
    exists_mergedUnder_of_leaks accumulates secrets ((leaks_map_withSecret _).mpr leaks)
  -- The text has become longer than it was.
  have part : serializeAttribute m ∈ (mergeKeys ys).map (writtenUnder · ys) := by
    refine List.mem_map.mpr ⟨_, mem_mergeKeys_of_mergedUnder stands, ?_⟩
    simp [writtenUnder, stands, written, isPublic]
  have longer : n < (serializeAttributes (mergeAttributes ys)).length := by
    rw [serializeAttributes_mergeAttributes]
    exact long.trans_le ((length_le_length_serializeAttribute value).trans
      (length_le_length_join part))
  exact ⟨_, fun same => absurd (congrArg String.length same) (Nat.ne_of_gt longer)⟩

/-- Where nothing leaks, private values do not count. -/
theorem serializeAttributes_map_withSecret (v : Value) (noClass : ¬ Leaks "class" xs)
    (noStyle : ¬ Leaks "style" xs) :
    serializeAttributes (mergeAttributes (xs.map (·.withSecret v))) =
      serializeAttributes (mergeAttributes xs) := by
  have marked {name : String} (accumulates : name = "class" ∨ name = "style")
      (quiet : ¬ Leaks name xs) :
      writtenUnder ("@" ++ name) (xs.map (·.withSecret v)) = writtenUnder ("@" ++ name) xs := by
    rw [writtenUnder_mark accumulates quiet,
      writtenUnder_mark accumulates (mt (leaks_map_withSecret v).mp quiet),
      lastNamed_map_withSecret, written_map_withSecret]
  rw [serializeAttributes_mergeAttributes, serializeAttributes_mergeAttributes,
    mergeKeys_map_withSecret]
  refine congrArg String.join (List.map_congr_left fun key _ => ?_)
  by_cases isClass : key = "@class"
  · exact isClass ▸ marked (.inl rfl) noClass
  · by_cases isStyle : key = "@style"
    · exact isStyle ▸ marked (.inr rfl) noStyle
    · rw [writtenUnder, mergedUnder_map_withSecret v isClass isStyle, written_map_withSecret]
      rfl

/-! ### Private values left out -/

/-- Whether the attribute is a private value of `class` or `style`. -/
def EvaluatedAttribute.isHidden (a : EvaluatedAttribute) : Bool :=
  (a.name == "class" || a.name == "style") && !a.isPublic

theorem isHidden_iff :
    a.isHidden = true ↔ (a.name = "class" ∨ a.name = "style") ∧ a.isPublic = false := by
  simp [EvaluatedAttribute.isHidden]

theorem mergeKey_of_isHidden (hidden : a.isHidden = true) : mergeKey a = "@" ++ a.name :=
  (mergeKey_eq_mark_iff (isHidden_iff.mp hidden).1).mpr (.inr ⟨rfl, (isHidden_iff.mp hidden).2⟩)

/-- No attribute that has a marked name is left out. -/
theorem isTaken_filter : IsTaken name (xs.filter (!·.isHidden)) ↔ IsTaken name xs := by
  have kept : (xs.filter (!·.isHidden)).filter (·.name == "@" ++ name) =
      xs.filter (·.name == "@" ++ name) := by
    rw [List.filter_filter]
    refine List.filter_congr fun a _ => ?_
    cases marked : a.name == "@" ++ name with
    | false => rfl
    | true =>
      have isShown : a.isHidden = false := eq_false_of_ne_true fun hidden =>
        ne_mark (isHidden_iff.mp hidden).1 name (beq_iff_eq.mp marked)
      simp [isShown]
  unfold IsTaken lastNamed
  rw [kept]

/-- Whether no private value of `class` or `style` has the key. -/
def isClear (xs : List EvaluatedAttribute) (key : String) : Bool :=
  xs.all fun b => !(b.isHidden && mergeKey b == key)

theorem exists_of_isClear_eq_false (h : isClear xs key = false) :
    ∃ b ∈ xs, b.isHidden = true ∧ key = "@" ++ b.name := by
  obtain ⟨b, hb, found⟩ := List.all_eq_false.mp h
  obtain ⟨hidden, isKey⟩ : b.isHidden = true ∧ mergeKey b = key := by simpa using found
  exact ⟨b, hb, hidden, isKey.symm.trans (mergeKey_of_isHidden hidden)⟩

theorem isHidden_eq_false_of_isClear (clear : isClear xs key = true) (listed : a ∈ xs)
    (isKey : mergeKey a = key) : a.isHidden = false := by
  have apart := List.all_eq_true.mp clear a listed
  simpa [isKey] using apart

theorem filter_isClear_mergeKeys (xs : List EvaluatedAttribute) :
    (mergeKeys (xs.filter (!·.isHidden))).filter (isClear xs) =
      (mergeKeys xs).filter (isClear xs) := by
  unfold mergeKeys
  rw [filter_eraseDups, filter_eraseDups, List.filter_map, List.filter_map, List.filter_filter]
  refine congrArg (fun as => (as.map mergeKey).eraseDups) (List.filter_congr fun a listed => ?_)
  cases clear : isClear xs (mergeKey a) with
  | false => simp [clear]
  | true => simp [clear, isHidden_eq_false_of_isClear clear listed rfl]

theorem mergedUnder_filter_isHidden (clear : isClear xs key = true) :
    mergedUnder key (xs.filter (!·.isHidden)) = mergedUnder key xs := by
  have same : (xs.filter fun a => mergeKey a == key && !a.isHidden) =
      xs.filter (mergeKey · == key) := by
    refine List.filter_congr fun a listed => ?_
    by_cases isKey : mergeKey a = key
    · simp [isKey, isHidden_eq_false_of_isClear clear listed isKey]
    · simp [isKey]
  rw [mergedUnder, List.filter_filter, same, ← mergedUnder]

/-- Keys under which nothing is written may be left out. -/
theorem join_map_filter {w : String → String} {p : String → Bool} (keys : List String)
    (silent : ∀ key, p key = false → w key = "") :
    String.join ((keys.filter p).map w) = String.join (keys.map w) := by
  induction keys with
  | nil => rfl
  | cons key keys ih =>
    cases kept : p key with
    | true => rw [List.filter_cons_of_pos kept, List.map_cons, List.map_cons, String.join_cons,
        String.join_cons, ih]
    | false => simp [kept, silent key kept, String.join_cons, ih]

/-- Private values of `class` and `style` may be left out if the names under which they accumulate
are not taken. -/
theorem serializeAttributes_filter_isHidden
    (free : ∀ b ∈ xs, b.isHidden = true → ¬ IsTaken b.name xs) :
    serializeAttributes (mergeAttributes (xs.filter (!·.isHidden))) =
      serializeAttributes (mergeAttributes xs) := by
  have silent {ys : List EvaluatedAttribute} (taken : ∀ {name}, IsTaken name ys → IsTaken name xs)
      (key : String) (h : isClear xs key = false) : writtenUnder key ys = "" := by
    obtain ⟨b, listed, hidden, rfl⟩ := exists_of_isClear_eq_false h
    exact writtenUnder_mark_eq_empty (isHidden_iff.mp hidden).1 (mt taken (free b listed hidden))
  rw [serializeAttributes_mergeAttributes, serializeAttributes_mergeAttributes,
    ← join_map_filter _ (silent isTaken_filter.mp), ← join_map_filter _ (silent id),
    filter_isClear_mergeKeys]
  refine congrArg String.join (List.map_congr_left fun key listed => ?_)
  exact congrArg written (mergedUnder_filter_isHidden (List.mem_filter.mp listed).2)

/-! ### Private values in a start tag -/

/-- Whether private values count for what is written. They do not exactly if none is added to a
public attribute. If moreover the names under which they accumulate are not taken by public
attributes, private values of `class` and `style` may be left out. -/
theorem privateValues_notWritten_iff (xs : List EvaluatedAttribute) :
    ((∀ ys, SameInPublic xs ys → serializeAttributes (mergeAttributes ys) =
        serializeAttributes (mergeAttributes xs)) ↔
      ¬ Leaks "class" xs ∧ ¬ Leaks "style" xs) ∧
    ((∀ b ∈ xs, b.isHidden = true → ¬ IsTaken b.name xs) →
      serializeAttributes (mergeAttributes (xs.filter (!·.isHidden))) =
        serializeAttributes (mergeAttributes xs)) := by
  refine ⟨⟨fun same => ?_, ?_⟩, serializeAttributes_filter_isHidden⟩
  · have quiet {name : String} (accumulates : name = "class" ∨ name = "style") :
        ¬ Leaks name xs := by
      intro leaks
      obtain ⟨v, other⟩ := exists_withSecret_ne accumulates leaks
      exact other (same _ (sameInPublic_map_withSecret v xs))
    exact ⟨quiet (.inl rfl), quiet (.inr rfl)⟩
  · rintro ⟨noClass, noStyle⟩ ys same
    have quiet {name : String} (h : ¬ Leaks name xs) : ¬ Leaks name ys := by
      rw [← leaks_map_withSecret .null] at h ⊢
      rwa [← same]
    rw [← serializeAttributes_map_withSecret .null (quiet noClass) (quiet noStyle), ← same,
      serializeAttributes_map_withSecret .null noClass noStyle]

/-- Public classes and styles with private ones between them. -/
def sheltered : List EvaluatedAttribute :=
  [.ofText "class" "a", ⟨"class", "@class", .text "b", "b", .literal, .isPrivate⟩,
    ⟨"style", "@style", .text "top: 0", "top: 0", .literal, .isPrivate⟩,
    .ofText "style" "color: red", .ofText "class" "c"]

/-- Only the public ones are written, whatever the private ones are. -/
theorem privateValues_notWritten_iff_sheltered :
    (∀ b ∈ sheltered, b.isHidden = true → ¬ IsTaken b.name sheltered) ∧
      (∀ ys, SameInPublic sheltered ys → serializeAttributes (mergeAttributes ys) =
        " class=\"a c\" style=\"color: red\"") ∧
      serializeAttributes (mergeAttributes (sheltered.filter (!·.isHidden))) =
        " class=\"a c\" style=\"color: red\"" := by
  have free (name : String) (accumulates : name = "class" ∨ name = "style") :
      ¬ IsTaken name sheltered := by
    rintro ⟨a, last, _⟩
    rcases accumulates with rfl | rfl <;> exact nomatch last
  have hidden : ∀ b ∈ sheltered, b.isHidden = true → ¬ IsTaken b.name sheltered :=
    fun b _ isHidden => free b.name (isHidden_iff.mp isHidden).1
  have text : serializeAttributes (mergeAttributes sheltered) =
      " class=\"a c\" style=\"color: red\"" := by decide +kernel
  obtain ⟨others, dropped⟩ := privateValues_notWritten_iff sheltered
  have quiet {name : String} (accumulates : name = "class" ∨ name = "style") :
      ¬ Leaks name sheltered := mt (·.isTaken accumulates) (free name accumulates)
  refine ⟨hidden, fun ys same => ?_, (dropped hidden).trans text⟩
  exact (others.mpr ⟨quiet (.inl rfl), quiet (.inr rfl)⟩ ys same).trans text

/-! ### A private class that is written -/

/-- A page that gives a component a private class; the element of the component that stands for the
host spreads a record with the name under which private classes accumulate. -/
def leakyClass : Compiler where
  store := .table [("components/a-el.webc",
    "<div webc:root=\"override\" @attributes=\"(\x7b'@class': 'x'\x7d)\">hi</div>")]
  components := [("a-el", "components/a-el.webc")]
  input := some (.content "<a-el @class=\"secret\"></a-el>" "index.webc")

/-- What the element's attributes are merged from, with a private class. -/
def exposedClass (token : String) : List EvaluatedAttribute :=
  [⟨"@class", "@class", .text "x", "x", .dynamic, .isPublic⟩,
    ⟨"class", "@class", .text token, token, .literal, .isPrivate⟩]

/-- A private class can be written. Two lists that differ in its value only give different texts,
and neither is the text that is left without it. -/
theorem exists_private_class_written :
    SameInPublic (exposedClass "secret") (exposedClass "other") ∧
      serializeAttributes (mergeAttributes (exposedClass "secret")) = " @class=\"x secret\"" ∧
      serializeAttributes (mergeAttributes (exposedClass "other")) = " @class=\"x other\"" ∧
      serializeAttributes (mergeAttributes ((exposedClass "secret").filter (!·.isHidden))) =
        " @class=\"x\"" ∧
      (leakyClass.run 10 .text).toOption.map (·.1.markup) =
        some "<div @class=\"x secret\">hi</div>" := by
  refine ⟨rfl, ?_, ?_, ?_, ?_⟩ <;> decide +kernel

end ComponentMarkup
