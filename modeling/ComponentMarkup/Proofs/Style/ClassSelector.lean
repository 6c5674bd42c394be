import ComponentMarkup.Proofs.Style.PlainName
import ComponentMarkup.Style.Scope

/-!
# Class selectors

The selectors of a scope are put under the class of its scope id: a dot, and the id as it is. That
text selects by the class of this name, and by nothing else, exactly if the id is a plain name. In
all other cases it asks for another class, for more than a class, or cannot be read. What follows
the class is read as by itself, unless it goes on with the name.

## Main definitions

* `Style.SelectsClass` — the class selector of a name selects by that class

## Main results

* `Style.exists_of_selectorsOf?` — selectors start with the simple selectors of an element
* `Style.partsOf_class` — the class of a plain name is two parts wherever it stands
* `Style.selectsClass_iff` — only plain names have class selectors that select by them
-/

namespace ComponentMarkup.Style

/-! ### Reading selectors -/

section Readers

variable {within : Within} {p q : Progress} {parts rest tail : List Part} {text : List Char}
  {found : Selector} {count : Nat}

/-- A selector starts with the simple selectors of an element. -/
theorem exists_of_elements (h : (elements within count p).run parts = some (found, rest)) :
    ∃ first q left more, (compound within p).run parts = some ((first, q), left) ∧ first ≠ [] ∧
      found = first ++ more := by
  cases count with
  | zero => exact nomatch h
  | succ count =>
    rw [elements, StateT.run_bind, Option.bind_eq_bind, Option.bind_eq_some_iff] at h
    obtain ⟨⟨⟨first, q⟩, left⟩, read, h⟩ := h
    refine ⟨first, q, left, ?_⟩
    cases first with
    | nil => exact nomatch h
    | cons s first =>
      simp only [require, List.isEmpty_cons, Bool.not_false, if_true, StateT.run_bind,
        StateT.run_pure, Option.pure_def, Option.bind_eq_bind, Option.bind_some] at h
      -- The selector ends after a pseudo-element; after others a combinator may lead on.
      split at h
      · simp only [StateT.run_bind, Option.bind_eq_bind, Option.bind_eq_some_iff] at h
        obtain ⟨_, _, _, _, h⟩ := h
        exact ⟨[], read, by simp, by simpa using (congrArg Prod.fst (Option.some.inj h)).symm⟩
      · simp only [StateT.run_bind, Option.bind_eq_bind, Option.bind_eq_some_iff] at h
        obtain ⟨⟨next, left'⟩, _, h⟩ := h
        cases next with
        | none =>
          exact ⟨[], read, by simp, by simpa using (congrArg Prod.fst (Option.some.inj h)).symm⟩
        | some c =>
          simp only [StateT.run_bind, Option.bind_eq_bind, Option.bind_eq_some_iff] at h
          obtain ⟨_, _, ⟨others, _⟩, _, h⟩ := h
          exact ⟨_, read, by simp, (congrArg Prod.fst (Option.some.inj h)).symm⟩

/-- A selector that stands alone starts with the simple selectors of an element. -/
theorem exists_of_selector {s : Part} (noBlank : s.isBlank = false)
    (h : (selector within .alone p).run (s :: parts) = some (found, rest)) :
    ∃ first q left more, (compound within p).run (s :: parts) = some ((first, q), left) ∧
      first ≠ [] ∧ found = first ++ more := by
  have noBlanks : blanks.run (s :: parts) = some (false, s :: parts) := by
    simp [blanks, StateT.run, noBlank]
  unfold selector at h
  simp only [StateT.run_bind, noBlanks, Option.bind_eq_bind, Option.bind_some] at h
  rw [if_pos (by decide)] at h
  simp only [StateT.run_bind, StateT.run_pure, StateT.run_get, Option.pure_def,
    Option.bind_eq_bind, Option.bind_some, Option.bind_eq_some_iff] at h
  obtain ⟨⟨_, _⟩, read, h⟩ := h
  obtain ⟨rfl, rfl⟩ := Prod.mk.inj (Option.some.inj h)
  exact exists_of_elements read

theorem exists_of_splitOnP {α : Type} {f : α → Bool} {x : α} {xs segment : List α}
    {others : List (List α)} (h : xs.splitOnP f = (x :: segment) :: others) :
    ∃ more, xs = x :: more := by
  cases xs with
  | nil => exact nomatch h
  | cons y ys =>
    rw [List.splitOnP_cons_eq_if_modifyHead] at h
    split at h
    · exact nomatch h
    · obtain ⟨first, others', split⟩ := List.exists_cons_of_ne_nil (List.splitOnP_ne_nil f ys)
      rw [split] at h
      obtain ⟨rfl, _⟩ := List.cons.inj (List.cons.inj h).1
      exact ⟨ys, rfl⟩

/-- The first of some selectors is read from the parts up to a comma. -/
theorem exists_of_selectorsOf? {s : Part} {others : List Selector} (noBlank : s.isBlank = false)
    (noComma : s.isComma = false) (starts : withoutComments parts = s :: tail)
    (h : selectorsOf? {} parts = some (found :: others)) :
    ∃ within segment segments first q left more, tail.splitOnP Part.isComma = segment :: segments ∧
      (compound within {}).run (s :: segment) = some ((first, q), left) ∧ first ≠ [] ∧
        found = first ++ more := by
  obtain ⟨segment, segments, split⟩ :=
    List.exists_cons_of_ne_nil (List.splitOnP_ne_nil Part.isComma tail)
  unfold selectorsOf? at h
  -- The first part is no comma, so the first segment starts with it.
  rw [selectorsWithin, selectorsWith, starts] at h
  simp only [List.splitOnP_cons_eq_if_modifyHead, noComma, split, Bool.false_eq_true, if_false,
    List.modifyHead_cons, List.mapM_cons, Option.bind_eq_bind, Option.bind_eq_some_iff] at h
  obtain ⟨one, read, _, _, same⟩ := h
  obtain ⟨rfl, _⟩ := List.cons.inj (Option.some.inj same)
  cases whole : (selector (selectorsWithin (sourceOf parts).length) .alone {}).run (s :: segment) with
  | none => simp [whole] at read
  | some result =>
    obtain ⟨result, left⟩ := result
    obtain rfl : result = one := by
      rw [whole] at read
      cases left with
      | nil => exact Option.some.inj read
      | cons => exact nomatch read
    obtain ⟨first, q, left, more, begins, nonempty, same⟩ := exists_of_selector noBlank whole
    exact ⟨_, segment, segments, first, q, left, more, split, begins, nonempty, same⟩

/-! ### Selectors that start with a dot -/

/-- Where no type of an element is given, an element has its other simple selectors only. -/
theorem compound_of_untyped {s : Part} (noBlank : s.isBlank = false)
    (noParent : (optional (delim '&')).run (s :: tail) = some (none, s :: tail))
    (noType : typeName.run (s :: tail) = some (none, s :: tail)) :
    (compound within p).run (s :: tail) = (simples within (tail.length + 1) p).run (s :: tail) := by
  have noBlanks : blanks.run (s :: tail) = some (false, s :: tail) := by
    simp [blanks, StateT.run, noBlank]
  unfold compound
  simp only [StateT.run_bind, noBlanks, noParent, noType, Option.bind_eq_bind, Option.bind_some,
    require, Option.isNone_none, Bool.true_or, if_true, StateT.run_pure, StateT.run_get,
    Option.pure_def, List.length_cons, Option.map_none, Option.toList_none, List.nil_append]
  exact Option.bind_fun_some _

/-- What a dot and the parts after it are read as starts with the class of the name after the dot. -/
theorem exists_of_compound_dot {first : Selector} {left : List Part}
    (h : (compound within p).run (.token (.delim '.') text :: tail) = some ((first, q), left)) :
    ∃ name source after more, tail = .token (.ident name) source :: after ∧
      first = .classed name :: more := by
  rw [compound_of_untyped rfl rfl rfl, simples, StateT.run_bind, Option.bind_eq_bind,
    Option.bind_eq_some_iff] at h
  obtain ⟨⟨next, after⟩, step, h⟩ := h
  replace step : simple within p (.token (.delim '.') text :: tail) = some (next, after) := step
  unfold simple at step
  split at step
  · rename_i same
    exact nomatch same
  · rename_i name source left same
    obtain ⟨-, rfl⟩ := List.cons.inj same
    split at step
    · exact nomatch step
    · obtain ⟨rfl, rfl⟩ := Prod.mk.inj (Option.some.inj step)
      simp only [StateT.run_bind, Option.bind_eq_bind, Option.bind_eq_some_iff] at h
      obtain ⟨⟨⟨more, _⟩, _⟩, _, same⟩ := h
      obtain ⟨rfl, _⟩ := Prod.mk.inj (Prod.mk.inj (Option.some.inj same)).1
      exact ⟨name, source, left, more, rfl, rfl⟩
  · exact nomatch step
  · rename_i same
    exact nomatch same
  · rename_i same
    exact nomatch same
  · rename_i same
    exact nomatch same
  · rename_i other _ _ _
    exact absurd rfl (other _ _)

/-- A class that is the only selector of a text without blanks in front is read from a dot and an
identifier. -/
theorem exists_of_selectorsOf?_dot {name : String}
    (starts : withoutComments parts = .token (.delim '.') text :: tail)
    (h : selectorsOf? {} parts = some [[.classed name]]) :
    ∃ source after, tail = .token (.ident name) source :: after := by
  obtain ⟨_, segment, _, first, _, _, _, split, read, _, same⟩ :=
    exists_of_selectorsOf? rfl rfl starts h
  obtain ⟨other, source, after, more, rfl, rfl⟩ := exists_of_compound_dot read
  obtain rfl : name = other := by simpa using (List.cons.inj same).1
  obtain ⟨more, rfl⟩ := exists_of_splitOnP split
  exact ⟨source, more, rfl⟩

/-- No selector starts with a number. -/
theorem selectorsOf?_ne_of_isNumeric {t : Token} {others : List Selector}
    (numeric : t.isNumeric = true) (starts : withoutComments parts = .token t text :: tail) :
    selectorsOf? {} parts ≠ some (found :: others) := by
  have ends : ∀ within segment first q left,
      (compound within {}).run (.token t text :: segment) = some ((first, q), left) →
        first = [] := by
    intro within segment first q left read
    cases t with
    | number | percentage | dimension =>
      rw [compound_of_untyped rfl rfl rfl] at read
      exact (Prod.mk.inj (Prod.mk.inj (Option.some.inj read)).1).1.symm
    | _ => exact nomatch numeric
  intro h
  have noBlank : (Part.token t text).isBlank = false := by cases t <;> first | rfl | exact nomatch numeric
  have noComma : (Part.token t text).isComma = false := by cases t <;> first | rfl | exact nomatch numeric
  obtain ⟨_, segment, _, first, _, _, _, _, read, nonempty, _⟩ :=
    exists_of_selectorsOf? noBlank noComma starts h
  exact nonempty (ends _ _ _ _ _ read)

end Readers

/-! ### Class selectors -/

/-- A text after a dot, in parts: the dot, and the parts of the text, unless the dot starts a
number. -/
theorem partsOf_dot {text : String} (noDigits : startsDigits ('.' :: text.toList) = false) :
    partsOf ("." ++ text) = .token (.delim '.') ['.'] ::
      gather [] [] (lexemesWithin text.toList.length text.toList) := by
  have whole : ("." ++ text).toList = '.' :: text.toList := by simp [String.toList_append]
  rw [partsOf, lexemes, whole, List.length_cons, lexemesWithin, readLexeme?,
    readToken_dot noDigits, gather_cons rfl]
  simp

/-- A number after a dot is a part of its own. -/
theorem exists_partsOf_digits {text : String} (digits : startsDigits ('.' :: text.toList) = true) :
    ∃ t source tail, t.isNumeric = true ∧
      withoutComments (partsOf ("." ++ text)) = .token t source :: tail := by
  have whole : ("." ++ text).toList = '.' :: text.toList := by simp [String.toList_append]
  have numeric := isNumeric_of_readToken_dot digits
  cases first : readToken '.' text.toList with
  | mk t rest =>
    rw [first] at numeric
    have opens : opened? t = none := by cases t <;> first | rfl | exact nomatch numeric
    have kept : ∀ source, (Part.token t source).isComment = false := by
      intro source
      cases t <;> first | rfl | exact nomatch numeric
    rw [partsOf, lexemes, whole, List.length_cons, lexemesWithin, readLexeme?, first,
      gather_cons opens, withoutComments, List.filter_cons, kept]
    exact ⟨t, _, _, numeric, rfl⟩

/-- The class of a plain name in parts: the dot, the name, and the parts of what follows. -/
theorem partsOf_class {name rest : String} (plain : IsPlainName name)
    (stops : StopsName name.toList rest.toList) :
    partsOf ("." ++ name ++ rest) =
      .token (.delim '.') ['.'] :: .token (.ident name) name.toList :: partsOf rest := by
  obtain ⟨starts, chars⟩ := plain
  cases letters : name.toList with
  | nil => simp [letters, startsIdent] at starts
  | cons c cs =>
    rw [letters] at starts chars stops
    have whole : (name ++ rest).toList = c :: (cs ++ rest.toList) := by
      simp [String.toList_append, letters]
    have noDigits : startsDigits ('.' :: c :: (cs ++ rest.toList)) = false := by
      change c.isDigit = false
      rcases (startsIdent_iff fun d hd => (chars d hd).1).mp starts with start | ⟨rfl, _⟩
      · exact not_isDigit_of_isNameStart start
      · decide
    have enough : rest.toList.length ≤ (cs ++ rest.toList).length := by simp
    rw [String.append_assoc, partsOf_dot (by rwa [whole]), whole, List.length_cons, lexemesWithin,
      readLexeme?, readToken_of_plain chars starts stops]
    simp only
    rw [gather_cons rfl, ← letters, String.ofList_toList, letters, ← List.cons_append,
      List.length_append, Nat.add_sub_cancel, List.take_left, lexemesWithin_of_le enough]
    rfl

/-- The selector of the host under a scope is the class of the scope. -/
theorem scopedSelector_host (name : String) : scopedSelector ("." ++ name) ":host" = "." ++ name := by
  have unscoped : isScoped ("." ++ name) ":host" = false := by
    simp [isScoped, dropStart?, dropStartChars?, String.toList_append]
  have other : hasStart ":host" ":host-context" = false := by decide
  have host : dropStart? ":host" ":host" = some "" := by decide
  unfold scopedSelector
  rw [unscoped, other, host]
  exact String.append_empty

/-- What the class selector of a name is to be, as it is put in front of selectors. For the host
itself it asks for that class and for nothing else. Elsewhere it is the class of that name, followed
by what follows it, unless that goes on with the name. -/
def SelectsClass (name : String) : Prop :=
  selectorsOf? {} (partsOf (scopedSelector ("." ++ name) ":host")) = some [[.classed name]] ∧
    ∀ selector rest, scopedSelector ("." ++ name) selector = "." ++ name ++ rest →
      EndsName name.toList rest.toList → partsOf (scopedSelector ("." ++ name) selector) =
        .token (.delim '.') ['.'] :: .token (.ident name) name.toList :: partsOf rest

/-- The class selector of a name selects by that class exactly if the name is plain. -/
theorem selectsClass_iff {name : String} : SelectsClass name ↔ IsPlainName name := by
  constructor
  · rintro ⟨read, -⟩
    rw [scopedSelector_host] at read
    cases digits : startsDigits ('.' :: name.toList) with
    | true =>
      -- Dot and digit are a number, and that starts no selector.
      obtain ⟨t, source, tail, numeric, starts⟩ := exists_partsOf_digits digits
      exact absurd read (selectorsOf?_ne_of_isNumeric numeric starts)
    | false =>
      have starts : withoutComments (partsOf ("." ++ name)) = .token (.delim '.') ['.'] ::
          withoutComments (gather [] [] (lexemesWithin name.toList.length name.toList)) := by
        rw [partsOf_dot digits]
        rfl
      obtain ⟨source, after, tail⟩ := exists_of_selectorsOf?_dot starts read
      exact (plain_of_gather tail).2 rfl
  · intro plain
    constructor
    · have nothing : EndsName name.toList "".toList := fun _ h => nomatch h
      have parts := partsOf_class plain nothing.stops
      rw [String.append_empty] at parts
      rw [scopedSelector_host, parts]
      rfl
    · intro selector rest under ends
      rw [under]
      exact partsOf_class plain ends.stops

end ComponentMarkup.Style
