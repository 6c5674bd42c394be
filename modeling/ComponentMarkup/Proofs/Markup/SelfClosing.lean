import ComponentMarkup.Markup.Template
import Mathlib.Data.List.DropRight
import Mathlib.Data.List.Infix
import Mathlib.Data.List.TakeWhile

/-!
# Self-closing tags of components

The pass that writes self-closing tags of components out looks at characters only. Such a tag ends
before the next `<`, so that texts are rewritten piece by piece, and what follows a `<` in the
result is either what followed it before, a start tag, or the end tag of a component.

## Main definitions

* `HasSelfClosing` — a self-closing tag of a component occurs in a text
* `Follows` — what may follow a `<` after the pass

## Main results

* `expandSelfClosing_eq_self_iff` — only texts without such tags stay as they are
* `follows_of_suffix` — what follows each `<` after the pass
* `mem_of_mem_expandSelfClosing` — the characters of the result
-/

namespace ComponentMarkup.Markup

variable {cs name written after : List Char}

/-! ### Texts before a bracket -/

theorem takeWhile_append_cons {p : Char → Bool} {c : Char} (stops : p c = false)
    (cs rest : List Char) : (cs ++ c :: rest).takeWhile p = cs.takeWhile p := by
  induction cs with
  | nil => simp [stops]
  | cons d cs ih => by_cases goesOn : p d <;> simp [goesOn, ih]

theorem dropWhile_append_cons {p : Char → Bool} {c : Char} (stops : p c = false)
    (cs rest : List Char) : (cs ++ c :: rest).dropWhile p = cs.dropWhile p ++ c :: rest := by
  induction cs with
  | nil => simp [stops]
  | cons d cs ih => by_cases goesOn : p d <;> simp [goesOn, ih]

theorem drop_length_takeWhile (p : Char → Bool) (cs : List Char) :
    cs.drop (cs.takeWhile p).length = cs.dropWhile p := by
  induction cs with
  | nil => rfl
  | cons c cs ih => by_cases goesOn : p c <;> simp [goesOn, ih]

/-- A bracket that stands after a text without brackets stands in what follows it. -/
theorem suffix_of_suffix_append {u rest : List Char} (noOpen : '<' ∉ cs)
    (h : '<' :: u <:+ cs ++ rest) : '<' :: u <:+ rest := by
  induction cs with
  | nil => exact h
  | cons c cs ih =>
    obtain ⟨first, others⟩ := List.ne_and_not_mem_of_not_mem_cons noOpen
    rcases List.suffix_cons_iff.mp h with same | later
    · exact absurd (List.cons.inj same).1 first
    · exact ih others later

/-! ### Reading a tag -/

/-- The names that the pass takes for those of components: a letter, and a hyphen further on. -/
structure IsComponentWord (name : List Char) : Prop where
  exists_cons : ∃ c cs, name = c :: cs ∧ c.isAlpha = true
  hyphen : '-' ∈ name
  inName : ∀ c ∈ name, isComponentNameChar c = true

theorem isComponentNameChar_of_isAsciiAlphanumeric {c : Char} (h : isAsciiAlphanumeric c = true) :
    isComponentNameChar c = true := by
  simp [isComponentNameChar, h]

/-- A name that is read, and what is left. -/
theorem of_readComponentName? (h : readComponentName? cs = some (name, after)) :
    cs = name ++ after ∧ IsComponentWord name := by
  unfold readComponentName? at h
  cases cs with
  | nil => exact nomatch h
  | cons c rest =>
    dsimp only at h
    split at h
    next starts =>
      obtain ⟨rfl, rfl⟩ := Prod.mk.inj (Option.some.inj h)
      obtain ⟨alpha, second⟩ := (Bool.and_eq_true _ _).mp starts
      refine ⟨List.takeWhile_append_dropWhile.symm,
        ⟨c, rest.takeWhile isComponentNameChar, ?_, alpha⟩, ?_,
        fun d hd => List.mem_takeWhile_imp hd⟩
      · have inName : isComponentNameChar c = true := by simp [isComponentNameChar,
          isAsciiAlphanumeric, alpha]
        rw [List.takeWhile_cons_of_pos inName]
      · -- The hyphen comes after letters and digits, which belong to the name.
        obtain ⟨more, split⟩ := List.head?_eq_some_iff.mp (beq_iff_eq.mp second)
        rw [drop_length_takeWhile] at split
        have whole : c :: rest = (c :: rest).takeWhile isAsciiAlphanumeric ++ '-' :: more := by
          rw [← split, List.takeWhile_append_dropWhile]
        rw [whole, List.takeWhile_append_of_pos fun d hd =>
          isComponentNameChar_of_isAsciiAlphanumeric (List.mem_takeWhile_imp hd)]
        simp [isComponentNameChar]
    · exact nomatch h

/-- What is written before the slash of a tag, without the blanks before it. -/
theorem exists_blanks {inner : List Char} (slash : inner.getLast? = some '/') :
    ∃ blanks, inner = dropEndWhile isBlank inner.dropLast ++ (blanks ++ ['/']) ∧
      ∀ c ∈ blanks, isBlank c = true := by
  refine ⟨inner.dropLast.rtakeWhile isBlank, ?_, fun c hc => List.mem_rtakeWhile_imp hc⟩
  have trimmed : dropEndWhile isBlank inner.dropLast ++ inner.dropLast.rtakeWhile isBlank =
      inner.dropLast := List.rdropWhile_append_rtakeWhile
  rw [← List.append_assoc, trimmed, List.dropLast_append_getLast? _ slash]

/-- A tag that is read: its name, what is written in it, blanks, and its end. -/
theorem of_readSelfClosing? (h : readSelfClosing? cs = some (name, written, after)) :
    IsComponentWord name ∧ ∃ blanks, cs = name ++ (written ++ (blanks ++ '/' :: '>' :: after)) ∧
      (∀ c ∈ blanks, isBlank c = true) ∧ '<' ∉ written := by
  unfold readSelfClosing? at h
  split at h
  · exact nomatch h
  next found left read =>
    obtain ⟨rfl, isWord⟩ := of_readComponentName? read
    dsimp only at h
    split at h
    next rest split =>
      split at h
      next slash =>
        split at h
        next =>
          obtain ⟨rfl, same⟩ := Prod.mk.inj (Option.some.inj h)
          obtain ⟨rfl, rfl⟩ := Prod.mk.inj same
          rw [drop_length_takeWhile] at split
          obtain ⟨blanks, whole, areBlank⟩ := exists_blanks (beq_iff_eq.mp slash)
          refine ⟨isWord, blanks, ?_, areBlank, fun opens => ?_⟩
          · conv_lhs => rw [← List.takeWhile_append_dropWhile
              (p := fun c => c != '<' && c != '>') (l := left), split, whole]
            simp
          · have kept := (List.rdropWhile_prefix _ _).subset opens
            exact nomatch List.mem_takeWhile_imp (List.mem_of_mem_dropLast kept)
        · exact nomatch h
      · exact nomatch h
    · exact nomatch h

theorem readComponentName?_append (cs tail : List Char) :
    readComponentName? (cs ++ '<' :: tail) =
      (readComponentName? cs).map fun r => (r.1, r.2 ++ '<' :: tail) := by
  cases cs with
  | nil => simp [readComponentName?]
  | cons c cs =>
    unfold readComponentName?
    simp only [drop_length_takeWhile]
    rw [takeWhile_append_cons (by decide), dropWhile_append_cons (by decide),
      dropWhile_append_cons (by decide)]
    have second : (((c :: cs).dropWhile isAsciiAlphanumeric ++ '<' :: tail).head? == some '-') =
        (((c :: cs).dropWhile isAsciiAlphanumeric).head? == some '-') := by
      cases (c :: cs).dropWhile isAsciiAlphanumeric <;> rfl
    rw [second, List.cons_append]
    dsimp only
    split <;> rfl

/-- Nothing of a tag comes after the next bracket. -/
theorem readSelfClosing?_append (cs tail : List Char) :
    readSelfClosing? (cs ++ '<' :: tail) =
      (readSelfClosing? cs).map fun r => (r.1, r.2.1, r.2.2 ++ '<' :: tail) := by
  unfold readSelfClosing?
  rw [readComponentName?_append]
  cases readComponentName? cs with
  | none => rfl
  | some r =>
    obtain ⟨name, after⟩ := r
    dsimp only [Option.map_some]
    rw [drop_length_takeWhile, drop_length_takeWhile, takeWhile_append_cons (by decide),
      dropWhile_append_cons (by decide)]
    -- Without the end of a tag before it, the bracket is what comes next, and that ends none.
    split
    next rest split =>
      cases whole : after.dropWhile fun c => c != '<' && c != '>' with
      | nil =>
        rw [whole] at split
        exact nomatch split
      | cons c more =>
        rw [whole] at split
        obtain ⟨rfl, rfl⟩ := List.cons.inj split
        split
        · split <;> rfl
        · rfl
    next other =>
      split
      next rest split =>
        rw [split] at other
        exact absurd rfl (other _)
      · rfl

/-! ### The pass -/

theorem expandSelfClosing_cons_of_ne {c : Char} (other : c ≠ '<') (cs : List Char) :
    expandSelfClosing (c :: cs) = c :: expandSelfClosing cs := by
  rw [expandSelfClosing, if_neg (by simpa using other)]

theorem expandSelfClosing_cons_of_none (noTag : readSelfClosing? cs = none) :
    expandSelfClosing ('<' :: cs) = '<' :: expandSelfClosing cs := by
  rw [expandSelfClosing, if_pos (beq_self_eq_true _)]
  split
  next tag => cases noTag.symm.trans tag
  · rfl

theorem expandSelfClosing_cons_of_some (tag : readSelfClosing? cs = some (name, written, after)) :
    expandSelfClosing ('<' :: cs) =
      '<' :: (name ++ written ++ ['>', '<', '/'] ++ name ++ ['>'] ++ expandSelfClosing after) := by
  rw [expandSelfClosing, if_pos (beq_self_eq_true _)]
  split
  next found =>
    cases tag.symm.trans found
    rfl
  next noTag => cases noTag.symm.trans tag

theorem expandSelfClosing_append_of_not_mem (noOpen : '<' ∉ cs) (rest : List Char) :
    expandSelfClosing (cs ++ rest) = cs ++ expandSelfClosing rest := by
  induction cs with
  | nil => rfl
  | cons c cs ih =>
    obtain ⟨first, others⟩ := List.ne_and_not_mem_of_not_mem_cons noOpen
    rw [List.cons_append, expandSelfClosing_cons_of_ne (Ne.symm first), ih others, List.cons_append]

/-- A case analysis along the pass: tags of components, other brackets, and other characters. -/
theorem expandSelfClosing_induction {motive : List Char → Prop} (nil : motive [])
    (tag : ∀ cs name written after, readSelfClosing? cs = some (name, written, after) →
      motive after → motive ('<' :: cs))
    (bracket : ∀ cs, readSelfClosing? cs = none → motive cs → motive ('<' :: cs))
    (other : ∀ c cs, c ≠ '<' → motive cs → motive (c :: cs)) (cs : List Char) : motive cs := by
  fun_induction expandSelfClosing cs with
  | case1 => exact nil
  | case2 c rest opens name written after read ih =>
    obtain rfl := beq_iff_eq.mp opens
    exact tag rest name written after read ih
  | case3 c rest opens read ih =>
    obtain rfl := beq_iff_eq.mp opens
    exact bracket rest read ih
  | case4 c rest opens ih => exact other c rest (by simpa using opens) ih

/-- The pass goes on anew at each bracket. -/
theorem expandSelfClosing_append (cs tail : List Char) :
    expandSelfClosing (cs ++ '<' :: tail) =
      expandSelfClosing cs ++ expandSelfClosing ('<' :: tail) := by
  induction cs using expandSelfClosing_induction with
  | nil => rw [List.nil_append, expandSelfClosing, List.nil_append]
  | tag cs name written after read ih =>
    have later : readSelfClosing? (cs ++ '<' :: tail) =
        some (name, written, after ++ '<' :: tail) := by
      rw [readSelfClosing?_append, read]
      rfl
    rw [List.cons_append, expandSelfClosing_cons_of_some later, ih,
      expandSelfClosing_cons_of_some read]
    simp only [List.append_assoc, List.cons_append]
  | bracket cs read ih =>
    have later : readSelfClosing? (cs ++ '<' :: tail) = none := by
      rw [readSelfClosing?_append, read]
      rfl
    rw [List.cons_append, expandSelfClosing_cons_of_none later, ih,
      expandSelfClosing_cons_of_none read, List.cons_append]
  | other c cs noOpen ih =>
    rw [List.cons_append, expandSelfClosing_cons_of_ne noOpen, ih,
      expandSelfClosing_cons_of_ne noOpen, List.cons_append]

/-! ### What is rewritten -/

/-- A self-closing tag of a component occurs in a text. -/
def HasSelfClosing (cs : List Char) : Prop :=
  ∃ rest, '<' :: rest <:+ cs ∧ (readSelfClosing? rest).isSome

theorem hasSelfClosing_cons_iff {c : Char} :
    HasSelfClosing (c :: cs) ↔ c = '<' ∧ (readSelfClosing? cs).isSome ∨ HasSelfClosing cs := by
  unfold HasSelfClosing
  constructor
  · rintro ⟨rest, starts, read⟩
    rcases List.suffix_cons_iff.mp starts with same | later
    · obtain ⟨rfl, rfl⟩ := List.cons.inj same
      exact .inl ⟨rfl, read⟩
    · exact .inr ⟨rest, later, read⟩
  · rintro (⟨rfl, read⟩ | ⟨rest, later, read⟩)
    · exact ⟨cs, List.suffix_refl _, read⟩
    · exact ⟨rest, later.trans (List.suffix_cons _ _), read⟩

/-- Only texts without self-closing tags of components stay as they are: what the pass writes for a
tag differs from it where the tag ends. -/
theorem expandSelfClosing_eq_self_iff : expandSelfClosing cs = cs ↔ ¬ HasSelfClosing cs := by
  induction cs using expandSelfClosing_induction with
  | nil => simp [HasSelfClosing, expandSelfClosing]
  | tag cs name written after read _ =>
    have has : HasSelfClosing ('<' :: cs) := ⟨cs, List.suffix_refl _, by rw [read]; rfl⟩
    refine iff_of_false (fun same => ?_) (not_not_intro has)
    -- Where the result has its `>`, the text has a blank or the slash.
    obtain ⟨-, blanks, whole, areBlank, -⟩ := of_readSelfClosing? read
    rw [expandSelfClosing_cons_of_some read, whole] at same
    simp only [List.append_assoc, List.cons.injEq, true_and, List.append_cancel_left_eq] at same
    cases blanks with
    | nil => exact absurd (List.cons.inj same).1 (by decide)
    | cons c blanks =>
      obtain rfl := (List.cons.inj same).1
      exact absurd (areBlank '>' List.mem_cons_self) (by decide)
  | bracket cs read ih =>
    rw [expandSelfClosing_cons_of_none read, List.cons_inj_right, ih, hasSelfClosing_cons_iff, read]
    simp
  | other c cs noOpen ih =>
    rw [expandSelfClosing_cons_of_ne noOpen, List.cons_inj_right, ih, hasSelfClosing_cons_iff]
    simp [noOpen]

instance (cs : List Char) : Decidable (HasSelfClosing cs) :=
  decidable_of_iff _ (not_congr expandSelfClosing_eq_self_iff |>.trans not_not)

/-- The pass writes no characters but those of the text and those of tags. -/
theorem mem_of_mem_expandSelfClosing {c : Char} (h : c ∈ expandSelfClosing cs) :
    c ∈ cs ∨ c ∈ ['<', '/', '>'] := by
  induction cs using expandSelfClosing_induction with
  | nil =>
    rw [expandSelfClosing] at h
    cases h
  | tag cs name written after read ih =>
    obtain ⟨-, blanks, whole, -⟩ := of_readSelfClosing? read
    rw [expandSelfClosing_cons_of_some read] at h
    rw [whole]
    -- The name is written twice, but it is one of the text.
    simp only [List.mem_cons, List.mem_append, List.not_mem_nil, or_false] at h ih ⊢
    tauto
  | bracket cs read ih =>
    rw [expandSelfClosing_cons_of_none read] at h
    simp only [List.mem_cons] at h ih ⊢
    tauto
  | other d cs noOpen ih =>
    rw [expandSelfClosing_cons_of_ne noOpen] at h
    simp only [List.mem_cons] at h ih ⊢
    tauto

theorem notMem_expandSelfClosing {c : Char} (notMem : c ∉ cs) (other : c ∉ ['<', '/', '>']) :
    c ∉ expandSelfClosing cs :=
  fun listed => (mem_of_mem_expandSelfClosing listed).elim notMem other

/-! ### What follows a bracket -/

/-- The text before the next bracket stays as it is. -/
theorem takeWhile_expandSelfClosing (cs tail : List Char) :
    (expandSelfClosing cs ++ '<' :: tail).takeWhile (· != '<') = cs.takeWhile (· != '<') := by
  induction cs using expandSelfClosing_induction with
  | nil => simp [expandSelfClosing]
  | tag cs name written after read _ =>
    rw [expandSelfClosing_cons_of_some read]
    rfl
  | bracket cs read _ =>
    rw [expandSelfClosing_cons_of_none read]
    rfl
  | other c cs noOpen ih =>
    rw [expandSelfClosing_cons_of_ne noOpen, List.cons_append]
    simp [noOpen, ih]

/-- What may follow a bracket after the pass: up to the next bracket what followed one before; the
name of a component; or a slash and such a name, with nothing after it. -/
inductive Follows (cs : List Char) : List Char → Prop
  | kept {rest u : List Char} (before : '<' :: rest <:+ cs)
    (same : u.takeWhile (· != '<') = rest.takeWhile (· != '<')) : Follows cs u
  | opening {c : Char} {u : List Char} (alpha : c.isAlpha = true) : Follows cs (c :: u)
  | closing {name u : List Char} (isWord : IsComponentWord name) :
    Follows cs ('/' :: (name ++ '>' :: u))

theorem Follows.of_suffix {u rest : List Char} (follows : Follows rest u) (ends : rest <:+ cs) :
    Follows cs u := by
  cases follows with
  | kept before same => exact .kept (before.trans ends) same
  | opening alpha => exact .opening alpha
  | closing isWord => exact .closing isWord

/-- No bracket stands in the name of a component. -/
theorem IsComponentWord.not_mem (isWord : IsComponentWord name) : '<' ∉ name :=
  fun opens => nomatch isWord.inName _ opens

/-- What follows each bracket after the pass, up to one that stands behind the text. -/
theorem follows_of_suffix {tail u : List Char} (noOpen : '<' ∉ tail)
    (h : '<' :: u <:+ expandSelfClosing cs ++ '<' :: tail) : u = tail ∨ Follows cs u := by
  induction cs using expandSelfClosing_induction with
  | nil =>
    rw [expandSelfClosing, List.nil_append] at h
    rcases List.suffix_cons_iff.mp h with same | later
    · exact .inl (List.cons.inj same).2
    · exact absurd (later.subset List.mem_cons_self) noOpen
  | tag cs name written after read ih =>
    obtain ⟨isWord, blanks, whole, -, noOpenWritten⟩ := of_readSelfClosing? read
    rw [expandSelfClosing_cons_of_some read] at h
    rcases List.suffix_cons_iff.mp h with same | later
    · -- The name of the start tag comes first.
      obtain ⟨c, more, first, alpha⟩ := isWord.exists_cons
      obtain rfl := (List.cons.inj same).2
      rw [first]
      exact .inr (.opening alpha)
    · have noOpenStart : '<' ∉ name ++ written ++ ['>'] := by
        simp [isWord.not_mem, noOpenWritten]
      have noOpenEnd : '<' ∉ '/' :: (name ++ ['>']) := by
        simp [isWord.not_mem]
      have endTag : '<' :: u <:+ '<' :: ('/' :: (name ++ ['>']) ++
          (expandSelfClosing after ++ '<' :: tail)) :=
        suffix_of_suffix_append noOpenStart (by simpa using later)
      rcases List.suffix_cons_iff.mp endTag with same | behind
      · obtain rfl := (List.cons.inj same).2
        rw [List.cons_append, List.append_assoc]
        exact .inr (.closing isWord)
      · -- Behind the end tag the pass goes on with what follows the tag.
        refine (ih (suffix_of_suffix_append noOpenEnd behind)).imp_right (·.of_suffix ?_)
        rw [whole]
        exact (List.suffix_append (name ++ (written ++ (blanks ++ ['/', '>']))) after).trans
          (by simp)
  | bracket cs read ih =>
    rw [expandSelfClosing_cons_of_none read] at h
    rcases List.suffix_cons_iff.mp h with same | later
    · obtain rfl := (List.cons.inj same).2
      exact .inr (.kept (List.suffix_refl _) (takeWhile_expandSelfClosing cs tail))
    · exact (ih later).imp_right (·.of_suffix (List.suffix_cons _ _))
  | other c cs noOpen ih =>
    rw [expandSelfClosing_cons_of_ne noOpen] at h
    rcases List.suffix_cons_iff.mp h with same | later
    · exact absurd (List.cons.inj same).1.symm noOpen
    · exact (ih later).imp_right (·.of_suffix (List.suffix_cons _ _))

end ComponentMarkup.Markup
