import ComponentMarkup.Style.Token
import Mathlib.Data.List.Infix

/-!
# Cutting texts into tokens

A token takes at least the character that it starts with, and leaves an end of the text. So a text
has no more tokens than characters, and together they have all of its characters.

## Main results

* `Style.readToken_suffix` — what a token leaves is an end of what comes after its first character
* `Style.lexemesWithin_of_le` — a bound that is not needed makes no difference
* `Style.flatMap_text_lexemes` — no character is lost
-/

namespace ComponentMarkup.Style

variable {c : Char} {cs : List Char}

/-! ### Names -/

theorem dropOneBlank_suffix (cs : List Char) : dropOneBlank cs <:+ cs := by
  unfold dropOneBlank
  split
  · exact (List.suffix_cons _ _).trans (List.suffix_cons _ _)
  · split
    · exact List.suffix_cons _ _
    · exact List.suffix_refl _
  · exact List.suffix_refl _

/-- An escape takes the character after the backslash. -/
theorem readEscape_suffix (c : Char) (cs : List Char) : (readEscape (c :: cs)).2 <:+ cs := by
  rw [readEscape]
  split
  · rename_i isHex
    have digits : ((c :: cs).take 6).takeWhile isHexDigit =
        c :: (cs.take 5).takeWhile isHexDigit := by
      rw [List.take_succ_cons, List.takeWhile_cons_of_pos isHex]
    simp only [digits, List.length_cons, List.drop_succ_cons]
    exact (dropOneBlank_suffix _).trans (List.drop_suffix _ _)
  · exact List.suffix_refl _

theorem readEscape_suffix_self (cs : List Char) : (readEscape cs).2 <:+ cs := by
  cases cs with
  | nil => exact List.suffix_refl _
  | cons c cs => exact (readEscape_suffix c cs).trans (List.suffix_cons c cs)

theorem readNameWithin_suffix (count : Nat) (cs : List Char) :
    (readNameWithin count cs).2 <:+ cs := by
  induction count generalizing cs with
  | zero => exact List.suffix_refl _
  | succ count ih =>
    unfold readNameWithin
    split
    · exact (ih _).trans ((readEscape_suffix_self _).trans (List.drop_suffix _ _))
    · split
      · split
        · exact (ih _).trans (List.suffix_cons _ _)
        · exact List.suffix_refl _
      · exact List.suffix_refl _

/-- An identifier that does not start with an escape starts with a character of names. -/
theorem isNameChar_of_startsIdent (starts : startsIdent (c :: cs) = true)
    (noEscape : startsEscape (c :: cs) = false) : isNameChar c = true := by
  by_cases hyphen : c = '-'
  · rw [hyphen]
    decide
  · rw [startsIdent, noEscape, Bool.or_false] at starts
    · rw [isNameChar, starts]
      rfl
    all_goals simp [hyphen]

/-- An identifier takes the character that it starts with. -/
theorem readName_suffix (starts : startsIdent (c :: cs) = true) :
    (readName (c :: cs)).2 <:+ cs := by
  change (readNameWithin (cs.length + 1) (c :: cs)).2 <:+ cs
  unfold readNameWithin
  split
  · exact (readNameWithin_suffix _ _).trans (readEscape_suffix_self _)
  · rename_i noEscape
    have isName := isNameChar_of_startsIdent starts (eq_false_of_ne_true noEscape)
    simp only [isName, if_true]
    exact readNameWithin_suffix _ _

/-! ### Strings and addresses -/

theorem readStringWithin_suffix (quote : Char) (count : Nat) (cs : List Char) :
    (readStringWithin quote count cs).2 <:+ cs := by
  induction count generalizing cs with
  | zero => exact List.suffix_refl _
  | succ count ih =>
    cases cs with
    | nil => exact List.suffix_refl _
    | cons c cs =>
      have next : ∀ {rest}, rest <:+ cs → (readStringWithin quote count rest).2 <:+ c :: cs :=
        fun shorter => (ih _).trans (shorter.trans (List.suffix_cons c cs))
      unfold readStringWithin
      split
      · exact List.suffix_cons c cs
      split
      · exact List.suffix_refl _
      split
      · -- After a backslash: the end, a line break of two characters or one, or an escape.
        split
        · exact List.nil_suffix
        · exact next ((List.suffix_cons _ _).trans (List.suffix_cons _ _))
        · split
          · exact next (List.suffix_cons _ _)
          · exact next ((readEscape_suffix _ _).trans (List.suffix_cons _ _))
      · exact next (List.suffix_refl cs)

theorem dropBrokenUrl_suffix (cs : List Char) : dropBrokenUrl cs <:+ cs := by
  fun_induction dropBrokenUrl cs with
  | case1 => exact List.suffix_refl _
  | case2 rest => exact List.suffix_cons _ rest
  | case3 rest ih => exact ih.trans ((List.suffix_cons _ _).trans (List.suffix_cons _ _))
  | case4 rest ih => exact ih.trans ((List.suffix_cons _ _).trans (List.suffix_cons _ _))
  | case5 c rest _ _ _ ih => exact ih.trans (List.suffix_cons _ _)

theorem readUrlWithin_suffix (count : Nat) (cs : List Char) :
    (readUrlWithin count cs).2 <:+ cs := by
  induction count generalizing cs with
  | zero => exact List.suffix_refl _
  | succ count ih =>
    cases cs with
    | nil => exact List.suffix_refl _
    | cons c cs =>
      have later : ∀ {rest}, rest <:+ cs → rest <:+ c :: cs :=
        fun shorter => shorter.trans (List.suffix_cons c cs)
      unfold readUrlWithin
      split
      · exact later (List.suffix_refl cs)
      split
      · have blanks := List.dropWhile_suffix (l := cs) isAsciiBlank
        split
        · exact List.nil_suffix
        · rename_i more split
          rw [split] at blanks
          exact later ((List.suffix_cons _ _).trans blanks)
        · exact later ((dropBrokenUrl_suffix _).trans blanks)
      split
      · exact later (dropBrokenUrl_suffix cs)
      split
      · exact later ((ih _).trans (readEscape_suffix_self cs))
      · exact later (ih cs)

/-! ### Numbers -/

theorem suffix_of_readExponentPart? {e : Int} {rest : List Char}
    (h : readExponentPart? cs = some (e, rest)) : rest <:+ cs := by
  cases cs with
  | nil => exact nomatch h
  | cons c cs =>
    unfold readExponentPart? at h
    simp only at h
    split at h
    · split at h
      · exact nomatch h
      · obtain ⟨-, rfl⟩ := Prod.mk.inj (Option.some.inj h)
        refine (List.drop_suffix _ _).trans (List.IsSuffix.trans ?_ (List.suffix_cons c cs))
        split
        · exact List.suffix_cons _ _
        · exact List.suffix_cons _ _
        · exact List.suffix_refl _
    · exact nomatch h

/-- A number starts with a sign, or with a digit, or with a dot and a digit after it. -/
theorem startsNumber_cases (starts : startsNumber (c :: cs) = true) :
    (c = '-' ∨ c = '+') ∨ (c ≠ '-' ∧ c ≠ '+' ∧ c.isDigit = true) ∨
      ∃ d ds, c = '.' ∧ cs = d :: ds ∧ d.isDigit = true := by
  unfold startsNumber at starts
  split at starts
  · rename_i same
    exact .inl (.inr (List.cons.inj same).1)
  · rename_i same
    exact .inl (.inl (List.cons.inj same).1)
  · rename_i noPlus noMinus
    have noMinus : c ≠ '-' := fun same => noMinus cs (same ▸ rfl)
    have noPlus : c ≠ '+' := fun same => noPlus cs (same ▸ rfl)
    unfold startsDigits at starts
    split at starts
    · rename_i d ds same
      obtain ⟨rfl, rfl⟩ := List.cons.inj same
      exact .inr (.inr ⟨d, ds, rfl, rfl, starts⟩)
    · rename_i same
      obtain ⟨rfl, -⟩ := List.cons.inj same
      exact .inr (.inl ⟨noMinus, noPlus, starts⟩)
    · cases starts

/-- A number takes the character that it starts with. -/
theorem readNumeral_suffix (starts : startsNumber (c :: cs) = true) :
    (readNumeral (c :: cs)).2 <:+ cs := by
  rcases startsNumber_cases starts with (rfl | rfl) | ⟨noMinus, noPlus, digit⟩ |
    ⟨d, ds, rfl, rfl, digit⟩
  case inr.inr =>
    have after := List.drop_suffix (ds.takeWhile Char.isDigit).length ds
    unfold readNumeral
    simp only [List.cons.injEq, Char.reduceEq, false_and, imp_self, implies_true,
      Char.reduceIsDigit, Bool.false_eq_true, not_false_eq_true, List.takeWhile_cons_of_neg,
      List.length_nil, List.drop_zero, digit, List.takeWhile_cons_of_pos, List.isEmpty_cons,
      if_false, List.length_cons, List.drop_succ_cons]
    split
    · rename_i read
      exact (suffix_of_readExponentPart? read).trans (after.trans (List.suffix_cons d ds))
    · exact after.trans (List.suffix_cons d ds)
  -- In the other cases the digits in front of a dot leave an end of what comes after the first
  -- character.
  case' inl.inl | inl.inr =>
    have shorter := List.drop_suffix (cs.takeWhile Char.isDigit).length cs
    unfold readNumeral
    simp only
  case' inr.inl =>
    have shorter : (c :: cs).drop ((c :: cs).takeWhile Char.isDigit).length <:+ cs := by
      rw [List.takeWhile_cons_of_pos digit]
      exact List.drop_suffix _ cs
    unfold readNumeral
    simp only [List.cons.injEq, noMinus, noPlus, false_and, imp_self, implies_true]
  all_goals
    split
    on_goal 1 =>
      rename_i read
      refine (suffix_of_readExponentPart? read).trans ?_
    all_goals
      split
      · rename_i dot
        rw [dot] at shorter
        split
        · exact shorter
        · exact (List.drop_suffix _ _).trans ((List.suffix_cons _ _).trans shorter)
      · exact shorter

/-- A number with its unit takes the character that it starts with. -/
theorem readNumeric_suffix (starts : startsNumber (c :: cs) = true) :
    (readNumeric (c :: cs)).2 <:+ cs := by
  have number := readNumeral_suffix starts
  unfold readNumeric
  cases read : readNumeral (c :: cs) with
  | mk n rest =>
    rw [read] at number
    simp only
    split
    · exact (List.suffix_cons _ _).trans number
    · split
      · exact (readNameWithin_suffix _ rest).trans number
      · exact number

/-! ### Tokens -/

theorem dropComment_suffix (cs : List Char) : dropComment cs <:+ cs := by
  fun_induction dropComment cs with
  | case1 => exact List.suffix_refl _
  | case2 rest => exact (List.suffix_cons _ _).trans (List.suffix_cons _ _)
  | case3 c rest _ ih => exact ih.trans (List.suffix_cons c rest)

theorem readIdentLike_suffix (starts : startsIdent (c :: cs) = true) :
    (readIdentLike (c :: cs)).2 <:+ cs := by
  have name := readName_suffix starts
  unfold readIdentLike
  cases read : readName (c :: cs) with
  | mk text rest =>
    rw [read] at name
    simp only
    split
    · rename_i after
      have opened : after <:+ cs := (List.suffix_cons _ _).trans name
      have address := List.dropWhile_suffix (l := after) isAsciiBlank
      split
      · split
        · exact opened
        · exact opened
        · have more := readUrlWithin_suffix (after.dropWhile isAsciiBlank).length
            (after.dropWhile isAsciiBlank)
          split
          · rename_i read
            rw [read] at more
            exact (more.trans address).trans opened
          · rename_i read
            rw [read] at more
            exact (more.trans address).trans opened
      · exact opened
    · exact name

theorem readString_suffix (quote : Char) (cs : List Char) : (readString quote cs).2 <:+ cs := by
  have text := readStringWithin_suffix quote cs.length cs
  unfold readString
  split
  · rename_i read
    rwa [read] at text
  · rename_i read
    rwa [read] at text

theorem suffix_ite {p : Prop} [Decidable p] {r r' : Token × List Char} (yes : p → r.2 <:+ cs)
    (no : ¬ p → r'.2 <:+ cs) : (if p then r else r').2 <:+ cs := by
  by_cases h : p
  · rw [if_pos h]
    exact yes h
  · rw [if_neg h]
    exact no h

/-- A token takes the character that it starts with, and leaves an end of the text. -/
theorem readToken_suffix (c : Char) (cs : List Char) : (readToken c cs).2 <:+ cs := by
  unfold readToken
  refine suffix_ite (fun blank => ?_) fun _ => ?_
  · rw [List.dropWhile_cons_of_pos blank]
    exact List.dropWhile_suffix isAsciiBlank
  refine suffix_ite (fun _ => readString_suffix c cs) fun _ => ?_
  refine suffix_ite (fun starts => readNumeric_suffix starts) fun _ => ?_
  refine suffix_ite (fun _ => List.drop_suffix 2 cs) fun _ => ?_
  refine suffix_ite (fun starts => readIdentLike_suffix starts) fun _ => ?_
  cases punctuation? c with
  | some t => exact List.suffix_refl cs
  | none =>
    refine suffix_ite (fun _ => readNameWithin_suffix _ cs) fun _ => ?_
    refine suffix_ite (fun _ => readNameWithin_suffix _ cs) fun _ => ?_
    refine suffix_ite (fun _ => ?_) fun _ => ?_
    · exact (dropComment_suffix _).trans (List.drop_suffix 1 cs)
    refine suffix_ite (fun _ => List.drop_suffix 3 cs) fun _ => ?_
    exact suffix_ite (fun _ => List.drop_suffix 1 cs) fun _ => List.suffix_refl cs

/-! ### Texts -/

/-- A text has no more tokens than characters: a larger bound makes no difference. -/
theorem lexemesWithin_of_le {count : Nat} (enough : cs.length ≤ count) :
    lexemesWithin count cs = lexemesWithin cs.length cs := by
  -- Along the characters that are left, whatever the bounds on both sides.
  have same : ∀ count count' (cs : List Char), cs.length ≤ count → cs.length ≤ count' →
      lexemesWithin count cs = lexemesWithin count' cs := by
    intro count
    induction count with
    | zero =>
      intro count' cs hcount _
      obtain rfl : cs = [] := List.length_eq_zero_iff.mp (Nat.le_zero.mp hcount)
      cases count' <;> rfl
    | succ count ih =>
      intro count' cs hcount hcount'
      cases cs with
      | nil => cases count' <;> rfl
      | cons c cs =>
        obtain ⟨count', rfl⟩ : ∃ k, count' = k + 1 := ⟨count' - 1, by simp at hcount'; omega⟩
        have shorter := (readToken_suffix c cs).length_le
        simp only [List.length_cons, Nat.add_le_add_iff_right] at hcount hcount'
        rw [lexemesWithin, lexemesWithin, readLexeme?]
        simp only
        rw [ih count' _ (shorter.trans hcount) (shorter.trans hcount')]
  exact same count cs.length cs enough (Nat.le_refl _)

/-- The texts of all tokens are the text. -/
theorem flatMap_text_lexemes (text : String) : (lexemes text).flatMap Lexeme.text = text.toList := by
  have whole : ∀ count (cs : List Char), cs.length ≤ count →
      (lexemesWithin count cs).flatMap Lexeme.text = cs := by
    intro count
    induction count with
    | zero =>
      intro cs enough
      obtain rfl : cs = [] := List.length_eq_zero_iff.mp (Nat.le_zero.mp enough)
      rfl
    | succ count ih =>
      intro cs enough
      cases cs with
      | nil => rfl
      | cons c cs =>
        have rest := readToken_suffix c cs
        have shorter := rest.length_le
        rw [lexemesWithin, readLexeme?]
        simp only [List.flatMap_cons]
        rw [ih _ (shorter.trans (Nat.le_of_succ_le_succ enough))]
        exact List.suffix_iff_eq_append.mp (rest.trans (List.suffix_cons c cs))
  exact whole _ _ (Nat.le_refl _)

end ComponentMarkup.Style
