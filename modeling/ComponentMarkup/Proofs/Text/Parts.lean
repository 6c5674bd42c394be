import ComponentMarkup.Proofs.Attribute.Merging
import ComponentMarkup.Text.Search

/-!
# Parts of texts

A text is cut around the first occurrence of another one, trimmed of the blanks around it, and split
at separators. What is found then is told from how the text was put together.

## Main definitions

* `IsGap` — runs of blanks

## Main results

* `of_cut?_eq_some`, `cut?_isSome` — an occurrence is found if there is one, and the first one
* `exists_trimChars` — what is trimmed off
* `mem_splitWhere_of_around`, `mem_splitWhere_of_between` — which parts there are
-/

namespace ComponentMarkup

/-! ### Occurrences -/

section Occurrences

variable {part text before after : List Char}

/-- A text is cut around an occurrence, and none comes before it. -/
theorem of_cut?_eq_some (cut : cut? part text = some (before, after)) :
    text = before ++ part ++ after ∧
      ∀ before' after', text = before' ++ part ++ after' → before.length ≤ before'.length := by
  induction text generalizing before with
  | nil =>
    simp only [cut?] at cut
    split at cut
    next empty =>
      obtain ⟨⟩ := cut
      exact ⟨by simpa using empty, fun _ _ _ => Nat.zero_le _⟩
    · cases cut
  | cons c text ih =>
    rw [cut?] at cut
    split at cut
    next starts =>
      obtain ⟨⟩ := cut
      have whole := List.prefix_iff_eq_append.mp (List.isPrefixOf_iff_prefix.mp starts)
      exact ⟨by simpa using whole.symm, fun _ _ _ => Nat.zero_le _⟩
    next other =>
      obtain ⟨⟨passed, _⟩, more, ⟨⟩⟩ := Option.map_eq_some_iff.mp cut
      obtain ⟨whole, first⟩ := ih more
      refine ⟨by simp [whole], fun before' after' same => ?_⟩
      cases before' with
      | nil =>
        have starts : part <+: c :: text := ⟨after', by simpa using same.symm⟩
        exact absurd (List.isPrefixOf_iff_prefix.mpr starts) other
      | cons d before' =>
        have tail : text = before' ++ part ++ after' := (List.cons.inj same).2
        exact Nat.succ_le_succ (first before' after' tail)

/-- Where there is an occurrence, one is found. -/
theorem cut?_isSome (part before after : List Char) :
    (cut? part (before ++ part ++ after)).isSome = true := by
  induction before with
  | nil =>
    cases whole : part ++ after with
    | nil => simp_all [cut?]
    | cons c text =>
      have starts : part.isPrefixOf (c :: text) = true :=
        List.isPrefixOf_iff_prefix.mpr ⟨after, whole⟩
      simp [whole, cut?, starts]
  | cons c before ih =>
    rw [List.cons_append, List.cons_append, cut?]
    split
    · rfl
    · rwa [Option.isSome_map]

end Occurrences

/-! ### Blanks around a text -/

/-- A run of blanks, which may be empty. -/
def IsGap (cs : List Char) : Prop := ∀ c ∈ cs, isBlank c = true

instance (cs : List Char) : Decidable (IsGap cs) :=
  decidable_of_iff (cs.all isBlank) List.all_eq_true

variable {before after : List Char}

theorem trimChars_gap_append (gap : IsGap before) (text : List Char) :
    trimChars (before ++ text) = trimChars text := by
  induction before with
  | nil => rfl
  | cons c before ih =>
    obtain ⟨blank, gap⟩ := List.forall_mem_cons.mp gap
    rw [List.cons_append, trimChars_blank_cons blank, ih gap]

theorem trimChars_append_gap (gap : IsGap after) (text : List Char) :
    trimChars (text ++ after) = trimChars text := by
  have backwards : ∀ c ∈ after.reverse, isBlank c = true := fun c hc =>
    gap c (List.mem_reverse.mp hc)
  rw [trimChars, trimChars, dropEndWhile, dropEndWhile, List.dropWhile_append]
  split
  next none =>
    rw [List.dropWhile_eq_nil_iff.mpr gap, List.isEmpty_iff.mp none]
  · rw [List.reverse_append, List.dropWhile_append_of_pos backwards]

/-- What is trimmed off are blanks. -/
theorem exists_trimChars (cs : List Char) :
    ∃ before after, IsGap before ∧ IsGap after ∧ cs = before ++ trimChars cs ++ after := by
  refine ⟨cs.takeWhile isBlank, (cs.dropWhile isBlank).rtakeWhile isBlank,
    fun _ => List.mem_takeWhile_imp, fun _ => List.mem_rtakeWhile_imp, ?_⟩
  rw [trimChars, dropEndWhile_eq, List.append_assoc, List.rdropWhile_append_rtakeWhile,
    List.takeWhile_append_dropWhile]

theorem trimChars_eq_nil_iff {cs : List Char} : trimChars cs = [] ↔ IsGap cs := by
  constructor
  · intro nothing
    obtain ⟨before, after, gap, gap', whole⟩ := exists_trimChars cs
    rw [nothing, List.append_nil] at whole
    rw [whole]
    exact List.forall_mem_append.mpr ⟨gap, gap'⟩
  · intro gap
    rw [← List.append_nil cs, trimChars_gap_append gap]
    rfl

/-- A text between characters that are no blanks has nothing to trim. -/
theorem trimChars_between {a b : Char} (visible : isBlank a = false) (visible' : isBlank b = false)
    (inner : List Char) : trimChars (a :: (inner ++ [b])) = a :: (inner ++ [b]) := by
  rw [trimChars, List.dropWhile_cons_of_neg (by simp [visible]), dropEndWhile_eq,
    ← List.cons_append, List.rdropWhile_concat_neg _ _ _ (by simp [visible'])]

/-! ### Parts between separators -/

section splitWhere

variable {α : Type} {p : α → Bool} {xs ys zs piece : List α}

/-- What holds no separators goes on with the last part. -/
theorem exists_splitWhere_append (whole : ∀ y ∈ ys, p y = false) (xs : List α) :
    ∃ pieces last, splitWhere p xs = pieces ++ [last] ∧
      splitWhere p (xs ++ ys) = pieces ++ [last ++ ys] := by
  induction xs with
  | nil => exact ⟨[], [], rfl, splitWhere_of_forall whole⟩
  | cons x xs ih =>
    obtain ⟨pieces, last, short, long⟩ := ih
    by_cases separator : p x = true
    · exact ⟨[] :: pieces, last, by simp [splitWhere, separator, short],
        by simp [splitWhere, separator, long]⟩
    cases pieces with
    | nil =>
      exact ⟨[], x :: last, by simp_all [splitWhere], by simp_all [splitWhere]⟩
    | cons piece pieces =>
      exact ⟨(x :: piece) :: pieces, last, by simp_all [splitWhere], by simp_all [splitWhere]⟩

theorem eq_nil_of_mem_splitWhere (all : ∀ x ∈ xs, p x = true) (listed : piece ∈ splitWhere p xs) :
    piece = [] := by
  induction xs with
  | nil => simpa [splitWhere] using listed
  | cons x xs ih =>
    obtain ⟨first, all⟩ := List.forall_mem_cons.mp all
    rw [splitWhere, if_pos first] at listed
    rcases List.mem_cons.mp listed with rfl | later
    · rfl
    · exact ih all later

/-- Separators around a text add empty parts only. -/
theorem mem_splitWhere_of_around (before : ∀ x ∈ xs, p x = true) (after : ∀ z ∈ zs, p z = true)
    (listed : piece ∈ splitWhere p (xs ++ ys ++ zs)) : piece = [] ∨ piece ∈ splitWhere p ys := by
  induction xs with
  | nil =>
    cases zs with
    | nil => exact .inr (by simpa using listed)
    | cons z zs =>
      obtain ⟨first, after⟩ := List.forall_mem_cons.mp after
      rw [List.nil_append, splitWhere_append_cons first] at listed
      rcases List.mem_append.mp listed with inside | late
      · exact .inr inside
      · exact .inl (eq_nil_of_mem_splitWhere after late)
  | cons x xs ih =>
    obtain ⟨first, before⟩ := List.forall_mem_cons.mp before
    rw [List.cons_append, List.cons_append, splitWhere, if_pos first] at listed
    rcases List.mem_cons.mp listed with rfl | later
    · exact .inl rfl
    · exact ih before later

/-- What stands between two separators, or behind the last one, is a part. -/
theorem mem_splitWhere_of_between {x : α} (separator : p x = true) (whole : ∀ y ∈ ys, p y = false)
    (stops : ∀ z ∈ zs.head?, p z = true) : ys ∈ splitWhere p (xs ++ x :: (ys ++ zs)) := by
  rw [splitWhere_append_cons separator]
  refine List.mem_append_right _ ?_
  cases zs with
  | nil => rw [List.append_nil, splitWhere_of_forall whole]; exact List.mem_singleton_self ys
  | cons z zs =>
    rw [splitWhere_append_cons (stops z rfl), splitWhere_of_forall whole]
    exact List.mem_cons_self

end splitWhere

end ComponentMarkup
