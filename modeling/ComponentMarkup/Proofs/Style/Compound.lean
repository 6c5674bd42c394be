import ComponentMarkup.Proofs.Style.ClassSelector

/-!
# Reading simple selectors

A simple selector is read from the first parts that are left, whatever stands behind it. So what is
read of some parts is read of them in front of others too, and the others are read behind it.

## Main results

* `simples_append` — simple selectors in front of other parts
* `compound_class` — a class in front of other parts
-/

namespace ComponentMarkup.Style

variable {within : Within} {p q : Progress} {parts rest : List Part} {found : Selector}

theorem part_append {α : Type} {f : Part → Option α} {a : α}
    (h : (part f).run parts = some (a, rest)) (tail : List Part) :
    (part f).run (parts ++ tail) = some (a, rest ++ tail) := by
  cases parts with
  | nil => exact nomatch h
  | cons first more =>
    change (f first).map _ = _ at h
    change (f first).map _ = _
    obtain ⟨b, read, same⟩ := Option.map_eq_some_iff.mp h
    obtain ⟨rfl, rfl⟩ := Prod.mk.inj same
    rw [read]
    rfl

theorem length_lt_of_part {α : Type} {f : Part → Option α} {a : α}
    (h : (part f).run parts = some (a, rest)) : rest.length < parts.length := by
  cases parts with
  | nil => exact nomatch h
  | cons first more =>
    obtain ⟨b, read, same⟩ := Option.map_eq_some_iff.mp (show (f first).map _ = _ from h)
    cases same
    simp

theorem optional_part_cons {α : Type} (f : Part → Option α) (s : Part) (parts : List Part) :
    (optional (part f)).run (s :: parts) =
      some (f s, if (f s).isSome then parts else s :: parts) := by
  change ((((f s).map fun a => (a, parts)).bind fun r => some (some r.1, r.2)).orElse
    fun _ => some (none, s :: parts)) = _
  cases f s <;> rfl

/-- What may be read takes no parts away, and is read no further than it goes. -/
theorem of_optional_part {α : Type} {f : Part → Option α} {s : Part} {a : Option α}
    (h : (optional (part f)).run (s :: parts) = some (a, rest)) :
    rest.length ≤ parts.length + 1 ∧
      ∀ tail, (optional (part f)).run (s :: parts ++ tail) = some (a, rest ++ tail) := by
  rw [optional_part_cons] at h
  cases h
  constructor
  · split <;> simp
  · intro tail
    rw [List.cons_append, optional_part_cons]
    split <;> rfl

/-- A pseudo-class or pseudo-element takes a part at least, and is read no further than it goes. -/
theorem of_pseudo {first : Simple × Progress}
    (h : (pseudo within p).run parts = some (first, rest)) :
    rest.length < parts.length ∧
      ∀ tail, (pseudo within p).run (parts ++ tail) = some (first, rest ++ tail) := by
  unfold pseudo at h ⊢
  simp only [StateT.run_bind, StateT.run_lift, Option.bind_eq_bind, Option.bind_eq_some_iff] at h ⊢
  obtain ⟨⟨double, left⟩, colons, ⟨named, left'⟩, name, r, read, same⟩ := h
  cases same
  cases parts with
  | nil =>
    -- Without a second colon a name comes, so something is left.
    cases colons
    exact nomatch name
  | cons s more =>
    obtain ⟨colonsLength, colonsAppend⟩ := of_optional_part colons
    have shorter : _ < left.length := length_lt_of_part name
    exact ⟨by simp only [List.length_cons]; omega, fun tail =>
      ⟨_, colonsAppend tail, _, part_append name tail, _, read, rfl⟩⟩

/-- A simple selector takes a part at least, and is read no further than it goes. -/
theorem of_simple {next : Simple × Progress}
    (h : (simple within p).run parts = some (some next, rest)) :
    rest.length < parts.length ∧
      ∀ tail, (simple within p).run (parts ++ tail) = some (some next, rest ++ tail) := by
  change simple within p parts = _ at h
  unfold simple at h
  -- By the first parts: an id, a class, a dot alone, an attribute, a colon, `&`, or others.
  split at h
  · split at h <;> cases h
    next noEnd => exact ⟨by simp, fun tail => by simp [simple, noEnd, StateT.run]⟩
  · split at h <;> cases h
    next noEnd =>
      refine ⟨?_, fun tail => by simp [simple, noEnd, StateT.run]⟩
      simp only [List.length_cons]
      omega
  · cases h
  · split at h
    · cases h
    next noEnd =>
      obtain ⟨s, read, same⟩ := Option.map_eq_some_iff.mp h
      cases same
      refine ⟨by simp, fun tail => ?_⟩
      change (if p.ends then none else (attributeTest.run' _).map _) = _
      rw [if_neg noEnd, read]
      rfl
  · obtain ⟨r, read, same⟩ := Option.map_eq_some_iff.mp h
    cases same
    obtain ⟨shorter, further⟩ := of_pseudo read
    refine ⟨shorter.trans (Nat.lt_succ_self _), fun tail => ?_⟩
    exact congrArg (Option.map _) (further tail)
  · cases h
    exact ⟨by simp, fun tail => by simp [simple, StateT.run]⟩
  · cases h

/-- Where no simple selector is read, nothing is taken. -/
theorem simple_none (h : (simple within p).run parts = some (none, rest)) : rest = parts := by
  change simple within p parts = _ at h
  unfold simple at h
  split at h
  · split at h <;> cases h
  · split at h <;> cases h
  · exact nomatch h
  · split at h
    · exact nomatch h
    · obtain ⟨s, read, same⟩ := Option.map_eq_some_iff.mp h
      cases same
  · obtain ⟨r, read, same⟩ := Option.map_eq_some_iff.mp h
    cases same
  · cases h
  · cases h
    rfl

/-- Simple selectors are none, with nothing taken, or a first one and others behind it. -/
theorem of_simples_succ {count : Nat}
    (h : (simples within (count + 1) p).run parts = some ((found, q), rest)) :
    (found = [] ∧ q = p ∧ rest = parts) ∨
      ∃ s p' left more, (simple within p).run parts = some (some (s, p'), left) ∧
        (simples within count p').run left = some ((more, q), rest) ∧ found = s :: more := by
  rw [simples, StateT.run_bind, Option.bind_eq_bind, Option.bind_eq_some_iff] at h
  obtain ⟨⟨next, left⟩, step, h⟩ := h
  cases next with
  | none =>
    obtain rfl := simple_none step
    cases h
    exact .inl ⟨rfl, rfl, rfl⟩
  | some next =>
    simp only [StateT.run_bind, Option.bind_eq_bind, Option.bind_eq_some_iff] at h
    obtain ⟨⟨⟨more, q'⟩, left'⟩, later, same⟩ := h
    cases same
    exact .inr ⟨next.1, next.2, left, more, step, later, rfl⟩

/-- Where simple selectors take all parts, others are read behind them. -/
theorem simples_append_within {count : Nat}
    (read : (simples within count p).run parts = some ((found, q), [])) (k : Nat)
    (tail : List Part) :
    (simples within (found.length + k) p).run (parts ++ tail) =
      ((simples within k q).run tail).map fun r => ((found ++ r.1.1, r.1.2), r.2) := by
  induction count generalizing p parts found with
  | zero =>
    cases read
    simp
  | succ count ih =>
    obtain ⟨rfl, rfl, rfl⟩ | ⟨s, p', left, more, step, later, rfl⟩ := of_simples_succ read
    · simp
    · rw [List.length_cons, Nat.add_right_comm, simples, StateT.run_bind, (of_simple step).2 tail]
      simp [ih later]
      rfl

/-- Simple selectors take a part at least: a larger bound makes no difference. -/
theorem simples_of_lt {count : Nat} (enough : parts.length < count) :
    (simples within count p).run parts = (simples within (parts.length + 1) p).run parts := by
  have same : ∀ count count' p (parts : List Part), parts.length < count → parts.length < count' →
      (simples within count p).run parts = (simples within count' p).run parts := by
    intro count
    induction count with
    | zero => exact fun _ _ _ h => nomatch h
    | succ count ih =>
      intro count' p parts hcount hcount'
      obtain ⟨count', rfl⟩ : ∃ k, count' = k + 1 := ⟨count' - 1, by omega⟩
      rw [simples, simples, StateT.run_bind, StateT.run_bind]
      cases step : (simple within p).run parts with
      | none => rfl
      | some result =>
        obtain ⟨next, left⟩ := result
        cases next with
        | none => rfl
        | some next =>
          have shorter := (of_simple step).1
          simp only [Option.bind_eq_bind, Option.bind_some, StateT.run_bind,
            ih count' next.2 left (by omega) (by omega)]
  exact same count _ p parts enough (Nat.lt_succ_self _)

/-- No more simple selectors are found than there are parts. -/
theorem length_le_of_simples {count : Nat}
    (read : (simples within count p).run parts = some ((found, q), rest)) :
    found.length + rest.length ≤ parts.length := by
  induction count generalizing p parts found with
  | zero =>
    cases read
    simp
  | succ count ih =>
    obtain ⟨rfl, rfl, rfl⟩ | ⟨s, p', left, more, step, later, rfl⟩ := of_simples_succ read
    · simp
    · have shorter := (of_simple step).1
      have others := ih later
      rw [List.length_cons]
      omega

/-- Where simple selectors take all parts, others are read behind them. -/
theorem simples_append
    (read : (simples within (parts.length + 1) p).run parts = some ((found, q), []))
    (tail : List Part) :
    (simples within ((parts ++ tail).length + 1) p).run (parts ++ tail) =
      ((simples within (tail.length + 1) q).run tail).map
        fun r => ((found ++ r.1.1, r.1.2), r.2) := by
  have shorter := length_le_of_simples read
  have more := simples_append_within read (parts.length - found.length + (tail.length + 1)) tail
  have longer : tail.length < parts.length - found.length + (tail.length + 1) := by omega
  rw [simples_of_lt longer] at more
  have bound : (parts ++ tail).length + 1 =
      found.length + (parts.length - found.length + (tail.length + 1)) := by
    simp only [List.length_nil, List.length_append] at shorter ⊢
    omega
  rw [bound, more]

/-- Where parts start with a class, an element is asked for that class, and for what is read behind
it. -/
theorem compound_class {dot source : List Char} {name : String} (noEnd : p.ends = false)
    (tail : List Part) :
    (compound within p).run (.token (.delim '.') dot :: .token (.ident name) source :: tail) =
      ((simples within (tail.length + 1) p).run tail).map
        fun r => ((.classed name :: r.1.1, r.1.2), r.2) := by
  have first : (simple within p).run
      (.token (.delim '.') dot :: .token (.ident name) source :: tail) =
        some (some (.classed name, p), tail) := by
    change (if p.ends then none else _) = _
    rw [noEnd]
    rfl
  rw [compound_of_untyped rfl rfl rfl, simples, StateT.run_bind, first]
  simp only [Option.bind_eq_bind, Option.bind_some, StateT.run_bind, List.length_cons]
  cases (simples within (tail.length + 1) p).run tail <;> rfl

end ComponentMarkup.Style
