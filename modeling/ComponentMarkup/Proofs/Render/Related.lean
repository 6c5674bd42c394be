import ComponentMarkup.Render.Walk
import Mathlib.Data.List.Forall2

/-!
# Walks that run alike

Two parts of walks are compared from the same start: they fail with the same error, or both give a
result and leave the same knowledge of components and usages behind. The results need not be equal;
a relation says how they go together. Each way to put walks together keeps such a comparison, so
that a comparison of two renderers follows the definition of rendering step by step.

## Main definitions

* `Walk.Related R` — the same failure, or results in relation `R` with the same progress

## Main results

* `Related.bind` — one part after another
* `Related.each` — parts for the elements of a list, in order
* `Related.ite` — a choice that both sides make alike
-/

namespace ComponentMarkup.Walk

variable {α β γ δ ε : Type} {R : α → β → Prop} {S : γ → δ → Prop}

/-- How the outcomes of two parts of walks go together. -/
inductive Matches (R : α → β → Prop) :
    Except Halt (α × Progress) → Except Halt (β × Progress) → Prop
  | ok {a : α} {b : β} (related : R a b) (p : Progress) : Matches R (.ok (a, p)) (.ok (b, p))
  | error (h : Halt) : Matches R (.error h) (.error h)

/-- From any start both walks fail with the same error, or both end with the same progress and
results in relation `R`. -/
structure Related (R : α → β → Prop) (w : Walk α) (v : Walk β) : Prop where
  outcome : ∀ p, Matches R (w p) (v p)

namespace Related

theorem pure {a : α} {b : β} (related : R a b) : Related R (Walk.pure a) (Walk.pure b) :=
  ⟨fun p => .ok related p⟩

/-- A walk runs like itself. -/
theorem refl {R : α → α → Prop} (hrefl : ∀ a, R a a) (w : Walk α) : Related R w w := by
  constructor
  intro p
  cases w p with
  | error h => exact .error h
  | ok r => exact .ok (hrefl r.1) r.2

theorem bind {w : Walk α} {v : Walk β} {f : α → Walk γ} {g : β → Walk δ} (first : Related R w v)
    (next : ∀ a b, R a b → Related S (f a) (g b)) : Related S (Walk.bind w f) (Walk.bind v g) := by
  constructor
  intro p
  have outcome := first.outcome p
  unfold Walk.bind
  generalize w p = r at outcome
  generalize v p = r' at outcome
  cases outcome with
  | ok related q => exact (next _ _ related).outcome q
  | error h => exact .error h

/-- What follows the same walk on both sides. -/
theorem bind_same (w : Walk ε) {f : ε → Walk γ} {g : ε → Walk δ}
    (next : ∀ a, Related S (f a) (g a)) : Related S (Walk.bind w f) (Walk.bind w g) :=
  bind (refl (R := Eq) (fun _ => rfl) w) fun a _ same => same ▸ next a

theorem each {f : ε → Walk α} {g : ε → Walk β} (step : ∀ e, Related R (f e) (g e)) (es : List ε) :
    Related (List.Forall₂ R) (Walk.each f es) (Walk.each g es) := by
  induction es with
  | nil => exact pure .nil
  | cons e es ih =>
    exact bind (step e) fun a b hab => bind ih fun as bs habs => pure (.cons hab habs)

/-- A choice that both sides make alike. -/
theorem ite {c : Prop} [Decidable c] {w w' : Walk α} {v v' : Walk β} (yes : c → Related R w v)
    (no : ¬ c → Related R w' v') : Related R (if c then w else w') (if c then v else v') := by
  by_cases h : c
  · simpa only [if_pos h] using yes h
  · simpa only [if_neg h] using no h

/-- Outcomes that are mapped to the same result are the same. -/
theorem map_eq {w : Walk α} {v : Walk β} (related : Related R w v) {f : α → γ} {g : β → γ}
    (same : ∀ a b, R a b → f a = g b) (p : Progress) :
    (w p).map (fun r => f r.1) = (v p).map (fun r => g r.1) := by
  have outcome := related.outcome p
  generalize w p = r at outcome
  generalize v p = r' at outcome
  cases outcome with
  | ok h q => exact congrArg Except.ok (same _ _ h)
  | error h => rfl

end Related

end ComponentMarkup.Walk
