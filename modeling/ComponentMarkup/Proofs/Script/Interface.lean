import ComponentMarkup.Attribute
import ComponentMarkup.Proofs.Script.Dependence
import Mathlib.Data.List.Basic

/-!
# Free names as an interface

The free names of an expression are those that it reads and that are bound nowhere in it. A name
that is bound in one place and demanded of the data in another is no free name, although the value
depends on it. Apart from such names, free names are all that a value depends on.

## Main definitions

* `Expr.overlooked` — the names that are demanded of the data but are no free names

## Main results

* `evaluateExpression_eq_of_agree` — free names and overlooked names are all that a value depends on
* `exists_evaluateExpression_ne` — a value that depends on a name that is not free
-/

namespace ComponentMarkup

namespace Script

/-- The names that an expression demands of the data although it binds them somewhere else. -/
def Expr.overlooked (e : Expr) : List String :=
  (e.demands []).filterMap fun x => match x with
    | .name id =>
      if e.mentions.contains (.bound id) && !evaluatorNames.contains id then some id else none
    | .data => none

variable {e : Expr} {id : String} {names : List String} {d₁ d₂ : Cascade}

theorem mem_overlooked : id ∈ e.overlooked ↔
    .name id ∈ e.demands [] ∧ .bound id ∈ e.mentions ∧ id ∉ evaluatorNames := by
  unfold Expr.overlooked
  rw [List.mem_filterMap]
  constructor
  · rintro ⟨x, demanded, found⟩
    cases x with
    | name other =>
      simp only [Option.ite_none_right_eq_some, Bool.and_eq_true, List.contains_iff_mem] at found
      obtain ⟨⟨isBound, foreign⟩, same⟩ := found
      obtain rfl : other = id := Option.some.inj same
      exact ⟨demanded, isBound, by simpa using foreign⟩
    | data => exact nomatch found
  · rintro ⟨demanded, isBound, foreign⟩
    exact ⟨.name id, demanded, by simp [isBound, foreign]⟩

theorem mem_freeOf {mentions : List Mention} : id ∈ freeOf mentions ↔
    .read id ∈ mentions ∧ .bound id ∉ mentions ∧ id ∉ evaluatorNames := by
  unfold freeOf
  rw [List.mem_eraseDups, List.mem_filterMap]
  constructor
  · rintro ⟨m, listed, found⟩
    cases m with
    | read other =>
      simp only [Option.ite_none_left_eq_some, Bool.or_eq_true, List.contains_iff_mem] at found
      obtain ⟨free, same⟩ := found
      obtain rfl : other = id := Option.some.inj same
      exact ⟨listed, fun isBound => free (.inl isBound), fun provided => free (.inr provided)⟩
    | bound other => exact nomatch found
  · rintro ⟨isRead, unbound, foreign⟩
    exact ⟨.read id, isRead, by simp [unbound, foreign]⟩

/-- What an expression demands of the data is a free name, an overlooked one, or provided by the
evaluator. -/
theorem mem_freeOf_or_overlooked (demanded : .name id ∈ e.demands [])
    (foreign : id ∉ evaluatorNames) :
    id ∈ freeOf e.mentions ∨ id ∈ e.overlooked := by
  by_cases isBound : .bound id ∈ e.mentions
  · exact .inr (mem_overlooked.mpr ⟨demanded, isBound, foreign⟩)
  · exact .inl (mem_freeOf.mpr ⟨e.areRead_demands [] id demanded, isBound, foreign⟩)

/-- Free names are all that is demanded of the data exactly if no name is overlooked. -/
theorem freeOf_covers_iff :
    (∀ id, .name id ∈ e.demands [] → id ∉ evaluatorNames → id ∈ freeOf e.mentions) ↔
      e.overlooked = [] := by
  constructor
  · intro covers
    rw [List.eq_nil_iff_forall_not_mem]
    intro id listed
    obtain ⟨demanded, isBound, foreign⟩ := mem_overlooked.mp listed
    exact (mem_freeOf.mp (covers id demanded foreign)).2.1 isBound
  · intro none id demanded foreign
    rcases mem_freeOf_or_overlooked demanded foreign with free | listed
    · exact free
    · rw [none] at listed
      exact nomatch listed

/-- Data that agree on names give the same frame of them. -/
theorem prefetch_congr (agree : ∀ id ∈ names, d₁.get? id = d₂.get? id) :
    prefetch names d₁ = prefetch names d₂ := by
  have pairs : names.filterMap (fun name => (d₁.get? name).map fun v => (name, v)) =
      names.filterMap fun name => (d₂.get? name).map fun v => (name, v) :=
    List.filterMap_congr fun id listed => by rw [agree id listed]
  exact congrArg Entries.ofPairs pairs

/-- The value of an expression without `this` depends on no names but its free and overlooked
ones. -/
theorem evaluate_congr {text : String} (parsed : parseExpression? text = some e)
    (selfless : .data ∉ e.demands []) (helpers : d₁.helpers = d₂.helpers)
    (provided : ∀ id ∈ evaluatorNames, d₁.get? id = none ∧ d₂.get? id = none)
    (free : ∀ id ∈ freeOf e.mentions, d₁.get? id = d₂.get? id)
    (overlooked : ∀ id ∈ e.overlooked, d₁.get? id = d₂.get? id) :
    evaluate text (freeOf e.mentions) d₁ = evaluate text (freeOf e.mentions) d₂ := by
  -- Each demand is provided, free or overlooked, and the data agree on all three.
  have agree : Agree ⟨[], d₁⟩ ⟨[], d₂⟩ (e.demands []) := by
    refine ⟨helpers, fun x demanded => ?_⟩
    cases x with
    | data => exact absurd demanded selfless
    | name id =>
      by_cases foreign : id ∈ evaluatorNames
      · exact (provided id foreign).1.trans (provided id foreign).2.symm
      · rcases mem_freeOf_or_overlooked demanded foreign with isFree | listed
        · exact free id isFree
        · exact overlooked id listed
  unfold evaluate
  rw [parsed, prefetch_congr free]
  exact congrArg (finish .null) (eval_congr (.nil [_]) e agree)

end Script

open Script

/-- An expression without `this` has the same value, or fails with the same error, over data with
the same helpers that give the same for its free names and for those that are overlooked, and
nothing for what the evaluator provides. Free names are all that it demands of the data exactly if
none is overlooked. -/
theorem evaluateExpression_eq_of_agree {source : String} {e : Expr}
    (parsed : parseExpression? source = some e) (selfless : .data ∉ e.demands []) :
    ∃ names, freeNames source = .ok names ∧
      ((∀ id, .name id ∈ e.demands [] → id ∉ evaluatorNames → id ∈ names) ↔ e.overlooked = []) ∧
      ∀ (context file : String) (d₁ d₂ : Cascade), d₁.helpers = d₂.helpers →
        (∀ id ∈ evaluatorNames, d₁.get? id = none ∧ d₂.get? id = none) →
        (∀ id ∈ names, d₁.get? id = d₂.get? id) →
        (∀ id ∈ e.overlooked, d₁.get? id = d₂.get? id) →
        evaluateExpression source context d₁ file = evaluateExpression source context d₂ file := by
  have found : freeNames source = .ok (freeOf e.mentions) := by rw [freeNames, parsed]
  refine ⟨_, found, freeOf_covers_iff, ?_⟩
  intro context file d₁ d₂ helpers provided free overlooked
  have same := evaluate_congr parsed selfless helpers provided free overlooked
  have whole (data : Cascade) : evaluateExpression source context data file =
      if isBlankText source then .ok .null
      else (evaluate source (freeOf e.mentions) data).mapError
        (.evaluation context source file) := by
    rw [evaluateExpression, found]
    rfl
  rw [whole, whole, same]

/-! ### An expression that shows what it reads, and one that does not -/

/-- An expression with a function whose parameter is read in the function only. -/
def labels : String := "items.map(item => item.label + suffix)"

/-- Global data with what the expression reads, and more. -/
def shelf (more : Entries Value) : Cascade :=
  .ofGlobals ([("items", .list [.record [("label", .text "a")]]), ("suffix", .text "!")] ++ more) []

theorem evaluateExpression_eq_of_agree_labels :
    ∃ e, parseExpression? labels = some e ∧ .data ∉ e.demands [] ∧
      freeNames labels = .ok ["items", "suffix"] ∧ e.overlooked = [] ∧
      (∀ id ∈ evaluatorNames,
        (shelf []).get? id = none ∧ (shelf [("item", .null)]).get? id = none) ∧
      evaluateExpression labels "text" (shelf []) "index.webc" =
        evaluateExpression labels "text" (shelf [("item", .null)]) "index.webc" := by
  have read : (parseExpression? labels).map (fun e => (e.demands [], e.overlooked)) =
      some ([.name "items", .name "suffix"], []) := by
    decide +kernel
  have free : freeNames labels = .ok ["items", "suffix"] :=
    Compiled.eq_ok_of_toOption (by decide +kernel)
  obtain ⟨e, parsed, values⟩ := Option.map_eq_some_iff.mp read
  obtain ⟨demands, overlooked⟩ := Prod.mk.inj values
  have selfless : .data ∉ e.demands [] := by simp [demands]
  have provided : ∀ id ∈ evaluatorNames,
      (shelf []).get? id = none ∧ (shelf [("item", .null)]).get? id = none := by
    decide
  obtain ⟨names, found, -, same⟩ := evaluateExpression_eq_of_agree parsed selfless
  obtain rfl : names = ["items", "suffix"] := Except.ok.inj (found.symm.trans free)
  refine ⟨e, parsed, selfless, free, overlooked, provided, ?_⟩
  refine same "text" "index.webc" _ _ rfl provided (fun id listed => ?_) (fun id listed => ?_)
  · rcases List.mem_pair.mp listed with rfl | rfl <;> rfl
  · rw [overlooked] at listed
    exact nomatch listed

/-- An expression with a parameter of the same name as what is read beside the function. -/
def shadowing : String := "[(x => x)('a'), x]"

/-- A value can depend on a name that is no free name: one that is a parameter in one place of the
expression and read from the data in another. -/
theorem exists_evaluateExpression_ne :
    freeNames shadowing = .ok [] ∧
      (parseExpression? shadowing).map Expr.overlooked = some ["x"] ∧
      (∀ id ∈ evaluatorNames, (Cascade.ofGlobals [("x", .text "b")] []).get? id = none ∧
        (Cascade.ofGlobals [] []).get? id = none) ∧
      (evaluateExpression shadowing "text" (.ofGlobals [("x", .text "b")] []) "index.webc").map
        Value.display = .ok "a,b" ∧
      (evaluateExpression shadowing "text" (.ofGlobals [] []) "index.webc").map Value.display =
        .ok "a," :=
  ⟨Compiled.eq_ok_of_toOption (by decide +kernel), by decide +kernel, by decide,
    Compiled.eq_ok_of_toOption (by decide +kernel), Compiled.eq_ok_of_toOption (by decide +kernel)⟩

end ComponentMarkup
