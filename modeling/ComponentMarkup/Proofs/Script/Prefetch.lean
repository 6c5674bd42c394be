import ComponentMarkup.Proofs.Entries
import ComponentMarkup.Proofs.Script.Dependence

/-!
# Names that are looked up beforehand

The evaluator may be given names to look up in the data before an expression runs. Their values make
the outermost frame, and nothing tells the values in it from those that the data gives later: a
frame holds what the data gives, a name that the data does not give has no place in it, and no
expression ever writes it. So the names only say when the data is asked.

## Main results

* `get?_prefetch` — what is looked up beforehand is what the data gives
* `evaluate_eq_evaluate_nil` — no expression can tell which names were looked up beforehand
-/

namespace ComponentMarkup.Script

variable {names : List String} {data : Cascade} {id : String} {v : Value}

/-- What is looked up beforehand is what the data gives. -/
theorem get?_prefetch (found : (prefetch names data).get? id = some v) : data.get? id = some v := by
  have listed := Entries.mem_of_get?_ofPairs found
  obtain ⟨name, _, isGiven⟩ := List.mem_filterMap.mp listed
  obtain ⟨w, given, same⟩ := Option.map_eq_some_iff.mp isGiven
  obtain ⟨rfl, rfl⟩ := Prod.mk.inj same
  exact given

/-- On the frame of what was looked up beforehand, a name means what the data gives. -/
theorem get?_ground (names : List String) (data : Cascade) (id : String) :
    (Scope.mk [prefetch names data] data).get? id = data.get? id := by
  unfold Scope.get?
  rw [List.findSome?_singleton]
  cases found : (prefetch names data).get? id with
  | none => rfl
  | some v => exact (get?_prefetch found).symm

/-- Looking names up beforehand changes no result: an expression has the same value, or fails with
the same error, whichever names were looked up. -/
theorem evaluate_eq_evaluate_nil (text : String) (names : List String) (data : Cascade) :
    evaluate text names data = evaluate text [] data := by
  unfold evaluate
  cases parseExpression? text with
  | none => rfl
  | some e =>
    -- The two grounds give the same for every name, so also for those that the expression demands.
    have agree : Agree ⟨[prefetch names data], data⟩ ⟨[prefetch [] data], data⟩
        (e.demands []) := by
      refine ⟨rfl, fun x _ => ?_⟩
      cases x with
      | name id => exact (get?_ground names data id).trans (get?_ground [] data id).symm
      | data => rfl
    exact congrArg (finish .null) (eval_congr (.nil []) e agree)

end ComponentMarkup.Script
