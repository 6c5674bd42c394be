import ComponentMarkup.Directive
import Mathlib.Data.List.Induction

/-!
# Conditional chains

Scheduling reads the children of a node from left to right and remembers of a chain only whether one
is open, and if so whether a member of it may still be rendered. Here a chain is the list of its
conditions so far. Which chain is open at a child does not depend on any data, and what becomes of
the child depends on the children before it only through that chain. So scheduling decides child by
child, whatever tests the conditions.

## Main definitions

* `chainAfter`, `openChain` — the chain that is open after a child, and after several
* `isLaterMember` — a child that needs an open chain
* `stateOf`, `stateAfter` — what is known of a chain, and of the one that is open after some
  children
* `ownVerdict` — what becomes of a child if no chain decides
* `decided` — what becomes of a child in a state of the chain

## Main results

* `scheduleChildBy_eq`, `scheduleFromBy_cons` — a step of scheduling, from the state that the
  children before lead to
-/

namespace ComponentMarkup

open Markup (Node)

variable {ε : Type} {orphan : String → ε} {test : String → Except ε Bool} {es : List String}
  {n : Node}

/-! ### Chains -/

/-- Comments and blank texts. -/
def isIdle (n : Node) : Bool := n.isComment || n.isBlank

/-- The chain that is open after a child, as the list of its conditions; none if no chain is. -/
def chainAfter (chain : Option (List String)) (n : Node) : Option (List String) :=
  if isIdle n then chain
  else match conditionOf? n with
    | some (.first e) => if n.hasAttribute "webc:for" then none else some [e]
    | some (.next e) => chain.map (· ++ [e])
    | some .last => none
    | none => none

/-- The chain that is open after several children. -/
def openChain (ns : List Node) : Option (List String) := ns.foldl chainAfter none

@[simp] theorem openChain_nil : openChain [] = none := rfl

@[simp] theorem openChain_concat (ns : List Node) (n : Node) :
    openChain (ns ++ [n]) = chainAfter (openChain ns) n := by
  simp [openChain]

/-- Whether a child belongs to a chain that was opened before it. -/
def isLaterMember (n : Node) : Bool :=
  match conditionOf? n with
  | some (.next _) => true
  | some .last => true
  | _ => false

/-- The directive that makes a child a later member of a chain. -/
def laterDirective (n : Node) : String :=
  match conditionOf? n with
  | some .last => "webc:else"
  | _ => "webc:elseif"

/-- Comments and texts have no conditions. -/
theorem conditionOf?_of_isIdle (idle : isIdle n = true) : conditionOf? n = none := by
  cases n with
  | comment value => rfl
  | text value => rfl
  | _ => exact nomatch idle

/-! ### What is known of a chain -/

/-- Whether a condition was evaluated and does not hold. -/
def isRefusal : Except ε Bool → Bool
  | .ok false => true
  | _ => false

@[simp] theorem isRefusal_iff {r : Except ε Bool} : isRefusal r = true ↔ r = .ok false := by
  rcases r with _ | _ | _ <;> simp [isRefusal]

/-- What is known of a chain, by its conditions. -/
def stateOf (test : String → Except ε Bool) : Option (List String) → ChainState
  | none => .closed
  | some es => if es.all fun e => isRefusal (test e) then .pending else .settled

/-- What is known of the chain that is open after some nodes. -/
def stateAfter (test : String → Except ε Bool) (before : List Node) : ChainState :=
  stateOf test (openChain before)

theorem stateAfter_nil : stateAfter test [] = .closed := rfl

theorem stateOf_some (es : List String) :
    stateOf test (some es) =
      if es.all fun e => isRefusal (test e) then .pending else .settled := rfl

theorem stateOf_some_ne_closed : stateOf test (some es) ≠ .closed := by
  rw [stateOf_some]
  split <;> simp

/-- A chain stays undecided with a further condition if that is refused as well. -/
theorem stateOf_concat (es : List String) (e : String) :
    stateOf test (some (es ++ [e])) =
      if isRefusal (test e) then stateOf test (some es) else .settled := by
  rw [stateOf_some, stateOf_some, List.all_append, List.all_cons, List.all_nil, Bool.and_true]
  cases isRefusal (test e) with
  | true => rw [Bool.and_true, if_pos rfl]
  | false => rw [Bool.and_false, if_neg Bool.false_ne_true, if_neg Bool.false_ne_true]

/-- The state after a condition that is tested while all before it are refused. -/
theorem map_after_test (undecided : stateOf test (some es) = .pending) (e : String) :
    (test e).map (fun passed => (passed, ChainState.after passed)) =
      (test e).map fun passed => (passed, stateOf test (some (es ++ [e]))) := by
  rw [stateOf_concat, undecided]
  cases test e with
  | error error => rfl
  | ok passed => cases passed <;> rfl

/-! ### A step of scheduling -/

/-- What becomes of a child if no chain decides: its own condition does. -/
def ownVerdict (test : String → Except ε Bool) (n : Node) : Except ε Bool :=
  match conditionOf? n with
  | some (.first e) => if n.hasAttribute "webc:for" then .ok true else test e
  | some (.next e) => test e
  | some .last => .ok true
  | none => .ok true

/-- Each condition of a chain that is open after some children is the own condition of one. -/
theorem exists_ownVerdict_eq {ns : List Node} {e : String} (opened : openChain ns = some es)
    (listed : e ∈ es) : ∃ n ∈ ns, ∀ test : String → Except ε Bool, ownVerdict test n = test e := by
  induction ns using List.reverseRecOn generalizing es with
  | nil => exact nomatch opened
  | append_singleton ns n ih =>
    rw [openChain_concat, chainAfter] at opened
    have older (es' : List String) (opened : openChain ns = some es') (listed : e ∈ es') :
        ∃ m ∈ ns ++ [n], ∀ test : String → Except ε Bool, ownVerdict test m = test e := by
      obtain ⟨m, hm, own⟩ := ih opened listed
      exact ⟨m, List.mem_append_left _ hm, own⟩
    by_cases idle : isIdle n = true
    · rw [if_pos idle] at opened
      exact older es opened listed
    · rw [if_neg idle] at opened
      rcases found : conditionOf? n with _ | (e' | e' | _)
      · simp [found] at opened
      · by_cases loops : n.hasAttribute "webc:for" = true
        · simp [found, loops] at opened
        · obtain rfl : [e'] = es := by simpa [found, loops] using opened
          obtain rfl := List.mem_singleton.mp listed
          exact ⟨n, by simp, fun test => by simp [ownVerdict, found, loops]⟩
      · obtain ⟨es', before, rfl⟩ : ∃ es', openChain ns = some es' ∧ es' ++ [e'] = es := by
          simpa [found] using opened
        rcases List.mem_append.mp listed with listed | listed
        · exact older es' before listed
        · obtain rfl := List.mem_singleton.mp listed
          exact ⟨n, by simp, fun test => by simp [ownVerdict, found]⟩
      · simp [found] at opened

/-- What becomes of a child in a state of the chain. -/
def decided (orphan : String → ε) (test : String → Except ε Bool) (chain : ChainState) (n : Node) :
    Except ε Bool :=
  if isLaterMember n then
    match chain with
    | .closed => .error (orphan (laterDirective n))
    | .settled => .ok false
    | .pending => ownVerdict test n
  else ownVerdict test n

/-- A step of scheduling leads from the state after some children to the state after one more. -/
theorem scheduleChildBy_eq (orphan : String → ε) (test : String → Except ε Bool)
    (before : List Node) (n : Node) :
    scheduleChildBy orphan test (stateAfter test before) n =
      (decided orphan test (stateAfter test before) n).map fun kept =>
        (kept, stateAfter test (before ++ [n])) := by
  unfold scheduleChildBy decided isLaterMember laterDirective ownVerdict stateAfter
  rw [openChain_concat, chainAfter]
  by_cases idle : isIdle n = true
  · rw [conditionOf?_of_isIdle idle]
    simp only [if_pos idle, if_pos (show (n.isComment || n.isBlank) = true from idle)]
    rfl
  · simp only [if_neg idle, if_neg (show ¬ (n.isComment || n.isBlank) = true from idle)]
    cases conditionOf? n with
    | none => rfl
    | some condition =>
      cases condition with
      | first e =>
        -- A node that loops opens no chain, any other first member one with its condition.
        by_cases loops : n.hasAttribute "webc:for" = true
        · simp only [if_pos loops]
          rfl
        · simp only [if_neg loops]
          have undecided : stateOf test (some []) = .pending := rfl
          exact map_after_test undecided e
      | next e =>
        cases openChain before with
        | none => rfl
        | some es =>
          -- After a member that is rendered the condition is not even evaluated.
          cases known : stateOf test (some es) with
          | closed => exact absurd known stateOf_some_ne_closed
          | pending => exact map_after_test known e
          | settled => simp [stateOf_concat, known, pure, Except.pure, Except.map]
      | last => cases stateOf test (openChain before) <;> rfl

/-- Scheduling decides on a child by the chain that it finds open. -/
theorem scheduleFromBy_cons (orphan : String → ε) (test : String → Except ε Bool)
    (before : List Node) (n : Node) (ns : List Node) :
    scheduleFromBy orphan test (stateAfter test before) (n :: ns) = (do
      let kept ← decided orphan test (stateAfter test before) n
      let rest ← scheduleFromBy orphan test (stateAfter test (before ++ [n])) ns
      .ok (kept :: rest)) := by
  rw [scheduleFromBy, scheduleChildBy_eq]
  cases decided orphan test (stateAfter test before) n <;> rfl

end ComponentMarkup
