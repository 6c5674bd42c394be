import ComponentMarkup.Proofs.Directive.Chain
import Mathlib.Data.List.Induction

/-!
# Which children are rendered

Scheduling goes through the children of a node once and remembers of a chain whether one is open,
and if so whether a member of it has been rendered. Here chains are told from the list of children
alone. A chain is open after some children if one of them opens it and all after that one go on with
it, comments and blank texts left aside. What must be evaluated at a child, whether the child is
rendered and how scheduling fails there follow from the chain before it; and scheduling does all of
that for every child up to the first that fails.

Conditions may be tested by any evaluator. To tell which of them are evaluated at all, the same
scheduling is run with tests that leave a trace.

## Main definitions

* `Evaluator` — what gives expressions their values
* `IsOpenAfter` — the chain that is open after some nodes, by its conditions
* `Tests`, `Keeps`, `Fails` — what must be evaluated at a node, whether it is rendered, and how
  scheduling fails there
* `tracing` — tests that leave a trace
* `IsTestedFrom` — what is tested from a place on, up to the first failure

## Main results

* `scheduleChildren_eq` — the compiler schedules by its own evaluator
* `isOpenAfter_iff` — the chain after some nodes can be found in one pass
* `decided_eq_error_iff`, `decided_eq_true_iff`, `testedAt_eq_some_iff` — what a step of scheduling
  does
* `exists_run_tracing` — the trace of a run
* `scheduleChildrenBy_iff` — which children are rendered, which failure is returned and which
  conditions are evaluated
-/

namespace ComponentMarkup

open Markup (Node)

variable {ε : Type}

/-! ### Evaluators -/

/-- What gives an expression its value over data. How it fails is up to it. -/
abbrev Evaluator (ε : Type) := String → Cascade → Except ε Value

/-- Whether the value of a condition counts as true. -/
def Evaluator.test (evaluator : Evaluator ε) (data : Cascade) (condition : String) :
    Except ε Bool :=
  (evaluator condition data).map Value.isTruthy

/-- The evaluator of the compiler, in a file. -/
def conditionEvaluator (file : String) : Evaluator CompileError := fun condition data =>
  evaluateExpression condition "condition" data file

/-- The compiler schedules children by its own evaluator, and names orphans and their file. -/
theorem scheduleChildren_eq (children : List Node) (data : Cascade) (file : String) :
    scheduleChildren children data file =
      scheduleChildrenBy (CompileError.orphaned · file) ((conditionEvaluator file).test data)
        children := rfl

/-- Tests a condition and leaves a trace of it. -/
def tracing (test : String → Except ε Bool) (e : String) :
    ExceptT ε (StateM (List String)) Bool := do
  modify (· ++ [e])
  MonadExcept.ofExcept (test e)

variable {orphan : String → ε} {test : String → Except ε Bool} {n : Node} {before ns : List Node}
  {es : List String} {chain : ChainState} {e : String} {error : ε}

/-! ### Chains -/

/-- The condition with which a node opens a chain. One that also loops opens none. -/
def opening? (n : Node) : Option String :=
  match conditionOf? n with
  | some (.first e) => if n.hasAttribute "webc:for" then none else some e
  | _ => none

/-- The condition with which a node goes on with a chain. -/
def continuing? (n : Node) : Option String :=
  match conditionOf? n with
  | some (.next e) => some e
  | _ => none

/-- A chain with the conditions `es` is open after some nodes: one of them opens it, and those after
that one are idle or go on with it. -/
def IsOpenAfter (ns : List Node) (es : List String) : Prop :=
  ∃ front n between e, ns = front ++ n :: between ∧ opening? n = some e ∧
    (∀ b ∈ between, isIdle b = true ∨ (continuing? b).isSome) ∧
      es = e :: between.filterMap continuing?

/-- A chain is open after some nodes, and none of its conditions holds. -/
def IsUndecided (test : String → Except ε Bool) (before : List Node) : Prop :=
  ∃ es, IsOpenAfter before es ∧ ∀ e ∈ es, test e = .ok false

/-! ### What happens at a node -/

/-- The condition that must be evaluated at a node that comes after some others. -/
inductive Tests (test : String → Except ε Bool) (before : List Node) (n : Node) : String → Prop
  | opening {e : String} : opening? n = some e → Tests test before n e
  | continuing {e : String} :
    continuing? n = some e → IsUndecided test before → Tests test before n e

/-- A node that comes after some others is rendered. -/
inductive Keeps (test : String → Except ε Bool) (before : List Node) (n : Node) : Prop
  | idle : isIdle n = true → Keeps test before n
  | unconditional : conditionOf? n = none → Keeps test before n
  | looping {e : String} :
    conditionOf? n = some (.first e) → n.hasAttribute "webc:for" = true → Keeps test before n
  | passing {e : String} : Tests test before n e → test e = .ok true → Keeps test before n
  | last : conditionOf? n = some .last → IsUndecided test before → Keeps test before n

/-- Scheduling fails at a node that comes after some others. -/
inductive Fails (orphan : String → ε) (test : String → Except ε Bool) (before : List Node)
    (n : Node) : ε → Prop
  | continuing {e : String} : continuing? n = some e → (∀ es, ¬ IsOpenAfter before es) →
    Fails orphan test before n (orphan "webc:elseif")
  | last : conditionOf? n = some .last → (∀ es, ¬ IsOpenAfter before es) →
    Fails orphan test before n (orphan "webc:else")
  | condition {e : String} {error : ε} : Tests test before n e → test e = .error error →
    Fails orphan test before n error

/-! ### The chain after some nodes -/

/-- The chain that is open after one more node is one that the node opens, or the one that was open,
if the node is idle or goes on with it. -/
theorem isOpenAfter_concat :
    IsOpenAfter (ns ++ [n]) es ↔
      (∃ e, opening? n = some e ∧ es = [e]) ∨
        ∃ es', IsOpenAfter ns es' ∧ (isIdle n = true ∨ (continuing? n).isSome) ∧
          es = es' ++ (continuing? n).toList := by
  constructor
  · rintro ⟨front, first, between, e, split, opens, others, rfl⟩
    rcases List.eq_nil_or_concat between with rfl | ⟨between, last, rfl⟩
    · obtain ⟨rfl, same⟩ := List.append_inj' split rfl
      obtain rfl := List.singleton_inj.mp same
      exact .inl ⟨e, opens, rfl⟩
    · rw [List.concat_eq_append] at others ⊢
      rw [List.concat_eq_append, ← List.cons_append, ← List.append_assoc] at split
      obtain ⟨rfl, same⟩ := List.append_inj' split rfl
      obtain rfl := List.singleton_inj.mp same
      refine .inr ⟨_, ⟨front, first, between, e, rfl, opens, fun b hb => ?_, rfl⟩, ?_, ?_⟩
      · exact others b (List.mem_append_left _ hb)
      · exact others n (List.mem_append_right _ (List.mem_singleton_self n))
      · cases continued : continuing? n <;> simp [continued]
  · rintro (⟨e, opens, rfl⟩ | ⟨_, ⟨front, first, between, e, rfl, opens, others, rfl⟩, goesOn, rfl⟩)
    · exact ⟨ns, n, [], e, rfl, opens, nofun, rfl⟩
    · refine ⟨front, first, between ++ [n], e, by simp, opens, fun b hb => ?_, ?_⟩
      · rcases List.mem_append.mp hb with hb | hb
        · exact others b hb
        · rw [List.mem_singleton.mp hb]
          exact goesOn
      · cases continued : continuing? n <;> simp [continued]

theorem chainAfter_eq_some_iff {open? : Option (List String)} :
    chainAfter open? n = some es ↔
      (∃ e, opening? n = some e ∧ es = [e]) ∨
        ∃ es', open? = some es' ∧ (isIdle n = true ∨ (continuing? n).isSome) ∧
          es = es' ++ (continuing? n).toList := by
  by_cases idle : isIdle n = true
  · have none := conditionOf?_of_isIdle idle
    have same : chainAfter open? n = open? := if_pos idle
    simp [same, opening?, continuing?, none, idle]
  · unfold chainAfter opening? continuing?
    rw [if_neg idle]
    cases conditionOf? n with
    | none => simp [idle]
    | some condition =>
      cases condition with
      | first e => by_cases loops : n.hasAttribute "webc:for" = true <;> simp [idle, loops, eq_comm]
      | next e => cases open? <;> simp [@eq_comm _ es]
      | last => simp [idle]

/-- The chain that is open after some nodes can be found in one pass. -/
theorem isOpenAfter_iff : IsOpenAfter ns es ↔ openChain ns = some es := by
  induction ns using List.reverseRecOn generalizing es with
  | nil =>
    refine iff_of_false (fun ⟨front, n, between, e, split, _⟩ => ?_) nofun
    simp at split
  | append_singleton ns n ih =>
    rw [isOpenAfter_concat, openChain_concat, chainAfter_eq_some_iff]
    simp only [ih]

/-! ### The state after some nodes -/

theorem stateAfter_eq_closed_iff :
    stateAfter test before = .closed ↔ ∀ es, ¬ IsOpenAfter before es := by
  simp only [isOpenAfter_iff, stateAfter]
  cases openChain before with
  | none => simp [stateOf]
  | some es =>
    simp only [stateOf]
    split <;> simp

theorem stateAfter_eq_pending_iff :
    stateAfter test before = .pending ↔ IsUndecided test before := by
  simp only [IsUndecided, isOpenAfter_iff, stateAfter]
  cases openChain before with
  | none => simp [stateOf]
  | some es => simp [stateOf]

/-! ### What a step does

A node has no condition, or opens a chain, or loops, or goes on with a chain, or ends one. -/

theorem opening?_eq_some_iff :
    opening? n = some e ↔
      conditionOf? n = some (.first e) ∧ n.hasAttribute "webc:for" = false := by
  unfold opening?
  rcases conditionOf? n with _ | condition
  · simp
  · cases condition <;> simp [and_comm]

theorem continuing?_eq_some_iff : continuing? n = some e ↔ conditionOf? n = some (.next e) := by
  unfold continuing?
  rcases conditionOf? n with _ | condition
  · simp
  · cases condition <;> simp

theorem decided_of_none (none : conditionOf? n = none) :
    decided orphan test chain n = .ok true := by
  simp [decided, isLaterMember, ownVerdict, none]

theorem decided_of_first (found : conditionOf? n = some (.first e)) :
    decided orphan test chain n = if n.hasAttribute "webc:for" then .ok true else test e := by
  simp [decided, isLaterMember, ownVerdict, found]

theorem decided_of_next (found : conditionOf? n = some (.next e)) :
    decided orphan test chain n = match chain with
      | .closed => .error (orphan "webc:elseif")
      | .settled => .ok false
      | .pending => test e := by
  cases chain <;> simp [decided, isLaterMember, laterDirective, ownVerdict, found]

theorem decided_of_last (found : conditionOf? n = some .last) :
    decided orphan test chain n = match chain with
      | .closed => .error (orphan "webc:else")
      | .settled => .ok false
      | .pending => .ok true := by
  cases chain <;> simp [decided, isLaterMember, laterDirective, ownVerdict, found]

/-- Scheduling fails at a node for a reason that the nodes before it give. -/
theorem decided_eq_error_iff :
    decided orphan test (stateAfter test before) n = .error error ↔
      Fails orphan test before n error := by
  constructor
  · intro failed
    rcases found : conditionOf? n with _ | (e | e | _)
    · rw [decided_of_none found] at failed
      exact nomatch failed
    · rw [decided_of_first found] at failed
      split at failed
      · exact nomatch failed
      · rename_i loops
        exact .condition (.opening (opening?_eq_some_iff.mpr ⟨found, by simpa using loops⟩)) failed
    · rw [decided_of_next found] at failed
      have continued := continuing?_eq_some_iff.mpr found
      cases known : stateAfter test before with
      | closed =>
        rw [known] at failed
        obtain rfl := Except.error.inj failed
        exact .continuing continued (stateAfter_eq_closed_iff.mp known)
      | pending =>
        rw [known] at failed
        exact .condition (.continuing continued (stateAfter_eq_pending_iff.mp known)) failed
      | settled =>
        rw [known] at failed
        exact nomatch failed
    · rw [decided_of_last found] at failed
      cases known : stateAfter test before with
      | closed =>
        rw [known] at failed
        obtain rfl := Except.error.inj failed
        exact .last found (stateAfter_eq_closed_iff.mp known)
      | _ =>
        rw [known] at failed
        exact nomatch failed
  · rintro (⟨continued, none⟩ | ⟨found, none⟩ | ⟨opens | ⟨continued, undecided⟩, failed⟩)
    · rw [decided_of_next (continuing?_eq_some_iff.mp continued),
        stateAfter_eq_closed_iff.mpr none]
    · rw [decided_of_last found, stateAfter_eq_closed_iff.mpr none]
    · obtain ⟨found, single⟩ := opening?_eq_some_iff.mp opens
      rw [decided_of_first found, if_neg (Bool.eq_false_iff.mp single), failed]
    · rw [decided_of_next (continuing?_eq_some_iff.mp continued),
        stateAfter_eq_pending_iff.mpr undecided]
      exact failed

/-- A node is rendered for a reason that the nodes before it give. -/
theorem decided_eq_true_iff :
    decided orphan test (stateAfter test before) n = .ok true ↔ Keeps test before n := by
  constructor
  · intro kept
    rcases found : conditionOf? n with _ | (e | e | _)
    · exact .unconditional found
    · rw [decided_of_first found] at kept
      by_cases loops : n.hasAttribute "webc:for" = true
      · exact .looping found loops
      · rw [if_neg loops] at kept
        exact .passing (.opening (opening?_eq_some_iff.mpr ⟨found, by simpa using loops⟩)) kept
    · rw [decided_of_next found] at kept
      cases known : stateAfter test before with
      | pending =>
        rw [known] at kept
        exact .passing (.continuing (continuing?_eq_some_iff.mpr found)
          (stateAfter_eq_pending_iff.mp known)) kept
      | _ =>
        rw [known] at kept
        simp at kept
    · rw [decided_of_last found] at kept
      cases known : stateAfter test before with
      | pending => exact .last found (stateAfter_eq_pending_iff.mp known)
      | _ =>
        rw [known] at kept
        simp at kept
  · rintro (idle | none | ⟨found, loops⟩ | ⟨opens | ⟨continued, undecided⟩, passes⟩ |
      ⟨found, undecided⟩)
    · exact decided_of_none (conditionOf?_of_isIdle idle)
    · exact decided_of_none none
    · rw [decided_of_first found, if_pos loops]
    · obtain ⟨found, single⟩ := opening?_eq_some_iff.mp opens
      rw [decided_of_first found, if_neg (Bool.eq_false_iff.mp single), passes]
    · rw [decided_of_next (continuing?_eq_some_iff.mp continued),
        stateAfter_eq_pending_iff.mpr undecided]
      exact passes
    · rw [decided_of_last found, stateAfter_eq_pending_iff.mpr undecided]

/-- The condition that is tested at a node in a state of the chain. -/
def testedAt (chain : ChainState) (n : Node) : Option String :=
  (opening? n).or (if chain = .pending then continuing? n else none)

theorem testedAt_eq_some_iff :
    testedAt (stateAfter test before) n = some e ↔ Tests test before n e := by
  simp only [testedAt, Option.or_eq_some_iff, Option.ite_none_right_eq_some,
    stateAfter_eq_pending_iff]
  constructor
  · rintro (opens | ⟨-, undecided, continued⟩)
    · exact .opening opens
    · exact .continuing continued undecided
  · rintro (opens | ⟨continued, undecided⟩)
    · exact .inl opens
    · refine .inr ⟨?_, undecided, continued⟩
      simp [opening?, continuing?_eq_some_iff.mp continued]

/-- A step of scheduling that leaves a trace tests the one condition, and does what it does
without. -/
theorem run_scheduleChildBy_tracing (orphan : String → ε) (test : String → Except ε Bool)
    (chain : ChainState) (n : Node) (trace : List String) :
    (scheduleChildBy orphan (tracing test) chain n).run.run trace =
      (scheduleChildBy orphan test chain n, trace ++ (testedAt chain n).toList) := by
  have traced (e : String) :
      ((fun passed => (passed, ChainState.after passed)) <$> tracing test e).run.run trace =
        ((fun passed => (passed, ChainState.after passed)) <$> test e, trace ++ [e]) := by
    unfold tracing
    cases test e <;> rfl
  have untraced : trace = trace ++ [] := (List.append_nil trace).symm
  unfold scheduleChildBy testedAt opening? continuing?
  by_cases idle : (n.isComment || n.isBlank) = true
  · rw [if_pos idle, if_pos idle, conditionOf?_of_isIdle idle, ite_self]
    exact Prod.ext rfl untraced
  · rw [if_neg idle, if_neg idle]
    rcases conditionOf? n with _ | (e | e | _)
    · rw [ite_self]
      exact Prod.ext rfl untraced
    · by_cases loops : n.hasAttribute "webc:for" = true
      · simp only [if_pos loops, ite_self]
        exact Prod.ext rfl untraced
      · simpa [loops] using traced e
    · cases chain with
      | pending => exact traced e
      | _ => exact Prod.ext rfl untraced
    · cases chain <;> exact Prod.ext rfl untraced

/-! ### Whole runs -/

/-- The condition that must be evaluated at the child at a place. -/
def TestsAt (test : String → Except ε Bool) (children : List Node) (i : Nat) (e : String) : Prop :=
  ∃ n, children[i]? = some n ∧ Tests test (children.take i) n e

/-- The child at a place is rendered. -/
def KeepsAt (test : String → Except ε Bool) (children : List Node) (i : Nat) : Prop :=
  ∃ n, children[i]? = some n ∧ Keeps test (children.take i) n

/-- Scheduling fails at the child at a place. -/
def FailsAt (orphan : String → ε) (test : String → Except ε Bool) (children : List Node) (i : Nat)
    (error : ε) : Prop :=
  ∃ n, children[i]? = some n ∧ Fails orphan test (children.take i) n error

theorem testsAt_append_cons :
    TestsAt test (before ++ n :: ns) before.length e ↔ Tests test before n e := by
  simp [TestsAt]

theorem failsAt_append_cons :
    FailsAt orphan test (before ++ n :: ns) before.length error ↔
      Fails orphan test before n error := by
  simp [FailsAt]

/-- Scheduling decides on each child by the state that those before it lead to. -/
theorem scheduleFromBy_eq_mapM (orphan : String → ε) (test : String → Except ε Bool)
    (before ns : List Node) :
    scheduleFromBy orphan test (stateAfter test before) ns =
      (ns.zipIdx before.length).mapM fun p =>
        decided orphan test (stateAfter test ((before ++ ns).take p.2)) p.1 := by
  induction ns generalizing before with
  | nil => rfl
  | cons n ns ih =>
    have later := ih (before ++ [n])
    rw [List.append_assoc, List.length_append] at later
    have here : (before ++ n :: ns).take before.length = before := by simp
    rw [scheduleFromBy_cons, later, List.zipIdx_cons, List.mapM_cons, here]
    rfl

section Trace

variable {α β : Type} {x : ExceptT ε (StateM (List String)) α}
  {f : α → ExceptT ε (StateM (List String)) β} {trace trace' : List String}

theorem run_bind_ok {a : α} (run : x.run.run trace = (.ok a, trace')) :
    (x >>= f).run.run trace = (f a).run.run trace' := by
  rw [ExceptT.run_bind, StateT.run_bind, run]
  rfl

theorem run_bind_error (run : x.run.run trace = (.error error, trace')) :
    (x >>= f).run.run trace = (.error error, trace') := by
  rw [ExceptT.run_bind, StateT.run_bind, run]
  rfl

theorem run_map {g : α → β} {r : Except ε α} (run : x.run.run trace = (r, trace')) :
    (g <$> x).run.run trace = (g <$> r, trace') := by
  rw [ExceptT.run_map, StateT.run_map, run]
  rfl

end Trace

/-- What is tested at a child that comes after some others, with its place. -/
def testedNext (test : String → Except ε Bool) (before : List Node) (n : Node) :
    List (Nat × String) :=
  (testedAt (stateAfter test before) n).toList.map (before.length, ·)

theorem mem_testedNext {i : Nat} (ns : List Node) :
    (i, e) ∈ testedNext test before n ↔
      i = before.length ∧ TestsAt test (before ++ n :: ns) i e := by
  simp only [testedNext, List.mem_map, Option.mem_toList, Prod.mk.injEq]
  constructor
  · rintro ⟨e, tested, rfl, rfl⟩
    exact ⟨rfl, testsAt_append_cons.mpr (testedAt_eq_some_iff.mp tested)⟩
  · rintro ⟨rfl, tests⟩
    exact ⟨e, testedAt_eq_some_iff.mpr (testsAt_append_cons.mp tests), rfl, rfl⟩

theorem pairwise_testedNext : (testedNext test before n).Pairwise (·.1 < ·.1) := by
  unfold testedNext
  cases testedAt (stateAfter test before) n <;> simp

theorem map_snd_testedNext :
    (testedNext test before n).map Prod.snd = (testedAt (stateAfter test before) n).toList := by
  unfold testedNext
  cases testedAt (stateAfter test before) n <;> rfl

/-- From the child at a place on, a condition must be evaluated at a child that no failure comes
before. -/
def IsTestedFrom (orphan : String → ε) (test : String → Except ε Bool) (children : List Node)
    (start i : Nat) (e : String) : Prop :=
  start ≤ i ∧ TestsAt test children i e ∧
    ∀ j < i, start ≤ j → ∀ error, ¬ FailsAt orphan test children j error

/-- Nothing is tested after the child at which scheduling fails. -/
theorem isTestedFrom_of_fails {children : List Node} {start i : Nat}
    (fails : FailsAt orphan test children start error) :
    IsTestedFrom orphan test children start i e ↔ i = start ∧ TestsAt test children i e := by
  constructor
  · rintro ⟨le, tests, earlier⟩
    refine ⟨(Nat.eq_or_lt_of_le le).elim Eq.symm fun lt => ?_, tests⟩
    exact absurd fails (earlier _ lt (Nat.le_refl _) error)
  · rintro ⟨rfl, tests⟩
    exact ⟨Nat.le_refl _, tests, fun j lt le => absurd lt (Nat.not_lt.mpr le)⟩

/-- Where scheduling does not fail at a child, what is tested from there on is tested at the child
or from the next one on. -/
theorem isTestedFrom_of_succeeds {children : List Node} {start i : Nat}
    (succeeds : ∀ error, ¬ FailsAt orphan test children start error) :
    IsTestedFrom orphan test children start i e ↔
      (i = start ∧ TestsAt test children i e) ∨
        IsTestedFrom orphan test children (start + 1) i e := by
  constructor
  · rintro ⟨le, tests, earlier⟩
    rcases Nat.eq_or_lt_of_le le with rfl | beyond
    · exact .inl ⟨rfl, tests⟩
    · exact .inr ⟨beyond, tests, fun j lt le => earlier j lt (Nat.le_of_succ_le le)⟩
  · rintro (⟨rfl, tests⟩ | ⟨later, tests, earlier⟩)
    · exact ⟨Nat.le_refl _, tests, fun j lt le => absurd lt (Nat.not_lt.mpr le)⟩
    · refine ⟨Nat.le_of_succ_le later, tests, fun j lt le => ?_⟩
      rcases Nat.eq_or_lt_of_le le with rfl | beyond
      · exact succeeds
      · exact earlier j lt beyond

/-- The children after one that is decided on leave the trace that they leave by themselves. -/
theorem run_scheduleFromBy_tracing_cons {orphan : String → ε} {test : String → Except ε Bool}
    {state state' : ChainState} {kept : Bool} {trace trace' trace'' : List String}
    (step : (scheduleChildBy orphan (tracing test) state n).run.run trace =
      (.ok (kept, state'), trace'))
    (rest : (scheduleFromBy orphan (tracing test) state' ns).run.run trace' =
      (scheduleFromBy orphan test state' ns, trace'')) :
    (scheduleFromBy orphan (tracing test) state (n :: ns)).run.run trace =
      ((kept :: ·) <$> scheduleFromBy orphan test state' ns, trace'') := by
  rw [scheduleFromBy, run_bind_ok step]
  simpa only [bind_pure_comp] using run_map rest

/-- Scheduling that leaves a trace tests the conditions that must be evaluated, in order, up to the
first failure, and has the outcome that it has without. -/
theorem exists_run_tracing (orphan : String → ε) (test : String → Except ε Bool)
    (before ns : List Node) (trace : List String) :
    ∃ tested : List (Nat × String), tested.Pairwise (·.1 < ·.1) ∧
      (∀ i e, (i, e) ∈ tested ↔
        IsTestedFrom orphan test (before ++ ns) before.length i e) ∧
      (scheduleFromBy orphan (tracing test) (stateAfter test before) ns).run.run trace =
        (scheduleFromBy orphan test (stateAfter test before) ns,
          trace ++ tested.map Prod.snd) := by
  induction ns generalizing before trace with
  | nil =>
    refine ⟨[], .nil, fun i e => ?_, Prod.ext rfl (List.append_nil trace).symm⟩
    refine iff_of_false List.not_mem_nil ?_
    rintro ⟨beyond, ⟨n, listed, -⟩, -⟩
    rw [List.append_nil] at listed
    exact absurd (List.getElem?_eq_some_iff.mp listed).1 (Nat.not_lt.mpr beyond)
  | cons n ns ih =>
    have step := run_scheduleChildBy_tracing orphan test (stateAfter test before) n trace
    rw [scheduleChildBy_eq, ← map_snd_testedNext] at step
    rw [scheduleFromBy_cons]
    cases outcome : decided orphan test (stateAfter test before) n with
    | error error =>
      rw [outcome] at step
      have fails : FailsAt orphan test (before ++ n :: ns) before.length error :=
        failsAt_append_cons.mpr (decided_eq_error_iff.mp outcome)
      refine ⟨testedNext test before n, pairwise_testedNext, fun i e => ?_, ?_⟩
      · rw [mem_testedNext ns, isTestedFrom_of_fails fails]
      · exact run_bind_error step
    | ok kept =>
      rw [outcome] at step
      have succeeds : ∀ error, ¬ FailsAt orphan test (before ++ n :: ns) before.length error := by
        intro error fails
        have failed := decided_eq_error_iff.mpr (failsAt_append_cons.mp fails)
        cases outcome.symm.trans failed
      obtain ⟨tested, sorted, members, rest⟩ :=
        ih (before ++ [n]) (trace ++ (testedNext test before n).map Prod.snd)
      rw [List.append_assoc, List.length_append] at members
      refine ⟨testedNext test before n ++ tested, ?_, fun i e => ?_, ?_⟩
      · refine List.pairwise_append.mpr ⟨pairwise_testedNext, sorted, ?_⟩
        rintro ⟨i, e⟩ here ⟨j, e'⟩ later
        obtain rfl := ((mem_testedNext ns).mp here).1
        exact ((members j e').mp later).1
      · rw [List.mem_append, mem_testedNext ns, members, isTestedFrom_of_succeeds succeeds]
        rfl
      · rw [run_scheduleFromBy_tracing_cons step rest, List.map_append, List.append_assoc]
        rfl

/-- Whole runs fail for the reason of the first child at which scheduling fails. -/
theorem scheduleFromBy_eq_error_iff (orphan : String → ε) (test : String → Except ε Bool)
    (children : List Node) (error : ε) :
    scheduleFromBy orphan test .closed children = .error error ↔
      ∃ i, FailsAt orphan test children i error ∧
        ∀ j < i, ∀ other, ¬ FailsAt orphan test children j other := by
  have whole := scheduleFromBy_eq_mapM orphan test [] children
  rw [stateAfter_nil] at whole
  rw [whole, Compiled.mapM_eq_error_iff]
  simp only [FailsAt, ← decided_eq_error_iff, List.getElem?_zipIdx, List.length_nil, Nat.zero_add,
    Option.map_eq_some_iff, List.nil_append]
  constructor
  · rintro ⟨i, _, ⟨n, listed, rfl⟩, failed, earlier⟩
    refine ⟨i, ⟨n, listed, failed⟩, ?_⟩
    rintro j lt other ⟨m, listed', failed'⟩
    exact earlier j lt _ ⟨m, listed', rfl⟩ other failed'
  · rintro ⟨i, ⟨n, listed, failed⟩, earlier⟩
    refine ⟨i, _, ⟨n, listed, rfl⟩, failed, ?_⟩
    rintro j lt _ ⟨m, listed', rfl⟩ other failed'
    exact earlier j lt other ⟨m, listed', failed'⟩

open Classical in
/-- Where scheduling fails at no child, it marks those that are rendered. -/
theorem scheduleFromBy_eq_ok {children : List Node}
    (succeeds : ∀ i error, ¬ FailsAt orphan test children i error) :
    scheduleFromBy orphan test .closed children =
      .ok (children.zipIdx.map fun p => decide (KeepsAt test children p.2)) := by
  have whole := scheduleFromBy_eq_mapM orphan test [] children
  rw [stateAfter_nil] at whole
  rw [whole, Compiled.mapM_eq_ok, List.map_map]
  refine List.map_congr_left fun ⟨n, i⟩ listed => ?_
  have place : children[i]? = some n := List.mem_zipIdx_iff_getElem?.mp listed
  show decided orphan test (stateAfter test (children.take i)) n = _
  have keeps : KeepsAt test children i ↔ Keeps test (children.take i) n := by simp [KeepsAt, place]
  cases outcome : decided orphan test (stateAfter test (children.take i)) n with
  | error error => exact absurd ⟨n, place, decided_eq_error_iff.mp outcome⟩ (succeeds i error)
  | ok kept =>
    refine congrArg Except.ok (Bool.eq_iff_iff.mpr ?_)
    show kept = true ↔ decide (KeepsAt test children i) = true
    have rendered : decided orphan test (stateAfter test (children.take i)) n = .ok true ↔
        Keeps test (children.take i) n := decided_eq_true_iff
    rw [outcome, Except.ok.injEq] at rendered
    rw [decide_eq_true_iff, keeps, rendered]

theorem marked_map {α β : Type} (f : α → β) (p : α → Bool) (as : List α) :
    marked (as.map f) (as.map p) = (as.filter p).map f := by
  induction as with
  | nil => rfl
  | cons a as ih => cases kept : p a <;> simp [marked, kept, ih]

open Classical in
/-- Which children of a node are rendered, whatever evaluator tests the conditions. Scheduling fails
exactly if there is a child at which it does, a later member without a chain or a condition that
must be evaluated and has no value, and then for the reason of the first one. Otherwise the children
are rendered that their chains let through, or that belong to none, in order. The conditions that
are evaluated are those that must be, in order, up to the first failure. -/
theorem scheduleChildrenBy_iff (orphan : String → ε) (evaluator : Evaluator ε) (data : Cascade)
    (children : List Node) :
    let test := evaluator.test data
    (∀ error, scheduleChildrenBy orphan test children = .error error ↔
      ∃ i, FailsAt orphan test children i error ∧
        ∀ j < i, ∀ other, ¬ FailsAt orphan test children j other) ∧
      (∀ kept, scheduleChildrenBy orphan test children = .ok kept ↔
        (∀ i error, ¬ FailsAt orphan test children i error) ∧
          kept = (children.zipIdx.filter fun p => decide (KeepsAt test children p.2)).map
            Prod.fst) ∧
      ∃ tested : List (Nat × String), tested.Pairwise (·.1 < ·.1) ∧
        (∀ i e, (i, e) ∈ tested ↔
          TestsAt test children i e ∧
            ∀ j < i, ∀ error, ¬ FailsAt orphan test children j error) ∧
        (scheduleChildrenBy orphan (tracing test) children).run.run [] =
          (scheduleChildrenBy orphan test children, tested.map Prod.snd) := by
  intro test
  have fails_iff : ∀ error, scheduleChildrenBy orphan test children = .error error ↔
      ∃ i, FailsAt orphan test children i error ∧
        ∀ j < i, ∀ other, ¬ FailsAt orphan test children j other := by
    intro error
    rw [← scheduleFromBy_eq_error_iff]
    unfold scheduleChildrenBy
    cases scheduleFromBy orphan test .closed children <;> simp [Functor.map, Except.map]
  have keeps (succeeds : ∀ i error, ¬ FailsAt orphan test children i error) :
      scheduleChildrenBy orphan test children =
        .ok ((children.zipIdx.filter fun p => decide (KeepsAt test children p.2)).map
          Prod.fst) := by
    unfold scheduleChildrenBy
    rw [scheduleFromBy_eq_ok succeeds, ← marked_map, List.zipIdx_map_fst]
    rfl
  refine ⟨fails_iff, fun kept => ⟨fun scheduled => ?_, ?_⟩, ?_⟩
  · have succeeds : ∀ i error, ¬ FailsAt orphan test children i error := by
      intro i
      induction i using Nat.strongRecOn with
      | ind i earlier =>
        intro error fails
        exact nomatch scheduled.symm.trans ((fails_iff error).mpr ⟨i, fails, earlier⟩)
    exact ⟨succeeds, Except.ok.inj (scheduled.symm.trans (keeps succeeds))⟩
  · rintro ⟨succeeds, rfl⟩
    exact keeps succeeds
  · obtain ⟨tested, sorted, members, run⟩ := exists_run_tracing orphan test [] children []
    refine ⟨tested, sorted, fun i e => ?_, ?_⟩
    · rw [members]
      simp [IsTestedFrom]
    · exact run_map run

end ComponentMarkup
