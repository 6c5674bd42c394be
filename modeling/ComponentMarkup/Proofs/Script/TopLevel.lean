import ComponentMarkup.Error
import ComponentMarkup.Proofs.Script.Binding
import ComponentMarkup.Proofs.Script.Grammar

/-!
# The top level of a script

The bindings of a script are the frame at the bottom of a stack. Blocks put a frame on the stack and
calls put one there for their parameters; each takes its frame away again, and what is declared
above is gone with it. What is left at the bottom are the variables that the script's own
declarations bind, plain or exported, and those in the branches of its conditions that are taken.

They are told by a log. Each declaration that is reached adds its names with their values, which are
evaluated over the bindings before it and nothing else, and the bindings are the dictionary of the
log: a name stands where it was bound first, with the value that it was given last. Without its
blocks and expressions a script has the same bindings.

## Main definitions

* `Scope.pop` — a stack without its innermost frame
* `Stmt.reached`, `Item.reached` — the declarations that are made at the top level
* `Declares`, `Runs` — the log of declarations and of a script
* `Stmt.shell`, `Item.shell` — what is left of a script without its blocks and expressions

## Main results

* `evaluateBindings_topLevel` — the bindings of a script are those of its top level
-/

namespace ComponentMarkup.Script

variable {s s' : Scope} {returned : Option Value}

/-! ### Declarations that are reached -/

mutual

/-- The variables that a statement declares in the frame where it stands: those of a condition are
the ones of the branch that is taken, and those of a block stay in the block. -/
def Stmt.reached (s : Scope) : Stmt → List Declarator
  | .declare ds => ds
  | .cond test consequent alternate =>
    match eval s test with
    | .ok v => if v.isTruthy then consequent.reached s else reachedOption s alternate
    | .error _ => []
  | _ => []
termination_by structural t => t

def reachedOption (s : Scope) : Option Stmt → List Declarator
  | none => []
  | some t => t.reached s
termination_by structural t => t

end

mutual

/-- The names that a statement may declare in the frame where it stands, whatever its conditions. -/
def Stmt.mayDeclare : Stmt → List String
  | .declare ds => ds.flatMap Declarator.names
  | .cond _ consequent alternate => consequent.mayDeclare ++ optionMayDeclare alternate
  | _ => []
termination_by structural t => t

def optionMayDeclare : Option Stmt → List String
  | none => []
  | some t => t.mayDeclare
termination_by structural t => t

end

mutual

/-- What is left of a statement without its blocks and expressions. -/
def Stmt.shell : Stmt → Stmt
  | .declare ds => .declare ds
  | .cond test consequent alternate => .cond test consequent.shell (optionShell alternate)
  | _ => .empty
termination_by structural t => t

def optionShell : Option Stmt → Option Stmt
  | none => none
  | some t => some t.shell
termination_by structural t => t

end

/-- A variable that is declared before others was evaluated, and its pattern bound in the innermost
frame. -/
theorem exists_of_declareAll_cons {target : Pattern} {value : Option Expr} {ds : List Declarator}
    (done : declareAll s (.mk target value :: ds) = .ok s') :
    ∃ v frame, evalOption s value = .ok v ∧ target.bind v s.top = .ok frame ∧
      declareAll (s.withTop frame) ds = .ok s' := by
  obtain ⟨after, first, rest⟩ := Compiled.bind_eq_ok.mp done
  obtain ⟨v, evaluated, bound⟩ := Compiled.bind_eq_ok.mp first
  obtain ⟨frame, accepted, same⟩ := Compiled.bind_eq_ok.mp bound
  obtain rfl : s.withTop frame = after := Except.ok.inj same
  exact ⟨v, frame, evaluated, Compiled.mapError_eq_ok.mp accepted, rest⟩

/-- What gives the scope back leaves the scope that it found. -/
theorem eq_of_givenBack {α : Type} {r : Eval α} (result : α → Option Value)
    (done : (r >>= fun a => .ok (s, result a)) = Except.ok (s', returned)) : s = s' := by
  obtain ⟨a, -, same⟩ := Compiled.bind_eq_ok.mp done
  exact (Prod.mk.inj (Except.ok.inj same)).1

-- A statement goes on only where a condition sends it, so that the branches are all there is to
-- follow. What is in a block is of no concern, since the block gives the scope back as it was.
mutual

/-- A statement does to the scope what the declarations do that it reaches. -/
theorem Stmt.declareAll_reached (t : Stmt) (done : exec s t = .ok (s', returned)) :
    declareAll s (t.reached s) = .ok s' := by
  cases t with
  | declare ds =>
    obtain ⟨after, declared, same⟩ := Compiled.bind_eq_ok.mp done
    obtain ⟨rfl, -⟩ := Prod.mk.inj (Except.ok.inj same)
    exact declared
  | expr e => exact congrArg _ (eq_of_givenBack (fun _ => none) done)
  | ret value => exact congrArg _ (eq_of_givenBack some done)
  | cond test consequent alternate =>
    obtain ⟨v, tested, branch⟩ := Compiled.bind_eq_ok.mp done
    rw [Stmt.reached, tested]
    dsimp only
    split at branch
    · rename_i holds
      rw [if_pos holds]
      exact consequent.declareAll_reached branch
    · rename_i fails
      rw [if_neg fails]
      exact declareAll_reachedOption alternate branch
  | block ss => exact congrArg _ (eq_of_givenBack Prod.snd done)
  | empty =>
    obtain ⟨rfl, -⟩ := Prod.mk.inj (Except.ok.inj done)
    rfl
  | foreign source mentions => exact nomatch done
termination_by structural t

theorem declareAll_reachedOption (t : Option Stmt) (done : execOption s t = .ok (s', returned)) :
    declareAll s (reachedOption s t) = .ok s' := by
  cases t with
  | none =>
    obtain ⟨rfl, -⟩ := Prod.mk.inj (Except.ok.inj done)
    rfl
  | some t => exact t.declareAll_reached done
termination_by structural t

end

mutual

theorem Stmt.names_reached_sublist (t : Stmt) (s : Scope) :
    ((t.reached s).flatMap Declarator.names).Sublist t.mayDeclare := by
  cases t with
  | declare ds => exact .refl _
  | cond test consequent alternate =>
    rw [Stmt.reached, Stmt.mayDeclare]
    cases eval s test with
    | error i => exact List.nil_sublist _
    | ok v =>
      dsimp only
      split
      · exact (consequent.names_reached_sublist s).trans (List.sublist_append_left _ _)
      · exact (names_reachedOption_sublist alternate s).trans (List.sublist_append_right _ _)
  | _ => exact .refl _
termination_by structural t

theorem names_reachedOption_sublist (t : Option Stmt) (s : Scope) :
    ((reachedOption s t).flatMap Declarator.names).Sublist (optionMayDeclare t) := by
  cases t with
  | none => exact .refl _
  | some t => exact t.names_reached_sublist s
termination_by structural t

end

/-- What a statement declares in any case is reached. -/
theorem Stmt.declared_sublist_reached (t : Stmt) (s : Scope) :
    t.declared.Sublist ((t.reached s).flatMap Declarator.names) := by
  cases t with
  | declare ds => exact .refl _
  | _ => exact List.nil_sublist _

mutual

/-- Without its blocks and expressions, a statement leaves the same scope. -/
theorem Stmt.exec_shell (t : Stmt) (done : exec s t = .ok (s', returned)) :
    exec s t.shell = .ok (s', none) := by
  cases t with
  | declare ds =>
    obtain ⟨after, declared, same⟩ := Compiled.bind_eq_ok.mp done
    obtain ⟨rfl, -⟩ := Prod.mk.inj (Except.ok.inj same)
    exact Compiled.bind_eq_ok.mpr ⟨_, declared, rfl⟩
  | cond test consequent alternate =>
    obtain ⟨v, tested, branch⟩ := Compiled.bind_eq_ok.mp done
    refine Compiled.bind_eq_ok.mpr ⟨v, tested, ?_⟩
    split at branch
    · rename_i holds
      rw [if_pos holds]
      exact consequent.exec_shell branch
    · rename_i fails
      rw [if_neg fails]
      exact execOption_optionShell alternate branch
  | _ =>
    -- Nothing else is left, and nothing else has declared anything.
    have kept := Except.ok.inj (Stmt.declareAll_reached _ done)
    exact congrArg (fun s => Except.ok (s, none)) kept
termination_by structural t

theorem execOption_optionShell (t : Option Stmt) (done : execOption s t = .ok (s', returned)) :
    execOption s (optionShell t) = .ok (s', none) := by
  cases t with
  | none =>
    obtain ⟨rfl, -⟩ := Prod.mk.inj (Except.ok.inj done)
    rfl
  | some t => exact t.exec_shell done
termination_by structural t

end

/-! ### Items -/

/-- The variables that an item declares at the top level. -/
def Item.reached (s : Scope) : Item → List Declarator
  | .exportVariables ds => ds
  | .statement t => t.reached s
  | _ => []

/-- The names that an item declares in any case. -/
def Item.declared : Item → List String
  | .exportVariables ds => ds.flatMap Declarator.names
  | .statement t => t.declared
  | _ => []

/-- The names that an item may declare. -/
def Item.mayDeclare : Item → List String
  | .exportVariables ds => ds.flatMap Declarator.names
  | .statement t => t.mayDeclare
  | _ => []

/-- What is left of an item without its blocks and expressions. -/
def Item.shell : Item → Item
  | .exportVariables ds => .exportVariables ds
  | .statement t => .statement t.shell
  | _ => .statement .empty

/-! ### The stack of frames -/

/-- The scope without its innermost frame. -/
def Scope.pop (s : Scope) : Scope := { s with frames := s.frames.tail }

theorem Scope.pop_push (s : Scope) (frame : Entries Value) : (s.push frame).pop = s := rfl

theorem Scope.pop_withTop (s : Scope) (frame : Entries Value) :
    (s.withTop frame).pop = s.pop := rfl

theorem pop_of_declareAll {ds : List Declarator} (done : declareAll s ds = .ok s') :
    s'.pop = s.pop := by
  induction ds generalizing s with
  | nil => rw [Except.ok.inj done]
  | cons d ds ih =>
    obtain ⟨target, value⟩ := d
    obtain ⟨v, frame, -, -, rest⟩ := exists_of_declareAll_cons done
    exact (ih rest).trans (s.pop_withTop frame)

/-- Statements change the innermost frame and nothing below it. -/
theorem pop_of_execAll {ss : List Stmt} (done : execAll s ss = .ok (s', returned)) :
    s'.pop = s.pop := by
  induction ss generalizing s with
  | nil => rw [(Prod.mk.inj (Except.ok.inj done)).1]
  | cons t ss ih =>
    obtain ⟨⟨after, early⟩, first, rest⟩ := Compiled.bind_eq_ok.mp done
    have kept : after.pop = s.pop := pop_of_declareAll (t.declareAll_reached first)
    cases early with
    | none => exact (ih rest).trans kept
    | some v =>
      -- A statement that returns is the last.
      obtain ⟨rfl, -⟩ := Prod.mk.inj (Except.ok.inj rest)
      exact kept

/-! ### The log of a script -/

/-- The scope at the top level of a script with the bindings that a log makes. -/
def Scope.atTop (data : Cascade) (log : Entries Value) : Scope := ⟨[Entries.ofPairs log], data⟩

/-- Declares variables one after the other: each is evaluated over the bindings before it, and its
pattern gives its names their values. -/
inductive Declares (data : Cascade) : Entries Value → List Declarator → Entries Value → Prop
  | nil {before : Entries Value} : Declares data before [] []
  | cons {before pairs log : Entries Value} {target : Pattern} {value : Option Expr} {v : Value}
    {ds : List Declarator}
    (evaluated : evalOption (.atTop data before) value = .ok v)
    (named : pairs.keys = target.names)
    (written : ∀ frame, target.bind v frame = .ok (Entries.extend frame pairs))
    (rest : Declares data (before ++ pairs) ds log) :
    Declares data before (.mk target value :: ds) (pairs ++ log)

/-- Runs items one after the other, and logs what they declare. -/
inductive Runs (data : Cascade) : Entries Value → List Item → Entries Value → Prop
  | nil {before : Entries Value} : Runs data before [] []
  | cons {before pairs log : Entries Value} {i : Item} {items : List Item}
    (declares : Declares data before (i.reached (.atTop data before)) pairs)
    (rest : Runs data (before ++ pairs) items log) :
    Runs data before (i :: items) (pairs ++ log)

variable {data : Cascade} {before log : Entries Value}

theorem exists_declares {ds : List Declarator}
    (done : declareAll (.atTop data before) ds = .ok s') :
    ∃ log, Declares data before ds log ∧ s' = .atTop data (before ++ log) := by
  induction ds generalizing before with
  | nil => exact ⟨[], .nil, by rw [← Except.ok.inj done, List.append_nil]⟩
  | cons d ds ih =>
    obtain ⟨target, value⟩ := d
    obtain ⟨v, frame, evaluated, bound, rest⟩ := exists_of_declareAll_cons done
    obtain ⟨pairs, named, written⟩ := (target.writes v).exists_of_eq_ok bound
    -- What the pattern writes to the frame is what the log gets.
    have isNext : (Scope.atTop data before).withTop frame = .atTop data (before ++ pairs) := by
      rw [Scope.atTop, Scope.atTop, Entries.ofPairs, Entries.ofPairs, Entries.extend_append,
        ← Except.ok.inj ((written _).symm.trans bound)]
      rfl
    rw [isNext] at rest
    obtain ⟨log, declares, rfl⟩ := ih rest
    exact ⟨pairs ++ log, .cons evaluated named written declares, by rw [List.append_assoc]⟩

theorem Declares.keys_eq {ds : List Declarator} (declares : Declares data before ds log) :
    log.keys = ds.flatMap Declarator.names := by
  induction declares with
  | nil => rfl
  | cons evaluated named written rest ih =>
    rw [List.flatMap_cons, ← ih, Entries.keys_append, named]
    rfl

/-! ### Runs -/

/-- A statement of a script leaves the scope that it leaves anywhere. -/
theorem exists_runItem_statement_iff {run : ModuleRun} {t : Stmt} :
    (∃ run', runItem false run (.statement t) = .ok run' ∧ run'.scope = s') ↔
      ∃ returned, exec run.scope t = .ok (s', returned) := by
  cases t with
  | expr e =>
    -- Only here something else is kept as well, the value of the expression.
    rw [runItem, exec]
    cases eval run.scope e <;> simp [bind, Except.bind]
  | _ =>
    unfold runItem
    dsimp only
    generalize exec run.scope _ = result
    cases result <;> simp [bind, Except.bind, Prod.ext_iff]

/-- An item does to the scope what the declarations do that it reaches. -/
theorem declareAll_reached_of_runItem {i : Item} {run run' : ModuleRun}
    (done : runItem false run i = .ok run') :
    declareAll run.scope (i.reached run.scope) = .ok run'.scope := by
  cases i with
  | exportVariables ds =>
    obtain ⟨after, declared, same⟩ := Compiled.bind_eq_ok.mp done
    rw [← Except.ok.inj same]
    exact declared
  | exportOther source => exact nomatch done
  | exportNames => rw [← Except.ok.inj done]; rfl
  | exportDefault d => rw [← Except.ok.inj done]; rfl
  | statement t =>
    obtain ⟨returned, executed⟩ := exists_runItem_statement_iff.mp ⟨run', done, rfl⟩
    exact t.declareAll_reached executed

theorem runItem_shell {i : Item} {run run₁ run' : ModuleRun}
    (done : runItem false run i = .ok run') (same : run₁.scope = run.scope) :
    ∃ run₁', runItem false run₁ i.shell = .ok run₁' ∧ run₁'.scope = run'.scope := by
  cases i with
  | exportVariables ds =>
    obtain ⟨after, declared, same'⟩ := Compiled.bind_eq_ok.mp done
    refine ⟨{ run₁ with scope := after }, Compiled.bind_eq_ok.mpr ⟨after, ?_, rfl⟩, ?_⟩
    · rw [same]
      exact declared
    · rw [← Except.ok.inj same']
  | exportOther source => exact nomatch done
  | exportNames => exact ⟨run₁, rfl, by rw [← Except.ok.inj done, same]⟩
  | exportDefault d => exact ⟨run₁, rfl, by rw [← Except.ok.inj done, same]⟩
  | statement t =>
    obtain ⟨returned, executed⟩ := exists_runItem_statement_iff.mp ⟨run', done, rfl⟩
    exact exists_runItem_statement_iff.mpr ⟨none, same ▸ t.exec_shell executed⟩

/-- Items that are run to their end have a log, and leave its bindings. -/
theorem exists_runs {items : List Item} {run run' : ModuleRun}
    (done : items.foldlM (runItem false) run = .ok run')
    (atTop : run.scope = .atTop data before) :
    ∃ log, Runs data before items log ∧ run'.scope = .atTop data (before ++ log) := by
  induction items generalizing run before with
  | nil =>
    obtain rfl := Except.ok.inj done
    exact ⟨[], .nil, by rw [atTop, List.append_nil]⟩
  | cons i items ih =>
    -- The log so far is all that the next item sees.
    obtain ⟨after, first, rest⟩ := Compiled.bind_eq_ok.mp done
    have reached := declareAll_reached_of_runItem first
    rw [atTop] at reached
    obtain ⟨pairs, declares, atTop'⟩ := exists_declares reached
    obtain ⟨log, runs, left⟩ := ih rest atTop'
    exact ⟨pairs ++ log, .cons declares runs, by rw [left, List.append_assoc]⟩

/-- Without their blocks and expressions, items leave the same scope. -/
theorem exists_run_shell {items : List Item} {run run₁ run' : ModuleRun}
    (done : items.foldlM (runItem false) run = .ok run') (same : run₁.scope = run.scope) :
    ∃ run₁', (items.map Item.shell).foldlM (runItem false) run₁ = .ok run₁' ∧
      run₁'.scope = run'.scope := by
  induction items generalizing run run₁ with
  | nil =>
    obtain rfl := Except.ok.inj done
    exact ⟨run₁, rfl, same⟩
  | cons i items ih =>
    obtain ⟨after, first, rest⟩ := Compiled.bind_eq_ok.mp done
    obtain ⟨after₁, first₁, same'⟩ := runItem_shell first same
    obtain ⟨run₁', rest₁, same''⟩ := ih rest same'
    exact ⟨run₁', Compiled.bind_eq_ok.mpr ⟨after₁, first₁, rest₁⟩, same''⟩

theorem Item.declared_sublist_reached (i : Item) (s : Scope) :
    i.declared.Sublist ((i.reached s).flatMap Declarator.names) := by
  cases i with
  | exportVariables ds => exact .refl _
  | statement t => exact t.declared_sublist_reached s
  | _ => exact .refl _

theorem Item.names_reached_sublist (i : Item) (s : Scope) :
    ((i.reached s).flatMap Declarator.names).Sublist i.mayDeclare := by
  cases i with
  | exportVariables ds => exact .refl _
  | statement t => exact t.names_reached_sublist s
  | _ => exact .refl _

/-- What the items declare in any case is in the log, in order. -/
theorem Runs.declared_sublist {items : List Item} (runs : Runs data before items log) :
    (items.flatMap Item.declared).Sublist log.keys := by
  induction runs with
  | nil => exact .refl _
  | @cons before pairs log i items declares rest ih =>
    rw [List.flatMap_cons, Entries.keys_append, declares.keys_eq]
    exact (i.declared_sublist_reached _).append ih

/-- What is in the log is what the items may declare, in order. -/
theorem Runs.keys_sublist {items : List Item} (runs : Runs data before items log) :
    log.keys.Sublist (items.flatMap Item.mayDeclare) := by
  induction runs with
  | nil => exact .refl _
  | @cons before pairs log i items declares rest ih =>
    rw [List.flatMap_cons, Entries.keys_append, declares.keys_eq]
    exact (i.names_reached_sublist _).append ih

/-- A script that has bindings was run to its end. -/
theorem exists_run_of_evaluateBindings {text : String} {bindings : Entries Value}
    (evaluated : evaluateBindings text data = .ok bindings) :
    ∃ items run, parseModule? text = some items ∧ runModule false data items = .ok run ∧
      run.scope.top = bindings := by
  rw [evaluateBindings] at evaluated
  split at evaluated
  · exact nomatch evaluated
  · rename_i items parsed
    refine ⟨items, ?_⟩
    cases result : runModule false data items with
    | ok run =>
      rw [result] at evaluated
      exact ⟨run, parsed, rfl, Except.ok.inj evaluated⟩
    | error i =>
      rw [result] at evaluated
      cases i with
      | failed f => exact nomatch evaluated
      | shortCircuit =>
        -- An optional link never ends a script, so that no bindings are lost here.
        exact absurd result (settles_of_parseModule? parsed false data)

/-- The bindings of a script are the dictionary of its log: a name stands where it was bound first
and has the value that it was given last. The log has the names that are declared at the top level
in any case and no others than those that may be declared there, in order. Blocks and expressions
have no part in it: without them the bindings are the same, and whatever is executed above a frame,
to its end or up to a `return`, leaves the stack under that frame as it was. -/
theorem evaluateBindings_topLevel {text : String} {bindings : Entries Value}
    (evaluated : evaluateBindings text data = .ok bindings) :
    (∃ (items : List Item) (log : Entries Value), parseModule? text = some items ∧
      Runs data [] items log ∧
      bindings = Entries.ofPairs log ∧ bindings.keys = log.keys.eraseDups ∧
      (∀ name, bindings.get? name = ((log.filter (·.1 == name)).getLast?).map Prod.snd) ∧
      (items.flatMap Item.declared).Sublist log.keys ∧
      log.keys.Sublist (items.flatMap Item.mayDeclare) ∧
      (runModule false data (items.map Item.shell)).map (fun run => run.scope.top) =
        .ok bindings) ∧
    ∀ (s : Scope) (frame : Entries Value) (ss : List Stmt) (s' : Scope) (returned : Option Value),
      execAll (s.push frame) ss = .ok (s', returned) → s'.pop = s := by
  refine ⟨?_, fun s frame ss s' returned done => (pop_of_execAll done).trans (s.pop_push frame)⟩
  obtain ⟨items, run, parsed, done, rfl⟩ := exists_run_of_evaluateBindings evaluated
  have atStart : Scope.ofData data = .atTop data [] := rfl
  obtain ⟨log, runs, left⟩ := exists_runs done atStart
  obtain ⟨shellRun, shellDone, same⟩ := exists_run_shell done rfl
  have isLog : run.scope.top = Entries.ofPairs log := by rw [left]; rfl
  refine ⟨items, log, parsed, runs, isLog, ?_, ?_, runs.declared_sublist, runs.keys_sublist, ?_⟩
  · rw [isLog, Entries.keys_ofPairs]
    rfl
  · intro name
    rw [isLog, Entries.get?_ofPairs]
  · rw [runModule, shellDone, ← same]
    rfl

/-- A script with one name at its top level, in a block, as the parameter of a function, and in a
condition. -/
def shadowingScript : String :=
  "const a = 'x'; \x7blet a = 'y', b\x7d export const e = (a => a)(a); " ++
    "if (b) var c; else var a = 'z'"

theorem evaluateBindings_topLevel_shadowing :
    ∃ bindings, evaluateBindings shadowingScript (.ofGlobals [] []) = .ok bindings ∧
      (bindings.map fun e => (e.1, e.2.display)) = [("a", "z"), ("e", "x")] ∧
      ∃ items log, parseModule? shadowingScript = some items ∧
        Runs (.ofGlobals [] []) [] items log ∧ bindings = Entries.ofPairs log ∧
        (runModule false (.ofGlobals [] []) (items.map Item.shell)).map (fun run =>
          run.scope.top) = .ok bindings := by
  have shown : (evaluateBindings shadowingScript (.ofGlobals [] [])).map (fun bindings =>
      bindings.map fun e => (e.1, e.2.display)) =
        .ok [("a", "z"), ("e", "x")] :=
    Compiled.eq_ok_of_toOption (by decide +kernel)
  obtain ⟨bindings, evaluated, same⟩ := Compiled.map_eq_ok.mp shown
  obtain ⟨⟨items, log, parsed, runs, isLog, -, -, -, -, withoutBlocks⟩, -⟩ :=
    evaluateBindings_topLevel evaluated
  exact ⟨bindings, evaluated, same, items, log, parsed, runs, isLog, withoutBlocks⟩

end ComponentMarkup.Script
