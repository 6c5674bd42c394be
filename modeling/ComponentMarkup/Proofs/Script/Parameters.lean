import ComponentMarkup.Error
import ComponentMarkup.Proofs.Script.Binding

/-!
# Parameters

A call should give each parameter its argument. A parameter without an argument should get its
default value, which may use the parameters before it, or nothing if it has none; and a rest
parameter should get all arguments that remain. A call binds the parameters to their arguments and
to nothing else: where an argument is missing, a default value is passed over, and a rest parameter
is not bound at all, so that its names mean whatever they mean around the function. Neither is
refused. What is refused are patterns with a default value or a computed key inside.

So a call does what it should if the function has no rest parameter and no parameter is without
both an argument and a way to do without. All ways to call a function are the same in this.

## Main definitions

* `paramParts` — the parameters with their arguments
* `bindMeant`, `invokeMeant` — calls as they should be
* `Expr.function?` — a function that stands in its place, possibly in parentheses

## Main results

* `invoke_binds_arguments` — what a call binds, and when that is what it should bind
-/

namespace ComponentMarkup.Script

/-- What a parameter binds. -/
def Param.target : Param → Pattern
  | .mk target _ => target

/-- The default value of a parameter. -/
def Param.default : Param → Option Expr
  | .mk _ default => default

/-- Each parameter with its argument, or with nothing if there is none. -/
def paramParts (params : List Param) (args : List Value) : List (Pattern × Value) :=
  params.mapIdx fun i p => (p.target, args.getD i .null)

theorem paramParts_cons (p : Param) (params : List Param) (args : List Value) :
    paramParts (p :: params) args =
      (p.target, args.headD .null) :: paramParts params args.tail := by
  cases args with
  | nil => simp [paramParts, List.mapIdx_cons]
  | cons a args => simp [paramParts, List.mapIdx_cons]

theorem bindParams_eq_bindEach (params : List Param) (args : List Value) (frame : Entries Value) :
    bindParams params args frame = bindEach (paramParts params args) frame := by
  induction params generalizing args frame with
  | nil => rfl
  | cons p params ih =>
    obtain ⟨target, default⟩ := p
    rw [paramParts_cons, bindEach_cons, bindParams]
    exact congrArg (target.bind (args.headD .null) frame >>= ·) (funext (ih args.tail))

theorem names_paramParts (params : List Param) (args : List Value) :
    ((paramParts params args).flatMap fun part => part.1.names) = paramsNames params := by
  induction params generalizing args with
  | nil => rfl
  | cons p params ih =>
    obtain ⟨target, default⟩ := p
    rw [paramParts_cons, List.flatMap_cons, ih, paramsNames]
    rfl

theorem supported_paramParts_iff (params : List Param) (args : List Value) :
    (∀ part ∈ paramParts params args, part.1.IsSupported) ↔
      ∀ p ∈ params, p.target.IsSupported := by
  induction params generalizing args with
  | nil => exact ⟨nofun, nofun⟩
  | cons p params ih =>
    rw [paramParts_cons, List.forall_mem_cons, List.forall_mem_cons, ih]

/-! ### Calls as they should be -/

/-- Binds parameters as they should be: to their arguments, or to their default values, which may
use the parameters before them, or to nothing. -/
def bindMeant (s : Scope) : List Param → List Value → Entries Value → Eval (Entries Value)
  | [], _, frame => .ok frame
  | .mk target _ :: params, a :: args, frame => do
    let frame ← Eval.of (target.bind a frame)
    bindMeant s params args frame
  | .mk target default :: params, [], frame => do
    let v ← evalOption (s.push frame) default
    let frame ← Eval.of (target.bind v frame)
    bindMeant s params [] frame

/-- A call as it should be: a rest parameter is bound to all arguments that remain. -/
def invokeMeant (s : Scope) : Function → List Value → Eval Value
  | .mk _ params rest body, args => do
    let frame ← bindMeant s params args []
    let frame ← Eval.of (bindRest rest (.list (args.drop params.length)) frame)
    evalBody (s.push frame) body

theorem Eval.of_bind {α β : Type} (r : Except Failure α) (f : α → Except Failure β) :
    Eval.of (r >>= f) = Eval.of r >>= fun a => Eval.of (f a) := by
  cases r <;> rfl

/-- Where no default value is needed, parameters are bound as they should be. -/
theorem bindMeant_eq_bindParams (s : Scope) {params : List Param} {args : List Value}
    (given : ∀ i p, params[i]? = some p → args.length ≤ i → p.default = none)
    (frame : Entries Value) :
    bindMeant s params args frame = Eval.of (bindParams params args frame) := by
  induction params generalizing args frame with
  | nil => cases args <;> rfl
  | cons p params ih =>
    obtain ⟨target, default⟩ := p
    -- What is said of all parameters is said of those after the first.
    have later : ∀ i p, params[i]? = some p → args.tail.length ≤ i → p.default = none := by
      intro i p listed missing
      apply given (i + 1) p listed
      rw [List.length_tail] at missing
      omega
    rw [bindParams, Eval.of_bind]
    cases args with
    | nil =>
      -- Without an argument and a default value, the parameter is bound to nothing.
      obtain rfl : default = none := given 0 _ rfl (Nat.zero_le 0)
      exact congrArg (Eval.of (target.bind .null frame) >>= ·) (funext (ih later))
    | cons a args => exact congrArg (Eval.of (target.bind a frame) >>= ·) (funext (ih later))

theorem invokeMeant_eq_invoke (s : Scope) {name : Option String} {params : List Param}
    {body : Body} {args : List Value}
    (given : ∀ i p, params[i]? = some p → args.length ≤ i → p.default = none) :
    invokeMeant s (.mk name params none body) args = invoke s (.mk name params none body) args := by
  rw [invokeMeant, invoke, bindMeant_eq_bindParams s given]
  cases bindParams params args [] <;> rfl

/-! ### Functions in their place -/

/-- The function that an expression is, possibly in parentheses. -/
def Expr.function? : Expr → Option Function
  | .function _ f => some f
  | .paren body => body.function?
  | _ => none

theorem callable_eq (s : Scope) (e : Expr) : callable s e = e.function?.map (invoke s) := by
  cases e with
  | paren body => rw [callable, Expr.function?, callable_eq s body]
  | _ => rfl
termination_by structural e

variable {f : Function} {e : Expr}

theorem callable_of_function? (s : Scope) (isFunction : e.function? = some f) :
    callable s e = some (invoke s f) := by
  rw [callable_eq, isFunction, Option.map_some]

/-- A call of a function in its place. -/
theorem eval_call_of_function? (s : Scope) (isFunction : e.function? = some f) (text : String)
    (arguments : List Argument) (optional : Bool) :
    eval s (.call text e arguments optional) = evalArguments s arguments >>= invoke s f := by
  have called := callable_of_function? s isFunction
  rw [eval, called]
  cases e with
  | function source g => rfl
  | paren body => rfl
  | _ => cases isFunction

/-- A function as a callback. -/
theorem argumentCallback_of_function? (s : Scope) (isFunction : e.function? = some f)
    (source : String) : argumentCallback s (.value source e) = some (.ok (invoke s f)) := by
  unfold argumentCallback
  rw [callable_of_function? s isFunction]

/-- A function as a default export. -/
theorem evalDefault_of_function? (s : Scope) (isFunction : e.function? = some f) :
    evalDefault s (.expr e) = invoke s f [] := by
  rw [evalDefault, callable_of_function? s isFunction]

/-! ### Calls as they are -/

theorem invoke_eq_bindEach (s : Scope) (name : Option String) (params : List Param)
    (rest : Option Pattern) (body : Body) (args : List Value) :
    invoke s (.mk name params rest body) args =
      Eval.of (bindEach (paramParts params args) []) >>= fun frame =>
        evalBody (s.push frame) body := by
  rw [invoke, bindParams_eq_bindEach]

/-- A call with a pattern that is not supported is refused. Every other call evaluates the body in a
frame that has the names of the parameters and no others. -/
theorem refused_or_bound (params : List Param) (args : List Value) :
    (¬(∀ p ∈ params, p.target.IsSupported) ∧ ∃ failure : Failure, failure.kind = .unsupported ∧
      bindEach (paramParts params args) [] = .error failure) ∨
    ((∀ p ∈ params, p.target.IsSupported) ∧ ∃ frame : Entries Value,
      bindEach (paramParts params args) [] = .ok frame ∧
        frame.keys = (paramsNames params).eraseDups) := by
  rw [← supported_paramParts_iff params args]
  cases writes_bindEach (paramParts params args) with
  | refused isNot failure unsupported always =>
    exact .inl ⟨isNot, failure, unsupported, always []⟩
  | written isSupported pairs named always =>
    refine .inr ⟨isSupported, Entries.ofPairs pairs, always [], ?_⟩
    rw [Entries.keys_ofPairs, ← names_paramParts params args, ← named]
    rfl

/-- A name that a frame does not have means what it means around it. -/
theorem Scope.get?_push_of_notMem (s : Scope) {frame : Entries Value} {id : String}
    (absent : id ∉ frame.keys) : (s.push frame).get? id = s.get? id := by
  have missing : frame.get? id = none := Entries.get?_eq_none_iff.mpr absent
  simp [Scope.get?, Scope.push, missing]

/-- A call binds each parameter to its argument, or to nothing if that is missing, and nothing else:
names that are no parameters mean what they mean around the function, those of a rest parameter too.
The calls that are refused for their parameters are those with a default value or a computed key
inside a pattern, whatever the arguments. Without a rest parameter, and without a default value
where an argument is missing, a call is as it should be. A function in its place is called in the
same way by a call, as a callback, and as a default export. -/
theorem invoke_binds_arguments (s : Scope) (name : Option String) (params : List Param)
    (rest : Option Pattern) (body : Body) (args : List Value) :
    (invoke s (.mk name params rest body) args =
      Eval.of (bindEach (paramParts params args) []) >>= fun frame =>
        evalBody (s.push frame) body) ∧
    (¬(∀ p ∈ params, p.target.IsSupported) ∧ (∃ failure : Failure,
        failure.kind = .unsupported ∧ bindEach (paramParts params args) [] = .error failure) ∨
      (∀ p ∈ params, p.target.IsSupported) ∧ ∃ frame : Entries Value,
        bindEach (paramParts params args) [] = .ok frame ∧
        frame.keys = (paramsNames params).eraseDups ∧
        ∀ id ∉ paramsNames params, (s.push frame).get? id = s.get? id) ∧
    (rest = none →
      (∀ i p, params[i]? = some p → args.length ≤ i → p.default = none) →
        invoke s (.mk name params rest body) args =
          invokeMeant s (.mk name params rest body) args) ∧
    ∀ e : Expr, e.function? = some (.mk name params rest body) →
      (∀ text arguments optional, eval s (.call text e arguments optional) =
        evalArguments s arguments >>= invoke s (.mk name params rest body)) ∧
      (∀ source, argumentCallback s (.value source e) =
        some (.ok (invoke s (.mk name params rest body)))) ∧
      evalDefault s (.expr e) = invoke s (.mk name params rest body) [] := by
  refine ⟨invoke_eq_bindEach s name params rest body args, ?_, ?_, ?_⟩
  · apply (refused_or_bound params args).imp_right
    rintro ⟨isSupported, frame, bound, named⟩
    refine ⟨isSupported, frame, bound, named, fun id other => s.get?_push_of_notMem ?_⟩
    rw [named, List.mem_eraseDups]
    exact other
  · rintro rfl given
    exact (invokeMeant_eq_invoke s given).symm
  · intro e isFunction
    exact ⟨eval_call_of_function? s isFunction, argumentCallback_of_function? s isFunction,
      evalDefault_of_function? s isFunction⟩

/-- The parameters of the function `(a, b = 'd') => b`. -/
def pairParams : List Param := [.mk (.name "a") none, .mk (.name "b") (some (.text "d"))]

/-- The function itself, in parentheses. -/
def pairFunction : Expr :=
  .paren (.function "(a, b = 'd') => b" (.mk none pairParams none (.expr (.name "b"))))

theorem invoke_binds_arguments_pair :
    (∀ i p, pairParams[i]? = some p → 2 ≤ i → p.default = none) ∧
      pairFunction.function? = some (.mk none pairParams none (.expr (.name "b"))) ∧
      invokeMeant (.ofData (.ofGlobals [] [])) (.mk none pairParams none (.expr (.name "b")))
        [.text "x", .text "y"] = .ok (.text "y") ∧
      eval (.ofData (.ofGlobals [] [])) (.call "" pairFunction
        [.value "'x'" (.text "x"), .value "'y'" (.text "y")] false) = .ok (.text "y") := by
  -- Both parameters have an argument.
  have given : ∀ i p, pairParams[i]? = some p → 2 ≤ i → p.default = none := by
    intro i p listed missing
    rw [List.getElem?_eq_none missing] at listed
    exact nomatch listed
  obtain ⟨called, -, meant, routes⟩ := invoke_binds_arguments (.ofData (.ofGlobals [] [])) none
    pairParams none (.expr (.name "b")) [.text "x", .text "y"]
  have result : _ = Except.ok (Value.text "y") := called.trans rfl
  refine ⟨given, rfl, (meant rfl given).symm.trans result, ?_⟩
  rw [(routes pairFunction rfl).1]
  exact result

/-- A parameter without its argument that has a default value, and a rest parameter: neither call is
refused. The one is bound to nothing, and the name of the other means what the data say. -/
theorem exists_parameter_misbound :
    ((evaluate "((a = 'x') => a)()" [] (.ofGlobals [] [])).map Value.isNull = .ok true ∧
      invokeMeant (.ofData (.ofGlobals [] []))
        (.mk none [.mk (.name "a") (some (.text "x"))] none (.expr (.name "a"))) [] =
          .ok (.text "x")) ∧
    ((evaluate "((...others) => others)('x')" [] (.ofGlobals [("others", .text "data")] [])).map
        Value.display = .ok "data" ∧
      invokeMeant (.ofData (.ofGlobals [("others", .text "data")] []))
        (.mk none [] (some (.name "others")) (.expr (.name "others"))) [.text "x"] =
          .ok (.list [.text "x"])) :=
  ⟨⟨Compiled.eq_ok_of_toOption (by decide +kernel), rfl⟩,
    ⟨Compiled.eq_ok_of_toOption (by decide +kernel), rfl⟩⟩

end ComponentMarkup.Script
