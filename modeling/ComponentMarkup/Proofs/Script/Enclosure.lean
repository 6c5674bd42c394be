import ComponentMarkup.Script.Evaluate

/-!
# Optional links stay in their chains

An optional link that finds nothing ends the evaluation of the chain around it. In an expression
whose optional links all stand in chains, nothing is left to end: it has a value, or it fails. The
grammar makes no other expressions.

## Main definitions

* `Expr.IsClosed` and its companions — every optional link stands in a chain
* `Eval.Settles` — an evaluation that no optional link ended

## Main results

* `eval_settles` — an expression without open links settles, in every scope
-/

namespace ComponentMarkup.Script

/-! ### Closed expressions -/

mutual

/-- Every optional link stands in a chain. An expression that is `linked` is part of one, so that
its own links may be optional; its keys and arguments are outside. What is refused or never
evaluated may be anything. -/
def Expr.IsClosed (linked : Prop) : Expr → Prop
  | .template parts => PartsClosed parts
  | .array elements => ElementsClosed elements
  | .object properties => PropertiesClosed properties
  | .member object _ optional => (optional = true → linked) ∧ object.IsClosed linked
  | .index object key optional =>
    (optional = true → linked) ∧ object.IsClosed linked ∧ key.IsClosed False
  | .chain body => body.IsClosed True
  | .call _ callee arguments optional =>
    (optional = true → linked) ∧ callee.IsClosed linked ∧ ArgumentsClosed arguments
  | .unary _ operand => operand.IsClosed False
  | .binary _ left right => left.IsClosed False ∧ right.IsClosed False
  | .logical _ left right => left.IsClosed False ∧ right.IsClosed False
  | .conditional test consequent alternate =>
    test.IsClosed False ∧ consequent.IsClosed False ∧ alternate.IsClosed False
  | .paren body => body.IsClosed False
  | .await operand => operand.IsClosed False
  | .sequence items => ExprsClosed items
  | .function _ f => f.IsClosed
  | _ => True
termination_by structural e => e

def ExprsClosed : List Expr → Prop
  | [] => True
  | e :: es => e.IsClosed False ∧ ExprsClosed es
termination_by structural es => es

def OptionClosed : Option Expr → Prop
  | none => True
  | some e => e.IsClosed False
termination_by structural e => e

def PartsClosed : List Part → Prop
  | [] => True
  | p :: ps => p.IsClosed ∧ PartsClosed ps
termination_by structural ps => ps

def Part.IsClosed : Part → Prop
  | .text _ => True
  | .value e => e.IsClosed False
termination_by structural p => p

def ElementsClosed : List Element → Prop
  | [] => True
  | e :: es => e.IsClosed ∧ ElementsClosed es
termination_by structural es => es

def Element.IsClosed : Element → Prop
  | .item e => e.IsClosed False
  | .spread e => e.IsClosed False
  | .hole => True
termination_by structural e => e

def PropertiesClosed : List Property → Prop
  | [] => True
  | p :: ps => p.IsClosed ∧ PropertiesClosed ps
termination_by structural ps => ps

def Property.IsClosed : Property → Prop
  | .named _ value => value.IsClosed False
  | .computed key value => key.IsClosed False ∧ value.IsClosed False
  | .spread e => e.IsClosed False
termination_by structural p => p

def ArgumentsClosed : List Argument → Prop
  | [] => True
  | a :: as => a.IsClosed ∧ ArgumentsClosed as
termination_by structural as => as

def Argument.IsClosed : Argument → Prop
  | .value _ e => e.IsClosed False
  | .spread e => e.IsClosed False
termination_by structural a => a

def Function.IsClosed : Function → Prop
  | .mk _ _ _ body => body.IsClosed
termination_by structural f => f

def Body.IsClosed : Body → Prop
  | .expr e => e.IsClosed False
  | .block ss => StmtsClosed ss
termination_by structural b => b

def StmtsClosed : List Stmt → Prop
  | [] => True
  | s :: ss => s.IsClosed ∧ StmtsClosed ss
termination_by structural ss => ss

def Stmt.IsClosed : Stmt → Prop
  | .declare ds => DeclaratorsClosed ds
  | .expr e => e.IsClosed False
  | .ret value => OptionClosed value
  | .cond test consequent alternate =>
    test.IsClosed False ∧ consequent.IsClosed ∧ OptionStmtClosed alternate
  | .block ss => StmtsClosed ss
  | .empty => True
  | .foreign _ _ => True
termination_by structural s => s

def OptionStmtClosed : Option Stmt → Prop
  | none => True
  | some s => s.IsClosed
termination_by structural s => s

def DeclaratorsClosed : List Declarator → Prop
  | [] => True
  | d :: ds => d.IsClosed ∧ DeclaratorsClosed ds
termination_by structural ds => ds

def Declarator.IsClosed : Declarator → Prop
  | .mk _ value => OptionClosed value
termination_by structural d => d

end

/-! ### Evaluations that settle -/

/-- An evaluation that no optional link ended: it has a result, or it fails. -/
def Eval.Settles {α : Type} (r : Eval α) : Prop := r ≠ .error .shortCircuit

namespace Eval.Settles

variable {α β : Type}

theorem ok (a : α) : Settles (.ok a) := nofun

theorem fail (f : Failure) : Settles (Eval.fail f : Eval α) := nofun

theorem of (r : Except Failure α) : Settles (Eval.of r) := by
  cases r <;> exact nofun

theorem bind {r : Eval α} {f : α → Eval β} (settles : r.Settles) (next : ∀ a, (f a).Settles) :
    Settles (r >>= f) := by
  cases r with
  | ok a => exact next a
  | error i => exact fun ended => settles (congrArg Except.error (Except.error.inj ended))

/-- A chain settles, whatever its links do. -/
theorem closeChain (r : Eval Value) : Settles (closeChain r) := by
  match r with
  | .ok v => exact .ok v
  | .error .shortCircuit => exact .ok Value.null
  | .error (.failed f) => exact .fail f

end Eval.Settles

/-- A function whose calls all settle. -/
def Call.Settles (call : Call) : Prop := ∀ args, Eval.Settles (call args)

/-- A callback that has been found, or a failure, and whose calls settle. -/
structure CallbackSettles (callback : Option (Eval Call)) : Prop where
  found : ∀ r ∈ callback, r.Settles
  calls : ∀ call, .ok call ∈ callback → call.Settles

namespace CallbackSettles

theorem none : CallbackSettles none := ⟨nofun, nofun⟩

theorem ok {call : Call} (settles : call.Settles) : CallbackSettles (some (.ok call)) where
  found := fun _ same => Option.some.inj same ▸ .ok call
  calls := fun _ same => Except.ok.inj (Option.some.inj same) ▸ settles

theorem fail (f : Failure) : CallbackSettles (some (Eval.fail f)) where
  found := fun _ same => Option.some.inj same ▸ .fail f
  calls := fun _ same => nomatch same

end CallbackSettles

/-! ### What ends accesses and calls -/

/-- What ends a sequence is its first part, or the second one after a result of the first. -/
theorem bind_eq_shortCircuit {α β : Type} {r : Eval α} {f : α → Eval β}
    (ended : r >>= f = .error .shortCircuit) :
    r = .error .shortCircuit ∨ ∃ a, r = .ok a ∧ f a = .error .shortCircuit := by
  cases r with
  | ok a => exact .inr ⟨a, rfl, ended⟩
  | error i => exact .inl (congrArg Except.error (Except.error.inj ended))

theorem eq_null_of_isNull {v : Value} (nothing : v.isNull = true) : v = .null := by
  cases v with
  | null => rfl
  | _ => exact nomatch nothing

theorem access_eq_shortCircuit {v : Value} {key : String} {optional : Bool}
    (ended : access v key optional = .error .shortCircuit) : optional = true ∧ v = .null := by
  unfold access at ended
  split at ended
  next nothing =>
    cases optional with
    | false => exact nomatch ended
    | true => exact ⟨rfl, eq_null_of_isNull nothing⟩
  · exact nomatch ended

/-- A name that stands for no data, no helper and no function that is always there. -/
structure Scope.Lacks (s : Scope) (name : String) : Prop where
  noValue : ((s.get? name).getD .null).isNull = true
  noHelper : s.data.helper? name = none
  noFunction : ∀ args, globalFunction? name args = none

/-- Whether there is a function depends on its name only. -/
theorem globalFunction?_eq_none {name : String} {args : List Value}
    (missing : globalFunction? name args = none) (args' : List Value) :
    globalFunction? name args' = none := by
  unfold globalFunction? at missing ⊢
  split at missing <;> simp_all

theorem callNamed_eq_shortCircuit {s : Scope} {name : String} {args : List Value}
    {optional : Bool} (ended : callNamed s name args optional = .error .shortCircuit) :
    optional = true ∧ s.Lacks name := by
  unfold callNamed at ended
  split at ended
  · cases ended
  next noValue =>
    split at ended
    · exact absurd ended (Eval.Settles.of _)
    next noHelper =>
      split at ended
      · cases ended
      next noFunction =>
        cases optional with
        | false => cases ended
        | true => exact ⟨rfl, by simpa using noValue, noHelper, globalFunction?_eq_none noFunction⟩

theorem settles_callbackMethod {call : Call} (settles : call.Settles) (method : String)
    (items : List Value) :
    ∀ index found, Eval.Settles (callbackMethod method call index found items) := by
  induction items with
  | nil => exact fun _ _ => .ok _
  | cons item items ih =>
    intro index found
    refine .bind (settles _) fun result => ?_
    split <;> first | exact ih _ _ | exact .ok _

theorem settles_callback {r : Eval Call} (settles : CallbackSettles (some r)) (method : String)
    (items : List Value) :
    Eval.Settles (r >>= fun call => callbackMethod method call 0 [] items) := by
  cases r with
  | ok call => exact settles_callbackMethod (settles.calls call rfl) method items 0 []
  | error i => exact fun ended => settles.found _ rfl (congrArg _ (Except.error.inj ended))

/-- A method call ends a chain if its object did, or if it is optional and has nothing in front
of it. -/
theorem methodCall_eq_shortCircuit {s : Scope} {space : Option String} {object : Eval Value}
    {callback : Option (Eval Call)} {arguments : Eval (List Value)} {method : String}
    {optional : Bool} (ofCallback : CallbackSettles callback) (ofArguments : arguments.Settles)
    (ended : methodCall s space object callback arguments method optional =
      .error .shortCircuit) :
    object = .error .shortCircuit ∨
      optional = true ∧ object = .ok .null ∧ space.filter s.hasNamespace = none := by
  unfold methodCall at ended
  split at ended
  · exact absurd ended (Eval.Settles.bind ofArguments fun _ => .of _)
  next noSpace =>
    obtain before | ⟨v, value, here⟩ := bind_eq_shortCircuit ended
    · exact .inl before
    split at here
    next nothing =>
      cases optional with
      | false => exact nomatch here
      | true => exact .inr ⟨rfl, eq_null_of_isNull nothing ▸ value, noSpace⟩
    · -- The object has a method or not, which settles the call.
      refine absurd here ?_
      split
      · cases callback with
        | none => exact Eval.Settles.fail _
        | some r => exact settles_callback ofCallback method _
      · exact Eval.Settles.bind ofArguments fun _ => .of _

/-! ### Expressions and statements -/

-- The induction follows the syntax. Scopes change in the bodies of functions and with declarations,
-- so that every statement is about all of them.
mutual

/-- An expression without open links has a value, or it fails. -/
theorem eval_settles (e : Expr) (closed : e.IsClosed False) (s : Scope) : (eval s e).Settles := by
  cases e with
  | template parts => exact .bind (evalParts_settles parts closed s) fun _ => .ok _
  | array elements => exact .bind (evalElements_settles elements closed s) fun _ => .ok _
  | object properties => exact .bind (evalProperties_settles properties closed s []) fun _ => .ok _
  | member object key optional =>
    obtain ⟨plain, ofObject⟩ := closed
    unfold eval
    split
    · exact .ok _
    · exact .bind (eval_settles object ofObject s) fun v ended =>
        plain (access_eq_shortCircuit ended).1
  | index object key optional =>
    obtain ⟨plain, ofObject, ofKey⟩ := closed
    exact .bind (eval_settles object ofObject s) fun v =>
      .bind (eval_settles key ofKey s) fun k ended => plain (access_eq_shortCircuit ended).1
  | chain body => exact .closeChain _
  | call text callee arguments optional =>
    obtain ⟨plain, ofCallee, ofArguments⟩ := closed
    exact evalCall_settles callee ofCallee s plain (callable_settles callee ofCallee s)
      (callbackOf_settles arguments ofArguments s) (evalArguments_settles arguments ofArguments s)
  | unary op operand => exact .bind (eval_settles operand closed s) fun _ => .of _
  | binary op left right =>
    exact .bind (eval_settles left closed.1 s) fun _ =>
      .bind (eval_settles right closed.2 s) fun _ => .of _
  | logical op left right =>
    refine .bind (eval_settles left closed.1 s) fun a => ?_
    split <;> split <;> first | exact .ok a | exact eval_settles right closed.2 s
  | conditional test consequent alternate =>
    obtain ⟨ofTest, ofConsequent, ofAlternate⟩ := closed
    refine .bind (eval_settles test ofTest s) fun v => ?_
    split
    · exact eval_settles consequent ofConsequent s
    · exact eval_settles alternate ofAlternate s
  | paren body => exact eval_settles body closed s
  | await operand => exact eval_settles operand closed s
  | sequence items => exact evalSequence_settles items closed s .null
  | function | assign | foreign => exact .fail _
  | null | bool | number | text | name | this => exact .ok _
termination_by structural e

theorem evalCall_settles (callee : Expr) (closed : callee.IsClosed False) (s : Scope)
    {text : String} {function : Option Call} {callback : Option (Eval Call)}
    {arguments : Eval (List Value)} {optional : Bool} (plain : optional = true → False)
    (ofFunction : ∀ call ∈ function, call.Settles) (ofCallback : CallbackSettles callback)
    (ofArguments : arguments.Settles) :
    (evalCall s text function callback arguments optional callee).Settles := by
  have other : Eval.Settles (match function with
      | some call => arguments >>= call
      | none => Eval.fail (.unsupported text)) := by
    cases function with
    | none => exact .fail _
    | some call => exact .bind ofArguments (ofFunction call rfl)
  cases callee with
  | name id =>
    exact .bind ofArguments fun args ended => plain (callNamed_eq_shortCircuit ended).1
  | member object method =>
    intro ended
    obtain before | ⟨isOptional, -⟩ := methodCall_eq_shortCircuit ofCallback ofArguments ended
    · exact eval_settles object closed.2 s before
    · exact closed.1 isOptional
  | index object key =>
    refine .bind (eval_settles key closed.2.2 s) fun k ended => ?_
    obtain before | ⟨isOptional, -⟩ := methodCall_eq_shortCircuit ofCallback ofArguments ended
    · exact eval_settles object closed.2.1 s before
    · exact closed.1 isOptional
  | _ => exact other
termination_by structural callee

theorem evalParts_settles (ps : List Part) (closed : PartsClosed ps) (s : Scope) :
    (evalParts s ps).Settles := by
  cases ps with
  | nil => exact .ok _
  | cons p ps =>
    exact .bind (evalPart_settles p closed.1 s) fun _ =>
      .bind (evalParts_settles ps closed.2 s) fun _ => .ok _
termination_by structural ps

theorem evalPart_settles (p : Part) (closed : p.IsClosed) (s : Scope) :
    (evalPart s p).Settles := by
  cases p with
  | text t => exact .ok t
  | value e => exact .bind (eval_settles e closed s) fun _ => .ok _
termination_by structural p

theorem evalElements_settles (es : List Element) (closed : ElementsClosed es) (s : Scope) :
    (evalElements s es).Settles := by
  cases es with
  | nil => exact .ok _
  | cons e es =>
    exact .bind (evalElement_settles e closed.1 s) fun _ =>
      .bind (evalElements_settles es closed.2 s) fun _ => .ok _
termination_by structural es

theorem evalElement_settles (e : Element) (closed : e.IsClosed) (s : Scope) :
    (evalElement s e).Settles := by
  cases e with
  | item e => exact .bind (eval_settles e closed s) fun _ => .ok _
  | spread e => exact .bind (eval_settles e closed s) fun _ => .of _
  | hole => exact .ok _
termination_by structural e

theorem evalProperties_settles (ps : List Property) (closed : PropertiesClosed ps) (s : Scope)
    (fields : Entries Value) : (evalProperties s fields ps).Settles := by
  cases ps with
  | nil => exact .ok _
  | cons p ps =>
    exact .bind (evalProperty_settles p closed.1 s fields) fun fields =>
      evalProperties_settles ps closed.2 s fields
termination_by structural ps

theorem evalProperty_settles (p : Property) (closed : p.IsClosed) (s : Scope)
    (fields : Entries Value) : (evalProperty s fields p).Settles := by
  cases p with
  | named key e => exact .bind (eval_settles e closed s) fun _ => .ok _
  | computed key e =>
    exact .bind (eval_settles key closed.1 s) fun _ =>
      .bind (eval_settles e closed.2 s) fun _ => .ok _
  | spread e => exact .bind (eval_settles e closed s) fun _ => .ok _
termination_by structural p

theorem evalArguments_settles (as : List Argument) (closed : ArgumentsClosed as) (s : Scope) :
    (evalArguments s as).Settles := by
  cases as with
  | nil => exact .ok _
  | cons a as =>
    exact .bind (evalArgument_settles a closed.1 s) fun _ =>
      .bind (evalArguments_settles as closed.2 s) fun _ => .ok _
termination_by structural as

theorem evalArgument_settles (a : Argument) (closed : a.IsClosed) (s : Scope) :
    (evalArgument s a).Settles := by
  cases a with
  | value source e => exact .bind (eval_settles e closed s) fun _ => .ok _
  | spread e => exact .bind (eval_settles e closed s) fun _ => .of _
termination_by structural a

theorem evalSequence_settles (es : List Expr) (closed : ExprsClosed es) (s : Scope)
    (last : Value) : (evalSequence s last es).Settles := by
  cases es with
  | nil => exact .ok last
  | cons e es =>
    exact .bind (eval_settles e closed.1 s) fun v => evalSequence_settles es closed.2 s v
termination_by structural es

theorem callbackOf_settles (as : List Argument) (closed : ArgumentsClosed as) (s : Scope) :
    CallbackSettles (callbackOf s as) := by
  cases as with
  | nil => exact .none
  | cons a as => exact argumentCallback_settles a closed.1 s
termination_by structural as

theorem argumentCallback_settles (a : Argument) (closed : a.IsClosed) (s : Scope) :
    CallbackSettles (argumentCallback s a) := by
  cases a with
  | value source e =>
    unfold argumentCallback
    cases isCallable : callable s e with
    | some call => exact .ok (callable_settles e closed s call isCallable)
    | none =>
      dsimp only
      split
      · split
        · exact .ok fun _ => .of _
        · exact .fail _
      · exact .fail _
  | spread e => exact .none
termination_by structural a

/-- Every call of a function that stands where it is called settles. -/
theorem callable_settles (e : Expr) (closed : e.IsClosed False) (s : Scope) :
    ∀ call ∈ callable s e, call.Settles := by
  cases e with
  | function source f =>
    intro call isCallable args
    obtain rfl := Option.some.inj isCallable
    exact invoke_settles f closed s args
  | paren body => exact callable_settles body closed s
  | _ => exact nofun
termination_by structural e

theorem invoke_settles (f : Function) (closed : f.IsClosed) (s : Scope) (args : List Value) :
    (invoke s f args).Settles := by
  cases f with
  | mk name params rest body =>
    exact .bind (.of _) fun frame => evalBody_settles body closed (s.push frame)
termination_by structural f

theorem evalBody_settles (b : Body) (closed : b.IsClosed) (s : Scope) :
    (evalBody s b).Settles := by
  cases b with
  | expr e => exact eval_settles e closed s
  | block ss => exact .bind (execAll_settles ss closed s) fun _ => .ok _
termination_by structural b

theorem execAll_settles (ss : List Stmt) (closed : StmtsClosed ss) (s : Scope) :
    (execAll s ss).Settles := by
  cases ss with
  | nil => exact .ok _
  | cons t ts =>
    refine .bind (exec_settles t closed.1 s) fun (after, returned) => ?_
    cases returned with
    | some v => exact .ok (after, some v)
    | none => exact execAll_settles ts closed.2 after
termination_by structural ss

/-- A statement without open links is executed, or it fails. -/
theorem exec_settles (t : Stmt) (closed : t.IsClosed) (s : Scope) : (exec s t).Settles := by
  cases t with
  | declare ds => exact .bind (declareAll_settles ds closed s) fun _ => .ok _
  | expr e => exact .bind (eval_settles e closed s) fun _ => .ok _
  | ret value => exact .bind (evalOption_settles value closed s) fun _ => .ok _
  | cond test consequent alternate =>
    obtain ⟨ofTest, ofConsequent, ofAlternate⟩ := closed
    refine .bind (eval_settles test ofTest s) fun v => ?_
    split
    · exact exec_settles consequent ofConsequent s
    · exact execOption_settles alternate ofAlternate s
  | block ss => exact .bind (execAll_settles ss closed _) fun _ => .ok _
  | empty => exact .ok _
  | foreign source mentions => exact .fail _
termination_by structural t

theorem execOption_settles (t : Option Stmt) (closed : OptionStmtClosed t) (s : Scope) :
    (execOption s t).Settles := by
  cases t with
  | none => exact .ok _
  | some t => exact exec_settles t closed s
termination_by structural t

theorem evalOption_settles (e : Option Expr) (closed : OptionClosed e) (s : Scope) :
    (evalOption s e).Settles := by
  cases e with
  | none => exact .ok _
  | some e => exact eval_settles e closed s
termination_by structural e

theorem declareAll_settles (ds : List Declarator) (closed : DeclaratorsClosed ds) (s : Scope) :
    (declareAll s ds).Settles := by
  cases ds with
  | nil => exact .ok s
  | cons d ds =>
    exact .bind (declare_settles d closed.1 s) fun s => declareAll_settles ds closed.2 s
termination_by structural ds

theorem declare_settles (d : Declarator) (closed : d.IsClosed) (s : Scope) :
    (declare s d).Settles := by
  cases d with
  | mk target value =>
    exact .bind (evalOption_settles value closed s) fun _ => .bind (.of _) fun _ => .ok _
termination_by structural d

end

end ComponentMarkup.Script
