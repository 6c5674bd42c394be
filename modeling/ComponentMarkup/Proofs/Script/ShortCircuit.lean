import ComponentMarkup.Proofs.Script.Dependence
import ComponentMarkup.Proofs.Script.Grammar

/-!
# Optional links

A chain is an expression followed by links: accesses by name, accesses by key, and calls. An
optional link that finds nothing ends its chain, which is then `null`. Evaluation has not come to
the rest of the chain by then, with three exceptions. The key of the link itself, and the arguments
of a function, are evaluated before it is known that nothing is there. The key that a method is
called by is evaluated before what stands in front of it. A call of what a call gave is refused
before anything of it is evaluated. The flag of a call is looked at for functions only, so that
`object.method?.()` fails where the method is missing.

## Main definitions

* `Link`, `Expr.linked` — the links of a chain
* `Misses` — an optional link, the first of some, finds nothing
* `forerun` — what is evaluated all the same

## Main results

* `eval_linked_of_misses` — how a chain ends at a link that finds nothing
* `eval_linked_eq_shortCircuit_iff` — nothing else ends a chain
-/

namespace ComponentMarkup.Script

/-! ### Links -/

/-- A link of a chain: an access, or a call of what stands in front of it. -/
inductive Link
  | member (key : String) (optional : Bool)
  | index (key : Expr) (optional : Bool)
  | call (calleeText : String) (arguments : List Argument) (optional : Bool)

/-- The access or call that a link makes of what stands in front of it. -/
def Link.on (e : Expr) : Link → Expr
  | .member key optional => .member e key optional
  | .index key optional => .index e key optional
  | .call text arguments optional => .call text e arguments optional

/-- An expression followed by links. -/
def Expr.linked (base : Expr) (links : List Link) : Expr := links.foldl Link.on base

theorem Expr.linked_append (base : Expr) (front back : List Link) :
    base.linked (front ++ back) = (base.linked front).linked back := List.foldl_append

/-- The keys and arguments of a link have their optional links in chains of their own. -/
def Link.IsClosed : Link → Prop
  | .member _ _ => True
  | .index key _ => key.IsClosed False
  | .call _ arguments _ => ArgumentsClosed arguments

/-- What a chain holds is an expression without open links, followed by links. -/
theorem Expr.exists_eq_linked (e : Expr) (closed : e.IsClosed True) :
    ∃ (base : Expr) (links : List Link),
      e = base.linked links ∧ base.IsClosed False ∧ ∀ l ∈ links, l.IsClosed := by
  have more {object : Expr} (l : Link) (isClosed : l.IsClosed) (before : ∃ base links,
      object = Expr.linked base links ∧ base.IsClosed False ∧ ∀ l ∈ links, l.IsClosed) :
      ∃ base links, l.on object = Expr.linked base links ∧ base.IsClosed False ∧
        ∀ l ∈ links, l.IsClosed := by
    obtain ⟨base, links, rfl, ofBase, ofLinks⟩ := before
    refine ⟨base, links ++ [l], (linked_append base links [l]).symm, ofBase, ?_⟩
    simpa [or_imp, forall_and] using ⟨ofLinks, isClosed⟩
  cases e with
  | member object key optional =>
    exact more (.member key optional) trivial (object.exists_eq_linked closed.2)
  | index object key optional =>
    exact more (.index key optional) closed.2.2 (object.exists_eq_linked closed.2.1)
  | call text callee arguments optional =>
    exact more (.call text arguments optional) closed.2.2 (callee.exists_eq_linked closed.2.1)
  | _ => exact ⟨_, [], rfl, closed, nofun⟩
termination_by structural e

/-- Whether the first link is a call, so that an access before it takes a method. -/
def callsFirst : List Link → Bool
  | .call _ _ _ :: _ => true
  | _ => false

/-! ### Links that find nothing -/

/-- An expression has the value `null` and is not the name of a namespace, which has methods. -/
structure Scope.IsNothing (s : Scope) (e : Expr) : Prop where
  value : eval s e = .ok .null
  noSpace : e.named?.filter s.hasNamespace = none

/-- The first of some links is optional, and what it needs in front of it is not there: a value,
an object with methods, or a function. The one value that a namespace has is not `null`. -/
inductive Misses (s : Scope) : Expr → List Link → Prop
  | member {base : Expr} (value : eval s base = .ok .null) (key : String) (after : List Link)
      (plain : callsFirst after = false)
      (constant : ¬(base.named? = some "Math" ∧ key = "PI" ∧ s.get? "Math" = none)) :
    Misses s base (.member key true :: after)
  | index {base : Expr} (value : eval s base = .ok .null) (key : Expr) (after : List Link)
      (plain : callsFirst after = false) :
    Misses s base (.index key true :: after)
  | method {base : Expr} (nothing : s.IsNothing base) (key text : String)
      (arguments : List Argument) (optional : Bool) (after : List Link) :
    Misses s base (.member key true :: .call text arguments optional :: after)
  | methodAt {base : Expr} (nothing : s.IsNothing base) (key : Expr) (text : String)
      (arguments : List Argument) (optional : Bool) (after : List Link) :
    Misses s base (.index key true :: .call text arguments optional :: after)
  | call {name : String} (missing : s.Lacks name) (text : String) (arguments : List Argument)
      (after : List Link) :
    Misses s (.name name) (.call text arguments true :: after)

/-- A link finds nothing also when more links follow, unless the first of them calls it as a
method. -/
theorem Misses.append {s : Scope} {base : Expr} {links : List Link} (misses : Misses s base links)
    {more : List Link} (plain : callsFirst more = false) : Misses s base (links ++ more) := by
  have still {after : List Link} (first : callsFirst after = false) :
      callsFirst (after ++ more) = false := by
    cases after with
    | nil => exact plain
    | cons l after => cases l <;> first | rfl | exact first
  cases misses with
  | member value key after first constant => exact .member value key _ (still first) constant
  | index value key after first => exact .index value key _ (still first)
  | method nothing key text arguments optional after =>
    exact .method nothing key text arguments optional _
  | methodAt nothing key text arguments optional after =>
    exact .methodAt nothing key text arguments optional _
  | call missing text arguments after => exact .call missing text arguments _

/-! ### What is evaluated all the same -/

/-- What is evaluated of links when their chain ended before them, from the last one on: the keys
of methods that are called. A call of anything but a method is refused. -/
def overrun (s : Scope) : List Link → Eval Unit
  | [] => .ok ()
  | .member _ _ :: .call _ _ _ :: after => overrun s after
  | .index key _ :: .call _ _ _ :: after => do
    overrun s after
    let _ ← eval s key
    .ok ()
  | .call text _ _ :: after => do
    overrun s after
    Eval.fail (.unsupported text)
  | .member _ _ :: after => overrun s after
  | .index _ _ :: after => overrun s after

/-- What a link evaluates besides what stands in front of it. -/
def Link.evaluated (s : Scope) : Link → Eval Unit
  | .member _ _ => .ok ()
  | .index key _ => do
    let _ ← eval s key
    .ok ()
  | .call _ arguments _ => do
    let _ ← evalArguments s arguments
    .ok ()

/-- The links after a link, without the call if the link takes the method that is called. -/
def Link.later : Link → List Link → List Link
  | .call _ _ _, after => after
  | _, .call _ _ _ :: after => after
  | _, after => after

/-- What is evaluated of links when the first one finds nothing: what the later ones evaluate all
the same, then the key or the arguments of the first. -/
def forerun (s : Scope) : List Link → Eval Unit
  | [] => .ok ()
  | l :: after => do
    overrun s (l.later after)
    l.evaluated s

/-- How a chain ends where a link finds nothing: it fails if what is evaluated all the same
fails. -/
def endedAfter (r : Eval Unit) : Eval Value := r >>= fun _ => .error .shortCircuit

/-- A chain that ends is `null` exactly if nothing that is evaluated all the same fails. -/
theorem closeChain_endedAfter_eq_null_iff {r : Eval Unit} :
    closeChain (endedAfter r) = .ok .null ↔ ∀ f, r ≠ .error (.failed f) := by
  match r with
  | .ok () => exact ⟨fun _ => nofun, fun _ => rfl⟩
  | .error .shortCircuit => exact ⟨fun _ => nofun, fun _ => rfl⟩
  | .error (.failed f) => exact ⟨nofun, fun none => absurd rfl (none f)⟩

section Settles

variable {s : Scope} {links : List Link}

theorem settles_overrun (closed : ∀ l ∈ links, l.IsClosed) : (overrun s links).Settles := by
  fun_induction overrun s links with
  | case1 => exact .ok ()
  | case2 key optional text arguments isOptional after ih =>
    exact ih fun l listed => closed l (by simp [listed])
  | case3 key optional text arguments isOptional after ih =>
    refine .bind (ih fun l listed => closed l (by simp [listed])) fun _ => ?_
    have ofKey : key.IsClosed False := closed (.index key optional) (by simp)
    exact .bind (eval_settles key ofKey s) fun _ => .ok ()
  | case4 text arguments optional after ih =>
    exact .bind (ih fun l listed => closed l (by simp [listed])) fun _ => .fail _
  | case5 key optional after plain ih => exact ih fun l listed => closed l (by simp [listed])
  | case6 key optional after plain ih => exact ih fun l listed => closed l (by simp [listed])

theorem Link.settles_evaluated {l : Link} (closed : l.IsClosed) : (l.evaluated s).Settles := by
  cases l with
  | member key optional => exact .ok ()
  | index key optional => exact .bind (eval_settles key closed s) fun _ => .ok ()
  | call text arguments optional =>
    exact .bind (evalArguments_settles arguments closed s) fun _ => .ok ()

theorem Link.later_subset (l : Link) (after : List Link) : l.later after ⊆ after := by
  unfold Link.later
  split
  · exact List.Subset.refl _
  · exact List.subset_cons_self _ _
  · exact List.Subset.refl _

theorem settles_forerun (closed : ∀ l ∈ links, l.IsClosed) : (forerun s links).Settles := by
  cases links with
  | nil => exact .ok ()
  | cons l after =>
    obtain ⟨ofFirst, ofAfter⟩ := List.forall_mem_cons.mp closed
    refine .bind (settles_overrun fun l' listed => ofAfter l' (l.later_subset after listed)) ?_
    exact fun _ => l.settles_evaluated ofFirst

end Settles

/-! ### Chains that ended -/

/-- Whether the expression is a call. -/
def Expr.isCall : Expr → Bool
  | .call _ _ _ _ => true
  | _ => false

section Ended

variable {s : Scope} {e : Expr} {i : Interrupt}

/-- What ended is no name, since names have values. -/
theorem named?_eq_none (ended : eval s e = .error i) : e.named? = none := by
  cases e with
  | name id => exact nomatch ended
  | _ => rfl

theorem eval_member_of_error (ended : eval s e = .error i) (key : String) (optional : Bool) :
    eval s (.member e key optional) = .error i := by
  rw [eval, named?_eq_none ended, ended]
  rfl

theorem eval_index_of_error (ended : eval s e = .error i) (key : Expr) (optional : Bool) :
    eval s (.index e key optional) = .error i := by
  rw [eval, ended]
  rfl

theorem eval_call_member_of_error (ended : eval s e = .error i) (key text : String)
    (arguments : List Argument) (optional called : Bool) :
    eval s (.call text (.member e key optional) arguments called) = .error i := by
  rw [eval, evalCall, named?_eq_none ended, ended]
  rfl

theorem eval_call_index_of_error (ended : eval s e = .error i) (key : Expr) (text : String)
    (arguments : List Argument) (optional called : Bool) :
    eval s (.call text (.index e key optional) arguments called) =
      eval s key >>= fun _ => .error i := by
  rw [eval, evalCall, named?_eq_none ended, ended]
  rfl

/-- What a call gave cannot be called. -/
theorem eval_call_of_isCall (isCall : e.isCall = true) (text : String)
    (arguments : List Argument) (optional : Bool) :
    eval s (.call text e arguments optional) = Eval.fail (.unsupported text) := by
  cases e with
  | call => rfl
  | _ => exact nomatch isCall

theorem callsFirst_eq_false {links : List Link}
    (plain : ∀ text arguments optional after, links = .call text arguments optional :: after →
      False) : callsFirst links = false := by
  unfold callsFirst
  split
  · exact (plain _ _ _ _ rfl).elim
  · rfl

/-- Links after an expression that ended evaluate what they always evaluate, and end as it did. -/
theorem eval_linked_of_error (links : List Link) (ended : eval s e = .error i)
    (called : callsFirst links = true → e.isCall = true) :
    eval s (e.linked links) = overrun s links >>= fun _ => .error i := by
  fun_induction overrun s links generalizing e i with
  | case1 => exact ended
  | case2 key optional text arguments isOptional after ih =>
    exact ih (eval_call_member_of_error ended key text arguments optional isOptional) fun _ => rfl
  | case3 key optional text arguments isOptional after ih =>
    have now := eval_call_index_of_error ended key text arguments optional isOptional
    -- The key of the method comes first: if it fails, it is the reason from here on.
    cases given : eval s key with
    | ok k =>
      rw [given] at now
      refine (ih now fun _ => rfl).trans ?_
      cases overrun s after <;> rfl
    | error j =>
      rw [given] at now
      refine (ih now fun _ => rfl).trans ?_
      cases overrun s after <;> rfl
  | case4 text arguments optional after ih =>
    refine (ih (eval_call_of_isCall (called rfl) text arguments optional) fun _ => rfl).trans ?_
    cases overrun s after <;> rfl
  | case5 key optional after plain ih =>
    refine ih (eval_member_of_error ended key optional) fun isCall => ?_
    exact absurd isCall (by simp [callsFirst_eq_false plain])
  | case6 key optional after plain ih =>
    refine ih (eval_index_of_error ended key optional) fun isCall => ?_
    exact absurd isCall (by simp [callsFirst_eq_false plain])

/-- The same where something was evaluated before the end. -/
theorem eval_linked_of_bind_error {r : Eval Unit} (links : List Link)
    (ended : eval s e = r >>= fun _ => .error i)
    (called : callsFirst links = true → e.isCall = true) :
    eval s (e.linked links) = (overrun s links >>= fun _ => r) >>= fun _ => .error i := by
  cases r with
  | ok =>
    refine (eval_linked_of_error links ended called).trans ?_
    cases overrun s links <;> rfl
  | error i =>
    refine (eval_linked_of_error links ended called).trans ?_
    cases overrun s links <;> rfl

end Ended

section Chain

variable {s : Scope} {base : Expr} {links : List Link}

theorem later_of_plain {l : Link} {after : List Link} (plain : callsFirst after = false) :
    l.later after = after := by
  cases l <;> cases after with
  | nil => rfl
  | cons l' after => cases l' <;> first | rfl | exact nomatch plain

theorem callNamed_of_lacks {name : String} (missing : s.Lacks name) (args : List Value) :
    callNamed s name args true = .error .shortCircuit := by
  simp [callNamed, missing.noValue, missing.noHelper, missing.noFunction args]

/-- Where a link finds nothing, its chain ends, unless what is evaluated all the same fails. -/
theorem eval_linked_of_misses (misses : Misses s base links) :
    eval s (base.linked links) = endedAfter (forerun s links) := by
  cases misses with
  | member value key after plain constant =>
    have now : eval s (.member base key true) =
        endedAfter ((Link.member key true).evaluated s) := by
      rw [eval, if_neg (by simpa using constant), value]
      rfl
    rw [forerun, later_of_plain plain]
    exact eval_linked_of_bind_error after now (by simp [plain])
  | index value key after plain =>
    have now : eval s (.index base key true) =
        endedAfter ((Link.index key true).evaluated s) := by
      rw [eval, value, Link.evaluated]
      cases eval s key <;> rfl
    rw [forerun, later_of_plain plain]
    exact eval_linked_of_bind_error after now (by simp [plain])
  | method nothing key text arguments optional after =>
    have now : eval s (.call text (.member base key true) arguments optional) =
        endedAfter ((Link.member key true).evaluated s) := by
      rw [eval, evalCall, methodCall, nothing.noSpace, nothing.value]
      rfl
    exact eval_linked_of_bind_error after now fun _ => rfl
  | methodAt nothing key text arguments optional after =>
    have now : eval s (.call text (.index base key true) arguments optional) =
        endedAfter ((Link.index key true).evaluated s) := by
      rw [eval, evalCall, Link.evaluated]
      cases eval s key with
      | error i => rfl
      | ok k =>
        simp only [methodCall, nothing.noSpace, nothing.value]
        rfl
    exact eval_linked_of_bind_error after now fun _ => rfl
  | @call name missing text arguments after =>
    have now : eval s (.call text (.name name) arguments true) =
        endedAfter ((Link.call text arguments true).evaluated s) := by
      rw [eval, evalCall, Link.evaluated]
      cases evalArguments s arguments with
      | error i => rfl
      | ok args => exact callNamed_of_lacks missing args
    exact eval_linked_of_bind_error after now fun _ => rfl

/-! ### Nothing else ends a chain -/

/-- The flag of a call is looked at only where a function is called by its name. -/
theorem eval_call_of_named?_eq_none {callee : Expr} (unnamed : callee.named? = none)
    (text : String) (arguments : List Argument) (optional : Bool) :
    eval s (.call text callee arguments optional) =
      eval s (.call text callee arguments false) := by
  cases callee with
  | name id => exact nomatch unnamed
  | _ => rfl

/-- An access ended what stands in front of it, or finds nothing there. -/
theorem misses_of_member_ended {object : Expr} {key : String} {optional : Bool}
    (ended : eval s (.member object key optional) = .error .shortCircuit) :
    eval s object = .error .shortCircuit ∨ Misses s object [.member key optional] := by
  rw [eval] at ended
  split at ended
  · exact nomatch ended
  next constant =>
    refine (bind_eq_shortCircuit ended).imp_right ?_
    rintro ⟨v, value, here⟩
    obtain ⟨rfl, rfl⟩ := access_eq_shortCircuit here
    exact .member value key [] rfl (by simpa using constant)

/-- The same for an access by a key without open links. -/
theorem misses_of_index_ended {object key : Expr} {optional : Bool} (ofKey : key.IsClosed False)
    (ended : eval s (.index object key optional) = .error .shortCircuit) :
    eval s object = .error .shortCircuit ∨ Misses s object [.index key optional] := by
  refine (bind_eq_shortCircuit ended).imp_right ?_
  rintro ⟨v, value, here⟩
  obtain early | ⟨k, -, here⟩ := bind_eq_shortCircuit here
  · exact absurd early (eval_settles key ofKey s)
  · obtain ⟨rfl, rfl⟩ := access_eq_shortCircuit here
    exact .index value key [] rfl

/-- A call of a method ended the object, or the method finds nothing there. -/
theorem misses_of_method_ended {object : Expr} {key text : String} {arguments : List Argument}
    {isOptional optional : Bool} (ofArguments : ArgumentsClosed arguments)
    (ended : eval s (.call text (.member object key isOptional) arguments optional) =
      .error .shortCircuit) :
    eval s object = .error .shortCircuit ∨
      Misses s object [.member key isOptional, .call text arguments optional] := by
  refine (methodCall_eq_shortCircuit (callbackOf_settles arguments ofArguments s)
    (evalArguments_settles arguments ofArguments s) ended).imp_right ?_
  rintro ⟨rfl, value, noSpace⟩
  exact .method ⟨value, noSpace⟩ key text arguments optional []

/-- The same for a method that is taken by a key without open links. -/
theorem misses_of_methodAt_ended {object key : Expr} {text : String} {arguments : List Argument}
    {isOptional optional : Bool} (ofKey : key.IsClosed False)
    (ofArguments : ArgumentsClosed arguments)
    (ended : eval s (.call text (.index object key isOptional) arguments optional) =
      .error .shortCircuit) :
    eval s object = .error .shortCircuit ∨
      Misses s object [.index key isOptional, .call text arguments optional] := by
  obtain early | ⟨k, -, here⟩ := bind_eq_shortCircuit ended
  · exact absurd early (eval_settles key ofKey s)
  refine (methodCall_eq_shortCircuit (callbackOf_settles arguments ofArguments s)
    (evalArguments_settles arguments ofArguments s) here).imp_right ?_
  rintro ⟨rfl, value, noSpace⟩
  exact .methodAt ⟨value, noSpace⟩ key text arguments optional []

/-- A call of an expression without open links ends a chain only where a function is missing. -/
theorem misses_of_call_ended {text : String} {arguments : List Argument} {optional : Bool}
    (ofBase : base.IsClosed False) (ofArguments : ArgumentsClosed arguments)
    (ended : eval s (.call text base arguments optional) = .error .shortCircuit) :
    Misses s base [.call text arguments optional] := by
  cases named : base.named? with
  | none =>
    have closed : (Expr.call text base arguments false).IsClosed False :=
      ⟨nofun, ofBase, ofArguments⟩
    rw [eval_call_of_named?_eq_none named] at ended
    exact absurd ended (eval_settles _ closed s)
  | some name =>
    obtain rfl := eq_name_of_named? named
    obtain early | ⟨args, -, here⟩ := bind_eq_shortCircuit ended
    · exact absurd early (evalArguments_settles arguments ofArguments s)
    · obtain ⟨rfl, missing⟩ := callNamed_eq_shortCircuit here
      exact .call missing text arguments []

/-- A link that finds nothing is among all links, whether it comes last or before. -/
theorem exists_misses_append {front more : List Link} (plain : callsFirst more = false)
    (found : (∃ front' back, front = front' ++ back ∧ Misses s (base.linked front') back) ∨
      Misses s (base.linked front) more) :
    ∃ front' back, front ++ more = front' ++ back ∧ Misses s (base.linked front') back := by
  obtain ⟨front', back, rfl, misses⟩ | misses := found
  · exact ⟨front', back ++ more, List.append_assoc .., misses.append plain⟩
  · exact ⟨front, more, rfl, misses⟩

/-- In a chain that ended, one of the links found nothing: the last one, the method that the last
one calls, or one before. -/
theorem exists_misses_of_ended (links : List Link) (ofBase : base.IsClosed False)
    (closed : ∀ l ∈ links, l.IsClosed)
    (ended : eval s (base.linked links) = .error .shortCircuit) :
    ∃ front back, links = front ++ back ∧ Misses s (base.linked front) back := by
  obtain rfl | ⟨front, l, rfl⟩ := links.eq_nil_or_concat
  · exact absurd ended (eval_settles base ofBase s)
  rw [List.concat_eq_append] at *
  rw [Expr.linked_append] at ended
  obtain ⟨ofFront, ofLast⟩ := List.forall_mem_append.mp closed
  have ofLink := ofLast l (List.mem_singleton_self l)
  cases l with
  | member key optional =>
    exact exists_misses_append rfl ((misses_of_member_ended ended).imp_left fun early =>
      exists_misses_of_ended front ofBase ofFront early)
  | index key optional =>
    exact exists_misses_append rfl ((misses_of_index_ended ofLink ended).imp_left fun early =>
      exists_misses_of_ended front ofBase ofFront early)
  | call text arguments optional =>
    -- What is called is the base, a method that the link before takes, or what a call gave.
    obtain rfl | ⟨object, l, rfl⟩ := front.eq_nil_or_concat
    · exact ⟨[], _, rfl, misses_of_call_ended ofBase ofLink ended⟩
    rw [List.concat_eq_append] at *
    rw [Expr.linked_append] at ended
    obtain ⟨ofObject, ofMethod⟩ := List.forall_mem_append.mp ofFront
    have ofKey := ofMethod l (List.mem_singleton_self l)
    rw [List.append_assoc]
    cases l with
    | member key isOptional =>
      exact exists_misses_append rfl ((misses_of_method_ended ofLink ended).imp_left fun early =>
        exists_misses_of_ended object ofBase ofObject early)
    | index key isOptional =>
      have here := misses_of_methodAt_ended ofKey ofLink ended
      exact exists_misses_append rfl (here.imp_left fun early =>
        exists_misses_of_ended object ofBase ofObject early)
    | call => exact nomatch ended
termination_by links.length

/-- A chain ends exactly where an optional link of its own finds nothing and what is evaluated all
the same does not fail. -/
theorem eval_linked_eq_shortCircuit_iff (ofBase : base.IsClosed False)
    (closed : ∀ l ∈ links, l.IsClosed) :
    eval s (base.linked links) = .error .shortCircuit ↔
      ∃ front back, links = front ++ back ∧ Misses s (base.linked front) back ∧
        forerun s back = .ok () := by
  constructor
  · intro ended
    obtain ⟨front, back, rfl, misses⟩ := exists_misses_of_ended links ofBase closed ended
    refine ⟨front, back, rfl, misses, ?_⟩
    rw [Expr.linked_append, eval_linked_of_misses misses] at ended
    obtain early | ⟨_, given, -⟩ := bind_eq_shortCircuit ended
    · exact absurd early (settles_forerun (List.forall_mem_append.mp closed).2)
    · exact given
  · rintro ⟨front, back, rfl, misses, given⟩
    rw [Expr.linked_append, eval_linked_of_misses misses, given]
    rfl

/-! ### Methods that are missing -/

/-- The names of the methods that a value has. -/
def methodNames : Value → List String
  | .list _ =>
    ["map", "filter", "find", "findIndex", "some", "every", "join", "includes", "indexOf", "slice",
      "concat", "reverse", "at"]
  | .text _ =>
    ["toUpperCase", "toLowerCase", "trim", "trimStart", "trimEnd", "toString", "includes",
      "startsWith", "endsWith", "indexOf", "split", "slice", "replace", "replaceAll", "repeat",
      "charAt"]
  | .number _ => ["toFixed", "toString"]
  | .record _ => ["hasOwnProperty"]
  | _ => []

theorem callMethod_of_missing {v : Value} {method : String} (missing : method ∉ methodNames v)
    (args : List Value) :
    callMethod v method args = Eval.fail (.notFunction (v.kind ++ "." ++ method)) := by
  unfold callMethod
  cases v with
  | list items =>
    have none : listMethod items method args = .error (.notFunction ("array." ++ method)) := by
      simp_all [methodNames, listMethod]
    exact congrArg Eval.of none
  | text t =>
    have none : textMethod t method args = .error (.notFunction ("string." ++ method)) := by
      simp_all [methodNames, textMethod]
    exact congrArg Eval.of none
  | number n =>
    have none : numberMethod n.toFloat method args =
        .error (.notFunction ("number." ++ method)) := by
      simp_all [methodNames, numberMethod]
    exact congrArg Eval.of none
  | record fields =>
    dsimp only
    rw [if_neg (by simpa [methodNames] using missing)]
    rfl
  | _ => rfl

/-- A call of a method that the object does not have fails, also if the call is optional. -/
theorem eval_call_of_missing {object : Expr} {v : Value} (value : eval s object = .ok v)
    (present : v ≠ .null) (noSpace : object.named?.filter s.hasNamespace = none) {method : String}
    (missing : method ∉ methodNames v) (text : String) (arguments : List Argument)
    (optional called : Bool) :
    eval s (.call text (.member object method optional) arguments called) =
      (Link.call text arguments called).evaluated s >>= fun _ =>
        .error (.failed (.notFunction (v.kind ++ "." ++ method))) := by
  have notNull : v.isNull = false :=
    Bool.eq_false_iff.mpr fun nothing => present (eq_null_of_isNull nothing)
  have plain (items : List Value) (isList : v = .list items) : isCallbackMethod method = false := by
    subst isList
    simp_all [methodNames, isCallbackMethod]
  rw [eval, evalCall, methodCall, noSpace, value]
  simp only [bind, Except.bind, notNull, Bool.false_eq_true, if_false, Link.evaluated]
  split
  next items isCallback =>
    rw [plain items rfl] at isCallback
    exact nomatch isCallback
  next =>
    cases evalArguments s arguments with
    | error i => rfl
    | ok args => exact callMethod_of_missing missing args

end Chain

theorem exists_failed_of_settles {α : Type} {r : Eval Unit} (settles : r.Settles) (f : Failure) :
    ∃ f', (r >>= fun _ => .error (.failed f)) = (.error (.failed f') : Eval α) := by
  match r with
  | .ok () => exact ⟨f, rfl⟩
  | .error (.failed f') => exact ⟨f', rfl⟩
  | .error .shortCircuit => exact absurd rfl settles

/-! ### Optional links -/

/-- Optional links, in a chain whose keys and arguments have theirs in chains of their own. Where
one finds nothing, the chain is `null` if nothing that is evaluated all the same fails, and only
then. Where the method of an optional call is missing, the chain fails. Nothing else ends a chain,
no chain ends what it stands in, and the grammar reads no links outside of chains. -/
theorem eval_chain_of_optionalLinks {s : Scope} {base : Expr} {links : List Link}
    (ofBase : base.IsClosed False) (closed : ∀ l ∈ links, l.IsClosed) :
    (∀ front back, links = front ++ back → Misses s (base.linked front) back →
      eval s (.chain (base.linked links)) = closeChain (endedAfter (forerun s back)) ∧
      (eval s (.chain (base.linked links)) = .ok .null ↔
        ∀ f, forerun s back ≠ .error (.failed f))) ∧
    (∀ front back v method text arguments optional called,
      links = front ++ .member method optional :: .call text arguments called :: back →
      eval s (base.linked front) = .ok v → v ≠ .null →
      (base.linked front).named?.filter s.hasNamespace = none → method ∉ methodNames v →
      ∃ f, eval s (.chain (base.linked links)) = .error (.failed f)) ∧
    (eval s (base.linked links) = .error .shortCircuit ↔
      ∃ front back, links = front ++ back ∧ Misses s (base.linked front) back ∧
        forerun s back = .ok ()) ∧
    (eval s (.chain (base.linked links))).Settles ∧
    ∀ text e, parseExpression? text = some e → e.IsClosed False ∧ (eval s e).Settles := by
  refine ⟨fun front back whole misses => ?_, ?_,
    eval_linked_eq_shortCircuit_iff ofBase closed, .closeChain _, fun text e parsed =>
      ⟨isClosed_of_parseExpression? parsed, settles_of_parseExpression? parsed s⟩⟩
  · have ended : eval s (.chain (base.linked links)) =
        closeChain (endedAfter (forerun s back)) := by
      rw [eval, whole, Expr.linked_append, eval_linked_of_misses misses]
    exact ⟨ended, ended ▸ closeChain_endedAfter_eq_null_iff⟩
  · intro front back v method text arguments optional called whole value present noSpace missing
    have refused :=
      eval_call_of_missing value present noSpace missing text arguments optional called
    have ended := eval_linked_of_bind_error back refused fun _ => rfl
    rw [whole, List.forall_mem_append, List.forall_mem_cons, List.forall_mem_cons] at closed
    obtain ⟨-, -, ofCall, ofBack⟩ := closed
    obtain ⟨f, failed⟩ := exists_failed_of_settles
      (.bind (settles_overrun (s := s) ofBack) fun _ => Link.settles_evaluated ofCall) _
    refine ⟨f, ?_⟩
    rw [eval, whole, Expr.linked_append]
    exact congrArg closeChain (ended.trans failed)

/-- Data with a name that stands for nothing. -/
def vacancy : Scope := .ofData (.ofGlobals [("a", .null)] [])

/-- The links of the chain `a?.b(c())`. -/
def vacantLinks : List Link :=
  [.member "b" true, .call "a?.b" [.value "c()" (.call "c" (.name "c") [] false)] false]

theorem eval_chain_of_optionalLinks_vacant :
    (Expr.name "a").IsClosed False ∧ (∀ l ∈ vacantLinks, l.IsClosed) ∧
      Misses vacancy (.name "a") vacantLinks ∧ forerun vacancy vacantLinks = .ok () ∧
      eval vacancy (.chain ((Expr.name "a").linked vacantLinks)) = .ok .null := by
  have ofLinks : ∀ l ∈ vacantLinks, l.IsClosed := by
    simp [vacantLinks, Link.IsClosed, ArgumentsClosed, Argument.IsClosed, Expr.IsClosed]
  have misses : Misses vacancy (.name "a") vacantLinks :=
    .method ⟨rfl, by decide⟩ "b" "a?.b" _ false []
  have nothingElse : forerun vacancy vacantLinks = .ok () := rfl
  have atMiss := (@eval_chain_of_optionalLinks vacancy (.name "a") vacantLinks trivial ofLinks).1
  refine ⟨trivial, ofLinks, misses, nothingElse, (atMiss [] vacantLinks rfl misses).2.mpr ?_⟩
  intro f failed
  cases nothingElse.symm.trans failed

/-- Why an expression gives no value without data, if it does not. -/
def failureOf? (text : String) : Option Failure :=
  match evaluate text [] (.ofGlobals [] []) with
  | .ok _ => none
  | .error f => some f

/-- Optional links that find nothing, in chains that fail: the key of the link and the arguments of
a missing function are evaluated, the key of a later method is evaluated, a call of a call is
refused, and a missing method is called. -/
theorem exists_chain_ne_null :
    Misses (.ofData (.ofGlobals [] [])) .null [.index (.call "nope" (.name "nope") [] false) true] ∧
      failureOf? "null?.[nope()]" = some (.notDefined "nope") ∧
      failureOf? "none?.(nope())" = some (.notDefined "nope") ∧
      failureOf? "null?.b[nope()]()" = some (.notDefined "nope") ∧
      failureOf? "null?.b()()" = some (.unsupported "null?.b()") ∧
      failureOf? "'x'.nope?.()" = some (.notFunction "string.nope") :=
  ⟨.index rfl _ [] rfl, by decide +kernel⟩

end ComponentMarkup.Script
