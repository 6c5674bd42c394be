import ComponentMarkup.Attribute

/-!
# Conditions and loops

Directives that decide whether and how often a node is rendered.

## Main definitions

* `Condition`, `conditionOf?` — a node's place in a conditional chain
* `scheduleChildBy`, `scheduleFromBy` — which children are rendered, however conditions are tested
* `schedule`, `scheduleChildren` — which children are rendered over data, in order
* `LoopSpec`, `parseLoop?` — what a loop binds, and over what it runs
* `expandLoop` — the bindings of each iteration
-/

namespace ComponentMarkup

open Markup (Node)

/-! ### Conditional chains -/

/-- A node's place in a conditional chain. -/
inductive Condition
  | first (expression : String)
  | next (expression : String)
  | last
  deriving DecidableEq

/-- The place that a node's attributes give it. -/
def conditionOf? (n : Node) : Option Condition :=
  match n.attribute? "webc:if", n.attribute? "webc:elseif" with
  | some e, _ => some (.first e)
  | none, some e => some (.next e)
  | none, none => if n.hasAttribute "webc:else" then some .last else none

/-- Whether a condition holds. -/
def testCondition (expression : String) (data : Cascade) (file : String) : Compiled Bool :=
  (evaluateExpression expression "condition" data file).map Value.isTruthy

/-- What is known of the chain around a node. -/
inductive ChainState
  /-- No chain is open. -/
  | closed
  /-- A chain is open in which no member has been rendered yet. -/
  | pending
  /-- A chain is open in which a member has been rendered. -/
  | settled
  deriving DecidableEq

/-- The state of a chain after a condition. -/
def ChainState.after (passed : Bool) : ChainState := if passed then .settled else .pending

section Chains

variable {ε : Type} {m : Type → Type} [Monad m] [MonadExcept ε m]

/-- Whether a node is rendered, and the state of the chain after it. Comments and blank texts
leave chains alone. A node that also loops tests its condition in each iteration and opens no
chain. Conditions are tested by `test`; a later member without a chain fails with what `orphan` makes
of its directive. -/
def scheduleChildBy (orphan : String → ε) (test : String → m Bool) (chain : ChainState) (n : Node) :
    m (Bool × ChainState) :=
  if n.isComment || n.isBlank then pure (true, chain)
  else match conditionOf? n with
    | none => pure (true, .closed)
    | some (.first e) =>
      if n.hasAttribute "webc:for" then pure (true, .closed)
      else (fun passed => (passed, .after passed)) <$> test e
    | some (.next e) =>
      match chain with
      | .closed => throw (orphan "webc:elseif")
      | .settled => pure (false, .settled)
      | .pending => (fun passed => (passed, .after passed)) <$> test e
    | some .last =>
      match chain with
      | .closed => throw (orphan "webc:else")
      | .settled => pure (false, .closed)
      | .pending => pure (true, .closed)

/-- For each child whether it is rendered, from a state of the chain on. -/
def scheduleFromBy (orphan : String → ε) (test : String → m Bool) (chain : ChainState) :
    List Node → m (List Bool)
  | [] => pure []
  | n :: ns => do
    let (kept, chain) ← scheduleChildBy orphan test chain n
    let rest ← scheduleFromBy orphan test chain ns
    pure (kept :: rest)

/-- The elements that are marked. -/
def marked {α : Type} : List α → List Bool → List α
  | x :: xs, m :: ms => if m then x :: marked xs ms else marked xs ms
  | _, _ => []

/-- The children to render, in order. -/
def scheduleChildrenBy (orphan : String → ε) (test : String → m Bool) (children : List Node) :
    m (List Node) :=
  marked children <$> scheduleFromBy orphan test .closed children

end Chains

/-- Whether a node is rendered, and the state of the chain after it, by the values of conditions over
data. -/
def scheduleChild (data : Cascade) (file : String) (chain : ChainState) (n : Node) :
    Compiled (Bool × ChainState) :=
  scheduleChildBy (CompileError.orphaned · file) (testCondition · data file) chain n

/-- For each child whether it is rendered, from a state of the chain on, by the values of conditions
over data. -/
def scheduleFrom (data : Cascade) (file : String) (chain : ChainState) (ns : List Node) :
    Compiled (List Bool) :=
  scheduleFromBy (CompileError.orphaned · file) (testCondition · data file) chain ns

/-- For each child whether it is rendered. -/
def schedule (children : List Node) (data : Cascade) (file : String) : Compiled (List Bool) :=
  scheduleFrom data file .closed children

/-- The children to render, in order, by the values of conditions over data. -/
def scheduleChildren (children : List Node) (data : Cascade) (file : String) :
    Compiled (List Node) :=
  scheduleChildrenBy (CompileError.orphaned · file) (testCondition · data file) children

/-! ### Loops -/

/-- Over what a loop runs: the items of a sequence, or the entries of a mapping. -/
inductive LoopKind
  | items
  | within
  deriving DecidableEq

/-- A loop: the names it binds and the expression it runs over. -/
structure LoopSpec where
  kind : LoopKind
  bindings : List String
  source : String
  deriving DecidableEq

/-- A loop's value around its first separator. -/
def cutLoop? (cs : List Char) : Option (LoopKind × List Char × List Char) :=
  match cut? " of ".toList cs, cut? " in ".toList cs with
  | some (l, r), some (l', r') =>
    some (if l.length < l'.length then (.items, l, r) else (.within, l', r'))
  | some (l, r), none => some (.items, l, r)
  | none, some (l, r) => some (.within, l, r)
  | none, none => none

/-- The names without parentheses or braces around them. -/
def unwrapBindings (cs : List Char) : List Char :=
  match cs with
  | '(' :: inner => if inner.getLast? == some ')' then inner.dropLast else cs
  | '\x7b' :: inner => if inner.getLast? == some '\x7d' then inner.dropLast else cs
  | _ => cs

/-- What a loop binds and runs over; nothing when there is no separator, no name before it or
nothing after it. -/
def parseLoop? (value : String) : Option LoopSpec :=
  (cutLoop? value.toList).bind fun (kind, left, right) =>
    let names := splitWhere (· == ',') (unwrapBindings (trimChars left))
    let bindings := (names.map trimChars).filter (!·.isEmpty)
    let source := trimChars right
    if bindings.isEmpty || source.isEmpty then none
    else some ⟨kind, bindings.map String.ofList, String.ofList source⟩

/-- The names bound to values, as far as both go. -/
def bindNames (names : List String) (values : List Value) : Entries Value :=
  Entries.ofPairs (names.zip values)

/-- The bindings of each iteration over a value; nothing when the value does not fit the loop. -/
def iterations? (spec : LoopSpec) (source : Value) : Option (List (Entries Value)) :=
  let item (v : Value) (i : Nat) : Entries Value := bindNames spec.bindings [v, .ofNat i]
  let entry (k v : Value) (i : Nat) : Entries Value := bindNames spec.bindings [k, v, .ofNat i]
  match source, spec.kind with
  | .null, _ => some []
  | .list items, .items => some (items.zipIdx.map fun (v, i) => item v i)
  | .list items, .within => some (items.zipIdx.map fun (v, i) => entry (.ofNat i) v i)
  | .record fields, .within => some (fields.zipIdx.map fun ((k, v), i) => entry (.text k) v i)
  | .text s, .items => some (s.toList.zipIdx.map fun (c, i) => item (.text c.toString) i)
  | _, _ => none

/-- The bindings of each iteration; the expression is evaluated once. -/
def expandLoop (spec : LoopSpec) (data : Cascade) (file : String) :
    Compiled (List (Entries Value)) := do
  let source ← evaluateExpression spec.source "loop source" data file
  match iterations? spec source with
  | some rows => .ok rows
  | none => .error (.notIterable spec.source source.kind file)

end ComponentMarkup
