import ComponentMarkup.Error
import ComponentMarkup.Proofs.Script.Binding

/-!
# What values depend on

An expression is evaluated over a ground, the scope that it stands in, and puts frames of its own on
it. Where these frames are the same and two grounds agree on what the expression demands, its value
is the same, or it fails with the same error. The frames are known to have the names that the
demands leave out; statements keep this up as they add variables. They stand in bodies only, whose
frames cover the ground, so that no ground is ever changed.

## Main definitions

* `Scope.over` — a ground with frames on it
* `Extends` — a frame with variables for some names besides those of another
* `Binds` — frames have variables for some names
* `Agree` — grounds give the same for some demands
* `SameScopes`, `SameRuns` — what statements leave of equal frames over two grounds

## Main results

* `Pattern.extends_of_bind` — binding a pattern adds variables for its names
* `eval_congr` — a value depends on the frames and on what is demanded
-/

namespace ComponentMarkup.Script

/-! ### Frames -/

/-- A frame has variables for some names, and for those of another frame. -/
structure Extends (names : List String) (frame frame' : Entries Value) : Prop where
  binds : names ⊆ frame'.keys
  keeps : frame.keys ⊆ frame'.keys

namespace Extends

variable {names names' : List String} {frame frame' frame'' : Entries Value}

theorem refl (frame : Entries Value) : Extends [] frame frame := ⟨nofun, fun _ listed => listed⟩

theorem trans (first : Extends names frame frame') (rest : Extends names' frame' frame'') :
    Extends (names ++ names') frame frame'' where
  binds := List.append_subset.mpr ⟨fun _ listed => rest.keeps (first.binds listed), rest.binds⟩
  keeps := fun _ listed => rest.keeps (first.keeps listed)

theorem insert (id : String) (v : Value) (frame : Entries Value) :
    Extends [id] frame (Entries.insert id v frame) := by
  constructor <;> intro other listed <;> rw [Entries.keys_insert] <;> split <;> simp_all

theorem extend (frame pairs : Entries Value) :
    Extends pairs.keys frame (Entries.extend frame pairs) := by
  induction pairs generalizing frame with
  | nil => exact .refl frame
  | cons e pairs ih => exact (insert e.1 e.2 frame).trans (ih (Entries.insert e.1 e.2 frame))

end Extends

/-- Binding a pattern gives variables to its names and keeps those there are. -/
theorem Pattern.extends_of_bind (p : Pattern) {v : Value} {frame frame' : Entries Value}
    (bound : p.bind v frame = .ok frame') : Extends p.names frame frame' := by
  obtain ⟨pairs, named, always⟩ := (p.writes v).exists_of_eq_ok bound
  obtain rfl := Except.ok.inj ((always frame).symm.trans bound)
  exact named ▸ .extend frame pairs

theorem extends_of_bindParams (ps : List Param) {args : List Value} {frame frame' : Entries Value}
    (bound : bindParams ps args frame = .ok frame') : Extends (paramsNames ps) frame frame' := by
  induction ps generalizing args frame with
  | nil =>
    obtain rfl := Except.ok.inj bound
    exact .refl frame
  | cons p ps ih =>
    obtain ⟨target, default⟩ := p
    obtain ⟨inner, first, bound⟩ := Compiled.bind_eq_ok.mp bound
    exact (target.extends_of_bind first).trans (ih bound)

/-! ### Variables -/

/-- Frames have variables for some names. -/
def Binds (frames : List (Entries Value)) (bound : List String) : Prop :=
  ∀ id ∈ bound, ∃ frame ∈ frames, id ∈ frame.keys

namespace Binds

variable {frames : List (Entries Value)} {bound names : List String} {frame : Entries Value}

theorem nil (frames : List (Entries Value)) : Binds frames [] := nofun

theorem push (binds : Binds frames bound) (frame : Entries Value) :
    Binds (frame :: frames) bound := by
  intro id listed
  obtain ⟨inner, isFrame, found⟩ := binds id listed
  exact ⟨inner, List.mem_cons_of_mem frame isFrame, found⟩

/-- A frame of parameters binds their names. -/
theorem push_extends {start : Entries Value} (binds : Binds frames bound)
    (added : Extends names start frame) : Binds (frame :: frames) (names ++ bound) := by
  intro id listed
  rcases List.mem_append.mp listed with here | before
  · exact ⟨frame, List.mem_cons_self, added.binds here⟩
  · exact binds.push frame id before

/-- An innermost frame with more variables binds their names. -/
theorem withTop (binds : Binds frames bound) (added : Extends names (frames.headD []) frame) :
    Binds (frame :: frames.tail) (names ++ bound) := by
  intro id listed
  rcases List.mem_append.mp listed with here | before
  · exact ⟨frame, List.mem_cons_self, added.binds here⟩
  · obtain ⟨inner, isFrame, found⟩ := binds id before
    cases frames with
    | nil => exact nomatch isFrame
    | cons top outer =>
      rcases List.mem_cons.mp isFrame with rfl | isOuter
      · exact ⟨frame, List.mem_cons_self, added.keeps found⟩
      · exact ⟨inner, List.mem_cons_of_mem frame isOuter, found⟩

/-- A name that has a variable is looked up nowhere else. -/
theorem isSome_findSome? (binds : Binds frames bound) {id : String} (listed : id ∈ bound) :
    (frames.findSome? (Entries.get? id)).isSome = true := by
  obtain ⟨frame, isFrame, found⟩ := binds id listed
  rw [List.findSome?_isSome_iff]
  refine ⟨frame, isFrame, ?_⟩
  rw [Option.isSome_iff_ne_none, ne_eq, Entries.get?_eq_none_iff]
  exact not_not_intro found

end Binds

/-! ### Grounds that agree -/

/-- A scope with further frames on it, the innermost first. -/
def Scope.over (ground : Scope) (frames : List (Entries Value)) : Scope :=
  ⟨frames ++ ground.frames, ground.data⟩

/-- A name means what the frames on a ground say, else what it means there. -/
theorem Scope.get?_over (ground : Scope) (frames : List (Entries Value)) (id : String) :
    (ground.over frames).get? id = (frames.findSome? (Entries.get? id)).or (ground.get? id) := by
  unfold Scope.get? Scope.over
  rw [List.findSome?_append]
  cases frames.findSome? (Entries.get? id) <;> rfl

/-- Two grounds give the same for a demand. -/
def Demand.IsShared (g₁ g₂ : Scope) : Demand → Prop
  | .name id => g₁.get? id = g₂.get? id
  | .data => g₁.data.toRecord = g₂.data.toRecord

/-- Two grounds have the same helpers, and give the same for some demands. -/
structure Agree (g₁ g₂ : Scope) (demands : List Demand) : Prop where
  helpers : g₁.data.helpers = g₂.data.helpers
  shared : ∀ x ∈ demands, x.IsShared g₁ g₂

theorem Agree.of_append {g₁ g₂ : Scope} {ds ds' : List Demand} (agree : Agree g₁ g₂ (ds ++ ds')) :
    Agree g₁ g₂ ds ∧ Agree g₁ g₂ ds' :=
  have ⟨first, rest⟩ := List.forall_mem_append.mp agree.shared
  ⟨⟨agree.helpers, first⟩, agree.helpers, rest⟩

/-- A helper is the same over grounds that agree. -/
theorem Agree.helper?_eq {g₁ g₂ : Scope} {ds : List Demand} (agree : Agree g₁ g₂ ds)
    (frames : List (Entries Value)) (id : String) :
    (g₁.over frames).data.helper? id = (g₂.over frames).data.helper? id :=
  congrArg (Entries.get? id) agree.helpers

/-! ### Looking up -/

theorem eq_name_of_named? {e : Expr} {id : String} (named : e.named? = some id) : e = .name id := by
  cases e with
  | name other =>
    obtain rfl : other = id := Option.some.inj named
    rfl
  | _ => exact nomatch named

section Evaluation

variable {g₁ g₂ : Scope} {frames : List (Entries Value)} {bound : List String}

/-- A name that is demanded, or certainly is a variable, means the same. -/
theorem get?_congr (binds : Binds frames bound) {id : String}
    (agree : Agree g₁ g₂ ((Expr.name id).demands bound)) :
    (g₁.over frames).get? id = (g₂.over frames).get? id := by
  rw [Scope.get?_over, Scope.get?_over]
  cases found : frames.findSome? (Entries.get? id) with
  | some v => rfl
  | none =>
    -- No frame has the name, so it is none of those that the demands leave out.
    have free : id ∉ bound := by
      intro listed
      simpa [found] using binds.isSome_findSome? listed
    exact agree.shared (.name id) (by simp [Expr.demands, free])

/-- Whether an expression is the name of a namespace that is there. -/
theorem filter_hasNamespace_congr (binds : Binds frames bound) {object : Expr}
    (agree : Agree g₁ g₂ (object.demands bound)) :
    object.named?.filter (g₁.over frames).hasNamespace =
      object.named?.filter (g₂.over frames).hasNamespace := by
  cases named : object.named? with
  | none => rfl
  | some id =>
    obtain rfl := eq_name_of_named? named
    simp [Option.filter, Scope.hasNamespace, get?_congr binds agree]

theorem methodCall_congr (binds : Binds frames bound) (object : Expr)
    (agree : Agree g₁ g₂ (object.demands bound)) (value : Eval Value)
    (callback : Option (Eval Call)) (arguments : Eval (List Value)) (method : String)
    (optional : Bool) :
    methodCall (g₁.over frames) object.named? value callback arguments method optional =
      methodCall (g₂.over frames) object.named? value callback arguments method optional := by
  unfold methodCall
  rw [filter_hasNamespace_congr binds agree]

theorem callNamed_congr (binds : Binds frames bound)
    {id : String} (agree : Agree g₁ g₂ ((Expr.name id).demands bound)) (args : List Value)
    (optional : Bool) :
    callNamed (g₁.over frames) id args optional = callNamed (g₂.over frames) id args optional := by
  unfold callNamed
  rw [get?_congr binds agree, agree.helper?_eq]

/-! ### Frames over two grounds

Statements stand in bodies, so there always is a frame on the ground. -/

/-- The same frames over two grounds, with variables for some names, or the same error. -/
inductive SameScopes (g₁ g₂ : Scope) (bound : List String) : Eval Scope → Eval Scope → Prop
  | stopped (i : Interrupt) : SameScopes g₁ g₂ bound (.error i) (.error i)
  | left (top : Entries Value) (outer : List (Entries Value)) (binds : Binds (top :: outer) bound) :
    SameScopes g₁ g₂ bound (.ok (g₁.over (top :: outer))) (.ok (g₂.over (top :: outer)))

/-- The same frames over two grounds, with variables for some names, and the same value if
statements returned; or the same error. -/
inductive SameRuns (g₁ g₂ : Scope) (bound : List String) :
    Eval (Scope × Option Value) → Eval (Scope × Option Value) → Prop
  | stopped (i : Interrupt) : SameRuns g₁ g₂ bound (.error i) (.error i)
  | left (top : Entries Value) (outer : List (Entries Value)) (returned : Option Value)
      (binds : Binds (top :: outer) bound) :
    SameRuns g₁ g₂ bound (.ok (g₁.over (top :: outer), returned))
      (.ok (g₂.over (top :: outer), returned))

theorem SameScopes.bind {names : List String} {r₁ r₂ : Eval Scope} {f : Scope → Eval Scope}
    (same : SameScopes g₁ g₂ names r₁ r₂)
    (next : ∀ top outer, Binds (top :: outer) names →
      SameScopes g₁ g₂ bound (f (g₁.over (top :: outer))) (f (g₂.over (top :: outer)))) :
    SameScopes g₁ g₂ bound (r₁ >>= f) (r₂ >>= f) := by
  cases same with
  | stopped i => exact .stopped i
  | left top outer binds => exact next top outer binds

theorem SameScopes.mono {names : List String} {r₁ r₂ : Eval Scope}
    (same : SameScopes g₁ g₂ names r₁ r₂) (fewer : bound ⊆ names) :
    SameScopes g₁ g₂ bound r₁ r₂ := by
  cases same with
  | stopped i => exact .stopped i
  | left top outer binds => exact .left top outer fun id listed => binds id (fewer listed)

/-- What follows an evaluation that is the same. -/
theorem SameScopes.ofEval {r : Eval Value} {f₁ f₂ : Value → Eval Scope}
    (next : ∀ v, SameScopes g₁ g₂ bound (f₁ v) (f₂ v)) :
    SameScopes g₁ g₂ bound (r >>= f₁) (r >>= f₂) := by
  cases r with
  | error i => exact .stopped i
  | ok v => exact next v

/-- Variables are added to the innermost frame. -/
theorem SameScopes.bindTop {top : Entries Value} {outer : List (Entries Value)}
    (binds : Binds (top :: outer) bound) (p : Pattern) (v : Value) :
    SameScopes g₁ g₂ (p.names ++ bound)
      (Eval.of (p.bind v (g₁.over (top :: outer)).top) >>= fun frame =>
        .ok ((g₁.over (top :: outer)).withTop frame))
      (Eval.of (p.bind v (g₂.over (top :: outer)).top) >>= fun frame =>
        .ok ((g₂.over (top :: outer)).withTop frame)) := by
  have innermost (g : Scope) : (g.over (top :: outer)).top = top := rfl
  rw [innermost, innermost]
  cases given : p.bind v top with
  | error failure => exact .stopped _
  | ok frame => exact .left frame outer (binds.withTop (p.extends_of_bind given))

theorem SameScopes.noReturn {r₁ r₂ : Eval Scope} (same : SameScopes g₁ g₂ bound r₁ r₂) :
    SameRuns g₁ g₂ bound (r₁ >>= fun s => .ok (s, none)) (r₂ >>= fun s => .ok (s, none)) := by
  cases same with
  | stopped i => exact .stopped i
  | left top outer binds => exact .left top outer none binds

namespace SameRuns

variable {names : List String} {r₁ r₂ : Eval (Scope × Option Value)}

theorem bind {f : Scope × Option Value → Eval (Scope × Option Value)}
    (same : SameRuns g₁ g₂ names r₁ r₂)
    (next : ∀ top outer returned, Binds (top :: outer) names →
      SameRuns g₁ g₂ bound (f (g₁.over (top :: outer), returned))
        (f (g₂.over (top :: outer), returned))) :
    SameRuns g₁ g₂ bound (r₁ >>= f) (r₂ >>= f) := by
  cases same with
  | stopped i => exact .stopped i
  | left top outer returned binds => exact next top outer returned binds

/-- What follows an evaluation that is the same. -/
theorem ofEval {r : Eval Value} {f₁ f₂ : Value → Eval (Scope × Option Value)}
    (next : ∀ v, SameRuns g₁ g₂ bound (f₁ v) (f₂ v)) :
    SameRuns g₁ g₂ bound (r >>= f₁) (r >>= f₂) := by
  cases r with
  | error i => exact .stopped i
  | ok v => exact next v

theorem mono (same : SameRuns g₁ g₂ names r₁ r₂) (fewer : bound ⊆ names) :
    SameRuns g₁ g₂ bound r₁ r₂ := by
  cases same with
  | stopped i => exact .stopped i
  | left top outer returned binds =>
    exact .left top outer returned fun id listed => binds id (fewer listed)

/-- A block leaves the frames around it. -/
theorem around {top : Entries Value} {outer : List (Entries Value)}
    (same : SameRuns g₁ g₂ names r₁ r₂) (binds : Binds (top :: outer) bound) :
    SameRuns g₁ g₂ bound (r₁ >>= fun r => .ok (g₁.over (top :: outer), r.2))
      (r₂ >>= fun r => .ok (g₂.over (top :: outer), r.2)) := by
  cases same with
  | stopped i => exact .stopped i
  | left _ _ returned _ => exact .left top outer returned binds

theorem returned_eq (same : SameRuns g₁ g₂ names r₁ r₂) (f : Option Value → Eval Value) :
    (r₁ >>= fun r => f r.2) = r₂ >>= fun r => f r.2 := by
  cases same with
  | stopped i => rfl
  | left _ _ returned _ => rfl

end SameRuns

/-! ### Expressions and statements -/

-- The induction follows the syntax. Frames and the names known to be in them change on the way: a
-- call adds a frame of parameters, a block an empty one, and a declaration fills the innermost. The
-- grounds stay as they are.
mutual

/-- The value of an expression depends on the frames and on what is demanded. -/
theorem eval_congr {frames bound} (binds : Binds frames bound) (e : Expr)
    (agree : Agree g₁ g₂ (e.demands bound)) :
    eval (g₁.over frames) e = eval (g₂.over frames) e := by
  cases e with
  | template parts => rw [eval, eval, evalParts_congr binds parts agree]
  | name id => rw [eval, eval, get?_congr binds agree]
  | this => exact congrArg Except.ok (agree.shared .data (List.mem_singleton_self _))
  | array elements => rw [eval, eval, evalElements_congr binds elements agree]
  | object properties => rw [eval, eval, evalProperties_congr binds [] properties agree]
  | member object key optional =>
    have value := eval_congr binds object agree
    rw [eval, eval, value]
    -- Only for the constant of this namespace it matters whether the data have its name.
    cases named : object.named? == some "Math" with
    | false => rfl
    | true =>
      obtain rfl := eq_name_of_named? (eq_of_beq named)
      rw [get?_congr binds agree]
  | index object key optional =>
    obtain ⟨ofObject, ofKey⟩ := agree.of_append
    rw [eval, eval, eval_congr binds object ofObject, eval_congr binds key ofKey]
  | chain body => rw [eval, eval, eval_congr binds body agree]
  | call text callee arguments optional =>
    obtain ⟨ofCallee, ofArguments⟩ := agree.of_append
    rw [eval, eval, callable_congr binds callee ofCallee,
      callbackOf_congr binds arguments ofArguments,
      evalArguments_congr binds arguments ofArguments,
      evalCall_congr binds callee ofCallee]
  | unary op operand => rw [eval, eval, eval_congr binds operand agree]
  | binary op left right =>
    obtain ⟨ofLeft, ofRight⟩ := agree.of_append
    rw [eval, eval, eval_congr binds left ofLeft, eval_congr binds right ofRight]
  | logical op left right =>
    obtain ⟨ofLeft, ofRight⟩ := agree.of_append
    rw [eval, eval, eval_congr binds left ofLeft, eval_congr binds right ofRight]
  | conditional test consequent alternate =>
    obtain ⟨ofBoth, ofAlternate⟩ := agree.of_append
    obtain ⟨ofTest, ofConsequent⟩ := ofBoth.of_append
    rw [eval, eval, eval_congr binds test ofTest,
      eval_congr binds consequent ofConsequent,
      eval_congr binds alternate ofAlternate]
  | paren body => rw [eval, eval, eval_congr binds body agree]
  | await operand => rw [eval, eval, eval_congr binds operand agree]
  | sequence items => rw [eval, eval, evalSequence_congr binds .null items agree]
  | _ => rfl
termination_by structural e

theorem evalCall_congr {frames bound} (binds : Binds frames bound)
    (callee : Expr) (agree : Agree g₁ g₂ (callee.demands bound)) {text : String}
    {function : Option Call} {callback : Option (Eval Call)} {arguments : Eval (List Value)}
    {optional : Bool} :
    evalCall (g₁.over frames) text function callback arguments optional callee =
      evalCall (g₂.over frames) text function callback arguments optional callee := by
  cases callee with
  | name id =>
    unfold evalCall
    simp only [callNamed_congr binds agree]
  | member object method isOptional =>
    rw [evalCall, evalCall, eval_congr binds object agree,
      methodCall_congr binds object agree]
  | index object key isOptional =>
    obtain ⟨ofObject, ofKey⟩ := agree.of_append
    rw [evalCall, evalCall, eval_congr binds object ofObject,
      eval_congr binds key ofKey]
    simp only [methodCall_congr binds object ofObject]
  | _ => rfl
termination_by structural callee

theorem evalParts_congr {frames bound} (binds : Binds frames bound)
    (ps : List Part) (agree : Agree g₁ g₂ (partsDemands bound ps)) :
    evalParts (g₁.over frames) ps = evalParts (g₂.over frames) ps := by
  cases ps with
  | nil => rfl
  | cons p ps =>
    obtain ⟨first, rest⟩ := agree.of_append
    rw [evalParts, evalParts, evalPart_congr binds p first,
      evalParts_congr binds ps rest]
termination_by structural ps

theorem evalPart_congr {frames bound} (binds : Binds frames bound) (p : Part)
    (agree : Agree g₁ g₂ (p.demands bound)) :
    evalPart (g₁.over frames) p = evalPart (g₂.over frames) p := by
  cases p with
  | text t => rfl
  | value e => rw [evalPart, evalPart, eval_congr binds e agree]
termination_by structural p

theorem evalElements_congr {frames bound} (binds : Binds frames bound)
    (es : List Element) (agree : Agree g₁ g₂ (elementsDemands bound es)) :
    evalElements (g₁.over frames) es = evalElements (g₂.over frames) es := by
  cases es with
  | nil => rfl
  | cons e es =>
    obtain ⟨first, rest⟩ := agree.of_append
    rw [evalElements, evalElements, evalElement_congr binds e first,
      evalElements_congr binds es rest]
termination_by structural es

theorem evalElement_congr {frames bound} (binds : Binds frames bound)
    (e : Element) (agree : Agree g₁ g₂ (e.demands bound)) :
    evalElement (g₁.over frames) e = evalElement (g₂.over frames) e := by
  cases e with
  | item e => rw [evalElement, evalElement, eval_congr binds e agree]
  | spread e => rw [evalElement, evalElement, eval_congr binds e agree]
  | hole => rfl
termination_by structural e

theorem evalProperties_congr {frames bound} (binds : Binds frames bound)
    (fields : Entries Value) (ps : List Property)
    (agree : Agree g₁ g₂ (propertiesDemands bound ps)) :
    evalProperties (g₁.over frames) fields ps = evalProperties (g₂.over frames) fields ps := by
  cases ps with
  | nil => rfl
  | cons p ps =>
    obtain ⟨first, rest⟩ := agree.of_append
    -- Later properties start from the entries so far, which are the same by then.
    have more (fields : Entries Value) := evalProperties_congr binds fields ps rest
    rw [evalProperties, evalProperties, evalProperty_congr binds fields p first]
    simp only [more]
termination_by structural ps

theorem evalProperty_congr {frames bound} (binds : Binds frames bound)
    (fields : Entries Value) (p : Property) (agree : Agree g₁ g₂ (p.demands bound)) :
    evalProperty (g₁.over frames) fields p = evalProperty (g₂.over frames) fields p := by
  cases p with
  | named key e => rw [evalProperty, evalProperty, eval_congr binds e agree]
  | computed key e =>
    obtain ⟨ofKey, ofValue⟩ := agree.of_append
    rw [evalProperty, evalProperty, eval_congr binds key ofKey,
      eval_congr binds e ofValue]
  | spread e => rw [evalProperty, evalProperty, eval_congr binds e agree]
termination_by structural p

theorem evalArguments_congr {frames bound} (binds : Binds frames bound)
    (as : List Argument) (agree : Agree g₁ g₂ (argumentsDemands bound as)) :
    evalArguments (g₁.over frames) as = evalArguments (g₂.over frames) as := by
  cases as with
  | nil => rfl
  | cons a as =>
    obtain ⟨first, rest⟩ := agree.of_append
    rw [evalArguments, evalArguments, evalArgument_congr binds a first,
      evalArguments_congr binds as rest]
termination_by structural as

theorem evalArgument_congr {frames bound} (binds : Binds frames bound)
    (a : Argument) (agree : Agree g₁ g₂ (a.demands bound)) :
    evalArgument (g₁.over frames) a = evalArgument (g₂.over frames) a := by
  cases a with
  | value source e => rw [evalArgument, evalArgument, eval_congr binds e agree]
  | spread e => rw [evalArgument, evalArgument, eval_congr binds e agree]
termination_by structural a

theorem evalSequence_congr {frames bound} (binds : Binds frames bound)
    (last : Value) (es : List Expr) (agree : Agree g₁ g₂ (exprsDemands bound es)) :
    evalSequence (g₁.over frames) last es = evalSequence (g₂.over frames) last es := by
  cases es with
  | nil => rfl
  | cons e es =>
    obtain ⟨first, rest⟩ := agree.of_append
    have more (last : Value) := evalSequence_congr binds last es rest
    rw [evalSequence, evalSequence, eval_congr binds e first]
    simp only [more]
termination_by structural es

theorem callbackOf_congr {frames bound} (binds : Binds frames bound)
    (as : List Argument) (agree : Agree g₁ g₂ (argumentsDemands bound as)) :
    callbackOf (g₁.over frames) as = callbackOf (g₂.over frames) as := by
  cases as with
  | nil => rfl
  | cons a as =>
    rw [callbackOf, callbackOf, argumentCallback_congr binds a agree.of_append.1]
termination_by structural as

theorem argumentCallback_congr {frames bound} (binds : Binds frames bound)
    (a : Argument) (agree : Agree g₁ g₂ (a.demands bound)) :
    argumentCallback (g₁.over frames) a = argumentCallback (g₂.over frames) a := by
  cases a with
  | value source e =>
    unfold argumentCallback
    rw [callable_congr binds e agree]
    simp only [agree.helper?_eq]
  | spread e => rfl
termination_by structural a

theorem callable_congr {frames bound} (binds : Binds frames bound) (e : Expr)
    (agree : Agree g₁ g₂ (e.demands bound)) :
    callable (g₁.over frames) e = callable (g₂.over frames) e := by
  cases e with
  | function source f =>
    rw [callable, callable]
    exact congrArg some (funext fun args => invoke_congr binds f agree args)
  | paren body => rw [callable, callable, callable_congr binds body agree]
  | _ => rfl
termination_by structural e

/-- A call depends on the frames around the function and on what its body demands. -/
theorem invoke_congr {frames bound} (binds : Binds frames bound) (f : Function)
    (agree : Agree g₁ g₂ (f.demands bound)) (args : List Value) :
    invoke (g₁.over frames) f args = invoke (g₂.over frames) f args := by
  cases f with
  | mk name params rest body =>
    unfold invoke
    cases given : bindParams params args [] with
    | error failure => rfl
    | ok frame =>
      have inside := binds.push_extends (extends_of_bindParams params given)
      exact evalBody_congr inside body agree
termination_by structural f

theorem evalBody_congr {top outer bound} (binds : Binds (top :: outer) bound) (b : Body)
    (agree : Agree g₁ g₂ (b.demands bound)) :
    evalBody (g₁.over (top :: outer)) b = evalBody (g₂.over (top :: outer)) b := by
  cases b with
  | expr e => rw [evalBody, evalBody, eval_congr binds e agree]
  | block ss =>
    rw [evalBody, evalBody]
    exact (execAll_congr binds ss agree).returned_eq fun returned => .ok (returned.getD .null)
termination_by structural b

/-- Statements leave the same frames and return the same. -/
theorem execAll_congr {top outer bound} (binds : Binds (top :: outer) bound) (ss : List Stmt)
    (agree : Agree g₁ g₂ (stmtsDemands bound ss)) :
    SameRuns g₁ g₂ [] (execAll (g₁.over (top :: outer)) ss)
      (execAll (g₂.over (top :: outer)) ss) := by
  cases ss with
  | nil => exact .left top outer none (.nil _)
  | cons t ts =>
    obtain ⟨first, rest⟩ := agree.of_append
    rw [execAll, execAll]
    refine (exec_congr binds t first).bind fun top' outer' returned more => ?_
    cases returned with
    | some v => exact .left top' outer' (some v) (.nil _)
    | none => exact execAll_congr more ts rest
termination_by structural ss

/-- A statement leaves the same frames and returns the same. -/
theorem exec_congr {top outer bound} (binds : Binds (top :: outer) bound) (t : Stmt)
    (agree : Agree g₁ g₂ (t.demands bound)) :
    SameRuns g₁ g₂ (t.declared ++ bound) (exec (g₁.over (top :: outer)) t)
      (exec (g₂.over (top :: outer)) t) := by
  cases t with
  | declare ds =>
    rw [exec, exec]
    exact (declareAll_congr binds ds agree).noReturn
  | expr e =>
    rw [exec, exec, eval_congr binds e agree]
    exact .ofEval fun _ => .left top outer none binds
  | ret value =>
    rw [exec, exec, evalOption_congr binds value agree]
    exact .ofEval fun v => .left top outer (some v) binds
  | cond test consequent alternate =>
    obtain ⟨ofBoth, ofAlternate⟩ := agree.of_append
    obtain ⟨ofTest, ofConsequent⟩ := ofBoth.of_append
    rw [exec, exec, eval_congr binds test ofTest]
    refine .ofEval fun v => ?_
    split
    · exact (exec_congr binds consequent ofConsequent).mono (List.subset_append_right _ _)
    · exact execOption_congr binds alternate ofAlternate
  | block ss =>
    rw [exec, exec]
    exact (execAll_congr (binds.push []) ss agree).around binds
  | empty => exact .left top outer none binds
  | foreign source mentions => exact .stopped _
termination_by structural t

theorem execOption_congr {top outer bound} (binds : Binds (top :: outer) bound) (t : Option Stmt)
    (agree : Agree g₁ g₂ (optionStmtDemands bound t)) :
    SameRuns g₁ g₂ bound (execOption (g₁.over (top :: outer)) t)
      (execOption (g₂.over (top :: outer)) t) := by
  cases t with
  | none => exact .left top outer none binds
  | some t => exact (exec_congr binds t agree).mono (List.subset_append_right _ _)
termination_by structural t

theorem evalOption_congr {top outer bound} (binds : Binds (top :: outer) bound) (e : Option Expr)
    (agree : Agree g₁ g₂ (optionDemands bound e)) :
    evalOption (g₁.over (top :: outer)) e = evalOption (g₂.over (top :: outer)) e := by
  cases e with
  | none => rfl
  | some e => exact eval_congr binds e agree
termination_by structural e

theorem declareAll_congr {top outer bound} (binds : Binds (top :: outer) bound)
    (ds : List Declarator) (agree : Agree g₁ g₂ (declaratorsDemands bound ds)) :
    SameScopes g₁ g₂ (ds.flatMap Declarator.names ++ bound)
      (declareAll (g₁.over (top :: outer)) ds) (declareAll (g₂.over (top :: outer)) ds) := by
  cases ds with
  | nil => exact .left top outer binds
  | cons d ds =>
    obtain ⟨first, rest⟩ := agree.of_append
    rw [declareAll, declareAll]
    refine (declare_congr binds d first).bind fun _ _ more => ?_
    exact (declareAll_congr more ds rest).mono (by simp)
termination_by structural ds

theorem declare_congr {top outer bound} (binds : Binds (top :: outer) bound) (d : Declarator)
    (agree : Agree g₁ g₂ (d.demands bound)) :
    SameScopes g₁ g₂ (d.names ++ bound) (declare (g₁.over (top :: outer)) d)
      (declare (g₂.over (top :: outer)) d) := by
  cases d with
  | mk target value =>
    rw [declare, declare, evalOption_congr binds value agree]
    exact .ofEval fun v => .bindTop binds target v
termination_by structural d

end

end Evaluation

end ComponentMarkup.Script
