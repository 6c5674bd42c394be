import ComponentMarkup.Proofs.Script.Enclosure

/-!
# What the grammar reads

In what the grammar reads, every optional link stands in a chain: links are gathered one after
another, with a flag that tells whether one of them was optional, and the chain is closed where they
end. What is read by a rule has this property if what the rules it refers to read has it, so that
the whole grammar has it at every depth.

## Main definitions

* `Yields` — all results of a parser have a property
* `Rules.AreClosed` — the rules read closed expressions and statements

## Main results

* `isClosed_of_parseExpression?`, `isClosed_of_parseModule?` — what source texts hold is closed
* `settles_of_parseExpression?`, `settles_of_parseModule?` — so it has a value, or it fails
-/

namespace ComponentMarkup.Script

/-! ### Results of parsers -/

/-- All results of a parser have a property. -/
def Yields {α : Type} (p : Parser α) (P : α → Prop) : Prop := ∀ s a s', p s = some (a, s') → P a

namespace Yields

variable {α β σ : Type} {P : α → Prop} {Q : β → Prop}

theorem pure {a : α} (holds : P a) : Yields (Pure.pure a) P := by
  rintro s _ _ ⟨⟩
  exact holds

theorem failure : Yields (failure : Parser α) P := by
  rintro s a s' ⟨⟩

theorem bind {p : Parser α} {f : α → Parser β} (first : Yields p P)
    (next : ∀ a, P a → Yields (f a) Q) : Yields (p >>= f) Q := by
  intro s b s' read
  obtain ⟨⟨a, middle⟩, given, read⟩ := Option.bind_eq_some_iff.mp read
  exact next a (first s a middle given) middle b s' read

/-- What is read before may be anything. -/
theorem after {p : Parser α} {f : α → Parser β} (next : ∀ a, Yields (f a) Q) :
    Yields (p >>= f) Q :=
  bind (P := fun _ => True) (fun _ _ _ _ => trivial) fun a _ => next a

theorem ite {c : Prop} [Decidable c] {p q : Parser α} (yes : Yields p P) (no : Yields q P) :
    Yields (if c then p else q) P := by
  split
  · exact yes
  · exact no

/-- What is read under a condition, or nothing. -/
theorem guard {c : Prop} [Decidable c] {p : Unit → Parser α} (next : Yields (p ()) P) :
    Yields (if c then (Alternative.failure >>= p) else p ()) P :=
  ite (after fun _ => next) next

/-- Two ways to go on alike. -/
theorem join {c : Prop} [Decidable c] {p q : Parser α} {f : α → Parser β}
    (next : ∀ a, Yields (f a) Q) : Yields (if c then p >>= f else q >>= f) Q :=
  ite (after next) (after next)

theorem mono {P' : α → Prop} {p : Parser α} (yields : Yields p P) (weaker : ∀ a, P a → P' a) :
    Yields p P' := fun s a s' read => weaker a (yields s a s' read)

theorem within {change : Cursor → Cursor} {p : Parser α} (yields : Yields p P) :
    Yields (within change p) P := by
  intro s a s' read
  obtain ⟨⟨b, middle⟩, given, same⟩ := Option.bind_eq_some_iff.mp read
  obtain ⟨rfl, -⟩ := Prod.mk.inj (Option.some.inj same)
  exact yields _ _ _ given

theorem attempt {p : Parser α} (yields : Yields p P) :
    Yields (attempt p) fun found => ∀ a ∈ found, P a := by
  intro s found s' read
  unfold Script.attempt at read
  split at read
  next a middle given =>
    obtain ⟨rfl, -⟩ := Prod.mk.inj (Option.some.inj read)
    rintro _ ⟨⟩
    exact yields s a middle given
  next =>
    obtain ⟨rfl, -⟩ := Prod.mk.inj (Option.some.inj read)
    exact nofun

theorem iterate {step : α → Parser (Option α)} {acc : α} (start : P acc)
    (keeps : ∀ acc, P acc → Yields (step acc) fun next => ∀ acc' ∈ next, P acc') :
    Yields (iterate step acc) P := by
  have run (steps : Nat) : ∀ acc, P acc → Yields (repeatWith step steps acc) P := by
    induction steps with
    | zero => exact fun _ _ => failure
    | succ steps ih =>
      intro acc holds
      refine bind (keeps acc holds) fun next holds' => ?_
      cases next with
      | none => exact pure holds
      | some acc' => exact ih acc' (holds' acc' rfl)
  exact after fun s => run _ acc start

/-- One more item, in front of those gathered so far. -/
theorem gathered {a : α} {acc : List α} (holds : P a) (before : ∀ a ∈ acc, P a) :
    Yields (Pure.pure (some (a :: acc))) fun next => ∀ acc' ∈ next, ∀ a ∈ acc', P a := by
  refine pure ?_
  rintro _ ⟨⟩
  exact List.forall_mem_cons.mpr ⟨holds, before⟩

theorem none : Yields (Pure.pure none) fun next => ∀ a ∈ next, P a := pure nofun

theorem some {a : α} (holds : P a) : Yields (Pure.pure (some a)) fun next => ∀ a ∈ next, P a := by
  refine pure ?_
  rintro _ ⟨⟩
  exact holds

theorem manyUntil {p : Parser α} (yields : Yields p P) (close : String) :
    Yields (manyUntil close p) fun items => ∀ a ∈ items, P a := by
  refine bind (iterate (P := fun items => ∀ a ∈ items, P a) nofun fun acc before => ?_)
    fun items all => pure (by simpa using all)
  exact after fun closed => ite none (bind yields fun a holds => gathered holds before)

theorem separated {p : Parser α} (yields : Yields p P) (close : String) :
    Yields (separated close p) fun items => ∀ a ∈ items, P a := by
  refine bind (iterate (P := fun items => ∀ a ∈ items, P a) nofun fun acc before => ?_)
    fun items all => pure (by simpa using all)
  refine after fun closed => ite none (bind yields fun a holds => after fun ends => ?_)
  exact ite (after fun _ => gathered holds before) (gathered holds before)

end Yields

/-! ### Closed lists -/

/-- A property of lists that asks the same of each item holds if all items have it. -/
theorem iff_forall_mem {α : Type} {P : α → Prop} {Q : List α → Prop} (nil : Q [])
    (cons : ∀ x xs, Q (x :: xs) ↔ P x ∧ Q xs) {xs : List α} : Q xs ↔ ∀ x ∈ xs, P x := by
  induction xs with
  | nil => exact iff_of_true nil nofun
  | cons x xs ih => rw [cons, ih, List.forall_mem_cons]

theorem exprsClosed_iff {es : List Expr} : ExprsClosed es ↔ ∀ e ∈ es, e.IsClosed False :=
  iff_forall_mem trivial fun _ _ => Iff.rfl

theorem elementsClosed_iff {es : List Element} : ElementsClosed es ↔ ∀ e ∈ es, e.IsClosed :=
  iff_forall_mem trivial fun _ _ => Iff.rfl

theorem propertiesClosed_iff {ps : List Property} : PropertiesClosed ps ↔ ∀ p ∈ ps, p.IsClosed :=
  iff_forall_mem trivial fun _ _ => Iff.rfl

theorem argumentsClosed_iff {as : List Argument} : ArgumentsClosed as ↔ ∀ a ∈ as, a.IsClosed :=
  iff_forall_mem trivial fun _ _ => Iff.rfl

theorem stmtsClosed_iff {ss : List Stmt} : StmtsClosed ss ↔ ∀ t ∈ ss, t.IsClosed :=
  iff_forall_mem trivial fun _ _ => Iff.rfl

theorem declaratorsClosed_iff {ds : List Declarator} :
    DeclaratorsClosed ds ↔ ∀ d ∈ ds, d.IsClosed :=
  iff_forall_mem trivial fun _ _ => Iff.rfl

/-- An expression without open links may stand in a chain. -/
theorem Expr.IsClosed.mono {linked linked' : Prop} (e : Expr) (closed : e.IsClosed linked)
    (weaker : linked → linked') : e.IsClosed linked' := by
  cases e with
  | member object key optional => exact ⟨fun h => weaker (closed.1 h), closed.2.mono object weaker⟩
  | index object key optional =>
    exact ⟨fun h => weaker (closed.1 h), closed.2.1.mono object weaker, closed.2.2⟩
  | call text callee arguments optional =>
    exact ⟨fun h => weaker (closed.1 h), closed.2.1.mono callee weaker, closed.2.2⟩
  | _ => exact closed
termination_by structural e

/-! ### The rules of the grammar -/

/-- The rules read closed expressions and statements. -/
structure Rules.AreClosed (r : Rules) : Prop where
  assignment : Yields r.assignment (Expr.IsClosed False)
  unary : Yields r.unary (Expr.IsClosed False)
  power : Yields r.power (Expr.IsClosed False)
  construction : Yields r.construction (Expr.IsClosed False)
  statement : Yields r.statement Stmt.IsClosed

/-- What the evaluator refuses is closed. -/
theorem yields_foreignFrom (start : Nat) (mentions : List Mention) :
    Yields (foreignFrom start mentions) (Expr.IsClosed False) :=
  .after fun _ => .pure trivial

/-- The expression of a key is closed. -/
def Key.IsClosed : Key → Prop
  | .named _ => True
  | .computed _ e => e.IsClosed False

theorem Key.isClosed_property {key : Key} (ofKey : key.IsClosed) {e : Expr}
    (ofValue : e.IsClosed False) : (key.property e).IsClosed := by
  cases key with
  | named k => exact ofValue
  | computed literal k => exact ⟨ofKey, ofValue⟩

section Grammar

variable {r : Rules} (closed : r.AreClosed)

include closed

/-! ### Functions -/

theorem yields_propertyKey : Yields (propertyKey r) Key.IsClosed := by
  refine .after fun t => ?_
  split <;> first
    | exact .after fun _ => .pure trivial
    | exact .failure
    | exact .after fun _ => .bind (.within closed.assignment) fun e ofKey =>
        .after fun _ => .pure ofKey

theorem yields_functionBody : Yields (functionBody r) StmtsClosed := by
  refine .after fun _ => .bind (.within (.manyUntil closed.statement _)) fun ss all => .pure ?_
  exact stmtsClosed_iff.mpr fun t listed => all t ((List.dropWhile_sublist _).subset listed)

theorem yields_functionRest (name : Option String) (async generator : Bool) :
    Yields (functionRest r name async generator) Function.IsClosed :=
  .within <| .after fun _ => .after fun _ =>
    .bind (yields_functionBody closed) fun _ ofBody => .pure ofBody

theorem yields_functionExpression (async : Bool) :
    Yields (functionExpression r async) Function.IsClosed :=
  .after fun _ => .after fun generator => .after fun _ =>
    .ite (yields_functionRest closed _ async generator)
      (.after fun _ => yields_functionRest closed _ async generator)

theorem yields_arrowBody (async : Bool) : Yields (arrowBody r async) Body.IsClosed :=
  .within <| .after fun _ =>
    .ite (.bind (yields_functionBody closed) fun _ ofBody => .pure ofBody)
      (.bind closed.assignment fun _ ofBody => .pure ofBody)

theorem yields_arrow? (async : Bool) (start : Nat) :
    Yields (arrow? r async start) fun found => ∀ e ∈ found, e.IsClosed False := by
  refine .after fun head => ?_
  cases head with
  | none => exact .none
  | some ps =>
    exact .bind (yields_arrowBody closed async) fun _ ofBody => .after fun _ => .some ofBody

theorem yields_asyncArrow? (start : Nat) :
    Yields (asyncArrow? r start) fun found => ∀ e ∈ found, e.IsClosed False := by
  refine .after fun head => ?_
  cases head with
  | none => exact .none
  | some ps =>
    exact .bind (yields_arrowBody closed true) fun _ ofBody => .after fun _ => .some ofBody

/-! ### Literals -/

theorem yields_expression : Yields (expression r) (Expr.IsClosed False) := by
  refine .bind closed.assignment fun e ofFirst => .after fun _ => .ite ?_ (.pure ofFirst)
  refine .bind (P := fun es => ∀ e ∈ es, e.IsClosed False)
    (.iterate (by simpa using ofFirst) fun acc before => .after fun _ => .ite ?_ .none)
    fun es all => .pure (exprsClosed_iff.mpr (by simpa using all))
  exact .bind closed.assignment fun _ ofNext => .gathered ofNext before

theorem yields_grouped : Yields (grouped r) (Expr.IsClosed False) :=
  .within (yields_expression closed)

theorem yields_templateRest :
    Yields (templateRest r) fun more => ∀ x ∈ more, x.1.IsClosed False := by
  refine .bind (P := fun acc => ∀ x ∈ acc.1, x.1.IsClosed False)
    (.iterate nofun fun acc before => .ite .none ?_) fun acc all => .pure (by simpa using all)
  refine .bind (yields_grouped closed) fun e ofNext => .after fun _ => .guard (.after fun s => ?_)
  split
  · exact .after fun _ => .after fun _ => .some (List.forall_mem_cons.mpr ⟨ofNext, before⟩)
  · exact .failure

theorem yields_template :
    Yields (template r) fun read => ∀ x ∈ read.2, x.1.IsClosed False := by
  refine .after fun t => ?_
  split
  · exact .after fun _ => .ite (.pure nofun)
      (.bind (yields_templateRest closed) fun _ all => .pure all)
  · exact .failure

omit closed in
/-- The pieces of a template after its first text. -/
theorem partsClosed_of_mapM {more : List (Expr × Option String)} {parts : List (List Part)}
    (all : ∀ x ∈ more, x.1.IsClosed False)
    (joined : more.mapM (fun (e, cooked) => cooked.map fun t => [Part.value e, Part.text t]) =
      some parts) : PartsClosed parts.flatten := by
  induction more generalizing parts with
  | nil =>
    obtain rfl := Option.some.inj joined
    trivial
  | cons x more ih =>
    obtain ⟨ofFirst, ofMore⟩ := List.forall_mem_cons.mp all
    simp only [List.mapM_cons, Option.bind_eq_bind, Option.bind_eq_some_iff] at joined
    obtain ⟨piece, given, pieces, rest, same⟩ := joined
    obtain ⟨t, -, rfl⟩ := Option.map_eq_some_iff.mp given
    obtain rfl := Option.some.inj same
    exact ⟨ofFirst, trivial, ih ofMore rest⟩

theorem yields_untagged : Yields (untagged r) (Expr.IsClosed False) := by
  refine .bind (yields_template closed) fun ⟨first, more⟩ all => ?_
  dsimp only
  split
  next t parts _ joined => exact .pure ⟨trivial, partsClosed_of_mapM all joined⟩
  · exact .failure

theorem yields_arrayLiteral : Yields (arrayLiteral r) (Expr.IsClosed False) := by
  refine .bind (P := fun acc => ∀ x ∈ acc.1, x.IsClosed)
    (.within (.iterate nofun fun acc before => ?_)) fun acc all =>
      .pure (elementsClosed_iff.mpr (by simpa using all))
  have more {e : Element} (ofNext : e.IsClosed) : ∀ x ∈ e :: acc.1, x.IsClosed :=
    List.forall_mem_cons.mpr ⟨ofNext, before⟩
  refine .ite .none (.after fun _ => .ite (.some before) (.after fun _ => .ite ?_ ?_))
  · exact .some (more trivial)
  -- A spread and an item are read alike, and a comma is asked for behind both.
  refine .after fun _ => .ite ?_ ?_
  all_goals
    refine .bind closed.assignment fun e ofNext =>
      .bind (P := Element.IsClosed) (.pure ofNext) fun e ofNext => .after fun _ => .ite ?_ ?_
    · exact .after fun _ => .some (more ofNext)
    · exact .some (more ofNext)

theorem yields_method {key : Key} (ofKey : key.IsClosed) (async generator : Bool) :
    Yields (method r key async generator) Property.IsClosed :=
  .after fun _ => .bind (yields_functionRest closed _ async generator) fun _ ofBody =>
    .after fun _ => .pure (Key.isClosed_property ofKey ofBody)

theorem yields_property : Yields (property r) Property.IsClosed := by
  refine .after fun _ => .ite (.bind closed.assignment fun e ofNext => .pure ofNext) ?_
  -- Methods with a modifier first, then accessors, then names alone, and keys with values last.
  refine .after fun async => .after fun generator => .ite ?_ ?_
  · exact .bind (yields_propertyKey closed) fun key ofKey => yields_method closed ofKey _ _
  refine .after fun _ => .join fun accessor => .ite ?_ ?_
  · exact .bind (yields_propertyKey closed) fun key ofKey => yields_method closed ofKey _ _
  refine .after fun start => .after fun short => .ite ?_ ?_
  · refine .after fun id => .after fun _ => .ite ?_ (.pure trivial)
    exact .after fun e => .after fun _ => .after fun _ => .pure trivial
  · refine .bind (yields_propertyKey closed) fun key ofKey => .after fun _ => .ite ?_ ?_
    · exact yields_method closed ofKey _ _
    · exact .after fun _ => .bind closed.assignment fun e ofNext =>
        .pure (Key.isClosed_property ofKey ofNext)

theorem yields_objectLiteral : Yields (objectLiteral r) (Expr.IsClosed False) :=
  .bind (.within (.separated (yields_property closed) _)) fun _ all =>
    .pure (propertiesClosed_iff.mpr all)

omit closed in
theorem yields_regex (start : Nat) (more : List Char) :
    Yields (regex start more) (Expr.IsClosed False) := by
  unfold regex
  split
  · exact .failure
  · exact .after fun _ => .after fun _ => yields_foreignFrom start []

theorem yields_primary : Yields (primary r) (Expr.IsClosed False) := by
  refine .after fun start => .after fun s => ?_
  have named : Yields (identifier >>= fun id => pure (.name id)) (Expr.IsClosed False) :=
    .after fun _ => .pure trivial
  split
  · exact .after fun _ => .pure trivial
  · exact .after fun _ => yields_foreignFrom start []
  · exact .after fun _ => .pure trivial
  · exact yields_untagged closed
  · exact .after fun _ => .bind (yields_grouped closed) fun e ofBody =>
      .after fun _ => .pure ofBody
  · exact .after fun _ => yields_arrayLiteral closed
  · exact .after fun _ => yields_objectLiteral closed
  · exact yields_regex start s.rest
  · exact yields_regex start _
  · -- A word, unless it is written with an escape.
    refine .ite named ?_
    split
    iterate 4 exact .after fun _ => .pure trivial
    · exact .bind (yields_functionExpression closed false) fun f ofBody =>
        .after fun _ => .pure ofBody
    · exact .after fun _ => .after fun mentions => yields_foreignFrom start mentions
    · exact .after fun _ => .after fun _ => .after fun _ => .after fun _ =>
        .ite (yields_foreignFrom start []) .failure
    · refine .after fun _ => .after fun _ => .ite (.after fun _ => yields_foreignFrom start []) ?_
      refine .after fun _ => .after fun es => .guard (yields_foreignFrom start _)
    · refine .after fun isFunction => .ite (.after fun _ => ?_) named
      exact .bind (yields_functionExpression closed true) fun f ofBody =>
        .after fun _ => .pure ofBody
    · exact named
  · exact .failure

/-! ### Accesses and calls -/

theorem yields_arguments : Yields (arguments r) ArgumentsClosed := by
  refine .mono (.within (.separated (P := Argument.IsClosed) (.after fun _ => .ite ?_ ?_) _))
    fun as all => argumentsClosed_iff.mpr all
  · exact .bind closed.assignment fun e ofNext => .pure ofNext
  · exact .after fun _ => .bind closed.assignment fun e ofNext => .after fun _ => .pure ofNext

omit closed in
theorem yields_memberAccess {linked : Prop} (start : Nat) {e : Expr} (ofObject : e.IsClosed linked)
    {optional : Bool} (isLinked : optional = true → linked) :
    Yields (memberAccess start e optional) (Expr.IsClosed linked) := by
  refine .after fun t => ?_
  split
  · exact .after fun _ => .after fun _ => .pure trivial
  · exact .after fun key => .pure ⟨isLinked, ofObject⟩

theorem yields_indexAccess {linked : Prop} {e : Expr} (ofObject : e.IsClosed linked)
    {optional : Bool} (isLinked : optional = true → linked) :
    Yields (indexAccess r e optional) (Expr.IsClosed linked) :=
  .bind (yields_grouped closed) fun _ ofKey => .after fun _ => .pure ⟨isLinked, ofObject, ofKey⟩

/-- What has been read of a chain is closed if none of its links is optional, and otherwise apart
from its own links. -/
theorem yields_link (start : Nat) (calls : Bool) (acc : Expr × Bool)
    (before : acc.1.IsClosed (acc.2 = true)) :
    Yields (link r start calls acc)
      fun next => ∀ acc' ∈ next, acc'.1.IsClosed (acc'.2 = true) := by
  obtain ⟨e, linked⟩ := acc
  have inChain : e.IsClosed (true = true) := before.mono e fun _ => rfl
  refine .after fun t => ?_
  -- By the mark of the link: `.`, `?.`, a bracket, a parenthesis, a template, or none.
  split
  · exact .after fun _ => .bind (yields_memberAccess start before nofun) fun e ofLink =>
      .some ofLink
  · -- The only mark that makes a link optional also sets the flag.
    refine .guard (.after fun callee => .after fun _ => .after fun t => ?_)
    split
    · exact .after fun _ => .bind (yields_arguments closed) fun args ofArguments =>
        .some ⟨fun _ => rfl, inChain, ofArguments⟩
    · exact .after fun _ => .bind (yields_indexAccess closed inChain fun _ => rfl)
        fun e ofLink => .some ofLink
    · exact .failure
    · exact .bind (yields_memberAccess start inChain fun _ => rfl) fun e ofLink => .some ofLink
  · exact .after fun _ => .bind (yields_indexAccess closed before nofun) fun e ofLink =>
      .some ofLink
  · refine .ite (.after fun callee => .after fun _ => ?_) .none
    exact .bind (yields_arguments closed) fun args ofArguments =>
      .some ⟨nofun, before, ofArguments⟩
  · refine .guard (.after fun _ => .bind (yields_foreignFrom start _) fun e ofLink => ?_)
    exact .some (ofLink.mono e False.elim)
  · exact .none

theorem yields_links (start : Nat) (calls : Bool) {e : Expr} (ofBase : e.IsClosed False) :
    Yields (links r start calls e) (Expr.IsClosed False) := by
  refine .bind (P := fun acc => acc.1.IsClosed (acc.2 = true))
    (.iterate (ofBase.mono e False.elim) (yields_link closed start calls))
    fun (e, linked) ofChain => .pure ?_
  -- With the flag set the chain is closed around the links, and otherwise none of them is optional.
  cases linked with
  | false => exact ofChain.mono e nofun
  | true => exact ofChain.mono e fun _ => trivial

omit closed in
theorem yields_constructionExpression :
    Yields (constructionExpression r) (Expr.IsClosed False) := by
  refine .after fun start => .after fun _ => .after fun _ => .ite ?_ ?_
  · exact .after fun _ => yields_foreignFrom start []
  · refine .after fun calleeStart => .after fun _ => ?_
    refine .ite (.after fun isCall => .guard ?_) ?_
    all_goals
      refine .after fun isNew => .join fun base => .after fun callee => .after fun _ => .ite ?_ ?_
      · exact .after fun args => yields_foreignFrom start _
      · exact yields_foreignFrom start _

theorem yields_leftHandSide : Yields (leftHandSide r) (Expr.IsClosed False) := by
  refine .after fun start => .after fun _ => .ite ?_ ?_
  · exact .bind yields_constructionExpression fun _ ofBase => yields_links closed start true ofBase
  · exact .bind (yields_primary closed) fun _ ofBase => yields_links closed start true ofBase

/-! ### Operators -/

theorem yields_postfixExpression : Yields (postfixExpression r) (Expr.IsClosed False) := by
  refine .after fun start => .bind (yields_leftHandSide closed) fun e ofOperand => ?_
  refine .after fun _ => .after fun _ => .after fun _ => .ite (.guard ?_) (.pure ofOperand)
  exact .after fun _ => yields_foreignFrom start _

theorem yields_unaryExpression : Yields (unaryExpression r) (Expr.IsClosed False) := by
  refine .after fun start => .after fun s => ?_
  split
  · exact .after fun _ => .bind closed.unary fun e ofOperand =>
      .after fun _ => .guard (.pure ofOperand)
  · refine .after fun _ => .after fun _ => .ite ?_ (.after fun _ => .ite ?_ ?_)
    · exact .after fun _ => .after fun e => .guard (yields_foreignFrom start _)
    · exact .after fun _ => .bind closed.unary fun e ofOperand =>
        .after fun _ => .guard (.pure ofOperand)
    · exact yields_postfixExpression closed

theorem yields_powerExpression : Yields (powerExpression r) (Expr.IsClosed False) := by
  refine .bind (yields_unaryExpression closed) fun base ofBase =>
    .after fun _ => .ite ?_ (.pure ofBase)
  exact .bind closed.power fun _ ofExponent => .pure ⟨ofBase, ofExponent⟩

theorem yields_binaryAt (levels : List (List (Token → Option BinaryOp))) :
    Yields (binaryAt r levels) (Expr.IsClosed False) := by
  induction levels with
  | nil => exact yields_powerExpression closed
  | cons level tighter ih =>
    refine .after fun start => .after fun t => ?_
    split
    case' h_1 =>
      refine .after fun _ => .after fun _ => .guard (.after fun _ => .after fun e => ?_)
      refine .bind (yields_foreignFrom start _) fun first ofFirst =>
        .iterate ofFirst fun left ofLeft => ?_
    case' h_2 => refine .bind ih fun first ofFirst => .iterate ofFirst fun left ofLeft => ?_
    all_goals
      refine .after fun s => ?_
      split
      · exact .none
      · exact .ite .none (.after fun _ => .bind ih fun _ ofRight => .some ⟨ofLeft, ofRight⟩)

theorem yields_andExpression : Yields (andExpression r) (Expr.IsClosed False) := by
  refine .bind (yields_binaryAt closed _) fun _ ofFirst => .iterate ofFirst fun left ofLeft =>
    .after fun _ => .ite ?_ .none
  exact .bind (yields_binaryAt closed _) fun _ ofRight => .some ⟨ofLeft, ofRight⟩

theorem yields_orExpression : Yields (orExpression r) (Expr.IsClosed False) := by
  refine .bind (yields_andExpression closed) fun _ ofFirst => .iterate ofFirst fun left ofLeft =>
    .after fun _ => .ite ?_ .none
  exact .bind (yields_andExpression closed) fun _ ofRight => .some ⟨ofLeft, ofRight⟩

theorem yields_binaryExpression : Yields (binaryExpression r) (Expr.IsClosed False) := by
  refine .bind (yields_orExpression closed) fun _ ofFirst => .iterate ofFirst fun left ofLeft =>
    .after fun _ => .ite ?_ .none
  exact .bind (yields_orExpression closed) fun _ ofRight => .guard (.some ⟨ofLeft, ofRight⟩)

theorem yields_conditionalExpression : Yields (conditionalExpression r) (Expr.IsClosed False) := by
  refine .bind (yields_binaryExpression closed) fun test ofTest => ?_
  refine .after fun _ => .after fun _ => .after fun _ => .guard ?_
  refine .after fun _ => .ite ?_ (.pure ofTest)
  exact .bind (.within closed.assignment) fun _ ofConsequent => .after fun _ =>
    .bind closed.assignment fun _ ofAlternate => .pure ⟨ofTest, ofConsequent, ofAlternate⟩

/-! ### Assignments -/

omit closed in
theorem yields_yieldExpression : Yields (yieldExpression r) (Expr.IsClosed False) := by
  refine .after fun start => .after fun _ => .after fun _ => .join fun delegates => ?_
  refine .after fun t => ?_
  split
  all_goals
    exact .after fun ends => .after fun _ => .ite (yields_foreignFrom start [])
      (.after fun e => yields_foreignFrom start _)

theorem yields_assignmentExpression : Yields (assignmentExpression r) (Expr.IsClosed False) := by
  refine .after fun start => .after fun s => .after fun _ =>
    .ite (.ite yields_yieldExpression (.after fun _ => .guard ?_)) ?_
  -- The word `yield` may be a name, and then all goes on as without it. An assignment is refused
  -- when it is evaluated, so nothing is asked of its sides.
  all_goals
    refine .bind (yields_asyncArrow? closed start) fun found ofFound => ?_
    split
    · exact .pure (ofFound _ rfl)
    refine .bind (yields_arrow? closed false start) fun found ofFound => ?_
    split
    · exact .pure (ofFound _ rfl)
    refine .bind (yields_conditionalExpression closed) fun target ofTarget => .after fun t => ?_
    split
    · exact .guard (.after fun _ => .after fun _ => .after fun _ => .after fun _ => .pure trivial)
    · refine .ite (.guard ?_) (.pure ofTarget)
      exact .after fun _ => .after fun _ => .after fun _ => .pure trivial
    · exact .pure ofTarget

/-! ### Statements -/

theorem yields_looseDeclarators : Yields (looseDeclarators r) DeclaratorsClosed := by
  refine .bind (P := Declarator.IsClosed) ?_ fun first ofFirst =>
    .bind (P := fun ds => ∀ d ∈ ds, d.IsClosed)
      (.iterate (by simpa using ofFirst) fun acc before => .after fun _ =>
        .ite (.bind (P := Declarator.IsClosed) ?_ fun _ ofNext => .gathered ofNext before) .none)
      fun ds all => .pure (declaratorsClosed_iff.mpr (by simpa using all))
  all_goals
    refine .after fun p => .after fun _ => .ite ?_ (.pure trivial)
    exact .bind closed.assignment fun e ofValue => .pure ofValue

theorem yields_declarators (kind : DeclarationKind) :
    Yields (declarators r kind) DeclaratorsClosed :=
  .bind (yields_looseDeclarators closed) fun _ all => .ite (.pure all) .failure

theorem yields_parenthesized : Yields (parenthesized r) (Expr.IsClosed False) :=
  .after fun _ => .bind (yields_expression closed) fun _ ofBody => .after fun _ => .pure ofBody

theorem yields_blockStatements : Yields (blockStatements r) StmtsClosed :=
  .after fun _ => .mono (.manyUntil closed.statement _) fun _ all => stmtsClosed_iff.mpr all

omit closed in
theorem yields_foreignStatement (start : Nat) (mentions : List Mention) :
    Yields (foreignStatement start mentions) Stmt.IsClosed :=
  .after fun _ => .pure trivial

theorem yields_expressionStatement (start : Nat) :
    Yields (expressionStatement r start) Stmt.IsClosed := by
  refine .after fun labelled => .ite ?_ ?_
  · exact .after fun _ => .after fun _ => .after fun s => yields_foreignStatement start _
  · exact .bind (yields_grouped closed) fun _ ofValue => .after fun _ => .pure ofValue

theorem yields_anyStatement : Yields (anyStatement r) Stmt.IsClosed := by
  refine .after fun start => .after fun s => ?_
  split
  · exact .bind (yields_blockStatements closed) fun _ all => .pure all
  · exact .after fun _ => .pure trivial
  · refine .after fun kind => ?_
    split
    · exact .bind (yields_declarators closed _) fun _ all => .after fun _ => .pure all
    -- `if`, `return`, and statements that are refused or begin with an expression.
    refine .ite (.after fun _ => ?_) (.ite (.guard (.after fun _ => ?_)) (.after fun found => ?_))
    · refine .bind (yields_parenthesized closed) fun test ofTest =>
        .bind closed.statement fun consequent ofConsequent => .after fun _ => .ite ?_ ?_
      · exact .bind closed.statement fun _ ofAlternate => .bind (P := OptionStmtClosed)
          (.pure ofAlternate) fun _ ofAlternate => .pure ⟨ofTest, ofConsequent, ofAlternate⟩
      · exact .bind (P := OptionStmtClosed) (.pure trivial) fun _ ofAlternate =>
          .pure ⟨ofTest, ofConsequent, ofAlternate⟩
    · refine .after fun _ => .after fun _ => .after fun _ => .after fun _ => .ite ?_ ?_
      · exact .bind (P := OptionClosed) (.pure trivial) fun _ ofValue =>
          .after fun _ => .pure ofValue
      · exact .bind (yields_grouped closed) fun _ ofValue => .bind (P := OptionClosed)
          (.pure ofValue) fun _ ofValue => .after fun _ => .pure ofValue
    · split
      · exact yields_foreignStatement start _
      · exact yields_expressionStatement closed start
  · exact yields_expressionStatement closed start

end Grammar

/-- The grammar reads closed expressions and statements at every depth. -/
theorem Rules.areClosed_upTo (depth : Nat) : (Rules.upTo depth).AreClosed := by
  induction depth with
  | zero => exact ⟨.failure, .failure, .failure, .failure, .failure⟩
  | succ depth ih =>
    exact ⟨yields_assignmentExpression ih, yields_unaryExpression ih, yields_powerExpression ih,
      yields_constructionExpression, yields_anyStatement ih⟩

/-! ### Source texts -/

/-- What a parser finds in a text is one of its results. -/
theorem Yields.of_parseText? {α : Type} {P : α → Prop} {p : Parser α} (yields : Yields p P)
    {text : List Char} {a : α} (parsed : parseText? p text = Option.some a) : P a := by
  obtain ⟨start, -, parsed⟩ := Option.bind_eq_some_iff.mp parsed
  obtain ⟨⟨b, stop⟩, given, parsed⟩ := Option.bind_eq_some_iff.mp parsed
  replace parsed : (if stop.covers == 0 then Option.some b else Option.none) = Option.some a :=
    parsed
  split at parsed
  · exact Option.some.inj parsed ▸ yields start b stop given
  · exact nomatch parsed

/-- The expression that a source text begins with is closed. -/
theorem isClosed_of_parseExpression? {text : String} {e : Expr}
    (parsed : parseExpression? text = some e) : e.IsClosed False :=
  (yields_expression (Rules.areClosed_upTo _)).of_parseText? parsed

/-- So it has a value in every scope, or it fails. -/
theorem settles_of_parseExpression? {text : String} {e : Expr}
    (parsed : parseExpression? text = some e) (s : Scope) : (eval s e).Settles :=
  eval_settles e (isClosed_of_parseExpression? parsed) s

/-- What a script exports by default is closed. -/
def DefaultExport.IsClosed : DefaultExport → Prop
  | .function f => f.IsClosed
  | .expr e => e.IsClosed False
  | .other => True

/-- An item of a script is closed. -/
def Item.IsClosed : Item → Prop
  | .statement t => t.IsClosed
  | .exportVariables ds => DeclaratorsClosed ds
  | .exportDefault d => d.IsClosed
  | _ => True

section Modules

variable {r : Rules} (closed : r.AreClosed)

include closed

theorem yields_defaultExport : Yields (defaultExport r) DefaultExport.IsClosed := by
  refine .after fun isAsync => .after fun _ => .ite ?_ (.ite (.after fun _ => ?_) ?_)
  · exact .bind (yields_functionExpression closed false) fun _ ofBody => .pure ofBody
  · exact .bind (yields_functionExpression closed true) fun _ ofBody => .pure ofBody
  refine .after fun _ => .ite ?_ ?_
  · exact .after fun _ => .pure trivial
  · exact .bind closed.assignment fun _ ofValue => .after fun _ => .pure ofValue

theorem yields_exportRest (start : Nat) : Yields (exportRest r start) Item.IsClosed := by
  refine .after fun _ => .ite ?_ (.after fun _ => .ite ?_ (.after fun _ => .ite ?_ ?_))
  · refine .after fun _ => .ite (.after fun _ => ?_) ?_
    all_goals exact .after fun _ => .after fun _ => .after fun _ => .after fun _ => .pure trivial
  · exact .after fun _ => .pure trivial
  · exact .bind (yields_defaultExport closed) fun _ ofExport => .pure ofExport
  · refine .after fun kind => ?_
    split
    · exact .bind (yields_declarators closed _) fun _ all => .after fun _ => .pure all
    refine .after fun t => ?_
    split
    · refine .ite (.after fun found => ?_) .failure
      cases found with
      | none => exact .failure
      | some mentions => exact .after fun _ => .pure trivial
    · exact .failure

theorem yields_moduleItem : Yields (moduleItem r) Item.IsClosed := by
  refine .after fun start => .after fun isImport => .ite ?_ (.after fun _ => .ite ?_ ?_)
  · exact .after fun _ => .after fun _ => .after fun _ => .pure trivial
  · exact yields_exportRest closed start
  · exact .bind closed.statement fun _ ofStatement => .pure ofStatement

theorem yields_moduleItems : Yields (moduleItems r) fun items => ∀ i ∈ items, i.IsClosed := by
  refine .bind (P := fun items => ∀ i ∈ items, i.IsClosed)
    (.iterate nofun fun acc before => .after fun _ => .ite .none ?_) fun items all => .pure ?_
  · exact .bind (yields_moduleItem closed) fun _ ofItem => .gathered ofItem before
  · intro i listed
    exact all i (List.mem_reverse.mp ((List.dropWhile_sublist _).subset listed))

end Modules

/-- The items of a script are closed. -/
theorem isClosed_of_parseModule? {text : String} {items : List Item}
    (parsed : parseModule? text = some items) : ∀ i ∈ items, i.IsClosed :=
  (yields_moduleItems (Rules.areClosed_upTo _)).of_parseText? parsed

theorem settles_evalDefault (s : Scope) {d : DefaultExport} (closed : d.IsClosed) :
    (evalDefault s d).Settles := by
  cases d with
  | function f => exact invoke_settles f closed s []
  | expr e =>
    unfold evalDefault
    dsimp only
    split
    next call isCallable => exact callable_settles e closed s call isCallable []
    next => exact eval_settles e closed s
  | other => exact .fail _

theorem settles_runItem (wantsDefault : Bool) (run : ModuleRun) {i : Item} (closed : i.IsClosed) :
    (runItem wantsDefault run i).Settles := by
  unfold runItem
  split
  · exact .bind (declareAll_settles _ closed _) fun _ => .ok _
  · exact .fail _
  · exact .ok _
  · split
    · exact .bind (settles_evalDefault _ closed) fun _ => .ok _
    · exact .ok _
  · exact .bind (eval_settles _ closed _) fun _ => .ok _
  · exact .bind (exec_settles _ closed _) fun _ => .ok _

/-- A script is run to its end, or it fails. -/
theorem settles_of_parseModule? {text : String} {items : List Item}
    (parsed : parseModule? text = some items) (wantsDefault : Bool) (data : Cascade) :
    (runModule wantsDefault data items).Settles := by
  have closed := isClosed_of_parseModule? parsed
  clear parsed
  unfold runModule
  generalize (⟨Scope.ofData data, .null, none⟩ : ModuleRun) = run
  induction items generalizing run with
  | nil => exact .ok run
  | cons i items ih =>
    obtain ⟨ofFirst, ofRest⟩ := List.forall_mem_cons.mp closed
    rw [List.foldlM_cons]
    exact .bind (settles_runItem wantsDefault run ofFirst) fun run => ih ofRest run

end ComponentMarkup.Script
