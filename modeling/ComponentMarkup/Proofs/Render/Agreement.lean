import ComponentMarkup.Compiler
import ComponentMarkup.Proofs.Render.Related

/-!
# One text or pieces

A document can be rendered to one text or handed on in pieces, and the nodes of a list may be
rendered apart from each other. None of this shows in what comes out: markup, fragments, usages and
errors are the same.

The reason is that every step of rendering only puts outputs after each other. Where it looks at
markup that was rendered before (a transform, a style or script, the content of a component), it
looks at the whole text, which does not depend on how the text was cut. So a comparison of two
renderers of lists carries over from the lists below a node to the list that holds it.

## Main definitions

* `Output.Alike` — outputs that differ at most in how their markup is cut
* `Renderer.Alike` — renderers with alike outputs, whatever their sinks
* `Setting.withConcurrency` — the same setting with another choice of concurrency

## Main results

* `renderItems_alike` — a step of the walk keeps renderers alike
* `render_alike` — the walk does not depend on concurrency or on the sink
* `Compiler.stream_collected_eq_compile` — all ways to run a compiler agree
-/

namespace ComponentMarkup

open Markup (Node isRawTextElement isVoidElement)

/-! ### Outputs that are alike -/

/-- The same markup, fragments and usages; the markup may be cut differently. -/
structure Output.Alike (a b : Output) : Prop where
  markup : a.markup = b.markup
  fragments : a.fragments = b.fragments
  usages : a.usages = b.usages

namespace Output.Alike

variable {a a' b b' : Output}

theorem refl (a : Output) : Alike a a := ⟨rfl, rfl, rfl⟩

theorem symm (h : Alike a b) : Alike b a := ⟨h.1.symm, h.2.symm, h.3.symm⟩

theorem trans (h : Alike a b) (h' : Alike b b') : Alike a b' :=
  ⟨h.1.trans h'.1, h.2.trans h'.2, h.3.trans h'.3⟩

theorem append (h : Alike a b) (h' : Alike a' b') : Alike (a ++ a') (b ++ b') where
  markup := by rw [markup_append, markup_append, h.markup, h'.markup]
  fragments := congrArg₂ (· ++ ·) h.fragments h'.fragments
  usages := congrArg₂ (· ++ ·) h.usages h'.usages

/-- The markup in one piece instead of many. -/
theorem whole (h : Alike a b) : Alike a.whole b :=
  ⟨(markup_whole a).trans h.markup, h.fragments, h.usages⟩

/-- What replaces the markup replaces it on both sides. -/
theorem withMarkup (h : Alike a b) (text : String) :
    Alike (a.withMarkup text) (b.withMarkup text) :=
  ⟨by simp, h.fragments, h.usages⟩

theorem concat {as bs : List Output} (h : List.Forall₂ Alike as bs) :
    Alike (Output.concat as) (Output.concat bs) := by
  induction h with
  | nil => exact refl _
  | cons hab _ ih => exact append hab ih

/-- A list whose outputs are each put in one piece, or left as they are. -/
theorem concat_split {as bs : List Output} (h : List.Forall₂ Alike as bs) (split split' : Bool) :
    Alike (Output.concat (if split then as.map Output.whole else as))
      (Output.concat (if split' then bs.map Output.whole else bs)) := by
  have wholes : ∀ {as : List Output}, List.Forall₂ Alike (as.map Output.whole) as := fun {as} =>
    List.forall₂_map_left_iff.mpr (List.forall₂_same.mpr fun o _ => (refl o).whole)
  have left : Alike (Output.concat (if split then as.map Output.whole else as))
      (Output.concat as) := by
    cases split
    · exact refl _
    · exact concat wholes
  have right : Alike (Output.concat (if split' then bs.map Output.whole else bs))
      (Output.concat bs) := by
    cases split'
    · exact refl _
    · exact concat wholes
  exact left.trans ((concat h).trans right.symm)

/-- Whether there is markup other than blanks shows in the text alone. -/
theorem hasMarkup_eq (h : Alike a b) : a.hasMarkup = b.hasMarkup := by
  rw [hasMarkup, hasMarkup, h.markup]

end Output.Alike

open Output (Alike)

/-- A part of a walk with the same output as itself. -/
theorem Walk.Related.same (w : Walk Output) : Walk.Related Alike w w :=
  .refl Output.Alike.refl w

/-! ### Steps of rendering -/

/-- Renderers with alike outputs, whatever their sinks. -/
def Renderer.Alike (r r' : Renderer) : Prop :=
  ∀ c sink sink' items, Walk.Related Output.Alike (r c sink items) (r' c sink' items)

/-- The same setting with another choice of concurrency. -/
def Setting.withConcurrency (s : Setting) (isConcurrent : Bool) : Setting :=
  { s with isConcurrent := isConcurrent }

section Steps

open Walk (Related)

variable {inner inner' : Renderer} (alike : inner.Alike inner') (s : Setting) (b : Bool)
  (c : Context) (sink sink' : Sink)

include alike

theorem renderContent_alike (children : List Node) (directive : Option Markup.Attribute)
    (data : Cascade) :
    Related Alike (renderContent inner children directive data c sink)
      (renderContent inner' children directive data c sink') := by
  cases directive with
  | none => exact alike ..
  | some a =>
    refine .bind_same _ fun value => .ite (fun _ => .same _) fun _ => ?_
    exact .ite (fun _ => alike ..) fun _ => .same _

omit alike in
theorem renderTransformed_alike (types : List String) {content content' : Sink → Walk Output}
    (below : ∀ sink sink', Related Alike (content sink) (content' sink')) :
    Related Alike (renderTransformed s types c sink content)
      (renderTransformed (s.withConcurrency b) types c sink' content') := by
  refine .ite (fun _ => below ..) fun _ => .bind (below ..) fun o o' ho => ?_
  -- The transforms see the whole text, and that is the same.
  rw [ho.markup]
  exact .bind_same _ fun text => .pure (ho.withMarkup text)

theorem renderPlain_alike (n : Node) (tag : String) (attributes : List EvaluatedAttribute)
    (types : List String) :
    Related Alike (renderPlain s inner c sink n tag attributes types)
      (renderPlain (s.withConcurrency b) inner' c sink' n tag attributes types) := by
  refine .bind_same _ fun directive => .ite (fun _ => .same _) fun _ => ?_
  refine .bind (renderTransformed_alike s b c sink sink' types fun sink sink' =>
    renderContent_alike alike _ sink sink' _ directive _) fun o o' ho => ?_
  exact .pure (((Output.Alike.refl _).append ho).append (.refl _))

theorem renderSlot_alike (n : Node) :
    Related Alike (renderSlot inner c sink n) (renderSlot inner' c sink' n) := by
  unfold renderSlot
  split <;> exact alike ..

theorem renderAsset_alike (n : Node) (kind : AssetKind) (types : List String) :
    Related Alike (renderAsset s inner c n kind types)
      (renderAsset (s.withConcurrency b) inner' c n kind types) := by
  refine .bind (alike ..) fun o o' ho => ?_
  rw [ho.markup]
  exact .bind_same _ fun text => .ite (fun _ => .same _) fun _ => .same _

theorem renderScripted_alike (n : Node) :
    Related Alike (renderScripted inner c sink n) (renderScripted inner' c sink' n) :=
  .bind_same _ fun _ => .ite (fun _ => .same _) fun _ => alike ..

/-- Whether light content follows shows in the content as a whole. -/
theorem renderLight_alike (host : Node) (d : Component) {o o' : Output} (ho : Alike o o') :
    Related Alike (renderLight inner c sink host d o) (renderLight inner' c sink' host d o') := by
  unfold renderLight
  rw [ho.hasMarkup_eq]
  exact .ite (fun _ => alike ..) fun _ => .same _

theorem renderComponent_alike (host : Node) (tag : String) (d : Component)
    (attributes : List EvaluatedAttribute) :
    Related Alike (renderComponent inner c sink host tag d attributes)
      (renderComponent inner' c sink' host tag d attributes) := by
  refine .ite (fun _ => .same _) fun _ => ?_
  refine .bind_same _ fun _ => .bind_same _ fun onHost => .bind (alike ..) fun o o' ho => ?_
  refine .bind (renderLight_alike alike c sink sink' host d ho) fun l l' hl => .pure ?_
  -- The content was gathered in one piece on both sides, whatever the sink of the instance.
  have content : Alike o.whole o'.whole := ho.whole.trans (Output.Alike.refl o').whole.symm
  exact (((Output.Alike.refl _).append content).append hl).append (.refl _)

theorem renderOther_alike (n : Node) (tag : String) (attributes : List EvaluatedAttribute)
    (types : List String) :
    Related Alike (renderOther s inner c sink n tag attributes types)
      (renderOther (s.withConcurrency b) inner' c sink' n tag attributes types) := by
  refine .ite (fun _ => renderSlot_alike alike ..) fun _ => ?_
  cases assetKind? n with
  | none => exact renderPlain_alike alike ..
  | some kind =>
    exact .ite (fun _ => renderPlain_alike alike ..) fun _ => renderAsset_alike alike ..

theorem renderInstance_alike (i : Item) :
    Related Alike (renderInstance s inner c sink i)
      (renderInstance (s.withConcurrency b) inner' c sink' i) := by
  refine .ite (fun _ => .same _) fun _ => .bind_same _ fun _ => ?_
  refine .ite (fun _ => renderScripted_alike alike ..) fun _ => ?_
  refine .bind_same _ fun attributes => .bind_same _ fun component => ?_
  cases component with
  | none => exact renderOther_alike alike ..
  | some d => exact renderComponent_alike alike ..

theorem renderRow_alike (i : Item) (row : Entries Value) :
    Related Alike (renderRow s inner c sink i row)
      (renderRow (s.withConcurrency b) inner' c sink' i row) := by
  refine .bind_same _ fun holds => .ite (fun _ => renderInstance_alike alike ..) fun _ => .same _

theorem renderElement_alike (i : Item) :
    Related Alike (renderElement s inner c sink i)
      (renderElement (s.withConcurrency b) inner' c sink' i) := by
  unfold renderElement
  split
  · exact renderInstance_alike alike ..
  · refine .bind_same _ fun rows => ?_
    refine .bind (.each (renderRow_alike alike s b c sink sink' i) rows) fun os os' h => ?_
    exact .pure (.concat h)

theorem renderVerbatim_alike (n : Node) :
    Related Alike (renderVerbatim inner c sink n) (renderVerbatim inner' c sink' n) := by
  refine .ite (fun _ => .same _) fun _ => .bind (alike ..) fun o o' ho => ?_
  exact .pure (((Output.Alike.refl _).append ho).append (.refl _))

theorem renderItem_alike (i : Item) :
    Related Alike (renderItem s inner c sink i)
      (renderItem (s.withConcurrency b) inner' c sink' i) := by
  unfold renderItem
  split
  · exact alike ..
  · exact .same _
  · exact .same _
  · exact .same _
  · exact .ite (fun _ => renderVerbatim_alike alike ..) fun _ => renderElement_alike alike ..

/-- A step of the walk keeps renderers alike. -/
theorem renderItems_alike :
    (renderItems s inner).Alike (renderItems (s.withConcurrency b) inner') := by
  intro c sink sink' items
  refine .bind_same _ fun kept => ?_
  -- Only the choice to put each output in one piece depends on concurrency and the sink.
  refine .bind (.each (renderItem_alike alike s b c sink sink') kept) fun os os' h => ?_
  exact .pure (.concat_split h _ _)

end Steps

/-- The walk depends neither on concurrency nor on the sink. -/
theorem render_alike (s : Setting) (b : Bool) (depth : Nat) :
    (render s depth).Alike (render (s.withConcurrency b) depth) := by
  induction depth with
  | zero =>
    intro c sink sink' items
    exact ⟨fun _ => .error _⟩
  | succ depth ih => exact renderItems_alike ih s b

/-- A document gives alike outputs, whatever the choice of concurrency and the sink. -/
theorem renderRoot_alike (s : Setting) (b : Bool) (depth : Nat) (root : Component)
    (sink sink' : Sink) :
    Walk.Related Alike (renderRoot s depth root sink)
      (renderRoot (s.withConcurrency b) depth root sink') :=
  ⟨fun _ => (render_alike s b depth _ sink sink' _).outcome _⟩

/-! ### Runs of a compiler -/

namespace Compiler

/-- What the output for a document comes to. -/
def compilationOf (c : Compiler) (root : Component) (o : Output) : Compilation :=
  ⟨o.markup, c.summarize root.path o⟩

theorem compilationOf_eq (c : Compiler) (root : Component) {o o' : Output} (alike : Alike o o') :
    c.compilationOf root o = c.compilationOf root o' := by
  simp only [compilationOf, summarize, alike.markup, alike.fragments, alike.usages]

/-- What is compared of a run: its markup as one text, and its summary. -/
def outcome (c : Compiler) (depth : Nat) (sink : Sink) : Except Halt Compilation :=
  (c.run depth sink).map fun r => ⟨r.1.markup, r.2⟩

/-- A run renders the document that it prepared. -/
theorem outcome_of_prepare_eq_ok {c : Compiler} {root : Component} {registry : Registry}
    (prepared : c.prepare = .ok (root, registry)) (depth : Nat) (sink : Sink) :
    c.outcome depth sink = (renderRoot c.setting depth root sink ⟨registry, {}⟩).map
      fun r => c.compilationOf root r.1 := by
  unfold outcome run
  rw [prepared]
  change Except.map _ (Except.bind (renderRoot c.setting depth root sink ⟨registry, {}⟩) _) = _
  cases renderRoot c.setting depth root sink ⟨registry, {}⟩ <;> rfl

theorem outcome_of_prepare_eq_error {c : Compiler} {e : CompileError}
    (failed : c.prepare = .error e) (depth : Nat) (sink : Sink) :
    c.outcome depth sink = .error (.failed e) := by
  unfold outcome run
  rw [failed]
  rfl

/-- The outcome of a run depends neither on concurrency nor on the sink. -/
theorem outcome_withConcurrency (c : Compiler) (b : Bool) (depth : Nat) (sink sink' : Sink) :
    (c.withConcurrency b).outcome depth sink = c.outcome depth sink' := by
  have same : (c.withConcurrency b).prepare = c.prepare := rfl
  cases prepared : c.prepare with
  | error e =>
    rw [outcome_of_prepare_eq_error prepared, outcome_of_prepare_eq_error (same.trans prepared)]
  | ok start =>
    obtain ⟨root, registry⟩ := start
    rw [outcome_of_prepare_eq_ok prepared, outcome_of_prepare_eq_ok (same.trans prepared)]
    have related := renderRoot_alike c.setting b depth root sink' sink
    exact (related.map_eq (f := c.compilationOf root) (g := c.compilationOf root)
      (fun _ _ => c.compilationOf_eq root) _).symm

/-- All ways to run a compiler agree, to whatever depth lists of nodes may nest: with and without
concurrency, the input compiles to the same text with the same styles, scripts and components, or
fails with the same error; and so does a stream whose pieces are put together. No piece of markup in
a stream is empty, and the styles and scripts that follow are those of the bundles. -/
theorem stream_collected_eq_compile (c : Compiler) (depth : Nat) :
    (c.withConcurrency true).compileWithin depth = (c.withConcurrency false).compileWithin depth ∧
      ∀ b, ((c.withConcurrency b).streamWithin depth).map Streamed.collected =
          (c.withConcurrency b).compileWithin depth ∧
        ∀ s, (c.withConcurrency b).streamWithin depth = .ok s →
          (∀ piece ∈ s.html, piece ≠ "") ∧
            s.css = s.summary.styles.all ∧ s.js = s.summary.scripts.all := by
  have compiled : ∀ b, (c.withConcurrency b).compileWithin depth = c.outcome depth .text :=
    fun b => c.outcome_withConcurrency b depth .text .text
  refine ⟨(compiled true).trans (compiled false).symm, fun b => ⟨?_, ?_⟩⟩
  · rw [compiled b, ← c.outcome_withConcurrency b depth .pieces .text]
    unfold streamWithin outcome
    cases (c.withConcurrency b).run depth .pieces <;> rfl
  · intro s streamed
    unfold streamWithin at streamed
    cases ran : (c.withConcurrency b).run depth .pieces with
    | error h => simp [ran, Except.map] at streamed
    | ok r =>
      obtain rfl : _ = s := by simpa [ran, Except.map] using streamed
      exact ⟨fun piece inside empty => r.1.pieces_nonempty (empty ▸ inside), rfl, rfl⟩

end Compiler

end ComponentMarkup
