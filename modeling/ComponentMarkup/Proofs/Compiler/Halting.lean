import ComponentMarkup.Proofs.Compiler.Run
import ComponentMarkup.Proofs.Project.Reference
import ComponentMarkup.Proofs.Render.Termination
import Mathlib.Order.Bounds.Basic

/-!
# Runs end

A run reads finitely many templates, however many references there are to follow. If none of them
makes markup, the walk stays within a bound, and there is a depth beyond which the depth that lists
may nest to makes no difference: the run has its result or its error.

## Main results

* `Compiler.finite_templates` — a run can read finitely many
* `Compiler.exists_depth_run` — every run ends if none of them makes markup
-/

namespace ComponentMarkup

open Markup.Node (heightOfAll)

namespace Compiler

variable {c : Compiler}

theorem finite_templates (c : Compiler) : c.templates.Finite := by
  refine Set.Finite.union ?files ?input
  case files =>
    -- A file has one template.
    refine Set.Finite.of_finite_image (f := Prod.fst) ?_ ?_
    · refine ((List.finite_toSet c.components.values).union
        (finite_referable c.store c.setting.resolver)).subset ?_
      rintro _ ⟨⟨path, tree⟩, ⟨read, named | referred⟩, rfl⟩
      · exact .inl named
      · obtain ⟨text, loaded, _⟩ := Compiled.map_eq_ok.mp read
        exact .inr ⟨referred, text, loaded⟩
    · rintro ⟨path, tree⟩ ⟨read, _⟩ ⟨_, tree'⟩ ⟨read', _⟩ rfl
      exact Prod.ext rfl (Except.ok.inj (read.symm.trans read'))
  case input =>
    refine Set.Subsingleton.finite ?_
    rintro t ⟨input, given, read⟩ t' ⟨input', given', read'⟩
    obtain rfl := Option.some.inj (given.symm.trans given')
    exact Except.ok.inj (read.symm.trans read')

/-- What a run can read stays within a bound if nothing in it makes markup. -/
theorem exists_bound (avoids : c.Avoids generates) :
    ∃ b : Bound, ∀ d : Component, (d.path, d.tree) ∈ c.templates → b.Admits d := by
  obtain ⟨height, isBound⟩ :=
    (c.finite_templates.image fun t => heightOfAll t.2.children).bddAbove
  refine ⟨⟨(c.finite_templates.image Prod.fst).toFinset, height⟩, fun d hd => ?_⟩
  constructor
  · exact (Set.Finite.mem_toFinset _).mpr ⟨_, hd, rfl⟩
  · exact isBound ⟨_, hd, rfl⟩
  · exact avoids.of_mem_templates hd

/-- Every run ends, with a result or an error of the compilation, if nothing that can be read makes
markup: some depth is enough, and beyond it more depth changes nothing. Components may use each
other in cycles, and imports may name further components on the way. -/
theorem exists_depth_run (avoids : c.Avoids generates) :
    ∃ depth, ∀ sink,
      ((∃ result, c.run depth sink = .ok result) ∨ ∃ e, c.run depth sink = .error (.failed e)) ∧
        ∀ deeper ≥ depth, c.run deeper sink = c.run depth sink := by
  obtain ⟨b, admits⟩ := exists_bound avoids
  cases prepared : c.prepare with
  | error e =>
    -- There is nothing to walk over.
    have failed : ∀ depth sink, c.run depth sink = .error (.failed e) := by
      intro depth sink
      simp only [run, prepared]
      rfl
    exact ⟨0, fun sink => ⟨.inr ⟨e, failed 0 sink⟩, fun deeper _ => by rw [failed, failed]⟩⟩
  | ok start =>
    obtain ⟨root, r⟩ := start
    -- Whatever an import can build is a template that can be read, and so within the bound.
    have supplies : Supplies c.setting b.Admits := fun reference source path d resolved built =>
      admits d (mem_templates_of_isBuilt built (.inr ⟨reference, source, resolved⟩))
    obtain ⟨known, document⟩ := mem_templates_of_prepare prepared
    obtain ⟨depth, ends⟩ := b.exists_depth_renderRoot supplies (admits root document)
      fun path d h => admits d (known path d h)
    refine ⟨depth, fun sink => ⟨?_, fun deeper more => ?_⟩⟩
    · rw [run_of_prepare prepared]
      cases walked : renderRoot c.setting depth root sink ⟨r, {}⟩ with
      | ok result => exact .inl ⟨_, rfl⟩
      | error halt =>
        cases halt with
        | failed e => exact .inr ⟨e, rfl⟩
        | tooDeep => exact absurd walked (ends sink depth (Nat.le_refl _)).2
    · rw [run_of_prepare prepared, run_of_prepare prepared, (ends sink deeper more).1]

/-- A page with two components that use each other, one of them where a slot stays empty. -/
def ring : Compiler where
  store := .table [("a.webc", "<slot><x-b></x-b></slot>"), ("b.webc", "<p><x-a></x-a></p>")]
  components := [("x-a", "a.webc"), ("x-b", "b.webc")]
  input := some (.content "<x-a></x-a>" "index.webc")

/-- A run over components that use each other in a cycle ends. -/
theorem exists_depth_run_ring :
    ring.Avoids generates ∧ ∃ depth, ∀ sink,
      ((∃ result, ring.run depth sink = .ok result) ∨
        ∃ e, ring.run depth sink = .error (.failed e)) ∧
        ∀ deeper ≥ depth, ring.run deeper sink = ring.run depth sink := by
  have avoids : ring.Avoids generates :=
    .of_table rfl (by decide +kernel) fun text path given => by
      obtain ⟨rfl, _⟩ := Input.content.inj (Option.some.inj given)
      decide +kernel
  exact ⟨avoids, exists_depth_run avoids⟩

end Compiler

end ComponentMarkup
