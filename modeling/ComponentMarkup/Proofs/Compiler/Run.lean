import ComponentMarkup.Compiler
import ComponentMarkup.Proofs.Component.Supply
import Mathlib.Data.Set.Basic

/-!
# What a run consists of

A run builds the components and the document, walks over the document, and sums up what the walk
gives. The document is a component among the others: it was built from the input, or before from
the file of the same path.

## Main definitions

* `Input.path` — the path of an input
* `Compiler.templates` — the templates that a run can read, with their paths
* `Compiler.Avoids` — no text that can be read has a node with a property

## Main results

* `Compiler.exists_of_run` — the walk behind the result of a run
* `Compiler.holds_of_prepare` — what holds of all components that can be built holds of those that
  a walk starts with
* `Compiler.mem_templates_of_prepare` — components are of templates that the run can read
-/

namespace ComponentMarkup

/-- The path of an input. -/
def Input.path : Input → String
  | .file path => path
  | .content _ path => path

namespace Compiler

variable {c : Compiler} {depth : Nat} {sink : Sink} {o : Output} {summary : Summary}
  {root : Component} {r : Registry} {P : String → Component → Prop}

/-- A run is a walk from what was prepared, or an error from before. -/
theorem run_of_prepare (prepared : c.prepare = .ok (root, r)) (depth : Nat) (sink : Sink) :
    c.run depth sink = (renderRoot c.setting depth root sink ⟨r, {}⟩).map
      fun (o, _) => (o, c.summarize root.path o) := by
  unfold run
  rw [prepared]
  change (renderRoot c.setting depth root sink ⟨r, {}⟩ >>= _) = _
  cases renderRoot c.setting depth root sink ⟨r, {}⟩ <;> rfl

/-- The walk behind the result of a run. -/
theorem exists_of_run (success : c.run depth sink = .ok (o, summary)) :
    ∃ root r p, c.prepare = .ok (root, r) ∧
      renderRoot c.setting depth root sink ⟨r, {}⟩ = .ok (o, p) ∧
      summary = c.summarize root.path o := by
  obtain ⟨⟨root, r⟩, prepared, success⟩ := Compiled.bind_eq_ok.mp success
  obtain ⟨⟨o', p⟩, walked, same⟩ := Compiled.bind_eq_ok.mp success
  obtain ⟨rfl, rfl⟩ := Prod.mk.inj (Except.ok.inj same)
  exact ⟨root, r, p, Compiled.mapError_eq_ok.mp prepared, walked, rfl⟩

/-- An input is read under its path. -/
theorem path_of_readInput {input : Input} {path : String} {tree : Markup.Node}
    (h : c.readInput input = .ok (path, tree)) : path = input.path := by
  cases input with
  | file given =>
    obtain ⟨text, _, same⟩ := Compiled.map_eq_ok.mp h
    exact (Prod.mk.inj same).1.symm
  | content text given => exact (Prod.mk.inj (Except.ok.inj h)).1.symm

/-- What holds of all components that can be built, and of the document, holds of all that a walk
starts with. -/
theorem holds_of_prepare (prepared : c.prepare = .ok (root, r))
    (named : ∀ path ∈ c.components.values, ∀ d, d.IsBuilt c.setting.sources path none → P path d)
    (document : ∀ input tree, c.input = some input → c.readInput input = .ok (input.path, tree) →
      ∀ d, d.IsBuilt c.setting.sources input.path (some tree) → P input.path d) :
    r.Holds P ∧ ∃ input, c.input = some input ∧ P input.path root := by
  obtain ⟨input, required, prepared⟩ := Compiled.bind_eq_ok.mp prepared
  obtain ⟨_, _, prepared⟩ := Compiled.bind_eq_ok.mp prepared
  obtain ⟨⟨path, tree⟩, read, prepared⟩ := Compiled.bind_eq_ok.mp prepared
  obtain ⟨d, outcome, same⟩ := Compiled.map_eq_ok.mp prepared
  obtain ⟨rfl, rfl⟩ := Prod.mk.inj same
  obtain rfl := path_of_readInput read
  have given : c.input = some input := by
    unfold requireInput at required
    split at required
    · rename_i isGiven
      rw [isGiven, Except.ok.inj required]
    · exact nomatch required
  have known := (Registry.holds_empty P).register c.components named
  have built := known.precompile (document input tree given read)
  exact ⟨built.1, input, given, built.2 d outcome⟩

/-! ### Templates -/

/-- The templates that a run can read, with their paths: of files that are named as components or
can be referred to, and that of the input. -/
def templates (c : Compiler) : Set (String × Markup.Node) :=
  {t | treeOf c.setting.sources t.1 none = .ok t.2 ∧ (t.1 ∈ c.components.values ∨
    ∃ reference source, c.setting.resolver.resolve reference source = .ok t.1)} ∪
  {t | ∃ input, c.input = some input ∧ c.readInput input = .ok t}

/-- What is built from a file is of its template. -/
theorem mem_templates_of_isBuilt {path : String} {d : Component}
    (built : d.IsBuilt c.setting.sources path none) (readable : path ∈ c.components.values ∨
      ∃ reference source, c.setting.resolver.resolve reference source = .ok path) :
    (d.path, d.tree) ∈ c.templates := by
  rw [← built.path_eq] at readable
  exact .inl ⟨built.path_eq ▸ built.treeOf_eq, readable⟩

/-- All components that a walk starts with are of templates that can be read. -/
theorem mem_templates_of_prepare (prepared : c.prepare = .ok (root, r)) :
    (r.Holds fun _ d => (d.path, d.tree) ∈ c.templates) ∧ (root.path, root.tree) ∈ c.templates := by
  obtain ⟨known, _, _, document⟩ := holds_of_prepare
    (P := fun _ d => (d.path, d.tree) ∈ c.templates) prepared
    (fun path named d built => mem_templates_of_isBuilt built (.inl named))
    (fun input tree given read d built => by
      obtain rfl : tree = d.tree := Except.ok.inj built.treeOf_eq
      rw [built.path_eq]
      exact .inr ⟨input, given, read⟩)
  exact ⟨known, document⟩

/-- No file that can be read has a node with the property, nor has the text of the input. -/
structure Avoids (c : Compiler) (q : Markup.Node → Bool) : Prop where
  files : ∀ path text, c.store.load path = .ok text →
    (Markup.parseTemplate text).hasSelfOrBelow q = false
  content : ∀ text path, c.input = some (.content text path) →
    (Markup.parseTemplate text).hasSelfOrBelow q = false

namespace Avoids

variable {q : Markup.Node → Bool}

/-- Files of a table are entries of it. -/
theorem of_table {files : Entries String} (isTable : c.store = .table files)
    (lacks : ∀ e ∈ files, (Markup.parseTemplate e.2).hasSelfOrBelow q = false)
    (content : ∀ text path, c.input = some (.content text path) →
      (Markup.parseTemplate text).hasSelfOrBelow q = false) : c.Avoids q := by
  refine ⟨fun path text loaded => ?_, content⟩
  rw [isTable, Store.load_table_eq_ok] at loaded
  exact lacks _ (Entries.mem_of_get?_eq_some loaded)

theorem of_mem_templates (avoids : c.Avoids q) {t : String × Markup.Node}
    (ht : t ∈ c.templates) : t.2.hasSelfOrBelow q = false := by
  have file : ∀ path text, c.store.load path = .ok text → Markup.parseTemplate text = t.2 →
      t.2.hasSelfOrBelow q = false := fun path text loaded tree =>
    tree ▸ avoids.files path text loaded
  rcases ht with ⟨read, _⟩ | ⟨input, given, read⟩
  · obtain ⟨text, loaded, tree⟩ := Compiled.map_eq_ok.mp read
    exact file t.1 text loaded tree
  · cases input with
    | file path =>
      obtain ⟨text, loaded, rfl⟩ := Compiled.map_eq_ok.mp read
      exact file path text loaded rfl
    | content text path =>
      rw [← Except.ok.inj read]
      exact avoids.content text path given

end Avoids

end Compiler

end ComponentMarkup
