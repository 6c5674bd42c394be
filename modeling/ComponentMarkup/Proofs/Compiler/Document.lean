import ComponentMarkup.Proofs.Compiler.Run
import ComponentMarkup.Proofs.Component.History

/-!
# The document of a run

A run builds the components before it builds the document, and the document goes through the same
table of outcomes. So a text that was given under the path of a component is not what a run renders:
the table has the component of that path already, and hands out the tree of its file.

## Main definitions

* `Compiler.contentPath` — the path that a text is compiled under
* `Compiler.documentTree` — the tree of the document, as the table of outcomes decides it

## Main results

* `Compiler.documentTree_of_prepare` — the document of a run has that tree
* `Compiler.compile_content_iff` — what a text compiles to, and when it is the text that is rendered
* `Compiler.exists_compile_content_ne` — a text that is given and not rendered
-/

namespace ComponentMarkup

open Markup (Node parseTemplate)

/-! ### Registering with success -/

namespace Registry

variable {s : Sources} {r : Registry} {path : String}

/-- Builds that all succeed are one build of each path. -/
theorem buildsInOrder_of_ok {paths : List String} (success : (r.precompileAll s paths).1 = .ok ()) :
    (r.buildsInOrder s paths).map Prod.fst = paths ∧
      ∀ b ∈ r.buildsInOrder s paths, ∃ d, b.2 = .ok d := by
  induction paths generalizing r with
  | nil => exact ⟨rfl, fun b hb => absurd hb List.not_mem_nil⟩
  | cons path paths ih =>
    unfold precompileAll at success
    unfold buildsInOrder
    cases found : r.precompile s path none with
    | mk outcome r' =>
      rw [found] at success
      cases outcome with
      | error e => cases success
      | ok d =>
        obtain ⟨named, succeeds⟩ := ih success
        refine ⟨congrArg (path :: ·) named, fun b hb => ?_⟩
        rcases List.mem_cons.mp hb with rfl | hb
        · exact ⟨d, rfl⟩
        · exact succeeds b hb

/-- At first, nothing that is named has been built. -/
theorem mem_unbuilt_empty {map : Entries String} :
    path ∈ ({} : Registry).unbuilt map ↔ path ∈ map.values := by
  simp [unbuilt, hasComponent]

/-- Where components were registered with success, those of the map have been built, and no
others. -/
theorem outcomes_register {map : Entries String}
    (success : (({} : Registry).register s map).1 = .ok ()) (path : String) :
    (path ∈ map.values → ∃ d, (({} : Registry).register s map).2.outcomes.get? path =
      some (.ok d)) ∧
    (path ∉ map.values → (({} : Registry).register s map).2.outcomes.get? path = none) := by
  let named := ({} : Registry).nameAll map
  let fresh := ({} : Registry).unbuilt map
  have keeps : (({} : Registry).register s map).2.Keeps (named.buildsInOrder s fresh) :=
    (keeps_empty.nameAll map).precompileAll s fresh
  obtain ⟨paths, succeeds⟩ :=
    buildsInOrder_of_ok (show (named.precompileAll s fresh).1 = .ok () from success)
  constructor
  · intro isNamed
    have listed : path ∈ (named.buildsInOrder s fresh).map Prod.fst := by
      rw [paths]
      exact mem_unbuilt_empty.mpr isNamed
    obtain ⟨⟨_, outcome⟩, isBuild, rfl⟩ := List.mem_map.mp listed
    obtain ⟨d, rfl⟩ := succeeds _ isBuild
    exact ⟨d, (keeps.mem_iff _ _).mp isBuild⟩
  · -- Whatever has an outcome was built, and only what is named was.
    intro isUnnamed
    by_contra isKnown
    obtain ⟨outcome, known⟩ := Option.ne_none_iff_exists'.mp isKnown
    have isBuild := List.mem_map_of_mem (f := Prod.fst) ((keeps.mem_iff _ _).mpr known)
    rw [paths] at isBuild
    exact isUnnamed (mem_unbuilt_empty.mp isBuild)

/-- A path that was built with success is not built again, whatever tree is given for it. -/
theorem precompile_of_known {d : Component} (known : r.outcomes.get? path = some (.ok d))
    (tree? : Option Node) : r.precompile s path tree? = (.ok d, r) := by
  unfold precompile
  rw [known]

end Registry

namespace Compiler

variable {c : Compiler} {depth : Nat} {root : Component} {r : Registry} {text : String}
  {path : Option String}

/-! ### The tree of the document -/

/-- The tree of the document: that of the input, unless a component has the path of the input; then
that of the component's file. -/
def documentTree (c : Compiler) (input : Input) : Compiled Node :=
  if input.path ∈ c.components.values then treeOf c.setting.sources input.path none
  else (c.readInput input).map Prod.snd

theorem requireInput_eq_ok {input : Input} : c.requireInput = .ok input ↔ c.input = some input := by
  unfold requireInput
  split
  · rename_i given isGiven
    rw [isGiven]
    exact ⟨fun h => congrArg some (Except.ok.inj h), fun h => congrArg Except.ok (Option.some.inj h)⟩
  · rename_i isMissing
    rw [isMissing]
    exact ⟨nofun, nofun⟩

/-- What a run starts with is the outcome of building the input after the components. -/
theorem exists_of_prepare (prepared : c.prepare = .ok (root, r)) :
    ∃ input tree, c.input = some input ∧ c.readInput input = .ok (input.path, tree) ∧
      (({} : Registry).register c.setting.sources c.components).1 = .ok () ∧
      ((({} : Registry).register c.setting.sources c.components).2.precompile c.setting.sources
        input.path (some tree)) = (.ok root, r) := by
  obtain ⟨input, required, prepared⟩ := Compiled.bind_eq_ok.mp prepared
  obtain ⟨_, registered, prepared⟩ := Compiled.bind_eq_ok.mp prepared
  obtain ⟨⟨path, tree⟩, read, prepared⟩ := Compiled.bind_eq_ok.mp prepared
  obtain ⟨d, outcome, same⟩ := Compiled.map_eq_ok.mp prepared
  obtain ⟨rfl, rfl⟩ := Prod.mk.inj same
  obtain rfl := path_of_readInput read
  exact ⟨input, tree, requireInput_eq_ok.mp required, read, registered, Prod.ext outcome rfl⟩

/-- The document of a run has the path of the input, and the tree that the table of outcomes decides
on. -/
theorem documentTree_of_prepare (prepared : c.prepare = .ok (root, r)) :
    ∃ input, c.input = some input ∧ root.path = input.path ∧
      c.documentTree input = .ok root.tree := by
  obtain ⟨input, tree, given, read, registered, built⟩ := exists_of_prepare prepared
  obtain ⟨named, unnamed⟩ := Registry.outcomes_register registered input.path
  refine ⟨input, given, ?_⟩
  unfold documentTree
  split
  · rename_i isNamed
    obtain ⟨d, known⟩ := named isNamed
    -- The component was built from its file, before there was a tree for the input.
    have holds := (Registry.holds_empty
      fun path d => d.IsBuilt c.setting.sources path none).register c.components
        fun _ _ _ isBuilt => isBuilt
    have isBuilt : d.IsBuilt c.setting.sources input.path none := holds _ d known
    rw [Registry.precompile_of_known known] at built
    obtain rfl : d = root := Except.ok.inj (Prod.mk.inj built).1
    exact ⟨isBuilt.path_eq, isBuilt.treeOf_eq⟩
  · rename_i isUnnamed
    have fresh := unnamed isUnnamed
    unfold Registry.precompile at built
    rw [fresh] at built
    have isBuilt : root.IsBuilt c.setting.sources input.path (some tree) :=
      isBuilt_of_buildComponent (Prod.mk.inj built).1
    rw [read]
    exact ⟨isBuilt.path_eq, isBuilt.treeOf_eq⟩

/-! ### Texts that are given -/

/-- The path that a text is compiled under. -/
def contentPath (path : Option String) : String := (path.bind Path.normalize?).getD inlinePath

/-- A text that is given under the path of a component makes no difference. -/
theorem prepare_content_eq (named : contentPath path ∈ c.components.values) (text text' : String) :
    (c.setInputContent text path).prepare = (c.setInputContent text' path).prepare := by
  let registered := ({} : Registry).register c.setting.sources c.components
  -- What is left of the preparation when a text is given.
  let document (text : String) : Compiled (Component × Registry) :=
    let built := registered.2.precompile c.setting.sources (contentPath path)
      (some (parseTemplate text))
    built.1.map fun d => (d, built.2)
  change (registered.1 >>= fun _ => document text) = (registered.1 >>= fun _ => document text')
  cases outcome : registered.1 with
  | error e => rfl
  | ok _ =>
    obtain ⟨d, known⟩ := (Registry.outcomes_register outcome _).1 named
    have recalled : ∀ text, document text = .ok (d, registered.2) := fun text => by
      simp only [document]
      rw [Registry.precompile_of_known known]
      rfl
    change document text = document text'
    rw [recalled, recalled]

/-- A text that compiles is compiled by a walk over a document of its path. It is the text that the
walk is over exactly if no component has that path, or one whose file has the same tree. Otherwise
every text that is given under the path has the same result. -/
theorem compile_content_iff {result : Compilation}
    (success : (c.setInputContent text path).compileWithin depth = .ok result) :
    ∃ root r o p, (c.setInputContent text path).prepare = .ok (root, r) ∧
      renderRoot c.setting depth root .text ⟨r, {}⟩ = .ok (o, p) ∧
      result = ⟨o.markup, c.summarize root.path o⟩ ∧ root.path = contentPath path ∧
      (root.tree = parseTemplate text ↔ (contentPath path ∈ c.components.values →
        (c.store.load (contentPath path)).map parseTemplate = .ok (parseTemplate text))) ∧
      (contentPath path ∈ c.components.values → ∀ text',
        (c.setInputContent text' path).compileWithin depth = .ok result) := by
  obtain ⟨⟨o, summary⟩, ran, rfl⟩ := Compiled.map_eq_ok.mp success
  obtain ⟨root, r, p, prepared, walked, rfl⟩ := exists_of_run ran
  obtain ⟨input, given, path_eq, tree_eq⟩ := documentTree_of_prepare prepared
  obtain rfl : Input.content text (contentPath path) = input := Option.some.inj given
  refine ⟨root, r, o, p, prepared, walked, rfl, path_eq, ?_, fun named text' => ?_⟩
  · unfold documentTree at tree_eq
    split at tree_eq
    · rename_i named
      -- Here the document has the tree of the file.
      change (c.store.load (contentPath path)).map parseTemplate = .ok root.tree at tree_eq
      rw [tree_eq]
      exact ⟨fun same _ => congrArg Except.ok same, fun same => Except.ok.inj (same named)⟩
    · rename_i unnamed
      have same : parseTemplate text = root.tree := Except.ok.inj tree_eq
      exact ⟨fun _ named => absurd named unnamed, fun _ => same.symm⟩
  · have same := prepare_content_eq named text' text
    have ran' : (c.setInputContent text' path).run depth .text =
        (c.setInputContent text path).run depth .text := by
      rw [run_of_prepare prepared, run_of_prepare (same.trans prepared)]
      rfl
    unfold compileWithin
    rw [ran', ran]
    rfl

/-! ### A text that is not rendered -/

/-- A compiler with a component, before it has an input. -/
def shadowing : Compiler where
  store := .table [("components/a-el.webc", "<p>file</p>")]
  components := [("a-el", "components/a-el.webc")]

/-- A text with an input under the path of the component. -/
def shadowed : Compiler := shadowing.setInputContent "<p>given</p>" (some "components/a-el.webc")

theorem exists_compile_shadowed :
    ∃ result, shadowed.compile = .ok result ∧ result.markup = "<p>file</p>" := by
  have markup : (shadowed.compile.toOption.map Compilation.markup) = some "<p>file</p>" := by
    decide +kernel
  obtain ⟨result, compiled, same⟩ := Option.map_eq_some_iff.mp markup
  exact ⟨result, Compiled.eq_ok_of_toOption compiled, same⟩

theorem compile_content_iff_shadowed :
    ∃ result, shadowed.compileWithin Compiler.depth = .ok result ∧
      ∃ root r o p, shadowed.prepare = .ok (root, r) ∧
        renderRoot shadowing.setting Compiler.depth root .text ⟨r, {}⟩ = .ok (o, p) ∧
        result = ⟨o.markup, shadowing.summarize root.path o⟩ ∧
        root.path = contentPath (some "components/a-el.webc") ∧
        (root.tree = parseTemplate "<p>given</p>" ↔
          (contentPath (some "components/a-el.webc") ∈ shadowing.components.values →
            (shadowing.store.load (contentPath (some "components/a-el.webc"))).map parseTemplate =
              .ok (parseTemplate "<p>given</p>"))) ∧
        (contentPath (some "components/a-el.webc") ∈ shadowing.components.values → ∀ text',
          (shadowing.setInputContent text' (some "components/a-el.webc")).compileWithin
            Compiler.depth = .ok result) := by
  obtain ⟨result, compiled, _⟩ := exists_compile_shadowed
  exact ⟨result, compiled, compile_content_iff compiled⟩

/-- A text compiles with success and is not what is rendered: the document has the tree of the file
that a component of the same path was built from. -/
theorem exists_compile_content_ne :
    ∃ result root r, shadowed.compile = .ok result ∧ result.markup = "<p>file</p>" ∧
      shadowed.prepare = .ok (root, r) ∧ root.tree.textContent = "file" ∧
      root.tree ≠ parseTemplate "<p>given</p>" := by
  obtain ⟨result, compiled, markup⟩ := exists_compile_shadowed
  have text : (shadowed.prepare.toOption.map fun start => start.1.tree.textContent) =
      some "file" := by
    decide +kernel
  obtain ⟨⟨root, r⟩, prepared, isFile⟩ := Option.map_eq_some_iff.mp text
  refine ⟨result, root, r, compiled, markup, Compiled.eq_ok_of_toOption prepared, isFile, ?_⟩
  intro same
  have isGiven : (parseTemplate "<p>given</p>").textContent = "file" := same ▸ isFile
  exact absurd isGiven (by decide +kernel)

end Compiler

end ComponentMarkup
