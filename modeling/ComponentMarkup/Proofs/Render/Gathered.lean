import ComponentMarkup.Proofs.Attribute.Merging
import ComponentMarkup.Proofs.Render.Host

/-!
# Attributes gathered for a host

On their way to the markup attributes are merged again and again: those of an element with what it
spreads, then with the component's root attributes and the class of its scope, and where an element
of the component stands for the host, once more with those of that element. The outcome is the same
as if all of them were gathered first and merged once.

## Main definitions

* `gathered`, `gatheredOnHost` — what the attributes of an element and of a host are merged from
* `mergedOnHost`, `mergedOnRoot` — attributes that are merged at each step of their way, to a host
  and to an element that stands for it
* `gatheredForHost`, `gatheredForRoot` — all that come that way

## Main results

* `attributesOf_merged`, `hostAttributes_merged` — a step does not tell whether what it is given was
  merged before
* `merging_regroups` — merged parts, hosts, elements that stand for them, and several classes
-/

namespace ComponentMarkup

open Markup (Node)

/-! ### One step -/

/-- What the attributes of an element are merged from. -/
def gathered (i : Item) (c : Context) : Compiled (List EvaluatedAttribute) := do
  let own ← evaluateAttributes i.node.attributes c.data c.file
  let spread ← spreadOf i.node c.data c.file
  .ok (own ++ spread ++ i.extra)

/-- What the attributes of a host are merged from. -/
def gatheredOnHost (d : Component) (data : Cascade) (attributes : List EvaluatedAttribute) :
    Compiled (List EvaluatedAttribute) := do
  let root ← evaluateAttributes d.rootAttributes data d.path
  .ok (root ++ attributes ++ d.scopeClass)

theorem attributesOf_eq (i : Item) (c : Context) :
    attributesOf i c = (gathered i c).map mergeAttributes := by
  unfold attributesOf gathered
  cases evaluateAttributes i.node.attributes c.data c.file with
  | error e => rfl
  | ok own => cases spreadOf i.node c.data c.file <;> rfl

theorem hostAttributes_eq (d : Component) (data : Cascade) (attributes : List EvaluatedAttribute) :
    hostAttributes d data attributes =
      (gatheredOnHost d data attributes).map mergeAttributes := by
  unfold hostAttributes gatheredOnHost
  cases evaluateAttributes d.rootAttributes data d.path <;> rfl

/-- An element that is given merged attributes gets what it would get from all of them. -/
theorem attributesOf_merged (n : Node) (extra : List EvaluatedAttribute) (c : Context) :
    attributesOf ⟨n, mergeAttributes extra⟩ c = attributesOf ⟨n, extra⟩ c := by
  unfold attributesOf
  simp only [mergeAttributes_append_merged]

/-- So does a host. -/
theorem hostAttributes_merged (d : Component) (data : Cascade)
    (attributes : List EvaluatedAttribute) :
    hostAttributes d data (mergeAttributes attributes) = hostAttributes d data attributes := by
  have regrouped (root : List EvaluatedAttribute) :
      mergeAttributes (root ++ mergeAttributes attributes ++ d.scopeClass) =
        mergeAttributes (root ++ attributes ++ d.scopeClass) := by
    rw [← mergeAttributes_merged_append, mergeAttributes_append_merged,
      mergeAttributes_merged_append]
  rw [hostAttributes_eq, hostAttributes_eq]
  unfold gatheredOnHost
  cases evaluateAttributes d.rootAttributes data d.path with
  | error e => rfl
  | ok root => exact congrArg Except.ok (regrouped root)

/-! ### The whole way -/

variable (i : Item) (c : Context) (d : Component) (n : Node) (within : Cascade → Context)

/-- The attributes of the host of an instance. -/
def mergedOnHost : Compiled (List EvaluatedAttribute) := do
  let attributes ← attributesOf i c
  hostAttributes d (c.instanceData d attributes) attributes

/-- The attributes of an element of the component that stands for the host. -/
def mergedOnRoot : Compiled (List EvaluatedAttribute) := do
  let attributes ← attributesOf i c
  let data := c.instanceData d attributes
  let onHost ← hostAttributes d data attributes
  attributesOf ⟨n, onHost⟩ (within data)

/-- All attributes that a host gets. -/
def gatheredForHost : Compiled (List EvaluatedAttribute) := do
  let given ← gathered i c
  gatheredOnHost d (c.instanceData d (mergeAttributes given)) given

/-- All attributes that an element gets which stands for the host. -/
def gatheredForRoot : Compiled (List EvaluatedAttribute) := do
  let given ← gathered i c
  let data := c.instanceData d (mergeAttributes given)
  let onHost ← gatheredOnHost d data given
  gathered ⟨n, onHost⟩ (within data)

theorem mergedOnHost_eq : mergedOnHost i c d = (gatheredForHost i c d).map mergeAttributes := by
  unfold mergedOnHost gatheredForHost
  rw [attributesOf_eq]
  cases gathered i c with
  | error e => rfl
  | ok given =>
    show hostAttributes d _ (mergeAttributes given) = (gatheredOnHost d _ given).map mergeAttributes
    rw [hostAttributes_merged, hostAttributes_eq]

theorem mergedOnRoot_eq :
    mergedOnRoot i c d n within = (gatheredForRoot i c d n within).map mergeAttributes := by
  unfold mergedOnRoot gatheredForRoot
  rw [attributesOf_eq]
  cases gathered i c with
  | error e => rfl
  | ok given =>
    let data := c.instanceData d (mergeAttributes given)
    show (hostAttributes d data (mergeAttributes given) >>= fun onHost =>
      attributesOf ⟨n, onHost⟩ (within data)) = Except.map mergeAttributes
        (gatheredOnHost d data given >>= fun onHost => gathered ⟨n, onHost⟩ (within data))
    rw [hostAttributes_merged, hostAttributes_eq]
    cases gatheredOnHost d data given with
    | error e => rfl
    | ok onHost =>
      show attributesOf ⟨n, mergeAttributes onHost⟩ (within data) =
        (gathered ⟨n, onHost⟩ (within data)).map mergeAttributes
      rw [attributesOf_merged, attributesOf_eq]

omit i c d n within

/-- Attributes may be merged in any groups. Merging a part of a list beforehand changes nothing, in
any field of an attribute; so a host has what all attributes that it gets merge to, and so has an
element that stands for the host. Where several attributes are written as `class`, the first of them
is left, with the words of all of them, each once and in the order in which they come first. -/
theorem merging_regroups :
    (∀ xs ys, mergeAttributes (mergeAttributes xs ++ ys) = mergeAttributes (xs ++ ys)) ∧
      (∀ xs ys, mergeAttributes (xs ++ mergeAttributes ys) = mergeAttributes (xs ++ ys)) ∧
      (∀ xs, mergeAttributes (mergeAttributes xs) = mergeAttributes xs) ∧
      (∀ i c d, mergedOnHost i c d = (gatheredForHost i c d).map mergeAttributes) ∧
      (∀ i c d n within,
        mergedOnRoot i c d n within = (gatheredForRoot i c d n within).map mergeAttributes) ∧
      ∀ xs : List EvaluatedAttribute, let classes := xs.filter (·.isClass)
        2 ≤ classes.length → ∃ first front a back, classes.head? = some first ∧
          mergeAttributes xs = front ++ a :: back ∧ (∀ b ∈ front ++ back, b.isClass = false) ∧
          a.isClass = true ∧ a = { first with value := a.value } ∧
          blankFree a.value.display =
            (classes.flatMap fun b => blankFree b.value.display).eraseDups ∧
          a.value = .text (" ".intercalate (blankFree a.value.display)) := by
  refine ⟨mergeAttributes_merged_append, mergeAttributes_append_merged,
    mergeAttributes_mergeAttributes, mergedOnHost_eq, mergedOnRoot_eq, ?_⟩
  intro xs classes several
  obtain ⟨first, front, a, back, head, merged, others, rfl⟩ :=
    exists_mergeAttributes_classes several
  have isClass : first.isClass = true :=
    (List.mem_filter.mp (List.mem_of_mem_head? head)).2
  have words := blankFree_mergedClass (classes.map (·.value))
  refine ⟨first, front, _, back, head, merged, others, isClass, rfl, ?_, ?_⟩
  · rw [words, classWords, List.flatMap_map]
  · exact congrArg (fun ws => Value.text (" ".intercalate ws)) words.symm

/-- Classes of several sources, between them a private one and another attribute. -/
def scatteredClasses : List EvaluatedAttribute :=
  [.ofText "class" "b a", ⟨"class", "@class", .text "secret", "secret", .literal, .isPrivate⟩,
    .ofText "id" "x", .ofText "class" " a\tc b"]

theorem merging_regroups_scatteredClasses :
    2 ≤ (scatteredClasses.filter (·.isClass)).length ∧
      ∃ front a back, mergeAttributes scatteredClasses = front ++ a :: back ∧
        (∀ b ∈ front ++ back, b.isClass = false) ∧ a.isClass = true ∧
        blankFree a.value.display = ["b", "a", "c"] := by
  have several : 2 ≤ (scatteredClasses.filter (·.isClass)).length := by decide
  obtain ⟨_, front, a, back, _, merged, others, isClass, _, words, _⟩ :=
    merging_regroups.2.2.2.2.2 scatteredClasses several
  exact ⟨several, front, a, back, merged, others, isClass, words⟩

end ComponentMarkup
