import ComponentMarkup.Proofs.Attribute.ClassTokens
import ComponentMarkup.Render.Walk

/-!
# The host of an instance

An instance of a component whose host's tag is kept is written in that tag. The tag has the
attributes of the component's root elements, evaluated for the instance, those of the host itself
and the class of the component's scope, merged in this order.

## Main definitions

* `Context.instanceData` — the data of an instance
* `Component.scopeClass` — the class that hosts get from a scope

## Main results

* `exists_markup_of_renderComponent` — an instance starts with the start tag of its host
* `hostAttributes_eq_ok` — what the attributes of a host are merged from
* `exists_hostAttribute` — each root attribute is part of an attribute of the host
-/

namespace ComponentMarkup

open Markup (Node)

/-! ### Walks that succeed -/

/-- A walk of two parts succeeds where both do. -/
theorem Walk.exists_of_bind_eq_ok {α β : Type} {w : Walk α} {f : α → Walk β} {b : β}
    {p p' : Progress} (h : (w >>= f) p = .ok (b, p')) :
    ∃ a q, w p = .ok (a, q) ∧ f a q = .ok (b, p') := by
  replace h : Walk.bind w f p = .ok (b, p') := h
  unfold Walk.bind at h
  split at h
  · rename_i a q first
    exact ⟨a, q, first, h⟩
  · exact nomatch h

/-- A part with a given result changes nothing. -/
theorem Walk.of_eq_ok {α : Type} {r : Compiled α} {a : α} {p p' : Progress} :
    Walk.of r p = .ok (a, p') ↔ r = .ok a ∧ p' = p := by
  cases r with
  | error e => exact ⟨nofun, fun h => nomatch h.1⟩
  | ok b =>
    constructor
    · intro h
      obtain ⟨rfl, rfl⟩ := Prod.mk.inj (Except.ok.inj h)
      exact ⟨rfl, rfl⟩
    · rintro ⟨same, rfl⟩
      obtain rfl := Except.ok.inj same
      rfl

/-! ### Start tags -/

/-- The data of an instance whose host was written in a context. -/
def Context.instanceData (c : Context) (d : Component) (attributes : List EvaluatedAttribute) :
    Cascade :=
  c.data.forComponent d.path d.setup (cascadeEntries attributes) (rawEntries attributes)

/-- An instance starts with the start tag of its host, if the host's tag is kept. -/
theorem exists_markup_of_renderComponent {inner : Renderer} {c : Context} {sink : Sink}
    {host : Node} {tag : String} {d : Component} {attributes : List EvaluatedAttribute}
    {o : Output} {p p' : Progress} (keeps : d.keepsHost = true)
    (kept : host.hasAttribute "webc:nokeep" = false)
    (rendered : renderComponent inner c sink host tag d attributes p = .ok (o, p')) :
    ∃ onHost rest, hostAttributes d (c.instanceData d attributes) attributes = .ok onHost ∧
      o.markup = startTag tag onHost ++ rest := by
  unfold renderComponent at rendered
  split at rendered
  · cases rendered
  · obtain ⟨_, _, _, rendered⟩ := Walk.exists_of_bind_eq_ok rendered
    obtain ⟨onHost, _, attached, rendered⟩ := Walk.exists_of_bind_eq_ok rendered
    obtain ⟨content, _, _, rendered⟩ := Walk.exists_of_bind_eq_ok rendered
    obtain ⟨light, _, _, rendered⟩ := Walk.exists_of_bind_eq_ok rendered
    obtain ⟨rfl, _⟩ := Prod.mk.inj (Except.ok.inj rendered)
    refine ⟨onHost, content.markup ++ light.markup ++
      (if !Markup.isVoidElement tag then endTag tag else ""), (Walk.of_eq_ok.mp attached).1, ?_⟩
    have silent : ∀ usages : List Usage, Output.markup { usages := usages } = "" := fun _ => rfl
    simp only [Output.markup_append, Output.markup_ofText, Output.markup_whole, silent, keeps, kept,
      Bool.not_false, Bool.true_and, if_true, String.empty_append, String.append_assoc]

/-! ### Attributes -/

/-- Attributes are evaluated one by one, directives and what gives content left out. -/
theorem exists_evaluateAttribute {attributes : List Markup.Attribute} {data : Cascade}
    {file : String} {evaluated : List EvaluatedAttribute} {a : Markup.Attribute}
    (ok : evaluateAttributes attributes data file = .ok evaluated) (listed : a ∈ attributes)
    (isOwn : isDirective a.name = false) (isPlain : isContentDirective a.name = false) :
    ∃ e ∈ evaluated, evaluateAttribute a data file = .ok e := by
  have each := Compiled.mapM_eq_ok.mp ok
  have kept : a ∈ attributes.filter fun a => !isDirective a.name && !isContentDirective a.name :=
    List.mem_filter.mpr ⟨listed, by simp [isOwn, isPlain]⟩
  have found : evaluateAttribute a data file ∈ evaluated.map Except.ok :=
    each ▸ List.mem_map_of_mem kept
  obtain ⟨e, isEvaluated, same⟩ := List.mem_map.mp found
  exact ⟨e, isEvaluated, same.symm⟩

/-- The class that hosts get from the scope of a component. -/
def Component.scopeClass (d : Component) : List EvaluatedAttribute :=
  d.scopeId.toList.map (EvaluatedAttribute.ofText "class")

/-- The attributes of a host are merged from the root attributes, evaluated for the instance, its
own ones and the class of the scope. -/
theorem hostAttributes_eq_ok {d : Component} {data : Cascade}
    {attributes onHost : List EvaluatedAttribute} :
    hostAttributes d data attributes = .ok onHost ↔
      ∃ root, evaluateAttributes d.rootAttributes data d.path = .ok root ∧
        onHost = mergeAttributes (root ++ attributes ++ d.scopeClass) := by
  unfold hostAttributes
  rw [Compiled.bind_eq_ok]
  refine exists_congr fun root => and_congr_right fun _ => ?_
  constructor
  · intro same
    exact (Except.ok.inj same).symm
  · rintro rfl
    rfl

/-- Each root attribute is part of the one attribute of the host that has its key. -/
theorem exists_hostAttribute {d : Component} {data : Cascade}
    {attributes onHost : List EvaluatedAttribute}
    (attached : hostAttributes d data attributes = .ok onHost) :
    ∃ root, evaluateAttributes d.rootAttributes data d.path = .ok root ∧
      ∀ e ∈ root, ∃ b front back,
        mergedUnder (mergeKey e) (root ++ attributes ++ d.scopeClass) = some b ∧
        onHost = front ++ b :: back ∧ ∀ x ∈ front ++ back, mergeKey x ≠ mergeKey e := by
  obtain ⟨root, evaluated, rfl⟩ := hostAttributes_eq_ok.mp attached
  refine ⟨root, evaluated, fun e isRoot => ?_⟩
  have given : e ∈ root ++ attributes ++ d.scopeClass := by simp [isRoot]
  exact exists_mergedUnder given

end ComponentMarkup
