import ComponentMarkup.Proofs.Render.Calls

/-!
# Markup that was written

Where no element gives markup of its own making, through a script or from a value, all that a walk
ever meets was written in a template or in the document. So a property that no node of these has is
one that no node has that is met.

## Main definitions

* `generates` — an element whose markup comes from a script or a value
* `Lacks` — nothing in a list, or in content handed over around it, has a property

## Main results

* `Lacks.of_calls` — the lists that are handed on lack what the list and all templates lack
* `assetsHoldText_of_lacks` — styles and scripts that hold elements are not met if none is written
-/

namespace ComponentMarkup

open Markup (Node)

variable {q : Node → Bool} {s : Setting} {supplied : Component → Prop} {c c' : Context}
  {items items' : List Item} {i : Item}

/-- Whether an element gives markup that is read when it is rendered. -/
def generates (n : Node) : Bool := n.hasAttribute "@html" || isRenderType (transformTypes n)

theorem generates_of_isRenderType {n : Node} (types : isRenderType (transformTypes n) = true) :
    generates n = true := by
  simp [generates, types]

theorem generates_of_contentDirective {n : Node} {tag file : String} {a : Markup.Attribute}
    (directive : contentDirective n tag file = .ok (some a)) (isHtml : a.name = "@html") :
    generates n = true := by
  have has : n.hasAttribute "@html" = true :=
    List.any_eq_true.mpr ⟨a, mem_of_contentDirective directive, by simp [isHtml]⟩
  simp [generates, has]

/-- Nothing in a list has the property, nor anything in content handed over around it. -/
structure Lacks (q : Node → Bool) (c : Context) (items : List Item) : Prop where
  listed : ∀ i ∈ items, i.node.hasSelfOrBelow q = false
  handed : ∀ k ∈ c.around, ∀ n ∈ k.light, n.hasSelfOrBelow q = false

namespace Lacks

/-- The items that are made of nodes lack what the nodes lack. -/
theorem listed_itemsOf {nodes : List Node} (lacks : ∀ n ∈ nodes, n.hasSelfOrBelow q = false) :
    ∀ i ∈ itemsOf nodes, i.node.hasSelfOrBelow q = false := by
  intro i hi
  obtain ⟨n, hn, rfl⟩ := List.mem_map.mp hi
  exact lacks n hn

/-- No content is handed over around a document. -/
theorem ofRoot {root : Component} (lacks : root.tree.hasSelfOrBelow q = false)
    (environment : Cascade) :
    Lacks q (.ofRoot root environment) (itemsOf root.tree.children) := by
  refine ⟨listed_itemsOf (Node.lacks_of_hasSelfOrBelow lacks).2.1, fun k hk n hn => ?_⟩
  rw [Context.around_ofRoot, List.mem_singleton] at hk
  subst hk
  exact absurd hn List.not_mem_nil

/-- The children, or the content of a template. -/
theorem listed_renderedChildren (item : i.node.hasSelfOrBelow q = false) :
    ∀ j ∈ itemsOf (renderedChildren i.node), j.node.hasSelfOrBelow q = false := by
  obtain ⟨_, children, content⟩ := Node.lacks_of_hasSelfOrBelow item
  refine listed_itemsOf ?_
  unfold renderedChildren
  split
  · rename_i tree found
    exact (Node.lacks_of_hasSelfOrBelow (content tree found)).2.1
  · exact children

theorem listed_of_handsOn (generating : ∀ n, generates n = true → q n = true)
    (templates : ∀ d, supplied d → d.tree.hasSelfOrBelow q = false)
    (item : i.node.hasSelfOrBelow q = false)
    (handed : ∀ k ∈ c.around, ∀ n ∈ k.light, n.hasSelfOrBelow q = false)
    (handsOn : HandsOn s supplied c i c' items') :
    ∀ j ∈ items', j.node.hasSelfOrBelow q = false := by
  obtain ⟨self, children, _⟩ := Node.lacks_of_hasSelfOrBelow item
  have written : generates i.node ≠ true := fun h => by simp [generating _ h] at self
  -- All that is left are nodes below, content that was handed over, and templates.
  cases handsOn with
  | scripted types => exact absurd (generates_of_isRenderType types) written
  | children => exact listed_renderedChildren item
  | html directive isHtml => exact absurd (generates_of_contentDirective directive isHtml) written
  | slot found =>
    obtain ⟨_, _, _, sublist⟩ := Context.slotContent?_eq_some found
    exact listed_itemsOf fun n hn => handed c c.mem_around_self n (sublist.subset hn)
  | template isSupplied =>
    have tree := (Node.lacks_of_hasSelfOrBelow (templates _ isSupplied)).2.1
    exact fun j hj => tree _ (node_mem_of_instanceItems hj)
  | fallback | asset | light => exact listed_itemsOf children

/-- Lists that are handed on lack what the list, the content around it and all templates lack. -/
theorem of_calls (generating : ∀ n, generates n = true → q n = true)
    (templates : ∀ d, supplied d → d.tree.hasSelfOrBelow q = false) (lacks : Lacks q c items)
    (listed : i ∈ items) (call : Calls s supplied c i c' items') : Lacks q c' items' := by
  have item := lacks.listed i listed
  have children := (Node.lacks_of_hasSelfOrBelow item).2.1
  refine ⟨?_, fun k hk => ?_⟩
  · cases call with
    | document isDocument =>
      rw [isDocument] at children
      exact listed_itemsOf children
    | verbatim => exact listed_renderedChildren item
    | once _ _ _ handsOn =>
      exact listed_of_handsOn generating templates item lacks.handed handsOn
    | iteration _ _ _ _ _ handsOn =>
      refine listed_of_handsOn generating templates item (fun k hk => ?_) handsOn
      obtain ⟨k₀, hk₀, light, _⟩ := Context.exists_alike_around (c := c) hk ⟨rfl, rfl⟩ rfl
      exact light ▸ lacks.handed k₀ hk₀
  · rcases call.exists_alike k hk with ⟨k₀, hk₀, light, _⟩ | ⟨light, _⟩
    · exact light ▸ lacks.handed k₀ hk₀
    · exact light ▸ children

end Lacks

/-- Where nothing gives markup and no style or script that would be set apart holds elements, no
such style or script is met. -/
theorem assetsHoldText_of_lacks
    (templates : ∀ d, supplied d →
      d.tree.hasSelfOrBelow (fun n => generates n || holdsElements n) = false)
    (lacks : Lacks (fun n => generates n || holdsElements n) c items) :
    AssetsHoldText s supplied c items := by
  intro k i meets
  induction meets with
  | here _ listed =>
    have self := (Node.lacks_of_hasSelfOrBelow (lacks.listed _ listed)).1
    exact (Bool.or_eq_false_iff.mp self).2
  | further _ listed call _ ih =>
    exact ih (lacks.of_calls (fun n h => by simp [h]) templates listed call)

end ComponentMarkup
