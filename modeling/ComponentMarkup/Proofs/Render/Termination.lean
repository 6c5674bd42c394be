import ComponentMarkup.Proofs.Render.Accounting
import ComponentMarkup.Proofs.Render.Written
import Mathlib.Algebra.Order.BigOperators.Group.List
import Mathlib.Data.Finset.Card
import Mathlib.Tactic.Linarith

/-!
# Walks end

Where no element gives markup of its own making and the components that may turn up are of finitely
many paths and of bounded height, the lists that a walk meets nest to a bounded depth.

Neither the height of a list nor the number of components around falls from list to list: an
instance starts over with a template, and a slot goes back to content that was written further out.
What falls is a sum. A list counts with its height, as often as instances can still be opened
around it; and all content that was handed over and may still be called for counts where it was
written. An instance pays for its template and for the content handed to it with its host; content
for a slot has been paid for when it was handed over.

## Main definitions

* `Node.height` — how deep the nodes of a tree nest
* `Bounded` — the paths and the height of all components that may turn up
* `Bounded.rank` — what falls from each list to the lists that it hands on

## Main results

* `Bounded.rank_lt` — the rank falls
* `Bounded.carries` — beyond the rank of a list, more depth changes nothing
-/

namespace ComponentMarkup

open Markup (Node)

/-! ### Heights -/

namespace Markup.Node

mutual

/-- How deep the nodes of a tree nest, the content of templates included. -/
def height : Node → Nat
  | document cs => heightOfAll cs + 1
  | element _ _ cs content => max (heightOfAll cs) (heightOfContent content) + 1
  | _ => 1
termination_by structural n => n

/-- The greatest height of several trees. -/
def heightOfAll : List Node → Nat
  | [] => 0
  | n :: ns => max n.height (heightOfAll ns)
termination_by structural ns => ns

/-- The height of the content of a template. -/
def heightOfContent : Option Node → Nat
  | none => 0
  | some n => n.height
termination_by structural n => n

end

theorem heightOfAll_le_iff {ns : List Node} {h : Nat} :
    heightOfAll ns ≤ h ↔ ∀ n ∈ ns, n.height ≤ h := by
  induction ns with
  | nil => simp [heightOfAll]
  | cons n ns ih => rw [heightOfAll, Nat.max_le, ih, List.forall_mem_cons]

theorem height_le_heightOfAll {n : Node} {ns : List Node} (hn : n ∈ ns) :
    n.height ≤ heightOfAll ns :=
  heightOfAll_le_iff.mp (Nat.le_refl _) n hn

theorem height_pos (n : Node) : 0 < n.height := by
  cases n <;> simp [height]

/-- The children of a node are less high, and so is the content of a template. -/
theorem height_children_lt (n : Node) :
    heightOfAll n.children < n.height ∧ heightOfContent n.content? < n.height := by
  cases n with
  | element name attributes cs content =>
    simp only [children, content?, height]
    omega
  | _ => simp [children, content?, height, heightOfAll, heightOfContent]

end Markup.Node

open Markup.Node (height heightOfAll)

theorem height_renderedChildren_lt (n : Node) : heightOfAll (renderedChildren n) < n.height := by
  obtain ⟨children, content⟩ := n.height_children_lt
  unfold renderedChildren
  split
  · rename_i tree found
    rw [found] at content
    exact tree.height_children_lt.1.trans content
  · exact children

/-- The height of a list of items. -/
def heightOf (items : List Item) : Nat := heightOfAll (items.map Item.node)

@[simp] theorem heightOf_itemsOf (nodes : List Node) :
    heightOf (itemsOf nodes) = heightOfAll nodes := by
  simp [heightOf, itemsOf, Function.comp_def]

theorem heightOf_instanceItems_le (d : Component) (attributes : List EvaluatedAttribute) :
    heightOf (instanceItems d attributes) ≤ heightOfAll d.tree.children := by
  refine Node.heightOfAll_le_iff.mpr fun n hn => ?_
  obtain ⟨i, hi, rfl⟩ := List.mem_map.mp hn
  exact Node.height_le_heightOfAll (node_mem_of_instanceItems hi)

/-! ### The rank of a list -/

/-- The paths of the components that may turn up, and how high their templates are. -/
structure Bound where
  paths : Finset String
  height : Nat

namespace Bound

variable (b : Bound) {s : Setting} {c c' : Context} {d : Component} {i : Item}
  {items items' : List Item}

/-- A component within the bound, in which all markup is written. -/
structure Admits (d : Component) : Prop where
  path_mem : d.path ∈ b.paths
  height_le : heightOfAll d.tree.children ≤ b.height
  written : d.tree.hasSelfOrBelow generates = false

/-- The instances around are different components within the bound, also where content was
handed over. -/
def Within (c : Context) : Prop :=
  ∀ k ∈ c.around, k.ancestry.Nodup ∧ ∀ path ∈ k.ancestry, path ∈ b.paths

/-- How often a list counts: for all lists of templates that instances further in may open. -/
def weight (c : Context) : Nat := (b.height + 1) ^ (b.paths.card - c.ancestry.length)

/-- The content handed over to a component counts where it was written. -/
def owed (c : Context) : Nat :=
  match c.caller with
  | none => 0
  | some caller => heightOfAll c.light * b.weight caller

/-- All content that may still be called for. -/
def debt (c : Context) : Nat := (c.around.map b.owed).sum

/-- What falls from each list to the lists that it hands on. -/
def rank (c : Context) (items : List Item) : Nat := heightOf items * b.weight c + b.debt c

theorem weight_pos (c : Context) : 0 < b.weight c := Nat.pow_pos (Nat.succ_pos _)

theorem debt_eq (c : Context) :
    b.debt c = b.owed c + ((Context.aroundCaller c.caller).map b.owed).sum := by
  rw [debt, Context.around_eq, List.map_cons, List.sum_cons]

/-- Content for a slot is owed to the context that it was handed over in. -/
theorem debt_of_caller {caller : Context} (isCaller : c.caller = some caller) :
    b.debt c = heightOfAll c.light * b.weight caller + b.debt caller := by
  rw [debt_eq, owed, isCaller]
  rfl

/-- Contexts with the same instances and the same content around count alike. -/
theorem debt_congr (c c' : Context) (light : c'.light = c.light) (caller : c'.caller = c.caller) :
    b.debt c' = b.debt c := by
  rw [debt_eq, debt_eq, owed, owed, light, caller]

theorem debt_forInstance (c : Context) (d : Component) (data : Cascade) (bucket : Option String)
    (light : List Node) :
    b.debt (c.forInstance d data bucket light) = heightOfAll light * b.weight c + b.debt c := by
  have isCaller : (c.forInstance d data bucket light).caller = some c.asSlotContent := rfl
  rw [b.debt_of_caller isCaller, b.debt_congr c c.asSlotContent rfl rfl]
  rfl

/-- An instance that is not around yet counts less often than its host. -/
theorem weight_forInstance (within : b.Within c) (admits : b.Admits d) (fresh : d.path ∉ c.ancestry)
    (data : Cascade) (bucket : Option String) (light : List Node) :
    b.weight c = (b.height + 1) * b.weight (c.forInstance d data bucket light) := by
  obtain ⟨nodup, known⟩ := within c c.mem_around_self
  -- The new instance and those around are of different paths within the bound, so the bound has
  -- room for one more.
  have distinct : (d.path :: c.ancestry).Nodup := List.nodup_cons.mpr ⟨fresh, nodup⟩
  have room : (d.path :: c.ancestry).length ≤ b.paths.card := by
    rw [← List.toFinset_card_of_nodup distinct]
    refine Finset.card_le_card fun path h => ?_
    rcases List.mem_cons.mp (List.mem_toFinset.mp h) with rfl | h
    · exact admits.path_mem
    · exact known path h
  have fewer : b.paths.card - c.ancestry.length =
      b.paths.card - (c.forInstance d data bucket light).ancestry.length + 1 := by
    simp only [Context.forInstance, List.length_append, List.length_cons, List.length_nil] at room ⊢
    omega
  rw [weight, fewer, Nat.pow_succ, Nat.mul_comm]
  rfl

/-! ### The rank falls -/

/-- A lower list in a context with the same instances and content around. -/
theorem rank_lt_of_same (c c' : Context) (ancestry : c'.ancestry = c.ancestry)
    (light : c'.light = c.light) (caller : c'.caller = c.caller) {h : Nat}
    (lower : heightOf items' < h) : b.rank c' items' < h * b.weight c + b.debt c := by
  have weight : b.weight c' = b.weight c := by rw [Bound.weight, Bound.weight, ancestry]
  rw [rank, b.debt_congr c c' light caller, weight]
  exact Nat.add_lt_add_right (Nat.mul_lt_mul_of_pos_right lower (b.weight_pos c)) _

theorem rank_lt_of_handsOn (within : b.Within c) (written : generates i.node ≠ true)
    (handsOn : HandsOn s b.Admits c i c' items') :
    b.rank c' items' < i.node.height * b.weight c + b.debt c := by
  have children : heightOf (itemsOf i.node.children) < i.node.height := by
    simpa using i.node.height_children_lt.1
  cases handsOn with
  | scripted types => exact absurd (generates_of_isRenderType types) written
  | children =>
    refine b.rank_lt_of_same c (c.nested _ _ _) rfl rfl rfl ?_
    simpa using height_renderedChildren_lt i.node
  | html directive isHtml => exact absurd (generates_of_contentDirective directive isHtml) written
  | @slot _ nodes found =>
    obtain ⟨caller, isCaller, rfl, sublist⟩ := Context.slotContent?_eq_some found
    -- The debt covers all of the content; the slot itself makes the difference.
    have covered : heightOf (itemsOf nodes) ≤ heightOfAll c.light := by
      rw [heightOf_itemsOf, Node.heightOfAll_le_iff]
      exact fun n hn => Node.height_le_heightOfAll (sublist.subset hn)
    have paid : b.rank caller.asSlotContent (itemsOf nodes) ≤ b.debt c := by
      rw [b.debt_of_caller isCaller, rank, b.debt_congr caller caller.asSlotContent rfl rfl]
      exact Nat.add_le_add_right (Nat.mul_le_mul_right _ covered) _
    have slot : 0 < i.node.height * b.weight c := Nat.mul_pos i.node.height_pos (b.weight_pos c)
    omega
  | fallback => exact b.rank_lt_of_same c c rfl rfl rfl children
  | asset => exact b.rank_lt_of_same c (c.nested _ _ _) rfl rfl rfl children
  | @template d _ onHost data admits fresh =>
    have counts := b.weight_forInstance within admits fresh data (bucketOf i.node c)
      i.node.children
    have lower := (heightOf_instanceItems_le d onHost).trans admits.height_le
    have light : heightOfAll i.node.children + 1 ≤ i.node.height := i.node.height_children_lt.1
    have pos := b.weight_pos (c.forInstance d data (bucketOf i.node c) i.node.children)
    rw [rank, debt_forInstance]
    generalize b.weight (c.forInstance d data (bucketOf i.node c) i.node.children) = inside at *
    -- The host pays once for the content handed over, and once for the template.
    have template : heightOf (instanceItems d onHost) * inside < b.weight c := by
      rw [counts]
      exact Nat.mul_lt_mul_of_pos_right (Nat.lt_succ_of_le lower) pos
    have host : (heightOfAll i.node.children + 1) * b.weight c ≤ i.node.height * b.weight c :=
      Nat.mul_le_mul_right _ light
    rw [Nat.succ_mul] at host
    omega
  | light => exact b.rank_lt_of_same c c.asSlotContent rfl rfl rfl children

theorem Within.of_same {b : Bound} (within : b.Within c)
    (same : ∀ k' ∈ c'.around, ∃ k ∈ c.around, k'.Alike k) : b.Within c' := by
  intro k' hk'
  obtain ⟨k, hk, _, ancestry⟩ := same k' hk'
  exact ancestry ▸ within k hk

/-- The instances around stay different and within the bound. -/
theorem Within.of_calls {b : Bound} (within : b.Within c) (call : Calls s b.Admits c i c' items') :
    b.Within c' := by
  intro k' hk'
  rcases call.exists_alike k' hk' with ⟨k, hk, _, ancestry⟩ | ⟨_, d, admits, fresh, ancestry⟩
  · exact ancestry ▸ within k hk
  · obtain ⟨nodup, known⟩ := within c c.mem_around_self
    rw [ancestry]
    refine ⟨nodup.append (List.nodup_singleton _) (by simpa using fresh), fun path h => ?_⟩
    rcases List.mem_append.mp h with h | h
    · exact known path h
    · rw [List.mem_singleton.mp h]
      exact admits.path_mem

/-- The rank falls from a list to each list that it hands on. -/
theorem rank_lt (within : b.Within c) (lacks : Lacks generates c items) (listed : i ∈ items)
    (call : Calls s b.Admits c i c' items') : b.rank c' items' < b.rank c items := by
  have here : i.node.height * b.weight c + b.debt c ≤ b.rank c items := by
    have height : i.node.height ≤ heightOf items :=
      Node.height_le_heightOfAll (List.mem_map.mpr ⟨i, listed, rfl⟩)
    exact Nat.add_le_add_right (Nat.mul_le_mul_right _ height) _
  have written : generates i.node ≠ true := by
    simpa using (Node.lacks_of_hasSelfOrBelow (lacks.listed i listed)).1
  refine Nat.lt_of_lt_of_le ?_ here
  cases call with
  | document isDocument =>
    refine b.rank_lt_of_same c c rfl rfl rfl ?_
    have below := i.node.height_children_lt.1
    simpa [isDocument, Node.children] using below
  | verbatim =>
    refine b.rank_lt_of_same c (c.nested _ _ _) rfl rfl rfl ?_
    simpa using height_renderedChildren_lt i.node
  | once _ _ _ handsOn => exact b.rank_lt_of_handsOn within written handsOn
  | @iteration _ _ row _ _ _ _ _ _ _ handsOn =>
    have inside : b.Within (c.withLocals row) :=
      within.of_same fun k hk => Context.exists_alike_around hk ⟨rfl, rfl⟩ rfl
    have below := b.rank_lt_of_handsOn inside written handsOn
    rwa [b.debt_congr c (c.withLocals row) rfl rfl] at below

/-! ### Depth beyond the rank -/

/-- Beyond the rank of a list, more depth changes nothing, and the walk does not stop for its
depth. -/
theorem carries (supplies : Supplies s b.Admits) (within : b.Within c)
    (lacks : Lacks generates c items) {depth deeper : Nat} (enough : b.rank c items < depth)
    (also : b.rank c items < deeper) :
    (render s depth).Carries ⟨b.Admits, False⟩ (AssetsHoldText s b.Admits c items)
      (render s deeper) c items := by
  -- The rank falls by one at least where the depth falls by one.
  induction depth generalizing c items deeper with
  | zero => exact absurd enough (Nat.not_lt_zero _)
  | succ depth ih =>
    obtain ⟨deeper, rfl⟩ := Nat.exists_eq_succ_of_ne_zero (Nat.ne_zero_of_lt also)
    refine renderItems_carries supplies fun i listed c' items' call => ?_
    have falls := b.rank_lt within lacks listed call
    have below := lacks.of_calls (fun _ => id) (fun d admits => admits.written) listed call
    exact ih (within.of_calls call) below (by omega) (by omega)

theorem within_ofRoot {root : Component} (admits : b.Admits root) (environment : Cascade) :
    b.Within (.ofRoot root environment) := by
  intro k hk
  rw [Context.around_ofRoot, List.mem_singleton] at hk
  subst hk
  exact ⟨List.nodup_singleton _, fun path h => List.mem_singleton.mp h ▸ admits.path_mem⟩

/-- A walk over a document within the bound ends at some depth, for good. -/
theorem exists_depth_renderRoot (supplies : Supplies s b.Admits) {root : Component} {r : Registry}
    (document : b.Admits root) (known : r.Holds fun _ => b.Admits) :
    ∃ depth, ∀ sink, ∀ deeper ≥ depth,
      renderRoot s deeper root sink ⟨r, {}⟩ = renderRoot s depth root sink ⟨r, {}⟩ ∧
        renderRoot s depth root sink ⟨r, {}⟩ ≠ .error .tooDeep := by
  let c := Context.ofRoot root s.sources.data
  let items := itemsOf root.tree.children
  refine ⟨b.rank c items + 1, fun sink deeper more => ?_⟩
  have carried := b.carries supplies (b.within_ofRoot document _) (.ofRoot document.written _)
    (Nat.lt_succ_self (b.rank c items)) (Nat.lt_of_succ_le more)
  obtain ⟨same, settled⟩ := (carried sink _).outcome ⟨r, ({} : UsageGraph).addNode root.path⟩
    known rfl
  refine ⟨same.symm, fun stopped => ?_⟩
  rw [show render s _ c sink items _ = .error .tooDeep from stopped] at settled
  cases settled with
  | tooDeep stops => exact stops

end Bound

end ComponentMarkup
