import ComponentMarkup.Render.Walk

/-!
# What rendering hands on

Rendering an item hands lists of items on to be rendered further down, each in a context of its own:
the children of an element, the content for a slot or what the slot falls back to, the template of a
component and the content that was handed to it, and markup that was only generated. Which lists
these are is said here once; what a whole walk meets follows.

## Main definitions

* `Context.around` — a context and those that its content was handed over from
* `HandsOn` — the lists that an element hands on, rendered once
* `Calls` — the lists that an item hands on
* `Meets` — the items that a walk meets
* `holdsElements` — a style or script that is set apart although it holds elements

## Main results

* `Context.owners_eq` — content belongs to the component around, or to those it was handed over from
-/

namespace ComponentMarkup

open Markup (Node isRawTextElement)

/-! ### Contexts around contexts -/

namespace Context

mutual

/-- The context itself and those that its content was handed over from, the innermost first. -/
def around : Context → List Context
  | ⟨data, raw, rawText, owner, component, isSlotContent, bucket, ancestry, light, caller⟩ =>
    ⟨data, raw, rawText, owner, component, isSlotContent, bucket, ancestry, light, caller⟩ ::
      aroundCaller caller
termination_by structural c => c

/-- The contexts that content was handed over from. -/
def aroundCaller : Option Context → List Context
  | none => []
  | some c => c.around
termination_by structural c => c

end

theorem around_eq (c : Context) : c.around = c :: aroundCaller c.caller := by
  cases c
  rfl

@[simp] theorem around_ofRoot (root : Component) (environment : Cascade) :
    (ofRoot root environment).around = [ofRoot root environment] := around_eq _

theorem mem_around_self (c : Context) : c ∈ c.around := by
  rw [around_eq]
  exact List.mem_cons_self

/-- The components that usages below a context can belong to. -/
def owners (c : Context) : List String := c.around.map owner

theorem owners_eq (c : Context) : c.owners = c.owner :: (aroundCaller c.caller).map owner := by
  rw [owners, around_eq, List.map_cons]

theorem owner_mem_owners (c : Context) : c.owner ∈ c.owners := by
  rw [owners_eq]
  exact List.mem_cons_self

@[simp] theorem owners_withLocals (c : Context) (bindings : Entries Value) :
    (c.withLocals bindings).owners = c.owners := by
  rw [owners_eq, owners_eq]
  rfl

@[simp] theorem owners_nested (c : Context) (raw rawText : Bool) (bucket : Option String) :
    (c.nested raw rawText bucket).owners = c.owners := by
  rw [owners_eq, owners_eq]
  rfl

@[simp] theorem owners_asSlotContent (c : Context) : c.asSlotContent.owners = c.owners := by
  rw [owners_eq, owners_eq]
  rfl

@[simp] theorem owners_forInstance (c : Context) (d : Component) (data : Cascade)
    (bucket : Option String) (light : List Node) :
    (c.forInstance d data bucket light).owners = d.path :: c.owners := by
  rw [owners_eq, ← owners_asSlotContent c]
  rfl

@[simp] theorem owners_ofRoot (root : Component) (environment : Cascade) :
    (ofRoot root environment).owners = [root.path] := owners_eq _

/-- Content for a slot goes back to the context that it was written in. -/
theorem slotContent?_eq_some {c k : Context} {name : String} {nodes : List Node}
    (h : c.slotContent? name = some (k, nodes)) :
    ∃ caller, c.caller = some caller ∧ k = caller.asSlotContent ∧ nodes.Sublist c.light := by
  unfold slotContent? at h
  obtain ⟨caller, isCaller, h⟩ := Option.bind_eq_some_iff.mp h
  split at h
  · exact nomatch h
  · obtain ⟨rfl, rfl⟩ := Prod.mk.inj (Option.some.inj h)
    refine ⟨caller, isCaller, rfl, ?_⟩
    unfold assigned
    split
    · exact List.filter_sublist
    · exact List.nil_sublist _

/-- Content for a slot belongs to one of the components around. -/
theorem owners_subset_of_slotContent? {c k : Context} {name : String} {nodes : List Node}
    (h : c.slotContent? name = some (k, nodes)) : k.owners ⊆ c.owners := by
  obtain ⟨caller, isCaller, rfl, _⟩ := slotContent?_eq_some h
  rw [owners_asSlotContent, owners_eq c, isCaller]
  exact List.subset_cons_self ..

/-- The same content was handed over, and the same instances are around. -/
def Alike (c k : Context) : Prop := c.light = k.light ∧ c.ancestry = k.ancestry

theorem exists_alike_around {c c' k' : Context} (hk : k' ∈ c'.around) (alike : c'.Alike c)
    (caller : c'.caller = c.caller) : ∃ k ∈ c.around, k'.Alike k := by
  rw [around_eq, caller] at hk
  rcases List.mem_cons.mp hk with rfl | hk
  · exact ⟨c, c.mem_around_self, alike⟩
  · refine ⟨k', ?_, rfl, rfl⟩
    rw [around_eq]
    exact List.mem_cons_of_mem c hk

theorem around_subset_of_caller {c caller : Context} (isCaller : c.caller = some caller) :
    caller.around ⊆ c.around := by
  intro k hk
  rw [around_eq c, isCaller]
  exact List.mem_cons_of_mem c hk

end Context

/-! ### The lists that are handed on -/

/-- A list that an element hands on when it is rendered once, with the context for it. `supplied`
holds of all components that may turn up. -/
inductive HandsOn (s : Setting) (supplied : Component → Prop) (c : Context) (i : Item) :
    Context → List Item → Prop
  /-- The markup that a script gives. -/
  | scripted {v : Value} (types : isRenderType (transformTypes i.node) = true)
    (value : Script.evaluateDefault (scriptSource i.node) c.data = .ok v) :
    HandsOn s supplied c i c (itemsOf (Markup.parseTemplate v.display).children)
  /-- The children, or the content of a template. -/
  | children : HandsOn s supplied c i
    (c.nested (hasRawChildren i.node) (isRawTextElement (tagOf i.node)) (bucketOf i.node c))
    (itemsOf (renderedChildren i.node))
  /-- The markup that a directive gives. -/
  | html {a : Markup.Attribute} {attributes : List EvaluatedAttribute} {v : Value}
    (directive : contentDirective i.node (tagOf i.node) c.file = .ok (some a))
    (isHtml : a.name = "@html") (evaluated : attributesOf i c = .ok attributes)
    (value : evaluateExpression a.value ("attribute `" ++ a.name ++ "`")
      (c.data.withOwn (cascadeEntries attributes)) c.file = .ok v) :
    HandsOn s supplied c i
      (c.nested (hasRawChildren i.node) (isRawTextElement (tagOf i.node)) (bucketOf i.node c))
      (itemsOf (Markup.parseTemplate v.display).children)
  /-- The content handed over for a slot. -/
  | slot {k : Context} {nodes : List Node}
    (found : c.slotContent? ((i.node.attribute? "name").getD defaultSlot) = some (k, nodes)) :
    HandsOn s supplied c i k (itemsOf nodes)
  /-- What a slot falls back to. -/
  | fallback : HandsOn s supplied c i c (itemsOf i.node.children)
  /-- The text of a style or script. -/
  | asset : HandsOn s supplied c i (c.nested c.raw true c.bucket) (itemsOf i.node.children)
  /-- The template of a component. -/
  | template {d : Component} {attributes onHost : List EvaluatedAttribute} {data : Cascade}
    (isSupplied : supplied d) (fresh : d.path ∉ c.ancestry)
    (evaluated : attributesOf i c = .ok attributes)
    (data_eq : data = c.data.forComponent d.path d.setup (cascadeEntries attributes)
      (rawEntries attributes))
    (host : hostAttributes d data attributes = .ok onHost) :
    HandsOn s supplied c i (c.forInstance d data (bucketOf i.node c) i.node.children)
      (instanceItems d onHost)
  /-- The content handed to a component, after what the component renders to. -/
  | light : HandsOn s supplied c i c.asSlotContent (itemsOf i.node.children)

/-- A list that an item hands on, with the context for it. -/
inductive Calls (s : Setting) (supplied : Component → Prop) (c : Context) (i : Item) :
    Context → List Item → Prop
  | document {nodes : List Node} (isDocument : i.node = .document nodes) :
    Calls s supplied c i c (itemsOf nodes)
  /-- An element that is written as it is. -/
  | verbatim (raw : c.raw = true) : Calls s supplied c i
    (c.nested true (isRawTextElement (i.node.tag?.getD "")) c.bucket)
    (itemsOf (renderedChildren i.node))
  /-- An element without a loop. -/
  | once {c' : Context} {items : List Item} (interpreted : c.raw = false)
    (element : i.node.isElement = true) (noLoop : i.node.attribute? "webc:for" = none)
    (handsOn : HandsOn s supplied c i c' items) : Calls s supplied c i c' items
  /-- An element in one iteration of its loop. -/
  | iteration {value : String} {rows : List (Entries Value)} {row : Entries Value} {c' : Context}
    {items : List Item} (interpreted : c.raw = false) (element : i.node.isElement = true)
    (loops : i.node.attribute? "webc:for" = some value) (expanded : rowsOf value c = .ok rows)
    (isRow : row ∈ rows) (handsOn : HandsOn s supplied (c.withLocals row) i c' items) :
    Calls s supplied c i c' items

/-- An item that is met when items are rendered in a context, with the context in which it is met.
Nothing is met where markup is written as it is. -/
inductive Meets (s : Setting) (supplied : Component → Prop) :
    Context → List Item → Context → Item → Prop
  | here {c : Context} {items : List Item} {i : Item} (interpreted : c.raw = false)
    (listed : i ∈ items) : Meets s supplied c items c i
  | further {c c' c'' : Context} {items items' : List Item} {i j : Item}
    (interpreted : c.raw = false) (listed : i ∈ items) (call : Calls s supplied c i c' items')
    (meets : Meets s supplied c' items' c'' j) : Meets s supplied c items c'' j

/-- A directive that gives content is an attribute of the element. -/
theorem mem_of_contentDirective {n : Node} {tag file : String} {a : Markup.Attribute}
    (h : contentDirective n tag file = .ok (some a)) : a ∈ n.attributes := by
  unfold contentDirective at h
  split at h
  · exact nomatch h
  · rename_i b only
    obtain rfl : b = a := Option.some.inj (Except.ok.inj h)
    have listed : b ∈ [b] := List.mem_cons_self
    rw [← only] at listed
    exact (List.mem_filter.mp listed).1
  · exact nomatch h

/-- The items of an instance are nodes of the template. -/
theorem node_mem_of_instanceItems {d : Component} {attributes : List EvaluatedAttribute} {i : Item}
    (h : i ∈ instanceItems d attributes) : i.node ∈ d.tree.children := by
  obtain ⟨⟨n, place⟩, hn, rfl⟩ := List.mem_map.mp h
  have listed : n ∈ (d.tree.children.zipIdx).map Prod.fst := List.mem_map.mpr ⟨_, hn, rfl⟩
  rwa [List.zipIdx_map_fst] at listed

/-- Around a list that is handed on there is what was around before, and the new instance if the
list is that of a template. -/
theorem HandsOn.exists_alike {s : Setting} {supplied : Component → Prop} {c c' : Context} {i : Item}
    {items : List Item} (handsOn : HandsOn s supplied c i c' items) :
    ∀ k' ∈ c'.around, (∃ k ∈ c.around, k'.Alike k) ∨
      k'.light = i.node.children ∧
        ∃ d, supplied d ∧ d.path ∉ c.ancestry ∧ k'.ancestry = c.ancestry ++ [d.path] := by
  intro k' hk
  cases handsOn with
  | slot found =>
    obtain ⟨caller, isCaller, rfl, _⟩ := Context.slotContent?_eq_some found
    obtain ⟨k, hk, alike⟩ := Context.exists_alike_around (c := caller) hk ⟨rfl, rfl⟩ rfl
    exact .inl ⟨k, Context.around_subset_of_caller isCaller hk, alike⟩
  | template isSupplied fresh =>
    -- The new instance stands inside the context of its host, taken as that of content.
    rw [Context.around_eq] at hk
    rcases List.mem_cons.mp hk with rfl | hk
    · exact .inr ⟨rfl, _, isSupplied, fresh, rfl⟩
    · exact .inl (Context.exists_alike_around (c := c) hk ⟨rfl, rfl⟩ rfl)
  | _ => exact .inl (Context.exists_alike_around hk ⟨rfl, rfl⟩ rfl)

/-- What is around a list that is handed on, for all ways of handing on. -/
theorem Calls.exists_alike {s : Setting} {supplied : Component → Prop} {c c' : Context} {i : Item}
    {items : List Item} (call : Calls s supplied c i c' items) :
    ∀ k' ∈ c'.around, (∃ k ∈ c.around, k'.Alike k) ∨
      k'.light = i.node.children ∧
        ∃ d, supplied d ∧ d.path ∉ c.ancestry ∧ k'.ancestry = c.ancestry ++ [d.path] := by
  intro k' hk
  cases call with
  | document => exact .inl ⟨k', hk, rfl, rfl⟩
  | verbatim => exact .inl (Context.exists_alike_around hk ⟨rfl, rfl⟩ rfl)
  | once _ _ _ handsOn => exact handsOn.exists_alike k' hk
  | @iteration _ _ row _ _ _ _ _ _ _ handsOn =>
    refine (handsOn.exists_alike k' hk).imp_left fun ⟨k, hk, light, ancestry⟩ => ?_
    obtain ⟨k₀, hk₀, alike⟩ := Context.exists_alike_around (c := c) hk ⟨rfl, rfl⟩ rfl
    exact ⟨k₀, hk₀, light.trans alike.1, ancestry.trans alike.2⟩

/-- Below what is written as it is, all is. -/
theorem Calls.raw_eq_true {s : Setting} {supplied : Component → Prop} {c c' : Context} {i : Item}
    {items : List Item} (call : Calls s supplied c i c' items) (raw : c.raw = true) :
    c'.raw = true := by
  cases call with
  | document => exact raw
  | verbatim => rfl
  | once interpreted => exact nomatch raw.symm.trans interpreted
  | iteration interpreted => exact nomatch raw.symm.trans interpreted

/-! ### Styles and scripts that hold elements -/

/-- Whether an item is no element and has none below. -/
def Item.isFlat (i : Item) : Bool := !i.node.hasSelfOrBelow Node.isElement

/-- Whether a node is a style or script that is set apart although it holds elements. Markup can
have such nodes within drawings and formulas only. -/
def holdsElements (n : Node) : Bool :=
  (assetKind? n).isSome && !n.hasAttribute "webc:keep" && Node.anyOfAll Node.isElement n.children

/-- No style or script that is met and set apart holds elements. -/
def AssetsHoldText (s : Setting) (supplied : Component → Prop) (c : Context)
    (items : List Item) : Prop :=
  ∀ k i, Meets s supplied c items k i → holdsElements i.node = false

section

variable {s : Setting} {supplied : Component → Prop} {c c' : Context} {items items' : List Item}
  {i : Item}

theorem AssetsHoldText.here (h : AssetsHoldText s supplied c items) (interpreted : c.raw = false)
    (listed : i ∈ items) : holdsElements i.node = false :=
  h c i (.here interpreted listed)

/-- Where markup is written as it is, nothing is met. -/
theorem AssetsHoldText.of_raw (raw : c.raw = true) : AssetsHoldText s supplied c items := by
  intro k j meets
  cases meets with
  | here interpreted => exact nomatch raw.symm.trans interpreted
  | further interpreted => exact nomatch raw.symm.trans interpreted

theorem AssetsHoldText.below (h : AssetsHoldText s supplied c items) (listed : i ∈ items)
    (call : Calls s supplied c i c' items') : AssetsHoldText s supplied c' items' := by
  cases interpreted : c.raw with
  | false => exact fun k j meets => h k j (.further interpreted listed call meets)
  | true => exact .of_raw (call.raw_eq_true interpreted)

/-- Nodes are flat as items if nothing among them or below is an element. -/
theorem isFlat_of_mem_itemsOf {nodes : List Node}
    (none : Node.anyOfAll Node.isElement nodes = false) (listed : i ∈ itemsOf nodes) :
    i.isFlat = true := by
  obtain ⟨n, hn, rfl⟩ := List.mem_map.mp listed
  rw [Node.anyOfAll_eq_any, List.any_eq_false] at none
  simpa [Item.isFlat] using none n hn

/-- A flat item is no element, and the nodes right below it are flat. -/
theorem flat_of_isFlat (flat : i.isFlat = true) :
    i.node.isElement = false ∧ ∀ j ∈ itemsOf i.node.children, j.isFlat = true := by
  have lacks : i.node.hasSelfOrBelow Node.isElement = false := by simpa [Item.isFlat] using flat
  obtain ⟨self, below, _⟩ := Node.lacks_of_hasSelfOrBelow lacks
  refine ⟨self, fun j listed => ?_⟩
  obtain ⟨n, hn, rfl⟩ := List.mem_map.mp listed
  simpa [Item.isFlat] using below n hn

end

end ComponentMarkup
