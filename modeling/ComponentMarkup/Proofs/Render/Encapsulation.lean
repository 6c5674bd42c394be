import ComponentMarkup.Render.Walk

/-!
# Components see nothing of their callers

What a component renders to depends on the context of its host in few ways: the global data and the
helpers, the component around with the instances around it, the bucket, and whether the host is
content that was handed over. All else that a component sees comes through the attributes of its
host.

The context of an instance keeps the whole context of its host all the same, as that of the content
handed over, and passes it on to all that is nested. A host without children hands nothing over, so
this context is never gone back to; a component further in that is given content goes back to the
context of the instance, which is as blind. `Context.Conceals` says this of two contexts, and every
step of the walk keeps it.

## Main definitions

* `Context.AgreesOutside` — what two contexts have in common that instances depend on
* `Context.Conceals` — contexts that differ only where no content is handed over
* `Renderer.Blind` — a renderer for which such contexts are the same

## Main results

* `renderItems_blind`, `render_blind` — a step of the walk, and so the walk, is blind
* `renderComponent_eq_of_agreesOutside` — an instance without content is the same in all contexts
  that agree outside
-/

namespace ComponentMarkup

open Markup (Node isRawTextElement isVoidElement)

/-! ### Contexts that nothing goes back to -/

namespace Context

/-- What instances depend on in the context of their hosts, attributes apart. -/
structure AgreesOutside (c c' : Context) : Prop where
  globals : c'.data.globals = c.data.globals
  helpers : c'.data.helpers = c.data.helpers
  owner : c'.owner = c.owner
  ancestry : c'.ancestry = c.ancestry
  bucket : c'.bucket = c.bucket
  isSlotContent : c'.isSlotContent = c.isSlotContent

/-- The contexts are the same but for the contexts that content was handed over in, and these make
no difference: there is no content, or they are again the same but for theirs. -/
inductive Conceals : Context → Context → Prop
  /-- Nothing was handed over. -/
  | nothing (c k k' : Context) (empty : c.light = []) :
    Conceals { c with caller := some k } { c with caller := some k' }
  /-- What was handed over was written in contexts that conceal the same. -/
  | handed (c : Context) {k k' : Context} (conceals : Conceals k k') :
    Conceals { c with caller := some k } { c with caller := some k' }

namespace Conceals

variable {c c' : Context}

theorem data_eq (h : Conceals c c') : c'.data = c.data := by cases h <;> rfl

theorem raw_eq (h : Conceals c c') : c'.raw = c.raw := by cases h <;> rfl

theorem rawText_eq (h : Conceals c c') : c'.rawText = c.rawText := by cases h <;> rfl

theorem bucket_eq (h : Conceals c c') : c'.bucket = c.bucket := by cases h <;> rfl

theorem component_eq (h : Conceals c c') : c'.component = c.component := by cases h <;> rfl

theorem file_eq (h : Conceals c c') : c'.file = c.file := congrArg Cascade.filePath h.data_eq

theorem scopeId_eq (h : Conceals c c') : c'.scopeId = c.scopeId :=
  congrArg Component.scopeId h.component_eq

theorem hasCaller_eq (h : Conceals c c') : c'.caller.isSome = c.caller.isSome := by
  cases h <;> rfl

/-- Contexts that conceal the same agree in all that instances depend on. -/
theorem agreesOutside (h : Conceals c c') : c.AgreesOutside c' := by
  cases h <;> exact ⟨rfl, rfl, rfl, rfl, rfl, rfl⟩

theorem withLocals (h : Conceals c c') (row : Entries Value) :
    Conceals (c.withLocals row) (c'.withLocals row) := by
  cases h with
  | nothing c k k' empty => exact .nothing (c.withLocals row) k k' empty
  | handed c conceals => exact .handed (c.withLocals row) conceals

theorem asSlotContent (h : Conceals c c') : Conceals c.asSlotContent c'.asSlotContent := by
  cases h with
  | nothing c k k' empty => exact .nothing c.asSlotContent k k' empty
  | handed c conceals => exact .handed c.asSlotContent conceals

theorem nested (h : Conceals c c') (raw rawText : Bool) (bucket : Option String) :
    Conceals (c.nested raw rawText bucket) (c'.nested raw rawText bucket) := by
  cases h with
  | nothing c k k' empty => exact .nothing (c.nested raw rawText bucket) k k' empty
  | handed c conceals => exact .handed (c.nested raw rawText bucket) conceals

/-- An instance inside conceals what is around it. -/
theorem forInstance (h : Conceals c c') (d : Component) (data : Cascade) (bucket : Option String)
    (light : List Node) :
    Conceals (c.forInstance d data bucket light) (c'.forInstance d data bucket light) := by
  have around : c'.ancestry = c.ancestry := h.agreesOutside.ancestry
  simp only [Context.forInstance, around]
  exact .handed (c.forInstance d data bucket light) h.asSlotContent

/-- A slot gets the same content, in contexts that conceal the same, or none on both sides. -/
theorem slotContent? (h : Conceals c c') (name : String) :
    c.slotContent? name = none ∧ c'.slotContent? name = none ∨
      ∃ k k' nodes, c.slotContent? name = some (k, nodes) ∧
        c'.slotContent? name = some (k', nodes) ∧ Conceals k k' := by
  cases h with
  | nothing c k k' empty =>
    refine .inl ⟨?_, ?_⟩ <;> simp [Context.slotContent?, Context.assigned, empty]
  | @handed c k k' conceals =>
    by_cases blank : (c.assigned name).all Node.isBlank
    · exact .inl ⟨if_pos blank, if_pos blank⟩
    · exact .inr ⟨_, _, _, if_neg blank, if_neg blank, conceals.asSlotContent⟩

end Conceals

/-- Instances without content conceal the contexts of their hosts. -/
theorem AgreesOutside.forInstance {c c' : Context} (h : c.AgreesOutside c') (d : Component)
    (data : Cascade) (bucket : Option String) :
    Conceals (c.forInstance d data bucket []) (c'.forInstance d data bucket []) := by
  simp only [Context.forInstance, h.ancestry]
  exact .nothing (c.forInstance d data bucket []) c.asSlotContent c'.asSlotContent rfl

/-- The data of an instance are the same where the contexts agree. -/
theorem AgreesOutside.forComponent {c c' : Context} (h : c.AgreesOutside c') (path : String)
    (setup host rawAttributes : Entries Value) :
    c'.data.forComponent path setup host rawAttributes =
      c.data.forComponent path setup host rawAttributes := by
  simp only [Cascade.forComponent, h.globals, h.helpers]

end Context

open Context (Conceals AgreesOutside)

/-! ### Steps of rendering -/

/-- A renderer for which contexts that conceal the same are the same. -/
def Renderer.Blind (r : Renderer) : Prop := ∀ c c', Conceals c c' → r c' = r c

section Steps

variable {inner : Renderer} (blind : inner.Blind) (s : Setting) {c c' : Context}
  (h : Conceals c c') (sink : Sink)

include blind h

theorem renderContent_blind (children : List Node) (directive : Option Markup.Attribute)
    (data : Cascade) :
    renderContent inner children directive data c' sink =
      renderContent inner children directive data c sink := by
  unfold renderContent
  rw [blind c c' h, h.file_eq, h.raw_eq]

omit blind in
theorem renderTransformed_blind (types : List String) (content : Sink → Walk Output) :
    renderTransformed s types c' sink content = renderTransformed s types c sink content := by
  unfold renderTransformed
  rw [h.scopeId_eq, h.file_eq]

omit blind in
theorem bucketOf_blind (n : Node) : bucketOf n c' = bucketOf n c := by
  unfold bucketOf
  rw [h.bucket_eq]

theorem renderPlain_blind (n : Node) (tag : String) (attributes : List EvaluatedAttribute)
    (types : List String) :
    renderPlain s inner c' sink n tag attributes types =
      renderPlain s inner c sink n tag attributes types := by
  have below := h.nested (hasRawChildren n) (isRawTextElement tag) (bucketOf n c)
  simp only [renderPlain, h.file_eq, h.data_eq, bucketOf_blind h, renderTransformed_blind s h,
    renderContent_blind blind below]

theorem renderSlot_blind (n : Node) : renderSlot inner c' sink n = renderSlot inner c sink n := by
  unfold renderSlot
  -- Content is rendered where it was written, and what a slot falls back to is rendered here.
  rcases h.slotContent? ((n.attribute? "name").getD defaultSlot) with
    ⟨none, none'⟩ | ⟨k, k', nodes, found, found', conceals⟩
  · rw [none, none', blind c c' h]
  · simp only [found, found', blind k k' conceals]

theorem renderAsset_blind (n : Node) (kind : AssetKind) (types : List String) :
    renderAsset s inner c' n kind types = renderAsset s inner c n kind types := by
  have below := blind _ _ (h.nested c.raw true c.bucket)
  simp only [renderAsset, h.raw_eq, h.bucket_eq, below, h.scopeId_eq, h.file_eq, bucketOf_blind h,
    h.agreesOutside.owner]

theorem renderScripted_blind (n : Node) :
    renderScripted inner c' sink n = renderScripted inner c sink n := by
  unfold renderScripted
  rw [h.data_eq, h.file_eq, blind c c' h]

theorem renderLight_blind (host : Node) (d : Component) (o : Output) :
    renderLight inner c' sink host d o = renderLight inner c sink host d o := by
  unfold renderLight
  rw [blind _ _ h.asSlotContent]

omit blind h in
/-- An instance depends on what its context has outside, on the context inside it, and on what
follows it. -/
theorem renderComponent_congr (agrees : c.AgreesOutside c') (host : Node) (tag : String)
    (d : Component) (attributes : List EvaluatedAttribute)
    (template : ∀ data bucket, inner (c'.forInstance d data bucket host.children) =
      inner (c.forInstance d data bucket host.children))
    (light : ∀ o, renderLight inner c' sink host d o = renderLight inner c sink host d o) :
    renderComponent inner c' sink host tag d attributes =
      renderComponent inner c sink host tag d attributes := by
  have bucket : bucketOf host c' = bucketOf host c := by
    unfold bucketOf
    rw [agrees.bucket]
  simp only [renderComponent, agrees.ancestry, agrees.owner, agrees.isSlotContent,
    agrees.forComponent, bucket, template, light]

theorem renderComponent_blind (host : Node) (tag : String) (d : Component)
    (attributes : List EvaluatedAttribute) :
    renderComponent inner c' sink host tag d attributes =
      renderComponent inner c sink host tag d attributes :=
  renderComponent_congr sink h.agreesOutside host tag d attributes
    (fun data bucket => blind _ _ (h.forInstance d data bucket host.children))
    (renderLight_blind blind h sink host d)

theorem renderOther_blind (n : Node) (tag : String) (attributes : List EvaluatedAttribute)
    (types : List String) :
    renderOther s inner c' sink n tag attributes types =
      renderOther s inner c sink n tag attributes types := by
  unfold renderOther
  rw [h.hasCaller_eq, renderSlot_blind blind h, renderPlain_blind blind s h]
  simp only [renderAsset_blind blind s h]

omit blind in
theorem attributesOf_blind (i : Item) : attributesOf i c' = attributesOf i c := by
  unfold attributesOf
  rw [h.data_eq, h.file_eq]

omit blind in
theorem followImport_blind (n : Node) : followImport s c' n = followImport s c n := by
  unfold followImport
  rw [h.file_eq]

theorem renderInstance_blind (i : Item) :
    renderInstance s inner c' sink i = renderInstance s inner c sink i := by
  simp only [renderInstance, followImport_blind s h, attributesOf_blind h,
    renderScripted_blind blind h, renderComponent_blind blind h, renderOther_blind blind s h]

theorem renderRow_blind (i : Item) (row : Entries Value) :
    renderRow s inner c' sink i row = renderRow s inner c sink i row := by
  have once := h.withLocals row
  have passes_eq : passes i.node (c'.withLocals row) = passes i.node (c.withLocals row) := by
    unfold passes
    rw [once.data_eq, once.file_eq]
  simp only [renderRow, passes_eq, renderInstance_blind blind s once]

theorem renderElement_blind (i : Item) :
    renderElement s inner c' sink i = renderElement s inner c sink i := by
  have rows_eq : ∀ value, rowsOf value c' = rowsOf value c := fun value => by
    unfold rowsOf
    rw [h.data_eq, h.file_eq]
  have row_eq : renderRow s inner c' sink i = renderRow s inner c sink i :=
    funext (renderRow_blind blind s h sink i)
  simp only [renderElement, renderInstance_blind blind s h, rows_eq, row_eq]

theorem renderVerbatim_blind (n : Node) :
    renderVerbatim inner c' sink n = renderVerbatim inner c sink n := by
  have below := blind _ _ (h.nested true (isRawTextElement (n.tag?.getD "")) c.bucket)
  simp only [renderVerbatim, h.bucket_eq, below]

theorem renderItem_blind (i : Item) :
    renderItem s inner c' sink i = renderItem s inner c sink i := by
  simp only [renderItem, blind c c' h, h.raw_eq, h.rawText_eq, renderVerbatim_blind blind h,
    renderElement_blind blind s h]

omit h in
/-- A step of the walk is blind if the walk over the lists below is. -/
theorem renderItems_blind : (renderItems s inner).Blind := by
  intro c c' h
  funext sink items
  have schedule_eq : scheduleItems c' items = scheduleItems c items := by
    unfold scheduleItems
    rw [h.raw_eq, h.data_eq, h.file_eq]
  have item_eq : renderItem s inner c' sink = renderItem s inner c sink :=
    funext (renderItem_blind blind s h sink)
  simp only [renderItems, schedule_eq, item_eq]

end Steps

/-- The walk is blind, to whatever depth lists may nest. -/
theorem render_blind (s : Setting) (depth : Nat) : (render s depth).Blind := by
  induction depth with
  | zero => exact fun _ _ _ => rfl
  | succ depth ih => exact renderItems_blind ih s

/-! ### Instances -/

/-- An empty list is rendered alike in all contexts. -/
theorem render_nil (s : Setting) (depth : Nat) (c c' : Context) (sink : Sink) :
    render s depth c' sink [] = render s depth c sink [] := by
  cases depth with
  | zero => rfl
  | succ depth =>
    have whole : ∀ b : Bool, Output.concat (if b then [].map Output.whole else []) = .ofTexts [] := by
      intro b
      cases b <;> rfl
    have none : ∀ c, scheduleItems c [] = .ok [] := by
      intro c
      unfold scheduleItems
      split <;> rfl
    have nothing : ∀ c p, render s (depth + 1) c sink [] p = .ok (.ofTexts [], p) := by
      intro c p
      unfold render renderItems
      rw [none]
      exact congrArg (fun o => Except.ok (o, p)) (whole _)
    funext p
    rw [nothing, nothing]

/-- An instance without content has the same outcome in any two contexts that agree outside: output
and all that is known afterwards, or error. Data, slots and content of the contexts make no
difference, and neither does anything that they captured from further out. -/
theorem renderComponent_eq_of_agreesOutside (s : Setting) (depth : Nat) {c c' : Context}
    (agrees : c.AgreesOutside c') (sink : Sink) {host : Node} (childless : host.children = [])
    (tag : String) (d : Component) (attributes : List EvaluatedAttribute) (p : Progress) :
    renderComponent (render s depth) c' sink host tag d attributes p =
      renderComponent (render s depth) c sink host tag d attributes p := by
  have template : ∀ data bucket,
      render s depth (c'.forInstance d data bucket host.children) =
        render s depth (c.forInstance d data bucket host.children) := by
    intro data bucket
    rw [childless]
    exact render_blind s depth _ _ (agrees.forInstance d data bucket)
  -- Content that follows the template is an empty list in both contexts.
  have light : ∀ o, renderLight (render s depth) c' sink host d o =
      renderLight (render s depth) c sink host d o := by
    intro o
    unfold renderLight
    rw [childless]
    exact congrArg (ite _ · _) (render_nil s depth _ _ sink)
  rw [renderComponent_congr sink agrees host tag d attributes template light]

/-- A setting without files. -/
def plainSetting : Setting :=
  ⟨⟨.table [], .ofGlobals [] []⟩, .ofAliases [] ".webc", [], false, "default"⟩

/-- A component with a slot that reads a name of the data. -/
def greeting : Component :=
  .ofTree "greeting.webc" (Markup.parseTemplate "<p :title=\"name\"><slot>nobody</slot></p>") none []

/-- The host of a greeting without content. -/
def greetingHost : Node := .element "x-greeting" [⟨"id", "one"⟩] [] none

/-- A page that holds a greeting. -/
def silentPage : Context := .ofRoot (.ofTree "index.webc" (.document []) none []) (.ofGlobals [] [])

/-- The same page in a loop whose rows have a name, inside an instance with content for the slots of
the greeting. -/
def namingPage : Context :=
  { silentPage with
    data := { silentPage.data with
      setup := [("name", .text "setup")], host := [("name", .text "host")]
      own := [("name", .text "own")], locals := [("name", .text "row")]
      rawAttributes := [("name", .text "raw")] }
    light := [.text "content"]
    caller := some silentPage }

theorem renderComponent_eq_of_agreesOutside_greeting :
    silentPage.AgreesOutside namingPage ∧ greetingHost.children = [] ∧
      renderComponent (render plainSetting 10) namingPage .text greetingHost "x-greeting" greeting
          [.ofText "id" "one"] ⟨{}, {}⟩ =
        renderComponent (render plainSetting 10) silentPage .text greetingHost "x-greeting" greeting
          [.ofText "id" "one"] ⟨{}, {}⟩ ∧
      (renderComponent (render plainSetting 10) silentPage .text greetingHost "x-greeting" greeting
        [.ofText "id" "one"] ⟨{}, {}⟩).toOption.map (·.1.markup) = some "<p>nobody</p>" := by
  have agrees : silentPage.AgreesOutside namingPage := ⟨rfl, rfl, rfl, rfl, rfl, rfl⟩
  exact ⟨agrees, rfl, renderComponent_eq_of_agreesOutside _ 10 agrees .text rfl _ _ _ _,
    by decide +kernel⟩

end ComponentMarkup
