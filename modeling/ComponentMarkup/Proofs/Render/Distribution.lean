import ComponentMarkup.Compiler
import ComponentMarkup.Proofs.Directive.Chain

/-!
# Content in slots

The children of a host go to the slots of its component, each slot schedules those that are for it,
and so a chain of conditions may be cut: a member that is for another slot than the member before it
finds another chain there than among all children of the host, or none. This is what decides whether
content renders through slots as it would have where it was written.

## Main definitions

* `LightChild`, `lightChildren` — the children of a host with the chains that they find open, among
  all children and among those for the same slot
* `verdict` — what becomes of a child by the chain that it finds
* `Context.slotSchedule?` — what becomes of the children that a slot is filled with
* `KeepsInPlace`, `RendersInPlace` — slots render what would have been rendered without them
* `ChainsStayTogether` — every member of a chain finds in its slot the chain that was written

## Main results

* `schedule_eq_mapM`, `schedule_forSlot_eq_mapM` — scheduling, with and without slots, child by
  child
* `verdict_of_later` — where conditions have values, a chain decides by whether one of them holds
* `Context.renderSlot_eq_fail` — a slot whose children cannot be scheduled fails
* `rendersInPlace_iff` — when content renders through slots as it was written
* `exists_not_rendersInPlace` — a chain that is cut by two slots
-/

namespace ComponentMarkup

open Markup (Node)
open Context (slotOf)

variable {data : Cascade} {file name : String} {light before ns : List Node} {p : LightChild}

/-! ### Children and chains -/

/-- The nodes for a slot. -/
def forSlot (name : String) (nodes : List Node) : List Node := nodes.filter (slotOf · == name)

/-- A child of a host with the chains that it finds open. -/
structure LightChild where
  node : Node
  /-- The chain among all children of the host. -/
  atHost : Option (List String)
  /-- The chain among the children for the same slot. -/
  inSlot : Option (List String)

namespace LightChild

/-- The slot that a child is for. -/
def slot (p : LightChild) : String := slotOf p.node

/-- A later member that finds no chain among all children. -/
def IsOrphanAtHost (p : LightChild) : Prop := isLaterMember p.node = true ∧ p.atHost = none

/-- A later member that finds no chain among the children for the same slot. -/
def IsOrphanInSlot (p : LightChild) : Prop := isLaterMember p.node = true ∧ p.inSlot = none

end LightChild

/-- Children of a host that come after some others. -/
def lightChildrenAfter (before : List Node) : List Node → List LightChild
  | [] => []
  | n :: ns =>
    ⟨n, openChain before, openChain (forSlot (slotOf n) before)⟩ ::
      lightChildrenAfter (before ++ [n]) ns

/-- The children of a host. -/
def lightChildren (light : List Node) : List LightChild := lightChildrenAfter [] light

theorem map_node_lightChildrenAfter (before ns : List Node) :
    (lightChildrenAfter before ns).map LightChild.node = ns := by
  induction ns generalizing before with
  | nil => rfl
  | cons n ns ih => rw [lightChildrenAfter, List.map_cons, ih]

theorem map_slot_lightChildren (light : List Node) (name : String) :
    (lightChildren light).map (fun p => p.slot == name) = light.map (slotOf · == name) := by
  have nodes : (lightChildren light).map LightChild.node = light :=
    map_node_lightChildrenAfter [] light
  have same := congrArg (List.map (slotOf · == name)) nodes
  rwa [List.map_map] at same

theorem node_mem_of_mem_lightChildren (hp : p ∈ lightChildren light) : p.node ∈ light :=
  map_node_lightChildrenAfter [] light ▸ List.mem_map_of_mem hp

/-! ### Verdicts -/

/-- What becomes of a child by the chain that it finds open. -/
def verdict (data : Cascade) (file : String) (chain : Option (List String)) (n : Node) :
    Compiled Bool :=
  decided (.orphaned · file) (testCondition · data file) (stateOf (testCondition · data file) chain)
    n

variable {chain : Option (List String)} {n : Node}

/-- The verdict on a child that needs no chain is the same after all of them. -/
theorem verdict_of_not_later (first : isLaterMember n = false) :
    verdict data file chain n = ownVerdict (testCondition · data file) n := by
  simp [verdict, decided, first]

/-- A later member that finds no chain is an orphan. -/
theorem verdict_orphan (later : isLaterMember n = true) :
    verdict data file none n = .error (.orphaned (laterDirective n) file) := by
  simp [verdict, decided, stateOf, later]

/-! ### Scheduling, child by child -/

/-- Scheduling gives the verdict on a child by the chain that it finds open. -/
theorem scheduleFrom_cons (data : Cascade) (file : String) (before : List Node) (n : Node)
    (ns : List Node) :
    scheduleFrom data file (stateAfter (testCondition · data file) before) (n :: ns) = (do
      let kept ← verdict data file (openChain before) n
      let rest ← scheduleFrom data file (stateAfter (testCondition · data file) (before ++ [n])) ns
      .ok (kept :: rest)) :=
  scheduleFromBy_cons ..

theorem scheduleFrom_eq_mapM (data : Cascade) (file : String) (before ns : List Node) :
    scheduleFrom data file (stateAfter (testCondition · data file) before) ns =
      (lightChildrenAfter before ns).mapM fun p => verdict data file p.atHost p.node := by
  induction ns generalizing before with
  | nil => rfl
  | cons n ns ih =>
    rw [scheduleFrom_cons, ih, lightChildrenAfter, List.mapM_cons]
    rfl

theorem forSlot_concat_self (n : Node) (before : List Node) :
    forSlot (slotOf n) (before ++ [n]) = forSlot (slotOf n) before ++ [n] := by
  simp [forSlot]

theorem forSlot_concat_of_ne {n : Node} (other : (slotOf n == name) = false) (before : List Node) :
    forSlot name (before ++ [n]) = forSlot name before := by
  simp [forSlot, other]

theorem forSlot_cons_self (n : Node) (ns : List Node) :
    forSlot (slotOf n) (n :: ns) = n :: forSlot (slotOf n) ns := by
  simp [forSlot]

theorem forSlot_cons_of_ne {n : Node} (other : (slotOf n == name) = false) (ns : List Node) :
    forSlot name (n :: ns) = forSlot name ns := by
  simp [forSlot, other]

theorem scheduleFrom_forSlot_eq_mapM (data : Cascade) (file name : String) (before ns : List Node) :
    scheduleFrom data file (stateAfter (testCondition · data file) (forSlot name before))
        (forSlot name ns) =
      ((lightChildrenAfter before ns).filter fun p => p.slot == name).mapM fun p =>
        verdict data file p.inSlot p.node := by
  induction ns generalizing before with
  | nil => rfl
  | cons n ns ih =>
    have later := ih (before ++ [n])
    rw [lightChildrenAfter, List.filter_cons]
    cases here : slotOf n == name with
    | true =>
      -- The child is the next one of the slot, and finds the chain of those before it there.
      obtain rfl : slotOf n = name := eq_of_beq here
      rw [forSlot_concat_self] at later
      rw [forSlot_cons_self, scheduleFrom_cons, later]
      simp only [LightChild.slot, beq_self_eq_true, if_true, List.mapM_cons]
      rfl
    | false =>
      -- The child is passed over on both sides, and changes no chain of the slot.
      rw [forSlot_concat_of_ne here] at later
      rw [forSlot_cons_of_ne here, later]
      simp [LightChild.slot, here]

/-- Without slots each child is decided on by the chain that it finds among all of them. -/
theorem schedule_eq_mapM (light : List Node) (data : Cascade) (file : String) :
    schedule light data file =
      (lightChildren light).mapM fun p => verdict data file p.atHost p.node :=
  scheduleFrom_eq_mapM data file [] light

/-- A slot decides on each of its children by the chain that it finds among these. -/
theorem schedule_forSlot_eq_mapM (light : List Node) (name : String) (data : Cascade)
    (file : String) :
    schedule (forSlot name light) data file =
      ((lightChildren light).filter fun p => p.slot == name).mapM fun p =>
        verdict data file p.inSlot p.node :=
  scheduleFrom_forSlot_eq_mapM data file name [] light

/-! ### Results for a part of a list -/

/-- Results for all elements of a list are those for a part of it, exactly if they are so one by
one. -/
theorem mapM_filter_eq_ok_iff {α β ε : Type} {f g : α → Except ε β} {p : α → Bool} {as : List α}
    {bs : List β} (all : as.mapM f = .ok bs) :
    (as.filter p).mapM g = .ok (marked bs (as.map p)) ↔ ∀ a ∈ as, p a = true → g a = f a := by
  rw [Compiled.mapM_eq_ok] at all ⊢
  induction as generalizing bs with
  | nil =>
    obtain rfl : bs = [] := by simpa using all
    simp [marked]
  | cons a as ih =>
    obtain ⟨b, bs, rfl, first, rest⟩ := List.map_eq_cons_iff.mp all.symm
    have others := ih rest.symm
    cases here : p a <;> simp [marked, here, others, first]

/-! ### Slots -/

namespace Context

/-- For each child that a slot is filled with whether it is rendered; none if the slot renders its
own content. -/
def slotSchedule? (i : Context) (name : String) : Option (Compiled (List Bool)) :=
  (i.slotContent? name).map fun (caller, nodes) => schedule nodes caller.data caller.file

/-- A slot whose children cannot be scheduled is not rendered. -/
theorem renderSlot_eq_fail (s : Setting) (inner : Renderer) (sink : Sink) {i : Context} {n : Node}
    {e : CompileError} (interpreted : ∀ caller, i.caller = some caller → caller.raw = false)
    (fails : i.slotSchedule? ((n.attribute? "name").getD defaultSlot) = some (.error e)) :
    renderSlot (renderItems s inner) i sink n = Walk.fail e := by
  obtain ⟨⟨caller, nodes⟩, filled, failed⟩ := Option.map_eq_some_iff.mp fails
  obtain ⟨around, isCaller, content⟩ := Option.bind_eq_some_iff.mp filled
  have notRaw : caller.raw = false := by
    split at content
    · exact nomatch content
    · obtain ⟨rfl, -⟩ := Prod.mk.inj (Option.some.inj content)
      exact interpreted around isCaller
  have items : scheduleItems caller (itemsOf nodes) = .error e := by
    simp only [scheduleItems, notRaw, itemsOf, List.map_map]
    simp [Function.comp_def, failed, Except.map]
  simp only [renderSlot, filled, renderItems, items]
  rfl

variable {c : Context} {d : Component} {bucket : Option String}

/-- A slot of an instance schedules the children of the host that are for it, with the data of the
host, unless these are blanks. -/
theorem slotSchedule?_forInstance (declared : ∀ n ∈ light, slotOf n ∈ d.slots) (name : String) :
    (c.forInstance d data bucket light).slotSchedule? name =
      if (forSlot name light).all Node.isBlank then none
      else some (schedule (forSlot name light) c.data c.file) := by
  have content : (c.forInstance d data bucket light).assigned name = forSlot name light := by
    unfold assigned
    split
    · rfl
    · rename_i undeclared
      refine (List.filter_eq_nil_iff.mpr fun n listed here => undeclared ?_).symm
      obtain rfl : slotOf n = name := eq_of_beq here
      exact List.contains_iff_mem.mpr (declared n listed)
  rw [slotSchedule?, slotContent?, content]
  split <;> simp_all [forInstance, asSlotContent, file]

end Context

/-! ### Content in place -/

/-- Slots render of the children of a host those that are rendered without slots. -/
def KeepsInPlace (c i : Context) : Prop :=
  ∀ marks, schedule i.light c.data c.file = .ok marks →
    ∀ name found, i.slotSchedule? name = some found →
      found = .ok (marked marks (i.light.map (slotOf · == name)))

/-- Slots render of the children of a host those that are rendered without slots, and some slot has
an orphan exactly if there is one without slots. -/
structure RendersInPlace (c i : Context) : Prop where
  keeps : KeepsInPlace c i
  orphaned_iff :
    (∃ name directive, i.slotSchedule? name = some (.error (.orphaned directive c.file))) ↔
      ∃ directive, schedule i.light c.data c.file = .error (.orphaned directive c.file)

/-- Every later member of a chain finds in its slot the chain that was written. -/
def ChainsStayTogether (light : List Node) : Prop :=
  ∀ p ∈ lightChildren light, isLaterMember p.node = true → p.inSlot = p.atHost

instance : Decidable (ChainsStayTogether light) :=
  inferInstanceAs (Decidable (∀ p ∈ lightChildren light, _ → _))

/-- Every condition of the children has a value. -/
def HasVerdicts (data : Cascade) (file : String) (light : List Node) : Prop :=
  ∀ n ∈ light, ∃ passed, ownVerdict (testCondition · data file) n = .ok passed

/-- A later member is an orphan among all children exactly if one is in its slot. -/
def SameOrphans (light : List Node) : Prop :=
  (∃ p ∈ lightChildren light, p.IsOrphanInSlot) ↔ ∃ p ∈ lightChildren light, p.IsOrphanAtHost

instance : Decidable (SameOrphans light) :=
  inferInstanceAs (Decidable
    ((∃ p ∈ lightChildren light, _ ∧ _) ↔ ∃ p ∈ lightChildren light, _ ∧ _))

/-- Whether a condition has a value that counts as true. -/
def passesCondition (data : Cascade) (file e : String) : Bool :=
  match testCondition e data file with
  | .ok passed => passed
  | .error _ => false

/-- Whether some condition of a chain holds. -/
def chainHolds (data : Cascade) (file : String) (chain : List String) : Bool :=
  chain.any (passesCondition data file)

/-- Every later member that could be rendered finds in its slot a chain that holds exactly if the
chain that was written does. -/
def SameDecisions (data : Cascade) (file : String) (light : List Node) : Prop :=
  ∀ p ∈ lightChildren light, isLaterMember p.node = true →
    ownVerdict (testCondition · data file) p.node = .ok true →
    chainHolds data file (p.inSlot.getD []) = chainHolds data file (p.atHost.getD [])

/-! ### Chains whose conditions have values -/

/-- Where all its conditions have values, a chain is settled exactly if it holds. -/
theorem stateOf_of_valued {es : List String}
    (valued : ∀ e ∈ es, ∃ passed, testCondition e data file = .ok passed) :
    stateOf (testCondition · data file) (some es) =
      if chainHolds data file es then .settled else .pending := by
  have refused : (es.all fun e => isRefusal (testCondition e data file)) =
      !chainHolds data file es := by
    rw [chainHolds, List.not_any_eq_all_not, Bool.eq_iff_iff, List.all_eq_true, List.all_eq_true]
    refine forall₂_congr fun e he => ?_
    obtain ⟨passed, value⟩ := valued e he
    simp [passesCondition, value]
  rw [stateOf_some, refused]
  cases chainHolds data file es <;> rfl

/-- A later member that finds a chain is left out if a member before it is rendered. -/
theorem verdict_of_later {es : List String} (later : isLaterMember n = true)
    (valued : ∀ e ∈ es, ∃ passed, testCondition e data file = .ok passed) :
    verdict data file (some es) n =
      if chainHolds data file es then .ok false
      else ownVerdict (testCondition · data file) n := by
  rw [verdict, stateOf_of_valued valued]
  cases chainHolds data file es <;> simp [decided, later]

/-- The chains that a child finds are those of some children of the host. -/
theorem exists_chains (hp : p ∈ lightChildrenAfter before ns) :
    ∃ front, front ⊆ before ++ ns ∧ p.atHost = openChain front ∧
      p.inSlot = openChain (forSlot p.slot front) := by
  induction ns generalizing before with
  | nil => exact absurd hp List.not_mem_nil
  | cons n ns ih =>
    rcases List.mem_cons.mp hp with rfl | later
    · exact ⟨before, List.subset_append_left .., rfl, rfl⟩
    · obtain ⟨front, within, chains⟩ := ih later
      exact ⟨front, by simpa using within, chains⟩

/-- Where all conditions of the children have values, so have those of all chains among them. -/
theorem HasVerdicts.valued (valued : HasVerdicts data file light) (within : ns ⊆ light)
    {es : List String} (opened : openChain ns = some es) :
    ∀ e ∈ es, ∃ passed, testCondition e data file = .ok passed := by
  intro e he
  obtain ⟨n, hn, own⟩ := exists_ownVerdict_eq opened he
  obtain ⟨passed, value⟩ := valued n (within hn)
  exact ⟨passed, (own _).symm.trans value⟩

section Instances

variable {c : Context} {d : Component} {instanceData : Cascade} {bucket : Option String}

/-- A blank text is always kept. -/
theorem verdict_of_isBlank {chain : Option (List String)} {n : Node} (blank : n.isBlank = true) :
    verdict data file chain n = .ok true := by
  have unconditional : conditionOf? n = none :=
    conditionOf?_of_isIdle (by rw [isIdle, blank, Bool.or_true])
  simp [verdict, decided, isLaterMember, ownVerdict, unconditional]

/-- A child that has a verdict of its own has no other error than that of an orphan. -/
theorem verdict_eq_error_iff {chain : Option (List String)} {n : Node} {passed : Bool}
    (own : ownVerdict (testCondition · data file) n = .ok passed) {e : CompileError} :
    verdict data file chain n = .error e ↔
      isLaterMember n = true ∧ chain = none ∧ e = .orphaned (laterDirective n) file := by
  cases later : isLaterMember n with
  | false => simp [verdict_of_not_later later, own]
  | true =>
    cases chain with
    | none => simp [verdict_orphan later, eq_comm]
    | some es =>
      cases known : stateOf (testCondition · data file) (some es) with
      | closed => exact absurd known stateOf_some_ne_closed
      | _ => simp [verdict, decided, later, known, own]

/-- A slot is filled if one of the children for it is no blank. -/
theorem slotSchedule?_of_mem (declared : ∀ n ∈ light, slotOf n ∈ d.slots)
    (hp : p ∈ lightChildren light) (written : p.node.isBlank = false) :
    (c.forInstance d instanceData bucket light).slotSchedule? p.slot =
      some (schedule (forSlot p.slot light) c.data c.file) := by
  rw [Context.slotSchedule?_forInstance declared, if_neg]
  intro blank
  have listed : p.node ∈ forSlot p.slot light :=
    List.mem_filter.mpr ⟨node_mem_of_mem_lightChildren hp, beq_self_eq_true _⟩
  exact absurd (List.all_eq_true.mp blank _ listed) (by simp [written])

/-- What becomes of the children of a slot that is filled. -/
theorem slotSchedule?_eq_some {found : Compiled (List Bool)}
    (declared : ∀ n ∈ light, slotOf n ∈ d.slots)
    (filled : (c.forInstance d instanceData bucket light).slotSchedule? name = some found) :
    schedule (forSlot name light) c.data c.file = found := by
  rw [Context.slotSchedule?_forInstance declared] at filled
  split at filled
  · exact nomatch filled
  · exact Option.some.inj filled

/-- Slots render what is rendered without them if the verdict on each child is the same. -/
theorem keepsInPlace_iff (declared : ∀ n ∈ light, slotOf n ∈ d.slots) {marks : List Bool}
    (all : schedule light c.data c.file = .ok marks) :
    KeepsInPlace c (c.forInstance d instanceData bucket light) ↔
      ∀ p ∈ lightChildren light,
        verdict c.data c.file p.inSlot p.node = verdict c.data c.file p.atHost p.node := by
  have inSlot (name : String) := schedule_forSlot_eq_mapM light name c.data c.file
  have apart (name : String) := mapM_filter_eq_ok_iff
    (g := fun p => verdict c.data c.file p.inSlot p.node) (p := fun p => p.slot == name)
    (schedule_eq_mapM light c.data c.file ▸ all)
  constructor
  · intro keeps p hp
    cases blank : p.node.isBlank with
    | true =>
      -- A slot of blanks renders its own content, so it says nothing of them.
      rw [verdict_of_isBlank blank, verdict_of_isBlank blank]
    | false =>
      have found := keeps marks all _ _ (slotSchedule?_of_mem declared hp blank)
      change _ = Except.ok (marked marks (light.map (slotOf · == p.slot))) at found
      rw [inSlot, ← map_slot_lightChildren] at found
      exact (apart p.slot).mp found p hp (beq_self_eq_true _)
  · intro same marks' all' name found filled
    obtain rfl : marks = marks' := Except.ok.inj (all.symm.trans all')
    rw [← slotSchedule?_eq_some declared filled, inSlot]
    change _ = Except.ok (marked marks (light.map (slotOf · == name)))
    rw [← map_slot_lightChildren]
    exact (apart name).mpr fun p hp _ => same p hp

/-! ### Errors -/

/-- A slot fails for the reason of one of its children. -/
theorem exists_of_slotSchedule?_eq_error (declared : ∀ n ∈ light, slotOf n ∈ d.slots)
    {e : CompileError}
    (fails : (c.forInstance d instanceData bucket light).slotSchedule? name = some (.error e)) :
    ∃ p ∈ lightChildren light, verdict c.data c.file p.inSlot p.node = .error e := by
  have failed := slotSchedule?_eq_some declared fails
  rw [schedule_forSlot_eq_mapM] at failed
  obtain ⟨p, listed, reason⟩ := Compiled.mapM_eq_error failed
  exact ⟨p, (List.mem_filter.mp listed).1, reason⟩

/-- A child that is refused in its slot makes the slot fail. -/
theorem exists_slotSchedule?_eq_error (declared : ∀ n ∈ light, slotOf n ∈ d.slots)
    (hp : p ∈ lightChildren light) {e : CompileError}
    (refused : verdict c.data c.file p.inSlot p.node = .error e) :
    ∃ e', (c.forInstance d instanceData bucket light).slotSchedule? p.slot = some (.error e') := by
  have written : p.node.isBlank = false := by
    cases blank : p.node.isBlank with
    | false => rfl
    | true => exact nomatch (verdict_of_isBlank blank).symm.trans refused
  have listed : p ∈ (lightChildren light).filter fun q => q.slot == p.slot :=
    List.mem_filter.mpr ⟨hp, beq_self_eq_true _⟩
  obtain ⟨e', fails⟩ := Compiled.exists_mapM_eq_error
    (f := fun p => verdict c.data c.file p.inSlot p.node) listed refused
  rw [← schedule_forSlot_eq_mapM] at fails
  exact ⟨e', fails ▸ slotSchedule?_of_mem declared hp written⟩

/-- Without slots scheduling fails for the reason of one of the children. -/
theorem exists_of_schedule_eq_error {e : CompileError}
    (fails : schedule light data file = .error e) :
    ∃ p ∈ lightChildren light, verdict data file p.atHost p.node = .error e :=
  Compiled.mapM_eq_error (schedule_eq_mapM light data file ▸ fails)

/-- A child that is refused makes scheduling without slots fail. -/
theorem exists_schedule_eq_error (hp : p ∈ lightChildren light) {e : CompileError}
    (refused : verdict data file p.atHost p.node = .error e) :
    ∃ e', schedule light data file = .error e' :=
  schedule_eq_mapM light data file ▸ Compiled.exists_mapM_eq_error hp refused

/-- Where all conditions have values and something fails exactly if a child is refused, for the
reason of one, it fails because of orphans exactly if there is one. -/
theorem exists_orphaned_iff (Fails : CompileError → Prop)
    (chainOf : LightChild → Option (List String)) (valued : HasVerdicts data file light)
    (reason : ∀ e, Fails e →
      ∃ p ∈ lightChildren light, verdict data file (chainOf p) p.node = .error e)
    (refusal : ∀ p ∈ lightChildren light, ∀ e, verdict data file (chainOf p) p.node = .error e →
      ∃ e', Fails e') :
    (∃ directive, Fails (.orphaned directive file)) ↔
      ∃ p ∈ lightChildren light, isLaterMember p.node = true ∧ chainOf p = none := by
  -- With a value for every condition, a child is refused for no other reason.
  have orphan : ∀ e, Fails e → ∃ p ∈ lightChildren light, isLaterMember p.node = true ∧
      chainOf p = none ∧ e = .orphaned (laterDirective p.node) file := by
    intro e fails
    obtain ⟨p, hp, refused⟩ := reason e fails
    obtain ⟨passed, own⟩ := valued p.node (node_mem_of_mem_lightChildren hp)
    exact ⟨p, hp, (verdict_eq_error_iff own).mp refused⟩
  constructor
  · rintro ⟨directive, fails⟩
    obtain ⟨p, hp, later, alone, -⟩ := orphan _ fails
    exact ⟨p, hp, later, alone⟩
  · rintro ⟨p, hp, later, alone⟩
    obtain ⟨passed, own⟩ := valued p.node (node_mem_of_mem_lightChildren hp)
    obtain ⟨e, fails⟩ := refusal p hp _ ((verdict_eq_error_iff own).mpr ⟨later, alone, rfl⟩)
    obtain ⟨q, -, -, -, rfl⟩ := orphan e fails
    exact ⟨laterDirective q.node, fails⟩

/-- Where all conditions have values, slots fail because of orphans exactly if a child is one in its
slot. -/
theorem exists_slotSchedule?_orphaned_iff (declared : ∀ n ∈ light, slotOf n ∈ d.slots)
    (valued : HasVerdicts c.data c.file light) :
    (∃ name directive, (c.forInstance d instanceData bucket light).slotSchedule? name =
        some (.error (.orphaned directive c.file))) ↔
      ∃ p ∈ lightChildren light, p.IsOrphanInSlot := by
  rw [exists_comm]
  refine exists_orphaned_iff
    (fun e => ∃ name,
      (c.forInstance d instanceData bucket light).slotSchedule? name = some (.error e))
    LightChild.inSlot valued (fun e fails => ?_) (fun p hp e refused => ?_)
  · obtain ⟨name, fails⟩ := fails
    exact exists_of_slotSchedule?_eq_error declared fails
  · obtain ⟨e', fails⟩ := exists_slotSchedule?_eq_error declared hp refused
    exact ⟨e', p.slot, fails⟩

/-- Where all conditions have values, scheduling without slots fails because of orphans exactly if a
child is one among all. -/
theorem exists_schedule_orphaned_iff (valued : HasVerdicts data file light) :
    (∃ directive, schedule light data file = .error (.orphaned directive file)) ↔
      ∃ p ∈ lightChildren light, p.IsOrphanAtHost :=
  exists_orphaned_iff (schedule light data file = .error ·) LightChild.atHost valued
    (fun _ fails => exists_of_schedule_eq_error fails)
    fun _ hp _ refused => exists_schedule_eq_error hp refused

/-! ### When content renders in place -/

/-- A chain that stays together gets each child the same verdict in its slot. -/
theorem verdict_inSlot_eq (together : ChainsStayTogether light) (hp : p ∈ lightChildren light) :
    verdict data file p.inSlot p.node = verdict data file p.atHost p.node := by
  cases later : isLaterMember p.node with
  | false => rw [verdict_of_not_later later, verdict_of_not_later later]
  | true => rw [together p hp later]

/-- A later member with a chain in its slot and a chain at the host gets the same verdict from both
if it is left out anyway, or both hold, or neither does. -/
theorem verdict_eq_verdict_iff (valued : HasVerdicts data file light) (hp : p ∈ lightChildren light)
    {passed : Bool} (own : ownVerdict (testCondition · data file) p.node = .ok passed)
    (later : isLaterMember p.node = true) (host : p.atHost ≠ none) :
    verdict data file p.inSlot p.node = verdict data file p.atHost p.node ↔
      p.inSlot ≠ none ∧ (passed = true →
        chainHolds data file (p.inSlot.getD []) = chainHolds data file (p.atHost.getD [])) := by
  obtain ⟨front, within, frontAtHost, frontInSlot⟩ := exists_chains hp
  obtain ⟨es, atHost⟩ := Option.ne_none_iff_exists'.mp host
  rw [atHost, verdict_of_later later (valued.valued within (frontAtHost ▸ atHost))]
  cases inSlot : p.inSlot with
  | none => cases holds : chainHolds data file es <;> simp [verdict_orphan later, own]
  | some es' =>
    have among : forSlot p.slot front ⊆ light :=
      fun n hn => within (List.mem_filter.mp hn).1
    rw [verdict_of_later later (valued.valued among (frontInSlot ▸ inSlot)), own]
    cases passed <;> cases holds : chainHolds data file es <;>
      cases holds' : chainHolds data file es' <;> simp [holds, holds']

/-- Where there are no orphans, slots render what is rendered without them exactly if the chains
that members find there decide the same. -/
theorem keepsInPlace_iff_sameDecisions (declared : ∀ n ∈ light, slotOf n ∈ d.slots)
    (valued : HasVerdicts c.data c.file light)
    (atHost : ¬ ∃ p ∈ lightChildren light, p.IsOrphanAtHost)
    (inSlot : ¬ ∃ p ∈ lightChildren light, p.IsOrphanInSlot) :
    KeepsInPlace c (c.forInstance d instanceData bucket light) ↔
      SameDecisions c.data c.file light := by
  cases all : schedule light c.data c.file with
  | error e =>
    obtain ⟨p, hp, refused⟩ := exists_of_schedule_eq_error all
    obtain ⟨passed, own⟩ := valued p.node (node_mem_of_mem_lightChildren hp)
    obtain ⟨later, alone, -⟩ := (verdict_eq_error_iff own).mp refused
    exact absurd ⟨p, hp, later, alone⟩ atHost
  | ok marks =>
    rw [keepsInPlace_iff declared all]
    refine forall₂_congr fun p hp => ?_
    obtain ⟨passed, own⟩ := valued p.node (node_mem_of_mem_lightChildren hp)
    cases later : isLaterMember p.node with
    | false => simp [verdict_of_not_later later]
    | true =>
      have host : p.atHost ≠ none := fun alone => atHost ⟨p, hp, later, alone⟩
      have slot : p.inSlot ≠ none := fun alone => inSlot ⟨p, hp, later, alone⟩
      simp [verdict_eq_verdict_iff valued hp own later host, slot, own]

/-- Content renders through the slots of an instance as it was written if every later member of a
chain finds in its slot the chain that was written, whatever the data. Where all conditions have
values, it does exactly if slots make no orphans and lose none, and every later member that could be
rendered finds a chain that holds exactly if the written one does. -/
theorem rendersInPlace_iff (declared : ∀ n ∈ light, slotOf n ∈ d.slots) :
    (ChainsStayTogether light →
      KeepsInPlace c (c.forInstance d instanceData bucket light) ∧
        ((∃ name e,
            (c.forInstance d instanceData bucket light).slotSchedule? name = some (.error e)) ↔
          ∃ e, schedule light c.data c.file = .error e)) ∧
      (HasVerdicts c.data c.file light →
        (RendersInPlace c (c.forInstance d instanceData bucket light) ↔
          SameOrphans light ∧
            ((¬ ∃ p ∈ lightChildren light, p.IsOrphanAtHost) →
              SameDecisions c.data c.file light))) := by
  -- Chains that stay together give equal verdicts, so marks and failures agree child by child. For
  -- the equivalence, orphans are compared first; without any, the chains decide.
  refine ⟨fun together => ⟨?_, ?_⟩, fun valued => ⟨fun inPlace => ?_, ?_⟩⟩
  · intro marks all
    exact (keepsInPlace_iff declared all).mpr (fun p hp => verdict_inSlot_eq together hp) marks all
  · constructor
    · rintro ⟨name, e, fails⟩
      obtain ⟨p, hp, refused⟩ := exists_of_slotSchedule?_eq_error declared fails
      exact exists_schedule_eq_error hp (verdict_inSlot_eq together hp ▸ refused)
    · rintro ⟨e, fails⟩
      obtain ⟨p, hp, refused⟩ := exists_of_schedule_eq_error fails
      exact ⟨p.slot, exists_slotSchedule?_eq_error declared hp
        ((verdict_inSlot_eq together hp).trans refused)⟩
  · have same : SameOrphans light :=
      (exists_slotSchedule?_orphaned_iff declared valued).symm.trans
        (inPlace.orphaned_iff.trans (exists_schedule_orphaned_iff valued))
    exact ⟨same, fun atHost => (keepsInPlace_iff_sameDecisions declared valued atHost
      (mt same.mp atHost)).mp inPlace.keeps⟩
  · rintro ⟨same, decided⟩
    constructor
    · intro marks all
      have atHost : ¬ ∃ p ∈ lightChildren light, p.IsOrphanAtHost := by
        intro orphan
        obtain ⟨directive, fails⟩ := (exists_schedule_orphaned_iff valued).mpr orphan
        exact nomatch all.symm.trans fails
      exact (keepsInPlace_iff_sameDecisions declared valued atHost (mt same.mp atHost)).mpr
        (decided atHost) marks all
    · exact (exists_slotSchedule?_orphaned_iff declared valued).trans
        (same.trans (exists_schedule_orphaned_iff valued).symm)

end Instances

/-! ### A chain in one slot, and a chain that is cut -/

/-- A page that gives a component with two slots a chain whose second member is for another slot
than its first. -/
def cutting : Compiler where
  store := .table [("components/a-el.webc", "<slot></slot><slot name=\"b\"></slot>")]
  components := [("a-el", "components/a-el.webc")]
  input := some (.content
    "<a-el><p webc:if=\"true\">1</p><p slot=\"b\" webc:else>2</p></a-el>" "index.webc")

/-- The component with two slots. -/
def twoSlots : Component :=
  .ofTree "components/a-el.webc"
    (Markup.parseTemplate "<slot></slot><slot name=\"b\"></slot>") none []

/-- The context of the page. -/
def cuttingPage : Context :=
  .ofRoot (.ofTree "index.webc" (.document []) none []) cutting.setting.sources.data

/-- A paragraph. -/
def paragraph (attributes : List Markup.Attribute) (text : String) : Node :=
  .element "p" attributes [.text text] none

/-- A chain whose members are for one slot, with a comment between them, and after it a paragraph
for the other slot. -/
def linkedChain : List Node :=
  [paragraph [⟨"webc:if", "false"⟩] "1", .comment "or", paragraph [⟨"webc:else", ""⟩] "2",
    paragraph [⟨"slot", "b"⟩, ⟨"webc:if", "true"⟩] "3"]

/-- The chain that the page gives the component. -/
def cutChain : List Node :=
  [paragraph [⟨"webc:if", "true"⟩] "1", paragraph [⟨"slot", "b"⟩, ⟨"webc:else", ""⟩] "2"]

/-- The instance of the component that is given a list of children. -/
def twoSlotsWith (light : List Node) : Context :=
  cuttingPage.forInstance twoSlots cuttingPage.data none light

theorem rendersInPlace_iff_linkedChain :
    (∀ n ∈ linkedChain, slotOf n ∈ twoSlots.slots) ∧ ChainsStayTogether linkedChain ∧
      HasVerdicts cuttingPage.data cuttingPage.file linkedChain ∧
      schedule linkedChain cuttingPage.data cuttingPage.file = .ok [false, true, true, true] ∧
      RendersInPlace cuttingPage (twoSlotsWith linkedChain) := by
  have declared : ∀ n ∈ linkedChain, slotOf n ∈ twoSlots.slots := by decide +kernel
  have together : ChainsStayTogether linkedChain := by decide +kernel
  have valued : HasVerdicts cuttingPage.data cuttingPage.file linkedChain := by
    intro n listed
    refine ⟨!(n.attribute? "webc:if" == some "false"), Compiled.eq_ok_of_toOption ?_⟩
    revert n listed
    decide +kernel
  have all : schedule linkedChain cuttingPage.data cuttingPage.file =
      .ok [false, true, true, true] :=
    Compiled.eq_ok_of_toOption (by decide +kernel)
  have inPlace : RendersInPlace cuttingPage (twoSlotsWith linkedChain) ↔ _ :=
    (rendersInPlace_iff declared).2 valued
  have same : SameOrphans linkedChain := by decide +kernel
  exact ⟨declared, together, valued, all, inPlace.mpr ⟨same, fun _ p hp later _ => by
    rw [together p hp later]⟩⟩

/-- A chain that is cut by two slots does not render in place. Without slots its second member is
left out, as the first is rendered; in its slot it is an orphan, and so the page fails. -/
theorem exists_not_rendersInPlace :
    (∀ n ∈ cutChain, slotOf n ∈ twoSlots.slots) ∧
      schedule cutChain cuttingPage.data cuttingPage.file = .ok [true, false] ∧
      (twoSlotsWith cutChain).slotSchedule? "b" =
        some (.error (.orphaned "webc:else" "index.webc")) ∧
      ¬ RendersInPlace cuttingPage (twoSlotsWith cutChain) ∧
      cutting.run 10 .text = .error (.failed (.orphaned "webc:else" "index.webc")) := by
  have declared : ∀ n ∈ cutChain, slotOf n ∈ twoSlots.slots := by decide +kernel
  have all : schedule cutChain cuttingPage.data cuttingPage.file = .ok [true, false] :=
    Compiled.eq_ok_of_toOption (by decide +kernel)
  have fails : schedule (forSlot "b" cutChain) cuttingPage.data cuttingPage.file =
      .error (.orphaned "webc:else" "index.webc") :=
    Compiled.eq_error_of_error? (by decide +kernel)
  have orphaned : (twoSlotsWith cutChain).slotSchedule? "b" =
      some (.error (.orphaned "webc:else" "index.webc")) := by
    rw [twoSlotsWith, Context.slotSchedule?_forInstance declared, fails]
    rfl
  refine ⟨declared, all, orphaned, fun inPlace => ?_,
    Compiled.eq_error_of_error? (by decide +kernel)⟩
  exact nomatch inPlace.keeps _ all _ _ orphaned

end ComponentMarkup
