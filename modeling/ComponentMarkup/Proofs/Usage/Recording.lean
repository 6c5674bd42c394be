import ComponentMarkup.Proofs.Usage.Reach
import Mathlib.Data.List.Nodup
import Mathlib.Data.List.Perm.Basic

/-!
# Recording usages

A usage graph grows call by call. A structural usage is turned away exactly when it would close a
cycle, so the structural usages never form one. Since a cycle does not depend on the order of its
usages, neither does the verdict on a whole sequence of calls.

What one call does is said once, by `mem_edges_insert` and what follows from it; the invariant of
all graphs that calls lead to is `Recorded`, and `Recorded.call` is the step that keeps it.

## Main definitions

* `UsageGraph.Call`, `UsageGraph.call` — a call on a graph, and what it does
* `UsageGraph.perform` — calls one after another, those turned away included
* `UsageGraph.Recorded` — the invariant of recorded graphs

## Main results

* `acyclic_or_iff` — one more edge closes a cycle exactly when its end leads back to its start
* `uses_insert`, `usesStructurally_insert` — what a recorded usage adds
* `Recorded.call_ne_ok_iff` — which usages are turned away
* `Recorded.accepts_iff` — which sequences of calls are accepted
* `perform_acyclic_exact_and_order_free` — all of this for the graphs that calls lead to
* `uses_ofUsages`, `wellFormed_ofUsages` — the graph of a log of usages
-/

namespace ComponentMarkup.UsageGraph

open Relation (ReflTransGen TransGen)

variable {g : UsageGraph} {a b n : String} {u : Usage}

/-! ### Cycles -/

section Relations

variable {r s : String → String → Prop} {o t : String}

theorem Acyclic.mono (h : Acyclic s) (le : r ≤ s) : Acyclic r :=
  fun a cycle => h a (TransGen.mono le _ _ cycle)

/-- A relation along which a rank falls has no cycle. -/
theorem acyclic_of_rank (rank : String → Nat) (falls : ∀ a b, r a b → rank b < rank a) :
    Acyclic r := by
  have path : ∀ {a b}, TransGen r a b → rank b < rank a := by
    intro a b path
    induction path with
    | single step => exact falls _ _ step
    | tail _ step ih => exact Nat.lt_trans (falls _ _ step) ih
  exact fun a cycle => Nat.lt_irrefl _ (path cycle)

/-- A path with one more edge to use either does without it, or leads to it and on from it. -/
theorem transGen_or_cases (path : TransGen (fun x y => r x y ∨ x = o ∧ y = t) a b) :
    TransGen r a b ∨ ReflTransGen r a o ∧ ReflTransGen r t b := by
  induction path with
  | single step =>
    rcases step with step | ⟨rfl, rfl⟩
    · exact .inl (.single step)
    · exact .inr ⟨.refl, .refl⟩
  | tail _ step ih =>
    rcases step with step | ⟨rfl, rfl⟩
    · exact ih.imp (·.tail step) (And.imp_right (·.tail step))
    · rcases ih with path | ⟨path, _⟩
      · exact .inr ⟨path.to_reflTransGen, .refl⟩
      · exact .inr ⟨path, .refl⟩

/-- One more edge closes a cycle exactly when its end leads back to its start. -/
theorem acyclic_or_iff :
    Acyclic (fun x y => r x y ∨ x = o ∧ y = t) ↔ Acyclic r ∧ ¬ ReflTransGen r t o := by
  constructor
  · refine fun h => ⟨h.mono fun _ _ => .inl, fun back => h o ?_⟩
    exact .head' (.inr ⟨rfl, rfl⟩) (ReflTransGen.mono (fun _ _ => .inl) _ _ back)
  · rintro ⟨acyclic, open_⟩ a cycle
    rcases transGen_or_cases cycle with path | ⟨toOwner, fromTarget⟩
    · exact acyclic a path
    · exact open_ (fromTarget.trans toOwner)

end Relations

/-! ### What a recorded usage adds -/

@[simp] theorem edges_addNode (g : UsageGraph) (path : String) :
    (g.addNode path).edges = g.edges := by
  unfold addNode
  split <;> rfl

@[simp] theorem usesStructurally_addNode (g : UsageGraph) (path : String) :
    (g.addNode path).UsesStructurally = g.UsesStructurally := by
  unfold UsesStructurally
  rw [edges_addNode]

@[simp] theorem mem_nodes_addNode (g : UsageGraph) (path : String) :
    n ∈ (g.addNode path).nodes ↔ n ∈ g.nodes ∨ n = path := by
  unfold addNode hasNode
  split
  · rename_i h
    have h : path ∈ g.nodes := by simpa using h
    exact ⟨.inl, fun hn => hn.elim id (· ▸ h)⟩
  · simp

@[simp] theorem mem_nodes_insert (g : UsageGraph) (u : Usage) :
    n ∈ (g.insert u).nodes ↔ n ∈ g.nodes ∨ n = u.owner ∨ n = u.target := by
  simp only [insert]
  split <;> simp [or_assoc]

/-- The kind of a usage between two components after `u` was recorded. -/
def promoted (u : Usage) (a b : String) (kind : UsageKind) : UsageKind :=
  if a = u.owner ∧ b = u.target then joinKinds kind u.kind else kind

/-- A usage that was recorded before keeps its place, a new one comes last. -/
theorem edges_insert (g : UsageGraph) (u : Usage) [Decidable (g.Uses u.owner u.target)] :
    (g.insert u).edges =
      if g.Uses u.owner u.target then
        g.edges.map fun e => { e with kind := promoted u e.owner e.target e.kind }
      else g.edges ++ [u] := by
  have known : (g.edges.any fun e => e.owner == u.owner && e.target == u.target) = true ↔
      g.Uses u.owner u.target := by
    simp [uses_iff]
  have same : (fun e : Usage => if (e.owner == u.owner && e.target == u.target) = true then
      { e with kind := joinKinds e.kind u.kind } else e) =
        fun e => { e with kind := promoted u e.owner e.target e.kind } := by
    funext e
    simp only [promoted, Bool.and_eq_true, beq_iff_eq]
    split <;> rfl
  simp only [insert, edges_addNode, known, same]
  split <;> rfl

/-- The usages between two components after `u` was recorded: those from before, with the kinds
they have now, and `u` itself if there was none between its components. -/
theorem mem_edges_insert (g : UsageGraph) (u : Usage) (a b : String) (kind : UsageKind) :
    ⟨a, b, kind⟩ ∈ (g.insert u).edges ↔
      (∃ old, ⟨a, b, old⟩ ∈ g.edges ∧ kind = promoted u a b old) ∨
        ¬ g.Uses u.owner u.target ∧ u = ⟨a, b, kind⟩ := by
  classical
  rw [edges_insert]
  split
  · rename_i known
    constructor
    · intro h
      obtain ⟨⟨owner, target, old⟩, hmem, same⟩ := List.mem_map.mp h
      obtain ⟨rfl, rfl, rfl⟩ : owner = a ∧ target = b ∧ _ = kind := by simpa using same
      exact .inl ⟨old, hmem, rfl⟩
    · rintro (⟨old, hmem, rfl⟩ | ⟨new, _⟩)
      · exact List.mem_map.mpr ⟨_, hmem, rfl⟩
      · exact absurd known new
  · rename_i new
    rw [List.mem_append, List.mem_singleton]
    -- Without a usage between the components of `u`, no kind changes.
    have unchanged : ∀ old, ⟨a, b, old⟩ ∈ g.edges → promoted u a b old = old := by
      intro old hmem
      refine if_neg fun same => new ?_
      rw [← same.1, ← same.2]
      exact ⟨old, hmem⟩
    constructor
    · rintro (hmem | rfl)
      · exact .inl ⟨kind, hmem, (unchanged kind hmem).symm⟩
      · exact .inr ⟨new, rfl⟩
    · rintro (⟨old, hmem, rfl⟩ | ⟨_, rfl⟩)
      · rw [unchanged old hmem]
        exact .inl hmem
      · exact .inr rfl

/-- Recording adds a usage between its two components and no other. -/
theorem uses_insert (g : UsageGraph) (u : Usage) (a b : String) :
    (g.insert u).Uses a b ↔ g.Uses a b ∨ a = u.owner ∧ b = u.target := by
  simp only [Uses, mem_edges_insert]
  constructor
  · rintro ⟨kind, ⟨old, hmem, _⟩ | ⟨_, rfl⟩⟩
    · exact .inl ⟨old, hmem⟩
    · exact .inr ⟨rfl, rfl⟩
  · rintro (⟨old, hmem⟩ | ⟨rfl, rfl⟩)
    · exact ⟨_, .inl ⟨old, hmem, rfl⟩⟩
    · by_cases known : g.Uses u.owner u.target
      · obtain ⟨old, hmem⟩ := known
        exact ⟨_, .inl ⟨old, hmem, rfl⟩⟩
      · exact ⟨u.kind, .inr ⟨known, rfl⟩⟩

/-- A structural usage stays structural when it is recorded again, and a slotted one becomes
structural when it is recorded as such. -/
theorem usesStructurally_insert (g : UsageGraph) (u : Usage) (a b : String) :
    (g.insert u).UsesStructurally a b ↔
      g.UsesStructurally a b ∨ u = ⟨a, b, .structural⟩ := by
  unfold UsesStructurally
  rw [mem_edges_insert]
  constructor
  · rintro (⟨old, hmem, now⟩ | ⟨_, rfl⟩)
    · unfold promoted joinKinds at now
      split at now
      · rename_i same
        cases hk : u.kind with
        | structural => exact .inr (by cases u; simp_all)
        | slotted =>
          obtain rfl : .structural = old := by simpa [hk] using now
          exact .inl hmem
      · exact .inl (now ▸ hmem)
    · exact .inr rfl
  · rintro (hmem | rfl)
    · refine .inl ⟨.structural, hmem, ?_⟩
      unfold promoted joinKinds
      cases u.kind <;> simp
    · by_cases known : g.Uses a b
      · obtain ⟨old, hmem⟩ := known
        exact .inl ⟨old, hmem, by simp [promoted, joinKinds]⟩
      · exact .inr ⟨known, rfl⟩

/-! ### The invariant of recorded graphs -/

/-- What holds of every graph that grew by recording: usages are between known components, no two
are between the same ones, and the structural ones form no cycle. -/
structure Recorded (g : UsageGraph) : Prop where
  wellFormed : g.WellFormed
  distinct : (g.edges.map fun e => (e.owner, e.target)).Nodup
  acyclic : Acyclic g.UsesStructurally

theorem recorded_empty : Recorded {} where
  wellFormed := ⟨by simp, by simp⟩
  distinct := by simp
  acyclic := fun _ cycle => by
    obtain ⟨_, first, _⟩ := TransGen.head'_iff.mp cycle
    exact absurd first List.not_mem_nil

/-- A usage has one kind. -/
theorem Recorded.kind_eq (h : g.Recorded) {kind kind' : UsageKind} (hk : ⟨a, b, kind⟩ ∈ g.edges)
    (hk' : ⟨a, b, kind'⟩ ∈ g.edges) : kind = kind' :=
  congrArg Usage.kind (List.inj_on_of_nodup_map h.distinct hk hk' rfl)

theorem WellFormed.addNode (wf : g.WellFormed) (path : String) : (g.addNode path).WellFormed where
  owner_mem u hu := (mem_nodes_addNode ..).mpr (.inl (wf.owner_mem u (edges_addNode g path ▸ hu)))
  target_mem u hu := (mem_nodes_addNode ..).mpr (.inl (wf.target_mem u (edges_addNode g path ▸ hu)))

theorem WellFormed.insert (wf : g.WellFormed) (u : Usage) : (g.insert u).WellFormed := by
  have ends : ∀ v ∈ (g.insert u).edges,
      v.owner ∈ (g.insert u).nodes ∧ v.target ∈ (g.insert u).nodes := by
    intro v hv
    simp only [mem_nodes_insert]
    rcases (uses_insert g u v.owner v.target).mp ⟨v.kind, hv⟩ with old | ⟨ho, ht⟩
    · exact (wf.mem_of_uses old).imp .inl .inl
    · exact ⟨.inr (.inl ho), .inr (.inr ht)⟩
  exact ⟨fun v hv => (ends v hv).1, fun v hv => (ends v hv).2⟩

theorem Recorded.addNode (h : g.Recorded) (path : String) : (g.addNode path).Recorded where
  wellFormed := h.wellFormed.addNode path
  distinct := by rw [edges_addNode]; exact h.distinct
  acyclic := by rw [usesStructurally_addNode]; exact h.acyclic

/-- Recording keeps the invariant, unless it closes a structural cycle. -/
theorem Recorded.insert (h : g.Recorded)
    (isOpen : u.kind = .structural → ¬ ReflTransGen g.UsesStructurally u.target u.owner) :
    (g.insert u).Recorded where
  wellFormed := h.wellFormed.insert u
  distinct := by
    classical
    rw [edges_insert]
    split
    · rw [List.map_map]
      exact h.distinct
    · rename_i new
      rw [List.map_append, List.nodup_append]
      refine ⟨h.distinct, by simp, ?_⟩
      intro _ old _ last equal
      obtain ⟨e, he, rfl⟩ := List.mem_map.mp old
      obtain ⟨ho, ht⟩ : e.owner = u.owner ∧ e.target = u.target := by
        simpa [← equal] using last
      exact new ⟨e.kind, ho ▸ ht ▸ he⟩
  acyclic := by
    have after := fun a b => usesStructurally_insert g u a b
    obtain ⟨owner, target, kind⟩ := u
    cases kind with
    | slotted => exact h.acyclic.mono fun a b step => ((after a b).mp step).resolve_right (by simp)
    | structural =>
      refine (acyclic_or_iff.mpr ⟨h.acyclic, isOpen rfl⟩).mono fun a b step => ?_
      refine ((after a b).mp step).imp_right fun same => ?_
      cases same
      exact ⟨rfl, rfl⟩

/-! ### Logs of usages -/

/-- The graph of a log of usages starts with the root alone, or empty. -/
theorem uses_ofUsages (root : Option String) (log : List Usage) (a b : String) :
    (ofUsages root log).Uses a b ↔ ∃ kind, ⟨a, b, kind⟩ ∈ log := by
  have grow : ∀ g : UsageGraph, (log.foldl insert g).Uses a b ↔
      g.Uses a b ∨ ∃ kind, ⟨a, b, kind⟩ ∈ log := by
    induction log with
    | nil => simp
    | cons u log ih =>
      intro g
      obtain ⟨owner, target, kind⟩ := u
      rw [List.foldl_cons, ih, uses_insert, or_assoc]
      simp only [List.mem_cons, Usage.mk.injEq, exists_or, ← and_assoc, exists_and_left,
        exists_eq, and_true]
  unfold ofUsages
  rw [grow]
  cases root <;> simp [Uses]

theorem wellFormed_ofUsages (root : Option String) (log : List Usage) :
    (ofUsages root log).WellFormed := by
  have grow : ∀ g : UsageGraph, g.WellFormed → (log.foldl insert g).WellFormed := by
    induction log with
    | nil => exact fun g wf => wf
    | cons u log ih => exact fun g wf => ih _ (wf.insert u)
  refine grow _ ?_
  cases root with
  | none => exact recorded_empty.wellFormed
  | some path => exact recorded_empty.wellFormed.addNode path

/-! ### Calls -/

/-- A call on a graph: to add a component, or to record a usage. -/
inductive Call
  | node (path : String)
  | usage (u : Usage)

/-- What a call answers, and the graph after it. A usage that is turned away leaves no trace. -/
def call (g : UsageGraph) : Call → Compiled Unit × UsageGraph
  | .node path => (.ok (), g.addNode path)
  | .usage u =>
    match g.record u with
    | .ok after => (.ok (), after)
    | .error e => (.error e, g)

/-- What calls answer one after another, and the graph after them. -/
def perform (g : UsageGraph) : List Call → List (Compiled Unit) × UsageGraph
  | [] => ([], g)
  | c :: cs =>
    let (answer, next) := g.call c
    let (answers, last) := next.perform cs
    (answer :: answers, last)

/-- A call keeps usages between known components, also if there are structural cycles. -/
theorem WellFormed.call (wf : g.WellFormed) (c : Call) : (g.call c).2.WellFormed := by
  cases c with
  | node path => exact wf.addNode path
  | usage u =>
    simp only [UsageGraph.call, record]
    by_cases rejected : u.kind == .structural && g.wouldCycle u.owner u.target
    · rw [if_pos rejected]
      exact wf
    · rw [if_neg rejected]
      exact wf.insert u

theorem WellFormed.perform (wf : g.WellFormed) (calls : List Call) :
    (g.perform calls).2.WellFormed := by
  induction calls generalizing g with
  | nil => exact wf
  | cons c cs ih => exact ih (wf.call c)

/-- No call is turned away. -/
def Accepts (g : UsageGraph) (calls : List Call) : Prop := ∀ r ∈ (g.perform calls).1, r = .ok ()

/-- Recording this usage would close a structural cycle. -/
def Closes (g : UsageGraph) (u : Usage) : Prop :=
  u.kind = .structural ∧ ¬ Acyclic fun a b => g.UsesStructurally a b ∨ a = u.owner ∧ b = u.target

theorem Recorded.closes_iff (h : g.Recorded) :
    g.Closes u ↔ u.kind = .structural ∧ g.wouldCycle u.owner u.target = true := by
  unfold Closes
  rw [acyclic_or_iff, wouldCycle_iff h.wellFormed]
  simp [h.acyclic]

theorem Recorded.call_of_closes (h : g.Recorded) (closes : g.Closes u) :
    g.call (.usage u) = (.error (.circular u.owner u.target), g) := by
  obtain ⟨kind, cycle⟩ := h.closes_iff.mp closes
  simp [call, record, kind, cycle]

theorem Recorded.call_of_not_closes (h : g.Recorded) (isOpen : ¬ g.Closes u) :
    g.call (.usage u) = (.ok (), g.insert u) := by
  have accepted : ¬ (u.kind = .structural ∧ g.wouldCycle u.owner u.target = true) :=
    fun closes => isOpen (h.closes_iff.mpr closes)
  simp [call, record, accepted]

/-- A call keeps the invariant. -/
theorem Recorded.call (h : g.Recorded) (c : Call) : (g.call c).2.Recorded := by
  cases c with
  | node path => exact h.addNode path
  | usage u =>
    by_cases closes : g.Closes u
    · rw [h.call_of_closes closes]
      exact h
    · rw [h.call_of_not_closes closes]
      refine h.insert fun kind back => closes ⟨kind, fun acyclic => ?_⟩
      exact (acyclic_or_iff.mp acyclic).2 back

/-- Only usages that close a cycle are turned away. -/
theorem Recorded.call_ne_ok_iff (h : g.Recorded) (c : Call) :
    (g.call c).1 ≠ .ok () ↔ ∃ u, c = .usage u ∧ g.Closes u := by
  cases c with
  | node path => simp [UsageGraph.call]
  | usage u =>
    by_cases closes : g.Closes u
    · simp [h.call_of_closes closes, closes]
    · simp [h.call_of_not_closes closes, closes]

/-- A usage that is turned away leaves the graph as it was. -/
theorem Recorded.call_of_ne_ok (h : g.Recorded) {c : Call} (rejected : (g.call c).1 ≠ .ok ()) :
    (g.call c).2 = g := by
  obtain ⟨u, rfl, closes⟩ := (h.call_ne_ok_iff c).mp rejected
  rw [h.call_of_closes closes]

/-- A structural usage stays structural. -/
theorem Recorded.usesStructurally_call (h : g.Recorded) (structural : g.UsesStructurally a b)
    (c : Call) : (g.call c).2.UsesStructurally a b := by
  cases c with
  | node path => exact (usesStructurally_addNode g path).symm ▸ structural
  | usage u =>
    by_cases closes : g.Closes u
    · rwa [h.call_of_closes closes]
    · rw [h.call_of_not_closes closes, usesStructurally_insert]
      exact .inl structural

/-- Calls keep the invariant. -/
theorem Recorded.perform (h : g.Recorded) (calls : List Call) : (g.perform calls).2.Recorded := by
  induction calls generalizing g with
  | nil => exact h
  | cons c cs ih => exact ih (h.call c)

@[simp] theorem accepts_nil : g.Accepts [] := by simp [Accepts, perform]

@[simp] theorem accepts_cons (c : Call) (calls : List Call) :
    g.Accepts (c :: calls) ↔ (g.call c).1 = .ok () ∧ (g.call c).2.Accepts calls := by
  simp [Accepts, perform]

/-- Exactly those sequences of calls are accepted whose structural usages form no cycle together
with those already there. -/
theorem Recorded.accepts_iff (h : g.Recorded) (calls : List Call) :
    g.Accepts calls ↔
      Acyclic fun a b => g.UsesStructurally a b ∨ .usage ⟨a, b, .structural⟩ ∈ calls := by
  induction calls generalizing g with
  | nil => simpa using h.acyclic
  | cons c cs ih =>
    rw [accepts_cons, ih (h.call c)]
    cases c with
    | node path => simp [UsageGraph.call]
    | usage u =>
      by_cases closes : g.Closes u
      · -- The usage is turned away; its cycle is one of all usages.
        rw [h.call_of_closes closes]
        refine iff_of_false (fun accepted => nomatch accepted.1) fun acyclic => closes.2 ?_
        refine acyclic.mono fun a b step => step.imp_right ?_
        rintro ⟨rfl, rfl⟩
        rw [← closes.1]
        exact List.mem_cons_self
      · rw [h.call_of_not_closes closes]
        have same : ∀ a b, (g.insert u).UsesStructurally a b ∨ .usage ⟨a, b, .structural⟩ ∈ cs ↔
            g.UsesStructurally a b ∨ .usage ⟨a, b, .structural⟩ ∈ Call.usage u :: cs := by
          intro a b
          rw [usesStructurally_insert, List.mem_cons, or_assoc, Call.usage.injEq, eq_comm (a := u)]
        simp only [same, true_and]

/-- Recording usages in any order. After any calls on an empty graph, those turned away included,
the structural usages form no cycle. A further call is turned away exactly if it is a structural
usage that would close a cycle, and then it leaves the graph as it was; a structural usage never
becomes slotted. All calls are accepted exactly if their structural usages form no cycle, and so
whatever their order. -/
theorem perform_acyclic_exact_and_order_free (calls : List Call) :
    let g := (perform {} calls).2
    Acyclic g.UsesStructurally ∧
      (∀ c, (g.call c).1 ≠ .ok () ↔ ∃ u, c = .usage u ∧ u.kind = .structural ∧
        ¬ Acyclic fun a b => g.UsesStructurally a b ∨ a = u.owner ∧ b = u.target) ∧
      (∀ c, (g.call c).1 ≠ .ok () → (g.call c).2 = g) ∧
      (∀ c a b, g.UsesStructurally a b →
        (g.call c).2.UsesStructurally a b ∧ ⟨a, b, .slotted⟩ ∉ (g.call c).2.edges) ∧
      (Accepts {} calls ↔ Acyclic fun a b => .usage ⟨a, b, .structural⟩ ∈ calls) ∧
      ∀ calls', calls.Perm calls' → (Accepts {} calls ↔ Accepts {} calls') := by
  intro g
  have h : g.Recorded := recorded_empty.perform calls
  have accepted : ∀ calls, Accepts {} calls ↔
      Acyclic fun a b => .usage ⟨a, b, .structural⟩ ∈ calls := fun calls => by
    rw [recorded_empty.accepts_iff]
    simp [UsesStructurally]
  refine ⟨h.acyclic, h.call_ne_ok_iff, fun c => h.call_of_ne_ok, fun c a b structural => ?_,
    accepted calls, fun calls' perm => ?_⟩
  · have after := h.usesStructurally_call structural c
    exact ⟨after, fun slotted => nomatch (h.call c).kind_eq after slotted⟩
  · rw [accepted, accepted]
    simp only [perm.mem_iff]

end ComponentMarkup.UsageGraph
