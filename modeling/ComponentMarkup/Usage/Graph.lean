import ComponentMarkup.Error

/-!
# Usage graphs

Components use each other. The graph of these usages keeps the order in which they were first
recorded. A usage in a component's own template is structural; structural usages form no cycle. A
usage in content that is handed to another component is slotted and exempt from this.

## Main definitions

* `Usage` — an edge: an owner uses a target
* `UsageGraph` — components and their usages, in order
* `UsageGraph.wouldCycle` — whether a structural usage would close a cycle
* `UsageGraph.record` — adds a usage unless it closes a cycle
* `UsageGraph.reach` — all that can be reached from a component
-/

namespace ComponentMarkup

/-- Where a component is used: in a template of its own, or in content for another component. -/
inductive UsageKind
  | structural
  | slotted
  deriving DecidableEq

/-- A component uses another. -/
structure Usage where
  owner : String
  target : String
  kind : UsageKind
  deriving DecidableEq

/-- Components and their usages, in the order of their first mention. -/
structure UsageGraph where
  nodes : List String := []
  edges : List Usage := []
  deriving DecidableEq

namespace UsageGraph

/-! ### Looking up -/

/-- Whether a component is known. -/
def hasNode (g : UsageGraph) (path : String) : Bool := g.nodes.contains path

/-- What a component uses directly, in the order of first use. -/
def dependencies (g : UsageGraph) (path : String) : List String :=
  (g.edges.filter (·.owner == path)).map Usage.target

/-- What uses a component directly, in the order of first use. -/
def dependants (g : UsageGraph) (path : String) : List String :=
  (g.edges.filter (·.target == path)).map Usage.owner

/-- What a component uses directly and structurally. -/
def structuralDependencies (g : UsageGraph) (path : String) : List String :=
  (g.edges.filter fun e => e.owner == path && e.kind == .structural).map Usage.target

/-! ### Reaching -/

/-- The components that are not among the given ones. -/
def unseen (g : UsageGraph) (seen : List String) : List String :=
  g.nodes.filter fun n => decide (n ∉ seen)

/-- One more component seen leaves fewer unseen. -/
theorem length_unseen_lt (g : UsageGraph) {seen : List String} {n : String} (hn : n ∈ g.nodes)
    (hs : n ∉ seen) : (g.unseen (n :: seen)).length < (g.unseen seen).length := by
  have split : g.unseen (n :: seen) = (g.unseen seen).filter fun m => decide (m ≠ n) := by
    simp [unseen, List.filter_filter]
  rw [split, List.length_filter_lt_length_iff_exists]
  exact ⟨n, by simp [unseen, hn, hs], by simp⟩

/-- What can be reached from the pending components along `next`, after those seen already. -/
def reachFrom (g : UsageGraph) (next : String → List String) (seen : List String) :
    List String → List String
  | [] => seen
  | n :: pending =>
    if n ∈ seen ∨ n ∉ g.nodes then reachFrom g next seen pending
    else reachFrom g next (n :: seen) (next n ++ pending)
termination_by pending => ((g.unseen seen).length, pending.length)
decreasing_by
  · exact Prod.Lex.right _ (by simp)
  · rename_i h
    have h : n ∉ seen ∧ n ∈ g.nodes := by simpa using h
    exact Prod.Lex.left _ _ (g.length_unseen_lt h.2 h.1)

/-- All that can be reached from a component along `next`, the component included. -/
def reach (g : UsageGraph) (next : String → List String) (path : String) : List String :=
  if path ∈ g.nodes then g.reachFrom next [] [path] else [path]

/-- A component together with all that uses it, directly or through others. -/
def ancestors (g : UsageGraph) (path : String) : List String := g.reach g.dependants path

/-! ### Recording -/

/-- Adds a component. -/
def addNode (g : UsageGraph) (path : String) : UsageGraph :=
  if g.hasNode path then g else { g with nodes := g.nodes ++ [path] }

/-- The kind of a usage that is recorded again: structural if it once was. -/
def joinKinds (a b : UsageKind) : UsageKind := if b == .structural then .structural else a

/-- Adds a usage; one that is known keeps its place. -/
def insert (g : UsageGraph) (u : Usage) : UsageGraph :=
  let g := (g.addNode u.owner).addNode u.target
  let isSame (e : Usage) : Bool := e.owner == u.owner && e.target == u.target
  if g.edges.any isSame then
    { g with edges := g.edges.map fun e =>
        if isSame e then { e with kind := joinKinds e.kind u.kind } else e }
  else { g with edges := g.edges ++ [u] }

/-- The graph of a log of usages; the root, if given, comes first. -/
def ofUsages (root : Option String) (usages : List Usage) : UsageGraph :=
  let start : UsageGraph := match root with
    | some path => ({} : UsageGraph).addNode path
    | none => {}
  usages.foldl insert start

/-- Whether the target is the owner or depends on it structurally. -/
def wouldCycle (g : UsageGraph) (owner target : String) : Bool :=
  owner == target ||
    (g.hasNode owner && g.hasNode target && (g.reach g.structuralDependencies target).contains owner)

/-- Adds a usage, unless it is structural and closes a cycle. -/
def record (g : UsageGraph) (u : Usage) : Compiled UsageGraph :=
  if u.kind == .structural && g.wouldCycle u.owner u.target then
    .error (.circular u.owner u.target)
  else .ok (g.insert u)

end UsageGraph

end ComponentMarkup
