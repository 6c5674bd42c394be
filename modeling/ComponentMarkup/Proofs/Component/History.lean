import ComponentMarkup.Proofs.Component.Supply

/-!
# The history of a registry

What a registry answers depends on what it was asked before. Its three tables are kept by different
requests: outcomes by every build, the failed ones too, tags by naming, and claims to scope ids by
builds that may fail later on. `Registry.Keeps` ties outcomes and claims to the list of all builds
so far; every build keeps it, be it a new one or one that recalls its outcome.

## Main definitions

* `Request` — what a registry can be asked to do
* `Registry.run`, `Registry.builds` — the registry after some requests, and the outcomes of the
  builds on the way
* `Component.chosenScopeId?` — the scope id that a component chooses for itself
* `Registry.Keeps` — the tables say what the builds gave
* `Registry.Consistent` — what holds of all answers

## Main results

* `Registry.Keeps.precompile`, `Registry.Keeps.after`, `Registry.Keeps.run` — every build, every
  request and so every run keeps the tables true
* `Registry.consistent_run` — the answers of a registry through all its history
-/

namespace ComponentMarkup

open Markup (Node)

/-- What a registry can be asked to do. Looking up changes nothing, so it can be done anywhere
between these. -/
inductive Request
  /-- To build a component, from a tree if one is given. -/
  | precompile (path : String) (tree? : Option Node)
  /-- To name components by tags, and to build them. -/
  | register (map : Entries String)
  | registerTag (tag path : String)

/-- The tags that a request names components by. -/
def Request.tags : Request → List String
  | precompile _ _ => []
  | register map => map.keys
  | registerTag tag _ => [tag]

/-- The scope id that a component chooses for itself. -/
def Component.chosenScopeId? (d : Component) : Option String :=
  ComponentMarkup.chosenScopeId? (d.tree.children.filter isScopedStyle)

namespace Registry

variable {s : Sources} {r : Registry} {path tag : String} {tree? : Option Node} {d : Component}

/-! ### Runs -/

/-- A build: the path of a component and what came of it. -/
abbrev Build := String × Compiled Component

/-- The builds of several components in order, up to the first that fails. -/
def buildsInOrder (s : Sources) (r : Registry) : List String → List Build
  | [] => []
  | path :: paths =>
    match r.precompile s path none with
    | (.ok d, r) => (path, .ok d) :: buildsInOrder s r paths
    | (.error e, _) => [(path, .error e)]

/-- The registry with several tags given to paths. -/
def nameAll (r : Registry) (map : Entries String) : Registry :=
  map.foldl (fun r (tag, path) => r.nameTag tag path) r

/-- The paths of a map that have not been built with success. -/
def unbuilt (r : Registry) (map : Entries String) : List String :=
  map.values.eraseDups.filter fun path => !r.hasComponent path

/-- The builds that a request asks for. -/
def buildsOf (s : Sources) (r : Registry) : Request → List Build
  | .precompile path tree? => [(path, (r.precompile s path tree?).1)]
  | .register map => buildsInOrder s (r.nameAll map) (r.unbuilt map)
  | .registerTag tag path => [(path, (r.registerTag s tag path).1)]

/-- The registry after a request. -/
def after (s : Sources) (r : Registry) : Request → Registry
  | .precompile path tree? => (r.precompile s path tree?).2
  | .register map => (r.register s map).2
  | .registerTag tag path => (r.registerTag s tag path).2

/-- The registry after some requests. -/
def run (s : Sources) (r : Registry) (requests : List Request) : Registry :=
  requests.foldl (after s) r

/-- All builds that some requests ask for, in order. -/
def builds (s : Sources) (r : Registry) : List Request → List Build
  | [] => []
  | q :: requests => r.buildsOf s q ++ builds s (r.after s q) requests

theorem run_append (r : Registry) (requests later : List Request) :
    r.run s (requests ++ later) = (r.run s requests).run s later :=
  List.foldl_append

/-! ### Claims -/

/-- What claiming a scope id comes to: nothing if none is chosen, else the id is given to the path
that has it already or is the first to ask. -/
theorem claimScope_eq_ok {claims claims' : Entries String} {tree : Node}
    {scopeId : Option String} (claimed : claimScope claims tree path = .ok (scopeId, claims')) :
    chosenScopeId? (tree.children.filter isScopedStyle) = none ∧ claims' = claims ∨
      ∃ id, chosenScopeId? (tree.children.filter isScopedStyle) = some id ∧ scopeId = some id ∧
        (claims.get? id = some path ∧ claims' = claims ∨
          claims.get? id = none ∧ claims' = claims.insert id path) := by
  unfold claimScope at claimed
  split at claimed
  · rename_i unstyled
    obtain ⟨-, rfl⟩ := Prod.mk.inj (Except.ok.inj claimed)
    exact .inl ⟨by rw [unstyled]; rfl, rfl⟩
  · split at claimed
    · rename_i unchosen
      obtain ⟨-, rfl⟩ := Prod.mk.inj (Except.ok.inj claimed)
      exact .inl ⟨unchosen, rfl⟩
    · rename_i id chosen
      refine .inr ⟨id, chosen, ?_⟩
      split at claimed
      · rename_i first held
        split at claimed
        · rename_i same
          obtain ⟨rfl, rfl⟩ := Prod.mk.inj (Except.ok.inj claimed)
          exact ⟨rfl, .inl ⟨held.trans (congrArg some (eq_of_beq same)), rfl⟩⟩
        · exact nomatch claimed
      · rename_i free
        obtain ⟨rfl, rfl⟩ := Prod.mk.inj (Except.ok.inj claimed)
        exact ⟨rfl, .inr ⟨free, rfl⟩⟩

/-- A build takes no claim back, and the component it gives holds the scope id that it chose. -/
theorem claims_of_buildComponent (s : Sources) (claims : Entries String) (path : String)
    (tree? : Option Node) :
    (∀ id owner, claims.get? id = some owner →
        (buildComponent s claims path tree?).2.get? id = some owner) ∧
      ∀ d, (buildComponent s claims path tree?).1 = .ok d → ∀ id, d.chosenScopeId? = some id →
        d.scopeId = some id ∧ (buildComponent s claims path tree?).2.get? id = some path := by
  unfold buildComponent
  split
  · exact ⟨fun _ _ held => held, nofun⟩
  · rename_i tree _
    split
    · exact ⟨fun _ _ held => held, nofun⟩
    · rename_i scopeId claims' claimed
      refine ⟨fun id owner held => ?_, fun d built id chosen => ?_⟩
      · obtain ⟨-, rfl⟩ | ⟨id', -, -, ⟨-, rfl⟩ | ⟨free, rfl⟩⟩ := claimScope_eq_ok claimed
        · exact held
        · exact held
        · have other : id' ≠ id := fun same => nomatch (same ▸ free).symm.trans held
          rw [Entries.get?_insert, if_neg other]
          exact held
      · obtain ⟨setup, -, rfl⟩ := Compiled.map_eq_ok.mp built
        obtain ⟨unchosen, -⟩ | ⟨id', chosen', rfl, kept⟩ := claimScope_eq_ok claimed
        · exact nomatch unchosen.symm.trans chosen
        · obtain rfl : id' = id := Option.some.inj (chosen'.symm.trans chosen)
          refine ⟨rfl, ?_⟩
          obtain ⟨held, rfl⟩ | ⟨-, rfl⟩ := kept
          · exact held
          · exact (Entries.get?_insert ..).trans (if_pos rfl)

/-! ### What every request keeps -/

/-- The tables of a registry say what its builds gave: the outcome of each path is that of all its
builds, a component has the path it was asked for, and its chosen scope id is claimed for that
path. -/
structure Keeps (r : Registry) (log : List Build) : Prop where
  mem_iff : ∀ path outcome, (path, outcome) ∈ log ↔ r.outcomes.get? path = some outcome
  path_eq : ∀ path d, (path, .ok d) ∈ log → d.path = path
  claimed : ∀ path d id, (path, .ok d) ∈ log → d.chosenScopeId? = some id →
    d.scopeId = some id ∧ r.claims.get? id = some path

theorem keeps_empty : ({} : Registry).Keeps [] :=
  ⟨by simp, nofun, nofun⟩

namespace Keeps

variable {log : List Build}

/-- A build that is recalled says nothing new, and a new one is entered in the tables. -/
theorem precompile (h : r.Keeps log) (s : Sources) (path : String) (tree? : Option Node) :
    (r.precompile s path tree?).2.Keeps (log ++ [(path, (r.precompile s path tree?).1)]) := by
  unfold Registry.precompile
  split
  · rename_i outcome known
    have listed : (path, outcome) ∈ log := (h.mem_iff path outcome).mpr known
    have same : ∀ b, b ∈ log ++ [(path, outcome)] ↔ b ∈ log := by
      intro b
      rw [List.mem_append, List.mem_singleton]
      exact ⟨fun both => both.elim id fun last => last ▸ listed, .inl⟩
    exact ⟨fun p o => (same _).trans (h.mem_iff p o), fun p d hd => h.path_eq p d ((same _).mp hd),
      fun p d id hd => h.claimed p d id ((same _).mp hd)⟩
  · rename_i unknown
    obtain ⟨held, chosen⟩ := claims_of_buildComponent s r.claims path tree?
    have new {p o} : (p, o) ∈ log ++ [(path, (buildComponent s r.claims path tree?).1)] ↔
        (p, o) ∈ log ∨ p = path ∧ o = (buildComponent s r.claims path tree?).1 := by simp
    refine ⟨fun p o => ?_, fun p d hd => ?_, fun p d id hd choice => ?_⟩
    · rw [new, h.mem_iff, Entries.get?_insert]
      by_cases here : path = p
      · subst here
        simp [unknown, eq_comm]
      · simp [here, Ne.symm here]
    · obtain old | ⟨rfl, built⟩ := new.mp hd
      · exact h.path_eq p d old
      · exact (isBuilt_of_buildComponent built.symm).path_eq
    · obtain old | ⟨rfl, built⟩ := new.mp hd
      · obtain ⟨given, owned⟩ := h.claimed p d id old choice
        exact ⟨given, held id p owned⟩
      · exact chosen d built.symm id choice

theorem nameTag (h : r.Keeps log) (tag path : String) : (r.nameTag tag path).Keeps log :=
  ⟨h.mem_iff, h.path_eq, h.claimed⟩

theorem nameAll (h : r.Keeps log) (map : Entries String) : (r.nameAll map).Keeps log :=
  List.foldlRecOn (motive := (Registry.Keeps · log)) map _ h fun _ h e _ => h.nameTag e.1 e.2

theorem precompileAll (h : r.Keeps log) (s : Sources) (paths : List String) :
    (r.precompileAll s paths).2.Keeps (log ++ r.buildsInOrder s paths) := by
  induction paths generalizing r log with
  | nil => simpa [buildsInOrder, Registry.precompileAll] using h
  | cons path paths ih =>
    have next := h.precompile s path none
    cases found : r.precompile s path none with
    | mk outcome r' =>
      rw [found] at next
      cases outcome with
      | error e => simpa [Registry.precompileAll, buildsInOrder, found] using next
      | ok d => simpa [Registry.precompileAll, buildsInOrder, found] using ih next

/-- Every request keeps the tables true. -/
theorem after (h : r.Keeps log) (s : Sources) (q : Request) :
    (r.after s q).Keeps (log ++ r.buildsOf s q) := by
  cases q with
  | precompile path tree? => exact h.precompile s path tree?
  | register map => exact (h.nameAll map).precompileAll s (r.unbuilt map)
  | registerTag tag path => exact (h.nameTag tag path).precompile s path none

/-- And so does a run of requests. -/
theorem run (h : r.Keeps log) (s : Sources) (requests : List Request) :
    (r.run s requests).Keeps (log ++ r.builds s requests) := by
  induction requests generalizing r log with
  | nil => simpa [Registry.run, builds] using h
  | cons q requests ih =>
    rw [builds, ← List.append_assoc]
    exact ih (h.after s q)

end Keeps

/-! ### Tags -/

@[simp] theorem tags_precompile (r : Registry) (s : Sources) (path : String) (tree? : Option Node) :
    (r.precompile s path tree?).2.tags = r.tags := by
  unfold precompile
  split <;> rfl

@[simp] theorem tags_precompileAll (r : Registry) (s : Sources) (paths : List String) :
    (r.precompileAll s paths).2.tags = r.tags := by
  induction paths generalizing r with
  | nil => rfl
  | cons path paths ih =>
    have same := r.tags_precompile s path none
    unfold precompileAll
    split
    · rename_i found
      rw [ih, ← same, found]
    · rename_i found
      rw [← same, found]

theorem isSome_pathForTag?_nameTag (r : Registry) (named path tag : String) :
    ((r.nameTag named path).pathForTag? tag).isSome ↔
      (r.pathForTag? tag).isSome ∨ asciiLower named = asciiLower tag := by
  unfold pathForTag? nameTag
  rw [Entries.get?_insert]
  by_cases same : asciiLower named = asciiLower tag <;> simp [same]

theorem isSome_pathForTag?_nameAll (r : Registry) (map : Entries String) (tag : String) :
    ((r.nameAll map).pathForTag? tag).isSome ↔
      (r.pathForTag? tag).isSome ∨ ∃ named ∈ map.keys, asciiLower named = asciiLower tag := by
  induction map generalizing r with
  | nil => simp [nameAll]
  | cons e map ih =>
    refine (ih (r.nameTag e.1 e.2)).trans ?_
    rw [isSome_pathForTag?_nameTag]
    simp [or_assoc]

/-- A request names the tags that it says, in every case of their letters, and no tag is ever
dropped. -/
theorem isSome_pathForTag?_after (r : Registry) (s : Sources) (q : Request) (tag : String) :
    ((r.after s q).pathForTag? tag).isSome ↔
      (r.pathForTag? tag).isSome ∨ ∃ named ∈ q.tags, asciiLower named = asciiLower tag := by
  cases q with
  | precompile path tree? => simp [pathForTag?, after, Request.tags]
  | register map =>
    simp only [Request.tags]
    rw [← r.isSome_pathForTag?_nameAll map]
    simp [pathForTag?, after, register, nameAll]
  | registerTag named path =>
    simpa [pathForTag?, after, registerTag, Request.tags] using
      r.isSome_pathForTag?_nameTag named path tag

theorem isSome_pathForTag?_run (r : Registry) (s : Sources) (requests : List Request)
    (tag : String) :
    ((r.run s requests).pathForTag? tag).isSome ↔ (r.pathForTag? tag).isSome ∨
      ∃ named ∈ requests.flatMap Request.tags, asciiLower named = asciiLower tag := by
  induction requests generalizing r with
  | nil => simp [run]
  | cons q requests ih =>
    refine (ih (r.after s q)).trans ?_
    rw [isSome_pathForTag?_after]
    simp [or_and_right, exists_or, or_assoc]

/-! ### Answers -/

theorem hasComponent_iff :
    r.hasComponent path = true ↔ ∃ d, r.outcomes.get? path = some (.ok d) := by
  unfold hasComponent
  split
  · rename_i d known
    exact ⟨fun _ => ⟨d, known⟩, fun _ => rfl⟩
  · rename_i unknown
    exact ⟨nofun, fun ⟨d, known⟩ => absurd known (unknown d)⟩

theorem getComponent_eq_ok_iff :
    r.getComponent path = .ok d ↔ r.outcomes.get? path = some (.ok d) := by
  unfold getComponent
  split
  · rename_i known
    rw [known]
    simp
  · rename_i unknown
    exact ⟨nofun, fun known => absurd known (unknown d)⟩

theorem resolveTag_eq_ok_none_iff :
    r.resolveTag tag = .ok none ↔ ¬ (r.pathForTag? tag).isSome := by
  unfold resolveTag
  cases r.pathForTag? tag with
  | none => simp
  | some path => cases found : r.getComponent path <;> simp [found, Except.map]

theorem resolveTag_eq_ok_some_iff :
    r.resolveTag tag = .ok (some d) ↔
      ∃ path, r.pathForTag? tag = some path ∧ r.getComponent path = .ok d := by
  unfold resolveTag
  cases r.pathForTag? tag with
  | none => simp
  | some path => cases found : r.getComponent path <;> simp [found, Except.map]

/-- What holds of the answers of a registry after some requests, the builds among which are those of
`({} : Registry).builds s requests`. -/
structure Consistent (s : Sources) (requests : List Request) : Prop where
  /-- The outcome of a build is that of every later one of its path, whatever tree is given then. -/
  recalled : ∀ path outcome, (path, outcome) ∈ builds s {} requests → ∀ later tree?,
    ((run s {} (requests ++ later)).precompile s path tree?).1 = outcome
  /-- The components known are those that were built with success. -/
  hasComponent_iff : ∀ path, (run s {} requests).hasComponent path = true ↔
    ∃ d, (path, .ok d) ∈ builds s {} requests
  getComponent_iff : ∀ path d, (run s {} requests).getComponent path = .ok d ↔
    (path, .ok d) ∈ builds s {} requests
  /-- A component has the path it was asked for. -/
  path_eq : ∀ path d, (path, .ok d) ∈ builds s {} requests → d.path = path
  /-- A tag is plain if no component was named by it, in any case of its letters. -/
  plain_iff : ∀ tag, (run s {} requests).resolveTag tag = .ok none ↔
    ∀ named ∈ requests.flatMap Request.tags, asciiLower named ≠ asciiLower tag
  /-- A tag stands for the component of its path. -/
  resolved : ∀ tag d, (run s {} requests).resolveTag tag = .ok (some d) →
    (run s {} requests).pathForTag? tag = some d.path
  /-- Components of different paths have not chosen the same scope id, and each has the one it
  chose. -/
  scopeId_unique : ∀ path d id, (path, .ok d) ∈ builds s {} requests →
    d.chosenScopeId? = some id → d.scopeId = some id ∧
      ∀ other d', (other, .ok d') ∈ builds s {} requests → d'.chosenScopeId? = some id →
        other = path

/-- A registry is consistent through all its history, whatever it was asked and however its builds
came out. -/
theorem consistent_run (s : Sources) (requests : List Request) : Consistent s requests := by
  have keeps : (run s {} requests).Keeps (builds s {} requests) := keeps_empty.run s requests
  refine ⟨fun path outcome built later tree? => ?_, fun path => ?_, fun path d => ?_, keeps.path_eq,
    fun tag => ?_, fun tag d found => ?_, fun path d id built chosen => ?_⟩
  · -- Whatever comes later, the table still has the outcome.
    have still := keeps.run s later
    rw [← run_append] at still
    have known := (still.mem_iff path outcome).mp (List.mem_append_left _ built)
    unfold precompile
    rw [known]
  · rw [Registry.hasComponent_iff]
    exact exists_congr fun d => (keeps.mem_iff path (.ok d)).symm
  · rw [getComponent_eq_ok_iff, keeps.mem_iff]
  · rw [resolveTag_eq_ok_none_iff, isSome_pathForTag?_run]
    simp [pathForTag?]
  · obtain ⟨path, named, known⟩ := resolveTag_eq_ok_some_iff.mp found
    rw [getComponent_eq_ok_iff, ← keeps.mem_iff] at known
    rw [named, keeps.path_eq path d known]
  · obtain ⟨given, owned⟩ := keeps.claimed path d id built chosen
    refine ⟨given, fun other d' built' chosen' => ?_⟩
    have owned' := (keeps.claimed other d' id built' chosen').2
    exact Option.some.inj (owned'.symm.trans owned)

end Registry

end ComponentMarkup
