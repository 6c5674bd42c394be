import ComponentMarkup.Proofs.Component.History
import Mathlib.Data.Set.Basic

/-!
# What a failed build leaves behind

A build that fails is remembered for its own path only, and no answer about other paths and tags
depends on that. But building claims the scope id that a template chooses before it runs the setup
script, so that a setup script that fails leaves the id claimed. Whoever chooses the id afterwards
is turned away, on behalf of a component that does not exist.

Two registries are compared here, one with the failed build and one without. What a build does is
said once by `buildComponent_eq`: it depends on the claims in one place only. So a request is
answered alike by both, or it meets an id that was left behind; and then the answers differ, since
the collision that the one registry answers cannot come up in the other, where somebody else holds
the id.

## Main definitions

* `Question`, `Answer`, `Registry.answers` — what a registry can be asked, looking up included
* `scopeIdChosenBy?` — the scope id that the template of a build chooses
* `Registry.LeavesClaim` — the build of a path claims an id even if it fails
* `Registry.CollisionsHeld` — each collision that is remembered is with who holds the id
* `Registry.Disturbed` — a registry beside one in which a build has failed

## Main results

* `buildComponent_eq` — all that a build can do
* `Registry.CollisionsHeld.run` — through all its history
* `Registry.Disturbed.precompile`, `Registry.Disturbed.answer` — one build, one question
* `Registry.Disturbed.answers_eq_iff` — any number of questions
* `Registry.answers_after_failure_iff` — which failed builds leave no trace
-/

namespace ComponentMarkup

open Markup (Node)

/-! ### Questions -/

/-- What a registry can be asked: to name and build components, or to look something up. -/
inductive Question
  | request (q : Request)
  | hasComponent (path : String)
  | getComponent (path : String)
  | pathForTag (tag : String)
  | resolveTag (tag : String)
  | tagTable

/-- What a registry answers. -/
inductive Answer
  | component (outcome : Compiled Component)
  | registered (outcome : Compiled Unit)
  | known (isKnown : Bool)
  | path (path? : Option String)
  | resolved (outcome : Compiled (Option Component))
  | tags (table : Entries String)

/-- The paths that a request builds. -/
def Request.paths : Request → List String
  | precompile path _ => [path]
  | register map => map.values
  | registerTag _ path => [path]

/-- The request that a question is, if it does not just look something up. -/
def Question.request? : Question → Option Request
  | request q => some q
  | _ => none

/-- The paths that a question builds. -/
def Question.paths (q : Question) : List String := (q.request?.map Request.paths).getD []

/-! ### One build -/

variable {s : Sources} {path : String} {tree? : Option Node}

/-- The scope id that the template of a path chooses, if there is a template. -/
def scopeIdChosenBy? (s : Sources) (path : String) (tree? : Option Node) : Option String :=
  (treeOf s path tree?).toOption.bind fun tree =>
    chosenScopeId? (tree.children.filter isScopedStyle)

/-- What building a component comes to where nobody has claimed a scope id. -/
def unclaimedOutcome (s : Sources) (path : String) (tree? : Option Node) : Compiled Component :=
  (buildComponent s [] path tree?).1

/-- All that a build can do. It claims the id that its template chooses, and has the outcome that it
has without any claims, unless another path holds the id. -/
theorem buildComponent_eq (s : Sources) (claims : Entries String) (path : String)
    (tree? : Option Node) :
    buildComponent s claims path tree? =
      match scopeIdChosenBy? s path tree? with
      | none => (unclaimedOutcome s path tree?, claims)
      | some id =>
        match claims.get? id with
        | none => (unclaimedOutcome s path tree?, claims.insert id path)
        | some first =>
          if first = path then (unclaimedOutcome s path tree?, claims)
          else (.error (.scopeCollision id first path), claims) := by
  unfold scopeIdChosenBy? unclaimedOutcome buildComponent
  cases treeOf s path tree? with
  | error e => rfl
  | ok tree =>
    simp only [Except.toOption, Option.bind_some]
    unfold claimScope
    cases styles : tree.children.filter isScopedStyle with
    | nil => rfl
    | cons style others =>
      dsimp only
      cases chosenScopeId? (style :: others) with
      | none => rfl
      | some id =>
        dsimp only
        cases claims.get? id with
        | none => rfl
        | some first => by_cases same : first = path <;> simp [same]

/-- A template that is missing is a file that cannot be read. -/
theorem treeOf_eq_error {e : CompileError} (missing : treeOf s path tree? = .error e) :
    ∃ reason, e = .unreadable path reason := by
  unfold treeOf Store.load at missing
  split at missing
  · exact nomatch missing
  · split at missing <;> split at missing <;> cases missing <;> exact ⟨_, rfl⟩

theorem setupOf_eq_error {tree : Node} {e : CompileError}
    (failed : setupOf s tree path = .error e) :
    ∃ source cause, e = .evaluation "setup script" source path cause := by
  unfold setupOf at failed
  split at failed
  · exact nomatch failed
  · dsimp only at failed
    cases ran : Script.evaluateBindings _ _ with
    | ok bindings =>
      rw [ran] at failed
      exact nomatch failed
    | error cause =>
      rw [ran] at failed
      exact ⟨_, cause, (Except.error.inj failed).symm⟩

theorem exists_claimScope_nil (tree : Node) (path : String) :
    ∃ r, claimScope [] tree path = .ok r := by
  unfold claimScope
  split
  · exact ⟨_, rfl⟩
  · split <;> exact ⟨_, rfl⟩

/-- Without claims a build fails for want of a template, or with its setup script. -/
theorem of_unclaimedOutcome {e : CompileError} (failed : unclaimedOutcome s path tree? = .error e) :
    treeOf s path tree? = .error e ∨
      ∃ tree, treeOf s path tree? = .ok tree ∧ setupOf s tree path = .error e := by
  unfold unclaimedOutcome buildComponent at failed
  cases template : treeOf s path tree? with
  | error e' =>
    rw [template] at failed
    obtain rfl : e' = e := Except.error.inj failed
    exact .inl rfl
  | ok tree =>
    obtain ⟨r, claimed⟩ := exists_claimScope_nil tree path
    rw [template] at failed
    dsimp only at failed
    rw [claimed] at failed
    refine .inr ⟨tree, rfl, ?_⟩
    cases ran : setupOf s tree path with
    | ok setup => simp [ran, Except.map] at failed
    | error e' => simpa [ran, Except.map] using failed

/-- Without claims there is nothing to collide with. -/
theorem unclaimedOutcome_ne (s : Sources) (path : String) (tree? : Option Node)
    (id first second : String) :
    unclaimedOutcome s path tree? ≠ .error (.scopeCollision id first second) := by
  intro collides
  obtain missing | ⟨tree, -, failed⟩ := of_unclaimedOutcome collides
  · obtain ⟨reason, same⟩ := treeOf_eq_error missing
    exact nomatch same
  · obtain ⟨source, cause, same⟩ := setupOf_eq_error failed
    exact nomatch same

/-- A build collides with the component that holds the id. -/
theorem of_buildComponent_collides {claims : Entries String} {id first second : String}
    (collides : (buildComponent s claims path tree?).1 = .error (.scopeCollision id first second)) :
    claims.get? id = some first := by
  have new := unclaimedOutcome_ne s path tree? id first second
  rw [buildComponent_eq] at collides
  split at collides
  · exact absurd collides new
  · split at collides
    · exact absurd collides new
    · rename_i held
      split at collides
      · exact absurd collides new
      · cases collides
        exact held

namespace Registry

variable {r r' : Registry} {ids : Set String} {other tag id : String} {q : Question}

/-- The build of a path claims an id even if it fails: nothing is known of the path, and its
template chooses the id, which nobody holds. -/
def LeavesClaim (s : Sources) (r : Registry) (path : String) (tree? : Option Node) (id : String) :
    Prop :=
  r.outcomes.get? path = none ∧ scopeIdChosenBy? s path tree? = some id ∧ r.claims.get? id = none

theorem register_eq (r : Registry) (s : Sources) (map : Entries String) :
    r.register s map = (r.nameAll map).precompileAll s (r.unbuilt map) :=
  rfl

theorem precompile_of_some {outcome : Compiled Component} (s : Sources) (tree? : Option Node)
    (known : r.outcomes.get? path = some outcome) : r.precompile s path tree? = (outcome, r) := by
  rw [precompile, known]

theorem precompile_of_none (s : Sources) (tree? : Option Node)
    (unknown : r.outcomes.get? path = none) :
    r.precompile s path tree? =
      let built := buildComponent s r.claims path tree?
      (built.1, { r with outcomes := r.outcomes.insert path built.1, claims := built.2 }) := by
  rw [precompile, unknown]

theorem outcomes_precompile (r : Registry) (s : Sources) (path : String) (tree? : Option Node)
    (other : String) :
    (r.precompile s path tree?).2.outcomes.get? other =
      if path = other then some (r.precompile s path tree?).1 else r.outcomes.get? other := by
  cases known : r.outcomes.get? path with
  | some outcome =>
    rw [precompile_of_some s tree? known]
    split
    · rename_i same
      rw [← same, known]
    · rfl
  | none =>
    rw [precompile_of_none s tree? known]
    exact Entries.get?_insert ..

/-- A build claims an id, if it fails or not, or changes no claim. -/
theorem claims_precompile (r : Registry) (s : Sources) (path : String) (tree? : Option Node) :
    (∃ id, r.LeavesClaim s path tree? id ∧
        (r.precompile s path tree?).2.claims = r.claims.insert id path) ∨
      (∀ id, ¬ r.LeavesClaim s path tree? id) ∧
        (r.precompile s path tree?).2.claims = r.claims := by
  unfold LeavesClaim
  cases known : r.outcomes.get? path with
  | some outcome =>
    rw [precompile_of_some s tree? known]
    exact .inr ⟨fun id left => (nomatch left.1), rfl⟩
  | none =>
    rw [precompile_of_none s tree? known, buildComponent_eq]
    cases scopeIdChosenBy? s path tree? with
    | none => exact .inr ⟨fun id left => (nomatch left.2.1), rfl⟩
    | some id =>
      dsimp only
      cases held : r.claims.get? id with
      | none => exact .inl ⟨id, ⟨rfl, rfl, held⟩, rfl⟩
      | some first =>
        refine .inr ⟨fun id' left => ?_, by dsimp only; split <;> rfl⟩
        obtain ⟨-, same, free⟩ := left
        obtain rfl := Option.some.inj same
        exact nomatch held.symm.trans free

/-! ### What every request keeps -/

/-- What one build keeps, builds in order keep. -/
theorem precompileAll_keeps {P : Registry → Prop}
    (build : ∀ r path tree?, P r → P (r.precompile s path tree?).2) (h : P r)
    (paths : List String) : P (r.precompileAll s paths).2 := by
  induction paths generalizing r with
  | nil => exact h
  | cons path paths ih =>
    have next := build r path none h
    rw [precompileAll]
    split
    · rename_i found
      rw [found] at next
      exact ih next
    · rename_i found
      rwa [found] at next

/-- What naming and building keep, every request keeps. -/
theorem after_keeps {P : Registry → Prop}
    (build : ∀ r path tree?, P r → P (r.precompile s path tree?).2)
    (name : ∀ r tag path, P r → P (r.nameTag tag path)) (h : P r) (q : Request) :
    P (r.after s q) := by
  cases q with
  | precompile path tree? => exact build r path tree? h
  | register map =>
    refine precompileAll_keeps build ?_ (r.unbuilt map)
    exact List.foldlRecOn (motive := P) map _ h fun r h e _ => name r e.1 e.2 h
  | registerTag tag path => exact build _ path none (name r tag path h)

/-- So does a run of requests. -/
theorem run_keeps {P : Registry → Prop}
    (build : ∀ r path tree?, P r → P (r.precompile s path tree?).2)
    (name : ∀ r tag path, P r → P (r.nameTag tag path)) (h : P r) (requests : List Request) :
    P (r.run s requests) :=
  List.foldlRecOn (motive := P) requests _ h fun _ h q _ => after_keeps build name h q

/-- A claim is never taken back. -/
theorem get?_claims_precompile {holder : String} (s : Sources) (path : String) (tree? : Option Node)
    (held : r.claims.get? id = some holder) :
    (r.precompile s path tree?).2.claims.get? id = some holder := by
  obtain ⟨id', left, claims⟩ | ⟨-, claims⟩ := r.claims_precompile s path tree?
  · have other : id' ≠ id := fun same => nomatch (same ▸ left.2.2).symm.trans held
    rw [claims, Entries.get?_insert, if_neg other, held]
  · rw [claims, held]

theorem get?_claims_precompileAll {holder : String} (s : Sources)
    (held : r.claims.get? id = some holder) (paths : List String) :
    (r.precompileAll s paths).2.claims.get? id = some holder :=
  precompileAll_keeps (P := fun r => r.claims.get? id = some holder)
    (fun _ path tree? held => get?_claims_precompile s path tree? held) held paths

theorem get?_claims_run {holder : String} (s : Sources) (held : r.claims.get? id = some holder)
    (requests : List Request) : (r.run s requests).claims.get? id = some holder :=
  run_keeps (P := fun r => r.claims.get? id = some holder)
    (fun _ path tree? held => get?_claims_precompile s path tree? held) (fun _ _ _ held => held)
    held requests

/-- What ends builds in order is the outcome of one of them. -/
theorem exists_outcome_of_precompileAll {e : CompileError} {paths : List String}
    (failed : (r.precompileAll s paths).1 = .error e) :
    ∃ path, (r.precompileAll s paths).2.outcomes.get? path = some (.error e) := by
  induction paths generalizing r with
  | nil => exact nomatch failed
  | cons path paths ih =>
    have built := r.outcomes_precompile s path none path
    rw [precompileAll] at failed ⊢
    cases found : r.precompile s path none with
    | mk outcome next =>
      rw [found] at failed built
      cases outcome with
      | ok d => exact ih failed
      | error e' =>
        obtain rfl : e' = e := Except.error.inj failed
        exact ⟨path, built.trans (if_pos rfl)⟩

/-- Each collision that is remembered is with the component that holds the id. -/
def CollisionsHeld (r : Registry) : Prop :=
  ∀ path id first second,
    r.outcomes.get? path = some (.error (.scopeCollision id first second)) →
      r.claims.get? id = some first

namespace CollisionsHeld

theorem empty : CollisionsHeld {} := fun _ _ _ _ collided => by simp at collided

theorem precompile (h : r.CollisionsHeld) (s : Sources) (path : String) (tree? : Option Node) :
    (r.precompile s path tree?).2.CollisionsHeld := by
  intro other id first second collided
  rw [outcomes_precompile] at collided
  split at collided
  · cases known : r.outcomes.get? path with
    | some outcome =>
      rw [precompile_of_some s tree? known] at collided ⊢
      exact h path id first second (known.trans collided)
    | none =>
      refine get?_claims_precompile s path tree? ?_
      rw [precompile_of_none s tree? known] at collided
      exact of_buildComponent_collides (Option.some.inj collided)
  · exact get?_claims_precompile s path tree? (h other id first second collided)

theorem nameTag (h : r.CollisionsHeld) (tag path : String) : (r.nameTag tag path).CollisionsHeld :=
  h

theorem nameAll (h : r.CollisionsHeld) (map : Entries String) : (r.nameAll map).CollisionsHeld :=
  List.foldlRecOn (motive := CollisionsHeld) map _ h fun _ h e _ => h.nameTag e.1 e.2

/-- It holds through all the history of a registry. -/
theorem run (h : r.CollisionsHeld) (s : Sources) (requests : List Request) :
    (r.run s requests).CollisionsHeld :=
  run_keeps (P := CollisionsHeld) (fun _ path tree? h => h.precompile s path tree?)
    (fun _ tag path h => h.nameTag tag path) h requests

end CollisionsHeld

/-! ### A registry in which a build has failed -/

/-- A registry beside one in which the build of a path has failed and left claims to some ids. The
path is the only one whose outcome may differ, and it has no component in either. -/
structure Disturbed (path : String) (ids : Set String) (disturbed r : Registry) : Prop where
  tags_eq : disturbed.tags = r.tags
  outcomes_eq : ∀ other, path ≠ other → disturbed.outcomes.get? other = r.outcomes.get? other
  unbuilt : disturbed.hasComponent path = false ∧ r.hasComponent path = false
  left : ∀ id ∈ ids, disturbed.claims.get? id = some path ∧ r.claims.get? id = none
  kept : ∀ id ∉ ids, disturbed.claims.get? id = r.claims.get? id

theorem hasComponent_congr (same : r'.outcomes.get? path = r.outcomes.get? path) :
    r'.hasComponent path = r.hasComponent path := by
  rw [hasComponent, hasComponent, same]

theorem getComponent_congr (same : r'.outcomes.get? path = r.outcomes.get? path) :
    r'.getComponent path = r.getComponent path := by
  rw [getComponent, getComponent, same]

theorem getComponent_of_unbuilt (unbuilt : r.hasComponent path = false) :
    r.getComponent path = .error (.unregistered path) := by
  unfold getComponent
  split
  · rename_i d known
    exact absurd (hasComponent_iff.mpr ⟨d, known⟩) (Bool.eq_false_iff.mp unbuilt)
  · rfl

namespace Disturbed

/-- What is known of a component is the same in both. -/
theorem hasComponent_eq (h : Disturbed path ids r' r) (other : String) :
    r'.hasComponent other = r.hasComponent other := by
  by_cases here : path = other
  · rw [← here, h.unbuilt.1, h.unbuilt.2]
  · exact hasComponent_congr (h.outcomes_eq other here)

theorem getComponent_eq (h : Disturbed path ids r' r) (other : String) :
    r'.getComponent other = r.getComponent other := by
  by_cases here : path = other
  · rw [← here, getComponent_of_unbuilt h.unbuilt.1, getComponent_of_unbuilt h.unbuilt.2]
  · exact getComponent_congr (h.outcomes_eq other here)

theorem pathForTag?_eq (h : Disturbed path ids r' r) (tag : String) :
    r'.pathForTag? tag = r.pathForTag? tag := by
  rw [pathForTag?, pathForTag?, h.tags_eq]

theorem resolveTag_eq (h : Disturbed path ids r' r) (tag : String) :
    r'.resolveTag tag = r.resolveTag tag := by
  rw [resolveTag, resolveTag, h.pathForTag?_eq]
  simp only [h.getComponent_eq]

theorem nameTag (h : Disturbed path ids r' r) (tag other : String) :
    Disturbed path ids (r'.nameTag tag other) (r.nameTag tag other) where
  tags_eq := congrArg (Entries.insert (asciiLower tag) other) h.tags_eq
  outcomes_eq := h.outcomes_eq
  unbuilt := h.unbuilt
  left := h.left
  kept := h.kept

theorem nameAll (h : Disturbed path ids r' r) (map : Entries String) :
    Disturbed path ids (r'.nameAll map) (r.nameAll map) := by
  induction map generalizing r' r with
  | nil => exact h
  | cons e map ih => exact ih (h.nameTag e.1 e.2)

/-- Both registries know the same new outcome of another path. -/
theorem withOutcome (h : Disturbed path ids r' r) (apart : path ≠ other)
    (outcome : Compiled Component) {claims' claims : Entries String}
    (left : ∀ id ∈ ids, claims'.get? id = some path ∧ claims.get? id = none)
    (kept : ∀ id ∉ ids, claims'.get? id = claims.get? id) :
    Disturbed path ids
      { r' with outcomes := r'.outcomes.insert other outcome, claims := claims' }
      { r with outcomes := r.outcomes.insert other outcome, claims := claims } where
  tags_eq := h.tags_eq
  outcomes_eq another away := by
    rw [Entries.get?_insert, Entries.get?_insert, h.outcomes_eq another away]
  unbuilt := by
    have same (r : Registry) (claims : Entries String) :
        Registry.hasComponent
          { r with outcomes := r.outcomes.insert other outcome, claims := claims } path =
            r.hasComponent path :=
      hasComponent_congr ((Entries.get?_insert ..).trans (if_neg (Ne.symm apart)))
    exact ⟨(same r' claims').trans h.unbuilt.1, (same r claims).trans h.unbuilt.2⟩
  left := left
  kept := kept

/-- A build of another path is answered alike, or it meets an id that was left behind, and claims it
where it is free. -/
theorem precompile (h : Disturbed path ids r' r) (s : Sources) (apart : path ≠ other)
    (tree? : Option Node) :
    ((r'.precompile s other tree?).1 = (r.precompile s other tree?).1 ∧
        Disturbed path ids (r'.precompile s other tree?).2 (r.precompile s other tree?).2) ∨
      ∃ id ∈ ids, (r'.precompile s other tree?).1 = .error (.scopeCollision id path other) ∧
        (r.precompile s other tree?).2.claims.get? id = some other := by
  cases known : r.outcomes.get? other with
  | some outcome =>
    have known' := (h.outcomes_eq other apart).trans known
    rw [precompile_of_some s tree? known, precompile_of_some s tree? known']
    exact .inl ⟨rfl, h⟩
  | none =>
    have known' := (h.outcomes_eq other apart).trans known
    rw [precompile_of_none s tree? known, precompile_of_none s tree? known', buildComponent_eq,
      buildComponent_eq]
    cases scopeIdChosenBy? s other tree? with
    | none => exact .inl ⟨rfl, h.withOutcome apart _ h.left h.kept⟩
    | some id =>
      dsimp only
      by_cases behind : id ∈ ids
      · obtain ⟨left, free⟩ := h.left id behind
        rw [left, free]
        dsimp only
        rw [if_neg apart]
        exact .inr ⟨id, behind, rfl, (Entries.get?_insert ..).trans (if_pos rfl)⟩
      · rw [h.kept id behind]
        refine .inl ?_
        cases r.claims.get? id with
        | none =>
          refine ⟨rfl, h.withOutcome apart _ (fun id' left => ?_) fun id' away => ?_⟩
          · have away : id ≠ id' := fun same => behind (same ▸ left)
            rw [Entries.get?_insert, Entries.get?_insert, if_neg away, if_neg away]
            exact h.left id' left
          · rw [Entries.get?_insert, Entries.get?_insert, h.kept id' away]
        | some first =>
          dsimp only
          split
          · exact ⟨rfl, h.withOutcome apart _ h.left h.kept⟩
          · exact ⟨rfl, h.withOutcome apart _ h.left h.kept⟩

/-- So are builds of other paths in order, up to the first that fails. -/
theorem precompileAll (h : Disturbed path ids r' r) (s : Sources) {paths : List String}
    (apart : path ∉ paths) :
    ((r'.precompileAll s paths).1 = (r.precompileAll s paths).1 ∧
        Disturbed path ids (r'.precompileAll s paths).2 (r.precompileAll s paths).2) ∨
      ∃ id ∈ ids, ∃ other, path ≠ other ∧
        (r'.precompileAll s paths).1 = .error (.scopeCollision id path other) ∧
        (r.precompileAll s paths).2.claims.get? id = some other := by
  induction paths generalizing r' r with
  | nil => exact .inl ⟨rfl, h⟩
  | cons other paths ih =>
    obtain ⟨away, others⟩ := not_or.mp (mt List.mem_cons.mpr apart)
    have first := h.precompile s away none
    rw [Registry.precompileAll, Registry.precompileAll]
    cases found : r.precompile s other none with
    | mk outcome next =>
      cases found' : r'.precompile s other none with
      | mk outcome' next' =>
        rw [found, found'] at first
        obtain ⟨rfl, still⟩ | ⟨id, behind, rfl, claimed⟩ := first
        · cases outcome' with
          | ok d => exact ih still others
          | error e => exact .inl ⟨rfl, still⟩
        · -- The other registry goes on, but the claim stays.
          refine .inr ⟨id, behind, other, away, rfl, ?_⟩
          cases outcome with
          | ok d => exact get?_claims_precompileAll s claimed paths
          | error e => exact claimed

end Disturbed

/-! ### Answers -/

/-- What a registry answers to a request. -/
def answerTo (s : Sources) (r : Registry) : Request → Answer
  | .precompile path tree? => .component (r.precompile s path tree?).1
  | .register map => .registered (r.register s map).1
  | .registerTag tag path => .component (r.registerTag s tag path).1

/-- What a registry answers to a question. -/
def answer (s : Sources) (r : Registry) : Question → Answer
  | .request q => r.answerTo s q
  | .hasComponent path => .known (r.hasComponent path)
  | .getComponent path => .component (r.getComponent path)
  | .pathForTag tag => .path (r.pathForTag? tag)
  | .resolveTag tag => .resolved (r.resolveTag tag)
  | .tagTable => .tags r.tags

/-- What a registry answers to questions one after another. -/
def answers (s : Sources) (r : Registry) : List Question → List Answer
  | [] => []
  | q :: questions => r.answer s q :: answers s (r.run s q.request?.toList) questions

/-- In registries that remember collisions with holders only, a collision with one who does not hold
the id is no outcome. -/
theorem CollisionsHeld.outcome_ne (h : r.CollisionsHeld) {other' : String}
    (claimed : r.claims.get? id = some other) (apart : path ≠ other) {outcome : Compiled Component}
    (known : r.outcomes.get? other' = some outcome) (second : String) :
    outcome ≠ .error (.scopeCollision id path second) := by
  rintro rfl
  exact apart (Option.some.inj ((h other' id path second known).symm.trans claimed))

namespace Disturbed

/-- The outcome of another path is the same, or it is another one and an id that was left behind is
claimed. -/
theorem outcome (h : Disturbed path ids r' r) (held : r.CollisionsHeld) (s : Sources)
    (away : path ≠ other) (tree? : Option Node) :
    ((r'.precompile s other tree?).1 = (r.precompile s other tree?).1 ∧
        Disturbed path ids (r'.precompile s other tree?).2 (r.precompile s other tree?).2) ∨
      (r'.precompile s other tree?).1 ≠ (r.precompile s other tree?).1 ∧
        ∃ id ∈ ids, ((r.precompile s other tree?).2.claims.get? id).isSome := by
  refine (h.precompile s away tree?).imp_right ?_
  rintro ⟨id, behind, collides, claimed⟩
  refine ⟨fun same => ?_, id, behind, Option.isSome_of_eq_some claimed⟩
  have known := (r.outcomes_precompile s other tree? other).trans (if_pos rfl)
  exact (held.precompile s other tree?).outcome_ne claimed away known other
    (same.symm.trans collides)

/-- So is what comes of builds in order. -/
theorem outcomeOfAll (h : Disturbed path ids r' r) (held : r.CollisionsHeld) (s : Sources)
    {paths : List String} (apart : path ∉ paths) :
    ((r'.precompileAll s paths).1 = (r.precompileAll s paths).1 ∧
        Disturbed path ids (r'.precompileAll s paths).2 (r.precompileAll s paths).2) ∨
      (r'.precompileAll s paths).1 ≠ (r.precompileAll s paths).1 ∧
        ∃ id ∈ ids, ((r.precompileAll s paths).2.claims.get? id).isSome := by
  refine (h.precompileAll s apart).imp_right ?_
  rintro ⟨id, behind, other, away, collides, claimed⟩
  refine ⟨fun same => ?_, id, behind, Option.isSome_of_eq_some claimed⟩
  obtain ⟨failing, known⟩ := exists_outcome_of_precompileAll (same.symm.trans collides)
  have still : (r.precompileAll s paths).2.CollisionsHeld :=
    precompileAll_keeps (P := CollisionsHeld) (fun _ path tree? h => h.precompile s path tree?) held
      paths
  exact still.outcome_ne claimed away known other rfl

theorem unbuilt_eq (h : Disturbed path ids r' r) (map : Entries String) :
    r'.unbuilt map = r.unbuilt map := by
  unfold Registry.unbuilt
  simp only [h.hasComponent_eq]

/-- A request that does not build the path is answered alike, or it is answered otherwise and claims
an id that was left behind. -/
theorem answerTo (h : Disturbed path ids r' r) (held : r.CollisionsHeld) (s : Sources) {q : Request}
    (apart : path ∉ q.paths) :
    (r'.answerTo s q = r.answerTo s q ∧ Disturbed path ids (r'.after s q) (r.after s q)) ∨
      r'.answerTo s q ≠ r.answerTo s q ∧
        ∃ id ∈ ids, ((r.after s q).claims.get? id).isSome := by
  cases q with
  | precompile other tree? =>
    have away : path ≠ other := fun same => apart (List.mem_singleton.mpr same)
    exact (h.outcome held s away tree?).imp (And.imp_left (congrArg Answer.component))
      (And.imp_left (mt Answer.component.inj))
  | register map =>
    have others : path ∉ r.unbuilt map := fun listed =>
      apart (List.mem_eraseDups.mp (List.mem_filter.mp listed).1)
    have all := (h.nameAll map).outcomeOfAll (held.nameAll map) s others
    simp only [Registry.answerTo, after, register_eq, h.unbuilt_eq]
    exact all.imp (And.imp_left (congrArg Answer.registered))
      (And.imp_left (mt Answer.registered.inj))
  | registerTag tag other =>
    have away : path ≠ other := fun same => apart (List.mem_singleton.mpr same)
    exact ((h.nameTag tag other).outcome (held.nameTag tag other) s away none).imp
      (And.imp_left (congrArg Answer.component)) (And.imp_left (mt Answer.component.inj))

/-- A question that does not build the path is answered alike, or it is answered otherwise and
claims an id that was left behind. -/
theorem answer (h : Disturbed path ids r' r) (held : r.CollisionsHeld) (s : Sources) {q : Question}
    (apart : path ∉ q.paths) :
    (r'.answer s q = r.answer s q ∧
        Disturbed path ids (r'.run s q.request?.toList) (r.run s q.request?.toList)) ∨
      r'.answer s q ≠ r.answer s q ∧
        ∃ id ∈ ids, ((r.run s q.request?.toList).claims.get? id).isSome := by
  cases q with
  | request q => exact h.answerTo held s apart
  | hasComponent other => exact .inl ⟨congrArg Answer.known (h.hasComponent_eq other), h⟩
  | getComponent other => exact .inl ⟨congrArg Answer.component (h.getComponent_eq other), h⟩
  | pathForTag tag => exact .inl ⟨congrArg Answer.path (h.pathForTag?_eq tag), h⟩
  | resolveTag tag => exact .inl ⟨congrArg Answer.resolved (h.resolveTag_eq tag), h⟩
  | tagTable => exact .inl ⟨congrArg Answer.tags h.tags_eq, h⟩

/-- Questions that do not build the path are all answered alike exactly if none of them claims an id
that was left behind. -/
theorem answers_eq_iff (h : Disturbed path ids r' r) (held : r.CollisionsHeld) (s : Sources)
    {questions : List Question} (apart : ∀ q ∈ questions, path ∉ q.paths) :
    r'.answers s questions = r.answers s questions ↔
      ∀ id ∈ ids, (r.run s (questions.filterMap Question.request?)).claims.get? id = none := by
  induction questions generalizing r' r with
  | nil => exact iff_of_true rfl fun id behind => (h.left id behind).2
  | cons q questions ih =>
    obtain ⟨first, others⟩ := List.forall_mem_cons.mp apart
    have split : r.run s ((q :: questions).filterMap Question.request?) =
        (r.run s q.request?.toList).run s (questions.filterMap Question.request?) := by
      rw [← run_append]
      cases found : q.request? <;> simp [found]
    rw [answers, answers, split, List.cons.injEq]
    obtain ⟨same, still⟩ | ⟨differs, id, behind, claimed⟩ := h.answer held s first
    · rw [ih still (held.run s _) others]
      exact and_iff_right same
    · obtain ⟨holder, claimed⟩ := Option.isSome_iff_exists.mp claimed
      refine iff_of_false (fun both => differs both.1) fun free => ?_
      exact nomatch (free id behind).symm.trans (get?_claims_run s claimed _)

end Disturbed

/-! ### After a failed build -/

/-- A failed build leaves no component, and no claim but that to the id its template chose. -/
theorem disturbed_of_failed {e : CompileError} (failed : (r.precompile s path tree?).1 = .error e) :
    Disturbed path {id | r.LeavesClaim s path tree? id} (r.precompile s path tree?).2 r where
  tags_eq := r.tags_precompile s path tree?
  outcomes_eq other apart := (r.outcomes_precompile s path tree? other).trans (if_neg apart)
  unbuilt := by
    have known := (r.outcomes_precompile s path tree? path).trans (if_pos rfl)
    refine ⟨by rw [hasComponent, known, failed], ?_⟩
    cases before : r.outcomes.get? path with
    | none => rw [hasComponent, before]
    | some outcome =>
      rw [precompile_of_some s tree? before] at failed
      obtain rfl : outcome = .error e := failed
      rw [hasComponent, before]
  left id behind := by
    refine ⟨?_, behind.2.2⟩
    obtain ⟨id', behind', claims⟩ | ⟨none, -⟩ := r.claims_precompile s path tree?
    · obtain rfl : id' = id := Option.some.inj (behind'.2.1.symm.trans behind.2.1)
      rw [claims, Entries.get?_insert, if_pos rfl]
    · exact absurd behind (none id)
  kept id away := by
    obtain ⟨id', behind', claims⟩ | ⟨-, claims⟩ := r.claims_precompile s path tree?
    · have other : id' ≠ id := fun same => away (same ▸ behind')
      rw [claims, Entries.get?_insert, if_neg other]
    · rw [claims]

/-- Where a claim is left behind, it was the setup script that failed. -/
theorem LeavesClaim.setup_failed (h : r.LeavesClaim s path tree? id) {e : CompileError}
    (failed : (r.precompile s path tree?).1 = .error e) :
    ∃ source cause, e = .evaluation "setup script" source path cause := by
  obtain ⟨unknown, chosen, free⟩ := h
  rw [precompile_of_none s tree? unknown, buildComponent_eq, chosen] at failed
  dsimp only at failed
  rw [free] at failed
  obtain missing | ⟨tree, -, failed⟩ := of_unclaimedOutcome failed
  · -- Without a template nothing is chosen.
    rw [scopeIdChosenBy?, missing] at chosen
    exact nomatch chosen
  · exact setupOf_eq_error failed

/-- What is answered after a build that failed, in any registry. Questions that do not build the
path again, looking up included, have the answers that they have without the failed build, except if
one of them builds a component that claims a scope id which the failed build has left behind. It
leaves one behind exactly if it is the first build of its path and the template can be had and
chooses an id that nobody holds; and then it was the setup script that failed. -/
theorem answers_after_failure_iff (s : Sources) (earlier : List Request) (path : String)
    (tree? : Option Node) {e : CompileError} {questions : List Question}
    (failed : ((run s {} earlier).precompile s path tree?).1 = .error e)
    (apart : ∀ q ∈ questions, path ∉ q.paths) :
    let r := run s {} earlier
    let disturbed := (r.precompile s path tree?).2
    (disturbed.answers s questions = r.answers s questions ↔
        ∀ id, r.LeavesClaim s path tree? id →
          (r.run s (questions.filterMap Question.request?)).claims.get? id = none) ∧
      (∀ id, r.LeavesClaim s path tree? id ↔ disturbed.claims.get? id ≠ r.claims.get? id) ∧
      ∀ id, r.LeavesClaim s path tree? id →
        ∃ source cause, e = .evaluation "setup script" source path cause := by
  intro r disturbed
  have h : Disturbed path {id | r.LeavesClaim s path tree? id} disturbed r :=
    disturbed_of_failed failed
  refine ⟨h.answers_eq_iff (CollisionsHeld.empty.run s earlier) s apart,
    fun id => ⟨fun behind => ?_, fun differs => ?_⟩, fun id behind => behind.setup_failed failed⟩
  · obtain ⟨left, free⟩ := h.left id behind
    rw [left, free]
    exact Option.some_ne_none path
  · by_contra away
    exact differs (h.kept id away)

/-! ### Two components that choose one id -/

/-- Files of two components that choose the same scope id, the first with a setup script that fails,
and of one that chooses another. -/
def badges : Sources where
  store := .table [
    ("a.webc", "<style webc:scoped=\"badge\"></style><script webc:setup>nope()</script>"),
    ("b.webc", "<style webc:scoped=\"badge\"></style>"),
    ("c.webc", "<style webc:scoped=\"card\"></style>")]
  data := .ofGlobals [] []

/-- Why the first component cannot be built. -/
def badgeFailure : CompileError :=
  .evaluation "setup script" "nope()" "a.webc" (.notDefined "nope")

/-- After the first component has failed, the third can be built and looked up as ever, and so can
the tag of the first. -/
theorem answers_after_failure_iff_badges :
    let earlier := [Request.registerTag "x-card" "c.webc"]
    let r := run badges {} earlier
    let questions := [Question.request (.precompile "c.webc" none),
      .request (.register [("x-Badge", "c.webc"), ("x-none", "d.webc")]), .resolveTag "x-badge",
      .getComponent "a.webc"]
    (r.precompile badges "a.webc" none).1 = .error badgeFailure ∧
      (∀ q ∈ questions, "a.webc" ∉ q.paths) ∧ r.LeavesClaim badges "a.webc" none "badge" ∧
      (r.precompile badges "a.webc" none).2.answers badges questions =
        r.answers badges questions := by
  intro earlier r questions
  have failed : (r.precompile badges "a.webc" none).1 = .error badgeFailure :=
    Compiled.eq_error_of_error? (by decide +kernel)
  have apart : ∀ q ∈ questions, "a.webc" ∉ q.paths := by decide
  have chosen : scopeIdChosenBy? badges "a.webc" none = some "badge" := by decide +kernel
  have behind : r.LeavesClaim badges "a.webc" none "badge" :=
    ⟨Option.isNone_iff_eq_none.mp (by decide +kernel), chosen, by decide +kernel⟩
  refine ⟨failed, apart, behind, ?_⟩
  have answers := (answers_after_failure_iff badges earlier "a.webc" none failed apart).1
  refine answers.mpr fun id left => ?_
  obtain rfl : "badge" = id := Option.some.inj (chosen.symm.trans left.2.1)
  decide +kernel

/-- A component that could not be built can keep another from being built, which has its scope id
without the failed build. -/
theorem exists_answers_ne_after_failure :
    let r : Registry := {}
    let question := Question.request (.precompile "b.webc" none)
    (r.precompile badges "a.webc" none).1 = .error badgeFailure ∧ "a.webc" ∉ question.paths ∧
      (r.precompile badges "a.webc" none).2.answers badges [question] =
        [.component (.error (.scopeCollision "badge" "a.webc" "b.webc"))] ∧
      ∃ d, r.answers badges [question] = [.component (.ok d)] ∧ d.scopeId = some "badge" := by
  intro r question
  have collides : ((r.precompile badges "a.webc" none).2.precompile badges "b.webc" none).1 =
      .error (.scopeCollision "badge" "a.webc" "b.webc") :=
    Compiled.eq_error_of_error? (by decide +kernel)
  have evaluated : ((r.precompile badges "b.webc" none).1.toOption.map Component.scopeId) =
      some (some "badge") := by
    decide +kernel
  obtain ⟨d, built, scopeId⟩ := Option.map_eq_some_iff.mp evaluated
  exact ⟨Compiled.eq_error_of_error? (by decide +kernel), by decide,
    congrArg (fun outcome => [Answer.component outcome]) collides, d,
    congrArg (fun outcome => [Answer.component outcome]) (Compiled.eq_ok_of_toOption built),
    scopeId⟩

end Registry

end ComponentMarkup
