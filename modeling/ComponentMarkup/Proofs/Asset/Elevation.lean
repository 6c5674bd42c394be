import ComponentMarkup.Proofs.Asset.Placement
import ComponentMarkup.Proofs.Usage.Order
import ComponentMarkup.Proofs.Usage.Recording

/-!
# Whom an elevated text serves

A text that is asked for in a second bucket is elevated to the bucket of a component around both
owners, so that no owner is left without it. Fragments come in the order of their owners, those that
use others first. This makes the bucket of a component final by the time it is looked up: whatever
uses an owner has had its turn before (`get?_homes_run_eq_home`).

One step breaks the chain. A fragment whose text already stands in its bucket changes nothing, not
even the component that the text stands there for. If that component does not use the owner of the
fragment, a later elevation around it can leave the fragment behind (`LeftBehind`). This is the only
way: every other fragment is covered in the end.

## Main definitions

* `home` — the bucket of a component
* `Covers` — whether a bucket reaches a fragment
* `PassedOver`, `LeftBehind` — the fragments that an elevation misses

## Main results

* `arranged_pairwise` — fragments of what uses come before those of what is used
* `get?_homes_run_eq_home` — the bucket of a component is known when it is needed
* `placed_turn`, `placed_step`, `placed_later` — where a text stands after a fragment's turn, after
  a later fragment, and in the end
* `aggregate_covers_iff_not_leftBehind` — which fragments are covered
-/

namespace ComponentMarkup.Aggregation

open Relation (TransGen)
open UsageGraph (Acyclic ofUsages)

variable {kind : AssetKind} {fragments before later : List Fragment} {g : UsageGraph}
  {root defaultBucket c o : String} {f : Fragment} {p : Placement}

/-! ### The order of fragments -/

/-- The owners of fragments come before those they use. -/
theorem owners_pairwise (wf : g.WellFormed) (acyclic : Acyclic g.Uses) (own : List Fragment) :
    (owners g own).Pairwise fun x y => ¬ TransGen g.Uses y x := by
  have unknown : ∀ y ∈ (own.map Fragment.owner).eraseDups.filter fun o =>
      !(g.componentsUsed.filter (own.map Fragment.owner).eraseDups.contains).contains o,
      y ∉ g.nodes := by
    intro y hy known
    obtain ⟨owner, new⟩ := List.mem_filter.mp hy
    simp [known, List.mem_eraseDups.mp owner] at new
  unfold owners
  rw [List.pairwise_append]
  -- An owner that the graph does not know uses nothing, so it may come last.
  refine ⟨?_, ?_, ?_⟩
  · exact (UsageGraph.componentsUsed_pairwise wf acyclic).sublist List.filter_sublist
  · exact List.pairwise_of_forall_mem_list fun _ _ y hy path =>
      unknown y hy (wf.mem_of_transGen path).1
  · exact fun _ _ y hy path => unknown y hy (wf.mem_of_transGen path).1

/-- A fragment comes before those of all that its owner uses. -/
theorem arranged_pairwise (wf : g.WellFormed) (acyclic : Acyclic g.Uses) (kind : AssetKind)
    (fragments : List Fragment) :
    (arranged g kind fragments).Pairwise fun x y => ¬ TransGen g.Uses y.owner x.owner := by
  have owner_eq {o : String} {x : Fragment} {own : List Fragment}
      (hx : x ∈ own.filter (·.owner == o)) : x.owner = o := by
    simpa using (List.mem_filter.mp hx).2
  unfold arranged
  rw [List.pairwise_flatMap]
  constructor
  · intro o _
    refine List.pairwise_of_forall_mem_list fun x hx y hy => ?_
    rw [owner_eq hx, owner_eq hy]
    exact acyclic o
  · refine (owners_pairwise wf acyclic _).imp fun {o o'} order x hx y hy => ?_
    rwa [owner_eq hx, owner_eq hy]

/-! ### The buckets of components -/

/-- The bucket of a component: that of its first fragment of a kind, else the default bucket. -/
def home (kind : AssetKind) (fragments : List Fragment) (defaultBucket c : String) : String :=
  ((fragments.find? fun f => f.kind == kind && f.owner == c).map Fragment.bucket).getD defaultBucket

theorem get?_settle (homes : Entries String) (f : Fragment) (c : String) :
    (settle homes f).get? c = (homes.get? c).or (if f.owner = c then some f.bucket else none) := by
  unfold settle Entries.has
  by_cases same : f.owner = c
  · subst same
    cases found : homes.get? f.owner <;> simp [found]
  · split <;> simp [same]

/-- After some fragments, a component has the bucket of the first of them that it owns. -/
theorem get?_homes_run (done : List Fragment) (c : String) :
    (run g root defaultBucket done).homes.get? c =
      (done.find? (·.owner == c)).map Fragment.bucket := by
  induction done using List.reverseRecOn with
  | nil => rfl
  | append_singleton fs f ih =>
    rw [run_concat]
    unfold place
    rw [get?_settle, ih, List.find?_append]
    cases fs.find? (·.owner == c) with
    | some _ => rfl
    | none => by_cases same : f.owner = c <;> simp [same]

/-- Grouping fragments by owner keeps the order of those of one owner. -/
theorem find?_flatMap_owner (os : List String) (own : List Fragment) (c : String) :
    (os.flatMap fun o => own.filter (·.owner == o)).find? (·.owner == c) =
      if c ∈ os then own.find? (·.owner == c) else none := by
  induction os with
  | nil => rfl
  | cons o os ih =>
    rw [List.flatMap_cons, List.find?_append, ih]
    by_cases same : c = o
    · subst same
      have all : (own.filter (·.owner == c)).find? (·.owner == c) = own.find? (·.owner == c) := by
        simp [List.find?_filter, beq_eq_decide]
      rw [all, if_pos List.mem_cons_self]
      split <;> simp
    · have none : (own.filter (·.owner == o)).find? (·.owner == c) = none := by
        rw [List.find?_eq_none]
        intro f hf owns
        obtain rfl : f.owner = o := by simpa using (List.mem_filter.mp hf).2
        exact same (beq_iff_eq.mp owns).symm
      simp [none, same]

theorem find?_arranged (g : UsageGraph) (kind : AssetKind) (fragments : List Fragment)
    (c : String) :
    (arranged g kind fragments).find? (·.owner == c) =
      fragments.find? fun f => f.kind == kind && f.owner == c := by
  have own : fragments.find? (fun f => f.kind == kind && f.owner == c) =
      (fragments.filter (·.kind == kind)).find? (·.owner == c) := by
    simp [List.find?_filter, beq_eq_decide]
  unfold arranged
  rw [own, find?_flatMap_owner]
  split
  · rfl
  · rename_i absent
    rw [eq_comm, List.find?_eq_none]
    intro f hf owns
    exact absent (mem_owners.mpr ⟨f, hf, by simpa using owns⟩)

/-- The bucket of a component is known once a fragment had its turn whose owner it is or uses: its
own fragments come before that one. -/
theorem get?_homes_run_eq_home (wf : g.WellFormed) (acyclic : Acyclic g.Uses)
    (split : arranged g kind fragments = before ++ later) (turn : f ∈ before)
    (uses : g.IsOrUses c f.owner) :
    ((run g root defaultBucket before).homes.get? c).getD defaultBucket =
      home kind fragments defaultBucket c := by
  unfold home
  rw [get?_homes_run, ← find?_arranged g, split, List.find?_append]
  cases found : before.find? (·.owner == c) with
  | some _ => rfl
  | none =>
    have order := arranged_pairwise wf acyclic kind fragments
    rw [split, List.pairwise_append] at order
    have absent : later.find? (·.owner == c) = none := by
      rw [List.find?_eq_none]
      intro x hx owns
      obtain rfl : x.owner = c := by simpa using owns
      -- A fragment of the component that is still to come can only be one of the same owner.
      rcases Relation.reflTransGen_iff_eq_or_transGen.mp uses with same | path
      · exact absurd (List.find?_eq_none.mp found f turn) (by simp [same])
      · exact order.2.2 f turn x hx path
    rw [absent]
    rfl

/-! ### Elevation -/

/-- A text is elevated around both components: what either is or uses, the new component is or
uses, as long as the root does. -/
theorem isOrUses_elevate (wf : g.WellFormed) (reachable : g.IsOrUses root o) {first second : String}
    (served : g.IsOrUses first o ∨ g.IsOrUses second o) (homes : Entries String) :
    g.IsOrUses (elevate g root defaultBucket homes first second).owner o := by
  unfold elevate
  cases found : g.nearestCommonAncestor first second with
  | none => exact reachable
  | some c =>
    obtain ⟨_, toFirst, toSecond⟩ := UsageGraph.nearestCommonAncestor_eq_some wf found
    exact served.elim toFirst.trans toSecond.trans

/-- A text is elevated to the bucket of a component, as it is in the end. -/
theorem bucket_elevate (wf : g.WellFormed) (acyclic : Acyclic g.Uses)
    (split : arranged g kind fragments = before ++ later) (turn : f ∈ before)
    (reachable : g.IsOrUses root f.owner) {x : Fragment} (hx : x ∈ before) (first : String) :
    let target := elevate g root defaultBucket (run g root defaultBucket before).homes first x.owner
    target.bucket = home kind fragments defaultBucket target.owner := by
  unfold elevate
  cases found : g.nearestCommonAncestor first x.owner with
  | none => exact get?_homes_run_eq_home wf acyclic split turn reachable
  | some c =>
    have uses := (UsageGraph.nearestCommonAncestor_eq_some wf found).2.2
    exact get?_homes_run_eq_home wf acyclic split hx uses

/-! ### Where a text stands -/

theorem destination_of_eq (homes : Entries String) (here : p.bucket = f.bucket) :
    destination g root defaultBucket homes f (some p) = p := by
  simp [destination, here]

theorem destination_of_ne (homes : Entries String) (elsewhere : p.bucket ≠ f.bucket) :
    destination g root defaultBucket homes f (some p) =
      elevate g root defaultBucket homes p.owner f.owner := by
  simp [destination, elsewhere]

/-- Placing a fragment brings its text to its destination and leaves the other texts. -/
theorem get?_placed_run_concat (g : UsageGraph) (root defaultBucket : String)
    (done : List Fragment) (f : Fragment) (t : String) :
    (run g root defaultBucket (done ++ [f])).placed.get? t =
      if f.text = t then
        some (destination g root defaultBucket (run g root defaultBucket (done ++ [f])).homes f
          ((run g root defaultBucket done).placed.get? f.text))
      else (run g root defaultBucket done).placed.get? t := by
  rw [run_concat]
  unfold place
  rw [Entries.get?_insert]

/-- A fragment is passed over if its text stands in its bucket already, for a component that neither
is nor uses its owner. -/
def PassedOver (g : UsageGraph) (root defaultBucket : String) (before : List Fragment)
    (f : Fragment) : Prop :=
  ∃ p, (run g root defaultBucket before).placed.get? f.text = some p ∧ p.bucket = f.bucket ∧
    ¬ g.IsOrUses p.owner f.owner

/-- After the turn of a fragment its text stands in its bucket, or in that of the component it
stands there for; and that one is or uses the owner, unless the fragment was passed over. -/
theorem placed_turn (wf : g.WellFormed) (acyclic : Acyclic g.Uses)
    (split : arranged g kind fragments = before ++ f :: later)
    (reachable : g.IsOrUses root f.owner) :
    ∃ q, (run g root defaultBucket (before ++ [f])).placed.get? f.text = some q ∧
      (q.bucket = f.bucket ∨ q.bucket = home kind fragments defaultBucket q.owner) ∧
      (PassedOver g root defaultBucket before f → q.bucket = f.bucket) ∧
      (¬ PassedOver g root defaultBucket before f → g.IsOrUses q.owner f.owner) := by
  rw [get?_placed_run_concat, if_pos rfl]
  refine ⟨_, rfl, ?_⟩
  have split' : arranged g kind fragments = (before ++ [f]) ++ later := by simp [split]
  have turn : f ∈ before ++ [f] := by simp
  cases previous : (run g root defaultBucket before).placed.get? f.text with
  | none =>
    refine ⟨.inl rfl, fun _ => rfl, fun _ => ?_⟩
    exact .refl
  | some p =>
    by_cases here : p.bucket = f.bucket
    · rw [destination_of_eq _ here]
      refine ⟨.inl here, fun _ => here, fun notPassed => ?_⟩
      by_contra missed
      exact notPassed ⟨p, previous, here, missed⟩
    · rw [destination_of_ne _ here]
      refine ⟨.inr (bucket_elevate wf acyclic split' turn reachable turn _), ?_, fun _ => ?_⟩
      · rintro ⟨p', previous', there, _⟩
        obtain rfl : p = p' := Option.some.inj (previous.symm.trans previous')
        exact absurd there here
      · exact isOrUses_elevate wf reachable (.inr .refl) _

/-- A fragment asks for a text elsewhere than in a bucket. -/
def AsksElsewhere (text bucket : String) (x : Fragment) : Prop :=
  x.text = text ∧ x.bucket ≠ bucket

/-- A later fragment leaves the text where it is, unless it asks for it elsewhere. Then the text is
elevated, to the bucket of a component that is or uses the owner if the one before did. -/
theorem placed_step (wf : g.WellFormed) (acyclic : Acyclic g.Uses) {x : Fragment}
    (split : arranged g kind fragments = before ++ x :: later) (turn : f ∈ before)
    (reachable : g.IsOrUses root f.owner)
    (stands : (run g root defaultBucket before).placed.get? f.text = some p) :
    ∃ q, (run g root defaultBucket (before ++ [x])).placed.get? f.text = some q ∧
      (g.IsOrUses p.owner f.owner → g.IsOrUses q.owner f.owner) ∧
      (¬ AsksElsewhere f.text p.bucket x ∧ q = p ∨
        AsksElsewhere f.text p.bucket x ∧
          q.bucket = home kind fragments defaultBucket q.owner) := by
  have split' : arranged g kind fragments = (before ++ [x]) ++ later := by simp [split]
  have next := get?_placed_run_concat g root defaultBucket before x f.text
  by_cases asks : AsksElsewhere f.text p.bucket x
  · obtain ⟨same, elsewhere⟩ := asks
    rw [if_pos same, same, stands, destination_of_ne _ elsewhere.symm] at next
    refine ⟨_, next, ?_, .inr ⟨⟨same, elsewhere⟩, ?_⟩⟩
    · exact fun served => isOrUses_elevate wf reachable (.inl served) _
    · exact bucket_elevate wf acyclic split' (List.mem_append_left _ turn) reachable (by simp) _
  · refine ⟨p, ?_, id, .inl ⟨asks, rfl⟩⟩
    rw [next]
    split
    · rename_i same
      have here : p.bucket = x.bucket := by
        by_contra elsewhere
        exact asks ⟨same, Ne.symm elsewhere⟩
      rw [same, stands, destination_of_eq _ here]
    · exact stands

/-- After its turn a fragment's text stays where it is if no later fragment asks for it elsewhere.
Otherwise it ends up in the bucket of the component that it then stands for. That one is or uses the
owner if the component before did. -/
theorem placed_later (wf : g.WellFormed) (acyclic : Acyclic g.Uses)
    (split : arranged g kind fragments = before ++ later) (turn : f ∈ before)
    (reachable : g.IsOrUses root f.owner)
    (stands : (run g root defaultBucket before).placed.get? f.text = some p) :
    ∃ q, (final kind fragments g root defaultBucket).placed.get? f.text = some q ∧
      (g.IsOrUses p.owner f.owner → g.IsOrUses q.owner f.owner) ∧
      ((∀ x ∈ later, ¬ AsksElsewhere f.text p.bucket x) ∧ q = p ∨
        (∃ x ∈ later, AsksElsewhere f.text p.bucket x) ∧
          q.bucket = home kind fragments defaultBucket q.owner) := by
  induction later generalizing before p with
  | nil =>
    refine ⟨p, ?_, id, .inl ⟨by simp, rfl⟩⟩
    unfold final
    rwa [split, List.append_nil]
  | cons x later ih =>
    obtain ⟨p', stands', serves, step⟩ := placed_step wf acyclic split turn reachable stands
    have split' : arranged g kind fragments = (before ++ [x]) ++ later := by simp [split]
    obtain ⟨q, last, serves', fate⟩ := ih split' (List.mem_append_left _ turn) stands'
    refine ⟨q, last, fun served => serves' (serves served), ?_⟩
    rcases step with ⟨quiet, rfl⟩ | ⟨asks, settled⟩
    · refine fate.imp (And.imp_left ?_) (And.imp_left ?_)
      · exact fun rest => List.forall_mem_cons.mpr ⟨quiet, rest⟩
      · rintro ⟨y, hy, asks⟩
        exact ⟨y, List.mem_cons_of_mem x hy, asks⟩
    · -- Once elevated, the text stands in the bucket of its component ever after.
      refine .inr ⟨⟨x, List.mem_cons_self, asks⟩, ?_⟩
      rcases fate with ⟨_, rfl⟩ | ⟨_, settled'⟩
      · exact settled
      · exact settled'

/-! ### Who is left behind -/

/-- A bucket covers a fragment if it is its own, or that of a component that is or uses its
owner. -/
def Covers (g : UsageGraph) (home : String → String) (bucket : String) (f : Fragment) : Prop :=
  bucket = f.bucket ∨ ∃ c, g.IsOrUses c f.owner ∧ bucket = home c

/-- A fragment is left behind if it is passed over at its turn, its text is asked for elsewhere
later, and the component that the text stands for in the end has a bucket which does not
cover the fragment. -/
def LeftBehind (kind : AssetKind) (fragments : List Fragment) (g : UsageGraph)
    (root defaultBucket : String) (f : Fragment) : Prop :=
  ∃ before later, arranged g kind fragments = before ++ f :: later ∧
    PassedOver g root defaultBucket before f ∧
    (∃ x ∈ later, AsksElsewhere f.text f.bucket x) ∧
    ∀ p, (final kind fragments g root defaultBucket).placed.get? f.text = some p →
      ¬ Covers g (home kind fragments defaultBucket) (home kind fragments defaultBucket p.owner) f

/-- Whether the bucket in which a text stands in the end covers a fragment, seen from the fragment's
turn. -/
theorem covers_iff_of_split (wf : g.WellFormed) (acyclic : Acyclic g.Uses)
    (split : arranged g kind fragments = before ++ f :: later)
    (reachable : g.IsOrUses root f.owner)
    (last : (final kind fragments g root defaultBucket).placed.get? f.text = some p) :
    Covers g (home kind fragments defaultBucket) p.bucket f ↔
      ¬ (PassedOver g root defaultBucket before f ∧
        (∃ x ∈ later, AsksElsewhere f.text f.bucket x) ∧
        ¬ Covers g (home kind fragments defaultBucket)
          (home kind fragments defaultBucket p.owner) f) := by
  have split' : arranged g kind fragments = (before ++ [f]) ++ later := by simp [split]
  obtain ⟨q, stands, bucket, passed, notPassed⟩ := placed_turn wf acyclic split reachable
  obtain ⟨r, last', serves, fate⟩ := placed_later wf acyclic split' (by simp) reachable stands
  obtain rfl : p = r := Option.some.inj (last.symm.trans last')
  by_cases skipped : PassedOver g root defaultBucket before f
  · rw [passed skipped] at fate
    rcases fate with ⟨quiet, rfl⟩ | ⟨asked, settled⟩
    · -- Nobody asks again: the text stays in the bucket of the fragment.
      refine iff_of_true (.inl (passed skipped)) ?_
      rintro ⟨_, ⟨x, hx, asks⟩, _⟩
      exact quiet x hx asks
    · rw [settled]
      simp [skipped, asked]
  · -- The text stands for a component that is or uses the owner, in the end as at its turn.
    refine iff_of_true ?_ fun left => skipped left.1
    have served := serves (notPassed skipped)
    rcases fate with ⟨_, rfl⟩ | ⟨_, settled⟩
    · exact bucket.imp id fun settled => ⟨_, served, settled⟩
    · exact .inr ⟨_, served, settled⟩

end Aggregation

open UsageGraph (Acyclic ofUsages)

open Aggregation in
/-- Which fragments a bundle covers, if usages form no cycle and the root is or uses the owner: all
but those left behind. Its text stands in one bucket, which is its own or that of a component that
is or uses its owner, unless the fragment was passed over for another component and the text was
elevated around that one later, to a bucket of nobody around the fragment. -/
theorem aggregate_covers_iff_not_leftBehind (start : Option String) (log : List Usage)
    (kind : AssetKind) (fragments : List Fragment) (root defaultBucket : String)
    (acyclic : Acyclic (ofUsages start log).Uses) {f : Fragment} (hf : f ∈ fragments)
    (hkind : f.kind = kind) (reachable : (ofUsages start log).IsOrUses root f.owner) :
    let g := ofUsages start log
    ∃ bucket,
      (∀ name, f.text ∈ (aggregate kind fragments g root defaultBucket).textsOf defaultBucket name ↔
        name = bucket) ∧
      (Covers g (home kind fragments defaultBucket) bucket f ↔
        ¬ LeftBehind kind fragments g root defaultBucket f) := by
  intro g
  have wf : g.WellFormed := UsageGraph.wellFormed_ofUsages start log
  obtain ⟨before, later, split⟩ := List.append_of_mem (mem_arranged (g := g) |>.mpr ⟨hf, hkind⟩)
  obtain ⟨p, last⟩ := Option.isSome_iff_exists.mp
    ((isSome_get?_placed_final kind fragments g root defaultBucket f.text).mpr ⟨f, hf, hkind, rfl⟩)
  refine ⟨p.bucket, fun name => ?_, fun covered => ?_, fun kept => ?_⟩
  · rw [mem_textsOf_aggregate, last, Option.map_some, Option.some.injEq, eq_comm]
  · rintro ⟨before, later, split, skipped, asked, missed⟩
    exact (covers_iff_of_split wf acyclic split reachable last).mp covered
      ⟨skipped, asked, missed p last⟩
  · refine (covers_iff_of_split wf acyclic split reachable last).mpr ?_
    rintro ⟨skipped, asked, missed⟩
    refine kept ⟨before, later, split, skipped, asked, fun p' last' => ?_⟩
    rwa [← Option.some.inj (last.symm.trans last')]

/-! ### A fragment left behind -/

namespace Aggregation

/-- A page with two components that share a third; each of the two uses one more. -/
def sharing : UsageGraph :=
  ofUsages (some "page") [⟨"page", "q", .structural⟩, ⟨"page", "p", .structural⟩,
    ⟨"q", "t", .structural⟩, ⟨"q", "s", .structural⟩, ⟨"p", "t", .structural⟩,
    ⟨"p", "f", .structural⟩]

/-- Three of the components below share a style; two of them ask for it in one bucket. -/
def sharingFragments : List Fragment :=
  [⟨.style, "p", "pb", "own"⟩, ⟨.style, "f", "x", "shared"⟩, ⟨.style, "s", "x", "shared"⟩,
    ⟨.style, "t", "y", "shared"⟩]

theorem wellFormed_sharing : sharing.WellFormed := UsageGraph.wellFormed_ofUsages ..

/-- Each usage leads from the page to one of the two, or from these down. -/
theorem acyclic_sharing : Acyclic sharing.Uses := by
  let rank (c : String) : Nat := if c = "page" then 2 else if c = "p" ∨ c = "q" then 1 else 0
  have falls : ∀ u ∈ sharing.edges, rank u.target < rank u.owner := by decide
  exact UsageGraph.acyclic_of_rank rank fun a b ⟨_, use⟩ => falls _ use

theorem isOrUses_sharing {n : String} (hn : n ∈ sharing.nodes) : sharing.IsOrUses "page" n := by
  have found : (sharing.nodes.all fun n => (sharing.ancestors n).contains "page") = true := by cbv
  rw [← UsageGraph.mem_ancestors wellFormed_sharing, ← List.contains_iff_mem]
  exact List.all_eq_true.mp found n hn

end Aggregation

open Aggregation in
/-- The condition of `aggregate_covers_iff_not_leftBehind`, for the style that `s` shares. -/
theorem aggregate_covers_iff_not_leftBehind_sharing :
    Acyclic sharing.Uses ∧ (⟨.style, "s", "x", "shared"⟩ : Fragment) ∈ sharingFragments ∧
      sharing.IsOrUses "page" "s" ∧
      ∃ bucket,
        (∀ name, "shared" ∈ (aggregate .style sharingFragments sharing "page" "default").textsOf
          "default" name ↔ name = bucket) ∧
        (Covers sharing (home .style sharingFragments "default") bucket
            ⟨.style, "s", "x", "shared"⟩ ↔
          ¬ LeftBehind .style sharingFragments sharing "page" "default"
            ⟨.style, "s", "x", "shared"⟩) := by
  have hf : (⟨.style, "s", "x", "shared"⟩ : Fragment) ∈ sharingFragments := by decide
  have reachable : sharing.IsOrUses "page" "s" := isOrUses_sharing (by decide)
  exact ⟨acyclic_sharing, hf, reachable, aggregate_covers_iff_not_leftBehind _ _ .style
    sharingFragments "page" "default" acyclic_sharing hf rfl reachable⟩

open Aggregation in
/-- A fragment can be left behind. The style is placed for `f` first, and `s` is passed over. When
`t` asks for it elsewhere it is elevated around `f` and `t`, to the bucket of `p`; and `s`, which
`p` does not use, is left without it. -/
theorem exists_not_covers_sharing :
    Acyclic sharing.Uses ∧ (∀ n ∈ sharing.nodes, sharing.IsOrUses "page" n) ∧
      (∀ f ∈ sharingFragments, f.kind = .style ∧ f.owner ∈ sharing.nodes) ∧
      ∃ f ∈ sharingFragments, ∃ bucket,
        f.text ∈ (aggregate .style sharingFragments sharing "page" "default").textsOf
          "default" bucket ∧
        ¬ Covers sharing (home .style sharingFragments "default") bucket f := by
  refine ⟨acyclic_sharing, fun n => isOrUses_sharing, by decide, ⟨.style, "s", "x", "shared"⟩,
    by decide, "pb", ?_, ?_⟩
  · have result : aggregate .style sharingFragments sharing "page" "default" =
        ⟨[], [("pb", ["own", "shared"])]⟩ := by cbv
    rw [result]
    decide
  · have around : sharing.ancestors "s" = ["page", "q", "s"] := by cbv
    have apart : ∀ c ∈ ["page", "q", "s"], "pb" ≠ home .style sharingFragments "default" c := by
      decide
    rintro (own | ⟨c, uses, same⟩)
    · exact absurd own (by decide)
    · rw [← UsageGraph.mem_ancestors wellFormed_sharing, around] at uses
      exact apart c uses same

end ComponentMarkup
