import ComponentMarkup.Proofs.Asset.Placement
import ComponentMarkup.Proofs.Entries
import ComponentMarkup.Proofs.Usage.Order

/-!
# The order of texts in a bundle

Where no text is asked for in two buckets, none is ever moved, and a bundle can be read off its
fragments. Arrange them by owner, owners in the order of use: a bucket lists its texts in the order
in which they are first asked for, and the named buckets come in the order in which they are first
asked for. How the fragments of different owners were interleaved has no part in this, as long as
the graph knows the owners.

## Main definitions

* `byOwner` — fragments arranged by owner
* `textsFor` — the distinct texts asked for in a bucket, the first first
* `HaveHomes` — no text is asked for in two buckets
* `Lists` — the buckets list what some fragments ask for

## Main results

* `arranged_eq_byOwner` — fragments are placed in the order of `byOwner`
* `arranged_congr` — interleaving makes no difference
* `Lists.place`, `lists_run` — one more fragment, and a run
* `textsOf_aggregate_eq_textsFor` — the order of texts and of buckets
-/

namespace ComponentMarkup

namespace Aggregation

variable {g : UsageGraph} {kind : AssetKind} {root defaultBucket name : String}
  {fs fragments fragments' : List Fragment} {f : Fragment} {s : State}

/-! ### Arranging by owner -/

/-- Fragments arranged by owner, those of one owner in their order. The owners that the graph knows
come in the order of use, the others after them in the order of their first fragment. -/
def byOwner (g : UsageGraph) (fragments : List Fragment) : List Fragment :=
  let others := (fragments.map Fragment.owner).eraseDups.filter (· ∉ g.componentsUsed)
  (g.componentsUsed ++ others).flatMap fun o => fragments.filter (·.owner == o)

/-- The fragments of a kind. -/
def ofKind (kind : AssetKind) (fragments : List Fragment) : List Fragment :=
  fragments.filter (·.kind == kind)

/-- Elements that have no image need not be looked at. -/
theorem flatMap_filter_of_eq_nil {α β : Type} {p : α → Bool} {image : α → List β} {xs : List α}
    (empty : ∀ x ∈ xs, p x = false → image x = []) :
    (xs.filter p).flatMap image = xs.flatMap image := by
  induction xs with
  | nil => rfl
  | cons x xs ih =>
    have rest := ih fun y listed => empty y (List.mem_cons_of_mem x listed)
    rw [List.filter_cons]
    split
    · rw [List.flatMap_cons, List.flatMap_cons, rest]
    · rename_i left
      rw [List.flatMap_cons, empty x List.mem_cons_self (by simpa using left), rest,
        List.nil_append]

/-- Who owns no fragment has none in the arrangement. -/
theorem filter_owner_eq_nil {o : String}
    (none : ((fs.map Fragment.owner).eraseDups.contains o) = false) :
    fs.filter (·.owner == o) = [] := by
  simp only [List.contains_eq_mem, List.mem_eraseDups, List.mem_map, decide_eq_false_iff_not,
    not_exists, not_and] at none
  simpa [List.filter_eq_nil_iff] using none

/-- Fragments are placed as arranged by owner. -/
theorem arranged_eq_byOwner (g : UsageGraph) (kind : AssetKind) (fragments : List Fragment) :
    arranged g kind fragments = byOwner g (ofKind kind fragments) := by
  unfold arranged owners byOwner
  rw [← ofKind]
  simp only [List.flatMap_append]
  congr 1
  · exact flatMap_filter_of_eq_nil fun o _ none => filter_owner_eq_nil none
  · congr 1
    refine List.filter_congr fun o owns => ?_
    simp [List.mem_eraseDups.mp owns]

theorem mem_ofKind : f ∈ ofKind kind fragments ↔ f ∈ fragments ∧ f.kind = kind := by
  simp [ofKind]

theorem mem_byOwner : f ∈ byOwner g (ofKind kind fragments) ↔ f ∈ fragments ∧ f.kind = kind := by
  rw [← arranged_eq_byOwner, mem_arranged]

/-- If the graph knows all owners, there are no others. -/
theorem byOwner_of_known (known : ∀ f ∈ fs, f.owner ∈ g.nodes) :
    byOwner g fs = g.componentsUsed.flatMap fun o => fs.filter (·.owner == o) := by
  have none : (fs.map Fragment.owner).eraseDups.filter (· ∉ g.componentsUsed) = [] := by
    simpa [List.filter_eq_nil_iff] using known
  rw [byOwner, none, List.append_nil]

/-- If the graph knows all owners, it does not matter how the fragments of different owners are
interleaved. -/
theorem arranged_congr (known : ∀ f ∈ fragments, f.kind = kind → f.owner ∈ g.nodes)
    (same : ∀ o, (ofKind kind fragments').filter (·.owner == o) =
      (ofKind kind fragments).filter (·.owner == o)) :
    arranged g kind fragments' = arranged g kind fragments := by
  have knows : ∀ f ∈ ofKind kind fragments, f.owner ∈ g.nodes := fun f listed =>
    known f (mem_ofKind.mp listed).1 (mem_ofKind.mp listed).2
  have knows' : ∀ f ∈ ofKind kind fragments', f.owner ∈ g.nodes := fun f listed =>
    have owned : f ∈ (ofKind kind fragments').filter (·.owner == f.owner) :=
      List.mem_filter.mpr ⟨listed, beq_self_eq_true f.owner⟩
    knows f (List.mem_filter.mp (same f.owner ▸ owned)).1
  rw [arranged_eq_byOwner, arranged_eq_byOwner, byOwner_of_known knows, byOwner_of_known knows']
  exact congrArg g.componentsUsed.flatMap (funext same)

/-! ### Texts that do not move -/

/-- The distinct texts asked for in a bucket, in the order in which they are first asked for. -/
def textsFor (name : String) (fs : List Fragment) : List String :=
  ((fs.filter (·.bucket == name)).map Fragment.text).eraseDups

theorem mem_textsFor {t : String} :
    t ∈ textsFor name fs ↔ ∃ f ∈ fs, f.bucket = name ∧ f.text = t := by
  simp [textsFor, and_assoc]

/-- One more fragment: its text comes last in its bucket, unless it is there. -/
theorem textsFor_concat (name : String) (fs : List Fragment) (f : Fragment) :
    textsFor name (fs ++ [f]) =
      if f.bucket = name then
        if f.text ∈ textsFor name fs then textsFor name fs else textsFor name fs ++ [f.text]
      else textsFor name fs := by
  unfold textsFor
  rw [List.filter_append]
  split
  · rename_i here
    rw [List.filter_cons_of_pos (by simpa using here), List.filter_nil, List.map_append,
      List.map_singleton]
    split
    · rename_i old
      exact eraseDups_concat_of_mem (List.mem_eraseDups.mp old)
    · rename_i new
      exact eraseDups_concat_of_notMem (mt List.mem_eraseDups.mpr new)
  · rename_i elsewhere
    rw [List.filter_cons_of_neg (by simpa using elsewhere), List.filter_nil, List.append_nil]

/-- No text is asked for in two buckets. -/
def HaveHomes (fs : List Fragment) : Prop :=
  ∀ f ∈ fs, ∀ f' ∈ fs, f.text = f'.text → f.bucket = f'.bucket

theorem HaveHomes.mono (homes : HaveHomes fs) {some : List Fragment} (sub : some ⊆ fs) :
    HaveHomes some :=
  fun f listed f' listed' => homes f (sub listed) f' (sub listed')

/-- A fragment whose text stands nowhere else only adds its text to its bucket. -/
theorem buckets_place_of_home (g : UsageGraph) (root defaultBucket : String)
    (home : ∀ p, s.placed.get? f.text = some p → p.bucket = f.bucket) :
    (place g root defaultBucket s f).buckets =
      if (s.placed.get? f.text).isSome then s.buckets else fill f.bucket f.text s.buckets := by
  unfold place destination bring
  cases found : s.placed.get? f.text with
  | none => rfl
  | some p => simp [home p found]

/-- The buckets list what is asked for in them, in the order in which it is first asked for; so do
the names of the buckets, the default bucket first. -/
structure Lists (defaultBucket : String) (fs : List Fragment) (s : State) : Prop extends
    Tied s where
  texts_eq : ∀ name, textsIn name s.buckets = textsFor name fs
  keys_eq : s.buckets.keys = (defaultBucket :: fs.map Fragment.bucket).eraseDups

/-- The table places a text where some fragment has asked for it. -/
theorem Lists.exists_of_get?_placed (h : Lists defaultBucket fs s) {t : String} {p : Placement}
    (found : s.placed.get? t = some p) : ∃ f ∈ fs, f.bucket = p.bucket ∧ f.text = t := by
  have stands : t ∈ textsIn p.bucket s.buckets := (h.mem_iff p.bucket t).mpr (by rw [found]; rfl)
  rwa [h.texts_eq, mem_textsFor] at stands

/-- One more fragment is listed, if its text was not asked for in another bucket. -/
theorem Lists.place (h : Lists defaultBucket fs s) (homes : HaveHomes (fs ++ [f]))
    (g : UsageGraph) (root : String) :
    Lists defaultBucket (fs ++ [f]) (place g root defaultBucket s f) := by
  have same : ∀ f' ∈ fs, f'.text = f.text → f'.bucket = f.bucket := fun f' listed =>
    homes f' (List.mem_append_left [f] listed) f (by simp)
  have home : ∀ p, s.placed.get? f.text = some p → p.bucket = f.bucket := by
    intro p found
    obtain ⟨f', listed, here, isText⟩ := h.exists_of_get?_placed found
    exact here.symm.trans (same f' listed isText)
  have buckets := buckets_place_of_home g root defaultBucket home
  have names : (fs ++ [f]).map Fragment.bucket = fs.map Fragment.bucket ++ [f.bucket] := by simp
  refine ⟨h.toTied.place g root defaultBucket f, fun name => ?texts, ?keys⟩
  all_goals rw [buckets]
  case texts =>
    rw [textsFor_concat, ← h.texts_eq]
    split
    · -- The text stands in the bucket of the fragment already.
      rename_i old
      obtain ⟨p, found⟩ := Option.isSome_iff_exists.mp old
      have listed : f.text ∈ textsIn p.bucket s.buckets :=
        (h.mem_iff p.bucket f.text).mpr (by rw [found]; rfl)
      rw [home p found] at listed
      split
      · rename_i here
        rw [← here, if_pos listed]
      · rfl
    · exact textsIn_fill
  case keys =>
    rw [names, ← List.cons_append]
    split
    · rename_i old
      obtain ⟨p, found⟩ := Option.isSome_iff_exists.mp old
      obtain ⟨f', listed, here, -⟩ := h.exists_of_get?_placed found
      have asked : f.bucket ∈ defaultBucket :: fs.map Fragment.bucket :=
        List.mem_cons_of_mem _ (List.mem_map.mpr ⟨f', listed, here.trans (home p found)⟩)
      rw [h.keys_eq, eraseDups_concat_of_mem asked]
    · -- A new text may open its bucket, or find it open.
      unfold fill
      rw [Entries.keys_insert, h.keys_eq]
      split
      · rename_i asked
        rw [eraseDups_concat_of_mem (List.mem_eraseDups.mp asked)]
      · rename_i new
        rw [eraseDups_concat_of_notMem (mt List.mem_eraseDups.mpr new)]

/-- A run over fragments whose texts do not move lists them. -/
theorem lists_run (g : UsageGraph) (root defaultBucket : String) (homes : HaveHomes fs) :
    Lists defaultBucket fs (run g root defaultBucket fs) := by
  induction fs using List.reverseRecOn with
  | nil =>
    refine ⟨tied_run g root defaultBucket [], fun name => ?_, rfl⟩
    unfold textsIn run Entries.get?
    simp only [List.foldl_nil]
    split <;> rfl
  | append_singleton fs f ih =>
    rw [run_concat]
    exact (ih (homes.mono (List.subset_append_left fs [f]))).place homes g root

/-! ### Bundles -/

/-- The names of the buckets of a bundle, in order: those that hold a text. -/
theorem keys_bundle {buckets : Entries (List String)} (distinct : buckets.keys.Nodup)
    (defaultBucket : String) :
    (bundle defaultBucket buckets).buckets.keys =
      buckets.keys.filter fun name => name != defaultBucket && !(textsIn name buckets).isEmpty := by
  refine Entries.keys_filter distinct _ _ fun name texts found => ?_
  rw [textsIn, found]
  rfl

/-- The buckets that are asked for are those that hold a text. -/
theorem filter_isEmpty_textsFor (defaultBucket : String) (fs : List Fragment) :
    ((defaultBucket :: fs.map Fragment.bucket).eraseDups.filter fun name =>
        name != defaultBucket && !(textsFor name fs).isEmpty) =
      (fs.map Fragment.bucket).eraseDups.filter (· ≠ defaultBucket) := by
  rw [filter_eraseDups, filter_eraseDups, List.filter_cons_of_neg (by simp)]
  refine congrArg List.eraseDups (List.filter_congr fun name asked => ?_)
  obtain ⟨f, listed, rfl⟩ := List.mem_map.mp asked
  have holds : f.text ∈ textsFor f.bucket fs := mem_textsFor.mpr ⟨f, listed, rfl, rfl⟩
  have filled : (textsFor f.bucket fs).isEmpty = false :=
    List.isEmpty_eq_false_iff.mpr (List.ne_nil_of_mem holds)
  simp [filled, bne, beq_eq_decide]

end Aggregation

open Aggregation in
/-- The order of a bundle, where no text of its kind is asked for in two buckets. A bucket lists the
distinct texts asked for in it, in the order in which they are first asked for once the fragments
are arranged by owner, and the named buckets come in the order in which they are first asked for.
If the graph knows all owners, the bundle is that of any list in which each owner has the same
fragments in the same order. -/
theorem textsOf_aggregate_eq_textsFor (kind : AssetKind) (fragments : List Fragment)
    (g : UsageGraph) (root defaultBucket : String) (homes : HaveHomes (ofKind kind fragments)) :
    (∀ name, (aggregate kind fragments g root defaultBucket).textsOf defaultBucket name =
        textsFor name (byOwner g (ofKind kind fragments))) ∧
      (aggregate kind fragments g root defaultBucket).buckets.keys =
        ((byOwner g (ofKind kind fragments)).map Fragment.bucket).eraseDups.filter
          (· ≠ defaultBucket) ∧
      ((∀ f ∈ fragments, f.kind = kind → f.owner ∈ g.nodes) → ∀ fragments',
        (∀ o, (ofKind kind fragments').filter (·.owner == o) =
          (ofKind kind fragments).filter (·.owner == o)) →
        aggregate kind fragments' g root defaultBucket =
          aggregate kind fragments g root defaultBucket) := by
  have distinct := (tied_final kind fragments g root defaultBucket).keys
  have arrangedHomes : HaveHomes (byOwner g (ofKind kind fragments)) := homes.mono fun f listed =>
    mem_ofKind.mpr (mem_byOwner.mp listed)
  have lists := lists_run g root defaultBucket arrangedHomes
  rw [← arranged_eq_byOwner] at lists ⊢
  refine ⟨fun name => ?_, ?_, fun known fragments' same => ?_⟩
  · rw [← lists.texts_eq]
    exact textsOf_bundle distinct defaultBucket name
  · have shown : (aggregate kind fragments g root defaultBucket).buckets.keys = _ :=
      keys_bundle distinct defaultBucket
    rw [shown, final, lists.keys_eq]
    simp only [lists.texts_eq]
    exact filter_isEmpty_textsFor ..
  · unfold aggregate
    rw [arranged_congr known same]

namespace Aggregation

/-- A page that uses a layout, which uses a button; and a card that nothing uses. -/
def stacked : UsageGraph := .ofUsages (some "page")
  [⟨"page", "layout", .structural⟩, ⟨"layout", "button", .structural⟩]

/-- Styles of all three, the innermost first. -/
def stackedFragments : List Fragment :=
  [⟨.style, "button", "controls", "b"⟩, ⟨.style, "layout", "default", "l"⟩,
    ⟨.style, "button", "default", "shared"⟩, ⟨.style, "page", "default", "shared"⟩,
    ⟨.script, "page", "code", "p()"⟩]

end Aggregation

open Aggregation in
/-- The order of some styles, and the same for another interleaving of them. -/
theorem textsOf_aggregate_eq_textsFor_stacked :
    HaveHomes (ofKind .style stackedFragments) ∧
      (∀ f ∈ stackedFragments, f.kind = .style → f.owner ∈ stacked.nodes) ∧
      (aggregate .style stackedFragments stacked "page" "default").textsOf "default" "default" =
        ["shared", "l"] ∧
      (aggregate .style stackedFragments stacked "page" "default").buckets.keys = ["controls"] ∧
      aggregate .style (stackedFragments.drop 3 ++ stackedFragments.take 3) stacked "page"
          "default" =
        aggregate .style stackedFragments stacked "page" "default" := by
  have homes : HaveHomes (ofKind .style stackedFragments) := by
    unfold HaveHomes
    decide
  have known : ∀ f ∈ stackedFragments, f.kind = .style → f.owner ∈ stacked.nodes := by decide
  have arrangement : byOwner stacked (ofKind .style stackedFragments) =
      [⟨.style, "page", "default", "shared"⟩, ⟨.style, "layout", "default", "l"⟩,
        ⟨.style, "button", "controls", "b"⟩, ⟨.style, "button", "default", "shared"⟩] := by cbv
  obtain ⟨texts, keys, interleaved⟩ := textsOf_aggregate_eq_textsFor .style stackedFragments
    stacked "page" "default" homes
  refine ⟨homes, known, ?_, ?_, interleaved known _ fun o => ?_⟩
  · rw [texts, arrangement]
    rfl
  · rw [keys, arrangement]
    rfl
  · by_cases page : o = "page"
    · subst page
      decide
    · simp [ofKind, stackedFragments, List.filter_cons, Ne.symm page]

end ComponentMarkup
