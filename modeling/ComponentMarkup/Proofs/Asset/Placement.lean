import ComponentMarkup.Asset.Bundle
import Mathlib.Data.List.Induction
import Mathlib.Data.List.Nodup

/-!
# No text is lost and none is doubled

A bundle holds the texts of its fragments, each of them once, whatever moves they made between
buckets. Two structures must not drift apart on the way: the buckets with their texts, and the table
that says in which bucket a text stands. `Tied` says that they tell the same story; placing a
fragment keeps it, be its text new, at home or on the move.

## Main definitions

* `Aggregation.textsIn` — the texts of a bucket
* `Aggregation.Tied` — buckets and table agree
* `Aggregation.run`, `Aggregation.final` — the state after some fragments, and after all
* `AssetBundle.textsOf` — the texts of a bucket of a bundle

## Main results

* `mem_textsIn_bring` — bringing a text to a bucket changes nothing else
* `Tied.place`, `tied_run` — each step keeps buckets and table together, and so does a run
* `mem_arranged` — arranging fragments by owner keeps them all
* `mem_textsOf_aggregate` — a bucket of the bundle holds what the table places there
* `aggregate_all_nodup_and_mem_iff` — the texts of a bundle
-/

namespace ComponentMarkup.Aggregation

variable {g : UsageGraph} {root defaultBucket bucket name text t : String}
  {buckets : Entries (List String)} {s : State} {f : Fragment}

/-! ### Buckets -/

/-- The texts of a bucket; none if there is no such bucket. -/
def textsIn (name : String) (buckets : Entries (List String)) : List String :=
  (buckets.get? name).getD []

theorem textsIn_insert (texts : List String) :
    textsIn name (buckets.insert bucket texts) =
      if bucket = name then texts else textsIn name buckets := by
  unfold textsIn
  rw [Entries.get?_insert]
  split <;> rfl

theorem textsIn_fill :
    textsIn name (fill bucket text buckets) =
      if bucket = name then
        if text ∈ textsIn name buckets then textsIn name buckets
        else textsIn name buckets ++ [text]
      else textsIn name buckets := by
  unfold fill
  rw [textsIn_insert]
  split
  · rename_i here
    subst here
    change (if (textsIn bucket buckets).contains text then textsIn bucket buckets
      else textsIn bucket buckets ++ [text]) = _
    by_cases old : text ∈ textsIn bucket buckets <;> simp [old]
  · rfl

theorem mem_textsIn_fill :
    t ∈ textsIn name (fill bucket text buckets) ↔
      t ∈ textsIn name buckets ∨ name = bucket ∧ t = text := by
  rw [textsIn_fill]
  split
  · rename_i here
    split
    · rename_i old
      exact ⟨.inl, fun h => h.elim id fun same => same.2 ▸ old⟩
    · simp [here]
  · rename_i elsewhere
    simp [Ne.symm elsewhere]

theorem nodup_textsIn_fill (distinct : ∀ name, (textsIn name buckets).Nodup) (name : String) :
    (textsIn name (fill bucket text buckets)).Nodup := by
  rw [textsIn_fill]
  split
  · split
    · exact distinct name
    · rename_i new
      simpa using (distinct name).concat new
  · exact distinct name

/-- Taking a text from a bucket, seen from the texts. -/
theorem textsIn_clear :
    textsIn name (clear bucket text buckets) =
      if bucket = name then (textsIn name buckets).erase text else textsIn name buckets := by
  unfold clear
  split
  · rename_i texts found
    rw [textsIn_insert]
    split
    · rename_i here
      simp [textsIn, ← here, found]
    · rfl
  · rename_i found
    split
    · rename_i here
      simp [textsIn, ← here, found]
    · rfl

theorem mem_textsIn_clear (distinct : ∀ name, (textsIn name buckets).Nodup) :
    t ∈ textsIn name (clear bucket text buckets) ↔
      t ∈ textsIn name buckets ∧ ¬ (name = bucket ∧ t = text) := by
  rw [textsIn_clear]
  by_cases here : bucket = name
  · subst here
    simp [(distinct bucket).mem_erase_iff, and_comm]
  · simp [here, Ne.symm here]

theorem nodup_textsIn_clear (distinct : ∀ name, (textsIn name buckets).Nodup) (name : String) :
    (textsIn name (clear bucket text buckets)).Nodup := by
  rw [textsIn_clear]
  split
  · exact (distinct name).erase text
  · exact distinct name

theorem nodup_keys_fill (distinct : buckets.keys.Nodup) :
    (fill bucket text buckets).keys.Nodup :=
  Entries.nodup_keys_insert distinct ..

theorem nodup_keys_clear (distinct : buckets.keys.Nodup) :
    (clear bucket text buckets).keys.Nodup := by
  unfold clear
  split
  · exact Entries.nodup_keys_insert distinct ..
  · exact distinct

/-- Names and texts of buckets are distinct. -/
structure Distinct (buckets : Entries (List String)) : Prop where
  keys : buckets.keys.Nodup
  texts : ∀ name, (textsIn name buckets).Nodup

theorem Distinct.fill (d : Distinct buckets) (bucket text : String) :
    Distinct (fill bucket text buckets) :=
  ⟨nodup_keys_fill d.keys, nodup_textsIn_fill d.texts⟩

theorem Distinct.clear (d : Distinct buckets) (bucket text : String) :
    Distinct (clear bucket text buckets) :=
  ⟨nodup_keys_clear d.keys, nodup_textsIn_clear d.texts⟩

theorem Distinct.bring (d : Distinct buckets) (previous : Option Placement) (bucket text : String) :
    Distinct (bring previous bucket text buckets) := by
  unfold Aggregation.bring
  split
  · exact d.fill ..
  · split
    · exact d
    · exact (d.clear ..).fill ..

/-- A text that stands where the table says is brought to a bucket: it stands there and nowhere
else, and the other texts stay. -/
theorem mem_textsIn_bring (d : Distinct buckets) {previous : Option Placement}
    (stands : ∀ name, text ∈ textsIn name buckets ↔ previous.map Placement.bucket = some name) :
    t ∈ textsIn name (bring previous bucket text buckets) ↔
      if t = text then name = bucket else t ∈ textsIn name buckets := by
  cases previous with
  | none =>
    have absent : text ∉ textsIn name buckets := by simp [stands]
    unfold bring
    rw [mem_textsIn_fill]
    by_cases same : t = text
    · subst same
      simp [absent]
    · simp [same]
  | some p =>
    have here : text ∈ textsIn name buckets ↔ p.bucket = name := by simp [stands]
    simp only [bring, beq_iff_eq]
    split
    · -- The text stays at home.
      rename_i home
      by_cases same : t = text
      · subst same
        rw [if_pos rfl, here, home, eq_comm]
      · rw [if_neg same]
    · -- The text moves: it is taken from the one bucket it stood in.
      rw [mem_textsIn_fill, mem_textsIn_clear d.texts]
      by_cases same : t = text
      · subst same
        simp only [here, and_true, if_true]
        exact ⟨fun h => h.elim (fun left => absurd left.1.symm left.2) id, .inr⟩
      · simp [same]

/-! ### Buckets and table -/

/-- Buckets and table agree: a text stands in the bucket that the table names, and in no other. -/
structure Tied (s : State) : Prop extends Distinct s.buckets where
  mem_iff : ∀ name t, t ∈ textsIn name s.buckets ↔
    (s.placed.get? t).map Placement.bucket = some name

/-- Placing a fragment keeps buckets and table together. -/
theorem Tied.place (h : Tied s) (g : UsageGraph) (root defaultBucket : String) (f : Fragment) :
    Tied (place g root defaultBucket s f) where
  toDistinct := h.toDistinct.bring ..
  mem_iff name t := by
    unfold Aggregation.place
    rw [mem_textsIn_bring h.toDistinct fun name => h.mem_iff name f.text, Entries.get?_insert]
    by_cases same : f.text = t
    · simp [same, eq_comm]
    · rw [if_neg (Ne.symm same), if_neg same, h.mem_iff]

/-! ### One fragment after another -/

/-- The state after some fragments. -/
def run (g : UsageGraph) (root defaultBucket : String) (fragments : List Fragment) : State :=
  fragments.foldl (place g root defaultBucket) { buckets := [(defaultBucket, [])] }

@[simp] theorem run_concat (g : UsageGraph) (root defaultBucket : String)
    (fragments : List Fragment) (f : Fragment) :
    run g root defaultBucket (fragments ++ [f]) =
      place g root defaultBucket (run g root defaultBucket fragments) f := by
  simp [run]

theorem tied_run (g : UsageGraph) (root defaultBucket : String) (fragments : List Fragment) :
    Tied (run g root defaultBucket fragments) := by
  induction fragments using List.reverseRecOn with
  | nil =>
    have texts name : textsIn name (run g root defaultBucket []).buckets = [] := by
      unfold run textsIn Entries.get?
      simp only [List.foldl_nil]
      split <;> rfl
    refine ⟨⟨by simp [run], fun name => ?_⟩, fun name t => ?_⟩
    · rw [texts]
      exact List.nodup_nil
    · rw [texts]
      simp [run]
  | append_singleton fs f ih =>
    rw [run_concat]
    exact ih.place g root defaultBucket f

/-- The table knows the texts of the fragments placed so far. -/
theorem isSome_get?_placed_run (fragments : List Fragment) (t : String) :
    ((run g root defaultBucket fragments).placed.get? t).isSome ↔
      ∃ f ∈ fragments, f.text = t := by
  induction fragments using List.reverseRecOn with
  | nil => simp [run]
  | append_singleton fs f ih =>
    rw [run_concat]
    unfold place
    rw [Entries.get?_insert]
    by_cases same : f.text = t
    · simp [same]
    · simpa [same] using ih

end Aggregation

/-! ### Bundles -/

namespace AssetBundle

variable {b : AssetBundle} {defaultBucket t : String}

/-- The texts of a bucket of a bundle. -/
def textsOf (b : AssetBundle) (defaultBucket name : String) : List String :=
  if name = defaultBucket then b.fragments else (b.buckets.get? name).getD []

/-- The named buckets have distinct names, and none has that of the default bucket. -/
structure Named (b : AssetBundle) (defaultBucket : String) : Prop where
  nodup_keys : b.buckets.keys.Nodup
  default_notMem : defaultBucket ∉ b.buckets.keys

theorem textsOf_default (b : AssetBundle) (defaultBucket : String) :
    b.textsOf defaultBucket defaultBucket = b.fragments := if_pos rfl

theorem Named.textsOf_eq (h : b.Named defaultBucket) {e : String × List String}
    (he : e ∈ b.buckets) : e.1 ≠ defaultBucket ∧ b.textsOf defaultBucket e.1 = e.2 := by
  have other : e.1 ≠ defaultBucket := fun same =>
    h.default_notMem (same ▸ List.mem_map.mpr ⟨e, he, rfl⟩)
  refine ⟨other, ?_⟩
  unfold textsOf
  rw [if_neg other, (Entries.mem_iff_get?_eq_some h.nodup_keys).mp he]
  rfl

/-- All texts of a bundle are those of its buckets. -/
theorem Named.mem_all (h : b.Named defaultBucket) :
    t ∈ b.all ↔ ∃ name, t ∈ b.textsOf defaultBucket name := by
  unfold all
  rw [List.mem_append]
  constructor
  · rintro (default | named)
    · exact ⟨defaultBucket, (b.textsOf_default defaultBucket).symm ▸ default⟩
    · obtain ⟨texts, htexts, ht⟩ := List.mem_flatten.mp named
      obtain ⟨e, he, rfl⟩ := List.mem_map.mp htexts
      exact ⟨e.1, (h.textsOf_eq he).2.symm ▸ ht⟩
  · rintro ⟨name, ht⟩
    unfold textsOf at ht
    split at ht
    · exact .inl ht
    · cases found : b.buckets.get? name with
      | none => simp [found] at ht
      | some texts =>
        have he : (name, texts) ∈ b.buckets := (Entries.mem_iff_get?_eq_some h.nodup_keys).mpr found
        refine .inr (List.mem_flatten.mpr ⟨texts, List.mem_map.mpr ⟨_, he, rfl⟩, ?_⟩)
        simpa [found] using ht

/-- If no bucket holds a text twice and no two hold the same, the bundle holds no text twice. -/
theorem Named.nodup_all (h : b.Named defaultBucket)
    (distinct : ∀ name, (b.textsOf defaultBucket name).Nodup)
    (apart : ∀ t name name', t ∈ b.textsOf defaultBucket name →
      t ∈ b.textsOf defaultBucket name' → name = name') : b.all.Nodup := by
  unfold all Entries.values
  rw [List.nodup_append, List.nodup_flatten, List.pairwise_map]
  refine ⟨?_, ⟨?_, ?_⟩, ?_⟩
  · rw [← b.textsOf_default defaultBucket]
    exact distinct defaultBucket
  · intro texts htexts
    obtain ⟨e, he, rfl⟩ := List.mem_map.mp htexts
    exact (h.textsOf_eq he).2 ▸ distinct e.1
  · refine (List.pairwise_map.mp h.nodup_keys).imp_of_mem fun {e e'} he he' names t ht ht' => ?_
    rw [← (h.textsOf_eq he).2] at ht
    rw [← (h.textsOf_eq he').2] at ht'
    exact names (apart t e.1 e'.1 ht ht')
  · intro t ht t' ht' same
    obtain ⟨texts, htexts, ht'⟩ := List.mem_flatten.mp ht'
    obtain ⟨e, he, rfl⟩ := List.mem_map.mp htexts
    obtain ⟨other, eq⟩ := h.textsOf_eq he
    rw [← b.textsOf_default defaultBucket] at ht
    rw [← eq, ← same] at ht'
    exact other (apart t e.1 defaultBucket ht' ht)

end AssetBundle

namespace Aggregation

variable {buckets : Entries (List String)} {defaultBucket : String} {f : Fragment}

theorem named_bundle (distinct : buckets.keys.Nodup) (defaultBucket : String) :
    (bundle defaultBucket buckets).Named defaultBucket where
  nodup_keys := Entries.nodup_keys_filter distinct _
  default_notMem := by
    intro h
    obtain ⟨e, he, same⟩ := List.mem_map.mp h
    have kept := (List.mem_filter.mp he).2
    simp [same] at kept

/-- A bundle shows what is in each bucket; only empty buckets are left out. -/
theorem textsOf_bundle (distinct : buckets.keys.Nodup) (defaultBucket name : String) :
    (bundle defaultBucket buckets).textsOf defaultBucket name = textsIn name buckets := by
  unfold AssetBundle.textsOf
  split
  · rename_i same
    rw [same]
    rfl
  · rename_i other
    unfold bundle textsIn
    rw [Entries.get?_filter distinct]
    cases buckets.get? name with
    | none => rfl
    | some texts => cases texts <;> simp [Option.filter, other]

/-! ### Arranging fragments -/

theorem mem_owners {g : UsageGraph} {fragments : List Fragment} {owner : String} :
    owner ∈ owners g fragments ↔ ∃ f ∈ fragments, f.owner = owner := by
  unfold owners
  simp only [List.mem_append, List.mem_filter, List.mem_eraseDups, List.mem_map,
    Bool.not_eq_true', List.contains_eq_mem, decide_eq_false_iff_not, decide_eq_true_eq]
  constructor
  · rintro (⟨_, h⟩ | ⟨h, _⟩) <;> exact h
  · intro h
    by_cases known : owner ∈ g.componentsUsed
    · exact .inl ⟨known, h⟩
    · exact .inr ⟨h, fun both => known both.1⟩

/-- Arranging the fragments of a kind keeps them all and adds none. -/
theorem mem_arranged {g : UsageGraph} {kind : AssetKind} {fragments : List Fragment} :
    f ∈ arranged g kind fragments ↔ f ∈ fragments ∧ f.kind = kind := by
  unfold arranged
  simp only [List.mem_flatMap, mem_owners, List.mem_filter, beq_iff_eq]
  constructor
  · rintro ⟨_, _, own, _⟩
    exact own
  · exact fun own => ⟨f.owner, ⟨f, own, rfl⟩, own, rfl⟩

/-! ### The bundle of all fragments -/

/-- The state after all fragments of a kind. -/
def final (kind : AssetKind) (fragments : List Fragment) (g : UsageGraph)
    (root defaultBucket : String) : State :=
  run g root defaultBucket (arranged g kind fragments)

section Final

variable (kind : AssetKind) (fragments : List Fragment) (g : UsageGraph)
  (root defaultBucket : String)

theorem tied_final : Tied (final kind fragments g root defaultBucket) := tied_run ..

theorem named_aggregate : (aggregate kind fragments g root defaultBucket).Named defaultBucket :=
  named_bundle (tied_final kind fragments g root defaultBucket).keys defaultBucket

/-- A bucket of the bundle holds the texts that the table places there. -/
theorem mem_textsOf_aggregate (name t : String) :
    t ∈ (aggregate kind fragments g root defaultBucket).textsOf defaultBucket name ↔
      ((final kind fragments g root defaultBucket).placed.get? t).map Placement.bucket =
        some name := by
  have tied := tied_final kind fragments g root defaultBucket
  rw [← tied.mem_iff, ← textsOf_bundle tied.keys]
  rfl

/-- The table places the texts of all fragments. -/
theorem isSome_get?_placed_final (t : String) :
    ((final kind fragments g root defaultBucket).placed.get? t).isSome ↔
      ∃ f ∈ fragments, f.kind = kind ∧ f.text = t := by
  unfold final
  rw [isSome_get?_placed_run]
  simp [mem_arranged, and_assoc]

end Final

end Aggregation

open Aggregation in
/-- A bundle loses no text and doubles none: it holds exactly the texts of the fragments of its
kind, each of them once, for any graph of usages and any names of root and default bucket. -/
theorem aggregate_all_nodup_and_mem_iff (kind : AssetKind) (fragments : List Fragment)
    (g : UsageGraph) (root defaultBucket : String) :
    (∀ t, t ∈ (aggregate kind fragments g root defaultBucket).all ↔
        ∃ f ∈ fragments, f.kind = kind ∧ f.text = t) ∧
      ∀ t ∈ (aggregate kind fragments g root defaultBucket).all,
        (aggregate kind fragments g root defaultBucket).all.count t = 1 := by
  have tied := tied_final kind fragments g root defaultBucket
  have named := named_aggregate kind fragments g root defaultBucket
  have places := mem_textsOf_aggregate kind fragments g root defaultBucket
  refine ⟨fun t => ?_, fun t ht => ?_⟩
  · rw [named.mem_all, ← isSome_get?_placed_final kind fragments g root defaultBucket]
    simp only [places]
    cases (final kind fragments g root defaultBucket).placed.get? t <;> simp
  · have distinct : ∀ name,
        ((aggregate kind fragments g root defaultBucket).textsOf defaultBucket name).Nodup := by
      intro name
      have eq := textsOf_bundle tied.keys defaultBucket name
      exact eq ▸ tied.texts name
    refine List.count_eq_one_of_mem (named.nodup_all distinct fun t name name' h h' => ?_) ht
    -- The table places a text in one bucket only.
    rw [places] at h h'
    exact Option.some.inj (h.symm.trans h')

end ComponentMarkup
