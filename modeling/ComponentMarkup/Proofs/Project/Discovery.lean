import ComponentMarkup.Project.Discovery
import ComponentMarkup.Proofs.Project.Walk

/-!
# The files that a pattern finds, in two orders

A pattern finds the same files in a tree of directories and in a table that holds the same files. It
does not find them in the same order, and the order counts: of several files for a tag the last one
is taken, and the tags are listed as their first files are. So the two discoveries agree exactly if
in both orders the same file of each tag comes last, and the first files of the tags come in the
same order. They do if no path that is found undercuts another one.

## Main definitions

* `tagOfFile` — the tag that a file is named after
* `Wins`, `OpensBefore` — what counts of the order of files
* `IsTagged` — the tags of files that are found in an order
* `foundBy` — the files that a pattern finds

## Main results

* `exists_tagsOfPaths` — the tags of a list of files in an order
* `IsTagged.eq_iff` — when two orders give the same tags
* `discover_glob_eq_iff` — when a pattern finds the same in a tree and in a table
* `exists_discover_glob_ne` — files of which a pattern finds another one in a tree than in a table
-/

namespace ComponentMarkup

/-! ### What counts of an order -/

/-- The tag that a file is named after. -/
def tagOfFile (path : String) : String := asciiLower (Path.stem path)

/-- A file comes after all others of its tag. -/
def Wins (r : String → String → Prop) (files : Set String) (p : String) : Prop :=
  p ∈ files ∧ ∀ q ∈ files, tagOfFile q = tagOfFile p → q = p ∨ r q p

/-- Some file of a tag comes before all files of another tag. -/
def OpensBefore (r : String → String → Prop) (files : Set String) (t u : String) : Prop :=
  ∃ p ∈ files, tagOfFile p = t ∧ ∀ q ∈ files, tagOfFile q = u → r p q

/-- The tags of files that are found in an order: each has the file of it that comes last, and they
are listed in the order of their first files. -/
structure IsTagged (r : String → String → Prop) (files : Set String) (tags : Entries String) :
    Prop where
  distinct : tags.keys.Nodup
  mem_keys : ∀ t, t ∈ tags.keys ↔ ∃ p ∈ files, tagOfFile p = t
  winner : ∀ t p, tags.get? t = some p ↔ Wins r files p ∧ tagOfFile p = t
  order : tags.keys.Pairwise (OpensBefore r files)

section Orders

variable {r r₁ r₂ : String → String → Prop} {files : Set String} {tags tags₁ tags₂ : Entries String}

instance [Std.Asymm r] : Std.Asymm (OpensBefore r files) where
  asymm := by
    rintro t u ⟨p, hp, isT, before⟩ ⟨q, hq, isU, after⟩
    exact Std.Asymm.asymm p q (before q hq isU) (after p hp isT)

/-- In two orders in which two tags are listed alike, the one opens before the other in both orders
or in none. -/
theorem IsTagged.opensBefore_of_eq [Std.Asymm r₁] [Std.Asymm r₂] (tagged₁ : IsTagged r₁ files tags)
    (tagged₂ : IsTagged r₂ files tags) {t u : String} (opens : OpensBefore r₁ files t u) :
    OpensBefore r₂ files t u := by
  obtain ⟨p, hp, isT, before⟩ := id opens
  have listedT : t ∈ tags.keys := (tagged₁.mem_keys t).mpr ⟨p, hp, isT⟩
  by_cases listedU : u ∈ tags.keys
  · have differ : t ≠ u := by
      rintro rfl
      exact Std.Asymm.asymm t t opens opens
    -- The two tags are listed in one of the two ways, and each way says the same of both orders.
    let Alike (t u : String) : Prop := OpensBefore r₁ files t u → OpensBefore r₂ files t u
    have alike : tags.keys.Pairwise fun t u => Alike t u ∧ Alike u t := by
      refine (tagged₁.order.and tagged₂.order).imp fun {t u} ⟨first, second⟩ => ?_
      exact ⟨fun _ => second, fun back => absurd back (Std.Asymm.asymm t u first)⟩
    have symm : Std.Symm fun t u => Alike t u ∧ Alike u t := ⟨fun _ _ both => both.symm⟩
    exact (alike.forall listedT listedU differ).1 opens
  · exact ⟨p, hp, isT, fun q hq isU => absurd ((tagged₁.mem_keys u).mpr ⟨q, hq, isU⟩) listedU⟩

/-- Two orders give the same tags exactly if the same files win and the tags open alike. -/
theorem IsTagged.eq_iff [Std.Asymm r₁] [Std.Asymm r₂] (tagged₁ : IsTagged r₁ files tags₁)
    (tagged₂ : IsTagged r₂ files tags₂) :
    tags₁ = tags₂ ↔ (∀ p, Wins r₁ files p ↔ Wins r₂ files p) ∧
      ∀ t u, OpensBefore r₁ files t u ↔ OpensBefore r₂ files t u := by
  constructor
  · rintro rfl
    refine ⟨fun p => ?_, fun t u => ⟨tagged₁.opensBefore_of_eq tagged₂,
      tagged₂.opensBefore_of_eq tagged₁⟩⟩
    have first := tagged₁.winner (tagOfFile p) p
    have second := tagged₂.winner (tagOfFile p) p
    rw [and_iff_left rfl] at first second
    exact first.symm.trans second
  · rintro ⟨wins, opens⟩
    have values (t : String) : tags₁.get? t = tags₂.get? t := by
      refine Option.ext fun p => ?_
      rw [tagged₁.winner, tagged₂.winner, wins]
    have same : OpensBefore r₁ files = OpensBefore r₂ files :=
      funext₂ fun t u => propext (opens t u)
    have listed : tags₁.keys.Perm tags₂.keys := by
      refine (List.perm_ext_iff_of_nodup tagged₁.distinct tagged₂.distinct).mpr fun t => ?_
      rw [tagged₁.mem_keys, tagged₂.mem_keys]
    have names : tags₁.keys = tags₂.keys := by
      refine List.Perm.eq_of_pairwise ?_ tagged₁.order (same ▸ tagged₂.order) listed
      intro t u _ _ before after
      exact absurd after (Std.Asymm.asymm t u before)
    exact (Entries.eq_iff_keys_get? tagged₁.distinct tagged₂.distinct).mpr ⟨names, values⟩

/-- Orders that agree on the files give the same tags. -/
theorem IsTagged.eq_of_agree [Std.Asymm r₁] [Std.Asymm r₂] (tagged₁ : IsTagged r₁ files tags₁)
    (tagged₂ : IsTagged r₂ files tags₂) (agree : ∀ p ∈ files, ∀ q ∈ files, r₁ p q ↔ r₂ p q) :
    tags₁ = tags₂ := by
  refine (tagged₁.eq_iff tagged₂).mpr ⟨fun p => ?_, fun t u => ?_⟩
  · refine and_congr_right fun hp => forall₂_congr fun q hq => ?_
    rw [agree q hq p hp]
  · refine exists_congr fun p => and_congr_right fun hp => and_congr_right fun _ => ?_
    refine forall₂_congr fun q hq => ?_
    rw [agree p hp q hq]

end Orders

/-! ### Tags of files -/

section Tags

variable {r : String → String → Prop} {paths : List String}

/-- The tags of a list of files with canonical paths, in an order. -/
theorem exists_tagsOfPaths [Std.Asymm r] (sorted : paths.Pairwise r)
    (areCanonical : ∀ p ∈ paths, Path.normalize? p = some p) :
    ∃ tags, tagsOfPaths paths = .ok tags ∧ IsTagged r {p | p ∈ paths} tags := by
  let pairs := paths.map fun p => (tagOfFile p, p)
  have keys : paths.mapM canonical = .ok paths := by
    refine Compiled.mapM_eq_ok.mpr (List.map_congr_left fun p listed => ?_)
    rw [canonical, areCanonical p listed]
  have ok : tagsOfPaths paths = .ok (Entries.ofPairs pairs) := by
    rw [tagsOfPaths, keys]
    rfl
  have mem_pairs (t p : String) : (t, p) ∈ pairs ↔ p ∈ paths ∧ tagOfFile p = t := by
    constructor
    · intro listed
      obtain ⟨q, isPath, same⟩ := List.mem_map.mp listed
      obtain ⟨rfl, rfl⟩ := Prod.mk.inj same
      exact ⟨isPath, rfl⟩
    · rintro ⟨isPath, rfl⟩
      exact List.mem_map_of_mem isPath
  -- The pairs stand in the order of their files.
  have asymm : Std.Asymm fun e e' : String × String => r e.2 e'.2 :=
    ⟨fun e e' => Std.Asymm.asymm e.2 e'.2⟩
  have ordered : pairs.Pairwise fun e e' => r e.2 e'.2 := List.pairwise_map.mpr sorted
  refine ⟨Entries.ofPairs pairs, ok, Entries.nodup_keys_ofPairs pairs, fun t => ?_,
    fun t p => ?_, ?_⟩
  · rw [Entries.mem_keys_ofPairs, List.map_map, List.mem_map]
    rfl
  · rw [Entries.get?_ofPairs_eq_some_iff ordered, mem_pairs]
    constructor
    · rintro ⟨⟨isPath, rfl⟩, greatest⟩
      refine ⟨⟨isPath, fun q isPath' sameTag => ?_⟩, rfl⟩
      have last := greatest (tagOfFile p, q) ((mem_pairs _ q).mpr ⟨isPath', sameTag⟩) rfl
      exact last.imp_left (congrArg Prod.snd)
    · rintro ⟨⟨isPath, greatest⟩, rfl⟩
      refine ⟨⟨isPath, rfl⟩, ?_⟩
      rintro ⟨_, q⟩ listed rfl
      obtain ⟨isPath', sameTag⟩ := (mem_pairs _ q).mp listed
      exact (greatest q isPath' sameTag).imp_left (congrArg (Prod.mk (tagOfFile p)))
  · refine (Entries.pairwise_keys_ofPairs ordered).imp fun {t u} => ?_
    rintro ⟨⟨t, p⟩, listed, rfl, before⟩
    obtain ⟨isPath, isTag⟩ := (mem_pairs t p).mp listed
    exact ⟨p, isPath, isTag, fun q isPath' isTag' =>
      before (u, q) ((mem_pairs u q).mpr ⟨isPath', isTag'⟩) rfl⟩

end Tags

/-! ### What a pattern finds -/

/-- The files that a pattern finds. -/
def foundBy (g : Glob) (files : List (String × String)) : Set String :=
  {p | p ∈ files.map Prod.fst ∧ g.matchesPath p = true}

section Discovery

variable {files : List (String × String)} {pattern text : String} {g : Glob}

/-- A pattern finds files in the order in which a store lists them. -/
theorem exists_discover_glob {r : String → String → Prop} [Std.Asymm r] {store : Store}
    (areFiles : AreFiles (files.map Prod.fst)) (isGlob : readGlob pattern = .ok (text, g))
    (listed : ∀ p, p ∈ store.list ↔ p ∈ files.map Prod.fst) (sorted : store.list.Pairwise r) :
    ∃ tags, discover (.glob pattern) store = .ok tags ∧ IsTagged r (foundBy g files) tags := by
  let paths := store.list.filter g.matchesPath
  have areFound : {p | p ∈ paths} = foundBy g files := by
    ext p
    rw [Set.mem_ofPred_eq, List.mem_filter, listed]
    rfl
  have areCanonical : ∀ p ∈ paths, Path.normalize? p = some p := fun p isPath =>
    areFiles.canonical p ((listed p).mp (List.mem_filter.mp isPath).1)
  obtain ⟨tags, ok, tagged⟩ := exists_tagsOfPaths (sorted.filter _) areCanonical
  refine ⟨tags, ?_, areFound ▸ tagged⟩
  rw [discover, isGlob]
  exact ok

/-- Files in a tree of directories and the same files in a table: a pattern finds them in both, by
the order of the walk in the one and by the order of paths in the other. What it finds is the same
exactly if the same files win in both orders and the tags open alike, and so it is if no path that
is found undercuts another one. -/
theorem discover_glob_eq_iff (areFiles : AreFiles (files.map Prod.fst))
    (isGlob : readGlob pattern = .ok (text, g)) :
    ∃ walked sorted,
      discover (.glob pattern) (.tree (Directory.ofFiles files)) = .ok walked ∧
      discover (.glob pattern) (Store.ofFiles files) = .ok sorted ∧
      IsTagged WalksBefore (foundBy g files) walked ∧ IsTagged (· < ·) (foundBy g files) sorted ∧
      (walked = sorted ↔
        (∀ p, Wins WalksBefore (foundBy g files) p ↔ Wins (· < ·) (foundBy g files) p) ∧
        ∀ t u, OpensBefore WalksBefore (foundBy g files) t u ↔
          OpensBefore (· < ·) (foundBy g files) t u) ∧
      ((∀ p ∈ foundBy g files, ∀ q ∈ foundBy g files, ¬ Undercuts p.toList q.toList) →
        walked = sorted) := by
  obtain ⟨walked, inTree, walks⟩ := exists_discover_glob areFiles isGlob
    (fun p => mem_list_tree areFiles) (pairwise_list_tree areFiles)
  obtain ⟨sorted, inTable, sorts⟩ := exists_discover_glob areFiles isGlob
    (fun p => mem_list_table areFiles) (pairwise_list_table files)
  refine ⟨walked, sorted, inTree, inTable, walks, sorts, walks.eq_iff sorts, fun free => ?_⟩
  refine walks.eq_of_agree sorts fun p hp q hq => ?_
  rw [walksBefore_iff]
  simp [free p hp q hq, free q hq p hp]

end Discovery

/-! ### Files that a pattern finds alike, and files that it does not -/

/-- Files for two tags, of which one undercuts another one, but none of its own tag. -/
def alikeFiles : List (String × String) :=
  [("a/x.webc", ""), ("b/y.webc", ""), ("b.d/x.webc", "")]

theorem discover_glob_eq_iff_alikeFiles :
    AreFiles (alikeFiles.map Prod.fst) ∧
      (∃ text g, readGlob "**/*.webc" = .ok (text, g) ∧
        "b.d/x.webc" ∈ foundBy g alikeFiles ∧ "b/y.webc" ∈ foundBy g alikeFiles ∧
        discover (.glob "**/*.webc") (.tree (Directory.ofFiles alikeFiles)) =
          discover (.glob "**/*.webc") (Store.ofFiles alikeFiles) ∧
        (∀ p, Wins WalksBefore (foundBy g alikeFiles) p ↔ Wins (· < ·) (foundBy g alikeFiles) p) ∧
        ∀ t u, OpensBefore WalksBefore (foundBy g alikeFiles) t u ↔
          OpensBefore (· < ·) (foundBy g alikeFiles) t u) ∧
      Undercuts "b.d/x.webc".toList "b/y.webc".toList := by
  have areFiles : AreFiles (alikeFiles.map Prod.fst) :=
    ⟨by decide +kernel, by decide +kernel, by decide +kernel⟩
  have undercuts : Undercuts "b.d/x.webc".toList "b/y.webc".toList :=
    ⟨['b'], "y.webc".toList, '.', "d/x.webc".toList, by decide +kernel, by decide +kernel,
      by decide +kernel⟩
  let g : Glob := [.directories, .run, .literal '.', .literal 'w', .literal 'e', .literal 'b',
    .literal 'c']
  have isGlob : readGlob "**/*.webc" = .ok ("**/*.webc", g) :=
    Compiled.eq_ok_of_toOption (by decide +kernel)
  have inTree : discover (.glob "**/*.webc") (.tree (Directory.ofFiles alikeFiles)) =
      .ok [("x", "b.d/x.webc"), ("y", "b/y.webc")] :=
    Compiled.eq_ok_of_toOption (by decide +kernel)
  have listed : (Store.ofFiles alikeFiles).list = ["a/x.webc", "b.d/x.webc", "b/y.webc"] :=
    list_table_eq areFiles (by decide +kernel) (by simp [alikeFiles]; grind)
  have inTable : discover (.glob "**/*.webc") (Store.ofFiles alikeFiles) =
      .ok [("x", "b.d/x.webc"), ("y", "b/y.webc")] := by
    rw [discover, isGlob, listed]
    exact Compiled.eq_ok_of_toOption (by decide +kernel)
  obtain ⟨walked, sorted, walks, sorts, -, -, same, -⟩ := discover_glob_eq_iff areFiles isGlob
  obtain rfl := Except.ok.inj (inTree.symm.trans walks)
  obtain rfl := Except.ok.inj (inTable.symm.trans sorts)
  exact ⟨areFiles, ⟨_, g, isGlob, ⟨by decide +kernel, by decide +kernel⟩,
    ⟨by decide +kernel, by decide +kernel⟩, inTree.trans inTable.symm, same.mp rfl⟩, undercuts⟩

/-- Files for one tag, one of which undercuts the other. -/
def rivalFiles : List (String × String) := [("a/x.webc", ""), ("a-b/x.webc", "")]

/-- A pattern can find another file for a tag in a tree than in a table with the same files. -/
theorem exists_discover_glob_ne :
    AreFiles (rivalFiles.map Prod.fst) ∧ (readGlob "**/*.webc").toOption.isSome = true ∧
      discover (.glob "**/*.webc") (.tree (Directory.ofFiles rivalFiles)) =
        .ok [("x", "a-b/x.webc")] ∧
      discover (.glob "**/*.webc") (Store.ofFiles rivalFiles) = .ok [("x", "a/x.webc")] := by
  have areFiles : AreFiles (rivalFiles.map Prod.fst) :=
    ⟨by decide +kernel, by decide +kernel, by decide +kernel⟩
  have inTree : discover (.glob "**/*.webc") (.tree (Directory.ofFiles rivalFiles)) =
      .ok [("x", "a-b/x.webc")] :=
    Compiled.eq_ok_of_toOption (by decide +kernel)
  have listed : (Store.ofFiles rivalFiles).list = ["a-b/x.webc", "a/x.webc"] :=
    list_table_eq areFiles (by decide +kernel) (by simp [rivalFiles, or_comm])
  refine ⟨areFiles, by decide +kernel, inTree, ?_⟩
  rw [discover, listed]
  exact Compiled.eq_ok_of_toOption (by decide +kernel)

end ComponentMarkup
