import ComponentMarkup.Proofs.Entries
import ComponentMarkup.Proofs.Project.Reference

/-!
# The order of a walk

A tree of directories is walked by name, and a name is visited with all that is below it before the
next one. So the files come in the order of the segments of their paths. A table lists the same
files in the order of their paths as texts, where `/` counts as a character among others. The two
orders part where one path leads down a directory and another one goes on, from the name of this
directory, with a character below `/`: `a/x` is visited before `a-b/x`, and written after it.

## Main definitions

* `DirectoryEntry.walk` — the segments that lead to the files of an entry, in the order of the walk
* `DirectoryEntry.IsOrdered` — every directory lists its names in order
* `WalksBefore` — the order of the segments of paths
* `Undercuts` — a path goes on with a character below `/` where another one leads down
* `AreFiles` — paths of files that can stand in one tree

## Main results

* `walksBefore_iff` — when a file is visited before another one, told from their paths as texts
* `mem_list_tree`, `pairwise_list_tree` — a tree of files lists them in the order of the walk
* `mem_list_table`, `pairwise_list_table` — a table of files lists them in the order of their paths
-/

namespace ComponentMarkup

/-! ### Entries in order -/

namespace DirectoryEntry

mutual

/-- The segments that lead from an entry to its files, in the order of the walk. -/
def walk : DirectoryEntry → List (List String)
  | file _ => [[]]
  | directory es => walkAll es
termination_by structural e => e

/-- The segments that lead to the files of a directory. -/
def walkAll : List (String × DirectoryEntry) → List (List String)
  | [] => []
  | e :: es => walkPair e ++ walkAll es
termination_by structural es => es

/-- The segments that lead to the files of a named entry, the name included. -/
def walkPair : String × DirectoryEntry → List (List String)
  | (name, e) => (walk e).map (List.cons name)
termination_by structural e => e

end

/-- Every directory lists its names in order, each once. -/
inductive IsOrdered : DirectoryEntry → Prop
  | file (text : String) : IsOrdered (file text)
  | directory {es : Directory} (names : (Entries.keys es).Pairwise (· < ·))
      (below : ∀ e ∈ es, IsOrdered e.2) : IsOrdered (directory es)

variable {es : Directory} {name : String} {segs place : List String}

theorem walkAll_eq_flatMap (es : Directory) :
    walkAll es = es.flatMap fun e => (walk e.2).map (List.cons e.1) := by
  induction es with
  | nil => rfl
  | cons e es ih => rw [walkAll, ih, List.flatMap_cons, walkPair]

theorem nil_notMem_walkAll (es : Directory) : [] ∉ walkAll es := by
  intro listed
  rw [walkAll_eq_flatMap] at listed
  obtain ⟨e, _, found⟩ := List.mem_flatMap.mp listed
  obtain ⟨segs, _, same⟩ := List.mem_map.mp found
  exact nomatch same

/-- With distinct names, a segment leads on through the entry of its name. -/
theorem cons_mem_walkAll (distinct : (Entries.keys es).Nodup) :
    name :: segs ∈ walkAll es ↔ ∃ e, Entries.get? name es = some e ∧ segs ∈ walk e := by
  rw [walkAll_eq_flatMap, List.mem_flatMap]
  constructor
  · rintro ⟨⟨name', e⟩, listed, found⟩
    obtain ⟨segs', below, same⟩ := List.mem_map.mp found
    obtain ⟨rfl, rfl⟩ := List.cons.inj same
    exact ⟨e, (Entries.mem_iff_get?_eq_some distinct).mp listed, below⟩
  · rintro ⟨e, found, below⟩
    exact ⟨(name, e), (Entries.mem_iff_get?_eq_some distinct).mpr found,
      List.mem_map.mpr ⟨segs, below, rfl⟩⟩

theorem nodup_of_pairwise (names : (Entries.keys es).Pairwise (· < ·)) : (Entries.keys es).Nodup :=
  names.imp String.ne_of_lt

theorem pairwise_keys (ordered : IsOrdered (directory es)) :
    (Entries.keys es).Pairwise (· < ·) := by
  cases ordered with
  | directory names below => exact names

/-- A walk through directories in order visits the files in the order of their segments. -/
theorem pairwise_walk {e : DirectoryEntry} (ordered : IsOrdered e) :
    (walk e).Pairwise (· < ·) := by
  induction ordered with
  | file text => exact List.pairwise_singleton _ _
  | directory names below ih =>
    rw [walk, walkAll_eq_flatMap, List.pairwise_flatMap]
    constructor
    · intro e listed
      rw [List.pairwise_map]
      exact (ih e listed).imp fun lt => List.cons_lt_cons_iff.mpr (.inr ⟨rfl, lt⟩)
    · refine (List.pairwise_map.mp names).imp fun {a b} lt x hx y hy => ?_
      obtain ⟨x, _, rfl⟩ := List.mem_map.mp hx
      obtain ⟨y, _, rfl⟩ := List.mem_map.mp hy
      exact List.cons_lt_cons_iff.mpr (.inl lt)

/-! ### The texts of the paths -/

mutual

/-- The paths that are listed are the segments of the walk, joined. -/
theorem paths_eq (at' : String) (e : DirectoryEntry) :
    paths at' e = (walk e).map fun segs => "/".intercalate (at' :: segs) := by
  cases e with
  | file text => simp [paths, walk]
  | directory es =>
    rw [paths, pathsOf_eq, walk]
    refine List.map_congr_left fun segs listed => ?_
    have nonempty : segs ≠ [] := by
      rintro rfl
      exact nil_notMem_walkAll es listed
    rw [String.intercalate_cons_of_ne_nil nonempty]

theorem pathsOf_eq (start : String) (es : List (String × DirectoryEntry)) :
    pathsOf start es = (walkAll es).map fun segs => start ++ "/".intercalate segs := by
  cases es with
  | nil => rfl
  | cons e es => rw [pathsOf, pathsOfPair_eq, pathsOf_eq, walkAll, List.map_append]

theorem pathsOfPair_eq (start : String) (e : String × DirectoryEntry) :
    pathsOfPair start e = (walkPair e).map fun segs => start ++ "/".intercalate segs := by
  obtain ⟨name, e⟩ := e
  rw [pathsOfPair, paths_eq, walkPair, List.map_map]
  refine List.map_congr_left fun segs _ => ?_
  exact String.intercalate_cons_append

end

/-! ### Writing files -/

/-- Putting an entry in changes what is found under its own name only. -/
theorem get?_insertByName (name other : String) (e : DirectoryEntry) (es : Directory) :
    Entries.get? other (insertByName name e es) =
      if name = other then some e else Entries.get? other es := by
  induction es with
  | nil => simp [insertByName, Entries.get?]
  | cons first es ih =>
    obtain ⟨n, first⟩ := first
    unfold insertByName
    by_cases own : name = other
    · subst own
      by_cases same : name = n
      · simp [Entries.get?, same]
      · by_cases before : name < n
        · simp [Entries.get?, same, before]
        · simp [Entries.get?, same, Ne.symm same, before, ih]
    · by_cases same : name = n
      · subst same
        simp [Entries.get?, own]
      · by_cases before : name < n
        · simp [Entries.get?, own, same, before]
        · simp [Entries.get?, own, same, before, ih]

theorem mem_insertByName {e : DirectoryEntry} {x : String × DirectoryEntry}
    (listed : x ∈ insertByName name e es) : x = (name, e) ∨ x ∈ es := by
  induction es with
  | nil => exact .inl (List.mem_singleton.mp listed)
  | cons first es ih =>
    unfold insertByName at listed
    split at listed
    · rcases List.mem_cons.mp listed with same | later
      · exact .inl same
      · exact .inr (List.mem_cons_of_mem first later)
    · split at listed
      · exact List.mem_cons.mp listed
      · rcases List.mem_cons.mp listed with same | later
        · exact .inr (same ▸ List.mem_cons_self)
        · exact (ih later).imp_right (List.mem_cons_of_mem first)

/-- Putting an entry in at its place keeps the names in order. -/
theorem pairwise_keys_insertByName (name : String) (e : DirectoryEntry)
    (names : (Entries.keys es).Pairwise (· < ·)) :
    (Entries.keys (insertByName name e es)).Pairwise (· < ·) := by
  induction es with
  | nil => exact List.pairwise_singleton _ _
  | cons first es ih =>
    obtain ⟨n, first⟩ := first
    obtain ⟨least, rest⟩ := List.pairwise_cons.mp names
    unfold insertByName
    by_cases same : name = n
    · simpa [same] using names
    · by_cases before : name < n
      · simp only [beq_iff_eq, same, before, if_true, if_false]
        refine List.pairwise_cons.mpr ⟨fun m listed => ?_, names⟩
        rcases List.mem_cons.mp listed with rfl | later
        · exact before
        · exact String.lt_trans before (least m later)
      · simp only [beq_iff_eq, same, before, if_false]
        refine List.pairwise_cons.mpr ⟨fun m listed => ?_, ih rest⟩
        obtain ⟨x, isEntry, rfl⟩ := List.mem_map.mp listed
        rcases mem_insertByName isEntry with rfl | later
        · exact Std.lt_of_le_of_ne (String.not_lt.mp before) (Ne.symm same)
        · exact least _ (List.mem_map_of_mem later)

theorem isOrdered_insertByName {e : DirectoryEntry} (ordered : IsOrdered (directory es))
    (new : IsOrdered e) : IsOrdered (directory (insertByName name e es)) := by
  cases ordered with
  | directory names below =>
    refine .directory (pairwise_keys_insertByName name e names) fun x listed => ?_
    rcases mem_insertByName listed with rfl | earlier
    · exact new
    · exact below x earlier

/-- Two places of files: neither leads on to the other. -/
def Apart (a b : List String) : Prop := a <+: b ∨ b <+: a → a = b

theorem Apart.of_cons {s : String} {a b : List String} (apart : Apart (s :: a) (s :: b)) :
    Apart a b := by
  intro related
  have related' : s :: a <+: s :: b ∨ s :: b <+: s :: a := by simpa using related
  exact (List.cons.inj (apart related')).2

/-- What stands below a name in a directory. -/
theorem isOrdered_below (ordered : IsOrdered (directory es)) (s : String) :
    IsOrdered (directory (((Entries.get? s es).map entries).getD [])) := by
  cases ordered with
  | directory names below =>
    cases found : Entries.get? s es with
    | none => exact .directory .nil nofun
    | some e =>
      have isOrdered := below _ (Entries.mem_of_get?_eq_some found)
      cases isOrdered with
      | file text => exact .directory .nil nofun
      | directory names' below' => exact .directory names' below'

theorem isOrdered_write (text : String) {es : Directory} (ordered : IsOrdered (directory es))
    (place : List String) : IsOrdered (directory (write text es place)) := by
  fun_induction DirectoryEntry.write text es place with
  | case1 => exact ordered
  | case2 es name => exact isOrdered_insertByName ordered (.file text)
  | case3 es s t rest below ih =>
    exact isOrdered_insertByName ordered (ih (isOrdered_below ordered s))

/-- What is visited below the name of a new entry is what the entry has. -/
theorem cons_mem_walkAll_insertByName {e : DirectoryEntry} {other : String}
    (names : (Entries.keys es).Pairwise (· < ·)) :
    other :: segs ∈ walkAll (insertByName name e es) ↔
      if name = other then segs ∈ walk e else other :: segs ∈ walkAll es := by
  have distinct := nodup_of_pairwise names
  have distinct' := nodup_of_pairwise (pairwise_keys_insertByName name e names)
  rw [cons_mem_walkAll distinct', cons_mem_walkAll distinct, get?_insertByName]
  by_cases own : name = other
  · simp [own]
  · simp [own]

/-- What is visited further down below a name is what its directory has. -/
theorem cons_mem_walkAll_iff_below (distinct : (Entries.keys es).Nodup) (further : segs ≠ []) :
    name :: segs ∈ walkAll es ↔
      segs ∈ walkAll (((Entries.get? name es).map entries).getD []) := by
  rw [cons_mem_walkAll distinct]
  cases found : Entries.get? name es with
  | none => simp [walkAll]
  | some e =>
    cases e with
    | file text => simp [walk, entries, walkAll, further]
    | directory es' => simp [walk, entries]

/-- A file that is written is visited, and so are all that were there before, if none of them stands
in the way. -/
theorem mem_walkAll_write (text : String) {es : Directory} (ordered : IsOrdered (directory es))
    {place : List String} (nonempty : place ≠ []) (apart : ∀ q ∈ walkAll es, Apart place q)
    (q : List String) : q ∈ walkAll (write text es place) ↔ q = place ∨ q ∈ walkAll es := by
  fun_induction DirectoryEntry.write text es place generalizing q with
  | case1 => exact absurd rfl nonempty
  | case2 es name =>
    have names := pairwise_keys ordered
    cases q with
    | nil => simp [nil_notMem_walkAll]
    | cons other segs =>
      rw [cons_mem_walkAll_insertByName names]
      by_cases own : name = other
      · subst own
        -- An entry of the same name can only be the file itself.
        have same (listed : name :: segs ∈ walkAll es) : segs = [] := by
          have same := apart _ listed (.inl ⟨segs, rfl⟩)
          exact (List.cons.inj same).2.symm
        simp only [if_true, walk, List.mem_singleton, List.cons.injEq, true_and]
        exact ⟨.inl, fun h => h.elim id same⟩
      · simp [own, Ne.symm own]
  | case3 es s t rest below ih =>
    have down := isOrdered_below ordered s
    have names := pairwise_keys ordered
    have distinct := nodup_of_pairwise names
    have apart' : ∀ q ∈ walkAll below, Apart (t :: rest) q := by
      intro q listed
      have further : q ≠ [] := by
        rintro rfl
        exact nil_notMem_walkAll _ listed
      exact (apart _ ((cons_mem_walkAll_iff_below distinct further).mpr listed)).of_cons
    cases q with
    | nil => simp [nil_notMem_walkAll]
    | cons other segs =>
      rw [cons_mem_walkAll_insertByName names]
      by_cases own : s = other
      · subst own
        rw [if_pos rfl, walk, ih down (List.cons_ne_nil t rest) apart']
        by_cases further : segs = []
        · subst further
          -- A file of that name would stand in the way.
          have free : [s] ∉ walkAll es := fun listed =>
            nomatch apart _ listed (.inr ⟨t :: rest, rfl⟩)
          simp [free, nil_notMem_walkAll]
        · rw [cons_mem_walkAll_iff_below distinct further]
          simp [below]
      · simp [own, Ne.symm own]

end DirectoryEntry

/-! ### Segments and texts -/

/-- A path comes before another one in a walk. -/
def WalksBefore (p q : String) : Prop := partsOf p < partsOf q

instance : Std.Asymm WalksBefore := ⟨fun _ _ => List.lt_asymm⟩

/-- A path goes on with a character below `/` where another one leads down a directory. -/
def Undercuts (q p : List Char) : Prop :=
  ∃ start below c rest, p = start ++ '/' :: below ∧ q = start ++ c :: rest ∧ c < '/'

section Undercuts

variable {p q : List Char} {c d : Char}

theorem not_undercuts_nil : ¬ Undercuts [] p := by
  rintro ⟨start, below, c, rest, _, same, _⟩
  simp at same

theorem undercuts_cons_cons :
    Undercuts (c :: q) (d :: p) ↔ d = '/' ∧ c < '/' ∨ c = d ∧ Undercuts q p := by
  constructor
  · rintro ⟨_ | ⟨first, start⟩, below, e, rest, isPath, isOther, lt⟩
    · obtain ⟨rfl, rfl⟩ := List.cons.inj isPath
      obtain ⟨rfl, rfl⟩ := List.cons.inj isOther
      exact .inl ⟨rfl, lt⟩
    · obtain ⟨rfl, rfl⟩ := List.cons.inj isPath
      obtain ⟨rfl, rfl⟩ := List.cons.inj isOther
      exact .inr ⟨rfl, start, below, e, rest, rfl, rfl, lt⟩
  · rintro (⟨rfl, lt⟩ | ⟨rfl, start, below, e, rest, rfl, rfl, lt⟩)
    · exact ⟨[], p, c, q, rfl, rfl, lt⟩
    · exact ⟨c :: start, below, e, rest, rfl, rfl, lt⟩

/-- The parts of one text come before those of another one if the text itself does, unless it
undercuts the other one; and also if it is undercut. -/
theorem splitWhere_lt_iff (p q : List Char) :
    splitWhere (· == '/') p < splitWhere (· == '/') q ↔
      p < q ∧ ¬ Undercuts p q ∨ Undercuts q p := by
  -- The induction goes along both texts. The parts of a text begin with an empty one exactly where
  -- the text begins with a separator, and an empty part comes before all others.
  induction p generalizing q with
  | nil =>
    cases q with
    | nil => simp [splitWhere, not_undercuts_nil]
    | cons d q =>
      obtain ⟨piece, pieces, split⟩ := List.exists_cons_of_ne_nil (splitWhere_ne_nil (· == '/') q)
      by_cases hd : d = '/' <;>
        simp [splitWhere, hd, split, not_undercuts_nil, List.cons_lt_cons_iff]
  | cons c p ih =>
    cases q with
    | nil =>
      obtain ⟨piece, pieces, split⟩ := List.exists_cons_of_ne_nil (splitWhere_ne_nil (· == '/') p)
      by_cases hc : c = '/' <;>
        simp [splitWhere, hc, split, not_undercuts_nil, List.cons_lt_cons_iff]
    | cons d q =>
      have ih := ih q
      obtain ⟨piece, pieces, split⟩ := List.exists_cons_of_ne_nil (splitWhere_ne_nil (· == '/') p)
      obtain ⟨piece', pieces', split'⟩ :=
        List.exists_cons_of_ne_nil (splitWhere_ne_nil (· == '/') q)
      rw [undercuts_cons_cons, undercuts_cons_cons, List.cons_lt_cons_iff]
      by_cases hc : c = '/'
      · by_cases hd : d = '/'
        · subst hc hd
          simp [splitWhere, ih]
        · subst hc
          have before : splitWhere (· == '/') ('/' :: p) < splitWhere (· == '/') (d :: q) := by
            simp [splitWhere, hd, split', List.cons_lt_cons_iff]
          have either : '/' < d ∨ d < '/' := by grind
          simpa [before, hd, Ne.symm hd] using either
      · by_cases hd : d = '/'
        · subst hd
          have after : ¬ splitWhere (· == '/') (c :: p) < splitWhere (· == '/') ('/' :: q) := by
            simp [splitWhere, hc, split, List.cons_lt_cons_iff]
          simp [after, hc, Ne.symm hc]
        · have same : splitWhere (· == '/') (c :: p) < splitWhere (· == '/') (d :: q) ↔
              c < d ∨ c = d ∧ splitWhere (· == '/') p < splitWhere (· == '/') q := by
            simp [splitWhere, hc, hd, split, split', List.cons_lt_cons_iff, or_assoc, and_or_left,
              and_assoc]
          rw [same, ih]
          by_cases h : c = d
          · subst h
            simp [hc]
          · simp [h, Ne.symm h, hc, hd]

/-- Texts are in the order of their characters, and so are lists of texts. -/
theorem map_ofList_lt_iff {ps qs : List (List Char)} :
    ps.map String.ofList < qs.map String.ofList ↔ ps < qs := by
  induction ps generalizing qs with
  | nil => cases qs <;> simp
  | cons p ps ih =>
    cases qs with
    | nil => simp
    | cons q qs =>
      rw [List.map_cons, List.map_cons, List.cons_lt_cons_iff, List.cons_lt_cons_iff, ih,
        String.lt_iff, String.toList_ofList, String.toList_ofList]
      have same : String.ofList p = String.ofList q ↔ p = q :=
        ⟨String.ofList_injective, congrArg String.ofList⟩
      rw [same]

end Undercuts

/-- A path is visited before another one if it is smaller as a text, unless it undercuts the other
one; and also if it is undercut. -/
theorem walksBefore_iff {p q : String} :
    WalksBefore p q ↔ p < q ∧ ¬ Undercuts p.toList q.toList ∨ Undercuts q.toList p.toList := by
  rw [WalksBefore, partsOf, partsOf, map_ofList_lt_iff, splitWhere_lt_iff, String.lt_iff]

/-! ### Files in a tree -/

/-- Paths of files that can stand in one tree: they are canonical, and none of them is the directory
of another one. -/
structure AreFiles (paths : List String) : Prop where
  canonical : ∀ p ∈ paths, Path.normalize? p = some p
  ne_empty : ∀ p ∈ paths, p ≠ ""
  apart : ∀ p ∈ paths, ∀ q ∈ paths, hasStart q (p ++ "/") = false

/-- A canonical path of a file leads to the place that its parts name, and is made of them. -/
theorem follow?_partsOf {p : String} (canonical : Path.normalize? p = some p) (ne_empty : p ≠ "") :
    Path.follow? [] (Path.segments p) = some (partsOf p).reverse ∧
      "/".intercalate (partsOf p) = p := by
  obtain ⟨place, followed, same⟩ := Option.map_eq_some_iff.mp canonical
  have plain : ∀ s ∈ place.reverse, IsPlain s := fun s listed =>
    isPlain_of_follow?_segments followed s (List.mem_reverse.mp listed)
  have nonempty : place.reverse ≠ [] := by
    intro none
    rw [none] at same
    exact ne_empty (by simpa using same.symm)
  have parts : partsOf p = place.reverse := by
    rw [← same]
    exact partsOf_intercalate plain nonempty
  rw [parts, List.reverse_reverse]
  exact ⟨followed, same⟩

namespace AreFiles

variable {paths : List String} {p q : String}

theorem of_subset (areFiles : AreFiles paths) {fewer : List String} (subset : fewer ⊆ paths) :
    AreFiles fewer where
  canonical p listed := areFiles.canonical p (subset listed)
  ne_empty p listed := areFiles.ne_empty p (subset listed)
  apart p listed q listed' := areFiles.apart p (subset listed) q (subset listed')

theorem intercalate_partsOf (areFiles : AreFiles paths) (listed : p ∈ paths) :
    "/".intercalate (partsOf p) = p :=
  (follow?_partsOf (areFiles.canonical p listed) (areFiles.ne_empty p listed)).2

theorem eq_of_prefix (areFiles : AreFiles paths) (hp : p ∈ paths) (hq : q ∈ paths)
    (leads : partsOf p <+: partsOf q) : partsOf p = partsOf q := by
  obtain ⟨below, parts⟩ := leads
  by_contra differ
  have further : below ≠ [] := by
    rintro rfl
    exact differ (by simpa using parts)
  have whole : q = p ++ "/" ++ "/".intercalate below := by
    rw [← areFiles.intercalate_partsOf hq, ← parts,
      String.intercalate_append_of_ne_nil (partsOf_ne_nil p) further,
      areFiles.intercalate_partsOf hp]
  have starts : hasStart q (p ++ "/") = true := by
    rw [hasStart, List.isPrefixOf_iff_prefix, whole]
    exact ⟨("/".intercalate below).toList, String.toList_append.symm⟩
  exact absurd starts (by simp [areFiles.apart p hp q hq])

/-- None of the files stands in the way of another one. -/
theorem apart_partsOf (areFiles : AreFiles paths) (hp : p ∈ paths) (hq : q ∈ paths) :
    DirectoryEntry.Apart (partsOf p) (partsOf q) := by
  rintro (leads | leads)
  · exact areFiles.eq_of_prefix hp hq leads
  · exact (areFiles.eq_of_prefix hq hp leads).symm

end AreFiles

section Listing

open DirectoryEntry

variable {files : List (String × String)} {p : String}

/-- A tree of files is in order, and its walk visits just these files. -/
theorem walkAll_ofFiles (areFiles : AreFiles (files.map Prod.fst)) :
    IsOrdered (.directory (Directory.ofFiles files)) ∧
      ∀ segs, segs ∈ walkAll (Directory.ofFiles files) ↔ ∃ f ∈ files, segs = partsOf f.1 := by
  induction files using List.reverseRecOn with
  | nil => exact ⟨.directory .nil nofun, fun segs => by simp [Directory.ofFiles, walkAll]⟩
  | append_singleton files f ih =>
    obtain ⟨path, text⟩ := f
    have earlier : AreFiles (files.map Prod.fst) :=
      areFiles.of_subset (List.map_subset _ (List.subset_append_left _ _))
    obtain ⟨ordered, visited⟩ := ih earlier
    have known (f : String × String) (listed : f ∈ files) :
        f.1 ∈ (files ++ [(path, text)]).map Prod.fst :=
      List.mem_map_of_mem (List.mem_append_left _ listed)
    have new : path ∈ (files ++ [(path, text)]).map Prod.fst := by simp
    have place := (follow?_partsOf (areFiles.canonical path new) (areFiles.ne_empty path new)).1
    have step : Directory.ofFiles (files ++ [(path, text)]) =
        write text (Directory.ofFiles files) (partsOf path) := by
      rw [Directory.ofFiles, List.foldl_append]
      simp [place, Directory.ofFiles]
    rw [step]
    refine ⟨isOrdered_write text ordered _, fun segs => ?_⟩
    have apart : ∀ q ∈ walkAll (Directory.ofFiles files), Apart (partsOf path) q := by
      intro q listed
      obtain ⟨f, isFile, rfl⟩ := (visited q).mp listed
      exact areFiles.apart_partsOf new (known f isFile)
    rw [mem_walkAll_write text ordered (partsOf_ne_nil path) apart, visited]
    simp [or_comm, or_and_right, exists_or]

theorem list_tree (root : Directory) :
    (Store.tree root).list = (walkAll root).map fun segs => "/".intercalate segs := by
  rw [Store.list, pathsOf_eq]
  simp

/-- A tree of files lists these files. -/
theorem mem_list_tree (areFiles : AreFiles (files.map Prod.fst)) :
    p ∈ (Store.tree (Directory.ofFiles files)).list ↔ p ∈ files.map Prod.fst := by
  have visited := (walkAll_ofFiles areFiles).2
  have joined (f : String × String) (isFile : f ∈ files) : "/".intercalate (partsOf f.1) = f.1 :=
    areFiles.intercalate_partsOf (List.mem_map_of_mem isFile)
  rw [list_tree, List.mem_map, List.mem_map]
  constructor
  · rintro ⟨segs, listed, rfl⟩
    obtain ⟨f, isFile, rfl⟩ := (visited segs).mp listed
    exact ⟨f, isFile, (joined f isFile).symm⟩
  · rintro ⟨f, isFile, rfl⟩
    exact ⟨partsOf f.1, (visited _).mpr ⟨f, isFile, rfl⟩, joined f isFile⟩

/-- A tree of files lists them in the order of the walk. -/
theorem pairwise_list_tree (areFiles : AreFiles (files.map Prod.fst)) :
    (Store.tree (Directory.ofFiles files)).list.Pairwise WalksBefore := by
  obtain ⟨ordered, visited⟩ := walkAll_ofFiles areFiles
  have parted (segs : List String) (listed : segs ∈ walkAll (Directory.ofFiles files)) :
      partsOf ("/".intercalate segs) = segs := by
    obtain ⟨f, isFile, rfl⟩ := (visited segs).mp listed
    rw [areFiles.intercalate_partsOf (List.mem_map_of_mem isFile)]
  rw [list_tree, List.pairwise_map]
  refine (pairwise_walk ordered).imp_of_mem fun {a b} ha hb lt => ?_
  rw [WalksBefore, parted a ha, parted b hb]
  exact lt

/-- A table of files lists these files. -/
theorem mem_list_table (areFiles : AreFiles (files.map Prod.fst)) :
    p ∈ (Store.ofFiles files).list ↔ p ∈ files.map Prod.fst := by
  have keyed : (files.map fun f => ((Path.normalize? f.1).getD f.1, f.2)).map Prod.fst =
      files.map Prod.fst := by
    rw [List.map_map]
    refine List.map_congr_left fun f isFile => ?_
    simp [areFiles.canonical f.1 (List.mem_map_of_mem isFile)]
  rw [Store.ofFiles, Store.list, (List.mergeSort_perm _ _).mem_iff, Entries.mem_keys_ofPairs, keyed]

/-- A table of files lists them in the order of their paths, each once. -/
theorem pairwise_list_table (files : List (String × String)) :
    (Store.ofFiles files).list.Pairwise (· < ·) := by
  rw [Store.ofFiles, Store.list]
  have distinct := (List.mergeSort_perm _ fun a b => decide (a ≤ b)).nodup_iff.mpr
    (Entries.nodup_keys_ofPairs (files.map fun f => ((Path.normalize? f.1).getD f.1, f.2)))
  refine ((List.pairwise_mergeSort ?_ ?_ _).and distinct).imp fun {a b} both => ?_
  · intro a b c le le'
    exact decide_eq_true (String.le_trans (of_decide_eq_true le) (of_decide_eq_true le'))
  · intro a b
    simpa using String.le_total a b
  · exact Std.lt_of_le_of_ne (of_decide_eq_true both.1) both.2

/-- There is only one way to list files in the order of their paths. -/
theorem list_table_eq (areFiles : AreFiles (files.map Prod.fst)) {paths : List String}
    (sorted : paths.Pairwise (· < ·)) (same : ∀ p, p ∈ paths ↔ p ∈ files.map Prod.fst) :
    (Store.ofFiles files).list = paths := by
  have listed := pairwise_list_table files
  have perm : (Store.ofFiles files).list.Perm paths := by
    refine (List.perm_ext_iff_of_nodup (listed.imp String.ne_of_lt)
      (sorted.imp String.ne_of_lt)).mpr fun p => ?_
    rw [mem_list_table areFiles, same]
  exact perm.eq_of_pairwise (fun p q _ _ lt lt' => absurd lt' (String.lt_asymm lt)) listed sorted

end Listing

end ComponentMarkup
