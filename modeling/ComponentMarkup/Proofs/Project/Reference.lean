import ComponentMarkup.Project.Resolver
import ComponentMarkup.Project.Store
import Mathlib.Data.Set.Finite.Lattice
import Mathlib.Data.Set.Finite.List

/-!
# Files that can be referred to

A reference means the file of a canonical path, or one whose place is fixed by such a path. In a
tree of directories a canonical path leads down all the way, one segment a step, so only finitely
many of them lead anywhere. A table has finitely many files to begin with.

## Main definitions

* `IsPlain` — a segment of a canonical path
* `DirectoryEntry.places` — the plain segments that lead somewhere from an entry

## Main results

* `DirectoryEntry.finite_places` — these are finitely many
* `finite_referable` — so are the files that references can mean
-/

namespace ComponentMarkup

/-- A segment of a canonical path: neither empty nor a detour, and without a separator. -/
structure IsPlain (s : String) : Prop where
  ne_empty : s ≠ ""
  ne_dot : s ≠ "."
  ne_up : s ≠ ".."
  notMem : '/' ∉ s.toList

/-! ### Canonical paths -/

/-- Following segments from a plain place leads to a plain place. -/
theorem isPlain_of_follow? {place segments end' : List String}
    (h : Path.follow? place segments = some end') (start : ∀ s ∈ place, IsPlain s)
    (separate : ∀ s ∈ segments, '/' ∉ s.toList) : ∀ s ∈ end', IsPlain s := by
  fun_induction Path.follow? place segments with
  | case1 place =>
    obtain rfl := Option.some.inj h
    exact start
  | case2 place s rest _ ih => exact ih h start fun t ht => separate t (List.mem_cons_of_mem s ht)
  | case3 => exact nomatch h
  | case4 s rest _ _ first up ih =>
    exact ih h (fun t ht => start t (List.mem_cons_of_mem first ht))
      fun t ht => separate t (List.mem_cons_of_mem _ ht)
  | case5 place s rest stays goesUp ih =>
    -- Empty segments and detours are followed, and never become part of the place.
    have plain : IsPlain s := by
      refine ⟨?_, ?_, ?_, separate s List.mem_cons_self⟩ <;> rintro rfl <;> simp_all
    refine ih h (fun t ht => ?_) fun t ht => separate t (List.mem_cons_of_mem s ht)
    rcases List.mem_cons.mp ht with rfl | ht
    · exact plain
    · exact start t ht

/-- The segments of any path lead from the root to a plain place. -/
theorem isPlain_of_follow?_segments {path : String} {place : List String}
    (followed : Path.follow? [] (Path.segments path) = some place) : ∀ s ∈ place, IsPlain s := by
  refine isPlain_of_follow? followed (fun _ h => absurd h List.not_mem_nil) fun t ht sep => ?_
  obtain ⟨piece, hpiece, rfl⟩ := List.mem_map.mp ht
  rw [String.toList_ofList] at sep
  have none := eq_false_of_mem_splitWhere hpiece sep
  simp at none

/-- A canonical path is made of plain segments. -/
theorem exists_plain_of_normalize? {path key : String} (h : Path.normalize? path = some key) :
    ∃ place, key = "/".intercalate place ∧ ∀ s ∈ place, IsPlain s := by
  obtain ⟨place, followed, rfl⟩ := Option.map_eq_some_iff.mp h
  exact ⟨place.reverse, rfl, fun s hs =>
    isPlain_of_follow?_segments followed s (List.mem_reverse.mp hs)⟩

/-- The parts of a path between separators. -/
def partsOf (path : String) : List String :=
  (splitWhere (· == '/') path.toList).map String.ofList

theorem partsOf_ne_nil (path : String) : partsOf path ≠ [] := fun none =>
  splitWhere_ne_nil _ _ (List.map_eq_nil_iff.mp none)

theorem partsOf_append (path rest : String) :
    partsOf (path ++ "/" ++ rest) = partsOf path ++ partsOf rest := by
  have separator : ("/" : String).toList = ['/'] := rfl
  rw [partsOf, String.toList_append, String.toList_append, separator, List.append_assoc,
    List.singleton_append, splitWhere_append_cons (by rfl), List.map_append]
  rfl

theorem partsOf_plain {s : String} (plain : IsPlain s) : partsOf s = [s] := by
  have whole : ∀ c ∈ s.toList, (c == '/') = false := by
    rintro c hc
    exact beq_false_of_ne fun same => plain.notMem (same ▸ hc)
  rw [partsOf, splitWhere_of_forall whole, List.map_singleton, String.ofList_toList]

/-- The parts of a canonical path are the segments that it is made of. -/
theorem partsOf_intercalate {place : List String} (plain : ∀ s ∈ place, IsPlain s)
    (nonempty : place ≠ []) : partsOf ("/".intercalate place) = place := by
  induction place with
  | nil => exact absurd rfl nonempty
  | cons s place ih =>
    have first := partsOf_plain (plain s List.mem_cons_self)
    cases place with
    | nil => rwa [String.intercalate_singleton]
    | cons t place =>
      have rest := ih (fun u hu => plain u (List.mem_cons_of_mem s hu)) (List.cons_ne_nil t place)
      rw [String.intercalate_cons_cons, partsOf_append, first, rest]
      rfl

/-- The file that a canonical path means lies there or below. -/
theorem exists_partsOf_complete (r : Resolver) (key : String) :
    ∃ below, partsOf (r.complete key) = partsOf key ++ below := by
  simp only [Resolver.complete]
  split
  · exact ⟨[], (List.append_nil _).symm⟩
  · rw [String.append_assoc]
    exact ⟨_, partsOf_append ..⟩

/-- What a reference means is fixed by a canonical path, and lies there or below. -/
theorem exists_place_of_resolve {r : Resolver} {reference path : String} {source : Option String}
    (h : r.resolve reference source = .ok path) :
    ∃ place below, (∀ s ∈ place, IsPlain s) ∧ path = r.complete ("/".intercalate place) ∧
      partsOf path = place ++ below := by
  unfold Resolver.resolve at h
  split at h
  · exact nomatch h
  · split at h
    · exact nomatch h
    · rename_i key canonical
      obtain ⟨place, rfl, plain⟩ := exists_plain_of_normalize? canonical
      split at h
      · exact nomatch h
      · rename_i isEmpty
        have nonempty : place ≠ [] := by
          rintro rfl
          simp at isEmpty
        obtain rfl := Except.ok.inj h
        obtain ⟨below, parts⟩ := exists_partsOf_complete r ("/".intercalate place)
        rw [partsOf_intercalate plain nonempty] at parts
        exact ⟨place, below, plain, rfl, parts⟩

/-! ### Trees of directories -/

namespace DirectoryEntry

/-- The plain segments that lead somewhere from an entry. -/
def places (entry : DirectoryEntry) : Set (List String) :=
  {place | (∀ s ∈ place, IsPlain s) ∧ ∃ above found, follow above entry place = .ok found}

/-- A plain segment leads to the entry of its name. -/
theorem follow_cons_plain {s : String} (plain : IsPlain s) (above : List DirectoryEntry)
    (es : Directory) (rest : List String) :
    follow above (.directory es) (s :: rest) = match Entries.get? s es with
      | none => .error .missing
      | some entry => follow (.directory es :: above) entry rest := by
  cases isEntry : Entries.get? s es <;>
    simp [follow, plain.ne_empty, plain.ne_dot, plain.ne_up, isEntry]

/-- What leads somewhere has led somewhere before. -/
theorem mem_places_of_follow {above : List DirectoryEntry} {entry found : DirectoryEntry}
    {place below : List String} (plain : ∀ s ∈ place, IsPlain s)
    (h : follow above entry (place ++ below) = .ok found) : place ∈ entry.places := by
  refine ⟨plain, above, ?_⟩
  induction place generalizing above entry with
  | nil =>
    cases entry <;> exact ⟨_, rfl⟩
  | cons s place ih =>
    have rest := fun t ht => plain t (List.mem_cons_of_mem s ht)
    cases entry with
    | file text => exact nomatch h
    | directory es =>
      rw [List.cons_append, follow_cons_plain (plain s List.mem_cons_self)] at h
      rw [follow_cons_plain (plain s List.mem_cons_self)]
      split at h
      · exact nomatch h
      · exact ih rest h

/-- From a directory plain segments lead on through one of its entries. -/
theorem places_directory_subset (es : Directory) :
    (directory es).places ⊆ {[]} ∪ ⋃ e ∈ {e | e ∈ es}, List.cons e.1 '' e.2.places := by
  rintro (_ | ⟨s, place⟩) ⟨plain, above, found, h⟩
  · exact .inl rfl
  · refine .inr (Set.mem_iUnion₂.mpr ?_)
    rw [follow_cons_plain (plain s List.mem_cons_self)] at h
    split at h
    · exact nomatch h
    · rename_i entry isEntry
      have rest := fun t ht => plain t (List.mem_cons_of_mem s ht)
      exact ⟨(s, entry), Entries.mem_of_get?_eq_some isEntry, place, ⟨rest, _, found, h⟩, rfl⟩

/-- A tree has finitely many places, and a plain path never leads back up. -/
theorem finite_places (entry : DirectoryEntry) : entry.places.Finite :=
  match entry with
  | .file text => by
    refine (Set.finite_singleton []).subset ?_
    rintro (_ | ⟨s, place⟩) ⟨_, above, found, h⟩
    · rfl
    · exact nomatch h
  | .directory es => by
    have below : ∀ e ∈ es, e.2.places.Finite := fun e _ => finite_places e.2
    refine Set.Finite.subset ?_ (places_directory_subset es)
    refine (Set.finite_singleton []).union ((List.finite_toSet es).biUnion fun e he => ?_)
    exact (below e he).image _
termination_by sizeOf entry
decreasing_by
  have entry := List.sizeOf_lt_of_mem ‹_›
  have : sizeOf e = 1 + sizeOf e.1 + sizeOf e.2 := by cases e; rfl
  simp only [directory.sizeOf_spec]
  omega

end DirectoryEntry

/-! ### Stores -/

/-- A path that a tree has a file for leads there from the root, part by part. -/
theorem Store.exists_follow_of_load {root : Directory} {path text : String}
    (h : (Store.tree root).load path = .ok text) :
    ∃ found, DirectoryEntry.follow [] (.directory root) (partsOf path) = .ok found := by
  cases opened : Store.lookUp root path >>= DirectoryEntry.read with
  | error failure => simp [Store.load, opened] at h
  | ok text' =>
    obtain ⟨found, lookedUp, read⟩ := Compiled.bind_eq_ok.mp opened
    simp only [Store.lookUp] at lookedUp
    split at lookedUp
    · -- Nothing that can be read starts with a separator.
      split at lookedUp
      · obtain rfl := Except.ok.inj lookedUp
        simp [DirectoryEntry.read] at read
      · cases lookedUp
    · exact ⟨found, lookedUp⟩

/-- Only finitely many files of a store can be referred to. -/
theorem finite_referable (store : Store) (r : Resolver) :
    {path | (∃ reference source, r.resolve reference source = .ok path) ∧
      ∃ text, store.load path = .ok text}.Finite := by
  cases store with
  | table files =>
    refine (List.finite_toSet files.keys).subset ?_
    rintro path ⟨_, text, loaded⟩
    exact List.mem_map.mpr ⟨_, Entries.mem_of_get?_eq_some (Store.load_table_eq_ok.mp loaded), rfl⟩
  | tree root =>
    -- A reference is fixed by the place it names, also where it means a file below that place.
    refine ((DirectoryEntry.finite_places (.directory root)).image
      fun place => r.complete ("/".intercalate place)).subset ?_
    rintro path ⟨⟨reference, source, resolved⟩, text, loaded⟩
    obtain ⟨place, below, plain, path_eq, parts⟩ := exists_place_of_resolve resolved
    obtain ⟨found, followed⟩ := Store.exists_follow_of_load loaded
    rw [parts] at followed
    exact ⟨place, DirectoryEntry.mem_places_of_follow plain followed, path_eq.symm⟩

end ComponentMarkup
