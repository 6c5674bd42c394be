import ComponentMarkup.Proofs.Project.Reference
import Mathlib.Logic.Relation

/-!
# Canonical paths

The canonical form of a path is what is left of its segments when each `..` has taken the nearest
ordinary segment before it away. There is none exactly if the path climbs above the root, that is,
if some beginning of it leads up more often than down. A reference means a file with a canonical
path or none: whatever it spells, no file outside of the root can be meant.

## Main definitions

* `Path.Climbs` — segments that lead above the place where they start
* `Path.Removes`, `Path.Leaves` — taking segments away, and what is left in the end
* `Path.IsCanonical` — paths of files, written without detours
* `Resolver.Misses` — references that mean nothing

## Main results

* `Path.follow?_eq_none_iff` — only segments that climb lead nowhere
* `Path.follow?_nil_eq_some_iff` — segments lead to the place that they leave
* `Resolver.isCanonical_complete` — the file that a canonical path means has one too
* `Resolver.resolve_canonical_or_invalid` — what normalizing and resolving give, and when they fail
-/

namespace ComponentMarkup

namespace Path

/-! ### Segments -/

/-- Whether a segment is the name of a file or a directory. -/
def isOrdinary (s : String) : Bool := s != "" && s != "." && s != ".."

/-- Whether a character separates segments. -/
def isSeparator (c : Char) : Bool := c == '/' || c == '\\'

/-- Some beginning of the segments leads up more often than down. -/
def Climbs (segments : List String) : Prop :=
  ∃ start, start <+: segments ∧ start.countP isOrdinary < start.count ".."

/-- A segment `..` is taken away together with the nearest ordinary segment before it. -/
inductive Removes : List String → List String → Prop
  | pair (before between after : List String) (s : String) (ordinary : isOrdinary s = true)
      (nearest : ∀ t ∈ between, isOrdinary t = false ∧ t ≠ "..") :
      Removes (before ++ s :: (between ++ ".." :: after)) (before ++ (between ++ after))

/-- What is left of segments, when no `..` is among them any more, are the ordinary ones. -/
def Leaves (segments place : List String) : Prop :=
  ∃ rest, Relation.ReflTransGen Removes segments rest ∧ ".." ∉ rest ∧
    place = rest.filter isOrdinary

theorem isOrdinary_iff {s : String} : isOrdinary s = true ↔ s ≠ "" ∧ s ≠ "." ∧ s ≠ ".." := by
  simp [isOrdinary, and_assoc]

/-- A name without dots goes on as a name. -/
theorem isOrdinary_append {s rest : String} (ordinary : isOrdinary s = true)
    (noDot : '.' ∉ s.toList) : isOrdinary (s ++ rest) = true := by
  obtain ⟨nonempty, -, -⟩ := isOrdinary_iff.mp ordinary
  cases letters : s.toList with
  | nil => exact absurd (String.toList_eq_nil_iff.mp letters) nonempty
  | cons c cs =>
    have other : c ≠ '.' := by
      rintro rfl
      exact noDot (by simp [letters])
    have whole : (s ++ rest).toList = c :: (cs ++ rest.toList) := by
      rw [String.toList_append, letters, List.cons_append]
    refine isOrdinary_iff.mpr ⟨?_, ?_, ?_⟩ <;>
    · intro same
      simp [same, other.symm] at whole

section Following

variable {place rest segments between : List String} {s : String}

theorem follow?_skip (skipped : isOrdinary s = false) (noUp : s ≠ "..") :
    follow? place (s :: rest) = follow? place rest := by
  have detour : (s == "" || s == ".") = true := by
    by_contra other
    simp_all [isOrdinary]
  simp [follow?, detour]

theorem follow?_ordinary (ordinary : isOrdinary s = true) :
    follow? place (s :: rest) = follow? (s :: place) rest := by
  obtain ⟨nonempty, noDot, noUp⟩ := isOrdinary_iff.mp ordinary
  simp [follow?, nonempty, noDot, noUp]

theorem follow?_up (first : String) :
    follow? (first :: place) (".." :: rest) = follow? place rest := by
  simp [follow?]

theorem follow?_up_nil : follow? [] (".." :: rest) = none := by
  simp [follow?]

theorem follow?_append (segments : List String) :
    follow? place (segments ++ rest) = (follow? place segments).bind (follow? · rest) := by
  induction segments generalizing place with
  | nil => rfl
  | cons s segments ih =>
    rw [List.cons_append]
    by_cases isUp : s = ".."
    · subst isUp
      cases place with
      | nil => rw [follow?_up_nil, follow?_up_nil, Option.bind_none]
      | cons first place => rw [follow?_up, follow?_up, ih]
    · cases ordinary : isOrdinary s with
      | true => rw [follow?_ordinary ordinary, follow?_ordinary ordinary, ih]
      | false => rw [follow?_skip ordinary isUp, follow?_skip ordinary isUp, ih]

/-- Segments without `..` lead down by the ordinary ones among them. -/
theorem follow?_of_notMem (noUp : ".." ∉ segments) :
    follow? place segments = some ((segments.filter isOrdinary).reverse ++ place) := by
  induction segments generalizing place with
  | nil => rfl
  | cons s segments ih =>
    obtain ⟨first, later⟩ := not_or.mp (mt List.mem_cons.mpr noUp)
    cases ordinary : isOrdinary s with
    | true => simp [follow?_ordinary ordinary, ih later, ordinary]
    | false => simp [follow?_skip ordinary (Ne.symm first), ih later, ordinary]

/-! ### Climbing -/

/-- Segments lead nowhere exactly if they lead further up than the place is deep. -/
theorem follow?_eq_none_iff_exists : follow? place segments = none ↔
    ∃ start, start <+: segments ∧ place.length + start.countP isOrdinary < start.count ".." := by
  induction segments generalizing place with
  | nil => simp [follow?]
  | cons s segments ih =>
    -- The empty beginning leads nowhere, so a beginning has the first segment.
    have begins : (∃ start, start <+: s :: segments ∧
        place.length + start.countP isOrdinary < start.count "..") ↔
        ∃ start, start <+: segments ∧
          place.length + (s :: start).countP isOrdinary < (s :: start).count ".." := by
      constructor
      · rintro ⟨start, leads, more⟩
        cases start with
        | nil => simp at more
        | cons t start =>
          obtain ⟨rfl, further⟩ := List.cons_prefix_cons.mp leads
          exact ⟨start, further, more⟩
      · rintro ⟨start, leads, more⟩
        exact ⟨s :: start, List.cons_prefix_cons.mpr ⟨rfl, leads⟩, more⟩
    rw [begins]
    by_cases isUp : s = ".."
    · subst isUp
      have notOrdinary : isOrdinary ".." = false := by decide
      cases place with
      | nil =>
        refine iff_of_true follow?_up_nil ⟨[], List.nil_prefix, ?_⟩
        simp [notOrdinary]
      | cons first place =>
        rw [follow?_up, ih]
        simp only [List.countP_cons, notOrdinary, List.count_cons_self, List.length_cons,
          Bool.false_eq_true, if_false, Nat.add_zero, Nat.add_right_comm _ 1,
          Nat.add_lt_add_iff_right]
    · cases ordinary : isOrdinary s with
      | true =>
        rw [follow?_ordinary ordinary, ih]
        simp only [List.countP_cons, ordinary, List.count_cons_of_ne isUp, List.length_cons,
          if_true, Nat.add_right_comm _ 1, Nat.add_assoc]
      | false =>
        rw [follow?_skip ordinary isUp, ih]
        simp only [List.countP_cons, ordinary, List.count_cons_of_ne isUp, Bool.false_eq_true,
          if_false, Nat.add_zero]

/-- From the root only segments that climb lead nowhere. -/
theorem follow?_eq_none_iff : follow? [] segments = none ↔ Climbs segments := by
  simp [follow?_eq_none_iff_exists, Climbs]

/-! ### Taking segments away -/

theorem follow?_between (nearest : ∀ t ∈ between, isOrdinary t = false ∧ t ≠ "..") :
    follow? place between = some place := by
  have noUp : ".." ∉ between := fun listed => (nearest _ listed).2 rfl
  have none : between.filter isOrdinary = [] :=
    List.filter_eq_nil_iff.mpr fun t listed => by simp [(nearest t listed).1]
  rw [follow?_of_notMem noUp, none]
  rfl

/-- Taking a pair of segments away does not change where they lead. -/
theorem Removes.follow?_eq {others : List String} (removes : Removes segments others) :
    follow? place segments = follow? place others := by
  obtain ⟨before, between, after, s, ordinary, nearest⟩ := removes
  rw [follow?_append before, follow?_append before]
  refine congrArg (Option.bind (follow? place before)) (funext fun here => ?_)
  rw [follow?_ordinary ordinary, follow?_append between, follow?_append between,
    follow?_between nearest, follow?_between nearest]
  exact follow?_up s

/-- Nor does taking away any number of them. -/
theorem follow?_eq_of_reflTransGen {others : List String}
    (removes : Relation.ReflTransGen Removes segments others) :
    follow? place segments = follow? place others := by
  induction removes with
  | refl => rfl
  | tail _ last ih => rw [ih, last.follow?_eq]

/-- The last ordinary one of some segments. -/
theorem exists_last_ordinary (nonempty : segments.filter isOrdinary ≠ []) :
    ∃ before s between, segments = before ++ s :: between ∧ isOrdinary s = true ∧
      ∀ t ∈ between, isOrdinary t = false := by
  obtain ⟨t, listed, ordinary⟩ : ∃ t ∈ segments.reverse, isOrdinary t = true := by
    simpa [List.filter_eq_nil_iff] using nonempty
  obtain ⟨s, found⟩ := Option.isSome_iff_exists.mp (List.find?_isSome.mpr ⟨t, listed, ordinary⟩)
  obtain ⟨ordinary, after, before, split, others⟩ := List.find?_eq_some_iff_append.mp found
  refine ⟨before.reverse, s, after.reverse, ?_, ordinary, fun u hu => ?_⟩
  · simpa using congrArg List.reverse split
  · simpa using others u (List.mem_reverse.mp hu)

/-- If segments lead somewhere, the first `..` has an ordinary one before it to take away. -/
theorem exists_removes (leads : (follow? [] segments).isSome) (isUp : ".." ∈ segments) :
    ∃ others, Removes segments others ∧ others.count ".." < segments.count ".." := by
  obtain ⟨front, after, rfl, first⟩ := List.eq_append_cons_of_mem isUp
  -- Nothing ordinary in front of it would leave it at the root, from where it leads nowhere.
  have nonempty : front.filter isOrdinary ≠ [] := by
    intro none
    rw [follow?_append, follow?_of_notMem first, none] at leads
    exact nomatch leads
  obtain ⟨before, s, between, rfl, ordinary, others⟩ := exists_last_ordinary nonempty
  have nearest : ∀ t ∈ between, isOrdinary t = false ∧ t ≠ ".." := by
    intro t listed
    refine ⟨others t listed, ?_⟩
    rintro rfl
    exact first (by simp [listed])
  refine ⟨before ++ (between ++ after), ?_, ?_⟩
  · simpa using Removes.pair before between after s ordinary nearest
  · simp only [List.count_append, List.count_cons_self]
    have kept : between.count ".." ≤ (s :: between).count ".." := List.count_le_count_cons
    omega

/-- If segments lead somewhere, so much can be taken away that no `..` is left. -/
theorem exists_reflTransGen (leads : (follow? [] segments).isSome) :
    ∃ rest, Relation.ReflTransGen Removes segments rest ∧ ".." ∉ rest := by
  -- The number of `..` goes down with each pair that is taken away.
  induction count : segments.count ".." using Nat.strong_induction_on generalizing segments with
  | _ count' ih =>
    by_cases isUp : ".." ∈ segments
    · obtain ⟨others, removes, fewer⟩ := exists_removes leads isUp
      rw [removes.follow?_eq] at leads
      obtain ⟨rest, further, noUp⟩ := ih _ (count ▸ fewer) leads rfl
      exact ⟨rest, .head removes further, noUp⟩
    · exact ⟨segments, .refl, isUp⟩

/-- From the root segments lead to the place that they leave, and nowhere if they leave none. -/
theorem follow?_nil_eq_some_iff :
    follow? [] segments = some place ↔ Leaves segments place.reverse := by
  constructor
  · intro leads
    obtain ⟨rest, removes, noUp⟩ := exists_reflTransGen (Option.isSome_of_mem leads)
    rw [follow?_eq_of_reflTransGen removes, follow?_of_notMem noUp] at leads
    obtain rfl := Option.some.inj leads
    exact ⟨rest, removes, noUp, by simp⟩
  · rintro ⟨rest, removes, noUp, left⟩
    rw [follow?_eq_of_reflTransGen removes, follow?_of_notMem noUp, ← left]
    simp

/-- What is left of segments are ordinary ones of them. -/
theorem Leaves.mem (left : Leaves segments place) (listed : s ∈ place) :
    isOrdinary s = true ∧ s ∈ segments := by
  obtain ⟨rest, removes, -, rfl⟩ := left
  obtain ⟨kept, ordinary⟩ := List.mem_filter.mp listed
  refine ⟨ordinary, ?_⟩
  induction removes using Relation.ReflTransGen.head_induction_on with
  | refl => exact kept
  | head step _ ih =>
    obtain ⟨before, between, after, t, -, -⟩ := step
    simp only [List.mem_append] at ih
    rcases ih with first | second | third <;> simp [*]

/-- Ordinary segments are left as they are. -/
theorem leaves_self (ordinary : ∀ s ∈ place, isOrdinary s = true) : Leaves place place := by
  refine ⟨place, .refl, fun isUp => ?_, (List.filter_eq_self.mpr ordinary).symm⟩
  exact absurd (ordinary ".." isUp) (by decide)

end Following

/-! ### Canonical forms -/

section Canonical

variable {path key s : String} {place : List String}

theorem normalize?_eq_none_iff : normalize? path = none ↔ Climbs (segments path) := by
  rw [normalize?, Option.map_eq_none_iff, follow?_eq_none_iff]

theorem normalize?_eq_some_iff : normalize? path = some key ↔
    ∃ place, Leaves (segments path) place ∧ key = "/".intercalate place := by
  rw [normalize?, Option.map_eq_some_iff]
  constructor
  · rintro ⟨place, leads, rfl⟩
    exact ⟨place.reverse, follow?_nil_eq_some_iff.mp leads, rfl⟩
  · rintro ⟨place, left, rfl⟩
    refine ⟨place.reverse, follow?_nil_eq_some_iff.mpr ?_, ?_⟩ <;> rw [List.reverse_reverse]
    exact left

theorem splitWhere_congr {α : Type} {p q : α → Bool} {xs : List α} (same : ∀ x ∈ xs, p x = q x) :
    splitWhere p xs = splitWhere q xs := by
  induction xs with
  | nil => rfl
  | cons x xs ih =>
    have rest := ih fun y hy => same y (List.mem_cons_of_mem x hy)
    rw [splitWhere, splitWhere, same x List.mem_cons_self, rest]

/-- The separators of a path are in none of its segments. -/
theorem isSeparator_of_mem_segments (listed : s ∈ segments path) :
    ∀ c ∈ s.toList, isSeparator c = false := by
  obtain ⟨piece, split, rfl⟩ := List.mem_map.mp listed
  intro c hc
  rw [String.toList_ofList] at hc
  exact eq_false_of_mem_splitWhere split hc

theorem segments_append (path rest : String) :
    segments (path ++ "/" ++ rest) = segments path ++ segments rest := by
  have separator : ("/" : String).toList = ['/'] := rfl
  rw [segments, String.toList_append, String.toList_append, separator, List.append_assoc,
    List.singleton_append, splitWhere_append_cons (by rfl), List.map_append]
  rfl

theorem segments_of_forall (whole : ∀ c ∈ s.toList, isSeparator c = false) : segments s = [s] := by
  have one : splitWhere (fun c => c == '/' || c == '\\') s.toList = [s.toList] :=
    splitWhere_of_forall whole
  rw [segments, one, List.map_singleton, String.ofList_toList]

/-- Segments with a `/` between them are the segments of the whole. -/
theorem segments_intercalate (whole : ∀ s ∈ place, ∀ c ∈ s.toList, isSeparator c = false)
    (nonempty : place ≠ []) : segments ("/".intercalate place) = place := by
  induction place with
  | nil => exact absurd rfl nonempty
  | cons s place ih =>
    have first := segments_of_forall (whole s List.mem_cons_self)
    cases place with
    | nil => rwa [String.intercalate_singleton]
    | cons t place =>
      have rest := ih (fun u hu => whole u (List.mem_cons_of_mem s hu)) (List.cons_ne_nil t place)
      rw [String.intercalate_cons_cons, segments_append, first, rest]
      rfl

theorem backslash_notMem_intercalate
    (whole : ∀ s ∈ place, ∀ c ∈ s.toList, isSeparator c = false) :
    '\\' ∉ ("/".intercalate place).toList := by
  have none : ∀ s ∈ place, '\\' ∉ s.toList := fun s hs listed =>
    absurd (whole s hs _ listed) (by decide)
  induction place with
  | nil => simp
  | cons s place ih =>
    cases place with
    | nil => simpa using none s List.mem_cons_self
    | cons t place =>
      have rest := ih (fun u hu => whole u (List.mem_cons_of_mem s hu))
        fun u hu => none u (List.mem_cons_of_mem s hu)
      rw [String.intercalate_cons_cons, String.toList_append, String.toList_append, List.mem_append,
        List.mem_append]
      exact not_or.mpr ⟨not_or.mpr ⟨none s List.mem_cons_self, by decide⟩, rest⟩

/-- The path of a file is canonical if it is made of ordinary segments with a `/` between them. -/
structure IsCanonical (path : String) : Prop where
  ordinary : ∀ s ∈ segments path, isOrdinary s = true
  noBackslash : '\\' ∉ path.toList

theorem IsCanonical.ne_empty (canonical : IsCanonical path) : path ≠ "" := by
  rintro rfl
  exact absurd (canonical.ordinary "" (by decide)) (by decide)

theorem Leaves.isSeparator_eq_false (left : Leaves (segments path) place) :
    ∀ s ∈ place, ∀ c ∈ s.toList, isSeparator c = false :=
  fun _ listed => isSeparator_of_mem_segments (left.mem listed).2

/-- What is left of the segments of a path makes a canonical path, if anything is left. -/
theorem Leaves.isCanonical (left : Leaves (segments path) place) (nonempty : place ≠ []) :
    IsCanonical ("/".intercalate place) where
  ordinary := by
    rw [segments_intercalate left.isSeparator_eq_false nonempty]
    exact fun s hs => (left.mem hs).1
  noBackslash := backslash_notMem_intercalate left.isSeparator_eq_false

/-- The canonical form of a path is canonical, if it is not empty. -/
theorem isCanonical_of_normalize? (normal : normalize? path = some key) (nonempty : key ≠ "") :
    IsCanonical key := by
  obtain ⟨place, left, rfl⟩ := normalize?_eq_some_iff.mp normal
  apply left.isCanonical
  rintro rfl
  exact nonempty rfl

/-- The canonical form of a path is its own. -/
theorem normalize?_of_normalize? (normal : normalize? path = some key) :
    normalize? key = some key := by
  obtain ⟨place, left, rfl⟩ := normalize?_eq_some_iff.mp normal
  cases empty : place with
  | nil => decide
  | cons s rest =>
    have nonempty : place ≠ [] := by simp [empty]
    rw [← empty]
    refine normalize?_eq_some_iff.mpr ⟨place, ?_, rfl⟩
    rw [segments_intercalate left.isSeparator_eq_false nonempty]
    exact leaves_self fun t ht => (left.mem ht).1

/-- The name of a file is a segment of its path, unless it has separators of the other kind. -/
theorem fileName_mem_segments (noBackslash : '\\' ∉ path.toList) :
    fileName path ∈ segments path := by
  have name : fileName path =
      String.ofList (path.toList.reverse.takeWhile (· != '/')).reverse := rfl
  have letters : (fileName path).toList = (path.toList.reverse.takeWhile (· != '/')).reverse :=
    String.toList_ofList
  have split := List.takeWhile_append_dropWhile (p := (· != '/')) (l := path.toList.reverse)
  have whole : ∀ c ∈ (fileName path).toList, isSeparator c = false := by
    intro c hc
    rw [letters, List.mem_reverse] at hc
    have noSlash : c ≠ '/' := by
      simpa using List.all_eq_true.mp (List.all_takeWhile (p := (· != '/'))) c hc
    have noBackslash : c ≠ '\\' := by
      rintro rfl
      exact noBackslash (List.mem_reverse.mp ((List.takeWhile_prefix _).subset hc))
    simp [isSeparator, noSlash, noBackslash]
  cases before : path.toList.reverse.dropWhile (· != '/') with
  | nil =>
    -- There is no directory in front, so the path is its own only segment.
    have same : fileName path = path := by
      rw [before, List.append_nil] at split
      rw [name, split, List.reverse_reverse, String.ofList_toList]
    rw [same] at whole ⊢
    simp [segments_of_forall whole]
  | cons c more =>
    -- What is in front ends with a slash, and the name is the last segment.
    have slash : c = '/' := by
      have head := List.head?_dropWhile_not (· != '/') path.toList.reverse
      simpa [before] using head
    have parts : path = String.ofList more.reverse ++ "/" ++ fileName path := by
      rw [before, slash] at split
      have reversed := congrArg List.reverse split
      rw [List.reverse_reverse, List.reverse_append, List.reverse_cons, ← letters] at reversed
      refine String.toList_inj.mp (reversed.symm.trans ?_)
      rw [String.toList_append, String.toList_append, String.toList_ofList]
      rfl
    have listed : fileName path ∈
        segments (String.ofList more.reverse) ++ segments (fileName path) := by
      simp [segments_of_forall whole]
    rw [← segments_append, ← parts] at listed
    exact listed

/-- A canonical path has the same parts, whichever separators are looked at. -/
theorem IsCanonical.partsOf_eq (canonical : IsCanonical path) : partsOf path = segments path := by
  rw [partsOf, segments, splitWhere_congr fun c hc => ?_]
  have other : c ≠ '\\' := by
    rintro rfl
    exact canonical.noBackslash hc
  simp [other]

/-- The segments of a canonical path are plain. -/
theorem IsCanonical.isPlain (canonical : IsCanonical path) : ∀ s ∈ partsOf path, IsPlain s := by
  intro s hs
  rw [canonical.partsOf_eq] at hs
  obtain ⟨nonempty, noDot, noUp⟩ := isOrdinary_iff.mp (canonical.ordinary s hs)
  exact ⟨nonempty, noDot, noUp, fun slash =>
    absurd (isSeparator_of_mem_segments hs '/' slash) (by decide)⟩

end Canonical

end Path

/-! ### Following canonical paths -/

/-- What a path leads to does not depend on the directories that the one it starts from stands in:
it never leads out of that one. -/
def DirectoryEntry.StaysWithin (path : String) : Prop :=
  ∀ (root : Directory) (around : List DirectoryEntry),
    follow around (.directory root) (partsOf path) = follow [] (.directory root) (partsOf path)

namespace DirectoryEntry

theorem follow_eq_of_isPlain {segments : List String} (plain : ∀ s ∈ segments, IsPlain s)
    (entry : DirectoryEntry) (above around : List DirectoryEntry) :
    follow above entry segments = follow around entry segments := by
  induction segments generalizing entry above around with
  | nil => cases entry <;> rfl
  | cons s segments ih =>
    cases entry with
    | file text => rfl
    | directory es =>
      have first := plain s List.mem_cons_self
      rw [follow_cons_plain first, follow_cons_plain first]
      cases Entries.get? s es with
      | none => rfl
      | some entry => exact ih (fun t ht => plain t (List.mem_cons_of_mem s ht)) entry _ _

end DirectoryEntry

namespace Resolver

open Path

variable {r : Resolver} {reference key : String} {source : Option String}

/-- The file that a canonical path means has a canonical path. -/
theorem isCanonical_complete (separate : ∀ c ∈ r.extension.toList, isSeparator c = false)
    (canonical : IsCanonical key) : IsCanonical (r.complete key) := by
  unfold complete
  have listed := fileName_mem_segments canonical.noBackslash
  generalize fileName key = name at listed
  have ordinary := canonical.ordinary name listed
  have noSeparator := isSeparator_of_mem_segments listed
  by_cases dotted : name.toList.contains '.'
  · rwa [if_pos dotted]
  · -- The new last segment is the name with the extension. As the name has no dot, it is ordinary
    -- whatever the extension is.
    rw [if_neg dotted, String.append_assoc]
    have whole : ∀ c ∈ (name ++ r.extension).toList, isSeparator c = false := by
      intro c hc
      rw [String.toList_append] at hc
      exact (List.mem_append.mp hc).elim (noSeparator c) (separate c)
    refine ⟨fun s hs => ?_, fun backslash => ?_⟩
    · rw [segments_append, segments_of_forall whole] at hs
      rcases List.mem_append.mp hs with hs | hs
      · exact canonical.ordinary s hs
      · obtain rfl := List.mem_singleton.mp hs
        exact isOrdinary_append ordinary (by simpa using dotted)
    · rw [String.toList_append, String.toList_append, List.mem_append, List.mem_append] at backslash
      rcases backslash with (before | slash) | after
      · exact canonical.noBackslash before
      · exact absurd slash (by decide)
      · exact absurd (whole _ after) (by decide)

/-- A reference means nothing if its alias is unknown, if the path that it spells climbs above the
root, or if nothing is left of that path. -/
def Misses (r : Resolver) (reference : String) (source : Option String) : Prop :=
  (∃ name rest, cutAlias? (trim reference) = some (name, rest) ∧ r.aliases.get? name = none) ∨
    ∃ path, r.spelled (trim reference) source = .ok path ∧
      (Climbs (segments path) ∨ Leaves (segments path) [])

/-- Nothing is spelled exactly if the alias is unknown. -/
theorem exists_spelled_eq_error_iff : (∃ reason, r.spelled reference source = .error reason) ↔
    ∃ name rest, cutAlias? reference = some (name, rest) ∧ r.aliases.get? name = none := by
  unfold spelled
  cases aliased : cutAlias? reference with
  | none => cases dropStart? reference "/" <;> simp
  | some found =>
    obtain ⟨name, rest⟩ := found
    cases target : r.aliases.get? name <;> simp [target]

/-- A reference that means nothing is invalid. -/
theorem exists_resolve_eq_error (misses : r.Misses reference source) :
    ∃ reason, r.resolve reference source = .error (.invalidReference reference reason) := by
  rcases misses with unknown | ⟨path, spelled, climbs | nothing⟩
  · obtain ⟨reason, spelled⟩ : ∃ reason, r.spelled (trim reference) source = .error reason :=
      exists_spelled_eq_error_iff.mpr unknown
    refine ⟨reason, ?_⟩
    simp only [resolve, spelled]
  · have outside := normalize?_eq_none_iff.mpr climbs
    refine ⟨escapeReason path, ?_⟩
    simp only [resolve, spelled, outside]
  · have root : normalize? path = some "" := normalize?_eq_some_iff.mpr ⟨[], nothing, rfl⟩
    refine ⟨"empty reference", ?_⟩
    simp only [resolve, spelled, root, BEq.rfl, if_true]

/-- Any other reference means the file of what is left of the path that it spells. -/
theorem exists_resolve_eq_ok (hits : ¬ r.Misses reference source) :
    ∃ path place, r.spelled (trim reference) source = .ok path ∧ Leaves (segments path) place ∧
      IsCanonical ("/".intercalate place) ∧
      r.resolve reference source = .ok (r.complete ("/".intercalate place)) := by
  obtain ⟨known, inside⟩ := not_or.mp hits
  cases spelled : r.spelled (trim reference) source with
  | error reason => exact absurd (exists_spelled_eq_error_iff.mp ⟨reason, spelled⟩) known
  | ok path =>
    have inside := fun outside => inside ⟨path, spelled, outside⟩
    cases normal : normalize? path with
    | none => exact absurd (.inl (normalize?_eq_none_iff.mp normal)) inside
    | some key =>
      obtain ⟨place, left, rfl⟩ := normalize?_eq_some_iff.mp normal
      have canonical : IsCanonical ("/".intercalate place) := by
        apply left.isCanonical
        rintro rfl
        exact inside (.inr left)
      refine ⟨path, place, rfl, left, canonical, ?_⟩
      simp only [resolve, spelled, normal, beq_iff_eq, canonical.ne_empty, if_false]

/-- Normalizing a path fails exactly if the path climbs above the root, and gives otherwise what is
left of its segments: ordinary ones, in a form that normalizing leaves as it is. A reference, in any
file, is invalid exactly if it means nothing. Otherwise it means a file with a canonical path, which
leads to the same file whatever stands around the root. -/
theorem resolve_canonical_or_invalid (r : Resolver)
    (separate : ∀ c ∈ r.extension.toList, isSeparator c = false) (path reference : String)
    (source : Option String) :
    (normalize? path = none ↔ Climbs (segments path)) ∧
    (∀ key, normalize? path = some key ↔
      ∃ place, Leaves (segments path) place ∧ key = "/".intercalate place) ∧
    (∀ key, normalize? path = some key →
      (key = "" ∨ IsCanonical key) ∧ '\\' ∉ key.toList ∧ normalize? key = some key) ∧
    (r.Misses reference source ∧
        (∃ reason, r.resolve reference source = .error (.invalidReference reference reason)) ∨
      ¬ r.Misses reference source ∧ ∃ spelling place key,
        r.spelled (trim reference) source = .ok spelling ∧ Leaves (segments spelling) place ∧
        key = r.complete ("/".intercalate place) ∧ r.resolve reference source = .ok key ∧
        IsCanonical key ∧ DirectoryEntry.StaysWithin key) := by
  refine ⟨normalize?_eq_none_iff, fun key => normalize?_eq_some_iff, fun key normal => ?_, ?_⟩
  · have form : key = "" ∨ IsCanonical key :=
      or_iff_not_imp_left.mpr (isCanonical_of_normalize? normal)
    refine ⟨form, ?_, normalize?_of_normalize? normal⟩
    rcases form with rfl | canonical
    · simp
    · exact canonical.noBackslash
  · by_cases misses : r.Misses reference source
    · exact .inl ⟨misses, exists_resolve_eq_error misses⟩
    · obtain ⟨spelling, place, spelled, left, canonical, resolved⟩ := exists_resolve_eq_ok misses
      have completed := isCanonical_complete separate canonical
      refine .inr ⟨misses, spelling, place, _, spelled, left, rfl, resolved, completed, ?_⟩
      intro root around
      exact DirectoryEntry.follow_eq_of_isPlain completed.isPlain (.directory root) around []

theorem resolve_canonical_or_invalid_icon :
    (∀ c ∈ standard.extension.toList, isSeparator c = false) ∧
      standard.resolve "../icons/./star" (some "parts/card.webc") = .ok "icons/star/star.webc" ∧
      ¬ standard.Misses "../icons/./star" (some "parts/card.webc") ∧
      IsCanonical "icons/star/star.webc" ∧ DirectoryEntry.StaysWithin "icons/star/star.webc" ∧
      Climbs (segments "a\\..\\../b") := by
  have separate : ∀ c ∈ standard.extension.toList, isSeparator c = false := by
    have same : standard.extension = ".webc" := by rfl
    simp [same, isSeparator]
  have resolved : standard.resolve "../icons/./star" (some "parts/card.webc") =
      .ok "icons/star/star.webc" := by rfl
  obtain ⟨climbs, -, -, outcome⟩ := resolve_canonical_or_invalid standard separate "a\\..\\../b"
    "../icons/./star" (some "parts/card.webc")
  rcases outcome with ⟨-, reason, invalid⟩ | ⟨hits, -, -, key, -, -, -, means, canonical, stays⟩
  · exact nomatch resolved.symm.trans invalid
  · obtain rfl := Except.ok.inj (resolved.symm.trans means)
    exact ⟨separate, resolved, hits, canonical, stays, climbs.mp (by decide)⟩

end Resolver

end ComponentMarkup
