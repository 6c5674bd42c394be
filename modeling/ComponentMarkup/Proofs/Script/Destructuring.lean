import ComponentMarkup.Error
import ComponentMarkup.Proofs.Script.Binding
import Mathlib.Data.List.Perm.Subperm
import Mathlib.Data.List.TakeWhile

/-!
# Object patterns

The properties of an object pattern should receive what the object has under their names, and a rest
element should receive all other entries, in the object's order. Binding takes the entries out of
the object as it goes through the properties. An entry can be taken out once only, so a name that is
listed again receives nothing. And where an entry is taken out, the last of those that are left
comes to its place, so that the rest element receives the right entries, but not always in the
object's order.

The order is that of the object whenever at most one of the entries that are left comes after one
that was taken out. Otherwise there is an order of the properties for which it is not.

## Main definitions

* `unlisted`, `leftAfter` — the entries that are not listed, in their order and as they are left
* `dues`, `shares` — what properties should receive, and what they do receive

## Main results

* `leftAfter_perm`, `leftAfter_eq_unlisted_iff` — which entries are left, and when in their order
* `shares_leftAfter_eq_dues_iff` — when all properties receive what they should
* `bind_object_receives_iff` — what is bound by object patterns
-/

namespace ComponentMarkup.Script

open Entries (lastFirst)
open scoped List

/-! ### Taking entries out -/

section Taking

variable {es : Entries Value} {key : String} {names : List String}

theorem takeField_fst (key : String) (es : Entries Value) :
    (takeField key es).1 = (es.get? key).getD .null := by
  unfold takeField Entries.take?
  cases es.get? key with
  | none => rfl
  | some v => cases es.getLast? <;> rfl

theorem takeField_snd_of_notMem (absent : key ∉ es.keys) : (takeField key es).2 = es := by
  rw [takeField, Entries.take?_eq_none absent]
  rfl

theorem takeField_snd_append_cons {front back : Entries Value} {v : Value}
    (distinct : (Entries.keys (front ++ (key, v) :: back)).Nodup) :
    (takeField key (front ++ (key, v) :: back)).2 = front ++ lastFirst back := by
  rw [takeField, Entries.take?_append_cons distinct]
  rfl

theorem exists_eq_append_cons (listed : key ∈ es.keys) :
    ∃ front v back, es = front ++ (key, v) :: back := by
  obtain ⟨⟨_, v⟩, isEntry, rfl⟩ := List.mem_map.mp listed
  obtain ⟨front, back, split⟩ := List.append_of_mem isEntry
  exact ⟨front, v, back, split⟩

/-- The entries whose names are not listed, in their own order. -/
def unlisted (names : List String) (es : Entries Value) : Entries Value :=
  es.filter fun e => e.1 ∉ names

theorem unlisted_append (names : List String) (front back : Entries Value) :
    unlisted names (front ++ back) = unlisted names front ++ unlisted names back :=
  List.filter_append ..

theorem unlisted_cons_of_mem {v : Value} (listed : key ∈ names) (es : Entries Value) :
    unlisted names ((key, v) :: es) = unlisted names es :=
  List.filter_cons_of_neg (by simp [listed])

theorem unlisted_eq_self (apart : ∀ e ∈ es, e.1 ∉ names) : unlisted names es = es :=
  List.filter_eq_self.mpr fun e listed => decide_eq_true (apart e listed)

/-- What is left when the entries of some names are taken out, one after the other. -/
def leftAfter (names : List String) (es : Entries Value) : Entries Value :=
  names.foldl (fun es name => (takeField name es).2) es

theorem leftAfter_append (names names' : List String) (es : Entries Value) :
    leftAfter (names ++ names') es = leftAfter names' (leftAfter names es) :=
  List.foldl_append

/-- Taking one entry out leaves all others, in some order. -/
theorem takeField_snd_perm (distinct : es.keys.Nodup) (key : String) :
    (takeField key es).2.Perm (unlisted [key] es) := by
  by_cases listed : key ∈ es.keys
  · obtain ⟨front, v, back, rfl⟩ := exists_eq_append_cons listed
    obtain ⟨before, behind⟩ := Entries.ne_of_nodup_append_cons distinct
    have others : unlisted [key] (front ++ (key, v) :: back) = front ++ back := by
      rw [unlisted_append, unlisted_cons_of_mem (List.mem_singleton_self key),
        unlisted_eq_self (by simpa using before), unlisted_eq_self (by simpa using behind)]
    rw [takeField_snd_append_cons distinct, others]
    exact (Entries.lastFirst_perm back).append_left front
  · rw [takeField_snd_of_notMem listed, unlisted_eq_self]
    intro e isEntry same
    exact listed (List.mem_singleton.mp same ▸ List.mem_map_of_mem isEntry)

theorem nodup_keys_takeField (distinct : es.keys.Nodup) (key : String) :
    (Entries.keys (takeField key es).2).Nodup :=
  ((takeField_snd_perm distinct key).map Prod.fst).nodup_iff.mpr
    (Entries.nodup_keys_filter distinct _)

/-- Exactly the entries that are not listed are left. -/
theorem leftAfter_perm (distinct : es.keys.Nodup) (names : List String) :
    (leftAfter names es).Perm (unlisted names es) := by
  induction names generalizing es with
  | nil => simp [leftAfter, unlisted]
  | cons name names ih =>
    calc leftAfter (name :: names) es
      _ ~ unlisted names (takeField name es).2 := ih (nodup_keys_takeField distinct name)
      _ ~ unlisted names (unlisted [name] es) := (takeField_snd_perm distinct name).filter _
      _ = unlisted (name :: names) es := by
        simp [unlisted, List.filter_filter, Bool.and_comm]

theorem nodup_keys_leftAfter (distinct : es.keys.Nodup) (names : List String) :
    (leftAfter names es).keys.Nodup :=
  ((leftAfter_perm distinct names).map Prod.fst).nodup_iff.mpr
    (Entries.nodup_keys_filter distinct _)

/-- A name that was listed has no entry any more, and all others have theirs. -/
theorem get?_leftAfter (distinct : es.keys.Nodup) (names : List String) (key : String) :
    (leftAfter names es).get? key = if key ∈ names then none else es.get? key := by
  have perm := leftAfter_perm distinct names
  have nodup := Entries.nodup_keys_filter distinct fun e => e.1 ∉ names
  rw [← Entries.get?_eq_of_perm nodup perm.symm, Entries.get?_filter distinct]
  by_cases listed : key ∈ names
  · cases es.get? key <;> simp [listed]
  · cases es.get? key <;> simp [listed]

/-! ### The order of what is left -/

/-- Entries in front of all that are taken out stay where they are. -/
theorem leftAfter_append_left {front back : Entries Value}
    (distinct : (Entries.keys (front ++ back)).Nodup) (apart : ∀ e ∈ front, e.1 ∉ names) :
    leftAfter names (front ++ back) = front ++ leftAfter names back := by
  induction names generalizing back with
  | nil => rfl
  | cons name names ih =>
    have notInFront : ∀ e ∈ front, e.1 ≠ name := fun e listed same =>
      apart e listed (same ▸ List.mem_cons_self)
    have later : ∀ e ∈ front, e.1 ∉ names := fun e listed isLater =>
      apart e listed (List.mem_cons_of_mem name isLater)
    -- One step takes the entry out of the back, and the last entry is in the back as well.
    have step : (takeField name (front ++ back)).2 = front ++ (takeField name back).2 := by
      by_cases listed : name ∈ back.keys
      · obtain ⟨before, v, behind, rfl⟩ := exists_eq_append_cons listed
        have inBack : (Entries.keys (before ++ (name, v) :: behind)).Nodup := by
          rw [Entries.keys_append] at distinct
          exact (List.nodup_append.mp distinct).2.1
        rw [← List.append_assoc] at distinct ⊢
        rw [takeField_snd_append_cons distinct, takeField_snd_append_cons inBack,
          List.append_assoc]
      · have nowhere : name ∉ Entries.keys (front ++ back) := by
          rw [Entries.keys_append, List.mem_append]
          rintro (isFront | isBack)
          · obtain ⟨e, isEntry, same⟩ := List.mem_map.mp isFront
            exact notInFront e isEntry same
          · exact listed isBack
        rw [takeField_snd_of_notMem nowhere, takeField_snd_of_notMem listed]
    calc leftAfter (name :: names) (front ++ back)
      _ = leftAfter names (front ++ (takeField name back).2) := congrArg (leftAfter names) step
      _ = front ++ leftAfter names (takeField name back).2 :=
        ih (step ▸ nodup_keys_takeField distinct name) later

/-- Entries at the end leave no trace if the last of them goes first. -/
theorem leftAfter_reverse_keys {front back : Entries Value}
    (distinct : (Entries.keys (front ++ back)).Nodup) :
    leftAfter (Entries.keys back).reverse (front ++ back) = front := by
  induction back using List.reverseRecOn with
  | nil => simp [leftAfter]
  | append_singleton back e ih =>
    rw [← List.append_assoc] at distinct ⊢
    have last : (takeField e.1 (front ++ back ++ [e])).2 = front ++ back := by
      rw [takeField_snd_append_cons distinct]
      simp [lastFirst]
    have order : (Entries.keys (back ++ [e])).reverse = e.1 :: (Entries.keys back).reverse := by
      simp [Entries.keys]
    calc leftAfter (Entries.keys (back ++ [e])).reverse (front ++ back ++ [e])
      _ = leftAfter (Entries.keys back).reverse (takeField e.1 (front ++ back ++ [e])).2 :=
        congrArg (leftAfter · _) order
      _ = leftAfter (Entries.keys back).reverse (front ++ back) := congrArg _ last
      _ = front := ih (last ▸ nodup_keys_takeField distinct e.1)

/-- The entries from the first listed one on. -/
def fromListed (names : List String) (es : Entries Value) : Entries Value :=
  es.dropWhile fun e => e.1 ∉ names

/-- What is in front of the first listed entry is not listed, and nothing else is in front. -/
theorem exists_eq_append_fromListed (names : List String) (es : Entries Value) :
    ∃ front, es = front ++ fromListed names es ∧ (∀ e ∈ front, e.1 ∉ names) ∧
      ∀ e ∈ (fromListed names es).head?, e.1 ∈ names := by
  refine ⟨es.takeWhile fun e => e.1 ∉ names, List.takeWhile_append_dropWhile.symm, ?_, ?_⟩
  · intro e inFront
    simpa using List.mem_takeWhile_imp inFront
  · intro e isFirst
    have stops := List.head?_dropWhile_not (fun e => decide (e.1 ∉ names)) es
    rw [fromListed, Option.mem_def] at isFirst
    rw [isFirst] at stops
    simpa using stops

/-- With at most one entry behind the first one that is taken out, there is nothing to reorder. -/
theorem leftAfter_eq_unlisted (distinct : es.keys.Nodup)
    (short : (unlisted names (fromListed names es)).length ≤ 1) :
    leftAfter names es = unlisted names es := by
  obtain ⟨front, split, apart, -⟩ := exists_eq_append_fromListed names es
  generalize fromListed names es = back at split short
  subst split
  have inBack : (Entries.keys back).Nodup := by
    rw [Entries.keys_append] at distinct
    exact (List.nodup_append.mp distinct).2.1
  have perm := leftAfter_perm inBack names
  rw [leftAfter_append_left distinct apart, unlisted_append, unlisted_eq_self apart]
  cases same : unlisted names back with
  | nil =>
    rw [same] at perm
    rw [List.perm_nil.mp perm]
  | cons e more =>
    obtain rfl : more = [] := by simpa [same] using short
    rw [same] at perm
    rw [List.perm_singleton.mp perm]

/-- The last entry that is not listed has only listed ones behind it. -/
theorem exists_eq_append_of_unlisted {others : Entries Value} {last : String × Value}
    (same : unlisted names es = others ++ [last]) :
    ∃ inner behind, es = inner ++ last :: behind ∧ others ⊆ inner ∧ last.1 ∉ names ∧
      ∀ e ∈ behind, e.1 ∈ names := by
  obtain ⟨before, rest, rfl, ofBefore, ofRest⟩ := List.filter_eq_append_iff.mp same
  obtain ⟨between, behind, rfl, -, lastUnlisted, noneBehind⟩ := List.filter_eq_cons_iff.mp ofRest
  refine ⟨before ++ between, behind, (List.append_assoc ..).symm, ?_,
    of_decide_eq_true lastUnlisted, ?_⟩
  · intro e isOther
    rw [← ofBefore] at isOther
    exact List.mem_append_left between (List.mem_of_mem_filter isOther)
  · simpa using List.filter_eq_nil_iff.mp noneBehind

section LastToFront

variable {front inner behind : Entries Value} {v : Value} {last : String × Value}

/-- If the entries at the end go first, the last of those before them comes to the place of the one
that goes next. -/
theorem leftAfter_behind_first
    (distinct : (Entries.keys (front ++ (key, v) :: (inner ++ [last]) ++ behind)).Nodup) :
    leftAfter ((Entries.keys behind).reverse ++ [key])
      (front ++ (key, v) :: (inner ++ [last]) ++ behind) = front ++ [last] ++ inner := by
  have inFront := distinct.sublist ((List.sublist_append_left _ behind).map Prod.fst)
  rw [leftAfter_append, leftAfter_reverse_keys distinct]
  refine (takeField_snd_append_cons inFront).trans ?_
  simp [Entries.lastFirst_concat]

theorem nodup_behind_first
    (distinct : (Entries.keys (front ++ (key, v) :: (inner ++ [last]) ++ behind)).Nodup) :
    ((Entries.keys behind).reverse ++ [key]).Nodup := by
  have part : [(key, v)] ++ behind <+ front ++ (key, v) :: (inner ++ [last]) ++ behind :=
    (List.singleton_sublist.mpr (by simp)).append_right behind
  have order : (Entries.keys behind).reverse ++ [key] ~ Entries.keys ([(key, v)] ++ behind) :=
    List.perm_append_comm.trans ((List.reverse_perm _).cons key)
  exact order.nodup_iff.mpr (distinct.sublist (part.map Prod.fst))

end LastToFront

/-- Some names of a list can be put in front. -/
theorem append_diff_perm {taken : List String} (distinct : taken.Nodup) (listed : taken ⊆ names) :
    taken ++ names.diff taken ~ names :=
  List.subperm_append_diff_self_of_count_le (List.subperm_ext_iff.mp (distinct.subperm listed))

/-- With two entries behind the first one that is taken out, the last of them comes to the place of
that one, if all that is behind it goes before. -/
theorem exists_leftAfter_ne (distinct : es.keys.Nodup)
    (long : 1 < (unlisted names (fromListed names es)).length) :
    ∃ names', names' ~ names ∧ leftAfter names' es ≠ unlisted names es := by
  obtain ⟨front, split, apart, listed⟩ := exists_eq_append_fromListed names es
  cases begins : fromListed names es with
  | nil => simp [begins, unlisted] at long
  | cons first back =>
    rw [begins] at split long listed
    obtain ⟨key, v⟩ := first
    have keyListed : key ∈ names := listed (key, v) rfl
    rw [unlisted_cons_of_mem keyListed] at long
    rcases List.eq_nil_or_concat (unlisted names back) with none | ⟨others, last, some⟩
    · simp [none] at long
    rw [List.concat_eq_append] at some
    obtain ⟨inner, behind, rfl, fromInner, lastUnlisted, ofBehind⟩ :=
      exists_eq_append_of_unlisted some
    obtain rfl : es = front ++ (key, v) :: (inner ++ [last]) ++ behind := by simpa using split
    -- First what is behind the last entry, from the end on, then the first listed entry.
    let taken := (Entries.keys behind).reverse ++ [key]
    have listedAll : taken ⊆ names := by
      intro name isTaken
      rcases List.mem_append.mp isTaken with isBehind | isFirst
      · obtain ⟨e, isEntry, rfl⟩ := List.mem_map.mp (List.mem_reverse.mp isBehind)
        exact ofBehind e isEntry
      · rwa [List.mem_singleton.mp isFirst]
    have afterTaken := leftAfter_behind_first distinct
    refine ⟨taken ++ names.diff taken, append_diff_perm (nodup_behind_first distinct) listedAll, ?_⟩
    rw [leftAfter_append, afterTaken, leftAfter_append_left]
    · intro moved
      have own : unlisted names (front ++ (key, v) :: (inner ++ [last]) ++ behind) =
          front ++ (others ++ [last]) := by
        rw [split, unlisted_append, unlisted_eq_self apart, unlisted_cons_of_mem keyListed, some]
      rw [own, List.append_assoc, List.append_cancel_left_eq] at moved
      cases others with
      | nil => simp [some] at long
      | cons other others =>
        -- The last entry would be among those before it.
        obtain rfl : last = other := (List.cons.inj moved).1
        have again : last ∈ inner := fromInner List.mem_cons_self
        have whole : front ++ (key, v) :: (inner ++ [last]) ++ behind =
            (front ++ (key, v) :: inner) ++ (last.1, last.2) :: behind := by simp
        rw [whole] at distinct
        exact (Entries.ne_of_nodup_append_cons distinct).1 last (by simp [again]) rfl
    · exact afterTaken ▸ nodup_keys_leftAfter distinct taken
    · intro e isKept later
      rcases List.mem_append.mp isKept with inFront | isLast
      · exact apart e inFront (List.diff_subset names taken later)
      · rw [List.mem_singleton.mp isLast] at later
        exact lastUnlisted (List.diff_subset names taken later)

/-- What is left is in its own order, whatever the order in which the other entries are taken out,
exactly if at most one of the entries that are left comes after one that is taken out. -/
theorem leftAfter_eq_unlisted_iff (distinct : es.keys.Nodup) (names : List String) :
    (∀ names', names' ~ names → leftAfter names' es = unlisted names es) ↔
      (unlisted names (fromListed names es)).length ≤ 1 := by
  constructor
  · intro kept
    by_contra long
    obtain ⟨names', perm, moved⟩ := exists_leftAfter_ne distinct (Nat.lt_of_not_le long)
    exact moved (kept names' perm)
  · intro short names' perm
    have alike : (fun e : String × Value => decide (e.1 ∉ names')) =
        fun e => decide (e.1 ∉ names) := by
      ext e
      simp [perm.mem_iff]
    have sameUnlisted (es : Entries Value) : unlisted names' es = unlisted names es := by
      rw [unlisted, unlisted, alike]
    rw [← sameUnlisted]
    refine leftAfter_eq_unlisted distinct ?_
    rwa [sameUnlisted, fromListed, alike]

end Taking

/-! ### Properties and what they receive -/

/-- The name of a property, and what it is bound to. A key in brackets has a name if it is a
literal. -/
def Target.property? : Target → Option (String × Pattern)
  | .named key target => some (key, target)
  | .computed literal _ target => literal.map (·, target)

/-- What properties receive. Each takes its entry out of those that are left. -/
def shares : Entries Pattern → Entries Value → List (Pattern × Value)
  | [], _ => []
  | (key, p) :: properties, left =>
    (p, (takeField key left).1) :: shares properties (takeField key left).2

/-- What properties should receive: what the object has under their names. -/
def dues (properties : Entries Pattern) (fields : Entries Value) : List (Pattern × Value) :=
  properties.map fun e => (e.2, (fields.get? e.1).getD .null)

/-- A rest element receives an object. -/
def restShare (rest : Option Pattern) (left : Entries Value) : List (Pattern × Value) :=
  rest.toList.map fun p => (p, .record left)

/-- What an object pattern should bind: its properties to what the object has under their names, and
a rest element to the other entries in the object's order. -/
def meantParts (properties : Entries Pattern) (rest : Option Pattern) (fields : Entries Value) :
    List (Pattern × Value) :=
  dues properties fields ++ restShare rest (unlisted properties.keys fields)

/-- What an object pattern does bind. -/
def boundParts (properties : Entries Pattern) (rest : Option Pattern) (fields : Entries Value) :
    List (Pattern × Value) :=
  shares properties fields ++ restShare rest (leftAfter properties.keys fields)

section Properties

variable {t : Target} {ts : List Target} {properties : Entries Pattern} {rest : Option Pattern}
  {left left' fields frame frame' : Entries Value}

theorem bindTarget_eq_ok_iff : bindTarget t left frame = .ok (left', frame') ↔
    ∃ key p, t.property? = some (key, p) ∧ left' = (takeField key left).2 ∧
      p.bind (takeField key left).1 frame = .ok frame' := by
  have whole : bindTarget t left frame = match t.property? with
      | none => .error .computedKeyInPattern
      | some (key, p) =>
        p.bind (takeField key left).1 frame >>= fun frame =>
          .ok ((takeField key left).2, frame) := by
    cases t with
    | named key target => rfl
    | computed literal key target => cases literal <;> rfl
  rw [whole]
  cases t.property? with
  | none => simp
  | some property =>
    obtain ⟨key, p⟩ := property
    rw [Compiled.bind_eq_ok]
    constructor
    · rintro ⟨inner, bound, same⟩
      obtain ⟨rfl, rfl⟩ := Prod.mk.inj (Except.ok.inj same)
      exact ⟨key, p, rfl, rfl, bound⟩
    · rintro ⟨_, _, same, rfl, bound⟩
      obtain ⟨rfl, rfl⟩ := Prod.mk.inj (Option.some.inj same)
      exact ⟨frame', bound, rfl⟩

/-- The properties of a pattern are an assignment, if all their keys have names. -/
theorem bindTargets_eq_ok_iff : bindTargets ts left frame = .ok (left', frame') ↔
    ∃ properties : Entries Pattern, ts.mapM Target.property? = some properties ∧
      left' = leftAfter properties.keys left ∧
      bindEach (shares properties left) frame = .ok frame' := by
  induction ts generalizing left frame with
  | nil =>
    constructor
    · intro bound
      obtain ⟨rfl, rfl⟩ := Prod.mk.inj (Except.ok.inj bound)
      exact ⟨[], rfl, rfl, rfl⟩
    · rintro ⟨properties, none, rfl, bound⟩
      obtain rfl : [] = properties := Option.some.inj none
      obtain rfl := Except.ok.inj bound
      rfl
  | cons t ts ih =>
    rw [bindTargets, Compiled.bind_eq_ok, List.mapM_cons]
    constructor
    · rintro ⟨⟨between, inner⟩, first, others⟩
      obtain ⟨key, p, isNamed, rfl, bound⟩ := bindTarget_eq_ok_iff.mp first
      obtain ⟨properties, areNamed, rfl, bound'⟩ := ih.mp others
      exact ⟨(key, p) :: properties, by simp [isNamed, areNamed], rfl,
        Compiled.bind_eq_ok.mpr ⟨inner, bound, bound'⟩⟩
    · rintro ⟨properties, areNamed, rfl, bound⟩
      obtain ⟨⟨key, p⟩, isNamed, more⟩ := Option.bind_eq_some_iff.mp areNamed
      obtain ⟨properties', areNamed', same⟩ := Option.bind_eq_some_iff.mp more
      obtain rfl : (key, p) :: properties' = properties := Option.some.inj same
      obtain ⟨inner, first, others⟩ := Compiled.bind_eq_ok.mp bound
      exact ⟨(_, inner), bindTarget_eq_ok_iff.mpr ⟨key, p, isNamed, rfl, first⟩,
        ih.mpr ⟨properties', areNamed', rfl, others⟩⟩

theorem bindRest_eq_bindEach (rest : Option Pattern) (left frame : Entries Value) :
    bindRest rest (.record left) frame = bindEach (restShare rest left) frame := by
  cases rest with
  | none => rfl
  | some p =>
    change _ = p.bind (.record left) frame >>= bindEach []
    rw [bindRest]
    cases p.bind (.record left) frame <;> rfl

/-- An object pattern is an assignment, if all its keys have names. -/
theorem bind_object_eq_ok_iff : (Pattern.object ts rest).bind (.record fields) frame = .ok frame' ↔
    ∃ properties : Entries Pattern, ts.mapM Target.property? = some properties ∧
      bindEach (boundParts properties rest fields) frame = .ok frame' := by
  rw [Pattern.bind, Compiled.bind_eq_ok]
  constructor
  · rintro ⟨⟨left, inner⟩, targets, bound⟩
    obtain ⟨properties, areNamed, rfl, bound'⟩ := bindTargets_eq_ok_iff.mp targets
    refine ⟨properties, areNamed, ?_⟩
    rw [boundParts, bindEach_append]
    exact Compiled.bind_eq_ok.mpr ⟨inner, bound', bindRest_eq_bindEach .. ▸ bound⟩
  · rintro ⟨properties, areNamed, bound⟩
    rw [boundParts, bindEach_append] at bound
    obtain ⟨inner, targets, bound⟩ := Compiled.bind_eq_ok.mp bound
    exact ⟨(_, inner), bindTargets_eq_ok_iff.mpr ⟨properties, areNamed, rfl, targets⟩,
      (bindRest_eq_bindEach ..).trans bound⟩

/-- A property receives what it should, unless its name was taken out before. -/
theorem takeField_fst_leftAfter (distinct : fields.keys.Nodup) (seen : List String)
    (key : String) : (takeField key (leftAfter seen fields)).1 =
      if key ∈ seen then .null else (fields.get? key).getD .null := by
  rw [takeField_fst, get?_leftAfter distinct]
  split <;> rfl

/-- Properties receive what they should exactly if those whose names were listed before should
receive nothing. -/
theorem shares_leftAfter_eq_dues_iff (distinct : fields.keys.Nodup) (seen : List String) :
    shares properties (leftAfter seen fields) = dues properties fields ↔
      ∀ (front : Entries Pattern) key p back, properties = front ++ (key, p) :: back →
        key ∈ seen ++ front.keys → (fields.get? key).getD .null = .null := by
  induction properties generalizing seen with
  | nil => simp [shares, dues]
  | cons property properties ih =>
    obtain ⟨key, p⟩ := property
    have next : (takeField key (leftAfter seen fields)).2 = leftAfter (seen ++ [key]) fields := by
      rw [leftAfter_append]
      rfl
    have first : (takeField key (leftAfter seen fields)).1 = (fields.get? key).getD .null ↔
        (key ∈ seen → (fields.get? key).getD .null = .null) := by
      rw [takeField_fst_leftAfter distinct]
      by_cases listed : key ∈ seen
      · simp [listed, eq_comm]
      · simp [listed]
    have parts : shares ((key, p) :: properties) (leftAfter seen fields) =
          dues ((key, p) :: properties) fields ↔
        (takeField key (leftAfter seen fields)).1 = (fields.get? key).getD .null ∧
          shares properties (leftAfter (seen ++ [key]) fields) = dues properties fields := by
      rw [shares, next]
      simp [dues]
    rw [parts, first, ih]
    constructor
    · rintro ⟨ofFirst, ofOthers⟩ front key' p' back split listed
      cases front with
      | nil =>
        obtain ⟨same, -⟩ := List.cons.inj split
        obtain ⟨rfl, -⟩ := Prod.mk.inj same
        exact ofFirst (by simpa using listed)
      | cons e front =>
        obtain ⟨rfl, others⟩ := List.cons.inj split
        exact ofOthers front key' p' back others (by simpa [or_assoc] using listed)
    · intro all
      refine ⟨fun listed => all [] key p properties rfl (by simpa using listed), ?_⟩
      intro front key' p' back split listed
      refine all ((key, p) :: front) key' p' back (by rw [split]; rfl) ?_
      simpa [or_assoc] using listed

theorem length_shares (properties : Entries Pattern) (left : Entries Value) :
    (shares properties left).length = properties.length := by
  induction properties generalizing left with
  | nil => rfl
  | cons property properties ih => exact congrArg (· + 1) (ih _)

theorem restShare_eq_iff : restShare rest left = restShare rest left' ↔
    rest = none ∨ left = left' := by
  cases rest <;> simp [restShare]

/-- The parts are what they should be exactly if this holds of the properties and of the rest. -/
theorem boundParts_eq_meantParts_iff (distinct : fields.keys.Nodup) :
    boundParts properties rest fields = meantParts properties rest fields ↔
      (∀ (front : Entries Pattern) key p back, properties = front ++ (key, p) :: back →
        key ∈ front.keys → (fields.get? key).getD .null = .null) ∧
      (rest = none ∨ leftAfter properties.keys fields = unlisted properties.keys fields) := by
  have lengths : (shares properties fields).length = (dues properties fields).length := by
    rw [length_shares, dues, List.length_map]
  have parts : boundParts properties rest fields = meantParts properties rest fields ↔
      shares properties fields = dues properties fields ∧
        restShare rest (leftAfter properties.keys fields) =
          restShare rest (unlisted properties.keys fields) := by
    constructor
    · exact fun same => List.append_inj same lengths
    · rintro ⟨ofProperties, ofRest⟩
      rw [boundParts, meantParts, ofProperties, ofRest]
  rw [parts, restShare_eq_iff]
  exact and_congr_left fun _ => shares_leftAfter_eq_dues_iff distinct []

/-- An object pattern, in a declaration or a parameter, is accepted exactly if it has no default
values and all its keys have names. It binds its properties and its rest element one after the
other. They receive what they should exactly if every name that is listed again has nothing in the
object, and the entries that are left are in the object's order. They always are the entries that
are not listed; and they are in the object's order, whatever the order of the properties, exactly if
at most one of them comes after one that is listed. -/
theorem bind_object_receives_iff (distinct : fields.keys.Nodup) (ts : List Target)
    (rest : Option Pattern) :
    (∀ frame, (∃ frame', (Pattern.object ts rest).bind (.record fields) frame = .ok frame') ↔
      (Pattern.object ts rest).IsSupported) ∧
    (∀ frame frame', (Pattern.object ts rest).bind (.record fields) frame = .ok frame' ↔
      ∃ properties : Entries Pattern, ts.mapM Target.property? = some properties ∧
        bindEach (boundParts properties rest fields) frame = .ok frame') ∧
    (∀ default frame, bindParam (.mk (.object ts rest) default) (.record fields) frame =
      (Pattern.object ts rest).bind (.record fields) frame) ∧
    (∀ s value, evalOption s value = .ok (.record fields) →
      declare s (.mk (.object ts rest) value) =
        (Eval.of ((Pattern.object ts rest).bind (.record fields) s.top)).map s.withTop) ∧
    ∀ properties : Entries Pattern,
      (boundParts properties rest fields = meantParts properties rest fields ↔
        (∀ (front : Entries Pattern) key p back, properties = front ++ (key, p) :: back →
          key ∈ front.keys → (fields.get? key).getD .null = .null) ∧
        (rest = none ∨ leftAfter properties.keys fields = unlisted properties.keys fields)) ∧
      leftAfter properties.keys fields ~ unlisted properties.keys fields ∧
      ((∀ names, names ~ properties.keys →
          leftAfter names fields = unlisted properties.keys fields) ↔
        (unlisted properties.keys (fromListed properties.keys fields)).length ≤ 1) := by
  refine ⟨((Pattern.object ts rest).writes (.record fields)).accepted_iff,
    fun frame frame' => bind_object_eq_ok_iff, fun default frame => rfl, ?_, ?_⟩
  · intro s value evaluated
    rw [declare, evaluated]
    change (Eval.of ((Pattern.object ts rest).bind (.record fields) s.top) >>= fun frame =>
      .ok (s.withTop frame)) = _
    cases Eval.of ((Pattern.object ts rest).bind (.record fields) s.top) <;> rfl
  · intro properties
    exact ⟨boundParts_eq_meantParts_iff distinct, leftAfter_perm distinct _,
      leftAfter_eq_unlisted_iff distinct _⟩

end Properties

/-- The properties of the pattern `{title: name, ...others}`. -/
def cardProperties : List Target := [.named "title" (.name "name")]

/-- An object with an entry behind the one that the pattern lists. -/
def cardFields : Entries Value := [("title", .text "Card"), ("label", .text "a")]

theorem bind_object_receives_iff_card :
    cardFields.keys.Nodup ∧
      (Pattern.object cardProperties (some (.name "others"))).bind (.record cardFields) [] =
        .ok [("name", .text "Card"), ("others", .record [("label", .text "a")])] := by
  have distinct : cardFields.keys.Nodup := by decide
  obtain ⟨-, accepted, -, -, parts⟩ :=
    bind_object_receives_iff distinct cardProperties (some (.name "others"))
  obtain ⟨received, -, order⟩ := parts [("title", .name "name")]
  have inOrder := order.mpr (by decide) ["title"] (.refl _)
  have meant := received.mpr ⟨fun front key p back split listed => ?_, .inr inOrder⟩
  · refine ⟨distinct, (accepted _ _).mpr ⟨[("title", .name "name")], rfl, ?_⟩⟩
    rw [meant]
    rfl
  · -- There is no property before the only one.
    cases front with
    | nil => exact nomatch listed
    | cons e front => simp at split

/-- A name that is listed twice, and two entries that the pattern leaves. -/
def crowdedPattern : String :=
  "const \x7ba: x, a: y, ...others\x7d = \x7ba: 't', b: 'u', c: 'v'\x7d"

/-- The second property of the name receives nothing, and the entries that are left are not in the
object's order. -/
theorem exists_object_misbound :
    (evaluateBindings crowdedPattern (.ofGlobals [] [])).map (fun bindings =>
      (bindings.keys, (bindings.get? "x").map Value.display, (bindings.get? "y").map Value.isNull,
        (bindings.get? "others").map fun v => v.fields.keys)) =
      .ok (["x", "y", "others"], some "t", some true, some ["c", "b"]) :=
  Compiled.eq_ok_of_toOption (by decide +kernel)

end ComponentMarkup.Script
