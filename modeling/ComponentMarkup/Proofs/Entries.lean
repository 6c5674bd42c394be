import ComponentMarkup.Entries
import Mathlib.Data.List.Induction
import Mathlib.Data.List.Nodup

/-!
# The dictionary of a list of pairs

A dictionary that is made of a list of pairs has the names of the pairs, each once. It keeps the
first place of a name and its last value. Where the pairs stand in an order, both can be told from
the order alone: a name has the value of its greatest pair, and a name whose least pair comes first
is listed first.

The names of a list of pairs are the first of each. That `List.eraseDups` keeps the first of each is
said by what it does with one more element at the end, which is how lists grow here.

## Main results

* `eraseDups_concat_of_mem`, `eraseDups_concat_of_notMem` — one more element at the end
* `get?_ofPairs`, `get?_ofPairs_eq_some_iff` — a name has its last value
* `nodup_keys_ofPairs`, `mem_keys_ofPairs`, `keys_ofPairs`, `pairwise_keys_ofPairs` — the names, and
  their order
* `get?_extend` — a dictionary that is inserted goes before what was there
* `take?_append_cons` — the last entry moves to the place of one that is taken out
* `eq_iff_keys_get?` — dictionaries are equal if they have the same names in the same order and the
  same values
* `keys_filter` — the names of chosen entries
-/

namespace ComponentMarkup

/-! ### The first of each -/

section eraseDups

variable {α : Type} [BEq α] [LawfulBEq α] {xs ys : List α} {x : α}

theorem eraseDups_concat_of_mem (listed : x ∈ xs) : (xs ++ [x]).eraseDups = xs.eraseDups := by
  simp [List.eraseDups_append, List.removeAll, listed]

theorem eraseDups_concat_of_notMem (new : x ∉ xs) :
    (xs ++ [x]).eraseDups = xs.eraseDups ++ [x] := by
  simp [List.eraseDups_append, List.removeAll, new, List.eraseDups_cons]

theorem eraseDups_eraseDups (xs : List α) : xs.eraseDups.eraseDups = xs.eraseDups := by
  induction xs using List.reverseRecOn with
  | nil => rfl
  | append_singleton xs x ih =>
    by_cases listed : x ∈ xs
    · rw [eraseDups_concat_of_mem listed, ih]
    · rw [eraseDups_concat_of_notMem listed,
        eraseDups_concat_of_notMem (mt List.mem_eraseDups.mp listed), ih]

theorem filter_eraseDups (p : α → Bool) (xs : List α) :
    xs.eraseDups.filter p = (xs.filter p).eraseDups := by
  induction xs using List.reverseRecOn with
  | nil => rfl
  | append_singleton xs x ih =>
    rw [List.filter_append]
    by_cases listed : x ∈ xs
    · rw [eraseDups_concat_of_mem listed, ih]
      by_cases kept : p x = true
      · rw [List.filter_cons_of_pos kept, List.filter_nil,
          eraseDups_concat_of_mem (List.mem_filter.mpr ⟨listed, kept⟩)]
      · simp [kept]
    · rw [eraseDups_concat_of_notMem listed, List.filter_append, ih]
      by_cases kept : p x = true
      · rw [List.filter_cons_of_pos kept, List.filter_nil,
          eraseDups_concat_of_notMem fun h => listed (List.mem_filter.mp h).1]
      · simp [kept]

/-- Repetitions in the second part may be left out beforehand. -/
theorem eraseDups_append_eraseDups (xs ys : List α) :
    (xs ++ ys.eraseDups).eraseDups = (xs ++ ys).eraseDups := by
  rw [List.eraseDups_append, List.eraseDups_append, List.removeAll, filter_eraseDups,
    eraseDups_eraseDups, ← List.removeAll]

/-- So may those in the first part. -/
theorem eraseDups_eraseDups_append (xs ys : List α) :
    (xs.eraseDups ++ ys).eraseDups = (xs ++ ys).eraseDups := by
  have same : ys.removeAll xs.eraseDups = ys.removeAll xs := by simp [List.removeAll]
  rw [List.eraseDups_append, List.eraseDups_append, eraseDups_eraseDups, same]

theorem nodup_eraseDups (xs : List α) : xs.eraseDups.Nodup := by
  induction xs using List.reverseRecOn with
  | nil => exact List.nodup_nil
  | append_singleton xs x ih =>
    by_cases listed : x ∈ xs
    · rwa [eraseDups_concat_of_mem listed]
    · rw [eraseDups_concat_of_notMem listed]
      simpa using ih.concat (mt List.mem_eraseDups.mp listed)

theorem eraseDups_eq_self (distinct : xs.Nodup) : xs.eraseDups = xs := by
  induction xs using List.reverseRecOn with
  | nil => rfl
  | append_singleton xs x ih =>
    obtain ⟨earlier, -, apart⟩ := List.nodup_append.mp distinct
    have new : x ∉ xs := fun listed => apart x listed x (by simp) rfl
    rw [eraseDups_concat_of_notMem new, ih earlier]

end eraseDups

namespace Entries

variable {α : Type}

theorem keys_append (es more : Entries α) : keys (es ++ more) = es.keys ++ more.keys :=
  List.map_append

theorem ofPairs_concat (pairs : List (String × α)) (e : String × α) :
    ofPairs (pairs ++ [e]) = insert e.1 e.2 (ofPairs pairs) := by
  rw [ofPairs, extend, List.foldl_append]
  rfl

/-! ### Values -/

/-- The dictionary of a list of pairs has the last value of each name. -/
theorem get?_ofPairs (pairs : List (String × α)) (name : String) :
    get? name (ofPairs pairs) = ((pairs.filter (·.1 == name)).getLast?).map Prod.snd := by
  induction pairs using List.reverseRecOn with
  | nil => rfl
  | append_singleton pairs e ih =>
    rw [ofPairs_concat, get?_insert, ih, List.filter_append]
    by_cases h : e.1 = name <;> simp [h]

/-- What a name has in the dictionary of a list of pairs is a pair of the list. -/
theorem mem_of_get?_ofPairs {pairs : List (String × α)} {name : String} {value : α}
    (found : get? name (ofPairs pairs) = some value) : (name, value) ∈ pairs := by
  rw [get?_ofPairs] at found
  obtain ⟨⟨name', value⟩, last, rfl⟩ := Option.map_eq_some_iff.mp found
  obtain ⟨listed, same⟩ := List.mem_filter.mp (List.mem_of_getLast? last)
  obtain rfl : name' = name := beq_iff_eq.mp same
  exact listed

/-- The last element of a list in order is the one that comes after all others. -/
theorem getLast?_eq_some_iff_of_pairwise {β : Type} {r : β → β → Prop} [Std.Asymm r] {l : List β}
    (sorted : l.Pairwise r) {b : β} : l.getLast? = some b ↔ b ∈ l ∧ ∀ a ∈ l, a = b ∨ r a b := by
  constructor
  · intro last
    obtain ⟨before, rfl⟩ := List.getLast?_eq_some_iff.mp last
    refine ⟨List.mem_append_right before List.mem_cons_self, fun a listed => ?_⟩
    rcases List.mem_append.mp listed with earlier | same
    · exact .inr (sorted.rel_of_mem_append earlier List.mem_cons_self)
    · exact .inl (List.mem_singleton.mp same)
  · rintro ⟨listed, greatest⟩
    obtain ⟨c, last⟩ : ∃ c, l.getLast? = some c :=
      ⟨_, List.getLast?_eq_some_getLast (List.ne_nil_of_mem listed)⟩
    obtain ⟨before, rfl⟩ := List.getLast?_eq_some_iff.mp last
    rcases greatest c (List.mem_append_right before List.mem_cons_self) with same | back
    · rw [last, same]
    · rcases List.mem_append.mp listed with earlier | same
      · -- The last element would come both before and after the greatest.
        have forth : r b c := sorted.rel_of_mem_append earlier List.mem_cons_self
        exact absurd back (Std.Asymm.asymm b c forth)
      · rw [last, List.mem_singleton.mp same]

/-- With pairs in order, a name has the value of the greatest of its pairs. -/
theorem get?_ofPairs_eq_some_iff {r : String × α → String × α → Prop} [Std.Asymm r]
    {pairs : List (String × α)} (sorted : pairs.Pairwise r) {name : String} {value : α} :
    get? name (ofPairs pairs) = some value ↔ (name, value) ∈ pairs ∧
      ∀ e ∈ pairs, e.1 = name → e = (name, value) ∨ r e (name, value) := by
  have named : (pairs.filter (·.1 == name)).Pairwise r := sorted.filter _
  have whole : get? name (ofPairs pairs) = some value ↔
      (pairs.filter (·.1 == name)).getLast? = some (name, value) := by
    rw [get?_ofPairs, Option.map_eq_some_iff]
    constructor
    · rintro ⟨⟨name', value'⟩, last, rfl⟩
      have same := (List.mem_filter.mp (List.mem_of_getLast? last)).2
      obtain rfl : name' = name := beq_iff_eq.mp same
      exact last
    · intro last
      exact ⟨_, last, rfl⟩
  rw [whole, getLast?_eq_some_iff_of_pairwise named]
  simp only [List.mem_filter, beq_iff_eq, and_true, and_imp]

/-! ### Names -/

theorem nodup_keys_ofPairs (pairs : List (String × α)) : (keys (ofPairs pairs)).Nodup := by
  induction pairs using List.reverseRecOn with
  | nil => exact List.nodup_nil
  | append_singleton pairs e ih =>
    rw [ofPairs_concat]
    exact nodup_keys_insert ih e.1 e.2

theorem mem_keys_ofPairs {pairs : List (String × α)} {name : String} :
    name ∈ keys (ofPairs pairs) ↔ name ∈ pairs.map Prod.fst := by
  induction pairs using List.reverseRecOn with
  | nil => rfl
  | append_singleton pairs e ih =>
    rw [ofPairs_concat, keys_insert, List.map_append, List.mem_append, ← ih]
    split
    · rename_i known
      constructor
      · exact .inl
      · rintro (listed | same)
        · exact listed
        · obtain rfl := List.mem_singleton.mp same
          exact known
    · exact List.mem_append

/-- The names of a dictionary that is made of pairs are the first of each. -/
theorem keys_ofPairs (pairs : List (String × α)) :
    keys (ofPairs pairs) = (pairs.map Prod.fst).eraseDups := by
  induction pairs using List.reverseRecOn with
  | nil => rfl
  | append_singleton pairs e ih =>
    rw [ofPairs_concat, keys_insert, List.map_append]
    split
    · rename_i known
      rw [ih, List.map_singleton, eraseDups_concat_of_mem (mem_keys_ofPairs.mp known)]
    · rename_i new
      rw [ih, List.map_singleton, eraseDups_concat_of_notMem (mt mem_keys_ofPairs.mpr new)]

theorem insert_of_notMem {es : Entries α} {name : String} (new : name ∉ es.keys) (value : α) :
    insert name value es = es ++ [(name, value)] := by
  induction es with
  | nil => rfl
  | cons e es ih =>
    rw [keys_cons, List.mem_cons, not_or] at new
    simp [insert, Ne.symm new.1, ih new.2]

/-- Pairs of distinct names are a dictionary as they are. -/
theorem ofPairs_eq_self {pairs : List (String × α)} (distinct : (pairs.map Prod.fst).Nodup) :
    ofPairs pairs = pairs := by
  induction pairs using List.reverseRecOn with
  | nil => rfl
  | append_singleton pairs e ih =>
    rw [List.map_append, List.nodup_append] at distinct
    have new : e.1 ∉ keys pairs := fun listed =>
      distinct.2.2 e.1 listed e.1 (List.mem_singleton_self e.1) rfl
    rw [ofPairs_concat, ih distinct.1, insert_of_notMem new]

/-- With pairs in order, a name that is listed before another one has a pair before all pairs of
that. -/
theorem pairwise_keys_ofPairs {r : String × α → String × α → Prop} {pairs : List (String × α)}
    (sorted : pairs.Pairwise r) : (keys (ofPairs pairs)).Pairwise fun a b =>
      ∃ e ∈ pairs, e.1 = a ∧ ∀ e' ∈ pairs, e'.1 = b → r e e' := by
  induction pairs using List.reverseRecOn with
  | nil => exact .nil
  | append_singleton pairs e ih =>
    have ordered : pairs.Pairwise r := (List.pairwise_append.mp sorted).1
    have last : ∀ e' ∈ pairs, r e' e := fun e' listed =>
      sorted.rel_of_mem_append listed List.mem_cons_self
    -- The new pair comes after all others, so what came before the pairs of a name still does.
    have grown (a b : String)
        (h : ∃ first ∈ pairs, first.1 = a ∧ ∀ e' ∈ pairs, e'.1 = b → r first e') :
        ∃ first ∈ pairs ++ [e], first.1 = a ∧ ∀ e' ∈ pairs ++ [e], e'.1 = b → r first e' := by
      obtain ⟨first, listed, isNamed, all⟩ := h
      refine ⟨first, List.mem_append_left [e] listed, isNamed, fun e' listed' isNamed' => ?_⟩
      rcases List.mem_append.mp listed' with earlier | same
      · exact all e' earlier isNamed'
      · obtain rfl := List.mem_singleton.mp same
        exact last first listed
    have before := (ih ordered).imp (grown _ _)
    rw [ofPairs_concat, keys_insert]
    split
    · exact before
    · rename_i new
      refine List.pairwise_append.mpr ⟨before, List.pairwise_singleton _ _, ?_⟩
      intro a known b isNew
      obtain rfl := List.mem_singleton.mp isNew
      obtain ⟨first, listed, isNamed⟩ := List.mem_map.mp (mem_keys_ofPairs.mp known)
      refine grown a e.1 ⟨first, listed, isNamed, fun e' earlier isNamed' => ?_⟩
      -- The name is new, so no earlier pair has it.
      exact absurd (mem_keys_ofPairs.mpr (List.mem_map.mpr ⟨e', earlier, isNamed'⟩)) new

/-! ### Equality -/

/-- Dictionaries with distinct names are equal if they list the same names in the same order and
give them the same values. -/
theorem eq_iff_keys_get? {es es' : Entries α} (distinct : es.keys.Nodup)
    (distinct' : es'.keys.Nodup) :
    es = es' ↔ es.keys = es'.keys ∧ ∀ name, es.get? name = es'.get? name := by
  constructor
  · rintro rfl
    exact ⟨rfl, fun _ => rfl⟩
  · rintro ⟨names, values⟩
    have lengths : es.length = es'.length := by simpa [keys] using congrArg List.length names
    refine List.ext_getElem lengths fun i hi hi' => ?_
    have name : es[i].1 = es'[i].1 := by
      simpa [keys] using List.getElem_of_eq names (by simpa [keys] using hi)
    have found : es.get? es[i].1 = some es[i].2 :=
      (mem_iff_get?_eq_some distinct).mp (List.getElem_mem hi)
    have found' : es'.get? es'[i].1 = some es'[i].2 :=
      (mem_iff_get?_eq_some distinct').mp (List.getElem_mem hi')
    rw [values, name, found'] at found
    exact Prod.ext name (Option.some.inj found).symm

/-- With distinct names, entries are chosen by their names. -/
theorem keys_filter {es : Entries α} (distinct : es.keys.Nodup) (p : String × α → Bool)
    (q : String → Bool)
    (same : ∀ name value, es.get? name = some value → p (name, value) = q name) :
    keys (es.filter p) = es.keys.filter q := by
  have agree : ∀ e ∈ es, p e = (q ∘ Prod.fst) e := fun e listed =>
    same e.1 e.2 ((mem_iff_get?_eq_some distinct).mp listed)
  rw [keys, keys, List.filter_map, List.filter_congr agree]

/-! ### One dictionary over another -/

theorem extend_append (es xs ys : Entries α) : extend es (xs ++ ys) = extend (extend es xs) ys :=
  List.foldl_append

/-- What is inserted goes before what was there. -/
theorem get?_extend {more : Entries α} (distinct : more.keys.Nodup) (es : Entries α)
    (name : String) : get? name (extend es more) = (get? name more).or (get? name es) := by
  induction more generalizing es with
  | nil => rfl
  | cons e more ih =>
    obtain ⟨new, distinct⟩ := List.nodup_cons.mp distinct
    calc get? name (extend es (e :: more))
      _ = (get? name more).or (get? name (insert e.1 e.2 es)) := ih distinct (insert e.1 e.2 es)
      _ = (get? name (e :: more)).or (get? name es) := by
        by_cases same : e.1 = name
        · -- The later entries do not have the name again.
          subst same
          rw [get?_eq_none_iff.mpr new]
          simp [get?]
        · simp [get?, same]

theorem nodup_keys_extend {es : Entries α} (distinct : es.keys.Nodup) (more : Entries α) :
    (keys (extend es more)).Nodup := by
  induction more generalizing es with
  | nil => exact distinct
  | cons e more ih => exact ih (nodup_keys_insert distinct e.1 e.2)

/-- With distinct names, the order of the entries does not matter to look-up. -/
theorem get?_eq_of_perm {es es' : Entries α} (distinct : es.keys.Nodup) (perm : es.Perm es')
    (name : String) : get? name es = get? name es' := by
  have distinct' : es'.keys.Nodup := (perm.map Prod.fst).nodup_iff.mp distinct
  ext value
  rw [← mem_iff_get?_eq_some distinct, ← mem_iff_get?_eq_some distinct']
  exact perm.mem_iff

/-! ### Taking an entry out -/

/-- A list with its last element in front. -/
def lastFirst (es : Entries α) : Entries α := es.getLast?.toList ++ es.dropLast

theorem lastFirst_concat (es : Entries α) (e : String × α) :
    lastFirst (es ++ [e]) = e :: es := by
  simp [lastFirst]

theorem lastFirst_perm (es : Entries α) : (lastFirst es).Perm es := by
  rcases List.eq_nil_or_concat es with rfl | ⟨es, e, rfl⟩
  · rfl
  · rw [List.concat_eq_append, lastFirst_concat]
    exact (List.perm_append_singleton e es).symm

/-- With distinct names, the entries around one of them have other names. -/
theorem ne_of_nodup_append_cons {front back : Entries α} {name : String} {value : α}
    (distinct : (keys (front ++ (name, value) :: back)).Nodup) :
    (∀ e ∈ front, e.1 ≠ name) ∧ ∀ e ∈ back, e.1 ≠ name := by
  rw [keys_append, keys_cons] at distinct
  obtain ⟨-, inBack, apart⟩ := List.nodup_append.mp distinct
  constructor
  · intro e listed
    exact apart e.1 (List.mem_map_of_mem listed) name List.mem_cons_self
  · intro e listed same
    exact (List.nodup_cons.mp inBack).1 (List.mem_map.mpr ⟨e, listed, same⟩)

theorem replaceBy_of_ne {es : Entries α} {name : String} (others : ∀ e ∈ es, e.1 ≠ name)
    (entry : String × α) : replaceBy name entry es = es := by
  have unchanged : ∀ e ∈ es, (if e.1 == name then entry else e) = id e := by
    intro e listed
    simp [others e listed]
  rw [replaceBy, List.map_congr_left unchanged, List.map_id]

/-- Taking an entry out moves the last of those behind it to its place. -/
theorem take?_append_cons {front back : Entries α} {name : String} {value : α}
    (distinct : (keys (front ++ (name, value) :: back)).Nodup) :
    take? name (front ++ (name, value) :: back) = some (value, front ++ lastFirst back) := by
  have found : get? name (front ++ (name, value) :: back) = some value :=
    (mem_iff_get?_eq_some distinct).mp (by simp)
  obtain ⟨before, behind⟩ := ne_of_nodup_append_cons distinct
  rw [take?, found]
  rcases List.eq_nil_or_concat back with rfl | ⟨back, last, rfl⟩
  · simp [lastFirst]
  · rw [List.concat_eq_append] at behind ⊢
    obtain ⟨between, ofLast⟩ := List.forall_mem_append.mp behind
    have kept : last.1 ≠ name := ofLast last (List.mem_singleton_self last)
    have moved : replaceBy name last (front ++ (name, value) :: back) = front ++ last :: back := by
      have inFront := replaceBy_of_ne before last
      have inBack := replaceBy_of_ne between last
      rw [replaceBy] at inFront inBack ⊢
      rw [List.map_append, List.map_cons, inFront, inBack]
      simp
    rw [lastFirst_concat, ← List.cons_append, ← List.append_assoc, List.getLast?_concat,
      List.dropLast_concat]
    simp [kept, moved]

theorem take?_eq_none {es : Entries α} {name : String} (absent : name ∉ es.keys) :
    take? name es = none := by
  rw [take?, get?_eq_none_iff.mpr absent]
  rfl

end Entries

end ComponentMarkup
