/-!
# Entries in order

Dictionaries are lists of named entries. The order of the entries is part of the data: it is
the order in which names were first given a value. No operation here makes a second entry for
a name.

## Main definitions

* `Entries α` — named entries in order
* `Entries.get?`, `Entries.has`, `Entries.keys` — look-up
* `Entries.insert`, `Entries.extend`, `Entries.ofPairs` — later values replace earlier ones in
  place
* `Entries.take?` — removes an entry and lets the last one take its place
* `Entries.erase` — removes an entry and keeps the order of the others

## Main results

* `get?_insert` — an inserted value is found under its name and changes no other look-up
* `mem_iff_get?_eq_some` — with distinct names, the entries are what look-up finds
* `nodup_keys_insert` — insertion keeps the names distinct
-/

namespace ComponentMarkup

/-- Named entries in the order of their first insertion. -/
abbrev Entries (α : Type) := List (String × α)

namespace Entries

variable {α : Type}

/-- The value of a name. -/
def get? (name : String) : Entries α → Option α
  | [] => none
  | (k, v) :: rest => if k == name then some v else get? name rest

/-- Whether the name has an entry. -/
def has (name : String) (es : Entries α) : Bool := (get? name es).isSome

/-- The names in order. -/
def keys (es : Entries α) : List String := es.map Prod.fst

/-- The values in order. -/
def values (es : Entries α) : List α := es.map Prod.snd

/-- Gives a name a value: in place if the name has an entry, else at the end. -/
def insert (name : String) (value : α) : Entries α → Entries α
  | [] => [(name, value)]
  | (k, v) :: rest => if k == name then (k, value) :: rest else (k, v) :: insert name value rest

/-- Inserts all entries of another dictionary, in its order. -/
def extend (es more : Entries α) : Entries α := more.foldl (fun acc e => insert e.1 e.2 acc) es

/-- The dictionary of a list of pairs: a repeated name keeps its first place and its last
value. -/
def ofPairs (pairs : List (String × α)) : Entries α := extend [] pairs

/-- Removes the entry of a name and keeps the order of the others. -/
def erase (name : String) (es : Entries α) : Entries α := es.filter fun e => e.1 != name

/-- Replaces the entry of a name by another entry. -/
def replaceBy (name : String) (entry : String × α) (es : Entries α) : Entries α :=
  es.map fun e => if e.1 == name then entry else e

/-- The value of a name, and the entries without it; the last entry moves to the place that
becomes free. -/
def take? (name : String) (es : Entries α) : Option (α × Entries α) :=
  (get? name es).map fun v =>
    match es.getLast? with
    | none => (v, [])
    | some (k, w) => (v, if k == name then es.dropLast else replaceBy name (k, w) es.dropLast)

/-! ### Looking up -/

@[simp] theorem get?_nil (name : String) : get? name ([] : Entries α) = none := rfl

@[simp] theorem keys_nil : keys ([] : Entries α) = [] := rfl

@[simp] theorem keys_cons (e : String × α) (es : Entries α) : keys (e :: es) = e.1 :: keys es := rfl

/-- Insertion changes the value of its own name only. -/
@[simp] theorem get?_insert (es : Entries α) (name other : String) (value : α) :
    get? other (insert name value es) = if name = other then some value else get? other es := by
  induction es with
  | nil => simp [insert, get?]
  | cons e es ih =>
    obtain ⟨k, v⟩ := e
    by_cases hk : k = name
    · subst hk
      by_cases ho : k = other <;> simp [insert, get?, ho]
    · by_cases ho : k = other
      · subst ho
        simp [insert, get?, hk, Ne.symm hk]
      · simp [insert, get?, hk, ho, ih]

theorem get?_eq_none_iff {es : Entries α} {name : String} :
    get? name es = none ↔ name ∉ es.keys := by
  induction es with
  | nil => simp
  | cons e es ih =>
    obtain ⟨k, v⟩ := e
    by_cases h : k = name
    · simp [get?, h]
    · simp [get?, h, ih, Ne.symm h]

/-- What look-up finds is an entry. -/
theorem mem_of_get?_eq_some {es : Entries α} {name : String} {value : α}
    (found : es.get? name = some value) : (name, value) ∈ es := by
  induction es with
  | nil => exact nomatch found
  | cons e es ih =>
    obtain ⟨k, v⟩ := e
    by_cases h : k = name
    · obtain rfl : v = value := by simpa [get?, h] using found
      simp [h]
    · exact List.mem_cons_of_mem _ (ih (by simpa [get?, h] using found))

/-- With distinct names, the entries are what look-up finds. -/
theorem mem_iff_get?_eq_some {es : Entries α} (distinct : es.keys.Nodup) {name : String}
    {value : α} : (name, value) ∈ es ↔ es.get? name = some value := by
  induction es with
  | nil => simp
  | cons e es ih =>
    obtain ⟨k, v⟩ := e
    rw [keys_cons, List.nodup_cons] at distinct
    by_cases h : k = name
    · subst h
      have absent : (k, value) ∉ es := fun hm => distinct.1 (List.mem_map.mpr ⟨_, hm, rfl⟩)
      simp [get?, absent, eq_comm]
    · simp [get?, h, Ne.symm h, ih distinct.2]

/-- With distinct names, leaving entries out is leaving out what is found. -/
theorem get?_filter {es : Entries α} (distinct : es.keys.Nodup) (p : String × α → Bool)
    (name : String) :
    get? name (es.filter p) = (get? name es).filter fun value => p (name, value) := by
  induction es with
  | nil => rfl
  | cons e es ih =>
    obtain ⟨k, v⟩ := e
    rw [keys_cons, List.nodup_cons] at distinct
    by_cases h : k = name
    · subst h
      by_cases hp : p (k, v)
      · simp [get?, hp, Option.filter]
      · have absent : get? k es = none := get?_eq_none_iff.mpr distinct.1
        simp [get?, hp, ih distinct.2, absent, Option.filter]
    · by_cases hp : p (k, v) <;> simp [get?, hp, h, ih distinct.2]

theorem nodup_keys_filter {es : Entries α} (distinct : es.keys.Nodup) (p : String × α → Bool) :
    (keys (es.filter p)).Nodup :=
  distinct.sublist (List.filter_sublist.map Prod.fst)

/-! ### Names -/

/-- Insertion appends the name unless it is there. -/
theorem keys_insert (es : Entries α) (name : String) (value : α) :
    keys (insert name value es) = if name ∈ es.keys then es.keys else es.keys ++ [name] := by
  induction es with
  | nil => simp [insert, keys]
  | cons e es ih =>
    obtain ⟨k, v⟩ := e
    by_cases h : k = name
    · simp [insert, h]
    · by_cases hm : name ∈ keys es <;> simp [insert, h, Ne.symm h, ih, hm]

theorem nodup_keys_insert {es : Entries α} (distinct : es.keys.Nodup) (name : String) (value : α) :
    (keys (insert name value es)).Nodup := by
  rw [keys_insert]
  split
  · exact distinct
  · rename_i absent
    rw [List.nodup_append]
    refine ⟨distinct, by simp, fun k hk m hm heq => absent ?_⟩
    rw [List.mem_singleton] at hm
    rwa [← hm, ← heq]

end Entries

end ComponentMarkup
