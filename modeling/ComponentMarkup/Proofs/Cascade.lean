import ComponentMarkup.Cascade
import ComponentMarkup.Proofs.Entries

/-!
# Names and the record of all names

An expression reads the data by a name, or takes all of it as one record. A name is searched for
from the uppermost layer down. The record is written from the lowest layer up, so that what is
above overwrites what is below. For most names both come to the same: the uppermost layer that has
the name gives its value.

The reserved namespace has two places in this order. A name is searched for in the layers above the
global data first, but the record is given the namespace after all layers. So the two differ where
a layer above the global data has an entry under the name of the namespace, and nowhere else.

## Main definitions

* `Cascade.IsBuilt` — the views that can be made from dictionaries
* `Cascade.layered?` — what the layers above the global data say

## Main results

* `Cascade.get?_eq_get?_toRecord_iff` — when a name and the record of all names agree
-/

namespace ComponentMarkup.Cascade

/-! ### Views -/

/-- The views that are built from global data by any sequence of operations. What is given to them
are dictionaries, which list no name twice. -/
inductive IsBuilt : Cascade → Prop
  | ofGlobals (globals : Entries Value) (helpers : Entries Helper) :
    IsBuilt (.ofGlobals globals helpers)
  | forComponent {c : Cascade} (built : c.IsBuilt) (filePath : String)
    {setup host : Entries Value} (rawAttributes : Entries Value)
    (ofSetup : setup.keys.Nodup) (ofHost : host.keys.Nodup) :
    IsBuilt (c.forComponent filePath setup host rawAttributes)
  | withFilePath {c : Cascade} (built : c.IsBuilt) (filePath : String) :
    IsBuilt (c.withFilePath filePath)
  | withSetup {c : Cascade} (built : c.IsBuilt) {setup : Entries Value}
    (ofSetup : setup.keys.Nodup) : IsBuilt (c.withSetup setup)
  | withOwn {c : Cascade} (built : c.IsBuilt) {own : Entries Value} (ofOwn : own.keys.Nodup) :
    IsBuilt (c.withOwn own)
  | withLocals {c : Cascade} (built : c.IsBuilt) (bindings : Entries Value) :
    IsBuilt (c.withLocals bindings)

/-- The layers above the global data list no name twice. -/
structure HasDistinctNames (c : Cascade) : Prop where
  setup : c.setup.keys.Nodup
  host : c.host.keys.Nodup
  own : c.own.keys.Nodup
  locals : c.locals.keys.Nodup

/-- Every operation keeps the names of the layers distinct. Loop bindings are added to those of the
loops around, one name at a time. -/
theorem IsBuilt.hasDistinctNames {c : Cascade} (built : c.IsBuilt) : c.HasDistinctNames := by
  induction built with
  | ofGlobals globals helpers => exact ⟨.nil, .nil, .nil, .nil⟩
  | forComponent built filePath rawAttributes ofSetup ofHost ih =>
    exact ⟨ofSetup, ofHost, .nil, .nil⟩
  | withFilePath built filePath ih => exact { ih with }
  | withSetup built ofSetup ih => exact { ih with setup := ofSetup }
  | withOwn built ofOwn ih =>
    unfold Cascade.withOwn
    split
    · exact ih
    · exact { ih with own := ofOwn }
  | withLocals built bindings ih =>
    exact { ih with locals := Entries.nodup_keys_extend ih.locals bindings }

/-! ### The two ways to read -/

variable {c : Cascade}

/-- What the layers above the global data say about a name. -/
def layered? (c : Cascade) (name : String) : Option Value :=
  [c.locals, c.own, c.host, c.setup].findSome? (Entries.get? name)

/-- By its name, the reserved namespace is found above the global data and below all other
layers. -/
theorem get?_eq_or (c : Cascade) (name : String) :
    c.get? name = (c.layered? name).or
      (if name = reservedName then some c.reserved else c.globals.get? name) := by
  unfold get? layered?
  cases [c.locals, c.own, c.host, c.setup].findSome? (Entries.get? name) with
  | some v => rfl
  | none => simp

/-- In the record, the reserved namespace stands above all layers. -/
theorem get?_toRecord (distinct : c.HasDistinctNames) (name : String) :
    c.toRecord.fields.get? name = if name = reservedName then some c.reserved
      else (c.layered? name).or (c.globals.get? name) := by
  -- Each layer goes before those that were written earlier.
  have merged : Entries.get? name
      ([c.setup, c.host, c.own, c.locals].foldl Entries.extend c.globals) =
        (c.layered? name).or (c.globals.get? name) := by
    simp only [List.foldl_cons, List.foldl_nil, Entries.get?_extend distinct.locals,
      Entries.get?_extend distinct.own, Entries.get?_extend distinct.host,
      Entries.get?_extend distinct.setup, layered?, List.findSome?_cons, List.findSome?_nil]
    cases c.locals.get? name <;> cases c.own.get? name <;> cases c.host.get? name <;>
      cases c.setup.get? name <;> rfl
  unfold toRecord Value.fields
  rw [Entries.get?_insert, merged]
  simp only [eq_comm]

/-- Names and the record of all names agree. A name has a value exactly if the record has an entry
for it, and the values are the same for every name but that of the reserved namespace. The record
gives the namespace under its name, whatever the layers hold. By its name it is found exactly if no
layer above the global data has an entry under the name, or the entry is the namespace again. -/
theorem get?_eq_get?_toRecord_iff (built : c.IsBuilt) (name : String) :
    ((c.get? name).isSome = c.toRecord.fields.has name) ∧
    (name ≠ reservedName → c.get? name = c.toRecord.fields.get? name) ∧
    c.toRecord.fields.get? reservedName = some c.reserved ∧
    (c.get? reservedName = c.toRecord.fields.get? reservedName ↔
      ∀ v, c.layered? reservedName = some v → v = c.reserved) := by
  have record := get?_toRecord built.hasDistinctNames
  have reservedEntry : c.toRecord.fields.get? reservedName = some c.reserved := by
    rw [record, if_pos rfl]
  have others (isOther : name ≠ reservedName) : c.get? name = c.toRecord.fields.get? name := by
    rw [record, get?_eq_or, if_neg isOther, if_neg isOther]
  refine ⟨?_, others, reservedEntry, ?_⟩
  · by_cases isReserved : name = reservedName
    · -- Whichever of the two it finds, the namespace or an entry, there is something.
      subst isReserved
      rw [Entries.has, reservedEntry, get?_eq_or, if_pos rfl]
      cases c.layered? reservedName <;> rfl
    · rw [others isReserved, Entries.has]
  · rw [reservedEntry, get?_eq_or, if_pos rfl]
    cases c.layered? reservedName with
    | none => simp
    | some v => simp

/-- The view of a component with a name in two layers, in a loop. -/
def shelfCard : Cascade :=
  ((Cascade.ofGlobals [("title", .text "Shelf"), ("site", .text "x")] []).forComponent
    "components/shelf-card.webc" [("title", .text "Card")] [("label", .text "a")]
    [("label", .text "a")]).withLocals [("item", .text "b")]

theorem get?_eq_get?_toRecord_iff_shelfCard :
    shelfCard.IsBuilt ∧ (∀ v, shelfCard.layered? reservedName = some v → v = shelfCard.reserved) ∧
      ∀ name, shelfCard.get? name = shelfCard.toRecord.fields.get? name := by
  have built : shelfCard.IsBuilt := by
    refine .withLocals (.forComponent (.ofGlobals _ _) _ _ ?_ ?_) _
    all_goals exact List.nodup_singleton _
  have notHidden : ∀ v, shelfCard.layered? reservedName = some v → v = shelfCard.reserved :=
    fun v hidden => nomatch hidden
  refine ⟨built, notHidden, fun name => ?_⟩
  obtain ⟨-, others, -, reservedToo⟩ := get?_eq_get?_toRecord_iff built name
  by_cases isReserved : name = reservedName
  · rw [isReserved]
    exact reservedToo.mpr notHidden
  · exact others isReserved

/-- A loop binding of the name hides the reserved namespace from a look-up by name, and not from the
record. -/
theorem exists_get?_ne_get?_toRecord :
    ∃ c : Cascade, c.IsBuilt ∧ c.get? reservedName = some .null ∧
      c.toRecord.fields.get? reservedName = some c.reserved ∧
      c.get? reservedName ≠ c.toRecord.fields.get? reservedName := by
  refine ⟨(Cascade.ofGlobals [] []).withLocals [(reservedName, .null)],
    .withLocals (.ofGlobals [] []) _, rfl, rfl, ?_⟩
  intro same
  exact nomatch same

end ComponentMarkup.Cascade
