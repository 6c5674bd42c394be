import ComponentMarkup.Markup.Reference
import ComponentMarkup.Proofs.Attribute.Merging

/-!
# Escaped texts read back

Texts and values are written with entities in place of some characters. Both ways of writing are
given by a table. If each entity of the table is read back as its character, the ampersand has one,
and no entity has a character in it that is written as an entity itself, then the references in what
is written are just the entities, and they are read one by one.

Writing character by character is the same as replacing one character after the other in the whole
text. Here the order of the table counts: no pass may meet its character in what an earlier pass
has written.

## Main definitions

* `Entities` — characters and the entities that are written for them
* `writeChar`, `Entities.passes` — a character as the table writes it, and a text after all
  replacements
* `Entities.IsSound`, `Entities.InOrder` — tables whose entities can be told apart, and tables that
  can be worked off in order
* `IsFaithful` — escaping that loses nothing and shows nothing it should hide

## Main results

* `decodeReferences_flatMap_writeChar` — what is written reads back
* `Entities.passes_eq_flatMap` — replacing in order is writing character by character
* `Entities.IsSound.isFaithful` — escaping by a sound table is faithful
* `escapes_isFaithful` — so texts and values are escaped faithfully
-/

namespace ComponentMarkup

open Markup (decodeReferences reference?)

/-- Characters with the entities that are written for them, each after an ampersand. -/
abbrev Entities := List (Char × String)

/-- A character as a table writes it. -/
def writeChar (table : Entities) (c : Char) : List Char :=
  match table.lookup c with
  | some entity => '&' :: entity.toList
  | none => [c]

/-- The entities of texts. -/
def textEntities : Entities := [('&', "amp;"), ('<', "lt;"), ('>', "gt;")]

/-- The entities of values. -/
def attributeEntities : Entities := [('&', "amp;"), ('"', "quot;")]

theorem escapeTextChar_eq (c : Char) : escapeTextChar c = writeChar textEntities c := by
  simp only [escapeTextChar, writeChar, textEntities, List.lookup_cons, List.lookup_nil]
  cases c == '&' <;> cases c == '<' <;> cases c == '>' <;> rfl

theorem escapeAttributeChar_eq (c : Char) :
    escapeAttributeChar c = writeChar attributeEntities c := by
  simp only [escapeAttributeChar, writeChar, attributeEntities, List.lookup_cons, List.lookup_nil]
  cases c == '&' <;> cases c == '"' <;> rfl

namespace Entities

/-- Ampersands are written as an entity, each entity is read as the character that it is written
for, whatever follows it, and no entity has a character that has one itself. -/
structure IsSound (table : Entities) : Prop where
  ampersand : (table.lookup '&').isSome
  reads : ∀ e ∈ table, ∀ inAttribute rest,
    reference? inAttribute (e.2.toList ++ rest) = some ([e.1], rest)
  plain : ∀ e ∈ table, ∀ other ∈ table, other.1 ∉ e.2.toList

/-- No character is met in what is written for an earlier one. -/
def InOrder (table : Entities) : Prop :=
  table.Pairwise fun earlier later => later.1 ≠ '&' ∧ later.1 ∉ earlier.2.toList

end Entities

theorem isSound_textEntities : textEntities.IsSound where
  ampersand := rfl
  reads := by
    simp only [textEntities, List.forall_mem_cons]
    exact ⟨fun _ _ => rfl, fun _ _ => rfl, fun _ _ => rfl, nofun⟩
  plain := by decide

theorem isSound_attributeEntities : attributeEntities.IsSound where
  ampersand := rfl
  reads := by
    simp only [attributeEntities, List.forall_mem_cons]
    exact ⟨fun _ _ => rfl, fun _ _ => rfl, nofun⟩
  plain := by decide

section Table

variable {table : Entities} {c : Char} {entity : String}

theorem mem_of_lookup (found : table.lookup c = some entity) : (c, entity) ∈ table := by
  obtain ⟨before, after, rfl, _⟩ := List.lookup_eq_some_iff.mp found
  simp

theorem lookup_isSome_of_mem (listed : (c, entity) ∈ table) : (table.lookup c).isSome := by
  rw [Option.isSome_iff_ne_none, ne_eq, List.lookup_eq_none_iff]
  intro absent
  simpa using absent _ listed

/-- A character that is written as it is. -/
theorem writeChar_of_lookup_eq_none (none : table.lookup c = none) : writeChar table c = [c] := by
  simp [writeChar, none]

theorem writeChar_of_lookup_eq_some (found : table.lookup c = some entity) :
    writeChar table c = '&' :: entity.toList := by
  simp [writeChar, found]

end Table

/-! ### Reading -/

theorem decodeReferences_cons_of_ne {inAttribute : Bool} {c : Char} (other : c ≠ '&')
    (rest : List Char) :
    decodeReferences inAttribute (c :: rest) = c :: decodeReferences inAttribute rest := by
  rw [decodeReferences]
  simp [other]

theorem decodeReferences_reference {inAttribute : Bool} {cs chars rest : List Char}
    (found : reference? inAttribute cs = some (chars, rest)) :
    decodeReferences inAttribute ('&' :: cs) = chars ++ decodeReferences inAttribute rest := by
  rw [decodeReferences]
  simp only [beq_self_eq_true, if_true]
  split
  · rename_i found'
    obtain ⟨rfl, rfl⟩ := Prod.mk.inj (Option.some.inj (found.symm.trans found'))
    rfl
  · rename_i none
    exact absurd (found.symm.trans none) (Option.some_ne_none _)

namespace Entities.IsSound

variable {table : Entities} (sound : table.IsSound)

include sound

/-- What is written reads back, and so does all that follows it. -/
theorem decodeReferences_flatMap_writeChar (inAttribute : Bool) (cs rest : List Char) :
    decodeReferences inAttribute (cs.flatMap (writeChar table) ++ rest) =
      cs ++ decodeReferences inAttribute rest := by
  induction cs with
  | nil => rfl
  | cons c cs ih =>
    rw [List.flatMap_cons, List.append_assoc]
    cases found : table.lookup c with
    | none =>
      have other : c ≠ '&' := by
        rintro rfl
        simpa [found] using sound.ampersand
      rw [writeChar_of_lookup_eq_none found, List.singleton_append,
        decodeReferences_cons_of_ne other, ih, List.cons_append]
    | some entity =>
      have read := sound.reads _ (mem_of_lookup found) inAttribute
      rw [writeChar_of_lookup_eq_some found, List.cons_append, decodeReferences_reference (read _),
        ih, List.singleton_append, List.cons_append]

/-- No character that has an entity is written, the ampersand apart. -/
theorem notMem_flatMap_writeChar {c : Char} {entity : String} (listed : (c, entity) ∈ table)
    (other : c ≠ '&') (cs : List Char) : c ∉ cs.flatMap (writeChar table) := by
  intro inside
  obtain ⟨d, _, written⟩ := List.mem_flatMap.mp inside
  cases found : table.lookup d with
  | none =>
    rw [writeChar_of_lookup_eq_none found, List.mem_singleton] at written
    have known := lookup_isSome_of_mem listed
    simp [written, found] at known
  | some e =>
    rw [writeChar_of_lookup_eq_some found, List.mem_cons] at written
    exact written.elim other (sound.plain _ (mem_of_lookup found) _ listed)

/-- Every ampersand begins an entity. -/
theorem exists_prefix_of_flatMap_writeChar {cs before after : List Char}
    (written : cs.flatMap (writeChar table) = before ++ '&' :: after) :
    ∃ e ∈ table, e.2.toList <+: after := by
  induction cs generalizing before with
  | nil => simp at written
  | cons c cs ih =>
    rw [List.flatMap_cons] at written
    cases found : table.lookup c with
    | none =>
      have other : c ≠ '&' := by
        rintro rfl
        simpa [found] using sound.ampersand
      rw [writeChar_of_lookup_eq_none found, List.singleton_append] at written
      cases before with
      | nil => exact absurd (List.cons.inj written).1 other
      | cons d before => exact ih (List.cons.inj written).2
    | some entity =>
      have listed := mem_of_lookup found
      rw [writeChar_of_lookup_eq_some found, List.cons_append] at written
      cases before with
      | nil => exact ⟨_, listed, _, (List.cons.inj written).2⟩
      | cons d before =>
        -- The entity has no ampersand in it, so the one in question comes later.
        rcases List.append_eq_append_iff.mp (List.cons.inj written).2 with
          ⟨more, _, later⟩ | ⟨more, inside, later⟩
        · exact ih later
        · rcases List.append_eq_cons_iff.mp later.symm with ⟨rfl, here⟩ | ⟨more', rfl, _⟩
          · rw [← List.nil_append ('&' :: after)] at here
            exact ih here
          · obtain ⟨known, isKnown⟩ := Option.isSome_iff_exists.mp sound.ampersand
            have absent := sound.plain _ listed _ (mem_of_lookup isKnown)
            simp [inside] at absent

end Entities.IsSound

/-! ### One replacement after the other -/

/-- A text after all replacements of a table, in its order. -/
def Entities.passes (table : Entities) (cs : List Char) : List Char :=
  table.foldl (fun cs e => replaceAllChars [e.1] ('&' :: e.2.toList) cs) cs

/-- The parts around the occurrences of a character, joined by a text that takes its place. -/
theorem intercalate_splitWhere (c : Char) (new text : List Char) :
    new.intercalate (splitWhere (· == c) text) =
      text.flatMap fun d => if d = c then new else [d] := by
  induction text with
  | nil => rfl
  | cons d text ih =>
    obtain ⟨piece, pieces, split⟩ :=
      List.exists_cons_of_ne_nil (splitWhere_ne_nil (· == c) text)
    rw [split] at ih
    rw [List.flatMap_cons, ← ih]
    by_cases same : d = c
    · simp [splitWhere, same, split]
    · cases pieces <;> simp [splitWhere, same, split]

theorem replaceAllChars_singleton (c : Char) (new text : List Char) :
    replaceAllChars [c] new text = text.flatMap fun d => if d = c then new else [d] := by
  rw [← intercalate_splitWhere, ← pieces_singleton]
  rfl

/-- A pass leaves a text alone in which its character does not occur. -/
theorem flatMap_of_notMem {c : Char} {cs : List Char} (absent : c ∉ cs) (new : List Char) :
    (cs.flatMap fun d => if d = c then new else [d]) = cs := by
  induction cs with
  | nil => rfl
  | cons d cs ih =>
    obtain ⟨other, later⟩ := List.ne_and_not_mem_of_not_mem_cons absent
    simp [Ne.symm other, ih later]

/-- Replacing in order is writing character by character. -/
theorem Entities.passes_eq_flatMap {table : Entities} (inOrder : table.InOrder) (cs : List Char) :
    table.passes cs = cs.flatMap (writeChar table) := by
  induction table using List.reverseRecOn with
  | nil => exact (List.flatMap_singleton' cs).symm
  | append_singleton table e ih =>
    obtain ⟨d, last⟩ := e
    obtain ⟨earlier, -, apart⟩ := List.pairwise_append.mp inOrder
    have pass : Entities.passes (table ++ [(d, last)]) cs =
        replaceAllChars [d] ('&' :: last.toList) (Entities.passes table cs) := by
      simp [Entities.passes]
    rw [pass, ih earlier, replaceAllChars_singleton, List.flatMap_assoc]
    refine List.flatMap_congr fun c _ => ?_
    have extended : (table ++ [(d, last)]).lookup c =
        (table.lookup c).or (if c = d then some last else none) := by
      rw [List.lookup_append]
      by_cases same : c = d
      · simp [same]
      · simp [List.lookup_cons, beq_false_of_ne same, same]
    cases found : table.lookup c with
    | some entity =>
      -- What the earlier passes have written for the character is left as it is.
      obtain ⟨noAmpersand, notInside⟩ := apart _ (mem_of_lookup found) _ List.mem_cons_self
      rw [found, Option.some_or] at extended
      rw [writeChar_of_lookup_eq_some found, writeChar_of_lookup_eq_some extended]
      refine flatMap_of_notMem (fun inside => ?_) _
      exact (List.mem_cons.mp inside).elim noAmpersand notInside
    | none =>
      rw [found, Option.none_or] at extended
      rw [writeChar_of_lookup_eq_none found, List.flatMap_singleton, writeChar, extended]
      by_cases same : c = d <;> simp [same]

/-! ### Faithful escaping -/

/-- Escaping that loses nothing and shows nothing it should hide: references in what is written give
the text back, no hidden character is written, every ampersand begins one of the entities, and texts
may be escaped in pieces. -/
structure IsFaithful (escape : String → String) (hidden : List Char) (entities : List String) :
    Prop where
  decode : ∀ inAttribute s, decodeReferences inAttribute (escape s).toList = s.toList
  hides : ∀ s, ∀ c ∈ hidden, c ∉ (escape s).toList
  entity : ∀ s before after, (escape s).toList = before ++ '&' :: after →
    ∃ e ∈ entities, e.toList <+: after
  append : ∀ s t, escape (s ++ t) = escape s ++ escape t
  join : ∀ texts : List String, escape (String.join texts) = String.join (texts.map escape)

/-- Escaping by a sound table is faithful, and hides all characters of the table but the
ampersand. -/
theorem Entities.IsSound.isFaithful {table : Entities} (sound : table.IsSound)
    {escape : String → String}
    (byTable : ∀ s, (escape s).toList = s.toList.flatMap (writeChar table)) :
    IsFaithful escape ((table.map Prod.fst).filter (· != '&')) (table.map Prod.snd) where
  decode inAttribute s := by
    have read := sound.decodeReferences_flatMap_writeChar inAttribute s.toList []
    simpa [byTable, decodeReferences] using read
  hides s c isHidden := by
    obtain ⟨listed, other⟩ := List.mem_filter.mp isHidden
    obtain ⟨e, inTable, rfl⟩ := List.mem_map.mp listed
    rw [byTable]
    exact sound.notMem_flatMap_writeChar inTable (by simpa using other) _
  entity s before after written := by
    rw [byTable] at written
    obtain ⟨e, inTable, begins⟩ := sound.exists_prefix_of_flatMap_writeChar written
    exact ⟨e.2, List.mem_map_of_mem inTable, begins⟩
  append s t := by
    apply String.toList_injective
    simp [byTable, String.toList_append]
  join texts := by
    apply String.toList_injective
    induction texts with
    | nil => simp [byTable]
    | cons s texts ih =>
      rw [String.join_cons, byTable, String.toList_append, List.flatMap_append, ← byTable,
        ← byTable, ih, List.map_cons, String.join_cons, String.toList_append]

theorem toList_escapeText (s : String) :
    (escapeText s).toList = s.toList.flatMap (writeChar textEntities) := by
  rw [escapeText, String.toList_ofList, funext escapeTextChar_eq]

theorem toList_escapeAttribute (s : String) :
    (escapeAttribute s).toList = s.toList.flatMap (writeChar attributeEntities) := by
  rw [escapeAttribute, String.toList_ofList, funext escapeAttributeChar_eq]

/-- Replacing a character by an entity, in a text. -/
theorem toList_replaceAll (text part new : String) :
    (replaceAll text part new).toList = replaceAllChars part.toList new.toList text.toList := by
  rw [replaceAll, String.toList_ofList]

/-- Texts and values are escaped faithfully, and as if their characters were replaced one after the
other in the whole text. No angle brackets are left of a text and no quotes of a value. -/
theorem escapes_isFaithful :
    IsFaithful escapeText ['<', '>'] ["amp;", "lt;", "gt;"] ∧
      IsFaithful escapeAttribute ['"'] ["amp;", "quot;"] ∧
      (∀ s, escapeText s =
        replaceAll (replaceAll (replaceAll s "&" "&amp;") "<" "&lt;") ">" "&gt;") ∧
      ∀ s, escapeAttribute s = replaceAll (replaceAll s "&" "&amp;") "\"" "&quot;" := by
  refine ⟨isSound_textEntities.isFaithful toList_escapeText,
    isSound_attributeEntities.isFaithful toList_escapeAttribute, fun s => ?_, fun s => ?_⟩
  · have inOrder : textEntities.InOrder := by
      simp only [Entities.InOrder, textEntities]
      decide
    apply String.toList_injective
    rw [toList_escapeText, ← Entities.passes_eq_flatMap inOrder]
    simp only [toList_replaceAll]
    rfl
  · have inOrder : attributeEntities.InOrder := by
      simp only [Entities.InOrder, attributeEntities]
      decide
    apply String.toList_injective
    rw [toList_escapeAttribute, ← Entities.passes_eq_flatMap inOrder]
    simp only [toList_replaceAll]
    rfl

end ComponentMarkup
