import ComponentMarkup.Compiler
import ComponentMarkup.Proofs.Entries

/-!
# Spread attributes

An element in the template of a component may spread the attributes of the host without saying
which. It then writes what the component can look up under the names of the host's attributes. That
record keeps the private attributes as well, and no longer tells which they are, so all of them are
spread as public ones.

## Main definitions

* `hostAttribute?` — the attribute of a host that its component finds under a name
* `EvaluatedAttribute.spread` — what a spread makes of an attribute
* `WritesPublicOnly` — what is written comes from public attributes of the host

## Main results

* `spreadOf_host` — what a spread without names gives, and when it writes public attributes only
* `exists_private_written` — a private attribute of a host that reaches the markup
-/

namespace ComponentMarkup

open Markup (Node)

/-! ### The attributes of a host -/

/-- The attribute of a host that its component finds under a name: the last one of that name that
is no directive. -/
def hostAttribute? (attributes : List EvaluatedAttribute) (name : String) :
    Option EvaluatedAttribute :=
  (attributes.filter fun a => !isDirective a.rawName && a.name == name).getLast?

/-- What a spread makes of an attribute. -/
def EvaluatedAttribute.spread (a : EvaluatedAttribute) : EvaluatedAttribute :=
  ⟨a.name, a.name, a.value, a.value.display, .dynamic, .isPublic⟩

/-- Every attribute that is spread and gives text comes from a public attribute of the host. -/
def WritesPublicOnly (attributes spread : List EvaluatedAttribute) : Prop :=
  ∀ a ∈ spread, serializeAttribute a ≠ "" →
    ∃ h, hostAttribute? attributes a.name = some h ∧ h.isPublic = true

theorem get?_rawEntries (attributes : List EvaluatedAttribute) (name : String) :
    (rawEntries attributes).get? name = (hostAttribute? attributes name).map (·.value) := by
  rw [rawEntries, Entries.get?_ofPairs, List.filter_map, List.filter_filter, List.getLast?_map,
    Option.map_map, hostAttribute?]
  simp only [Function.comp_def, Bool.and_comm]

/-- What a component finds under a name is an attribute of its host of that name. -/
theorem hostAttribute?_eq_some {attributes : List EvaluatedAttribute} {name : String}
    {h : EvaluatedAttribute} (found : hostAttribute? attributes name = some h) :
    h ∈ attributes ∧ isDirective h.rawName = false ∧ h.name = name := by
  have listed := List.mem_of_getLast? found
  obtain ⟨mem, isNamed⟩ := List.mem_filter.mp listed
  exact ⟨mem, by simpa using isNamed⟩

/-- A value gives no text if it is `null` or `false`. -/
theorem serializeAttribute_eq_empty_iff {a : EvaluatedAttribute} :
    serializeAttribute a = "" ↔ a.value = .null ∨ a.value = .bool false := by
  unfold serializeAttribute
  split
  · rename_i isNull
    simp [isNull]
  · rename_i isFalse
    simp [isFalse]
  · rename_i isEmpty
    simp [isEmpty]
  · rename_i isNull isFalse _
    refine ⟨fun empty => ?_, ?_⟩
    · simp at empty
    · rintro (same | same)
      · exact absurd same isNull
      · exact absurd same isFalse

/-! ### Spreading -/

/-- The attributes spread from what a component finds of its host. -/
theorem mem_spread_rawEntries {attributes : List EvaluatedAttribute} {a : EvaluatedAttribute} :
    a ∈ spreadAttributes (.record (rawEntries attributes)) ↔
      ∃ h, hostAttribute? attributes a.name = some h ∧ a = h.spread := by
  have distinct : (rawEntries attributes).keys.Nodup := Entries.nodup_keys_ofPairs _
  constructor
  · intro listed
    obtain ⟨⟨name, value⟩, entry, rfl⟩ := List.mem_map.mp listed
    have found := (Entries.mem_iff_get?_eq_some distinct).mp entry
    rw [get?_rawEntries] at found
    obtain ⟨h, isHost, rfl⟩ := Option.map_eq_some_iff.mp found
    obtain ⟨_, _, rfl⟩ := hostAttribute?_eq_some isHost
    exact ⟨h, isHost, rfl⟩
  · rintro ⟨h, isHost, rfl⟩
    have found : (rawEntries attributes).get? h.name = some h.value := by
      rw [get?_rawEntries]
      exact Option.map_eq_some_iff.mpr ⟨h, isHost, rfl⟩
    exact List.mem_map.mpr ⟨_, (Entries.mem_iff_get?_eq_some distinct).mpr found, rfl⟩

/-- An element of a component that spreads attributes without saying which gets, as public
attributes, all that its host has and that are no directives, of each name the last. It writes
public ones only exactly if each private one among these is `null` or `false`. -/
theorem spreadOf_host {n : Node} {source file : String} {data : Cascade}
    {attributes : List EvaluatedAttribute} (spreads : n.attribute? "@attributes" = some source)
    (blank : isBlankText source = true) (host : data.rawAttributes = rawEntries attributes) :
    ∃ spread, spreadOf n data file = .ok spread ∧
      (∀ a, a ∈ spread ↔ ∃ h, hostAttribute? attributes a.name = some h ∧ a = h.spread) ∧
      (∀ a ∈ spread, a.isPublic = true) ∧
      (WritesPublicOnly attributes spread ↔
        ∀ name h, hostAttribute? attributes name = some h → h.isPublic = false →
          h.value = .null ∨ h.value = .bool false) := by
  refine ⟨_, by simp [spreadOf, spreads, blank, host, Except.map], fun a => mem_spread_rawEntries,
    ?_, ?_⟩
  · intro a listed
    obtain ⟨h, _, rfl⟩ := mem_spread_rawEntries.mp listed
    rfl
  · constructor
    · intro only name h found isPrivate
      obtain ⟨_, _, rfl⟩ := hostAttribute?_eq_some found
      by_contra isWritten
      have written : serializeAttribute h.spread ≠ "" :=
        fun empty => isWritten (serializeAttribute_eq_empty_iff.mp empty)
      obtain ⟨h', found', isPublic⟩ :=
        only h.spread (mem_spread_rawEntries.mpr ⟨h, found, rfl⟩) written
      obtain rfl : h = h' := Option.some.inj (found.symm.trans found')
      simp [isPrivate] at isPublic
    · intro silent a listed written
      obtain ⟨h, found, rfl⟩ := mem_spread_rawEntries.mp listed
      refine ⟨h, found, ?_⟩
      by_contra isPrivate
      have silent := silent _ h found (eq_false_of_ne_true isPrivate)
      exact written (serializeAttribute_eq_empty_iff.mpr silent)

/-! ### A private attribute that is written -/

/-- A page that gives a component a private attribute and a public one; the component spreads what
it is given. -/
def leaky : Compiler where
  store := .table [("components/a-el.webc", "<div @attributes></div>")]
  components := [("a-el", "components/a-el.webc")]
  input := some (.content "<a-el @secret=\"x\" id=\"y\"></a-el>" "index.webc")

/-- The attributes of the component's host in the page. -/
def leakyHost : List EvaluatedAttribute :=
  [⟨"secret", "@secret", .text "x", "x", .literal, .isPrivate⟩,
    ⟨"id", "id", .text "y", "y", .literal, .isPublic⟩]

/-- The element that spreads them, in the template of the component. -/
def leakyElement : Node := .element "div" [⟨"@attributes", ""⟩] [] none

/-- The data of the component's instance. -/
def leakyData : Cascade :=
  leaky.setting.sources.data.forComponent "components/a-el.webc" [] (cascadeEntries leakyHost)
    (rawEntries leakyHost)

theorem spreadOf_host_leaky :
    leakyElement.attribute? "@attributes" = some "" ∧ isBlankText "" = true ∧
      leakyData.rawAttributes = rawEntries leakyHost ∧
      ∃ spread, spreadOf leakyElement leakyData "components/a-el.webc" = .ok spread ∧
        (∀ a, a ∈ spread ↔ ∃ h, hostAttribute? leakyHost a.name = some h ∧ a = h.spread) ∧
        (∀ a ∈ spread, a.isPublic = true) ∧
        (WritesPublicOnly leakyHost spread ↔
          ∀ name h, hostAttribute? leakyHost name = some h → h.isPublic = false →
            h.value = .null ∨ h.value = .bool false) := by
  have spreads : leakyElement.attribute? "@attributes" = some "" := by decide
  have blank : isBlankText "" = true := by decide
  exact ⟨spreads, blank, rfl, spreadOf_host spreads blank rfl⟩

/-- A private attribute can be written. The record that the component looks its host's attributes up
in has the private one too, and all that is spread from it is public. -/
theorem exists_private_written :
    evaluateAttributes [⟨"@secret", "x"⟩, ⟨"id", "y"⟩] leaky.setting.sources.data "index.webc" =
        .ok leakyHost ∧
      (∃ spread, spreadOf leakyElement leakyData "components/a-el.webc" = .ok spread ∧
        ¬ WritesPublicOnly leakyHost spread) ∧
      (leaky.run 10 .text).toOption.map (·.1.markup) =
        some "<div secret=\"x\" id=\"y\"></div>" := by
  refine ⟨rfl, ⟨_, rfl, fun only => ?_⟩, by decide +kernel⟩
  let secret : EvaluatedAttribute := ⟨"secret", "@secret", .text "x", "x", .literal, .isPrivate⟩
  have found : hostAttribute? leakyHost "secret" = some secret := rfl
  have listed : secret.spread ∈ spreadAttributes (.record (rawEntries leakyHost)) :=
    mem_spread_rawEntries.mpr ⟨secret, found, rfl⟩
  have written : serializeAttribute secret.spread ≠ "" := by
    rw [Ne, serializeAttribute_eq_empty_iff]
    simp [secret, EvaluatedAttribute.spread]
  obtain ⟨h, isHost, isPublic⟩ := only _ listed written
  obtain rfl : secret = h := Option.some.inj (found.symm.trans isHost)
  exact absurd isPublic (by decide)

end ComponentMarkup
