import ComponentMarkup.Compiler
import ComponentMarkup.Proofs.Component.History
import ComponentMarkup.Proofs.Render.Host
import ComponentMarkup.Proofs.Style.ClassSelector

/-!
# The class of a scope

A component with scoped styles has a scope id. Its instances get the id as a class, next to all
classes that they have from elsewhere, and its styles are put under the selector of that class. Both
sides write the id as it is. They mean the same class if the id is derived from the text of the
styles. An id that a component chooses can be any text: only if it is an identifier without escapes
and, where the host has other classes, without blanks do host and styles agree.

## Main results

* `scopeId_of_buildComponent` — where scope ids come from
* `scopeClass_agrees_iff` — when the id is a token of the host's class, and when the class selector
  selects by it
* `exists_scopeClass_disagrees` — a component whose styles do not apply to its own hosts
-/

namespace ComponentMarkup

open Markup (Node)

/-! ### Scope ids -/

/-- A text that is not empty without the blanks around it has a character that is no blank. -/
theorem exists_of_trim_ne {text : String} (nonempty : trim text ≠ "") :
    ∃ c ∈ (trim text).toList, isBlank c = false := by
  have chars : (trim text).toList =
      ((text.toList.dropWhile isBlank).reverse.dropWhile isBlank).reverse := String.toList_ofList
  cases last : (text.toList.dropWhile isBlank).reverse.dropWhile isBlank with
  | nil =>
    rw [last] at chars
    exact absurd (String.toList_inj.mp chars) nonempty
  | cons c cs =>
    refine ⟨c, by simp [chars, last], ?_⟩
    have head := List.head?_dropWhile_not isBlank (text.toList.dropWhile isBlank).reverse
    rw [last] at head
    simpa using head

/-- A chosen scope id has a character that is no blank. -/
theorem exists_of_chosenScopeId? {styles : List Node} {id : String}
    (chosen : chosenScopeId? styles = some id) : ∃ c ∈ id.toList, isBlank c = false := by
  have nonempty : id ≠ "" := by simpa using List.find?_some chosen
  obtain ⟨text, _, rfl⟩ := List.mem_map.mp (List.mem_of_find?_eq_some chosen)
  exact exists_of_trim_ne nonempty

/-- The scope id of a component is the one it chooses, or else it is derived from the text of its
scoped styles. -/
theorem scopeId_of_buildComponent {s : Sources} {claims : Entries String} {path : String}
    {tree? : Option Node} {d : Component} {id : String}
    (built : (buildComponent s claims path tree?).1 = .ok d) (hasScope : d.scopeId = some id) :
    d.chosenScopeId? = some id ∨ d.chosenScopeId? = none ∧ ∃ text, id = Style.derivedScopeId text := by
  unfold buildComponent at built
  split at built
  · exact nomatch built
  · rename_i tree _
    -- The component was built, so its claim of a scope id was accepted.
    split at built
    · exact nomatch built
    · rename_i scopeId claims' claimed
      obtain ⟨setup, -, rfl⟩ := Compiled.map_eq_ok.mp built
      replace hasScope : scopeId = some id := hasScope
      unfold claimScope at claimed
      split at claimed
      · obtain ⟨rfl, -⟩ := Prod.mk.inj (Except.ok.inj claimed)
        exact nomatch hasScope
      · split at claimed
        · rename_i unchosen
          obtain ⟨rfl, -⟩ := Prod.mk.inj (Except.ok.inj claimed)
          exact .inr ⟨unchosen, _, (Option.some.inj hasScope).symm⟩
        · rename_i chosen
          refine .inl (Eq.trans chosen ?_)
          split at claimed
          · split at claimed
            · obtain ⟨rfl, -⟩ := Prod.mk.inj (Except.ok.inj claimed)
              exact hasScope
            · exact nomatch claimed
          · obtain ⟨rfl, -⟩ := Prod.mk.inj (Except.ok.inj claimed)
            exact hasScope

/-! ### Hosts -/

/-- The class that a host gets from a scope. Its value is the scope id, or, if the host has classes
from elsewhere, their value and the scope id merged. -/
theorem exists_hostAttributes_eq {d : Component} {data : Cascade}
    {attributes onHost : List EvaluatedAttribute} {id : String} (hasScope : d.scopeId = some id)
    (host : hostAttributes d data attributes = .ok onHost) :
    ∃ root front a back, evaluateAttributes d.rootAttributes data d.path = .ok root ∧
      onHost = front ++ a :: back ∧ a.isClass = true ∧ (∀ b ∈ front ++ back, b.isClass = false) ∧
      ((∀ b ∈ root ++ attributes, b.isClass = false) ∧ a.value = .text id ∨
        (∃ b ∈ root ++ attributes, b.isClass = true) ∧ ∃ v, a.value = mergeClass v (.text id)) := by
  obtain ⟨root, evaluated, merged⟩ := hostAttributes_eq_ok.mp host
  have ofScope : (EvaluatedAttribute.ofText "class" id).isClass = true := rfl
  obtain ⟨front, a, back, split, isClass, others, value⟩ :=
    exists_mergeAttributes_concat (root ++ attributes) ofScope
  refine ⟨root, front, a, back, evaluated, ?_, isClass, others, value⟩
  rw [merged, Component.scopeClass, hasScope]
  exact split

/-- The text that a host's class gets from a scope id, and when the id is a token of it. -/
theorem exists_classText {id : String} {v : Value} {c : Char} (listed : c ∈ id.toList)
    (visible : isBlank c = false) (others : Prop)
    (value : ¬ others ∧ v = .text id ∨ others ∧ ∃ w, v = mergeClass w (.text id)) :
    ∃ text, v = .text text ∧ text ≠ "" ∧
      (id ∈ classTokens text ↔ (∀ x ∈ id.toList, isAsciiBlank x = false) ∧
        (others → ∀ x ∈ id.toList, isBlank x = false)) := by
  have nonempty : id ≠ "" := by
    rintro rfl
    exact absurd listed List.not_mem_nil
  rcases value with ⟨alone, rfl⟩ | ⟨merged, w, rfl⟩
  · refine ⟨id, rfl, nonempty, ?_⟩
    rw [self_mem_classTokens_iff]
    simp [nonempty, alone]
  · refine ⟨(mergeClass w (.text id)).display, rfl, display_mergeClass_ne_empty listed visible, ?_⟩
    rw [mem_classTokens_mergeClass_text nonempty]
    refine ⟨fun noBlank => ⟨fun x hx => ?_, fun _ => noBlank⟩, fun h => h.2 merged⟩
    exact isAsciiBlank_eq_false (noBlank x hx)

/-- An instance of a component with a scope, whose host's tag is kept, starts with a tag that has one
class. The scope id is a token of that exactly if it has no ASCII blank and, where the host has
classes from elsewhere, no blank at all. The scoped styles of the component are put under the class
selector of the id, and that selects by this token exactly if the id is a plain name. If the id is
derived from the text of the styles, both hold. -/
theorem scopeClass_agrees_iff {s : Sources} {claims : Entries String} {path : String}
    {tree? : Option Node} {d : Component} {id : String} {inner : Renderer} {c : Context}
    {sink : Sink} {host : Node} {tag : String} {attributes : List EvaluatedAttribute} {o : Output}
    {p p' : Progress} (built : (buildComponent s claims path tree?).1 = .ok d)
    (hasScope : d.scopeId = some id) (keeps : d.keepsHost = true)
    (kept : host.hasAttribute "webc:nokeep" = false)
    (rendered : renderComponent inner c sink host tag d attributes p = .ok (o, p')) :
    ∃ root onHost rest value,
      evaluateAttributes d.rootAttributes (c.instanceData d attributes) d.path = .ok root ∧
      hostAttributes d (c.instanceData d attributes) attributes = .ok onHost ∧
      o.markup = startTag tag onHost ++ rest ∧ WritesClass onHost value ∧
      (id ∈ classTokens value ↔ (∀ x ∈ id.toList, isAsciiBlank x = false) ∧
        ((∃ a ∈ root ++ attributes, a.isClass = true) → ∀ x ∈ id.toList, isBlank x = false)) ∧
      (∀ css, confine d.scopeId css = Style.scopeSheet id css) ∧
      (Style.SelectsClass id ↔ Style.IsPlainName id) ∧
      (d.chosenScopeId? = none → id ∈ classTokens value ∧ Style.SelectsClass id) := by
  have source := scopeId_of_buildComponent built hasScope
  have visible : ∃ x ∈ id.toList, isBlank x = false := by
    rcases source with chosen | ⟨_, text, rfl⟩
    · exact exists_of_chosenScopeId? chosen
    · exact ⟨'w', by simp [Style.derivedScopeId, String.toList_append], by decide⟩
  obtain ⟨x, listed, noBlank⟩ := visible
  obtain ⟨onHost, rest, attached, markup⟩ := exists_markup_of_renderComponent keeps kept rendered
  obtain ⟨root, front, a, back, evaluated, rfl, isClass, others, value⟩ :=
    exists_hostAttributes_eq hasScope attached
  obtain ⟨text, written, nonempty, token⟩ :=
    exists_classText listed noBlank (∃ b ∈ root ++ attributes, b.isClass = true)
      (by simpa using value)
  refine ⟨root, _, rest, text, evaluated, attached, markup,
    writesClass_of_text isClass others written nonempty, token, fun css => by rw [hasScope]; rfl,
    Style.selectsClass_iff, fun unchosen => ?_⟩
  obtain chosen | ⟨_, styles, rfl⟩ := source
  · cases unchosen.symm.trans chosen
  · -- Only a derived id is left, and it has neither blanks nor anything to escape.
    obtain ⟨plain, noBlanks⟩ := Style.isPlainName_derivedScopeId styles
    refine ⟨token.mpr ⟨fun x hx => ?_, fun _ => noBlanks⟩, Style.selectsClass_iff.mpr plain⟩
    exact isAsciiBlank_eq_false (noBlanks x hx)

/-- A template with a scoped style that chooses the scope id `card`. -/
def cardTree : Node :=
  .document [.element "style" [⟨"webc:scoped", "card"⟩] [.text "p\x7bcolor:red\x7d"] none,
    .element "p" [] [.text "x"] none]

/-- The component of the template. -/
def card : Component := .ofTree "card.webc" cardTree (some "card") []

/-- A setting without files. -/
def cardSetting : Setting := ({} : Compiler).setting

/-- A host of the component that has a class of its own. -/
def cardHost : Node := .element "x-card" [⟨"class", "big"⟩] [] none

/-- The document around the host. -/
def cardPage : Context := .ofRoot (.ofTree "index.webc" (.document []) none []) (.ofGlobals [] [])

theorem scopeClass_agrees_iff_card :
    (buildComponent cardSetting.sources [] "card.webc" (some cardTree)).1 = .ok card ∧
      card.scopeId = some "card" ∧ card.keepsHost = true ∧
      cardHost.hasAttribute "webc:nokeep" = false ∧
      ∃ o p', renderComponent (render cardSetting 10) cardPage .text cardHost "x-card" card
          [.ofText "class" "big"] ⟨{}, {}⟩ = .ok (o, p') ∧
        o.markup = "<x-card class=\"big card\"><p>x</p></x-card>" ∧
        ∃ root onHost rest value,
          evaluateAttributes card.rootAttributes (cardPage.instanceData card
            [.ofText "class" "big"]) card.path = .ok root ∧
          hostAttributes card (cardPage.instanceData card [.ofText "class" "big"])
            [.ofText "class" "big"] = .ok onHost ∧
          o.markup = startTag "x-card" onHost ++ rest ∧ WritesClass onHost value ∧
          ("card" ∈ classTokens value ↔ (∀ x ∈ "card".toList, isAsciiBlank x = false) ∧
            ((∃ a ∈ root ++ [.ofText "class" "big"], a.isClass = true) →
              ∀ x ∈ "card".toList, isBlank x = false)) ∧
          (∀ css, confine card.scopeId css = Style.scopeSheet "card" css) ∧
          (Style.SelectsClass "card" ↔ Style.IsPlainName "card") ∧
          (card.chosenScopeId? = none → "card" ∈ classTokens value ∧ Style.SelectsClass "card") := by
  have built : (buildComponent cardSetting.sources [] "card.webc" (some cardTree)).1 = .ok card := by
    rfl
  have keeps : card.keepsHost = true := by decide
  have kept : cardHost.hasAttribute "webc:nokeep" = false := by decide
  have evaluated : ((renderComponent (render cardSetting 10) cardPage .text cardHost "x-card" card
      [.ofText "class" "big"] ⟨{}, {}⟩).toOption.map fun r => r.1.markup) =
        some "<x-card class=\"big card\"><p>x</p></x-card>" := by
    decide +kernel
  obtain ⟨⟨o, p'⟩, rendered, markup⟩ := Option.map_eq_some_iff.mp evaluated
  have rendered := Compiled.eq_ok_of_toOption rendered
  exact ⟨built, rfl, keeps, kept, o, p', rendered, markup,
    scopeClass_agrees_iff built rfl keeps kept rendered⟩

/-! ### A scope id that is no plain name -/

/-- A page with a component that chooses the scope id `a.b`. -/
def dotted : Compiler where
  store := .table [("components/a-el.webc",
    "<style webc:scoped=\"a.b\">p\x7bcolor:red\x7d</style><p>x</p>")]
  components := [("a-el", "components/a-el.webc")]
  input := some (.content "<a-el></a-el>" "index.webc")

/-- A component can be compiled whose styles do not apply to its own hosts: their one class is the
scope id, and the selector that the styles are put under asks for two other classes. -/
theorem exists_scopeClass_disagrees :
    ∃ o summary, dotted.run Compiler.depth .text = .ok (o, summary) ∧
      o.markup = "<a-el class=\"a.b\"><p>x</p></a-el>" ∧
      o.fragments.map Fragment.text = [".a.b p\x7bcolor:red\x7d"] ∧
      classTokens "a.b" = ["a.b"] ∧
      Style.selectorsOf? {} (Style.partsOf ".a.b") = some [[.classed "a", .classed "b"]] := by
  have evaluated : ((dotted.run Compiler.depth .text).toOption.map fun r =>
      (r.1.markup, r.1.fragments.map Fragment.text)) =
        some ("<a-el class=\"a.b\"><p>x</p></a-el>", [".a.b p\x7bcolor:red\x7d"]) := by
    decide +kernel
  obtain ⟨⟨o, summary⟩, ran, same⟩ := Option.map_eq_some_iff.mp evaluated
  obtain ⟨markup, fragments⟩ := Prod.mk.inj same
  exact ⟨o, summary, Compiled.eq_ok_of_toOption ran, markup, fragments, by decide, by rfl⟩

end ComponentMarkup
