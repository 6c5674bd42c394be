import ComponentMarkup.Proofs.Markup.Content

/-!
# The text of styles and scripts

The tree of a style or a script by itself has the text between its tags. But self-closing tags of
components are written out before the markup is read, and that pass does not know where a text is a
style's or a script's.

## Main definitions

* `Node.elements` — the elements of a tree
* `textElement`, `headed` — an element with a text, and the document around it
* `ReadsAsText` — a text between two tags is read as such an element

## Main results

* `node_readAll` — the tree of one element with a text
* `readsAsText_style`, `readsAsText_setupScript` — a style and a script
* `parseTemplate_rawText` — both, and when the text is kept
-/

namespace ComponentMarkup.Markup

/-! ### Trees of one element -/

/-- The draft of a document with one element in its head, and the text in it if there is one. -/
def lone (tag : Tag) (text : List Char) : Draft :=
  ⟨#[⟨.document, none, #[1]⟩, ⟨.element ⟨.html, "html"⟩ [] none, some 0, #[2]⟩,
    ⟨.element ⟨.html, "head"⟩ [] none, some 1, #[3]⟩] ++
    if text.isEmpty then #[⟨.element ⟨.html, tag.name⟩ tag.attributes none, some 2, #[]⟩]
    else #[⟨.element ⟨.html, tag.name⟩ tag.attributes none, some 2, #[4]⟩,
      ⟨.text (String.ofList text), some 3, #[]⟩]⟩

/-- The tree under construction within the element. -/
def insideOf (tag : Tag) (scan : Scan) (text : List Char) : Builder :=
  { draft := lone tag text, mode := .text, returnMode := .inHead, stack := [3, 2, 1],
    head := some 2, isQuirky := true, scan }

/-- The element with its text. -/
def textElement (tag : Tag) (text : List Char) : Node :=
  .element tag.name tag.attributes (if text.isEmpty then [] else [.text (String.ofList text)]) none

/-- A document with one element in its head. -/
def headed (element : Node) : Node :=
  .document [.element "html" []
    [.element "head" [] [element] none, .element "body" [] [] none] none]

section Building

variable {tag endTag : Tag} {scan : Scan} {text cs t : List Char}

theorem handle_of_byMode_eq_done {b b' : Builder} {e : Event} (html : b.isForeign e = false)
    (done : b.byMode e = .done b') : b.handle e = b' := by
  rw [Builder.handle, Builder.handleWithin, if_neg (Bool.eq_false_iff.mp html), done]

theorem appendText_insideOf {w : List Char} (nonempty : w ≠ []) :
    (insideOf tag scan text).appendText w = insideOf tag scan (text ++ w) := by
  obtain ⟨d, w, rfl⟩ := List.exists_cons_of_ne_nil nonempty
  have place : (insideOf tag scan text).placeIn (insideOf tag scan text).current = .endOf 3 := by
    cases text <;> rfl
  rw [Builder.appendText, place]
  cases text with
  | nil => rfl
  | cons c text =>
    have longer : String.ofList (c :: text) ++ String.ofList (d :: w) =
        String.ofList (c :: (text ++ d :: w)) := by
      rw [← String.ofList_append, List.cons_append]
    unfold insideOf lone
    rw [List.cons_append, ← longer]
    rfl

theorem isForeign_insideOf (e : Event) : (insideOf tag scan text).isForeign e = false := by
  have html : (insideOf tag scan text).currentName.space = .html := by cases text <;> rfl
  simp [Builder.isForeign, html]

/-- Text goes into the element. -/
theorem handle_insideOf {w : List Char} (nonempty : w ≠ []) :
    (insideOf tag scan text).handle (.words w) = insideOf tag scan (text ++ w) ∧
      (insideOf tag scan text).handle (.blank w) = insideOf tag scan (text ++ w) := by
  rw [← appendText_insideOf nonempty]
  exact ⟨handle_of_byMode_eq_done (isForeign_insideOf _) rfl,
    handle_of_byMode_eq_done (isForeign_insideOf _) rfl⟩

/-- Runs of a text. -/
inductive Spells : List Event → List Char → Prop
  | nil : Spells [] []
  | blank {w cs : List Char} {events : List Event} (nonempty : w ≠ []) (rest : Spells events cs) :
    Spells (.blank w :: events) (w ++ cs)
  | words {w cs : List Char} {events : List Event} (nonempty : w ≠ []) (rest : Spells events cs) :
    Spells (.words w :: events) (w ++ cs)

/-- A text without zeros is spelled by its runs. -/
theorem spells_runs (noZero : '\x00' ∉ cs) : Spells (Builder.runs cs) cs := by
  induction cs with
  | nil => exact .nil
  | cons c cs ih =>
    obtain ⟨other, others⟩ := List.ne_and_not_mem_of_not_mem_cons noZero
    have spells := ih others
    have single : [c] ≠ [] := List.cons_ne_nil _ _
    unfold Builder.runs
    rw [if_neg (by simpa using Ne.symm other)]
    split
    · split
      next w others found =>
        rw [found] at spells
        cases spells with
        | blank _ rest => exact .blank (w := c :: w) (List.cons_ne_nil _ _) rest
      next => exact .blank single spells
    · split
      next w others found =>
        rw [found] at spells
        cases spells with
        | words _ rest => exact .words (w := c :: w) (List.cons_ne_nil _ _) rest
      next => exact .words single spells

/-- All of a text goes into the element. -/
theorem foldl_handle_insideOf {events : List Event} (spells : Spells events cs) (text : List Char) :
    events.foldl Builder.handle (insideOf tag scan text) = insideOf tag scan (text ++ cs) := by
  induction spells generalizing text with
  | nil => rw [List.append_nil, List.foldl_nil]
  | blank nonempty _ ih =>
    rw [List.foldl_cons, (handle_insideOf nonempty).2, ih, List.append_assoc]
  | words nonempty _ ih =>
    rw [List.foldl_cons, (handle_insideOf nonempty).1, ih, List.append_assoc]

/-- The tree under construction after the element. -/
def behind (tag : Tag) (text : List Char) : Builder :=
  { draft := lone tag text, mode := .inHead, returnMode := .inHead, stack := [2, 1],
    head := some 2, isQuirky := true }

theorem take_endTag_insideOf (endTag : Tag) :
    (insideOf tag scan text).take (.endTag endTag) = behind tag text :=
  handle_of_byMode_eq_done (isForeign_insideOf _) rfl

theorem handleWithin_of_byMode_eq_again {b b' : Builder} {e : Event} (limit : Nat)
    (html : b.isForeign e = false) (again : b.byMode e = .again b') :
    Builder.handleWithin (limit + 1) b e = Builder.handleWithin limit b' e := by
  rw [Builder.handleWithin, if_neg (Bool.eq_false_iff.mp html), again]

/-- The end of the markup in the head leads on to an empty body. -/
theorem handle_finish_behind (tag : Tag) (text : List Char) :
    (behind tag text).handle .finish =
      { { (behind tag text).pop with mode := .afterHead }.insertImplied "body" with
        mode := .inBody } := by
  have html (b : Builder) : b.isForeign .finish = false := by simp [Builder.isForeign]
  change Builder.handleWithin 34 (behind tag text) .finish = _
  rw [handleWithin_of_byMode_eq_again _ (html _) rfl,
    handleWithin_of_byMode_eq_again _ (html _) rfl, Builder.handleWithin,
    if_neg (Bool.eq_false_iff.mp (html _))]
  rfl

/-- The end of the element and of the document. -/
theorem node_finish (tag : Tag) (text : List Char) :
    ((behind tag text).handle .finish).draft.node Draft.root = headed (textElement tag text) := by
  rw [handle_finish_behind]
  -- The draft first: the body is its last node.
  cases text with
  | nil =>
    have draft : ({ (behind tag []).pop with mode := .afterHead }.insertImplied "body").draft =
        ⟨#[⟨.document, none, #[1]⟩, ⟨.element ⟨.html, "html"⟩ [] none, some 0, #[2, 4]⟩,
          ⟨.element ⟨.html, "head"⟩ [] none, some 1, #[3]⟩,
          ⟨.element ⟨.html, tag.name⟩ tag.attributes none, some 2, #[]⟩,
          ⟨.element ⟨.html, "body"⟩ [] none, some 1, #[]⟩]⟩ := rfl
    rw [draft]
    rfl
  | cons c text =>
    have draft : ({ (behind tag (c :: text)).pop with
          mode := .afterHead }.insertImplied "body").draft =
        ⟨#[⟨.document, none, #[1]⟩, ⟨.element ⟨.html, "html"⟩ [] none, some 0, #[2, 5]⟩,
          ⟨.element ⟨.html, "head"⟩ [] none, some 1, #[3]⟩,
          ⟨.element ⟨.html, tag.name⟩ tag.attributes none, some 2, #[4]⟩,
          ⟨.text (String.ofList (c :: text)), some 3, #[]⟩,
          ⟨.element ⟨.html, "body"⟩ [] none, some 1, #[]⟩]⟩ := rfl
    rw [draft]
    rfl

theorem readAll_of_some {b : Builder} {token : Token} {rest : List Char}
    (next : nextToken? b.scan b.hasLiterals cs = some (token, rest)) :
    b.readAll cs = (b.take token).readAll rest := by
  rw [Builder.readAll]
  split
  next none => cases none.symm.trans next
  next found =>
    cases found.symm.trans next
    rfl

theorem readAll_nil (b : Builder) : b.readAll [] = b.handle .finish := by
  rw [Builder.readAll]
  rfl

/-- The tree of one element with a text, from its tokens. -/
theorem node_readAll {tail : List Char}
    (start : nextToken? .data false cs = some (.startTag tag, t ++ tail))
    (started : ({} : Builder).take (.startTag tag) = insideOf tag scan [])
    (content : t ≠ [] → nextToken? scan false (t ++ tail) = some (.text t, tail))
    (ending : nextToken? scan false tail = some (.endTag endTag, [])) (noZero : '\x00' ∉ t) :
    (({} : Builder).readAll cs).draft.node Draft.root = headed (textElement tag t) := by
  have literals (text : List Char) : (insideOf tag scan text).hasLiterals = false := by
    cases text <;> rfl
  have read : (insideOf tag scan []).readAll (t ++ tail) = (insideOf tag scan t).readAll tail := by
    by_cases empty : t = []
    · rw [empty, List.nil_append]
    · have next : nextToken? scan (insideOf tag scan []).hasLiterals (t ++ tail) =
          some (.text t, tail) := by
        rw [literals]
        exact content empty
      rw [readAll_of_some next]
      exact congrArg (·.readAll tail) (foldl_handle_insideOf (spells_runs noZero) [])
  have ended : (insideOf tag scan t).readAll tail = (behind tag t).handle .finish := by
    have next : nextToken? scan (insideOf tag scan t).hasLiterals tail =
        some (.endTag endTag, []) := by
      rw [literals]
      exact ending
    rw [readAll_of_some next, take_endTag_insideOf, readAll_nil]
  rw [readAll_of_some start, started, read, ended, node_finish]

end Building

/-! ### Templates of one element -/

namespace Node

mutual

/-- The elements of a tree, the contents of templates included. -/
def elements : Node → List Node
  | document cs => elementsOfAll cs
  | element name attrs cs content =>
    element name attrs cs content :: (elementsOfAll cs ++ elementsOfContent content)
  | _ => []
termination_by structural n => n

/-- The elements of several trees. -/
def elementsOfAll : List Node → List Node
  | [] => []
  | n :: ns => n.elements ++ elementsOfAll ns
termination_by structural ns => ns

/-- The elements of the content of a template. -/
def elementsOfContent : Option Node → List Node
  | none => []
  | some n => n.elements
termination_by structural n => n

end

end Node

theorem unifyLines_eq_self {cs : List Char} (noReturn : '\r' ∉ cs) : unifyLines cs = cs := by
  induction cs with
  | nil => rfl
  | cons c cs ih =>
    obtain ⟨other, rest⟩ := List.ne_and_not_mem_of_not_mem_cons noReturn
    rw [unifyLines, ih rest]
    all_goals simp [Ne.symm other]

/-- A document that the markup does not speak of gives way to what is in it. -/
theorem unwrap_headed {tag : Tag}
    (ofItsOwn : tag.name ≠ "html" ∧ tag.name ≠ "head" ∧ tag.name ≠ "body") (text : List Char) :
    unwrap (headed (textElement tag text)) = [textElement tag text] := by
  simp [headed, textElement, unwrap, unwrapAll, ofItsOwn]

theorem filter_elements_document (tag : Tag) (text : List Char) :
    (Node.document [textElement tag text]).elements.filter (·.hasTag tag.name) =
      [textElement tag text] := by
  cases text <;> simp [textElement, Node.elements, Node.elementsOfAll, Node.elementsOfContent,
    Node.hasTag, Node.tag?]

theorem filter_elements_headed {tag : Tag}
    (ofItsOwn : tag.name ≠ "html" ∧ tag.name ≠ "head" ∧ tag.name ≠ "body") (text : List Char) :
    (headed (textElement tag text)).elements.filter (·.hasTag tag.name) =
      [textElement tag text] := by
  obtain ⟨noHtml, noHead, noBody⟩ := ofItsOwn
  cases text <;> simp [headed, textElement, Node.elements, Node.elementsOfAll,
    Node.elementsOfContent, Node.hasTag, Node.tag?, Ne.symm noHtml, Ne.symm noHead, Ne.symm noBody]

theorem textContent_textElement (tag : Tag) (text : List Char) :
    (textElement tag text).textContent = String.ofList text := by
  cases text with
  | nil => rfl
  | cons c text => exact String.append_empty

/-- A text between two tags is read as one element with that text, as the pass leaves it. -/
structure ReadsAsText (tag : Tag) (opening s closing : String) : Prop where
  /-- The pass rewrites the text as it does by itself, and nothing around it. -/
  pass : expandSelfClosing (opening ++ s ++ closing).toList =
    opening.toList ++ expandSelfClosing s.toList ++ closing.toList
  /-- The tree is that element, in a whole document if the markup speaks of the root. -/
  tree : parseTemplate (opening ++ s ++ closing) =
    let element := textElement tag (expandSelfClosing s.toList)
    if spellsRoot (opening ++ s ++ closing).toList then headed element else .document [element]
  /-- There is one element of the name in the whole tree. -/
  single : (parseTemplate (opening ++ s ++ closing)).elements.filter (·.hasTag tag.name) =
    [textElement tag (expandSelfClosing s.toList)]
  /-- Its text is that of the pass. -/
  text : (textElement tag (expandSelfClosing s.toList)).textContent =
    String.ofList (expandSelfClosing s.toList)
  /-- The text is kept exactly if there is no self-closing tag of a component in it. -/
  kept_iff : (textElement tag (expandSelfClosing s.toList)).textContent = s ↔
    ¬ HasSelfClosing s.toList

section Templates

variable {tag : Tag} {opening s closing : String}

/-- A text between the tags of an element, after the pass. -/
theorem expandSelfClosing_tags {inner name : List Char} (noOpen : '<' ∉ inner)
    (noOpenName : '<' ∉ name)
    (noTag : ∀ rest, readSelfClosing? (inner ++ rest) = none) (cs : List Char) :
    expandSelfClosing ('<' :: (inner ++ (cs ++ '<' :: '/' :: (name ++ ['>'])))) =
      '<' :: (inner ++ (expandSelfClosing cs ++ '<' :: '/' :: (name ++ ['>']))) := by
  have noOpenEnd : '<' ∉ '/' :: (name ++ ['>']) := by simp [noOpenName]
  have kept := expandSelfClosing_append_of_not_mem noOpenEnd []
  rw [List.append_nil, expandSelfClosing, List.append_nil] at kept
  rw [expandSelfClosing_cons_of_none (noTag _), expandSelfClosing_append_of_not_mem noOpen,
    expandSelfClosing_append, expandSelfClosing_cons_of_none rfl, kept]

/-- A text between two tags, from how these and the text are read. -/
theorem readsAsText_of_tokens (inner name : List Char) (scan : Scan) (endTag : Tag)
    (opens : opening.toList = '<' :: inner)
    (closes : closing.toList = '<' :: '/' :: (name ++ ['>']))
    (noOpen : '<' ∉ inner) (noOpenName : '<' ∉ name) (noReturn : '\r' ∉ inner ++ name)
    (noTag : ∀ rest, readSelfClosing? (inner ++ rest) = none)
    (noZero : '\x00' ∉ s.toList) (noReturnText : '\r' ∉ s.toList)
    (start : ∀ rest, nextToken? .data false ('<' :: (inner ++ rest)) =
      some (.startTag tag, rest))
    (started : ({} : Builder).take (.startTag tag) = insideOf tag scan [])
    (content : expandSelfClosing s.toList ≠ [] →
      nextToken? scan false (expandSelfClosing s.toList ++ '<' :: '/' :: (name ++ ['>'])) =
        some (.text (expandSelfClosing s.toList), '<' :: '/' :: (name ++ ['>'])))
    (ending : nextToken? scan false ('<' :: '/' :: (name ++ ['>'])) = some (.endTag endTag, []))
    (ofItsOwn : tag.name ≠ "html" ∧ tag.name ≠ "head" ∧ tag.name ≠ "body") :
    ReadsAsText tag opening s closing := by
  have pass : expandSelfClosing (opening ++ s ++ closing).toList =
      '<' :: (inner ++ (expandSelfClosing s.toList ++ '<' :: '/' :: (name ++ ['>']))) := by
    rw [← expandSelfClosing_tags noOpen noOpenName noTag]
    simp [String.toList_append, opens, closes]
  have noZeroThen := notMem_expandSelfClosing noZero (by decide)
  have noReturnThen := notMem_expandSelfClosing noReturnText (by decide)
  have document : documentOf (expandSelfClosing (opening ++ s ++ closing).toList) =
      headed (textElement tag (expandSelfClosing s.toList)) := by
    have noReturnAll : '\r' ∉ '<' :: (inner ++ (expandSelfClosing s.toList ++
        '<' :: '/' :: (name ++ ['>']))) := by
      have noReturnTags := noReturn
      simp only [List.mem_append, not_or] at noReturnTags
      simp [noReturnTags, noReturnThen]
    rw [pass, documentOf]
    change (({} : Builder).readAll (unifyLines ('<' :: _))).draft.node Draft.root = _
    rw [unifyLines_eq_self noReturnAll]
    exact node_readAll (start _) started content ending noZeroThen
  have tree : parseTemplate (opening ++ s ++ closing) =
      if spellsRoot (opening ++ s ++ closing).toList then
        headed (textElement tag (expandSelfClosing s.toList))
      else .document [textElement tag (expandSelfClosing s.toList)] := by
    rw [parseTemplate, document, unwrap_headed ofItsOwn]
  refine ⟨?_, tree, ?_, textContent_textElement _ _, ?_⟩
  · rw [pass, opens, closes, List.append_assoc, List.cons_append]
  · rw [tree]
    split
    · exact filter_elements_headed ofItsOwn _
    · exact filter_elements_document tag _
  · rw [textContent_textElement, ← expandSelfClosing_eq_self_iff, ← String.toList_inj,
      String.toList_ofList]

end Templates

section Elements

variable {s : String} (noZero : '\x00' ∉ s.toList) (noReturn : '\r' ∉ s.toList)

include noZero noReturn

/-- A style by itself in a template. -/
theorem readsAsText_style (lacks : LacksWord "</style" s.toList) :
    ReadsAsText ⟨"style", [], false⟩ "<style>" s "</style>" := by
  have noZeroThen := notMem_expandSelfClosing noZero (by decide)
  have ends := isEndTagOf_self "style".toList []
  -- The first end tag is that of the style: the pass writes none into the text.
  have run := rawRun_append (t := expandSelfClosing s.toList) ends fun u hu =>
    (follows_of_suffix (by decide) hu).imp_right
      (isEndTagOf_eq_false_of_follows (by decide) (by decide) (by decide) lacks)
  refine readsAsText_of_tokens "style>".toList "style".toList (.raw "style".toList)
    ⟨"style", [], false⟩ rfl rfl (by decide) (by decide) (by decide) (fun _ => rfl) noZero noReturn
    (nextToken?_style false) rfl ?_ ?_ (by decide)
  · intro nonempty
    have noEnd := isEndTagOf_eq_false_of_run nonempty (.inl run)
    rw [nextToken?, if_neg (by simp)]
    change some (contentToken _ (rawRun _ _) id _) = _
    rw [run, contentToken_text noEnd noZeroThen]
  · exact congrArg some (contentToken_endTag (List.all_eq_true.mp rfl) _ id)

/-- A script with the directive by itself in a template. -/
theorem readsAsText_setupScript (lacks : LacksWord "</script" s.toList)
    (noComment : LacksWord "<!--" s.toList) :
    ReadsAsText ⟨"script", [⟨"webc:setup", ""⟩], false⟩
      "<script webc:setup>" s "</script>" := by
  have noZeroThen := notMem_expandSelfClosing noZero (by decide)
  have ends := isEndTagOf_self "script".toList []
  -- Nor does it open a comment, in which end tags would not count.
  have run := scriptRun_append (t := expandSelfClosing s.toList) ends fun u hu =>
    (follows_of_suffix (by decide) hu).imp_right fun follows =>
      ⟨isEndTagOf_eq_false_of_follows (by decide) (by decide) (by decide) lacks follows,
        take_ne_of_follows noComment follows⟩
  refine readsAsText_of_tokens "script webc:setup>".toList "script".toList .script
    ⟨"script", [], false⟩ rfl rfl (by decide) (by decide) (by decide) (fun _ => rfl) noZero noReturn
    (nextToken?_setupScript false) rfl ?_ ?_ (by decide)
  · intro nonempty
    have noEnd := isEndTagOf_eq_false_of_run nonempty (.inr ⟨rfl, run⟩)
    rw [nextToken?, if_neg (by simp)]
    change some (contentToken _ (scriptRun _ _) id _) = _
    rw [run, contentToken_text noEnd noZeroThen]
  · exact congrArg some (contentToken_endTag (List.all_eq_true.mp rfl) _ id)

/-- A style or a script with the directive, by itself in a template, is one element with its text as
the pass leaves it, if its end tag does not stand in that text and, for a script, no comment is
opened in it. The pass rewrites the self-closing tags of components in the text, and the text is
kept exactly if there are none. -/
theorem parseTemplate_rawText :
    (LacksWord "</style" s.toList →
      ReadsAsText ⟨"style", [], false⟩ "<style>" s "</style>") ∧
    (LacksWord "</script" s.toList → LacksWord "<!--" s.toList →
      ReadsAsText ⟨"script", [⟨"webc:setup", ""⟩], false⟩ "<script webc:setup>" s "</script>") :=
  ⟨readsAsText_style noZero noReturn, readsAsText_setupScript noZero noReturn⟩

end Elements

/-- A style with a child combinator and a script that compares, without tags of components. -/
theorem parseTemplate_rawText_comparison :
    ReadsAsText ⟨"style", [], false⟩ "<style>" "a > b" "</style>" ∧
      ¬ HasSelfClosing "a > b".toList ∧
      ReadsAsText ⟨"script", [⟨"webc:setup", ""⟩], false⟩
        "<script webc:setup>" "a < b" "</script>" := by
  have style := (parseTemplate_rawText (s := "a > b") (by decide) (by decide)).1
  have script := (parseTemplate_rawText (s := "a < b") (by decide) (by decide)).2
  exact ⟨style (by decide), by decide +kernel, script (by decide) (by decide)⟩

/-- The tag of a component in a string of a style is written out, and the style has another text. -/
theorem exists_rawText_rewritten :
    let s := "a::before\x7bcontent:'<my-el/>'\x7d"
    '\x00' ∉ s.toList ∧ '\r' ∉ s.toList ∧ LacksWord "</style" s.toList ∧
      HasSelfClosing s.toList ∧
      ((parseTemplate ("<style>" ++ s ++ "</style>")).elements.filter (·.hasTag "style")).map
        Node.textContent = ["a::before\x7bcontent:'<my-el></my-el>'\x7d"] := by
  intro s
  have noZero : '\x00' ∉ s.toList := by decide
  have noReturn : '\r' ∉ s.toList := by decide
  have lacks : LacksWord "</style" s.toList := by decide
  have read := readsAsText_style noZero noReturn lacks
  refine ⟨noZero, noReturn, lacks, by decide +kernel, ?_⟩
  rw [read.single, List.map_singleton, read.text]
  decide +kernel

end ComponentMarkup.Markup
