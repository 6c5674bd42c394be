import ComponentMarkup.Markup.Tree

/-!
# Templates

A template is markup of a component or a page. Components may be written as self-closing tags, and
the elements that every document has are left out unless the template spells them out.

## Main definitions

* `Markup.expandSelfClosing` — self-closing tags of components, written out
* `Markup.parseTemplate` — the tree of a template
* `Markup.isComponentName` — the names that components may have
-/

namespace ComponentMarkup.Markup

/-! ### Self-closing tags -/

/-- Characters of a component's name after its first `-`. -/
def isComponentNameChar (c : Char) : Bool :=
  isAsciiAlphanumeric c || c == '_' || c == '.' || c == '-'

/-- Reads a component's name: a letter, letters and digits, a `-`, and more. -/
def readComponentName? (cs : List Char) : Option (List Char × List Char) :=
  match cs with
  | [] => none
  | c :: _ =>
    let first := cs.takeWhile isAsciiAlphanumeric
    if c.isAlpha && (cs.drop first.length).head? == some '-' then
      some (cs.takeWhile isComponentNameChar, cs.dropWhile isComponentNameChar)
    else none

/-- Reads a self-closing tag of a component after its `<`: its name, what is written before `/>`,
and the rest. No other tag may start or end in between. -/
def readSelfClosing? (cs : List Char) : Option (List Char × List Char × List Char) :=
  match readComponentName? cs with
  | none => none
  | some (name, after) =>
    let inner := after.takeWhile fun c => c != '<' && c != '>'
    match after.drop inner.length with
    | '>' :: rest =>
      if inner.getLast? == some '/' then
        let written := inner.dropLast
        if written.isEmpty || written.head?.any isBlank then
          some (name, dropEndWhile isBlank written, rest)
        else none
      else none
    | _ => none

theorem length_of_readSelfClosing? {cs name written rest : List Char}
    (h : readSelfClosing? cs = some (name, written, rest)) : rest.length < cs.length := by
  unfold readSelfClosing? at h
  split at h
  · simp at h
  · rename_i n after hname
    have hafter : after.length ≤ cs.length := by
      unfold readComponentName? at hname
      split at hname
      · simp at hname
      · dsimp only at hname
        split at hname
        · simp only [Option.some.injEq, Prod.mk.injEq] at hname
          rw [← hname.2]
          exact length_dropWhile_le _ _
        · simp at hname
    dsimp only at h
    split at h
    · rename_i r hdrop
      have hlen := congrArg List.length hdrop
      rw [List.length_drop, List.length_cons] at hlen
      split at h
      · split at h
        · simp only [Option.some.injEq, Prod.mk.injEq] at h
          rw [← h.2.2]
          omega
        · simp at h
      · simp at h
    · simp at h

/-- Writes self-closing tags of components as start and end tags, wherever they stand. -/
def expandSelfClosing : List Char → List Char
  | [] => []
  | c :: rest =>
    if c == '<' then
      match h : readSelfClosing? rest with
      | some (name, written, after) =>
        '<' :: (name ++ written ++ ['>', '<', '/'] ++ name ++ ['>'] ++ expandSelfClosing after)
      | none => c :: expandSelfClosing rest
    else c :: expandSelfClosing rest
termination_by cs => cs.length
decreasing_by
  · have := length_of_readSelfClosing? h
    simp only [List.length_cons]
    omega
  all_goals simp

/-! ### Documents and fragments -/

/-- Whether the root element is spelled out. -/
def spellsRoot : List Char → Bool
  | [] => false
  | c :: rest =>
    (match dropStartNoCase? "<html".toList (c :: rest) with
      | some (next :: _) => next == '>' || isBlank next
      | _ => false) || spellsRoot rest

mutual

/-- A node of a fragment: the elements that every document has give way to their content. -/
def unwrap : Node → List Node
  | .document nodes => unwrapAll nodes
  | .doctype _ => []
  | .element name attrs nodes content =>
    if name == "html" || name == "head" || name == "body" then unwrapAll nodes
    else [.element name attrs nodes content]
  | node => [node]
termination_by structural n => n

/-- The nodes of a fragment. -/
def unwrapAll : List Node → List Node
  | [] => []
  | n :: ns => unwrap n ++ unwrapAll ns
termination_by structural ns => ns

end

/-- The tree of a template. -/
def parseTemplate (markup : String) : Node :=
  let tree := documentOf (expandSelfClosing markup.toList)
  if spellsRoot markup.toList then tree else .document (unwrap tree)

/-- Whether a name is one that a component may have: it starts with a letter and has a `-`. -/
def isComponentName (name : String) : Bool :=
  name.toList.contains '-' && name.toList.head?.any Char.isAlpha

end ComponentMarkup.Markup
