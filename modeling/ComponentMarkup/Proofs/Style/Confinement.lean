import ComponentMarkup.Error
import ComponentMarkup.Proofs.Style.Outline

/-!
# Confinement

A style sheet under a scope should apply inside of the scope only, so every style rule that is in
no other should have its selectors under the scope. Scoping passes over the rules in two kinds of
groups, for parts of a document and for starting styles. The text of a sheet under a scope tells
whether this makes a difference, since a selector ends at a comma or a bracket that no scope id has.

## Main definitions

* `confinedText` — a sheet as it is written with all its selectors under a scope
* `leavesAlone` — scoping would not change the selectors that it does not get to

## Main results

* `scopeSheet_eq_confinedText_iff` — what scoping gives, and when all selectors are under the scope
* `exists_scopeSheet_ne_confinedText` — a style rule that scoping passes over
-/

namespace ComponentMarkup.Style

variable {scope scopeId t : String} {d : Char} {x y : List Char}

/-- A sheet as it is written with the selectors of all style rules that are in no other under a
scope. -/
def confinedText (scopeId : String) (rules : List Rule) : String :=
  printed ((outlineAll true rules).map (.everywhere ("." ++ scopeId)))

/-- Whether scoping gets to a piece or would not change it. -/
def Piece.isLeftAlone (scope : String) : Piece → Bool
  | selectors false texts => texts.map (scopedSelector scope) == texts
  | _ => true

/-- Whether scoping gets to all pieces that it would change. -/
def leavesAlone (scope : String) (pieces : List Piece) : Bool :=
  pieces.all (Piece.isLeftAlone scope)

/-! ### Selectors in a text -/

/-- A selector that is the class of a scope, or starts with it and a blank, is not put under it. -/
theorem isScoped_of_toList {rest : List Char} (starts : t.toList = scope.toList ++ rest)
    (ends : ∀ c ∈ rest.head?, c = ' ') : isScoped scope t = true := by
  have found : dropStart? t scope = some (String.ofList rest) := by
    simp [dropStart?, dropStartChars?, starts]
  rw [isScoped, found]
  cases rest with
  | nil => simp
  | cons c rest =>
    obtain rfl := ends c rfl
    simp
    decide

/-- A selector is left alone, or is one for the host that becomes one of the scope's class, or is
put after the class. -/
theorem scopedSelector_cases (scope t : String) :
    scopedSelector scope t = t ∨
      ((∃ rest, t.toList = ':' :: rest) ∧
        ∃ rest, (scopedSelector scope t).toList = scope.toList ++ rest) ∨
      (isScoped scope t = false ∧ scopedSelector scope t = scope ++ " " ++ t) := by
  unfold scopedSelector
  split
  · exact .inl rfl
  · rename_i unscoped
    obtain ⟨unscoped, -⟩ := Bool.or_eq_false_iff.mp (eq_false_of_ne_true unscoped)
    split
    · rename_i after isHost
      refine .inr (.inl ⟨?_, ?_⟩)
      · obtain ⟨rest, isRest, -⟩ := Option.map_eq_some_iff.mp isHost
        unfold dropStartChars? at isRest
        split at isRest
        · rename_i starts
          obtain ⟨more, same⟩ := List.isPrefixOf_iff_prefix.mp starts
          exact ⟨_, same.symm⟩
        · exact nomatch isRest
      · unfold hostSelector
        split
        · split <;> simp
        · simp
    · exact .inr (.inr ⟨unscoped, rfl⟩)

/-- A text up to a character that another text does not have starts with the other text, if that
comes first and a blank after it. -/
theorem exists_append_of_append_cons_eq {class_ text : List Char} (notIn : d ∉ class_)
    (same : text ++ d :: x = class_ ++ ' ' :: y) :
    ∃ rest, text = class_ ++ rest ∧ ∀ c ∈ rest.head?, c = ' ' := by
  rcases List.append_eq_append_iff.mp same with ⟨rest, longer, after⟩ | ⟨rest, starts, after⟩
  · cases rest with
    | nil => exact ⟨[], by simpa using longer.symm, nofun⟩
    | cons c rest =>
      obtain ⟨rfl, -⟩ := List.cons.inj after
      exact absurd (longer ▸ by simp) notIn
  · refine ⟨rest, starts, fun c isFirst => ?_⟩
    cases rest with
    | nil => exact nomatch isFirst
    | cons b rest =>
      obtain rfl : b = c := Option.some.inj isFirst
      exact (List.cons.inj after).1.symm

/-- Where a selector and the selector under a scope end at one character, which no class has, they
are the same if the texts are. -/
theorem scopedSelector_eq_of_append_eq (notInId : d ∉ scopeId.toList) (hd : d ≠ '.')
    (same : t.toList ++ d :: x = (scopedSelector ("." ++ scopeId) t).toList ++ d :: y) :
    scopedSelector ("." ++ scopeId) t = t := by
  have scopeChars : ("." ++ scopeId).toList = '.' :: scopeId.toList := by simp
  rcases scopedSelector_cases ("." ++ scopeId) t with alone | ⟨⟨rest, host⟩, more, under⟩ |
    ⟨unscoped, under⟩
  · exact alone
  · -- One starts with a colon, the other with the dot of the class.
    rw [host, under, scopeChars] at same
    exact nomatch (List.cons.inj same).1
  · have notIn : d ∉ ("." ++ scopeId).toList := by simp [scopeChars, hd, notInId]
    have chars : (scopedSelector ("." ++ scopeId) t).toList =
        ("." ++ scopeId).toList ++ ' ' :: t.toList := by
      rw [under]
      simp
    -- The selector would have to start with the class and a blank, and then it is left alone.
    rw [chars, List.append_assoc, List.cons_append] at same
    obtain ⟨rest, starts, ends⟩ := exists_append_of_append_cons_eq notIn same
    exact nomatch unscoped.symm.trans (isScoped_of_toList starts ends)

/-- The same for the selectors of a rule, which have commas between them and a bracket after them.
-/
theorem map_scopedSelector_eq_of_append_eq (noComma : ',' ∉ scopeId.toList)
    (noBracket : '\x7b' ∉ scopeId.toList) (texts : List String)
    (same : (",".intercalate texts).toList ++ '\x7b' :: x =
      (",".intercalate (texts.map (scopedSelector ("." ++ scopeId)))).toList ++ '\x7b' :: y) :
    texts.map (scopedSelector ("." ++ scopeId)) = texts := by
  induction texts with
  | nil => rfl
  | cons t more ih =>
    cases more with
    | nil =>
      simp only [List.map_cons, List.map_nil, String.intercalate_singleton] at same
      rw [List.map_singleton, scopedSelector_eq_of_append_eq noBracket (by decide) same]
    | cons u rest =>
      simp only [List.map_cons, String.intercalate_cons_cons, String.toList_append,
        List.append_assoc] at same ih
      have first := scopedSelector_eq_of_append_eq noComma (by decide) same
      rw [first] at same
      have others := ih (by simpa using same)
      rw [List.map_cons, List.map_cons, first, others]

/-! ### Sheets in a text -/

/-- The text of pieces under a scope, whatever follows it, is that with all selectors under the
scope only if scoping gets to all that it would change. -/
def Tells (scope : String) (pieces : List Piece) : Prop :=
  ∀ x y : List Char,
    (printed (pieces.map (.whereReached scope))).toList ++ x =
      (printed (pieces.map (.everywhere scope))).toList ++ y →
    leavesAlone scope pieces = true ∧ x = y

theorem tells_nil : Tells scope [] := fun _ _ same => ⟨rfl, by simpa using same⟩

theorem tells_plain (text : String) : Tells scope [.plain text] := by
  intro x y same
  refine ⟨rfl, ?_⟩
  simpa [Piece.whereReached, Piece.everywhere, Piece.text] using same

theorem Tells.append {ps qs : List Piece} (first : Tells scope ps) (rest : Tells scope qs) :
    Tells scope (ps ++ qs) := by
  intro x y same
  simp only [List.map_append, printed_append, String.toList_append, List.append_assoc] at same
  obtain ⟨atFirst, same⟩ := first _ _ same
  obtain ⟨atRest, same⟩ := rest _ _ same
  refine ⟨?_, same⟩
  rw [leavesAlone, List.all_append, Bool.and_eq_true_iff]
  exact ⟨atFirst, atRest⟩

/-- What follows the selectors of a rule is a block. -/
theorem exists_toList_blockText (own : List Declaration) (rules : List Rule) :
    ∃ rest, (blockText own rules).toList = '\x7b' :: rest := by
  simp [blockText, blockAround]

theorem tells_style (noComma : ',' ∉ scopeId.toList) (noBracket : '\x7b' ∉ scopeId.toList)
    (isReached : Bool) (texts : List String) (own : List Declaration) (rules : List Rule) :
    Tells ("." ++ scopeId) [.selectors isReached texts, .plain (blockText own rules)] := by
  intro x y same
  obtain ⟨rest, block⟩ := exists_toList_blockText own rules
  cases isReached with
  | true =>
    refine ⟨rfl, ?_⟩
    simpa [Piece.whereReached, Piece.everywhere, Piece.text] using same
  | false =>
    have sameText : (",".intercalate texts).toList ++ '\x7b' :: (rest ++ x) =
        (",".intercalate (texts.map (scopedSelector ("." ++ scopeId)))).toList ++
          '\x7b' :: (rest ++ y) := by
      simpa [Piece.whereReached, Piece.everywhere, Piece.text, block] using same
    have unchanged := map_scopedSelector_eq_of_append_eq noComma noBracket texts sameText
    rw [unchanged] at sameText
    refine ⟨?_, by simpa using sameText⟩
    simp [leavesAlone, Piece.isLeftAlone, unchanged]

mutual

/-- The text of a rule under a scope tells what scoping gets to. -/
theorem tells_outline (noComma : ',' ∉ scopeId.toList) (noBracket : '\x7b' ∉ scopeId.toList)
    (isReached : Bool) (r : Rule) : Tells ("." ++ scopeId) (outline isReached r) := by
  cases r with
  | style selectors own rules => exact tells_style noComma noBracket isReached _ own rules
  | nest selectors own rules => exact tells_plain _
  | group g rules =>
    have inner := tells_outlineAll noComma noBracket (isReached && g.isScoped) rules
    rw [outline]
    split
    · exact inner
    · exact ((tells_plain _).append inner).append (tells_plain _)
  | declarations own => exact tells_plain _
  | other text => exact tells_plain _
termination_by structural r

/-- The text of rules under a scope tells what scoping gets to. -/
theorem tells_outlineAll (noComma : ',' ∉ scopeId.toList) (noBracket : '\x7b' ∉ scopeId.toList)
    (isReached : Bool) (rules : List Rule) :
    Tells ("." ++ scopeId) (outlineAll isReached rules) := by
  cases rules with
  | nil => exact tells_nil
  | cons r rules =>
    have first := tells_outline noComma noBracket isReached r
    have rest := tells_outlineAll noComma noBracket isReached rules
    rw [outlineAll]
    split
    · exact (first.append (tells_plain _)).append rest
    · simpa using first.append rest
termination_by structural rules

end

/-! ### Sheets under a scope -/

/-- Where scoping gets to all that it would change, it puts all selectors under the scope. -/
theorem map_whereReached_eq {pieces : List Piece} (alone : leavesAlone scope pieces = true) :
    pieces.map (Piece.whereReached scope) = pieces.map (Piece.everywhere scope) := by
  refine List.map_congr_left fun p listed => ?_
  have self := List.all_eq_true.mp alone p listed
  cases p with
  | plain text => rfl
  | selectors isReached texts =>
    cases isReached with
    | true => rfl
    | false =>
      have unchanged : texts.map (scopedSelector scope) = texts := eq_of_beq self
      simp [Piece.whereReached, Piece.everywhere, unchanged]

/-- A style sheet that can be read comes out as it is written, with the selectors of each rule that
scoping gets to put under the scope, once. If scoping gets to all that it would change, this is the
sheet with the selectors of all style rules under the scope, and else it is not, for any scope id
without commas and brackets. -/
theorem scopeSheet_eq_confinedText_iff (scopeId : String) {css : String} {rules : List Rule}
    (read : sheet? css = some rules) :
    printed (outlineAll true rules) = rulesText rules ∧
      scopeSheet scopeId css =
        .ok (printed ((outlineAll true rules).map (.whereReached ("." ++ scopeId)))) ∧
      (leavesAlone ("." ++ scopeId) (outlineAll true rules) = true →
        scopeSheet scopeId css = .ok (confinedText scopeId rules)) ∧
      (',' ∉ scopeId.toList → '\x7b' ∉ scopeId.toList →
        scopeSheet scopeId css = .ok (confinedText scopeId rules) →
          leavesAlone ("." ++ scopeId) (outlineAll true rules) = true) := by
  have scoping : scopeSheet scopeId css =
      .ok (printed ((outlineAll true rules).map (.whereReached ("." ++ scopeId)))) := by
    rw [scopeSheet, read]
    exact congrArg Except.ok (scopedRules_eq_printed _ rules (allStandAlone_of_sheet? read))
  refine ⟨printed_outlineAll true rules, scoping, fun alone => ?_, fun noComma noBracket same => ?_⟩
  · rw [scoping, map_whereReached_eq alone, confinedText]
  · have texts := Except.ok.inj (scoping.symm.trans same)
    exact (tells_outlineAll noComma noBracket true rules [] [] (by rw [texts, confinedText])).1

/-! ### A sheet that is confined, and one that is not -/

/-- A sheet with a group that scoping gets to, an animation, and a starting style whose selector is
none to be scoped. -/
def confinedSheet : String :=
  "@media print { p, :host(.a) { color: red } } @keyframes k { from { color: red } } " ++
    "@starting-style { :host-context(b) p { color: red } }"

theorem scopeSheet_eq_confinedText_iff_confinedSheet :
    ∃ rules, sheet? confinedSheet = some rules ∧ (',' ∉ "s1".toList ∧ '\x7b' ∉ "s1".toList) ∧
      leavesAlone ".s1" (outlineAll true rules) = true ∧
      scopeSheet "s1" confinedSheet = .ok (confinedText "s1" rules) ∧
      confinedText "s1" rules = "@media print\x7b.s1 p,.s1.a\x7bcolor:red\x7d\x7d" ++
        "@keyframes k\x7b0%\x7bcolor:red\x7d\x7d" ++
        "@starting-style\x7b:host-context(b) p\x7bcolor:red\x7d\x7d" := by
  have evaluated : (sheet? confinedSheet).map (fun rules =>
      (leavesAlone ".s1" (outlineAll true rules), confinedText "s1" rules)) =
        some (true, "@media print\x7b.s1 p,.s1.a\x7bcolor:red\x7d\x7d" ++
          "@keyframes k\x7b0%\x7bcolor:red\x7d\x7d" ++
          "@starting-style\x7b:host-context(b) p\x7bcolor:red\x7d\x7d") := by
    decide +kernel
  obtain ⟨rules, read, values⟩ := Option.map_eq_some_iff.mp evaluated
  obtain ⟨alone, text⟩ := Prod.mk.inj values
  have chars : ',' ∉ "s1".toList ∧ '\x7b' ∉ "s1".toList := by decide
  obtain ⟨-, -, confined, -⟩ := scopeSheet_eq_confinedText_iff "s1" read
  exact ⟨rules, read, chars, alone, confined alone, text⟩

/-- A sheet with a style rule in a group for a starting style. -/
def startingSheet : String := "@starting-style { p { color: red } }"

/-- A sheet under a scope can have a style rule for the whole page: one in a group that scoping
passes over. -/
theorem exists_scopeSheet_ne_confinedText :
    ∃ rules, sheet? startingSheet = some rules ∧
      scopeSheet "s1" startingSheet = .ok "@starting-style\x7bp\x7bcolor:red\x7d\x7d" ∧
      confinedText "s1" rules = "@starting-style\x7b.s1 p\x7bcolor:red\x7d\x7d" := by
  have evaluated : (sheet? startingSheet).map (confinedText "s1") =
      some "@starting-style\x7b.s1 p\x7bcolor:red\x7d\x7d" := by
    decide +kernel
  obtain ⟨rules, read, text⟩ := Option.map_eq_some_iff.mp evaluated
  exact ⟨rules, read, Compiled.eq_ok_of_toOption (by decide +kernel), text⟩

end ComponentMarkup.Style
