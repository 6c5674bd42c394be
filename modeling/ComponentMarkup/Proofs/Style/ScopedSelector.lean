import ComponentMarkup.Proofs.Style.Compound
import ComponentMarkup.Style.Sheet

/-!
# Selectors under a scope

A selector under a scope is the class of the scope with something behind it: a blank and the
selector; for the host what follows the word, or what its parentheses hold and what follows them;
and for a selector that starts with the class what it has there already. Nothing is put in between,
so that a name behind the class goes on with it, and scoping knows this for some characters only.

## Main definitions

* `IsScopeId` — scope ids of letters, digits, hyphens and underscores
* `Under` — what stands behind the class, in each of the cases
* `StartsWithClass` — a selector starts with a class
* `IsUnderClass` — what a selector under a class is

## Main results

* `startsWithClass_iff` — the class is complete unless what stands behind it goes on with its name
* `exists_under` — the cases
* `exists_isUnderClass` — whether the class is complete, and how it is read then
* `scopedSelector_class_iff` — what a selector under a scope starts with, and scoping it again
-/

namespace ComponentMarkup.Style

/-! ### Scope ids -/

/-- A scope id of ASCII letters, digits, hyphens and underscores. -/
def IsScopeId (id : String) : Prop :=
  ∀ c ∈ id.toList, (c.isAlphanum || c == '-' || c == '_') = true

instance (id : String) : Decidable (IsScopeId id) :=
  decidable_of_iff (id.toList.all fun c => c.isAlphanum || c == '-' || c == '_') List.all_eq_true

/-- The characters of scope ids are those of names. -/
theorem IsScopeId.plain {id : String} (isId : IsScopeId id) :
    ∀ c ∈ id.toList, isNameChar c = true ∧ c ≠ '\x00' := by
  intro c listed
  have allowed := isId c listed
  constructor
  · simp only [Char.isAlphanum, Bool.or_eq_true, beq_iff_eq] at allowed
    simp only [isNameChar, isNameStart, Bool.or_eq_true, beq_iff_eq]
    tauto
  · rintro rfl
    exact absurd allowed (by decide)

/-! ### Names and what follows them -/

/-- A name in front of a text is read with what the text starts with. -/
theorem readNameWithin_append {cs : List Char}
    (plain : ∀ c ∈ cs, isNameChar c = true ∧ c ≠ '\x00') (rest : List Char) (count : Nat) :
    readNameWithin (cs.length + count) (cs ++ rest) =
      (cs ++ (readNameWithin count rest).1, (readNameWithin count rest).2) := by
  induction cs with
  | nil => simp
  | cons c cs ih =>
    obtain ⟨⟨isName, nonzero⟩, ofRest⟩ := List.forall_mem_cons.mp plain
    have more : (c :: cs).length + count = cs.length + count + 1 := by
      rw [List.length_cons]
      omega
    rw [more, List.cons_append, readNameWithin, startsEscape_cons_of_isNameChar isName]
    simp [isName, nonzero, ih ofRest]

/-- No name is read where a name stops. -/
theorem of_readNameWithin_eq_nil {rest : List Char}
    (nothing : (readNameWithin rest.length rest).1 = []) :
    startsEscape rest = false ∧ (∀ c ∈ rest.head?, isNameChar c = false) ∧
      (readNameWithin rest.length rest).2 = rest := by
  cases rest with
  | nil => exact ⟨rfl, nofun, rfl⟩
  | cons d more =>
    rw [List.length_cons, readNameWithin] at nothing ⊢
    split at nothing
    · cases nothing
    next noEscape =>
      dsimp only at nothing
      split at nothing
      · cases nothing
      next noName =>
        refine ⟨eq_false_of_ne_true noEscape, ?_, by simp [noEscape, noName]⟩
        rintro c ⟨⟩
        exact eq_false_of_ne_true noName

/-- An identifier that is read is a name without a parenthesis after it. -/
theorem of_readIdentLike_ident {cs after : List Char} {name : String}
    (read : readIdentLike cs = (.ident name, after)) :
    readName cs = (name, after) ∧ ∀ d ∈ after.head?, d ≠ '(' := by
  unfold readIdentLike at read
  cases whole : readName cs with
  | mk found rest =>
    rw [whole] at read
    dsimp only at read
    split at read
    · split at read
      · split at read
        · exact nomatch read
        · exact nomatch read
        · split at read <;> exact nomatch read
      · exact nomatch read
    next other =>
      obtain ⟨same, rfl⟩ := Prod.mk.inj read
      obtain rfl := Token.ident.inj same
      refine ⟨rfl, ?_⟩
      rintro d first rfl
      cases rest with
      | nil => exact nomatch first
      | cons e more => exact other more (by rw [Option.some.inj first])

theorem readString_ne_ident {quote : Char} {cs after : List Char} {name : String} :
    readString quote cs ≠ (.ident name, after) := by
  unfold readString
  split <;> exact nofun

theorem readNumeric_ne_ident {cs after : List Char} {name : String} :
    readNumeric cs ≠ (.ident name, after) := by
  intro read
  have numeric := isNumeric_of_readNumeric cs
  rw [read] at numeric
  exact nomatch numeric

/-- Of two alternatives it is the second if it cannot be the first. -/
theorem of_ite_eq {α : Type} {p : Prop} [Decidable p] {r r' x : α}
    (h : (if p then r else r') = x) (other : r ≠ x) : ¬ p ∧ r' = x := by
  by_cases yes : p
  · rw [if_pos yes] at h
    exact absurd h other
  · rw [if_neg yes] at h
    exact ⟨yes, h⟩

/-- What a text is that starts with an identifier. -/
theorem of_readToken_ident {c : Char} {cs after : List Char} {name : String}
    (read : readToken c cs = (.ident name, after)) :
    startsIdent (c :: cs) = true ∧ readName (c :: cs) = (name, after) ∧
      (∀ d ∈ after.head?, d ≠ '(') ∧ (c == '-' && cs.take 2 == ['-', '>']) = false := by
  have starts : startsIdent (c :: cs) = true := by
    have tells := reads c cs
    rw [read] at tells
    cases tells with
    | ident starts _ => exact starts
    | other noIdent _ => exact absurd rfl (noIdent name)
  unfold readToken at read
  obtain ⟨_, read⟩ := of_ite_eq read nofun
  obtain ⟨_, read⟩ := of_ite_eq read readString_ne_ident
  obtain ⟨_, read⟩ := of_ite_eq read readNumeric_ne_ident
  obtain ⟨noClose, read⟩ := of_ite_eq read nofun
  rw [if_pos starts] at read
  obtain ⟨named, noFunction⟩ := of_readIdentLike_ident read
  exact ⟨starts, named, noFunction, eq_false_of_ne_true noClose⟩

/-- Where a name stops, no identifier starts, and none starts with a hyphen in front. -/
theorem startsIdent_eq_false {rest : List Char} (noEscape : startsEscape rest = false)
    (noName : ∀ c ∈ rest.head?, isNameChar c = false) :
    startsIdent rest = false ∧ startsIdent ('-' :: rest) = false := by
  cases rest with
  | nil => exact ⟨rfl, rfl⟩
  | cons d more =>
    have stop := noName d rfl
    have noStart : isNameStart d = false :=
      (Bool.or_eq_false_iff.mp (Bool.or_eq_false_iff.mp stop).1).1
    have noHyphen : d ≠ '-' := by
      rintro rfl
      cases stop
    constructor <;> simp [startsIdent, noStart, noHyphen, noEscape]

/-- A name that starts an identifier with what follows it starts one by itself, if it stops
there. -/
theorem startsIdent_of_append {cs rest : List Char} (plain : ∀ c ∈ cs, isNameChar c = true)
    (noEscape : startsEscape rest = false) (noName : ∀ c ∈ rest.head?, isNameChar c = false)
    (starts : startsIdent (cs ++ rest) = true) : startsIdent cs = true := by
  obtain ⟨noIdent, noHyphenIdent⟩ := startsIdent_eq_false noEscape noName
  cases cs with
  | nil => exact absurd starts (Bool.eq_false_iff.mp noIdent)
  | cons c cs =>
    have noBackslash := startsEscape_cons_of_isNameChar (plain c List.mem_cons_self)
    by_cases hyphen : c = '-'
    · -- Behind a hyphen the next character decides, which belongs to the name or follows it.
      subst hyphen
      cases cs with
      | nil => exact absurd starts (Bool.eq_false_iff.mp noHyphenIdent)
      | cons d ds =>
        have noBackslash := startsEscape_cons_of_isNameChar (plain d (by simp))
        by_cases second : d = '-'
        · rw [second]
          rfl
        · simpa [startsIdent, second, noBackslash] using starts
    · rw [List.cons_append, startsIdent, noBackslash] at starts
      · rw [startsIdent, noBackslash]
        · exact starts
        all_goals simp [hyphen]
      all_goals simp [hyphen]

/-! ### Classes -/

/-- A selector starts with the class of a name: a dot, and the name as an identifier. -/
def StartsWithClass (name text : String) : Prop :=
  ∃ dot source tail,
    partsOf text = .token (.delim '.') dot :: .token (.ident name) source :: tail

/-- A name that is read as an identifier from itself and what follows it starts an identifier, and
stops there. -/
theorem starts_of_readToken {id : String} {rest cs after : List Char} {c : Char}
    (plain : ∀ c ∈ id.toList, isNameChar c = true ∧ c ≠ '\x00')
    (whole : id.toList ++ rest = c :: cs) (read : readToken c cs = (.ident id, after)) :
    startsIdent id.toList = true ∧ StopsName id.toList rest := by
  obtain ⟨starts, named, noFunction, noClose⟩ := of_readToken_ident read
  rw [← whole] at starts named
  rw [readName, List.length_append, readNameWithin_append plain] at named
  obtain ⟨same, left⟩ := Prod.mk.inj named
  have letters := congrArg String.toList same
  rw [String.toList_ofList] at letters
  -- Nothing was read behind the name, so it stops there.
  obtain ⟨noEscape, noName, nothing⟩ :=
    of_readNameWithin_eq_nil (List.append_right_eq_self.mp letters)
  obtain rfl : rest = after := nothing.symm.trans left
  refine ⟨startsIdent_of_append (fun d hd => (plain d hd).1) noEscape noName starts,
    noEscape, noName, noFunction, ?_⟩
  rintro d first rfl hyphens
  obtain ⟨more, rfl⟩ : ∃ more, rest = '>' :: more := List.head?_eq_some_iff.mp first
  rw [hyphens] at whole
  obtain ⟨rfl, rfl⟩ := List.cons.inj whole
  cases noClose

/-- The same for a name that is the first of some parts. -/
theorem starts_of_gather {id : String} {rest source : List Char} {count : Nat} {tail : List Part}
    (plain : ∀ c ∈ id.toList, isNameChar c = true ∧ c ≠ '\x00')
    (parts : gather [] [] (lexemesWithin count (id.toList ++ rest)) =
      .token (.ident id) source :: tail) :
    startsIdent id.toList = true ∧ StopsName id.toList rest := by
  cases count with
  | zero => cases parts
  | succ count =>
    cases whole : id.toList ++ rest with
    | nil =>
      rw [whole] at parts
      cases parts
    | cons c cs =>
      rw [whole, lexemesWithin, readLexeme?] at parts
      cases read : readToken c cs with
      | mk t after =>
        rw [read] at parts
        dsimp only at parts
        cases opens : opened? t with
        | some b =>
          obtain ⟨inside, closing, more, block⟩ := exists_gather_cons (l := ⟨t, _⟩) opens
            (lexemesWithin count after)
          rw [block] at parts
          cases parts
        | none =>
          rw [gather_cons opens] at parts
          obtain ⟨same, _⟩ := List.cons.inj parts
          obtain rfl : t = .ident id := (Part.token.inj same).1
          exact starts_of_readToken plain whole read

/-- A class of a scope id is complete exactly if the id starts an identifier and stops where what
stands behind it starts. -/
theorem startsWithClass_iff {id : String} (isId : IsScopeId id) (rest : String) :
    StartsWithClass id ("." ++ id ++ rest) ↔
      startsIdent id.toList = true ∧ StopsName id.toList rest.toList := by
  constructor
  · rintro ⟨dot, source, tail, parts⟩
    rw [String.append_assoc] at parts
    cases digits : startsDigits ('.' :: (id ++ rest).toList) with
    | true =>
      -- Dot and digit are a number.
      obtain ⟨t, other, more, numeric, starts⟩ := exists_partsOf_digits digits
      rw [parts] at starts
      obtain ⟨same, _⟩ := List.cons.inj starts
      obtain rfl := (Part.token.inj same).1
      exact nomatch numeric
    | false =>
      rw [partsOf_dot digits] at parts
      rw [String.toList_append] at parts
      exact starts_of_gather isId.plain (List.cons.inj parts).2
  · rintro ⟨starts, stops⟩
    exact ⟨_, _, _, partsOf_class ⟨starts, isId.plain⟩ stops⟩

/-! ### What stands behind the class -/

/-- What stands behind the class of a scope, in each of the cases. -/
inductive Under (scope : String) : String → String → Prop
  /-- A selector that is under the scope already stays as it is. -/
  | kept {rest : String} (already : isScoped scope (scope ++ rest) = true) :
    Under scope (scope ++ rest) rest
  /-- The class takes the place of the word. -/
  | host {rest : String} (noParen : ∀ c ∈ rest.toList.head?, c ≠ '(') :
    Under scope (":host" ++ rest) rest
  /-- What the parentheses hold stands right behind the class. -/
  | hostOf {arguments : String} {inner after : List Char}
    (closed : splitClosing 0 none false arguments.toList = some (inner, after)) :
    Under scope (":host(" ++ arguments) (trim (String.ofList inner) ++ String.ofList after)
  | hostOpen {arguments : String} (noClose : splitClosing 0 none false arguments.toList = none) :
    Under scope (":host(" ++ arguments) (trim arguments)
  | inside {selector : String} (unscoped : isScoped scope selector = false)
    (noHost : hasStart selector ":host" = false) : Under scope selector (" " ++ selector)

theorem eq_of_dropStart? {text start rest : String} (h : dropStart? text start = some rest) :
    text = start ++ rest := by
  obtain ⟨cs, dropped, rfl⟩ := Option.map_eq_some_iff.mp h
  unfold dropStartChars? at dropped
  split at dropped
  next starts =>
    obtain ⟨more, same⟩ := List.isPrefixOf_iff_prefix.mp starts
    rw [← same, List.drop_left] at dropped
    rw [← String.toList_inj, String.toList_append, String.toList_ofList, ← same,
      Option.some.inj dropped]
  · exact nomatch dropped

theorem dropStart?_append (start rest : String) : dropStart? (start ++ rest) start = some rest := by
  simp [dropStart?, dropStartChars?, String.toList_append]

theorem hasStart_eq_isSome (text start : String) :
    hasStart text start = (dropStart? text start).isSome := by
  unfold hasStart dropStart? dropStartChars?
  cases start.toList.isPrefixOf text.toList <;> rfl

/-- A text that starts with the class of a scope counts as scoped unless a letter, a digit, a hyphen
or an underscore comes next. -/
theorem isScoped_append_iff {scope rest : String} :
    isScoped scope (scope ++ rest) = true ↔
      ∀ c ∈ rest.toList.head?, isAlphanumeric c = false ∧ c ≠ '-' ∧ c ≠ '_' := by
  unfold isScoped
  rw [dropStart?_append]
  dsimp only
  cases rest.toList with
  | nil => simp
  | cons c cs => simp [and_assoc]

/-- A selector inside of a scope has the class and a blank in front. -/
theorem scopedSelector_inside {scope selector : String} (unscoped : isScoped scope selector = false)
    (noHost : hasStart selector ":host" = false) :
    scopedSelector scope selector = scope ++ (" " ++ selector) := by
  have noContext : hasStart selector ":host-context" = false := by
    by_contra starts
    have starts := List.isPrefixOf_iff_prefix.mp (eq_true_of_ne_false starts)
    have shorter : ":host".toList <+: ":host-context".toList := by decide
    rw [hasStart, List.isPrefixOf_iff_prefix.mpr (shorter.trans starts)] at noHost
    exact nomatch noHost
  have noDrop : dropStart? selector ":host" = none := by
    rwa [hasStart_eq_isSome, ← Bool.not_eq_true, Option.not_isSome_iff_eq_none] at noHost
  rw [scopedSelector, unscoped, noContext, noDrop, ← String.append_assoc]
  rfl

/-- What is put under the class of a scope has the class in front. -/
theorem exists_under (scope : String) {selector : String}
    (noContext : hasStart selector ":host-context" = false) :
    ∃ rest, Under scope selector rest ∧ scopedSelector scope selector = scope ++ rest := by
  cases already : isScoped scope selector with
  | true =>
    have starts : (dropStart? selector scope).isSome = true := by
      unfold isScoped at already
      split at already
      next read =>
        rw [read]
        rfl
      · exact nomatch already
    obtain ⟨rest, read⟩ := Option.isSome_iff_exists.mp starts
    obtain rfl := eq_of_dropStart? read
    exact ⟨rest, .kept already, by simp [scopedSelector, already]⟩
  | false =>
    cases host : dropStart? selector ":host" with
    | none =>
      have noHost : hasStart selector ":host" = false := by
        rw [hasStart_eq_isSome, host]
        rfl
      exact ⟨" " ++ selector, .inside already noHost, scopedSelector_inside already noHost⟩
    | some rest =>
      obtain rfl := eq_of_dropStart? host
      unfold scopedSelector hostSelector
      rw [already, noContext, host]
      simp only [Bool.or_false, Bool.false_eq_true, if_false]
      split
      next arguments opens =>
        obtain rfl : rest = "(" ++ String.ofList arguments := by
          rw [← String.toList_inj, opens]
          simp
        have whole : ":host" ++ ("(" ++ String.ofList arguments) =
            ":host(" ++ String.ofList arguments := by
          rw [← String.append_assoc]
          rfl
        rw [whole]
        split
        next inner after closed =>
          exact ⟨_, .hostOf (by rwa [String.toList_ofList]), by rw [String.append_assoc]⟩
        next noClose => exact ⟨_, .hostOpen (by rwa [String.toList_ofList]), rfl⟩
      next noParen =>
        refine ⟨rest, .host ?_, rfl⟩
        rintro c first rfl
        obtain ⟨more, whole⟩ : ∃ more, rest.toList = '(' :: more := List.head?_eq_some_iff.mp first
        exact noParen more whole

/-- A selector that starts with the class of a scope is put inside of the scope unless it counts as
scoped. -/
theorem scopedSelector_append (id rest : String) :
    scopedSelector ("." ++ id) ("." ++ id ++ rest) =
      if isScoped ("." ++ id) ("." ++ id ++ rest) then "." ++ id ++ rest
      else "." ++ id ++ " " ++ ("." ++ id ++ rest) := by
  have noContext : hasStart ("." ++ id ++ rest) ":host-context" = false := by
    simp [hasStart, String.toList_append, List.isPrefixOf]
  have noHost : dropStart? ("." ++ id ++ rest) ":host" = none := by
    simp [dropStart?, dropStartChars?, String.toList_append]
  unfold scopedSelector
  rw [noContext, noHost, Bool.or_false]

/-- Scoping a text twice that starts with the class. -/
theorem scopedSelector_append_eq_iff {id rest : String} :
    scopedSelector ("." ++ id) ("." ++ id ++ rest) = "." ++ id ++ rest ↔
      isScoped ("." ++ id) ("." ++ id ++ rest) = true := by
  rw [scopedSelector_append]
  split
  next already => simp [already]
  next unscoped =>
    refine iff_of_false (fun same => ?_) unscoped
    have lengths := congrArg String.length same
    simp only [String.length_append, show " ".length = 1 from rfl] at lengths
    omega

theorem isAlphanumeric_of_isNameChar_eq_false {c : Char} (noName : isNameChar c = false) :
    isAlphanumeric c = false ∧ c ≠ '-' ∧ c ≠ '_' := by
  refine ⟨?_, ?_, ?_⟩
  · simp only [isNameChar, isNameStart, Bool.or_eq_false_iff, decide_eq_false_iff_not] at noName
    obtain ⟨⟨⟨⟨⟨noLetter, _⟩, _⟩, small⟩, noDigit⟩, _⟩ := noName
    rw [isAlphanumeric, if_pos (by omega), Char.isAlphanum, noLetter, noDigit]
    rfl
  · rintro rfl
    cases noName
  · rintro rfl
    cases noName

/-- A complete class counts as scoped. -/
theorem isScoped_of_stopsName {name : List Char} {scope rest : String}
    (stops : StopsName name rest.toList) : isScoped scope (scope ++ rest) = true :=
  isScoped_append_iff.mpr fun c first =>
    isAlphanumeric_of_isNameChar_eq_false (stops.noName c first)

/-- Every name stops before a blank. -/
theorem stopsName_blank (name : List Char) (rest : String) :
    StopsName name (" " ++ rest).toList := by
  have whole : (" " ++ rest).toList = ' ' :: rest.toList := by simp [String.toList_append]
  rw [whole]
  exact EndsName.stops fun c first => by
    obtain rfl := Option.some.inj first
    exact ⟨rfl, by decide, by decide, nofun⟩

/-! ### Selectors under a class -/

/-- What a selector under the class of a scope id is, with a text behind the class. -/
structure IsUnderClass (id selector rest : String) : Prop where
  /-- The text is that of the case. -/
  under : Under ("." ++ id) selector rest
  eq_append : scopedSelector ("." ++ id) selector = "." ++ id ++ rest
  /-- The class is complete exactly if the id starts an identifier and stops before the text. -/
  starts_iff : StartsWithClass id (scopedSelector ("." ++ id) selector) ↔
    startsIdent id.toList = true ∧ StopsName id.toList rest.toList
  /-- Whether it counts as complete depends on letters, digits, hyphens and underscores only. -/
  isScoped_iff : isScoped ("." ++ id) (scopedSelector ("." ++ id) selector) = true ↔
    ∀ c ∈ rest.toList.head?, isAlphanumeric c = false ∧ c ≠ '-' ∧ c ≠ '_'
  /-- So each complete class does. -/
  isScoped_of_starts : StartsWithClass id (scopedSelector ("." ++ id) selector) →
    isScoped ("." ++ id) (scopedSelector ("." ++ id) selector) = true
  /-- The first element of the selector is asked for a complete class, and for what is read behind
  it. -/
  reads : StartsWithClass id (scopedSelector ("." ++ id) selector) → ∀ within,
    (compound within {}).run (partsOf (scopedSelector ("." ++ id) selector)) =
      ((simples within ((partsOf rest).length + 1) {}).run (partsOf rest)).map
        fun r => ((.classed id :: r.1.1, r.1.2), r.2)
  /-- For the host with a compound selector, this is all of the compound selector. -/
  reads_inner : StartsWithClass id (scopedSelector ("." ++ id) selector) →
    ∀ inner after, rest = inner ++ after → partsOf rest = partsOf inner ++ partsOf after →
      ∀ within found q, (simples within ((partsOf inner).length + 1) {}).run (partsOf inner) =
          some ((found, q), []) →
        (compound within {}).run (partsOf (scopedSelector ("." ++ id) selector)) =
          ((simples within ((partsOf after).length + 1) q).run (partsOf after)).map
            fun r => ((.classed id :: (found ++ r.1.1), r.1.2), r.2)

/-- Every selector but those for what is outside of the scope is put under the class. -/
theorem exists_isUnderClass {id selector : String} (isId : IsScopeId id)
    (noContext : hasStart selector ":host-context" = false) :
    ∃ rest, IsUnderClass id selector rest := by
  obtain ⟨rest, under, same⟩ := exists_under ("." ++ id) noContext
  have complete := startsWithClass_iff isId rest
  have reads (starts : StartsWithClass id ("." ++ id ++ rest)) (within : Within) :
      (compound within {}).run (partsOf ("." ++ id ++ rest)) =
        ((simples within ((partsOf rest).length + 1) {}).run (partsOf rest)).map
          fun r => ((.classed id :: r.1.1, r.1.2), r.2) := by
    obtain ⟨starts, stops⟩ := complete.mp starts
    rw [partsOf_class ⟨starts, isId.plain⟩ stops, compound_class rfl]
  refine ⟨rest, under, same, ?_, ?_, ?_, ?_, ?_⟩ <;> rw [same]
  · exact complete
  · exact isScoped_append_iff
  · exact fun starts => isScoped_of_stopsName (complete.mp starts).2
  · exact reads
  · rintro starts inner after - parts within found q read
    rw [reads starts, parts, simples_append read, Option.map_map]
    rfl

/-- A selector for what is outside of the scope stays as it is. Any other one starts with the class,
and behind that has what its case says. Inside of the scope the class is complete exactly if the id
starts an identifier. Scoping twice is scoping once exactly for the selectors that stay as they are
and those whose class counts as complete. -/
theorem scopedSelector_class_iff {id : String} (isId : IsScopeId id) (selector : String) :
    (hasStart selector ":host-context" = true →
      scopedSelector ("." ++ id) selector = selector) ∧
    (hasStart selector ":host-context" = false → ∃ rest, IsUnderClass id selector rest) ∧
    (hasStart selector ":host" = false → isScoped ("." ++ id) selector = false →
      (StartsWithClass id (scopedSelector ("." ++ id) selector) ↔ startsIdent id.toList = true)) ∧
    (scopedSelector ("." ++ id) (scopedSelector ("." ++ id) selector) =
        scopedSelector ("." ++ id) selector ↔
      hasStart selector ":host-context" = true ∨
        isScoped ("." ++ id) (scopedSelector ("." ++ id) selector) = true) := by
  have outside (context : hasStart selector ":host-context" = true) :
      scopedSelector ("." ++ id) selector = selector := by
    simp [scopedSelector, context]
  refine ⟨outside, exists_isUnderClass isId, fun noHost unscoped => ?_, ?_⟩
  · rw [scopedSelector_inside unscoped noHost, startsWithClass_iff isId]
    exact and_iff_left (stopsName_blank _ _)
  · cases context : hasStart selector ":host-context" with
    | true => simp [outside context]
    | false =>
      obtain ⟨rest, _, same⟩ := exists_under ("." ++ id) context
      rw [same, scopedSelector_append_eq_iff]
      simp

/-- A selector inside of a scope, and one for a host with a class. -/
theorem scopedSelector_class_iff_inside :
    IsScopeId "s1" ∧ StartsWithClass "s1" (scopedSelector ".s1" "p>a") ∧
      scopedSelector ".s1" (scopedSelector ".s1" ":host(.a)") =
        scopedSelector ".s1" ":host(.a)" := by
  have isId : IsScopeId "s1" := by decide
  have inside := (scopedSelector_class_iff isId "p>a").2.2.1 (by decide) (by decide)
  have host := (scopedSelector_class_iff isId ":host(.a)").2.2.2
  exact ⟨isId, inside.mpr (by decide), host.mpr (.inr (by decide))⟩

/-- The name of a type goes on with the class of the scope: the selector for a host of that type
asks for another class, and is put under the scope each time. A class that only starts like that of
the scope counts as scoped. -/
theorem exists_scopedSelector_not_class :
    IsScopeId "s1" ∧ selectorText [.host [.type .unstated "p"]] = ":host(p)" ∧
      scopedSelector ".s1" ":host(p)" = ".s1p" ∧ ¬ StartsWithClass "s1" ".s1p" ∧
      isScoped ".s1" ".s1p" = false ∧ scopedSelector ".s1" ".s1p" = ".s1 .s1p" ∧
      isScoped ".s1" ".s1\\:x" = true ∧ ¬ StartsWithClass "s1" ".s1\\:x" := by
  have isId : IsScopeId "s1" := by decide
  have goesOn : ¬ StartsWithClass "s1" ("." ++ "s1" ++ "p") := fun starts =>
    nomatch ((startsWithClass_iff isId _).mp starts).2.noName 'p' rfl
  have escapes : ¬ StartsWithClass "s1" ("." ++ "s1" ++ "\\:x") := fun starts =>
    nomatch ((startsWithClass_iff isId _).mp starts).2.noEscape
  exact ⟨isId, by decide +kernel, by decide +kernel, goesOn, by decide +kernel, by decide +kernel,
    by decide +kernel, escapes⟩

end ComponentMarkup.Style
