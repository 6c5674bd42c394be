import ComponentMarkup.Directive
import ComponentMarkup.Proofs.Attribute.ClassTokens
import ComponentMarkup.Proofs.Entries
import ComponentMarkup.Proofs.Text.Parts

/-!
# Loops

The value of a loop is some names, a separator and a source. It is cut at the first separator of
either kind. The source may hold others; the names hold none if neither separator's word is one of
them, since a separator that starts among them would make its word one.

What the source evaluates to decides how often the loop runs, and for each time what the names are
bound to.

## Main definitions

* `IsFirstSeparator` — where a value is cut
* `SpellsNames`, `Bracketed` — how names are written
* `Nameless` — texts before a separator without names
* `RunsOver` — what the names of a loop are bound to, for each time that it runs

## Main results

* `cutLoop?_eq_some_iff` — values are cut at the first separator
* `parseLoop?_spelled` — names, separator and source are read back
* `parseLoop?_eq_none_iff` — values that are no loops
* `expandLoop_of_runsOver` — the bindings of each iteration
-/

namespace ComponentMarkup

/-! ### Separators -/

/-- What stands between the names of a loop and its source. -/
def LoopKind.separator : LoopKind → String
  | .items => " of "
  | .within => " in "

/-- The first separator in a text, of either kind. -/
structure IsFirstSeparator (kind : LoopKind) (left right text : List Char) : Prop where
  whole : text = left ++ kind.separator.toList ++ right
  first : ∀ (kind' : LoopKind) left' right', text = left' ++ kind'.separator.toList ++ right' →
    left.length ≤ left'.length

variable {kind kind' : LoopKind} {before after inner left right left' right' text : List Char}

theorem IsFirstSeparator.unique (h : IsFirstSeparator kind left right text)
    (h' : IsFirstSeparator kind' left' right' text) :
    kind = kind' ∧ left = left' ∧ right = right' := by
  have lengths : left.length = left'.length :=
    Nat.le_antisymm (h.first _ _ _ h'.whole) (h'.first _ _ _ h.whole)
  have same := h.whole.symm.trans h'.whole
  rw [List.append_assoc, List.append_assoc] at same
  obtain ⟨rfl, same⟩ := List.append_inj same lengths
  cases kind <;> cases kind' <;> simp_all [LoopKind.separator]

/-- Wherever a separator is, the first one of its kind is found there or before. -/
theorem exists_cut? (kind : LoopKind) {left right : List Char}
    (whole : text = left ++ kind.separator.toList ++ right) :
    ∃ l r, cut? kind.separator.toList text = some (l, r) ∧ l.length ≤ left.length := by
  have found := cut?_isSome kind.separator.toList left right
  rw [← whole] at found
  obtain ⟨⟨l, r⟩, cut⟩ := Option.isSome_iff_exists.mp found
  exact ⟨l, r, cut, (of_cut?_eq_some cut).2 left right whole⟩

/-- Of the separators of the two kinds that are found, the one that comes first is chosen. -/
theorem of_cutLoop? (cut : cutLoop? text = some (kind, left, right)) :
    cut? kind.separator.toList text = some (left, right) ∧
      ∀ (kind' : LoopKind) l r, cut? kind'.separator.toList text = some (l, r) →
        left.length ≤ l.length := by
  unfold cutLoop? at cut
  split at cut
  next items within =>
    split at cut
    next earlier =>
      obtain ⟨⟩ := cut
      refine ⟨items, fun kind' l r found => ?_⟩
      cases kind' <;> simp_all [LoopKind.separator]
      omega
    next later =>
      obtain ⟨⟩ := cut
      refine ⟨within, fun kind' l r found => ?_⟩
      cases kind' <;> simp_all [LoopKind.separator]
  next items within =>
    obtain ⟨⟩ := cut
    refine ⟨items, fun kind' l r found => ?_⟩
    cases kind' <;> simp_all [LoopKind.separator]
  next items within =>
    obtain ⟨⟩ := cut
    refine ⟨within, fun kind' l r found => ?_⟩
    cases kind' <;> simp_all [LoopKind.separator]
  · exact nomatch cut

/-- A value is cut at the first separator. -/
theorem isFirstSeparator_of_cutLoop? (cut : cutLoop? text = some (kind, left, right)) :
    IsFirstSeparator kind left right text := by
  obtain ⟨found, chosen⟩ := of_cutLoop? cut
  refine ⟨(of_cut?_eq_some found).1, fun kind' left' right' same => ?_⟩
  obtain ⟨l, r, found', earlier⟩ := exists_cut? kind' same
  exact (chosen kind' l r found').trans earlier

/-- Where there is a separator, a value is cut. -/
theorem cutLoop?_ne_none (kind : LoopKind) (whole : text = left ++ kind.separator.toList ++ right) :
    cutLoop? text ≠ none := by
  obtain ⟨l, r, found, -⟩ := exists_cut? kind whole
  unfold cutLoop?
  cases kind <;> split <;> simp_all [LoopKind.separator]

theorem cutLoop?_eq_some_iff :
    cutLoop? text = some (kind, left, right) ↔ IsFirstSeparator kind left right text := by
  refine ⟨isFirstSeparator_of_cutLoop?, fun isFirst => ?_⟩
  have found := cutLoop?_ne_none kind isFirst.whole
  obtain ⟨⟨kind', left', right'⟩, cut⟩ := Option.ne_none_iff_exists'.mp found
  obtain ⟨rfl, rfl, rfl⟩ := isFirst.unique (isFirstSeparator_of_cutLoop? cut)
  exact cut

theorem cutLoop?_eq_none_iff :
    cutLoop? text = none ↔
      ∀ (kind : LoopKind) left right, text ≠ left ++ kind.separator.toList ++ right := by
  constructor
  · exact fun none kind left right whole => cutLoop?_ne_none kind whole none
  · intro missing
    by_contra found
    obtain ⟨⟨kind, left, right⟩, cut⟩ := Option.ne_none_iff_exists'.mp found
    exact missing kind left right (isFirstSeparator_of_cutLoop? cut).whole

/-! ### Names between commas -/

/-- The names in a text with commas between them. -/
def namesIn (cs : List Char) : List String :=
  (((splitWhere (· == ',') cs).map trimChars).filter (!·.isEmpty)).map String.ofList

theorem namesIn_append_comma (cs ds : List Char) :
    namesIn (cs ++ ',' :: ds) = namesIn cs ++ namesIn ds := by
  unfold namesIn
  rw [splitWhere_append_cons (by rfl), List.map_append, List.filter_append, List.map_append]

theorem ne_comma_of_isBlank {c : Char} (blank : isBlank c = true) : (c == ',') = false := by
  rw [beq_eq_false_iff_ne]
  rintro rfl
  cases blank

theorem namesIn_gap_append (gap : IsGap before) (text : List Char) :
    namesIn (before ++ text) = namesIn text := by
  induction before with
  | nil => rfl
  | cons c before ih =>
    obtain ⟨blank, gap⟩ := List.forall_mem_cons.mp gap
    obtain ⟨first, others, split⟩ :=
      List.exists_cons_of_ne_nil (splitWhere_ne_nil (· == ',') (before ++ text))
    have longer : splitWhere (· == ',') (c :: (before ++ text)) = (c :: first) :: others := by
      simp [splitWhere, ne_comma_of_isBlank blank, split]
    rw [← ih gap, List.cons_append, namesIn, namesIn, longer, split, List.map_cons, List.map_cons,
      trimChars_blank_cons blank]

theorem namesIn_append_gap (gap : IsGap after) (text : List Char) :
    namesIn (text ++ after) = namesIn text := by
  have whole : ∀ c ∈ after, (c == ',') = false := fun c hc => ne_comma_of_isBlank (gap c hc)
  obtain ⟨pieces, last, short, long⟩ := exists_splitWhere_append whole text
  rw [namesIn, namesIn, long, short, List.map_append, List.map_append, List.map_singleton,
    List.map_singleton, trimChars_append_gap gap]

theorem namesIn_trimChars (cs : List Char) : namesIn (trimChars cs) = namesIn cs := by
  obtain ⟨before, after, gap, gap', whole⟩ := exists_trimChars cs
  conv_rhs => rw [whole]
  rw [namesIn_append_gap gap', namesIn_gap_append gap]

/-- Without names a text is blanks and commas. -/
theorem namesIn_eq_nil_iff {cs : List Char} :
    namesIn cs = [] ↔ ∀ c ∈ cs, isBlank c = true ∨ c = ',' := by
  constructor
  · intro nothing c hc
    rw [or_iff_not_imp_right]
    intro noComma
    have other : (c == ',') = false := beq_eq_false_iff_ne.mpr noComma
    obtain ⟨piece, listed, inside⟩ := exists_mem_splitWhere (p := (· == ',')) hc other
    have empty : trimChars piece = [] := by
      simpa using List.filter_eq_nil_iff.mp (List.map_eq_nil_iff.mp nothing) _
        (List.mem_map_of_mem listed)
    exact trimChars_eq_nil_iff.mp empty c inside
  · intro plain
    induction cs with
    | nil => rfl
    | cons c cs ih =>
      obtain ⟨first, others⟩ := List.forall_mem_cons.mp plain
      rcases first with blank | rfl
      · have gap : IsGap [c] := by simpa [IsGap] using blank
        rw [← List.singleton_append, namesIn_gap_append gap, ih others]
      · rw [← List.nil_append (',' :: cs), namesIn_append_comma, ih others]
        rfl

/-! ### Parentheses and braces -/

/-- A text as it is, or in parentheses or braces with blanks around them. -/
inductive Bracketed (inner : List Char) : List Char → Prop
  | bare : Bracketed inner inner
  | parentheses {before after : List Char} (gap : IsGap before) (gap' : IsGap after) :
    Bracketed inner (before ++ '(' :: (inner ++ [')']) ++ after)
  | braces {before after : List Char} (gap : IsGap before) (gap' : IsGap after) :
    Bracketed inner (before ++ '\x7b' :: (inner ++ ['\x7d']) ++ after)

theorem unwrapBindings_of_forall {cs : List Char} (plain : ∀ c ∈ cs, c ≠ '(' ∧ c ≠ '\x7b') :
    unwrapBindings cs = cs := by
  unfold unwrapBindings
  split
  next inner => exact absurd rfl (plain '(' List.mem_cons_self).1
  next inner => exact absurd rfl (plain '\x7b' List.mem_cons_self).2
  · rfl

/-- The names in brackets are found. -/
theorem Bracketed.namesIn_eq (h : Bracketed inner left)
    (plain : ∀ c ∈ inner, c ≠ '(' ∧ c ≠ '\x7b') :
    namesIn (unwrapBindings (trimChars left)) = namesIn inner := by
  cases h with
  | bare =>
    rw [unwrapBindings_of_forall fun c hc => plain c (mem_of_mem_trimChars hc), namesIn_trimChars]
  | parentheses gap gap' =>
    rw [trimChars_append_gap gap', trimChars_gap_append gap,
      trimChars_between (by decide) (by decide)]
    simp [unwrapBindings]
  | braces gap gap' =>
    rw [trimChars_append_gap gap', trimChars_gap_append gap,
      trimChars_between (by decide) (by decide)]
    simp [unwrapBindings]

theorem eq_concat_of_getLast? {cs : List Char} {c : Char} (last : (cs.getLast? == some c) = true) :
    cs = cs.dropLast ++ [c] := by
  obtain ⟨front, rfl⟩ := List.getLast?_eq_some_iff.mp (beq_iff_eq.mp last)
  rw [List.dropLast_concat]

/-- Every text is some text in brackets that its names are in. -/
theorem exists_bracketed (left : List Char) :
    ∃ inner, Bracketed inner left ∧ namesIn (unwrapBindings (trimChars left)) = namesIn inner := by
  obtain ⟨before, after, gap, gap', whole⟩ := exists_trimChars left
  -- A bracket that is not closed at the end belongs to the names.
  unfold unwrapBindings
  split
  next inner opened =>
    split
    next closed =>
      rw [opened, eq_concat_of_getLast? closed] at whole
      exact ⟨inner.dropLast, whole ▸ .parentheses gap gap', rfl⟩
    · exact ⟨left, .bare, namesIn_trimChars left⟩
  next inner opened =>
    split
    next closed =>
      rw [opened, eq_concat_of_getLast? closed] at whole
      exact ⟨inner.dropLast, whole ▸ .braces gap gap', rfl⟩
    · exact ⟨left, .bare, namesIn_trimChars left⟩
  · exact ⟨left, .bare, namesIn_trimChars left⟩

/-- A text has no names: there are only blanks and commas, by themselves or in brackets. -/
def Nameless (left : List Char) : Prop :=
  ∃ inner, Bracketed inner left ∧ ∀ c ∈ inner, isBlank c = true ∨ c = ','

theorem namesIn_unwrapBindings_eq_nil_iff :
    namesIn (unwrapBindings (trimChars left)) = [] ↔ Nameless left := by
  constructor
  · intro nothing
    obtain ⟨inner, bracketed, same⟩ := exists_bracketed left
    exact ⟨inner, bracketed, namesIn_eq_nil_iff.mp (same ▸ nothing)⟩
  · rintro ⟨inner, bracketed, plain⟩
    rw [bracketed.namesIn_eq, namesIn_eq_nil_iff]
    · exact plain
    · intro c hc
      constructor <;> rintro rfl <;> exact absurd (plain _ hc) (by decide)

/-! ### Values that are read -/

theorem parseLoop?_of_isFirstSeparator {value : String}
    (isFirst : IsFirstSeparator kind left right value.toList) :
    parseLoop? value =
      let names := namesIn (unwrapBindings (trimChars left))
      if names.isEmpty || (trimChars right).isEmpty then none
      else some ⟨kind, names, String.ofList (trimChars right)⟩ := by
  rw [parseLoop?, cutLoop?_eq_some_iff.mpr isFirst]
  simp [namesIn]

/-- A value is no loop exactly if it has no separator, or no name before the first one, or only
blanks behind it. -/
theorem parseLoop?_eq_none_iff (value : String) :
    parseLoop? value = none ↔
      (∀ (kind : LoopKind) left right,
        value.toList ≠ left ++ kind.separator.toList ++ right) ∨
      ∃ kind left right, IsFirstSeparator kind left right value.toList ∧
        (Nameless left ∨ IsGap right) := by
  rw [← cutLoop?_eq_none_iff]
  simp only [← cutLoop?_eq_some_iff]
  cases cut : cutLoop? value.toList with
  | none => simp [parseLoop?, cut]
  | some parts =>
    obtain ⟨kind, left, right⟩ := parts
    rw [parseLoop?_of_isFirstSeparator (cutLoop?_eq_some_iff.mp cut)]
    simp [namesIn_unwrapBindings_eq_nil_iff, trimChars_eq_nil_iff, or_iff_not_imp_left]

/-! ### Values that are written -/

/-- The characters around the names of a loop. No name holds any. -/
def surroundsName (c : Char) : Bool :=
  isBlank c || c == ',' || c == '(' || c == ')' || c == '\x7b' || c == '\x7d'

/-- A name that the value of a loop can hold. -/
structure IsLoopName (name : String) : Prop where
  nonempty : name ≠ ""
  whole : ∀ c ∈ name.toList, surroundsName c = false
  ne_of : name ≠ "of"
  ne_in : name ≠ "in"

instance (name : String) : Decidable (IsLoopName name) :=
  decidable_of_iff
    (name ≠ "" ∧ name.toList.all (!surroundsName ·) ∧ name ≠ "of" ∧ name ≠ "in")
    ⟨fun h => ⟨h.1, by simpa using h.2.1, h.2.2.1, h.2.2.2⟩,
      fun h => ⟨h.nonempty, by simpa using h.whole, h.ne_of, h.ne_in⟩⟩

/-- Names with commas between them, and with any blanks around each. -/
inductive SpellsNames : List String → List Char → Prop
  | last {name : String} {before after : List Char} (gap : IsGap before) (gap' : IsGap after) :
    SpellsNames [name] (before ++ name.toList ++ after)
  | cons {name : String} {names : List String} {before after text : List Char}
    (gap : IsGap before) (gap' : IsGap after) (others : SpellsNames names text) :
    SpellsNames (name :: names) (before ++ name.toList ++ after ++ ',' :: text)

variable {names : List String}

theorem IsLoopName.visible {name : String} (h : IsLoopName name) :
    ∀ c ∈ name.toList, isBlank c = false ∧ c ≠ ',' ∧ c ≠ '(' ∧ c ≠ '\x7b' := by
  intro c hc
  have other := h.whole c hc
  simp only [surroundsName, Bool.or_eq_false_iff, beq_eq_false_iff_ne] at other
  exact ⟨other.1.1.1.1.1, other.1.1.1.1.2, other.1.1.1.2, other.1.2⟩

/-- A name is read with blanks around it. -/
theorem IsLoopName.namesIn_eq {name : String} (h : IsLoopName name) (gap : IsGap before)
    (gap' : IsGap after) : namesIn (before ++ name.toList ++ after) = [name] := by
  have noComma : ∀ c ∈ name.toList, (c == ',') = false := fun c hc => by
    simpa using (h.visible c hc).2.1
  have trimmed : trimChars name.toList = name.toList :=
    trimChars_of_forall fun c hc => (h.visible c hc).1
  rw [namesIn_append_gap gap', namesIn_gap_append gap, namesIn, splitWhere_of_forall noComma]
  simp [trimmed, h.nonempty]

/-- Names are read as they are written. -/
theorem SpellsNames.namesIn_eq (h : SpellsNames names text) (valid : ∀ n ∈ names, IsLoopName n) :
    namesIn text = names := by
  induction h with
  | last gap gap' => exact (valid _ List.mem_cons_self).namesIn_eq gap gap'
  | cons gap gap' _ ih =>
    obtain ⟨isName, valid⟩ := List.forall_mem_cons.mp valid
    rw [namesIn_append_comma, isName.namesIn_eq gap gap', ih valid]
    rfl

/-- A text of names has nothing but them, blanks and commas. -/
theorem SpellsNames.mem {c : Char} (h : SpellsNames names text) (hc : c ∈ text) :
    (∃ n ∈ names, c ∈ n.toList) ∨ isBlank c = true ∨ c = ',' := by
  induction h with
  | last gap gap' =>
    simp only [List.mem_append] at hc
    rcases hc with (early | inside) | late
    · exact .inr (.inl (gap c early))
    · exact .inl ⟨_, List.mem_cons_self, inside⟩
    · exact .inr (.inl (gap' c late))
  | cons gap gap' _ ih =>
    simp only [List.mem_append, List.mem_cons] at hc
    rcases hc with ((early | inside) | late) | rfl | other
    · exact .inr (.inl (gap c early))
    · exact .inl ⟨_, List.mem_cons_self, inside⟩
    · exact .inr (.inl (gap' c late))
    · exact .inr (.inr rfl)
    · exact (ih other).imp_left fun ⟨n, listed, inside⟩ =>
        ⟨n, List.mem_cons_of_mem _ listed, inside⟩

theorem SpellsNames.noBrackets (h : SpellsNames names text) (valid : ∀ n ∈ names, IsLoopName n) :
    ∀ c ∈ text, c ≠ '(' ∧ c ≠ '\x7b' := by
  intro c hc
  rcases h.mem hc with ⟨n, listed, inside⟩ | blank | rfl
  · exact ((valid n listed).visible c inside).2.2
  · constructor <;> rintro rfl <;> exact absurd blank (by decide)
  · decide

/-! ### Words -/

theorem surroundsName_of_gap {cs : List Char} (gap : IsGap cs) :
    ∀ c ∈ cs, surroundsName c = true := by
  intro c hc
  simp [surroundsName, gap c hc]

/-- The words of a text of names are the names. -/
theorem SpellsNames.of_mem_splitWhere {piece : List Char} (h : SpellsNames names text)
    (valid : ∀ n ∈ names, IsLoopName n) (listed : piece ∈ splitWhere surroundsName text) :
    piece = [] ∨ ∃ n ∈ names, piece = n.toList := by
  have ofName {name : String} {before after : List Char} (isName : IsLoopName name)
      (gap : IsGap before) (gap' : IsGap after)
      (listed : piece ∈ splitWhere surroundsName (before ++ name.toList ++ after)) :
      piece = [] ∨ piece = name.toList := by
    have inside :=
      mem_splitWhere_of_around (surroundsName_of_gap gap) (surroundsName_of_gap gap') listed
    rwa [splitWhere_of_forall isName.whole, List.mem_singleton] at inside
  induction h with
  | @last name _ _ gap gap' =>
    exact (ofName (valid _ List.mem_cons_self) gap gap' listed).imp_right
      fun same => ⟨name, List.mem_cons_self, same⟩
  | @cons name names _ _ _ gap gap' _ ih =>
    obtain ⟨isName, valid⟩ := List.forall_mem_cons.mp valid
    rw [splitWhere_append_cons (by rfl)] at listed
    rcases List.mem_append.mp listed with first | later
    · exact (ofName isName gap gap' first).imp_right fun same => ⟨name, List.mem_cons_self, same⟩
    · exact (ih valid later).imp_right fun ⟨n, listed, same⟩ =>
        ⟨n, List.mem_cons_of_mem _ listed, same⟩

/-- Brackets add no words. -/
theorem Bracketed.of_mem_splitWhere {piece : List Char} (h : Bracketed inner left)
    (listed : piece ∈ splitWhere surroundsName left) :
    piece = [] ∨ piece ∈ splitWhere surroundsName inner := by
  have bracket {before after : List Char} {a b : Char} (gap : IsGap before) (gap' : IsGap after)
      (opens : surroundsName a = true) (closes : surroundsName b = true)
      (listed : piece ∈ splitWhere surroundsName (before ++ a :: (inner ++ [b]) ++ after)) :
      piece = [] ∨ piece ∈ splitWhere surroundsName inner := by
    have front : ∀ c ∈ before ++ [a], surroundsName c = true :=
      List.forall_mem_append.mpr ⟨surroundsName_of_gap gap, by simpa using opens⟩
    have back : ∀ c ∈ b :: after, surroundsName c = true :=
      List.forall_mem_cons.mpr ⟨closes, surroundsName_of_gap gap'⟩
    exact mem_splitWhere_of_around front back (by simpa using listed)
  cases h with
  | bare => exact .inr listed
  | parentheses gap gap' => exact bracket gap gap' rfl rfl listed
  | braces gap gap' => exact bracket gap gap' rfl rfl listed

/-- The word of a separator. -/
def LoopKind.word : LoopKind → List Char
  | .items => ['o', 'f']
  | .within => ['i', 'n']

theorem LoopKind.surroundsName_eq_false (kind : LoopKind) :
    ∀ c ∈ kind.word, surroundsName c = false := by
  cases kind <;> simp [LoopKind.word, surroundsName, isBlank]

/-- The separator behind a text that has no separator's word is the first one. -/
theorem isFirstSeparator_of_words
    (words : ∀ kind : LoopKind, kind.word ∉ splitWhere surroundsName left)
    (kind : LoopKind) (right : List Char) :
    IsFirstSeparator kind left right (left ++ kind.separator.toList ++ right) := by
  refine ⟨rfl, fun kind' left' right' same => ?_⟩
  by_contra shorter
  rw [List.append_assoc, List.append_assoc] at same
  rcases List.append_eq_append_iff.mp same with ⟨more, longer, -⟩ | ⟨early, rfl, rest⟩
  · rw [longer, List.length_append] at shorter
    omega
  -- An earlier separator reaches over the end of the text or not. Its word lies within the text.
  have inside (tail : List Char) (stops : ∀ c ∈ tail.head?, surroundsName c = true)
      (starts : early = ' ' :: (kind'.word ++ tail)) : False := by
    rw [starts] at words
    exact words kind' (mem_splitWhere_of_between rfl kind'.surroundsName_eq_false stops)
  have separator (kind : LoopKind) : kind.separator.toList = ' ' :: (kind.word ++ [' ']) := by
    cases kind <;> rfl
  rw [separator, separator] at rest
  -- It cannot reach over by more than its last blank: the separator behind starts with a blank, and
  -- the earlier one has letters at that place.
  match early with
  | [] => simp at shorter
  | [_] => cases kind' <;> simp [LoopKind.word] at rest
  | [_, _] => cases kind' <;> simp [LoopKind.word] at rest
  | [_, _, _] =>
    refine inside [] nofun ?_
    cases kind' <;> simp_all [LoopKind.word]
  | _ :: _ :: _ :: d :: early =>
    have blank : d = ' ' := by
      cases kind' <;> simp_all [LoopKind.word]
    refine inside (d :: early) (fun c first => ?_) ?_
    · obtain rfl := Option.some.inj first
      rw [blank]
      rfl
    · cases kind' <;> simp_all [LoopKind.word]

/-- Names that are written with a separator and a source are read back, with the kind of the
separator and the source without the blanks around it. -/
theorem parseLoop?_spelled {source : String} (spelled : SpellsNames names inner)
    (valid : ∀ n ∈ names, IsLoopName n) (bracketed : Bracketed inner left)
    (nonblank : trim source ≠ "") (kind : LoopKind) :
    parseLoop? (String.ofList left ++ kind.separator ++ source) =
      some ⟨kind, names, trim source⟩ := by
  -- The words before the separator are the names, and no separator's word is one of them.
  have words (kind : LoopKind) : kind.word ∉ splitWhere surroundsName left := by
    intro listed
    have found : kind.word = [] ∨ ∃ n ∈ names, kind.word = n.toList := by
      rcases bracketed.of_mem_splitWhere listed with empty | listed
      · exact .inl empty
      · exact spelled.of_mem_splitWhere valid listed
    rcases found with empty | ⟨n, listed, same⟩
    · cases kind <;> exact nomatch empty
    · have isName := valid n listed
      cases kind with
      | items => exact isName.ne_of (String.toList_inj.mp same.symm)
      | within => exact isName.ne_in (String.toList_inj.mp same.symm)
  have isFirst : IsFirstSeparator kind left source.toList
      (String.ofList left ++ kind.separator ++ source).toList := by
    simpa [String.toList_append] using isFirstSeparator_of_words words kind source.toList
  have read := bracketed.namesIn_eq (spelled.noBrackets valid)
  rw [spelled.namesIn_eq valid] at read
  have named : names ≠ [] := by cases spelled <;> exact List.cons_ne_nil _ _
  have kept : trimChars source.toList ≠ [] := fun empty => nonblank (by rw [trim, empty])
  rw [parseLoop?_of_isFirstSeparator isFirst, read, trim]
  simp [named, kept]

/-! ### Iterations -/

/-- What the names of a loop are bound to, for each time that it runs over a value. -/
inductive RunsOver : LoopKind → Value → List (List Value) → Prop
  | null (kind : LoopKind) : RunsOver kind .null []
  /-- An element and its index. -/
  | list (vs : List Value) : RunsOver .items (.list vs) (vs.mapIdx fun i v => [v, .ofNat i])
  /-- The index in place of a key, an element and its index. -/
  | listWithin (vs : List Value) :
    RunsOver .within (.list vs) (vs.mapIdx fun i v => [.ofNat i, v, .ofNat i])
  /-- A key, its value and the index of the entry. -/
  | record (fields : List (String × Value)) :
    RunsOver .within (.record fields) (fields.mapIdx fun i e => [.text e.1, e.2, .ofNat i])
  /-- A character and its index. -/
  | text (s : String) :
    RunsOver .items (.text s) (s.toList.mapIdx fun i c => [.text c.toString, .ofNat i])

variable {spec : LoopSpec} {source : Value} {values : List (List Value)}

theorem iterations?_of_runsOver (runs : RunsOver spec.kind source values) :
    iterations? spec source = some (values.map (bindNames spec.bindings)) := by
  obtain ⟨kind, bindings, text⟩ := spec
  cases runs <;> simp [iterations?, List.mapIdx_eq_zipIdx_map]

theorem exists_runsOver (found : iterations? spec source ≠ none) :
    ∃ values, RunsOver spec.kind source values := by
  obtain ⟨kind, bindings, text⟩ := spec
  cases source with
  | null => exact ⟨_, .null kind⟩
  | list vs =>
    cases kind with
    | items => exact ⟨_, .list vs⟩
    | within => exact ⟨_, .listWithin vs⟩
  | record fields =>
    cases kind with
    | items => exact absurd rfl found
    | within => exact ⟨_, .record fields⟩
  | text s =>
    cases kind with
    | items => exact ⟨_, .text s⟩
    | within => exact absurd rfl found
  | bool b => cases kind <;> exact absurd rfl found
  | number n => cases kind <;> exact absurd rfl found

theorem map_fst_zip_sublist {α β : Type} (xs : List α) (ys : List β) :
    ((xs.zip ys).map Prod.fst).Sublist xs := by
  induction xs generalizing ys with
  | nil => exact .slnil
  | cons x xs ih =>
    cases ys with
    | nil => exact List.nil_sublist _
    | cons y ys => exact (ih ys).cons_cons x

/-- Distinct names are bound to the values in order, as far as both go. -/
theorem bindNames_eq_zip {names : List String} (distinct : names.Nodup) (values : List Value) :
    bindNames names values = names.zip values :=
  Entries.ofPairs_eq_self (distinct.sublist (map_fst_zip_sublist names values))

/-- A loop with distinct names over a value binds them anew each time that it runs. -/
theorem expandLoop_of_runsOver {data : Cascade} {file : String} (distinct : spec.bindings.Nodup)
    (evaluated : evaluateExpression spec.source "loop source" data file = .ok source)
    (runs : RunsOver spec.kind source values) :
    expandLoop spec data file = .ok (values.map spec.bindings.zip) := by
  have rows : values.map (bindNames spec.bindings) = values.map spec.bindings.zip :=
    List.map_congr_left fun vs _ => bindNames_eq_zip distinct vs
  rw [expandLoop, evaluated, ← rows]
  simp only [bind, Except.bind, iterations?_of_runsOver runs]

/-- A loop fails over every other value. -/
theorem expandLoop_of_not_runsOver {data : Cascade} {file : String}
    (evaluated : evaluateExpression spec.source "loop source" data file = .ok source)
    (other : ∀ values, ¬ RunsOver spec.kind source values) :
    expandLoop spec data file = .error (.notIterable spec.source source.kind file) := by
  have none : iterations? spec source = none := by
    by_contra found
    obtain ⟨values, runs⟩ := exists_runsOver found
    exact other values runs
  rw [expandLoop, evaluated]
  simp only [bind, Except.bind, none]

/-! ### Loops -/

/-- Loops are read back from what is written, and fail to be read only without a separator, a name
or a source; and a loop with distinct names binds these once for each element, entry or character of
its source, in order. -/
theorem loops_readBack_and_expand :
    (∀ (kind : LoopKind) (names : List String) (inner left : List Char) (source : String),
      (∀ n ∈ names, IsLoopName n) → SpellsNames names inner → Bracketed inner left →
      trim source ≠ "" →
      parseLoop? (String.ofList left ++ kind.separator ++ source) =
        some ⟨kind, names, trim source⟩) ∧
    (∀ value, parseLoop? value = none ↔
      (∀ (kind : LoopKind) left right,
        value.toList ≠ left ++ kind.separator.toList ++ right) ∨
      ∃ kind left right, IsFirstSeparator kind left right value.toList ∧
        (Nameless left ∨ IsGap right)) ∧
    (∀ spec data file source, spec.bindings.Nodup →
      evaluateExpression spec.source "loop source" data file = .ok source →
      (∀ values, RunsOver spec.kind source values →
        expandLoop spec data file = .ok (values.map spec.bindings.zip)) ∧
      ((∀ values, ¬ RunsOver spec.kind source values) →
        expandLoop spec data file = .error (.notIterable spec.source source.kind file))) := by
  refine ⟨fun kind names inner left source valid spelled bracketed nonblank => ?_,
    parseLoop?_eq_none_iff, fun spec data file source distinct evaluated => ⟨fun values => ?_, ?_⟩⟩
  · exact parseLoop?_spelled spelled valid bracketed nonblank kind
  · exact expandLoop_of_runsOver distinct evaluated
  · exact expandLoop_of_not_runsOver evaluated

/-- Two names in parentheses before a source that holds another separator, no name at all, and the
characters of a text. -/
theorem loops_readBack_and_expand_numbered :
    parseLoop? " (v , i) of rows in order " = some ⟨.items, ["v", "i"], "rows in order"⟩ ∧
      parseLoop? "(,) of rows" = none ∧
      expandLoop ⟨.items, ["v", "i"], "'ab'"⟩ (.ofGlobals [] []) "index.webc" =
        .ok [[("v", .text "a"), ("i", .ofNat 0)], [("v", .text "b"), ("i", .ofNat 1)]] := by
  obtain ⟨readBack, unread, expand⟩ := loops_readBack_and_expand
  have valid : ∀ n ∈ ["v", "i"], IsLoopName n := by decide
  have last : SpellsNames ["i"] ([' '] ++ "i".toList ++ []) := .last (by decide) (by decide)
  have spelled : SpellsNames ["v", "i"] ([] ++ "v".toList ++ [' '] ++ ',' :: [' ', 'i']) :=
    .cons (by decide) (by decide) last
  have bracketed : Bracketed "v , i".toList ([' '] ++ '(' :: ("v , i".toList ++ [')']) ++ []) :=
    .parentheses (by decide) (by decide)
  have comma : Bracketed [','] ([] ++ '(' :: ([','] ++ [')']) ++ []) :=
    .parentheses (by decide) (by decide)
  have isFirst : IsFirstSeparator .items "(,)".toList "rows".toList "(,) of rows".toList :=
    isFirstSeparator_of_cutLoop? (by decide)
  have evaluated : evaluateExpression "'ab'" "loop source" (.ofGlobals [] []) "index.webc" =
      .ok (.text "ab") := by
    obtain ⟨v, value, shown⟩ : ∃ v,
        (evaluateExpression "'ab'" "loop source" (.ofGlobals [] []) "index.webc").toOption =
          some v ∧ (v.kind, v.display) = ("string", "ab") :=
      Option.map_eq_some_iff.mp (by decide +kernel)
    obtain rfl : v = .text "ab" := by
      cases v <;> simp_all [Value.kind, Value.display]
    exact Compiled.eq_ok_of_toOption value
  refine ⟨?_, ?_, ?_⟩
  · exact readBack .items _ _ _ "rows in order " valid spelled bracketed (by decide)
  · exact (unread _).mpr (.inr ⟨_, _, _, isFirst, .inl ⟨_, comma, by simp⟩⟩)
  · exact (expand ⟨.items, ["v", "i"], "'ab'"⟩ _ _ _ (by decide) evaluated).1 _ (.text _)

end ComponentMarkup
