import ComponentMarkup.Proofs.Attribute.StartTag
import ComponentMarkup.Proofs.Markup.SelfClosing

/-!
# The content of styles and scripts

The content of a style or a script is read up to its end tag, and nothing in it is markup. What the
pass for self-closing tags leaves of a text has an end tag in it, or the start of a comment, only if
the text has that itself.

## Main definitions

* `LacksWord` — a text without a word, in any case of letters

## Main results

* `isEndTagOf_eq_false_of_follows`, `take_ne_of_follows` — the pass writes neither
* `rawRun_append`, `scriptRun_append` — the content ends with the first end tag
* `nextToken?_style`, `nextToken?_setupScript`, `contentToken_endTag` — the tags
-/

namespace ComponentMarkup.Markup

/-! ### Words in any case -/

/-- A word, given in lower case, stands nowhere in a text, in whatever case. -/
def LacksWord (word : String) (cs : List Char) : Prop :=
  ∀ w, w <:+: cs → w.map Char.toLower ≠ word.toList

theorem lacksWord_iff {word : String} {cs : List Char} : LacksWord word cs ↔
    ∀ t ∈ cs.tails, (t.take word.toList.length).map Char.toLower ≠ word.toList := by
  constructor
  · intro lacks t ht
    exact lacks _ ((List.take_prefix _ t).isInfix.trans ((List.mem_tails _ _).mp ht).isInfix)
  · rintro lacks w infix' same
    obtain ⟨t, starts, ends⟩ := List.infix_iff_prefix_suffix.mp infix'
    refine lacks t ((List.mem_tails _ _).mpr ends) ?_
    rw [← same, List.length_map, ← List.prefix_iff_eq_take.mp starts]

instance (word : String) (cs : List Char) : Decidable (LacksWord word cs) :=
  decidable_of_iff' _ lacksWord_iff

/-! ### End tags -/

section EndTags

variable {name s tail u cs : List Char}

/-- An end tag is a bracket, a slash, the name in any case, and a character that ends it. -/
theorem of_isEndTagOf (isEnd : isEndTagOf name cs = true) :
    ∃ w c more, cs = '<' :: '/' :: (w ++ c :: more) ∧ w.map Char.toLower = name.map Char.toLower ∧
      (isSpace c || c == '/' || c == '>') = true := by
  unfold isEndTagOf at isEnd
  split at isEnd
  next c more found =>
    unfold dropStartNoCase? at found
    split at found
    next starts =>
      have rest := Option.some.inj found
      match cs with
      | [] => exact nomatch beq_iff_eq.mp starts
      | [_] => exact nomatch (List.cons.inj (beq_iff_eq.mp starts)).2
      | d :: e :: cs =>
        simp only [List.length_cons, List.take_succ_cons, List.map_cons, beq_iff_eq,
          List.cons.injEq] at starts
        obtain ⟨first, second, same⟩ := starts
        obtain rfl := (toLower_eq_iff (by decide)).mp first
        obtain rfl := (toLower_eq_iff (by decide)).mp second
        refine ⟨cs.take name.length, c, more, ?_, same, isEnd⟩
        rw [← rest]
        simp
    · exact nomatch found
  · exact nomatch isEnd

theorem isEndTagOf_cons_of_ne {c : Char} (other : c ≠ '<') (cs : List Char) :
    isEndTagOf name (c :: cs) = false := by
  by_contra isEnd
  obtain ⟨w, d, more, same, -⟩ := of_isEndTagOf (eq_true_of_ne_false isEnd)
  exact other (List.cons.inj same).1

/-- A character that ends the name in an end tag is none of a component's name. -/
theorem not_inName_of_ends {c : Char} (ends : (isSpace c || c == '/' || c == '>') = true) :
    isComponentNameChar c = false := by
  simp only [isSpace, Bool.or_eq_true, beq_iff_eq] at ends
  rcases ends with ((((rfl | rfl) | rfl) | rfl) | rfl) | rfl <;> decide

/-- What two texts start with that are the same up to the next bracket. -/
theorem prefix_of_takeWhile_eq {rest v more : List Char} (noOpen : '<' ∉ v)
    (same : (v ++ more).takeWhile (· != '<') = rest.takeWhile (· != '<')) : v <+: rest := by
  have all : ∀ c ∈ v, (c != '<') = true := by
    rintro c listed
    simpa using fun opens : c = '<' => noOpen (opens ▸ listed)
  rw [List.takeWhile_append_of_pos all] at same
  exact (same ▸ List.prefix_append v _).trans (List.takeWhile_prefix _)

/-- What follows a bracket after the pass is an end tag only if that stands in the text. -/
theorem isEndTagOf_eq_false_of_follows (lower : name.map Char.toLower = name) (noOpen : '<' ∉ name)
    (noHyphen : '-' ∉ name) (lacks : LacksWord (String.ofList ('<' :: '/' :: name)) s)
    (follows : Follows s u) : isEndTagOf name ('<' :: u) = false := by
  by_contra isEnd
  obtain ⟨w, c, more, whole, same, ends⟩ := of_isEndTagOf (eq_true_of_ne_false isEnd)
  obtain rfl := (List.cons.inj whole).2
  rw [lower] at same
  have noOpenIn : '<' ∉ w := fun listed => noOpen (same ▸ List.mem_map_of_mem listed)
  have noHyphenIn : '-' ∉ w := fun listed => noHyphen (same ▸ List.mem_map_of_mem listed)
  generalize written : '/' :: (w ++ c :: more) = u at follows
  cases follows with
  | @kept rest _ before kept =>
    rw [← written, ← List.cons_append] at kept
    have starts : '/' :: w <+: rest := prefix_of_takeWhile_eq (by simp [noOpenIn]) kept
    refine lacks _ ((List.cons_prefix_cons.mpr ⟨rfl, starts⟩).isInfix.trans before.isInfix) ?_
    rw [String.toList_ofList, List.map_cons, List.map_cons, same]
    rfl
  | opening alpha =>
    obtain rfl := (List.cons.inj written).1
    exact nomatch alpha
  | closing isWord =>
    -- The name of a component has a hyphen, and goes on where that of the tag ends.
    rcases List.append_eq_append_iff.mp (List.cons.inj written).2 with
      ⟨later, rfl, same⟩ | ⟨later, rfl, same⟩
    · cases later with
      | nil => exact noHyphenIn (by simpa using isWord.hyphen)
      | cons d later =>
        obtain rfl := (List.cons.inj same).1
        have inName := isWord.inName c (by simp)
        exact nomatch inName.symm.trans (not_inName_of_ends ends)
    · exact noHyphenIn (List.mem_append_left _ isWord.hyphen)

/-- What follows a bracket after the pass opens a comment only if that is opened in the text. -/
theorem take_ne_of_follows (lacks : LacksWord "<!--" s) (follows : Follows s u) :
    u.take 3 ≠ ['!', '-', '-'] := by
  intro opens
  obtain ⟨more, written⟩ : ∃ more, ['!', '-', '-'] ++ more = u :=
    ⟨u.drop 3, by rw [← opens, List.take_append_drop]⟩
  cases follows with
  | @kept rest _ before kept =>
    have starts : ['!', '-', '-'] <+: rest :=
      prefix_of_takeWhile_eq (by decide) (written ▸ kept)
    exact lacks _ ((List.cons_prefix_cons.mpr ⟨rfl, starts⟩).isInfix.trans before.isInfix) rfl
  | opening alpha =>
    obtain rfl := (List.cons.inj written).1
    exact nomatch alpha
  | closing => exact nomatch (List.cons.inj written).1

/-! ### Content -/

/-- The content of an element ends with the first end tag. -/
theorem rawRun_append {t : List Char} (isEnd : isEndTagOf name ('<' :: tail) = true)
    (noEnd : ∀ u, '<' :: u <:+ t ++ '<' :: tail → u = tail ∨ isEndTagOf name ('<' :: u) = false) :
    rawRun name (t ++ '<' :: tail) = (t, '<' :: tail) := by
  induction t with
  | nil => rw [List.nil_append, rawRun, if_pos isEnd]
  | cons c t ih =>
    have noEndHere : isEndTagOf name (c :: (t ++ '<' :: tail)) = false := by
      by_cases opens : c = '<'
      · subst opens
        refine (noEnd _ (List.suffix_refl _)).resolve_left fun same => ?_
        have lengths := congrArg List.length same
        simp at lengths
        omega
      · exact isEndTagOf_cons_of_ne opens _
    rw [List.cons_append, rawRun, if_neg (Bool.eq_false_iff.mp noEndHere),
      ih fun u hu => noEnd u (hu.trans (List.suffix_cons c _))]

/-- The content of a script without comments ends with the first end tag. -/
theorem scriptRun_append {t : List Char} (isEnd : isEndTagOf "script".toList ('<' :: tail) = true)
    (noEnd : ∀ u, '<' :: u <:+ t ++ '<' :: tail →
      u = tail ∨ isEndTagOf "script".toList ('<' :: u) = false ∧ u.take 3 ≠ ['!', '-', '-']) :
    scriptRun .plain (t ++ '<' :: tail) = (t, '<' :: tail) := by
  induction t with
  | nil =>
    rw [List.nil_append, scriptRun, isEnd]
    rfl
  | cons c t ih =>
    have rest := ih fun u hu => noEnd u (hu.trans (List.suffix_cons c _))
    have goesOn : isEndTagOf "script".toList (c :: (t ++ '<' :: tail)) = false ∧
        ScriptState.plain.next c (t ++ '<' :: tail) = .plain := by
      by_cases opens : c = '<'
      · subst opens
        obtain ⟨noEndHere, noComment⟩ :=
            (noEnd _ (List.suffix_refl _)).resolve_left fun same => by
          have lengths := congrArg List.length same
          simp at lengths
          omega
        exact ⟨noEndHere, by simpa [ScriptState.next] using noComment⟩
      · exact ⟨isEndTagOf_cons_of_ne opens _, by simp [ScriptState.next, opens]⟩
    rw [List.cons_append, scriptRun, goesOn.1, goesOn.2, rest]
    rfl

/-- The content of an element as a token. -/
theorem contentToken_text {t : List Char} (noEnd : isEndTagOf name cs = false)
    (noZero : '\x00' ∉ t) : contentToken name (t, tail) id cs = (.text t, tail) := by
  rw [contentToken, noEnd, mend_eq_self_iff.mpr noZero]
  rfl

/-- A run that takes something does not start with the end tag. -/
theorem isEndTagOf_eq_false_of_run {t : List Char} (nonempty : t ≠ [])
    (run : rawRun name cs = (t, tail) ∨ name = "script".toList ∧ scriptRun .plain cs = (t, tail)) :
    isEndTagOf name cs = false := by
  by_contra isEnd
  obtain ⟨w, c, more, rfl, -⟩ := of_isEndTagOf (eq_true_of_ne_false isEnd)
  rcases run with run | ⟨rfl, run⟩
  · rw [rawRun, if_pos (eq_true_of_ne_false isEnd)] at run
    exact nonempty (Prod.mk.inj run).1.symm
  · rw [scriptRun, eq_true_of_ne_false isEnd] at run
    exact nonempty (Prod.mk.inj run).1.symm

end EndTags

/-! ### Tags -/

section Tags

variable {s name : List Char}

theorem readRawAttributes?_end (rest : List Char) :
    readRawAttributes? ('>' :: rest) = some ([], false, rest) := by
  simp [readRawAttributes?, isSpace]

theorem readAttributes?_end (rest : List Char) :
    readAttributes? ('>' :: rest) = some ([], false, rest) := by
  rw [readAttributes?, readRawAttributes?_end]
  rfl

/-- A tag of a name and attributes. -/
theorem readTag?_append {attributes : List Attribute} {closed : Bool} {rest : List Char}
    (isName : ∀ c ∈ name, isTagNameChar c = true) (ends : ∀ c ∈ s.head?, isTagNameChar c = false)
    (read : readAttributes? s = some (attributes, closed, rest)) :
    readTag? (name ++ s) = some (⟨String.ofList (foldName name), attributes, closed⟩, rest) := by
  obtain ⟨taken, dropped⟩ := takeWhile_name s isName ends
  rw [readTag?, taken, dropped, read]
  rfl

theorem dataToken_startTag {tag : Tag} {rest : List Char}
    (read : readTag? ('s' :: s) = some (tag, rest)) (hasLiterals : Bool) :
    dataToken hasLiterals ('<' :: 's' :: s) = (.startTag tag, rest) := by
  simp [dataToken, opensMarkup, tagToken, read]

/-- The start tag of a style. -/
theorem nextToken?_style (hasLiterals : Bool) (rest : List Char) :
    nextToken? .data hasLiterals ('<' :: ("style>".toList ++ rest)) =
      some (.startTag ⟨"style", [], false⟩, rest) := by
  have read : readTag? ("style".toList ++ '>' :: rest) = some (⟨"style", [], false⟩, rest) :=
    readTag?_append (List.all_eq_true.mp rfl) (by rintro c ⟨⟩; rfl) (readAttributes?_end rest)
  exact congrArg some (dataToken_startTag read hasLiterals)

theorem readAttributes?_setup (rest : List Char) :
    readAttributes? (" webc:setup".toList ++ '>' :: rest) =
      some ([⟨"webc:setup", ""⟩], false, rest) := by
  have blank := readRawAttributes?_dropWhile_isSpace (" webc:setup".toList ++ '>' :: rest)
  have name : (" webc:setup".toList ++ '>' :: rest).dropWhile isSpace =
      "webc:setup".toList ++ '>' :: rest := by
    simp [isSpace]
  have bare : readRawAttributes? ("webc:setup".toList ++ '>' :: rest) = _ :=
    readRawAttributes?_bare ⟨rfl, List.all_eq_true.mp rfl⟩ (by rintro d ⟨⟩; rfl)
      (by simp [isSpace])
  have meant : dropRepeated [attributeOfRaw ("webc:setup".toList, [])] =
      [⟨"webc:setup", ""⟩] := by
    decide +kernel
  rw [readAttributes?, ← blank, name, bare, readRawAttributes?_end]
  change some (dropRepeated [attributeOfRaw _], false, rest) = _
  rw [meant]

/-- The start tag of a script with the directive. -/
theorem nextToken?_setupScript (hasLiterals : Bool) (rest : List Char) :
    nextToken? .data hasLiterals ('<' :: ("script webc:setup>".toList ++ rest)) =
      some (.startTag ⟨"script", [⟨"webc:setup", ""⟩], false⟩, rest) := by
  have read : readTag? ("script".toList ++ (" webc:setup".toList ++ '>' :: rest)) =
      some (⟨"script", [⟨"webc:setup", ""⟩], false⟩, rest) :=
    readTag?_append (List.all_eq_true.mp rfl) (by rintro c ⟨⟩; rfl) (readAttributes?_setup rest)
  exact congrArg some (dataToken_startTag read hasLiterals)

theorem isEndTagOf_self (name rest : List Char) :
    isEndTagOf name ('<' :: '/' :: (name ++ '>' :: rest)) = true := by
  simp [isEndTagOf, dropStartNoCase?]

/-- The end tag of an element. -/
theorem contentToken_endTag (isName : ∀ c ∈ name, isTagNameChar c = true)
    (run : List Char × List Char) (decode : List Char → List Char) :
    contentToken name run decode ('<' :: '/' :: (name ++ ['>'])) =
      (.endTag ⟨String.ofList (foldName name), [], false⟩, []) := by
  have read : readTag? (name ++ ['>']) = some (⟨String.ofList (foldName name), [], false⟩, []) :=
    readTag?_append isName (by rintro c ⟨⟩; rfl) (readAttributes?_end [])
  rw [contentToken, if_pos (isEndTagOf_self name []), List.drop_succ_cons, List.drop_succ_cons,
    List.drop_zero, read]
  rfl

end Tags

end ComponentMarkup.Markup
