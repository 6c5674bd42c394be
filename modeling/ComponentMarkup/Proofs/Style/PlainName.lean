import ComponentMarkup.Proofs.Style.Lexing
import ComponentMarkup.Style.Part
import ComponentMarkup.Style.ScopeId
import Mathlib.Data.List.Basic

/-!
# Plain names

A name is written in a style sheet as it is if it is an identifier without escapes. Such a name is
one token wherever what follows does not go on with it, and no other text is read as an identifier
with the same characters: an escape stands for fewer characters than it has, and all else ends a
name.

## Main definitions

* `Style.IsPlainName` — identifiers without escapes
* `Style.EndsName` — texts that a name ends before
* `Style.Reads` — what a token tells of the text that it was read from

## Main results

* `Style.readToken_of_plain` — a plain name is one token
* `Style.plain_of_gather` — an identifier with the characters of its whole text is a plain name
* `Style.isPlainName_derivedScopeId` — derived scope ids are plain names, and have no blanks
-/

namespace ComponentMarkup.Style

/-- Whether a text is a name that stylesheets can write as it is: an identifier without escapes. -/
def IsPlainName (name : String) : Prop :=
  startsIdent name.toList = true ∧ ∀ c ∈ name.toList, isNameChar c = true ∧ c ≠ '\x00'

instance (name : String) : Decidable (IsPlainName name) := inferInstanceAs (Decidable (_ ∧ _))

/-- Whether a name ends where the rest starts: no character of a name and no escape goes on with it,
no parenthesis makes it a function, and no bracket makes two hyphens the end of a comment of
markup. -/
def EndsName (name rest : List Char) : Prop :=
  ∀ c ∈ rest.head?, isNameChar c = false ∧ c ≠ '\\' ∧ c ≠ '(' ∧ (c = '>' → name ≠ ['-', '-'])

/-- Whether a name stops where the rest starts: the same, but for a backslash that escapes
nothing. -/
structure StopsName (name rest : List Char) : Prop where
  noEscape : startsEscape rest = false
  noName : ∀ c ∈ rest.head?, isNameChar c = false
  noFunction : ∀ c ∈ rest.head?, c ≠ '('
  noClose : ∀ c ∈ rest.head?, c = '>' → name ≠ ['-', '-']

/-! ### Reading names -/

theorem startsEscape_cons {c : Char} (other : c ≠ '\\') (cs : List Char) :
    startsEscape (c :: cs) = false := by
  unfold startsEscape
  split
  · rename_i same
    exact absurd (List.cons.inj same).1 other
  · rename_i same
    exact absurd (List.cons.inj same).1 other
  · rfl

theorem EndsName.stops {name rest : List Char} (ends : EndsName name rest) :
    StopsName name rest where
  noEscape := by
    cases rest with
    | nil => rfl
    | cons c rest => exact startsEscape_cons (ends c rfl).2.1 rest
  noName := fun c first => (ends c first).1
  noFunction := fun c first => (ends c first).2.2.1
  noClose := fun c first => (ends c first).2.2.2

/-- A character that no name has is none of a name. -/
theorem ne_of_isNameChar {c d : Char} (h : isNameChar c = true) (other : isNameChar d = false) :
    c ≠ d := by
  rintro rfl
  rw [h] at other
  exact nomatch other

theorem startsEscape_cons_of_isNameChar {c : Char} (h : isNameChar c = true) (cs : List Char) :
    startsEscape (c :: cs) = false :=
  startsEscape_cons (ne_of_isNameChar h (by decide)) cs

/-- A plain name is read as it is, up to a character that does not go on with it. -/
theorem readNameWithin_of_plain {cs rest : List Char}
    (plain : ∀ c ∈ cs, isNameChar c = true ∧ c ≠ '\x00')
    (noEscape : startsEscape rest = false) (noName : ∀ c ∈ rest.head?, isNameChar c = false)
    {count : Nat}
    (enough : cs.length ≤ count) : readNameWithin count (cs ++ rest) = (cs, rest) := by
  induction cs generalizing count with
  | nil =>
    cases rest with
    | nil => cases count <;> rfl
    | cons d more =>
      cases count <;> simp [readNameWithin, noEscape, noName d rfl]
  | cons c cs ih =>
    obtain ⟨count, rfl⟩ := Nat.exists_eq_add_one_of_ne_zero (show count ≠ 0 by
      rintro rfl; simp at enough)
    obtain ⟨isName, nonzero⟩ := plain c List.mem_cons_self
    have rest := ih (fun d hd => plain d (List.mem_cons_of_mem c hd))
      (Nat.le_of_succ_le_succ enough)
    simp [readNameWithin, startsEscape_cons_of_isNameChar isName, isName, nonzero, rest]

/-- No name has more characters than its text. -/
theorem length_readNameWithin_le (count : Nat) (cs : List Char) :
    (readNameWithin count cs).1.length ≤ cs.length := by
  induction count generalizing cs with
  | zero => simp [readNameWithin]
  | succ count ih =>
    unfold readNameWithin
    split
    · rename_i escape
      cases cs with
      | nil => simp [startsEscape] at escape
      | cons c cs =>
        have rest := ih (readEscape cs).2
        cases cs with
        | nil => simpa [readEscape] using ih []
        | cons d cs =>
          have shorter := (readEscape_suffix d cs).length_le
          simp only [List.drop_one, List.tail_cons, List.length_cons] at *
          omega
    · split
      · rename_i c rest _
        split
        · simpa using ih rest
        · simp
      · simp

/-- Only a plain name is read as it is. -/
theorem plain_of_readNameWithin {count : Nat} {cs : List Char}
    (same : (readNameWithin count cs).1 = cs) : ∀ c ∈ cs, isNameChar c = true ∧ c ≠ '\x00' := by
  induction count generalizing cs with
  | zero =>
    obtain rfl : [] = cs := same
    simp
  | succ count ih =>
    unfold readNameWithin at same
    split at same
    · rename_i escape
      exfalso
      cases cs with
      | nil => simp [startsEscape] at escape
      | cons c cs =>
        cases cs with
        | nil =>
          have broken : c = '\\' := by
            unfold startsEscape at escape
            split at escape <;> simp_all
          subst broken
          simp [readEscape] at same
        | cons d cs =>
          -- The escape makes one character of two at least.
          have shorter := (readEscape_suffix d cs).length_le
          have rest := length_readNameWithin_le count (readEscape (d :: cs)).2
          have lengths := congrArg List.length same
          simp only [List.drop_one, List.tail_cons, List.length_cons] at *
          omega
    · split at same
      · rename_i c rest _
        split at same
        · rename_i isName
          obtain ⟨head, tail⟩ := List.cons.inj same
          have nonzero : c ≠ '\x00' := by
            rintro rfl
            simp at head
          intro d hd
          rcases List.mem_cons.mp hd with rfl | hd
          · exact ⟨isName, nonzero⟩
          · exact ih tail d hd
        · cases same
      · simp

/-! ### Tokens -/

theorem not_isDigit_of_isNameStart {c : Char} (h : isNameStart c = true) : c.isDigit = false := by
  by_contra digit
  have digit := eq_true_of_ne_false digit
  simp only [Char.isDigit, Bool.and_eq_true, decide_eq_true_eq, UInt32.le_iff_toNat_le] at digit
  have letter : c.isAlpha = (decide (c.val ≥ 'A'.val ∧ c.val ≤ 'Z'.val) ||
      decide (c.val ≥ 'a'.val) && decide (c.val ≤ 'z'.val)) := rfl
  unfold isNameStart at h
  simp only [Bool.or_eq_true, letter, Bool.and_eq_true, decide_eq_true_eq,
    UInt32.le_iff_toNat_le, beq_iff_eq] at h
  have value : c.toNat = c.val.toNat := rfl
  rcases h with ((h | rfl) | rfl) | h
  · simp at h digit
    omega
  · simp at digit
  · simp at digit
  · simp at digit
    omega

/-- A text that does not start with a digit follows a dot that stands for itself. -/
theorem readToken_dot {cs : List Char} (h : startsDigits ('.' :: cs) = false) :
    readToken '.' cs = (.delim '.', cs) := by
  have number : startsNumber ('.' :: cs) = false := h
  simp [readToken, number, startsIdent, isNameStart, startsEscape, isAsciiBlank, punctuation?]

/-- Numbers, with units or without. -/
def Token.isNumeric : Token → Bool
  | .number _ => true
  | .percentage _ => true
  | .dimension _ _ => true
  | _ => false

theorem isNumeric_of_readNumeric (cs : List Char) : (readNumeric cs).1.isNumeric = true := by
  unfold readNumeric
  dsimp only
  split
  · rfl
  · split <;> rfl

/-- A text that starts with a number is read as one. -/
theorem isNumeric_of_readToken_dot {cs : List Char} (h : startsDigits ('.' :: cs) = true) :
    (readToken '.' cs).1.isNumeric = true := by
  have number : startsNumber ('.' :: cs) = true := h
  simpa [readToken, number, isAsciiBlank] using isNumeric_of_readNumeric ('.' :: cs)

/-- What is read depends on how the text starts. -/
inductive Reads (c : Char) (cs : List Char) : Token × List Char → Prop
  | ident {name : String} {rest : List Char} (starts : startsIdent (c :: cs) = true)
    (named : (readName (c :: cs)).1 = name) : Reads c cs (.ident name, rest)
  | comment {rest : List Char} : Reads c cs (.comment, rest)
  | other {t : Token} {rest : List Char} (noIdent : ∀ name, t ≠ .ident name)
    (noComment : t ≠ .comment) : Reads c cs (t, rest)

theorem reads_of_isNumeric {c : Char} {cs : List Char} {r : Token × List Char}
    (numeric : r.1.isNumeric = true) : Reads c cs r := by
  obtain ⟨t, rest⟩ := r
  refine .other ?_ ?_
  · rintro name rfl
    exact nomatch numeric
  · rintro rfl
    exact nomatch numeric

theorem reads_readString (quote c : Char) (cs : List Char) : Reads c cs (readString quote cs) := by
  unfold readString
  split <;> exact .other nofun nofun

theorem reads_readIdentLike {c : Char} {cs : List Char} (starts : startsIdent (c :: cs) = true) :
    Reads c cs (readIdentLike (c :: cs)) := by
  unfold readIdentLike
  cases named : readName (c :: cs) with
  | mk name rest =>
    simp only
    split
    · split
      · split
        · exact .other nofun nofun
        · exact .other nofun nofun
        · split <;> exact .other nofun nofun
      · exact .other nofun nofun
    · exact .ident starts (congrArg Prod.fst named)

theorem reads_punctuation {c d : Char} {cs rest : List Char} {t : Token}
    (h : punctuation? d = some t) : Reads c cs (t, rest) := by
  unfold punctuation? at h
  split at h <;> cases h <;> exact .other nofun nofun

theorem reads (c : Char) (cs : List Char) : Reads c cs (readToken c cs) := by
  unfold readToken
  refine iteInduction (motive := Reads c cs) (fun _ => .other nofun nofun) fun _ => ?_
  refine iteInduction (fun _ => reads_readString c c cs) fun _ => ?_
  refine iteInduction (fun _ => reads_of_isNumeric (isNumeric_of_readNumeric _)) fun _ => ?_
  refine iteInduction (fun _ => .other nofun nofun) fun _ => ?_
  refine iteInduction (fun starts => reads_readIdentLike starts) fun _ => ?_
  cases punctuation : punctuation? c with
  | some t => exact reads_punctuation punctuation
  | none =>
    refine iteInduction (fun _ => .other nofun nofun) fun _ => ?_
    refine iteInduction (fun _ => .other nofun nofun) fun _ => ?_
    refine iteInduction (fun _ => .comment) fun _ => ?_
    refine iteInduction (fun _ => .other nofun nofun) fun _ => ?_
    exact iteInduction (fun _ => .other nofun nofun) fun _ => .other nofun nofun

theorem not_isAsciiBlank_of_isNameChar {c : Char} (h : isNameChar c = true) :
    isAsciiBlank c = false := by
  by_contra blank
  have blank := eq_true_of_ne_false blank
  simp only [isAsciiBlank, Bool.or_eq_true, beq_iff_eq] at blank
  rcases blank with (((rfl | rfl) | rfl) | rfl) | rfl <;> exact absurd h (by decide)

/-- A name that can start an identifier starts with a letter, or with a hyphen and a hyphen or letter
after it. -/
theorem startsIdent_iff {c : Char} {cs : List Char} (plain : ∀ d ∈ c :: cs, isNameChar d = true) :
    startsIdent (c :: cs) = true ↔ isNameStart c = true ∨
      c = '-' ∧ ∃ d ds, cs = d :: ds ∧ (d = '-' ∨ isNameStart d = true) := by
  have noEscape := startsEscape_cons_of_isNameChar (plain c List.mem_cons_self) cs
  by_cases hyphen : c = '-'
  · subst hyphen
    have noStart : isNameStart '-' = false := by decide
    cases cs with
    | nil => simp [startsIdent, noStart, startsEscape]
    | cons d ds =>
      have noEscape := startsEscape_cons_of_isNameChar (plain d (by simp)) ds
      by_cases second : d = '-'
      · simp [second, startsIdent]
      · simp [startsIdent, second, noEscape, noStart]
  · rw [startsIdent, noEscape]
    · simp [hyphen]
    all_goals simp [hyphen]

theorem startsIdent_hyphen {d : Char} (start : d = '-' ∨ isNameStart d = true) (cs : List Char) :
    startsIdent ('-' :: d :: cs) = true := by
  by_cases hyphen : d = '-'
  · rw [hyphen]
    rfl
  · simp [startsIdent, start.resolve_left hyphen]

theorem startsDigits_cons {c : Char} (noDot : c ≠ '.') (noDigit : c.isDigit = false)
    (cs : List Char) : startsDigits (c :: cs) = false := by
  unfold startsDigits
  split
  · rename_i same
    exact absurd (List.cons.inj same).1 noDot
  · rename_i same
    rw [← (List.cons.inj same).1, noDigit]
  · rfl

/-- A plain name with what follows it: an identifier starts there, no number and no end of a
comment. -/
theorem starts_of_plain {c : Char} {cs rest : List Char}
    (plain : ∀ d ∈ c :: cs, isNameChar d = true) (starts : startsIdent (c :: cs) = true)
    (stops : StopsName (c :: cs) rest) :
    startsIdent (c :: (cs ++ rest)) = true ∧ startsNumber (c :: (cs ++ rest)) = false ∧
      (c == '-' && (cs ++ rest).take 2 == ['-', '>']) = false := by
  have noDigits : ∀ d ∈ c :: cs, (d = '-' ∨ isNameStart d = true) → ∀ ds,
      startsDigits (d :: ds) = false := by
    intro d hd start ds
    refine startsDigits_cons (ne_of_isNameChar (plain d hd) (by decide)) ?_ ds
    rcases start with rfl | start
    · decide
    · exact not_isDigit_of_isNameStart start
  rcases (startsIdent_iff plain).mp starts with start | ⟨rfl, d, ds, rfl, start⟩
  · -- The name starts with a letter.
    have noHyphen : c ≠ '-' := by
      rintro rfl
      exact absurd start (by decide)
    have noPlus : c ≠ '+' := ne_of_isNameChar (plain c List.mem_cons_self) (by decide)
    refine ⟨?_, ?_, by simp [noHyphen]⟩
    · unfold startsIdent
      split <;> simp_all
    · have noDigits := noDigits c List.mem_cons_self (.inr start) (cs ++ rest)
      unfold startsNumber
      split
      · rename_i same
        exact absurd (List.cons.inj same).1 noPlus
      · rename_i same
        exact absurd (List.cons.inj same).1 noHyphen
      · exact noDigits
  · -- The name starts with a hyphen, so all three look at the character after it.
    refine ⟨startsIdent_hyphen start (ds ++ rest), noDigits d (by simp) start (ds ++ rest), ?_⟩
    by_cases second : d = '-'
    · subst second
      have noBracket : (ds ++ rest).take 1 ≠ ['>'] := by
        cases ds with
        | nil =>
          -- Here the name is two hyphens, and what follows it must not be a bracket.
          cases rest with
          | nil => simp
          | cons e more => simpa using fun bracket => stops.noClose e rfl bracket rfl
        | cons e ds =>
          have other : e ≠ '>' := ne_of_isNameChar (plain e (by simp)) (by decide)
          simpa using other
      simp [List.take_succ_cons, noBracket]
    · simp [List.take_succ_cons, second]

/-- A plain name is one token, up to where it ends. -/
theorem readToken_of_plain {c : Char} {cs rest : List Char}
    (plain : ∀ d ∈ c :: cs, isNameChar d = true ∧ d ≠ '\x00')
    (starts : startsIdent (c :: cs) = true) (stops : StopsName (c :: cs) rest) :
    readToken c (cs ++ rest) = (.ident (String.ofList (c :: cs)), rest) := by
  have isName := (plain c List.mem_cons_self).1
  have noBlank : isAsciiBlank c = false := not_isAsciiBlank_of_isNameChar isName
  have noQuote : (c == '"' || c == '\'') = false := by
    simp [ne_of_isNameChar isName (d := '"') (by decide),
      ne_of_isNameChar isName (d := '\'') (by decide)]
  obtain ⟨startsWhole, noNumber, noClose⟩ :=
    starts_of_plain (fun d hd => (plain d hd).1) starts stops
  have name : readName (c :: (cs ++ rest)) = (String.ofList (c :: cs), rest) := by
    rw [readName, ← List.cons_append, readNameWithin_of_plain plain stops.noEscape stops.noName (by simp)]
  have noParen : ∀ more, rest ≠ '(' :: more := by
    rintro more rfl
    exact stops.noFunction '(' rfl rfl
  unfold readToken
  simp only [noBlank, noQuote, noNumber, noClose, startsWhole, Bool.false_eq_true, if_false,
    if_true, readIdentLike, name]

/-! ### Parts -/

/-- What has been gathered outside of all blocks comes first, and changes nothing of the rest. -/
theorem gather_append (base : List Part) (ls : List Lexeme) :
    (∀ parts, gather [] (parts ++ base) ls = base.reverse ++ gather [] parts ls) ∧
      ∀ stack b o before parts,
        gather (stack ++ [⟨b, o, before ++ base⟩]) parts ls =
          base.reverse ++ gather (stack ++ [⟨b, o, before⟩]) parts ls := by
  induction ls with
  | nil => simp [gather, OpenBlock.close]
  | cons l ls ih =>
    obtain ⟨outside, inside⟩ := ih
    constructor
    · intro parts
      simp only [gather]
      split
      · exact inside [] _ _ parts []
      · exact outside (.token l.token l.text :: parts)
    · intro stack b o before parts
      simp only [gather]
      split
      · exact inside (_ :: stack) b o before []
      · cases stack with
        | nil =>
          simp only [List.nil_append]
          split
          · exact outside (.block b o parts.reverse l.text :: before)
          · exact inside [] b o before _
        | cons first stack =>
          simp only [List.cons_append]
          split
          · exact inside stack b o before _
          · exact inside (first :: stack) b o before _

/-- A token that opens no block is a part of its own. -/
theorem gather_cons {l : Lexeme} (opens : opened? l.token = none) (ls : List Lexeme) :
    gather [] [] (l :: ls) = .token l.token l.text :: gather [] [] ls := by
  have first := (gather_append [.token l.token l.text] ls).1 []
  simpa [gather, opens] using first

/-- What an open block becomes stands after what was gathered before it. -/
theorem exists_gather_block (ls : List Lexeme) :
    ∀ stack b o before parts, ∃ inside closing more,
      gather (stack ++ [⟨b, o, before⟩]) parts ls =
        before.reverse ++ .block b o inside closing :: more := by
  induction ls with
  | nil =>
    intro stack b o before parts
    refine ⟨(stack.foldl (fun inside b => b.close inside []) parts).reverse, [], [], ?_⟩
    simp [gather, OpenBlock.close]
  | cons l ls ih =>
    intro stack b o before parts
    simp only [gather]
    split
    · exact ih (_ :: stack) b o before []
    · cases stack with
      | nil =>
        simp only [List.nil_append]
        split
        · have closed := (gather_append (.block b o parts.reverse l.text :: before) ls).1 []
          exact ⟨_, _, _, by simpa [OpenBlock.close] using closed⟩
        · exact ih [] b o before _
      | cons first stack =>
        simp only [List.cons_append]
        split
        · exact ih stack b o before _
        · exact ih (first :: stack) b o before _

/-- The part that a token which opens a block is in is that block. -/
theorem exists_gather_cons {l : Lexeme} {b : Bracket} (opens : opened? l.token = some b)
    (ls : List Lexeme) :
    ∃ inside closing more, gather [] [] (l :: ls) = .block b l.text inside closing :: more := by
  simpa [gather, opens] using exists_gather_block ls [] b l.text [] []

/-- The identifier that some parts start with, comments left out, is no longer than their text. It
is the whole text only if that is a plain name. -/
theorem plain_of_gather {count : Nat} {cs source : List Char} {name : String} {tail : List Part}
    (h : withoutComments (gather [] [] (lexemesWithin count cs)) =
      .token (.ident name) source :: tail) :
    name.length ≤ cs.length ∧
      (name.toList = cs → startsIdent cs = true ∧ ∀ c ∈ cs, isNameChar c = true ∧ c ≠ '\x00') := by
  induction count generalizing cs with
  | zero => cases h
  | succ count ih =>
    cases cs with
    | nil => cases h
    | cons c cs =>
      have step := reads c cs
      rw [lexemesWithin, readLexeme?] at h
      cases read : readToken c cs with
      | mk t rest =>
        rw [read] at h step
        simp only at h
        cases opens : opened? t with
        | some b =>
          -- A block is no identifier.
          obtain ⟨inside, closing, more, block⟩ :=
            exists_gather_cons (l := ⟨t, _⟩) opens (lexemesWithin count rest)
          rw [block] at h
          cases h
        | none =>
          rw [gather_cons opens] at h
          cases step with
          | comment =>
            -- The identifier stands after the comment, in a text that is shorter.
            have shorter : rest.length ≤ cs.length := by
              simpa [read] using (readToken_suffix c cs).length_le
            have later : name.length ≤ rest.length := (ih h).1
            refine ⟨by simp only [List.length_cons]; omega, fun whole => ?_⟩
            have lengths := congrArg List.length whole
            simp only [String.length_toList, List.length_cons] at lengths
            omega
          | @ident other _ starts named =>
            obtain ⟨same, _⟩ := List.cons.inj h
            obtain rfl : other = name := Token.ident.inj (Part.token.inj same).1
            have chars : (readNameWithin (c :: cs).length (c :: cs)).1 = other.toList := by
              rw [← named, readName, String.toList_ofList]
            refine ⟨?_, fun whole => ⟨starts, plain_of_readNameWithin (chars.trans whole)⟩⟩
            rw [← String.length_toList, ← chars]
            exact length_readNameWithin_le _ _
          | other noIdent noComment =>
            have kept : (Part.token t ((c :: cs).take ((c :: cs).length - rest.length))).isComment =
                false := by
              cases t <;> first | rfl | exact absurd rfl noComment
            rw [withoutComments, List.filter_cons, kept] at h
            obtain ⟨same, _⟩ := List.cons.inj h
            exact absurd (Part.token.inj same).1 (noIdent name)

/-! ### Derived scope ids -/

/-- The digits of a digest, in lower case, are characters of names and no blanks. -/
theorem base64Digit_toLower (n : Fin 64) :
    let c := (Digest.base64Digit n).toLower
    isNameChar c = true ∧ c ≠ '\x00' ∧ isBlank c = false := by
  revert n
  decide

theorem exists_of_mem_base64 {bytes : List UInt8} {c : Char}
    (h : c ∈ (Digest.base64 bytes).toList) : ∃ n : Fin 64, c = Digest.base64Digit n := by
  rw [Digest.base64, String.toList_ofList] at h
  obtain ⟨chunk, _, digit⟩ := List.mem_flatMap.mp h
  obtain ⟨i, _, rfl⟩ := List.mem_map.mp digit
  exact ⟨⟨_, Nat.mod_lt _ (by decide)⟩, rfl⟩

/-- A derived scope id is a plain name, and has no blanks. -/
theorem isPlainName_derivedScopeId (text : String) :
    IsPlainName (derivedScopeId text) ∧ ∀ c ∈ (derivedScopeId text).toList, isBlank c = false := by
  have chars : (derivedScopeId text).toList = 'w' ::
      ((Digest.base64 (Digest.sha256 text.toUTF8.toList)).toList.map Char.toLower).take 7 := by
    simp [derivedScopeId, asciiLower, String.toList_append, String.toList_map]
  have each : ∀ c ∈ (derivedScopeId text).toList,
      isNameChar c = true ∧ c ≠ '\x00' ∧ isBlank c = false := by
    intro c hc
    rw [chars] at hc
    rcases List.mem_cons.mp hc with rfl | hc
    · decide
    · obtain ⟨d, hd, rfl⟩ := List.mem_map.mp (List.mem_of_mem_take hc)
      obtain ⟨n, rfl⟩ := exists_of_mem_base64 hd
      exact base64Digit_toLower n
  refine ⟨⟨?_, fun c hc => ⟨(each c hc).1, (each c hc).2.1⟩⟩, fun c hc => (each c hc).2.2⟩
  rw [chars]
  rfl

end ComponentMarkup.Style
