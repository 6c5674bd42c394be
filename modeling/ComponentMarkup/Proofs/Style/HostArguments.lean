import ComponentMarkup.Proofs.Style.ScopedSelector

/-!
# What the parentheses of a host hold

A selector for the host may have an argument in parentheses, and the parenthesis that closes it is
looked for by counting: those in strings do not count. A style sheet has a second way to write a
parenthesis that does not count, which is to escape it. The search knows escapes within strings, but
outside of them a backslash is a character as any other to it. So it finds the right parenthesis
exactly if the argument is balanced with escapes left out of account, as it is where no parenthesis
and no quote is escaped outside of strings.

## Main definitions

* `Reading` — how backslashes and line ends are read
* `InString` — what a string may hold
* `Balanced` — texts with closed strings and matching parentheses

## Main results

* `Balanced.scan`, `Balanced.sheet` — texts that are balanced in every reading
* `splitClosing_balanced`, `of_splitClosing` — what the search passes over
* `splitClosing_eq_some_iff` — what the search finds
* `scopedSelector_hostArgument` — the selector for a host whose argument is balanced
* `hostArgument_found_iff` — when the argument of a host is found
-/

namespace ComponentMarkup.Style

/-- How a text is read. -/
inductive Reading
  /-- As in style sheets: a backslash outside of strings makes the next character one of a name, and
  strings do not go over line ends. -/
  | sheet
  /-- As in style sheets, for texts in which no quotes and parentheses are escaped outside of
  strings. -/
  | tame
  /-- Outside of strings a backslash is a character as any other, and in strings a line end is. -/
  | scan
  deriving DecidableEq

/-- Whether a character is neither a quote nor a parenthesis. -/
def isUnpaired (c : Char) : Bool := c != '"' && c != '\'' && c != '(' && c != ')'

/-- What a string may hold between its quotes. A backslash takes the next character with it, or the
end of the line. -/
inductive InString (reading : Reading) (quote : Char) : List Char → Prop
  | nil : InString reading quote []
  | plain {c : Char} {cs : List Char} (noQuote : c ≠ quote) (noEscape : c ≠ '\\')
    (sameLine : reading ≠ .scan → isBreak c = false) (rest : InString reading quote cs) :
    InString reading quote (c :: cs)
  | escape {c : Char} {cs : List Char} (rest : InString reading quote cs) :
    InString reading quote ('\\' :: c :: cs)
  | lineEnd {cs : List Char} (rest : InString reading quote cs) :
    InString reading quote ('\\' :: '\r' :: '\n' :: cs)

/-- A text in which strings are closed and parentheses match. -/
inductive Balanced (reading : Reading) : List Char → Prop
  | nil : Balanced reading []
  | plain {c : Char} {cs : List Char} (unpaired : isUnpaired c = true)
    (noEscape : reading ≠ .scan → c ≠ '\\') (rest : Balanced reading cs) :
    Balanced reading (c :: cs)
  | escape {c : Char} {cs : List Char} (escapes : reading ≠ .scan) (sameLine : isBreak c = false)
    (unpaired : reading = .tame → isUnpaired c = true) (rest : Balanced reading cs) :
    Balanced reading ('\\' :: c :: cs)
  | string {quote : Char} {body cs : List Char} (isQuote : quote = '"' ∨ quote = '\'')
    (inside : InString reading quote body) (rest : Balanced reading cs) :
    Balanced reading (quote :: (body ++ quote :: cs))
  | group {inner cs : List Char} (inside : Balanced reading inner) (rest : Balanced reading cs) :
    Balanced reading ('(' :: (inner ++ ')' :: cs))

variable {reading : Reading} {quote c : Char} {depth : Nat} {text body before after : List Char}

/-! ### Texts that are balanced in every reading -/

theorem InString.scan (h : InString reading quote text) : InString .scan quote text := by
  induction h with
  | nil => exact .nil
  | plain noQuote noEscape _ _ ih => exact .plain noQuote noEscape (absurd rfl) ih
  | escape _ ih => exact .escape ih
  | lineEnd _ ih => exact .lineEnd ih

theorem InString.sheet (h : InString .tame quote text) : InString .sheet quote text := by
  induction h with
  | nil => exact .nil
  | plain noQuote noEscape sameLine _ ih =>
    exact .plain noQuote noEscape (fun _ => sameLine nofun) ih
  | escape _ ih => exact .escape ih
  | lineEnd _ ih => exact .lineEnd ih

/-- Where no quotes and parentheses are escaped, escapes may be left out of account. -/
theorem Balanced.scan (h : Balanced .tame text) : Balanced .scan text := by
  induction h with
  | nil => exact .nil
  | plain unpaired _ _ ih => exact .plain unpaired (absurd rfl) ih
  | escape _ _ unpaired _ ih =>
    exact .plain (by decide) (absurd rfl) (.plain (unpaired rfl) (absurd rfl) ih)
  | string isQuote inside _ ih => exact .string isQuote inside.scan ih
  | group _ _ inner ih => exact .group inner ih

theorem Balanced.sheet (h : Balanced .tame text) : Balanced .sheet text := by
  induction h with
  | nil => exact .nil
  | plain unpaired noEscape _ ih => exact .plain unpaired (fun _ => noEscape nofun) ih
  | escape _ sameLine _ _ ih => exact .escape nofun sameLine nofun ih
  | string isQuote inside _ ih => exact .string isQuote inside.sheet ih
  | group _ _ inner ih => exact .group inner ih

theorem Balanced.append (h : Balanced reading before) (h' : Balanced reading after) :
    Balanced reading (before ++ after) := by
  induction h with
  | nil => exact h'
  | plain unpaired noEscape _ ih => exact .plain unpaired noEscape ih
  | escape escapes sameLine unpaired _ ih => exact .escape escapes sameLine unpaired ih
  | string isQuote inside _ ih =>
    rw [List.cons_append, List.append_assoc, List.cons_append]
    exact .string isQuote inside ih
  | group inside _ _ ih =>
    rw [List.cons_append, List.append_assoc, List.cons_append]
    exact .group inside ih

theorem Balanced.of_all (plain : text.all (fun c => isUnpaired c && c != '\\') = true) :
    Balanced reading text := by
  induction text with
  | nil => exact .nil
  | cons c text ih =>
    simp only [List.all_cons, Bool.and_eq_true, bne_iff_ne] at plain
    obtain ⟨⟨unpaired, noEscape⟩, plain⟩ := plain
    exact .plain unpaired (fun _ => noEscape) (ih plain)

/-! ### Steps of the search -/

theorem splitClosing_string_backslash (depth : Nat) (quote : Char) (text : List Char) :
    splitClosing depth (some quote) false ('\\' :: text) =
      (splitClosing depth (some quote) true text).map fun r => ('\\' :: r.1, r.2) := by
  simp [splitClosing]

theorem splitClosing_string_escaped (depth : Nat) (quote c : Char) (text : List Char) :
    splitClosing depth (some quote) true (c :: text) =
      (splitClosing depth (some quote) false text).map fun r => (c :: r.1, r.2) := by
  simp [splitClosing]

theorem splitClosing_string_plain (depth : Nat) (text : List Char) (noQuote : c ≠ quote)
    (noEscape : c ≠ '\\') :
    splitClosing depth (some quote) false (c :: text) =
      (splitClosing depth (some quote) false text).map fun r => (c :: r.1, r.2) := by
  simp [splitClosing, noQuote, noEscape]

theorem splitClosing_string_quote (depth : Nat) (text : List Char) (noEscape : quote ≠ '\\') :
    splitClosing depth (some quote) false (quote :: text) =
      (splitClosing depth none false text).map fun r => (quote :: r.1, r.2) := by
  simp [splitClosing, noEscape]

theorem splitClosing_quote (depth : Nat) (text : List Char)
    (isQuote : quote = '"' ∨ quote = '\'') :
    splitClosing depth none false (quote :: text) =
      (splitClosing depth (some quote) false text).map fun r => (quote :: r.1, r.2) := by
  rcases isQuote with rfl | rfl <;> simp [splitClosing]

theorem splitClosing_open (depth : Nat) (text : List Char) :
    splitClosing depth none false ('(' :: text) =
      (splitClosing (depth + 1) none false text).map fun r => ('(' :: r.1, r.2) := by
  simp [splitClosing]

theorem splitClosing_close_zero (text : List Char) :
    splitClosing 0 none false (')' :: text) = some ([], text) := by
  simp [splitClosing]

theorem splitClosing_close_succ (depth : Nat) (text : List Char) :
    splitClosing (depth + 1) none false (')' :: text) =
      (splitClosing depth none false text).map fun r => (')' :: r.1, r.2) := by
  simp [splitClosing]

theorem splitClosing_plain (depth : Nat) (text : List Char) (unpaired : isUnpaired c = true) :
    splitClosing depth none false (c :: text) =
      (splitClosing depth none false text).map fun r => (c :: r.1, r.2) := by
  simp only [isUnpaired, Bool.and_eq_true, bne_iff_ne] at unpaired
  obtain ⟨⟨⟨double, single⟩, noOpen⟩, noClose⟩ := unpaired
  simp [splitClosing, double, single, noOpen, noClose]

/-! ### What the search passes over -/

theorem quote_ne_backslash (isQuote : quote = '"' ∨ quote = '\'') : quote ≠ '\\' := by
  rcases isQuote with rfl | rfl <;> decide

/-- The search passes over a string. -/
theorem splitClosing_inString (isQuote : quote = '"' ∨ quote = '\'')
    (h : InString .scan quote body) (depth : Nat) (text : List Char) :
    splitClosing depth (some quote) false (body ++ quote :: text) =
      (splitClosing depth none false text).map fun r => (body ++ quote :: r.1, r.2) := by
  have noEscape := quote_ne_backslash isQuote
  induction h with
  | nil => exact splitClosing_string_quote depth text noEscape
  | plain noQuote noEscape _ _ ih =>
    rw [List.cons_append, splitClosing_string_plain depth _ noQuote noEscape, ih, Option.map_map]
    rfl
  | escape _ ih =>
    rw [List.cons_append, List.cons_append, splitClosing_string_backslash,
      splitClosing_string_escaped, ih, Option.map_map, Option.map_map]
    rfl
  | lineEnd _ ih =>
    have other : '\n' ≠ quote := by rcases isQuote with rfl | rfl <;> decide
    rw [List.cons_append, List.cons_append, List.cons_append, splitClosing_string_backslash,
      splitClosing_string_escaped, splitClosing_string_plain depth _ other (by decide), ih,
      Option.map_map, Option.map_map, Option.map_map]
    rfl

/-- The search passes over a balanced text, whatever is open around it. -/
theorem splitClosing_balanced (h : Balanced .scan before) (depth : Nat) (text : List Char) :
    splitClosing depth none false (before ++ text) =
      (splitClosing depth none false text).map fun r => (before ++ r.1, r.2) := by
  induction h generalizing depth text with
  | nil => simp
  | plain unpaired _ _ ih =>
    rw [List.cons_append, splitClosing_plain depth _ unpaired, ih, Option.map_map]
    rfl
  | escape escapes => exact absurd rfl escapes
  | string isQuote inside _ ih =>
    rw [List.cons_append, List.append_assoc, List.cons_append, splitClosing_quote depth _ isQuote,
      splitClosing_inString isQuote inside, ih, Option.map_map, Option.map_map]
    simp [Function.comp_def]
  | group _ _ inner ih =>
    rw [List.cons_append, List.append_assoc, List.cons_append, splitClosing_open, inner,
      splitClosing_close_succ, ih, Option.map_map, Option.map_map, Option.map_map]
    simp [Function.comp_def]

/-! ### Nothing else is passed over -/

/-- A text that closes as many parentheses as are open, with balanced texts before, between and
behind. -/
inductive Closes : Nat → List Char → Prop
  | none {text : List Char} (balanced : Balanced .scan text) : Closes 0 text
  | one {depth : Nat} {inner text : List Char} (balanced : Balanced .scan inner)
    (others : Closes depth text) : Closes (depth + 1) (inner ++ ')' :: text)

theorem Closes.append (balanced : Balanced .scan before) (h : Closes depth text) :
    Closes depth (before ++ text) := by
  cases h with
  | none behind => exact .none (balanced.append behind)
  | one inner others =>
    rw [← List.append_assoc]
    exact .one (balanced.append inner) others

/-- An opening parenthesis takes one of the closing ones. -/
theorem Closes.open (h : Closes (depth + 1) text) : Closes depth ('(' :: text) := by
  cases h with
  | one inner others =>
    have group : Balanced .scan ('(' :: (_ ++ ')' :: [])) := .group inner .nil
    simpa using Closes.append group others

/-- A string that the search passes over is closed, and the search goes on behind it. Where it is
`escaped`, a backslash stands in front of the text. -/
theorem of_splitClosing_string {escaped : Bool}
    (found : splitClosing depth (some quote) escaped text = some (before, after)) :
    ∃ body left passed, text = body ++ quote :: left ∧ before = body ++ quote :: passed ∧
      InString .scan quote (if escaped then '\\' :: body else body) ∧
      splitClosing depth none false left = some (passed, after) := by
  induction text generalizing escaped before with
  | nil => exact nomatch found
  | cons c text ih =>
    cases escaped with
    | true =>
      rw [splitClosing_string_escaped] at found
      obtain ⟨⟨passed, _⟩, more, ⟨⟩⟩ := Option.map_eq_some_iff.mp found
      obtain ⟨body, left, passed, rfl, rfl, inside, behind⟩ := ih more
      exact ⟨c :: body, left, passed, rfl, rfl, .escape inside, behind⟩
    | false =>
      by_cases backslash : c = '\\'
      · subst backslash
        rw [splitClosing_string_backslash] at found
        obtain ⟨⟨passed, _⟩, more, ⟨⟩⟩ := Option.map_eq_some_iff.mp found
        obtain ⟨body, left, passed, rfl, rfl, inside, behind⟩ := ih more
        exact ⟨'\\' :: body, left, passed, rfl, rfl, inside, behind⟩
      by_cases closing : c = quote
      · subst closing
        rw [splitClosing_string_quote depth text backslash] at found
        obtain ⟨⟨passed, _⟩, behind, ⟨⟩⟩ := Option.map_eq_some_iff.mp found
        exact ⟨[], text, passed, rfl, rfl, .nil, behind⟩
      · rw [splitClosing_string_plain depth text closing backslash] at found
        obtain ⟨⟨passed, _⟩, more, ⟨⟩⟩ := Option.map_eq_some_iff.mp found
        obtain ⟨body, left, passed, rfl, rfl, inside, behind⟩ := ih more
        exact ⟨c :: body, left, passed, rfl, rfl,
          .plain closing backslash (absurd rfl) inside, behind⟩

/-- What stands before the parenthesis that the search finds closes all that were open. -/
theorem of_splitClosing (found : splitClosing depth none false text = some (before, after)) :
    Closes depth before := by
  -- By the length of the text, since a string is passed over as a whole.
  induction n : text.length using Nat.strong_induction_on generalizing text before depth with
  | _ n ih =>
    subst n
    cases text with
    | nil => exact nomatch found
    | cons c text =>
      have shorter : text.length < (c :: text).length := by simp
      by_cases unpaired : isUnpaired c = true
      · rw [splitClosing_plain depth text unpaired] at found
        obtain ⟨⟨passed, _⟩, more, ⟨⟩⟩ := Option.map_eq_some_iff.mp found
        exact .append (.plain unpaired (absurd rfl) .nil) (ih _ shorter more rfl)
      by_cases isQuote : c = '"' ∨ c = '\''
      · rw [splitClosing_quote depth text isQuote] at found
        obtain ⟨⟨passed, _⟩, more, ⟨⟩⟩ := Option.map_eq_some_iff.mp found
        obtain ⟨body, left, passed, rfl, rfl, inside, behind⟩ := of_splitClosing_string more
        have shorter : left.length < (c :: (body ++ c :: left)).length := by simp; omega
        have rest := ih _ shorter behind rfl
        simpa using Closes.append (.string isQuote inside .nil) rest
      by_cases opening : c = '('
      · subst opening
        rw [splitClosing_open] at found
        obtain ⟨⟨passed, _⟩, more, ⟨⟩⟩ := Option.map_eq_some_iff.mp found
        exact (ih _ shorter more rfl).open
      have closing : c = ')' := by
        by_contra other
        exact unpaired (by simp_all [isUnpaired])
      subst closing
      cases depth with
      | zero =>
        rw [splitClosing_close_zero] at found
        obtain ⟨⟩ := found
        exact .none .nil
      | succ depth =>
        rw [splitClosing_close_succ] at found
        obtain ⟨⟨passed, _⟩, more, ⟨⟩⟩ := Option.map_eq_some_iff.mp found
        exact Closes.one .nil (ih _ shorter more rfl)

/-- The search loses nothing but the parenthesis it finds. -/
theorem eq_append_of_splitClosing {quoted : Option Char} {escaped : Bool}
    (found : splitClosing depth quoted escaped text = some (before, after)) :
    text = before ++ ')' :: after := by
  induction text generalizing depth quoted escaped before with
  | nil => exact nomatch found
  | cons c text ih =>
    have later {depth : Nat} {quoted : Option Char} {escaped : Bool}
        (found : ((splitClosing depth quoted escaped text).map fun r => (c :: r.1, r.2)) =
          some (before, after)) : c :: text = before ++ ')' :: after := by
      obtain ⟨⟨passed, _⟩, more, ⟨⟩⟩ := Option.map_eq_some_iff.mp found
      rw [ih more, List.cons_append]
    -- In each branch the character is passed on, except for the parenthesis that is found.
    unfold splitClosing at found
    grind

/-- The parenthesis that the search finds is the one behind a balanced text, if there is one. -/
theorem splitClosing_eq_some_iff :
    splitClosing 0 none false text = some (before, after) ↔
      text = before ++ ')' :: after ∧ Balanced .scan before := by
  constructor
  · intro found
    cases of_splitClosing found with
    | none balanced => exact ⟨eq_append_of_splitClosing found, balanced⟩
  · rintro ⟨rfl, balanced⟩
    rw [splitClosing_balanced balanced, splitClosing_close_zero]
    simp

/-! ### The argument of a host -/

/-- A selector for the host is the class, and behind it what its parentheses hold and what follows
them. -/
theorem scopedSelector_hostArgument {inner rest : String} (balanced : Balanced .scan inner.toList)
    (scopeId : String) :
    scopedSelector ("." ++ scopeId) (":host(" ++ inner ++ ")" ++ rest) =
      "." ++ scopeId ++ trim inner ++ rest := by
  have noScope : isScoped ("." ++ scopeId) (":host(" ++ inner ++ ")" ++ rest) = false := by
    simp [isScoped, dropStart?, dropStartChars?, String.toList_append]
  have noContext : hasStart (":host(" ++ inner ++ ")" ++ rest) ":host-context" = false := by
    simp [hasStart, String.toList_append, List.isPrefixOf]
  have host : dropStart? (":host(" ++ inner ++ ")" ++ rest) ":host" =
      some ("(" ++ inner ++ ")" ++ rest) := by
    rw [← dropStart?_append ":host"]
    simp [← String.append_assoc]
  have found : splitClosing 0 none false (inner ++ ")" ++ rest).toList =
      some (inner.toList, rest.toList) :=
    splitClosing_eq_some_iff.mpr ⟨by simp [String.toList_append], balanced⟩
  have arguments : ("(" ++ inner ++ ")" ++ rest).toList = '(' :: (inner ++ ")" ++ rest).toList := by
    simp [String.toList_append]
  simp only [scopedSelector, noScope, noContext, host, hostSelector, arguments, found]
  simp

/-- The search finds the parenthesis behind the argument of a host exactly if the argument is
balanced with escapes outside of strings left out of account. What it holds and what follows it then
stand behind the class. It is so for all arguments in which no quotes and parentheses are escaped
outside of strings. -/
theorem hostArgument_found_iff (inner rest : String) :
    (splitClosing 0 none false (inner ++ ")" ++ rest).toList = some (inner.toList, rest.toList) ↔
      Balanced .scan inner.toList) ∧
    (Balanced .scan inner.toList → ∀ scopeId,
      scopedSelector ("." ++ scopeId) (":host(" ++ inner ++ ")" ++ rest) =
        "." ++ scopeId ++ trim inner ++ rest) ∧
    (Balanced .tame inner.toList →
      Balanced .sheet inner.toList ∧ Balanced .scan inner.toList) := by
  refine ⟨?_, scopedSelector_hostArgument, fun tame => ⟨tame.sheet, tame.scan⟩⟩
  rw [splitClosing_eq_some_iff]
  exact and_iff_right (by simp [String.toList_append])

/-- An attribute with a parenthesis and an escaped quote in its string, and an escape in a class. -/
theorem hostArgument_found_iff_labelled :
    Balanced .tame "[t=\")\\\"\"]:not(.a\\+)".toList ∧
      Balanced .sheet "[t=\")\\\"\"]:not(.a\\+)".toList ∧
      splitClosing 0 none false "[t=\")\\\"\"]:not(.a\\+)) p".toList =
        some ("[t=\")\\\"\"]:not(.a\\+)".toList, " p".toList) ∧
      scopedSelector ".s1" ":host([t=\")\\\"\"]:not(.a\\+)) p" =
        ".s1[t=\")\\\"\"]:not(.a\\+) p" := by
  have inside : InString .tame '"' [')', '\\', '"'] :=
    .plain (by decide) (by decide) (by decide) (.escape .nil)
  have string : Balanced .tame ("[t=".toList ++ '"' :: ([')', '\\', '"'] ++ '"' :: [])) :=
    .append (.of_all (by decide)) (.string (.inl rfl) inside .nil)
  have added : Balanced .tame (".a".toList ++ '\\' :: '+' :: []) :=
    .append (.of_all (by decide)) (.escape nofun (by decide) (by decide) .nil)
  have negation : Balanced .tame ("]:not".toList ++ '(' :: (".a\\+".toList ++ ')' :: [])) :=
    .append (.of_all (by decide)) (.group added .nil)
  have tame : Balanced .tame "[t=\")\\\"\"]:not(.a\\+)".toList := string.append negation
  have arguments := hostArgument_found_iff "[t=\")\\\"\"]:not(.a\\+)" " p"
  obtain ⟨sheet, scan⟩ := arguments.2.2 tame
  exact ⟨tame, sheet, arguments.1.mpr scan, arguments.2.1 scan "s1"⟩

/-- An escaped parenthesis ends the argument for the search, and what is behind it goes to the rest.
A string is printed with its parenthesis escaped, if it is a name otherwise. -/
theorem exists_hostArgument_cut :
    Balanced .sheet ".a\\)b".toList ∧ ¬ Balanced .scan ".a\\)b".toList ∧
      splitClosing 0 none false ".a\\)b)".toList = some (".a\\".toList, "b)".toList) ∧
      scopeSheet "s1" ":host(.a\\)b)\x7bcolor:red\x7d" = .ok ".s1.a\\b)\x7bcolor:red\x7d" ∧
      scopeSheet "s1" ":host([title=\")\"]) p\x7bcolor:red\x7d" =
        .ok ".s1[title=\\]) p\x7bcolor:red\x7d" := by
  have found : splitClosing 0 none false ".a\\)b)".toList = some (".a\\".toList, "b)".toList) := by
    decide
  refine ⟨?_, fun scan => ?_, found, by decide +kernel, by decide +kernel⟩
  · exact .plain (by decide) (by decide) (.plain (by decide) (by decide)
      (.escape nofun (by decide) nofun (.plain (by decide) (by decide) .nil)))
  · have whole := splitClosing_balanced scan 0 ")".toList
    exact absurd (found.symm.trans whole) (by decide)

end ComponentMarkup.Style
