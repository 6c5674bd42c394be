import ComponentMarkup.Markup.Reference.Named

/-!
# Character references

Text and attribute values write characters as `&amp;`, `&#38;` or `&#x26;`. Reading is forgiving:
what is no reference stands for itself.

## Main definitions

* `Markup.numericChar` — the character of a code point, with the standard's replacements
* `Markup.reference?` — reads the reference after an `&`
* `Markup.decodeReferences` — a text with its references resolved
-/

namespace ComponentMarkup.Markup

/-- ASCII letters and digits. -/
def isAsciiAlphanumeric (c : Char) : Bool := c.isAlpha || c.isDigit

/-! ### Numbers -/

/-- What the numbers from 80 to 9F stand for; zero stands for the code point itself. -/
def controlReplacements : List Nat :=
  [0x20AC, 0, 0x201A, 0x0192, 0x201E, 0x2026, 0x2020, 0x2021, 0x02C6, 0x2030, 0x0160, 0x2039,
    0x0152, 0, 0x017D, 0, 0, 0x2018, 0x2019, 0x201C, 0x201D, 0x2022, 0x2013, 0x2014, 0x02DC,
    0x2122, 0x0161, 0x203A, 0x0153, 0, 0x017E, 0x0178]

/-- The character of a number: zero, surrogates and numbers beyond Unicode give the replacement
character. -/
def numericChar (n : Nat) : Char :=
  if n == 0 || n > 0x10FFFF || (0xD800 ≤ n && n ≤ 0xDFFF) then '\uFFFD'
  else if 0x80 ≤ n && n ≤ 0x9F then
    match controlReplacements[n - 0x80]? with
    | some r => if r == 0 then Char.ofNat n else Char.ofNat r
    | none => Char.ofNat n
  else Char.ofNat n

/-- Leaves out one `;` at the start. -/
def afterSemicolon : List Char → List Char
  | ';' :: rest => rest
  | cs => cs

/-- Reads a number in the given digits. -/
def digitsReference? (isDigitChar : Char → Bool) (value : List Char → Nat) (cs : List Char) :
    Option (List Char × List Char) :=
  let digits := cs.takeWhile isDigitChar
  if digits.isEmpty then none
  else some ([numericChar (value digits)], afterSemicolon (cs.dropWhile isDigitChar))

/-- Reads a number after `&#`. -/
def numericReference? : List Char → Option (List Char × List Char)
  | 'x' :: rest => digitsReference? isHexDigit readHex rest
  | 'X' :: rest => digitsReference? isHexDigit readHex rest
  | cs => digitsReference? Char.isDigit readDecimal cs

/-! ### Names -/

/-- The longest beginning of the name, at most `n` characters, that may stand without a `;`. -/
def looseName? (name : List Char) : Nat → Option (Nat × List Char)
  | 0 => none
  | n + 1 =>
    match named? (String.ofList (name.take (n + 1))) with
    | some ⟨chars, true⟩ => some (n + 1, chars)
    | _ => looseName? name n

/-- Names without a `;` are at most this long. -/
def looseNameLimit : Nat := 6

/-- A name without `;` in an attribute value is none if `=`, a letter or a digit follows. -/
def isContinued (cs : List Char) : Bool :=
  match cs with
  | c :: _ => c == '=' || isAsciiAlphanumeric c
  | [] => false

/-- Reads a name that stands without a `;`. -/
def looseReference? (inAttribute : Bool) (cs : List Char) : Option (List Char × List Char) :=
  let name := cs.takeWhile isAsciiAlphanumeric
  match looseName? name (min looseNameLimit name.length) with
  | some (n, chars) =>
    if inAttribute && isContinued (cs.drop n) then none else some (chars, cs.drop n)
  | none => none

/-- Reads a name after `&`: the whole name with its `;` if there is one, else the longest part
that may stand without. -/
def namedReference? (inAttribute : Bool) (cs : List Char) : Option (List Char × List Char) :=
  match cs.dropWhile isAsciiAlphanumeric with
  | ';' :: after =>
    match named? (String.ofList (cs.takeWhile isAsciiAlphanumeric)) with
    | some found => some (found.chars, after)
    | none => looseReference? inAttribute cs
  | _ => looseReference? inAttribute cs

/-- Reads the reference after an `&`: the characters it stands for and the rest. -/
def reference? (inAttribute : Bool) : List Char → Option (List Char × List Char)
  | '#' :: rest => numericReference? rest
  | cs => namedReference? inAttribute cs

/-! ### Lengths -/

theorem length_dropWhile_le {α : Type} (p : α → Bool) (xs : List α) :
    (xs.dropWhile p).length ≤ xs.length := (List.dropWhile_suffix p).length_le

theorem length_afterSemicolon_le (cs : List Char) : (afterSemicolon cs).length ≤ cs.length := by
  unfold afterSemicolon
  split <;> simp

theorem length_of_digitsReference? {p : Char → Bool} {value : List Char → Nat}
    {cs chars rest : List Char} (h : digitsReference? p value cs = some (chars, rest)) :
    rest.length ≤ cs.length := by
  unfold digitsReference? at h
  dsimp only at h
  split at h
  · simp at h
  · simp only [Option.some.injEq, Prod.mk.injEq] at h
    obtain ⟨-, rfl⟩ := h
    exact Nat.le_trans (length_afterSemicolon_le _) (length_dropWhile_le p cs)

theorem length_of_numericReference? {cs chars rest : List Char}
    (h : numericReference? cs = some (chars, rest)) : rest.length ≤ cs.length := by
  unfold numericReference? at h
  split at h
  · have := length_of_digitsReference? h
    simp only [List.length_cons]
    omega
  · have := length_of_digitsReference? h
    simp only [List.length_cons]
    omega
  · exact length_of_digitsReference? h

theorem length_of_looseReference? {inAttribute : Bool} {cs chars rest : List Char}
    (h : looseReference? inAttribute cs = some (chars, rest)) : rest.length ≤ cs.length := by
  unfold looseReference? at h
  dsimp only at h
  split at h
  · split at h
    · simp at h
    · simp only [Option.some.injEq, Prod.mk.injEq] at h
      obtain ⟨-, rfl⟩ := h
      simp
  · simp at h

theorem length_of_namedReference? {inAttribute : Bool} {cs chars rest : List Char}
    (h : namedReference? inAttribute cs = some (chars, rest)) : rest.length ≤ cs.length := by
  have tail := length_dropWhile_le isAsciiAlphanumeric cs
  unfold namedReference? at h
  split at h
  · rename_i after heq
    split at h
    · simp only [Option.some.injEq, Prod.mk.injEq] at h
      obtain ⟨-, rfl⟩ := h
      rw [heq, List.length_cons] at tail
      omega
    · exact length_of_looseReference? h
  · exact length_of_looseReference? h

/-- What follows a reference is no longer than what follows its `&`. -/
theorem length_of_reference? {inAttribute : Bool} {cs chars rest : List Char}
    (h : reference? inAttribute cs = some (chars, rest)) : rest.length ≤ cs.length := by
  unfold reference? at h
  split at h
  · have := length_of_numericReference? h
    simp only [List.length_cons]
    omega
  · exact length_of_namedReference? h

/-! ### Texts -/

/-- The text with its references resolved, by the rules for attribute values or for texts. -/
def decodeReferences (inAttribute : Bool) : List Char → List Char
  | [] => []
  | c :: rest =>
    if c == '&' then
      match h : reference? inAttribute rest with
      | some (chars, after) => chars ++ decodeReferences inAttribute after
      | none => '&' :: decodeReferences inAttribute rest
    else c :: decodeReferences inAttribute rest
termination_by cs => cs.length
decreasing_by
  · have := length_of_reference? h
    simp only [List.length_cons]
    omega
  all_goals simp

end ComponentMarkup.Markup
