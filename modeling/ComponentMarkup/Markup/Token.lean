import ComponentMarkup.Markup.Tag

/-!
# Tokens of markup

Markup is a sequence of texts, comments, document types and tags. How the next one is read depends
on the element that was opened last: the content of some elements holds no tags but their own end.

## Main definitions

* `Markup.Token` — texts, comments, document types, start tags and end tags
* `Markup.Scan` — the ways of reading
* `Markup.nextToken?` — the first token and the rest

## Main results

* `Markup.length_of_nextToken?` — every token takes part of the markup away
-/

namespace ComponentMarkup.Markup

/-- What a document type declaration says. -/
structure Declaration where
  name : String
  publicId : Option String
  systemId : Option String
  isMalformed : Bool
  deriving DecidableEq

/-- The tokens of markup. A text may be empty; it stands for markup without effect. -/
inductive Token
  | text (chars : List Char)
  | comment (value : String)
  | doctype (declaration : Declaration)
  | startTag (tag : Tag)
  | endTag (tag : Tag)
  deriving DecidableEq

/-- The ways of reading: tags and references, references only, neither, the content of a script,
and text to the end. In an element's content only its own end tag is a tag. -/
inductive Scan
  | data
  | references (name : List Char)
  | raw (name : List Char)
  | script
  | plain
  deriving DecidableEq

/-! ### Comments -/

/-- The text of a comment after its opening, up to the first `-->` or `--!>`. At the end of the
markup a begun ending is left out. -/
def commentBody : List Char → List Char × List Char
  | [] => ([], [])
  | ['-'] => ([], [])
  | ['-', '-'] => ([], [])
  | ['-', '-', '!'] => ([], [])
  | '-' :: '-' :: '>' :: rest => ([], rest)
  | '-' :: '-' :: '!' :: '>' :: rest => ([], rest)
  | c :: rest =>
    let (body, after) := commentBody rest
    (c :: body, after)

/-- Reads a comment after `<!--`. -/
def readComment : List Char → List Char × List Char
  | '>' :: rest => ([], rest)
  | '-' :: '>' :: rest => ([], rest)
  | cs => commentBody cs

/-- Reads what is taken for a comment: the text up to `>`. -/
def readBogusComment (cs : List Char) : List Char × List Char :=
  (cs.takeWhile (· != '>'), (cs.dropWhile (· != '>')).drop 1)

/-- The token of a comment's text. -/
def commentToken (read : List Char × List Char) : Token × List Char :=
  (.comment (String.ofList (mend read.1)), read.2)

/-! ### Document types -/

namespace Declaration

/-- The identifiers of a declaration, whether it is malformed, and the rest after its `>`. -/
abbrev Tail := Option (List Char) × Option (List Char) × Bool × List Char

/-- Skips to the end of a declaration. -/
def skip (cs : List Char) : List Char := (cs.dropWhile (· != '>')).drop 1

/-- Reads an identifier after its opening quote: its text, whether its closing quote was found, and
the rest. A `>` ends it early. -/
def readIdentifier (quote : Char) (cs : List Char) : List Char × Bool × List Char :=
  let inner (c : Char) := c != quote && c != '>'
  match cs.dropWhile inner with
  | [] => (cs.takeWhile inner, false, [])
  | c :: rest => (cs.takeWhile inner, c == quote, if c == quote then rest else c :: rest)

/-- Reads what follows the system identifier. -/
def readEnd (publicId systemId : Option (List Char)) (cs : List Char) : Tail :=
  match cs.dropWhile isSpace with
  | [] => (publicId, systemId, true, [])
  | '>' :: rest => (publicId, systemId, false, rest)
  | rest => (publicId, systemId, false, skip rest)

/-- Reads the system identifier; `isNeeded` if a keyword announced it. -/
def readSystem (publicId : Option (List Char)) (isNeeded : Bool) (cs : List Char) : Tail :=
  match cs.dropWhile isSpace with
  | [] => (publicId, none, true, [])
  | '>' :: rest => (publicId, none, isNeeded, rest)
  | c :: rest =>
    if c == '"' || c == '\'' then
      match readIdentifier c rest with
      | (systemId, true, after) => readEnd publicId (some systemId) after
      | (systemId, false, after) => (publicId, some systemId, true, skip after)
    else (publicId, none, true, skip (c :: rest))

/-- Reads the public identifier and what follows it. -/
def readPublic (cs : List Char) : Tail :=
  match cs.dropWhile isSpace with
  | [] => (none, none, true, [])
  | '>' :: rest => (none, none, true, rest)
  | c :: rest =>
    if c == '"' || c == '\'' then
      match readIdentifier c rest with
      | (publicId, true, after) => readSystem (some publicId) false after
      | (publicId, false, after) => (some publicId, none, true, skip after)
    else (none, none, true, skip (c :: rest))

/-- Reads what follows the name. -/
def readTail (cs : List Char) : Tail :=
  match cs.dropWhile isSpace with
  | [] => (none, none, true, [])
  | '>' :: rest => (none, none, false, rest)
  | rest =>
    match dropStartNoCase? "public".toList rest with
    | some after => readPublic after
    | none =>
      match dropStartNoCase? "system".toList rest with
      | some after => readSystem none true after
      | none => (none, none, true, skip rest)

/-- A declaration of the parts. -/
def ofTail (name : List Char) (tail : Tail) : Token × List Char :=
  let (publicId, systemId, isMalformed, rest) := tail
  let text (cs : List Char) := String.ofList (mend cs)
  (.doctype ⟨String.ofList (foldName name), publicId.map text, systemId.map text, isMalformed⟩, rest)

/-- Reads a declaration after `<!doctype`. -/
def read (cs : List Char) : Token × List Char :=
  match cs.dropWhile isSpace with
  | [] => ofTail [] (none, none, true, [])
  | '>' :: rest => ofTail [] (none, none, true, rest)
  | c :: rest =>
    let inName (c : Char) := !(isSpace c || c == '>')
    ofTail (c :: rest.takeWhile inName) (readTail (rest.dropWhile inName))

end Declaration

/-! ### Declarations -/

/-- Reads literal text up to `]]>`. -/
def readLiteral : List Char → List Char × List Char
  | [] => ([], [])
  | ']' :: ']' :: '>' :: rest => ([], rest)
  | c :: rest =>
    let (body, after) := readLiteral rest
    (c :: body, after)

/-- Reads what follows `<!`. Literal sections are known only outside of HTML elements. -/
def readDeclaration (hasLiterals : Bool) (cs : List Char) : Token × List Char :=
  match dropStartNoCase? "--".toList cs with
  | some rest => commentToken (readComment rest)
  | none =>
    match dropStartNoCase? "doctype".toList cs with
    | some rest => Declaration.read rest
    | none =>
      match cs with
      | '[' :: 'C' :: 'D' :: 'A' :: 'T' :: 'A' :: '[' :: rest =>
        if hasLiterals then
          let (body, after) := readLiteral rest
          (.text body, after)
        else commentToken (readBogusComment cs)
      | _ => commentToken (readBogusComment cs)

/-! ### Texts -/

/-- Whether something other than text starts here. -/
def opensMarkup : List Char → Bool
  | '<' :: c :: rest => c.isAlpha || c == '!' || c == '?' || (c == '/' && !rest.isEmpty)
  | _ => false

/-- The text up to the next tag, comment or declaration. -/
def textRun : List Char → List Char × List Char
  | [] => ([], [])
  | c :: rest =>
    if opensMarkup (c :: rest) then ([], c :: rest)
    else
      let (run, after) := textRun rest
      (c :: run, after)

/-- Whether the end tag of an element starts here. -/
def isEndTagOf (name cs : List Char) : Bool :=
  match dropStartNoCase? ('<' :: '/' :: name) cs with
  | some (c :: _) => isSpace c || c == '/' || c == '>'
  | _ => false

/-- The content of an element up to its end tag. -/
def rawRun (name : List Char) : List Char → List Char × List Char
  | [] => ([], [])
  | c :: rest =>
    if isEndTagOf name (c :: rest) then ([], c :: rest)
    else
      let (run, after) := rawRun name rest
      (c :: run, after)

/-- Where a script's content stands: outside of a comment, inside of one, or inside of a script
inside of one; in comments with the number of dashes just read, up to two. -/
inductive ScriptState
  | plain
  | comment (dashes : Nat)
  | nested (dashes : Nat)

/-- Whether the text is the word `script` with its end. -/
def startsScriptWord (cs : List Char) : Bool :=
  match dropStartNoCase? "script".toList cs with
  | some (c :: _) => isSpace c || c == '/' || c == '>'
  | _ => false

/-- The state after one character, given what follows it. -/
def ScriptState.next (c : Char) (rest : List Char) : ScriptState → ScriptState
  | .plain => if c == '<' && rest.take 3 == ['!', '-', '-'] then .comment 0 else .plain
  | .comment dashes =>
    if c == '-' then .comment (min 2 (dashes + 1))
    else if c == '<' && startsScriptWord rest then .nested 0
    else if c == '>' && dashes == 2 then .plain
    else .comment 0
  | .nested dashes =>
    if c == '-' then .nested (min 2 (dashes + 1))
    else if c == '<' && rest.head? == some '/' && startsScriptWord (rest.drop 1) then .comment 0
    else if c == '>' && dashes == 2 then .plain
    else .nested 0

/-- Whether an end tag counts. -/
def ScriptState.mayEnd : ScriptState → Bool
  | .nested _ => false
  | _ => true

/-- The content of a script up to its end tag. -/
def scriptRun (state : ScriptState) : List Char → List Char × List Char
  | [] => ([], [])
  | c :: rest =>
    if state.mayEnd && isEndTagOf "script".toList (c :: rest) then ([], c :: rest)
    else
      let (run, after) := scriptRun (state.next c rest) rest
      (c :: run, after)

/-! ### The next token -/

/-- A tag that does not end has no effect and takes the rest with it. -/
def tagToken (make : Tag → Token) (read : Option (Tag × List Char)) : Token × List Char :=
  match read with
  | some (tag, rest) => (make tag, rest)
  | none => (.text [], [])

/-- The end tag of an element, or its content up to there. -/
def contentToken (name : List Char) (run : List Char × List Char) (decode : List Char → List Char)
    (cs : List Char) : Token × List Char :=
  if isEndTagOf name cs then tagToken .endTag (readTag? (cs.drop 2))
  else (.text (decode (mend run.1)), run.2)

/-- The next token where tags are known. -/
def dataToken (hasLiterals : Bool) (cs : List Char) : Token × List Char :=
  let text (_ : Unit) : Token × List Char :=
    let (run, rest) := textRun cs
    (.text (decodeReferences false run), rest)
  if !opensMarkup cs then text ()
  else match cs with
    | '<' :: '/' :: '>' :: rest => (.text [], rest)
    | '<' :: '/' :: c :: rest =>
      if c.isAlpha then tagToken .endTag (readTag? (c :: rest))
      else commentToken (readBogusComment (c :: rest))
    | '<' :: '!' :: rest => readDeclaration hasLiterals rest
    | '<' :: '?' :: rest => commentToken (readBogusComment ('?' :: rest))
    | _ :: rest => tagToken .startTag (readTag? rest)
    | [] => (.text [], [])

/-- The first token and the rest. -/
def nextToken? (scan : Scan) (hasLiterals : Bool) (cs : List Char) : Option (Token × List Char) :=
  if cs.isEmpty then none
  else some <| match scan with
    | .data => dataToken hasLiterals cs
    | .references name => contentToken name (rawRun name cs) (decodeReferences false) cs
    | .raw name => contentToken name (rawRun name cs) id cs
    | .script => contentToken "script".toList (scriptRun .plain cs) id cs
    | .plain => (.text (mend cs), [])

/-! ### Lengths -/

theorem length_commentBody_le (cs : List Char) : (commentBody cs).2.length ≤ cs.length := by
  fun_induction commentBody cs <;> simp_all <;> omega

theorem length_readComment_le (cs : List Char) : (readComment cs).2.length ≤ cs.length := by
  unfold readComment
  split
  · simp
  · simp only [List.length_cons]; omega
  · exact length_commentBody_le _

theorem length_readBogusComment_le (cs : List Char) :
    (readBogusComment cs).2.length ≤ cs.length := by
  have := length_dropWhile_le (· != '>') cs
  simp only [readBogusComment, List.length_drop]
  omega

theorem length_of_dropStartNoCase? {start cs rest : List Char}
    (h : dropStartNoCase? start cs = some rest) : rest.length ≤ cs.length := by
  unfold dropStartNoCase? at h
  split at h
  · simp only [Option.some.injEq] at h
    simp [← h]
  · simp at h

namespace Declaration

theorem length_skip_le (cs : List Char) : (skip cs).length ≤ cs.length := by
  have := length_dropWhile_le (· != '>') cs
  simp only [skip, List.length_drop]
  omega

theorem length_readIdentifier_le (quote : Char) (cs : List Char) :
    (readIdentifier quote cs).2.2.length ≤ cs.length := by
  have := length_dropWhile_le (fun c => c != quote && c != '>') cs
  unfold readIdentifier
  dsimp only
  split
  · simp
  · rename_i c rest heq
    rw [heq, List.length_cons] at this
    dsimp only
    split
    · omega
    · simp only [List.length_cons]
      omega

theorem length_readEnd_le (publicId systemId : Option (List Char)) (cs : List Char) :
    (readEnd publicId systemId cs).2.2.2.length ≤ cs.length := by
  have := length_dropWhile_le isSpace cs
  unfold readEnd
  split
  · simp
  · rename_i rest heq
    rw [heq, List.length_cons] at this
    dsimp only
    omega
  · exact Nat.le_trans (length_skip_le _) this

theorem length_readSystem_le (publicId : Option (List Char)) (isNeeded : Bool) (cs : List Char) :
    (readSystem publicId isNeeded cs).2.2.2.length ≤ cs.length := by
  have bound := length_dropWhile_le isSpace cs
  unfold readSystem
  split
  · simp
  · rename_i rest heq
    rw [heq, List.length_cons] at bound
    dsimp only
    omega
  · rename_i c rest _ heq
    rw [heq, List.length_cons] at bound
    have hid := length_readIdentifier_le c rest
    split
    · split
      · rename_i hr
        simp only [hr] at hid
        exact Nat.le_trans (length_readEnd_le _ _ _) (by omega)
      · rename_i hr
        simp only [hr] at hid
        exact Nat.le_trans (length_skip_le _) (by omega)
    · exact Nat.le_trans (length_skip_le _) bound

theorem length_readPublic_le (cs : List Char) : (readPublic cs).2.2.2.length ≤ cs.length := by
  have bound := length_dropWhile_le isSpace cs
  unfold readPublic
  split
  · simp
  · rename_i rest heq
    rw [heq, List.length_cons] at bound
    dsimp only
    omega
  · rename_i c rest _ heq
    rw [heq, List.length_cons] at bound
    have hid := length_readIdentifier_le c rest
    split
    · split
      · rename_i hr
        simp only [hr] at hid
        exact Nat.le_trans (length_readSystem_le _ _ _) (by omega)
      · rename_i hr
        simp only [hr] at hid
        exact Nat.le_trans (length_skip_le _) (by omega)
    · exact Nat.le_trans (length_skip_le _) bound

theorem length_readTail_le (cs : List Char) : (readTail cs).2.2.2.length ≤ cs.length := by
  have bound := length_dropWhile_le isSpace cs
  unfold readTail
  split
  · simp
  · rename_i rest heq
    rw [heq, List.length_cons] at bound
    dsimp only
    omega
  · split
    · rename_i hp
      exact Nat.le_trans (length_readPublic_le _)
        (Nat.le_trans (length_of_dropStartNoCase? hp) bound)
    · split
      · rename_i hs
        exact Nat.le_trans (length_readSystem_le _ _ _)
          (Nat.le_trans (length_of_dropStartNoCase? hs) bound)
      · exact Nat.le_trans (length_skip_le _) bound

theorem length_read_le (cs : List Char) : (read cs).2.length ≤ cs.length := by
  have bound := length_dropWhile_le isSpace cs
  unfold read
  split
  · simp [ofTail]
  · rename_i rest heq
    rw [heq, List.length_cons] at bound
    simp only [ofTail]
    omega
  · rename_i c rest _ heq
    rw [heq, List.length_cons] at bound
    simp only [ofTail]
    refine Nat.le_trans (length_readTail_le _) (Nat.le_trans (length_dropWhile_le _ _) ?_)
    omega

end Declaration

theorem length_readLiteral_le (cs : List Char) : (readLiteral cs).2.length ≤ cs.length := by
  fun_induction readLiteral cs <;> simp_all <;> omega

theorem length_readDeclaration_le (hasLiterals : Bool) (cs : List Char) :
    (readDeclaration hasLiterals cs).2.length ≤ cs.length := by
  unfold readDeclaration
  split
  · rename_i rest h
    exact Nat.le_trans (length_readComment_le rest) (length_of_dropStartNoCase? h)
  · split
    · rename_i rest h
      exact Nat.le_trans (Declaration.length_read_le rest) (length_of_dropStartNoCase? h)
    · split
      · rename_i rest _ _
        split
        · have := length_readLiteral_le rest
          simp only [List.length_cons]
          omega
        · exact length_readBogusComment_le _
      · exact length_readBogusComment_le _

theorem length_textRun_lt {c : Char} {rest : List Char} (h : opensMarkup (c :: rest) = false) :
    (textRun (c :: rest)).2.length < (c :: rest).length := by
  have le (cs : List Char) : (textRun cs).2.length ≤ cs.length := by
    fun_induction textRun cs <;> simp_all <;> omega
  have := le rest
  simp only [textRun, h, Bool.false_eq_true, if_false, List.length_cons]
  omega

theorem length_rawRun_lt {name : List Char} {c : Char} {rest : List Char}
    (h : isEndTagOf name (c :: rest) = false) :
    (rawRun name (c :: rest)).2.length < (c :: rest).length := by
  have le (cs : List Char) : (rawRun name cs).2.length ≤ cs.length := by
    fun_induction rawRun name cs <;> simp_all <;> omega
  have := le rest
  simp only [rawRun, h, Bool.false_eq_true, if_false, List.length_cons]
  omega

theorem length_scriptRun_lt {state : ScriptState} {c : Char} {rest : List Char}
    (h : isEndTagOf "script".toList (c :: rest) = false) :
    (scriptRun state (c :: rest)).2.length < (c :: rest).length := by
  have le (state : ScriptState) (cs : List Char) : (scriptRun state cs).2.length ≤ cs.length := by
    fun_induction scriptRun state cs <;> simp_all <;> omega
  have := le (state.next c rest) rest
  simp only [scriptRun, h, Bool.and_false, Bool.false_eq_true, if_false, List.length_cons]
  omega

theorem length_tagToken_lt {make : Tag → Token} {cs : List Char} (n : Nat) (h : cs.length ≤ n)
    (hn : 0 < n) : (tagToken make (readTag? cs)).2.length < n := by
  unfold tagToken
  split
  · rename_i heq
    exact Nat.lt_of_lt_of_le (length_of_readTag? heq) h
  · simpa using hn

theorem length_contentToken_lt {name : List Char} {run : List Char × List Char}
    {decode : List Char → List Char} {cs : List Char} (hc : cs ≠ [])
    (h : isEndTagOf name cs = false → run.2.length < cs.length) :
    (contentToken name run decode cs).2.length < cs.length := by
  have pos : 0 < cs.length := List.length_pos_iff.mpr hc
  unfold contentToken
  split
  · exact length_tagToken_lt _ (by simp) pos
  · rename_i he
    exact h (by simpa using he)

theorem length_dataToken_lt {hasLiterals : Bool} {cs : List Char} (hc : cs ≠ []) :
    (dataToken hasLiterals cs).2.length < cs.length := by
  have pos : 0 < cs.length := List.length_pos_iff.mpr hc
  unfold dataToken
  dsimp only
  split
  · rename_i ho
    cases cs with
    | nil => exact absurd rfl hc
    | cons c rest => exact length_textRun_lt (by simpa using ho)
  · split
    · simp only [List.length_cons]; omega
    · split
      · exact length_tagToken_lt _ (by simp only [List.length_cons]; omega) pos
      · refine Nat.lt_of_le_of_lt (length_readBogusComment_le _) ?_
        simp only [List.length_cons]
        omega
    · refine Nat.lt_of_le_of_lt (length_readDeclaration_le _ _) ?_
      simp only [List.length_cons]
      omega
    · refine Nat.lt_of_le_of_lt (length_readBogusComment_le _) ?_
      simp only [List.length_cons]
      omega
    · exact length_tagToken_lt _ (by simp only [List.length_cons]; omega) pos
    · simp at pos

/-- Every token takes part of the markup away. -/
theorem length_of_nextToken? {scan : Scan} {hasLiterals : Bool} {cs : List Char} {token : Token}
    {rest : List Char} (h : nextToken? scan hasLiterals cs = some (token, rest)) :
    rest.length < cs.length := by
  unfold nextToken? at h
  split at h
  · simp at h
  · rename_i hc
    have hne : cs ≠ [] := by simpa using hc
    simp only [Option.some.injEq] at h
    have hr := congrArg (fun p : Token × List Char => p.2) h
    dsimp only at hr
    rw [← hr]
    obtain ⟨c, r, rfl⟩ := List.exists_cons_of_ne_nil hne
    cases scan with
    | data => exact length_dataToken_lt hne
    | references name => exact length_contentToken_lt hne length_rawRun_lt
    | raw name => exact length_contentToken_lt hne length_rawRun_lt
    | script => exact length_contentToken_lt hne length_scriptRun_lt
    | plain => simp

end ComponentMarkup.Markup
