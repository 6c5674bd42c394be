import ComponentMarkup.Text.Search

/-!
# Patterns of paths

In a pattern `?` stands for a character and `*` for any run of them, neither crossing a `/`; `**`
stands for any number of directories; brackets list characters and ranges.

## Main definitions

* `Glob` — a pattern
* `Glob.read` — reads a pattern
* `Glob.matches` — whether a path fits a pattern
-/

namespace ComponentMarkup

/-- A character or a range of characters in brackets. -/
inductive GlobChoice
  | single (c : Char)
  | range (low high : Char)
  deriving DecidableEq

/-- The parts of a pattern. -/
inductive GlobToken
  | literal (c : Char)
  | anyChar
  | anyOf (choices : List GlobChoice)
  | noneOf (choices : List GlobChoice)
  | run
  | directories
  deriving DecidableEq

/-- Why a text is no pattern, and where, counted in characters. -/
structure GlobFailure where
  position : Nat
  reason : String

/-- The text of a failure. -/
def GlobFailure.message (f : GlobFailure) : String :=
  "Pattern syntax error near position " ++ toString f.position ++ ": " ++ f.reason

/-- A pattern. -/
abbrev Glob := List GlobToken

namespace Glob

/-! ### Reading -/

/-- The choices in brackets. -/
def choices : List Char → List GlobChoice
  | a :: '-' :: b :: rest => .range a b :: choices rest
  | a :: rest => .single a :: choices rest
  | [] => []

/-- Reads brackets after the opening one: whether they exclude, what they list, and the rest. The
first character listed may be the closing bracket. -/
def readBrackets? (cs : List Char) : Option (Bool × List Char × List Char) :=
  let read (isExcluding : Bool) : List Char → Option (Bool × List Char × List Char)
    | c :: rest =>
      match rest.dropWhile (· != ']') with
      | _ :: after => some (isExcluding, c :: rest.takeWhile (· != ']'), after)
      | [] => none
    | [] => none
  match cs with
  | '!' :: rest => read true rest
  | _ => read false cs

/-- Whether stars that stand for directories begin a segment. -/
def beginsSegment (before : Option Char) : Bool := before.isNone || before == some '/'

/-- Reads the tokens of a pattern from a position on; `before` is the character read last. Of
stars for directories that follow each other the later ones count for nothing, unless they are
the first two tokens. At most `steps` tokens are read. -/
def readFrom (steps : Nat) (position : Nat) (before : Option Char) (done : List GlobToken)
    (cs : List Char) : Except GlobFailure Glob :=
  match steps, cs with
  | 0, _ => .ok done.reverse
  | _, [] => .ok done.reverse
  | steps + 1, c :: rest =>
    if c == '?' then readFrom steps (position + 1) (some c) (.anyChar :: done) rest
    else if c == '*' then
      let count := (cs.takeWhile (· == '*')).length
      let after := cs.drop count
      if count > 2 then
        .error ⟨position + 2, "wildcards are either regular `*` or recursive `**`"⟩
      else if count == 2 then
        let reason := "recursive wildcards must form a single path component"
        if !beginsSegment before then .error ⟨position - 1, reason⟩
        else
          let next := if done.length > 1 && done.head? == some .directories then done
            else .directories :: done
          match after with
          | [] => .ok next.reverse
          | '/' :: more => readFrom steps (position + 3) (some '/') next more
          | _ => .error ⟨position + 2, reason⟩
      else readFrom steps (position + 1) (some c) (.run :: done) after
    else if c == '[' then
      match readBrackets? rest with
      | none => .error ⟨position, "invalid range pattern"⟩
      | some (isExcluding, listed, after) =>
        let token := if isExcluding then GlobToken.noneOf (choices listed)
          else .anyOf (choices listed)
        readFrom steps (position + (cs.length - after.length)) (some ']') (token :: done) after
    else readFrom steps (position + 1) (some c) (.literal c :: done) rest

/-- Reads a pattern. -/
def read (pattern : String) : Except GlobFailure Glob :=
  readFrom pattern.length 0 none [] pattern.toList

/-! ### Matching -/

/-- Whether a character is one of the choices. -/
def isChosen (choices : List GlobChoice) (c : Char) : Bool :=
  choices.any fun
    | .single d => c == d
    | .range low high => low ≤ c && c ≤ high

/-- Whether a token that stands for one character stands for this one. -/
def accepts (token : GlobToken) (c : Char) : Bool :=
  match token with
  | .literal d => c == d
  | .anyChar => c != '/'
  | .anyOf choices => c != '/' && isChosen choices c
  | .noneOf choices => c != '/' && !isChosen choices c
  | .run => false
  | .directories => false

/-- Whether the rest fits after some run without `/`. -/
def afterRun (fits : List Char → Bool) : List Char → Bool
  | [] => fits []
  | c :: rest => fits (c :: rest) || (c != '/' && afterRun fits rest)

/-- Whether the rest fits after some number of directories, or at the end. -/
def afterDirectories (fits : List Char → Bool) (isAtStart : Bool) : List Char → Bool
  | [] => fits []
  | c :: rest => (isAtStart && fits (c :: rest)) || afterDirectories fits (c == '/') rest

/-- Whether a text fits the tokens. -/
def fits : Glob → List Char → Bool
  | [], cs => cs.isEmpty
  | .run :: tokens, cs => afterRun (fits tokens) cs
  | .directories :: tokens, cs => afterDirectories (fits tokens) true cs
  | token :: tokens, cs =>
    match cs with
    | c :: rest => accepts token c && fits tokens rest
    | [] => false

/-- Whether a path fits a pattern. -/
def matchesPath (g : Glob) (path : String) : Bool := fits g path.toList

end Glob

end ComponentMarkup
