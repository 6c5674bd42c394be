import ComponentMarkup.Style.Token

/-!
# Parts of style sheets

The tokens of a style sheet, with what stands in brackets gathered into blocks. A bracket that is
never closed ends with the text; a closing bracket that closes nothing is a token like others.

## Main definitions

* `Style.Part` — a token or a block
* `Style.partsOf` — the parts of a text
* `Style.significant` — the parts that are neither blanks nor comments
* `Style.sourceOf` — the text that parts were read from
-/

namespace ComponentMarkup.Style

/-- The kinds of blocks. -/
inductive Bracket
  | paren
  | square
  | curly
  | function (name : String)
  deriving DecidableEq

/-- A token or a block, each with the text it was read from. -/
inductive Part
  | token (t : Token) (text : List Char)
  | block (bracket : Bracket) (opening : List Char) (inside : List Part) (closing : List Char)

instance : Inhabited Part := ⟨.token .blank []⟩

/-! ### Building -/

/-- The block that a token opens. -/
def opened? : Token → Option Bracket
  | .openParen => some .paren
  | .openSquare => some .square
  | .openCurly => some .curly
  | .function name => some (.function name)
  | _ => none

/-- Whether a token closes a block. -/
def closes : Token → Bracket → Bool
  | .closeParen, .paren => true
  | .closeParen, .function _ => true
  | .closeSquare, .square => true
  | .closeCurly, .curly => true
  | _, _ => false

/-- An open block: how it was opened, and the parts before it, the nearest first. -/
structure OpenBlock where
  bracket : Bracket
  opening : List Char
  before : List Part

/-- Closes a block around the parts in it; they and the result have the nearest first. -/
def OpenBlock.close (b : OpenBlock) (inside : List Part) (closing : List Char) : List Part :=
  .block b.bracket b.opening inside.reverse closing :: b.before

/-- Gathers tokens into parts, inside of open blocks, the innermost first, after the parts gathered
so far, the nearest first. -/
def gather (stack : List OpenBlock) (parts : List Part) : List Lexeme → List Part
  | [] => (stack.foldl (fun inside b => b.close inside []) parts).reverse
  | l :: rest =>
    match opened? l.token with
    | some bracket => gather (⟨bracket, l.text, parts⟩ :: stack) [] rest
    | none =>
      match stack with
      | b :: outer =>
        if closes l.token b.bracket then gather outer (b.close parts l.text) rest
        else gather stack (.token l.token l.text :: parts) rest
      | [] => gather stack (.token l.token l.text :: parts) rest

/-- The parts of a text. -/
def partsOf (text : String) : List Part := gather [] [] (lexemes text)

/-! ### Looking at parts -/

mutual

/-- The text that a part was read from. -/
def Part.source : Part → List Char
  | .token _ text => text
  | .block _ opening inside closing => opening ++ sourceOf inside ++ closing
termination_by structural p => p

/-- The text that parts were read from. -/
def sourceOf : List Part → List Char
  | [] => []
  | p :: ps => p.source ++ sourceOf ps
termination_by structural ps => ps

end

/-- Whether a part is a blank or a comment. -/
def Part.isGap : Part → Bool
  | .token .blank _ => true
  | .token .comment _ => true
  | _ => false

/-- Whether a part is a blank. -/
def Part.isBlank : Part → Bool
  | .token .blank _ => true
  | _ => false

/-- Whether a part is a comment. -/
def Part.isComment : Part → Bool
  | .token .comment _ => true
  | _ => false

/-- Whether a part is a token that no value may have. -/
def Part.isBroken : Part → Bool
  | .token .broken _ => true
  | .token .closeParen _ => true
  | .token .closeSquare _ => true
  | .token .closeCurly _ => true
  | _ => false

/-- Whether a part is a semicolon. -/
def Part.isSemicolon : Part → Bool
  | .token .semicolon _ => true
  | _ => false

/-- Whether a part is a comma. -/
def Part.isComma : Part → Bool
  | .token .comma _ => true
  | _ => false

/-- Whether a part is a block in curly brackets. -/
def Part.isCurly : Part → Bool
  | .block .curly _ _ _ => true
  | _ => false

/-- Whether a part is an exclamation mark. -/
def Part.isBang : Part → Bool
  | .token (.delim c) _ => c == '!'
  | _ => false

/-- The parts without the blanks and comments between them. -/
def significant (parts : List Part) : List Part := parts.filter (!·.isGap)

/-- The parts without the comments between them. -/
def withoutComments (parts : List Part) : List Part := parts.filter (!·.isComment)

/-- The parts without the blanks and comments at the start. -/
def dropGaps (parts : List Part) : List Part := parts.dropWhile Part.isGap

/-- Whether no part, at any depth, is a token that no value may have; `depth` is how far to look. -/
def isSound : Nat → List Part → Bool
  | 0, _ => true
  | depth + 1, parts => parts.all fun p =>
    match p with
    | .block _ _ inside _ => isSound depth inside
    | p => !p.isBroken

end ComponentMarkup.Style
