/-!
# Syntax of expressions and scripts

The abstract syntax of JavaScript expressions, and of the statements that scripts are made of.
What the evaluator computes with has a constructor of its own. Everything else that the grammar
admits is `foreign`: its source text, which errors quote, and the names it mentions, which the
analysis of free names needs.

## Main definitions

* `Script.Expr`, `Script.Stmt`, `Script.Pattern`, `Script.Function` — the syntax
* `Script.Item` — what a script holds at its top level
* `Script.Mention` — a name that is read or bound
* `Script.Expr.mentions` and its companions — the names mentioned, in source order
-/

namespace ComponentMarkup.Script

/-- A name in a source text: read as an identifier, or bound by a declaration, a parameter or a
pattern. -/
inductive Mention
  | read (name : String)
  | bound (name : String)
  deriving DecidableEq

/-- Operators before one operand. -/
inductive UnaryOp
  | not
  | negate
  | plus
  | typeOf
  | void
  | complement
  | delete
  deriving DecidableEq

/-- The spelling of an operator. -/
def UnaryOp.text : UnaryOp → String
  | .not => "!"
  | .negate => "-"
  | .plus => "+"
  | .typeOf => "typeof"
  | .void => "void"
  | .complement => "~"
  | .delete => "delete"

/-- Operators between two operands that are both evaluated. -/
inductive BinaryOp
  | add
  | subtract
  | multiply
  | divide
  | remainder
  | power
  | equal
  | notEqual
  | strictEqual
  | strictNotEqual
  | less
  | lessEqual
  | greater
  | greaterEqual
  | isIn
  | instanceOf
  | shiftLeft
  | shiftRight
  | shiftRightZero
  | bitAnd
  | bitOr
  | bitXor
  deriving DecidableEq

/-- The spelling of an operator. -/
def BinaryOp.text : BinaryOp → String
  | .add => "+"
  | .subtract => "-"
  | .multiply => "*"
  | .divide => "/"
  | .remainder => "%"
  | .power => "**"
  | .equal => "=="
  | .notEqual => "!="
  | .strictEqual => "==="
  | .strictNotEqual => "!=="
  | .less => "<"
  | .lessEqual => "<="
  | .greater => ">"
  | .greaterEqual => ">="
  | .isIn => "in"
  | .instanceOf => "instanceof"
  | .shiftLeft => "<<"
  | .shiftRight => ">>"
  | .shiftRightZero => ">>>"
  | .bitAnd => "&"
  | .bitOr => "|"
  | .bitXor => "^"

/-- Operators that may leave their second operand alone. -/
inductive LogicalOp
  | or
  | and
  | coalesce
  deriving DecidableEq

mutual

/-- An expression. -/
inductive Expr
  | null
  | bool (value : Bool)
  | number (value : Float)
  | text (value : String)
  /-- A template without a tag: texts and the expressions between them. -/
  | template (parts : List Part)
  | name (id : String)
  | this
  | array (elements : List Element)
  | object (properties : List Property)
  /-- `object.key`, or `object?.key` when `optional`. -/
  | member (object : Expr) (key : String) (optional : Bool)
  /-- `object[key]`, or `object?.[key]` when `optional`. -/
  | index (object key : Expr) (optional : Bool)
  /-- A whole chain of accesses and calls with an optional link in it. -/
  | chain (body : Expr)
  /-- A call; `calleeText` is the source text of the callee. -/
  | call (calleeText : String) (callee : Expr) (arguments : List Argument) (optional : Bool)
  | unary (op : UnaryOp) (operand : Expr)
  | binary (op : BinaryOp) (left right : Expr)
  | logical (op : LogicalOp) (left right : Expr)
  | conditional (test consequent alternate : Expr)
  | paren (body : Expr)
  | await (operand : Expr)
  | sequence (items : List Expr)
  /-- An arrow function or a function expression; it is no value, but can be called. -/
  | function (source : String) (function : Function)
  /-- An assignment, `compound` when its operator is not `=`; inside a target it gives a
  default. -/
  | assign (source : String) (compound : Bool) (target value : Expr)
  /-- Any other expression of the grammar. -/
  | foreign (source : String) (mentions : List Mention)

/-- A piece of a template. -/
inductive Part
  | text (value : String)
  | value (expr : Expr)

/-- An element of an array literal. -/
inductive Element
  | item (expr : Expr)
  | spread (expr : Expr)
  | hole

/-- A property of an object literal. -/
inductive Property
  | named (key : String) (value : Expr)
  | computed (key value : Expr)
  | spread (expr : Expr)

/-- An argument of a call; `source` is its source text. -/
inductive Argument
  | value (source : String) (expr : Expr)
  | spread (expr : Expr)

/-- An arrow function, a function expression or a function declaration. -/
inductive Function
  | mk (name : Option String) (params : List Param) (rest : Option Pattern) (body : Body)

/-- A parameter and its default value. -/
inductive Param
  | mk (target : Pattern) (default : Option Expr)

/-- The body of a function: an expression, or statements. -/
inductive Body
  | expr (value : Expr)
  | block (statements : List Stmt)

/-- What a declaration or a parameter binds. -/
inductive Pattern
  | name (id : String)
  | object (properties : List Target) (rest : Option Pattern)
  | array (elements : List Slot) (rest : Option Pattern)
  | withDefault (target : Pattern) (default : Expr)

/-- A property of an object pattern. -/
inductive Target
  | named (key : String) (target : Pattern)
  /-- A key in brackets; `literal` is its name when it is a literal. -/
  | computed (literal : Option String) (key : Expr) (target : Pattern)

/-- A place of an array pattern, possibly left out. -/
inductive Slot
  | hole
  | target (pattern : Pattern)

/-- A statement. -/
inductive Stmt
  | declare (declarators : List Declarator)
  | expr (value : Expr)
  | ret (value : Option Expr)
  | cond (test : Expr) (consequent : Stmt) (alternate : Option Stmt)
  | block (statements : List Stmt)
  | empty
  /-- Any other statement of the grammar. -/
  | foreign (source : String) (mentions : List Mention)

/-- One variable of a declaration. -/
inductive Declarator
  | mk (target : Pattern) (value : Option Expr)

end

/-- What a script exports by default. -/
inductive DefaultExport
  | function (function : Function)
  | expr (value : Expr)
  /-- A declaration that is neither. -/
  | other

/-- What a script holds at its top level. -/
inductive Item
  | statement (statement : Stmt)
  | exportVariables (declarators : List Declarator)
  /-- An exported declaration that declares no variables. -/
  | exportOther (source : String)
  /-- A list of exported names. -/
  | exportNames
  | exportDefault (value : DefaultExport)

/-! ### Names mentioned -/

mutual

/-- The names that an expression mentions, in source order. -/
def Expr.mentions : Expr → List Mention
  | .null => []
  | .bool _ => []
  | .number _ => []
  | .text _ => []
  | .template parts => partsMentions parts
  | .name id => [.read id]
  | .this => []
  | .array elements => elementsMentions elements
  | .object properties => propertiesMentions properties
  | .member object _ _ => object.mentions
  | .index object key _ => object.mentions ++ key.mentions
  | .chain body => body.mentions
  | .call _ callee arguments _ => callee.mentions ++ argumentsMentions arguments
  | .unary _ operand => operand.mentions
  | .binary _ left right => left.mentions ++ right.mentions
  | .logical _ left right => left.mentions ++ right.mentions
  | .conditional test consequent alternate =>
    test.mentions ++ consequent.mentions ++ alternate.mentions
  | .paren body => body.mentions
  | .await operand => operand.mentions
  | .sequence items => exprsMentions items
  | .function _ f => f.mentions
  | .assign _ _ target value => target.mentions ++ value.mentions
  | .foreign _ mentions => mentions
termination_by structural e => e

def exprsMentions : List Expr → List Mention
  | [] => []
  | e :: es => e.mentions ++ exprsMentions es
termination_by structural es => es

def optionMentions : Option Expr → List Mention
  | none => []
  | some e => e.mentions
termination_by structural e => e

def partsMentions : List Part → List Mention
  | [] => []
  | p :: ps => p.mentions ++ partsMentions ps
termination_by structural ps => ps

def Part.mentions : Part → List Mention
  | .text _ => []
  | .value e => e.mentions
termination_by structural p => p

def elementsMentions : List Element → List Mention
  | [] => []
  | e :: es => e.mentions ++ elementsMentions es
termination_by structural es => es

def Element.mentions : Element → List Mention
  | .item e => e.mentions
  | .spread e => e.mentions
  | .hole => []
termination_by structural e => e

def propertiesMentions : List Property → List Mention
  | [] => []
  | p :: ps => p.mentions ++ propertiesMentions ps
termination_by structural ps => ps

def Property.mentions : Property → List Mention
  | .named _ value => value.mentions
  | .computed key value => key.mentions ++ value.mentions
  | .spread e => e.mentions
termination_by structural p => p

def argumentsMentions : List Argument → List Mention
  | [] => []
  | a :: as => a.mentions ++ argumentsMentions as
termination_by structural as => as

def Argument.mentions : Argument → List Mention
  | .value _ e => e.mentions
  | .spread e => e.mentions
termination_by structural a => a

/-- The names that a function mentions, its own name and its parameters included. -/
def Function.mentions : Function → List Mention
  | .mk name params rest body =>
    (match name with
      | some id => [.bound id]
      | none => []) ++
      paramsMentions params ++ optionPatternMentions rest ++ body.mentions
termination_by structural f => f

def paramsMentions : List Param → List Mention
  | [] => []
  | p :: ps => p.mentions ++ paramsMentions ps
termination_by structural ps => ps

def Param.mentions : Param → List Mention
  | .mk target default => target.mentions ++ optionMentions default
termination_by structural p => p

def Body.mentions : Body → List Mention
  | .expr e => e.mentions
  | .block ss => stmtsMentions ss
termination_by structural b => b

def optionPatternMentions : Option Pattern → List Mention
  | none => []
  | some p => p.mentions
termination_by structural p => p

/-- The names that a pattern binds and those that its defaults and keys read. -/
def Pattern.mentions : Pattern → List Mention
  | .name id => [.bound id]
  | .object properties rest => targetsMentions properties ++ optionPatternMentions rest
  | .array elements rest => slotsMentions elements ++ optionPatternMentions rest
  | .withDefault target default => target.mentions ++ default.mentions
termination_by structural p => p

def targetsMentions : List Target → List Mention
  | [] => []
  | t :: ts => t.mentions ++ targetsMentions ts
termination_by structural ts => ts

def Target.mentions : Target → List Mention
  | .named _ target => target.mentions
  | .computed _ key target => key.mentions ++ target.mentions
termination_by structural t => t

def slotsMentions : List Slot → List Mention
  | [] => []
  | s :: ss => s.mentions ++ slotsMentions ss
termination_by structural ss => ss

def Slot.mentions : Slot → List Mention
  | .hole => []
  | .target p => p.mentions
termination_by structural s => s

/-- The names that a statement mentions. -/
def Stmt.mentions : Stmt → List Mention
  | .declare declarators => declaratorsMentions declarators
  | .expr e => e.mentions
  | .ret e => optionMentions e
  | .cond test consequent alternate =>
    test.mentions ++ consequent.mentions ++ optionStmtMentions alternate
  | .block ss => stmtsMentions ss
  | .empty => []
  | .foreign _ mentions => mentions
termination_by structural s => s

def stmtsMentions : List Stmt → List Mention
  | [] => []
  | s :: ss => s.mentions ++ stmtsMentions ss
termination_by structural ss => ss

def optionStmtMentions : Option Stmt → List Mention
  | none => []
  | some s => s.mentions
termination_by structural s => s

def declaratorsMentions : List Declarator → List Mention
  | [] => []
  | d :: ds => d.mentions ++ declaratorsMentions ds
termination_by structural ds => ds

def Declarator.mentions : Declarator → List Mention
  | .mk target value => target.mentions ++ optionMentions value
termination_by structural d => d

end

end ComponentMarkup.Script
