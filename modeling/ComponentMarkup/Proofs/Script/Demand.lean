import ComponentMarkup.Script.Evaluate

/-!
# What an expression demands of the data

A name is looked up in the frames of variables first, and in the data only if no frame has it.
Where a name certainly is a variable follows from the syntax: the parameters of a function are in
its body, and what a declaration binds is in the statements after it. All other names are demanded
of the data, also those that are variables somewhere else in the expression. Patterns demand
nothing, since defaults and computed keys are never evaluated, and neither do the expressions that
are refused.

## Main definitions

* `Demand` — a name, or all data
* `Pattern.names`, `Stmt.declared` — the names that patterns and statements bind
* `Expr.demands` and its companions — what is demanded where some names are variables

## Main results

* `Expr.areRead_demands` — a name that is demanded is one that is read
-/

namespace ComponentMarkup.Script

/-- What evaluation needs of the data. -/
inductive Demand
  | name (id : String)
  /-- All data, as a record. -/
  | data
  deriving DecidableEq

/-! ### Names that are bound -/

mutual

/-- The names that a pattern binds. -/
def Pattern.names : Pattern → List String
  | .name id => [id]
  | .object properties rest => targetsNames properties ++ optionPatternNames rest
  | .array elements rest => slotsNames elements ++ optionPatternNames rest
  | .withDefault target _ => target.names
termination_by structural p => p

def optionPatternNames : Option Pattern → List String
  | none => []
  | some p => p.names
termination_by structural p => p

def targetsNames : List Target → List String
  | [] => []
  | t :: ts => t.names ++ targetsNames ts
termination_by structural ts => ts

def Target.names : Target → List String
  | .named _ target => target.names
  | .computed _ _ target => target.names
termination_by structural t => t

def slotsNames : List Slot → List String
  | [] => []
  | s :: ss => s.names ++ slotsNames ss
termination_by structural ss => ss

def Slot.names : Slot → List String
  | .hole => []
  | .target p => p.names
termination_by structural s => s

end

/-- The names that the parameters of a call bind. -/
def paramsNames : List Param → List String
  | [] => []
  | .mk target _ :: ps => target.names ++ paramsNames ps

/-- The names that a variable of a declaration binds. -/
def Declarator.names : Declarator → List String
  | .mk target _ => target.names

/-- The names that are bound after a statement. What the branches of a condition or a block bind
is not. -/
def Stmt.declared : Stmt → List String
  | .declare ds => ds.flatMap Declarator.names
  | _ => []

/-! ### Demands -/

mutual

/-- What an expression demands where some names are variables. -/
def Expr.demands (bound : List String) : Expr → List Demand
  | .null => []
  | .bool _ => []
  | .number _ => []
  | .text _ => []
  | .template parts => partsDemands bound parts
  | .name id => if id ∈ bound then [] else [.name id]
  | .this => [.data]
  | .array elements => elementsDemands bound elements
  | .object properties => propertiesDemands bound properties
  | .member object _ _ => object.demands bound
  | .index object key _ => object.demands bound ++ key.demands bound
  | .chain body => body.demands bound
  | .call _ callee arguments _ => callee.demands bound ++ argumentsDemands bound arguments
  | .unary _ operand => operand.demands bound
  | .binary _ left right => left.demands bound ++ right.demands bound
  | .logical _ left right => left.demands bound ++ right.demands bound
  | .conditional test consequent alternate =>
    test.demands bound ++ consequent.demands bound ++ alternate.demands bound
  | .paren body => body.demands bound
  | .await operand => operand.demands bound
  | .sequence items => exprsDemands bound items
  | .function _ f => f.demands bound
  | .assign _ _ _ _ => []
  | .foreign _ _ => []
termination_by structural e => e

def exprsDemands (bound : List String) : List Expr → List Demand
  | [] => []
  | e :: es => e.demands bound ++ exprsDemands bound es
termination_by structural es => es

def optionDemands (bound : List String) : Option Expr → List Demand
  | none => []
  | some e => e.demands bound
termination_by structural e => e

def partsDemands (bound : List String) : List Part → List Demand
  | [] => []
  | p :: ps => p.demands bound ++ partsDemands bound ps
termination_by structural ps => ps

def Part.demands (bound : List String) : Part → List Demand
  | .text _ => []
  | .value e => e.demands bound
termination_by structural p => p

def elementsDemands (bound : List String) : List Element → List Demand
  | [] => []
  | e :: es => e.demands bound ++ elementsDemands bound es
termination_by structural es => es

def Element.demands (bound : List String) : Element → List Demand
  | .item e => e.demands bound
  | .spread e => e.demands bound
  | .hole => []
termination_by structural e => e

def propertiesDemands (bound : List String) : List Property → List Demand
  | [] => []
  | p :: ps => p.demands bound ++ propertiesDemands bound ps
termination_by structural ps => ps

def Property.demands (bound : List String) : Property → List Demand
  | .named _ value => value.demands bound
  | .computed key value => key.demands bound ++ value.demands bound
  | .spread e => e.demands bound
termination_by structural p => p

def argumentsDemands (bound : List String) : List Argument → List Demand
  | [] => []
  | a :: as => a.demands bound ++ argumentsDemands bound as
termination_by structural as => as

def Argument.demands (bound : List String) : Argument → List Demand
  | .value _ e => e.demands bound
  | .spread e => e.demands bound
termination_by structural a => a

/-- What the body of a function demands. A rest parameter and the function's own name are bound by
no call. -/
def Function.demands (bound : List String) : Function → List Demand
  | .mk _ params _ body => body.demands (paramsNames params ++ bound)
termination_by structural f => f

def Body.demands (bound : List String) : Body → List Demand
  | .expr e => e.demands bound
  | .block ss => stmtsDemands bound ss
termination_by structural b => b

/-- What statements demand, each with what those before it bind. -/
def stmtsDemands (bound : List String) : List Stmt → List Demand
  | [] => []
  | s :: ss => s.demands bound ++ stmtsDemands (s.declared ++ bound) ss
termination_by structural ss => ss

def Stmt.demands (bound : List String) : Stmt → List Demand
  | .declare ds => declaratorsDemands bound ds
  | .expr e => e.demands bound
  | .ret value => optionDemands bound value
  | .cond test consequent alternate =>
    test.demands bound ++ consequent.demands bound ++ optionStmtDemands bound alternate
  | .block ss => stmtsDemands bound ss
  | .empty => []
  | .foreign _ _ => []
termination_by structural s => s

def optionStmtDemands (bound : List String) : Option Stmt → List Demand
  | none => []
  | some s => s.demands bound
termination_by structural s => s

/-- What a declaration demands, each variable with those before it. -/
def declaratorsDemands (bound : List String) : List Declarator → List Demand
  | [] => []
  | d :: ds => d.demands bound ++ declaratorsDemands (d.names ++ bound) ds
termination_by structural ds => ds

def Declarator.demands (bound : List String) : Declarator → List Demand
  | .mk _ value => optionDemands bound value
termination_by structural d => d

end

/-! ### Demands are read -/

/-- Every name of some demands is among the names read. -/
def AreRead (demands : List Demand) (mentions : List Mention) : Prop :=
  ∀ id, .name id ∈ demands → .read id ∈ mentions

namespace AreRead

variable {ds ds' : List Demand} {ms ms' : List Mention}

theorem nil : AreRead [] ms := fun _ listed => nomatch listed

theorem append (first : AreRead ds ms) (rest : AreRead ds' ms') :
    AreRead (ds ++ ds') (ms ++ ms') := by
  intro id listed
  rcases List.mem_append.mp listed with here | later
  · exact List.mem_append_left ms' (first id here)
  · exact List.mem_append_right ms (rest id later)

theorem after (more : AreRead ds ms) (ms' : List Mention) : AreRead ds (ms' ++ ms) :=
  fun id listed => List.mem_append_right ms' (more id listed)

end AreRead

mutual

/-- A name that an expression demands is one that it reads. -/
theorem Expr.areRead_demands (bound : List String) (e : Expr) :
    AreRead (e.demands bound) e.mentions := by
  cases e with
  | template parts => exact areRead_partsDemands bound parts
  | name id =>
    intro other listed
    unfold Expr.demands at listed
    split at listed
    · exact nomatch listed
    · obtain rfl : other = id := by simpa using listed
      exact List.mem_singleton_self _
  | this => exact fun _ listed => nomatch List.mem_singleton.mp listed
  | array elements => exact areRead_elementsDemands bound elements
  | object properties => exact areRead_propertiesDemands bound properties
  | member object key optional => exact object.areRead_demands bound
  | index object key optional =>
    exact (object.areRead_demands bound).append (key.areRead_demands bound)
  | chain body => exact body.areRead_demands bound
  | call text callee arguments optional =>
    exact (callee.areRead_demands bound).append (areRead_argumentsDemands bound arguments)
  | unary op operand => exact operand.areRead_demands bound
  | binary op left right => exact (left.areRead_demands bound).append (right.areRead_demands bound)
  | logical op left right => exact (left.areRead_demands bound).append (right.areRead_demands bound)
  | conditional test consequent alternate =>
    exact ((test.areRead_demands bound).append (consequent.areRead_demands bound)).append
      (alternate.areRead_demands bound)
  | paren body => exact body.areRead_demands bound
  | await operand => exact operand.areRead_demands bound
  | sequence items => exact areRead_exprsDemands bound items
  | function source f => exact f.areRead_demands bound
  | _ => exact .nil
termination_by structural e

theorem areRead_exprsDemands (bound : List String) (es : List Expr) :
    AreRead (exprsDemands bound es) (exprsMentions es) := by
  cases es with
  | nil => exact .nil
  | cons e es => exact (e.areRead_demands bound).append (areRead_exprsDemands bound es)
termination_by structural es

theorem areRead_optionDemands (bound : List String) (e : Option Expr) :
    AreRead (optionDemands bound e) (optionMentions e) := by
  cases e with
  | none => exact .nil
  | some e => exact e.areRead_demands bound
termination_by structural e

theorem areRead_partsDemands (bound : List String) (ps : List Part) :
    AreRead (partsDemands bound ps) (partsMentions ps) := by
  cases ps with
  | nil => exact .nil
  | cons p ps => exact (p.areRead_demands bound).append (areRead_partsDemands bound ps)
termination_by structural ps

theorem Part.areRead_demands (bound : List String) (p : Part) :
    AreRead (p.demands bound) p.mentions := by
  cases p with
  | text value => exact .nil
  | value e => exact e.areRead_demands bound
termination_by structural p

theorem areRead_elementsDemands (bound : List String) (es : List Element) :
    AreRead (elementsDemands bound es) (elementsMentions es) := by
  cases es with
  | nil => exact .nil
  | cons e es => exact (e.areRead_demands bound).append (areRead_elementsDemands bound es)
termination_by structural es

theorem Element.areRead_demands (bound : List String) (e : Element) :
    AreRead (e.demands bound) e.mentions := by
  cases e with
  | item e => exact e.areRead_demands bound
  | spread e => exact e.areRead_demands bound
  | hole => exact .nil
termination_by structural e

theorem areRead_propertiesDemands (bound : List String) (ps : List Property) :
    AreRead (propertiesDemands bound ps) (propertiesMentions ps) := by
  cases ps with
  | nil => exact .nil
  | cons p ps => exact (p.areRead_demands bound).append (areRead_propertiesDemands bound ps)
termination_by structural ps

theorem Property.areRead_demands (bound : List String) (p : Property) :
    AreRead (p.demands bound) p.mentions := by
  cases p with
  | named key value => exact value.areRead_demands bound
  | computed key value => exact (key.areRead_demands bound).append (value.areRead_demands bound)
  | spread e => exact e.areRead_demands bound
termination_by structural p

theorem areRead_argumentsDemands (bound : List String) (as : List Argument) :
    AreRead (argumentsDemands bound as) (argumentsMentions as) := by
  cases as with
  | nil => exact .nil
  | cons a as => exact (a.areRead_demands bound).append (areRead_argumentsDemands bound as)
termination_by structural as

theorem Argument.areRead_demands (bound : List String) (a : Argument) :
    AreRead (a.demands bound) a.mentions := by
  cases a with
  | value source e => exact e.areRead_demands bound
  | spread e => exact e.areRead_demands bound
termination_by structural a

theorem Function.areRead_demands (bound : List String) (f : Function) :
    AreRead (f.demands bound) f.mentions := by
  cases f with
  | mk name params rest body => exact (body.areRead_demands (paramsNames params ++ bound)).after _
termination_by structural f

theorem Body.areRead_demands (bound : List String) (b : Body) :
    AreRead (b.demands bound) b.mentions := by
  cases b with
  | expr e => exact e.areRead_demands bound
  | block ss => exact areRead_stmtsDemands bound ss
termination_by structural b

theorem areRead_stmtsDemands (bound : List String) (ss : List Stmt) :
    AreRead (stmtsDemands bound ss) (stmtsMentions ss) := by
  cases ss with
  | nil => exact .nil
  | cons s ss =>
    exact (s.areRead_demands bound).append (areRead_stmtsDemands (s.declared ++ bound) ss)
termination_by structural ss

theorem Stmt.areRead_demands (bound : List String) (s : Stmt) :
    AreRead (s.demands bound) s.mentions := by
  cases s with
  | declare ds => exact areRead_declaratorsDemands bound ds
  | expr e => exact e.areRead_demands bound
  | ret value => exact areRead_optionDemands bound value
  | cond test consequent alternate =>
    exact ((test.areRead_demands bound).append (consequent.areRead_demands bound)).append
      (areRead_optionStmtDemands bound alternate)
  | block ss => exact areRead_stmtsDemands bound ss
  | empty => exact .nil
  | foreign source mentions => exact .nil
termination_by structural s

theorem areRead_optionStmtDemands (bound : List String) (s : Option Stmt) :
    AreRead (optionStmtDemands bound s) (optionStmtMentions s) := by
  cases s with
  | none => exact .nil
  | some s => exact s.areRead_demands bound
termination_by structural s

theorem areRead_declaratorsDemands (bound : List String) (ds : List Declarator) :
    AreRead (declaratorsDemands bound ds) (declaratorsMentions ds) := by
  cases ds with
  | nil => exact .nil
  | cons d ds =>
    exact (d.areRead_demands bound).append (areRead_declaratorsDemands (d.names ++ bound) ds)
termination_by structural ds

theorem Declarator.areRead_demands (bound : List String) (d : Declarator) :
    AreRead (d.demands bound) d.mentions := by
  cases d with
  | mk target value => exact (areRead_optionDemands bound value).after _
termination_by structural d

end

end ComponentMarkup.Script
