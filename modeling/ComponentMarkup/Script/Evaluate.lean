import ComponentMarkup.Cascade
import ComponentMarkup.Script.Builtins
import ComponentMarkup.Script.Grammar

/-!
# Evaluation

Expressions and scripts are evaluated over a cascade of data. Expressions change nothing;
statements add variables to the innermost frame. A function is no value: it can be called where
it stands, by a call or for each item of a list, so that evaluation follows the syntax.

## Main definitions

* `Script.Scope` — frames of variables over a cascade
* `Script.eval` — the value of an expression in a scope
* `Script.exec` — a statement, which may return from the function around it
* `Script.Pattern.bind` — binds the names of a pattern in a frame
* `Script.evaluate`, `Script.evaluateBindings`, `Script.evaluateDefault` — source texts
* `Script.freeNames` — the names that an expression reads from the data
-/

namespace ComponentMarkup.Script

/-- What ends an evaluation early: a failure, or an optional link of a chain that found
nothing. -/
inductive Interrupt
  | failed (failure : Failure)
  | shortCircuit

/-- A value, or what ended its evaluation. -/
abbrev Eval (α : Type) := Except Interrupt α

/-- Ends an evaluation with a failure. -/
def Eval.fail {α : Type} (f : Failure) : Eval α := .error (.failed f)

/-- The result of an operation that may fail. -/
def Eval.of {α : Type} (r : Except Failure α) : Eval α := r.mapError .failed

/-- Frames of variables, the innermost first, over a cascade of data. -/
structure Scope where
  frames : List (Entries Value)
  data : Cascade

namespace Scope

/-- What a name means: in the innermost frame that has it, else in the data. -/
def get? (s : Scope) (name : String) : Option Value :=
  match s.frames.findSome? (Entries.get? name) with
  | some v => some v
  | none => s.data.get? name

/-- The scope with a further frame. -/
def push (s : Scope) (frame : Entries Value) : Scope := { s with frames := frame :: s.frames }

/-- The innermost frame. -/
def top (s : Scope) : Entries Value := s.frames.headD []

/-- The scope with another innermost frame. -/
def withTop (s : Scope) (frame : Entries Value) : Scope :=
  { s with frames := frame :: s.frames.tail }

/-- The scope of a source text over data. -/
def ofData (data : Cascade) : Scope := ⟨[[]], data⟩

end Scope

/-! ### Patterns -/

/-- Takes the value of a name out of the entries that are left: `null` if it is not there. -/
def takeField (key : String) (left : Entries Value) : Value × Entries Value :=
  (Entries.take? key left).getD (.null, left)

mutual

/-- Binds the names of a pattern to the parts of a value. -/
def Pattern.bind : Pattern → Value → Entries Value → Except Failure (Entries Value)
  | .name id, v, frame => .ok (Entries.insert id v frame)
  | .object properties rest, v, frame => do
    let (left, frame) ← bindTargets properties v.fields frame
    bindRest rest (.record left) frame
  | .array elements rest, v, frame => do
    let items := match v with
      | .list items => items
      | .text s => Value.ofChars s.toList
      | _ => []
    let frame ← bindSlots elements items frame
    bindRest rest (.list (items.drop elements.length)) frame
  | .withDefault _ _, _, _ => .error .defaultInPattern
termination_by structural p => p

/-- Binds an optional rest element. -/
def bindRest : Option Pattern → Value → Entries Value → Except Failure (Entries Value)
  | none, _, frame => .ok frame
  | some p, v, frame => p.bind v frame
termination_by structural p => p

/-- Binds the properties of an object pattern; each takes its entry out of those left. -/
def bindTargets : List Target → Entries Value → Entries Value →
    Except Failure (Entries Value × Entries Value)
  | [], left, frame => .ok (left, frame)
  | t :: ts, left, frame => do
    let (left, frame) ← bindTarget t left frame
    bindTargets ts left frame
termination_by structural ts => ts

/-- Binds one property of an object pattern. -/
def bindTarget : Target → Entries Value → Entries Value →
    Except Failure (Entries Value × Entries Value)
  | .named key target, left, frame => do
    let (v, left) := takeField key left
    let frame ← target.bind v frame
    .ok (left, frame)
  | .computed none _ _, _, _ => .error .computedKeyInPattern
  | .computed (some key) _ target, left, frame => do
    let (v, left) := takeField key left
    let frame ← target.bind v frame
    .ok (left, frame)
termination_by structural t => t

/-- Binds the places of an array pattern to the items that are left. -/
def bindSlots : List Slot → List Value → Entries Value → Except Failure (Entries Value)
  | [], _, frame => .ok frame
  | s :: ss, items, frame => do
    let frame ← bindSlot s (items.headD .null) frame
    bindSlots ss items.tail frame
termination_by structural ss => ss

/-- Binds one place of an array pattern. -/
def bindSlot : Slot → Value → Entries Value → Except Failure (Entries Value)
  | .hole, _, frame => .ok frame
  | .target p, v, frame => p.bind v frame
termination_by structural s => s

end

/-- Binds a parameter to its argument. -/
def bindParam : Param → Value → Entries Value → Except Failure (Entries Value)
  | .mk target _, v, frame => target.bind v frame

/-- Binds parameters to arguments; a missing argument is `null`. -/
def bindParams : List Param → List Value → Entries Value → Except Failure (Entries Value)
  | [], _, frame => .ok frame
  | p :: ps, args, frame => do
    let frame ← bindParam p (args.headD .null) frame
    bindParams ps args.tail frame

/-! ### Accesses and calls -/

/-- A property of a value; of nothing, an optional link ends its chain. -/
def access (v : Value) (key : String) (optional : Bool) : Eval Value :=
  if v.isNull then
    if optional then .error .shortCircuit else Eval.fail (.readOfNothing key)
  else .ok (v.property key)

/-- Calls a function by its name: no data may have the name, and helpers go before the functions
that are always there. -/
def callNamed (s : Scope) (name : String) (args : List Value) (optional : Bool) : Eval Value :=
  if !((s.get? name).getD .null).isNull then Eval.fail (.notFunction name)
  else match s.data.helper? name with
    | some helper => Eval.of ((helper args).mapError (.helperFailed name))
    | none =>
      match globalFunction? name args with
      | some v => .ok v
      | none => if optional then .error .shortCircuit else Eval.fail (.notDefined name)

/-- Calls a method of a value with evaluated arguments. -/
def callMethod (object : Value) (method : String) (args : List Value) : Eval Value :=
  Eval.of <| match object with
    | .list items => listMethod items method args
    | .text t => textMethod t method args
    | .number n => numberMethod n.toFloat method args
    | .record fields =>
      if method == "hasOwnProperty" then
        .ok (.bool (Entries.has ((args.head?.map Value.display).getD "") fields))
      else .error (.notFunction (object.kind ++ "." ++ method))
    | v => .error (.notFunction (v.kind ++ "." ++ method))

/-- The entries that a value spreads into an object literal. -/
def spreadFields : Value → Entries Value
  | .record fields => fields
  | .list items => items.zipIdx.map fun (v, i) => (toString i, v)
  | _ => []

/-- Whether the namespace of this name is there and not shadowed by data. -/
def Scope.hasNamespace (s : Scope) (name : String) : Bool :=
  isNamespace name && (s.get? name).isNone

/-- Ends a chain at an optional link that found nothing: the chain is `null`. -/
def closeChain (r : Eval Value) : Eval Value :=
  match r with
  | .error .shortCircuit => .ok .null
  | r => r

/-- The name that an expression is. -/
def Expr.named? : Expr → Option String
  | .name id => some id
  | _ => none

/-- A function that can be called with arguments. -/
abbrev Call := List Value → Eval Value

/-- Calls a method. `space` is the object's name if it is one, `object` its value; the arguments
come as values and, for the methods that call a function for each item, the first one as a
function. A namespace goes before all values. -/
def methodCall (s : Scope) (space : Option String) (object : Eval Value)
    (callback : Option (Eval Call)) (arguments : Eval (List Value)) (method : String)
    (optional : Bool) : Eval Value :=
  match space.filter s.hasNamespace with
  | some space => do
    let args ← arguments
    Eval.of (namespaceMethod space method args)
  | none => do
    let v ← object
    if v.isNull then
      if optional then .error .shortCircuit else Eval.fail (.readOfNothing method)
    else match v, isCallbackMethod method with
      | .list items, true =>
        match callback with
        | none => Eval.fail (.noCallback method)
        | some callback => do
          let call ← callback
          callbackMethod method call 0 [] items
      | v, _ => do
        let args ← arguments
        callMethod v method args

mutual

/-- The value of an expression. -/
def eval (s : Scope) : Expr → Eval Value
  | .null => .ok .null
  | .bool b => .ok (.bool b)
  | .number x => .ok (.ofFloat x)
  | .text t => .ok (.text t)
  | .template parts => do
    let t ← evalParts s parts
    .ok (.text t)
  | .name id => .ok ((s.get? id).getD .null)
  | .this => .ok s.data.toRecord
  | .array elements => do
    let items ← evalElements s elements
    .ok (.list items)
  | .object properties => do
    let fields ← evalProperties s [] properties
    .ok (.record fields)
  | .member object key optional =>
    if object.named? == some "Math" && key == "PI" && (s.get? "Math").isNone then .ok (.ofFloat pi)
    else do
      let v ← eval s object
      access v key optional
  | .index object key optional => do
    let v ← eval s object
    let k ← eval s key
    access v k.display optional
  | .chain body => closeChain (eval s body)
  | .call calleeText callee arguments optional =>
    evalCall s calleeText (callable s callee) (callbackOf s arguments) (evalArguments s arguments)
      optional callee
  | .unary op operand => do
    let v ← eval s operand
    Eval.of (op.apply v)
  | .binary op left right => do
    let a ← eval s left
    let b ← eval s right
    Eval.of (op.apply a b)
  | .logical op left right => do
    let a ← eval s left
    match op with
    | .or => if a.isTruthy then .ok a else eval s right
    | .and => if a.isTruthy then eval s right else .ok a
    | .coalesce => if a.isNull then eval s right else .ok a
  | .conditional test consequent alternate => do
    let v ← eval s test
    if v.isTruthy then eval s consequent else eval s alternate
  | .paren body => eval s body
  | .await operand => eval s operand
  | .sequence items => evalSequence s .null items
  | .function source _ => Eval.fail (.unsupported source)
  | .assign source _ _ _ => Eval.fail (.unsupported source)
  | .foreign source _ => Eval.fail (.unsupported source)
termination_by structural e => e

/-- Calls what a callee names: a function by its name, a method of an object, or a function that
stands in its place. -/
def evalCall (s : Scope) (calleeText : String) (function : Option Call)
    (callback : Option (Eval Call)) (arguments : Eval (List Value)) (optional : Bool) :
    Expr → Eval Value
  | .name id => do
    let args ← arguments
    callNamed s id args optional
  | .member object method optional =>
    methodCall s object.named? (eval s object) callback arguments method optional
  | .index object key optional => do
    let k ← eval s key
    methodCall s object.named? (eval s object) callback arguments k.display optional
  | _ =>
    match function with
    | some call => do
      let args ← arguments
      call args
    | none => Eval.fail (.unsupported calleeText)
termination_by structural e => e

/-- The texts of the pieces of a template, joined. -/
def evalParts (s : Scope) : List Part → Eval String
  | [] => .ok ""
  | p :: ps => do
    let t ← evalPart s p
    let ts ← evalParts s ps
    .ok (t ++ ts)
termination_by structural ps => ps

def evalPart (s : Scope) : Part → Eval String
  | .text t => .ok t
  | .value e => do
    let v ← eval s e
    .ok v.display
termination_by structural p => p

/-- The items of an array literal. -/
def evalElements (s : Scope) : List Element → Eval (List Value)
  | [] => .ok []
  | e :: es => do
    let vs ← evalElement s e
    let more ← evalElements s es
    .ok (vs ++ more)
termination_by structural es => es

def evalElement (s : Scope) : Element → Eval (List Value)
  | .item e => do
    let v ← eval s e
    .ok [v]
  | .spread e => do
    let v ← eval s e
    Eval.of v.toItems
  | .hole => .ok [.null]
termination_by structural e => e

/-- The entries of an object literal, added to those before. -/
def evalProperties (s : Scope) (fields : Entries Value) : List Property → Eval (Entries Value)
  | [] => .ok fields
  | p :: ps => do
    let fields ← evalProperty s fields p
    evalProperties s fields ps
termination_by structural ps => ps

def evalProperty (s : Scope) (fields : Entries Value) : Property → Eval (Entries Value)
  | .named key e => do
    let v ← eval s e
    .ok (Entries.insert key v fields)
  | .computed key e => do
    let k ← eval s key
    let v ← eval s e
    .ok (Entries.insert k.display v fields)
  | .spread e => do
    let v ← eval s e
    .ok (Entries.extend fields (spreadFields v))
termination_by structural p => p

/-- The arguments of a call. -/
def evalArguments (s : Scope) : List Argument → Eval (List Value)
  | [] => .ok []
  | a :: as => do
    let vs ← evalArgument s a
    let more ← evalArguments s as
    .ok (vs ++ more)
termination_by structural as => as

def evalArgument (s : Scope) : Argument → Eval (List Value)
  | .value _ e => do
    let v ← eval s e
    .ok [v]
  | .spread e => do
    let v ← eval s e
    Eval.of v.toItems
termination_by structural a => a

/-- The last value of a sequence, all others evaluated before it. -/
def evalSequence (s : Scope) (last : Value) : List Expr → Eval Value
  | [] => .ok last
  | e :: es => do
    let v ← eval s e
    evalSequence s v es
termination_by structural es => es

/-- The function that the first of a call's arguments gives as a callback; nothing when there is
no such argument. -/
def callbackOf (s : Scope) : List Argument → Option (Eval Call)
  | [] => none
  | a :: _ => argumentCallback s a
termination_by structural as => as

/-- An argument as a callback: a function, or the name of a helper. -/
def argumentCallback (s : Scope) : Argument → Option (Eval Call)
  | .spread _ => none
  | .value source e =>
    match callable s e with
    | some call => some (.ok call)
    | none =>
      match e with
      | .name id =>
        match s.data.helper? id with
        | some helper => some (.ok fun args => Eval.of ((helper args).mapError .callbackFailed))
        | none => some (Eval.fail (.unsupported source))
      | _ => some (Eval.fail (.unsupported source))
termination_by structural a => a

/-- A function that stands where it is called, possibly in parentheses. -/
def callable (s : Scope) : Expr → Option Call
  | .function _ f => some (fun args => invoke s f args)
  | .paren body => callable s body
  | _ => none
termination_by structural e => e

/-- Calls a function: its parameters are bound in a new frame, in which its body is
evaluated. -/
def invoke (s : Scope) : Function → List Value → Eval Value
  | .mk _ params _ body, args => do
    let frame ← Eval.of (bindParams params args [])
    evalBody (s.push frame) body
termination_by structural f => f

/-- The result of a function's body; without `return` it is `null`. -/
def evalBody (s : Scope) : Body → Eval Value
  | .expr e => eval s e
  | .block ss => do
    let (_, returned) ← execAll s ss
    .ok (returned.getD .null)
termination_by structural b => b

/-- Executes statements until one returns. -/
def execAll (s : Scope) : List Stmt → Eval (Scope × Option Value)
  | [] => .ok (s, none)
  | t :: ts => do
    let (s, returned) ← exec s t
    match returned with
    | some v => .ok (s, some v)
    | none => execAll s ts
termination_by structural ts => ts

/-- Executes a statement: the scope after it, and a value if it returns. -/
def exec (s : Scope) : Stmt → Eval (Scope × Option Value)
  | .declare declarators => do
    let s ← declareAll s declarators
    .ok (s, none)
  | .expr e => do
    let _ ← eval s e
    .ok (s, none)
  | .ret value => do
    let v ← evalOption s value
    .ok (s, some v)
  | .cond test consequent alternate => do
    let v ← eval s test
    if v.isTruthy then exec s consequent else execOption s alternate
  | .block ss => do
    let (_, returned) ← execAll (s.push []) ss
    .ok (s, returned)
  | .empty => .ok (s, none)
  | .foreign source _ => Eval.fail (.unsupported source)
termination_by structural t => t

def execOption (s : Scope) : Option Stmt → Eval (Scope × Option Value)
  | none => .ok (s, none)
  | some t => exec s t
termination_by structural t => t

/-- The value of an expression that may be left out. -/
def evalOption (s : Scope) : Option Expr → Eval Value
  | none => .ok .null
  | some e => eval s e
termination_by structural e => e

/-- Declares variables in the innermost frame, one after the other. -/
def declareAll (s : Scope) : List Declarator → Eval Scope
  | [] => .ok s
  | d :: ds => do
    let s ← declare s d
    declareAll s ds
termination_by structural ds => ds

/-- Declares one variable. -/
def declare (s : Scope) : Declarator → Eval Scope
  | .mk target value => do
    let v ← evalOption s value
    let frame ← Eval.of (target.bind v s.top)
    .ok (s.withTop frame)
termination_by structural d => d

end

/-! ### Source texts -/

/-- The outcome of an evaluation: a short circuit outside of every chain gives the default. -/
def finish {α : Type} (default : α) (r : Eval α) : Except Failure α :=
  match r with
  | .ok a => .ok a
  | .error .shortCircuit => .ok default
  | .error (.failed f) => .error f

/-- What running a module leaves: its scope, the value of its last expression, and its default
export. -/
structure ModuleRun where
  scope : Scope
  last : Value
  default : Option Value

/-- The value of a default export: functions are called without arguments. -/
def evalDefault (s : Scope) : DefaultExport → Eval Value
  | .function f => invoke s f []
  | .expr e =>
    match callable s e with
    | some call => call []
    | none => eval s e
  | .other => Eval.fail .defaultDeclaration

/-- Runs one item of a module; its default export is evaluated only when it is asked for. -/
def runItem (wantsDefault : Bool) (run : ModuleRun) : Item → Eval ModuleRun
  | .exportVariables ds => do
    let s ← declareAll run.scope ds
    .ok { run with scope := s }
  | .exportOther source => Eval.fail (.unsupported source)
  | .exportNames => .ok run
  | .exportDefault d =>
    if wantsDefault then do
      let v ← evalDefault run.scope d
      .ok { run with default := some v }
    else .ok run
  | .statement (.expr e) => do
    let v ← eval run.scope e
    .ok { run with last := v }
  | .statement t => do
    let (s, _) ← exec run.scope t
    .ok { run with scope := s }

/-- Runs the items of a module in order. -/
def runModule (wantsDefault : Bool) (data : Cascade) (items : List Item) : Eval ModuleRun :=
  items.foldlM (runItem wantsDefault) ⟨Scope.ofData data, .null, none⟩

/-- What the data gives names, as a frame of variables. -/
def prefetch (names : List String) (data : Cascade) : Entries Value :=
  Entries.ofPairs (names.filterMap fun name => (data.get? name).map fun v => (name, v))

/-- The value of an expression over data; some names are looked up beforehand. -/
def evaluate (text : String) (names : List String) (data : Cascade) : Except Failure Value :=
  match parseExpression? text with
  | none => .error .ungrammatical
  | some e => finish .null (eval ⟨[prefetch names data], data⟩ e)

/-- The variables that a script declares at its top level, with their values. -/
def evaluateBindings (text : String) (data : Cascade) : Except Failure (Entries Value) :=
  match parseModule? text with
  | none => .error .ungrammatical
  | some items => finish [] ((runModule false data items).map fun run => run.scope.top)

/-- The default export of a script, or the value of its last expression. -/
def evaluateDefault (text : String) (data : Cascade) : Except Failure Value :=
  match parseModule? text with
  | none => .error .ungrammatical
  | some items =>
    finish .null ((runModule true data items).map fun run => run.default.getD run.last)

/-! ### Free names -/

/-- Names that the evaluator provides itself. -/
def evaluatorNames : List String :=
  ["Math", "JSON", "String", "Number", "Boolean", "Array", "Object", "undefined", "NaN",
    "Infinity"]

/-- The names that are read and neither bound anywhere nor provided, in the order of their first
use. -/
def freeOf (mentions : List Mention) : List String :=
  (mentions.filterMap fun m => match m with
    | .read name =>
      if mentions.contains (.bound name) || evaluatorNames.contains name then none else some name
    | .bound _ => none).eraseDups

/-- The names that an expression reads from the data. -/
def freeNames (text : String) : Except Failure (List String) :=
  match parseExpression? text with
  | none => .error .ungrammatical
  | some e => .ok (freeOf e.mentions)

end ComponentMarkup.Script
