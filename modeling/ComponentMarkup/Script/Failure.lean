import ComponentMarkup.Value

/-!
# Failures of evaluation

Why an expression or a script gives no value.

## Main definitions

* `Script.Failure` — the causes
* `Script.Failure.kind` — ungrammatical text, a failure while evaluating, or a construct
  outside what is evaluated
* `Script.Failure.message` — the text of a failure
-/

namespace ComponentMarkup.Script

/-- Why an expression or a script gives no value. -/
inductive Failure
  | ungrammatical
  | notIterable (kind : String)
  | notFunction (name : String)
  | notDefined (name : String)
  /-- A property was read of a value that is not there. -/
  | readOfNothing (key : String)
  /-- `in` was asked of a value without names. -/
  | notSearchable (kind : String)
  | helperFailed (name reason : String)
  | callbackFailed (reason : String)
  | noCallback (method : String)
  | repeatCount (count : String)
  | repeatTooLong
  | malformedJson
  /-- A construct outside what is evaluated, with its source text. -/
  | unsupported (source : String)
  | unsupportedOperator (operator : String)
  | defaultInPattern
  | computedKeyInPattern
  | defaultDeclaration
  deriving DecidableEq

/-- The three kinds of failure. -/
inductive FailureKind
  | grammar
  | runtime
  | unsupported
  deriving DecidableEq

/-- The kind of a failure. -/
def Failure.kind : Failure → FailureKind
  | .ungrammatical => .grammar
  | .unsupported _ => .unsupported
  | .unsupportedOperator _ => .unsupported
  | .defaultInPattern => .unsupported
  | .computedKeyInPattern => .unsupported
  | .defaultDeclaration => .unsupported
  | _ => .runtime

/-- A source text between backticks. -/
def quoteSource (source : String) : String := "\x60" ++ source ++ "\x60"

/-- What a failure says apart from its kind. -/
def Failure.detail : Failure → String
  | .ungrammatical => "the text is not in the grammar"
  | .notIterable kind => kind ++ " is not iterable"
  | .notFunction name => name ++ " is not a function"
  | .notDefined name => name ++ " is not defined"
  | .readOfNothing key => "Cannot read properties of undefined (reading '" ++ key ++ "')"
  | .notSearchable kind => "Cannot use 'in' operator to search in " ++ kind
  | .helperFailed name reason => name ++ ": " ++ reason
  | .callbackFailed reason => reason
  | .noCallback method => method ++ " requires a callback"
  | .repeatCount count => "invalid repeat count " ++ count
  | .repeatTooLong => "repeat result exceeds the maximum string length"
  | .malformedJson => "JSON.parse: the text is not JSON"
  | .unsupported source => quoteSource source
  | .unsupportedOperator operator => "operator " ++ quoteSource operator
  | .defaultInPattern => "default values in bindings"
  | .computedKeyInPattern => "computed destructuring key"
  | .defaultDeclaration => "default export declaration"

/-- The text of a failure. -/
def Failure.message (f : Failure) : String :=
  match f.kind with
  | .grammar => "Syntax error: " ++ f.detail
  | .runtime => f.detail
  | .unsupported => "Unsupported syntax: " ++ f.detail

end ComponentMarkup.Script
