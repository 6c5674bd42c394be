import ComponentMarkup.Script.Failure
import ComponentMarkup.Text.Word

/-!
# Errors of compilation

Every way in which a compilation can fail. An error keeps what it is about; its text is computed
from that.

## Main definitions

* `CompileError` — the causes
* `CompileError.message` — the text of an error
* `CompileError.code`, `CompileError.hint` — its stable code, and what to do about it
* `CompileError.cause?` — what went wrong underneath
-/

namespace ComponentMarkup

/-- Why a compilation fails. -/
inductive CompileError
  /-- A component uses another that already uses it. -/
  | circular (owner target : String)
  /-- Two components claim one scope id. -/
  | scopeCollision (scopeId first second : String)
  | unregistered (path : String)
  | invalidReference (reference reason : String)
  /-- A later member of a conditional chain that has no first one. -/
  | orphaned (directive file : String)
  /-- An element with several directives for its content. -/
  | conflictingContent (tag : String) (directives : List String) (file : String)
  /-- An expression or script, where it stood, and why it gave no value. -/
  | evaluation (context source file : String) (cause : Script.Failure)
  /-- A loop whose value names no source. -/
  | malformedLoop (value file : String)
  | notIterable (expression found file : String)
  | parse (file reason : String)
  | unreadable (path reason : String)
  | transform (name reason file : String)
  | unknownTransform (name file : String)
  deriving DecidableEq

namespace CompileError

/-- The directives of a conflict, as a list in brackets. -/
def directiveList (directives : List String) : String :=
  "[" ++ ", ".intercalate (directives.map fun d => "\"" ++ d ++ "\"") ++ "]"

/-- What an evaluation error says. A text that is ungrammatical and mentions `class` gets advice
on how to read the attribute of that name. -/
def evaluationMessage (context source file : String) (cause : Script.Failure) : String :=
  if cause.kind == .grammar && hasWord "class" source then
    "Error parsing `" ++ source ++ "` in `" ++ file ++ "`: `class` is a reserved word. " ++
      "Use `webc.attributes.class` to read the class attribute instead."
  else
    "Evaluating " ++ context ++ " `" ++ source ++ "` in `" ++ file ++ "` failed: " ++ cause.message

/-- The text of an error. -/
def message : CompileError → String
  | circular owner target =>
    "Circular dependency error: `" ++ owner ++ "` cannot use `" ++ target ++ "` because `" ++
      target ++ "` already depends on it"
  | scopeCollision scopeId first second =>
    "Scope id `" ++ scopeId ++ "` is claimed by both `" ++ first ++ "` and `" ++ second ++ "`"
  | unregistered path => "Component at `" ++ path ++ "` is not registered"
  | invalidReference reference reason => "Invalid reference `" ++ reference ++ "`: " ++ reason
  | orphaned directive file =>
    "`" ++ directive ++ "` has no preceding `webc:if` or `webc:elseif` sibling in `" ++ file ++ "`"
  | conflictingContent tag directives file =>
    "`<" ++ tag ++ ">` in `" ++ file ++ "` uses more than one of " ++ directiveList directives ++
      "; only one content directive is allowed"
  | evaluation context source file cause => evaluationMessage context source file cause
  | malformedLoop value file =>
    "Invalid `webc:for` value `" ++ value ++ "` in `" ++ file ++
      "`: expected `<bindings> of <source>` or `<bindings> in <source>`"
  | notIterable expression found file =>
    "`" ++ expression ++ "` in `" ++ file ++ "` is not iterable (got " ++ found ++ ")"
  | parse file reason => "Failed to parse `" ++ file ++ "`: " ++ reason
  | unreadable path reason => "Failed to read `" ++ path ++ "`: " ++ reason
  | transform name reason file =>
    "Transform `" ++ name ++ "` failed in `" ++ file ++ "`: " ++ reason
  | unknownTransform name file =>
    "Unknown transform `" ++ name ++ "` requested by `webc:type` in `" ++ file ++ "`"

/-- The stable code of an error. -/
def code : CompileError → String
  | circular .. => "W-ERR-CIRCULAR"
  | scopeCollision .. => "W-ERR-SCOPE-COLLISION"
  | unregistered .. => "W-ERR-UNREGISTERED"
  | invalidReference .. => "W-ERR-REFERENCE"
  | orphaned .. => "W-ERR-ORPHAN"
  | conflictingContent .. => "W-ERR-CONTENT-CONFLICT"
  | evaluation .. => "W-ERR-EVAL"
  | malformedLoop .. => "W-ERR-EVAL"
  | notIterable .. => "W-ERR-NOT-ITERABLE"
  | parse .. => "W-ERR-PARSE"
  | unreadable .. => "W-ERR-IO"
  | transform .. => "W-ERR-TRANSFORM"
  | unknownTransform .. => "W-ERR-UNKNOWN-TRANSFORM"

/-- What to do about an error. -/
def hint : CompileError → String
  | circular .. => "Components may not use themselves, directly or through another component."
  | scopeCollision .. =>
    "Each `webc:scoped` override value must be unique to one component file."
  | unregistered .. => "Components must be precompiled before they are instantiated."
  | invalidReference .. =>
    "Imports must resolve inside the project root through a known alias."
  | orphaned .. =>
    "`webc:else` and `webc:elseif` must directly follow a conditional sibling."
  | conflictingContent .. =>
    "Use only one of `@html`, `@text` or `@raw` on a single element."
  | evaluation .. => "Check the expression against the data available to this component."
  | malformedLoop .. => "Check the expression against the data available to this component."
  | notIterable .. => "Check the expression against the data available to this component."
  | parse .. => "The source could not be parsed."
  | unreadable .. => "The source file could not be read."
  | transform .. =>
    "Register the transform with `Compiler::set_transform` before compiling."
  | unknownTransform .. =>
    "Register the transform with `Compiler::set_transform` before compiling."

/-- What a loop without a source lacks. -/
def loopCause : String := "missing ` of ` or ` in ` separator"

/-- What went wrong underneath: why an expression or script gave no value, or what the value of a
loop lacks. -/
def cause? : CompileError → Option String
  | evaluation _ _ _ cause => some cause.message
  | malformedLoop .. => some loopCause
  | _ => none

/-- Errors of evaluation are those with a cause. -/
theorem isSome_cause?_iff (e : CompileError) : e.cause?.isSome ↔ e.code = "W-ERR-EVAL" := by
  cases e <;> simp [cause?, code]

end CompileError

/-- A result, or why there is none. -/
abbrev Compiled (α : Type) := Except CompileError α

namespace Compiled

variable {ε α β : Type} {r : Except ε α} {b : β}

/-- What follows a result has one only if the result is there. -/
theorem bind_eq_ok {f : α → Except ε β} : r >>= f = .ok b ↔ ∃ a, r = .ok a ∧ f a = .ok b := by
  cases r with
  | error e => simp [bind, Except.bind]
  | ok a => simp [bind, Except.bind]

theorem map_eq_ok {f : α → β} : r.map f = .ok b ↔ ∃ a, r = .ok a ∧ f a = b := by
  cases r with
  | error e => simp [Except.map]
  | ok a => simp [Except.map]

theorem mapError_eq_ok {ε' : Type} {f : ε → ε'} {a : α} : r.mapError f = .ok a ↔ r = .ok a := by
  cases r with
  | error e => constructor <;> intro h <;> cases h
  | ok b => constructor <;> intro h <;> cases h <;> rfl

/-- Results for all elements of a list are a result for each. -/
theorem mapM_eq_ok {f : α → Except ε β} {as : List α} {bs : List β} :
    as.mapM f = .ok bs ↔ as.map f = bs.map .ok := by
  induction as generalizing bs with
  | nil => cases bs <;> simp [pure, Except.pure]
  | cons a as ih =>
    rw [List.mapM_cons, bind_eq_ok, List.map_cons]
    constructor
    · rintro ⟨b, first, rest⟩
      obtain ⟨bs', others, same⟩ := bind_eq_ok.mp rest
      obtain rfl : b :: bs' = bs := Except.ok.inj same
      rw [first, ih.mp others, List.map_cons]
    · intro same
      obtain ⟨b, bs', rfl, first, others⟩ := List.map_eq_cons_iff.mp same.symm
      exact ⟨b, first.symm, bind_eq_ok.mpr ⟨bs', ih.mpr others.symm, rfl⟩⟩

/-- Results for all elements of a list are missing if one is, and then for the reason of one. -/
theorem mapM_eq_error {f : α → Except ε β} {as : List α} {e : ε} (h : as.mapM f = .error e) :
    ∃ a ∈ as, f a = .error e := by
  induction as with
  | nil => exact nomatch h
  | cons a as ih =>
    rw [List.mapM_cons] at h
    cases first : f a with
    | error e' =>
      rw [first] at h
      obtain rfl : e' = e := Except.error.inj h
      exact ⟨a, List.mem_cons_self, first⟩
    | ok b =>
      rw [first] at h
      cases rest : as.mapM f with
      | error e' =>
        obtain rfl : e' = e := by simpa [rest, bind, Except.bind] using h
        obtain ⟨a', listed, fails⟩ := ih rest
        exact ⟨a', List.mem_cons_of_mem a listed, fails⟩
      | ok bs => simp [rest, bind, Except.bind, pure, Except.pure] at h

/-- The reason why results are missing is that of the first element without one. -/
theorem mapM_eq_error_iff {f : α → Except ε β} {as : List α} {e : ε} :
    as.mapM f = .error e ↔
      ∃ (i : Nat) (a : α), as[i]? = some a ∧ f a = .error e ∧
        ∀ j < i, ∀ a', as[j]? = some a' → ∀ e', f a' ≠ .error e' := by
  induction as with
  | nil => simp [pure, Except.pure]
  | cons a as ih =>
    rw [List.mapM_cons]
    cases first : f a with
    | error e' =>
      constructor
      · intro failed
        obtain rfl : e' = e := Except.error.inj failed
        exact ⟨0, a, rfl, first, nofun⟩
      · rintro ⟨i, b, listed, failed, earlier⟩
        cases i with
        | zero =>
          obtain rfl : a = b := by simpa using listed
          rw [first] at failed
          obtain rfl : e' = e := Except.error.inj failed
          rfl
        | succ i => exact absurd first (earlier 0 (Nat.succ_pos i) a rfl e')
    | ok b =>
      have rest : (do let b ← Except.ok b; let bs ← as.mapM f; pure (b :: bs)) = .error e ↔
          as.mapM f = .error e := by
        cases as.mapM f <;> simp [bind, Except.bind, pure, Except.pure]
      rw [rest, ih]
      constructor
      · rintro ⟨i, c, listed, failed, earlier⟩
        refine ⟨i + 1, c, listed, failed, fun j lt d found => ?_⟩
        cases j with
        | zero =>
          obtain rfl : a = d := by simpa using found
          simp [first]
        | succ j => exact earlier j (Nat.lt_of_succ_lt_succ lt) d found
      · rintro ⟨i, c, listed, failed, earlier⟩
        cases i with
        | zero =>
          obtain rfl : a = c := by simpa using listed
          exact nomatch first.symm.trans failed
        | succ i =>
          exact ⟨i, c, listed, failed, fun j lt d found =>
            earlier (j + 1) (Nat.succ_lt_succ lt) d found⟩

theorem exists_mapM_eq_error {f : α → Except ε β} {as : List α} {a : α} {e : ε} (listed : a ∈ as)
    (fails : f a = .error e) : ∃ e', as.mapM f = .error e' := by
  cases all : as.mapM f with
  | error e' => exact ⟨e', rfl⟩
  | ok bs =>
    have found : f a ∈ bs.map Except.ok := mapM_eq_ok.mp all ▸ List.mem_map_of_mem listed
    rw [fails] at found
    obtain ⟨b, _, same⟩ := List.mem_map.mp found
    exact nomatch same

theorem eq_ok_of_toOption {a : α} (h : r.toOption = some a) : r = .ok a := by
  cases r with
  | error e => exact nomatch h
  | ok b => exact congrArg Except.ok (Option.some.inj h)

/-- Why a result is missing. -/
def error? : Except ε α → Option ε
  | .error e => some e
  | .ok _ => none

theorem eq_error_of_error? {e : ε} (h : error? r = some e) : r = .error e := by
  cases r with
  | error e' => exact congrArg Except.error (Option.some.inj h)
  | ok a => exact nomatch h

end Compiled

end ComponentMarkup
