import ComponentMarkup.Entries
import ComponentMarkup.Error
import ComponentMarkup.Project.Path

/-!
# References

Files refer to each other by relative paths, by paths from the root, or by an alias for a
directory, as in `npm:package`. A reference to a directory means the file in it of the same name.

## Main definitions

* `Resolver` — the known aliases and the extension of component files
* `Resolver.resolve` — the canonical path that a reference means
-/

namespace ComponentMarkup

/-- The known aliases, and the extension of component files. -/
structure Resolver where
  aliases : Entries String
  extension : String

namespace Resolver

/-- The extension of component files unless another is chosen. -/
def defaultExtension : String := ".webc"

/-- A resolver for aliases, which may be written with the `:` that follows them, and an extension,
which may be written without its dot. The alias `npm` is always known. -/
def ofAliases (aliases : Entries String) (extension : String) : Resolver :=
  { aliases := Entries.ofPairs (("npm", "node_modules") :: aliases.map fun (name, target) =>
      (String.ofList (dropEndWhile (· == ':') name.toList), target))
    extension :=
      if hasStart extension "." || extension == "" then extension else "." ++ extension }

/-- A resolver without aliases of its own. -/
def standard : Resolver := ofAliases [] defaultExtension

/-- Characters of an alias. -/
def isAliasChar (c : Char) : Bool :=
  c.isAlpha || c.isDigit || c == '-' || c == '_' || c == '@'

/-- The alias at the start of a reference, and what follows it. One letter before a `:` is no
alias but a drive. -/
def cutAlias? (reference : String) : Option (String × String) :=
  match cut? [':'] reference.toList with
  | some (name, rest) =>
    if name.length > 1 && name.all isAliasChar then some (String.ofList name, String.ofList rest)
    else none
  | none => none

/-- The path from the root that a reference spells, before it is normalized. -/
def spelled (r : Resolver) (reference : String) (source : Option String) : Except String String :=
  match cutAlias? reference with
  | some (name, rest) =>
    match r.aliases.get? name with
    | some target => .ok (target ++ "/" ++ rest)
    | none => .error ("unknown alias `" ++ name ++ ":`")
  | none =>
    match dropStart? reference "/" with
    | some rest => .ok rest
    | none =>
      let place := (source.map Path.parent).getD ""
      .ok (if place == "" then reference else place ++ "/" ++ reference)

/-- The file that a canonical path means: that of the same name if it is a directory. -/
def complete (r : Resolver) (path : String) : String :=
  let name := Path.fileName path
  if name.toList.contains '.' then path else path ++ "/" ++ name ++ r.extension

/-- The canonical path that a reference means in a file. -/
def resolve (r : Resolver) (reference : String) (source : Option String) : Compiled String :=
  let invalid (reason : String) : Compiled String := .error (.invalidReference reference reason)
  match r.spelled (trim reference) source with
  | .error reason => invalid reason
  | .ok path =>
    match Path.normalize? path with
    | none => invalid (Path.escapeReason path)
    | some key => if key == "" then invalid "empty reference" else .ok (r.complete key)

end Resolver

end ComponentMarkup
