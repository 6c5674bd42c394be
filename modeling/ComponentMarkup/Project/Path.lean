import ComponentMarkup.Text.Search

/-!
# Paths

Files are named by paths relative to the project's root. A path is canonical when its segments,
joined by `/`, name the file without detours.

## Main definitions

* `Path.segments` — the parts between separators of either kind
* `Path.normalize?` — the canonical form; none if the path leaves the root
* `Path.parent`, `Path.stem` — the directory and the bare name of a file
-/

namespace ComponentMarkup.Path

/-- The parts of a path between `/` or `\`. -/
def segments (path : String) : List String :=
  (splitWhere (fun c => c == '/' || c == '\\') path.toList).map String.ofList

/-- Follows the segments from a place, given by its own segments, the last first. A segment `..`
leads up; above the root there is nothing. -/
def follow? : List String → List String → Option (List String)
  | place, [] => some place
  | place, s :: rest =>
    if s == "" || s == "." then follow? place rest
    else if s == ".." then
      match place with
      | [] => none
      | _ :: up => follow? up rest
    else follow? (s :: place) rest

/-- The canonical form of a path. -/
def normalize? (path : String) : Option String :=
  (follow? [] (segments path)).map fun place => "/".intercalate place.reverse

/-- What is said of a path that leads out of the root. -/
def escapeReason (path : String) : String := "`" ++ path ++ "` resolves outside the project root"

/-- The parts of a text before and after its last `/`; nothing stands before if there is none. -/
def cutLast (path : List Char) : List Char × List Char :=
  let name := (path.reverse.takeWhile (· != '/')).reverse
  ((path.reverse.dropWhile (· != '/')).drop 1 |>.reverse, name)

/-- The directory of a file. -/
def parent (path : String) : String := String.ofList (cutLast path.toList).1

/-- The name of a file, without its directory. -/
def fileName (path : String) : String := String.ofList (cutLast path.toList).2

/-- The name of a file up to its first dot; a dot at the start counts as part of the name. -/
def stem (path : String) : String :=
  let name := (cutLast path.toList).2
  if name.head? == some '.' then String.ofList name
  else String.ofList (name.takeWhile (· != '.'))

end ComponentMarkup.Path
