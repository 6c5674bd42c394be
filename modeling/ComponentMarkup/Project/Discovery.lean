import ComponentMarkup.Project.Glob
import ComponentMarkup.Project.Store
import ComponentMarkup.Text.Case

/-!
# Discovering components

Which files are components, and under which tags. Components found by a pattern or listed by path
are named after their files.

## Main definitions

* `ComponentSource` — a pattern, a list of paths, or a table of tags
* `discover` — the tags and their files
-/

namespace ComponentMarkup

/-- Where components come from. -/
inductive ComponentSource
  | glob (pattern : String)
  | list (paths : List String)
  | map (entries : Entries String)

/-- The text of a pattern without the leading `./`. -/
def dropHere (cs : List Char) : List Char :=
  match cs with
  | '.' :: '/' :: rest => dropHere rest
  | _ => cs

/-- The pattern that a text means, and its text. -/
def readGlob (pattern : String) : Compiled (String × Glob) :=
  let text := String.ofList (dropHere pattern.toList)
  match Glob.read text with
  | .ok g => .ok (text, g)
  | .error failure => .error (.invalidReference text ("invalid glob: " ++ failure.message))

/-- The canonical form of a path. -/
def canonical (path : String) : Compiled String :=
  match Path.normalize? path with
  | some key => .ok key
  | none => .error (.invalidReference path (Path.escapeReason path))

/-- The tags of a list of files; of several files for a tag the last one counts. -/
def tagsOfPaths (paths : List String) : Compiled (Entries String) := do
  let keys ← paths.mapM canonical
  .ok (Entries.ofPairs (keys.map fun key => (asciiLower (Path.stem key), key)))

/-- The components of a source: their tags and their files. -/
def discover (source : ComponentSource) (store : Store) : Compiled (Entries String) :=
  match source with
  | .glob pattern => do
    let (_, g) ← readGlob pattern
    tagsOfPaths (store.list.filter g.matchesPath)
  | .list paths => tagsOfPaths paths
  | .map entries => do
    let keys ← entries.mapM fun (tag, path) => do
      let key ← canonical path
      .ok (asciiLower tag, key)
    .ok (Entries.ofPairs keys)

end ComponentMarkup
