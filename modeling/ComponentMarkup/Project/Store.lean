import ComponentMarkup.Error
import ComponentMarkup.Project.Path

/-!
# Stores of files

The texts of components come from a store: a table of paths, or a tree of directories in which
paths are looked up step by step.

## Main definitions

* `Directory` — a tree of files and directories
* `Store` — a table or a tree
* `Store.load`, `Store.contains`, `Store.list` — what a store offers
-/

namespace ComponentMarkup

/-! ### Directories -/

/-- What a name in a directory stands for. -/
inductive DirectoryEntry
  | file (text : String)
  | directory (entries : List (String × DirectoryEntry))

/-- A tree of files and directories: the entries of its root. -/
abbrev Directory := List (String × DirectoryEntry)

/-- Why there is nothing to read at a place. -/
inductive ReadFailure
  | missing
  | notDirectory
  | isDirectory
  deriving DecidableEq

/-- The text of a failure. -/
def ReadFailure.message : ReadFailure → String
  | missing => "No such file or directory (os error 2)"
  | notDirectory => "Not a directory (os error 20)"
  | isDirectory => "Is a directory (os error 21)"

namespace DirectoryEntry

/-- The entries of a directory. -/
def entries : DirectoryEntry → Directory
  | file _ => []
  | directory es => es

/-- Follows the segments of a path from an entry; `above` are the directories it stands in, the
nearest first. The root stands in itself. -/
def follow : List DirectoryEntry → DirectoryEntry → List String → Except ReadFailure DirectoryEntry
  | _, entry, [] => .ok entry
  | above, directory es, s :: rest =>
    if s == "" || s == "." then follow above (directory es) rest
    else if s == ".." then
      match above with
      | [] => follow [] (directory es) rest
      | up :: further => follow further up rest
    else match Entries.get? s es with
      | none => .error .missing
      | some entry => follow (directory es :: above) entry rest
  | _, file _, _ :: _ => .error .notDirectory

/-- The text of an entry. -/
def read : DirectoryEntry → Except ReadFailure String
  | file text => .ok text
  | directory _ => .error .isDirectory

/-- Puts an entry at its place in the order of names. -/
def insertByName (name : String) (entry : DirectoryEntry) : Directory → Directory
  | [] => [(name, entry)]
  | (n, e) :: rest =>
    if name == n then (name, entry) :: rest
    else if name < n then (name, entry) :: (n, e) :: rest
    else (n, e) :: insertByName name entry rest

/-- The directory with a file at the place that the segments name. -/
def write (text : String) : Directory → List String → Directory
  | es, [] => es
  | es, [name] => insertByName name (file text) es
  | es, s :: t :: rest =>
    let below := ((Entries.get? s es).map entries).getD []
    insertByName s (directory (write text below (t :: rest))) es

mutual

/-- The paths of the files of an entry at a place, in order. -/
def paths (place : String) : DirectoryEntry → List String
  | file _ => [place]
  | directory es => pathsOf (place ++ "/") es
termination_by structural e => e

/-- The paths of the files of a directory, each after `start`; a name is visited with all that is
below it before the next one. -/
def pathsOf (start : String) : List (String × DirectoryEntry) → List String
  | [] => []
  | e :: es => pathsOfPair start e ++ pathsOf start es
termination_by structural es => es

/-- The paths of a named entry. -/
def pathsOfPair (start : String) : String × DirectoryEntry → List String
  | (name, e) => paths (start ++ name) e
termination_by structural e => e

end

end DirectoryEntry

/-- The tree that holds the files. -/
def Directory.ofFiles (files : List (String × String)) : Directory :=
  files.foldl (fun es (path, text) =>
    DirectoryEntry.write text es ((Path.follow? [] (Path.segments path)).getD []).reverse) []

/-! ### Stores -/

/-- A store of files. -/
inductive Store
  | table (files : Entries String)
  | tree (root : Directory)

namespace Store

/-- The table of the files, under their canonical paths where they have one. -/
def ofFiles (files : List (String × String)) : Store :=
  .table (Entries.ofPairs (files.map fun (path, text) => ((Path.normalize? path).getD path, text)))

/-- Looks a path up in a tree. A path that starts with `/` is none of the tree's. -/
def lookUp (root : Directory) (path : String) : Except ReadFailure DirectoryEntry :=
  let parts := (splitWhere (· == '/') path.toList).map String.ofList
  if hasStart path "/" then
    if parts.all (· == "") then .ok (.directory []) else .error .missing
  else DirectoryEntry.follow [] (.directory root) parts

/-- The text of a file. -/
def load (s : Store) (path : String) : Compiled String :=
  match s with
  | table files =>
    match files.get? path with
    | some text => .ok text
    | none => .error (.unreadable path "no such file")
  | tree root =>
    match lookUp root path >>= DirectoryEntry.read with
    | .ok text => .ok text
    | .error failure => .error (.unreadable path failure.message)

theorem load_table_eq_ok {files : Entries String} {path text : String} :
    (table files).load path = .ok text ↔ files.get? path = some text := by
  cases found : files.get? path <;> simp [load, found]

/-- Whether there is a file of the path. -/
def contains (s : Store) (path : String) : Bool :=
  match s with
  | table files => files.has path
  | tree root => ((lookUp root path >>= DirectoryEntry.read) matches .ok _)

/-- The paths of all files: of a table in the order of their code points, of a tree in the order of
a walk that visits each directory by name. -/
def list (s : Store) : List String :=
  match s with
  | table files => files.keys.mergeSort fun a b => decide (a ≤ b)
  | tree root => DirectoryEntry.pathsOf "" root

end Store

end ComponentMarkup
