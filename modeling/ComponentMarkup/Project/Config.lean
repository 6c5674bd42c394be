import ComponentMarkup.Json.Read
import ComponentMarkup.Project.Resolver

/-!
# Configuration

## Main definitions

* `Config` — the settings of a compiler
* `Config.read` — reads settings from JSON
-/

namespace ComponentMarkup

/-- The settings of a compiler. -/
structure Config where
  projectRoot : String := "."
  fileExtension : String := Resolver.defaultExtension
  aliases : Entries String := []
  isConcurrent : Bool := true
  defaultBucket : String := "default"

namespace Config

/-- The names of the settings, in their order. -/
def names : List String :=
  ["projectRoot", "fileExtension", "aliases", "concurrent", "defaultBucket"]

/-- The entries of a table of texts. -/
def texts? (v : Value) : Option (Entries String) :=
  match v with
  | .record fields => fields.mapM fun (name, v) =>
    match v with
    | .text s => some (name, s)
    | _ => none
  | _ => none

/-- Changes a setting; none if the value does not fit. Other names mean nothing. -/
def set? (c : Config) (name : String) (v : Value) : Option Config :=
  match name, v with
  | "projectRoot", .text s => some { c with projectRoot := s }
  | "fileExtension", .text s => some { c with fileExtension := s }
  | "aliases", v => (texts? v).map fun aliases => { c with aliases }
  | "concurrent", .bool b => some { c with isConcurrent := b }
  | "defaultBucket", .text s => some { c with defaultBucket := s }
  | name, _ => if names.contains name then none else some c

/-- Changes several settings. -/
def setAll? (c : Config) (settings : List (String × Value)) : Option Config :=
  settings.foldlM (fun c (name, v) => c.set? name v) c

/-- The settings of an object, each given at most once, or of a list in the order of `names`. -/
def ofJson? (text : String) : Option Config :=
  match Json.read? text with
  | some (.record _) =>
    match Json.readPairs? text with
    | some pairs =>
      let given := (pairs.map Prod.fst).filter names.contains
      if given.eraseDups.length == given.length then setAll? {} pairs else none
    | none => none
  | some (.list items) => if items.length ≤ names.length then setAll? {} (names.zip items) else none
  | _ => none

/-- Reads the settings. -/
def read (text : String) : Compiled Config :=
  match ofJson? text with
  | some c => .ok c
  | none => .error (.parse "<config>" "Invalid compiler configuration: unexpected value")

end Config

end ComponentMarkup
