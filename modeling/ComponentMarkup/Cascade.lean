import ComponentMarkup.Value

/-!
# The data cascade

What expressions can read: named values in layers. A name means its value in the uppermost
layer that has one. From the top, the layers are loop bindings, a node's own attributes, the
attributes of the host, the bindings of the setup script, the reserved namespace, and global
data. Helpers are named functions beside the layers.

## Main definitions

* `Cascade` — the layers of one view
* `Cascade.get?`, `Cascade.helper?` — what a name means
* `Cascade.toRecord` — all names with their values
* `Cascade.forComponent`, `Cascade.withOwn`, `Cascade.withLocals`, … — further views
-/

namespace ComponentMarkup

/-- One view of the data: its layers, the attributes as they were written, and the file. -/
structure Cascade where
  globals : Entries Value
  helpers : Entries Helper
  setup : Entries Value
  host : Entries Value
  own : Entries Value
  locals : Entries Value
  rawAttributes : Entries Value
  filePath : String

namespace Cascade

/-- The name of the namespace that is always there. -/
def reservedName : String := "webc"

/-- The view with global data and helpers only. -/
def ofGlobals (globals : Entries Value) (helpers : Entries Helper) : Cascade :=
  ⟨globals, helpers, [], [], [], [], [], ""⟩

/-- The view of a component instance: global data and helpers are the caller's, all else is the
component's. -/
def forComponent (c : Cascade) (filePath : String) (setup host rawAttributes : Entries Value) :
    Cascade :=
  ⟨c.globals, c.helpers, setup, host, [], [], rawAttributes, filePath⟩

/-- The view in another file. -/
def withFilePath (c : Cascade) (filePath : String) : Cascade := { c with filePath := filePath }

/-- The view with other bindings of the setup script. -/
def withSetup (c : Cascade) (setup : Entries Value) : Cascade := { c with setup := setup }

/-- The view with a node's own attributes; a node without attributes keeps those there are. -/
def withOwn (c : Cascade) (own : Entries Value) : Cascade :=
  if own.isEmpty then c else { c with own := own }

/-- The view with loop bindings, which shadow those of the loops around. -/
def withLocals (c : Cascade) (bindings : Entries Value) : Cascade :=
  { c with locals := Entries.extend c.locals bindings }

/-- The namespace that is always there: the attributes as written, the file and the global
data. -/
def reserved (c : Cascade) : Value :=
  .record [("attributes", .record c.rawAttributes), ("filePath", .text c.filePath),
    ("globals", .record c.globals)]

/-- What a name means. -/
def get? (c : Cascade) (name : String) : Option Value :=
  match [c.locals, c.own, c.host, c.setup].findSome? (Entries.get? name) with
  | some v => some v
  | none => if name == reservedName then some c.reserved else Entries.get? name c.globals

/-- The helper of a name. -/
def helper? (c : Cascade) (name : String) : Option Helper := Entries.get? name c.helpers

/-- All names with their values; the reserved namespace always means itself. -/
def toRecord (c : Cascade) : Value :=
  .record (Entries.insert reservedName c.reserved
    ([c.setup, c.host, c.own, c.locals].foldl Entries.extend c.globals))

end Cascade

end ComponentMarkup
