import ComponentMarkup.Project.Config
import ComponentMarkup.Project.Discovery
import ComponentMarkup.Render.Walk

/-!
# The compiler

A compiler gathers the input, the components, helpers, transforms and global data. A run gives the
markup of the input with the styles and scripts of all components used, either as one text or in
pieces as they come. Nothing is kept from one run to the next.

## Main definitions

* `Compiler` — what a run starts from
* `Compiler.setInputPath`, `Compiler.setInputContent`, `Compiler.defineComponents`
* `Compiler.compile` — the result in one text
* `Compiler.stream` — the result in pieces
-/

namespace ComponentMarkup

/-- What is compiled: a file of the store, or a text under a path. -/
inductive Input
  | file (path : String)
  | content (text path : String)
  deriving DecidableEq

/-- What a run starts from. -/
structure Compiler where
  config : Config := {}
  store : Store := .table []
  input : Option Input := none
  components : Entries String := []
  helpers : Entries Helper := []
  transforms : Entries Transform := []
  globals : Entries Value := []

/-- What a run gives besides markup. -/
structure Summary where
  styles : AssetBundle
  scripts : AssetBundle
  /-- The paths of the components used, the input first. -/
  componentsUsed : List String
  deriving DecidableEq

/-- The result of a run in one text. -/
structure Compilation where
  markup : String
  summary : Summary
  deriving DecidableEq

/-- The result of a run in pieces. -/
structure Streamed where
  html : List String
  css : List String
  js : List String
  summary : Summary
  deriving DecidableEq

/-- The result of a run in pieces, with its pieces put together. -/
def Streamed.collected (s : Streamed) : Compilation := ⟨String.join s.html, s.summary⟩

namespace Compiler

/-! ### Setting up -/

/-- The path of a text that was given none. -/
def inlinePath : String := "<content>.webc"

/-- Chooses a file as the input. -/
def setInputPath (c : Compiler) (path : String) : Compiled Compiler :=
  (canonical path).map fun key => { c with input := some (.file key) }

/-- Chooses a text as the input. Its path serves references and messages. -/
def setInputContent (c : Compiler) (text : String) (path : Option String) : Compiler :=
  { c with input := some (.content text ((path.bind Path.normalize?).getD inlinePath)) }

/-- Adds components; later ones replace earlier ones of the same tag. -/
def defineComponents (c : Compiler) (source : ComponentSource) : Compiled Compiler :=
  (discover source c.store).map fun found =>
    { c with components := Entries.extend c.components found }

/-- Adds a helper. -/
def setHelper (c : Compiler) (name : String) (helper : Helper) : Compiler :=
  { c with helpers := c.helpers.insert name helper }

/-- Adds a transform. -/
def setTransform (c : Compiler) (name : String) (transform : Transform) : Compiler :=
  { c with transforms := c.transforms.insert name transform }

/-- Chooses whether nodes of a list may be rendered apart from each other. -/
def withConcurrency (c : Compiler) (isConcurrent : Bool) : Compiler :=
  { c with config := { c.config with isConcurrent := isConcurrent } }

/-! ### Running -/

/-- The setting of a run. -/
def setting (c : Compiler) : Setting where
  sources := ⟨c.store, Cascade.ofGlobals c.globals c.helpers⟩
  resolver := Resolver.ofAliases c.config.aliases c.config.fileExtension
  transforms := c.transforms
  isConcurrent := c.config.isConcurrent
  defaultBucket := c.config.defaultBucket

/-- The depth to which lists of nodes may nest in a run. -/
def depth : Nat := 1000000

/-- The input, which is needed. -/
def requireInput (c : Compiler) : Compiled Input :=
  match c.input with
  | some i => .ok i
  | none => .error (.invalidReference ""
      "no input was set; call \x60set_input_path\x60 or \x60set_input_content\x60")

/-- The path and the tree of an input. -/
def readInput (c : Compiler) (i : Input) : Compiled (String × Markup.Node) :=
  match i with
  | .file path => (c.store.load path).map fun text => (path, Markup.parseTemplate text)
  | .content text path => .ok (path, Markup.parseTemplate text)

/-- The document of a run, built as a component after all components. -/
def prepare (c : Compiler) : Compiled (Component × Registry) := do
  let input ← c.requireInput
  let (registered, registry) := ({} : Registry).register c.setting.sources c.components
  registered
  let (path, tree) ← c.readInput input
  let (root, registry) := registry.precompile c.setting.sources path (some tree)
  root.map fun d => (d, registry)

/-- What the output of a walk comes to. -/
def summarize (c : Compiler) (root : String) (o : Output) : Summary :=
  let graph := UsageGraph.ofUsages (some root) o.usages
  let bucket := c.config.defaultBucket
  { styles := aggregate .style o.fragments graph root bucket
    scripts := aggregate .script o.fragments graph root bucket
    componentsUsed := graph.componentsUsed }

/-- A run in which lists of nodes nest to a given depth at most. -/
def run (c : Compiler) (depth : Nat) (sink : Sink) : Except Halt (Output × Summary) := do
  let (root, registry) ← Halt.of c.prepare
  let (o, _) ← renderRoot c.setting depth root sink ⟨registry, {}⟩
  .ok (o, c.summarize root.path o)

/-- Compiles the input to one text; lists of nodes nest to a given depth at most. -/
def compileWithin (c : Compiler) (depth : Nat) : Except Halt Compilation :=
  (c.run depth .text).map fun (o, summary) => ⟨o.markup, summary⟩

/-- Compiles the input to pieces; styles and scripts follow the markup. Lists of nodes nest to a
given depth at most. -/
def streamWithin (c : Compiler) (depth : Nat) : Except Halt Streamed :=
  (c.run depth .pieces).map fun (o, summary) =>
    ⟨o.pieces, summary.styles.all, summary.scripts.all, summary⟩

/-- Compiles the input to one text. -/
def compile (c : Compiler) : Except Halt Compilation := c.compileWithin depth

/-- Compiles the input to pieces. -/
def stream (c : Compiler) : Except Halt Streamed := c.streamWithin depth

end Compiler

end ComponentMarkup
