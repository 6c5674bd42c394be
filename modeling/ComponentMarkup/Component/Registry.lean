import ComponentMarkup.Component.Definition
import ComponentMarkup.Project.Store
import ComponentMarkup.Style.ScopeId

/-!
# The registry of components

Every component is built at most once. The first build of a path decides its outcome, a component
or an error, for all later requests.

## Main definitions

* `Sources` — what components are built from
* `Registry` — the outcomes so far, the tags, and who claimed which scope id
* `Registry.precompile` — builds a component, or recalls its outcome
* `Registry.register`, `Registry.registerTag` — name components by tags
* `Registry.resolveTag` — the component that a tag stands for
-/

namespace ComponentMarkup

open Markup (Node)

/-- What components are built from: a store of files, global data and helpers. -/
structure Sources where
  store : Store
  data : Cascade

/-- What is known of components. -/
structure Registry where
  /-- The outcome of the first build of each path. -/
  outcomes : Entries (Compiled Component) := []
  /-- The path that each tag stands for, under the tag in lower case. -/
  tags : Entries String := []
  /-- The path that chose each scope id that was chosen. -/
  claims : Entries String := []

/-! ### Building -/

/-- The tree of a template: the one given, or that of its file. -/
def treeOf (s : Sources) (path : String) (tree? : Option Node) : Compiled Node :=
  match tree? with
  | some tree => .ok tree
  | none => (s.store.load path).map Markup.parseTemplate

/-- Whether a node is a scoped style sheet. -/
def isScopedStyle (n : Node) : Bool := n.hasTag "style" && n.hasAttribute "webc:scoped"

/-- The scope id that the first of the scoped styles with one chooses. -/
def chosenScopeId? (styles : List Node) : Option String :=
  ((styles.filterMap (·.attribute? "webc:scoped")).map trim).find? (· != "")

/-- The scope id of a component, and the claims after it. A chosen id is claimed, unless another
path has it; otherwise the id follows from the text of all scoped styles. -/
def claimScope (claims : Entries String) (tree : Node) (path : String) :
    Compiled (Option String × Entries String) :=
  match tree.children.filter isScopedStyle with
  | [] => .ok (none, claims)
  | styles =>
    match chosenScopeId? styles with
    | none => .ok (some (Style.derivedScopeId (Node.textOfAll styles)), claims)
    | some id =>
      match claims.get? id with
      | some first =>
        if first == path then .ok (some id, claims) else .error (.scopeCollision id first path)
      | none => .ok (some id, claims.insert id path)

/-- Whether a node is a setup script. -/
def isSetupScript (n : Node) : Bool := n.hasTag "script" && n.hasAttribute "webc:setup"

/-- The bindings of the setup script, which sees global data and helpers only. -/
def setupOf (s : Sources) (tree : Node) (path : String) : Compiled (Entries Value) :=
  match tree.children.find? isSetupScript with
  | none => .ok []
  | some script =>
    let source := script.textContent
    (Script.evaluateBindings source (s.data.withFilePath path)).mapError
      (.evaluation "setup script" source path)

/-- Builds a component: the outcome, and the claims after it. A scope id stays claimed when the
setup script fails. -/
def buildComponent (s : Sources) (claims : Entries String) (path : String) (tree? : Option Node) :
    Compiled Component × Entries String :=
  match treeOf s path tree? with
  | .error e => (.error e, claims)
  | .ok tree =>
    match claimScope claims tree path with
    | .error e => (.error e, claims)
    | .ok (scopeId, claims) =>
      ((setupOf s tree path).map (Component.ofTree path tree scopeId), claims)

namespace Registry

/-- Builds a component, or recalls the outcome of its first build. -/
def precompile (r : Registry) (s : Sources) (path : String) (tree? : Option Node) :
    Compiled Component × Registry :=
  match r.outcomes.get? path with
  | some outcome => (outcome, r)
  | none =>
    let (outcome, claims) := buildComponent s r.claims path tree?
    (outcome, { r with outcomes := r.outcomes.insert path outcome, claims := claims })

/-! ### Looking up -/

/-- Whether a path has been built with success. -/
def hasComponent (r : Registry) (path : String) : Bool :=
  match r.outcomes.get? path with
  | some (.ok _) => true
  | _ => false

/-- The component of a path that has been built with success. -/
def getComponent (r : Registry) (path : String) : Compiled Component :=
  match r.outcomes.get? path with
  | some (.ok d) => .ok d
  | _ => .error (.unregistered path)

/-- The path that a tag stands for. -/
def pathForTag? (r : Registry) (tag : String) : Option String := r.tags.get? (asciiLower tag)

/-- The component that a tag stands for; none for other tags. -/
def resolveTag (r : Registry) (tag : String) : Compiled (Option Component) :=
  match r.pathForTag? tag with
  | some path => (r.getComponent path).map some
  | none => .ok none

/-! ### Naming -/

/-- Gives a tag to a path. -/
def nameTag (r : Registry) (tag path : String) : Registry :=
  { r with tags := r.tags.insert (asciiLower tag) path }

/-- Gives a tag to a path and builds the component. -/
def registerTag (r : Registry) (s : Sources) (tag path : String) : Compiled Component × Registry :=
  (r.nameTag tag path).precompile s path none

/-- Builds components in order, up to the first that fails. -/
def precompileAll (r : Registry) (s : Sources) : List String → Compiled Unit × Registry
  | [] => (.ok (), r)
  | path :: paths =>
    match r.precompile s path none with
    | (.ok _, r) => r.precompileAll s paths
    | (.error e, r) => (.error e, r)

/-- Gives tags to paths, and then builds the components that have not been built with success. -/
def register (r : Registry) (s : Sources) (map : Entries String) : Compiled Unit × Registry :=
  let named := map.foldl (fun r (tag, path) => r.nameTag tag path) r
  named.precompileAll s (map.values.eraseDups.filter fun path => !r.hasComponent path)

end Registry

end ComponentMarkup
