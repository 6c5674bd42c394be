import ComponentMarkup.Usage.Order

/-!
# Bundles of styles and scripts

The styles and scripts of components are gathered into buckets, each text once. A text that is
asked for in two buckets moves to the bucket of the nearest component that uses both owners.

## Main definitions

* `Fragment` — a style or script, its owner and the bucket asked for
* `AssetBundle` — the texts of the default bucket and of the named ones
* `aggregate` — the bundle of all fragments of a kind
-/

namespace ComponentMarkup

/-- The kinds of fragments. -/
inductive AssetKind
  | style
  | script
  deriving DecidableEq

/-- A style or a script. -/
structure Fragment where
  kind : AssetKind
  owner : String
  bucket : String
  text : String
  deriving DecidableEq

/-- The texts of one kind: those of the default bucket, and those of the named buckets in the
order of first use. -/
structure AssetBundle where
  fragments : List String := []
  buckets : Entries (List String) := []
  deriving DecidableEq

namespace AssetBundle

/-- Whether there is no text. -/
def isEmpty (b : AssetBundle) : Bool := b.fragments.isEmpty && b.buckets.isEmpty

/-- All texts, those of the default bucket first. -/
def all (b : AssetBundle) : List String := b.fragments ++ b.buckets.values.flatten

end AssetBundle

namespace Aggregation

/-- Where a text stands, and for which component. -/
structure Placement where
  bucket : String
  owner : String

/-- The buckets filled so far, where each text stands, and the bucket of each component: that of
its first fragment. -/
structure State where
  buckets : Entries (List String)
  placed : Entries Placement := []
  homes : Entries String := []

/-- Adds a text to a bucket. -/
def fill (bucket text : String) (buckets : Entries (List String)) : Entries (List String) :=
  let texts := (buckets.get? bucket).getD []
  buckets.insert bucket (if texts.contains text then texts else texts ++ [text])

/-- Takes a text from a bucket. -/
def clear (bucket text : String) (buckets : Entries (List String)) : Entries (List String) :=
  match buckets.get? bucket with
  | some texts => buckets.insert bucket (texts.erase text)
  | none => buckets

/-- Where a text goes that two components ask for in different buckets: to the bucket of the
nearest component that uses both, or to the default bucket if that has none. -/
def elevate (g : UsageGraph) (root defaultBucket : String) (homes : Entries String)
    (first second : String) : Placement :=
  let ancestor := (g.nearestCommonAncestor first second).getD root
  ⟨(homes.get? ancestor).getD defaultBucket, ancestor⟩

/-- The bucket of a component is that of its first fragment. -/
def settle (homes : Entries String) (f : Fragment) : Entries String :=
  if homes.has f.owner then homes else homes.insert f.owner f.bucket

/-- Where the text of a fragment goes: to its bucket if it is new, nowhere else if it stands there,
and otherwise to where it serves both components. -/
def destination (g : UsageGraph) (root defaultBucket : String) (homes : Entries String)
    (f : Fragment) : Option Placement → Placement
  | none => ⟨f.bucket, f.owner⟩
  | some previous =>
    if previous.bucket == f.bucket then previous
    else elevate g root defaultBucket homes previous.owner f.owner

/-- Brings a text to a bucket, from where it stands. -/
def bring (previous : Option Placement) (bucket text : String) (buckets : Entries (List String)) :
    Entries (List String) :=
  match previous with
  | none => fill bucket text buckets
  | some p => if bucket == p.bucket then buckets else fill bucket text (clear p.bucket text buckets)

/-- Places a fragment. -/
def place (g : UsageGraph) (root defaultBucket : String) (s : State) (f : Fragment) : State :=
  let homes := settle s.homes f
  let previous := s.placed.get? f.text
  let target := destination g root defaultBucket homes f previous
  { buckets := bring previous target.bucket f.text s.buckets
    placed := s.placed.insert f.text target
    homes := homes }

/-- The owners of fragments: those the graph knows, in the order of use, then the others in the
order of their first fragment. -/
def owners (g : UsageGraph) (fragments : List Fragment) : List String :=
  let all := (fragments.map Fragment.owner).eraseDups
  let known := g.componentsUsed.filter all.contains
  known ++ all.filter fun o => !known.contains o

/-- The fragments of a kind, arranged by owner. -/
def arranged (g : UsageGraph) (kind : AssetKind) (fragments : List Fragment) : List Fragment :=
  let own := fragments.filter (·.kind == kind)
  (owners g own).flatMap fun o => own.filter (·.owner == o)

/-- The bundle of filled buckets; empty named buckets are left out. -/
def bundle (defaultBucket : String) (buckets : Entries (List String)) : AssetBundle where
  fragments := (buckets.get? defaultBucket).getD []
  buckets := buckets.filter fun (name, texts) => name != defaultBucket && !texts.isEmpty

end Aggregation

/-- The bundle of all fragments of a kind. -/
def aggregate (kind : AssetKind) (fragments : List Fragment) (g : UsageGraph)
    (root defaultBucket : String) : AssetBundle :=
  let start : Aggregation.State := { buckets := [(defaultBucket, [])] }
  let final := (Aggregation.arranged g kind fragments).foldl
    (Aggregation.place g root defaultBucket) start
  Aggregation.bundle defaultBucket final.buckets

end ComponentMarkup
