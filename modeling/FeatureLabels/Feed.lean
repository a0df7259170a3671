import FeatureLabels.Store
import FeatureLabels.Task

/-!
The way of a watch event into the operator: it updates a store, and it asks for work if it
changes something that labels depend on. A deletion always counts as a change.
-/

namespace FeatureLabels

/-- What the labels of a cluster depend on in the cluster itself. -/
structure ClusterAspect where
  generation : Option Int
  terminating : Bool
  labels : LabelMap
deriving DecidableEq

structure AddOnAspect where
  generation : Option Int
  terminating : Bool
  report : Option String
deriving DecidableEq

namespace Cluster

def aspect (c : Cluster) : ClusterAspect :=
  ⟨c.metadata.generation, c.metadata.isTerminating, c.metadata.labelMap⟩

end Cluster

namespace AddOn

def aspect (a : AddOn) : AddOnAspect :=
  ⟨a.metadata.generation, a.metadata.isTerminating, a.report⟩

end AddOn

def deletedGeneration (generation : Option Int) : Option Int :=
  some ((generation.map (· + 1)).getD 0)

namespace WatchEvent

variable {α : Type}

/-- A deletion does not change an object by itself, so its last version gets another generation;
all other events stay as they are. -/
def markDeletion [HasMetadata α] : WatchEvent α → WatchEvent α
  | .deleted object =>
    let metadata := HasMetadata.metadata object
    .deleted <| HasMetadata.setMetadata object
      { metadata with generation := deletedGeneration metadata.generation }
  | event => event

def object? : WatchEvent α → Option α
  | .listBegins => none
  | .listed object => some object
  | .listEnds => none
  | .applied object => some object
  | .deleted object => some object

end WatchEvent

/-- The last aspect seen of each object. -/
abbrev AspectMap (τ : Type) := Std.ExtTreeMap ObjectId τ ObjectId.order

namespace AspectMap

variable {α τ : Type} [HasMetadata α] [DecidableEq τ]

/-- Whether an event shows another aspect of its object than the event before, and the aspects
seen after it. -/
def notice (seen : AspectMap τ) (aspect : α → τ) (event : WatchEvent α) :
    Option α × AspectMap τ :=
  match event.markDeletion.object? with
  | none => (none, seen)
  | some object =>
    let new := aspect object
    (if seen[identity object]? = some new then none else some object,
      seen.insert (identity object) new)

end AspectMap

end FeatureLabels
