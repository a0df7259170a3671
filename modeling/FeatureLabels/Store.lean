import FeatureLabels.ObjectMap

/-!
A store of watched objects. The objects of a list in progress are collected aside and take the
place of the stored ones when the list is complete, so that a reader never sees half a list.
-/

namespace FeatureLabels

inductive WatchEvent (α : Type) where
  /-- All objects are about to be listed again. -/
  | listBegins
  | listed (object : α)
  | listEnds
  | applied (object : α)
  /-- An object was deleted; this was its last version. -/
  | deleted (object : α)

def WatchEvent.ofList {α : Type} (objects : List α) : List (WatchEvent α) :=
  .listBegins :: objects.map .listed ++ [.listEnds]

inductive Readiness where
  | ready
  | awaited
  /-- The first list will never come. -/
  | lost
deriving DecidableEq, Repr

structure Store (α : Type) [HasMetadata α] where
  contents : ObjectMap α := ∅
  listing : ObjectMap α := ∅
  filled : Bool := false
  watched : Bool := true

namespace Store

variable {α : Type} [HasMetadata α]

/-- Takes an event of the watch into account. Without its watch a store stays as it is. -/
def record (store : Store α) (event : WatchEvent α) : Store α :=
  if store.watched then
    match event with
    | .listBegins => { store with listing := ∅ }
    | .listed object => { store with listing := store.listing.insert object }
    | .listEnds => { store with contents := store.listing, listing := ∅, filled := true }
    | .applied object => { store with contents := store.contents.insert object }
    | .deleted object => { store with contents := store.contents.erase (identity object) }
  else store

def unwatch (store : Store α) : Store α := { store with watched := false }

def readiness (store : Store α) : Readiness :=
  if store.filled then .ready else if store.watched then .awaited else .lost

def ofList (objects : List α) : Store α :=
  (WatchEvent.ofList objects).foldl record {}

/-- The object with an identity, or else the one of that name without a namespace. -/
def get? (store : Store α) (id : ObjectId) : Option α :=
  (store.contents.get? id).or (store.contents.get? { id with inNamespace := none })

def objects (store : Store α) : List α := store.contents.objects

def identities (store : Store α) : List ObjectId := store.contents.identities

end Store

end FeatureLabels
