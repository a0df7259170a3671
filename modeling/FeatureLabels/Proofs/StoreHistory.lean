import FeatureLabels.Proofs.Shift

namespace FeatureLabels

namespace WatchEvent

variable {α : Type}

/-- The objects of the list in progress. Of a watch's events the latest stands first. -/
def listedSoFar : List (WatchEvent α) → List α
  | [] => []
  | .listBegins :: _ => []
  | .listed object :: earlier => listedSoFar earlier ++ [object]
  | .listEnds :: _ => []
  | .applied _ :: earlier => listedSoFar earlier
  | .deleted _ :: earlier => listedSoFar earlier

variable [HasMetadata α]

/-- The objects of the last complete list, with what was reported about single objects since
then. -/
def lastView : List (WatchEvent α) → Option (ObjectMap α)
  | [] => none
  | .listBegins :: earlier => lastView earlier
  | .listed _ :: earlier => lastView earlier
  | .listEnds :: earlier => some (.ofList (listedSoFar earlier))
  | .applied object :: earlier => (lastView earlier).map fun view => view.insert object
  | .deleted object :: earlier => (lastView earlier).map fun view => view.erase (identity object)

def Changes (event : WatchEvent α) (id : ObjectId) : Prop :=
  ∃ object, (event = .applied object ∨ event = .deleted object) ∧ identity object = id

theorem get?_lastView_append {since before : List (WatchEvent α)} {view : ObjectMap α}
    (hview : lastView before = some view) (hlist : .listEnds ∉ since) {id : ObjectId}
    (hsame : ∀ event ∈ since, ¬ event.Changes id) :
    ∃ view', lastView (since ++ before) = some view' ∧ view'.get? id = view.get? id := by
  induction since with
  | nil => exact ⟨view, hview, rfl⟩
  | cons event since ih =>
      rw [List.mem_cons, not_or] at hlist
      obtain ⟨view', hview', hget⟩ := ih hlist.2 fun other hother =>
        hsame other (List.mem_cons_of_mem event hother)
      have hnot : ¬ event.Changes id := hsame event List.mem_cons_self
      cases event with
      | listBegins => exact ⟨view', hview', hget⟩
      | listed object => exact ⟨view', hview', hget⟩
      | listEnds => exact absurd rfl hlist.1
      | applied object =>
          have hne : identity object ≠ id := fun hid => hnot ⟨object, .inl rfl, hid⟩
          refine ⟨view'.insert object, by rw [List.cons_append, lastView, hview']; rfl, ?_⟩
          rw [ObjectMap.get?_insert, if_neg hne, hget]
      | deleted object =>
          have hne : identity object ≠ id := fun hid => hnot ⟨object, .inr rfl, hid⟩
          refine ⟨view'.erase (identity object),
            by rw [List.cons_append, lastView, hview']; rfl, ?_⟩
          rw [ObjectMap.get?_erase, if_neg hne, hget]

end WatchEvent

namespace Store

open WatchEvent

variable {α : Type} [HasMetadata α] {store : Store α} {events : List (WatchEvent α)}

structure Follows (store : Store α) (events : List (WatchEvent α)) : Prop where
  filled_iff : store.filled = true ↔ .listEnds ∈ events
  listing_eq : store.listing = .ofList (listedSoFar events)
  contents_eq : store.filled = true → lastView events = some store.contents

theorem follows_empty : Follows ({} : Store α) [] :=
  ⟨by simp, rfl, by simp⟩

theorem Follows.record (h : store.Follows events) (hwatched : store.watched = true)
    (event : WatchEvent α) : (store.record event).Follows (event :: events) := by
  unfold Store.record
  rw [if_pos hwatched]
  cases event with
  | listBegins => exact ⟨by simp [h.filled_iff], rfl, h.contents_eq⟩
  | listed object =>
      refine ⟨by simp [h.filled_iff], ?_, h.contents_eq⟩
      simp only [h.listing_eq, ObjectMap.ofList, listedSoFar, List.foldl_append, List.foldl_cons,
        List.foldl_nil]
  | listEnds => exact ⟨by simp, rfl, fun _ => by rw [lastView, h.listing_eq]⟩
  | applied object =>
      refine ⟨by simp [h.filled_iff], h.listing_eq, fun hfilled => ?_⟩
      rw [lastView, h.contents_eq hfilled, Option.map_some]
  | deleted object =>
      refine ⟨by simp [h.filled_iff], h.listing_eq, fun hfilled => ?_⟩
      rw [lastView, h.contents_eq hfilled, Option.map_some]

theorem watched_record (store : Store α) (event : WatchEvent α) :
    (store.record event).watched = store.watched := by
  unfold Store.record
  split
  · cases event <;> rfl
  · rfl

theorem Follows.unwatch (h : store.Follows events) : store.unwatch.Follows events :=
  ⟨h.filled_iff, h.listing_eq, h.contents_eq⟩

theorem readiness_eq_ready_iff : store.readiness = .ready ↔ store.filled = true := by
  cases hfilled : store.filled <;> cases hwatched : store.watched <;>
    simp [readiness, hfilled, hwatched]

theorem readiness_eq_lost_iff :
    store.readiness = .lost ↔ store.filled = false ∧ store.watched = false := by
  cases hfilled : store.filled <;> cases hwatched : store.watched <;>
    simp [readiness, hfilled, hwatched]

theorem readiness_record (h : store.readiness ≠ .awaited) (event : WatchEvent α) :
    (store.record event).readiness = store.readiness := by
  cases hfilled : store.filled <;> cases hwatched : store.watched <;> cases event <;>
    simp_all [readiness, Store.record]

theorem readiness_unwatch (h : store.readiness ≠ .awaited) :
    store.unwatch.readiness = store.readiness := by
  cases hfilled : store.filled <;> cases hwatched : store.watched <;>
    simp_all [readiness, Store.unwatch]

end Store

namespace Inventory

variable {inv : Inventory}

theorem readiness_of_clusters_ready (h : inv.clusters.readiness = .ready) :
    inv.readiness = (inv.addOns.readiness, .addOn) := by
  rw [readiness, h]

theorem readiness_of_clusters_lost (h : inv.clusters.readiness = .lost) :
    inv.readiness = (.lost, .cluster) := by
  rw [readiness, h]

theorem readiness_eq_ready_iff :
    inv.readiness.1 = .ready ↔ inv.clusters.filled = true ∧ inv.addOns.filled = true := by
  rw [← Store.readiness_eq_ready_iff, ← Store.readiness_eq_ready_iff, readiness]
  cases inv.clusters.readiness <;> simp

theorem clusters_settled (h : inv.readiness.1 ≠ .awaited) :
    inv.clusters.readiness = .ready ∧ inv.addOns.readiness ≠ .awaited ∨
      inv.clusters.readiness = .lost := by
  rw [readiness] at h
  cases hclusters : inv.clusters.readiness with
  | ready =>
      rw [hclusters] at h
      exact .inl ⟨rfl, h⟩
  | lost => exact .inr rfl
  | awaited =>
      rw [hclusters] at h
      exact absurd rfl h

theorem clusters_readiness_notice (h : inv.clusters.readiness ≠ .awaited) (notice : Notice) :
    (inv.notice notice).clusters.readiness = inv.clusters.readiness := by
  cases notice with
  | cluster event => exact Store.readiness_record h event
  | addOn event => rfl
  | unwatched kind =>
      cases kind with
      | cluster => exact Store.readiness_unwatch h
      | addOn => rfl

theorem addOns_readiness_notice (h : inv.addOns.readiness ≠ .awaited) (notice : Notice) :
    (inv.notice notice).addOns.readiness = inv.addOns.readiness := by
  cases notice with
  | cluster event => rfl
  | addOn event => exact Store.readiness_record h event
  | unwatched kind =>
      cases kind with
      | cluster => rfl
      | addOn => exact Store.readiness_unwatch h

theorem readiness_notice (h : inv.readiness.1 ≠ .awaited) (notice : Notice) :
    (inv.notice notice).readiness = inv.readiness := by
  -- The add-ons count only when the clusters are ready; else their store may still be awaited.
  rcases clusters_settled h with ⟨hready, haddOns⟩ | hlost
  · have hclusters : (inv.notice notice).clusters.readiness = inv.clusters.readiness :=
      clusters_readiness_notice (by simp [hready]) notice
    rw [readiness_of_clusters_ready (hclusters.trans hready), addOns_readiness_notice haddOns,
      readiness_of_clusters_ready hready]
  · have hclusters : (inv.notice notice).clusters.readiness = inv.clusters.readiness :=
      clusters_readiness_notice (by simp [hlost]) notice
    rw [readiness_of_clusters_lost (hclusters.trans hlost), readiness_of_clusters_lost hlost]

end Inventory

namespace Shift

variable {shift later : Shift}

theorem inventory_afterFailure (op : Operator) (task : Task) (failure : Failure) :
    (op.afterFailure task failure).2.2.inventory = op.inventory := by
  cases failure <;> rfl

theorem readiness_moves (h : shift.Moves later)
    (hsettled : shift.operator.inventory.readiness.1 ≠ .awaited) :
    later.operator.inventory.readiness = shift.operator.inventory.readiness := by
  cases h with
  | hears => exact Inventory.readiness_notice hsettled _
  | advances => rw [inventory_advance]
  | retries task failure => rw [inventory_afterFailure]
  | _ => rfl

theorem readiness_run (hsettled : shift.operator.inventory.readiness.1 ≠ .awaited)
    (schedule : List Happening) :
    (shift.run schedule).operator.inventory.readiness = shift.operator.inventory.readiness := by
  refine run_induction
    (P := fun later =>
      later.operator.inventory.readiness = shift.operator.inventory.readiness)
    (fun before after hmoves hsame => ?_) rfl schedule
  rw [readiness_moves hmoves (by rwa [hsame]), hsame]

end Shift

end FeatureLabels
