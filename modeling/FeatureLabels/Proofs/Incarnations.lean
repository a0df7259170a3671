import Mathlib.Algebra.Group.Int.Defs
import FeatureLabels.Proofs.FullResync
import FeatureLabels.Proofs.WaitingWork

/-!
What a watch tells of objects that come and go. An object may be deleted and made again any number
of times, and its generation starts anew each time; yet its end and its return always get through
the filter on aspects, because a deletion is marked with a generation that neither the version
before nor the version after it can have.
-/

namespace FeatureLabels

/-- The generations that an apiserver gives: none at all, or a count from one in 64 bits. -/
def IsCount : Option Int → Prop
  | none => True
  | some g => 1 ≤ g ∧ g < 2 ^ 63 - 1

def StartsCount : Option Int → Prop
  | none => True
  | some g => g = 1

def KeepsCount : Option Int → Option Int → Prop
  | none, none => True
  | some before, some now => before ≤ now ∧ now < 2 ^ 63 - 1
  | _, _ => False

theorem StartsCount.isCount {g : Option Int} (h : StartsCount g) : IsCount g := by
  rcases g with - | g
  · trivial
  · simp only [StartsCount] at h
    simp [IsCount, h]

theorem KeepsCount.isCount {before now : Option Int} (hbefore : IsCount before)
    (h : KeepsCount before now) : IsCount now := by
  rcases before with - | before <;> rcases now with - | now
  · trivial
  · exact h.elim
  · exact h.elim
  · simp only [IsCount, KeepsCount] at *
    omega

theorem deletedGeneration_ne (g : Option Int) : deletedGeneration g ≠ g := by
  rcases g with - | g
  · simp [deletedGeneration]
  · simp only [deletedGeneration, Option.map_some, Option.getD_some, ne_eq, Option.some.injEq]
    omega

theorem IsCount.exists_deletedGeneration {g : Option Int} (h : IsCount g) :
    ∃ n : Int, deletedGeneration g = some n ∧ ¬ StartsCount (some n) ∧ 0 ≤ n ∧ n < 2 ^ 63 := by
  rcases g with - | g
  · refine ⟨0, rfl, ?_⟩
    simp [StartsCount]
  · refine ⟨g + 1, rfl, ?_⟩
    simp only [IsCount, StartsCount] at *
    omega

/-- Setting metadata gives an object this very metadata. -/
class LawfulMetadata (α : Type) [HasMetadata α] : Prop where
  metadata_setMetadata : ∀ (object : α) (m : Metadata),
    HasMetadata.metadata (HasMetadata.setMetadata object m) = m

instance : LawfulMetadata Cluster := ⟨fun _ _ => rfl⟩

instance : LawfulMetadata AddOn := ⟨fun _ _ => rfl⟩

section

variable {α : Type} [HasMetadata α]

def generationOf (object : α) : Option Int := (HasMetadata.metadata object).generation

def withGeneration (object : α) (g : Option Int) : α :=
  HasMetadata.setMetadata object { HasMetadata.metadata object with generation := g }

theorem generationOf_withGeneration [LawfulMetadata α] (object : α) (g : Option Int) :
    generationOf (withGeneration object g) = g := by
  rw [generationOf, withGeneration, LawfulMetadata.metadata_setMetadata]

theorem identity_withGeneration [LawfulMetadata α] (object : α) (g : Option Int) :
    identity (withGeneration object g) = identity object := by
  rw [identity, withGeneration, LawfulMetadata.metadata_setMetadata]
  rfl

theorem WatchEvent.markDeletion_of_ne_deleted {event : WatchEvent α}
    (h : ∀ object, event ≠ .deleted object) : event.markDeletion = event := by
  cases event with
  | deleted object => exact absurd rfl (h object)
  | _ => rfl

inductive WatchEvent.Shows : WatchEvent α → α → Prop where
  | applied (object : α) : Shows (.applied object) object
  | listed (object : α) : Shows (.listed object) object

namespace AspectMap

variable {τ : Type} [DecidableEq τ] {aspect : α → τ} {seen : AspectMap τ} {event : WatchEvent α}
  {object : α}

def seenAfter (aspect : α → τ) (events : List (WatchEvent α)) : AspectMap τ :=
  events.foldl (fun seen event => (seen.notice aspect event).2) ∅

theorem seenAfter_concat (events : List (WatchEvent α)) :
    seenAfter aspect (events ++ [event]) = ((seenAfter aspect events).notice aspect event).2 := by
  simp [seenAfter]

theorem notice_of_shows (h : event.Shows object) :
    seen.notice aspect event =
      (if seen[identity object]? = some (aspect object) then none else some object,
        seen.insert (identity object) (aspect object)) := by
  rcases h <;> rfl

theorem notice_deleted [LawfulMetadata α] :
    seen.notice aspect (.deleted object) =
      let marked := withGeneration object (deletedGeneration (generationOf object))
      (if seen[identity object]? = some (aspect marked) then none else some marked,
        seen.insert (identity object) (aspect marked)) := by
  rw [← identity_withGeneration object (deletedGeneration (generationOf object))]
  rfl

theorem notice_of_object?_eq_none (h : event.object? = none) :
    seen.notice aspect event = (none, seen) := by
  cases event with
  | listBegins | listEnds => rfl
  | listed _ | applied _ | deleted _ => contradiction

end AspectMap

/-- What may happen next to the objects that an apiserver holds, and how a watch tells of it. A new
object starts a count of generations or has none, and its later versions keep to that; a deletion
shows the last version. -/
inductive Occurs (held : ObjectMap α) : WatchEvent α → ObjectMap α → Prop where
  | begins {event : WatchEvent α} {object : α} (hshows : event.Shows object)
      (hfresh : held.get? (identity object) = none) (hcount : StartsCount (generationOf object)) :
      Occurs held event (held.insert object)
  | goesOn {event : WatchEvent α} {old object : α} (hshows : event.Shows object)
      (hold : held.get? (identity object) = some old)
      (hcount : KeepsCount (generationOf old) (generationOf object)) :
      Occurs held event (held.insert object)
  | ends {last : α} (hlast : held.get? (identity last) = some last) :
      Occurs held (.deleted last) (held.erase (identity last))
  | listing {event : WatchEvent α} (hnone : event.object? = none) : Occurs held event held

inductive History : List (WatchEvent α) → ObjectMap α → Prop where
  | nil : History [] ∅
  | concat {events : List (WatchEvent α)} {event : WatchEvent α} {held next : ObjectMap α}
      (h : History events held) (hoccurs : Occurs held event next) :
      History (events ++ [event]) next

theorem History.life {events : List (WatchEvent α)} {held : ObjectMap α}
    (h : History events held) (object : α) (hfresh : held.get? (identity object) = none)
    (hcount : StartsCount (generationOf object)) :
    History (events ++ [.applied object] ++ [.deleted object]) held := by
  have hlast : (held.insert object).get? (identity object) = some object := by
    rw [ObjectMap.get?_insert, if_pos rfl]
  have hends := Occurs.ends hlast
  rw [ObjectMap.erase_insert hfresh] at hends
  exact (h.concat (.begins (.applied object) hfresh hcount)).concat hends

def TellsGeneration {τ : Type} (aspect : α → τ) : Prop :=
  ∀ object other, aspect object = aspect other → generationOf object = generationOf other

variable {τ : Type} {aspect : α → τ} {held next : ObjectMap α} {seen : AspectMap τ}
  {event : WatchEvent α} {object : α}

/-- What a filter remembers of objects that come and go: the last aspect of each one that is there,
and of each one that is gone an aspect that no new object has. -/
structure Remembers (aspect : α → τ) (held : ObjectMap α) (seen : AspectMap τ) : Prop where
  there : ∀ {id : ObjectId} {object : α}, held.get? id = some object →
    seen[id]? = some (aspect object) ∧ IsCount (generationOf object)
  gone : ∀ {id : ObjectId} {object : α}, held.get? id = none →
    seen[id]? = some (aspect object) → ¬ StartsCount (generationOf object)

theorem remembers_empty : Remembers aspect ∅ ∅ :=
  ⟨fun h => by simp at h, fun _ h => by simp at h⟩

theorem Remembers.insert (h : Remembers aspect held seen)
    (hcount : IsCount (generationOf object)) :
    Remembers aspect (held.insert object) (seen.insert (identity object) (aspect object)) := by
  constructor
  · intro id other hother
    rw [ObjectMap.get?_insert] at hother
    rw [AspectMap.getElem?_insert]
    split at hother
    · rename_i hid
      cases hother
      exact ⟨if_pos hid, hcount⟩
    · rename_i hid
      rw [if_neg hid]
      exact h.there hother
  · intro id other hnone hseen
    rw [ObjectMap.get?_insert] at hnone
    split at hnone
    · contradiction
    · rename_i hid
      rw [AspectMap.getElem?_insert, if_neg hid] at hseen
      exact h.gone hnone hseen

variable [LawfulMetadata α]

theorem Remembers.erase (htells : TellsGeneration aspect) (h : Remembers aspect held seen)
    (hlast : held.get? (identity object) = some object) :
    Remembers aspect (held.erase (identity object))
      (seen.insert (identity object)
        (aspect (withGeneration object (deletedGeneration (generationOf object))))) := by
  constructor
  · intro id other hother
    rw [ObjectMap.get?_erase] at hother
    split at hother
    · contradiction
    · rename_i hid
      rw [AspectMap.getElem?_insert, if_neg hid]
      exact h.there hother
  · intro id other hnone hseen
    rw [ObjectMap.get?_erase] at hnone
    rw [AspectMap.getElem?_insert] at hseen
    split at hseen
    · have hmarked := htells _ _ (Option.some.inj hseen)
      obtain ⟨n, hn, hnew, -⟩ := (h.there hlast).2.exists_deletedGeneration
      rw [generationOf_withGeneration, hn] at hmarked
      rw [← hmarked]
      exact hnew
    · rename_i hid
      rw [if_neg hid] at hnone
      exact h.gone hnone hseen

variable [DecidableEq τ]

theorem Remembers.notice (htells : TellsGeneration aspect) (h : Remembers aspect held seen)
    (hoccurs : Occurs held event next) :
    Remembers aspect next (seen.notice aspect event).2 := by
  rcases hoccurs with ⟨hshows, -, hstarts⟩ | ⟨hshows, hold, hkeeps⟩ | hlast | hnone
  · rw [AspectMap.notice_of_shows hshows]
    exact h.insert hstarts.isCount
  · rw [AspectMap.notice_of_shows hshows]
    exact h.insert (hkeeps.isCount (h.there hold).2)
  · rw [AspectMap.notice_deleted]
    exact h.erase htells hlast
  · rw [AspectMap.notice_of_object?_eq_none hnone]
    exact h

theorem History.remembers (htells : TellsGeneration aspect) {events : List (WatchEvent α)}
    (h : History events held) :
    Remembers aspect held (AspectMap.seenAfter aspect events) := by
  induction h with
  | nil => exact remembers_empty
  | concat _ hoccurs ih =>
      rw [AspectMap.seenAfter_concat]
      exact ih.notice htells hoccurs

/-- After these events the filter keeps the end of each object that is there, with a generation of
64 bits, and the beginning of each one that is not. -/
structure KeepsTurns (aspect : α → τ) (events : List (WatchEvent α)) (held : ObjectMap α) :
    Prop where
  ends : ∀ {object : α}, held.get? (identity object) = some object →
    ∃ n : Int, 0 ≤ n ∧ n < 2 ^ 63 ∧
      ((AspectMap.seenAfter aspect events).notice aspect (.deleted object)).1 =
        some (withGeneration object (some n))
  begins : ∀ {event : WatchEvent α} {object : α}, event.Shows object →
    held.get? (identity object) = none → StartsCount (generationOf object) →
    ((AspectMap.seenAfter aspect events).notice aspect event).1 = some object

theorem History.keepsTurns (htells : TellsGeneration aspect) {events : List (WatchEvent α)}
    (h : History events held) : KeepsTurns aspect events held := by
  have hremembers := h.remembers htells
  constructor
  · intro object hlast
    obtain ⟨hseen, hcount⟩ := hremembers.there hlast
    obtain ⟨n, hn, -, hnonneg, hlt⟩ := hcount.exists_deletedGeneration
    refine ⟨n, hnonneg, hlt, ?_⟩
    have hne : aspect object ≠ aspect (withGeneration object (some n)) := by
      intro heq
      have hsame := htells _ _ heq
      rw [generationOf_withGeneration, ← hn] at hsame
      exact deletedGeneration_ne _ hsame.symm
    simp only [AspectMap.notice_deleted, hn, hseen, Option.some.injEq, hne, if_false]
  · intro event object hshows hfresh hstarts
    rw [AspectMap.notice_of_shows hshows]
    apply if_neg
    intro hseen
    exact hremembers.gone hfresh hseen hstarts

end

theorem Cluster.tellsGeneration_aspect : TellsGeneration Cluster.aspect := by
  intro v w h
  exact congrArg ClusterAspect.generation h

theorem AddOn.tellsGeneration_aspect : TellsGeneration AddOn.aspect := by
  intro a b h
  exact congrArg AddOnAspect.generation h

/-- The end of a cluster or an add-on and each of its beginnings get through the filter, whatever
its watch has told until then; and only deletions are marked, with nothing but a generation. -/
theorem turns_getThrough :
    (∀ (events : List (WatchEvent Cluster)) (held : ObjectMap Cluster), History events held →
      KeepsTurns Cluster.aspect events held) ∧
    (∀ (events : List (WatchEvent AddOn)) (held : ObjectMap AddOn), History events held →
      KeepsTurns AddOn.aspect events held) ∧
    (∀ v : Cluster, ∃ g, (WatchEvent.deleted v).markDeletion =
      .deleted { v with metadata.generation := g }) ∧
    (∀ event : WatchEvent Cluster, (∀ v, event ≠ .deleted v) → event.markDeletion = event) ∧
    (∀ a : AddOn, ∃ g, (WatchEvent.deleted a).markDeletion =
      .deleted { a with metadata.generation := g }) ∧
    ∀ event : WatchEvent AddOn, (∀ a, event ≠ .deleted a) → event.markDeletion = event := by
  refine ⟨?_, ?_, fun _ => ⟨_, rfl⟩, fun _ => WatchEvent.markDeletion_of_ne_deleted,
    fun _ => ⟨_, rfl⟩, fun _ => WatchEvent.markDeletion_of_ne_deleted⟩
  · intro events held h
    exact h.keepsTurns Cluster.tellsGeneration_aspect
  · intro events held h
    exact h.keepsTurns AddOn.tellsGeneration_aspect

namespace Sample

def uncounted : Cluster where
  metadata := { name := some "c1" }

def counted : Cluster where
  metadata := { name := some "c1", generation := some 1 }

def clusterLives : List (WatchEvent Cluster) :=
  [.applied uncounted, .deleted uncounted, .applied counted, .deleted counted]

end Sample

theorem turns_getThrough_sample :
    History Sample.clusterLives ∅ ∧
    ((AspectMap.seenAfter Cluster.aspect Sample.clusterLives).notice Cluster.aspect
      (.applied Sample.uncounted)).1 = some Sample.uncounted ∧
    (∃ n : Int, 0 ≤ n ∧ n < 2 ^ 63 ∧
      ((AspectMap.seenAfter AddOn.aspect [.applied Sample.addOn]).notice AddOn.aspect
        (.deleted Sample.addOn)).1 = some (withGeneration Sample.addOn (some n))) ∧
    (WatchEvent.applied Sample.counted).markDeletion = .applied Sample.counted := by
  have huncounted : StartsCount (generationOf Sample.uncounted) := by
    change True
    trivial
  have hlives : History Sample.clusterLives ∅ :=
    (History.nil.life Sample.uncounted rfl huncounted).life Sample.counted rfl rfl
  have hmade : History [.applied Sample.addOn] ((∅ : ObjectMap AddOn).insert Sample.addOn) :=
    History.nil.concat (.begins (.applied Sample.addOn) rfl rfl)
  obtain ⟨hclusters, haddOns, -, hothers, -⟩ := turns_getThrough
  refine ⟨hlives, ?_, ?_, ?_⟩
  · exact (hclusters _ _ hlives).begins (.applied _) rfl huncounted
  · apply (haddOns _ _ hmade).ends
    rw [ObjectMap.get?_insert, if_pos rfl]
  · apply hothers
    intro v h
    cases h

end FeatureLabels
