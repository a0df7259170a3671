import Std.Data.ExtTreeMap
import FeatureLabels.Resource.Basic

namespace FeatureLabels

structure ObjectMap (α : Type) [HasMetadata α] where
  entries : Std.ExtTreeMap ObjectId α ObjectId.order := ∅
  identity_eq : ∀ (id : ObjectId) (object : α),
    entries[id]? = some object → identity object = id := by simp

namespace ObjectMap

variable {α : Type} [HasMetadata α]

instance : EmptyCollection (ObjectMap α) := ⟨{}⟩

def get? (m : ObjectMap α) (id : ObjectId) : Option α := m.entries[id]?

def insert (m : ObjectMap α) (object : α) : ObjectMap α where
  entries := m.entries.insert (identity object) object
  identity_eq id other h := by
    rw [Std.ExtTreeMap.getElem?_insert] at h
    split at h
    · rename_i heq
      rw [← Option.some.inj h]
      exact Std.LawfulEqCmp.eq_of_compare heq
    · exact m.identity_eq id other h

def erase (m : ObjectMap α) (id : ObjectId) : ObjectMap α where
  entries := m.entries.erase id
  identity_eq other object h := by
    rw [Std.ExtTreeMap.getElem?_erase] at h
    split at h
    · simp at h
    · exact m.identity_eq other object h

def ofList (objects : List α) : ObjectMap α := objects.foldl insert ∅

def objects (m : ObjectMap α) : List α := m.entries.toList.map Prod.snd

def identities (m : ObjectMap α) : List ObjectId := m.entries.toList.map Prod.fst

def size (m : ObjectMap α) : Nat := m.entries.size

theorem ext {a b : ObjectMap α} (h : ∀ id, a.get? id = b.get? id) : a = b := by
  obtain ⟨entries, _⟩ := a
  obtain ⟨entries', _⟩ := b
  have heq : entries = entries' := Std.ExtTreeMap.ext_getElem? fun {id} => h id
  subst heq
  rfl

@[simp] theorem get?_empty (id : ObjectId) : (∅ : ObjectMap α).get? id = none :=
  Std.ExtTreeMap.getElem?_empty

theorem get?_insert (m : ObjectMap α) (object : α) (id : ObjectId) :
    (m.insert object).get? id = if identity object = id then some object else m.get? id := by
  simp [get?, insert, Std.ExtTreeMap.getElem?_insert]

theorem get?_erase (m : ObjectMap α) (gone id : ObjectId) :
    (m.erase gone).get? id = if gone = id then none else m.get? id := by
  simp [get?, erase, Std.ExtTreeMap.getElem?_erase]

theorem get?_foldl_insert {objects : List α} {id : ObjectId}
    (h : ∀ object ∈ objects, identity object ≠ id) (m : ObjectMap α) :
    (objects.foldl insert m).get? id = m.get? id := by
  induction objects generalizing m with
  | nil => rfl
  | cons object objects ih =>
      obtain ⟨hne, hrest⟩ := List.forall_mem_cons.mp h
      rw [List.foldl_cons, ih hrest, get?_insert, if_neg hne]

theorem map_get?_insert {τ : Type} {f : α → τ} {m : ObjectMap α} {old new : α}
    (hold : m.get? (identity old) = some old) (hid : identity new = identity old)
    (hsame : f new = f old) (id : ObjectId) :
    ((m.insert new).get? id).map f = (m.get? id).map f := by
  rw [get?_insert]
  split
  · rename_i hnew
    rw [← hnew, hid, hold, Option.map_some, Option.map_some, hsame]
  · rfl

theorem erase_insert {m : ObjectMap α} {object : α} (h : m.get? (identity object) = none) :
    (m.insert object).erase (identity object) = m := by
  apply ext
  intro id
  rw [get?_erase, get?_insert]
  split
  · rename_i hid
    rw [← hid, h]
  · rfl

theorem identity_of_get? {m : ObjectMap α} {id : ObjectId} {object : α}
    (h : m.get? id = some object) : identity object = id :=
  m.identity_eq id object h

theorem mem_objects {m : ObjectMap α} {object : α} :
    object ∈ m.objects ↔ m.get? (identity object) = some object := by
  simp only [objects, List.mem_map, Prod.exists, exists_eq_right,
    Std.ExtTreeMap.mem_toList_iff_getElem?_eq_some]
  constructor
  · rintro ⟨id, h⟩
    rwa [get?, m.identity_eq id object h]
  · intro h
    exact ⟨identity object, h⟩

theorem get?_eq_some_iff {m : ObjectMap α} {id : ObjectId} {object : α} :
    m.get? id = some object ↔ object ∈ m.objects ∧ identity object = id := by
  constructor
  · intro h
    have hid := identity_of_get? h
    exact ⟨mem_objects.mpr (hid ▸ h), hid⟩
  · rintro ⟨hmem, rfl⟩
    exact mem_objects.mp hmem

theorem pairwise_objects (m : ObjectMap α) :
    m.objects.Pairwise fun object other => identity object ≠ identity other := by
  rw [objects, List.pairwise_map]
  refine List.Pairwise.imp_of_mem ?_ Std.ExtTreeMap.distinct_keys_toList
  rintro ⟨id, object⟩ ⟨other, another⟩ hmem hmem' hne heq
  rw [Std.ExtTreeMap.mem_toList_iff_getElem?_eq_some] at hmem hmem'
  rw [m.identity_eq id object hmem, m.identity_eq other another hmem'] at heq
  exact hne (heq ▸ Std.ReflCmp.compare_self)

end ObjectMap

end FeatureLabels
