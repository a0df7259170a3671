import FeatureLabels.Json.Basic
import FeatureLabels.LabelMap

namespace FeatureLabels.Json

mutual

/-- The document with the members of every object in the order of their names; of several members
with one name the last is kept. Numbers stay as they are written. -/
def sorted : Json → Json
  | .array items => .array (sortedItems items)
  | .object members => .object (LabelMap.ofPairs (sortedMembers members)).toList
  | json => json

def sortedItems : List Json → List Json
  | [] => []
  | item :: items => item.sorted :: sortedItems items

def sortedMembers : List (String × Json) → List (String × Json)
  | [] => []
  | (name, value) :: members => (name, value.sorted) :: sortedMembers members

end

theorem sorted_ne_null {json : Json} (h : json ≠ .null) : json.sorted ≠ .null := by
  cases json with
  | null => exact absurd rfl h
  | _ => simp [sorted]

theorem sortedMembers_eq_self {members : List (String × Json)}
    (h : ∀ m ∈ members, m.2.sorted = m.2) : sortedMembers members = members := by
  induction members with
  | nil => rfl
  | cons m members ih =>
      obtain ⟨hfirst, hrest⟩ := List.forall_mem_cons.mp h
      rw [sortedMembers, hfirst, ih hrest]

mutual

theorem sorted_sorted : (json : Json) → json.sorted.sorted = json.sorted
  | .null => rfl
  | .bool _ => rfl
  | .number _ => rfl
  | .string _ => rfl
  | .array items => by rw [sorted, sorted, sortedItems_sortedItems items]
  | .object members => by
      have hvalues : ∀ m ∈ (LabelMap.ofPairs (sortedMembers members)).toList,
          m.2.sorted = m.2 := fun m hm =>
        sorted_of_mem members m (LabelMap.mem_of_mem_ofPairs hm)
      rw [sorted, sorted, sortedMembers_eq_self hvalues, LabelMap.ofPairs_toList]

theorem sortedItems_sortedItems :
    (items : List Json) → sortedItems (sortedItems items) = sortedItems items
  | [] => rfl
  | item :: items => by
      rw [sortedItems, sortedItems, item.sorted_sorted, sortedItems_sortedItems items]

theorem sorted_of_mem :
    (members : List (String × Json)) → ∀ m ∈ sortedMembers members, m.2.sorted = m.2
  | [] => fun m hm => absurd hm List.not_mem_nil
  | (name, value) :: members => by
      rw [sortedMembers]
      exact List.forall_mem_cons.mpr ⟨value.sorted_sorted, sorted_of_mem members⟩

end

end FeatureLabels.Json
