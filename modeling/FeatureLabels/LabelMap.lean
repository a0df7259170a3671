import Std.Data.ExtTreeMap
import Std.Data.ExtTreeSet

namespace FeatureLabels

abbrev LabelMap := Std.ExtTreeMap String String

abbrev KeySet := Std.ExtTreeSet String

namespace LabelMap

variable {β : Type}

/-- The map of a list of pairs, in which a later pair wins over an earlier one. -/
def ofPairs (pairs : List (String × β)) : Std.ExtTreeMap String β :=
  pairs.foldl (fun map p => map.insert p.1 p.2) ∅

theorem ext {a b : LabelMap} (h : ∀ key : String, a[key]? = b[key]?) : a = b :=
  Std.ExtTreeMap.ext_getElem? h

theorem foldl_insert_getElem? (pairs : List (String × β)) (map : Std.ExtTreeMap String β)
    (key : String) :
    (pairs.foldl (fun map p => map.insert p.1 p.2) map)[key]? =
      ((pairs.reverse.find? fun p => p.1 == key).map Prod.snd).or map[key]? := by
  induction pairs generalizing map with
  | nil => simp
  | cons p pairs ih =>
    rw [List.foldl_cons, ih, List.reverse_cons, List.find?_append]
    by_cases h : p.1 = key
    · cases hf : pairs.reverse.find? fun p => p.1 == key <;> simp [h]
    · cases hf : pairs.reverse.find? fun p => p.1 == key <;>
        simp [h, Std.ExtTreeMap.getElem?_insert]

theorem getElem?_ofPairs (pairs : List (String × β)) (key : String) :
    (ofPairs pairs)[key]? = (pairs.reverse.find? fun p => p.1 == key).map Prod.snd := by
  simp [ofPairs, foldl_insert_getElem?]

theorem find?_reverse_toList (m : Std.ExtTreeMap String β) (key : String) :
    (m.toList.reverse.find? fun p => p.1 == key).map Prod.snd = m[key]? := by
  cases hfind : m.toList.reverse.find? fun p => p.1 == key with
  | none =>
      symm
      rw [Option.map_none, Option.eq_none_iff_forall_ne_some]
      intro value hvalue
      have hmem := Std.ExtTreeMap.mem_toList_iff_getElem?_eq_some.mpr hvalue
      simpa using List.find?_eq_none.mp hfind _ (List.mem_reverse.mpr hmem)
  | some p =>
      have hkey : p.1 = key := by simpa using List.find?_some hfind
      have hmem := List.mem_reverse.mp (List.mem_of_find?_eq_some hfind)
      rw [Option.map_some, ← hkey]
      exact (Std.ExtTreeMap.mem_toList_iff_getElem?_eq_some.mp hmem).symm

theorem ofPairs_toList (m : Std.ExtTreeMap String β) : ofPairs m.toList = m :=
  Std.ExtTreeMap.ext_getElem? fun key =>
    (getElem?_ofPairs _ key).trans (find?_reverse_toList m key)

theorem mem_of_mem_ofPairs {pairs : List (String × β)} {p : String × β}
    (h : p ∈ (ofPairs pairs).toList) : p ∈ pairs := by
  have hvalue := Std.ExtTreeMap.mem_toList_iff_getElem?_eq_some.mp h
  rw [getElem?_ofPairs, Option.map_eq_some_iff] at hvalue
  obtain ⟨found, hfound, hsnd⟩ := hvalue
  have hfst : found.1 = p.1 := by simpa using List.find?_some hfound
  have hsame : found = p := Prod.ext hfst hsnd
  exact hsame ▸ List.mem_reverse.mp (List.mem_of_find?_eq_some hfound)

end LabelMap

end FeatureLabels
