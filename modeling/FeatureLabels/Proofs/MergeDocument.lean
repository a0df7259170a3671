import FeatureLabels.Json.Merge
import FeatureLabels.Proofs.EditEffect
import FeatureLabels.Resource.Document

namespace FeatureLabels

namespace Json

theorem lookup_cons (name : String) (value : Json) (members : List (String × Json))
    (other : String) :
    lookup ((name, value) :: members) other =
      (lookup members other).or (if name = other then some value else none) := by
  rw [lookup, List.reverse_cons, List.find?_append, lookup]
  cases members.reverse.find? fun m => m.1 == other with
  | none => by_cases h : name = other <;> simp [h]
  | some m => simp

theorem lookup_append (members more : List (String × Json)) (name : String) :
    lookup (members ++ more) name = (lookup more name).or (lookup members name) := by
  rw [lookup, List.reverse_append, List.find?_append, Option.map_or, lookup, lookup]

theorem lookup_replaced (members : List (String × Json)) (name other : String) (value : Json) :
    lookup (members.map fun m => if m.1 == name then (name, value) else m) other =
      (lookup members other).map fun old => if name = other then value else old := by
  induction members with
  | nil => rfl
  | cons m members ih =>
      obtain ⟨found, old⟩ := m
      rw [List.map_cons, lookup_cons, ih, lookup_cons, Option.map_or]
      by_cases hname : found = name
      · subst hname
        by_cases h : found = other <;> simp [h]
      · by_cases h : found = other
        · subst h
          simp [hname, Ne.symm hname]
        · simp [hname, h]

theorem lookup_setMember (members : List (String × Json)) (name other : String) (value : Json) :
    lookup (setMember members name value) other =
      if name = other then some value else lookup members other := by
  rw [setMember]
  split
  · rename_i hany
    obtain ⟨m, hm, hname⟩ := List.any_eq_true.mp hany
    have hfound : (lookup members name).isSome = true := by
      rw [lookup, Option.isSome_map, List.find?_isSome]
      exact ⟨m, List.mem_reverse.mpr hm, hname⟩
    rw [lookup_replaced]
    by_cases h : name = other
    · subst h
      obtain ⟨old, hold⟩ := Option.isSome_iff_exists.mp hfound
      simp [hold]
    · simp [h]
  · rw [lookup_append, lookup_cons]
    by_cases h : name = other <;> simp [h, lookup]

theorem lookup_dropMember (members : List (String × Json)) (name other : String) :
    lookup (dropMember members name) other =
      if name = other then none else lookup members other := by
  rw [lookup, dropMember, ← List.filter_reverse, List.find?_filter, lookup]
  by_cases h : name = other
  · subst h
    simp
  · rw [if_neg h]
    congr 2
    funext m
    by_cases hm : m.1 = other
    · simp [hm, Ne.symm h]
    · simp [hm]

/-- A member that a document of labels may have as a patch: a text, or null for a label that
goes. -/
def IsMark (value : Json) : Prop := value = .null ∨ ∃ text, value = .string text

theorem lookup_mergeMembers {patch : List (String × Json)} (hpatch : ∀ m ∈ patch, IsMark m.2)
    (members : List (String × Json)) (name : String) :
    lookup (mergeMembers members patch) name =
      ((lookup patch name).map fun mark => mark.string?.map .string).getD
        (lookup members name) := by
  induction patch generalizing members with
  | nil => simp [mergeMembers, lookup]
  | cons m patch ih =>
      obtain ⟨marked, value⟩ := m
      obtain ⟨hmark, hrest⟩ := List.forall_mem_cons.mp hpatch
      rw [lookup_cons]
      rcases hmark with hnull | ⟨text, htext⟩
      · obtain rfl : value = .null := hnull
        rw [mergeMembers, ih hrest, lookup_dropMember]
        cases lookup patch name <;> by_cases h : marked = name <;> simp [h, string?]
      · obtain rfl : value = .string text := htext
        rw [mergeMembers, ih hrest, lookup_setMember]
        · cases lookup patch name <;> by_cases h : marked = name <;> simp [h, string?, merge]
        · simp

theorem merge_object_singleton (members patch : List (String × Json)) (name : String) :
    merge (.object members) (.object [(name, .object patch)]) =
      .object (setMember members name
        (merge ((lookup members name).getD .null) (.object patch))) := by
  simp [merge, mergeMembers]

theorem merge_null_object (patch : List (String × Json)) :
    merge .null (.object patch) = .object (mergeMembers [] patch) := by
  simp [merge]

theorem members?_eq_some_iff {doc : Json} {members : List (String × Json)} :
    doc.members? = some members ↔ doc = .object members := by
  cases doc <;> simp [members?]

def AllTexts (members : List (String × Json)) : Prop :=
  ∀ m ∈ members, ∃ text, m.2 = .string text

theorem AllTexts.mergeMembers {members patch : List (String × Json)} (hmembers : AllTexts members)
    (hpatch : ∀ m ∈ patch, IsMark m.2) : AllTexts (mergeMembers members patch) := by
  induction patch generalizing members with
  | nil => simpa [Json.mergeMembers] using hmembers
  | cons m patch ih =>
      obtain ⟨marked, value⟩ := m
      obtain ⟨hmark, hrest⟩ := List.forall_mem_cons.mp hpatch
      rcases hmark with hnull | ⟨text, htext⟩
      · obtain rfl : value = .null := hnull
        rw [Json.mergeMembers]
        exact ih (fun m hm => hmembers m (List.mem_filter.mp hm).1) hrest
      · obtain rfl : value = .string text := htext
        rw [Json.mergeMembers]
        · refine ih ?_ hrest
          intro m hm
          rw [merge, setMember] at hm
          · split at hm
            · obtain ⟨old, hold, rfl⟩ := List.mem_map.mp hm
              split
              · exact ⟨text, rfl⟩
              · exact hmembers old hold
            · rcases List.mem_append.mp hm with hm | hm
              · exact hmembers m hm
              · obtain rfl := List.mem_singleton.mp hm
                exact ⟨text, rfl⟩
          · simp
        · simp

def ofLabel (label : String × String) : String × Json := (label.1, .string label.2)

theorem allTexts_iff {members : List (String × Json)} :
    AllTexts members ↔ ∃ pairs : List (String × String), members = pairs.map ofLabel := by
  constructor
  · intro h
    refine ⟨members.map fun m => (m.1, m.2.string?.getD ""), ?_⟩
    rw [List.map_map]
    refine ((List.map_congr_left fun m hm => ?_).trans (List.map_id members)).symm
    obtain ⟨name, value⟩ := m
    obtain ⟨text, rfl⟩ := h _ hm
    rfl
  · rintro ⟨pairs, rfl⟩ m hm
    obtain ⟨label, -, rfl⟩ := List.mem_map.mp hm
    exact ⟨label.2, rfl⟩

theorem lookup_map_ofLabel (pairs : List (String × String)) (key : String) :
    lookup (pairs.map ofLabel) key = (LabelMap.ofPairs pairs)[key]?.map .string := by
  rw [lookup, LabelMap.getElem?_ofPairs, ← List.map_reverse, List.find?_map, Option.map_map,
    Option.map_map]
  rfl

theorem labels?_map_ofLabel (pairs : List (String × String)) :
    labels? (.object (pairs.map ofLabel)) = some (LabelMap.ofPairs pairs) := by
  have hread : (pairs.map ofLabel).mapM
      (fun m => (string? m.2).map fun value => (m.1, value)) = some pairs := by
    induction pairs with
    | nil => rfl
    | cons label pairs ih => rw [List.map_cons, List.mapM_cons, ih]; rfl
  rw [labels?, hread]
  rfl

theorem allTexts_of_mapM {members : List (String × Json)} {pairs : List (String × String)}
    (h : members.mapM (fun m => (string? m.2).map fun value => (m.1, value)) = some pairs) :
    AllTexts members := by
  induction members generalizing pairs with
  | nil => simp [AllTexts]
  | cons m members ih =>
      rw [List.mapM_cons] at h
      obtain ⟨label, hlabel, h⟩ := Option.bind_eq_some_iff.mp h
      obtain ⟨rest, hrest, -⟩ := Option.bind_eq_some_iff.mp h
      refine List.forall_mem_cons.mpr ⟨?_, ih hrest⟩
      obtain ⟨name, value⟩ := m
      cases value with
      | string text => exact ⟨text, rfl⟩
      | _ => simp [string?] at hlabel

theorem labels?_object_eq_some_iff {members : List (String × Json)} {labels : LabelMap} :
    labels? (.object members) = some labels ↔
      AllTexts members ∧ ∀ key : String, labels[key]? = (lookup members key).bind string? := by
  have hlabels : ∀ pairs : List (String × String), ∀ key : String,
      (LabelMap.ofPairs pairs)[key]? = (lookup (pairs.map ofLabel) key).bind string? := by
    intro pairs key
    rw [lookup_map_ofLabel]
    cases (LabelMap.ofPairs pairs)[key]? <;> rfl
  constructor
  · intro h
    obtain ⟨_, hread, -⟩ := Option.bind_eq_some_iff.mp h
    have htexts := allTexts_of_mapM hread
    obtain ⟨pairs, rfl⟩ := allTexts_iff.mp htexts
    rw [labels?_map_ofLabel] at h
    obtain rfl := Option.some.inj h
    exact ⟨htexts, hlabels pairs⟩
  · rintro ⟨htexts, h⟩
    obtain ⟨pairs, rfl⟩ := allTexts_iff.mp htexts
    rw [labels?_map_ofLabel]
    exact congrArg some (LabelMap.ext fun key => (hlabels pairs key).trans (h key).symm)

theorem labels?_mergeMembers {members patch : List (String × Json)} {labels : LabelMap}
    (hlabels : labels? (.object members) = some labels) (hpatch : ∀ m ∈ patch, IsMark m.2)
    {merged : LabelMap}
    (hmerged : ∀ key : String,
      merged[key]? = ((lookup patch key).map string?).getD labels[key]?) :
    labels? (.object (mergeMembers members patch)) = some merged := by
  obtain ⟨htexts, hshown⟩ := labels?_object_eq_some_iff.mp hlabels
  refine labels?_object_eq_some_iff.mpr ⟨htexts.mergeMembers hpatch, fun key => ?_⟩
  rw [hmerged, hshown, lookup_mergeMembers hpatch]
  cases lookup patch key with
  | none => rfl
  | some mark =>
      rw [Option.map_some, Option.map_some, Option.getD_some, Option.getD_some]
      cases mark.string? <;> rfl

/-- The labels that the document of an object shows; an object may show none. -/
def shownLabels? (doc : Json) : Option LabelMap := do
  let members ← doc.members?
  required members "metadata" fun metadata => do
    let members ← metadata.members?
    (Json.optional members "labels" labels?).map fun labels => labels.getD ∅

end Json

namespace LabelEdit

open Json

theorem lookup_toList (marks : Std.ExtTreeMap String Json) (key : String) :
    lookup marks.toList key = marks[key]? :=
  LabelMap.find?_reverse_toList marks key

theorem getElem?_foldl_insert_null (keys : List String) (marks : Std.ExtTreeMap String Json)
    (key : String) :
    (keys.foldl (fun marks key => marks.insert key .null) marks)[key]? =
      if key ∈ keys then some Json.null else marks[key]? := by
  induction keys generalizing marks with
  | nil => simp
  | cons gone keys ih =>
      rw [List.foldl_cons, ih]
      by_cases hmem : key ∈ keys
      · simp [hmem]
      · by_cases h : gone = key
        · simp [h]
        · simp [hmem, h, Ne.symm h, Std.ExtTreeMap.getElem?_insert]

theorem getElem?_marks (e : LabelEdit) (key : String) :
    e.marks[key]? = (e.effect key).map fun value => value.elim Json.null .string := by
  rw [marks, Std.ExtTreeSet.foldl_eq_foldl_toList, getElem?_foldl_insert_null, effect]
  simp only [Std.ExtTreeSet.mem_toList]
  by_cases h : key ∈ e.removals
  · simp [h]
  · cases hvalue : e.upserts[key]? <;> simp [h, hvalue]

theorem isMark_of_mem_marks {e : LabelEdit} {m : String × Json} (h : m ∈ e.marks.toList) :
    IsMark m.2 := by
  have hmark := Std.ExtTreeMap.mem_toList_iff_getElem?_eq_some.mp h
  rw [getElem?_marks] at hmark
  obtain ⟨value, -, hvalue⟩ := Option.map_eq_some_iff.mp hmark
  cases value with
  | none => exact .inl hvalue.symm
  | some text => exact .inr ⟨text, hvalue.symm⟩

theorem labels?_merge_marks (e : LabelEdit) {members : List (String × Json)} {labels : LabelMap}
    (h : labels? (.object members) = some labels) :
    labels? (.object (mergeMembers members e.marks.toList)) = some (e.applyTo labels) := by
  refine labels?_mergeMembers h (fun m hm => isMark_of_mem_marks hm) fun key => ?_
  rw [getElem?_applyTo_effect, lookup_toList, getElem?_marks]
  rcases e.effect key with _ | _ | value <;> rfl

theorem labels?_merge_optional (e : LabelEdit) {fields : List (String × Json)}
    {labels : Option LabelMap} (h : Json.optional fields "labels" labels? = some labels) :
    labels? (merge ((lookup fields "labels").getD .null) (.object e.marks.toList)) =
      some (e.applyTo (labels.getD ∅)) := by
  have hnone : labels? (.object []) = some ∅ := rfl
  rw [Json.optional] at h
  split at h
  · rename_i hlookup
    obtain rfl := Option.some.inj h
    rw [hlookup, Option.getD_none, merge_null_object]
    exact labels?_merge_marks e hnone
  · rename_i hlookup
    obtain rfl := Option.some.inj h
    rw [hlookup, Option.getD_some, merge_null_object]
    exact labels?_merge_marks e hnone
  · rename_i shown _ hlookup
    obtain ⟨found, hfound, rfl⟩ := Option.map_eq_some_iff.mp h
    rw [hlookup, Option.getD_some]
    cases shown with
    | object members =>
        rw [merge]
        exact labels?_merge_marks e hfound
    | _ => simp [labels?] at hfound

/-- An apiserver that merges the document of a change into the document of an object makes that
change of the object's labels. -/
theorem shownLabels?_merge (e : LabelEdit) {doc : Json} {labels : LabelMap}
    (h : doc.shownLabels? = some labels) :
    (doc.merge e.document).shownLabels? = some (e.applyTo labels) := by
  obtain ⟨members, hmembers, h⟩ := Option.bind_eq_some_iff.mp h
  rw [required] at h
  cases hmetadata : lookup members "metadata" with
  | none => simp [hmetadata] at h
  | some metadata =>
      rw [hmetadata] at h
      obtain ⟨fields, hfields, hread⟩ := Option.bind_eq_some_iff.mp h
      obtain ⟨found, hfound, rfl⟩ := Option.map_eq_some_iff.mp hread
      obtain rfl := members?_eq_some_iff.mp hmembers
      obtain rfl := members?_eq_some_iff.mp hfields
      have hlabels := labels?_merge_optional e hfound
      rw [document, merge_object_singleton, hmetadata, Option.getD_some, merge_object_singleton]
      generalize merge ((lookup fields "labels").getD .null) (.object e.marks.toList) = merged
        at hlabels
      have hmerged : Json.optional (setMember fields "labels" merged) "labels" labels? =
          some (some (e.applyTo (found.getD ∅))) := by
        rw [Json.optional, lookup_setMember, if_pos rfl]
        cases merged with
        | null => simp [labels?] at hlabels
        | _ => simp [hlabels]
      simp [shownLabels?, members?, required, lookup_setMember, hmerged]

end LabelEdit

end FeatureLabels
