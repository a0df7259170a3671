import FeatureLabels.Proofs.MergeDocument
import FeatureLabels.Proofs.TimestampText

/-!
The normal form of documents. A reader skips, fills in and shifts; what is written afterwards
leaves it nothing to do, and is read as the very same object.
-/

namespace FeatureLabels

namespace Json

variable {α : Type} {read : Json → Option α} {write : α → Json} {P : α → Prop}
  {members written : List (String × Json)} {name : String}

/-- What was read of some document, and has the property, is read again from what is written for
it. That is never the null which counts as missing. -/
def Normalises (read : Json → Option α) (write : α → Json) (P : α → Prop) : Prop :=
  ∀ (json : Json) (value : α), read json = some value → P value →
    write value ≠ .null ∧ read (write value) = some value

theorem normalises_string : Normalises string? .string fun _ => True :=
  fun _ _ _ _ => ⟨by simp, rfl⟩

theorem normalises_bool : Normalises bool? .bool fun _ => True :=
  fun _ _ _ _ => ⟨by simp, rfl⟩

theorem eq_ofInt_of_intBetween? {low high n : Int} {json : Json}
    (h : intBetween? low high json = some n) : json = ofInt n := by
  rw [intBetween?.eq_def] at h
  split at h
  · split at h
    · exact congrArg ofInt (Option.some.inj h)
    · contradiction
  · contradiction

theorem normalises_intBetween (low high : Int) :
    Normalises (intBetween? low high) ofInt fun _ => True := by
  intro json n h _
  obtain rfl := eq_ofInt_of_intBetween? h
  exact ⟨nofun, h⟩

theorem normalises_int64 : Normalises int64? ofInt fun _ => True := normalises_intBetween _ _

theorem normalises_timestamp :
    Normalises timestamp? Timestamp.toJson Timestamp.FourDigitYear := by
  intro _ t _ hyear
  refine ⟨nofun, ?_⟩
  rw [timestamp?, Timestamp.toJson, string?, Option.bind_some]
  exact Timestamp.ofText?_text hyear

theorem content?_of_ne_null {json : Json} (h : json ≠ .null) :
    content? json = some json.sorted := by
  cases json with
  | null => exact absurd rfl h
  | _ => rfl

theorem normalises_content : Normalises content? id fun _ => True := by
  intro json value h _
  have hjson : json ≠ .null := by
    rintro rfl
    cases h
  rw [content?_of_ne_null hjson] at h
  obtain rfl := Option.some.inj h
  refine ⟨sorted_ne_null hjson, ?_⟩
  rw [id_eq, content?_of_ne_null (sorted_ne_null hjson), sorted_sorted]

theorem normalises_labels : Normalises labels? ofLabels fun _ => True := by
  intro _ labels _ _
  refine ⟨nofun, ?_⟩
  have hread := labels?_map_ofLabel labels.toList
  rwa [LabelMap.ofPairs_toList] at hread

theorem bind_of_eq_some {β : Type} {step : Option α} {value : α} {rest : α → Option β}
    (h : step = some value) : (step >>= rest) = rest value := by
  rw [h]
  rfl

theorem lookup_nil (name : String) : lookup [] name = none := rfl

theorem lookup_field (name other : String) (value : Option α) (write : α → Json) :
    lookup (field name value write) other = if name = other then value.map write else none := by
  cases value with
  | none => simp [field, lookup]
  | some value =>
      rw [field, lookup_cons]
      by_cases h : name = other <;> simp [h, lookup]

theorem optional_of_lookup {value : Json} (h : lookup members name = some value)
    (hnull : value ≠ .null) : optional members name read = (read value).map some := by
  rw [optional, h]
  cases value <;> first | rfl | exact absurd rfl hnull

theorem exists_of_optional {value : α} (h : optional members name read = some (some value)) :
    ∃ json, read json = some value := by
  rw [optional] at h
  split at h
  · simp at h
  · simp at h
  · rename_i json _ _
    obtain ⟨found, hfound, hvalue⟩ := Option.map_eq_some_iff.mp h
    obtain rfl := Option.some.inj hvalue
    exact ⟨json, hfound⟩

theorem exists_of_required {value : α} (h : required members name read = some value) :
    ∃ json, read json = some value := by
  rw [required] at h
  split at h
  · contradiction
  · rename_i json _
    exact ⟨json, h⟩

theorem Normalises.optional (hread : Normalises read write P) {value : Option α}
    (h : Json.optional members name read = some value) (hvalue : ∀ v ∈ value, P v)
    (hwritten : lookup written name = value.map write) :
    Json.optional written name read = some value := by
  cases value with
  | none => rw [Json.optional, hwritten]; rfl
  | some v =>
      obtain ⟨json, hjson⟩ := exists_of_optional h
      obtain ⟨hnull, hback⟩ := hread json v hjson (hvalue v rfl)
      rw [optional_of_lookup hwritten hnull, hback, Option.map_some]

theorem Normalises.required (hread : Normalises read write P) {value : α}
    (h : Json.required members name read = some value) (hvalue : P value)
    (hwritten : lookup written name = some (write value)) :
    Json.required written name read = some value := by
  obtain ⟨json, hjson⟩ := exists_of_required h
  rw [Json.required, hwritten]
  exact (hread json value hjson hvalue).2

theorem optionalText_of_lookup {text : String} (h : lookup members name = some (.string text)) :
    optionalText members name = some text := by
  rw [optionalText, optional_of_lookup h (by simp)]
  rfl

theorem record?_object {fields : List String}
    (h : ∀ f ∈ fields, (members.filter fun m => m.1 == f).length ≤ 1) :
    record? fields (.object members) = some members :=
  if_pos (List.all_eq_true.mpr fun f hf => decide_eq_true (h f hf))

theorem record?_field (name : String) (value : Option α) (write : α → Json) :
    record? [name] (.object (field name value write)) = some (field name value write) := by
  refine record?_object ?_
  cases value <;> simp [field]

theorem Normalises.mapM (hread : Normalises read write P) {items : List Json} {values : List α}
    (h : items.mapM read = some values) (hvalues : ∀ v ∈ values, P v) :
    (values.map write).mapM read = some values := by
  induction items generalizing values with
  | nil =>
      obtain rfl := Option.some.inj h
      rfl
  | cons item items ih =>
      rw [List.mapM_cons] at h
      obtain ⟨v, hv, h⟩ := Option.bind_eq_some_iff.mp h
      obtain ⟨rest, hrest, h⟩ := Option.bind_eq_some_iff.mp h
      obtain rfl := Option.some.inj h
      obtain ⟨hfirst, hothers⟩ := List.forall_mem_cons.mp hvalues
      rw [List.map_cons, List.mapM_cons, (hread item v hv hfirst).2, ih hrest hothers]
      rfl

theorem Normalises.list (hread : Normalises read write P) :
    Normalises (list? read) (ofList write) fun values => ∀ v ∈ values, P v := by
  intro json values h hvalues
  obtain ⟨items, -, hitems⟩ := Option.bind_eq_some_iff.mp h
  exact ⟨nofun, hread.mapM hitems hvalues⟩

end Json

end FeatureLabels
