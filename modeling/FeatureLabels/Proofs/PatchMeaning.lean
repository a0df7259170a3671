import FeatureLabels.Proofs.ReadBack
import FeatureLabels.Proofs.RepeatedMerge

namespace FeatureLabels

namespace Json

def inner? (members : List (String × Json)) (name : String) : Option (List (String × Json)) :=
  match lookup members name with
  | none => some []
  | some value => value.members?

structure Sets (before after : List (String × Json)) (name : String) (value : Json) : Prop where
  value_eq : lookup after name = some value
  others_eq : dropMember after name = dropMember before name

variable {members fields patch : List (String × Json)} {name : String}

theorem sets_setMember (members : List (String × Json)) (name : String) (value : Json) :
    Sets members (setMember members name value) name value := by
  constructor
  · rw [lookup_setMember, if_pos rfl]
  · exact filter_setMember (p := (· != name)) (by simp) members value

theorem merge_inner (h : inner? members name = some fields) :
    merge ((lookup members name).getD .null) (.object patch) =
      .object (mergeMembers fields patch) := by
  rw [inner?] at h
  split at h
  · rename_i hlookup
    obtain rfl := Option.some.inj h
    rw [hlookup, Option.getD_none, merge_null_object]
  · rename_i value hlookup
    obtain rfl := members?_eq_some_iff.mp h
    rw [hlookup, Option.getD_some, merge]

end Json

open Json

namespace LabelEdit

/-- Members of labels are what a change makes of them: its removals are gone, its upserts are there,
and all others are as before. -/
def Relabels (e : LabelEdit) (before after : List (String × Json)) : Prop :=
  ∀ key, lookup after key =
    if key ∈ e.removals then none else (e.upserts[key]?.map Json.string).or (lookup before key)

theorem relabels_mergeMembers (e : LabelEdit) (members : List (String × Json)) :
    e.Relabels members (mergeMembers members e.marks.toList) := by
  intro key
  rw [lookup_mergeMembers fun m hm => isMark_of_mem_marks hm, lookup_toList, getElem?_marks, effect]
  split
  · rfl
  · cases e.upserts[key]? <;> rfl

theorem readable_document (e : LabelEdit) : e.document.Readable := by
  refine ⟨⟨readableMembers_iff.mpr fun m hm => ?_, trivial⟩, trivial⟩
  rcases isMark_of_mem_marks hm with h | ⟨text, h⟩
  · rw [h]
    trivial
  · rw [h]
    trivial

theorem repeatable_document (e : LabelEdit) : Repeatable e.document := by
  have hmarks : Repeatable (.object e.marks.toList) := by
    apply repeatable_object
    · rw [Std.ExtTreeMap.map_fst_toList_eq_keys]
      exact Std.ExtTreeMap.nodup_keys
    · intro m hm
      apply repeatable_of_members?
      rcases isMark_of_mem_marks hm with h | ⟨text, h⟩ <;> rw [h] <;> rfl
  have hlabels : Repeatable (.object [("labels", .object e.marks.toList)]) :=
    repeatable_object (by simp) (by simpa using hmarks)
  exact repeatable_object (by simp) (by simpa using hlabels)

end LabelEdit

/-- The text of a change is read back as a patch. Merged into the document of an object, the patch
makes the change of the object's labels and leaves all else as it is; merged once more, it changes
nothing. -/
theorem document_carriesChange (e : LabelEdit) :
    ∃ patch, Json.ofText? e.document.text = some patch ∧
      (∀ members fields labels : List (String × Json),
        inner? members "metadata" = some fields → inner? fields "labels" = some labels →
        ∃ members' fields' labels', (Json.object members).merge patch = .object members' ∧
          Sets members members' "metadata" (.object fields') ∧
          Sets fields fields' "labels" (.object labels') ∧ e.Relabels labels labels') ∧
      ∀ doc : Json, (doc.merge patch).merge patch = doc.merge patch := by
  refine ⟨e.document, ofText?_text e.readable_document, ?_, e.repeatable_document⟩
  intro members fields labels hfields hlabels
  have hmerged : (Json.object members).merge e.document =
      .object (setMember members "metadata" (.object (setMember fields "labels"
        (.object (mergeMembers labels e.marks.toList))))) := by
    rw [LabelEdit.document, merge_object_singleton, merge_inner hfields,
      mergeMembers_cons_of_ne_null (by simp), merge_inner hlabels, mergeMembers]
  exact ⟨_, _, _, hmerged, sets_setMember _ _ _, sets_setMember _ _ _,
    e.relabels_mergeMembers labels⟩

namespace Sample

def awkwardEdit : LabelEdit where
  upserts := .ofPairs [("both", "x"), ("a \"key\"\\\n\x01é😀", "\t")]
  removals := .ofList ["both", "gone"]

def labelMembers : List (String × Json) :=
  [("both", .string "old"), ("gone", .string "old"), ("kept", .string "old")]

def metadataMembers : List (String × Json) :=
  [("name", .string "c1"), ("labels", .object labelMembers)]

def clusterMembers : List (String × Json) :=
  [("kind", .string "ManagedCluster"), ("metadata", .object metadataMembers)]

end Sample

theorem document_carriesChange_sample :
    inner? Sample.clusterMembers "metadata" = some Sample.metadataMembers ∧
    inner? Sample.metadataMembers "labels" = some Sample.labelMembers ∧
    ∃ patch members' fields' labels', Json.ofText? Sample.awkwardEdit.document.text = some patch ∧
      (Json.object Sample.clusterMembers).merge patch = .object members' ∧
      Sets Sample.clusterMembers members' "metadata" (.object fields') ∧
      Sets Sample.metadataMembers fields' "labels" (.object labels') ∧
      lookup labels' "both" = none ∧ lookup labels' "gone" = none ∧
      lookup labels' "kept" = some (.string "old") := by
  have hfields : inner? Sample.clusterMembers "metadata" = some Sample.metadataMembers := rfl
  have hlabels : inner? Sample.metadataMembers "labels" = some Sample.labelMembers := rfl
  obtain ⟨patch, htext, hmerge, -⟩ := document_carriesChange Sample.awkwardEdit
  obtain ⟨members', fields', labels', hmerged, hmembers, hinner, hrelabels⟩ :=
    hmerge _ _ _ hfields hlabels
  refine ⟨hfields, hlabels, patch, members', fields', labels', htext, hmerged, hmembers, hinner,
    ?_, ?_, ?_⟩
  · rw [hrelabels "both", if_pos (by decide)]
  · rw [hrelabels "gone", if_pos (by decide)]
  · rw [hrelabels "kept", if_neg (by decide)]
    rfl

end FeatureLabels
