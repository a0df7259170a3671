import Mathlib.Data.List.Basic
import FeatureLabels.Proofs.MergeDocument

namespace FeatureLabels.Json

def occurrences (members : List (String × Json)) (name : String) : List (String × Json) :=
  members.filter fun m => m.1 == name

/-- A name occurs, and has the same value wherever it does. -/
def Carries (members : List (String × Json)) (name : String) (value : Json) : Prop :=
  ∃ more, occurrences members name = List.replicate (more + 1) (name, value)

variable {members patch : List (String × Json)} {name other : String} {value : Json}

theorem lookup_eq_getLast? (members : List (String × Json)) (name : String) :
    lookup members name = (occurrences members name).getLast?.map Prod.snd := by
  rw [lookup, occurrences, List.getLast?_eq_head?_reverse, ← List.filter_reverse, List.head?_filter]

theorem filter_replaced (members : List (String × Json)) (name : String) (value : Json)
    (p : String → Bool) :
    (members.map fun m => if m.1 == name then (name, value) else m).filter (fun m => p m.1) =
      (members.filter fun m => p m.1).map fun m => if m.1 == name then (name, value) else m := by
  rw [List.filter_map]
  congr 1
  refine List.filter_congr fun m _ => ?_
  rcases eq_or_ne m.1 name with h | h <;> simp [h]

theorem filter_setMember {p : String → Bool} (h : p name = false)
    (members : List (String × Json)) (value : Json) :
    (setMember members name value).filter (fun m => p m.1) = members.filter fun m => p m.1 := by
  rw [setMember]
  split
  · rw [filter_replaced]
    refine (List.map_congr_left fun m hm => ?_).trans (List.map_id _)
    have hne : m.1 ≠ name := by
      rintro rfl
      exact absurd (List.mem_filter.mp hm).2 (by simp [h])
    simp [hne]
  · simp [List.filter_append, h]

theorem occurrences_setMember_of_ne (h : name ≠ other) :
    occurrences (setMember members name value) other = occurrences members other :=
  filter_setMember (p := (· == other)) (by simpa using h) members value

theorem carries_setMember (members : List (String × Json)) (name : String) (value : Json) :
    Carries (setMember members name value) name value := by
  rw [setMember]
  split
  · rename_i hany
    obtain ⟨m, hm, hname⟩ := List.any_eq_true.mp hany
    have hpos : 0 < (occurrences members name).length :=
      List.length_pos_of_mem (List.mem_filter.mpr ⟨hm, hname⟩)
    refine ⟨(occurrences members name).length - 1, ?_⟩
    rw [Nat.sub_add_cancel hpos, ← List.map_const']
    refine (filter_replaced members name value (· == name)).trans ?_
    refine List.map_congr_left fun m hm => ?_
    exact if_pos (List.mem_filter.mp hm).2
  · rename_i hnone
    have hnil : occurrences members name = [] := by
      rw [occurrences, List.filter_eq_nil_iff]
      rintro m hm hname
      exact hnone (List.any_eq_true.mpr ⟨m, hm, hname⟩)
    refine ⟨0, ?_⟩
    rw [occurrences] at hnil ⊢
    simp [List.filter_append, hnil]

theorem Carries.lookup_eq (h : Carries members name value) : lookup members name = some value := by
  obtain ⟨more, hmore⟩ := h
  rw [lookup_eq_getLast?, hmore, List.getLast?_replicate, if_neg (Nat.succ_ne_zero more)]
  rfl

theorem Carries.setMember_eq (h : Carries members name value) :
    setMember members name value = members := by
  obtain ⟨more, hmore⟩ := h
  have hvalues : ∀ m ∈ members, m.1 == name → m = (name, value) := by
    intro m hm hname
    have hmem : m ∈ occurrences members name := List.mem_filter.mpr ⟨hm, hname⟩
    rw [hmore] at hmem
    exact List.eq_of_mem_replicate hmem
  have hoccurs : (name, value) ∈ occurrences members name := by
    rw [hmore]
    exact List.mem_cons_self
  have hany : (members.any fun m => m.1 == name) = true :=
    List.any_eq_true.mpr ⟨_, List.mem_filter.mp hoccurs⟩
  rw [setMember, if_pos hany]
  refine (List.map_congr_left fun m hm => ?_).trans (List.map_id _)
  split
  · rename_i hname
    exact (hvalues m hm hname).symm
  · rfl

theorem occurrences_dropMember (members : List (String × Json)) (name other : String) :
    occurrences (dropMember members name) other =
      if name = other then [] else occurrences members other := by
  rw [occurrences, dropMember, List.filter_filter, occurrences]
  split
  · subst_vars
    simp
  · rename_i h
    refine List.filter_congr fun m _ => ?_
    rcases eq_or_ne m.1 other with hm | hm
    · simp [hm, Ne.symm h]
    · simp [hm]

theorem dropMember_eq_self (h : occurrences members name = []) :
    dropMember members name = members := by
  rw [occurrences, List.filter_eq_nil_iff] at h
  rw [dropMember, List.filter_eq_self]
  intro m hm
  simpa using h m hm

/-- A patch of which a repetition changes nothing. -/
def Repeatable (patch : Json) : Prop :=
  ∀ target : Json, (target.merge patch).merge patch = target.merge patch

theorem mergeMembers_cons_of_ne_null (h : value ≠ .null) (members : List (String × Json)) :
    mergeMembers members ((name, value) :: patch) =
      mergeMembers (setMember members name (merge ((lookup members name).getD .null) value))
        patch := by
  rw [mergeMembers]
  simpa using h

theorem occurrences_mergeMembers (h : name ∉ patch.map Prod.fst) (members : List (String × Json)) :
    occurrences (mergeMembers members patch) name = occurrences members name := by
  induction patch generalizing members with
  | nil => rw [mergeMembers]
  | cons m patch ih =>
      obtain ⟨named, value⟩ := m
      obtain ⟨hne, hrest⟩ := List.ne_and_not_mem_of_not_mem_cons h
      rcases eq_or_ne value .null with rfl | hvalue
      · rw [mergeMembers, ih hrest, occurrences_dropMember, if_neg (Ne.symm hne)]
      · rw [mergeMembers_cons_of_ne_null hvalue, ih hrest,
          occurrences_setMember_of_ne (Ne.symm hne)]

theorem mergeMembers_mergeMembers (hnames : (patch.map Prod.fst).Nodup)
    (hvalues : ∀ m ∈ patch, Repeatable m.2) (members : List (String × Json)) :
    mergeMembers (mergeMembers members patch) patch = mergeMembers members patch := by
  induction patch generalizing members with
  | nil => simp only [mergeMembers]
  | cons m patch ih =>
      obtain ⟨named, value⟩ := m
      obtain ⟨hnew, hrest⟩ := List.nodup_cons.mp hnames
      obtain ⟨hvalue, hothers⟩ := List.forall_mem_cons.mp hvalues
      rcases eq_or_ne value .null with rfl | hne
      · have hgone : occurrences (mergeMembers (dropMember members named) patch) named = [] := by
          rw [occurrences_mergeMembers hnew, occurrences_dropMember, if_pos rfl]
        rw [mergeMembers, mergeMembers, dropMember_eq_self hgone, ih hrest hothers]
      · rw [mergeMembers_cons_of_ne_null hne, mergeMembers_cons_of_ne_null hne]
        have hmerged := hvalue ((lookup members named).getD .null)
        generalize merge ((lookup members named).getD .null) value = merged at hmerged ⊢
        have hcarries : Carries (mergeMembers (setMember members named merged) patch) named
            merged := by
          rw [Carries, occurrences_mergeMembers hnew]
          exact carries_setMember members named merged
        rw [hcarries.lookup_eq, Option.getD_some, hmerged, hcarries.setMember_eq, ih hrest hothers]

theorem repeatable_object (hnames : (patch.map Prod.fst).Nodup)
    (hvalues : ∀ m ∈ patch, Repeatable m.2) : Repeatable (.object patch) := by
  intro target
  cases target with
  | object members => rw [merge, merge, mergeMembers_mergeMembers hnames hvalues]
  | _ => simp only [merge, mergeMembers_mergeMembers hnames hvalues]

theorem repeatable_of_members? {value : Json} (h : value.members? = none) : Repeatable value := by
  intro target
  cases value with
  | object => contradiction
  | _ => rfl

end FeatureLabels.Json
