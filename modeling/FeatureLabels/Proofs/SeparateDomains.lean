import FeatureLabels.Proofs.FullResync

namespace FeatureLabels

open LabelEdit

theorem eq_of_append_cons_eq {α : Type} {item : α} {l l' rest rest' : List α} (hl : item ∉ l)
    (hl' : item ∉ l') (h : l ++ item :: rest = l' ++ item :: rest') : l = l' := by
  induction l generalizing l' with
  | nil =>
      cases l' with
      | nil => rfl
      | cons first l' =>
          have hfirst : item = first := (List.cons.inj h).1
          exact absurd (hfirst ▸ List.mem_cons_self) hl'
  | cons first l ih =>
      cases l' with
      | nil =>
          have hfirst : first = item := (List.cons.inj h).1
          exact absurd (hfirst ▸ List.mem_cons_self) hl
      | cons first' l' =>
          obtain ⟨rfl, hrest⟩ := List.cons.inj h
          have htail : l = l' := ih (fun hmem => hl (List.mem_cons_of_mem _ hmem))
            (fun hmem => hl' (List.mem_cons_of_mem _ hmem)) hrest
          rw [htail]

namespace LabelEdit

/-- Two changes leave each other's keys alone. -/
def Apart (edit edit' : Option LabelEdit) : Prop :=
  ∀ key, effect? edit key = none ∨ effect? edit' key = none

variable {edit edit' : Option LabelEdit}

theorem Apart.after_comm (h : Apart edit edit') (labels : LabelMap) :
    after edit' (after edit labels) = after edit (after edit' labels) := by
  apply LabelMap.ext
  intro key
  simp only [getElem?_after]
  rcases h key with hnone | hnone
  · rw [hnone, Option.getD_none, Option.getD_none]
  · rw [hnone, Option.getD_none, Option.getD_none]

end LabelEdit

def Cluster.relabelled (edit : Option LabelEdit) (c : Cluster) : Cluster := edit.elim c c.edited

theorem Cluster.labelMap_relabelled (edit : Option LabelEdit) (c : Cluster) :
    (c.relabelled edit).metadata.labelMap = after edit c.metadata.labelMap := by
  cases edit <;> rfl

theorem Cluster.isTerminating_relabelled (edit : Option LabelEdit) (c : Cluster) :
    (c.relabelled edit).metadata.isTerminating = c.metadata.isTerminating := by
  cases edit <;> rfl

theorem Cluster.identity_relabelled (edit : Option LabelEdit) (c : Cluster) :
    identity (c.relabelled edit) = identity c := by
  cases edit <;> rfl

theorem Cluster.relabelled_comm {edit edit' : Option LabelEdit} (h : Apart edit edit')
    (c : Cluster) :
    (c.relabelled edit).relabelled edit' = (c.relabelled edit').relabelled edit := by
  cases edit with
  | none => rfl
  | some e =>
      cases edit' with
      | none => rfl
      | some e' =>
          have hlabels := h.after_comm c.metadata.labelMap
          simp only [after, Option.elim_some] at hlabels
          simp only [relabelled, Option.elim_some, edited, Metadata.labelMap, Option.getD_some]
            at hlabels ⊢
          rw [hlabels]

namespace ObjectMap

variable {m : ObjectMap Cluster} {edit edit' : Option LabelEdit}

def relabel (m : ObjectMap Cluster) (cluster : String) (edit : Option LabelEdit) :
    ObjectMap Cluster :=
  match m.get? ⟨none, cluster⟩ with
  | some c => m.insert (c.relabelled edit)
  | none => m

theorem get?_relabel (m : ObjectMap Cluster) (cluster : String) (edit : Option LabelEdit)
    (id : ObjectId) :
    (m.relabel cluster edit).get? id =
      (m.get? id).map fun c => if id = ⟨none, cluster⟩ then c.relabelled edit else c := by
  rw [relabel]
  split
  · rename_i c hc
    rw [get?_insert, Cluster.identity_relabelled, identity_of_get? hc]
    by_cases hid : id = ⟨none, cluster⟩
    · rw [hid, hc, if_pos rfl, Option.map_some, if_pos rfl]
    · simp [hid, Ne.symm hid]
  · rename_i hnone
    by_cases hid : id = ⟨none, cluster⟩
    · rw [hid, hnone, Option.map_none]
    · simp [hid]

theorem relabel_none (m : ObjectMap Cluster) (cluster : String) : m.relabel cluster none = m := by
  apply ext
  intro id
  simp [get?_relabel, Cluster.relabelled]

theorem relabel_comm (h : Apart edit edit') (m : ObjectMap Cluster) (cluster cluster' : String) :
    (m.relabel cluster edit).relabel cluster' edit' =
      (m.relabel cluster' edit').relabel cluster edit := by
  apply ext
  intro id
  simp only [get?_relabel, Option.map_map]
  congr 1
  funext c
  by_cases hid : id = ⟨none, cluster⟩
  · by_cases hid' : id = ⟨none, cluster'⟩
    · simp only [Function.comp_apply, if_pos hid, if_pos hid']
      exact Cluster.relabelled_comm h c
    · simp only [Function.comp_apply, if_pos hid, if_neg hid']
  · simp only [Function.comp_apply, if_neg hid]

end ObjectMap

namespace Inventory

/-- What is known once a change of a cluster's labels has been made. -/
def relabel (inv : Inventory) (cluster : String) (edit : Option LabelEdit) : Inventory :=
  { inv with clusters.contents := inv.clusters.contents.relabel cluster edit }

variable {inv : Inventory} {key : String} {edit edit' : Option LabelEdit}

theorem relabel_comm (h : Apart edit edit') (inv : Inventory) (cluster cluster' : String) :
    (inv.relabel cluster edit).relabel cluster' edit' =
      (inv.relabel cluster' edit').relabel cluster edit := by
  simp only [relabel, ObjectMap.relabel_comm h]

theorem cluster?_relabel (inv : Inventory) (cluster name : String) (edit : Option LabelEdit) :
    (inv.relabel cluster edit).cluster? name =
      (inv.cluster? name).map fun c => if name = cluster then c.relabelled edit else c := by
  simp only [cluster?, Store.get?, relabel, Option.or_self, ObjectMap.get?_relabel,
    ObjectId.mk.injEq, true_and]

theorem shownLabel?_relabel (h : effect? edit key = none) (cluster name : String) :
    (inv.relabel cluster edit).shownLabel? name key = inv.shownLabel? name key := by
  rw [shownLabel?, shownLabel?, editable?, editable?, cluster?_relabel]
  cases inv.cluster? name with
  | none => rfl
  | some c =>
      rw [Option.map_some]
      split
      · rw [Option.filter_some, Option.filter_some, Cluster.isTerminating_relabelled]
        split
        · rw [Option.map_some, Option.map_some, Cluster.labelMap_relabelled, getElem?_after, h,
            Option.getD_none]
        · rfl
      · rfl

end Inventory

namespace LabelSpace

open Inventory

variable {s s' : LabelSpace} {inv inv' : Inventory} {task task' : Task} {key : String}
  {edit : Option LabelEdit}

theorem wantedBy_congr (h : inv'.addOns = inv.addOns) (task : Task) (key : String) :
    s.wantedBy inv' task key = s.wantedBy inv task key := by
  cases task with
  | cluster name => rw [wantedBy, wantedBy, wantedOn, wantedOn, addOnsOf, addOnsOf, h]
  | addOn cluster name => rw [wantedBy, wantedBy, addOn?, addOn?, h]

theorem plan_relabel (h : ∀ key, s.owns key = true → effect? edit key = none) (inv : Inventory)
    (cluster : String) (task : Task) :
    s.plan (inv.relabel cluster edit) task = s.plan inv task := by
  apply plan_congr
  · intro key hcovers
    exact shownLabel?_relabel (h key hcovers.owns) cluster task.target
  · intro key _
    exact wantedBy_congr rfl task key

theorem effect?_plan_of_not_owns (h : s.owns key = false) :
    effect? (s.plan inv task) key = none := by
  apply effect?_plan_of_not_covers
  intro hcovers
  rw [hcovers.owns] at h
  contradiction

theorem toList_of_owns (h : s.owns key = true) :
    ∃ rest, key.toList = "feature.".toList ++ (s.domain.toList ++ '/' :: rest) := by
  obtain ⟨rest, hrest⟩ := List.isPrefixOf_iff_prefix.mp h
  refine ⟨nameStem.toList ++ rest, ?_⟩
  rw [← hrest, stem]
  simp [String.toList_append]

theorem owns_disjoint (hne : s.domain ≠ s'.domain) (hslash : '/' ∉ s.domain.toList)
    (hslash' : '/' ∉ s'.domain.toList) (h : s.owns key = true) : s'.owns key = false := by
  rw [Bool.eq_false_iff]
  intro h'
  obtain ⟨rest, hrest⟩ := toList_of_owns h
  obtain ⟨rest', hrest'⟩ := toList_of_owns h'
  have hsame : s.domain.toList ++ '/' :: rest = s'.domain.toList ++ '/' :: rest' :=
    List.append_cancel_left (hrest.symm.trans hrest')
  exact hne (String.toList_inj.mp (eq_of_append_cons_eq hslash hslash' hsame))

/-- What is known once a task has been carried out, and its calls have been accepted. -/
def carriedOut (s : LabelSpace) (inv : Inventory) (task : Task) : Inventory :=
  (reconcile s inv false (fun _ => .ok ()) task).calls.foldl
    (fun inv call => inv.relabel call.cluster (some call.edit)) inv

theorem carriedOut_eq (s : LabelSpace) (inv : Inventory) (task : Task) :
    s.carriedOut inv task = inv.relabel task.target (s.plan inv task) := by
  rw [carriedOut, calls_reconcile]
  cases s.plan inv task with
  | none => rw [relabel, ObjectMap.relabel_none]; rfl
  | some e => rfl

theorem apart_plans (hapart : ∀ key, s.owns key = true → s'.owns key = false)
    (inv inv' : Inventory) (task task' : Task) :
    Apart (s.plan inv task) (s'.plan inv' task') := by
  intro key
  cases hown : s.owns key with
  | true => exact .inr (effect?_plan_of_not_owns (hapart key hown))
  | false => exact .inl (effect?_plan_of_not_owns hown)

theorem plan_carriedOut (hapart : ∀ key, s.owns key = true → s'.owns key = false)
    (inv : Inventory) (task task' : Task) :
    s.plan (s'.carriedOut inv task') task = s.plan inv task := by
  rw [carriedOut_eq]
  apply plan_relabel
  intro key hown
  exact effect?_plan_of_not_owns (hapart key hown)

end LabelSpace

open LabelSpace

/-- No key is owned under two different domains without a slash. So whatever two operators with such
domains know and do, neither changes what the other one plans, and the labels that they leave behind
do not depend on which of them comes first. -/
theorem domains_neverInterfere {s s' : LabelSpace} (hne : s.domain ≠ s'.domain)
    (hslash : '/' ∉ s.domain.toList) (hslash' : '/' ∉ s'.domain.toList) :
    (∀ key, ¬ (s.owns key = true ∧ s'.owns key = true)) ∧
    (∀ (inv : Inventory) (task task' : Task),
      s'.plan (s.carriedOut inv task) task' = s'.plan inv task' ∧
      s.plan (s'.carriedOut inv task') task = s.plan inv task ∧
      s'.carriedOut (s.carriedOut inv task) task' = s.carriedOut (s'.carriedOut inv task') task) ∧
    ∀ (inv inv' : Inventory) (task task' : Task) (labels : LabelMap),
      after (s'.plan inv' task') (after (s.plan inv task) labels) =
        after (s.plan inv task) (after (s'.plan inv' task') labels) := by
  have hapart : ∀ key, s.owns key = true → s'.owns key = false :=
    fun key hown => owns_disjoint hne hslash hslash' hown
  have hapart' : ∀ key, s'.owns key = true → s.owns key = false :=
    fun key hown => owns_disjoint hne.symm hslash' hslash hown
  refine ⟨?_, ?_, ?_⟩
  · rintro key ⟨hown, hown'⟩
    rw [hapart key hown] at hown'
    contradiction
  · intro inv task task'
    have hplan := plan_carriedOut hapart inv task task'
    have hplan' := plan_carriedOut hapart' inv task' task
    refine ⟨hplan', hplan, ?_⟩
    calc s'.carriedOut (s.carriedOut inv task) task'
        = (inv.relabel task.target (s.plan inv task)).relabel task'.target (s'.plan inv task') := by
          rw [carriedOut_eq s', hplan', carriedOut_eq s]
      _ = (inv.relabel task'.target (s'.plan inv task')).relabel task.target (s.plan inv task) :=
          Inventory.relabel_comm (apart_plans hapart inv inv task task') inv _ _
      _ = s.carriedOut (s'.carriedOut inv task') task := by
          rw [carriedOut_eq s, hplan, carriedOut_eq s']
  · intro inv inv' task task' labels
    exact (apart_plans hapart inv inv' task task').after_comm labels

/-- A slash in a domain can make a key belong to two. -/
example : LabelSpace.owns ⟨"com"⟩ "feature.com/addon-/addon-a" = true ∧
    LabelSpace.owns ⟨"com/addon-"⟩ "feature.com/addon-/addon-a" = true := by
  decide

theorem domains_neverInterfere_sample :
    "example.com" ≠ "example.com.addon-" ∧
    '/' ∉ "example.com".toList ∧ '/' ∉ "example.com.addon-".toList ∧
    LabelSpace.carriedOut ⟨"example.com.addon-"⟩
        (LabelSpace.carriedOut ⟨"example.com"⟩ Sample.inventory (.cluster "c1")) (.addOn "c1" "a") =
      LabelSpace.carriedOut ⟨"example.com"⟩
        (LabelSpace.carriedOut ⟨"example.com.addon-"⟩ Sample.inventory (.addOn "c1" "a"))
        (.cluster "c1") := by
  have hslash : '/' ∉ "example.com".toList := by decide
  have hslash' : '/' ∉ "example.com.addon-".toList := by decide
  have hne : LabelSpace.domain ⟨"example.com"⟩ ≠ LabelSpace.domain ⟨"example.com.addon-"⟩ := by
    decide
  obtain ⟨-, horder, -⟩ := domains_neverInterfere hne hslash hslash'
  exact ⟨hne, hslash, hslash', (horder Sample.inventory (.cluster "c1") (.addOn "c1" "a")).2.2⟩

end FeatureLabels
