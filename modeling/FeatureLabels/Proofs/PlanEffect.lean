import FeatureLabels.Proofs.EditEffect
import FeatureLabels.Proofs.WantedLabels
import FeatureLabels.Reconcile

/-!
What a task does to each label. A cluster's task is about every owned key, an add-on's task about
the key of that add-on; a task gives each key that it is about the wanted label, where the cluster
does not carry it yet, and leaves all other keys alone.
-/

namespace FeatureLabels

/-- What the labels of a cluster that may be edited show under a key. -/
def Inventory.shownLabel? (inv : Inventory) (cluster key : String) : Option (Option String) :=
  (inv.editable? cluster).map fun c => c.metadata.labelMap[key]?

namespace LabelSpace

open LabelEdit

/-- A task is about a key: it sets this key right. -/
def Covers (s : LabelSpace) : Task → String → Prop
  | .cluster _, key => s.owns key = true
  | .addOn _ name, key => fits name = true ∧ s.key name = key

instance (s : LabelSpace) (task : Task) (key : String) : Decidable (s.Covers task key) :=
  match task with
  | .cluster _ => inferInstanceAs (Decidable (_ = _))
  | .addOn _ _ => inferInstanceAs (Decidable (_ ∧ _))

def wantedOn (s : LabelSpace) (inv : Inventory) (cluster : String) : LabelMap :=
  s.wanted (inv.addOnsOf cluster)

/-- The label that a task wants on a key that it is about. An add-on's task goes by the add-on that
is found under its name. -/
def wantedBy (s : LabelSpace) (inv : Inventory) : Task → String → Option String
  | .cluster name, key => (s.wantedOn inv name)[key]?
  | .addOn cluster name, _ =>
    ((inv.addOn? cluster name).filter fun a => !a.metadata.isTerminating).map fun a =>
      a.health.text

variable {s : LabelSpace} {inv : Inventory} {task : Task} {cluster name key : String}
  {c : Cluster} {e : LabelEdit}

theorem Covers.owns (h : s.Covers task key) : s.owns key = true := by
  cases task with
  | cluster name => exact h
  | addOn cluster name =>
      obtain ⟨-, rfl⟩ := h
      exact owns_key s name

theorem owns_of_mem_wantedOn (h : key ∈ s.wantedOn inv cluster) : s.owns key = true := by
  obtain ⟨a, -, hholds⟩ := exists_holds_of_mem_wanted h
  exact hholds.owns

theorem plan_eq_none (h : inv.editable? task.target = none) : s.plan inv task = none := by
  rw [plan, h, Option.bind_none]

theorem effect?_plan_cluster (hc : inv.editable? name = some c) (key : String) :
    effect? (s.plan inv (.cluster name)) key =
      if s.Covers (.cluster name) key ∧ c.metadata.labelMap[key]? ≠ (s.wantedOn inv name)[key]? then
        some (s.wantedOn inv name)[key]?
      else none := by
  have hplan : s.plan inv (.cluster name) = s.diff c.metadata.labelMap (s.wantedOn inv name) := by
    rw [plan, Task.target, hc, Option.bind_some, wantedOn]
  rw [hplan]
  exact effect?_diff (fun key hmem => owns_of_mem_wantedOn hmem) key

theorem effect?_plan_wantedBy (hc : inv.editable? task.target = some c) (key : String) :
    effect? (s.plan inv task) key =
      if s.Covers task key ∧ c.metadata.labelMap[key]? ≠ s.wantedBy inv task key then
        some (s.wantedBy inv task key)
      else none := by
  cases task with
  | cluster name => exact effect?_plan_cluster hc key
  | addOn cluster name =>
      rw [plan, hc, Option.bind_some, wantedBy]
      by_cases hfits : fits name = true
      · simp only [hfits, if_true, effect?_diffOne, Option.map_map, Function.comp_def, Covers,
          true_and]
      · simp [Covers, effect?, hfits]

theorem wantedBy_eq_wantedOn (hstrays : inv.NoStrays) (hcovers : s.Covers task key) :
    s.wantedBy inv task key = (s.wantedOn inv task.target)[key]? := by
  cases task with
  | cluster name => rfl
  | addOn cluster name =>
      obtain ⟨hfits, rfl⟩ := hcovers
      rw [Task.target, wantedOn, Inventory.getElem?_wanted_key s inv cluster hfits, wantedBy,
        Inventory.addOn?_eq hstrays]

theorem effect?_plan (hstrays : inv.NoStrays) (hc : inv.editable? task.target = some c)
    (key : String) :
    effect? (s.plan inv task) key =
      if s.Covers task key ∧ c.metadata.labelMap[key]? ≠ (s.wantedOn inv task.target)[key]? then
        some (s.wantedOn inv task.target)[key]?
      else none := by
  rw [effect?_plan_wantedBy hc]
  by_cases hcovers : s.Covers task key
  · rw [wantedBy_eq_wantedOn hstrays hcovers]
  · simp only [hcovers, false_and, if_false]

theorem tidy_plan (h : s.plan inv task = some e) : e.Tidy := by
  obtain ⟨c, -, hplan⟩ := Option.bind_eq_some_iff.mp h
  cases task with
  | cluster name => exact tidy_diff hplan
  | addOn cluster name =>
      simp only at hplan
      split at hplan
      · exact tidy_diffOne hplan
      · simp at hplan

theorem effect?_plan_of_not_covers (h : ¬ s.Covers task key) :
    effect? (s.plan inv task) key = none := by
  cases hc : inv.editable? task.target with
  | none => rw [plan_eq_none hc, effect?, Option.bind_none]
  | some c => rw [effect?_plan_wantedBy hc, if_neg fun hwrong => h hwrong.1]

/-- A plan depends on nothing but what its cluster shows, and what is wanted, on the keys that the
task is about. -/
theorem plan_congr {inv' : Inventory}
    (hshown : ∀ key, s.Covers task key →
      inv'.shownLabel? task.target key = inv.shownLabel? task.target key)
    (hwanted : ∀ key, s.Covers task key → s.wantedBy inv' task key = s.wantedBy inv task key) :
    s.plan inv' task = s.plan inv task := by
  apply ext_effect? (fun _ => tidy_plan) (fun _ => tidy_plan)
  intro key
  by_cases hcovers : s.Covers task key
  · have hlabel := hshown key hcovers
    rw [Inventory.shownLabel?, Inventory.shownLabel?] at hlabel
    cases hc : inv.editable? task.target with
    | none =>
        rw [hc, Option.map_none, Option.map_eq_none_iff] at hlabel
        rw [plan_eq_none hc, plan_eq_none hlabel]
    | some c =>
        rw [hc, Option.map_some, Option.map_eq_some_iff] at hlabel
        obtain ⟨c', hc', hsame⟩ := hlabel
        rw [effect?_plan_wantedBy hc, effect?_plan_wantedBy hc', hsame, hwanted key hcovers]
  · rw [effect?_plan_of_not_covers hcovers, effect?_plan_of_not_covers hcovers]

variable {stopping : Bool} {send : Call → Except Failure Unit}

theorem calls_reconcile (s : LabelSpace) (inv : Inventory) (send : Call → Except Failure Unit)
    (task : Task) :
    (reconcile s inv false send task).calls =
      (s.plan inv task).toList.map (Call.mk task.target) := by
  rw [reconcile]
  cases s.plan inv task <;> rfl

theorem reconcile_of_plan_eq_none (h : s.plan inv task = none) :
    (reconcile s inv stopping send task).calls = [] ∧
      (reconcile s inv stopping send task).result = .ok none := by
  rw [reconcile, h]
  exact ⟨rfl, rfl⟩

theorem reconcile_of_plan_eq_some (stopping : Bool) (send : Call → Except Failure Unit)
    (h : s.plan inv task = some e) :
    (reconcile s inv stopping send task).calls =
        (if stopping then [] else [⟨task.target, e⟩]) ∧
      (reconcile s inv stopping send task).result =
        if stopping then .error .cancelled else (send ⟨task.target, e⟩).map fun _ => some e := by
  rw [reconcile, h]
  cases stopping <;> exact ⟨rfl, rfl⟩

theorem result_reconcile (hsend : ∀ edit, send ⟨task.target, edit⟩ = .ok ()) :
    (reconcile s inv false send task).result = .ok (s.plan inv task) := by
  rw [reconcile]
  cases s.plan inv task with
  | none => rfl
  | some e => simp [carryOut, hsend, Except.map]

end LabelSpace

structure Resync where
  task : Task
  edit : LabelEdit
deriving DecidableEq

end FeatureLabels
