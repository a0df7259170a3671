import Mathlib.Logic.Basic
import FeatureLabels.Proofs.FullResync

namespace FeatureLabels

open LabelEdit

namespace LabelSpace

variable {s : LabelSpace} {inv : Inventory} {task : Task} {cluster name key value : String}
  {c : Cluster} {e : LabelEdit} {stopping : Bool} {send : Call → Except Failure Unit}

theorem fits_iff : fits name = true ↔ 1 ≤ name.utf8ByteSize ∧ name.utf8ByteSize ≤ 57 := by
  have hstem : nameStem.utf8ByteSize = 6 := by decide
  rw [fits, hstem, maxNameBytes, Bool.and_eq_true, Bool.not_eq_true', decide_eq_true_eq,
    String.isEmpty, beq_eq_false_iff_ne]
  omega

theorem exists_eq_stem_append (h : s.owns key = true) : ∃ rest, key = s.stem ++ rest := by
  obtain ⟨rest, hrest⟩ := List.isPrefixOf_iff_prefix.mp h
  refine ⟨String.ofList rest, String.toList_inj.mp ?_⟩
  rw [String.toList_append, String.toList_ofList, hrest]

theorem wantedBy_eq_some (hcovers : s.Covers task key)
    (h : s.wantedBy inv task key = some value) :
    (∃ name, fits name = true ∧ s.key name = key) ∧ ∃ health : Health, health.text = value := by
  cases task with
  | cluster name =>
      rw [wantedBy, wantedOn, getElem?_wanted, Option.map_eq_some_iff] at h
      obtain ⟨a, hfind, hvalue⟩ := h
      have hholds : s.Holds a key := by simpa using List.find?_some hfind
      exact ⟨⟨a.metadata.givenName, hholds.2⟩, a.health, hvalue⟩
  | addOn cluster name =>
      obtain ⟨a, -, hvalue⟩ := Option.map_eq_some_iff.mp h
      exact ⟨⟨name, hcovers⟩, a.health, hvalue⟩

/-- A key that a task is about has another label than the task wants there. -/
def NeedsChange (s : LabelSpace) (inv : Inventory) (task : Task) : Prop :=
  ∃ c, inv.editable? task.target = some c ∧
    ∃ key, s.Covers task key ∧ c.metadata.labelMap[key]? ≠ s.wantedBy inv task key

theorem plan_eq_none_iff : s.plan inv task = none ↔ ¬ s.NeedsChange inv task := by
  cases hc : inv.editable? task.target with
  | none => simp [plan_eq_none hc, NeedsChange, hc]
  | some c =>
      rw [← effect?_eq_none_iff fun _ => tidy_plan]
      simp only [effect?_plan_wantedBy hc, NeedsChange, hc, ite_eq_right_iff, reduceCtorEq,
        imp_false, Option.some.injEq, exists_eq_left', not_exists]

theorem exists_plan_iff : (∃ e, s.plan inv task = some e) ↔ s.NeedsChange inv task := by
  rw [← not_iff_not, ← plan_eq_none_iff, Option.eq_none_iff_forall_ne_some, not_exists]

/-- A call that a task may make, given what is known. -/
structure Permits (s : LabelSpace) (inv : Inventory) (task : Task) (call : Call) : Prop where
  addressed : call.cluster = task.target
  present : ∃ c, inv.cluster? task.target = some c ∧ c.metadata.isTerminating = false ∧
    ∀ key ∈ call.edit.removals, key ∈ c.metadata.labelMap
  tidy : call.edit.Tidy
  owned : ∀ key, call.edit.Names key → ∃ rest, key = s.stem ++ rest
  valued : ∀ key value : String, call.edit.upserts[key]? = some value →
    (∃ name : String, key = s.stem ++ name ∧ 1 ≤ name.utf8ByteSize ∧ name.utf8ByteSize ≤ 57) ∧
      value ∈ ["available", "unhealthy", "unreachable"]
  single : ∀ cluster name, task = .addOn cluster name →
    ∀ key, call.edit.Names key ↔ key = s.key name

theorem effect_of_plan (hc : inv.editable? task.target = some c) (h : s.plan inv task = some e)
    (key : String) :
    e.effect key =
      if s.Covers task key ∧ c.metadata.labelMap[key]? ≠ s.wantedBy inv task key then
        some (s.wantedBy inv task key)
      else none := by
  rw [← effect?_plan_wantedBy hc, h, effect?, Option.bind_some]

theorem not_holds_of_removed (h : s.plan inv task = some e) (hgone : key ∈ e.removals) {a : AddOn}
    (ha : a ∈ inv.addOnsOf task.target) : ¬ s.Holds a key := by
  intro hholds
  obtain ⟨c, hc, -⟩ := Option.bind_eq_some_iff.mp h
  rw [← effect_eq_some_none_iff, effect_of_plan hc h] at hgone
  split at hgone
  · rename_i hwrong
    have hnone : s.wantedBy inv task key = none := Option.some.inj hgone
    cases task with
    | cluster name =>
        have hwanted : s.wantedBy inv (.cluster name) key = some a.health.text :=
          Inventory.getElem?_wanted_addOnsOf ha hholds
        simp [hwanted] at hnone
    | addOn cluster name =>
        have hname : a.metadata.givenName = name :=
          key_injective s (hholds.2.2.trans hwrong.1.2.symm)
        have hget : inv.addOns.contents.get? ⟨some cluster, a.metadata.givenName⟩ = some a :=
          Inventory.mem_addOnsOf.mp ha
        have hfound : inv.addOn? cluster name = some a := by
          rw [Inventory.addOn?, Store.get?, ← hname, hget, Option.some_or]
        rw [wantedBy, hfound] at hnone
        simp [Option.filter_some, hholds.1] at hnone
  · simp at hgone

theorem covers_of_names (h : s.plan inv task = some e) (hnames : e.Names key) :
    s.Covers task key := by
  obtain ⟨c, hc, -⟩ := Option.bind_eq_some_iff.mp h
  rw [← effect_ne_none_iff, effect_of_plan hc h] at hnames
  split at hnames
  · rename_i hwrong
    exact hwrong.1
  · contradiction

theorem exists_names (he : e.Tidy) : ∃ key, e.Names key := by
  have hsome : ¬ ∀ key, e.effect key = none := by
    rw [← isEmpty_iff_effect, he.nonempty]
    exact Bool.false_ne_true
  obtain ⟨key, hkey⟩ := not_forall.mp hsome
  exact ⟨key, effect_ne_none_iff.mp hkey⟩

theorem permits_of_plan (h : s.plan inv task = some e) : s.Permits inv task ⟨task.target, e⟩ := by
  obtain ⟨c, hc, -⟩ := Option.bind_eq_some_iff.mp h
  obtain ⟨hknown, hlive⟩ := Inventory.editable?_eq_some_iff.mp hc
  have htidy : e.Tidy := tidy_plan h
  constructor
  case addressed => rfl
  case tidy => exact htidy
  case present =>
    refine ⟨c, hknown, hlive, fun key hgone => ?_⟩
    rw [← effect_eq_some_none_iff, effect_of_plan hc h] at hgone
    split at hgone
    · rename_i hwrong
      rw [Option.some.inj hgone] at hwrong
      exact Std.ExtTreeMap.mem_iff_isSome_getElem?.mpr (Option.isSome_iff_ne_none.mpr hwrong.2)
    · simp at hgone
  case owned =>
    exact fun key hnames => exists_eq_stem_append (covers_of_names h hnames).owns
  case valued =>
    intro key value hvalue
    rw [← effect_eq_some_some_iff htidy.disjoint, effect_of_plan hc h] at hvalue
    split at hvalue
    · rename_i hwrong
      obtain ⟨⟨name, hfits, hkey⟩, health, hhealth⟩ :=
        wantedBy_eq_some hwrong.1 (Option.some.inj hvalue)
      refine ⟨⟨name, hkey.symm, fits_iff.mp hfits⟩, ?_⟩
      rw [← hhealth]
      cases health <;> decide
    · simp at hvalue
  case single =>
    rintro cluster name rfl key
    have hown : ∀ other, e.Names other → other = s.key name := fun other hnames =>
      (covers_of_names h hnames).2.symm
    constructor
    · exact hown key
    · rintro rfl
      obtain ⟨other, hother⟩ := exists_names htidy
      rwa [← hown other hother]

end LabelSpace

open LabelSpace

/-- A reconcile makes at most one call, a permitted one, and none while the program is stopping. It
ends with a change just when that call was made and succeeded, without one just when none was
needed, and else with what held the call back or made it fail. -/
theorem reconcile_writesSafely (s : LabelSpace) (inv : Inventory) (stopping : Bool)
    (send : Call → Except Failure Unit) (task : Task) :
    let attempt := reconcile s inv stopping send task
    attempt.calls.length ≤ 1 ∧
    (∀ call ∈ attempt.calls, stopping = false ∧ s.Permits inv task call) ∧
    (∀ e, attempt.result = .ok (some e) ↔
      attempt.calls = [⟨task.target, e⟩] ∧ send ⟨task.target, e⟩ = .ok ()) ∧
    (attempt.result = .ok none ↔ ¬ s.NeedsChange inv task) ∧
    ∀ failure, attempt.result = .error failure ↔
      (stopping = true ∧ s.NeedsChange inv task ∧ failure = .cancelled) ∨
        ∃ e, attempt.calls = [⟨task.target, e⟩] ∧ send ⟨task.target, e⟩ = .error failure := by
  intro attempt
  cases hplan : s.plan inv task with
  | none =>
      obtain ⟨hcalls, hresult⟩ : attempt.calls = [] ∧ attempt.result = .ok none :=
        reconcile_of_plan_eq_none hplan
      have hneeds : ¬ s.NeedsChange inv task := plan_eq_none_iff.mp hplan
      simp [hcalls, hresult, hneeds]
  | some e =>
      obtain ⟨hcalls, hresult⟩ := reconcile_of_plan_eq_some stopping send hplan
      have hneeds : s.NeedsChange inv task := exists_plan_iff.mp ⟨e, hplan⟩
      cases stopping with
      | true => simp [attempt, hcalls, hresult, hneeds, eq_comm]
      | false =>
          have hpermits : s.Permits inv task ⟨task.target, e⟩ := permits_of_plan hplan
          cases hsend : send ⟨task.target, e⟩ with
          | ok =>
              simp [attempt, hcalls, hresult, hneeds, hpermits, hsend, Except.map]
          | error failure =>
              simp [attempt, hcalls, hresult, hneeds, hpermits, hsend, Except.map]

theorem reconcile_writesSafely_sample :
    ∃ call,
      (reconcile ⟨"example.com"⟩ Sample.inventory false (fun _ => .ok ())
        (.addOn "c1" "a")).calls = [call] ∧
      LabelSpace.Permits ⟨"example.com"⟩ Sample.inventory (.addOn "c1" "a") call ∧
      (reconcile ⟨"example.com"⟩ Sample.inventory false (fun _ => .ok ())
        (.addOn "c1" "a")).result = .ok (some call.edit) := by
  obtain ⟨e, he⟩ : ∃ e,
      LabelSpace.plan ⟨"example.com"⟩ Sample.inventory (.addOn "c1" "a") = some e :=
    Option.isSome_iff_exists.mp (by decide +kernel)
  obtain ⟨-, hpermits, hdone, -, -⟩ :=
    reconcile_writesSafely ⟨"example.com"⟩ Sample.inventory false (fun _ => .ok ())
      (.addOn "c1" "a")
  have hcalls := (reconcile_of_plan_eq_some false (fun _ => .ok ()) he).1
  refine ⟨⟨"c1", e⟩, hcalls, (hpermits _ ?_).2, (hdone e).mpr ⟨hcalls, rfl⟩⟩
  rw [hcalls]
  exact List.mem_singleton_self _

end FeatureLabels
