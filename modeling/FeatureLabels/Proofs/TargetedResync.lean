import FeatureLabels.Proofs.FullResync

namespace FeatureLabels

open LabelEdit

namespace LabelEdit

def restrictTo (e : LabelEdit) (key : String) : LabelEdit where
  upserts := e.upserts.filter fun other _ => other == key
  removals := e.removals.filter fun other => other == key

theorem getElem?_upserts_restrictTo (e : LabelEdit) (key other : String) :
    (e.restrictTo key).upserts[other]? = if other = key then e.upserts[other]? else none := by
  rw [restrictTo, Std.ExtTreeMap.getElem?_filter']
  cases e.upserts[other]? with
  | none => simp
  | some value => by_cases h : other = key <;> simp [h]

theorem mem_removals_restrictTo {e : LabelEdit} {key other : String} :
    other ∈ (e.restrictTo key).removals ↔ other ∈ e.removals ∧ other = key := by
  simp [restrictTo, Std.ExtTreeSet.mem_filter]

theorem effect_restrictTo (e : LabelEdit) (key other : String) :
    (e.restrictTo key).effect other = if other = key then e.effect other else none := by
  rw [effect, effect, getElem?_upserts_restrictTo]
  simp only [mem_removals_restrictTo]
  by_cases h : other = key <;> simp [h]

theorem KeysDisjoint.restrictTo {e : LabelEdit} (he : e.KeysDisjoint) (key : String) :
    (e.restrictTo key).KeysDisjoint := by
  intro other hmem hgone
  refine he other ?_ (mem_removals_restrictTo.mp hgone).1
  rw [Std.ExtTreeMap.mem_iff_isSome_getElem?] at hmem ⊢
  rw [getElem?_upserts_restrictTo] at hmem
  split at hmem
  · exact hmem
  · simp at hmem

end LabelEdit

namespace LabelSpace

/-- The part of a planned change that is about one key, unless it is empty. -/
def only (key : String) (edit : Option LabelEdit) : Option LabelEdit :=
  edit.bind fun e => proper (e.restrictTo key)

variable {s : LabelSpace} {inv : Inventory} {cluster name key : String} {e : LabelEdit}

theorem effect?_only (key other : String) (edit : Option LabelEdit) :
    effect? (only key edit) other = if other = key then effect? edit other else none := by
  cases edit with
  | none => simp [only, effect?]
  | some e =>
      rw [only, Option.bind_some, effect?_proper, effect_restrictTo]
      rfl

theorem tidy_only {edit : Option LabelEdit} (hedit : ∀ e, edit = some e → e.Tidy)
    (h : only key edit = some e) : e.Tidy := by
  obtain ⟨d, hd, h⟩ := Option.bind_eq_some_iff.mp h
  obtain ⟨hempty, rfl⟩ := proper_eq_some_iff.mp h
  exact ⟨hempty, (hedit d hd).disjoint.restrictTo key⟩

theorem plan_addOn_of_not_fits (h : fits name = false) :
    s.plan inv (.addOn cluster name) = none := by
  rw [plan]
  cases inv.editable? cluster <;> simp [Task.target, h]

theorem plan_addOn_eq_only (hstrays : inv.NoStrays) (hfits : fits name = true) :
    s.plan inv (.addOn cluster name) = only (s.key name) (s.plan inv (.cluster cluster)) := by
  cases hc : inv.editable? cluster with
  | none => rw [plan_eq_none hc, plan_eq_none hc, only, Option.bind_none]
  | some c =>
      refine ext_effect? (fun _ => tidy_plan) (fun _ => tidy_only fun _ => tidy_plan) ?_
      intro key
      have htarget : inv.editable? (Task.addOn cluster name).target = some c := hc
      rw [effect?_only, effect?_plan hstrays htarget, effect?_plan_cluster hc, Task.target]
      by_cases hkey : key = s.key name
      · subst hkey
        simp [Covers, hfits, owns_key]
      · simp [Covers, hkey, Ne.symm hkey]

theorem exists_fits_of_upsert {value : String}
    (h : effect? (s.plan inv (.cluster cluster)) key = some (some value)) :
    ∃ name, fits name = true ∧ s.key name = key := by
  cases hc : inv.editable? cluster with
  | none =>
      have hnone : s.plan inv (.cluster cluster) = none := plan_eq_none hc
      simp [hnone, effect?] at h
  | some c =>
      rw [effect?_plan_cluster hc] at h
      split at h
      · have hmem : key ∈ s.wantedOn inv cluster := by
          rw [Std.ExtTreeMap.mem_iff_isSome_getElem?, Option.some.inj h]
          rfl
        obtain ⟨a, -, hholds⟩ := exists_holds_of_mem_wanted hmem
        exact ⟨a.metadata.givenName, hholds.2⟩
      · simp at h

theorem exists_effect?_addOn_iff (hstrays : inv.NoStrays) {value : Option String} :
    (∃ name, fits name = true ∧ effect? (s.plan inv (.addOn cluster name)) key = some value) ↔
      effect? (s.plan inv (.cluster cluster)) key = some value ∧
        ∃ name, fits name = true ∧ s.key name = key := by
  constructor
  · rintro ⟨name, hfits, heffect⟩
    rw [plan_addOn_eq_only hstrays hfits, effect?_only] at heffect
    split at heffect
    · rename_i hkey
      exact ⟨heffect, name, hfits, hkey.symm⟩
    · simp at heffect
  · rintro ⟨heffect, name, hfits, rfl⟩
    refine ⟨name, hfits, ?_⟩
    rw [plan_addOn_eq_only hstrays hfits, effect?_only, if_pos rfl, heffect]

end LabelSpace

open LabelSpace

/-- An add-on's task plans the part of its cluster's plan that is about the key of the add-on, and
nothing if its name makes no key. The tasks of all add-ons together plan all upserts of the
cluster's plan, and the removals of those keys that a name makes. -/
theorem targetedResync_agrees (s : LabelSpace) {inv : Inventory} (hstrays : inv.NoStrays)
    (cluster : String) :
    (∀ name, s.plan inv (.addOn cluster name) =
      if fits name = true then only (s.key name) (s.plan inv (.cluster cluster)) else none) ∧
    (∀ key value : String,
      (∃ name e, fits name = true ∧ s.plan inv (.addOn cluster name) = some e ∧
        e.upserts[key]? = some value) ↔
      ∃ e, s.plan inv (.cluster cluster) = some e ∧ e.upserts[key]? = some value) ∧
    ∀ key : String,
      (∃ name e, fits name = true ∧ s.plan inv (.addOn cluster name) = some e ∧
        key ∈ e.removals) ↔
      (∃ e, s.plan inv (.cluster cluster) = some e ∧ key ∈ e.removals) ∧
        ∃ name, fits name = true ∧ s.key name = key := by
  refine ⟨?_, ?_, ?_⟩
  · intro name
    split
    · rename_i hfits
      exact plan_addOn_eq_only hstrays hfits
    · rename_i hfits
      exact plan_addOn_of_not_fits (by simpa using hfits)
  · intro key value
    simp only [exists_and_left, exists_upsert_iff fun _ => tidy_plan,
      exists_effect?_addOn_iff hstrays]
    exact and_iff_left_of_imp exists_fits_of_upsert
  · intro key
    simp only [exists_and_left, exists_removal_iff, exists_effect?_addOn_iff hstrays]

theorem targetedResync_agrees_sample :
    Sample.inventory.NoStrays ∧
    LabelSpace.plan ⟨"example.com"⟩ Sample.inventory (.addOn "c1" "a") =
      only "feature.example.com/addon-a"
        (LabelSpace.plan ⟨"example.com"⟩ Sample.inventory (.cluster "c1")) := by
  have hstrays : Sample.inventory.NoStrays := by decide
  refine ⟨hstrays, ?_⟩
  have hplan := (targetedResync_agrees ⟨"example.com"⟩ hstrays "c1").1 "a"
  rwa [if_pos (by decide)] at hplan

end FeatureLabels
