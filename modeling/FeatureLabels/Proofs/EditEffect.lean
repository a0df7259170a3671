import FeatureLabels.LabelSpace

/-!
A change of labels key by key. A change does to a key either nothing, or it leaves the key with a
value, or without one; two changes that do the same to every key are the same change.
-/

namespace FeatureLabels

namespace LabelEdit

/-- What a change does to a key: nothing, or else what the key has afterwards. -/
def effect (e : LabelEdit) (key : String) : Option (Option String) :=
  if key ∈ e.removals then some none else e.upserts[key]?.map some

def KeysDisjoint (e : LabelEdit) : Prop := ∀ key ∈ e.upserts, key ∉ e.removals

/-- A change that names some key, and none twice. -/
structure Tidy (e : LabelEdit) : Prop where
  nonempty : e.isEmpty = false
  disjoint : e.KeysDisjoint

def effect? (edit : Option LabelEdit) (key : String) : Option (Option String) :=
  edit.bind fun e => e.effect key

def after (edit : Option LabelEdit) (labels : LabelMap) : LabelMap :=
  edit.elim labels fun e => e.applyTo labels

theorem getElem?_applyTo_effect (e : LabelEdit) (labels : LabelMap) (key : String) :
    (e.applyTo labels)[key]? = (e.effect key).getD labels[key]? := by
  rw [getElem?_applyTo, effect]
  split
  · rfl
  · cases e.upserts[key]? <;> rfl

theorem getElem?_after (edit : Option LabelEdit) (labels : LabelMap) (key : String) :
    (after edit labels)[key]? = (effect? edit key).getD labels[key]? := by
  cases edit with
  | none => rfl
  | some e => exact getElem?_applyTo_effect e labels key

theorem effect_ne_none_iff {e : LabelEdit} {key : String} :
    e.effect key ≠ none ↔ e.Names key := by
  rw [effect, Names, Std.ExtTreeMap.mem_iff_isSome_getElem?]
  by_cases h : key ∈ e.removals <;> cases e.upserts[key]? <;> simp [h]

theorem effect_eq_none_iff {e : LabelEdit} {key : String} :
    e.effect key = none ↔ ¬ e.Names key := by
  rw [← effect_ne_none_iff, Decidable.not_not]

theorem effect_eq_some_some_iff {e : LabelEdit} (he : e.KeysDisjoint) {key value : String} :
    e.effect key = some (some value) ↔ e.upserts[key]? = some value := by
  rw [effect]
  split
  · rename_i hgone
    have hfree : e.upserts[key]? = none :=
      Std.ExtTreeMap.getElem?_eq_none fun hmem => he key hmem hgone
    simp [hfree]
  · cases e.upserts[key]? <;> simp

theorem effect_eq_some_none_iff {e : LabelEdit} {key : String} :
    e.effect key = some none ↔ key ∈ e.removals := by
  rw [effect]
  split
  · rename_i hgone
    simp [hgone]
  · rename_i hkept
    cases e.upserts[key]? <;> simp [hkept]

theorem ext_effect {a b : LabelEdit} (ha : a.KeysDisjoint) (hb : b.KeysDisjoint)
    (h : ∀ key, a.effect key = b.effect key) : a = b := by
  have hupserts : a.upserts = b.upserts := LabelMap.ext fun key => by
    apply Option.ext
    intro value
    rw [← effect_eq_some_some_iff ha, ← effect_eq_some_some_iff hb, h key]
  have hremovals : a.removals = b.removals := Std.ExtTreeSet.ext_mem fun key => by
    rw [← effect_eq_some_none_iff, ← effect_eq_some_none_iff, h key]
  cases a
  cases b
  simp_all

theorem isEmpty_iff_effect {e : LabelEdit} :
    e.isEmpty = true ↔ ∀ key, e.effect key = none := by
  rw [isEmpty, Bool.and_eq_true, Std.ExtTreeMap.isEmpty_iff, Std.ExtTreeSet.isEmpty_iff]
  constructor
  · rintro ⟨hupserts, hremovals⟩ key
    simp [effect, hupserts, hremovals]
  · intro h
    have hfree : ∀ key, ¬ e.Names key := fun key hnames => effect_ne_none_iff.mpr hnames (h key)
    constructor
    · apply LabelMap.ext
      intro key
      rw [Std.ExtTreeMap.getElem?_eq_none fun hmem => hfree key (.inl hmem)]
      simp
    · apply Std.ExtTreeSet.ext_mem
      intro key
      simpa using fun hmem => hfree key (.inr hmem)

theorem effect?_eq_none_iff {edit : Option LabelEdit} (hedit : ∀ e, edit = some e → e.Tidy) :
    (∀ key, effect? edit key = none) ↔ edit = none := by
  cases edit with
  | none => simp [effect?]
  | some e =>
      have hempty := (hedit e rfl).nonempty
      simp only [reduceCtorEq, effect?, Option.bind_some, ← isEmpty_iff_effect, hempty]

theorem ext_effect? {a b : Option LabelEdit} (ha : ∀ e, a = some e → e.Tidy)
    (hb : ∀ e, b = some e → e.Tidy) (h : ∀ key, effect? a key = effect? b key) : a = b := by
  cases b with
  | none => exact (effect?_eq_none_iff ha).mp h
  | some e =>
      cases a with
      | none => exact ((effect?_eq_none_iff hb).mp fun key => (h key).symm).symm
      | some d => exact congrArg some (ext_effect (ha d rfl).disjoint (hb e rfl).disjoint h)

theorem exists_upsert_iff {edit : Option LabelEdit} (hedit : ∀ e, edit = some e → e.Tidy)
    {key value : String} :
    (∃ e, edit = some e ∧ e.upserts[key]? = some value) ↔
      effect? edit key = some (some value) := by
  rw [effect?, Option.bind_eq_some_iff]
  constructor
  · rintro ⟨e, he, hvalue⟩
    exact ⟨e, he, (effect_eq_some_some_iff (hedit e he).disjoint).mpr hvalue⟩
  · rintro ⟨e, he, heffect⟩
    exact ⟨e, he, (effect_eq_some_some_iff (hedit e he).disjoint).mp heffect⟩

theorem exists_removal_iff {edit : Option LabelEdit} {key : String} :
    (∃ e, edit = some e ∧ key ∈ e.removals) ↔ effect? edit key = some none := by
  simp only [effect?, Option.bind_eq_some_iff, effect_eq_some_none_iff]

end LabelEdit

namespace LabelSpace

open LabelEdit

variable {s : LabelSpace} {current wanted : LabelMap} {e : LabelEdit}

theorem proper_eq_some_iff {f : LabelEdit} :
    proper e = some f ↔ e.isEmpty = false ∧ e = f := by
  rw [proper]
  cases e.isEmpty <;> simp

theorem effect?_proper (e : LabelEdit) (key : String) : effect? (proper e) key = e.effect key := by
  rw [proper]
  split
  · rename_i hempty
    exact (isEmpty_iff_effect.mp hempty key).symm
  · rfl

theorem getElem?_upserts_difference (s : LabelSpace) (current wanted : LabelMap) (key : String) :
    (s.difference current wanted).upserts[key]? =
      if current[key]? = wanted[key]? then none else wanted[key]? := by
  rw [difference, Std.ExtTreeMap.getElem?_filter']
  cases hw : wanted[key]? with
  | none => simp
  | some value => by_cases heq : current[key]? = some value <;> simp [heq]

theorem mem_removals_difference {key : String} :
    key ∈ (s.difference current wanted).removals ↔
      key ∈ current ∧ s.owns key = true ∧ wanted[key]? = none := by
  rw [difference, Std.ExtTreeSet.mem_ofList, List.contains_iff_mem, List.mem_filter,
    Std.ExtTreeMap.mem_keys, Bool.and_eq_true, Bool.not_eq_true',
    Std.ExtTreeMap.contains_eq_isSome_getElem?, Option.isSome_eq_false_iff,
    Option.isNone_iff_eq_none]

theorem keysDisjoint_difference (s : LabelSpace) (current wanted : LabelMap) :
    (s.difference current wanted).KeysDisjoint := by
  intro key hmem hgone
  rw [Std.ExtTreeMap.mem_iff_isSome_getElem?, getElem?_upserts_difference,
    (mem_removals_difference.mp hgone).2.2] at hmem
  simp at hmem

/-- The difference of two label maps sets every owned key right that is not right yet, and no
other key. -/
theorem effect?_diff (howned : ∀ key ∈ wanted, s.owns key = true) (key : String) :
    effect? (s.diff current wanted) key =
      if s.owns key = true ∧ current[key]? ≠ wanted[key]? then some wanted[key]? else none := by
  rw [diff, effect?_proper, effect, getElem?_upserts_difference]
  simp only [mem_removals_difference, Std.ExtTreeMap.mem_iff_isSome_getElem?]
  cases hw : wanted[key]? with
  | some value =>
      have hown := howned key (Std.ExtTreeMap.mem_iff_isSome_getElem?.mpr (by simp [hw]))
      by_cases heq : current[key]? = some value <;> simp [hown, heq]
  | none =>
      cases current[key]? <;> cases s.owns key <;> simp

theorem tidy_diff (h : s.diff current wanted = some e) : e.Tidy := by
  obtain ⟨hempty, rfl⟩ := proper_eq_some_iff.mp h
  exact ⟨hempty, keysDisjoint_difference s current wanted⟩

theorem diffOne_cases {addOn : String} {health : Option Health}
    (h : s.diffOne current addOn health = some e) :
    (∃ value : Health, e = { upserts := (∅ : LabelMap).insert (s.key addOn) value.text }) ∨
      e = { removals := (∅ : KeySet).insert (s.key addOn) } := by
  cases health with
  | some value =>
      simp only [diffOne] at h
      split at h
      · simp at h
      · exact .inl ⟨value, (Option.some.inj h).symm⟩
  | none =>
      cases hfound : current[s.key addOn]? with
      | some old =>
          simp only [diffOne, hfound] at h
          exact .inr (Option.some.inj h).symm
      | none => simp [diffOne, hfound] at h

theorem tidy_diffOne {addOn : String} {health : Option Health}
    (h : s.diffOne current addOn health = some e) : e.Tidy := by
  rcases diffOne_cases h with ⟨value, rfl⟩ | rfl <;> constructor <;> simp [isEmpty, KeysDisjoint]

theorem effect?_diffOne (addOn : String) (health : Option Health) (key : String) :
    effect? (s.diffOne current addOn health) key =
      if s.key addOn = key ∧ current[key]? ≠ health.map Health.text then
        some (health.map Health.text)
      else none := by
  by_cases hkey : s.key addOn = key
  · subst hkey
    cases health with
    | some h => by_cases heq : current[s.key addOn]? = some h.text <;>
        simp [diffOne, effect?, effect, heq]
    | none => cases hfound : current[s.key addOn]? <;> simp [diffOne, effect?, effect, hfound]
  · cases health with
    | some h => by_cases heq : current[s.key addOn]? = some h.text <;>
        simp [diffOne, effect?, effect, hkey, heq]
    | none => cases hfound : current[s.key addOn]? <;>
        simp [diffOne, effect?, effect, hkey, hfound]

end LabelSpace

end FeatureLabels
