import FeatureLabels.Proofs.EditEffect

namespace FeatureLabels

open LabelEdit

namespace LabelSpace

/-- A change makes the owned labels equal to the wanted ones, and leaves all others as they are. -/
structure SetsRight (s : LabelSpace) (current wanted : LabelMap) (e : LabelEdit) : Prop where
  owned : ∀ key, s.owns key = true → (e.applyTo current)[key]? = wanted[key]?
  foreign : ∀ key, s.owns key = false → (e.applyTo current)[key]? = current[key]?

/-- No change that makes the owned labels right does less than this one. -/
structure Smallest (s : LabelSpace) (current wanted : LabelMap) (e : LabelEdit) : Prop where
  setsRight : s.SetsRight current wanted e
  tidy : e.Tidy
  fresh : ∀ key value : String, e.upserts[key]? = some value → current[key]? ≠ some value
  present : ∀ key ∈ e.removals, key ∈ current
  least : ∀ other, s.SetsRight current wanted other →
    ∀ key, e.Names key → other.Names key ∧ other.effect key = e.effect key
  unique : ∀ other, s.SetsRight current wanted other → other.KeysDisjoint →
    (∀ key, other.Names key → e.Names key) → other = e

variable {s : LabelSpace} {current wanted : LabelMap} {e : LabelEdit} {key : String}

theorem SetsRight.effect_eq (h : s.SetsRight current wanted e) (hown : s.owns key = true)
    (hwrong : current[key]? ≠ wanted[key]?) : e.effect key = some wanted[key]? := by
  have hright := h.owned key hown
  rw [getElem?_applyTo_effect] at hright
  cases heffect : e.effect key with
  | none =>
      rw [heffect, Option.getD_none] at hright
      exact absurd hright hwrong
  | some value =>
      rw [heffect, Option.getD_some] at hright
      rw [hright]

theorem setsRight_of_effect
    (h : ∀ key, e.effect key =
      if s.owns key = true ∧ current[key]? ≠ wanted[key]? then some wanted[key]? else none) :
    s.SetsRight current wanted e := by
  constructor
  · intro key hown
    rw [getElem?_applyTo_effect, h]
    split
    · rfl
    · rename_i hright
      simpa [hown] using hright
  · intro key hforeign
    rw [getElem?_applyTo_effect, h, if_neg (by simp [hforeign]), Option.getD_none]

theorem effect_of_diff (howned : ∀ key ∈ wanted, s.owns key = true)
    (h : s.diff current wanted = some e) (key : String) :
    e.effect key =
      if s.owns key = true ∧ current[key]? ≠ wanted[key]? then some wanted[key]? else none := by
  rw [← effect?_diff howned key, h, effect?, Option.bind_some]

theorem names_of_diff (howned : ∀ key ∈ wanted, s.owns key = true)
    (h : s.diff current wanted = some e) :
    e.Names key ↔ s.owns key = true ∧ current[key]? ≠ wanted[key]? := by
  rw [← effect_ne_none_iff, effect_of_diff howned h]
  split
  · rename_i hwrong
    simpa using hwrong
  · rename_i hright
    simpa using hright

theorem smallest_of_diff (howned : ∀ key ∈ wanted, s.owns key = true)
    (h : s.diff current wanted = some e) : s.Smallest current wanted e := by
  have htidy : e.Tidy := tidy_diff h
  have hleast : ∀ other, s.SetsRight current wanted other →
      ∀ key, e.Names key → other.effect key = e.effect key := by
    intro other hother key hnames
    have hwrong := (names_of_diff howned h).mp hnames
    rw [hother.effect_eq hwrong.1 hwrong.2, effect_of_diff howned h, if_pos hwrong]
  constructor
  case setsRight => exact setsRight_of_effect (effect_of_diff howned h)
  case tidy => exact htidy
  case fresh =>
    intro key value hvalue hsame
    have heffect := (effect_eq_some_some_iff htidy.disjoint).mpr hvalue
    rw [effect_of_diff howned h] at heffect
    split at heffect
    · rename_i hwrong
      rw [Option.some.inj heffect] at hwrong
      exact hwrong.2 hsame
    · contradiction
  case present =>
    intro key hgone
    have heffect := effect_eq_some_none_iff.mpr hgone
    rw [effect_of_diff howned h] at heffect
    split at heffect
    · rename_i hwrong
      rw [Option.some.inj heffect] at hwrong
      exact Std.ExtTreeMap.mem_iff_isSome_getElem?.mpr (Option.isSome_iff_ne_none.mpr hwrong.2)
    · contradiction
  case least =>
    intro other hother key hnames
    have heffect := hleast other hother key hnames
    refine ⟨?_, heffect⟩
    rw [← effect_ne_none_iff, heffect]
    exact effect_ne_none_iff.mpr hnames
  case unique =>
    intro other hother hdisjoint hwithin
    apply ext_effect hdisjoint htidy.disjoint
    intro key
    cases hfree : e.effect key with
    | none =>
        apply effect_eq_none_iff.mpr
        intro hnames
        exact effect_eq_none_iff.mp hfree (hwithin key hnames)
    | some value =>
        have hnames : e.Names key := effect_ne_none_iff.mp (by simp [hfree])
        rw [hleast other hother key hnames, hfree]

theorem effect_empty (key : String) : ({} : LabelEdit).effect key = none :=
  isEmpty_iff_effect.mp rfl key

theorem diff_eq_none_iff (howned : ∀ key ∈ wanted, s.owns key = true) :
    s.diff current wanted = none ↔ s.SetsRight current wanted {} := by
  rw [← effect?_eq_none_iff fun _ => tidy_diff]
  constructor
  · intro hnone
    apply setsRight_of_effect
    intro key
    rw [effect_empty, ← effect?_diff howned, hnone]
  · intro hempty key
    rw [effect?_diff howned, if_neg]
    rintro ⟨hown, hwrong⟩
    have heffect := hempty.effect_eq hown hwrong
    rw [effect_empty] at heffect
    contradiction

end LabelSpace

open LabelSpace

/-- The difference of two label maps, of which the second has owned keys only, is the smallest
change that makes the owned labels right; there is none just when the empty change does. -/
theorem diff_smallest (s : LabelSpace) {wanted : LabelMap}
    (howned : ∀ key ∈ wanted, s.owns key = true) (current : LabelMap) :
    (∀ e, s.diff current wanted = some e → s.Smallest current wanted e) ∧
    (s.diff current wanted = none ↔ s.SetsRight current wanted {}) :=
  ⟨fun _ => smallest_of_diff howned, diff_eq_none_iff howned⟩

theorem diff_smallest_sample :
    let s : LabelSpace := ⟨"example.com"⟩
    let wanted := (∅ : LabelMap).insert (s.key "a") "available"
    let current := LabelMap.ofPairs
      [("vendor", "Kind"), (s.key "a", "unhealthy"), (s.key "gone", "available"), (s.stem, "")]
    (∀ key ∈ wanted, s.owns key = true) ∧
    ∃ e, s.diff current wanted = some e ∧ s.Smallest current wanted e := by
  intro s wanted current
  have howned : ∀ key ∈ wanted, s.owns key = true := by
    intro key hmem
    have hkey : s.key "a" = key := by simpa [wanted] using hmem
    rw [← hkey]
    exact owns_key s "a"
  obtain ⟨e, he⟩ : ∃ e, s.diff current wanted = some e :=
    Option.isSome_iff_exists.mp (by decide +kernel)
  exact ⟨howned, e, he, (diff_smallest s howned current).1 e he⟩

end FeatureLabels
