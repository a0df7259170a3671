import FeatureLabels.Feed
import FeatureLabels.Plan

/-!
The labels that the add-ons of a cluster want. An add-on holds the key made of its name unless it
is on its way out or its name makes no key; a wanted label is the health of the last add-on that
holds its key, and among the add-ons of one cluster at most one does.
-/

namespace FeatureLabels

namespace LabelSpace

/-- An add-on holds a label key: it is not on its way out, and its name makes that key. -/
def Holds (s : LabelSpace) (a : AddOn) (key : String) : Prop :=
  a.metadata.isTerminating = false ∧ fits a.metadata.givenName = true ∧
    s.key a.metadata.givenName = key

instance (s : LabelSpace) (a : AddOn) (key : String) : Decidable (s.Holds a key) :=
  inferInstanceAs (Decidable (_ ∧ _ ∧ _))

variable {s : LabelSpace} {addOns : List AddOn} {a : AddOn} {key : String}

theorem Holds.owns (h : s.Holds a key) : s.owns key = true := by
  obtain ⟨-, -, rfl⟩ := h
  exact owns_key s a.metadata.givenName

theorem wantedLabel_eq_some_iff {label : String × String} :
    s.wantedLabel a = some label ↔ s.Holds a label.1 ∧ a.health.text = label.2 := by
  obtain ⟨key, value⟩ := label
  rw [wantedLabel, Holds]
  cases a.metadata.isTerminating <;> cases fits a.metadata.givenName <;> simp

/-- The last add-on that holds a key decides about its label. -/
theorem getElem?_wanted (s : LabelSpace) (addOns : List AddOn) (key : String) :
    (s.wanted addOns)[key]? =
      (addOns.reverse.find? fun a => s.Holds a key).map fun a => a.health.text := by
  rw [wanted, LabelMap.getElem?_ofPairs, ← List.filterMap_reverse]
  generalize addOns.reverse = l
  induction l with
  | nil => rfl
  | cons a l ih =>
      rw [List.filterMap_cons, List.find?_cons]
      cases hlabel : s.wantedLabel a with
      | none =>
          have hnot : ¬ s.Holds a key := by
            intro h
            have hsome : s.wantedLabel a = some (key, a.health.text) :=
              wantedLabel_eq_some_iff.mpr ⟨h, rfl⟩
            simp [hsome] at hlabel
          simpa [hnot] using ih
      | some label =>
          obtain ⟨hholds, htext⟩ := wantedLabel_eq_some_iff.mp hlabel
          by_cases hkey : label.1 = key
          · subst hkey
            simp [hholds, htext]
          · have hnot : ¬ s.Holds a key := fun h => hkey (hholds.2.2.symm.trans h.2.2)
            simpa [hnot, hkey] using ih

theorem getElem?_wanted_eq_none (h : ∀ a ∈ addOns, ¬ s.Holds a key) :
    (s.wanted addOns)[key]? = none := by
  rw [getElem?_wanted, List.find?_eq_none.mpr]
  · rfl
  · intro a ha
    simpa using h a (List.mem_reverse.mp ha)

theorem getElem?_wanted_eq_some (ha : a ∈ addOns) (hholds : s.Holds a key)
    (honly : ∀ b ∈ addOns, s.Holds b key → b = a) :
    (s.wanted addOns)[key]? = some a.health.text := by
  rw [getElem?_wanted]
  cases hfind : addOns.reverse.find? fun a => s.Holds a key with
  | none =>
      have hnot := List.find?_eq_none.mp hfind a (List.mem_reverse.mpr ha)
      simp [hholds] at hnot
  | some b =>
      have hb : s.Holds b key := by simpa using List.find?_some hfind
      rw [honly b (List.mem_reverse.mp (List.mem_of_find?_eq_some hfind)) hb]
      rfl

theorem exists_holds_of_mem_wanted (h : key ∈ s.wanted addOns) :
    ∃ a ∈ addOns, s.Holds a key := by
  rw [Std.ExtTreeMap.mem_iff_isSome_getElem?, getElem?_wanted, Option.isSome_map] at h
  obtain ⟨a, ha⟩ := Option.isSome_iff_exists.mp h
  exact ⟨a, List.mem_reverse.mp (List.mem_of_find?_eq_some ha), by simpa using List.find?_some ha⟩

end LabelSpace

namespace Inventory

open LabelSpace

variable {inv : Inventory} {s : LabelSpace} {cluster name key : String} {a b : AddOn}

/-- Every known add-on belongs to a cluster. -/
def NoStrays (inv : Inventory) : Prop :=
  ∀ a ∈ inv.addOns.objects, a.metadata.inNamespace.isSome = true

instance (inv : Inventory) : Decidable inv.NoStrays :=
  inferInstanceAs (Decidable (∀ a ∈ inv.addOns.objects, a.metadata.inNamespace.isSome = true))

theorem mem_addOnsOf :
    a ∈ inv.addOnsOf cluster ↔
      inv.addOns.contents.get? ⟨some cluster, a.metadata.givenName⟩ = some a := by
  rw [addOnsOf, List.mem_filter, Store.objects, ObjectMap.mem_objects, beq_iff_eq]
  constructor
  · rintro ⟨hget, hspace⟩
    rwa [← hspace]
  · intro hget
    have hid := ObjectMap.identity_of_get? hget
    exact ⟨hid ▸ hget, congrArg ObjectId.inNamespace hid⟩

theorem eq_of_holds (ha : a ∈ inv.addOnsOf cluster) (hb : b ∈ inv.addOnsOf cluster)
    (haKey : s.Holds a key) (hbKey : s.Holds b key) : b = a := by
  have hname : b.metadata.givenName = a.metadata.givenName :=
    key_injective s (hbKey.2.2.trans haKey.2.2.symm)
  have hget := mem_addOnsOf.mp hb
  rw [hname, mem_addOnsOf.mp ha] at hget
  exact (Option.some.inj hget).symm

theorem getElem?_wanted_addOnsOf (ha : a ∈ inv.addOnsOf cluster) (hholds : s.Holds a key) :
    (s.wanted (inv.addOnsOf cluster))[key]? = some a.health.text :=
  getElem?_wanted_eq_some ha hholds fun _ hb hbKey => eq_of_holds ha hb hholds hbKey

theorem getElem?_wanted_key (s : LabelSpace) (inv : Inventory) (cluster : String)
    (hfits : fits name = true) :
    (s.wanted (inv.addOnsOf cluster))[s.key name]? =
      ((inv.addOns.contents.get? ⟨some cluster, name⟩).filter fun a =>
        !a.metadata.isTerminating).map fun a => a.health.text := by
  cases hget : inv.addOns.contents.get? ⟨some cluster, name⟩ with
  | none =>
      apply getElem?_wanted_eq_none
      intro a ha hholds
      rw [mem_addOnsOf, key_injective s hholds.2.2, hget] at ha
      simp at ha
  | some a =>
      have hname : a.metadata.givenName = name :=
        congrArg ObjectId.name (ObjectMap.identity_of_get? hget)
      subst hname
      have ha : a ∈ inv.addOnsOf cluster := mem_addOnsOf.mpr hget
      cases hlive : a.metadata.isTerminating with
      | false =>
          rw [getElem?_wanted_addOnsOf ha ⟨hlive, hfits, rfl⟩]
          simp [Option.filter_some, hlive]
      | true =>
          rw [getElem?_wanted_eq_none]
          · simp [Option.filter_some, hlive]
          · intro b hb hholds
            rw [mem_addOnsOf, key_injective s hholds.2.2, hget] at hb
            obtain rfl := Option.some.inj hb
            simp [hholds.1] at hlive

theorem wanted_eq_of_aspect {o o' : Option AddOn}
    (h : o.map AddOn.aspect = o'.map AddOn.aspect) :
    (o.filter fun a => !a.metadata.isTerminating).map (fun a => a.health.text) =
      (o'.filter fun a => !a.metadata.isTerminating).map fun a => a.health.text := by
  cases o with
  | none => cases o' <;> simp_all
  | some a =>
      cases o' with
      | none => simp at h
      | some b =>
          have haspect : a.aspect = b.aspect := Option.some.inj h
          have hgone : a.metadata.isTerminating = b.metadata.isTerminating :=
            congrArg AddOnAspect.terminating haspect
          have hreport : a.report = b.report := congrArg AddOnAspect.report haspect
          have hhealth : a.health = b.health := by
            change Health.ofVerdict (a.report.map Verdict.ofText) =
              Health.ofVerdict (b.report.map Verdict.ofText)
            rw [hreport]
          simp [Option.filter_some, hgone, apply_ite, hhealth]

theorem getElem?_wanted_congr {inv' : Inventory}
    (h : ∀ name, fits name = true → s.key name = key →
      (inv'.addOns.contents.get? ⟨some cluster, name⟩).map AddOn.aspect =
        (inv.addOns.contents.get? ⟨some cluster, name⟩).map AddOn.aspect) :
    (s.wanted (inv'.addOnsOf cluster))[key]? = (s.wanted (inv.addOnsOf cluster))[key]? := by
  by_cases hmade : ∃ name, fits name = true ∧ s.key name = key
  · obtain ⟨name, hfits, rfl⟩ := hmade
    rw [getElem?_wanted_key s inv' cluster hfits, getElem?_wanted_key s inv cluster hfits]
    exact wanted_eq_of_aspect (h name hfits rfl)
  · have hnone : ∀ a : AddOn, ¬ s.Holds a key := fun a hholds =>
      hmade ⟨a.metadata.givenName, hholds.2⟩
    rw [getElem?_wanted_eq_none fun a _ => hnone a, getElem?_wanted_eq_none fun a _ => hnone a]

theorem addOn?_eq (h : inv.NoStrays) :
    inv.addOn? cluster name = inv.addOns.contents.get? ⟨some cluster, name⟩ := by
  have hnone : inv.addOns.contents.get? ⟨none, name⟩ = none := by
    cases hget : inv.addOns.contents.get? ⟨none, name⟩ with
    | none => rfl
    | some a =>
        have hid := ObjectMap.identity_of_get? hget
        have hspace := h a (ObjectMap.mem_objects.mpr (hid ▸ hget))
        rw [show a.metadata.inNamespace = none from congrArg ObjectId.inNamespace hid] at hspace
        simp at hspace
  rw [addOn?, Store.get?, hnone, Option.or_none]

theorem editable?_eq_some_iff {c : Cluster} :
    inv.editable? name = some c ↔
      inv.cluster? name = some c ∧ c.metadata.isTerminating = false := by
  simp [editable?, Option.filter_eq_some_iff]

end Inventory

end FeatureLabels
