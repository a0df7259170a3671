import FeatureLabels.Proofs.SameAspect

namespace FeatureLabels

namespace LabelSpace

/-- An add-on of a list holds a key, and no later one does. -/
def HoldsLast (s : LabelSpace) (addOns : List AddOn) (a : AddOn) (key : String) : Prop :=
  ∃ front back, addOns = front ++ a :: back ∧ s.Holds a key ∧ ∀ b ∈ back, ¬ s.Holds b key

variable {s : LabelSpace} {addOns other front back : List AddOn} {a : AddOn} {key value : String}

theorem find?_reverse_eq_some_iff :
    (addOns.reverse.find? fun a => s.Holds a key) = some a ↔ s.HoldsLast addOns a key := by
  rw [List.find?_eq_some_iff_append]
  constructor
  · rintro ⟨hholds, back, front, hlist, hback⟩
    refine ⟨front.reverse, back.reverse, ?_, by simpa using hholds, ?_⟩
    · rw [← List.reverse_reverse addOns, hlist]
      simp
    · intro b hb
      simpa using hback b (List.mem_reverse.mp hb)
  · rintro ⟨front, back, rfl, hholds, hback⟩
    refine ⟨by simpa using hholds, back.reverse, front.reverse, by simp, ?_⟩
    intro b hb
    simpa using hback b (List.mem_reverse.mp hb)

theorem getElem?_wanted_eq_some_iff :
    (s.wanted addOns)[key]? = some value ↔
      ∃ a, s.HoldsLast addOns a key ∧ a.health.text = value := by
  rw [getElem?_wanted, Option.map_eq_some_iff]
  simp only [find?_reverse_eq_some_iff]

theorem mem_wanted_iff : key ∈ s.wanted addOns ↔ ∃ a ∈ addOns, s.Holds a key := by
  rw [Std.ExtTreeMap.mem_iff_isSome_getElem?, getElem?_wanted, Option.isSome_map,
    List.find?_isSome]
  simp only [List.mem_reverse, decide_eq_true_eq]

theorem wanted_of_holds_nothing (h : ∀ key, ¬ s.Holds a key) :
    s.wanted (front ++ a :: back) = s.wanted (front ++ back) := by
  apply LabelMap.ext
  intro key
  rw [getElem?_wanted, getElem?_wanted]
  simp [List.find?_append, h key]

theorem holdsLast_iff_of_nodup (h : (addOns.map fun a => a.metadata.givenName).Nodup) :
    s.HoldsLast addOns a key ↔ a ∈ addOns ∧ s.Holds a key := by
  constructor
  · rintro ⟨front, back, rfl, hholds, -⟩
    exact ⟨by simp, hholds⟩
  · rintro ⟨hmem, hholds⟩
    obtain ⟨front, back, rfl⟩ := List.append_of_mem hmem
    refine ⟨front, back, rfl, hholds, ?_⟩
    intro b hb hbKey
    have hname : b.metadata.givenName = a.metadata.givenName :=
      key_injective s (hbKey.2.2.trans hholds.2.2.symm)
    rw [List.map_append, List.map_cons, List.nodup_append, List.nodup_cons] at h
    exact h.2.1.1 (List.mem_map.mpr ⟨b, hb, hname⟩)

theorem wanted_perm (h : (addOns.map fun a => a.metadata.givenName).Nodup)
    (hperm : other.Perm addOns) : s.wanted other = s.wanted addOns := by
  have hother : (other.map fun a => a.metadata.givenName).Nodup := (hperm.map _).nodup_iff.mpr h
  apply LabelMap.ext
  intro key
  apply Option.ext
  intro value
  rw [getElem?_wanted_eq_some_iff, getElem?_wanted_eq_some_iff]
  simp only [holdsLast_iff_of_nodup h, holdsLast_iff_of_nodup hother, hperm.mem_iff]

/-- The change that a full resync asks for when the known add-ons are listed in a given order. -/
def planListed (s : LabelSpace) (inv : Inventory) (listed : List AddOn) (cluster : String) :
    Option LabelEdit :=
  (inv.editable? cluster).bind fun c =>
    s.diff c.metadata.labelMap <|
      s.wanted <| listed.filter fun a => a.metadata.inNamespace == some cluster

end LabelSpace

theorem Inventory.nodup_names (inv : Inventory) (cluster : String) :
    ((inv.addOnsOf cluster).map fun a => a.metadata.givenName).Nodup := by
  rw [List.Nodup, List.pairwise_map, addOnsOf]
  refine List.Pairwise.imp_of_mem ?_ (inv.addOns.contents.pairwise_objects.filter _)
  intro a b ha hb hne hname
  have hspace : a.metadata.inNamespace = b.metadata.inNamespace :=
    (beq_iff_eq.mp (List.mem_filter.mp ha).2).trans (beq_iff_eq.mp (List.mem_filter.mp hb).2).symm
  exact hne (by simp only [identity, HasMetadata.metadata, hspace, hname])

open LabelSpace

/-- What a list of add-ons wants is told by the last holder of each key, so that add-ons on their
way out count for nothing and, without two add-ons of one name, neither does the order. -/
theorem wanted_byLastHolder (s : LabelSpace) (addOns : List AddOn) :
    (∀ key, key ∈ s.wanted addOns ↔ ∃ a ∈ addOns, a.metadata.isTerminating = false ∧
      fits a.metadata.givenName = true ∧ s.key a.metadata.givenName = key) ∧
    (∀ key value, (s.wanted addOns)[key]? = some value ↔
      ∃ a, s.HoldsLast addOns a key ∧ a.health.text = value) ∧
    (∀ front a back, addOns = front ++ a :: back → a.metadata.isTerminating = true →
      s.wanted addOns = s.wanted (front ++ back)) ∧
    ((addOns.map fun a => a.metadata.givenName).Nodup →
      ∀ other, other.Perm addOns → s.wanted other = s.wanted addOns) ∧
    ∀ (inv : Inventory) (cluster : String),
      ((inv.addOnsOf cluster).map fun a => a.metadata.givenName).Nodup ∧
      ∀ listed, listed.Perm inv.addOns.objects →
        s.planListed inv listed cluster = s.plan inv (.cluster cluster) := by
  refine ⟨fun _ => mem_wanted_iff, fun _ _ => getElem?_wanted_eq_some_iff, ?_,
    fun h _ hperm => wanted_perm h hperm, ?_⟩
  · rintro front a back rfl hgone
    exact wanted_of_holds_nothing fun key hholds => by simp [hholds.1] at hgone
  · intro inv cluster
    have hnodup := inv.nodup_names cluster
    refine ⟨hnodup, fun listed hperm => ?_⟩
    rw [planListed, plan, Task.target, wanted_perm hnodup (hperm.filter _)]

namespace Sample

def leaving : AddOn :=
  { reporting oldConditions with metadata.deletionTimestamp := some midnight }

def unnamed : AddOn where
  metadata := { inNamespace := some "c1" }

def repeated : List AddOn := [reporting oldConditions, unnamed, addOn, leaving]

def second : AddOn where
  metadata := { name := some "b", inNamespace := some "c1" }

def twoAddOns : Inventory where
  clusters := .ofList [cluster]
  addOns := .ofList [addOn, second]

end Sample

theorem wanted_byLastHolder_sample :
    Sample.leaving.metadata.isTerminating = true ∧
    (LabelSpace.wanted ⟨"example.com"⟩ Sample.repeated)["feature.example.com/addon-a"]? =
      some "unreachable" ∧
    LabelSpace.wanted ⟨"example.com"⟩ Sample.repeated =
      LabelSpace.wanted ⟨"example.com"⟩
        [Sample.reporting Sample.oldConditions, Sample.unnamed, Sample.addOn] ∧
    LabelSpace.wanted ⟨"example.com"⟩ [Sample.second, Sample.unnamed, Sample.addOn] =
      LabelSpace.wanted ⟨"example.com"⟩ [Sample.addOn, Sample.unnamed, Sample.second] ∧
    LabelSpace.planListed ⟨"example.com"⟩ Sample.twoAddOns [Sample.second, Sample.addOn] "c1" =
      LabelSpace.plan ⟨"example.com"⟩ Sample.twoAddOns (.cluster "c1") := by
  obtain ⟨-, hvalue, hleaving, -, hlisted⟩ :=
    wanted_byLastHolder ⟨"example.com"⟩ Sample.repeated
  obtain ⟨-, -, -, hperm, -⟩ := wanted_byLastHolder ⟨"example.com"⟩
    [Sample.addOn, Sample.unnamed, Sample.second]
  have hlast : LabelSpace.HoldsLast ⟨"example.com"⟩ Sample.repeated Sample.addOn
      "feature.example.com/addon-a" :=
    ⟨[Sample.reporting Sample.oldConditions, Sample.unnamed], [Sample.leaving], rfl,
      by decide +kernel, by decide +kernel⟩
  have hobjects : Sample.twoAddOns.addOns.objects = [Sample.addOn, Sample.second] := by
    decide +kernel
  refine ⟨rfl, (hvalue _ _).mpr ⟨_, hlast, rfl⟩,
    hleaving [Sample.reporting Sample.oldConditions, Sample.unnamed, Sample.addOn] _ [] rfl rfl,
    hperm (by decide) _ (List.reverse_perm [Sample.addOn, Sample.unnamed, Sample.second]),
    (hlisted Sample.twoAddOns "c1").2 _ ?_⟩
  rw [hobjects]
  exact .swap _ _ _

end FeatureLabels
