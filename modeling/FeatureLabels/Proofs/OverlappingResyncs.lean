import Mathlib.Logic.Relation
import FeatureLabels.Proofs.FullResync

/-!
Resyncs of one cluster that overlap. Each of them reads the labels as they once were, and its
request lands some time later. All the same no label ever takes another value than its first and
its settled one, and a label that a finished resync was about is settled.
-/

namespace FeatureLabels

open LabelEdit LabelSpace Relation

structure Overlap where
  labels : LabelMap
  /-- All labels so far, those of the present included. -/
  past : List LabelMap
  inFlight : List Resync := []
  finished : List Task := []

namespace Overlap

def start (labels : LabelMap) : Overlap := { labels, past := [labels] }

def finish (o : Overlap) (task : Task) : Overlap := { o with finished := task :: o.finished }

def request (o : Overlap) (r : Resync) : Overlap := { o with inFlight := r :: o.inFlight }

def land (o : Overlap) (r : Resync) : Overlap where
  labels := r.edit.applyTo o.labels
  past := r.edit.applyTo o.labels :: o.past
  inFlight := o.inFlight.erase r
  finished := r.task :: o.finished

/-- What a resync may read: the add-ons as they are, and the cluster as it was at some time. -/
structure Sees (inv : Inventory) (name : String) (past : List LabelMap) (view : Inventory) :
    Prop where
  addOns_eq : view.addOns = inv.addOns
  labels_mem : ∃ c, view.editable? name = some c ∧ c.metadata.labelMap ∈ past

/-- What may happen to the labels of a cluster while its add-ons stay as they are. -/
inductive Step (s : LabelSpace) (inv : Inventory) (name : String) : Overlap → Overlap → Prop where
  | idle {o : Overlap} {view : Inventory} (task : Task) (htarget : task.target = name)
      (hsees : Sees inv name o.past view) (hplan : s.plan view task = none) :
      Step s inv name o (o.finish task)
  | request {o : Overlap} {view : Inventory} {e : LabelEdit} (task : Task)
      (htarget : task.target = name) (hsees : Sees inv name o.past view)
      (hplan : s.plan view task = some e) : Step s inv name o (o.request ⟨task, e⟩)
  | land {o : Overlap} {r : Resync} (hmem : r ∈ o.inFlight) : Step s inv name o (o.land r)

/-- The labels are on their way from the first to the last: they do not turn back, and neither a
request in flight nor a finished task leaves a key behind that it is about. -/
structure Converging (s : LabelSpace) (first last : LabelMap) (o : Overlap) : Prop where
  labels_mem : o.labels ∈ o.past
  between : ∀ old ∈ o.past, ∀ key : String, old[key]? = first[key]? ∨ old[key]? = last[key]?
  keeps : ∀ old ∈ o.past, ∀ key : String, old[key]? = last[key]? → o.labels[key]? = last[key]?
  effect_eq : ∀ r ∈ o.inFlight, ∀ key,
    r.edit.effect key = none ∨ r.edit.effect key = some last[key]?
  settles : ∀ r ∈ o.inFlight, ∀ key, s.Covers r.task key → r.edit.effect key = none →
    o.labels[key]? = last[key]?
  settled : ∀ task ∈ o.finished, ∀ key, s.Covers task key → o.labels[key]? = last[key]?

variable {s : LabelSpace} {inv view : Inventory} {name : String} {c : Cluster} {task : Task}
  {first last : LabelMap} {o o' : Overlap} {r : Resync} {e : LabelEdit}

theorem converging_start (s : LabelSpace) (first last : LabelMap) :
    Converging s first last (start first) := by
  refine ⟨List.mem_singleton_self first, ?_, ?_, ?_, ?_, ?_⟩
  · intro old hold key
    rw [List.mem_singleton.mp hold]
    exact .inl rfl
  · intro old hold key hlast
    rwa [List.mem_singleton.mp hold] at hlast
  · exact fun r hr => absurd hr List.not_mem_nil
  · exact fun r hr => absurd hr List.not_mem_nil
  · exact fun task htask => absurd htask List.not_mem_nil

theorem getElem?_after_plan_cluster (hc : inv.editable? name = some c) (key : String) :
    (after (s.plan inv (.cluster name)) c.metadata.labelMap)[key]? =
      if s.owns key = true then (s.wantedOn inv name)[key]? else c.metadata.labelMap[key]? := by
  have hsettled := settled_after_plan (s := s) hc
  split
  · rename_i hown
    exact shows_iff.mp (hsettled.owned key hown)
  · rename_i hforeign
    exact hsettled.foreign key (by simpa using hforeign)

/-- A resync with a stale view gives a key its settled label, or does nothing to it because the
key is not its own or had its settled label then. -/
theorem effect?_plan_of_sees (hstrays : inv.NoStrays) (hc : inv.editable? name = some c)
    (htarget : task.target = name) {past : List LabelMap} (hsees : Sees inv name past view) :
    ∃ old ∈ past, ∀ key,
      effect? (s.plan view task) key =
        if s.Covers task key ∧
            old[key]? ≠ (after (s.plan inv (.cluster name)) c.metadata.labelMap)[key]? then
          some (after (s.plan inv (.cluster name)) c.metadata.labelMap)[key]?
        else none := by
  subst htarget
  obtain ⟨d, hd, hmem⟩ := hsees.labels_mem
  have hview : view.NoStrays := by
    rw [Inventory.NoStrays, hsees.addOns_eq]
    exact hstrays
  have hwanted : s.wantedOn view task.target = s.wantedOn inv task.target := by
    rw [wantedOn, wantedOn, Inventory.addOnsOf, Inventory.addOnsOf, hsees.addOns_eq]
  refine ⟨d.metadata.labelMap, hmem, fun key => ?_⟩
  rw [effect?_plan hview hd, hwanted]
  by_cases hcovers : s.Covers task key
  · rw [getElem?_after_plan_cluster hc, if_pos hcovers.owns]
  · simp only [hcovers, false_and, if_false]

theorem Converging.finish (h : Converging s first last o)
    (hplan : ∃ old ∈ o.past, ∀ key, s.Covers task key → old[key]? = last[key]?) :
    Converging s first last (o.finish task) := by
  refine { h with settled := ?_ }
  intro other hother key hcovers
  rcases List.mem_cons.mp hother with rfl | hother
  · obtain ⟨old, hold, hlast⟩ := hplan
    exact h.keeps old hold key (hlast key hcovers)
  · exact h.settled other hother key hcovers

theorem Converging.request (h : Converging s first last o)
    (hplan : ∃ old ∈ o.past, ∀ key, e.effect key =
      if s.Covers task key ∧ old[key]? ≠ last[key]? then some last[key]? else none) :
    Converging s first last (o.request ⟨task, e⟩) := by
  obtain ⟨old, hold, heffect⟩ := hplan
  refine { h with effect_eq := ?_, settles := ?_ }
  · intro r hr key
    rcases List.mem_cons.mp hr with rfl | hr
    · rw [heffect]
      split
      · exact .inr rfl
      · exact .inl rfl
    · exact h.effect_eq r hr key
  · intro r hr key hcovers hnone
    rcases List.mem_cons.mp hr with rfl | hr
    · rw [heffect] at hnone
      have hlast : old[key]? = last[key]? := by simpa [hcovers] using hnone
      exact h.keeps old hold key hlast
    · exact h.settles r hr key hcovers hnone

theorem Converging.land (h : Converging s first last o) (hmem : r ∈ o.inFlight) :
    Converging s first last (o.land r) := by
  -- The request leaves a label as it is, or gives it its last value.
  have hlabel : ∀ key : String, (o.land r).labels[key]? = o.labels[key]? ∧
      r.edit.effect key = none ∨ (o.land r).labels[key]? = last[key]? := by
    intro key
    rw [show (o.land r).labels = r.edit.applyTo o.labels from rfl, getElem?_applyTo_effect]
    rcases h.effect_eq r hmem key with hnone | hsome
    · exact .inl ⟨by rw [hnone, Option.getD_none], hnone⟩
    · exact .inr (by rw [hsome, Option.getD_some])
  have hkeeps : ∀ key : String, o.labels[key]? = last[key]? →
      (o.land r).labels[key]? = last[key]? := by
    intro key hlast
    rcases hlabel key with ⟨hsame, -⟩ | hnow
    · rw [hsame, hlast]
    · exact hnow
  refine ⟨List.mem_cons_self, ?_, ?_, ?_, ?_, ?_⟩
  · intro old hold key
    rcases List.mem_cons.mp hold with rfl | hold
    · rcases hlabel key with ⟨hsame, -⟩ | hnow
      · rw [show r.edit.applyTo o.labels = (o.land r).labels from rfl, hsame]
        exact h.between o.labels h.labels_mem key
      · exact .inr hnow
    · exact h.between old hold key
  · intro old hold key hlast
    rcases List.mem_cons.mp hold with rfl | hold
    · exact hlast
    · exact hkeeps key (h.keeps old hold key hlast)
  · exact fun other hother key => h.effect_eq other (List.mem_of_mem_erase hother) key
  · intro other hother key hcovers hnone
    exact hkeeps key (h.settles other (List.mem_of_mem_erase hother) key hcovers hnone)
  · intro task htask key hcovers
    rcases List.mem_cons.mp htask with rfl | htask
    · rcases hlabel key with ⟨-, hnone⟩ | hnow
      · exact hkeeps key (h.settles r hmem key hcovers hnone)
      · exact hnow
    · exact hkeeps key (h.settled task htask key hcovers)

theorem Converging.step (hstrays : inv.NoStrays) (hc : inv.editable? name = some c)
    (h : Converging s first (after (s.plan inv (.cluster name)) c.metadata.labelMap) o)
    (hstep : Step s inv name o o') :
    Converging s first (after (s.plan inv (.cluster name)) c.metadata.labelMap) o' := by
  cases hstep with
  | idle task htarget hsees hplan =>
      obtain ⟨old, hold, heffect⟩ := effect?_plan_of_sees (s := s) hstrays hc htarget hsees
      refine h.finish ⟨old, hold, fun key hcovers => ?_⟩
      have hnone := heffect key
      rw [hplan] at hnone
      simpa [effect?, hcovers] using hnone
  | request task htarget hsees hplan =>
      obtain ⟨old, hold, heffect⟩ := effect?_plan_of_sees (s := s) hstrays hc htarget hsees
      rw [hplan] at heffect
      exact h.request ⟨old, hold, heffect⟩
  | land hmem => exact h.land hmem

theorem Converging.run (hstrays : inv.NoStrays) (hc : inv.editable? name = some c)
    (h : Converging s first (after (s.plan inv (.cluster name)) c.metadata.labelMap) o)
    (hrun : ReflTransGen (Step s inv name) o o') :
    Converging s first (after (s.plan inv (.cluster name)) c.metadata.labelMap) o' := by
  induction hrun with
  | refl => exact h
  | tail _ hstep ih => exact ih.step hstrays hc hstep

theorem past_subset (hrun : ReflTransGen (Step s inv name) o o') : o.past ⊆ o'.past := by
  induction hrun with
  | refl => exact List.Subset.refl o.past
  | tail _ hstep ih =>
      cases hstep with
      | idle => exact ih
      | request => exact ih
      | land => exact List.Subset.trans ih (List.subset_cons_self _ _)

end Overlap

open Overlap

/-- Full and targeted resyncs of a cluster overlap in any way, on views of the cluster from any
time of the run. Throughout, a label has its first value or the one that a full resync gives it at
the start; an owned label that has got this value keeps it; a label that is not owned never changes;
and once each key that a full resync changes is one that a finished task was about, the labels are
those that the full resync gives. -/
theorem overlappingResyncs_converge (s : LabelSpace) {inv : Inventory} (hstrays : inv.NoStrays)
    {name : String} {c : Cluster} (hc : inv.cluster? name = some c)
    (hlive : c.metadata.isTerminating = false) {o : Overlap}
    (hrun : ReflTransGen (Step s inv name) (start c.metadata.labelMap) o) :
    let settled := after (s.plan inv (.cluster name)) c.metadata.labelMap
    (∀ key : String, o.labels[key]? = c.metadata.labelMap[key]? ∨
      o.labels[key]? = settled[key]?) ∧
    (∀ o', ReflTransGen (Step s inv name) o o' → ∀ key, s.owns key = true →
      o.labels[key]? = settled[key]? → o'.labels[key]? = settled[key]?) ∧
    (∀ key : String, s.owns key = false → o.labels[key]? = c.metadata.labelMap[key]?) ∧
    ((∀ key : String, c.metadata.labelMap[key]? ≠ settled[key]? →
      ∃ task ∈ o.finished, s.Covers task key) → o.labels = settled) := by
  intro settled
  have hedit : inv.editable? name = some c := Inventory.editable?_eq_some_iff.mpr ⟨hc, hlive⟩
  have hinv : Converging s c.metadata.labelMap settled o :=
    (converging_start s c.metadata.labelMap settled).run hstrays hedit hrun
  refine ⟨hinv.between o.labels hinv.labels_mem, ?_, ?_, ?_⟩
  · intro o' hrun' key _ hkey
    exact (hinv.run hstrays hedit hrun').keeps o.labels (past_subset hrun' hinv.labels_mem) key hkey
  · intro key hforeign
    have hsame : settled[key]? = c.metadata.labelMap[key]? :=
      (settled_after_plan hedit).foreign key hforeign
    rcases hinv.between o.labels hinv.labels_mem key with hfirst | hlast
    · exact hfirst
    · exact hlast.trans hsame
  · intro hcovered
    apply LabelMap.ext
    intro key
    rcases hinv.between o.labels hinv.labels_mem key with hfirst | hlast
    · by_cases hsame : c.metadata.labelMap[key]? = settled[key]?
      · exact hfirst.trans hsame
      · obtain ⟨task, htask, hcovers⟩ := hcovered key hsame
        exact hinv.settled task htask key hcovers
    · exact hlast

theorem overlappingResyncs_converge_sample :
    Sample.inventory.NoStrays ∧ Sample.inventory.cluster? "c1" = some Sample.cluster ∧
    Sample.cluster.metadata.isTerminating = false ∧
    ∃ o, ReflTransGen (Step ⟨"example.com"⟩ Sample.inventory "c1")
        (start Sample.cluster.metadata.labelMap) o ∧
      o.finished = [.cluster "c1", .addOn "c1" "a"] ∧
      o.labels = after (LabelSpace.plan ⟨"example.com"⟩ Sample.inventory (.cluster "c1"))
        Sample.cluster.metadata.labelMap := by
  have hstrays : Sample.inventory.NoStrays := by decide
  have hc : Sample.inventory.cluster? "c1" = some Sample.cluster := rfl
  obtain ⟨e, he⟩ : ∃ e,
      LabelSpace.plan ⟨"example.com"⟩ Sample.inventory (.cluster "c1") = some e :=
    Option.isSome_iff_exists.mp (by decide +kernel)
  obtain ⟨d, hd⟩ : ∃ d,
      LabelSpace.plan ⟨"example.com"⟩ Sample.inventory (.addOn "c1" "a") = some d :=
    Option.isSome_iff_exists.mp (by decide +kernel)
  have hsees : Sees Sample.inventory "c1" [Sample.cluster.metadata.labelMap] Sample.inventory :=
    ⟨rfl, Sample.cluster, rfl, List.mem_singleton_self _⟩
  -- Both resyncs read the first labels, and the one that was asked for last lands first.
  have hrun := ReflTransGen.refl
    |>.tail (Step.request (o := start Sample.cluster.metadata.labelMap) (.cluster "c1") rfl hsees
      he)
    |>.tail (Step.request (.addOn "c1" "a") rfl hsees hd)
    |>.tail (Step.land (r := ⟨.addOn "c1" "a", d⟩) List.mem_cons_self)
    |>.tail (Step.land (r := ⟨.cluster "c1", e⟩) (by simp [land, request, start]))
  refine ⟨hstrays, hc, rfl, _, hrun, rfl, ?_⟩
  refine (overlappingResyncs_converge ⟨"example.com"⟩ hstrays hc rfl hrun).2.2.2 ?_
  intro key hne
  refine ⟨.cluster "c1", List.mem_cons_self, ?_⟩
  cases hown : LabelSpace.owns ⟨"example.com"⟩ key with
  | true => exact hown
  | false => exact absurd ((settled_after_plan rfl).foreign key hown).symm hne

end FeatureLabels
