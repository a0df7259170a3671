import Mathlib.Logic.Basic
import FeatureLabels.Fleet
import FeatureLabels.Proofs.ControlLoop

/-!
Why a controller that has nothing left to do has done its work. In every order of changes, reports,
work and landings, a wrong label is accounted for by work that waits, a report that is still to
come, or a request that will set it right.
-/

namespace FeatureLabels

open LabelEdit LabelSpace Relation

namespace Loop

variable {name key : String} {c v : Cluster} {l l' : Loop} {r : Resync} {task : Task}
  {event : WatchEvent AddOn} {held next : ObjectMap AddOn}

theorem Attended.mono (h : l.Attended name c key) (hspace : l'.space = l.space)
    (hwanted : l'.wanted? name key = l.wanted? name key)
    (hknows : ∀ task : Task, task.target = name → l.known.Knows task → l'.known.Knows task)
    (hwaits : ∀ task, l.Waits task → l'.Waits task)
    (hfeed : ∀ v ∈ l.clusterFeed, v.metadata.labelMap ≠ c.metadata.labelMap →
      v ∈ l'.clusterFeed)
    (hflight : l.inFlight ⊆ l'.inFlight) : l'.Attended name c key := by
  have hserves : ∀ task, l.Serves name task key → l'.Serves name task key := by
    rintro task ⟨htarget, hcovers, hknown⟩
    exact ⟨htarget, hspace ▸ hcovers, hknows task htarget hknown⟩
  cases h with
  | right hlabel => exact .right (hlabel.trans hwanted.symm)
  | waits hserved hwaiting => exact .waits (hserves _ hserved) (hwaits _ hwaiting)
  | report hmem hne => exact .report (hfeed _ hmem hne) hne
  | flight hmem hserved heffect =>
      exact .flight (hflight hmem) (hserves _ hserved) (hwanted ▸ heffect)

theorem Attended.reread (h : l.Attended name c key)
    (hlabels : v.metadata.labelMap = c.metadata.labelMap) : l.Attended name v key := by
  cases h with
  | right hlabel => exact .right (hlabels ▸ hlabel)
  | waits hserves hwaits => exact .waits hserves hwaits
  | report hmem hne => exact .report hmem (hlabels ▸ hne)
  | flight hmem hserves heffect => exact .flight hmem hserves heffect

theorem InStep.putCluster (h : l.InStep name c) (hid : identity v = ⟨none, name⟩)
    (hlive : v.metadata.isTerminating = false) : (l.putCluster v).InStep name c := by
  refine { h with versions := ?_, lastVersion := ?_ }
  · intro w hw
    rcases List.mem_append.mp hw with hw | hw
    · exact h.versions w hw
    · rw [List.mem_singleton.mp hw]
      exact ⟨hid, hlive⟩
  · simp [Loop.putCluster]

theorem Attended.putCluster (h : l.Attended name c key) (v : Cluster) :
    (l.putCluster v).Attended name c key :=
  h.mono rfl rfl (fun _ _ => id) (fun _ => id) (fun _ hmem _ => List.mem_append_left _ hmem)
    (List.Subset.refl _)

theorem Sound.rewrite (h : l.Sound name c) (hid : identity v = ⟨none, name⟩)
    (hlive : v.metadata.isTerminating = false) : (l.putCluster v).Sound name c :=
  ⟨h.inStep.putCluster hid hlive, h.aimed, fun key hown => (h.attended key hown).putCluster v⟩

theorem Sound.change (h : l.Sound name c) (hchange : AddOnChange l.addOns event held) :
    Sound name c { l with addOns := held, addOnFeed := l.addOnFeed ++ [event] } := by
  refine ⟨{ h.inStep with changes := h.inStep.changes.concat hchange }, h.aimed, ?_⟩
  intro key hown
  exact (h.attended key hown).mono rfl rfl (fun _ _ => id) (fun _ => id)
    (fun _ hmem _ => hmem) (List.Subset.refl _)

theorem Sound.remind (h : l.Sound name c) (work : List Work) (now : Nat) :
    Sound name c { l with controller := l.controller.enqueue work now } := by
  refine ⟨{ h.inStep with }, h.aimed, ?_⟩
  intro key hown
  exact (h.attended key hown).mono rfl rfl (fun _ _ => id)
    (fun _ hwaits => (Controller.waits_enqueue _ _ _).mpr (.inr hwaits))
    (fun _ hmem _ => hmem) (List.Subset.refl _)

theorem Attended.withdraw (h : l.Attended name c key) (r : Resync) :
    (l.withdraw r).Attended name c key ∨
      (l.Serves name r.task key ∧ r.edit.effect key = some (l.wanted? name key)) := by
  cases h with
  | right hlabel => exact .inl (.right hlabel)
  | waits hserves hwaits => exact .inl (.waits { hserves with } hwaits)
  | report hmem hne => exact .inl (.report hmem hne)
  | @flight sent hmem hserves heffect =>
      rcases eq_or_ne sent r with rfl | hsame
      · exact .inr ⟨hserves, heffect⟩
      · exact .inl (.flight ((List.mem_erase_of_ne hsame).mpr hmem) { hserves with } heffect)

theorem Aimed.withdraw (h : l.Aimed name) (r : Resync) : (l.withdraw r).Aimed name :=
  fun other hother => h other (List.mem_of_mem_erase hother)

theorem InStep.mem_clusterFeed (h : l.InStep name c)
    (hne : l.cluster.metadata.labelMap ≠ c.metadata.labelMap) : l.cluster ∈ l.clusterFeed := by
  have hlast := h.lastVersion
  cases hfeed : l.clusterFeed.getLast? with
  | none =>
      rw [hfeed, Option.getD_none] at hlast
      exact absurd (congrArg (fun c => c.metadata.labelMap) hlast.symm) hne
  | some last =>
      rw [hfeed, Option.getD_some] at hlast
      exact hlast ▸ List.mem_of_getLast? hfeed

theorem getElem?_edited (cluster : Cluster) (e : LabelEdit) (key : String) :
    (cluster.edited e).metadata.labelMap[key]? =
      (e.effect key).getD cluster.metadata.labelMap[key]? :=
  getElem?_applyTo_effect e cluster.metadata.labelMap key

theorem Sound.land (h : l.Sound name c) (hid : identity v = ⟨none, name⟩)
    (hlive : v.metadata.isTerminating = false)
    (hlabels : v.metadata.labelMap = (l.cluster.edited r.edit).metadata.labelMap) :
    ((l.withdraw r).putCluster v).Sound name c := by
  refine ⟨{ h.inStep.putCluster hid hlive with }, h.aimed.withdraw r, ?_⟩
  intro key hown
  rcases (h.attended key hown).withdraw r with hstill | ⟨-, heffect⟩
  · exact hstill.putCluster v
  · rcases eq_or_ne v.metadata.labelMap c.metadata.labelMap with hsame | hsame
    · refine .right ?_
      rw [← hsame, hlabels, getElem?_edited, heffect]
      rfl
    · exact .report (List.mem_append_right _ (List.mem_singleton_self v)) hsame

theorem Sound.landSilently (h : l.Sound name c)
    (hlabels : (l.cluster.edited r.edit).metadata.labelMap = l.cluster.metadata.labelMap) :
    (l.withdraw r).Sound name c := by
  refine ⟨{ h.inStep with }, h.aimed.withdraw r, ?_⟩
  intro key hown
  rcases (h.attended key hown).withdraw r with hstill | ⟨-, heffect⟩
  · exact hstill
  · rcases eq_or_ne l.cluster.metadata.labelMap c.metadata.labelMap with hsame | hsame
    · refine .right ?_
      rw [← hsame, ← hlabels, getElem?_edited, heffect]
      rfl
    · exact .report (h.inStep.mem_clusterFeed hsame) hsame

theorem Sound.fail (h : l.Sound name c) (now : Nat) (delay : Duration) :
    Sound name c
      { l.withdraw r with
        controller := l.controller.requeue r.task.work now (.requeue delay) } := by
  refine ⟨{ h.inStep with }, h.aimed.withdraw r, ?_⟩
  intro key hown
  rcases (h.attended key hown).withdraw r with hstill | ⟨hserves, -⟩
  · exact hstill.mono rfl rfl (fun _ _ => id)
      (fun _ hwaits => (Controller.waits_requeue _ _).mpr (.inr hwaits))
      (fun _ hmem _ => hmem) (List.Subset.refl _)
  · exact .waits { hserves with } ((Controller.waits_requeue _ _).mpr (.inl rfl))

theorem InStep.noStrays (h : l.InStep name c) : l.known.NoStrays := by
  intro a ha
  have htracked := h.tracked (identity a)
  rw [ObjectMap.mem_objects.mp ha] at htracked
  exact htracked.2.1

theorem InStep.editable? (h : l.InStep name c) : l.known.editable? name = some c := by
  refine Inventory.editable?_eq_some_iff.mpr ⟨?_, h.cluster_live⟩
  rw [Inventory.cluster?, Store.get?, Option.or_self, h.cluster_known]

theorem InStep.effect?_plan (h : l.InStep name c) (htarget : task.target = name) (key : String) :
    effect? (l.space.plan l.known task) key =
      if l.space.Covers task key ∧ c.metadata.labelMap[key]? ≠ l.wanted? name key then
        some (l.wanted? name key)
      else none := by
  subst htarget
  exact LabelSpace.effect?_plan h.noStrays h.editable? key

theorem mem_inFlight_launch {performed : Controller.Done × Controller} {plan : Option LabelEdit}
    (hcalls : performed.1.calls = plan.toList.map (Call.mk task.target)) :
    r ∈ (l.launch task performed).inFlight ↔
      (r.task = task ∧ plan = some r.edit) ∨ r ∈ l.inFlight := by
  rw [Loop.launch, List.mem_append, hcalls]
  refine or_congr_left ?_
  simp only [List.mem_map, Option.mem_toList]
  constructor
  · rintro ⟨call, ⟨e, hplan, rfl⟩, rfl⟩
    exact ⟨rfl, hplan⟩
  · rintro ⟨rfl, hplan⟩
    exact ⟨⟨r.task.target, r.edit⟩, ⟨r.edit, hplan, rfl⟩, rfl⟩

/-- What the task of some work was to set right is right when the work is done, or will be by the
request that was made. The task of an object that is not known was to set nothing right. -/
theorem Sound.launch (h : l.Sound name c) (htarget : task.target = name)
    {performed : Controller.Done × Controller} {plan : Option LabelEdit}
    (hcalls : performed.1.calls = plan.toList.map (Call.mk task.target))
    (hplan : ∀ e, plan = some e → l.space.plan l.known task = some e)
    (hknown : l.known.Knows task → plan = l.space.plan l.known task)
    (hafter : ∃ retries metrics lastTask,
      performed.2 =
        { l.controller with
          queue := l.controller.queue.remove task.work
          operator := { l.controller.operator with retries, metrics, lastTask } }) :
    (l.launch task performed).Sound name c := by
  have hflight := fun r => mem_inFlight_launch (r := r) (l := l) hcalls
  obtain ⟨retries, metrics, lastTask, hafter⟩ := hafter
  have hlaunch : l.launch task performed =
      { l with
        controller :=
          { l.controller with
            queue := l.controller.queue.remove task.work
            operator := { l.controller.operator with retries, metrics, lastTask } }
        inFlight := (l.launch task performed).inFlight } := by
    rw [← hafter]
    rfl
  generalize (l.launch task performed).inFlight = flight at hlaunch hflight
  rw [hlaunch]
  have hold : l.inFlight ⊆ flight := fun r hr => (hflight r).mpr (.inr hr)
  refine ⟨{ h.inStep with running := { h.inStep.running with } }, ?_, ?_⟩
  · intro r hr
    rcases (hflight r).mp hr with ⟨rfl, hmade⟩ | hr
    · refine ⟨htarget, fun key hne => ?_⟩
      have heffect := h.inStep.effect?_plan htarget key
      rw [hplan _ hmade] at heffect
      split at heffect
      · rename_i hplanned
        exact hplanned.1
      · exact absurd heffect hne
    · exact h.aimed r hr
  · intro key hown
    cases h.attended key hown with
    | right hlabel => exact .right hlabel
    | report hmem hne => exact .report hmem hne
    | flight hmem hserves heffect => exact .flight (hold hmem) { hserves with } heffect
    | @waits other hserves hwaits =>
        rcases eq_or_ne other task with rfl | hsame
        · have heffect := h.inStep.effect?_plan hserves.target_eq key
          rcases eq_or_ne c.metadata.labelMap[key]? (l.wanted? name key) with hlabel | hlabel
          · exact .right hlabel
          · rw [if_pos ⟨hserves.covers, hlabel⟩, ← hknown hserves.knows] at heffect
            obtain ⟨e, hmade, he⟩ := Option.bind_eq_some_iff.mp heffect
            have hmem : ⟨other, e⟩ ∈ flight := (hflight _).mpr (.inl ⟨rfl, hmade⟩)
            exact .flight hmem { hserves with } he
        · refine .waits { hserves with } (WorkQueue.waits_remove.mpr ⟨hwaits, ?_⟩)
          exact fun hwork => hsame (Task.work_injective hwork)

theorem Sound.take (h : l.Sound name c) (send : Call → Sent) (htarget : task.target = name) :
    (l.take send task).Sound name c := by
  have hcalls := Controller.calls_perform h.inStep.running h.inStep.noStrays send task
  have hafter := l.controller.perform_snd send task.work
  by_cases hknown : l.known.Knows task
  · exact h.launch htarget (hcalls.trans (if_pos hknown)) (fun _ => id) (fun _ => rfl) hafter
  · have hnone : (l.controller.perform send task.work).1.calls =
        (none : Option LabelEdit).toList.map (Call.mk task.target) := hcalls.trans (if_neg hknown)
    exact h.launch htarget hnone nofun (fun h => absurd h hknown) hafter

theorem Sound.takeLate (h : l.Sound name c) (send : Call → Sent) (htarget : task.target = name) :
    (l.takeLate send task).Sound name c :=
  h.launch htarget (Controller.calls_undertake h.inStep.running send task) (fun _ => id)
    (fun _ => rfl) (l.controller.undertake_snd send task.work task)

theorem Sound.reportCluster (h : l.Sound name c) {rest : List Cluster} (now : Nat)
    (hfeed : l.clusterFeed = v :: rest) :
    Sound name v
      { l with
        controller := l.controller.observeCluster (.applied v) now
        clusterFeed := rest } := by
  obtain ⟨hid, hlive⟩ := h.inStep.versions v (by simp [hfeed])
  have hoperator := l.controller.operator_observeCluster_applied v now
    h.inStep.running.clusters_watched
  have hseen := l.controller.clusterAspects_observeCluster_applied v now
  have hwaits := fun w => l.controller.waits_observeCluster_applied (w := w) v now
  have haddOns : (l.controller.observeCluster (.applied v) now).addOnAspects =
      l.controller.addOnAspects := rfl
  generalize l.controller.observeCluster (.applied v) now = observed
    at hoperator hseen hwaits haddOns ⊢
  obtain ⟨operator, clusterAspects, addOnAspects, queue⟩ := observed
  simp only at hoperator hseen hwaits haddOns
  subst hoperator hseen haddOns
  have hget : (l.known.clusters.contents.insert v).get? ⟨none, name⟩ = some v := by
    rw [ObjectMap.get?_insert, if_pos hid]
  refine ⟨⟨{ h.inStep.running with }, hget, hlive, ?_, ?_, ?_, h.inStep.changes,
    h.inStep.tracked⟩, h.aimed, ?_⟩
  · rw [AspectMap.getElem?_insert, if_pos hid]
  · exact fun w hw => h.inStep.versions w (by simp [hfeed, hw])
  · have hlast := h.inStep.lastVersion
    rwa [hfeed, List.getLast?_cons, Option.getD_some] at hlast
  · intro key hown
    rcases eq_or_ne v.aspect c.aspect with hsame | hnews
    · have hlabels : v.metadata.labelMap = c.metadata.labelMap :=
        congrArg ClusterAspect.labels hsame
      refine ((h.attended key hown).reread hlabels).mono rfl rfl
        (fun _ _ hknown => hknown.insertCluster v)
        (fun _ hwaiting => (hwaits _).mpr (.inr hwaiting)) ?_ (List.Subset.refl _)
      intro w hmem hne
      rw [hfeed] at hmem
      rcases List.mem_cons.mp hmem with rfl | hmem
      · exact absurd rfl hne
      · exact hmem
    · have hcovers : l.space.Covers (.cluster name) key := hown
      refine .waits ⟨rfl, hcovers, Option.isSome_iff_exists.mpr ⟨v, hget⟩⟩
        ((hwaits _).mpr (.inl ⟨?_, by rw [hid]; rfl⟩))
      rw [hid, h.inStep.cluster_seen]
      exact fun heq => hnews (Option.some.inj heq).symm

theorem waits_of_news {ctl : Controller} {a : AddOn} {owner addOn : String} (now : Nat)
    (hid : identity a = ⟨some owner, addOn⟩)
    (hnews : ctl.addOnAspects[identity a]? ≠ some a.aspect) :
    (ctl.observeAddOn (.applied a) now).queue.Waits (Task.addOn owner addOn).work :=
  (Controller.waits_observeAddOn_applied ctl a now).mpr (.inl ⟨hnews, by rw [hid]; rfl⟩)

/-- The report of a change leaves alone what the label of an add-on depends on, or else it asks for
the add-on or its cluster. -/
theorem asks_of_change {ctl : Controller} (hchange : AddOnChange held event next)
    (htracked : ∀ id, Tracked (held.get? id) ctl.addOnAspects[id]?) (now : Nat)
    (owner addOn : String) :
    (next.get? ⟨some owner, addOn⟩).map AddOn.aspect =
        (held.get? ⟨some owner, addOn⟩).map AddOn.aspect ∨
      (ctl.observeAddOn event now).queue.Waits (Task.cluster owner).work ∨
      (next.get? ⟨some owner, addOn⟩).isSome = true ∧
        (ctl.observeAddOn event now).queue.Waits (Task.addOn owner addOn).work := by
  cases hchange with
  | @create a hspace hgeneration hfresh =>
      rw [ObjectMap.get?_insert]
      split
      · rename_i hid
        have hnever := htracked (identity a)
        rw [hfresh] at hnever
        have hnews : ctl.addOnAspects[identity a]? ≠ some a.aspect := by
          intro hseen
          obtain ⟨g, hg, hle⟩ := hnever _ hseen
          rw [show a.aspect.generation = some 1 from hgeneration] at hg
          have hone : 1 = g := Option.some.inj hg
          omega
        exact .inr (.inr ⟨rfl, waits_of_news now hid hnews⟩)
      · exact .inl rfl
  | @update old a before after hold hbefore hafter hle =>
      rw [ObjectMap.get?_insert]
      split
      · rename_i hid
        have hlast := htracked (identity a)
        rw [hold] at hlast
        rcases eq_or_ne old.aspect a.aspect with hsame | hsame
        · refine .inl ?_
          rw [← hid, hold, Option.map_some, Option.map_some, hsame]
        · have hnews : ctl.addOnAspects[identity a]? ≠ some a.aspect := by
            rw [hlast.1]
            exact fun heq => hsame (Option.some.inj heq)
          exact .inr (.inr ⟨rfl, waits_of_news now hid hnews⟩)
      · exact .inl rfl
  | @delete last hlast =>
      rw [ObjectMap.get?_erase]
      split
      · rename_i hid
        refine .inr (.inl (Controller.waits_observeAddOn_deleted ?_))
        exact congrArg ObjectId.inNamespace hid
      · exact .inl rfl

theorem tracked_of_change {ctl : Controller} (hchange : AddOnChange held event next)
    (htracked : ∀ id, Tracked (held.get? id) ctl.addOnAspects[id]?) (now : Nat) (id : ObjectId) :
    Tracked (next.get? id) (ctl.observeAddOn event now).addOnAspects[id]? := by
  cases hchange with
  | @create a hspace hgeneration hfresh =>
      rw [Controller.addOnAspects_observeAddOn_applied, AspectMap.getElem?_insert,
        ObjectMap.get?_insert]
      split
      · exact ⟨rfl, hspace, 1, hgeneration, Int.le_refl 1⟩
      · exact htracked id
  | @update old a before after hold hbefore hafter hle =>
      rw [Controller.addOnAspects_observeAddOn_applied, AspectMap.getElem?_insert,
        ObjectMap.get?_insert]
      split
      · have hlast := htracked (identity a)
        rw [hold] at hlast
        obtain ⟨-, hspace, g, hg, hone⟩ := hlast
        have hid : identity old = identity a := ObjectMap.identity_of_get? hold
        have hspaces : old.metadata.inNamespace = a.metadata.inNamespace :=
          congrArg ObjectId.inNamespace hid
        rw [hbefore] at hg
        have hbeforeOne : 1 ≤ before := Option.some.inj hg ▸ hone
        exact ⟨rfl, hspaces ▸ hspace, after, hafter, Int.le_trans hbeforeOne hle⟩
      · exact htracked id
  | @delete last hlast =>
      rw [Controller.addOnAspects_observeAddOn_deleted, AspectMap.getElem?_insert,
        ObjectMap.get?_erase]
      split
      · have hseen := htracked (identity last)
        rw [hlast] at hseen
        obtain ⟨-, -, g, hg, hone⟩ := hseen
        rintro aspect haspect
        obtain rfl := Option.some.inj haspect
        refine ⟨g + 1, ?_, by omega⟩
        change deletedGeneration last.metadata.generation = some (g + 1)
        rw [hg]
        rfl
      · exact htracked id

theorem operator_of_change {ctl : Controller}
    (hchange : AddOnChange ctl.operator.inventory.addOns.contents event next)
    (hwatched : ctl.operator.inventory.addOns.watched = true) (now : Nat) :
    (ctl.observeAddOn event now).operator =
      { ctl.operator with inventory.addOns.contents := next } := by
  cases hchange with
  | create => exact ctl.operator_observeAddOn_applied _ now hwatched
  | update => exact ctl.operator_observeAddOn_applied _ now hwatched
  | delete => exact ctl.operator_observeAddOn_deleted _ now hwatched

theorem Sound.reportAddOn (h : l.Sound name c) {rest : List (WatchEvent AddOn)} (now : Nat)
    (hfeed : l.addOnFeed = event :: rest) :
    Sound name c
      { l with controller := l.controller.observeAddOn event now, addOnFeed := rest } := by
  have hchanges := h.inStep.changes
  rw [hfeed] at hchanges
  obtain _ | @⟨_, next, _, _, _, hchange, hrest⟩ := hchanges
  have hoperator := operator_of_change hchange h.inStep.running.addOns_watched now
  have htracked := tracked_of_change hchange h.inStep.tracked now
  have hasks := asks_of_change hchange h.inStep.tracked now name
  have hwaits := fun w (hw : l.controller.queue.Waits w) =>
    Controller.waits_observeAddOn_of_waits event now hw
  have hseen : (l.controller.observeAddOn event now).clusterAspects =
      l.controller.clusterAspects := rfl
  generalize l.controller.observeAddOn event now = observed
    at hoperator htracked hasks hwaits hseen ⊢
  obtain ⟨operator, clusterAspects, addOnAspects, queue⟩ := observed
  simp only at hoperator htracked hasks hwaits hseen
  subst hoperator hseen
  refine ⟨⟨{ h.inStep.running with }, h.inStep.cluster_known, h.inStep.cluster_live,
    h.inStep.cluster_seen, h.inStep.versions, h.inStep.lastVersion, hrest, htracked⟩, h.aimed, ?_⟩
  intro key hown
  -- A label goes wrong only if its own add-on is asked for, or the whole cluster.
  by_cases hresync : queue.Waits (Task.cluster name).work
  · have hcovers : l.space.Covers (.cluster name) key := hown
    refine .waits ⟨rfl, hcovers, ?_⟩ hresync
    exact Option.isSome_iff_exists.mpr ⟨c, h.inStep.cluster_known⟩
  · by_cases hresync' : ∃ addOn, l.space.Covers (.addOn name addOn) key ∧
        (next.get? ⟨some name, addOn⟩).isSome = true ∧
        queue.Waits (Task.addOn name addOn).work
    · obtain ⟨addOn, hcovers, hsome, hwaiting⟩ := hresync'
      exact .waits ⟨rfl, hcovers, hsome⟩ hwaiting
    · refine (h.attended key hown).mono rfl ?_ ?_ (fun _ => hwaits _)
        (fun _ hmem _ => hmem) (List.Subset.refl _)
      · refine Inventory.getElem?_wanted_congr fun addOn hfits hkey => ?_
        rcases hasks addOn with hsame | hcluster | ⟨hsome, haddOn⟩
        · exact hsame
        · exact absurd hcluster hresync
        · exact absurd ⟨addOn, ⟨hfits, hkey⟩, hsome, haddOn⟩ hresync'
      · rintro (_ | ⟨owner, addOn⟩) htarget hknown
        · exact hknown
        · obtain rfl : owner = name := htarget
          rcases hasks addOn with hsame | hcluster | ⟨hsome, -⟩
          · have hstays := congrArg Option.isSome hsame
            rw [Option.isSome_map, Option.isSome_map] at hstays
            exact hstays.trans hknown
          · exact absurd hcluster hresync
          · exact hsome

theorem Begins.sound (h : l.Begins name) : l.Sound name l.cluster := by
  refine ⟨⟨h.running, h.cluster_known, h.cluster_live, h.cluster_seen, ?_, ?_, ?_, ?_⟩, ?_, ?_⟩
  · rw [h.clusterFeed_eq]
    exact fun v hv => absurd hv List.not_mem_nil
  · rw [h.clusterFeed_eq]
    rfl
  · rw [h.addOnFeed_eq, h.addOns_known]
    exact .nil
  · intro id
    rw [h.addOns_known, h.addOns_seen]
    cases hget : l.addOns.get? id with
    | none => exact fun aspect haspect => by simp at haspect
    | some a =>
        have hid : identity a = id := ObjectMap.identity_of_get? hget
        have hmem : a ∈ l.addOns.objects := ObjectMap.mem_objects.mpr (hid ▸ hget)
        refine ⟨rfl, h.noStrays a ?_, h.generations a hmem⟩
        rw [Store.objects, h.addOns_known]
        exact hmem
  · intro r hr
    rw [h.inFlight_eq] at hr
    exact absurd hr List.not_mem_nil
  · intro key hown
    have hcovers : l.space.Covers (.cluster name) key := hown
    exact .waits ⟨rfl, hcovers, Option.isSome_iff_exists.mpr ⟨_, h.cluster_known⟩⟩ h.waits

theorem Sound.step (h : l.Sound name c) (hstep : Step name l l') :
    ∃ c', l'.Sound name c' := by
  cases hstep with
  | rewrite v hid hlive => exact ⟨c, h.rewrite hid hlive⟩
  | change hchange => exact ⟨c, h.change hchange⟩
  | reportCluster now hfeed => exact ⟨_, h.reportCluster now hfeed⟩
  | reportAddOn now hfeed => exact ⟨c, h.reportAddOn now hfeed⟩
  | remind work now => exact ⟨c, h.remind work now⟩
  | take send task htarget _ => exact ⟨c, h.take send htarget⟩
  | takeLate send task htarget _ => exact ⟨c, h.takeLate send htarget⟩
  | land v _ hid hlive hlabels => exact ⟨c, h.land hid hlive hlabels⟩
  | landSilently _ hlabels => exact ⟨c, h.landSilently hlabels⟩
  | fail now delay _ => exact ⟨c, h.fail now delay⟩

theorem Begins.run {l₀ : Loop} (h : l₀.Begins name) (hrun : ReflTransGen (Step name) l₀ l) :
    ∃ c, l.Sound name c := by
  induction hrun with
  | refl => exact ⟨_, h.sound⟩
  | tail _ hstep ih =>
      obtain ⟨c, hsound⟩ := ih
      exact hsound.step hstep

theorem get?_of_changes {events : List (WatchEvent AddOn)} {id : ObjectId}
    (h : AddOnChanges held events next)
    (hother : ∀ event ∈ events, ∀ a, event.object? = some a → identity a ≠ id) :
    next.get? id = held.get? id := by
  induction h with
  | nil => rfl
  | @cons held next last event events hchange _ ih =>
      have hstep : next.get? id = held.get? id := by
        have hne := hother event List.mem_cons_self
        cases hchange with
        | create => rw [ObjectMap.get?_insert, if_neg (hne _ rfl)]
        | update => rw [ObjectMap.get?_insert, if_neg (hne _ rfl)]
        | delete => rw [ObjectMap.get?_erase, if_neg (hne _ rfl)]
      rw [ih fun event hmem => hother event (List.mem_cons_of_mem _ hmem), hstep]

theorem Sound.shows_or_excused (h : l.Sound name c) (hown : l.space.owns key = true) :
    l.space.Shows l.actual name l.cluster.metadata.labelMap key ∨ l.Excused name key := by
  by_cases hevent : ∃ event ∈ l.addOnFeed, ∃ a addOn, event.object? = some a ∧
      identity a = ⟨some name, addOn⟩ ∧ l.space.Covers (.addOn name addOn) key
  · obtain ⟨event, hmem, a, addOn, hobject, hid, hcovers⟩ := hevent
    exact .inr (.event hmem hobject hid hcovers)
  · have hwanted : (l.space.wantedOn l.actual name)[key]? = l.wanted? name key := by
      refine Inventory.getElem?_wanted_congr fun addOn hfits hkey => ?_
      refine congrArg _ (get?_of_changes h.inStep.changes ?_)
      intro event hmem a hobject hid
      exact hevent ⟨event, hmem, a, addOn, hobject, hid, hfits, hkey⟩
    have hknown : l.known.cluster? name = some c :=
      (Inventory.editable?_eq_some_iff.mp h.inStep.editable?).1
    rcases eq_or_ne l.cluster.metadata.labelMap c.metadata.labelMap with hsame | hsame
    · cases h.attended key hown with
      | right hlabel => exact .inl (shows_iff.mpr (by rw [hsame, hlabel, hwanted]))
      | waits hserves hwaits => exact .inr (.waits hserves.target_eq hserves.covers hwaits)
      | report hmem hne => exact .inr (.version hknown hmem hne)
      | flight hmem _ heffect => exact .inr (.flight hmem (by rw [heffect, hwanted]))
    · exact .inr (.version hknown (h.inStep.mem_clusterFeed hsame) hsame)

theorem Quiet.not_excused (h : l.Quiet name) : ¬ l.Excused name key := by
  intro hexcused
  cases hexcused with
  | waits htarget _ hwaits => exact h.waits _ htarget hwaits
  | version _ hmem _ => exact absurd (h.clusterFeed_eq ▸ hmem) List.not_mem_nil
  | event hmem _ _ _ => exact absurd (h.addOnFeed_eq ▸ hmem) List.not_mem_nil
  | flight hmem _ => exact absurd (h.inFlight_eq ▸ hmem) List.not_mem_nil

end Loop

/-- In every order of changes, reports, work and landings: an owned label of the cluster is the one
that its add-ons ask for, or something that waits or is on its way accounts for it; no request that
is on its way is about a label that is not owned; and when nothing is left to be done and nothing
is on its way, all owned labels are the ones that the add-ons ask for. -/
theorem controlLoop_consistent {name : String} {first l : Loop} (hbegins : first.Begins name)
    (hrun : ReflTransGen (Loop.Step name) first l) :
    (∀ key, l.space.owns key = true →
      l.space.Shows l.actual name l.cluster.metadata.labelMap key ∨ l.Excused name key) ∧
    (∀ r ∈ l.inFlight, ∀ key, l.space.owns key = false → r.edit.effect key = none) ∧
    (l.Quiet name → ∀ key, l.space.owns key = true →
      l.space.Shows l.actual name l.cluster.metadata.labelMap key) := by
  obtain ⟨c, hsound⟩ := hbegins.run hrun
  refine ⟨fun key hown => hsound.shows_or_excused hown, ?_, ?_⟩
  · intro r hr key hforeign
    by_cases hnone : r.edit.effect key = none
    · exact hnone
    · have hown := ((hsound.aimed r hr).2 key hnone).owns
      simp [hown] at hforeign
  · intro hquiet key hown
    exact (hsound.shows_or_excused hown).resolve_right hquiet.not_excused

namespace Sample

/-- The cluster and its add-on after both were listed. Below, the cluster's task is done and asks
for other labels; these land and are reported, and then all work that waits is done. -/
def listed : Loop where
  controller := (Fleet.ofObjects { domain := "example.com" } [cluster] [addOn] []).controller
  cluster := cluster
  addOns := .ofList [addOn]

def accepted (_ : Call) : Sent := { result := .ok () }

def asked : Loop := listed.take accepted (.cluster "c1")

def request : Resync := asked.inFlight.headD ⟨.cluster "c1", {}⟩

def landed : Loop := (asked.withdraw request).putCluster (asked.cluster.edited request.edit)

def reported : Loop :=
  { landed with
    controller := landed.controller.observeCluster (.applied landed.cluster) 0
    clusterFeed := [] }

def rested : Loop := (reported.take accepted (.cluster "c1")).take accepted (.addOn "c1" "a")

theorem begins_listed : listed.Begins "c1" where
  running := ⟨rfl, rfl, rfl, rfl, rfl⟩
  cluster_known := rfl
  cluster_live := rfl
  cluster_seen := rfl
  addOns_known := rfl
  addOns_seen id := by
    have haspects : listed.controller.addOnAspects =
        (∅ : AspectMap AddOnAspect).insert (identity addOn) addOn.aspect := rfl
    have haddOns : listed.addOns = (∅ : ObjectMap AddOn).insert addOn := rfl
    rw [haspects, haddOns, AspectMap.getElem?_insert, ObjectMap.get?_insert]
    split <;> simp
  noStrays := by decide
  generations a ha := by
    have hobjects : listed.addOns.objects = [addOn] := rfl
    rw [hobjects] at ha
    rw [List.mem_singleton.mp ha]
    exact ⟨1, rfl, Int.le_refl 1⟩
  waits := by
    rw [Loop.Waits]
    decide
  clusterFeed_eq := rfl
  addOnFeed_eq := rfl
  inFlight_eq := rfl

theorem run_rested : ReflTransGen (Loop.Step "c1") listed rested :=
  ReflTransGen.refl
    |>.tail (.take accepted (.cluster "c1") rfl begins_listed.waits)
    |>.tail (.land (r := request) _ (by decide +kernel) rfl rfl rfl)
    |>.tail (.reportCluster 0 rfl)
    |>.tail (.take accepted (.cluster "c1") rfl (by rw [Loop.Waits]; decide +kernel))
    |>.tail (.take accepted (.addOn "c1" "a") rfl (by rw [Loop.Waits]; decide +kernel))

theorem quiet_rested : rested.Quiet "c1" where
  waits task _ hwaits := by
    have hidle : rested.controller.queue.entries = [] := by decide +kernel
    rw [Loop.Waits, WorkQueue.Waits, hidle] at hwaits
    exact List.not_mem_nil hwaits
  clusterFeed_eq := rfl
  addOnFeed_eq := rfl
  inFlight_eq := by decide +kernel

end Sample

open Sample in
theorem controlLoop_consistent_sample :
    listed.Begins "c1" ∧ ReflTransGen (Loop.Step "c1") listed rested ∧ rested.Quiet "c1" ∧
    ∀ key, rested.space.owns key = true →
      rested.space.Shows rested.actual "c1" rested.cluster.metadata.labelMap key :=
  ⟨begins_listed, run_rested, quiet_rested,
    (controlLoop_consistent begins_listed run_rested).2.2 quiet_rested⟩

end FeatureLabels
