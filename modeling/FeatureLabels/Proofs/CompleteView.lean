import FeatureLabels.Proofs.StoreHistory
import FeatureLabels.Proofs.WriteSafety

/-!
What the tasks of a shift see. No task looks at the stores before both have had a complete list, and
one whose list will never come fails. So a label goes only because of something that was reported
about its add-on, never because a list is still in progress.
-/

namespace FeatureLabels

namespace Entry

def clusterEvent? : Entry → Option (WatchEvent Cluster)
  | .noticed (.cluster event) => some event
  | _ => none

def addOnEvent? : Entry → Option (WatchEvent AddOn)
  | .noticed (.addOn event) => some event
  | _ => none

theorem clusterEvent?_eq_some_iff {entry : Entry} {event : WatchEvent Cluster} :
    entry.clusterEvent? = some event ↔ entry = .noticed (.cluster event) := by
  unfold clusterEvent?
  split
  · simp
  · rename_i hother
    exact ⟨fun hnone => by simp at hnone, fun hentry => (hother event hentry).elim⟩

theorem addOnEvent?_eq_some_iff {entry : Entry} {event : WatchEvent AddOn} :
    entry.addOnEvent? = some event ↔ entry = .noticed (.addOn event) := by
  unfold addOnEvent?
  split
  · simp
  · rename_i hother
    exact ⟨fun hnone => by simp at hnone, fun hentry => (hother event hentry).elim⟩

end Entry

def clusterEvents (journal : List Entry) : List (WatchEvent Cluster) :=
  journal.filterMap Entry.clusterEvent?

def addOnEvents (journal : List Entry) : List (WatchEvent AddOn) :=
  journal.filterMap Entry.addOnEvent?

section

variable {journal entries : List Entry}

theorem mem_clusterEvents {event : WatchEvent Cluster} :
    event ∈ clusterEvents journal ↔ .noticed (.cluster event) ∈ journal := by
  simp only [clusterEvents, List.mem_filterMap, Entry.clusterEvent?_eq_some_iff, exists_eq_right]

theorem mem_addOnEvents {event : WatchEvent AddOn} :
    event ∈ addOnEvents journal ↔ .noticed (.addOn event) ∈ journal := by
  simp only [addOnEvents, List.mem_filterMap, Entry.addOnEvent?_eq_some_iff, exists_eq_right]

theorem clusterEvents_append (hquiet : ∀ notice, .noticed notice ∉ entries) :
    clusterEvents (entries ++ journal) = clusterEvents journal := by
  have hnone : clusterEvents entries = [] :=
    List.eq_nil_iff_forall_not_mem.mpr fun _ hmem => hquiet _ (mem_clusterEvents.mp hmem)
  rw [clusterEvents, List.filterMap_append, ← clusterEvents, hnone, List.nil_append, clusterEvents]

theorem addOnEvents_append (hquiet : ∀ notice, .noticed notice ∉ entries) :
    addOnEvents (entries ++ journal) = addOnEvents journal := by
  have hnone : addOnEvents entries = [] :=
    List.eq_nil_iff_forall_not_mem.mpr fun _ hmem => hquiet _ (mem_addOnEvents.mp hmem)
  rw [addOnEvents, List.filterMap_append, ← addOnEvents, hnone, List.nil_append, addOnEvents]

end

/-- A job has looked at these clusters: both kinds had been listed completely before, and they are
what was last listed and reported by then. -/
def LookedAt (journal : List Entry) (n : Nat) (clusters : ObjectMap Cluster) : Prop :=
  ∃ since read, journal = since ++ .looked n :: read ∧
    .noticed (.cluster .listEnds) ∈ read ∧ .noticed (.addOn .listEnds) ∈ read ∧
    WatchEvent.lastView (clusterEvents read) = some clusters

theorem LookedAt.append {journal : List Entry} {n : Nat} {clusters : ObjectMap Cluster}
    (h : LookedAt journal n clusters) (entries : List Entry) :
    LookedAt (entries ++ journal) n clusters := by
  obtain ⟨since, read, hjournal, hread⟩ := h
  exact ⟨entries ++ since, read, by rw [hjournal, List.append_assoc], hread⟩

structure Sees (journal : List Entry) (n : Nat) (view : Inventory) : Prop where
  clusters : LookedAt journal n view.clusters.contents
  addOns : WatchEvent.lastView (addOnEvents journal) = some view.addOns.contents

/-- The watch of a kind of object has ended before its first list was complete. For add-ons this
comes to light when the clusters are listed. -/
def LostUnlisted (journal : List Entry) : Kind → Prop
  | .cluster =>
    .noticed (.unwatched .cluster) ∈ journal ∧ .noticed (.cluster .listEnds) ∉ journal
  | .addOn =>
    .noticed (.unwatched .addOn) ∈ journal ∧ .noticed (.addOn .listEnds) ∉ journal ∧
      .noticed (.cluster .listEnds) ∈ journal

namespace Shift

variable {shift later : Shift} {n millis : Nat} {task : Task} {stage next : Stage}

structure Tracked (shift : Shift) : Prop where
  clusters : shift.operator.inventory.clusters.Follows (clusterEvents shift.journal)
  addOns : shift.operator.inventory.addOns.Follows (addOnEvents shift.journal)
  clusters_watched : shift.operator.inventory.clusters.watched = true ↔
    .noticed (.unwatched .cluster) ∉ shift.journal
  addOns_watched : shift.operator.inventory.addOns.watched = true ↔
    .noticed (.unwatched .addOn) ∉ shift.journal

theorem tracked_start (settings : Settings) : (start settings).Tracked :=
  ⟨Store.follows_empty, Store.follows_empty, by simp [start, Operator.ofSettings],
    by simp [start, Operator.ofSettings]⟩

theorem Tracked.clusters_filled (h : shift.Tracked) :
    shift.operator.inventory.clusters.filled = true ↔
      .noticed (.cluster .listEnds) ∈ shift.journal := by
  rw [h.clusters.filled_iff, mem_clusterEvents]

theorem Tracked.addOns_filled (h : shift.Tracked) :
    shift.operator.inventory.addOns.filled = true ↔
      .noticed (.addOn .listEnds) ∈ shift.journal := by
  rw [h.addOns.filled_iff, mem_addOnEvents]

theorem Tracked.write (h : shift.Tracked) (entries : List Entry)
    (hinventory : later.operator.inventory = shift.operator.inventory)
    (hjournal : later.journal = entries ++ shift.journal)
    (hquiet : ∀ notice, .noticed notice ∉ entries) : later.Tracked := by
  constructor
  · rw [hinventory, hjournal, clusterEvents_append hquiet]
    exact h.clusters
  · rw [hinventory, hjournal, addOnEvents_append hquiet]
    exact h.addOns
  · rw [hinventory, hjournal, List.mem_append, or_iff_right (hquiet _)]
    exact h.clusters_watched
  · rw [hinventory, hjournal, List.mem_append, or_iff_right (hquiet _)]
    exact h.addOns_watched

theorem Tracked.hear (h : shift.Tracked) {notice : Notice}
    (hhears : shift.operator.inventory.hears notice = true) :
    Tracked
      { shift with
        operator.inventory := shift.operator.inventory.notice notice
        journal := .noticed notice :: shift.journal } := by
  cases notice with
  | cluster event =>
      have hwatched : shift.operator.inventory.clusters.watched = true := hhears
      refine ⟨h.clusters.record hwatched event, h.addOns, ?_, ?_⟩
      · simpa [Inventory.notice, Store.watched_record] using h.clusters_watched
      · simpa [Inventory.notice] using h.addOns_watched
  | addOn event =>
      have hwatched : shift.operator.inventory.addOns.watched = true := hhears
      refine ⟨h.clusters, h.addOns.record hwatched event, ?_, ?_⟩
      · simpa [Inventory.notice] using h.clusters_watched
      · simpa [Inventory.notice, Store.watched_record] using h.addOns_watched
  | unwatched kind =>
      cases kind with
      | cluster =>
          refine ⟨h.clusters.unwatch, h.addOns, ?_, ?_⟩
          · simp [Inventory.notice, Store.unwatch]
          · simpa [Inventory.notice] using h.addOns_watched
      | addOn =>
          refine ⟨h.clusters, h.addOns.unwatch, ?_, ?_⟩
          · simpa [Inventory.notice] using h.clusters_watched
          · simp [Inventory.notice, Store.unwatch]

theorem noticed_notMem_entries (notice : Notice) (n : Nat) (task : Task) (stage : Stage) :
    .noticed notice ∉ stage.entries n task := by
  cases stage <;> simp [Stage.entries]

theorem Tracked.moves (h : shift.Tracked) (hmoves : shift.Moves later) : later.Tracked := by
  cases hmoves with
  | stays => exact h
  | hears hhears => exact h.hear hhears
  | stops => exact h.write [.stopped] rfl rfl (by simp)
  | begins task => exact h.write [.begun _ task] rfl rfl (by simp)
  | advances hjob hreaches =>
      exact h.write _ inventory_advance rfl fun notice => noticed_notMem_entries notice _ _ _
  | retries task failure =>
      exact h.write [.retried task failure] (inventory_afterFailure _ task failure) rfl
        (by simp)

/-- How far a job can have got, by what is known and written down. -/
def Backed (shift : Shift) (n : Nat) : Stage → Prop
  | .waiting => True
  | .looked clusters =>
    shift.operator.inventory.readiness.1 = .ready ∧ LookedAt shift.journal n clusters.contents
  | .called _ => shift.operator.inventory.readiness.1 = .ready
  | .ended ending =>
    shift.operator.inventory.readiness.1 = .ready ∨
      ∃ kind, shift.operator.inventory.readiness = (.lost, kind) ∧
        ending = .failed (.neverReady kind)

/-- Jobs have got no further than what they know allows, and each call that was made was planned on
what its job saw. -/
structure Informed (shift : Shift) : Prop where
  tracked : shift.Tracked
  jobs : ∀ n task stage, shift.jobs[n]? = some ⟨task, stage⟩ → shift.Backed n stage
  calls : ∀ since n task edit earlier, shift.journal = since ++ .called n task edit :: earlier →
    ∃ view, Sees earlier n view ∧ shift.operator.settings.space.plan view task = some edit

theorem Backed.moves (h : shift.Backed n stage) (hmoves : shift.Moves later) :
    later.Backed n stage := by
  have hsame := readiness_moves hmoves
  cases stage with
  | waiting => trivial
  | looked clusters =>
      obtain ⟨hready, hlooked⟩ := h
      obtain ⟨entry, hjournal⟩ := journal_moves hmoves
      refine ⟨by rw [hsame (by simp [hready]), hready], ?_⟩
      rw [hjournal]
      exact hlooked.append entry.toList
  | called edit =>
      have hready : shift.operator.inventory.readiness.1 = .ready := h
      exact (congrArg Prod.fst (hsame (by simp [hready]))).trans hready
  | ended ending =>
      rcases h with hready | ⟨kind, hlost, hending⟩
      · exact .inl (by rw [hsame (by simp [hready]), hready])
      · exact .inr ⟨kind, by rw [hsame (by simp [hlost]), hlost], hending⟩

theorem Tracked.lists_of_ready (h : shift.Tracked)
    (hready : shift.operator.inventory.readiness.1 = .ready) :
    (.noticed (.cluster .listEnds) ∈ shift.journal ∧
        WatchEvent.lastView (clusterEvents shift.journal) =
          some shift.operator.inventory.clusters.contents) ∧
      .noticed (.addOn .listEnds) ∈ shift.journal ∧
        WatchEvent.lastView (addOnEvents shift.journal) =
          some shift.operator.inventory.addOns.contents := by
  obtain ⟨hclusters, haddOns⟩ := Inventory.readiness_eq_ready_iff.mp hready
  exact ⟨⟨h.clusters_filled.mp hclusters, h.clusters.contents_eq hclusters⟩,
    h.addOns_filled.mp haddOns, h.addOns.contents_eq haddOns⟩

theorem Informed.backed_advance (h : shift.Informed) {before : Stage}
    (hjob : shift.jobs[n]? = some ⟨task, before⟩)
    (hreaches : Reaches shift.operator task before stage) :
    (shift.advance n millis task stage).Backed n stage := by
  have hbefore := h.jobs n task before hjob
  cases hreaches with
  | looks hready =>
      obtain ⟨⟨hclusters, hview⟩, haddOns, -⟩ := h.tracked.lists_of_ready hready
      exact ⟨hready, [], shift.journal, rfl, hclusters, haddOns, hview⟩
  | fails hlost => exact .inr ⟨_, by rw [inventory_advance, hlost], rfl⟩
  | rests hplan => exact .inl (by rw [inventory_advance, hbefore.1])
  | holds hplan hstopping => exact .inl (by rw [inventory_advance, hbefore.1])
  | calls hplan hgoing => exact hbefore.1
  | isAnswered result =>
      have hready : shift.operator.inventory.readiness.1 = .ready := hbefore
      exact .inl (by rw [inventory_advance, hready])

theorem Informed.moves (h : shift.Informed) (hmoves : shift.Moves later) : later.Informed := by
  refine ⟨h.tracked.moves hmoves, ?_, ?_⟩
  · intro n task stage hjob
    rcases job_moves hmoves hjob with hsame | ⟨-, rfl⟩ | ⟨before, millis, hbefore, hreaches, rfl⟩
    · exact (h.jobs n task stage hsame).moves hmoves
    · trivial
    · exact h.backed_advance hbefore hreaches
  · -- A call that is new was planned on the clusters of its job and the add-ons of this moment.
    intro since n task edit earlier hcalled
    rw [settings_moves hmoves]
    rcases called_moves hmoves hcalled with ⟨rest, hrest⟩ | ⟨rfl, -, clusters, hjob, hplan⟩
    · exact h.calls rest n task edit earlier hrest
    · obtain ⟨hready, hlooked⟩ := h.jobs n task _ hjob
      exact ⟨{ shift.operator.inventory with clusters },
        ⟨hlooked, (h.tracked.lists_of_ready hready).2.2⟩, hplan⟩

theorem informed_start (settings : Settings) : (start settings).Informed :=
  ⟨tracked_start settings, by simp [start], by simp [start]⟩

theorem informed_run (settings : Settings) (schedule : List Happening) :
    ((start settings).run schedule).Informed :=
  run_induction (fun _ _ hmoves h => Informed.moves h hmoves) (informed_start settings) schedule

theorem Tracked.lost (h : shift.Tracked) {kind : Kind} (hlost : LostUnlisted shift.journal kind) :
    shift.operator.inventory.readiness = (.lost, kind) := by
  cases kind with
  | cluster =>
      obtain ⟨hunwatched, hunlisted⟩ := hlost
      refine Inventory.readiness_of_clusters_lost (Store.readiness_eq_lost_iff.mpr ⟨?_, ?_⟩)
      · rwa [← Bool.not_eq_true, h.clusters_filled]
      · rw [← Bool.not_eq_true, h.clusters_watched]
        exact not_not_intro hunwatched
  | addOn =>
      obtain ⟨hunwatched, hunlisted, hlisted⟩ := hlost
      have hready : shift.operator.inventory.clusters.readiness = .ready :=
        Store.readiness_eq_ready_iff.mpr (h.clusters_filled.mpr hlisted)
      have hlost : shift.operator.inventory.addOns.readiness = .lost := by
        refine Store.readiness_eq_lost_iff.mpr ⟨?_, ?_⟩
        · rwa [← Bool.not_eq_true, h.addOns_filled]
        · rw [← Bool.not_eq_true, h.addOns_watched]
          exact not_not_intro hunwatched
      rw [Inventory.readiness_of_clusters_ready hready, hlost]

theorem Informed.jobs_of_lost (h : shift.Informed) {kind : Kind}
    (hlost : shift.operator.inventory.readiness = (.lost, kind))
    (hjob : shift.jobs[n]? = some ⟨task, stage⟩) :
    stage = .ended (.failed (.neverReady kind)) ∨
      stage = .waiting ∧ ∀ millis, (shift.step (.turn n millis)).jobs[n]? =
        some ⟨task, .ended (.failed (.neverReady kind))⟩ := by
  have hbacked := h.jobs n task stage hjob
  cases stage with
  | waiting =>
      refine .inr ⟨rfl, fun millis => ?_⟩
      exact job_turn millis hjob (shift.operator.turn_waiting_of_lost task hlost)
  | looked clusters => simp [Backed, hlost] at hbacked
  | called edit => simp [Backed, hlost] at hbacked
  | ended ending =>
      rcases hbacked with hready | ⟨other, hother, hending⟩
      · simp [hlost] at hready
      · rw [hlost] at hother
        injection hother with _ hkind
        rw [hending, hkind]
        exact .inl rfl

theorem Informed.not_called_of_lost (h : shift.Informed) {kind : Kind}
    (hlost : shift.operator.inventory.readiness = (.lost, kind)) (edit : LabelEdit) :
    .called n task edit ∉ shift.journal := by
  intro hcalled
  obtain ⟨since, earlier, hjournal⟩ := List.append_of_mem hcalled
  obtain ⟨view, ⟨⟨rest, read, hread, hclusters, haddOns, -⟩, -⟩, -⟩ :=
    h.calls since n task edit earlier hjournal
  have hkept : ∀ entry ∈ read, entry ∈ shift.journal := by
    intro entry hentry
    rw [hjournal, hread]
    simp [hentry]
  have hready : shift.operator.inventory.readiness.1 = .ready :=
    Inventory.readiness_eq_ready_iff.mpr ⟨h.tracked.clusters_filled.mpr (hkept _ hclusters),
      h.tracked.addOns_filled.mpr (hkept _ haddOns)⟩
  simp [hlost] at hready

end Shift

/-- A change removes the key of an add-on that was in view only if a change or the deletion of that
add-on was reported since, or a list was completed. -/
def RemovesReported (s : LabelSpace) (events : List (WatchEvent AddOn)) (task : Task)
    (edit : LabelEdit) : Prop :=
  ∀ since before addOns, events = since ++ before → .listEnds ∉ since →
    WatchEvent.lastView before = some addOns →
    ∀ a, addOns.get? ⟨some task.target, a.metadata.givenName⟩ = some a →
      ∀ key ∈ edit.removals, s.Holds a key →
        ∃ event ∈ since, event.Changes ⟨some task.target, a.metadata.givenName⟩

theorem Sees.removesReported {s : LabelSpace} {journal : List Entry} {n : Nat} {view : Inventory}
    {task : Task} {edit : LabelEdit} (hsees : Sees journal n view)
    (hplan : s.plan view task = some edit) :
    RemovesReported s (addOnEvents journal) task edit := by
  intro since before addOns hevents hlist hbefore a ha key hgone hholds
  refine Classical.not_forall_not.mp fun hnone => ?_
  have hsame : ∀ event ∈ since,
      ¬ event.Changes ⟨some task.target, a.metadata.givenName⟩ := fun event hevent hchanges =>
    hnone event ⟨hevent, hchanges⟩
  obtain ⟨addOns', hview, hget⟩ := WatchEvent.get?_lastView_append hbefore hlist hsame
  rw [← hevents, hsees.addOns] at hview
  rw [← Option.some.inj hview, ha] at hget
  exact LabelSpace.not_holds_of_removed hplan hgone (Inventory.mem_addOnsOf.mpr hget) hholds

open Shift

/-- Whatever happens in whatever order, a call is made only on complete lists of both kinds. A
task sees the objects of the last complete lists with what was reported since, so that no list in
progress takes a label away; and where a first list will never come, all tasks fail without a
call. -/
theorem incompleteView_neverWritten (settings : Settings) (schedule : List Happening) :
    let shift := (Shift.start settings).run schedule
    (∀ since n task edit earlier, shift.journal = since ++ .called n task edit :: earlier →
      ∃ view, Sees earlier n view ∧ settings.space.plan view task = some edit ∧
        RemovesReported settings.space (addOnEvents earlier) task edit) ∧
    (∀ n task clusters, shift.jobs[n]? = some ⟨task, .looked clusters⟩ →
      Sees shift.journal n { shift.operator.inventory with clusters }) ∧
    ∀ kind, LostUnlisted shift.journal kind → ∀ more,
      let later := shift.run more
      (∀ n task edit, .called n task edit ∉ later.journal) ∧
      ∀ n task stage, later.jobs[n]? = some ⟨task, stage⟩ →
        stage = .ended (.failed (.neverReady kind)) ∨
          stage = .waiting ∧ ∀ millis, (later.step (.turn n millis)).jobs[n]? =
            some ⟨task, .ended (.failed (.neverReady kind))⟩ := by
  intro shift
  have hinformed : shift.Informed := informed_run settings schedule
  have hspace : shift.operator.settings.space = settings.space := by
    rw [settings_run]
    rfl
  refine ⟨?_, ?_, ?_⟩
  · intro since n task edit earlier hcalled
    obtain ⟨view, hsees, hplan⟩ := hinformed.calls since n task edit earlier hcalled
    rw [hspace] at hplan
    exact ⟨view, hsees, hplan, hsees.removesReported hplan⟩
  · intro n task clusters hjob
    obtain ⟨hready, hlooked⟩ := hinformed.jobs n task _ hjob
    exact ⟨hlooked, (hinformed.tracked.lists_of_ready hready).2.2⟩
  · intro kind hunlisted more later
    have hlost := hinformed.tracked.lost hunlisted
    have hlater : later.Informed :=
      run_induction (fun _ _ hmoves h => Informed.moves h hmoves) hinformed more
    have hstill : later.operator.inventory.readiness = (.lost, kind) := by
      rw [readiness_run (by simp [hlost]), hlost]
    exact ⟨fun n task edit => hlater.not_called_of_lost hstill edit,
      fun n task stage hjob => hlater.jobs_of_lost hstill hjob⟩

namespace Sample

def settings : Settings := { domain := "example.com" }

def listing : List Happening :=
  (WatchEvent.ofList [cluster]).map (fun event => .notice (.cluster event)) ++
    (WatchEvent.ofList [addOn]).map (fun event => .notice (.addOn event))

def relisting : List Happening :=
  listing ++ [.begin (.cluster cluster), .turn 0 0, .notice (.addOn .listBegins)]

def relistingShift : Shift := (Shift.start settings).run relisting

end Sample

theorem incompleteView_neverWritten_sample :
    LabelSpace.Holds ⟨"example.com"⟩ Sample.addOn "feature.example.com/addon-a" ∧
    ∃ edit earlier view,
      ((Shift.start Sample.settings).run (Sample.relisting ++ [.turn 0 0])).journal =
        .called 0 (.cluster "c1") edit :: earlier ∧
      Sees earlier 0 view ∧ "feature.example.com/addon-a" ∉ edit.removals := by
  have hholds : LabelSpace.Holds ⟨"example.com"⟩ Sample.addOn "feature.example.com/addon-a" := by
    decide
  obtain ⟨edit, hedit⟩ : ∃ edit, Sample.relistingShift.operator.settings.space.plan
      Sample.relistingShift.operator.inventory (.cluster "c1") = some edit :=
    Option.isSome_iff_exists.mp (by decide +kernel)
  have hjob : Sample.relistingShift.jobs[0]? =
      some ⟨.cluster "c1", .looked Sample.relistingShift.operator.inventory.clusters⟩ := rfl
  have hgoing : Sample.relistingShift.operator.stopping = false := rfl
  have hturn : Sample.relistingShift.operator.turn (.cluster "c1")
      (.looked Sample.relistingShift.operator.inventory.clusters) = some (.called edit) :=
    (Operator.turn_looked_of_plan_eq_some _ _ hedit).trans (by rw [hgoing]; rfl)
  have hjournal : ((Shift.start Sample.settings).run (Sample.relisting ++ [.turn 0 0])).journal =
      .called 0 (.cluster "c1") edit :: Sample.relistingShift.journal := by
    rw [Shift.run, List.foldl_append]
    exact congrArg Shift.journal (step_turn 0 hjob hturn)
  obtain ⟨hcalls, -, -⟩ :=
    incompleteView_neverWritten Sample.settings (Sample.relisting ++ [.turn 0 0])
  obtain ⟨view, hsees, -, hremoves⟩ := hcalls [] 0 (.cluster "c1") edit _ hjournal
  refine ⟨hholds, edit, _, view, hjournal, hsees, fun hgone => ?_⟩
  have hevents : addOnEvents Sample.relistingShift.journal =
      [.listBegins] ++ (WatchEvent.ofList [Sample.addOn]).reverse := rfl
  have hknown : (ObjectMap.ofList [Sample.addOn]).get?
      ⟨some "c1", Sample.addOn.metadata.givenName⟩ = some Sample.addOn := rfl
  obtain ⟨event, hevent, object, hobject, -⟩ :=
    hremoves _ _ (.ofList [Sample.addOn]) hevents (by simp) rfl Sample.addOn hknown _ hgone hholds
  rw [List.mem_singleton.mp hevent] at hobject
  simp at hobject

end FeatureLabels
