import FeatureLabels.Proofs.PlanEffect
import FeatureLabels.Proofs.WaitingWork

/-!
An operator that has many tasks in hand at a time. A task that was begun waits for the first lists,
looks at the clusters, then at the add-ons, and may make a call and wait for its answer. Between any
two of these turns anything else may happen: events are reported, watches end, other tasks get their
turn, retries are asked for. A task that is not disturbed goes the way of `Operator.run`.
-/

namespace FeatureLabels

inductive Notice where
  | cluster (event : WatchEvent Cluster)
  | addOn (event : WatchEvent AddOn)
  | unwatched (kind : Kind)

namespace Inventory

/-- Whether a notice can arrive: a watch that has ended reports no more events. -/
def hears (inv : Inventory) : Notice → Bool
  | .cluster _ => inv.clusters.watched
  | .addOn _ => inv.addOns.watched
  | .unwatched _ => true

def notice (inv : Inventory) : Notice → Inventory
  | .cluster event => { inv with clusters := inv.clusters.record event }
  | .addOn event => { inv with addOns := inv.addOns.record event }
  | .unwatched .cluster => { inv with clusters := inv.clusters.unwatch }
  | .unwatched .addOn => { inv with addOns := inv.addOns.unwatch }

end Inventory

inductive Subject where
  | cluster (c : Cluster)
  | addOn (a : AddOn)

def Subject.task? : Subject → Option Task
  | .cluster c => some (.ofCluster c)
  | .addOn a => Task.ofAddOn? a

inductive Stage where
  | waiting
  /-- It has looked at the clusters, and is about to look at the add-ons. -/
  | looked (clusters : Store Cluster)
  | called (edit : LabelEdit)
  | ended (ending : Ending)

/-- How far a task has got whose calls, if it makes any, are not answered yet. -/
def Stage.ofReport (report : Report) : Stage :=
  match report.calls with
  | [] => .ended report.ending
  | call :: _ => .called call.edit

structure Job where
  task : Task
  stage : Stage := .waiting

inductive Entry where
  | noticed (notice : Notice)
  | stopped
  | begun (job : Nat) (task : Task)
  | looked (job : Nat)
  | called (job : Nat) (task : Task) (edit : LabelEdit)
  | ended (job : Nat) (task : Task) (ending : Ending)
  | retried (task : Task) (failure : Failure)

/-- An operator and the tasks that it has begun, with a journal of all that happened, latest
first. -/
structure Shift where
  operator : Operator
  jobs : List Job := []
  journal : List Entry := []

inductive Happening where
  | notice (notice : Notice)
  | stop
  | begin (subject : Subject)
  | turn (job millis : Nat)
  | answer (job millis : Nat) (result : Except Failure Unit)
  | retry (subject : Subject) (failure : Failure)

namespace Operator

def afterSubjectFailure (op : Operator) :
    Subject → Failure → Action × List LogLine × Operator
  | .cluster c, failure => op.afterClusterFailure c failure
  | .addOn a, failure => op.afterAddOnFailure a failure

/-- Stands in for the answers to calls that are only about to be made. -/
def unanswered (_ : Call) : Sent := { result := .ok () }

/-- How far a task gets when it is its turn, if it gets any further. Of what the operator does at
its task, a turn is all that comes before a call. -/
def turn (op : Operator) (task : Task) : Stage → Option Stage
  | .waiting =>
    if op.inventory.readiness.1 = .ready then some (.looked op.inventory.clusters)
    else
      let (report, elapsed) := op.attempt unanswered task
      elapsed.map fun _ => .ended report.ending
  | .looked clusters =>
    some (.ofReport ({ op with inventory.clusters := clusters }.work unanswered task).1)
  | .called _ => none
  | .ended _ => none

end Operator

def Stage.answered (task : Task) (result : Except Failure Unit) : Stage → Option Stage
  | .called edit =>
    let attempt := carryOut false (fun _ => result) task.target (some edit)
    some (.ended (Operator.endingOf attempt.result))
  | _ => none

theorem Stage.answered_called (task : Task) (result : Except Failure Unit) (edit : LabelEdit) :
    (Stage.called edit).answered task result =
      some (.ended (Operator.endingOf (result.map fun _ => some edit))) := rfl

def Stage.entries (job : Nat) (task : Task) : Stage → List Entry
  | .waiting => []
  | .looked _ => [.looked job]
  | .called edit => [.called job task edit]
  | .ended ending => [.ended job task ending]

namespace Shift

def advance (shift : Shift) (n millis : Nat) (task : Task) (stage : Stage) : Shift where
  operator :=
    match stage with
    | .ended ending => shift.operator.finish task millis ending
    | _ => shift.operator
  jobs := shift.jobs.set n ⟨task, stage⟩
  journal := stage.entries n task ++ shift.journal

def proceed (shift : Shift) (n millis : Nat) (next : Job → Option Stage) : Shift :=
  match shift.jobs[n]? with
  | none => shift
  | some job =>
    match next job with
    | none => shift
    | some stage => shift.advance n millis job.task stage

def begin (shift : Shift) (task : Task) : Shift where
  operator := shift.operator.begin task
  jobs := shift.jobs ++ [⟨task, .waiting⟩]
  journal := .begun shift.jobs.length task :: shift.journal

def step (shift : Shift) : Happening → Shift
  | .notice notice =>
    if shift.operator.inventory.hears notice then
      { shift with
        operator.inventory := shift.operator.inventory.notice notice
        journal := .noticed notice :: shift.journal }
    else shift
  | .stop => { shift with operator.stopping := true, journal := .stopped :: shift.journal }
  | .begin subject => subject.task?.elim shift shift.begin
  | .turn n millis => shift.proceed n millis fun job => shift.operator.turn job.task job.stage
  | .answer n millis result => shift.proceed n millis fun job => job.stage.answered job.task result
  | .retry subject failure =>
    { shift with
      operator := (shift.operator.afterSubjectFailure subject failure).2.2
      journal := (subject.task?.map (Entry.retried · failure)).toList ++ shift.journal }

def run (shift : Shift) (schedule : List Happening) : Shift := schedule.foldl step shift

def start (settings : Settings) : Shift := { operator := .ofSettings settings }

end Shift

namespace Operator

variable (op : Operator) (task : Task) (subject : Subject) (failure : Failure)

@[simp] theorem settings_finish (millis : Nat) (ending : Ending) :
    (op.finish task millis ending).settings = op.settings := by cases ending <;> rfl

@[simp] theorem inventory_finish (millis : Nat) (ending : Ending) :
    (op.finish task millis ending).inventory = op.inventory := by cases ending <;> rfl

@[simp] theorem stopping_finish (millis : Nat) (ending : Ending) :
    (op.finish task millis ending).stopping = op.stopping := by cases ending <;> rfl

theorem afterSubjectFailure_of_task (h : subject.task? = some task) :
    op.afterSubjectFailure subject failure = op.afterFailure task failure := by
  cases subject with
  | cluster c => rw [← Option.some.inj h, afterSubjectFailure, afterClusterFailure]
  | addOn a =>
      have htask : Task.ofAddOn? a = some task := h
      rw [afterSubjectFailure, afterAddOnFailure, htask]

theorem turn_waiting_of_ready (h : op.inventory.readiness.1 = .ready) :
    op.turn task .waiting = some (.looked op.inventory.clusters) := by
  rw [turn, if_pos h]

theorem turn_waiting_of_lost {kind : Kind} (h : op.inventory.readiness = (.lost, kind)) :
    op.turn task .waiting = some (.ended (.failed (.neverReady kind))) := by
  simp [turn, attempt, h]

theorem turn_waiting_of_awaited {kind : Kind} (h : op.inventory.readiness = (.awaited, kind)) :
    op.turn task .waiting = none := by
  simp [turn, attempt, h]

@[simp] theorem turn_called (edit : LabelEdit) : op.turn task (.called edit) = none := rfl

@[simp] theorem turn_ended (ending : Ending) : op.turn task (.ended ending) = none := rfl

theorem turn_looked_of_calls_eq_nil {clusters : Store Cluster} {ending : Ending}
    (hcalls : ({ op with inventory.clusters := clusters }.work unanswered task).1.calls = [])
    (hending :
      ({ op with inventory.clusters := clusters }.work unanswered task).1.ending = ending) :
    op.turn task (.looked clusters) = some (.ended ending) := by
  rw [turn, Stage.ofReport, hcalls, hending]

theorem turn_looked_of_plan_eq_none {clusters : Store Cluster}
    (h : op.settings.space.plan { op.inventory with clusters } task = none) :
    op.turn task (.looked clusters) = some (.ended (.done none)) := by
  obtain ⟨hcalls, hresult⟩ := LabelSpace.reconcile_of_plan_eq_none h
  exact op.turn_looked_of_calls_eq_nil task hcalls (congrArg endingOf hresult)

theorem turn_looked_of_plan_eq_some {clusters : Store Cluster} {edit : LabelEdit}
    (h : op.settings.space.plan { op.inventory with clusters } task = some edit) :
    op.turn task (.looked clusters) =
      some (if op.stopping then .ended (.failed .cancelled) else .called edit) := by
  obtain ⟨hcalls, hresult⟩ := LabelSpace.reconcile_of_plan_eq_some op.stopping
    (fun call => (unanswered call).result) h
  split
  · rename_i hstopping
    rw [if_pos hstopping] at hcalls hresult
    exact op.turn_looked_of_calls_eq_nil task hcalls (congrArg endingOf hresult)
  · rename_i hgoing
    rw [if_neg hgoing] at hcalls
    have hwork : ({ op with inventory.clusters := clusters }.work unanswered task).1.calls =
        [⟨task.target, edit⟩] := hcalls
    rw [turn, Stage.ofReport, hwork]

theorem afterSubjectFailure_of_stray (h : subject.task? = none) :
    op.afterSubjectFailure subject failure = (.awaitChange, [], op) := by
  cases subject with
  | cluster c => simp [Subject.task?] at h
  | addOn a =>
      have htask : Task.ofAddOn? a = none := h
      rw [afterSubjectFailure, afterAddOnFailure, htask]

end Operator

namespace Shift

inductive Reaches (op : Operator) (task : Task) : Stage → Stage → Prop where
  | looks (hready : op.inventory.readiness.1 = .ready) :
      Reaches op task .waiting (.looked op.inventory.clusters)
  | fails {kind : Kind} (hlost : op.inventory.readiness = (.lost, kind)) :
      Reaches op task .waiting (.ended (.failed (.neverReady kind)))
  | rests {clusters : Store Cluster}
      (hplan : op.settings.space.plan { op.inventory with clusters } task = none) :
      Reaches op task (.looked clusters) (.ended (.done none))
  | holds {clusters : Store Cluster} {edit : LabelEdit}
      (hplan : op.settings.space.plan { op.inventory with clusters } task = some edit)
      (hstopping : op.stopping = true) :
      Reaches op task (.looked clusters) (.ended (.failed .cancelled))
  | calls {clusters : Store Cluster} {edit : LabelEdit}
      (hplan : op.settings.space.plan { op.inventory with clusters } task = some edit)
      (hgoing : op.stopping = false) : Reaches op task (.looked clusters) (.called edit)
  | isAnswered {edit : LabelEdit} (result : Except Failure Unit) :
      Reaches op task (.called edit)
        (.ended (Operator.endingOf (result.map fun _ => some edit)))

/-- All that can become of a shift in one step. -/
inductive Moves (shift : Shift) : Shift → Prop where
  | stays : Moves shift shift
  | hears {notice : Notice} (hhears : shift.operator.inventory.hears notice = true) :
      Moves shift
        { shift with
          operator.inventory := shift.operator.inventory.notice notice
          journal := .noticed notice :: shift.journal }
  | stops :
      Moves shift
        { shift with operator.stopping := true, journal := .stopped :: shift.journal }
  | begins (task : Task) : Moves shift (shift.begin task)
  | advances {n millis : Nat} {task : Task} {stage next : Stage}
      (hjob : shift.jobs[n]? = some ⟨task, stage⟩)
      (hreaches : Reaches shift.operator task stage next) :
      Moves shift (shift.advance n millis task next)
  | retries (task : Task) (failure : Failure) :
      Moves shift
        { shift with
          operator := (shift.operator.afterFailure task failure).2.2
          journal := .retried task failure :: shift.journal }

variable {shift later : Shift} {n millis : Nat} {task : Task} {stage next : Stage}

theorem reaches_of_turn {op : Operator} (h : op.turn task stage = some next) :
    Reaches op task stage next := by
  cases stage with
  | waiting =>
      obtain ⟨⟨readiness, kind⟩, hreadiness⟩ : ∃ r, op.inventory.readiness = r := ⟨_, rfl⟩
      cases readiness with
      | ready =>
          have hready : op.inventory.readiness.1 = .ready := congrArg Prod.fst hreadiness
          rw [op.turn_waiting_of_ready task hready] at h
          rw [← Option.some.inj h]
          exact .looks hready
      | lost =>
          rw [op.turn_waiting_of_lost task hreadiness] at h
          rw [← Option.some.inj h]
          exact .fails hreadiness
      | awaited =>
          rw [op.turn_waiting_of_awaited task hreadiness] at h
          cases h
  | looked clusters =>
      cases hplan : op.settings.space.plan { op.inventory with clusters } task with
      | none =>
          rw [op.turn_looked_of_plan_eq_none task hplan] at h
          rw [← Option.some.inj h]
          exact .rests hplan
      | some edit =>
          rw [op.turn_looked_of_plan_eq_some task hplan] at h
          rw [← Option.some.inj h]
          cases hstopping : op.stopping with
          | true => exact .holds hplan hstopping
          | false => exact .calls hplan hstopping
  | called edit => cases h
  | ended ending => cases h

theorem reaches_of_answered {op : Operator} {result : Except Failure Unit}
    (h : stage.answered task result = some next) : Reaches op task stage next := by
  cases stage with
  | called edit =>
      rw [Stage.answered_called] at h
      rw [← Option.some.inj h]
      exact .isAnswered result
  | waiting => cases h
  | looked clusters => cases h
  | ended ending => cases h

theorem moves_proceed (shift : Shift) (n millis : Nat) {next : Job → Option Stage}
    (hnext : ∀ job stage, next job = some stage →
      Reaches shift.operator job.task job.stage stage) :
    shift.Moves (shift.proceed n millis next) := by
  rw [proceed]
  cases hjob : shift.jobs[n]? with
  | none => exact .stays
  | some job =>
      cases hstage : next job with
      | none => simpa only [hstage] using Moves.stays
      | some stage => simpa only [hstage] using Moves.advances hjob (hnext job stage hstage)

theorem moves_step (shift : Shift) (happening : Happening) :
    shift.Moves (shift.step happening) := by
  cases happening with
  | notice notice =>
      rw [step]
      split
      · rename_i hhears
        exact .hears hhears
      · exact .stays
  | stop => exact .stops
  | begin subject =>
      rw [step]
      cases subject.task? with
      | none => exact .stays
      | some task => exact .begins task
  | turn n millis => exact moves_proceed shift n millis fun job stage => reaches_of_turn
  | answer n millis result =>
      exact moves_proceed shift n millis fun job stage => reaches_of_answered
  | retry subject failure =>
      rw [step]
      cases htask : subject.task? with
      | none =>
          rw [Operator.afterSubjectFailure_of_stray _ _ _ htask]
          exact .stays
      | some task =>
          rw [Operator.afterSubjectFailure_of_task _ _ _ _ htask]
          exact .retries task failure

theorem step_begin_stray {a : AddOn} (h : a.metadata.inNamespace = none) :
    shift.step (.begin (.addOn a)) = shift := by
  rw [step, Subject.task?, Task.ofAddOn?_eq_none h, Option.elim_none]

theorem run_cons (shift : Shift) (happening : Happening) (rest : List Happening) :
    shift.run (happening :: rest) = (shift.step happening).run rest := rfl

theorem run_induction {P : Shift → Prop}
    (hmoves : ∀ shift later, Moves shift later → P shift → P later) (h : P shift)
    (schedule : List Happening) : P (shift.run schedule) := by
  induction schedule generalizing shift with
  | nil => exact h
  | cons happening rest ih => exact ih (hmoves shift _ (moves_step shift happening) h)

@[simp] theorem settings_advance :
    (shift.advance n millis task stage).operator.settings = shift.operator.settings := by
  cases stage <;> simp [advance]

@[simp] theorem inventory_advance :
    (shift.advance n millis task stage).operator.inventory = shift.operator.inventory := by
  cases stage <;> simp [advance]

@[simp] theorem stopping_advance :
    (shift.advance n millis task stage).operator.stopping = shift.operator.stopping := by
  cases stage <;> simp [advance]

theorem journal_moves (h : shift.Moves later) :
    ∃ entry : Option Entry, later.journal = entry.toList ++ shift.journal := by
  cases h with
  | stays => exact ⟨none, rfl⟩
  | hears => exact ⟨some _, rfl⟩
  | stops => exact ⟨some _, rfl⟩
  | begins => exact ⟨some _, rfl⟩
  | @advances _ _ _ _ next =>
      cases next with
      | waiting => exact ⟨none, rfl⟩
      | looked => exact ⟨some _, rfl⟩
      | called => exact ⟨some _, rfl⟩
      | ended => exact ⟨some _, rfl⟩
  | retries => exact ⟨some _, rfl⟩

theorem job_moves (h : shift.Moves later) (hjob : later.jobs[n]? = some ⟨task, stage⟩) :
    shift.jobs[n]? = some ⟨task, stage⟩ ∨ (shift.jobs.length = n ∧ stage = .waiting) ∨
      ∃ before millis, shift.jobs[n]? = some ⟨task, before⟩ ∧
        Reaches shift.operator task before stage ∧
        later = shift.advance n millis task stage := by
  cases h with
  | stays => exact .inl hjob
  | hears => exact .inl hjob
  | stops => exact .inl hjob
  | retries => exact .inl hjob
  | begins other =>
      have hjob' : (shift.jobs ++ [⟨other, .waiting⟩])[n]? = some ⟨task, stage⟩ := hjob
      rcases Nat.lt_trichotomy n shift.jobs.length with hlt | heq | hgt
      · rw [List.getElem?_append_left hlt] at hjob'
        exact .inl hjob'
      · subst heq
        rw [List.getElem?_concat_length] at hjob'
        injection hjob' with hjob'
        injection hjob' with _ hstage
        exact .inr (.inl ⟨rfl, hstage.symm⟩)
      · rw [List.getElem?_eq_none (by simp; omega)] at hjob'
        simp at hjob'
  | @advances m millis other before next hbefore hreaches =>
      have hjob' : (shift.jobs.set m ⟨other, next⟩)[n]? = some ⟨task, stage⟩ := hjob
      by_cases hsame : m = n
      · subst hsame
        have hlt := (List.getElem?_eq_some_iff.mp hbefore).1
        rw [List.getElem?_set_self hlt] at hjob'
        injection hjob' with hjob'
        injection hjob' with htask hstage
        subst htask hstage
        exact .inr (.inr ⟨before, millis, hbefore, hreaches, rfl⟩)
      · rw [List.getElem?_set_ne hsame] at hjob'
        exact .inl hjob'

theorem called_moves (h : shift.Moves later) {edit : LabelEdit} {since earlier : List Entry}
    (hcalled : later.journal = since ++ .called n task edit :: earlier) :
    (∃ rest, shift.journal = rest ++ .called n task edit :: earlier) ∨
      (shift.journal = earlier ∧ shift.operator.stopping = false ∧ ∃ clusters,
        shift.jobs[n]? = some ⟨task, .looked clusters⟩ ∧
        shift.operator.settings.space.plan { shift.operator.inventory with clusters } task =
          some edit) := by
  have hother : ∀ {entry : Entry}, entry ≠ .called n task edit →
      entry :: shift.journal = since ++ .called n task edit :: earlier →
      ∃ rest, shift.journal = rest ++ .called n task edit :: earlier := by
    intro entry hne heq
    rcases List.cons_eq_append_iff.mp heq with ⟨-, hcons⟩ | ⟨rest, -, hrest⟩
    · injection hcons with hentry
      exact absurd hentry.symm hne
    · exact ⟨rest, hrest⟩
  cases h with
  | stays => exact .inl ⟨since, hcalled⟩
  | hears => exact .inl (hother (by simp) hcalled)
  | stops => exact .inl (hother (by simp) hcalled)
  | begins => exact .inl (hother (by simp) hcalled)
  | retries => exact .inl (hother (by simp) hcalled)
  | advances hjob hreaches =>
      cases hreaches with
      | calls hplan hgoing =>
          rcases List.cons_eq_append_iff.mp hcalled with ⟨-, hcons⟩ | ⟨rest, -, hrest⟩
          · injection hcons with hentry hjournal
            injection hentry with hn htask hedit
            subst hn htask hedit
            exact .inr ⟨hjournal.symm, hgoing, _, hjob, hplan⟩
          · exact .inl ⟨rest, hrest⟩
      | _ => exact .inl (hother (by simp) hcalled)

theorem settings_moves (h : shift.Moves later) :
    later.operator.settings = shift.operator.settings := by
  cases h with
  | retries task failure => cases failure <;> rfl
  | advances => exact settings_advance
  | _ => rfl

theorem settings_run (shift : Shift) (schedule : List Happening) :
    (shift.run schedule).operator.settings = shift.operator.settings := by
  refine run_induction (P := fun later => later.operator.settings = shift.operator.settings)
    (fun before after hmoves hsame => ?_) rfl schedule
  rw [settings_moves hmoves, hsame]

theorem step_turn (millis : Nat) (hjob : shift.jobs[n]? = some ⟨task, stage⟩)
    (hturn : shift.operator.turn task stage = some next) :
    shift.step (.turn n millis) = shift.advance n millis task next := by
  simp only [step, proceed, hjob, hturn]

theorem step_turn_none (millis : Nat) (hjob : shift.jobs[n]? = some ⟨task, stage⟩)
    (hturn : shift.operator.turn task stage = none) : shift.step (.turn n millis) = shift := by
  simp only [step, proceed, hjob, hturn]

theorem job_turn (millis : Nat) (hjob : shift.jobs[n]? = some ⟨task, stage⟩)
    (hturn : shift.operator.turn task stage = some next) :
    (shift.step (.turn n millis)).jobs[n]? = some ⟨task, next⟩ := by
  rw [step_turn millis hjob hturn]
  exact List.getElem?_set_self (List.getElem?_eq_some_iff.mp hjob).1

/-- A task that is not disturbed goes the way of `Operator.run`. -/
theorem run_undisturbed (op : Operator) {subject : Subject} (htask : subject.task? = some task)
    (hsettled : op.inventory.readiness.1 ≠ .awaited) (send : Call → Sent)
    {result : Except Failure Unit}
    (hsend : ∀ call ∈ (op.run none send task).1.calls, (send call).result = result) :
    let ran := op.run none send task
    let millis := Operator.elapsed send ran.1.calls
    let alone : Shift := { operator := op }
    let after := alone.run
      [.begin subject, .turn 0 millis, .turn 0 millis, .answer 0 millis result]
    after.operator = ran.2 ∧ after.jobs = [⟨task, .ended ran.1.ending⟩] := by
  obtain ⟨⟨readiness, kind⟩, hreadiness⟩ : ∃ r, op.inventory.readiness = r := ⟨_, rfl⟩
  cases readiness with
  | awaited => simp [hreadiness] at hsettled
  | lost =>
      have hfails : (op.begin task).turn task .waiting =
          some (.ended (.failed (.neverReady kind))) :=
        (op.begin task).turn_waiting_of_lost task hreadiness
      simp [Operator.run, Operator.attempt, hreadiness, Operator.elapsed, run, step, htask, begin,
        proceed, hfails, advance, Stage.answered]
  | ready =>
      have hlooks : (op.begin task).turn task .waiting = some (.looked op.inventory.clusters) :=
        (op.begin task).turn_waiting_of_ready task (congrArg Prod.fst hreadiness)
      have hran : op.run none send task =
          ((op.work send task).1, (op.begin task).finish task
            (Operator.elapsed send (op.work send task).1.calls) (op.work send task).1.ending) := by
        simp only [Operator.run, Operator.attempt, hreadiness]
        rfl
      rw [hran] at hsend ⊢
      cases hplan : op.settings.space.plan op.inventory task with
      | none =>
          have hrests : (op.begin task).turn task (.looked op.inventory.clusters) =
              some (.ended (.done none)) :=
            (op.begin task).turn_looked_of_plan_eq_none task hplan
          have hended : (op.work send task).1.ending = .done none :=
            congrArg Operator.endingOf (LabelSpace.reconcile_of_plan_eq_none hplan).2
          simp [run, step, htask, begin, proceed, hlooks, hrests, advance, Stage.answered, hended]
      | some edit =>
          obtain ⟨hcalls, hresult⟩ := LabelSpace.reconcile_of_plan_eq_some op.stopping
            (fun call => (send call).result) hplan
          have hended := congrArg Operator.endingOf hresult
          have hgets : (op.begin task).turn task (.looked op.inventory.clusters) =
              some (if op.stopping then .ended (.failed .cancelled) else .called edit) :=
            (op.begin task).turn_looked_of_plan_eq_some task hplan
          change (op.work send task).1.calls = _ at hcalls
          change (op.work send task).1.ending = _ at hended
          cases hstopping : op.stopping with
          | true =>
              rw [hstopping] at hcalls hended hgets
              simp [run, step, htask, begin, proceed, hlooks, hgets, advance, Stage.answered,
                hended, Operator.endingOf]
          | false =>
              rw [hstopping] at hcalls hended hgets
              have hanswer : (send ⟨task.target, edit⟩).result = result :=
                hsend _ (by simp [hcalls])
              simp [run, step, htask, begin, proceed, hlooks, hgets, advance,
                Stage.answered_called, hended, hanswer]

end Shift

end FeatureLabels
