import Mathlib.Algebra.Ring.Nat
import FeatureLabels.Proofs.CompleteView

namespace FeatureLabels

namespace Ending

def succeeded : Ending → Bool
  | .done _ => true
  | _ => false

def failedAs (label : String) : Ending → Bool
  | .failed failure => failure.label = label
  | _ => false

def changed : Ending → Bool
  | .done edit => edit.isSome
  | _ => false

end Ending

def Stage.hasEnded (way : Ending → Bool) : Stage → Bool
  | .ended ending => way ending
  | _ => false

def Stage.awaitsAnswer : Stage → Bool
  | .called _ => true
  | _ => false

def Happening.begun? : Happening → Option Task
  | .begin subject => subject.task?
  | _ => none

namespace Shift

/-- How many tasks of a kind have ended in some way. -/
def ended (shift : Shift) (kind : Kind) (way : Ending → Bool) : Nat :=
  shift.jobs.countP fun job => job.task.kind = kind && job.stage.hasEnded way

def Finished (shift : Shift) : Prop :=
  ∀ job ∈ shift.jobs, job.stage.hasEnded (fun _ => true) = true

instance (shift : Shift) : Decidable shift.Finished :=
  inferInstanceAs (Decidable (∀ job ∈ shift.jobs, job.stage.hasEnded (fun _ => true) = true))

/-- The call of a task of that kind is accepted: the answer is no refusal, and it can be read. -/
def accepts (shift : Shift) (kind : Kind) : Happening → Bool
  | .answer n _ result =>
    result.isOk && shift.jobs[n]?.any fun job => job.task.kind = kind && job.stage.awaitsAnswer
  | _ => false

def accepted (kind : Kind) : Shift → List Happening → Nat
  | _, [] => 0
  | shift, happening :: rest =>
    (if shift.accepts kind happening then 1 else 0) + accepted kind (shift.step happening) rest

end Shift

namespace Operator

variable (op : Operator) (task : Task) (millis : Nat) (ending : Ending) (kind : Kind)

@[simp] theorem lastTask_finish : (op.finish task millis ending).lastTask = op.lastTask := by
  cases ending <;> rfl

@[simp] theorem reconciliations_finish :
    (op.finish task millis ending).metrics.reconciliations = op.metrics.reconciliations := by
  cases ending with
  | done edit => cases edit <;> rfl
  | failed failure => rfl
  | abandoned => rfl

theorem samples_finish :
    (op.finish task millis ending).metrics.samples kind =
      op.metrics.samples kind + if task.kind = kind then 1 else 0 := by
  cases ending with
  | done edit => cases edit <;> simp [finish, Metrics.samples_finish]
  | failed failure => simp [finish, Metrics.samples_finish]
  | abandoned => simp [finish, Metrics.samples_finish]

theorem failuresOf_finish (label : String) :
    (op.finish task millis ending).metrics.failuresOf kind label =
      op.metrics.failuresOf kind label +
        if task.kind = kind && ending.failedAs label then 1 else 0 := by
  cases ending with
  | done edit => cases edit <;> simp [finish, Ending.failedAs]
  | failed failure => simp [finish, Metrics.failuresOf_countFailure, Ending.failedAs]
  | abandoned => simp [finish, Ending.failedAs]

theorem patchesOf_finish :
    (op.finish task millis ending).metrics.patchesOf kind =
      op.metrics.patchesOf kind + if task.kind = kind && ending.changed then 1 else 0 := by
  cases ending with
  | done edit => cases edit <;> simp [finish, Metrics.patchesOf_countPatch, Ending.changed]
  | failed failure => simp [finish, Ending.changed]
  | abandoned => simp [finish, Ending.changed]

theorem account_afterFailure (failure : Failure) :
    (op.afterFailure task failure).2.2.metrics = op.metrics ∧
      (op.afterFailure task failure).2.2.lastTask = op.lastTask := by
  cases failure <;> exact ⟨rfl, rfl⟩

theorem account_afterSubjectFailure (subject : Subject) (failure : Failure) :
    (op.afterSubjectFailure subject failure).2.2.metrics = op.metrics ∧
      (op.afterSubjectFailure subject failure).2.2.lastTask = op.lastTask := by
  cases htask : subject.task? with
  | none =>
      rw [afterSubjectFailure_of_stray _ _ _ htask]
      exact ⟨rfl, rfl⟩
  | some task =>
      rw [afterSubjectFailure_of_task _ _ _ _ htask]
      exact op.account_afterFailure task failure

end Operator

namespace Shift

variable {shift later : Shift} {n millis : Nat} {task : Task} {stage next : Stage} {kind : Kind}
  {read : Metrics → Nat} {way : Ending → Bool}

/-- A number of the metrics that counts the tasks of a kind that end in some way. -/
structure Counts (read : Metrics → Nat) (kind : Kind) (way : Ending → Bool) : Prop where
  empty : read {} = 0
  begin : ∀ m : Metrics, read m.begin = read m
  finish : ∀ (op : Operator) (task : Task) (millis : Nat) (ending : Ending),
    read (op.finish task millis ending).metrics =
      read op.metrics + if task.kind = kind && way ending then 1 else 0

theorem counts_samples (kind : Kind) : Counts (Metrics.samples · kind) kind fun _ => true where
  empty := by simp [Metrics.samples]
  begin _ := rfl
  finish op task millis ending := by simp [Operator.samples_finish]

theorem counts_failuresOf (kind : Kind) (label : String) :
    Counts (Metrics.failuresOf · kind label) kind (Ending.failedAs label) where
  empty := by simp [Metrics.failuresOf]
  begin _ := rfl
  finish op task millis ending := Operator.failuresOf_finish op task millis ending kind label

theorem counts_patchesOf (kind : Kind) :
    Counts (Metrics.patchesOf · kind) kind Ending.changed where
  empty := by simp [Metrics.patchesOf]
  begin _ := rfl
  finish op task millis ending := Operator.patchesOf_finish op task millis ending kind

theorem hasEnded_of_reaches {op : Operator} (h : Reaches op task stage next) :
    stage.hasEnded way = false := by
  cases h <;> rfl

theorem notAbandoned_of_reaches {op : Operator} (h : Reaches op task stage next) :
    next ≠ .ended .abandoned := by
  cases h with
  | isAnswered result => cases result <;> simp [Operator.endingOf, Except.map]
  | _ => simp

theorem ended_begin : (shift.begin task).ended kind way = shift.ended kind way := by
  simp [ended, begin, List.countP_append, Stage.hasEnded]

theorem ended_advance (hjob : shift.jobs[n]? = some ⟨task, stage⟩)
    (hgoing : stage.hasEnded way = false) :
    (shift.advance n millis task next).ended kind way =
      shift.ended kind way + if task.kind = kind && next.hasEnded way then 1 else 0 := by
  obtain ⟨hlt, hget⟩ := List.getElem?_eq_some_iff.mp hjob
  simp [ended, advance, List.countP_set hlt, hget, hgoing]

theorem Counts.advance (h : Counts read kind way) (shift : Shift) (n millis : Nat) (task : Task)
    (next : Stage) :
    read (shift.advance n millis task next).operator.metrics =
      read shift.operator.metrics +
        if task.kind = kind && next.hasEnded way then 1 else 0 := by
  cases next with
  | ended ending => exact h.finish shift.operator task millis ending
  | _ => simp [Shift.advance, Stage.hasEnded]

theorem Counts.moves (h : Counts read kind way) (hmoves : shift.Moves later)
    (hread : read shift.operator.metrics = shift.ended kind way) :
    read later.operator.metrics = later.ended kind way := by
  cases hmoves with
  | begins task =>
      rw [ended_begin, ← hread]
      exact h.begin shift.operator.metrics
  | advances hjob hreaches =>
      rw [h.advance, ended_advance hjob (hasEnded_of_reaches hreaches), hread]
  | retries task failure =>
      have hsame := (shift.operator.account_afterFailure task failure).1
      exact (congrArg read hsame).trans hread
  | _ => exact hread

theorem Counts.run (h : Counts read kind way) (settings : Settings) (schedule : List Happening) :
    read ((start settings).run schedule).operator.metrics =
      ((start settings).run schedule).ended kind way :=
  run_induction (P := fun shift => read shift.operator.metrics = shift.ended kind way)
    (fun _ _ hmoves hread => h.moves hmoves hread) h.empty schedule

theorem tasks_advance (hjob : shift.jobs[n]? = some ⟨task, stage⟩) :
    (shift.advance n millis task next).jobs.map Job.task = shift.jobs.map Job.task := by
  obtain ⟨hlt, hget⟩ := List.getElem?_eq_some_iff.mp hjob
  calc (shift.jobs.set n ⟨task, next⟩).map Job.task
      = (shift.jobs.set n shift.jobs[n]).map Job.task := by rw [List.map_set, List.map_set, hget]
    _ = shift.jobs.map Job.task := by rw [List.set_getElem_self]

theorem tasks_proceed (shift : Shift) (n millis : Nat) (next : Job → Option Stage) :
    (shift.proceed n millis next).jobs.map Job.task = shift.jobs.map Job.task := by
  rw [proceed]
  cases hjob : shift.jobs[n]? with
  | none => rfl
  | some job =>
      cases hnext : next job with
      | none => simp only [hnext]
      | some stage => simpa only [hnext] using tasks_advance hjob

theorem tasks_step (shift : Shift) (happening : Happening) :
    (shift.step happening).jobs.map Job.task =
      shift.jobs.map Job.task ++ happening.begun?.toList := by
  cases happening with
  | begin subject =>
      rw [step, Happening.begun?]
      cases subject.task? with
      | none => simp
      | some task => simp [begin]
  | notice notice =>
      rw [step]
      split <;> simp [Happening.begun?]
  | turn n millis => simp [step, Happening.begun?, tasks_proceed]
  | answer n millis result => simp [step, Happening.begun?, tasks_proceed]
  | stop => simp [step, Happening.begun?]
  | retry subject failure => simp [step, Happening.begun?]

theorem tasks_run (shift : Shift) (schedule : List Happening) :
    (shift.run schedule).jobs.map Job.task =
      shift.jobs.map Job.task ++ schedule.filterMap Happening.begun? := by
  induction schedule generalizing shift with
  | nil => simp [run]
  | cons happening rest ih =>
      rw [run_cons, ih, tasks_step, List.append_assoc]
      cases hbegun : happening.begun? <;> simp [hbegun]

structure Kept (shift : Shift) : Prop where
  reconciliations : shift.operator.metrics.reconciliations = shift.jobs.length
  lastTask : shift.operator.lastTask = (shift.jobs.map Job.task).getLast?
  jobs : ∀ job ∈ shift.jobs, job.stage ≠ .ended .abandoned

theorem Kept.moves (h : shift.Kept) (hmoves : shift.Moves later) : later.Kept := by
  constructor
  case reconciliations =>
    cases hmoves with
    | begins task => simpa [begin, Operator.begin, Metrics.begin] using h.reconciliations
    | @advances n millis task stage next hjob hreaches =>
        cases next <;> simpa [advance] using h.reconciliations
    | retries task failure =>
        simpa only [Operator.account_afterFailure] using h.reconciliations
    | _ => exact h.reconciliations
  case lastTask =>
    cases hmoves with
    | begins task => simp [begin, Operator.begin]
    | @advances n millis task stage next hjob hreaches =>
        rw [tasks_advance hjob, ← h.lastTask]
        cases next <;> simp [advance]
    | retries task failure =>
        simpa only [Operator.account_afterFailure] using h.lastTask
    | _ => exact h.lastTask
  case jobs =>
    intro job hmem
    obtain ⟨n, hjob⟩ := List.mem_iff_getElem?.mp hmem
    rcases job_moves hmoves hjob with hbefore | ⟨-, hstage⟩ | ⟨before, millis, -, hreaches, -⟩
    · exact h.jobs job (List.mem_of_getElem? hbefore)
    · simp [hstage]
    · exact notAbandoned_of_reaches hreaches

theorem kept_run (settings : Settings) (schedule : List Happening) :
    ((start settings).run schedule).Kept :=
  run_induction (fun _ _ hmoves h => h.moves hmoves)
    ⟨rfl, rfl, by simp [start]⟩ schedule

theorem notChanged_of_turn {op : Operator} (h : op.turn task stage = some next) :
    next.hasEnded Ending.changed = false := by
  cases reaches_of_turn h with
  | isAnswered result => simp at h
  | _ => rfl

theorem hasEnded_answered (result : Except Failure Unit) (edit : LabelEdit) :
    (Stage.ended (Operator.endingOf (result.map fun _ => some edit))).hasEnded Ending.changed =
      result.isOk := by
  cases result <;> rfl

theorem patchesOf_step (shift : Shift) (happening : Happening) (kind : Kind) :
    (shift.step happening).operator.metrics.patchesOf kind =
      shift.operator.metrics.patchesOf kind + if shift.accepts kind happening then 1 else 0 := by
  cases happening with
  | turn n millis =>
      rw [step, proceed]
      cases hjob : shift.jobs[n]? with
      | none => simp [accepts]
      | some job =>
          cases hturn : shift.operator.turn job.task job.stage with
          | none => simp [accepts, hturn]
          | some next =>
              have hread := (counts_patchesOf kind).advance shift n millis job.task next
              simpa [accepts, hturn, notChanged_of_turn hturn] using hread
  | answer n millis result =>
      rw [step, proceed, accepts]
      cases hjob : shift.jobs[n]? with
      | none => simp
      | some job =>
          obtain ⟨task, stage⟩ := job
          cases stage with
          | called edit =>
              have hread := (counts_patchesOf kind).advance shift n millis task
                (.ended (Operator.endingOf (result.map fun _ => some edit)))
              rw [hasEnded_answered] at hread
              simpa [Stage.answered_called, Stage.awaitsAnswer, and_comm] using hread
          | _ => simp [Stage.answered, Stage.awaitsAnswer]
  | begin subject =>
      rw [step]
      cases subject.task? with
      | none => simp [accepts]
      | some task => exact (counts_patchesOf kind).begin shift.operator.metrics
  | notice notice =>
      rw [step]
      split <;> simp [accepts]
  | stop => simp [step, accepts]
  | retry subject failure =>
      simp [step, accepts, shift.operator.account_afterSubjectFailure subject failure]

theorem patchesOf_run (kind : Kind) (shift : Shift) (schedule : List Happening) :
    (shift.run schedule).operator.metrics.patchesOf kind =
      shift.operator.metrics.patchesOf kind + accepted kind shift schedule := by
  induction schedule generalizing shift with
  | nil => rfl
  | cons happening rest ih =>
      rw [run_cons, ih, patchesOf_step, accepted, Nat.add_assoc]

theorem ended_kinds (shift : Shift) (way : Ending → Bool) :
    shift.ended .cluster way + shift.ended .addOn way =
      shift.jobs.countP fun job => job.stage.hasEnded way := by
  rw [ended, ended]
  induction shift.jobs with
  | nil => rfl
  | cons job rest ih =>
      simp only [List.countP_cons, ← ih]
      cases job.task.kind <;> simp <;> omega

theorem hasEnded_ways (h : stage ≠ .ended .abandoned) :
    (if stage.hasEnded (fun _ => true) then 1 else 0) =
      (if stage.hasEnded Ending.succeeded then 1 else 0) +
        (Failure.labels.map fun label =>
          if stage.hasEnded (Ending.failedAs label) then 1 else 0).sum := by
  cases stage with
  | ended ending =>
      cases ending with
      | done edit => rfl
      | failed failure => cases failure <;> rfl
      | abandoned => exact absurd rfl h
  | _ => rfl

theorem ended_ways (hkept : ∀ job ∈ shift.jobs, job.stage ≠ .ended .abandoned) (kind : Kind) :
    shift.ended kind (fun _ => true) =
      shift.ended kind Ending.succeeded +
        (Failure.labels.map fun label => shift.ended kind (Ending.failedAs label)).sum := by
  simp only [ended]
  generalize shift.jobs = jobs at hkept
  induction jobs with
  | nil => rfl
  | cons job rest ih =>
      have hways := hasEnded_ways (hkept job List.mem_cons_self)
      have hrest := ih fun other hmem => hkept other (List.mem_cons_of_mem _ hmem)
      by_cases hkind : job.task.kind = kind
      · simp only [List.countP_cons, hkind, decide_true, Bool.true_and, Failure.labels,
          List.map_cons, List.map_nil, List.sum_cons, List.sum_nil] at hways hrest ⊢
        omega
      · simpa only [List.countP_cons, hkind, decide_false, Bool.false_and, Bool.false_eq_true,
          if_false, Nat.add_zero] using hrest

theorem Finished.length_eq (h : shift.Finished) :
    shift.jobs.length =
      shift.ended .cluster (fun _ => true) + shift.ended .addOn (fun _ => true) := by
  rw [ended_kinds]
  exact (List.countP_eq_length.mpr h).symm

theorem ended_changed_le (shift : Shift) (kind : Kind) :
    shift.ended kind Ending.changed ≤ shift.ended kind Ending.succeeded := by
  apply List.countP_mono_left
  intro job _ hchanged
  rw [Bool.and_eq_true] at hchanged ⊢
  refine ⟨hchanged.1, ?_⟩
  obtain ⟨task, stage⟩ := job
  cases stage with
  | ended ending =>
      cases ending with
      | done edit => rfl
      | _ => simp [Stage.hasEnded, Ending.changed] at hchanged
  | _ => simp [Stage.hasEnded] at hchanged

end Shift

/-- What the metrics of an operator tell when one thing happens after another. -/
structure Accounted (settings : Settings) (schedule : List Happening) (shift : Shift) : Prop where
  begun : shift.jobs.map Job.task = schedule.filterMap Happening.begun?
  reconciliations :
    shift.operator.metrics.reconciliations = (schedule.filterMap Happening.begun?).length
  samples_kinds : shift.Finished →
    shift.operator.metrics.reconciliations =
      shift.operator.metrics.samples .cluster + shift.operator.metrics.samples .addOn
  samples : ∀ kind,
    shift.operator.metrics.samples kind =
      shift.ended kind Ending.succeeded +
        (Failure.labels.map fun label => shift.operator.metrics.failuresOf kind label).sum
  failures : ∀ kind label,
    shift.operator.metrics.failuresOf kind label = shift.ended kind (Ending.failedAs label)
  /-- A patch is counted for each call that is accepted. -/
  patches : ∀ kind,
    shift.operator.metrics.patchesOf kind = Shift.accepted kind (.start settings) schedule
  patches_jobs : ∀ kind,
    shift.operator.metrics.patchesOf kind = shift.ended kind Ending.changed
  patches_le : ∀ kind,
    shift.operator.metrics.patchesOf kind ≤ shift.ended kind Ending.succeeded
  lastTask : shift.operator.lastTask = (schedule.filterMap Happening.begun?).getLast?
  stray : ∀ a : AddOn, a.metadata.inNamespace = none →
    shift.step (.begin (.addOn a)) = shift ∧
    ∀ patience send, (shift.operator.runAddOn patience send a).2 = shift.operator
  retry : ∀ subject failure,
    (shift.step (.retry subject failure)).jobs = shift.jobs ∧
    (shift.step (.retry subject failure)).operator.metrics = shift.operator.metrics ∧
    (shift.step (.retry subject failure)).operator.lastTask = shift.operator.lastTask

open Shift

theorem metrics_accountForTasks (settings : Settings) (schedule : List Happening) :
    Accounted settings schedule ((Shift.start settings).run schedule) := by
  have hkept := kept_run settings schedule
  have hbegun := tasks_run (Shift.start settings) schedule
  have hsamples := fun kind => (counts_samples kind).run settings schedule
  have hfailures := fun kind label => (counts_failuresOf kind label).run settings schedule
  have hpatches := fun kind => (counts_patchesOf kind).run settings schedule
  constructor
  case begun => exact hbegun
  case reconciliations => rw [hkept.reconciliations, ← List.length_map Job.task, hbegun]; rfl
  case samples_kinds =>
    intro hfinished
    rw [hkept.reconciliations, hfinished.length_eq, hsamples, hsamples]
  case samples =>
    intro kind
    simp only [hsamples, hfailures, ended_ways hkept.jobs kind]
  case failures => exact hfailures
  case patches =>
    intro kind
    have hempty : (Shift.start settings).operator.metrics.patchesOf kind = 0 :=
      (counts_patchesOf kind).empty
    rw [patchesOf_run, hempty, Nat.zero_add]
  case patches_jobs => exact hpatches
  case patches_le =>
    intro kind
    rw [hpatches]
    exact ended_changed_le _ kind
  case lastTask => rw [hkept.lastTask, hbegun]; rfl
  case stray =>
    intro a hspace
    refine ⟨step_begin_stray hspace, fun patience send => ?_⟩
    simp only [Operator.runAddOn, Task.ofAddOn?_eq_none hspace]
  case retry =>
    exact fun subject failure => ⟨rfl, Operator.account_afterSubjectFailure _ subject failure⟩

namespace Sample

def working : List Happening :=
  listing ++
    [.begin (.cluster cluster), .turn 0 0, .begin (.addOn addOn), .turn 0 0, .turn 1 0, .turn 1 0,
     .answer 1 0 (.error (.api .unreadable)), .answer 0 0 (.ok ()),
     .retry (.addOn addOn) (.api .unreadable)]

end Sample

theorem metrics_accountForTasks_sample :
    let shift := (Shift.start Sample.settings).run Sample.working
    let metrics := shift.operator.metrics
    shift.Finished ∧ metrics.reconciliations = 2 ∧
      metrics.reconciliations = metrics.samples .cluster + metrics.samples .addOn ∧
      metrics.failuresOf .addOn "KubeError" = 1 ∧ metrics.patchesOf .cluster = 1 ∧
      metrics.patchesOf .addOn = 0 ∧ shift.operator.lastTask = some (.addOn "c1" "a") := by
  intro shift metrics
  have haccount : Accounted Sample.settings Sample.working shift :=
    metrics_accountForTasks Sample.settings Sample.working
  have hfinished : shift.Finished := by decide +kernel
  refine ⟨hfinished, haccount.reconciliations, haccount.samples_kinds hfinished, ?_, ?_, ?_,
    haccount.lastTask⟩
  · rw [haccount.failures]
    decide +kernel
  · rw [haccount.patches]
    decide +kernel
  · rw [haccount.patches]
    decide +kernel

end FeatureLabels
