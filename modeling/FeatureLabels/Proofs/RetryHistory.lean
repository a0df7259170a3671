import FeatureLabels.Controller
import FeatureLabels.Proofs.Shift

namespace FeatureLabels

namespace DelayCap

theorem base_le_delay (c : DelayCap) (failures : Nat) : baseDelay ≤ c.delay failures := by
  rw [delay]
  split
  · have hfactor : 0 < 1 <<< failures := by
      rw [Nat.one_shiftLeft]
      exact Nat.two_pow_pos failures
    exact Nat.le_min.mpr ⟨Nat.le_mul_of_pos_left _ hfactor, c.base_le⟩
  · exact c.base_le

theorem delay_le_cap (c : DelayCap) (failures : Nat) : c.delay failures ≤ c.cap := by
  rw [delay]
  split
  · exact Nat.min_le_right _ _
  · exact Nat.le_refl _

end DelayCap

namespace Retries

def failTimes (r : Retries) (task : Task) : Nat → Retries
  | 0 => r
  | n + 1 => (r.failTimes task n).fail task

theorem limit_failTimes (r : Retries) (task : Task) (n : Nat) :
    (r.failTimes task n).limit = r.limit := by
  induction n with
  | zero => rfl
  | succ n ih => exact ih

theorem count_failTimes {r : Retries} {task : Task} (hfresh : r.count task = 0) (n : Nat) :
    (r.failTimes task n).count task = min n maxFailures := by
  induction n with
  | zero => rw [failTimes, hfresh, Nat.zero_min]
  | succ n ih =>
      rw [failTimes, count_fail, if_pos rfl, ih]
      omega

theorem delay_failTimes (maximum : Duration) (task : Task) (n : Nat) :
    ((ofMaximum maximum).failTimes task n).delay task =
      (DelayCap.ofMaximum maximum).delay (min n maxFailures) := by
  have hfresh : (ofMaximum maximum).count task = 0 := by simp [count, ofMaximum]
  rw [delay, limit_failTimes, count_failTimes hfresh, ofMaximum]

end Retries

namespace Entry

def succeeded (task : Task) : Entry → Bool
  | .ended _ other (.done _) => other = task
  | _ => false

/-- It was asked for a retry of a task that had failed. A task that was held back has not failed. -/
def countsFailure (task : Task) : Entry → Bool
  | .retried other failure => other = task && failure != .cancelled
  | _ => false

end Entry

/-- How often a task has failed since it last succeeded. -/
def failuresInRow (task : Task) (journal : List Entry) : Nat :=
  (journal.takeWhile fun entry => !entry.succeeded task).countP (Entry.countsFailure task)

theorem failuresInRow_cons (task : Task) (entry : Entry) (journal : List Entry) :
    failuresInRow task (entry :: journal) =
      if entry.succeeded task then 0
      else failuresInRow task journal + if entry.countsFailure task then 1 else 0 := by
  rw [failuresInRow, List.takeWhile_cons]
  cases entry.succeeded task with
  | true => rfl
  | false => exact List.countP_cons

namespace Shift

variable {shift later : Shift} {subject : Subject} {task : Task}

structure Counted (shift : Shift) : Prop where
  limit_eq :
    shift.operator.retries.limit = .ofMaximum shift.operator.settings.maxRetryDelay
  count_eq : ∀ task, shift.operator.retries.count task =
    min (failuresInRow task shift.journal) Retries.maxFailures

theorem counted_start (settings : Settings) : (start settings).Counted :=
  ⟨rfl, fun task => by simp [start, Operator.ofSettings, Retries.count, Retries.ofMaximum,
    failuresInRow]⟩

theorem limit_moves (h : shift.Moves later) :
    later.operator.retries.limit = shift.operator.retries.limit := by
  cases h with
  | @advances _ _ _ _ next =>
      cases next with
      | ended ending => cases ending <;> rfl
      | _ => rfl
  | retries task failure => cases failure <;> rfl
  | _ => rfl

theorem count_ended {op : Operator} {journal : List Entry} (n millis : Nat) (other : Task)
    (ending : Ending)
    (hcount : op.retries.count task = min (failuresInRow task journal) Retries.maxFailures) :
    (op.finish other millis ending).retries.count task =
      min (failuresInRow task (.ended n other ending :: journal)) Retries.maxFailures := by
  rw [failuresInRow_cons]
  cases ending with
  | done edit =>
      have hreset : (op.finish other millis (.done edit)).retries = op.retries.reset other := rfl
      rw [hreset, Retries.count_reset]
      by_cases hsame : other = task
      · simp [Entry.succeeded, hsame]
      · simpa [Entry.succeeded, Entry.countsFailure, hsame] using hcount
  | failed failure => exact hcount
  | abandoned => exact hcount

theorem retries_afterFailure (op : Operator) (other : Task) {failure : Failure}
    (h : failure ≠ .cancelled) :
    (op.afterFailure other failure).1 = .requeue (op.retries.delay other) ∧
      (op.afterFailure other failure).2.2.retries = op.retries.fail other := by
  cases failure with
  | cancelled => exact absurd rfl h
  | _ => exact ⟨rfl, rfl⟩

theorem count_retried {op : Operator} {journal : List Entry} (other : Task) (failure : Failure)
    (hcount : op.retries.count task = min (failuresInRow task journal) Retries.maxFailures) :
    (op.afterFailure other failure).2.2.retries.count task =
      min (failuresInRow task (.retried other failure :: journal)) Retries.maxFailures := by
  rw [failuresInRow_cons]
  by_cases hcancelled : failure = .cancelled
  · subst hcancelled
    have hsame : (op.afterFailure other .cancelled).2.2 = op := rfl
    simpa [hsame, Entry.succeeded, Entry.countsFailure] using hcount
  · rw [(retries_afterFailure op other hcancelled).2, Retries.count_fail]
    by_cases hsame : other = task
    · subst hsame
      have hfailed : (Entry.retried other failure).countsFailure other = true := by
        simp [Entry.countsFailure, hcancelled]
      rw [if_pos rfl, hcount, hfailed]
      simp only [Entry.succeeded, if_true, Bool.false_eq_true, if_false]
      omega
    · simpa [Entry.succeeded, Entry.countsFailure, hsame] using hcount

theorem Counted.moves (h : shift.Counted) (hmoves : shift.Moves later) : later.Counted := by
  constructor
  case limit_eq => rw [limit_moves hmoves, settings_moves hmoves, h.limit_eq]
  case count_eq =>
    intro task
    have hcount := h.count_eq task
    cases hmoves with
    | stays => exact hcount
    | hears => rwa [failuresInRow_cons]
    | stops => rwa [failuresInRow_cons]
    | begins => rwa [begin, failuresInRow_cons]
    | @advances n millis other _ next =>
        cases next with
        | waiting => exact hcount
        | looked clusters =>
            change _ = min (failuresInRow task (.looked n :: shift.journal)) _
            rwa [failuresInRow_cons]
        | called edit =>
            change _ = min (failuresInRow task (.called n other edit :: shift.journal)) _
            rwa [failuresInRow_cons]
        | ended ending => exact count_ended n millis other ending hcount
    | retries other failure => exact count_retried other failure hcount

theorem counted_run (settings : Settings) (schedule : List Happening) :
    ((start settings).run schedule).Counted :=
  run_induction (fun _ _ hmoves h => Counted.moves h hmoves) (counted_start settings) schedule

theorem Counted.own (h : shift.Counted) (hmoves : shift.Moves later)
    (hcount : later.operator.retries.count task ≠ shift.operator.retries.count task) :
    ∃ entry, later.journal = entry :: shift.journal ∧
      (entry.succeeded task = true ∨ entry.countsFailure task = true) := by
  rw [(h.moves hmoves).count_eq, h.count_eq] at hcount
  obtain ⟨added, hjournal⟩ := journal_moves hmoves
  cases added with
  | none => exact absurd (by rw [hjournal]; rfl) hcount
  | some entry =>
      refine ⟨entry, hjournal, ?_⟩
      have hentry : later.journal = entry :: shift.journal := hjournal
      rw [hentry, failuresInRow_cons] at hcount
      cases hsucceeded : entry.succeeded task with
      | true => exact .inl rfl
      | false =>
          cases hfailed : entry.countsFailure task with
          | true => exact .inr rfl
          | false => simp [hsucceeded, hfailed] at hcount

theorem step_journal (shift : Shift) (journal : List Entry) (happening : Happening) :
    ∃ journal', { shift with journal }.step happening =
      { shift.step happening with journal := journal' } := by
  have hproceed : ∀ (n millis : Nat) (next : Job → Option Stage),
      ∃ journal', { shift with journal }.proceed n millis next =
        { shift.proceed n millis next with journal := journal' } := by
    intro n millis next
    simp only [proceed]
    cases shift.jobs[n]? with
    | none => exact ⟨_, rfl⟩
    | some job =>
        cases hnext : next job with
        | none => simp only [hnext]; exact ⟨_, rfl⟩
        | some stage => simp only [hnext]; exact ⟨_, rfl⟩
  cases happening with
  | notice notice =>
      simp only [step]
      split
      · exact ⟨_, rfl⟩
      · exact ⟨_, rfl⟩
  | stop => exact ⟨_, rfl⟩
  | begin subject =>
      rw [step, step]
      cases subject.task? with
      | none => exact ⟨_, rfl⟩
      | some task => exact ⟨_, rfl⟩
  | turn n millis => exact hproceed n millis _
  | answer n millis result => exact hproceed n millis _
  | retry subject failure => exact ⟨_, rfl⟩

theorem run_journal (shift : Shift) (journal : List Entry) (schedule : List Happening) :
    ∃ journal', { shift with journal }.run schedule =
      { shift.run schedule with journal := journal' } := by
  induction schedule generalizing shift journal with
  | nil => exact ⟨journal, rfl⟩
  | cons happening rest ih =>
      obtain ⟨journal', hstep⟩ := step_journal shift journal happening
      change ∃ journal'', ({ shift with journal }.step happening).run rest = _
      rw [hstep]
      exact ih (shift.step happening) journal'

end Shift

theorem Settings.bounded_le_longestDelay (s : Settings) :
    s.bounded.maxRetryDelay ≤ longestDelay ∧ s.bounded.resyncInterval ≤ longestDelay :=
  ⟨Nat.min_le_right _ _, Nat.min_le_right _ _⟩

theorem DelayCap.ofMaximum_le {maximum : Duration} (h : maximum ≤ Settings.longestDelay) :
    (ofMaximum maximum).cap ≤ Settings.longestDelay :=
  Nat.max_le.mpr ⟨h, by decide⟩

/-- Tasks are taken up again by their own history. -/
structure RetriesByHistory (settings : Settings) (shift : Shift) : Prop where
  failed : ∀ subject task failure, subject.task? = some task → failure ≠ .cancelled →
    (shift.operator.afterSubjectFailure subject failure).1 =
      .requeue (((Retries.ofMaximum settings.bounded.maxRetryDelay).failTimes task
        (failuresInRow task shift.journal)).delay task)
  /-- A task that was held back is tried again at once, and no later delay is another for it. -/
  cancelled : ∀ subject task, subject.task? = some task →
    (shift.operator.afterSubjectFailure subject .cancelled).1 = .requeue ⟨0⟩ ∧
    ∀ later, ((shift.step (.retry subject .cancelled)).run later).operator =
      (shift.run later).operator
  own : ∀ happening task,
    (shift.step happening).operator.retries.count task ≠ shift.operator.retries.count task →
    ∃ entry, (shift.step happening).journal = entry :: shift.journal ∧
      (entry.succeeded task = true ∨ entry.countsFailure task = true)
  stray : ∀ a : AddOn, a.metadata.inNamespace = none →
    (∀ failure, shift.operator.afterSubjectFailure (.addOn a) failure =
      (.awaitChange, [], shift.operator)) ∧
    shift.step (.begin (.addOn a)) = shift ∧
    ∀ patience send,
      let ran := shift.operator.runAddOn patience send a
      Controller.follow ran.2 .addOn (Task.ofAddOn? a) ran.1 = (.awaitChange, shift.operator)
  resync_le : ∀ kind delay, shift.operator.actionAfter kind = .requeue delay →
    delay ≤ Settings.longestDelay
  retry_le : ∀ subject failure delay,
    (shift.operator.afterSubjectFailure subject failure).1 = .requeue delay →
    delay ≤ Settings.longestDelay ∧ (failure ≠ .cancelled → baseDelay ≤ delay)

namespace Shift

theorem Counted.byHistory {settings : Settings} {shift : Shift} (h : shift.Counted)
    (hsettings : shift.operator.settings = settings.bounded) : RetriesByHistory settings shift := by
  have hlimit : shift.operator.retries.limit =
      .ofMaximum settings.bounded.maxRetryDelay := by rw [h.limit_eq, hsettings]
  have hbound := settings.bounded_le_longestDelay
  constructor
  case failed =>
    intro subject task failure htask hfailure
    rw [Operator.afterSubjectFailure_of_task _ _ _ _ htask,
      (retries_afterFailure _ _ hfailure).1, Retries.delay_failTimes, Retries.delay, hlimit,
      h.count_eq]
  case cancelled =>
    intro subject task htask
    have hafter := Operator.afterSubjectFailure_of_task shift.operator task subject .cancelled htask
    refine ⟨by rw [hafter]; rfl, fun later => ?_⟩
    have hstep : shift.step (.retry subject .cancelled) =
        { shift with journal := .retried task .cancelled :: shift.journal } := by
      rw [step, hafter, htask]
      rfl
    obtain ⟨journal', hrun⟩ :=
      run_journal shift (.retried task .cancelled :: shift.journal) later
    rw [hstep, hrun]
  case own => exact fun happening task hcount => h.own (moves_step shift happening) hcount
  case stray =>
    intro a hspace
    have htask : Task.ofAddOn? a = none := Task.ofAddOn?_eq_none hspace
    refine ⟨fun failure => Operator.afterSubjectFailure_of_stray _ _ _ htask,
      step_begin_stray hspace, ?_⟩
    intro patience send
    simp only [Operator.runAddOn, htask]
    rfl
  case resync_le =>
    intro kind delay hdelay
    cases kind with
    | cluster =>
        rw [Operator.actionAfter, hsettings] at hdelay
        rw [← Action.requeue.inj hdelay]
        exact hbound.2
    | addOn => simp [Operator.actionAfter] at hdelay
  case retry_le =>
    intro subject failure delay hdelay
    cases htask : subject.task? with
    | none => simp [Operator.afterSubjectFailure_of_stray _ _ _ htask] at hdelay
    | some task =>
        rw [Operator.afterSubjectFailure_of_task _ _ _ _ htask] at hdelay
        by_cases hcancelled : failure = .cancelled
        · subst hcancelled
          rw [← Action.requeue.inj hdelay]
          exact ⟨Nat.zero_le _, absurd rfl⟩
        · rw [(retries_afterFailure _ _ hcancelled).1] at hdelay
          rw [← Action.requeue.inj hdelay, Retries.delay, hlimit]
          exact ⟨Nat.le_trans (DelayCap.delay_le_cap _ _) (DelayCap.ofMaximum_le hbound.1),
            fun _ => DelayCap.base_le_delay _ _⟩

end Shift

open Shift

theorem retries_followHistory (settings : Settings) (schedule : List Happening) :
    RetriesByHistory settings ((Shift.start settings).run schedule) :=
  (counted_run settings schedule).byHistory (by rw [settings_run]; rfl)

namespace Sample

def slashed : Cluster where
  metadata := { name := some "a/b" }

def halved : AddOn where
  metadata := { name := some "b", inNamespace := some "a" }

def failingTwice : List Happening :=
  [.notice (.unwatched .cluster),
   .begin (.cluster slashed), .turn 0 0, .retry (.cluster slashed) (.neverReady .cluster),
   .begin (.cluster slashed), .turn 1 0, .retry (.cluster slashed) (.neverReady .cluster)]

end Sample

theorem retries_followHistory_sample :
    (Task.ofCluster Sample.slashed).text = "a/b" ∧
    (Task.ofAddOn? Sample.halved).map Task.text = some "a/b" ∧
    let shift := (Shift.start {}).run Sample.failingTwice
    (shift.operator.afterSubjectFailure (.cluster Sample.slashed) (.neverReady .cluster)).1 =
        .requeue (.ofMillis 20) ∧
      (shift.operator.afterSubjectFailure (.addOn Sample.halved) (.neverReady .cluster)).1 =
        .requeue (.ofMillis 5) := by
  have hhistory := retries_followHistory {} Sample.failingTwice
  refine ⟨rfl, rfl, ?_, ?_⟩
  · rw [hhistory.failed (.cluster Sample.slashed) (.cluster "a/b") _ rfl (by decide),
      Retries.delay_failTimes]
    rfl
  · rw [hhistory.failed (.addOn Sample.halved) (.addOn "a" "b") _ rfl (by decide),
      Retries.delay_failTimes]
    rfl

end FeatureLabels
