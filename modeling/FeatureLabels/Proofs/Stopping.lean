import FeatureLabels.Proofs.CompleteView

namespace FeatureLabels

/-- A stage that a task can get to without a call. -/
def Stage.Callless : Stage → Prop
  | .waiting => True
  | .looked _ => True
  | .called _ => False
  | .ended ending => ending = .done none ∨ ending = .failed .cancelled

namespace Shift

variable {before shift later : Shift} {n : Nat} {task : Task} {stage next : Stage}

/-- What has become of a shift that was stopping when both kinds of object were listed: no calls
were made since, and no job that was begun since has got to one. -/
structure HeldBack (before later : Shift) : Prop where
  stopping : later.operator.stopping = true
  ready : later.operator.inventory.readiness.1 = .ready
  journal : ∃ entries, later.journal = entries ++ before.journal ∧
    ∀ n task edit, .called n task edit ∉ entries
  jobs : ∀ n task stage, before.jobs.length ≤ n → later.jobs[n]? = some ⟨task, stage⟩ →
    stage.Callless

theorem callless_of_reaches {op : Operator} (hstopping : op.stopping = true)
    (hready : op.inventory.readiness.1 = .ready) (h : stage.Callless)
    (hreaches : Reaches op task stage next) : next.Callless := by
  cases hreaches with
  | looks => trivial
  | fails hlost => simp [hlost] at hready
  | rests => exact .inl rfl
  | holds => exact .inr rfl
  | calls _ hgoing => simp [hstopping] at hgoing
  | isAnswered => exact h.elim

theorem stopping_moves (h : shift.Moves later) (hstopping : shift.operator.stopping = true) :
    later.operator.stopping = true := by
  cases h with
  | stops => rfl
  | advances => rwa [stopping_advance]
  | retries task failure => cases failure <;> exact hstopping
  | _ => exact hstopping

theorem HeldBack.moves (h : before.HeldBack shift) (hmoves : shift.Moves later) :
    before.HeldBack later := by
  constructor
  case stopping => exact stopping_moves hmoves h.stopping
  case ready => rw [readiness_moves hmoves (by simp [h.ready]), h.ready]
  case journal =>
    obtain ⟨entries, hjournal, hquiet⟩ := h.journal
    obtain ⟨added, hlater⟩ := journal_moves hmoves
    refine ⟨added.toList ++ entries, by rw [hlater, hjournal, List.append_assoc], ?_⟩
    intro n task edit hcalled
    rcases List.mem_append.mp hcalled with hnew | hold
    · -- A new call would have been made while the operator was not stopping.
      have hlater' : later.journal = [] ++ .called n task edit :: shift.journal := by
        rw [hlater, Option.mem_toList.mp hnew]
        rfl
      rcases called_moves hmoves hlater' with ⟨rest, hrest⟩ | ⟨-, hgoing, -⟩
      · have hlength := congrArg List.length hrest
        simp at hlength
        omega
      · simp [h.stopping] at hgoing
    · exact hquiet n task edit hold
  case jobs =>
    intro n task stage hn hjob
    rcases job_moves hmoves hjob with hsame | ⟨-, rfl⟩ | ⟨stage', millis, hbefore, hreaches, -⟩
    · exact h.jobs n task stage hn hsame
    · trivial
    · exact callless_of_reaches h.stopping h.ready (h.jobs n task stage' hn hbefore) hreaches

theorem heldBack_refl (hstopping : shift.operator.stopping = true)
    (hready : shift.operator.inventory.readiness.1 = .ready) : shift.HeldBack shift := by
  refine ⟨hstopping, hready, ⟨[], rfl, by simp⟩, fun n task stage hn hjob => ?_⟩
  have hlt := (List.getElem?_eq_some_iff.mp hjob).1
  omega

theorem heldBack_run (hstopping : shift.operator.stopping = true)
    (hready : shift.operator.inventory.readiness.1 = .ready) (schedule : List Happening) :
    shift.HeldBack (shift.run schedule) :=
  run_induction (P := shift.HeldBack) (fun _ _ hmoves h => h.moves hmoves)
    (heldBack_refl hstopping hready) schedule

theorem turn_looked {op : Operator} (hstopping : op.stopping = true) (task : Task)
    (clusters : Store Cluster) :
    ∃ ending, op.turn task (.looked clusters) = some (.ended ending) ∧
      (ending = .done none ∨ ending = .failed .cancelled) := by
  cases hplan : op.settings.space.plan { op.inventory with clusters } task with
  | none => exact ⟨_, op.turn_looked_of_plan_eq_none task hplan, .inl rfl⟩
  | some edit =>
      have hturn := op.turn_looked_of_plan_eq_some task hplan
      rw [hstopping, if_pos rfl] at hturn
      exact ⟨_, hturn, .inr rfl⟩

theorem ended_of_turns (hstopping : shift.operator.stopping = true)
    (hready : shift.operator.inventory.readiness.1 = .ready)
    (hjob : shift.jobs[n]? = some ⟨task, stage⟩) (hstage : stage.Callless) (millis millis' : Nat) :
    ∃ ending, (ending = .done none ∨ ending = .failed .cancelled) ∧
      ((shift.step (.turn n millis)).step (.turn n millis')).jobs[n]? =
        some ⟨task, .ended ending⟩ := by
  cases stage with
  | waiting =>
      have hturn := shift.operator.turn_waiting_of_ready task hready
      have hlooked := job_turn millis hjob hturn
      have hstill : (shift.step (.turn n millis)).operator.stopping = true := by
        rwa [step_turn millis hjob hturn, stopping_advance]
      obtain ⟨ending, hending, hheld⟩ := turn_looked hstill task shift.operator.inventory.clusters
      exact ⟨ending, hheld, job_turn millis' hlooked hending⟩
  | looked clusters =>
      obtain ⟨ending, hending, hheld⟩ := turn_looked hstopping task clusters
      have hended := job_turn millis hjob hending
      refine ⟨ending, hheld, ?_⟩
      rwa [step_turn_none millis' hended rfl]
  | called edit => exact hstage.elim
  | ended ending =>
      have hsame : ∀ millis, shift.step (.turn n millis) = shift := fun millis =>
        step_turn_none millis hjob rfl
      exact ⟨ending, hstage, by rw [hsame, hsame, hjob]⟩

end Shift

open Shift

/-- Compare a task that is carried out while the program is stopping with the same task while it is
not. The first makes no call; it is held back just when the second makes one, whatever the answer,
and else both have nothing to change. A call puts a request on its way if its cluster has a name;
one that has none cannot be addressed, and the call for it fails without a request. So once a
program that has its first lists is stopping, no more calls are made, the tasks that are begun end
with nothing done or held back, and asking for a retry of these changes no counts. -/
theorem stopping_holdsBackCalls :
    (∀ (s : LabelSpace) (inv : Inventory) (send send' : Call → Except Failure Unit) (task : Task),
      let held := reconcile s inv true send task
      let free := reconcile s inv false send' task
      held.calls = [] ∧
      (held.result = .error .cancelled ↔ free.calls ≠ []) ∧
      (held.result = .ok none ↔ free.calls = []) ∧
      ∀ call ∈ free.calls, task.target ≠ "" → call.request?.isSome = true) ∧
    ∀ shift : Shift, shift.operator.stopping = true →
      shift.operator.inventory.readiness.1 = .ready → ∀ schedule,
      let later := shift.run schedule
      shift.HeldBack later ∧
      ∀ n task stage, shift.jobs.length ≤ n → later.jobs[n]? = some ⟨task, stage⟩ →
        (∀ millis millis', ∃ ending, (ending = .done none ∨ ending = .failed .cancelled) ∧
          ((later.step (.turn n millis)).step (.turn n millis')).jobs[n]? =
            some ⟨task, .ended ending⟩) ∧
        ∀ subject failure, stage = .ended (.failed failure) → subject.task? = some task →
          (later.step (.retry subject failure)).operator = later.operator := by
  refine ⟨?_, ?_⟩
  · intro s inv send send' task held free
    cases hplan : s.plan inv task with
    | none =>
        obtain ⟨hheld, hheldResult⟩ : held.calls = [] ∧ held.result = .ok none :=
          LabelSpace.reconcile_of_plan_eq_none hplan
        obtain ⟨hfree, -⟩ : free.calls = [] ∧ free.result = .ok none :=
          LabelSpace.reconcile_of_plan_eq_none hplan
        simp [hheld, hheldResult, hfree]
    | some edit =>
        obtain ⟨hheld, hheldResult⟩ : held.calls = [] ∧ held.result = .error .cancelled :=
          LabelSpace.reconcile_of_plan_eq_some true send hplan
        have hfree : free.calls = [⟨task.target, edit⟩] :=
          (LabelSpace.reconcile_of_plan_eq_some false send' hplan).1
        simp [hheld, hheldResult, hfree, Call.request?]
  · intro shift hstopping hready schedule later
    have hheld : shift.HeldBack later := heldBack_run hstopping hready schedule
    refine ⟨hheld, fun n task stage hn hjob => ⟨?_, ?_⟩⟩
    · exact ended_of_turns hheld.stopping hheld.ready hjob (hheld.jobs n task stage hn hjob)
    · rintro subject failure rfl htask
      have hcancelled : failure = .cancelled := by
        simpa [Stage.Callless] using hheld.jobs n task _ hn hjob
      rw [hcancelled, Shift.step, Operator.afterSubjectFailure_of_task _ _ _ _ htask]
      rfl

theorem stopping_holdsBackCalls_sample :
    (reconcile ⟨"example.com"⟩ Sample.inventory true (fun _ => .ok ()) (.cluster "c1")).result =
      .error .cancelled ∧
    let shift := (Shift.start Sample.settings).run (Sample.listing ++ [.stop])
    ∃ ending, (ending = .done none ∨ ending = .failed .cancelled) ∧
      (shift.run [.begin (.cluster Sample.cluster), .turn 0 0, .turn 0 0]).jobs[0]? =
        some ⟨.cluster "c1", .ended ending⟩ := by
  obtain ⟨hruns, hshifts⟩ := stopping_holdsBackCalls
  constructor
  · obtain ⟨edit, hplan⟩ : ∃ edit,
        LabelSpace.plan ⟨"example.com"⟩ Sample.inventory (.cluster "c1") = some edit :=
      Option.isSome_iff_exists.mp (by decide +kernel)
    obtain ⟨-, hcancelled, -, -⟩ := hruns ⟨"example.com"⟩ Sample.inventory (fun _ => .ok ())
      (fun _ => .ok ()) (.cluster "c1")
    refine hcancelled.mpr ?_
    simp [LabelSpace.calls_reconcile, hplan]
  · intro shift
    obtain ⟨-, hjobs⟩ := hshifts shift rfl rfl [.begin (.cluster Sample.cluster)]
    exact (hjobs 0 (.cluster "c1") .waiting (Nat.zero_le 0) rfl).1 0 0

end FeatureLabels
