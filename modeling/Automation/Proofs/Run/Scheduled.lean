/-
# How a scheduled execution ends

A scheduled execution does what any execution does; then it looks at the clock
once, asks for the next run after that moment to be set, and ends
(`Executor.executeScheduled_eq`). If there is no telling the next run it ends
without asking for anything. So at each moment it is still to look, or it has
looked and asks, or all is done (`Process.Settles.stage_cases`).

Key definitions: `Executor.settling`, `Request.isAdvance`,
`Process.Settles`, `Stage.IsRunning`, `Stage.IsSetting`, `Stage.IsEnding`.
Key theorems: `Executor.executeScheduled_eq`, `Executor.run_settling_ok`,
`Executor.executeScheduled_settles`, `Process.Settles.stage_cases`.
-/
import Automation.Proofs.Calendar.Ahead
import Automation.Proofs.Process.Settling
import Automation.Proofs.Run.Recording

namespace Automation

/-- Whether a request sets the next run of a workflow. -/
def Request.isAdvance : Request → Bool
  | .setNextRun .. => true
  | _ => false

namespace Executor

/-- The end of a scheduled execution: the next run is set from the clock. -/
def settling (zone : Zone) (w : Workflow) (result : Except Failure ExecutionResult) :
    Process.OfExecution :=
  .clock fun now =>
    match w.nextRunAfter zone now with
    | .ok next => .ask (.setNextRun w.id next) fun _ => .done result
    | .error _ => .done result

theorem executeScheduled_eq (x : Executor) (zone : Zone) (w : Workflow) (ctx : Context) :
    x.executeScheduled zone w ctx = (x.execute w (.obj []) ctx).bind (settling zone w) := by
  rw [executeScheduled]
  congr 1
  funext result
  rw [settling]
  congr 1
  funext now
  rw [Workflow.nextRunAfter]
  cases hs : w.trigger.schedule with
  | none => rfl
  | some s =>
    simp only [Option.mapM_some]
    cases hnext : s.nextAfter zone now with
    | error e => rfl
    | ok next => rfl

/-! ### The end -/

section settling

variable {zone : Zone} {w : Workflow} {result : Except Failure ExecutionResult}
  {error : Cron.SearchError} {nextRun : Option Instant}

theorem stage_settling_error {now : Instant} (cancelled : Bool)
    (h : w.nextRunAfter zone now = .error error) :
    (settling zone w result).stage now cancelled = .finished result := by
  rw [settling, Process.stage]
  simp only [h]
  rfl

theorem stage_settling_ok {now : Instant} (cancelled : Bool)
    (h : w.nextRunAfter zone now = .ok nextRun) :
    (settling zone w result).stage now cancelled
      = .asking (.setNextRun w.id nextRun) fun _ => .done result := by
  rw [settling, Process.stage]
  simp only [h]
  rfl

theorem run_settling_error {σ : Type} (env : Environment σ) (token : Token) (s : σ)
    (h : w.nextRunAfter zone (env.now s) = .error error) :
    (settling zone w result).run env token s = (result, s) := by
  rw [settling, Process.run]
  simp only [h]
  rfl

theorem run_settling_ok {σ : Type} (env : Environment σ) (token : Token) (s : σ)
    (h : w.nextRunAfter zone (env.now s) = .ok nextRun) :
    (settling zone w result).run env token s
      = (result, (env.serve token (.setNextRun w.id nextRun) s).2) := by
  rw [settling, Process.run]
  simp only [h]
  rfl

end settling

/-! ### Executions without actions -/

/-- Without actions there is only the success to record. -/
theorem execute_of_actions_nil (x : Executor) {w : Workflow} (payload : Json) (ctx : Context)
    (hactions : w.actions = []) (hrun : x.runFailure = none) (hrecord : x.recordFailure = none) :
    x.execute w payload ctx = .clock fun now => .ask (.record w.id true none now) fun _ =>
      .done (.ok ⟨w.id, none, []⟩) := by
  have hordered : w.orderedActions = [] := by
    rw [Workflow.orderedActions, hactions]
    exact List.mergeSort_nil
  have hresult : x.run w payload ctx = .done ⟨w.id, none, []⟩ := by
    rw [run, hrun, hordered]
    show (Step.runAll 0 (Step.sorted [])).map _ = _
    rw [Step.sorted, List.mergeSort_nil]
    rfl
  rw [execute, hresult]
  show (x.record w.id none).map _ = _
  rw [record, hrecord]
  rfl

end Executor

/-! ### Stages of a scheduled execution -/

namespace Process

/-- A process that sets no next run before it has come to its result, and then
that of a workflow. -/
def Settles (zone : Zone) (w : Workflow) (p : OfExecution) : Prop :=
  ∃ q : OfExecution, q.Asks (·.isAdvance = false) ∧ p = q.bind (Executor.settling zone w)

end Process

namespace Stage

variable {zone : Zone} {w : Workflow}

/-- A scheduled execution that is still to look at the clock for the next run. -/
inductive IsRunning (zone : Zone) (w : Workflow) : Stage (Except Failure ExecutionResult) → Prop where
  | asking {request : Request} {next : Reply → Process.OfExecution} : request.isAdvance = false →
      (∀ reply, (next reply).Settles zone w) → IsRunning zone w (.asking request next)
  | answered {reply : Reply} {next : Reply → Process.OfExecution} : (next reply).Settles zone w →
      IsRunning zone w (.answered reply next)
  | waiting {next : Reply → Process.OfExecution} : (next .cancelled).Settles zone w →
      IsRunning zone w (.waiting next)

/-- One that asks for a next run to be set, and then ends. -/
inductive IsSetting (id : String) (nextRun : Option Instant) :
    Stage (Except Failure ExecutionResult) → Prop where
  | asking (result : Except Failure ExecutionResult) :
      IsSetting id nextRun (.asking (.setNextRun id nextRun) fun _ => .done result)

/-- One for which a next run has been set. -/
inductive IsEnding : Stage (Except Failure ExecutionResult) → Prop where
  | answered (reply : Reply) (result : Except Failure ExecutionResult) :
      IsEnding (.answered reply fun _ => .done result)

/-- One that has its result. -/
def IsFinished (stage : Stage (Except Failure ExecutionResult)) : Prop :=
  ∃ result, stage = .finished result

end Stage

namespace Process

variable {zone : Zone} {w : Workflow}

theorem Settles.stage_cases {p : OfExecution} : p.Settles zone w →
    ∀ (now : Instant) (cancelled : Bool),
      (p.stage now cancelled).IsRunning zone w
        ∨ (∃ next, w.nextRunAfter zone now = .ok next ∧ (p.stage now cancelled).IsSetting w.id next)
        ∨ (∃ e, w.nextRunAfter zone now = .error e ∧ (p.stage now cancelled).IsFinished) := by
  rintro ⟨q, hq, rfl⟩ now cancelled
  induction q with
  | done result =>
    show ((Executor.settling zone w result).stage now cancelled).IsRunning zone w ∨ _
    cases hnext : w.nextRunAfter zone now with
    | ok next =>
      refine .inr (.inl ⟨next, rfl, ?_⟩)
      show ((Executor.settling zone w result).stage now cancelled).IsSetting w.id next
      rw [Executor.stage_settling_ok cancelled hnext]
      exact .asking result
    | error e => exact .inr (.inr ⟨e, rfl, result, Executor.stage_settling_error cancelled hnext⟩)
  | clock next ih => exact ih now (hq now)
  | token next ih => exact ih cancelled (hq cancelled)
  | ask request next _ => exact .inl (.asking hq.1 fun reply => ⟨next reply, hq.2 reply, rfl⟩)

end Process

namespace Executor

theorem record_asks (x : Executor) (id : String) (error : Option ActionError) :
    (x.record id error).Asks (·.isAdvance = false) := by
  rw [record]
  split
  · exact trivial
  · exact fun now => ⟨rfl, fun reply => trivial⟩

/-- An execution by itself sets no next run. -/
theorem execute_asks (x : Executor) (w : Workflow) (payload : Json) (ctx : Context) :
    (x.execute w payload ctx).Asks (·.isAdvance = false) := by
  have heffect : ∀ request : Request, request.isEffect = true → request.isAdvance = false := by
    intro request h
    cases request with
    | setNextRun _ _ => cases h
    | _ => rfl
  have hrun := (x.run_asks w payload ctx).mono heffect
  exact hrun.bind fun r => (x.record_asks w.id r.error).map _

/-- **A scheduled execution sets the next run once**, in the end. -/
theorem executeScheduled_settles (x : Executor) (zone : Zone) (w : Workflow) (ctx : Context) :
    (x.executeScheduled zone w ctx).Settles zone w :=
  ⟨x.execute w (.obj []) ctx, x.execute_asks w (.obj []) ctx, x.executeScheduled_eq zone w ctx⟩

end Executor

end Automation
