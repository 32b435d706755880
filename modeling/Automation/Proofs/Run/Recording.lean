/-
# An execution records once

On each way through an execution exactly one outcome is recorded, and that is
the outcome that the execution returns. Before it there are the requests of
actions only, and after it at most the setting of the next run
(`Executor.execute_owes`, `Executor.executeScheduled_owes`).

Key definitions: `Process.Ends`, `Process.Owes`.
Key theorems: `Executor.execute_owes`, `Executor.executeScheduled_owes`.
-/
import Automation.Proofs.Run.Requests
import Automation.Run.Execution

namespace Automation

/-- The process of an execution. -/
abbrev Process.OfExecution := Process (Except Failure ExecutionResult)

namespace Process

/-- The process records nothing any more, and returns a success or a failure
as told. -/
inductive Ends (success : Bool) : OfExecution → Prop where
  | done {r : ExecutionResult} : r.isSuccess = success → Ends success (.done (.ok r))
  | clock {next : Instant → OfExecution} : (∀ now, Ends success (next now)) →
      Ends success (.clock next)
  | token {next : Bool → OfExecution} : (∀ cancelled, Ends success (next cancelled)) →
      Ends success (.token next)
  | nextRun {id : String} {when : Option Instant} {next : Reply → OfExecution} :
      (∀ reply, Ends success (next reply)) → Ends success (.ask (.setNextRun id when) next)

/-- The process records one outcome, for the workflow `id` and at the instant
that it reads from the clock, before it ends as recorded. -/
inductive Owes (id : String) : OfExecution → Prop where
  | clock {next : Instant → OfExecution} : (∀ now, Owes id (next now)) → Owes id (.clock next)
  | token {next : Bool → OfExecution} : (∀ cancelled, Owes id (next cancelled)) →
      Owes id (.token next)
  | effect {request : Request} {next : Reply → OfExecution} : request.isEffect = true →
      (∀ reply, Owes id (next reply)) → Owes id (.ask request next)
  | record {success : Bool} {error : Instant → Option LastError}
      {next : Instant → Reply → OfExecution} :
      (∀ now, ∀ e ∈ error now, e.timestamp = .ofInstant now) →
      (∀ now reply, Ends success (next now reply)) →
      Owes id (.clock fun now => .ask (.record id success (error now) now) (next now))

/-- A process that asks for effects only owes what follows it owes. -/
theorem Asks.owes_bind {α : Type} {id : String} {f : α → OfExecution} (hf : ∀ a, (f a).Owes id) :
    ∀ {p : Process α}, p.Asks (·.isEffect = true) → (p.bind f).Owes id
  | .done a, _ => hf a
  | .clock _, h => .clock fun now => Asks.owes_bind hf (h now)
  | .token _, h => .token fun cancelled => Asks.owes_bind hf (h cancelled)
  | .ask _ _, h => .effect h.1 fun reply => Asks.owes_bind hf (h.2 reply)

theorem Ends.bind {success : Bool} {f : Except Failure ExecutionResult → OfExecution}
    (hf : ∀ r : ExecutionResult, r.isSuccess = success → (f (.ok r)).Ends success)
    {p : OfExecution} (h : p.Ends success) : (p.bind f).Ends success := by
  induction h with
  | done hr => exact hf _ hr
  | clock _ ih => exact .clock ih
  | token _ ih => exact .token ih
  | nextRun _ ih => exact .nextRun ih

theorem Owes.bind {id : String} {f : Except Failure ExecutionResult → OfExecution}
    (hf : ∀ r : ExecutionResult, (f (.ok r)).Ends r.isSuccess) {p : OfExecution} (h : p.Owes id) :
    (p.bind f).Owes id := by
  induction h with
  | clock _ ih => exact .clock ih
  | token _ ih => exact .token ih
  | effect hrequest _ ih => exact .effect hrequest ih
  | record herror hends =>
    exact .record herror fun now reply => (hends now reply).bind fun r hr => hr ▸ hf r

end Process

theorem LastError.ofFailure_timestamp {f : Failure} {raised : Bool} {now : Instant} {e : LastError}
    (h : LastError.ofFailure f raised now = some e) : e.timestamp = .ofInstant now := by
  unfold LastError.ofFailure at h
  split at h
  · cases h
  · cases h
    rfl

namespace Executor

theorem run_asks (x : Executor) (w : Workflow) (payload : Json) (ctx : Context) :
    (x.run w payload ctx).Asks (·.isEffect = true) := by
  rw [run]
  cases x.runFailure with
  | some f => exact trivial
  | none => exact (x.runner.run_asks ctx payload w.orderedActions 0).map _

/-- To record an outcome and return it is to settle what is owed. -/
theorem record_owes (x : Executor) (hx : x.recordFailure = none) (r : ExecutionResult)
    (id : String) (f : Option Failure → Except Failure ExecutionResult) (hf : f none = .ok r) :
    ((x.record id r.error).map f).Owes id := by
  rw [record, hx]
  refine .record (fun now e he => ?_) fun now _ => ?_
  · obtain ⟨a, -, ha⟩ := Option.bind_eq_some_iff.1 he
    exact LastError.ofFailure_timestamp ha
  · rw [Process.bind, hf]
    exact .done rfl

/-- **An execution records exactly one outcome**, the one that it returns. -/
theorem execute_owes (x : Executor) (hx : x.recordFailure = none) (w : Workflow) (payload : Json)
    (ctx : Context) : (x.execute w payload ctx).Owes w.id :=
  (x.run_asks w payload ctx).owes_bind fun r => x.record_owes hx r w.id _ rfl

/-- So does a scheduled one, which then sets the next run. -/
theorem executeScheduled_owes (x : Executor) (hx : x.recordFailure = none) (zone : Zone)
    (w : Workflow) (ctx : Context) : (x.executeScheduled zone w ctx).Owes w.id := by
  refine (x.execute_owes hx w (.obj []) ctx).bind fun r => .clock fun now => ?_
  split
  · exact .nextRun fun _ => .done rfl
  · exact .done rfl

end Executor

end Automation
