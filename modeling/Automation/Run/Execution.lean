/-
# Executions

An execution runs the actions of a workflow and records its outcome, once,
whatever the outcome is. A failure is recorded with its message; a
cancellation counts as a failure too, but leaves the last error as it is.
That an outcome could not be recorded is no failure of the execution.

Key definitions: `LastError.ofFailure`, `ExecutionResult`, `Executor`,
`Executor.execute`, `Executor.executeScheduled`.
-/
import Automation.Run.Sequence

namespace Automation

namespace LastError

/-- What stands for the trace of a failure that was raised. -/
def backtrace : String := "<traceback>"

/-- The text of a failure that was never raised: its name and its message. -/
def unraised (f : Failure) : String :=
  f.name ++ "(" ++ (match f with
    | .crash _ none => ""
    | f => Text.quote f.message) ++ ")"

/-- What is recorded of a failure; of a cancellation nothing is. -/
def ofFailure (f : Failure) (raised : Bool) (now : Instant) : Option LastError :=
  match f with
  | .action (.cancelled _) _ => none
  | f =>
    some {
      message := if f.message.isEmpty then f.name else f.message
      timestamp := .ofInstant now
      details := some (if raised then backtrace else unraised f) }

end LastError

/-- What came of an execution. -/
structure ExecutionResult where
  workflowId : String
  error : Option ActionError := none
  trace : List TraceEntry := []

def ExecutionResult.isSuccess (r : ExecutionResult) : Bool := r.error.isNone

/-- What executes workflows: the runner, and what running and recording fail
with while they are out of order. -/
structure Executor where
  runner : Runner := {}
  runFailure : Option Failure := none
  recordFailure : Option Failure := none

namespace Executor

/-- Records the outcome of an execution; the result is what recording failed
with. -/
def record (x : Executor) (id : String) (error : Option ActionError) : Process (Option Failure) :=
  match x.recordFailure with
  | some f => .done (some f)
  | none =>
    .clock fun now =>
      let last := error.bind fun e => LastError.ofFailure (.action e none) true now
      .ask (.record id error.isNone last now) fun _ => .done none

/-- Runs the actions of a workflow. -/
def run (x : Executor) (w : Workflow) (payload : Json) (ctx : Context) : Process ExecutionResult :=
  match x.runFailure with
  | some f => .done ⟨w.id, some (.internal f.described), []⟩
  | none =>
    (x.runner.run ctx payload w.orderedActions 0).map fun r =>
      ⟨w.id, r.failure.map (·.error), r.trace⟩

/-- Executes a workflow for an event in a context. -/
def execute (x : Executor) (w : Workflow) (payload : Json) (ctx : Context) :
    Process (Except Failure ExecutionResult) :=
  (x.run w payload ctx).bind fun r =>
    (x.record w.id r.error).map fun
      | some f => .error f
      | none => .ok r

/-- Executes a workflow whose run has come, then sets its next run. -/
def executeScheduled (x : Executor) (zone : Zone) (w : Workflow) (ctx : Context) :
    Process (Except Failure ExecutionResult) :=
  (x.execute w (.obj []) ctx).bind fun result =>
    .clock fun now =>
      match w.trigger.schedule.mapM fun s => s.nextAfter zone now with
      | .ok next => .ask (.setNextRun w.id next.join) fun _ => .done result
      | .error _ => .done result

end Executor

end Automation
