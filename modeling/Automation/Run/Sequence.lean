/-
# Runs

A run visits actions by their order. It ends at the first action that fails,
unless that action lets the run go on. A branch runs one of its two lists of
actions as a run inside the run; branches may be nested only so deep. Once
the run is cancelled every further action fails.

Key definitions: `Step`, `Step.runAll`, `Runner.steps`, `Runner.run`.
-/
import Automation.Run.Task

namespace Automation

/-- An action as a run sees it: when it comes, whether a failure of it ends
the run, and what it does at a depth. -/
structure Step where
  order : Int
  continueOnError : Bool
  kind : String
  process : Int → Process Outcome

namespace Step

/-- Steps by their order; those of one order stay as they are listed. -/
def sorted (steps : List Step) : List Step := steps.mergeSort fun a b => a.order ≤ b.order

/-- Runs steps one after the other. -/
def runAll (depth : Int) : List Step → Process RunResult
  | [] => .done {}
  | step :: rest =>
    (step.process depth).bind fun outcome =>
      let visited := outcome.entry step.kind depth :: outcome.inner
      match outcome.failure with
      | some failure =>
        if step.continueOnError then
          (runAll depth rest).map fun r => { r with trace := visited ++ r.trace }
        else .done ⟨visited, some failure⟩
      | none => (runAll depth rest).map fun r => { r with trace := visited ++ r.trace }

end Step

/-- The outcome of an action that failed. -/
def Outcome.failed (kind : String) (e : ActionError) : Outcome :=
  { status := .failed, failure := some ⟨e, kind⟩ }

/-- The outcome of a task. -/
def Task.outcome (kind : String) : Task.Result → Outcome
  | .ok (status, result) => { status, result := some result }
  | .error e => .failed kind e

/-- Carries out an action, unless the run has been cancelled. -/
def Process.unlessCancelled (kind : String) (p : Process Outcome) : Process Outcome :=
  .token fun cancelled => if cancelled then .done (.failed kind .cancellation) else p

namespace Runner

/-- The outcome of a branch, from that of the actions that it ran. -/
def branchOutcome (holds : Bool) (r : RunResult) : Outcome where
  status := if r.isOk then .success else .failed
  result := some [("branch", .str (if holds then "then" else "else"))]
  failure := r.failure
  inner := r.trace

/-- What a branch does at a depth. -/
def branch (runner : Runner) (payload : Json) (condition : Option Condition)
    (thens elses : List Step) (depth : Int) : Process Outcome :=
  match condition with
  | none =>
    .done (.failed "condition" (.definition "Condition action requires a condition" "condition"))
  | some c =>
    if runner.maxDepth < depth + 1 then
      .done (.failed "condition"
        (.definition s!"Condition nesting exceeds maximum depth of {runner.maxDepth}" none))
    else
      let holds := c.holds payload
      (Step.runAll (depth + 1) (Step.sorted (if holds then thens else elses))).map
        (branchOutcome holds)

mutual

/-- An action as a run for an event in a context sees it. -/
def step (runner : Runner) (ctx : Context) (payload : Json) : Action → Step
  | .task policy task =>
    { order := policy.order, continueOnError := policy.continueOnError, kind := task.kind
      process := fun _ =>
        .unlessCancelled task.kind
          ((task.process runner ctx payload).map (Task.outcome task.kind)) }
  | .branch policy condition thens elses =>
    let thens := steps runner ctx payload thens
    let elses := steps runner ctx payload elses
    { order := policy.order, continueOnError := policy.continueOnError, kind := "condition"
      process := fun depth =>
        .unlessCancelled "condition" (runner.branch payload condition thens elses depth) }

def steps (runner : Runner) (ctx : Context) (payload : Json) : List Action → List Step
  | [] => []
  | a :: rest => step runner ctx payload a :: steps runner ctx payload rest

end

/-- Runs actions for an event in a context, at a depth. -/
def run (runner : Runner) (ctx : Context) (payload : Json) (actions : List Action) (depth : Int) :
    Process RunResult :=
  Step.runAll depth (Step.sorted (steps runner ctx payload actions))

end Runner

end Automation
