/-
# What came of a run

A run leaves a trace: an entry for each action that was visited, in the order
of the visits, where the actions of a branch follow the branch at a greater
depth. A run that ended early carries the failure that ended it.

Key definitions: `ActionStatus`, `TraceEntry`, `Outcome`, `RunResult`.
-/
import Automation.ActionError

namespace Automation

inductive ActionStatus where
  | success
  | failed
  | unimplemented
deriving DecidableEq, Repr

namespace ActionStatus

def all : List ActionStatus := [.success, .failed, .unimplemented]

def name : ActionStatus → String
  | .success => "success"
  | .failed => "failed"
  | .unimplemented => "unimplemented"

end ActionStatus

/-- A failure with the kind of the action that failed. -/
structure ActionFailure where
  error : ActionError
  action : String

/-- What is noted of a visited action. -/
structure TraceEntry where
  action : String
  status : ActionStatus
  depth : Int
  error : Option ActionError
  result : Option Members

/-- What came of one action: its status, its result, its failure, and the
trace of the actions inside it. -/
structure Outcome where
  status : ActionStatus := .success
  result : Option Members := none
  failure : Option ActionFailure := none
  inner : List TraceEntry := []

/-- What came of a list of actions. -/
structure RunResult where
  trace : List TraceEntry := []
  failure : Option ActionFailure := none

def RunResult.isOk (r : RunResult) : Bool := r.failure.isNone

/-- The trace entry of an action, from what came of it. -/
def Outcome.entry (o : Outcome) (action : String) (depth : Int) : TraceEntry :=
  ⟨action, o.status, depth, o.failure.map (·.error), o.result⟩

end Automation
