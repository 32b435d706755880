/-
# Workflows

A workflow is a rule of a store: a trigger, the actions that it sets off, and
what became of its executions so far.

Key definitions: `Stats`, `Stats.successRate`, `Workflow`,
`Workflow.isExecutable`, `Workflow.isVisibleTo`.
-/
import Automation.Action
import Automation.Trigger

namespace Automation

/-- The most recent failure of a workflow. -/
structure LastError where
  message : String
  timestamp : Timestamp
  details : Option String := none

/-- The counts of executions. -/
structure Stats where
  total : Int := 0
  successful : Int := 0
  failed : Int := 0
  lastExecutedAt : Option Timestamp := none
  lastError : Option LastError := none

namespace Stats

/-- The percentage of successful executions with two places; zero without
executions, none if it is beyond the range of doubles. -/
def successRate (s : Stats) : Option Double :=
  if s.total = 0 then some .zero
  else (Double.ofQuotient? s.successful s.total).map fun q => (q.mulNat 100).roundTo 100

end Stats

structure Workflow where
  id : String
  storeId : String
  organizationId : Option String := none
  name : String
  description : Option String := none
  tags : List String := []
  version : Int := 1
  trigger : Trigger
  actions : List Action := []
  isActive : Bool := true
  isDeleted : Bool := false
  stats : Stats := {}
  createdBy : Option String := none
  createdAt : Option Timestamp := none

namespace Workflow

/-- Whether events and schedules may run the workflow. -/
def isExecutable (w : Workflow) : Bool := w.isActive && !w.isDeleted

def isScheduled (w : Workflow) : Bool := w.trigger.kind == .schedule

/-- A workflow is visible to its own store and to the stores of its
organization, until it is deleted. -/
def isVisibleTo (w : Workflow) (storeId : String) (organizationId : Option String) : Bool :=
  !w.isDeleted
    && (w.storeId == storeId || (organizationId.isSome && w.organizationId == organizationId))

def orderedActions (w : Workflow) : List Action := Action.sorted w.actions

end Workflow

end Automation
