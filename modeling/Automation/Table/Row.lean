/-
# Stored workflows

A workflow is stored as a row. Conditions, schedule and actions are stored as
documents and are read again each time, so a row may hold what is no
workflow; the counts of executions stand apart from the definition, and no
definition is written over them.

Key definitions: `Definition`, `Counters`, `Row`, `Definition.ofWorkflow`,
`Row.workflow`.
-/
import Automation.Document.Writing
import Automation.Number.Word

namespace Automation

/-- What a row holds of the definition of a workflow. -/
structure Definition where
  storeId : String
  organizationId : Option String
  name : String
  description : Option String
  tags : List String
  version : Int
  isActive : Bool
  isDeleted : Bool
  /-- The name of the kind of trigger. -/
  triggerName : String
  conditions : List Json
  schedule : Json
  nextRun : Option Instant
  actions : Json
  createdBy : Option String

/-- The most recent failure, as it is stored. -/
structure StoredError where
  message : String
  timestamp : Instant
  details : Option String
deriving DecidableEq

/-- What a row holds of the executions of a workflow. -/
structure Counters where
  total : Nat := 0
  successful : Nat := 0
  failed : Nat := 0
  lastExecutedAt : Option Instant := none
  lastError : Option StoredError := none
deriving DecidableEq

structure Row where
  id : String
  createdAt : Instant
  definition : Definition
  counters : Counters := {}

namespace Definition

/-- The documents of a workflow, with the next run that belongs to it. -/
def ofWorkflow (w : Workflow) (nextRun : Option Instant) : Except Failure Definition := do
  let conditions ← w.trigger.conditions.mapM Document.writeCondition
  let actions ← Document.writeActions w.actions
  return {
    storeId := w.storeId
    organizationId := w.organizationId
    name := w.name
    description := w.description
    tags := w.tags
    version := w.version
    isActive := w.isActive
    isDeleted := w.isDeleted
    triggerName := w.trigger.kind.name
    conditions
    schedule := (w.trigger.schedule.map fun s => Json.obj (Document.scheduleFields s)).getD .null
    nextRun
    actions := .arr actions
    createdBy := w.createdBy }

/-- Whether the numbers fit the columns. -/
def fits (d : Definition) : Bool := Word.fits d.version

/-- Whether events and schedules may run the workflow. -/
def isExecutable (d : Definition) : Bool := d.isActive && !d.isDeleted

def trigger (d : Definition) : Except Failure TriggerKind :=
  match TriggerKind.ofName? d.triggerName with
  | some kind => .ok kind
  | none => .error (.notMember d.triggerName "TriggerType")

def text? (document : Json) (name : String) : Option String :=
  (document.member? name).bind Json.text?

def int? (document : Json) (name : String) : Option Int :=
  (document.member? name).bind Json.int?

/-- The stored schedule, with the next run of the row. -/
def readSchedule (d : Definition) : Except Failure (Option Schedule) :=
  if !d.schedule.isGiven then .ok none
  else
    match d.schedule.member? "type" with
    | none => .error (.crash "KeyError" (some "'type'"))
    | some kind =>
      match ScheduleKind.ofName? kind.described with
      | none => .error (.notMember kind.described "ScheduleType")
      | some kind =>
        .ok (some {
          kind
          time := text? d.schedule "time"
          dayOfWeek := int? d.schedule "dayOfWeek"
          dayOfMonth := int? d.schedule "dayOfMonth"
          cronExpression := text? d.schedule "cronExpression"
          nextRun := d.nextRun.map Timestamp.ofInstant })

end Definition

/-- The counts of executions, as they are shown. -/
def Counters.stats (c : Counters) : Stats where
  total := c.total
  successful := c.successful
  failed := c.failed
  lastExecutedAt := c.lastExecutedAt.map Timestamp.ofInstant
  lastError := c.lastError.map fun e => ⟨e.message, .ofInstant e.timestamp, e.details⟩

/-- The counts after one more execution; a success and a failure without an
error leave the last error. -/
def Counters.record (c : Counters) (success : Bool) (error : Option StoredError)
    (endedAt : Instant) : Counters where
  total := c.total + 1
  successful := if success then c.successful + 1 else c.successful
  failed := if success then c.failed else c.failed + 1
  lastExecutedAt := some endedAt
  lastError := if success then c.lastError else error.or c.lastError

/-- The workflow that a row holds. -/
def Row.workflow (r : Row) : Except Failure Workflow := do
  let d := r.definition
  let kind ← d.trigger
  let conditions ← d.conditions.mapM fun c => Document.accept (Document.readCondition c)
  let schedule ← d.readSchedule
  let actions ← Document.accept (Document.readProgram d.actions)
  return {
    id := r.id
    storeId := d.storeId
    organizationId := d.organizationId
    name := d.name
    description := d.description
    tags := d.tags
    version := d.version
    trigger := ⟨kind, conditions, schedule⟩
    actions
    isActive := d.isActive
    isDeleted := d.isDeleted
    stats := r.counters.stats
    createdBy := d.createdBy
    createdAt := some (.ofInstant r.createdAt) }

end Automation
