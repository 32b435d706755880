/-
# The table of workflows

Rows are found by id, by store and trigger, and by the time of their next
run. Writing a definition (`Table.save`) decides the next run and leaves the
counts of executions; recording an execution (`Table.record`) changes the
counts only. A write that fails changes nothing. No row is ever removed:
deleting one marks it.

Key definitions: `Table`, `Table.get`, `Table.activeFor`, `Table.dueAt`,
`Table.save`, `Table.record`, `Table.setActive`, `Table.softDelete`.
-/
import Automation.Table.Row

namespace Automation

/-- The rows, in the order in which they were added. -/
structure Table where
  rows : List Row := []

namespace Table

def find? (t : Table) (id : String) : Option Row := t.rows.find? (·.id == id)

/-- The table with a row in the place of the one with its id. -/
def replace (t : Table) (r : Row) : Table :=
  ⟨t.rows.map fun old => if old.id == r.id then r else old⟩

def add (t : Table) (r : Row) : Table := ⟨t.rows ++ [r]⟩

/-- Changes the row with an id. -/
def modify (t : Table) (id : String) (f : Row → Row) : Except Failure Table :=
  match t.find? id with
  | some r => .ok (t.replace (f r))
  | none => .error (.notFound "Workflow" id)

/-! ### Queries -/

/-- The workflow with an id. -/
def get (t : Table) (id : String) : Except Failure (Option Workflow) :=
  match t.find? id with
  | some r => r.workflow.map some
  | none => .ok none

/-- The workflows of rows; one that cannot be read fails them all. -/
def workflows (rows : List Row) : Except Failure (List Workflow) := rows.mapM Row.workflow

/-- Whether a row comes before another among rows listed newest first. -/
def newestFirst (a b : Row) : Bool :=
  b.createdAt.micros < a.createdAt.micros || (a.createdAt == b.createdAt && b.id ≤ a.id)

/-- Whether a row comes before another among rows listed by their next run. -/
def earliestFirst (a b : Row) : Bool :=
  match a.definition.nextRun, b.definition.nextRun with
  | some x, some y => x.micros < y.micros || (x == y && a.id ≤ b.id)
  | _, _ => true

/-- The kind of trigger that a text names. -/
def triggerNamed (name : String) : Except Failure TriggerKind :=
  match TriggerKind.ofName? name with
  | some kind => .ok kind
  | none => .error (.notMember name "TriggerType")

/-- The executable workflows of a store with a trigger, newest first. -/
def activeFor (t : Table) (storeId trigger : String) : Except Failure (List Workflow) := do
  let kind ← triggerNamed trigger
  workflows ((t.rows.filter fun r => r.definition.isExecutable && r.definition.storeId == storeId
    && r.definition.triggerName == kind.name).mergeSort newestFirst)

/-- Whether the next run of a row has come. -/
def isDue (now : Instant) (r : Row) : Bool :=
  r.definition.isExecutable && r.definition.triggerName == TriggerKind.schedule.name
    && match r.definition.nextRun with
      | some t => t.micros ≤ now.micros
      | none => false

/-- The executable scheduled workflows whose next run has come, by that run. -/
def dueAt (t : Table) (now : Instant) : Except Failure (List Workflow) :=
  workflows ((t.rows.filter (isDue now)).mergeSort earliestFirst)

/-- The workflows of a store that are not deleted, newest first, perhaps only
those with a trigger and those that are active or that are not. -/
def ofStore (t : Table) (storeId : String) (trigger : Option String) (active : Option Bool) :
    Except Failure (List Workflow) := do
  let kind ← trigger.mapM triggerNamed
  workflows ((t.rows.filter fun r => r.definition.storeId == storeId && !r.definition.isDeleted
    && kind.all (·.name == r.definition.triggerName)
    && active.all (· == r.definition.isActive)).mergeSort newestFirst)

/-! ### Writes -/

/-- The next run to store with a definition. A workflow that does not run
keeps the one it has; one that runs gets the next one after now. -/
def nextRunOf (zone : Zone) (now : Instant) (w : Workflow) : Except Failure (Option Instant) :=
  if !w.isScheduled then .ok none
  else
    match w.trigger.schedule with
    | none => .error (.invalid "Schedule triggers require a schedule" (some "schedule"))
    | some s =>
      if s.kind == .cron && !Cron.isValid s.cronExpression then
        .error (.invalid ("Invalid cron expression: " ++ Text.quoteOption s.cronExpression)
          (some "cronExpression"))
      else if !w.isExecutable then (s.nextRun.mapM Timestamp.utc).mapError .calendar
      else
        match (s.nextAfter zone now).mapError Failure.ofSearch with
        | .error e => .error e
        | .ok none =>
          .error (.invalid s!"Schedule of type {s.kind.name} cannot produce a next run"
            (some "schedule"))
        | .ok next => .ok next

/-- Adds a workflow or writes a new definition of it. -/
def save (t : Table) (zone : Zone) (now : Instant) (w : Workflow) :
    Except Failure (Workflow × Table) := do
  let d ← Definition.ofWorkflow w (← nextRunOf zone now w)
  match t.find? w.id with
  | some old =>
    if !d.fits then throw .integerTooLarge
    let r := { old with definition := d }
    return (← r.workflow, t.replace r)
  | none =>
    let createdAt ← ((w.createdAt.mapM Timestamp.utc).mapError Failure.calendar)
    if !d.fits then throw .integerTooLarge
    let r : Row := { id := w.id, createdAt := createdAt.getD now, definition := d }
    return (← r.workflow, t.add r)

/-- Counts one execution. -/
def record (t : Table) (id : String) (success : Bool) (error : Option LastError)
    (endedAt : Instant) : Except Failure Table := do
  let stored ←
    if success then pure none
    else
      error.mapM fun e => do
        let timestamp ← e.timestamp.utc.mapError Failure.calendar
        return ⟨e.message, timestamp, e.details⟩
  t.modify id fun r => { r with counters := r.counters.record success stored endedAt }

/-- Sets the next run of a row, if it exists. -/
def setNextRun (t : Table) (id : String) (nextRun : Option Instant) : Table :=
  ⟨t.rows.map fun r =>
    if r.id == id then { r with definition := { r.definition with nextRun } } else r⟩

/-- Marks a workflow as deleted. -/
def softDelete (t : Table) (id : String) : Except Failure Table :=
  t.modify id fun r =>
    { r with definition := { r.definition with isDeleted := true, isActive := false } }

/-- The workflow with an id, unless it is deleted. -/
def undeleted (t : Table) (id : String) : Except Failure Workflow := do
  match ← t.get id with
  | some w => if w.isDeleted then throw (.notFound "Workflow" id) else return w
  | none => throw (.notFound "Workflow" id)

/-- Switches a workflow on or off: it is read, and written with its new state. -/
def setActive (t : Table) (zone : Zone) (now : Instant) (id : String) (active : Bool) :
    Except Failure (Workflow × Table) := do
  let w ← t.undeleted id
  t.save zone now { w with isActive := active }

end Table

end Automation
