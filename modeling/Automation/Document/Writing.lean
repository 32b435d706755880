/-
# Writing workflow documents

A workflow is written with all its fields. What is written can be read
again, so a value that no document may hold is refused: its faults are
placed by the field names in words parted by underscores. A double that is
not finite has no place in a document and is written as null.

Key definitions: `Document.writeAction`, `Document.writeActions`,
`Document.writeStats`, `Document.writeWorkflow`.
-/
import Automation.Document.Reading
import Automation.Failure

namespace Automation

mutual

/-- The value with null for every double that is not finite. -/
def Json.finite : Json → Json
  | .float x => if x.isFinite then .float x else .null
  | .arr items => .arr (Json.finiteItems items)
  | .obj members => .obj (Json.finiteMembers members)
  | v => v

def Json.finiteItems : List Json → List Json
  | [] => []
  | x :: xs => x.finite :: Json.finiteItems xs

def Json.finiteMembers : List (String × Json) → List (String × Json)
  | [] => []
  | (k, v) :: ms => (k, v.finite) :: Json.finiteMembers ms

end

namespace Document

open Checked (valid fault)

/-- The value of a result without faults. -/
def accept {α : Type} : Checked α → Except Failure α
  | .valid a => .ok a
  | .invalid faults => .error (.document faults)

def writeTimestamp : Option Timestamp → Json
  | some t => .str t.wireText
  | none => .null

/-! ### Conditions, schedules, triggers -/

def checkCondition (c : Condition) : Checked Condition :=
  valid (fun _ _ => c)
    |>.and ((readSizedText 1 none (.str c.field)).within (.name "field"))
    |>.and ((readNamed Operator.all Operator.name (.str c.operator)).within (.name "operator"))

def writeCondition (c : Condition) : Except Failure Json := do
  let c ← accept (checkCondition c)
  return .obj [("field", .str c.field), ("operator", .str c.operator), ("value", c.value.finite)]

/-- The number if there is none or it lies within bounds. -/
def checkOptional (name : String) (least : Int) (most : Option Int) (n : Option Int) :
    Checked Unit :=
  match n with
  | some n => ((checkBounds least most n).map fun _ => ()).within (.name name)
  | none => .valid ()

def checkSchedule (s : Schedule) : Checked Schedule :=
  valid (fun _ _ _ => s)
    |>.and ((readNamed ScheduleKind.all ScheduleKind.name (.str s.kind.name)).within (.name "type"))
    |>.and (checkOptional "day_of_week" 0 (some 6) s.dayOfWeek)
    |>.and (checkOptional "day_of_month" 1 (some 31) s.dayOfMonth)
    |>.ensure unfitSchedule?

def scheduleFields (s : Schedule) : Members :=
  [("type", .str s.kind.name), ("time", Json.ofText? s.time),
    ("dayOfWeek", Json.ofInt? s.dayOfWeek), ("dayOfMonth", Json.ofInt? s.dayOfMonth),
    ("cronExpression", Json.ofText? s.cronExpression)]

def writeSchedule : Option Schedule → Except Failure Json
  | none => .ok .null
  | some s => do
    let s ← accept (checkSchedule s)
    return .obj (scheduleFields s ++ [("nextRun", writeTimestamp s.nextRun)])

def writeTrigger (t : Trigger) : Except Failure Json := do
  let conditions ← t.conditions.mapM writeCondition
  let schedule ← writeSchedule t.schedule
  let t ← accept ((valid t).ensure unfitTrigger?)
  return .obj [("type", .str t.kind.name), ("conditions", .arr conditions), ("schedule", schedule)]

/-! ### Actions -/

/-- A task that a document may hold. -/
def checkTask : Task → Checked Unit
  | .approval _ required timeout =>
    valid (fun _ _ => ())
      |>.and ((checkBounds 1 none required).within (.name "required_approvals"))
      |>.and (checkOptional "timeout" 0 none timeout)
  | .delay milliseconds => checkOptional "duration" 0 none (some milliseconds)
  | _ => .valid ()

def taskFields : Task → Members
  | .email recipients subject body =>
    [("to", Json.ofTexts recipients), ("subject", .str subject), ("body", .str body)]
  | .notification user title message priority =>
    [("userId", Json.ofText? user), ("title", .str title), ("message", .str message),
      ("priority", Json.ofText? priority)]
  | .webhook url method headers body =>
    [("url", Json.ofText? url), ("method", .str method),
      ("headers", .obj (headers.map fun (k, v) => (k, .str v))), ("body", body.finite)]
  | .update entity id updates =>
    [("entity", Json.ofText? entity), ("entityId", Json.ofText? id),
      ("updates", (Json.obj updates).finite)]
  | .create entity data =>
    [("entityType", Json.ofText? entity), ("data", (Json.obj data).finite)]
  | .approval approvers required timeout =>
    [("approvers", Json.ofTexts approvers), ("requiredApprovals", .int required),
      ("timeout", Json.ofInt? timeout)]
  | .delay milliseconds => [("duration", .int milliseconds)]
  | .unknown _ => []

/-- The document of an action from its kind, its configuration and its policy. -/
def actionDocument (kind : String) (config : Members) (policy : Policy) : Json :=
  .obj [("order", .int policy.order), ("continueOnError", .bool policy.continueOnError),
    ("type", .str kind), ("config", .obj config)]

def writeTask (policy : Policy) (task : Task) : Except Failure Json := do
  if let .unknown name := task then throw (.unsupported name)
  accept (checkTask task)
  return actionDocument task.kind (taskFields task) policy

mutual

def writeAction : Action → Except Failure Json
  | .task policy task => writeTask policy task
  | .branch policy condition thenActions elseActions => do
    let condition ←
      match condition with
      | some c => writeCondition c
      | none => pure .null
    let thens ← writeActions thenActions
    let elses ← writeActions elseActions
    return actionDocument "condition"
      [("condition", condition), ("thenActions", .arr thens), ("elseActions", .arr elses)] policy

def writeActions : List Action → Except Failure (List Json)
  | [] => .ok []
  | a :: rest => do
    let first ← writeAction a
    let others ← writeActions rest
    return first :: others

end

/-! ### Workflows -/

def writeLastError : Option LastError → Json
  | some e =>
    .obj [("message", .str e.message), ("timestamp", .str e.timestamp.wireText),
      ("details", Json.ofText? e.details)]
  | none => .null

def statsFields (s : Stats) : Members :=
  [("totalExecutions", .int s.total), ("successfulExecutions", .int s.successful),
    ("failedExecutions", .int s.failed), ("lastExecutedAt", writeTimestamp s.lastExecutedAt),
    ("lastError", writeLastError s.lastError)]

def writeStats (s : Stats) : Json := .obj (statsFields s)

/-- The success rate of executions, as a value of a document. -/
def writeSuccessRate (s : Stats) : Except Failure Json :=
  match s.successRate with
  | some rate => .ok (.float rate)
  | none => .error .rateTooLarge

/-- The statistics of a workflow as they are answered to a caller. -/
def writeStatsAnswer (s : Stats) : Except Failure Json := do
  return .obj (statsFields s ++ [("successRate", (← writeSuccessRate s).finite)])

def checkWorkflow (w : Workflow) : Checked Workflow :=
  valid (fun _ _ _ => w)
    |>.and ((readSizedText 1 none (.str w.storeId)).within (.name "store_id"))
    |>.and ((readSizedText 1 (some nameLength) (.str w.name)).within (.name "name"))
    |>.and ((checkBounds 1 none w.version).within (.name "version"))

def writeWorkflow (w : Workflow) : Except Failure Json := do
  let trigger ← writeTrigger w.trigger
  let actions ← writeActions w.actions
  let w ← accept (checkWorkflow w)
  return .obj [("id", .str w.id), ("storeId", .str w.storeId),
    ("organizationId", Json.ofText? w.organizationId), ("name", .str w.name),
    ("description", Json.ofText? w.description), ("tags", Json.ofTexts w.tags),
    ("version", .int w.version), ("trigger", trigger), ("actions", .arr actions),
    ("isActive", .bool w.isActive), ("isDeleted", .bool w.isDeleted),
    ("stats", writeStats w.stats), ("createdBy", Json.ofText? w.createdBy),
    ("createdAt", writeTimestamp w.createdAt)]

end Document

end Automation
