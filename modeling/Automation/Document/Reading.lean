/-
# Reading workflow documents

A workflow arrives as a JSON object. Reading it checks every part and tells
all faults (`Checked`); unknown members do not count. An action is told by
its member `type`, which also names the place of its faults.

Key definitions: `Document.readAction`, `Document.readActions`,
`Document.readProgram`, `Document.readStats`, `Document.readWorkflow`.
-/
import Automation.Document.Field
import Automation.Json.Described
import Automation.Workflow

namespace Automation.Document

open Checked (valid fault)

/-! ### Conditions, schedules, triggers -/

def readCondition : Json → Checked Condition :=
  readRecord "ConditionSchema" fun ms =>
    valid (fun field operator value => (⟨field, Operator.name operator, value⟩ : Condition))
      |>.and (required "field" (readSizedText 1 none) ms)
      |>.and (required "operator" (readNamed Operator.all Operator.name) ms)
      |>.and (optional "value" .null valid ms)

/-- Why the fields of a schedule do not fit its kind. -/
def unfitSchedule? (s : Schedule) : Option String :=
  match s.kind with
  | .cron =>
    if Cron.isValid s.cronExpression then none
    else
      some ("cronExpression is not a valid cron expression: " ++ Text.quoteOption s.cronExpression)
  | kind =>
    if (s.time.bind TimeOfDay.parse?).isNone then some (TimeOfDay.faultMessage s.time)
    else if kind == .weekly && s.dayOfWeek.isNone then
      some "weekly schedules require dayOfWeek (0 = Sunday)"
    else if kind == .monthly && s.dayOfMonth.isNone then
      some "monthly schedules require dayOfMonth (1-31)"
    else none

def readSchedule : Json → Checked Schedule :=
  readRecord "ScheduleSchema" fun ms =>
    valid Schedule.mk
      |>.and (required "type" (readNamed ScheduleKind.all ScheduleKind.name) ms)
      |>.and (optional "time" none (nullable readText) ms)
      |>.and (optional "dayOfWeek" none (nullable (readBounded 0 (some 6))) ms)
      |>.and (optional "dayOfMonth" none (nullable (readBounded 1 (some 31))) ms)
      |>.and (optional "cronExpression" none (nullable readText) ms)
      |>.and (optional "nextRun" none (nullable readTimestamp) ms)
      |>.ensure unfitSchedule?

/-- Why a trigger and its schedule do not fit. -/
def unfitTrigger? (t : Trigger) : Option String :=
  if t.kind == .schedule then
    if t.schedule.isNone then some "schedule triggers require a schedule" else none
  else if t.schedule.isSome then
    some "schedule is only allowed when trigger type is 'schedule'"
  else none

def readTrigger : Json → Checked Trigger :=
  readRecord "TriggerSchema" fun ms =>
    valid Trigger.mk
      |>.and (required "type" (readNamed TriggerKind.all TriggerKind.name) ms)
      |>.and (optional "conditions" [] (readList readCondition) ms)
      |>.and (optional "schedule" none (nullable readSchedule) ms)
      |>.ensure unfitTrigger?

/-! ### Tasks -/

/-- Recipients: a list of texts, or one text. Faults of the list come before
the one that it is no text either. -/
def readRecipients : Json → Checked (List String)
  | .str s => .valid [s]
  | v =>
    match readList readText v with
    | .valid texts => .valid texts
    | .invalid faults =>
      .invalid ((faults.map fun f => { f with path := .name "list[str]" :: f.path })
        ++ [⟨[.name "str"], .notText⟩])

def readEmail (ms : Members) : Checked Task :=
  valid Task.email
    |>.and (optional "to" [] readRecipients ms)
    |>.and (optional "subject" "" readText ms)
    |>.and (optional "body" "" readText ms)

def readNotification (ms : Members) : Checked Task :=
  valid Task.notification
    |>.and (optional "userId" none (nullable readText) ms)
    |>.and (optional "title" "" readText ms)
    |>.and (optional "message" "" readText ms)
    |>.and (optional "priority" none (nullable readText) ms)

def readWebhook (ms : Members) : Checked Task :=
  valid Task.webhook
    |>.and (optional "url" none (nullable readText) ms)
    |>.and (optional "method" "POST" readText ms)
    |>.and (optional "headers" [] (fun v => (readObject v).andThen readTextMembers) ms)
    |>.and (optional "body" .null valid ms)

def readUpdate (ms : Members) : Checked Task :=
  valid Task.update
    |>.and (optional "entity" none (nullable readText) ms)
    |>.and (optional "entityId" none (nullable readText) ms)
    |>.and (optional "updates" [] readObject ms)

def readCreate (ms : Members) : Checked Task :=
  valid Task.create
    |>.and (optional "entityType" none (nullable readText) ms)
    |>.and (optional "data" [] readObject ms)

def readApproval (ms : Members) : Checked Task :=
  valid Task.approval
    |>.and (optional "approvers" [] (readList readText) ms)
    |>.and (optional "requiredApprovals" 1 (readBounded 1 none) ms)
    |>.and (optional "timeout" none (nullable (readBounded 0 none)) ms)

def readDelay (ms : Members) : Checked Task :=
  valid Task.delay |>.and (optional "duration" 0 (readBounded 0 none) ms)

/-- The reader of a task's configuration, and the name of that record, by the
kind of task. -/
def taskReader? : String → Option (String × (Members → Checked Task))
  | "email" => some ("EmailConfig", readEmail)
  | "notification" => some ("NotificationConfig", readNotification)
  | "webhook" => some ("WebhookConfig", readWebhook)
  | "update" => some ("UpdateConfig", readUpdate)
  | "create" => some ("CreateConfig", readCreate)
  | "approval" => some ("ApprovalConfig", readApproval)
  | "delay" => some ("DelayConfig", readDelay)
  | _ => none

/-! ### Actions -/

def readPolicy (ms : Members) : Checked Policy :=
  valid Policy.mk
    |>.and (optional "order" 0 readInteger ms)
    |>.and (optional "continueOnError" false readBoolean ms)

/-- The task of an action; without a configuration it has that of no fields. -/
def readTask (record : String) (read : Members → Checked Task) (ms : Members) : Checked Task :=
  match ms.lookup "config" with
  | some v => (readRecord record read v).within (.name "config")
  | none => read []

/-- What a branch is configured with. -/
structure Branching where
  condition : Option Condition := none
  thenActions : List Action := []
  elseActions : List Action := []

def Branching.toAction (policy : Policy) (b : Branching) : Action :=
  .branch policy b.condition b.thenActions b.elseActions

mutual

def readAction : Json → Checked Action
  | .obj ms =>
    match ms.lookup "type" with
    | none => fault .kindMissing
    | some (.str "condition") =>
      Checked.within (.name "condition")
        (valid Branching.toAction
          |>.and (readPolicy ms)
          |>.and ((readBranching ms).getD (valid {})))
    | some (.str kind) =>
      match taskReader? kind with
      | some (record, read) =>
        Checked.within (.name kind)
          (valid Action.task |>.and (readPolicy ms) |>.and (readTask record read ms))
      | none => fault (.kindUnknown kind)
    | some v => fault (.kindUnknown v.described)
  | _ => fault .notAction

/-- The configuration of a branch among the members of an action. -/
def readBranching : List (String × Json) → Option (Checked Branching)
  | [] => none
  | (key, v) :: rest =>
    if key == "config" then some ((readBranchingOf v).within (.name key)) else readBranching rest

def readBranchingOf : Json → Checked Branching
  | .obj ms =>
    valid Branching.mk
      |>.and (optional "condition" none (nullable readCondition) ms)
      |>.and (((readBranch "thenActions" ms).or (readBranch "then_actions" ms)).getD (valid []))
      |>.and (((readBranch "elseActions" ms).or (readBranch "else_actions" ms)).getD (valid []))
  | _ => fault (.notRecord "ConditionConfig")

/-- The actions in the member of the name. -/
def readBranch (name : String) : List (String × Json) → Option (Checked (List Action))
  | [] => none
  | (key, v) :: rest =>
    if key == name then some ((readActions v).within (.name key)) else readBranch name rest

def readActions : Json → Checked (List Action)
  | .arr items => readActionItems 0 items
  | _ => fault .notList

/-- The actions of a list from an index on. -/
def readActionItems (index : Nat) : List Json → Checked (List Action)
  | [] => valid []
  | x :: xs =>
    valid List.cons
      |>.and ((readAction x).within (.index index))
      |>.and (readActionItems (index + 1) xs)

end

/-- Actions that stand alone, in the member `actions` of a document; null and
empty values stand for no actions. -/
def readProgram (v : Json) : Checked (List Action) :=
  (readActions (if v.isGiven then v else .arr [])).within (.name "actions")

/-! ### Workflows -/

def readLastError : Json → Checked LastError :=
  readRecord "LastErrorSchema" fun ms =>
    valid LastError.mk
      |>.and (required "message" readText ms)
      |>.and (required "timestamp" readTimestamp ms)
      |>.and (optional "details" none (nullable readText) ms)

def readStats : Json → Checked Stats :=
  readRecord "WorkflowStatsSchema" fun ms =>
    valid Stats.mk
      |>.and (optional "totalExecutions" 0 readInteger ms)
      |>.and (optional "successfulExecutions" 0 readInteger ms)
      |>.and (optional "failedExecutions" 0 readInteger ms)
      |>.and (optional "lastExecutedAt" none (nullable readTimestamp) ms)
      |>.and (optional "lastError" none (nullable readLastError) ms)

/-- The longest name of a workflow. -/
def nameLength : Nat := 255

/-- A workflow; its id is empty if the document has none. -/
def readWorkflow : Json → Checked Workflow :=
  readRecord "WorkflowDefinition" fun ms =>
    valid (fun id storeId organizationId name description tags version trigger actions isActive
        isDeleted stats createdBy createdAt =>
        (⟨Option.getD id "", storeId, organizationId, name, description, tags, version, trigger,
          actions, isActive, isDeleted, stats, createdBy, createdAt⟩ : Workflow))
      |>.and (optional "id" none (nullable readText) ms)
      |>.and (required "storeId" (readSizedText 1 none) ms)
      |>.and (optional "organizationId" none (nullable readText) ms)
      |>.and (required "name" (readSizedText 1 (some nameLength)) ms)
      |>.and (optional "description" none (nullable readText) ms)
      |>.and (optional "tags" [] (readList readText) ms)
      |>.and (optional "version" 1 (readBounded 1 none) ms)
      |>.and (required "trigger" readTrigger ms)
      |>.and (optional "actions" [] readActions ms)
      |>.and (optional "isActive" true readBoolean ms)
      |>.and (optional "isDeleted" false readBoolean ms)
      |>.and (optional "stats" {} readStats ms)
      |>.and (optional "createdBy" none (nullable readText) ms)
      |>.and (optional "createdAt" none (nullable readTimestamp) ms)

end Automation.Document
