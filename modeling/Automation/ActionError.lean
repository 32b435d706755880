/-
# Failures of actions

An action fails in one of six kinds. A failure has a message for people, a
code for programs, and details: the setting that is missing, the target that
was not found, the field that is wrong.

Key definitions: `ErrorKind`, `ActionError`, `ActionError.message`,
`ActionError.code`, `ActionError.details`.
-/
import Automation.Json.Basic

namespace Automation

inductive ErrorKind where
  | configMissing
  | invalidTarget
  | transient
  | cancelled
  | definition
  | internal
deriving DecidableEq, Repr

namespace ErrorKind

def all : List ErrorKind :=
  [.configMissing, .invalidTarget, .transient, .cancelled, .definition, .internal]

def name : ErrorKind → String
  | .configMissing => "config_missing"
  | .invalidTarget => "invalid_target"
  | .transient => "transient"
  | .cancelled => "cancelled"
  | .definition => "definition"
  | .internal => "internal"

end ErrorKind

/-- What made an action fail. -/
inductive ActionError where
  /-- A failure of no particular kind; an empty code means the default one. -/
  | general (message : String) (code : String) (details : Members)
  /-- A transport or a credential is not set up. -/
  | configMissing (message : String) (setting : Option String)
  /-- The record or the person that the action is for cannot be found. -/
  | invalidTarget (message : String) (target : Option String)
  /-- An effect outside failed and may succeed later. -/
  | transient (message : String) (code : String) (details : Members)
  /-- A webhook answered with a status that is no success. -/
  | webhookStatus (status : Int) (url : Option String)
  /-- The execution was cancelled. -/
  | cancelled (message : String)
  /-- The action itself is malformed. -/
  | definition (message : String) (field : Option String)
  /-- Something that no action foresees. -/
  | internal (message : String)

namespace ActionError

/-- The failure of an execution that was cancelled. -/
def cancellation : ActionError := .cancelled "Workflow execution cancelled"

def kind : ActionError → ErrorKind
  | .general .. => .internal
  | .configMissing .. => .configMissing
  | .invalidTarget .. => .invalidTarget
  | .transient .. => .transient
  | .webhookStatus .. => .transient
  | .cancelled .. => .cancelled
  | .definition .. => .definition
  | .internal .. => .internal

def message : ActionError → String
  | .general message _ _ => message
  | .configMissing message _ => message
  | .invalidTarget message _ => message
  | .transient message _ _ => message
  | .webhookStatus status _ => s!"Webhook failed with status {status}"
  | .cancelled message => message
  | .definition message _ => message
  | .internal message => message

/-- The name that a failure goes by in messages. -/
def name : ActionError → String
  | .general .. => "WorkflowActionError"
  | .configMissing .. => "ConfigMissingError"
  | .invalidTarget .. => "InvalidTargetError"
  | .transient .. => "TransientError"
  | .webhookStatus .. => "WebhookFailedError"
  | .cancelled .. => "ExecutionCancelledError"
  | .definition .. => "DefinitionError"
  | .internal .. => "InternalActionError"

def code : ActionError → String
  | .general _ code _ => if code.isEmpty then "WorkflowActionError" else code
  | .configMissing .. => "CONFIG_MISSING"
  | .invalidTarget .. => "INVALID_TARGET"
  | .transient _ code _ => if code.isEmpty then "TransientError" else code
  | .webhookStatus .. => "WEBHOOK_FAILED"
  | .cancelled .. => "CANCELLED"
  | .definition .. => "DEFINITION_ERROR"
  | .internal .. => "INTERNAL_ERROR"

/-- A detail that is left out when it is missing or blank. -/
def detail (key : String) : Option String → Members
  | some value => if value.isEmpty then [] else [(key, .str value)]
  | none => []

def details : ActionError → Members
  | .general _ _ details => details
  | .configMissing _ setting => detail "setting" setting
  | .invalidTarget _ (some target) => [("target", .str target)]
  | .invalidTarget _ none => []
  | .transient _ _ details => details
  | .webhookStatus status url => ("status", .int status) :: detail "url" url
  | .cancelled _ => []
  | .definition _ field => detail "field" field
  | .internal _ => []

end ActionError

end Automation
