/-
# Failures

Everything that can keep an operation from its result: a request that does
not fit, a record that does not exist, a document with faults, a date beyond
the calendar, an action that failed, or something unforeseen outside.

Key definitions: `Failure`, `Failure.name`, `Failure.message`,
`Failure.code?`, `Failure.details`.
-/
import Automation.ActionError
import Automation.Cron.Next
import Automation.Document.Fault
import Automation.Zone.Named

namespace Automation

inductive Failure where
  /-- A failure of no particular kind; an empty code means the default one. -/
  | general (message : String) (code : String) (details : Members)
  /-- A definition or a request that is not acceptable. -/
  | invalid (message : String) (field : Option String)
  | notFound (kind id : String)
  /-- Events need a dispatcher that runs. -/
  | notRunning
  | action (error : ActionError) (kind : Option String)
  | document (faults : List Fault)
  | calendar (error : CalendarError)
  /-- A search for the next reading of a cron expression that ends without one. -/
  | noNextRun
  | zone (error : Zone.NameError)
  /-- An action that has no written form. -/
  | unsupported (name : String)
  /-- A name that is none of a listed set. -/
  | notMember (name set : String)
  /-- A quotient beyond the range of doubles. -/
  | rateTooLarge
  /-- An integer beyond the 64 bits that a table holds. -/
  | integerTooLarge
  /-- A header of mail that would not be one line. -/
  | brokenHeader
  /-- A new id that is no text, by the kind of value that it is. -/
  | idNotText (kind : String)
  /-- Something unforeseen, by its name and its text, if it has one. -/
  | crash (name : String) (text : Option String)

namespace Failure

/-- The failure of a search for the next run. -/
def ofSearch : Cron.SearchError → Failure
  | .noMatch => .noNextRun
  | .calendar (.noMonth day) => .invalid (CalendarError.noMonth day).message (some "dayOfMonth")
  | .calendar e => .calendar e

/-- The name that a failure goes by in messages. -/
def name : Failure → String
  | .general .. => "StoreflowException"
  | .invalid .. => "ValidationException"
  | .notFound .. => "ResourceNotFoundException"
  | .notRunning => "EngineNotRunningException"
  | .action e _ => e.name
  | .document _ => "ValidationError"
  | .calendar (.yearOutOfRange _) => "ValueError"
  | .calendar _ => "OverflowError"
  | .noNextRun => "CroniterBadDateError"
  | .zone (.unknown _) => "ZoneInfoNotFoundError"
  | .zone _ => "ValueError"
  | .unsupported _ => "TypeError"
  | .notMember .. => "ValueError"
  | .rateTooLarge => "OverflowError"
  | .integerTooLarge => "OverflowError"
  | .brokenHeader => "ValueError"
  | .idNotText _ => "TypeError"
  | .crash name _ => name

def message : Failure → String
  | .general message _ _ => message
  | .invalid message _ => message
  | .notFound kind id => kind ++ " not found: " ++ id
  | .notRunning => "Workflow dispatcher is not running"
  | .action e _ => e.message
  | .document faults => "\n".intercalate (faults.map fun f => f.problem.message)
  | .calendar e => e.message
  | .noNextRun => Cron.SearchError.noMatch.message
  | .zone e => e.message
  | .unsupported name => "Unsupported action: " ++ name
  | .notMember name set => Text.quote name ++ " is not a valid " ++ set
  | .rateTooLarge => "integer division result too large for a float"
  | .integerTooLarge => "Python int too large to convert to SQLite INTEGER"
  | .brokenHeader => "Header values may not contain linefeed or carriage return characters"
  | .idNotText kind => "Expected str from cuid_generator, got " ++ kind
  | .crash _ text => text.getD ""

/-- The code that programs know a failure by, if it has one. -/
def code? : Failure → Option String
  | .general _ code _ => some (if code.isEmpty then "StoreflowException" else code)
  | .invalid .. => some "VALIDATION_ERROR"
  | .notFound .. => some "RESOURCE_NOT_FOUND"
  | .notRunning => some "SERVICE_UNAVAILABLE"
  | .action e _ => some e.code
  | _ => none

def details : Failure → Members
  | .general _ _ details => details
  | .invalid _ field => ActionError.detail "field" field
  | .notFound kind id => [("resource_type", .str kind), ("resource_id", .str id)]
  | .action e _ => e.details
  | _ => []

/-- How a failure that nothing foresees reads: its name and its message. -/
def described (f : Failure) : String := f.name ++ ": " ++ f.message

end Failure

end Automation
