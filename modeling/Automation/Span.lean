/-
# Spans

A span is a record of a piece of work: its name, its attributes, how it
ended, and the exceptions that were noted. Of the arguments of the work only
those with well known names are noted, as text; payloads never are.

Key definitions: `Span`, `Span.argumentNames`, `Span.ofWork`.
-/
import Automation.Failure
import Automation.Json.Described
import Automation.Text.Case

namespace Automation

structure Span where
  name : String
  attributes : Members
  /-- What the work failed with. -/
  failure : Option Failure

namespace Span

/-- The names of arguments that are noted, in lower case. -/
def argumentNames : List String :=
  ["workflow_id", "store_id", "event_type", "trigger_type", "action_type", "kind", "entity_id",
    "count", "depth"]

/-- The attributes of the arguments that are noted. -/
def noted (arguments : Members) : Members :=
  (arguments.filter fun (k, _) =>
    k.toList.head? != some '_' && argumentNames.contains (Text.toLower k)).map
      fun (k, v) => ("arg." ++ k, .str v.described)

/-- The span of work: its attributes are those given, then those of its
arguments, then those that the work adds. -/
def ofWork (name : String) (given arguments added : Members) (failure : Option Failure) : Span where
  name := name
  attributes := Members.merge (Members.merge given (noted arguments)) added
  failure := failure

/-- The status of the span. -/
def status (s : Span) : String := if s.failure.isSome then "ERROR" else "OK"

/-- The description of the status: the name and the message of a failure. -/
def description (s : Span) : Option String := s.failure.map (·.described)

/-- The messages of the exceptions: a failure is noted by the work and once
more when the span ends. -/
def exceptions (s : Span) : List String :=
  match s.failure with
  | some f => [f.message, f.message]
  | none => []

end Span

end Automation
