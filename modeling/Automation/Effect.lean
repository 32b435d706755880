/-
# Effects

What actions ask for outside the engine: mail to send, webhooks to call,
messages to emit to a room, time to pass, records to find, to write and to
create. To update a record is to find it and to write it.
An execution also asks for its outcome to be recorded, a scheduled one for
its next run to be set. A request is answered by a reply.

Key definitions: `Mail`, `WebhookCall`, `Emission`, `Request`, `Reply`.
-/
import Automation.EntityKind
import Automation.Failure
import Automation.Workflow

namespace Automation

structure Mail where
  recipients : List String
  subject : String
  html : String
  /-- The sender; the mail transport fills in its own if there is none. -/
  sender : Option String := none
deriving DecidableEq, Repr

structure WebhookCall where
  method : String
  url : String
  headers : List (String × String)
  body : Option String
deriving DecidableEq, Repr

/-- A message to everyone in a room. -/
structure Emission where
  room : String
  event : String
  payload : Members

inductive Request where
  | send (mail : Mail)
  | call (call : WebhookCall)
  | emit (emission : Emission)
  | sleep (seconds : Double)
  | find (kind : EntityKind) (id : String)
  /-- A record gets other fields. -/
  | write (kind : EntityKind) (id : String) (fields : Members)
  | create (kind : EntityKind) (data : Members)
  /-- The outcome of an execution, which ended at an instant. -/
  | record (workflowId : String) (success : Bool) (error : Option LastError) (endedAt : Instant)
  | setNextRun (workflowId : String) (nextRun : Option Instant)

namespace Request

/-- Whether a request is answered at once; those that write to the tables wait. -/
def isPrompt : Request → Bool
  | .send _ | .call _ | .emit _ | .sleep _ | .find .. => true
  | _ => false

end Request

inductive Reply where
  | done
  /-- A webhook answered with a status that is a success. -/
  | status (code : Int)
  /-- A record that was found has these fields. -/
  | found (fields : Members)
  /-- A record was created, which is this now. -/
  | record (fields : Members)
  | failed (failure : Failure)
  /-- The execution was cancelled before an answer came. -/
  | cancelled

end Automation
