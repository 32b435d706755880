/-
# The world that executions act on

A world has a clock that moves only when something sleeps, the tables, and
an outside: a mail transport, webhooks and a channel, each with the way it
behaves. It keeps a log of the effects that went outside. A part of the
tables may be out of order; what uses it then fails.

Key definitions: `Endpoint`, `Outside`, `Log`, `World`, `World.serve`,
`World.environment`.
-/
import Automation.Calendar.Span
import Automation.Process.Basic
import Automation.Records
import Automation.Table.Basic

namespace Automation

/-- How the webhook at an address behaves. -/
inductive Endpoint where
  | answers (status : Int)
  | fails (failure : Failure)
  /-- Never answers. -/
  | hangs
  /-- Cancels the execution that calls, and never answers. -/
  | cancels
  /-- Cancels the execution that calls, then answers. -/
  | cancelsAndAnswers (status : Int)

/-- How the outside behaves. -/
structure Outside where
  /-- What sending mail fails with, if it does. -/
  mailFailure : Option Failure := none
  /-- What the channel fails with, if it does. -/
  channelFailure : Option Failure := none
  /-- The webhooks, by their address; the others answer with status 200. -/
  endpoints : List (String × Endpoint) := []
  /-- Whether sleep is cut short by a cancellation. -/
  sleepCancels : Bool := false

/-- The effects that went outside, in order. -/
structure Log where
  mails : List Mail := []
  calls : List WebhookCall := []
  emissions : List Emission := []
  sleeps : List Double := []

/-- The parts of the engine that can be out of order. -/
inductive Part where
  | activeFor
  | dueAt
  | ofStore
  | get
  | record
  | save
  | setNextRun
  | setActive
  | softDelete
  | recorder
  | runner
deriving DecidableEq, Repr

structure World where
  clock : Instant
  outside : Outside := {}
  /-- The parts that are out of order, with what they fail with. -/
  outages : List (Part × Failure) := []
  cancelled : List Token := []
  records : Records := {}
  table : Table := {}
  /-- The number of ids given out so far. -/
  ids : Nat := 0
  log : Log := {}
  /-- The number of webhooks that never answered. -/
  hanging : Nat := 0

namespace World

/-- What a part fails with while it is out of order. -/
def outage? (w : World) (part : Part) : Option Failure := w.outages.lookup part

/-- A result of a part, unless the part is out of order. -/
def through (w : World) {α : Type} (part : Part) (result : Except Failure α) : Except Failure α :=
  match w.outage? part with
  | some f => .error f
  | none => result

def cancel (w : World) (token : Token) : World := { w with cancelled := token :: w.cancelled }

/-- The next new id. -/
def newId (w : World) : String := s!"gen-{w.ids + 1}"

/-- The world some time later. -/
def later (w : World) (micros : Int) : Except Failure World :=
  match w.clock.later micros with
  | .ok clock => .ok { w with clock }
  | .error e => .error (.calendar e)

/-- The world in which a webhook was called. -/
def noteCall (w : World) (call : WebhookCall) : World :=
  { w with log := { w.log with calls := w.log.calls ++ [call] } }

/-- The reply of a webhook: only a status from 200 to 299 is a success. -/
def answer (url : String) (status : Int) : Reply :=
  if 200 ≤ status && status ≤ 299 then .status status
  else .failed (.action (.webhookStatus status url) none)

def serveCall (w : World) (token : Token) (call : WebhookCall) : Option Reply × World :=
  let w := w.noteCall call
  match (w.outside.endpoints.lookup call.url).getD (.answers 200) with
  | .answers status => (some (answer call.url status), w)
  | .fails f => (some (.failed f), w)
  | .hangs => (none, { w with hanging := w.hanging + 1 })
  | .cancels => (none, w.cancel token)
  | .cancelsAndAnswers status => (some (answer call.url status), w.cancel token)

def serveSleep (w : World) (token : Token) (seconds : Double) : Option Reply × World :=
  let w := { w with log := { w.log with sleeps := w.log.sleeps ++ [seconds] } }
  if w.outside.sleepCancels then (none, w.cancel token)
  else
    match w.later (microsOfSeconds seconds) with
    | .ok w => (some .done, w)
    | .error f => (some (.failed f), w)

/-- Answers a request of an execution. -/
def serve (token : Token) (request : Request) (w : World) : Option Reply × World :=
  match request with
  | .send mail =>
    match w.outside.mailFailure with
    | some f => (some (.failed f), w)
    | none => (some .done, { w with log := { w.log with mails := w.log.mails ++ [mail] } })
  | .call call => w.serveCall token call
  | .emit emission =>
    match w.outside.channelFailure with
    | some f => (some (.failed f), w)
    | none =>
      (some .done, { w with log := { w.log with emissions := w.log.emissions ++ [emission] } })
  | .sleep seconds => w.serveSleep token seconds
  | .find kind id =>
    match w.records.find kind id with
    | .ok r => (some (.found r.fields), w)
    | .error f => (some (.failed f), w)
  | .write kind id fields => (some .done, { w with records := w.records.write kind id fields })
  | .create kind data =>
    match w.records.create w.newId kind data with
    | .ok (r, records) => (some (.record r.document), { w with records, ids := w.ids + 1 })
    | .error f => (some (.failed f), w)
  | .record id success error endedAt =>
    match w.through .record (w.table.record id success error endedAt) with
    | .ok table => (some .done, { w with table })
    | .error f => (some (.failed f), w)
  | .setNextRun id nextRun =>
    match w.through .setNextRun (.ok (w.table.setNextRun id nextRun)) with
    | .ok table => (some .done, { w with table })
    | .error f => (some (.failed f), w)

/-- The meaning of processes in a world. -/
def environment : Environment World where
  now := clock
  cancelled token w := w.cancelled.contains token
  serve := serve

end World

end Automation
