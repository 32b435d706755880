/-
# Tasks

A task renders its texts with the values of the event and the context, makes
sure that it has a target, and makes one request; an update makes two, since it
finds its record first. A task that cannot be carried out fails before any
request.

Key definitions: `Runner`, `Task.process`.
-/
import Automation.Display
import Automation.Records
import Automation.Run.Context
import Automation.Run.Trace

namespace Automation

/-- What runs can rely on. -/
structure Runner where
  /-- Whether mail can be sent. -/
  hasMailer : Bool := true
  /-- How deep branches may be nested. -/
  maxDepth : Int := 16

/-- What a task comes to: its status with its result, or its failure. -/
abbrev Task.Result := Except ActionError (ActionStatus × Members)

namespace Task

/-- The failure of an action that something else failed in. -/
def failureOf : Failure → ActionError
  | .action e _ => e
  | f => .internal f.described

/-- The result of a task whose request succeeds with a reply. -/
def afterReply (result : Reply → Members) : Reply → Result
  | .failed f => .error (failureOf f)
  | .cancelled => .error .cancellation
  | reply => .ok (.success, result reply)

/-- A task that makes one request. -/
def request (r : Request) (result : Reply → Members) : Process Result :=
  (Process.perform r).map (afterReply result)

/-- A task that fails. -/
def fail (e : ActionError) : Process Result := .done (.error e)

/-- A target in use: one that is neither empty nor has a placeholder left. -/
def isTarget (id : String) : Bool := !id.isEmpty && !Template.hasMarks id

/-- The failure of a task whose target is none. -/
def noTarget (message id : String) : ActionError :=
  .invalidTarget message (if id.isEmpty then none else some id)

def sendEmail (runner : Runner) (bindings : Bindings) (addresses : List String) (subject body : String) :
    Process Result :=
  if !runner.hasMailer then
    fail (.configMissing "Email transport not configured" (some "MAIL_HOST"))
  else
    let recipients := (addresses.filter (!·.isEmpty)).map (Template.render bindings)
    if recipients.isEmpty then
      fail (.definition "Email action requires at least one recipient" (some "to"))
    else
      request (.send ⟨recipients, Template.render bindings subject, Template.render bindings body, none⟩)
        fun _ => [("recipients", Json.ofTexts recipients)]

/-- The text, or another one if it is missing or empty. -/
def orElse (text : Option String) (default : String) : String :=
  match text with
  | some s => if s.isEmpty then default else s
  | none => default

def emitNotification (ctx : Context) (bindings : Bindings) (user : Option String)
    (title message : String) (priority : Option String) : Process Result :=
  if !ctx.hasChannel then .done (.ok (.success, [("delivered", .bool false)]))
  else
    let userId := Template.render bindings (user.getD "")
    if !isTarget userId then
      fail (noTarget "Notification action requires a resolvable userId" userId)
    else
      .clock fun now =>
        let payload : Members :=
          [("title", .str (Template.render bindings title)),
            ("message", .str (Template.render bindings message)),
            ("priority", .str (orElse priority "normal")), ("timestamp", .str now.isoText),
            ("source", .str "workflow")]
        request (.emit ⟨"user:" ++ userId, "notification", payload⟩)
          fun _ => [("userId", .str userId), ("delivered", .bool true)]

/-- The headers of a webhook: those of its definition count, rendered. -/
def webhookHeaders (bindings : Bindings) (headers : List (String × String)) :
    List (String × String) :=
  let set (acc : List (String × String)) (header : String × String) : List (String × String) :=
    let value := Template.render bindings header.2
    if acc.any (·.1 == header.1) then
      acc.map fun kept => if kept.1 == header.1 then (kept.1, value) else kept
    else acc ++ [(header.1, value)]
  headers.foldl set [("Content-Type", "application/json")]

/-- The body of a webhook: text as it is rendered, any other value as JSON
text that is rendered. -/
def webhookBody (bindings : Bindings) : Json → Option String
  | .null => none
  | .str s => some (Template.render bindings s)
  | v => some (Template.render bindings v.render)

def callWebhook (bindings : Bindings) (url : Option String) (method : String)
    (headers : List (String × String)) (body : Json) : Process Result :=
  let url := Template.render bindings (url.getD "")
  if url.isEmpty then fail (.definition "Webhook action requires a url" (some "url"))
  else
    let method := Text.toUpper (if method.isEmpty then "POST" else method)
    request (.call ⟨method, url, webhookHeaders bindings headers, webhookBody bindings body⟩)
      fun
        | .status code => [("status", .int code)]
        | _ => []

/-- A reply to an update: a record that does not exist is no target. -/
def updateReply (id : String) : Reply → Reply
  | .failed (.notFound kind missing) =>
    .failed (.action (.invalidTarget (Failure.notFound kind missing).message (some id)) none)
  | reply => reply

/-- What an update goes on with: a record that was found is written with the
fields of a patch set, if that changes them. -/
def writeFound (kind : EntityKind) (id : String) (patch : Members) : Reply → Process Reply
  | .found fields =>
    if Record.changes fields patch then .perform (.write kind id (Record.merged fields patch))
    else .done .done
  | reply => .done reply

def updateRecord (bindings : Bindings) (entity id : Option String) (updates : Members) : Process Result :=
  match EntityKind.parse entity with
  | .error e => fail e
  | .ok kind =>
    let target := Template.render bindings (id.getD "")
    if !isTarget target then
      fail (noTarget s!"Update action requires a resolvable entityId for {kind.name}" target)
    else
      let patch := Template.renderMembers bindings updates
      let fields := (patch.map (·.1)).mergeSort fun a b => a ≤ b
      ((Process.perform (.find kind target)).bind (writeFound kind target patch)).map fun reply =>
        afterReply (fun _ => [("entity", .str kind.name), ("entityId", .str target),
          ("fields", Json.ofTexts fields)]) (updateReply target reply)

def createRecord (ctx : Context) (bindings : Bindings) (entity : Option String) (data : Members) :
    Process Result :=
  match EntityKind.parse entity with
  | .error e => fail e
  | .ok kind =>
    let fields := (Template.renderMembers bindings data).put "storeId" (.str ctx.storeId)
    request (.create kind fields) fun
      | .record record =>
        [("entity", .str kind.name), ("entityId", (record.lookup "id").getD .null)]
      | _ => []

/-- A task that sleeps for some milliseconds, which are so many seconds, if
these are not beyond the range of doubles. -/
def sleepFor (milliseconds : Int) : (seconds : Option Double) → Process Result
  | some seconds => request (.sleep seconds) fun _ => [("durationMs", .int milliseconds)]
  | none => fail (failureOf .rateTooLarge)

/-- A task that lets time pass. -/
def letPass (milliseconds : Int) : Process Result :=
  sleepFor (max milliseconds 0) (Double.ofQuotient? (max milliseconds 0) 1000)

/-- What a task does for an event in a context. -/
def process (runner : Runner) (ctx : Context) (payload : Json) : Task → Process Result
  | .email addresses subject body => sendEmail runner (ctx.bindings payload) addresses subject body
  | .notification user title message priority =>
    emitNotification ctx (ctx.bindings payload) user title message priority
  | .webhook url method headers body => callWebhook (ctx.bindings payload) url method headers body
  | .update entity id updates => updateRecord (ctx.bindings payload) entity id updates
  | .create entity data => createRecord ctx (ctx.bindings payload) entity data
  | .approval approvers _ _ => .done (.ok (.unimplemented, [("approvers", Json.ofTexts approvers)]))
  | .delay milliseconds => letPass milliseconds
  | .unknown name => fail (.definition ("Unsupported action: " ++ name) (some "type"))

end Task

end Automation
