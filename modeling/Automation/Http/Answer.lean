/-
# Answers to requests

A request is answered with a status and a JSON value. Its body is read
first; then the engine has to be there, then the caller has to name a store,
then the body has to be an object; only then the engine is asked. A failure
is answered with its code, its message and its details.

Key definitions: `Http.Request`, `Http.Response`, `Http.ofFailure`,
`Http.handle`.
-/
import Automation.Document.Writing
import Automation.Engine.Requests
import Automation.Http.Route
import Automation.Json.Reader
import Automation.Text.Blank
import Automation.Text.Case

namespace Automation.Http

/-- The body of a request: text, or a value that is sent as such. -/
inductive Body where
  | none
  | value (v : Json)
  | text (s : String)

structure Request where
  method : String
  address : String
  headers : List (String × String) := []
  body : Body := .none

structure Response where
  status : Nat
  body : Json

/-! ### Failures -/

/-- The status of a failure with a code. -/
def statusOf (code : String) : Nat :=
  match code with
  | "RESOURCE_NOT_FOUND" => 404
  | "CONFIG_MISSING" | "SERVICE_UNAVAILABLE" => 503
  | _ => 400

/-- The answer to a request that fails for no reason of its own. -/
def internalError : Response :=
  ⟨500, .obj [("error", .str "INTERNAL_ERROR"), ("message", .str "Internal server error")]⟩

/-- The answer to a request that fails. -/
def ofFailure (f : Failure) : Response :=
  match f.code? with
  | some code =>
    ⟨statusOf code, .obj [("error", .str code), ("message", .str f.message),
      ("details", .obj f.details)]⟩
  | none => internalError

/-- The answer to a request that has no place. -/
def refused (status : Nat) (message : String) : Response :=
  ⟨status, .obj [("error", .str "HTTP_ERROR"), ("message", .str message)]⟩

/-- The answer to a request whose body is not acceptable; what cannot be
written back fails. -/
def unprocessable (detail : Members) : Response :=
  let body := Json.obj [("error", .str "VALIDATION_ERROR"),
    ("message", .str "Request validation failed"), ("details", .arr [.obj detail])]
  if body.isFinite then ⟨422, body⟩ else internalError

/-! ### Parts of a request -/

/-- The value of a header, by its name in any case. -/
def Request.header? (r : Request) (name : String) : Option String :=
  (r.headers.find? fun h => Text.toLower h.1 == Text.toLower name).map (·.2)

def storeHeader : String := "X-Store-ID"

/-- Who asks. -/
structure Scope where
  storeId : String
  organizationId : Option String
  userId : Option String

/-- The value of a header that is not empty. -/
def Request.given? (r : Request) (name : String) : Option String :=
  (r.header? name).filter (!·.isEmpty)

/-- The caller of a request, who has to name a store. -/
def Request.scope (r : Request) : Except Failure Scope :=
  let store := Text.trimmed ((r.header? storeHeader).getD "")
  if store.isEmpty then
    .error (.invalid (storeHeader ++ " header is required") (some storeHeader))
  else .ok ⟨store, r.given? "X-Organization-ID", r.given? "X-User-ID"⟩

/-- Text without the byte order mark at its start. -/
def withoutMark (s : String) : String :=
  match s.toList with
  | '\ufeff' :: cs => String.ofList cs
  | _ => s

/-- The value of the body; null for none. -/
def Request.content (r : Request) : Except Response Json :=
  match r.body with
  | .none => .ok .null
  | .value v => .ok v
  | .text s =>
    if s.isEmpty then .ok .null
    else
      match Json.read (withoutMark s) with
      | .ok v => .ok v
      | .error (fault, position) =>
        .error (unprocessable [("type", .str "json_invalid"),
          ("loc", .arr [.str "body", .int position]), ("msg", .str "JSON decode error"),
          ("input", .obj []), ("ctx", .obj [("error", .str fault.message)])])

/-- The payload in a body: an object, or none. -/
def payloadOf : Json → Except Response Json
  | .null => .ok (.obj [])
  | .obj members => .ok (.obj members)
  | v =>
    .error (unprocessable [("type", .str "dict_type"), ("loc", .arr [.str "body"]),
      ("msg", .str "Input should be a valid dictionary"), ("input", v)])

/-! ### Answers -/

def readiness (ready : Bool) (pending : Nat) : Response :=
  ⟨if ready then 200 else 503, .obj [("status", .str (if ready then "ok" else "not_ready")),
    ("engine_running", .bool ready), ("pending_events", .int pending)]⟩

def triggerEntry (t : TriggerInfo) : Json :=
  .obj [("type", .str t.kind.name), ("label", .str t.label), ("description", .str t.description),
    ("availableFields", Json.ofTexts t.availableFields)]

def traceEntry (t : TraceEntry) : Json :=
  .obj [("actionType", .str t.action), ("status", .str t.status.name), ("depth", .int t.depth),
    ("error", Json.ofText? (t.error.map (·.message))),
    ("result", (t.result.map Json.obj).getD .null)]

def executionResult (r : ExecutionResult) : Json :=
  .obj [("workflowId", .str r.workflowId), ("success", .bool r.isSuccess),
    ("error", Json.ofText? (r.error.map (·.message))),
    ("errorKind", Json.ofText? (r.error.map (·.kind.name))),
    ("trace", .arr (r.trace.map traceEntry))]

/-- The answer with a value, or to a failure. -/
def respond (status : Nat) : Except Failure Json → Response
  | .ok body => ⟨status, body⟩
  | .error f => ofFailure f

/-- The payload and the context of a request that runs a workflow. -/
def runParts (e : Engine) (r : Request) (content : Json) :
    Except Response (Json × Context × Engine) :=
  match r.scope with
  | .error f => .error (ofFailure f)
  | .ok scope => do
    let payload ← payloadOf content
    let (ctx, e) := e.contextFor scope.storeId scope.organizationId scope.userId []
    return (payload, ctx, e)

/-- The answer to a request that the engine has to be asked for. -/
def askEngine (e : Engine) (r : Request) (content : Json) : Route → Response × Engine
  | .trigger id =>
    match runParts e r content with
    | .error answer => (answer, e)
    | .ok (payload, ctx, e) =>
      let (result, e) := e.runManual id payload ctx
      (respond 202 (result.map fun w => .obj [("message", .str "Workflow triggered successfully"),
        ("workflowId", .str w.id)]), e)
  | .test id =>
    match runParts e r content with
    | .error answer => (answer, e)
    | .ok (payload, ctx, e) =>
      let (result, e) := e.testRun id payload ctx
      (respond 200 (result.map executionResult), e)
  | .stats id =>
    (respond 200 (do
      let scope ← r.scope
      Document.writeStatsAnswer (← e.stats id scope.storeId scope.organizationId)), e)
  | .ready => (readiness e.started (if e.started then e.dispatcher.pending.length else 0), e)
  | .health => (⟨200, .obj [("status", .str "ok")]⟩, e)
  | .triggers => (⟨200, .arr (TriggerInfo.catalog.map triggerEntry)⟩, e)

/-- The answer of a service that has no engine. -/
def withoutEngine : Route → Response
  | .ready => readiness false 0
  | .health => ⟨200, .obj [("status", .str "ok")]⟩
  | .triggers => ⟨200, .arr (TriggerInfo.catalog.map triggerEntry)⟩
  | _ => ofFailure .notRunning

/-- The answer to a request with a route. -/
def answerRoute (e : Engine) (hasEngine : Bool) (r : Request) (route : Route) : Response × Engine :=
  let content := if route.method == "POST" then r.content else .ok .null
  match content with
  | .error answer => (answer, e)
  | .ok content => if hasEngine then askEngine e r content route else (withoutEngine route, e)

/-- Answers a request; `hasEngine` tells whether the service has its engine. -/
def handle (e : Engine) (hasEngine : Bool) (r : Request) : Response × Engine :=
  let path := decodedPath r.address
  match Route.ofPath? path with
  | some route =>
    if Text.toUpper r.method == route.method then answerRoute e hasEngine r route
    else (refused 405 "Method Not Allowed", e)
  | none =>
    match Route.ofSlashedPath? path with
    | some _ => (⟨307, .null⟩, e)
    | none => (refused 404 "Not Found", e)

end Automation.Http
