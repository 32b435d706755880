/-
# What callers ask of the engine

Callers see the workflows of their store and, if they name one, of their
organization. They run a workflow at once or leave it to the dispatcher, and
look at what became of its executions. The other operations of the engine
write workflows and records.

Key definitions: `Engine.visible`, `Engine.runManual`, `Engine.testRun`,
`Engine.stats`, `Engine.save`, `Engine.setActive`.
-/
import Automation.Engine.Scheduler

namespace Automation.Engine

/-- The workflow with an id, if there is one. -/
def get (e : Engine) (id : String) : Except Failure (Option Workflow) :=
  e.world.through .get (e.world.table.get id)

/-- The workflow with an id, if a store and an organization may see it. -/
def visible (e : Engine) (id storeId : String) (organizationId : Option String) :
    Except Failure Workflow := do
  match ← e.get id with
  | some w =>
    if w.isVisibleTo storeId organizationId then return w else throw (.notFound "Workflow" id)
  | none => throw (.notFound "Workflow" id)

/-- Leaves one run of a workflow to the dispatcher. -/
def runManual (e : Engine) (id : String) (payload : Json) (ctx : Context) :
    Except Failure Workflow × Engine :=
  match e.visible id ctx.storeId ctx.organizationId with
  | .error f => (.error f, e)
  | .ok w =>
    if w.isExecutable then (.ok w, (e.enqueue (.run w.id payload ctx)).2)
    else (.error (.notFound "Workflow" id), e)

/-- Runs a workflow at once, even one that is not active. -/
def testRun (e : Engine) (id : String) (payload : Json) (ctx : Context) :
    Except Failure ExecutionResult × Engine :=
  match e.visible id ctx.storeId ctx.organizationId with
  | .error f => (.error f, e)
  | .ok w => e.execute w payload ctx

/-- What became of the executions of a workflow. -/
def stats (e : Engine) (id storeId : String) (organizationId : Option String) :
    Except Failure Stats :=
  (e.visible id storeId organizationId).map (·.stats)

/-- The context of a caller, with a new token. -/
def contextFor (e : Engine) (storeId : String) (organizationId userId : Option String)
    (extra : Members) : Context × Engine :=
  let (token, e) := e.newToken
  ({ storeId, organizationId, userId, hasChannel := e.hasChannel, token, extra }, e)

/-! ### Writes -/

/-- A write to the table that gives a value, or a failure that leaves all as it was. -/
def write {α : Type} (e : Engine) (result : Except Failure (α × Table)) : Except Failure α × Engine :=
  match result with
  | .ok (a, table) => (.ok a, { e with world := { e.world with table } })
  | .error f => (.error f, e)

def save (e : Engine) (w : Workflow) : Except Failure Workflow × Engine :=
  e.write (e.world.through .save (e.world.table.save e.zone e.world.clock w))

/-- Switches a workflow on or off. -/
def setActive (e : Engine) (id : String) (active : Bool) : Except Failure Workflow × Engine :=
  e.write (e.world.through .setActive (e.world.through .get (do
    let w ← e.world.table.undeleted id
    e.world.through .save (e.world.table.save e.zone e.world.clock { w with isActive := active }))))

def softDelete (e : Engine) (id : String) : Except Failure Unit × Engine :=
  e.write ((e.world.through .softDelete (e.world.table.softDelete id)).map ((), ·))

def setNextRun (e : Engine) (id : String) (nextRun : Option Instant) : Except Failure Unit × Engine :=
  e.write ((e.world.through .setNextRun (.ok (e.world.table.setNextRun id nextRun))).map ((), ·))

/-- Counts an execution that ended at an instant, or now. -/
def recordExecution (e : Engine) (id : String) (success : Bool) (error : Option LastError)
    (endedAt : Option Instant) : Except Failure Unit × Engine :=
  e.write ((e.world.through .record
    (e.world.table.record id success error (endedAt.getD e.world.clock))).map ((), ·))

/-- Records an outcome, as executions do: that it cannot be counted is no failure. -/
def recordOutcome (e : Engine) (id : String) (success : Bool) (failure : Option Failure)
    (raised : Bool) : Except Failure Unit × Engine :=
  match e.world.outage? .recorder with
  | some f => (.error f, e)
  | none =>
    let last :=
      if success then none
      else failure.bind fun f => LastError.ofFailure f raised e.world.clock
    (.ok (), (e.recordExecution id success last none).2)

/-- A write to the records that gives a record. -/
def writeRecord (e : Engine) (result : Except Failure (Record × Records)) :
    Except Failure Record × Engine :=
  match result with
  | .ok (r, records) => (.ok r, { e with world := { e.world with records } })
  | .error f => (.error f, e)

def updateRecord (e : Engine) (kind : EntityKind) (id : String) (patch : Members) :
    Except Failure Record × Engine :=
  e.writeRecord (e.world.records.update kind id patch)

/-- The engine once the next id is given out. -/
def spendId (e : Engine) : Engine := { e with world := { e.world with ids := e.world.ids + 1 } }

def createRecord (e : Engine) (kind : EntityKind) (data : Members) : Except Failure Record × Engine :=
  match e.writeRecord (e.world.records.create e.world.newId kind data) with
  | (.ok r, e) => (.ok r, e.spendId)
  | failed => failed

/-- A workflow with an id: a new one if it has none. -/
def identified (e : Engine) (w : Workflow) : Workflow × Engine :=
  if w.id.isEmpty then ({ w with id := e.world.newId }, e.spendId) else (w, e)

/-- Takes a part out of order, or puts it in order again. -/
def setOutage (e : Engine) (part : Part) (failure : Option Failure) : Engine :=
  let others := e.world.outages.filter (·.1 != part)
  { e with world := { e.world with
    outages := (failure.map fun f => (part, f)).toList ++ others } }

/-- The engine some time later. -/
def later (e : Engine) (micros : Int) : Except Failure Unit × Engine :=
  match e.world.later micros with
  | .ok world => (.ok (), { e with world })
  | .error f => (.error f, e)

end Automation.Engine
