/-
# The engine

The engine holds the world, the queue of the dispatcher, and the executions
in progress: those of callers that wait for a result, those of jobs, and
those that a schedule launched. All of them run side by side whenever the
engine waits for something (`Engine.settle`).

Key definitions: `Job`, `Owner`, `Execution`, `Engine`, `Engine.settle`,
`Engine.executeAll`.
-/
import Automation.Engine.Dispatcher
import Automation.Process.Fiber
import Automation.Run.Execution
import Automation.World

namespace Automation

/-- What workers take from the queue: an event, or one run of a workflow. -/
inductive Job where
  | event (name : String) (payload : Json) (ctx : Context)
  | run (workflowId : String) (payload : Json) (ctx : Context)

namespace Job

def payload : Job → Json
  | .event _ payload _ => payload
  | .run _ payload _ => payload

def context : Job → Context
  | .event _ _ ctx => ctx
  | .run _ _ ctx => ctx

end Job

/-- On whose behalf an execution runs. -/
inductive Owner where
  | caller
  | job (number : Nat)
  | schedule
deriving DecidableEq, Repr

structure ExecutionLabel where
  owner : Owner
  workflowId : String
deriving DecidableEq, Repr

abbrev Execution := Fiber ExecutionLabel (Except Failure ExecutionResult)

structure Engine where
  world : World
  zone : Zone := .utc
  runner : Runner := {}
  /-- Whether there is a channel for notifications. -/
  hasChannel : Bool := true
  started : Bool := false
  dispatcher : Dispatcher Job := {}
  /-- The executions in progress. -/
  executions : List Execution := []
  /-- The number of tokens given out so far. -/
  tokens : Nat := 0

namespace Engine

/-- What executes workflows, as the world is now. -/
def executor (e : Engine) : Executor where
  runner := e.runner
  runFailure := e.world.outage? .runner
  recordFailure := e.world.outage? .recorder

/-- A new token. -/
def newToken (e : Engine) : Token × Engine := (e.tokens, { e with tokens := e.tokens + 1 })

/-- Launches an execution. -/
def launch (e : Engine) (label : ExecutionLabel) (token : Token)
    (p : Process (Except Failure ExecutionResult)) : Engine :=
  { e with executions := e.executions ++ [.start label token p] }

/-- Launches an execution of each of some workflows for an event. -/
def launchAll (e : Engine) (owner : Owner) (ws : List Workflow) (payload : Json) (ctx : Context) :
    Engine :=
  ws.foldl (fun e w => e.launch ⟨owner, w.id⟩ ctx.token (e.executor.execute w payload ctx)) e

/-- Runs all executions until each has a result or waits. -/
def settle (e : Engine) : Engine :=
  let (executions, world) := Fiber.settle World.environment e.executions e.world
  { e with executions, world }

/-- The executions of an owner. -/
def executionsOf (e : Engine) (owner : Owner) : List Execution :=
  e.executions.filter (·.label.owner == owner)

/-- Forgets the executions of an owner. -/
def forget (e : Engine) (owner : Owner) : Engine :=
  { e with executions := e.executions.filter (·.label.owner != owner) }

/-- Executes workflows side by side for an event and waits for them. -/
def executeAll (e : Engine) (ws : List Workflow) (payload : Json) (ctx : Context) :
    List (Except Failure ExecutionResult) × Engine :=
  let e := (e.launchAll .caller ws payload ctx).settle
  ((e.executionsOf .caller).filterMap (·.result?), e.forget .caller)

/-- Executes one workflow and waits for it. -/
def execute (e : Engine) (w : Workflow) (payload : Json) (ctx : Context) :
    Except Failure ExecutionResult × Engine :=
  let (results, e) := e.executeAll [w] payload ctx
  (results.head?.getD (.ok { workflowId := w.id, error := some .cancellation }), e)

/-! ### Events -/

/-- The workflows that an event sets off: the active ones of the store with
its trigger, whose conditions hold. A workflow whose conditions cannot be
evaluated is left out; so is everything if the workflows cannot be read. -/
def matching (e : Engine) (event : String) (payload : Json) (ctx : Context)
    (broken : List Condition → Bool) : List Workflow :=
  match e.world.through .activeFor (e.world.table.activeFor ctx.storeId event) with
  | .ok ws =>
    ws.filter fun w => !broken w.trigger.conditions && Condition.allHold w.trigger.conditions payload
  | .error _ => []

/-- Executes what an event sets off. An execution that ends without a result
is left out of the results. -/
def dispatch (e : Engine) (event : String) (payload : Json) (ctx : Context)
    (broken : List Condition → Bool := fun _ => false) : List ExecutionResult × Engine :=
  let (results, e) := e.executeAll (e.matching event payload ctx broken) payload ctx
  (results.filterMap Except.toOption, e)

/-- Puts a job into the queue, and says whether it was accepted. -/
def enqueue (e : Engine) (job : Job) : Bool × Engine :=
  let (accepted, dispatcher) := e.dispatcher.enqueue job
  (accepted, { e with dispatcher })

/-- The workflows that a job executes. -/
def workflowsOf (e : Engine) : Job → List Workflow
  | .event name payload ctx => e.matching name payload ctx fun _ => false
  | .run id _ _ =>
    match e.world.through .get (e.world.table.get id) with
    | .ok (some w) => if w.isExecutable then [w] else []
    | _ => []

/-- Idle workers take jobs, at most `count` of them. -/
def takeJobs : (count : Nat) → Engine → Engine
  | 0, e => e
  | count + 1, e =>
    match e.dispatcher.take? with
    | none => e
    | some ((number, job), dispatcher) =>
      let e := { e with dispatcher }
      takeJobs count (e.launchAll (.job number) (e.workflowsOf job) job.payload job.context)

/-- Whether all executions of a job have a result. -/
def isDone (e : Engine) (number : Nat) : Bool :=
  (e.executionsOf (.job number)).all (·.result?.isSome)

/-- Finishes the jobs whose executions have their results, and forgets the
scheduled executions that have theirs. -/
def collect (e : Engine) : Engine :=
  let e := { e with executions := e.executions.filter fun f =>
    f.label.owner != Owner.schedule || f.result?.isNone : Engine }
  (e.dispatcher.busy.filter e.isDone).foldl
    (fun e number => { e.forget (.job number) with dispatcher := e.dispatcher.finish number }) e

/-- Settles, and lets workers take jobs, for at most `rounds` rounds. -/
def workRounds : (rounds : Nat) → Engine → Engine
  | 0, e => e.settle.collect
  | rounds + 1, e =>
    let e := e.settle.collect
    match e.dispatcher.take? with
    | none => e
    | some _ => workRounds rounds (takeJobs e.dispatcher.workers e)

/-- Works until no job can be taken and every execution waits. -/
def work (e : Engine) : Engine := workRounds e.dispatcher.pending.length e

/-! ### Starting and stopping -/

def startDispatcher (e : Engine) : Engine := { e with dispatcher := e.dispatcher.start }

def start (e : Engine) : Engine :=
  if e.started then e else { e.startDispatcher with started := true }

/-- Records that an execution was cancelled. -/
def recordCancelled (e : Engine) (id : String) : Engine :=
  let (_, world) := (e.executor.record id (some .cancellation)).run World.environment 0 e.world
  { e with world }

/-- Stops the engine: the executions of jobs are given up and recorded as
cancelled, and the jobs that wait are thrown away. -/
def stop (e : Engine) : Engine :=
  let isOfJob (f : Execution) : Bool := e.dispatcher.busy.any fun n => f.label.owner == .job n
  let given := (e.executions.filter fun f => isOfJob f && f.result?.isNone).map (·.label.workflowId)
  let e := given.foldl recordCancelled
    { e with executions := e.executions.filter fun f => !isOfJob f }
  { e with started := false, dispatcher := e.dispatcher.stop }

end Engine

end Automation
