/-
# The scheduler

At each tick the workflows whose next run has come are launched, unless an
execution that an earlier tick launched is still in progress. When a launched
execution ends, the next run is set from the clock at that moment.

Key definitions: `Engine.tick`, `Engine.inFlight`, `Engine.drain`,
`Engine.stopScheduled`, `Engine.runScheduler`.
-/
import Automation.Engine.Basic

namespace Automation.Engine

/-- The number of scheduled executions in progress. -/
def inFlight (e : Engine) : Nat := (e.executionsOf .schedule).length

/-- Whether a scheduled execution of a workflow is in progress. -/
def isInFlight (e : Engine) (id : String) : Bool :=
  (e.executionsOf .schedule).any (·.label.workflowId == id)

/-- Launches a scheduled execution, with a token of its own. -/
def launchScheduled (e : Engine) (w : Workflow) : Engine :=
  let (token, e) := e.newToken
  let ctx : Context :=
    { storeId := w.storeId, organizationId := w.organizationId, hasChannel := e.hasChannel, token }
  e.launch ⟨.schedule, w.id⟩ token (e.executor.executeScheduled e.zone w ctx)

/-- Launches what is due and not in progress; the result is their number. -/
def tick (e : Engine) : Nat × Engine :=
  match e.world.through .dueAt (e.world.table.dueAt e.world.clock) with
  | .ok due =>
    let ready := due.filter (!e.isInFlight ·.id)
    (ready.length, ready.foldl launchScheduled e)
  | .error _ => (0, e)

/-- Waits for the scheduled executions; the result is the number of those
that are still in progress. -/
def drain (e : Engine) : Nat × Engine :=
  let e := e.work
  (e.inFlight, e)

/-- Cancels the scheduled executions and waits for them. -/
def stopScheduled (e : Engine) : Nat × Engine :=
  let tokens := (e.executionsOf .schedule).map (·.token)
  drain { e with world := tokens.foldl World.cancel e.world }

/-- Runs the loop of the scheduler for some ticks, with a pause of some
microseconds between them; `broken` ticks do nothing. -/
def loop (micros : Int) (broken : Bool) : (ticks : Nat) → Engine → Engine
  | 0, e => e
  | ticks + 1, e =>
    let e := (if broken then e else e.tick.2).work
    if ticks = 0 then e
    else
      match e.world.later micros with
      | .ok world => loop micros broken ticks { e with world }
      | .error _ => e

/-- Starts the engine with a scheduler, lets that tick, and stops both. -/
def runScheduler (e : Engine) (micros : Int) (broken : Bool) (ticks : Nat) : Engine :=
  (loop micros broken ticks e.start).stopScheduled.2.stop

end Automation.Engine
