/-
# What can happen to an engine

Executions run side by side and come to their ends in any order. `Engine.Step`
tells what can happen next to an engine, whoever asks for it: an execution is
entered, moves on, asks something outside, writes an outcome or a next run,
is given up while one of its actions is in progress, or returns; a definition
is written; or something happens that is no matter of executions.
`Engine.Run` is any number of steps.

What the outside answers, and when, is left open, and so is the moment at
which a token is cancelled. But writes succeed: an outcome is written when an
execution asks for it, and so is that of an execution that is given up.

Key definitions: `ExecutionEvent`, `Engine.Step`, `Engine.Run`.
-/
import Automation.Engine.Requests
import Automation.Proofs.Process.Settling
import Automation.Proofs.Run.Requests
import Automation.Proofs.Table.Counters

namespace Automation

/-- What is seen of executions from outside. -/
inductive ExecutionEvent where
  | entered (workflowId : String)
  | returned (workflowId : String) (success : Bool)
deriving DecidableEq

/-- Whether an action is in progress: it has asked for an effect, and perhaps
gets no reply. -/
def Stage.isInAction {α : Type} : Stage α → Bool
  | .asking request _ => request.isEffect
  | .waiting _ => true
  | _ => false

namespace Engine

/-- The engine with some executions in progress, in a world. -/
def moved (e : Engine) (executions : List Execution) (world : World) : Engine :=
  { e with executions, world }

/-- What happens to an engine, and what is seen of it. -/
inductive Step : Engine → List ExecutionEvent → Engine → Prop where
  /-- An execution of a stored workflow is entered for an event, by a job or by
  a caller. -/
  | enter {e : Engine} (owner : Owner) (w : Workflow) (payload : Json) (ctx : Context) :
      e.executor.recordFailure = none → e.world.table.has w.id = true →
      Step e [.entered w.id] (e.launch ⟨owner, w.id⟩ ctx.token (e.executor.execute w payload ctx))
  | enterScheduled {e : Engine} (token : Token) (w : Workflow) (ctx : Context) :
      e.executor.recordFailure = none → e.world.table.has w.id = true →
      Step e [.entered w.id]
        (e.launch ⟨.schedule, w.id⟩ token (e.executor.executeScheduled e.zone w ctx))
  /-- An execution moves on to its next request, or to its result. -/
  | resume {e : Engine} {before after : List Execution} {f g : Execution} {world : World} :
      e.executions = before ++ f :: after →
      f.resume World.environment e.world = some (g, world) →
      Step e [] (e.moved (before ++ g :: after) world)
  /-- The outside answers an action, or does not; the tables are not outside. -/
  | act {e : Engine} {before after : List Execution} {f : Execution} {request : Request}
      {next : Reply → Process (Except Failure ExecutionResult)} {reply : Option Reply}
      {world : World} :
      e.executions = before ++ f :: after → f.stage = .asking request next →
      request.isEffect = true → world.table = e.world.table →
      Step e [] (e.moved (before ++ { f with stage := .afterRequest next reply } :: after) world)
  /-- An outcome or a next run is written. -/
  | write {e : Engine} {before after : List Execution} {f : Execution} {request : Request}
      {next : Reply → Process (Except Failure ExecutionResult)} {world : World} :
      e.executions = before ++ f :: after → f.stage = .asking request next →
      request.isEffect = false → World.serve f.token request e.world = (some .done, world) →
      Step e [] (e.moved (before ++ { f with stage := .answered .done next } :: after) world)
  /-- An execution is given up in an action; that is recorded as a cancellation. -/
  | giveUp {e : Engine} {before after : List Execution} {f : Execution} {world : World} :
      e.executions = before ++ f :: after → f.stage.isInAction = true →
      World.serve 0 (.record f.label.workflowId false none e.world.clock) e.world
        = (some .done, world) →
      Step e [] (e.moved (before ++ after) world)
  | return {e : Engine} {before after : List Execution} {f : Execution} {r : ExecutionResult} :
      e.executions = before ++ f :: after → f.stage = .finished (.ok r) →
      Step e [.returned f.label.workflowId r.isSuccess] (e.moved (before ++ after) e.world)
  | save {e : Engine} (w : Workflow) : Step e [] (e.save w).2
  | setActive {e : Engine} (id : String) (active : Bool) : Step e [] (e.setActive id active).2
  | softDelete {e : Engine} (id : String) : Step e [] (e.softDelete id).2
  | setNextRun {e : Engine} (id : String) (nextRun : Option Instant) :
      Step e [] (e.setNextRun id nextRun).2
  /-- Whatever leaves the executions and the table of workflows as they are. -/
  | other {e e' : Engine} : e'.executions = e.executions → e'.world.table = e.world.table →
      Step e [] e'

/-- Any number of steps, in any order. -/
inductive Run : Engine → List ExecutionEvent → Engine → Prop where
  | nil {e : Engine} : Run e [] e
  | step {e e' e'' : Engine} {events more : List ExecutionEvent} :
      Run e events e' → Step e' more e'' → Run e (events ++ more) e''

theorem Run.single {e e' : Engine} {events : List ExecutionEvent} (h : Step e events e') :
    Run e events e' :=
  .step .nil h

theorem Run.trans {e e' e'' : Engine} {events : List ExecutionEvent} (h : Run e events e') :
    ∀ {more : List ExecutionEvent}, Run e' more e'' → Run e (events ++ more) e''
  | _, .nil => by rwa [List.append_nil]
  | _, .step h' hstep => by
    rw [← List.append_assoc]
    exact .step (h.trans h') hstep

/-! ### Writes of definitions -/

/-- A write that keeps all counts if it succeeds keeps them in any case. -/
theorem write_keeps {α : Type} {e : Engine} {result : Except Failure (α × Table)}
    (h : ∀ {a t}, result = .ok (a, t) → e.world.table.Keeps t) :
    (e.write result).2.executions = e.executions
      ∧ e.world.table.Keeps (e.write result).2.world.table := by
  cases result with
  | error f => exact ⟨rfl, .refl _⟩
  | ok r => exact ⟨rfl, h rfl⟩

theorem of_through_eq_ok {α : Type} {w : World} {part : Part} {result : Except Failure α} {a : α}
    (h : w.through part result = .ok a) : result = .ok a := by
  unfold World.through at h
  split at h
  · cases h
  · exact h

theorem save_keeps (e : Engine) (w : Workflow) :
    (e.save w).2.executions = e.executions ∧ e.world.table.Keeps (e.save w).2.world.table :=
  write_keeps fun h => Table.save_keeps (of_through_eq_ok h)

theorem setActive_keeps (e : Engine) (id : String) (active : Bool) :
    (e.setActive id active).2.executions = e.executions
      ∧ e.world.table.Keeps (e.setActive id active).2.world.table :=
  write_keeps fun h => by
    obtain ⟨w, -, h⟩ := Except.of_bind_eq_ok (of_through_eq_ok (of_through_eq_ok h))
    exact Table.save_keeps (of_through_eq_ok h)

theorem softDelete_keeps (e : Engine) (id : String) :
    (e.softDelete id).2.executions = e.executions
      ∧ e.world.table.Keeps (e.softDelete id).2.world.table :=
  write_keeps fun h => by
    obtain ⟨t, ht, h⟩ := Except.of_map_eq_ok h
    cases h
    exact Table.softDelete_keeps (of_through_eq_ok ht)

theorem setNextRun_keeps (e : Engine) (id : String) (nextRun : Option Instant) :
    (e.setNextRun id nextRun).2.executions = e.executions
      ∧ e.world.table.Keeps (e.setNextRun id nextRun).2.world.table :=
  write_keeps fun h => by
    obtain ⟨t, ht, h⟩ := Except.of_map_eq_ok h
    cases h
    cases of_through_eq_ok ht
    exact Table.setNextRun_keeps ..

end Engine

end Automation
