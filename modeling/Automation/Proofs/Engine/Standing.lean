/-
# How an execution stands

An execution in progress owes its workflow an outcome, until it has recorded
one; then it is to return what it has recorded. Moving on and whatever the
outside answers do not change how an execution stands, and what it writes is
the outcome that it owes (`Execution.Stands.write`).

Key definitions: `Standing`, `Stage.Stands`, `Execution.Stands`.
Key theorems: `Execution.Stands.resume`, `Execution.Stands.act`,
`Execution.Stands.write`.
-/
import Automation.Proofs.Engine.Steps
import Automation.Proofs.Run.Recording

namespace Automation

/-- How an execution in progress stands: it owes an outcome, or it has recorded
one, which it is to return. -/
inductive Standing where
  | owes
  | ended (success : Bool)
deriving DecidableEq

/-! ### Stages -/

namespace Stage

/-- How an execution of the workflow `id` at a stage stands. -/
inductive Stands (id : String) : Standing → Stage (Except Failure ExecutionResult) → Prop where
  | effect {request : Request} {next : Reply → Process.OfExecution} : request.isEffect = true →
      (∀ reply, (next reply).Owes id) → Stands id .owes (.asking request next)
  | record {success : Bool} {error : Option LastError} {endedAt : Instant}
      {next : Reply → Process.OfExecution} : (∀ e ∈ error, e.timestamp = .ofInstant endedAt) →
      (∀ reply, (next reply).Ends success) →
      Stands id .owes (.asking (.record id success error endedAt) next)
  | answered {reply : Reply} {next : Reply → Process.OfExecution} : (next reply).Owes id →
      Stands id .owes (.answered reply next)
  | waiting {next : Reply → Process.OfExecution} : (next .cancelled).Owes id →
      Stands id .owes (.waiting next)
  | nextRun {other : String} {when : Option Instant} {success : Bool}
      {next : Reply → Process.OfExecution} : (∀ reply, (next reply).Ends success) →
      Stands id (.ended success) (.asking (.setNextRun other when) next)
  | recorded {success : Bool} {reply : Reply} {next : Reply → Process.OfExecution} :
      (next reply).Ends success → Stands id (.ended success) (.answered reply next)
  | finished {r : ExecutionResult} : Stands id (.ended r.isSuccess) (.finished (.ok r))

variable {id : String} {standing : Standing}

theorem stands_of_owes {p : Process.OfExecution} (h : p.Owes id) (now : Instant)
    (cancelled : Bool) : Stands id .owes (p.stage now cancelled) := by
  induction h with
  | clock _ ih => exact ih now
  | token _ ih => exact ih cancelled
  | effect hrequest hnext _ => exact .effect hrequest hnext
  | record herror hends => exact .record (herror now) (hends now)

theorem stands_of_ends {success : Bool} {p : Process.OfExecution} (h : p.Ends success)
    (now : Instant) (cancelled : Bool) : Stands id (.ended success) (p.stage now cancelled) := by
  induction h with
  | done hr => exact hr ▸ .finished
  | clock _ ih => exact ih now
  | token _ ih => exact ih cancelled
  | nextRun hnext _ => exact .nextRun hnext

/-- An execution in an action owes an outcome. -/
theorem Stands.eq_owes {stage : Stage (Except Failure ExecutionResult)}
    (h : Stands id standing stage) (hstage : stage.isInAction = true) : standing = .owes := by
  cases h with
  | nextRun _ => cases hstage
  | recorded _ => cases hstage
  | finished => cases hstage
  | _ => rfl

/-- An execution with a result is to return it. -/
theorem Stands.eq_ended {r : ExecutionResult} (h : Stands id standing (.finished (.ok r))) :
    standing = .ended r.isSuccess := by
  cases h
  rfl

/-- Whatever the outside answers, the outcome is still owed. -/
theorem Stands.act {request : Request} {next : Reply → Process.OfExecution}
    (h : Stands id standing (.asking request next)) (hrequest : request.isEffect = true)
    (reply : Option Reply) : Stands id standing (.afterRequest next reply) := by
  cases h with
  | effect _ hnext =>
    cases reply with
    | some reply => exact .answered (hnext reply)
    | none => exact .waiting (hnext .cancelled)
  | record _ _ => cases hrequest
  | nextRun _ => cases hrequest

end Stage

/-! ### Writes in a world -/

namespace World

theorem of_serve_record {token : Token} {id : String} {success : Bool} {error : Option LastError}
    {endedAt : Instant} {w w' : World}
    (h : World.serve token (.record id success error endedAt) w = (some .done, w')) :
    w.table.record id success error endedAt = .ok w'.table := by
  simp only [serve] at h
  split at h
  · rename_i t ht
    cases h
    exact Engine.of_through_eq_ok ht
  · cases h

theorem of_serve_setNextRun {token : Token} {id : String} {nextRun : Option Instant} {w w' : World}
    (h : World.serve token (.setNextRun id nextRun) w = (some .done, w')) :
    w'.table = w.table.setNextRun id nextRun ∧ w'.clock = w.clock := by
  simp only [serve] at h
  split at h
  · rename_i t ht
    cases h
    cases Engine.of_through_eq_ok ht
    exact ⟨rfl, rfl⟩
  · cases h

end World

/-! ### Executions -/

namespace Execution

/-- How an execution of a workflow stands. -/
structure Stands (f : Execution) (g : String × Standing) : Prop where
  label : f.label.workflowId = g.1
  stage : f.stage.Stands g.1 g.2

variable {f f' : Execution} {g : String × Standing} {request : Request}
  {next : Reply → Process.OfExecution} {w w' : World}

theorem Stands.eq_owes (h : f.Stands g) (hf : f.stage.isInAction = true) :
    g = (f.label.workflowId, .owes) :=
  Prod.ext h.label.symm (h.stage.eq_owes hf)

theorem Stands.eq_ended {r : ExecutionResult} (h : f.Stands g) (hf : f.stage = .finished (.ok r)) :
    g = (f.label.workflowId, .ended r.isSuccess) :=
  Prod.ext h.label.symm (hf ▸ h.stage : Stage.Stands _ _ _).eq_ended

/-- Moving on does not change how an execution stands. -/
theorem Stands.resume (h : f.Stands g) (hresume : f.resume World.environment w = some (f', w')) :
    f'.Stands g ∧ w' = w := by
  obtain ⟨id, standing⟩ := g
  obtain ⟨hlabel, hstage⟩ := h
  obtain ⟨reply, next, hf, rfl, rfl⟩ := Fiber.resume_eq_some hresume
  refine ⟨⟨hlabel, ?_⟩, rfl⟩
  rcases hf with hf | ⟨hf, rfl⟩
  · rw [hf] at hstage
    cases hstage with
    | answered howes => exact Stage.stands_of_owes howes ..
    | recorded hends => exact Stage.stands_of_ends hends ..
  · rw [hf] at hstage
    cases hstage with
    | waiting howes => exact Stage.stands_of_owes howes ..

/-- Nor does whatever the outside answers. -/
theorem Stands.act (h : f.Stands g) (hf : f.stage = .asking request next)
    (hrequest : request.isEffect = true) (reply : Option Reply) :
    Execution.Stands { f with stage := .afterRequest next reply } g where
  label := h.label
  stage := (hf ▸ h.stage : Stage.Stands _ _ (.asking request next)).act hrequest reply

/-- A write of an execution records the outcome that it owes; any other write
leaves all counts. -/
theorem Stands.write (h : f.Stands g) (hf : f.stage = .asking request next)
    (hrequest : request.isEffect = false)
    (hserve : World.serve f.token request w = (some .done, w')) :
    (∃ success error endedAt, g = (f.label.workflowId, .owes)
        ∧ w.table.record f.label.workflowId success error endedAt = .ok w'.table
        ∧ Execution.Stands { f with stage := .answered .done next }
          (f.label.workflowId, .ended success))
      ∨ (w.table.Keeps w'.table ∧ Execution.Stands { f with stage := .answered .done next } g) := by
  obtain ⟨id, standing⟩ := g
  obtain ⟨hlabel, hstage⟩ := h
  simp only at hlabel hstage
  subst hlabel
  rw [hf] at hstage
  cases hstage with
  | effect heffect _ =>
    rw [heffect] at hrequest
    cases hrequest
  | record _ hends =>
    exact .inl ⟨_, _, _, rfl, World.of_serve_record hserve, rfl, .recorded (hends _)⟩
  | nextRun hends =>
    obtain ⟨htable, -⟩ := World.of_serve_setNextRun hserve
    exact .inr ⟨htable ▸ Table.setNextRun_keeps .., rfl, .recorded (hends _)⟩

end Execution

end Automation
