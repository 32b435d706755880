/-
# What an execution returns, and for whom it records

An execution ends with a result of its own workflow if there is a recorder in
order, whatever its actions come to (`Executor.execute_returns`), and the only
outcome that it asks to be recorded is one of its own workflow
(`Executor.execute_recordsFor`, `Executor.executeScheduled_recordsFor`).

Key definitions: `Process.Returns`, `Request.RecordsFor`,
`ExecutionResult.IsOf`.
Key theorems: `Executor.execute_returns`, `Executor.execute_recordsFor`,
`Executor.executeScheduled_recordsFor`.
-/
import Automation.Proofs.Run.Scheduled

namespace Automation

/-- A result of the workflow `id`. -/
def ExecutionResult.IsOf (id : String) (result : Except Failure ExecutionResult) : Prop :=
  ∃ r : ExecutionResult, result = .ok r ∧ r.workflowId = id

/-- If an outcome is to be recorded, it is one of the workflow `id`. -/
def Request.RecordsFor (id : String) : Request → Prop
  | .record other _ _ _ => other = id
  | _ => True

theorem Request.recordsFor_of_isEffect (id : String) : ∀ request : Request,
    request.isEffect = true → request.RecordsFor id
  | .send _, _ | .call _, _ | .emit _, _ | .sleep _, _ | .find .., _ | .write .., _
  | .create .., _ => trivial

namespace Process

variable {α β : Type} {P : α → Prop} {Q : β → Prop}

/-- Every result that the process can come to satisfies `P`. -/
def Returns (P : α → Prop) : Process α → Prop
  | .done a => P a
  | .clock next => ∀ now, (next now).Returns P
  | .token next => ∀ cancelled, (next cancelled).Returns P
  | .ask _ next => ∀ reply, (next reply).Returns P

/-- What is made of the result of a process decides what it comes to. -/
theorem returns_map {f : α → β} (hf : ∀ a, Q (f a)) : ∀ p : Process α, (p.map f).Returns Q
  | .done a => hf a
  | .clock next => fun now => returns_map hf (next now)
  | .token next => fun cancelled => returns_map hf (next cancelled)
  | .ask _ next => fun reply => returns_map hf (next reply)

theorem Returns.bind {f : α → Process β} (hf : ∀ a, P a → (f a).Returns Q) :
    ∀ {p : Process α}, p.Returns P → (p.bind f).Returns Q
  | .done a, h => hf a h
  | .clock _, h => fun now => Returns.bind hf (h now)
  | .token _, h => fun cancelled => Returns.bind hf (h cancelled)
  | .ask _ _, h => fun reply => Returns.bind hf (h reply)

end Process

namespace Executor

variable (x : Executor) (w : Workflow) (payload : Json) (ctx : Context)

/-- Whatever the actions do, what is run gives a result of its workflow. -/
theorem run_returns : (x.run w payload ctx).Returns fun r => r.workflowId = w.id := by
  rw [run]
  cases x.runFailure with
  | some f => exact rfl
  | none =>
    refine Process.returns_map (fun r => ?_) _
    rfl

/-- **An execution returns a result of its workflow**, as long as there is a
recorder in order. -/
theorem execute_returns (hx : x.recordFailure = none) :
    (x.execute w payload ctx).Returns (ExecutionResult.IsOf w.id) := by
  refine (x.run_returns w payload ctx).bind fun r hr => ?_
  rw [record, hx]
  exact fun now reply => ⟨r, rfl, hr⟩

theorem record_recordsFor (id : String) (error : Option ActionError) :
    (x.record id error).Asks (·.RecordsFor id) := by
  rw [record]
  split
  · exact trivial
  · exact fun now => ⟨rfl, fun reply => trivial⟩

/-- **An execution records for its own workflow only.** -/
theorem execute_recordsFor : (x.execute w payload ctx).Asks (·.RecordsFor w.id) := by
  have hrun := (x.run_asks w payload ctx).mono (Request.recordsFor_of_isEffect w.id)
  exact hrun.bind fun r => (x.record_recordsFor w.id r.error).map _

/-- So does a scheduled one. -/
theorem executeScheduled_recordsFor (zone : Zone) :
    (x.executeScheduled zone w ctx).Asks (·.RecordsFor w.id) := by
  rw [executeScheduled_eq]
  refine (x.execute_recordsFor w (.obj []) ctx).bind fun result now => ?_
  beta_reduce
  split
  · exact ⟨trivial, fun _ => trivial⟩
  · exact trivial

end Executor

end Automation
