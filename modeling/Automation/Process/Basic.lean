/-
# Processes

A process is a piece of work that now and then looks at the clock, looks
whether it has been cancelled, or makes a request and goes on with the reply.
What clock, cancellation and replies are is not its business: an
`Environment` gives them meaning, and `Process.run` runs a process in one.

Key definitions: `Process`, `Process.bind`, `Process.perform`,
`Environment`, `Process.run`.
-/
import Automation.Effect

namespace Automation

inductive Process (α : Type) where
  | done (result : α)
  | clock (next : Instant → Process α)
  | token (next : Bool → Process α)
  | ask (request : Request) (next : Reply → Process α)

namespace Process

variable {α β : Type}

/-- Goes on with the result of a process. -/
def bind (f : α → Process β) : Process α → Process β
  | .done a => f a
  | .clock next => .clock fun now => (next now).bind f
  | .token next => .token fun cancelled => (next cancelled).bind f
  | .ask request next => .ask request fun reply => (next reply).bind f

def map (f : α → β) (p : Process α) : Process β := p.bind fun a => .done (f a)

/-- Makes a request, unless the execution has been cancelled. -/
def perform (request : Request) : Process Reply :=
  .token fun cancelled => if cancelled then .done .cancelled else .ask request .done

end Process

/-- What can be cancelled at once: the executions that share a token. -/
abbrev Token := Nat

/-- The meaning of clock, cancellation and requests over states. A request
may never get a reply. -/
structure Environment (σ : Type) where
  now : σ → Instant
  cancelled : Token → σ → Bool
  serve : Token → Request → σ → Option Reply × σ

namespace Process

variable {α β σ : Type}

/-- Runs a process. A request without a reply is left in the end, as if the
execution had been cancelled. -/
def run (env : Environment σ) (token : Token) : Process α → σ → α × σ
  | .done a, s => (a, s)
  | .clock next, s => (next (env.now s)).run env token s
  | .token next, s => (next (env.cancelled token s)).run env token s
  | .ask request next, s =>
    let (reply, s) := env.serve token request s
    (next (reply.getD .cancelled)).run env token s

/-- What follows a process runs from the state that the process leaves. -/
theorem run_bind (env : Environment σ) (token : Token) (f : α → Process β) :
    ∀ (p : Process α) (s : σ),
      (p.bind f).run env token s = (f (p.run env token s).1).run env token (p.run env token s).2
  | .done _, _ => rfl
  | .clock next, s => run_bind env token f (next (env.now s)) s
  | .token next, s => run_bind env token f (next (env.cancelled token s)) s
  | .ask request next, s =>
    run_bind env token f (next ((env.serve token request s).1.getD .cancelled))
      (env.serve token request s).2

end Process

end Automation
