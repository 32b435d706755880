/-
# Actions

A workflow runs actions: tasks, each of which asks for one effect, and
branches, which hold further actions for the case that a condition holds and
for the case that it does not. Actions run by their order; those of one
order run as they are listed (`Action.sorted`).

Key definitions: `Policy`, `Task`, `Action`, `Action.kind`, `Action.sorted`.
-/
import Automation.Condition

namespace Automation

/-- When an action runs, and whether its failure ends the run. -/
structure Policy where
  order : Int := 0
  continueOnError : Bool := false
deriving DecidableEq, Inhabited, Repr

/-- What an action asks for. -/
inductive Task where
  | email (recipients : List String) (subject body : String)
  | notification (user : Option String) (title message : String) (priority : Option String)
  | webhook (url : Option String) (method : String) (headers : List (String × String)) (body : Json)
  | update (entity : Option String) (id : Option String) (updates : Members)
  | create (entity : Option String) (data : Members)
  | approval (approvers : List String) (required : Int) (timeout : Option Int)
  | delay (milliseconds : Int)
  /-- A task that cannot be carried out, by its name. -/
  | unknown (name : String)
deriving Inhabited

/-- The name of a kind of task. -/
def Task.kind : Task → String
  | .email .. => "email"
  | .notification .. => "notification"
  | .webhook .. => "webhook"
  | .update .. => "update"
  | .create .. => "create"
  | .approval .. => "approval"
  | .delay .. => "delay"
  | .unknown name => name

inductive Action where
  | task (policy : Policy) (task : Task)
  /-- A branch without a condition cannot be run. -/
  | branch (policy : Policy) (condition : Option Condition) (thenActions elseActions : List Action)
deriving Inhabited

namespace Action

def policy : Action → Policy
  | .task p _ => p
  | .branch p _ _ _ => p

def order (a : Action) : Int := a.policy.order

def continueOnError (a : Action) : Bool := a.policy.continueOnError

/-- The name of a kind of action. -/
def kind : Action → String
  | .task _ t => t.kind
  | .branch .. => "condition"

/-- The kinds of actions that can be carried out, in the order in which they
are listed. -/
def kinds : List String :=
  ["email", "notification", "webhook", "update", "create", "approval", "delay", "condition"]

/-- Actions by their order; those of one order stay as they are listed. -/
def sorted (actions : List Action) : List Action := actions.mergeSort fun a b => a.order ≤ b.order

end Action

end Automation
