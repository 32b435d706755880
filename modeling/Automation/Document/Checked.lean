/-
# Checked values

The result of reading a document: a value, or all the faults that stand in
its way. Parts are checked side by side with `Checked.and`, so that the
faults of all parts are reported, in the order of the parts
(`Checked.and_invalid`).

Key definitions: `Checked`, `Checked.and`, `Checked.within`, `Checked.ensure`.
-/
import Automation.Document.Fault

namespace Automation

inductive Checked (α : Type) where
  | valid (value : α)
  | invalid (faults : List Fault)

namespace Checked

variable {α β : Type}

/-- A value with one problem, here. -/
def fault (problem : Problem) : Checked α := .invalid [⟨[], problem⟩]

def map (f : α → β) : Checked α → Checked β
  | .valid a => .valid (f a)
  | .invalid faults => .invalid faults

/-- Gives a function one more checked argument; faults of both count. -/
def and (f : Checked (α → β)) (x : Checked α) : Checked β :=
  match f, x with
  | .valid f, .valid a => .valid (f a)
  | .valid _, .invalid ys => .invalid ys
  | .invalid xs, .valid _ => .invalid xs
  | .invalid xs, .invalid ys => .invalid (xs ++ ys)

theorem and_valid (f : α → β) (a : α) : (valid f).and (.valid a) = .valid (f a) := rfl

theorem and_invalid (xs ys : List Fault) :
    (invalid xs : Checked (α → β)).and (.invalid ys) = .invalid (xs ++ ys) := rfl

/-- The result as part of a larger value, where it is found at `place`. -/
def within (place : Place) : Checked α → Checked α
  | .valid a => .valid a
  | .invalid faults => .invalid (faults.map fun f => { f with path := place :: f.path })

/-- A further check of a value that is valid so far. -/
def andThen (x : Checked α) (next : α → Checked β) : Checked β :=
  match x with
  | .valid a => next a
  | .invalid faults => .invalid faults

/-- Finds a valid value unfit for a reason, if there is one. -/
def ensure (unfit? : α → Option String) (x : Checked α) : Checked α :=
  x.andThen fun a =>
    match unfit? a with
    | some reason => fault (.unfit reason)
    | none => .valid a

end Checked

end Automation
