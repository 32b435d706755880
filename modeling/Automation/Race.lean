/-
# Work that races a cancellation

Work that waits for something is given up when its token is cancelled. Work
that ends, also with a failure, before the cancellation is noticed has won:
noticing takes two pauses of the work.

Key definitions: `WorkStep`, `Race`, `race`.
-/
import Automation.ActionError

namespace Automation

/-- What work does. -/
inductive WorkStep where
  /-- Lets others run. -/
  | pause
  /-- Cancels its own token. -/
  | cancel
  /-- Waits for something that never comes. -/
  | hang
  | fail
deriving DecidableEq, Repr

/-- What is seen of work. -/
inductive Sign where
  | started
  | finished
  /-- Work that waited was given up. -/
  | interrupted
deriving DecidableEq, Repr

/-- How a race ends. -/
inductive RaceEnd where
  | finished
  | failed
  | cancelled
deriving DecidableEq, Repr

structure Race where
  ending : RaceEnd
  signs : List Sign
  /-- Whether the token is cancelled in the end. -/
  cancelled : Bool
deriving DecidableEq, Repr

/-- The pauses that work may still make after the cancellation and win. -/
def grace : Nat := 2

/-- The rest of a race; `left` is the pauses that are left since the
cancellation, if there was one. -/
def raceFrom (left : Option Nat) : List WorkStep → Race
  | [] => ⟨.finished, [.finished], left.isSome⟩
  | .pause :: rest =>
    match left with
    | none => raceFrom none rest
    | some 0 => ⟨.cancelled, [], true⟩
    | some (n + 1) => raceFrom (some n) rest
  | .cancel :: rest => raceFrom (some (left.getD grace)) rest
  | .hang :: _ => ⟨.cancelled, [.interrupted], true⟩
  | .fail :: _ => ⟨.failed, [], left.isSome⟩

/-- A race of work against a token, which may be cancelled before: then the
work does not start. -/
def race (cancelled : Bool) (work : List WorkStep) : Race :=
  if cancelled then ⟨.cancelled, [], true⟩
  else
    let r := raceFrom none work
    { r with signs := .started :: r.signs }

end Automation
