/-
# The queue of the dispatcher

Jobs wait in a queue that may be bounded, for workers that take them in the
order in which they were accepted. A job is dropped when nothing runs or the
queue is full; stopping throws away what still waits.

Key definitions: `Dispatcher`, `Dispatcher.enqueue`, `Dispatcher.take?`,
`Dispatcher.finish`, `Dispatcher.start`, `Dispatcher.stop`.
-/
namespace Automation

structure Dispatcher (ι : Type) where
  workers : Nat := 1
  /-- How many jobs may wait, if there is a bound. -/
  capacity : Option Nat := none
  running : Bool := false
  /-- The number of jobs accepted so far; a job is known by its place among them. -/
  accepted : Nat := 0
  pending : List (Nat × ι) := []
  /-- The jobs that workers have taken and not finished. -/
  busy : List Nat := []
  /-- What waiting for the queue to be done waits for to become zero. -/
  unfinished : Nat := 0

namespace Dispatcher

variable {ι : Type}

/-- A dispatcher with at least one worker; a size that is not positive is no bound. -/
def ofSizes (workers queueSize : Int) : Dispatcher ι where
  workers := max workers.toNat 1
  capacity := if 0 < queueSize then some queueSize.toNat else none

def isFull (d : Dispatcher ι) : Bool := d.capacity.any (· ≤ d.pending.length)

/-- Accepts a job if the dispatcher runs and the queue has room, and says
whether it did. -/
def enqueue (d : Dispatcher ι) (job : ι) : Bool × Dispatcher ι :=
  if d.running && !d.isFull then
    (true, { d with
      accepted := d.accepted + 1
      pending := d.pending ++ [(d.accepted, job)]
      unfinished := d.unfinished + 1 })
  else (false, d)

/-- An idle worker takes the first job. -/
def take? (d : Dispatcher ι) : Option ((Nat × ι) × Dispatcher ι) :=
  if d.running && d.busy.length < d.workers then
    match d.pending with
    | [] => none
    | job :: rest => some (job, { d with pending := rest, busy := d.busy ++ [job.1] })
  else none

/-- A worker finishes a job. -/
def finish (d : Dispatcher ι) (number : Nat) : Dispatcher ι :=
  if d.busy.contains number then
    { d with busy := d.busy.erase number, unfinished := d.unfinished - 1 }
  else d

def start (d : Dispatcher ι) : Dispatcher ι := { d with running := true }

/-- Workers give up their jobs, and the jobs that wait are thrown away. -/
def stop (d : Dispatcher ι) : Dispatcher ι :=
  { d with
    running := false
    pending := []
    busy := []
    unfinished := d.unfinished - d.busy.length - d.pending.length }

end Dispatcher

end Automation
