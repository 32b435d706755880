/-
# Time only passes

The one thing that an action can do to the clock is to let time pass, and the
time that it asks for is never negative (`Task.process_forward`). So no
execution turns the clock back, whatever its actions are; and only a scheduled
one sets a next run. `Owner.MayAsk` says what the executions of an owner may
ask for.

Key definitions: `Request.isForward`, `Owner.MayAsk`.
Key theorems: `microsOfSeconds_nonneg`, `Task.process_forward`,
`Executor.execute_mayAsk`, `Executor.executeScheduled_mayAsk`.
-/
import Automation.Engine.Basic
import Automation.Proofs.Run.Scheduled

namespace Automation

/-- Whether a request leaves the clock or lets time pass. -/
def Request.isForward : Request → Bool
  | .sleep seconds => 0 ≤ microsOfSeconds seconds
  | _ => true

/-! ### Stretches of time -/

/-- What is not negative is no negative stretch of time. -/
theorem microsOfSeconds_nonneg {seconds : Double} (h : seconds.isNegative = false) :
    0 ≤ microsOfSeconds seconds := by
  have hsign : ∀ p ∈ seconds.quanta, p.1 = false := by
    intro p hp
    cases seconds with
    | finite negative rank =>
      cases hp
      exact h
    | infinite negative => cases hp
    | nan => cases hp
  unfold microsOfSeconds
  generalize seconds.quanta = quanta at hsign
  cases quanta with
  | none => exact Int.le_refl 0
  | some p =>
    obtain ⟨negative, q⟩ := p
    obtain rfl : negative = false := hsign _ rfl
    have hwhole : (0 : Int) ≤ (q : Int) / Double.unitQuanta :=
      Int.ediv_nonneg (Int.natCast_nonneg _) (Int.natCast_nonneg _)
    dsimp only
    -- a fraction that stays a variable is not computed when the proof is checked
    generalize Double.ofRatio false _ _ = fraction
    rw [if_neg Bool.false_ne_true]
    split
    · omega
    · omega

namespace Double

theorem isNegative_ofRank (negative : Bool) (rank : Nat) :
    (ofRank negative rank).isNegative = negative := by
  unfold ofRank
  split
  · rfl
  · rfl

/-- A quotient has the sign of its numbers. -/
theorem isNegative_ofQuotient? {n d : Int} {x : Double} (h : ofQuotient? n d = some x) :
    x.isNegative = (decide (n < 0) != decide (d < 0)) := by
  rw [ofQuotient?, finite?] at h
  split at h
  · obtain rfl := Option.some.inj h
    rw [ofRatio, isNegative_ofRank]
  · cases h

end Double

/-! ### Tasks -/

namespace Task

/-- A delay is not negative. -/
theorem sleep_forward {milliseconds : Int} {seconds : Double}
    (hseconds : Double.ofQuotient? (max milliseconds 0) 1000 = some seconds) :
    (Request.sleep seconds).isForward = true := by
  have hsign : decide (max milliseconds 0 < 0) = false :=
    decide_eq_false (not_lt.2 (le_max_right milliseconds 0))
  have hpositive : seconds.isNegative = false := by
    rw [Double.isNegative_ofQuotient? hseconds, hsign]
    rfl
  exact decide_eq_true (microsOfSeconds_nonneg hpositive)

/-- **No task turns the clock back.** -/
theorem process_forward (runner : Runner) (ctx : Context) (payload : Json) (task : Task) :
    (task.process runner ctx payload).Asks (·.isForward = true) := by
  refine (task.process_asks runner ctx payload).mono fun request h => ?_
  cases h with
  | sleep hseconds => exact sleep_forward hseconds
  | send | emit | call | find | write | create => rfl

end Task

/-! ### Executions -/

/-- What the executions of an owner may ask for: none turns the clock back, and
only scheduled ones set a next run. -/
def Owner.MayAsk (owner : Owner) (request : Request) : Prop :=
  request.isForward = true ∧ (request.isAdvance = true → owner = .schedule)

namespace Executor

theorem run_forward (x : Executor) (w : Workflow) (payload : Json) (ctx : Context) :
    (x.run w payload ctx).Asks (·.isForward = true) := by
  rw [run]
  cases x.runFailure with
  | some f => exact trivial
  | none =>
    have htasks := Task.process_forward x.runner ctx payload
    exact (Runner.run_asks_of htasks w.orderedActions 0).map _

theorem record_mayAsk (x : Executor) (owner : Owner) (id : String) (error : Option ActionError) :
    (x.record id error).Asks owner.MayAsk := by
  rw [record]
  split
  · exact trivial
  · exact fun now => ⟨⟨rfl, fun h => absurd h Bool.false_ne_true⟩, fun reply => trivial⟩

theorem execute_mayAsk (x : Executor) (owner : Owner) (w : Workflow) (payload : Json)
    (ctx : Context) : (x.execute w payload ctx).Asks owner.MayAsk := by
  have hrun : (x.run w payload ctx).Asks owner.MayAsk := by
    have hboth := (x.run_forward w payload ctx).and (x.run_asks w payload ctx)
    refine hboth.mono fun request h => ⟨h.1, fun hadvance => ?_⟩
    cases request with
    | setNextRun _ _ => cases h.2
    | _ => cases hadvance
  exact hrun.bind fun r => (x.record_mayAsk owner w.id r.error).map _

theorem executeScheduled_mayAsk (x : Executor) (zone : Zone) (w : Workflow) (ctx : Context) :
    (x.executeScheduled zone w ctx).Asks Owner.schedule.MayAsk := by
  rw [executeScheduled_eq]
  refine (x.execute_mayAsk .schedule w (.obj []) ctx).bind fun result now => ?_
  beta_reduce
  split
  · exact ⟨⟨rfl, fun _ => rfl⟩, fun _ => trivial⟩
  · exact trivial

end Executor

end Automation
