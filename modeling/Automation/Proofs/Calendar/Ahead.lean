/-
# The next run lies ahead

Whatever the kind of a schedule and whatever the clocks do, the next run after
an instant comes later than that instant. A search for a reading goes on until
one occurs later, and where a time of day is skipped or repeated the search
starts again. There may be no telling the next run: a cron expression whose
years are past has no further match, and a search for one fails.

Key definitions: `Workflow.nextRunAfter`.
Key theorems: `Cron.next_gt`, `Cron.firstAfter_eq_error`,
`Schedule.nextClockRun_gt`, `Schedule.nextAfter_gt`, `Workflow.nextRunAfter_gt`,
`Table.nextRunOf_gt`.
-/
import Automation.Proofs.Calendar.Date
import Automation.Proofs.Document.Checked
import Automation.Table.Basic

namespace Automation

/-! ### Cron expressions -/

namespace Cron

theorem eq_of_checked {t found : Instant} (h : t.checked = .ok found) : found = t := by
  unfold Instant.checked at h
  split at h
  · exact (Except.ok.inj h).symm
  · cases h

theorem firstAfter_gt {c : Cron} {z : Zone} {now found : Instant} {last second : Int}
    (h : c.firstAfter z now last second = .ok found) : now.micros < found.micros := by
  fun_induction firstAfter c z now last second with
  | case1 => cases h
  | case2 second reading hsearch t hlater =>
    have hchecked := Except.of_mapError_eq_ok h
    rw [eq_of_checked hchecked]
    exact hlater
  | case3 second reading hsearch t hlater ih => exact ih h

theorem next_gt {c : Cron} {z : Zone} {now found : Instant} (h : c.next z now = .ok found) :
    now.micros < found.micros :=
  firstAfter_gt h

/-- A search of days that do not match fails. -/
theorem search_eq_error {c : Cron} {z : Zone} {last second : Int} (hlast : last ≤ Date.lastDay)
    (hdays : ∀ day, second / 86400 ≤ day → c.matchesDay (.ofDay day) = false) :
    c.search z last second = .error .noMatch := by
  fun_induction search c z last second with
  | case1 => rfl
  | case2 second day hday hover => omega
  | case3 second day hday hin found hfound ih => exact ih fun later hlater => hdays later (by omega)
  | case4 second day _ _ found s hfound | case5 second day _ _ found s hfound
  | case6 second day _ _ found s hfound =>
    have hnone : found = none := if_neg (by rw [hdays day (Int.le_refl _)]; exact Bool.false_ne_true)
    rw [hnone] at hfound
    cases hfound
  | case7 => rfl

/-- **A cron expression whose years are past has no further match.** -/
theorem firstAfter_eq_error {c : Cron} {z : Zone} {now : Instant} {last second year : Int}
    (hlast : last ≤ Date.lastDay) (hstart : Date.daysBeforeYear year < second / 86400)
    (hyears : ∀ later, year ≤ later → c.year.allows later.toNat = false) :
    c.firstAfter z now last second = .error .noMatch := by
  have hdays : ∀ day, second / 86400 ≤ day → c.matchesDay (.ofDay day) = false := by
    intro day hday
    rw [matchesDay, hyears _ (Date.le_year_ofDay (by omega))]
    rfl
  unfold firstAfter
  rw [search_eq_error hlast hdays]

end Cron

/-! ### Schedules -/

namespace Schedule

variable {s : Schedule} {z : Zone} {now next : Instant}

theorem nextClockRun_gt {t : TimeOfDay} (h : nextClockRun z s t now = .ok (some next)) :
    now.micros < next.micros := by
  fun_induction nextClockRun z s t now with
  | case5 now here hhere reading hreading result hresult hback hrange ih =>
    have hlater := ih h
    simp only [Instant.addSeconds, microsPerSecond] at hlater
    omega
  | case7 now here hhere reading hreading result hresult hahead =>
    have hnext : result = next := Option.some.inj (Except.ok.inj h)
    rw [← hnext]
    exact Int.not_le.1 hahead
  | _ => cases h

/-- **The next run lies ahead**, for every kind of schedule. -/
theorem nextAfter_gt (h : s.nextAfter z now = .ok (some next)) : now.micros < next.micros := by
  unfold nextAfter at h
  split at h
  · cases h
  · split at h
    · split at h
      · cases h
      · split at h
        · obtain ⟨found, hfound, hnext⟩ := Except.of_map_eq_ok h
          cases hnext
          exact Cron.next_gt hfound
        · cases h
    · split at h
      · exact nextClockRun_gt (Except.of_mapError_eq_ok h)
      · cases h

/-- The next run of a schedule with a cron expression is its next match. -/
theorem nextAfter_cron {c : Cron} (hkind : s.kind = .cron)
    (hparse : s.cronExpression.bind Cron.parse? = some c)
    (hvalid : Cron.isValid s.cronExpression = true) (hrange : (z.toLocal now).wall.inRange = true) :
    s.nextAfter z now = (c.next z now).map some := by
  rw [nextAfter, hkind]
  simp only [hvalid, hparse, hrange, Bool.not_true, Bool.false_eq_true, if_false]

end Schedule

/-! ### Workflows -/

namespace Workflow

/-- The next run of a workflow after an instant; none without a schedule. -/
def nextRunAfter (w : Workflow) (zone : Zone) (now : Instant) :
    Except Cron.SearchError (Option Instant) :=
  match w.trigger.schedule with
  | some s => s.nextAfter zone now
  | none => .ok none

theorem nextRunAfter_gt {w : Workflow} {zone : Zone} {now next : Instant}
    (h : w.nextRunAfter zone now = .ok (some next)) : now.micros < next.micros := by
  unfold nextRunAfter at h
  split at h
  · exact Schedule.nextAfter_gt h
  · cases h

/-- The next run after now lies after all that is past. -/
theorem nextRunAfter_ahead {w : Workflow} {zone : Zone} {now due : Instant} {nextRun : Option Instant}
    (h : w.nextRunAfter zone now = .ok nextRun) (hdue : due.micros ≤ now.micros) :
    ∀ next ∈ nextRun, due.micros < next.micros := by
  intro next hmem
  rw [hmem] at h
  exact Int.lt_of_le_of_lt hdue (nextRunAfter_gt h)

end Workflow

namespace Table

variable {zone : Zone} {now : Instant} {w : Workflow} {nextRun : Option Instant}

/-- No next run is stored with a workflow that no schedule runs. -/
theorem nextRunOf_eq_none (h : nextRunOf zone now w = .ok nextRun) (hkind : w.isScheduled = false) :
    nextRun = none := by
  rw [nextRunOf, hkind] at h
  exact (Except.ok.inj h).symm

/-- The next run that is stored with a workflow that a schedule runs is the
next one after now. -/
theorem nextRunAfter_of_nextRunOf (h : nextRunOf zone now w = .ok nextRun)
    (hkind : w.isScheduled = true) (hactive : w.isExecutable = true) :
    w.nextRunAfter zone now = .ok nextRun := by
  rw [nextRunOf, hkind, hactive] at h
  simp only [Bool.not_true, Bool.false_eq_true, if_false] at h
  unfold Workflow.nextRunAfter
  split at h
  · cases h
  · rename_i s hs
    split at h
    · cases h
    · split at h
      · cases h
      · cases h
      · rename_i next _ hnext
        rw [hs]
        exact (Except.of_mapError_eq_ok hnext).trans (congrArg Except.ok (Except.ok.inj h))

/-- A workflow that runs is stored with a next run that lies ahead. -/
theorem nextRunOf_gt (h : nextRunOf zone now w = .ok nextRun) (hactive : w.isExecutable = true) :
    ∀ next ∈ nextRun, now.micros < next.micros := by
  intro next hnext
  cases hkind : w.isScheduled with
  | false =>
    rw [nextRunOf_eq_none h hkind] at hnext
    cases hnext
  | true =>
    have hafter := nextRunAfter_of_nextRunOf h hkind hactive
    rw [hnext] at hafter
    exact Workflow.nextRunAfter_gt hafter

end Table

end Automation
