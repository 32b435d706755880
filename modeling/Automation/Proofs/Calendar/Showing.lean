/-
# The next run shows the time of the schedule

The next run of a daily, weekly or monthly schedule comes after now and shows, on
the clocks of its zone, the time of the schedule on one of its days. Only where
the clocks are set forward over that reading it shows another one
(`Schedule.nextAfter_shows`). A reading that has passed, which happens where
clocks are set back, starts the search again an hour later, so what has to be in
the calendar is said for every start of a search (`Schedule.Attempt`).

Key definitions: `Schedule.Attempt`, `Schedule.InCalendar`.
Key theorems: `Schedule.nextClockRun_eq_ok`, `Schedule.nextAfter_shows`.
-/
import Automation.Proofs.Calendar.Readings
import Automation.Proofs.Zone.Readback

namespace Automation
namespace Schedule

/-- The instants from which a search for the next run starts: now, and an hour
after a start whose reading leads to no later instant. -/
inductive Attempt (s : Schedule) (z : Zone) (t : TimeOfDay) (now : Instant) : Instant → Prop
  | first : Attempt s z t now now
  | again {start : Instant} {reading : Zone.Local} : Attempt s z t now start →
      s.nextReading t (z.toLocal start) = .ok (some reading) →
      (z.toInstant reading).micros ≤ start.micros → Attempt s z t now (start.addSeconds 3600)

/-- All dates of a search that starts at an instant lie in the calendar: that of
the start, on a clock at offset zero and on the clocks of the zone, the next day
of the schedule, and that of the instant which the reading on it leads to. -/
structure InCalendar (s : Schedule) (z : Zone) (t : TimeOfDay) (start : Instant) : Prop where
  instant : (start.plus 0).inRange = true
  wall : (z.toLocal start).wall.inRange = true
  day : ∀ day, s.IsNextDay t (z.toLocal start).wall day → day ≤ Date.lastDay
  result : ∀ reading, s.nextReading t (z.toLocal start) = .ok (some reading) →
    ((z.toInstant reading).plus 0).inRange = true

variable {s : Schedule} {z : Zone} {t : TimeOfDay} {now start later : Instant}

theorem Attempt.trans (h : Attempt s z t now start) (hlater : Attempt s z t start later) :
    Attempt s z t now later := by
  induction hlater with
  | first => exact h
  | again _ hreading hpast ih => exact ih.again hreading hpast

/-- A reading that leads to a later instant is the only attempt. -/
theorem Attempt.eq_of_lt {reading : Zone.Local} (h : s.Attempt z t now start)
    (hreading : s.nextReading t (z.toLocal now) = .ok (some reading))
    (hafter : now.micros < (z.toInstant reading).micros) : start = now := by
  induction h with
  | first => rfl
  | again _ hfound hpast ih =>
    rw [ih] at hfound hpast
    have hsame := Option.some.inj (Except.ok.inj (hfound.symm.trans hreading))
    rw [hsame] at hpast
    omega

/-- A search lies in the calendar if some day of the schedule that is still to
come does, and the reading that is found. -/
theorem InCalendar.of_reading {reading : Zone.Local} {day : Int} (hinstant : (start.plus 0).inRange = true)
    (hwall : (z.toLocal start).wall.inRange = true) (hlast : day ≤ Date.lastDay) (hruns : s.runsOn day = true)
    (hahead : (z.toLocal start).wall.micros < (Wall.atTime day t.hour t.minute).micros)
    (hreading : s.nextReading t (z.toLocal start) = .ok (some reading))
    (hresult : ((z.toInstant reading).plus 0).inRange = true) : s.InCalendar z t start := by
  refine ⟨hinstant, hwall, ?_, ?_⟩
  · intro next hnext
    exact Int.le_trans (hnext.first day hruns hahead) hlast
  · intro found hfound
    have hsame : found = reading := Option.some.inj (Except.ok.inj (hfound.symm.trans hreading))
    rw [hsame]
    exact hresult

/-- A search in the calendar finds the reading on the next day of the schedule. -/
theorem InCalendar.nextReading_eq (h : s.InCalendar z t start) (hs : s.IsTimed t) :
    ∃ day fold, s.runsOn day = true
      ∧ s.nextReading t (z.toLocal start) = .ok (some ⟨.atTime day t.hour t.minute, fold⟩) := by
  obtain ⟨day, hday, hfinds⟩ := nextReading_finds hs h.wall
  have hlast := h.day day hday
  generalize s.nextReading t (z.toLocal start) = found at hfinds ⊢
  cases hfinds with
  | reading fold _ => exact ⟨day, fold, hday.runs, rfl⟩
  | beyond e hbeyond => omega

/-- A search from what the clocks cannot show fails. -/
theorem nextClockRun_of_not_inRange (h : (z.toLocal now).wall.inRange = false) :
    nextClockRun z s t now = .error .dateOutOfRange := by
  unfold nextClockRun
  simp only [h, Bool.not_false, if_true]

theorem nextClockRun_of_error {e : CalendarError} (h : (z.toLocal now).wall.inRange = true)
    (hreading : s.nextReading t (z.toLocal now) = .error e) : nextClockRun z s t now = .error e := by
  unfold nextClockRun
  simp only [h, Bool.not_true, Bool.false_eq_true, if_false, hreading]

/-- A reading that leads to a later instant ends the search. -/
theorem nextClockRun_of_reading {reading : Zone.Local} (h : (z.toLocal now).wall.inRange = true)
    (hreading : s.nextReading t (z.toLocal now) = .ok (some reading))
    (hafter : now.micros < (z.toInstant reading).micros) : nextClockRun z s t now =
      if ((z.toInstant reading).plus 0).inRange then .ok (some (z.toInstant reading))
      else .error .dateOutOfRange := by
  have hnot : ¬ (z.toInstant reading).micros ≤ now.micros := by omega
  unfold nextClockRun
  simp only [h, Bool.not_true, Bool.false_eq_true, if_false, hreading, if_neg hnot]
  cases ((z.toInstant reading).plus 0).inRange <;> rfl

/-- The search ends with an instant after now, that of a reading at the time of
the schedule on one of its days. -/
theorem nextClockRun_eq_ok (hs : s.IsTimed t)
    (hcal : ∀ start, s.Attempt z t now start → s.InCalendar z t start) :
    ∃ next day fold, nextClockRun z s t now = .ok (some next) ∧ now.micros < next.micros
      ∧ (next.plus 0).inRange = true ∧ s.runsOn day = true
      ∧ next = z.toInstant ⟨.atTime day t.hour t.minute, fold⟩ := by
  fun_induction nextClockRun z s t now with
  | case1 now here hhere =>
    have hwall : here.wall.inRange = true := (hcal now .first).wall
    simp only [hwall, Bool.not_true, Bool.false_eq_true] at hhere
  | case2 now here hhere e hreading =>
    obtain ⟨day, fold, -, hfound⟩ := (hcal now .first).nextReading_eq hs
    cases hreading.symm.trans hfound
  | case3 now here hhere hreading =>
    obtain ⟨day, fold, -, hfound⟩ := (hcal now .first).nextReading_eq hs
    cases hreading.symm.trans hfound
  | case4 now here hhere reading hreading result hresult =>
    have hrange : (result.plus 0).inRange = true := (hcal now .first).result reading hreading
    simp only [hrange, Bool.not_true, Bool.false_eq_true] at hresult
  | case5 now here hhere reading hreading result hresult hpast hrange ih =>
    -- the reading has passed, and what follows is a search from an hour later
    have hnext : Attempt s z t now (now.addSeconds 3600) := Attempt.first.again hreading hpast
    obtain ⟨next, day, fold, heq, hafter, hin⟩ := ih fun start hstart => hcal start (hnext.trans hstart)
    have hlater : now.micros < (now.addSeconds 3600).micros := by
      simp only [Instant.addSeconds, microsPerSecond]
      omega
    exact ⟨next, day, fold, heq, by omega, hin⟩
  | case6 now here hhere reading hreading result hresult hpast hrange =>
    have hnext : Attempt s z t now (now.addSeconds 3600) := Attempt.first.again hreading hpast
    exact absurd (hcal _ hnext).instant hrange
  | case7 now here hhere reading hreading result hresult hahead =>
    obtain ⟨day, fold, hruns, hfound⟩ := (hcal now .first).nextReading_eq hs
    have hin : (result.plus 0).inRange = true := (hcal now .first).result reading hreading
    have hsame : reading = ⟨.atTime day t.hour t.minute, fold⟩ :=
      Option.some.inj (Except.ok.inj (hreading.symm.trans hfound))
    exact ⟨result, day, fold, rfl, by omega, hin, hruns, congrArg z.toInstant hsame⟩

theorem nextAfter_eq_nextClockRun (hs : s.IsTimed t) :
    s.nextAfter z now = (nextClockRun z s t now).mapError .calendar := by
  have hday := hs.day
  have htime := hs.time
  unfold hasDay at hday
  by_cases hrange : (z.toLocal now).wall.inRange = true
  · unfold nextAfter
    simp only [hrange, Bool.not_true, Bool.false_eq_true, if_false]
    split
    · rename_i hkind
      rw [hkind] at hday
      cases hday
    · rw [htime]
  · unfold nextAfter nextClockRun
    simp only [hrange, Bool.not_false, if_true]
    rfl

/-- **The next run comes after now and shows the time of the schedule on one of
its days**, on the clocks of its zone. The reading that it leads from may be one
that the clocks are set forward over, which no instant shows if the changes of
the zone lie apart. -/
theorem nextAfter_shows (hz : z.IsSound) (hs : s.IsTimed t)
    (hcal : ∀ start, s.Attempt z t now start → s.InCalendar z t start) :
    ∃ next day, s.nextAfter z now = .ok (some next) ∧ now.micros < next.micros
      ∧ (next.plus 0).inRange = true ∧ s.runsOn day = true
      ∧ (∃ fold, next = z.toInstant ⟨.atTime day t.hour t.minute, fold⟩)
      ∧ ((z.toLocal next).wall = .atTime day t.hour t.minute
        ∨ (z.skips (.atTime day t.hour t.minute) = true
          ∧ (z.IsSpaced → ∀ i, (z.toLocal i).wall ≠ .atTime day t.hour t.minute))) := by
  obtain ⟨next, day, fold, hrun, hafter, hin, hruns, hnext⟩ := nextClockRun_eq_ok hs hcal
  have hresult : s.nextAfter z now = .ok (some next) := by
    rw [nextAfter_eq_nextClockRun hs, hrun]
    rfl
  refine ⟨next, day, hresult, hafter, hin, hruns, ⟨fold, hnext⟩, ?_⟩
  rw [hnext]
  rcases hz.toLocal_toInstant ⟨.atTime day t.hour t.minute, fold⟩ with hshown | hskip
  · exact .inl hshown
  · exact .inr ⟨hskip, fun hspaced => hz.toLocal_ne_of_skips hspaced hskip⟩

/-! ### A time of day that comes twice -/

/-- The clocks of central Europe: an hour ahead, and two from the last Sunday of
March to that of October. -/
def centralEurope : Zone where
  base := 3600
  yearly := some ⟨3600, 7200, ⟨3, 5, 0, 7200⟩, ⟨10, 5, 0, 10800⟩⟩

theorem isPlain_of_centralEurope {r : Zone.Yearly} (h : centralEurope.yearly = some r) : r.IsPlain
    ∧ (r.start.month + 2 ≤ r.stop.month ∨ r.stop.month + 2 ≤ r.start.month) := by
  cases h
  exact ⟨⟨by decide, by decide, ⟨by decide, by decide, by decide⟩, ⟨by decide, by decide, by decide⟩,
    by decide, by decide⟩, by decide⟩

theorem isSound_centralEurope : centralEurope.IsSound where
  base := by decide
  changes := by simp [centralEurope]
  ordered := List.Pairwise.nil
  yearly := fun _ hr => (isPlain_of_centralEurope hr).1.isSound

theorem isSpaced_centralEurope : centralEurope.IsSpaced :=
  isSound_centralEurope.isSpaced List.Pairwise.nil (by simp [centralEurope]) fun _ => isPlain_of_centralEurope

/-- Every Sunday at half past two. -/
def sundays : Schedule where
  kind := .weekly
  time := some "02:30"
  dayOfWeek := some 0

/-- Twenty past two on the 25th of October 2026, a Sunday, for the second time. -/
def secondRound : Instant := ⟨63928574400000000⟩

theorem sundays_nextReading : sundays.nextReading ⟨2, 30⟩ (centralEurope.toLocal secondRound)
    = .ok (some ⟨.atTime 739914 2 30, false⟩) := by
  decide +kernel

/-- From an hour later on, the next Sunday is found. -/
theorem sundays_nextReading_later :
    sundays.nextReading ⟨2, 30⟩ (centralEurope.toLocal (secondRound.addSeconds 3600))
      = .ok (some ⟨.atTime 739921 2 30, false⟩) := by
  decide +kernel

/-- The search starts twice. -/
theorem sundays_attempt {start : Instant} (h : sundays.Attempt centralEurope ⟨2, 30⟩ secondRound start) :
    start = secondRound ∨ start = secondRound.addSeconds 3600 := by
  induction h with
  | first => exact .inl rfl
  | again _ hreading hpast ih =>
    rcases ih with rfl | rfl
    · exact .inr rfl
    · rw [sundays_nextReading_later] at hreading
      cases hreading
      exact absurd hpast (by decide +kernel)

theorem sundays_inCalendar {start : Instant} (h : sundays.Attempt centralEurope ⟨2, 30⟩ secondRound start) :
    sundays.InCalendar centralEurope ⟨2, 30⟩ start := by
  rcases sundays_attempt h with rfl | rfl
  · exact .of_reading (by decide) (by decide +kernel) (show 739921 ≤ Date.lastDay by decide) (by decide)
      (by decide +kernel) sundays_nextReading (by decide +kernel)
  · exact .of_reading (by decide) (by decide +kernel) (show 739921 ≤ Date.lastDay by decide) (by decide)
      (by decide +kernel) sundays_nextReading_later (by decide +kernel)

/-- In the second round of an hour whose first round had the time of the
schedule, the next run is the one a week later. -/
theorem nextAfter_shows_second_round : centralEurope.IsSound ∧ sundays.IsTimed ⟨2, 30⟩
    ∧ (∀ start, sundays.Attempt centralEurope ⟨2, 30⟩ secondRound start →
      sundays.InCalendar centralEurope ⟨2, 30⟩ start)
    ∧ ∃ next day, sundays.nextAfter centralEurope secondRound = .ok (some next)
      ∧ secondRound.micros < next.micros ∧ (next.plus 0).inRange = true ∧ sundays.runsOn day = true
      ∧ (∃ fold, next = centralEurope.toInstant ⟨.atTime day 2 30, fold⟩)
      ∧ ((centralEurope.toLocal next).wall = .atTime day 2 30
        ∨ ∀ i, (centralEurope.toLocal i).wall ≠ .atTime day 2 30) := by
  have htimed : sundays.IsTimed ⟨2, 30⟩ := ⟨by decide +kernel, by decide⟩
  have hcal : ∀ start, sundays.Attempt centralEurope ⟨2, 30⟩ secondRound start →
      sundays.InCalendar centralEurope ⟨2, 30⟩ start := fun _ => sundays_inCalendar
  obtain ⟨next, day, hnext, hafter, hin, hruns, hfold, hshown⟩ :=
    nextAfter_shows isSound_centralEurope htimed hcal
  refine ⟨isSound_centralEurope, htimed, hcal, next, day, hnext, hafter, hin, hruns, hfold, ?_⟩
  exact hshown.imp_right fun hskip => hskip.2 isSpaced_centralEurope

end Schedule
end Automation
