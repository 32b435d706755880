/-
# The dates of a daily schedule

A daily schedule is there for one run on every date. On clocks that are set back
it may have two: a search that starts in the second round of a reading looks for
the time of the date that the clocks show in that round too, though the first
round has had it. That is the only way to a second run on a date, or on one before
it (`Schedule.nextAfter_later_date`), but for runs that are put off past midnight,
where clocks are set forward over the time of the schedule. A weekly schedule looks
in the first round only and has no second run on a date
(`Schedule.nextAfter_weekly_later_date`).

Key definitions: `TimeOfDay.IsToCome`, `Schedule.ComesAgain`.
Key theorems: `Schedule.nextClockRun_reading`, `Schedule.Attempt.nextClockRun_eq`,
`Schedule.day_lt_of_first_round`, `Schedule.nextAfter_weekly_later_date`,
`Schedule.nextAfter_later_date`.
-/
import Automation.Proofs.Calendar.Showing
import Automation.Proofs.Document.Checked
import Automation.Proofs.Zone.Rounds

namespace Automation

/-- A later reading is not on an earlier date. -/
theorem Wall.day_le_of_le {v w : Wall} (h : v.micros ≤ w.micros) : v.day ≤ w.day :=
  Int.ediv_le_ediv (by decide) h

/-- Whether a time of day is still to come on the date that clocks show. -/
def TimeOfDay.IsToCome (t : TimeOfDay) (z : Zone) (i : Instant) : Prop :=
  (z.toLocal i).wall.micros < (Wall.atTime (z.toLocal i).wall.day t.hour t.minute).micros

namespace Schedule

variable {s : Schedule} {z : Zone} {t : TimeOfDay} {now start earlier m a b next : Instant} {day : Int}
  {here reading : Zone.Local}

/-! ### Where a search ends -/

theorem Attempt.le (h : s.Attempt z t now start) : now.micros ≤ start.micros := by
  induction h with
  | first => exact Int.le_refl _
  | again _ _ _ ih =>
    simp only [Instant.addSeconds, microsPerSecond]
    omega

/-- A next run is that of the reading which some attempt finds ahead of it. -/
theorem nextClockRun_reading (h : nextClockRun z s t now = .ok (some next)) : ∃ start reading,
    s.Attempt z t now start ∧ s.nextReading t (z.toLocal start) = .ok (some reading)
      ∧ next = z.toInstant reading ∧ start.micros < next.micros := by
  fun_induction nextClockRun z s t now with
  | case5 now here hhere reading hreading result hresult hpast hrange ih =>
    obtain ⟨start, found, hattempt, hfound⟩ := ih h
    exact ⟨start, found, (Attempt.first.again hreading hpast).trans hattempt, hfound⟩
  | case7 now here hhere reading hreading result hresult hahead =>
    have hnext : result = next := Option.some.inj (Except.ok.inj h)
    rw [← hnext]
    exact ⟨now, reading, .first, hreading, rfl, Int.not_le.1 hahead⟩
  | _ => cases h

/-- A search goes on from each of its attempts. -/
theorem Attempt.nextClockRun_eq (h : s.Attempt z t now start)
    (hcal : ∀ start, s.Attempt z t now start → s.InCalendar z t start) :
    nextClockRun z s t now = nextClockRun z s t start := by
  induction h with
  | first => rfl
  | @again start reading hattempt hreading hpast ih =>
    have hin := hcal _ hattempt
    have hrange : ((start.addSeconds 3600).plus 0).inRange = true := (hcal _ (hattempt.again hreading hpast)).instant
    rw [ih, nextClockRun]
    simp only [hin.wall, hin.result reading hreading, hreading, hpast, hrange, Bool.not_true, Bool.false_eq_true,
      if_true, if_false, dite_true]

/-! ### The round of a reading -/

theorem eq_of_atTime (h : atTime day t = .ok reading) : reading = ⟨.atTime day t.hour t.minute, false⟩ := by
  unfold atTime Wall.checked at h
  split at h
  · cases h
    rfl
  · cases h

/-- A daily schedule finds its time on the date that the clocks show, in the round
that they show it in, or on the date after it, in the first round. -/
theorem nextReading_daily (hkind : s.kind = .daily)
    (h : s.nextReading t here = .ok (some reading)) : ∃ day, reading.wall = .atTime day t.hour t.minute
      ∧ here.wall.micros < (Wall.atTime day t.hour t.minute).micros
      ∧ (day = here.wall.day ∧ reading.fold = here.fold ∨ reading.fold = false) := by
  simp only [nextReading, hkind] at h
  obtain ⟨found, hfound, hsame⟩ := Except.of_map_eq_ok h
  cases hsame
  unfold nextDaily at hfound
  dsimp only at hfound
  split at hfound
  · rw [eq_of_atTime hfound]
    exact ⟨_, rfl, Wall.lt_atTime_of_day_lt (by omega), .inr rfl⟩
  · rename_i hahead
    cases hfound
    exact ⟨_, rfl, by omega, .inl ⟨rfl, rfl⟩⟩

/-- A weekly schedule finds its time in the first round, whatever the clocks show. -/
theorem nextReading_weekly (hkind : s.kind = .weekly) (ht : t.InDay)
    (h : s.nextReading t here = .ok (some reading)) : ∃ day, reading = ⟨.atTime day t.hour t.minute, false⟩
      ∧ here.wall.micros < (Wall.atTime day t.hour t.minute).micros := by
  simp only [nextReading, hkind] at h
  split at h
  · rename_i weekday _
    split at h
    · obtain ⟨found, hfound, hsame⟩ := Except.of_map_eq_ok h
      cases hsame
      obtain ⟨first, hfirst, hfound⟩ := Except.of_bind_eq_ok hfound
      rw [eq_of_atTime hfirst] at hfound
      split at hfound
      · refine ⟨_, eq_of_atTime hfound, Wall.lt_atTime_of_day_lt ?_⟩
        rw [Wall.day_atTime ht]
        omega
      · rename_i hahead
        cases hfound
        exact ⟨_, rfl, Int.not_le.1 hahead⟩
    · cases h
  · cases h

theorem nextReading_today (hkind : s.kind = .daily)
    (hahead : here.wall.micros < (Wall.atTime here.wall.day t.hour t.minute).micros) :
    s.nextReading t here = .ok (some ⟨.atTime here.wall.day t.hour t.minute, here.fold⟩) := by
  simp only [nextReading, hkind, nextDaily, if_neg (Int.not_le.2 hahead)]
  rfl

/-! ### The dates of two runs -/

/-- An attempt in the second round of a reading, on a date no later than `day` whose
time is still to come in that round. -/
structure ComesAgain (s : Schedule) (z : Zone) (t : TimeOfDay) (now : Instant) (day : Int) (start : Instant) :
    Prop where
  attempt : s.Attempt z t now start
  fold : (z.toLocal start).fold = true
  toCome : t.IsToCome z start
  date : (z.toLocal start).wall.day ≤ day

section Dates

variable (hz : z.IsSound) (hspaced : z.IsSpaced) (ht : t.InDay)

include hz hspaced ht

/-- What is found in the first round falls on a later date than a run that showed
the time of its own date. -/
theorem day_lt_of_first_round (hshown : ¬ t.IsToCome z a) (hstart : a.micros ≤ start.micros)
    (hahead : (z.toLocal start).wall.micros < (Wall.atTime day t.hour t.minute).micros)
    (hafter : start.micros < (z.toInstant ⟨.atTime day t.hour t.minute, false⟩).micros) :
    (z.toLocal a).wall.day < (z.toLocal (z.toInstant ⟨.atTime day t.hour t.minute, false⟩)).wall.day := by
  have hpast : (Wall.atTime (z.toLocal a).wall.day t.hour t.minute).micros ≤ (z.toLocal a).wall.micros :=
    Int.not_lt.1 hshown
  cases hskip : z.skips (.atTime day t.hour t.minute) with
  | false =>
    have hshows := (hz.toLocal_toInstant ⟨.atTime day t.hour t.minute, false⟩).resolve_right (by simp [hskip])
    rw [hshows, Wall.day_atTime ht]
    -- otherwise the first round was over when `a` came
    by_contra hle
    have hday : (Wall.atTime day t.hour t.minute).micros
        ≤ (Wall.atTime (z.toLocal a).wall.day t.hour t.minute).micros :=
      Int.not_lt.1 (mt Wall.atTime_lt_iff.1 hle)
    have := hz.toInstant_le_of_le_wall hspaced hskip (Int.le_trans hday hpast)
    omega
  | true =>
    have hbefore := hz.wall_lt_of_skips hspaced hskip hstart hahead
    have hlater : (z.toLocal a).wall.day < day := Wall.atTime_lt_iff.1 (Int.lt_of_le_of_lt hpast hbefore)
    have hle := Wall.day_le_of_le (hz.le_wall_toInstant hspaced hskip)
    rw [Wall.day_atTime ht] at hle
    omega

/-- A search finds the time of the date that the clocks show if it is still to come
and not skipped. -/
theorem found_today (hkind : s.kind = .daily) (hcal : s.InCalendar z t start) (htoCome : t.IsToCome z start)
    (hkept : z.skips (.atTime (z.toLocal start).wall.day t.hour t.minute) = false) :
    ∃ next, nextClockRun z s t start = .ok (some next)
      ∧ (z.toLocal next).wall.day = (z.toLocal start).wall.day := by
  have hreading := nextReading_today hkind htoCome
  have hshows := fun fold => (hz.toLocal_toInstant
    ⟨.atTime (z.toLocal start).wall.day t.hour t.minute, fold⟩).resolve_right (by simp [hkept])
  have hafter : start.micros
      < (z.toInstant ⟨.atTime (z.toLocal start).wall.day t.hour t.minute, (z.toLocal start).fold⟩).micros := by
    cases hround : (z.toLocal start).fold with
    | true => exact hz.lt_toInstant_of_wall_lt hspaced hkept htoCome
    | false =>
      -- in a first round the clocks have not gone back since
      by_contra hpast
      have hback := hz.fold_of_wall_lt hspaced (Int.not_lt.1 hpast) (by rw [hshows]; exact htoCome)
      rw [hround] at hback
      cases hback
  refine ⟨z.toInstant ⟨.atTime (z.toLocal start).wall.day t.hour t.minute, (z.toLocal start).fold⟩, ?_, ?_⟩
  · rw [nextClockRun_of_reading hcal.wall hreading hafter, if_pos (hcal.result _ hreading)]
  · rw [hshows, Wall.day_atTime ht]

/-- An attempt at which the time comes again finds it, on the date of the attempt. -/
theorem ComesAgain.found (hkind : s.kind = .daily) (h : s.ComesAgain z t m (z.toLocal a).wall.day start)
    (hcal : s.InCalendar z t start) (hshown : ¬ t.IsToCome z a) (hstart : a.micros ≤ start.micros) :
    ∃ next, nextClockRun z s t start = .ok (some next)
      ∧ (z.toLocal next).wall.day = (z.toLocal start).wall.day := by
  refine found_today hz hspaced ht hkind hcal h.toCome ?_
  rw [← Bool.not_eq_true]
  intro hskip
  have hbefore := hz.wall_lt_of_skips hspaced hskip hstart h.toCome
  have hlater := Wall.atTime_lt_iff.1 (Int.lt_of_le_of_lt (Int.not_lt.1 hshown) hbefore)
  have := h.date
  omega

/-- A next run falls on a later date than `a`, or its attempt comes again. -/
theorem day_lt_or_comesAgain (hkind : s.kind = .daily) (hshown : ¬ t.IsToCome z a) (hm : a.micros ≤ m.micros)
    (hrun : nextClockRun z s t m = .ok (some b)) : (z.toLocal a).wall.day < (z.toLocal b).wall.day
      ∨ ∃ start, s.ComesAgain z t m (z.toLocal a).wall.day start := by
  obtain ⟨start, reading, hattempt, hreading, rfl, hahead⟩ := nextClockRun_reading hrun
  have hstart := hattempt.le
  obtain ⟨day, hwall, htoCome, hround⟩ := nextReading_daily hkind hreading
  cases hfold : reading.fold with
  | false =>
    have hreads : reading = ⟨.atTime day t.hour t.minute, false⟩ := by rw [← hwall, ← hfold]
    rw [hreads] at hahead ⊢
    exact .inl (day_lt_of_first_round hz hspaced ht hshown (by omega) htoCome hahead)
  | true =>
    obtain ⟨hday, hsecond⟩ := hround.resolve_right (by simp [hfold])
    have hround : (z.toLocal start).fold = true := hsecond.symm.trans hfold
    -- the clocks do not go back from the attempt to the run
    have hdate := Wall.day_le_of_le (hz.wall_le_of_fold hspaced hround (Int.le_of_lt hahead))
    rw [hday] at htoCome
    by_cases hlater : (z.toLocal a).wall.day < (z.toLocal (z.toInstant reading)).wall.day
    · exact .inl hlater
    · exact .inr ⟨start, hattempt, hround, htoCome, by omega⟩

omit ht in
/-- A search that starts in the first round of a reading starts once. -/
theorem Attempt.eq_of_first_round (hkind : s.kind = .daily) (hround : (z.toLocal m).fold = false)
    (h : s.Attempt z t m start) : start = m := by
  induction h with
  | first => rfl
  | @again start reading _ hreading hpast ih =>
    rw [ih] at hreading hpast
    obtain ⟨day, hwall, hahead, hfirst⟩ := nextReading_daily hkind hreading
    have hfold : reading.fold = false := hfirst.elim (fun h => h.2.trans hround) id
    have hreads : reading = ⟨.atTime day t.hour t.minute, false⟩ := by rw [← hwall, ← hfold]
    rw [hreads] at hpast
    -- the clocks would have gone back since the reading
    have hshown : (Wall.atTime day t.hour t.minute).micros
        ≤ (z.toLocal (z.toInstant ⟨.atTime day t.hour t.minute, false⟩)).wall.micros := by
      rcases hz.toLocal_toInstant ⟨.atTime day t.hour t.minute, false⟩ with hshows | hskip
      · rw [hshows]
      · exact hz.le_wall_toInstant hspaced hskip
    have hback := hz.fold_of_wall_lt hspaced hpast (Int.lt_of_lt_of_le hahead hshown)
    rw [hround] at hback
    cases hback

end Dates

/-- A run whose date has the time of the schedule still to come leads from a reading
that is skipped. -/
theorem skips_of_isToCome (hz : z.IsSound) (hkind : s.kind = .daily) (hs : s.IsTimed t)
    (ha : s.nextAfter z earlier = .ok (some a)) (htoCome : t.IsToCome z a) : ∃ day fold,
      z.skips (.atTime day t.hour t.minute) = true ∧ a = z.toInstant ⟨.atTime day t.hour t.minute, fold⟩ := by
  rw [nextAfter_eq_nextClockRun hs] at ha
  obtain ⟨start, reading, -, hreading, rfl, -⟩ := nextClockRun_reading (Except.of_mapError_eq_ok ha)
  obtain ⟨day, hwall, -, -⟩ := nextReading_daily hkind hreading
  refine ⟨day, reading.fold, ?_, by rw [← hwall]⟩
  rcases hz.toLocal_toInstant reading with hshows | hskip
  · rw [TimeOfDay.IsToCome, hshows, hwall, Wall.day_atTime hs.inDay] at htoCome
    omega
  · rw [← hwall]
    exact hskip

/-- Of two runs of a weekly schedule the second falls on a later date, whatever round
its search starts in. -/
theorem nextAfter_weekly_later_date (hz : z.IsSound) (hspaced : z.IsSpaced) (hkind : s.kind = .weekly)
    (hs : s.IsTimed t) (hm : a.micros ≤ m.micros) (hshown : ¬ t.IsToCome z a)
    (hcal : ∀ start, s.Attempt z t m start → s.InCalendar z t start) :
    ∃ b, s.nextAfter z m = .ok (some b) ∧ (z.toLocal a).wall.day < (z.toLocal b).wall.day := by
  obtain ⟨b, -, -, hrun, -⟩ := nextClockRun_eq_ok hs hcal
  obtain ⟨start, reading, hattempt, hreading, rfl, hahead⟩ := nextClockRun_reading hrun
  have hstart := hattempt.le
  obtain ⟨day, rfl, htoCome⟩ := nextReading_weekly hkind hs.inDay hreading
  refine ⟨_, ?_, day_lt_of_first_round hz hspaced hs.inDay hshown (by omega) htoCome hahead⟩
  rw [nextAfter_eq_nextClockRun hs, hrun]
  rfl

/-- **Of two runs of a daily schedule the second falls on a later date, unless its
search starts in a second round.** The next run after an instant that is not before
a run `a` comes after `a`, and on a later date of its zone, if and only if no attempt
of its search lies in the second round of a reading, on the date of `a` or an earlier
one whose time is still to come in that round; none does if the search starts in a
first round. That leaves out runs whose reading the clocks were set forward over,
past midnight: on the date that they show the time of the schedule is still to come,
and while it is the next run falls on that date too. -/
theorem nextAfter_later_date (hz : z.IsSound) (hspaced : z.IsSpaced) (hkind : s.kind = .daily)
    (hs : s.IsTimed t) (ha : s.nextAfter z earlier = .ok (some a)) (hm : a.micros ≤ m.micros)
    (hcal : ∀ start, s.Attempt z t m start → s.InCalendar z t start) :
    ∃ b, s.nextAfter z m = .ok (some b) ∧ a.micros < b.micros
      ∧ (¬ t.IsToCome z a → ((z.toLocal a).wall.day < (z.toLocal b).wall.day
        ↔ ¬ ∃ start, s.ComesAgain z t m (z.toLocal a).wall.day start))
      ∧ ((z.toLocal m).fold = false → ¬ ∃ start, s.ComesAgain z t m (z.toLocal a).wall.day start)
      ∧ (t.IsToCome z a → ∃ day fold, z.skips (.atTime day t.hour t.minute) = true
        ∧ a = z.toInstant ⟨.atTime day t.hour t.minute, fold⟩)
      ∧ (t.IsToCome z m → z.skips (.atTime (z.toLocal m).wall.day t.hour t.minute) = false →
        (z.toLocal b).wall.day = (z.toLocal m).wall.day) := by
  obtain ⟨b, -, -, hrun, hafter, -⟩ := nextClockRun_eq_ok hs hcal
  have hresult : s.nextAfter z m = .ok (some b) := by
    rw [nextAfter_eq_nextClockRun hs, hrun]
    rfl
  refine ⟨b, hresult, by omega, fun hshown => ⟨?_, fun hnone => ?_⟩, ?_, skips_of_isToCome hz hkind hs ha,
    fun htoCome hkept => ?_⟩
  · rintro hlater ⟨start, hagain⟩
    have hstart := hagain.attempt.le
    obtain ⟨next, hnext, hdate⟩ :=
      hagain.found hz hspaced hs.inDay hkind (hcal _ hagain.attempt) hshown (by omega)
    rw [hagain.attempt.nextClockRun_eq hcal, hnext] at hrun
    cases hrun
    have := hagain.date
    omega
  · exact (day_lt_or_comesAgain hz hspaced hs.inDay hkind hshown hm hrun).resolve_right hnone
  · rintro hround ⟨start, hagain⟩
    have hfold := hagain.fold
    rw [hagain.attempt.eq_of_first_round hz hspaced hkind hround, hround] at hfold
    cases hfold
  · obtain ⟨next, hnext, hdate⟩ := found_today hz hspaced hs.inDay hkind (hcal m .first) htoCome hkept
    rw [hnext] at hrun
    cases hrun
    exact hdate

/-- Every night at half past two. -/
def nights : Schedule where
  kind := .daily
  time := some "02:30"

/-- Two o'clock on the 25th of October 2026, for the first time, and half past two. -/
def firstRound : Instant := ⟨63928569600000000⟩

def firstHalf : Instant := ⟨63928571400000000⟩

theorem nights_isTimed : nights.IsTimed ⟨2, 30⟩ := ⟨by decide +kernel, by decide⟩

theorem nights_nextAfter : nights.nextAfter centralEurope firstRound = .ok (some firstHalf) := by
  have hinstant : centralEurope.toInstant ⟨.atTime 739914 2 30, false⟩ = firstHalf := by decide +kernel
  have hreading : nights.nextReading ⟨2, 30⟩ (centralEurope.toLocal firstRound)
      = .ok (some ⟨.atTime 739914 2 30, false⟩) := by decide +kernel
  rw [nextAfter_eq_nextClockRun nights_isTimed, nextClockRun_of_reading (by decide +kernel)
    hreading (by decide +kernel), hinstant]
  rfl

theorem nights_nextReading : nights.nextReading ⟨2, 30⟩ (centralEurope.toLocal secondRound)
    = .ok (some ⟨.atTime 739914 2 30, true⟩) := by
  decide +kernel

/-- In the second round of the hour the night has its second run. -/
theorem nextAfter_later_date_second_round : centralEurope.IsSound ∧ centralEurope.IsSpaced
    ∧ nights.kind = .daily ∧ nights.IsTimed ⟨2, 30⟩
    ∧ nights.nextAfter centralEurope firstRound = .ok (some firstHalf) ∧ firstHalf.micros ≤ secondRound.micros
    ∧ (∀ start, nights.Attempt centralEurope ⟨2, 30⟩ secondRound start →
      nights.InCalendar centralEurope ⟨2, 30⟩ start)
    ∧ ∃ b, nights.nextAfter centralEurope secondRound = .ok (some b) ∧ firstHalf.micros < b.micros
      ∧ ¬ (centralEurope.toLocal firstHalf).wall.day < (centralEurope.toLocal b).wall.day := by
  have hahead : secondRound.micros < (centralEurope.toInstant ⟨.atTime 739914 2 30, true⟩).micros := by
    decide +kernel
  have hcal : ∀ start, nights.Attempt centralEurope ⟨2, 30⟩ secondRound start →
      nights.InCalendar centralEurope ⟨2, 30⟩ start := by
    intro start hstart
    rw [hstart.eq_of_lt nights_nextReading hahead]
    exact .of_reading (by decide) (by decide +kernel) (show 739914 ≤ Date.lastDay by decide) (by decide)
      (by decide +kernel) nights_nextReading (by decide +kernel)
  obtain ⟨b, hb, hafter, hdate, -⟩ := nextAfter_later_date isSound_centralEurope isSpaced_centralEurope rfl
    nights_isTimed nights_nextAfter (by decide) hcal
  refine ⟨isSound_centralEurope, isSpaced_centralEurope, rfl, nights_isTimed, nights_nextAfter, by decide,
    hcal, b, hb, hafter, ?_⟩
  have hagain : nights.ComesAgain centralEurope ⟨2, 30⟩ secondRound (centralEurope.toLocal firstHalf).wall.day
      secondRound :=
    ⟨.first, by decide +kernel, show _ < _ by decide +kernel, by decide +kernel⟩
  have hshown : ¬ TimeOfDay.IsToCome ⟨2, 30⟩ centralEurope firstHalf := show ¬ _ < _ by decide +kernel
  exact fun hlater => (hdate hshown).1 hlater ⟨secondRound, hagain⟩

end Schedule
end Automation
