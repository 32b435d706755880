/-
# What is accepted has a next run

Whether the fields of a schedule are in order is decided three times: where its
record is read, where it is written back, and where a next run is looked for. For
the schedules that go by a time of day the three agree. One that is read has a
next run after every instant, as far as the calendar goes, and its search looks
through enough months; one whose time is none, or whose day is missing or out of
range, is refused by both checks, and has no next run
(`Schedule.nextAfter_of_accepted`).

Key definitions: `ScheduleKind.isTimed`, `Schedule.Fits`, `Schedule.Unusable`.
Key theorems: `Schedule.Fits.isTimed`, `Document.fits_of_readSchedule`,
`Document.fits_of_checkSchedule`, `Schedule.Unusable.nextAfter_eq`,
`Schedule.nextAfter_of_accepted`.
-/
import Automation.Proofs.Calendar.Showing
import Automation.Proofs.Document.Checked

namespace Automation

namespace ScheduleKind

/-- Whether schedules of a kind go by a time of day. -/
def isTimed : ScheduleKind → Bool
  | .daily | .weekly | .monthly => true
  | _ => false

theorem mem_all_of_isTimed {kind : ScheduleKind} (h : kind.isTimed = true) : kind ∈ all := by
  cases kind with
  | cron | other => cases h
  | _ => decide

/-- The kinds that have runs have different names. -/
theorem eq_of_name_eq {kind other : ScheduleKind} (hkind : kind ∈ all) (hother : other ∈ all)
    (h : kind.name = other.name) : kind = other := by
  have hdistinct : ∀ a ∈ all, ∀ b ∈ all, a.name = b.name → a = b := by decide
  exact hdistinct kind hkind other hother h

end ScheduleKind

namespace Schedule

/-- What the checks of a record ask of a schedule: both day fields are in range if
they are given, and what its kind needs is there. -/
structure Fits (s : Schedule) : Prop where
  dayOfWeek : ∀ d ∈ s.dayOfWeek, 0 ≤ d ∧ d ≤ 6
  dayOfMonth : ∀ d ∈ s.dayOfMonth, 1 ≤ d ∧ d ≤ 31
  complete : Document.unfitSchedule? s = none

/-- A schedule whose time is none, or whose day is missing or out of range. -/
def Unusable (s : Schedule) : Prop := s.time.bind TimeOfDay.parse? = none ∨ s.hasDay = false

variable {s s' : Schedule} {z : Zone} {t : TimeOfDay} {now : Instant}

theorem IsTimed.not_unusable (h : s.IsTimed t) : ¬ s.Unusable := by
  rintro (htime | hday)
  · cases htime.symm.trans h.time
  · cases hday.symm.trans h.day

/-- **A schedule that fits has a time of day, and days to run on.** -/
theorem Fits.isTimed (h : s.Fits) (hkind : s.kind.isTimed = true) : ∃ t, s.IsTimed t := by
  have hcomplete := h.complete
  unfold Document.unfitSchedule? at hcomplete
  cases htime : s.time.bind TimeOfDay.parse? with
  | none =>
    cases hk : s.kind
    all_goals simp [htime, hk, ScheduleKind.isTimed] at hcomplete hkind
  | some t =>
    refine ⟨t, htime, ?_⟩
    unfold hasDay
    cases hk : s.kind with
    | daily => rfl
    | weekly =>
      cases hday : s.dayOfWeek with
      | none => simp [htime, hk, hday] at hcomplete
      | some d => simpa using h.dayOfWeek d hday
    | monthly =>
      cases hday : s.dayOfMonth with
      | none => simp [htime, hk, hday] at hcomplete
      | some d => simpa using h.dayOfMonth d hday
    | cron | other =>
      rw [hk] at hkind
      cases hkind

end Schedule

/-! ### The checks -/

namespace Document

open Checked (valid)

variable {s s' : Schedule} {least most n : Int} {v : Json}

theorem bounds_of_checkBounds {m : Int} (h : checkBounds least (some most) n = .valid m) :
    least ≤ n ∧ n ≤ most := by
  simp only [checkBounds] at h
  split at h
  · cases h
  · split at h
    · cases h
    · omega

theorem bounds_of_readBounded (h : readBounded least (some most) v = .valid n) : least ≤ n ∧ n ≤ most := by
  obtain ⟨m, -, hm⟩ := Checked.andThen_eq_valid.1 h
  have hsame := checkBounds_eq_valid hm
  rw [← hsame]
  exact bounds_of_checkBounds hm

theorem bounds_of_checkOptional {name : String} {found : Option Int}
    (h : checkOptional name least (some most) found = .valid ()) : ∀ d ∈ found, least ≤ d ∧ d ≤ most := by
  intro d hd
  cases hd
  obtain ⟨m, hm, -⟩ := Checked.map_eq_valid.1 (Checked.within_eq_valid.1 h)
  exact bounds_of_checkBounds hm

/-- What is read fits. -/
theorem fits_of_readSchedule (h : readSchedule v = .valid s) : s.Fits := by
  obtain ⟨ms, rfl, h⟩ := readRecord_eq_valid h
  obtain ⟨h, hfit⟩ := Checked.ensure_eq_valid.1 h
  obtain ⟨_, nextRun, h5, -, rfl⟩ := Checked.and_eq_valid.1 h
  obtain ⟨_, cronExpression, h4, -, rfl⟩ := Checked.and_eq_valid.1 h5
  obtain ⟨_, dayOfMonth, h3, hmonthday, rfl⟩ := Checked.and_eq_valid.1 h4
  obtain ⟨_, dayOfWeek, h2, hweekday, rfl⟩ := Checked.and_eq_valid.1 h3
  obtain ⟨_, time, h1, -, rfl⟩ := Checked.and_eq_valid.1 h2
  obtain ⟨_, kind, h0, -, rfl⟩ := Checked.and_eq_valid.1 h1
  cases h0
  refine ⟨fun d hd => ?_, fun d hd => ?_, hfit⟩
  · obtain ⟨_, hread⟩ := optional_nullable_eq_valid hweekday d hd
    exact bounds_of_readBounded hread
  · obtain ⟨_, hread⟩ := optional_nullable_eq_valid hmonthday d hd
    exact bounds_of_readBounded hread

/-- What may be written back fits. -/
theorem fits_of_checkSchedule (h : checkSchedule s = .valid s') : s.Fits := by
  obtain ⟨h, hfit⟩ := Checked.ensure_eq_valid.1 h
  obtain ⟨_, _, h3, hmonthday, rfl⟩ := Checked.and_eq_valid.1 h
  obtain ⟨_, _, h2, hweekday, rfl⟩ := Checked.and_eq_valid.1 h3
  obtain ⟨_, _, h1, -, rfl⟩ := Checked.and_eq_valid.1 h2
  cases h1
  exact ⟨bounds_of_checkOptional hweekday, bounds_of_checkOptional hmonthday, hfit⟩

/-- The record of a schedule, if it is read, is that of a schedule with its fields. -/
theorem fields_of_readSchedule (hs : s.kind.isTimed = true)
    (h : readSchedule (.obj (scheduleFields s)) = .valid s') : s'.kind = s.kind ∧ s'.time = s.time
      ∧ s'.dayOfWeek = s.dayOfWeek ∧ s'.dayOfMonth = s.dayOfMonth := by
  obtain ⟨h, -⟩ := Checked.ensure_eq_valid.1 h
  obtain ⟨_, nextRun, h5, -, rfl⟩ := Checked.and_eq_valid.1 h
  obtain ⟨_, cronExpression, h4, -, rfl⟩ := Checked.and_eq_valid.1 h5
  obtain ⟨_, dayOfMonth, h3, hmonthday, rfl⟩ := Checked.and_eq_valid.1 h4
  obtain ⟨_, dayOfWeek, h2, hweekday, rfl⟩ := Checked.and_eq_valid.1 h3
  obtain ⟨_, time, h1, htime, rfl⟩ := Checked.and_eq_valid.1 h2
  obtain ⟨_, kind, h0, hkind, rfl⟩ := Checked.and_eq_valid.1 h1
  cases h0
  have hkind := read_of_required hkind rfl
  have htime := read_of_optional htime rfl
  rw [nullableText_written] at htime
  have hsame : kind = s.kind := ScheduleKind.eq_of_name_eq (mem_of_readNamed hkind)
    (ScheduleKind.mem_all_of_isTimed hs) (name_of_readNamed hkind)
  exact ⟨hsame, (Checked.valid.inj htime).symm,
    nullableBounded_written (read_of_optional hweekday rfl), nullableBounded_written (read_of_optional hmonthday rfl)⟩

end Document

/-! ### Next runs -/

namespace Schedule

variable {s s' : Schedule} {z : Zone} {t : TimeOfDay} {now : Instant} {here : Zone.Local}

/-- Schedules that share their kind, time and days are unusable together. -/
theorem Unusable.congr (h : s.Unusable) (hkind : s'.kind = s.kind) (htime : s'.time = s.time)
    (hweekday : s'.dayOfWeek = s.dayOfWeek) (hmonthday : s'.dayOfMonth = s.dayOfMonth) : s'.Unusable := by
  have hday : s'.hasDay = s.hasDay := by
    unfold hasDay
    rw [hkind, hweekday, hmonthday]
  rwa [Unusable, htime, hday]

/-- A day that is missing or out of range has no reading. -/
theorem nextReading_of_not_hasDay (h : s.hasDay = false) : s.nextReading t here = .ok none := by
  cases hk : s.kind with
  | daily =>
    simp only [hasDay, hk] at h
    cases h
  | weekly =>
    simp only [hasDay, hk] at h
    simp only [nextReading, hk]
    cases hday : s.dayOfWeek with
    | none => rfl
    | some d =>
      rw [hday, Option.any_some] at h
      simp [h]
  | monthly =>
    simp only [hasDay, hk] at h
    simp only [nextReading, hk]
    cases hday : s.dayOfMonth with
    | none => rfl
    | some d =>
      rw [hday, Option.any_some] at h
      simp [h]
  | cron | other => simp only [nextReading, hk]

/-- **An unusable schedule has no next run.** -/
theorem Unusable.nextAfter_eq (h : s.Unusable) (hkind : s.kind ≠ .cron)
    (hnow : (z.toLocal now).wall.inRange = true) : s.nextAfter z now = .ok none := by
  unfold nextAfter
  simp only [hnow, Bool.not_true, Bool.false_eq_true, if_false]
  cases htime : s.time.bind TimeOfDay.parse? with
  | none => rfl
  | some t =>
    have hday : s.hasDay = false := h.resolve_left (by simp [htime])
    have hrun : nextClockRun z s t now = .ok none := by
      unfold nextClockRun
      simp only [hnow, nextReading_of_not_hasDay hday, Bool.not_true, Bool.false_eq_true, if_false]
    simp only [hrun]
    rfl

/-- **What is accepted has a next run, and what is not has none.** A schedule of
clock times that is read from a record has a time that a day has. From no reading
in the calendar does its search run out of months, and it has a next run after
every instant, if all dates of the search lie in the calendar. A schedule whose
time is none, or whose day is missing or out of range, is refused in every form,
and has no next run after any instant that the clocks of a zone can show. -/
theorem nextAfter_of_accepted (hkind : s.kind.isTimed = true) :
    (∀ v, Document.readSchedule v = .valid s → ∃ t, s.IsTimed t ∧ t.InDay
      ∧ (∀ here d, here.wall.inRange = true → s.nextReading t here ≠ .error (.noMonth d))
      ∧ ∀ z now, (∀ start, s.Attempt z t now start → s.InCalendar z t start) →
        ∃ next, s.nextAfter z now = .ok (some next) ∧ now.micros < next.micros)
    ∧ (s.Unusable → (∀ v, Document.readSchedule v ≠ .valid s)
      ∧ (∃ faults, Document.readSchedule (.obj (Document.scheduleFields s)) = .invalid faults)
      ∧ (∃ faults, Document.checkSchedule s = .invalid faults)
      ∧ ∀ z now, (z.toLocal now).wall.inRange = true → s.nextAfter z now = .ok none) := by
  constructor
  · intro v hread
    obtain ⟨t, ht⟩ := (Document.fits_of_readSchedule hread).isTimed hkind
    refine ⟨t, ht, ht.inDay, fun here d hhere hnone => ?_, fun z now hcal => ?_⟩
    · obtain ⟨day, -, hfinds⟩ := nextReading_finds ht hhere
      rw [hnone] at hfinds
      cases hfinds with
      | beyond _ _ hfound => exact hfound d rfl
    · obtain ⟨next, _, _, hrun, hafter, -⟩ := nextClockRun_eq_ok ht hcal
      refine ⟨next, ?_, hafter⟩
      rw [nextAfter_eq_nextClockRun ht, hrun]
      rfl
  · intro hunusable
    have hnot : ¬ s.Fits := fun hfits => by
      obtain ⟨t, ht⟩ := hfits.isTimed hkind
      exact ht.not_unusable hunusable
    refine ⟨fun v hread => hnot (Document.fits_of_readSchedule hread), ?_, ?_, fun z now hnow => ?_⟩
    · cases hread : Document.readSchedule (.obj (Document.scheduleFields s)) with
      | invalid faults => exact ⟨faults, rfl⟩
      | valid found =>
        obtain ⟨hsame, htime, hweekday, hmonthday⟩ := Document.fields_of_readSchedule hkind hread
        obtain ⟨t, ht⟩ := (Document.fits_of_readSchedule hread).isTimed (hsame ▸ hkind)
        exact absurd (hunusable.congr hsame htime hweekday hmonthday) ht.not_unusable
    · cases hcheck : Document.checkSchedule s with
      | invalid faults => exact ⟨faults, rfl⟩
      | valid found => exact absurd (Document.fits_of_checkSchedule hcheck) hnot
    · refine hunusable.nextAfter_eq ?_ hnow
      intro hcron
      rw [hcron] at hkind
      cases hkind

/-- Five past seven in the evening on the 31st, with an Arabic digit in the hour. -/
def lastEvenings : Schedule where
  kind := .monthly
  time := some "1٩:05"
  dayOfMonth := some 31

/-- Every week at nine, on no day of it. -/
def onNoDay : Schedule where
  kind := .weekly
  time := some "09:00"

/-- The evening of the 31st of January 2026, after five past seven. -/
def januaryEnd : Instant := ⟨63905580000000000⟩

theorem lastEvenings_nextReading : lastEvenings.nextReading ⟨19, 5⟩ (Zone.utc.toLocal januaryEnd)
    = .ok (some ⟨.atTime 739706 19 5, false⟩) := by
  decide +kernel

/-- The 31st of January has passed, February has none, and the run is in March. -/
theorem nextAfter_of_accepted_march : (lastEvenings.kind.isTimed = true ∧ onNoDay.kind.isTimed = true)
    ∧ Document.readSchedule (.obj [("type", .str "monthly"), ("time", .str "1٩:05"), ("dayOfMonth", .int 31)])
      = .valid lastEvenings
    ∧ (∃ next, lastEvenings.nextAfter .utc januaryEnd = .ok (some next) ∧ januaryEnd.micros < next.micros)
    ∧ onNoDay.Unusable ∧ (∀ v, Document.readSchedule v ≠ .valid onNoDay)
    ∧ onNoDay.nextAfter .utc januaryEnd = .ok none := by
  have hread : Document.readSchedule
      (.obj [("type", .str "monthly"), ("time", .str "1٩:05"), ("dayOfMonth", .int 31)])
        = .valid lastEvenings := rfl
  have htime : lastEvenings.time.bind TimeOfDay.parse? = some ⟨19, 5⟩ := by decide +kernel
  have hahead : januaryEnd.micros < (Zone.utc.toInstant ⟨.atTime 739706 19 5, false⟩).micros := by decide +kernel
  have hunusable : onNoDay.Unusable := .inr (by decide)
  obtain ⟨t, ht, -, -, hruns⟩ := (nextAfter_of_accepted (s := lastEvenings) rfl).1 _ hread
  obtain ⟨hrefused, -, -, hnone⟩ := (nextAfter_of_accepted (s := onNoDay) rfl).2 hunusable
  have hsame : t = ⟨19, 5⟩ := Option.some.inj (ht.time.symm.trans htime)
  have hcal : ∀ start, lastEvenings.Attempt .utc t januaryEnd start → lastEvenings.InCalendar .utc t start := by
    intro start hstart
    rw [hsame] at hstart ⊢
    rw [hstart.eq_of_lt lastEvenings_nextReading hahead]
    exact .of_reading (by decide) (by decide +kernel) (show 739706 ≤ Date.lastDay by decide) (by decide)
      (by decide +kernel) lastEvenings_nextReading (by decide +kernel)
  exact ⟨⟨rfl, rfl⟩, hread, hruns .utc januaryEnd hcal, hunusable, hrefused,
    hnone .utc januaryEnd (by decide +kernel)⟩

end Schedule
end Automation
