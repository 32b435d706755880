/-
# Timestamps that readers make

A timestamp that is read, from a text, an integer or a double, lies in the
years 1 to 9999, and the offset of its clock is whole minutes and less than a
day. These are the timestamps whose own text can be read.

Key definitions: `Timestamp.IsLegibleOffset`, `Timestamp.Legible`.
Key theorems: `Timestamp.legible_of_readText`, `Timestamp.legible_of_ofInt`,
`Timestamp.legible_of_ofDouble`.
-/
import Automation.Calendar.Reading
import Automation.Proofs.Calendar.Date
import Automation.Proofs.Number.Digits
import Mathlib

namespace Automation

namespace Timestamp

/-! ### Legible timestamps -/

/-- An offset, if there is one, of whole minutes and less than a day. -/
def IsLegibleOffset (found : Option Int) : Prop :=
  ∀ offset ∈ found, offset % 60 = 0 ∧ -86400 < offset ∧ offset < 86400

/-- A timestamp whose text can be read. -/
structure Legible (t : Timestamp) : Prop where
  notBefore : Date.firstDay ≤ t.wall.day
  notAfter : t.wall.day ≤ Date.lastDay
  offset : IsLegibleOffset t.offset

theorem checkYear_eq_ok {t u : Timestamp} :
    t.checkYear = .ok u ↔ Date.firstDay ≤ t.wall.day ∧ t = u := by
  unfold checkYear
  by_cases h : t.wall.day < Date.firstDay
  · rw [if_pos h]
    constructor
    · intro hu
      cases hu
    · rintro ⟨hday, -⟩
      omega
  · rw [if_neg h, Except.ok.injEq]
    exact ⟨fun hu => ⟨by omega, hu⟩, And.right⟩

/-- A reading of a date and a time of day has that date. -/
theorem day_ofDay {day timeOfDay : Int} (h0 : 0 ≤ timeOfDay) (h1 : timeOfDay < microsPerDay) :
    (Wall.ofDay day timeOfDay).day = day := by
  simp only [Wall.day, Wall.ofDay, microsPerDay, microsPerSecond] at h1 ⊢
  omega

theorem takeDate_valid {cs rest : List Char} {date : Date} (h : takeDate cs = .ok (date, rest)) :
    date.isValid = true ∧ date.year ≤ 9999 := by
  unfold takeDate at h
  split at h
  · rename_i y1 y2 y3 y4 s1 m1 m2 s2 d1 d2 tail
    split at h
    · cases h
    · rename_i hyear
      have hyear : ∀ y ∈ [y1, y2, y3, y4], y.isDigit = true := by simpa using hyear
      have hlt := digitsValue_lt _ hyear
      have hlength : [y1, y2, y3, y4].length = 4 := rfl
      rw [hlength] at hlt
      dsimp only at h
      repeat' split at h
      all_goals cases h
      rename_i hvalid
      refine ⟨by simpa using hvalid, ?_⟩
      show (digitsValue [y1, y2, y3, y4] : Int) ≤ 9999
      omega
  · cases h

/-- The offset of a text is whole minutes and less than a day. -/
theorem readOffset_bounds {cs : List Char} {found : Option Int} (h : readOffset cs = some found) :
    IsLegibleOffset found := by
  intro offset hoffset
  unfold readOffset at h
  split at h
  · cases h
    cases hoffset
  · cases h
    cases hoffset
    decide
  · cases h
    cases hoffset
    decide
  · dsimp only at h
    repeat' split at h
    all_goals cases h
    all_goals
      rename_i hbound _
      rw [Bool.and_eq_true, decide_eq_true_eq, decide_eq_true_eq] at hbound
      cases hoffset
      omega

theorem takeDigits_isDigit (cs : List Char) : ∀ d ∈ (takeDigits cs).1, d.isDigit = true :=
  fun _ hd => List.mem_takeWhile_imp hd

theorem fractionMicros_lt {ds : List Char} (h : ∀ d ∈ ds, d.isDigit = true) :
    fractionMicros ds < 1000000 := by
  have hdigits : ∀ d ∈ (ds ++ List.replicate 6 '0').take 6, d.isDigit = true := by
    intro d hd
    rcases List.mem_append.1 (List.mem_of_mem_take hd) with hd | hd
    · exact h d hd
    · rw [List.eq_of_mem_replicate hd]
      decide
  have hlength : ((ds ++ List.replicate 6 '0').take 6).length = 6 := by simp
  have hlt := digitsValue_lt _ hdigits
  rwa [hlength] at hlt

theorem takeSeconds_lt {cs after : List Char} {micros : Nat}
    (h : takeSeconds cs = some (micros, after)) : micros < 60000000 := by
  unfold takeSeconds at h
  split at h
  · split at h
    · cases h
    · rename_i s _
      split at h
      · cases h
      · split at h
        · rename_i c more
          split at h
          · have hlt := fractionMicros_lt (takeDigits_isDigit more)
            simp only at h
            split at h
            · cases h
            · cases h
              omega
          · cases h
            omega
        · cases h
          omega
  · cases h
  · cases h
    omega

/-- The time of day of a text lies in the day. -/
theorem readTime_bounds {cs : List Char} {micros : Nat} {offset : Option Int}
    (h : readTime cs = some (micros, offset)) :
    micros < 86400000000 ∧ ∃ after, readOffset after = some offset := by
  unfold readTime at h
  split at h
  · rename_i a b c d rest
    simp only [Option.bind_eq_bind, Option.bind_eq_some_iff] at h
    obtain ⟨hours, -, minutes, -, h⟩ := h
    split at h
    · cases h
    · rename_i hbound
      simp only [Bool.or_eq_true, decide_eq_true_eq, not_or, Nat.not_lt] at hbound
      simp only [Option.bind_eq_some_iff] at h
      obtain ⟨⟨seconds, after⟩, hseconds, found, hfound, h⟩ := h
      have hlt := takeSeconds_lt hseconds
      cases h
      exact ⟨by omega, after, hfound⟩
  · cases h

theorem legible_of_readDateTime {cs : List Char} {t u : Timestamp} (h : readDateTime cs = some t)
    (hyear : t.checkYear = .ok u) : u.Legible := by
  obtain ⟨hday, rfl⟩ := checkYear_eq_ok.1 hyear
  unfold readDateTime at h
  split at h
  · rename_i date sep rest hdate
    split at h
    · rw [Option.map_eq_some_iff] at h
      obtain ⟨⟨micros, offset⟩, htime, rfl⟩ := h
      obtain ⟨hvalid, hlast⟩ := takeDate_valid hdate
      obtain ⟨hmicros, after, hoffset⟩ := readTime_bounds htime
      refine ⟨hday, ?_, readOffset_bounds hoffset⟩
      show (Wall.ofDay date.toDay micros).day ≤ Date.lastDay
      rw [day_ofDay (by omega) (by simp only [microsPerDay, microsPerSecond]; omega)]
      exact Date.toDay_le_lastDay hlast hvalid
    · cases h
  · cases h

theorem legible_of_readDate {cs : List Char} {date : Date} {u : Timestamp}
    (h : readDate cs = .ok date) (hyear : checkYear ⟨.ofDay date.toDay 0, none⟩ = .ok u) :
    u.Legible := by
  obtain ⟨hday, rfl⟩ := checkYear_eq_ok.1 hyear
  unfold readDate at h
  split at h
  · rename_i found hdate
    cases h
    obtain ⟨hvalid, hlast⟩ := takeDate_valid hdate
    refine ⟨hday, ?_, by simp [IsLegibleOffset]⟩
    show (Wall.ofDay date.toDay 0).day ≤ Date.lastDay
    rw [day_ofDay (by omega) (by decide)]
    exact Date.toDay_le_lastDay hlast hvalid
  · cases h
  · cases h

/-- A count ends with the last second of the year 9999. -/
theorem legible_of_ofCount {n micros : Int} {t u : Timestamp} (h : ofCount n micros = .ok t)
    (hyear : t.checkYear = .ok u) : u.Legible := by
  obtain ⟨hday, rfl⟩ := checkYear_eq_ok.1 hyear
  unfold ofCount at h
  split at h
  · cases h
  · dsimp only at h
    split at h
    · cases h
    · split at h
      · cases h
      · rename_i hlast
        cases h
        refine ⟨hday, ?_, by simp [IsLegibleOffset, ofInstant]⟩
        simp only [ofInstant, Wall.day, Instant.plus, Instant.addMicros, Instant.addSeconds,
          Instant.epoch, Wall.ofDay, Wall.minus, microsPerDay, microsPerSecond, Date.lastDay,
          latestSecond] at hlast ⊢
        omega

theorem legible_of_ofInt {n : Int} {u : Timestamp} (h : ofInt n = .ok u) : u.Legible := by
  unfold ofInt at h
  split at h
  · rename_i t hcount
    exact legible_of_ofCount hcount h
  · cases h

theorem legible_of_ofDouble {x : Double} {u : Timestamp} (h : ofDouble x = .ok u) : u.Legible := by
  unfold ofDouble at h
  split at h
  · cases h
  · split at h
    · rename_i t hcount
      exact legible_of_ofCount hcount h
    · cases h

/-- A timestamp that a text writes is legible, however the text writes it. -/
theorem legible_of_readText {text : String} {u : Timestamp} (h : readText text = .ok u) :
    u.Legible := by
  unfold readText at h
  dsimp only at h
  split at h
  · rename_i t htext
    exact legible_of_readDateTime htext h
  · split at h
    · split at h
      · rename_i t hcount
        exact legible_of_ofCount hcount h
      · cases h
    · split at h
      · rename_i date hdate
        exact legible_of_readDate hdate h
      · split at h
        · rename_i x _
          cases hx : ofDouble x with
          | ok t =>
            rw [hx] at h
            cases h
            exact legible_of_ofDouble hx
          | error fault =>
            rw [hx] at h
            cases h
        · cases h

end Timestamp
end Automation
