/-
# The text of a timestamp is read as the timestamp

The text of a legible timestamp is a date, the letter `T`, a time of day with
six digits of a fraction if there is one, and an offset. Each of them is taken
off the text as it was written, so the timestamp comes back with its wall
clock and its offset.

Key definitions: `Timestamp.wireOffset`, `Timestamp.fractionDigits`,
`Timestamp.EndsSecond`.
Key theorems: `Timestamp.digitsValue_decimals`, `Timestamp.readText_wireText`.
-/
import Automation.Proofs.Calendar.Legible

namespace Automation
namespace Timestamp

/-! ### Digits -/

theorem digit_spec {k : Nat} (h : k < 10) :
    (Char.ofNat (48 + k)).isDigit = true ∧ (Char.ofNat (48 + k)).toNat - 48 = k := by
  revert k
  decide

theorem decimals_length : ∀ width n : Nat, (decimals width n).length = width
  | 0, _ => rfl
  | width + 1, n => by
    rw [decimals, List.length_append, decimals_length width, List.length_singleton]

theorem decimals_isDigit : ∀ (width n : Nat), ∀ c ∈ decimals width n, c.isDigit = true
  | 0, _, c, hc => by simp [decimals] at hc
  | width + 1, n, c, hc => by
    rw [decimals, List.mem_append, List.mem_singleton] at hc
    rcases hc with hc | rfl
    · exact decimals_isDigit width _ c hc
    · exact (digit_spec (Nat.mod_lt n (by omega))).1

/-- The last digits of a number write its remainder. -/
theorem digitsValue_decimals : ∀ width n : Nat, digitsValue (decimals width n) = n % 10 ^ width
  | 0, n => by simp [decimals, digitsValue, Nat.mod_one]
  | width + 1, n => by
    rw [decimals, digitsValue_append, digitsValue_decimals width,
      (digit_spec (Nat.mod_lt n (by omega))).2, Nat.pow_succ, Nat.mul_comm (10 ^ width),
      Nat.mod_mul]
    omega

/-- Two digits are read as the number that they write. -/
theorem decimals_two {n : Nat} (h : n < 100) :
    ∃ a b, decimals 2 n = [a, b] ∧ twoDigits? a b = some n := by
  have hvalue := digitsValue_decimals 2 n
  have hdigits := decimals_isDigit 2 n
  obtain ⟨a, b, hab⟩ := List.length_eq_two.1 (decimals_length 2 n)
  have hmod : n % 10 ^ 2 = n := Nat.mod_eq_of_lt (by omega)
  rw [hab] at hvalue hdigits
  refine ⟨a, b, hab, ?_⟩
  rw [twoDigits?, hdigits a (by simp), hdigits b (by simp), Bool.and_self, if_pos rfl, hvalue, hmod]

theorem decimals_four {n : Nat} (h : n < 10000) :
    ∃ a b c d, decimals 4 n = [a, b, c, d] ∧ [a, b, c, d].all Char.isDigit = true
      ∧ digitsValue [a, b, c, d] = n := by
  have hvalue := digitsValue_decimals 4 n
  have hdigits := decimals_isDigit 4 n
  obtain ⟨a, b, c, d, habcd⟩ : ∃ a b c d, decimals 4 n = [a, b, c, d] := ⟨_, _, _, _, rfl⟩
  have hmod : n % 10 ^ 4 = n := Nat.mod_eq_of_lt (by omega)
  rw [habcd] at hvalue hdigits
  rw [hmod] at hvalue
  exact ⟨a, b, c, d, habcd, List.all_eq_true.2 hdigits, hvalue⟩

theorem pad_toList (width n : Nat) : (pad width n).toList = decimals width n :=
  String.toList_ofList

/-! ### Dates -/

/-- A date is taken off the text that starts with it. -/
theorem takeDate_written {date : Date} (hyear : 1 ≤ date.year ∧ date.year ≤ 9999)
    (hvalid : date.isValid = true) (rest : List Char) :
    takeDate (decimals 4 date.year.toNat
      ++ '-' :: (decimals 2 date.month ++ '-' :: (decimals 2 date.day ++ rest)))
      = .ok (date, rest) := by
  have hdate := Date.isValid_iff.1 hvalid
  have hday := @Date.monthLengths_getD_le date.year date.month hdate.1 hdate.2.1
  obtain ⟨y1, y2, y3, y4, hy, hdigits, hvalue⟩ := @decimals_four date.year.toNat (by omega)
  obtain ⟨m1, m2, hm, hmonth⟩ := @decimals_two date.month (by omega)
  obtain ⟨d1, d2, hd, hdayOf⟩ := @decimals_two date.day (by omega)
  have hmonthRange : (date.month == 0 || decide (12 < date.month)) = false := by
    rw [Bool.or_eq_false_iff, beq_eq_false_iff_ne, decide_eq_false_iff_not]
    omega
  have hsame : (⟨(digitsValue [y1, y2, y3, y4] : Int), date.month, date.day⟩ : Date) = date := by
    rw [hvalue, Int.toNat_of_nonneg (by omega)]
  rw [hy, hm, hd]
  simp only [List.cons_append, List.nil_append, takeDate, hdigits, hmonth, hdayOf, hmonthRange,
    hsame, hvalid, Bool.not_true, bne_self_eq_false, Bool.false_eq_true, if_false]

/-! ### Offsets -/

/-- The offset as the text of a timestamp writes it. -/
def wireOffset : Option Int → String
  | none => ""
  | some 0 => "Z"
  | some offset => offsetText offset

theorem wireText_eq (t : Timestamp) : t.wireText = wallText t.wall ++ wireOffset t.offset := rfl

/-- The characters of an offset of whole minutes. -/
theorem offsetText_toList {offset : Int} (h : offset % 60 = 0) :
    (offsetText offset).toList = (if offset < 0 then '-' else '+')
      :: (decimals 2 (offset.natAbs / 3600) ++ ':' :: decimals 2 (offset.natAbs / 60 % 60)) := by
  have hseconds : (offset.natAbs % 60 == 0) = true := by
    rw [beq_iff_eq]
    omega
  rw [offsetText]
  simp only [hseconds, if_true, String.append_empty, String.toList_append, pad_toList]
  split <;> simp

/-- Hours and minutes behind a sign are read as an offset. -/
theorem readOffset_digits {sign a b c d : Char} {hours minutes : Nat} (hsign : sign = '+' ∨ sign = '-')
    (hab : twoDigits? a b = some hours) (hcd : twoDigits? c d = some minutes) (hminutes : minutes < 60)
    (hday : hours * 3600 + minutes * 60 < 86400) :
    readOffset [sign, a, b, ':', c, d] = some (some (if sign == '+'
      then ((hours * 3600 + minutes * 60 : Nat) : Int) else -(hours * 3600 + minutes * 60 : Nat))) := by
  have hdayInt : (hours : Int) * 3600 + minutes * 60 < 86400 := by omega
  rcases hsign with rfl | rfl
  · simp [readOffset, hab, hcd, hminutes, hdayInt]
  · simp [readOffset, hab, hcd, hminutes, hdayInt]

/-- The offset at the end of the text of a timestamp is read back. -/
theorem readOffset_written {found : Option Int} (h : IsLegibleOffset found) :
    readOffset (wireOffset found).toList = some found := by
  unfold wireOffset
  split
  · rfl
  · rfl
  · rename_i offset hzero
    obtain ⟨hminutes, hlow, hhigh⟩ := h offset rfl
    obtain ⟨a, b, hab, hours⟩ := @decimals_two (offset.natAbs / 3600) (by omega)
    obtain ⟨c, d, hcd, minutes⟩ := @decimals_two (offset.natAbs / 60 % 60) (by omega)
    rw [offsetText_toList hminutes, hab, hcd]
    by_cases hneg : offset < 0
    · rw [if_pos hneg]
      rw [List.cons_append, List.cons_append, List.nil_append,
        readOffset_digits (Or.inr rfl) hours minutes (by omega) (by omega)]
      simp only [Option.some.injEq]
      rw [if_neg (by decide)]
      omega
    · rw [if_neg hneg]
      rw [List.cons_append, List.cons_append, List.nil_append,
        readOffset_digits (Or.inl rfl) hours minutes (by omega) (by omega)]
      simp only [Option.some.injEq]
      rw [if_pos (by decide)]
      omega

/-! ### Times of day -/

/-- The digits of a fraction of a second, if there is one. -/
def fractionDigits (micros : Nat) : List Char :=
  if micros = 0 then [] else '.' :: decimals 6 micros

/-- The characters of the text of a wall clock. -/
theorem wallText_toList (w : Wall) :
    (wallText w).toList = decimals 4 w.date.year.toNat ++ '-' :: (decimals 2 w.date.month
      ++ '-' :: (decimals 2 w.date.day ++ 'T' :: (decimals 2 w.hour ++ ':' :: (decimals 2 w.minute
      ++ ':' :: (decimals 2 w.second ++ fractionDigits w.microsecond))))) := by
  rw [wallText, fractionDigits]
  by_cases h : w.microsecond = 0
  · simp [h, pad_toList, String.toList_append]
  · simp [h, pad_toList, String.toList_append]

/-- What may follow a second and its fraction: no further digit, and no point. -/
def EndsSecond (after : List Char) : Prop :=
  ∀ c ∈ after.head?, c.isDigit = false ∧ c ≠ '.' ∧ c ≠ ','

theorem wireOffset_endsSecond (found : Option Int) : EndsSecond (wireOffset found).toList := by
  unfold EndsSecond wireOffset
  split
  · simp
  · intro c hc
    cases hc
    decide
  · rename_i offset _
    unfold offsetText
    by_cases hneg : offset < 0
    · simp [hneg, String.toList_append]
    · simp [hneg, String.toList_append]

theorem fractionMicros_decimals {micros : Nat} (h : micros < 1000000) :
    fractionMicros (decimals 6 micros) = micros := by
  rw [fractionMicros, List.take_left' (decimals_length 6 micros), digitsValue_decimals]
  exact Nat.mod_eq_of_lt h

/-- The seconds of a time of day are taken off with their fraction. -/
theorem takeSeconds_written {seconds micros : Nat} (hseconds : seconds < 60) (hmicros : micros < 1000000)
    {after : List Char} (hafter : EndsSecond after) :
    takeSeconds (':' :: (decimals 2 seconds ++ (fractionDigits micros ++ after)))
      = some (seconds * 1000000 + micros, after) := by
  obtain ⟨a, b, hab, hvalue⟩ := @decimals_two seconds (by omega)
  have hsecond : ¬59 < seconds := by omega
  rw [hab, fractionDigits]
  by_cases hzero : micros = 0
  · rw [if_pos hzero]
    cases after with
    | nil => simp [takeSeconds, hvalue, hsecond, hzero]
    | cons c after =>
      obtain ⟨-, hpoint, hcomma⟩ := hafter c rfl
      simp [takeSeconds, hvalue, hsecond, hzero, hpoint, hcomma]
  · rw [if_neg hzero]
    have htake := takeDigits_append (decimals_isDigit 6 micros) fun c hc => (hafter c hc).1
    have hlength := decimals_length 6 micros
    have hnonempty : (decimals 6 micros).isEmpty = false := by
      rw [List.isEmpty_eq_false_iff]
      intro hnil
      rw [hnil] at hlength
      cases hlength
    simp [takeSeconds, hvalue, hsecond, htake, hlength, hnonempty, fractionMicros_decimals hmicros]

/-- A time of day is read with the offset behind it. -/
theorem readTime_written {hour minute second micros : Nat} {after : List Char} {found : Option Int}
    (hhour : hour < 24) (hminute : minute < 60) (hsecond : second < 60) (hmicros : micros < 1000000)
    (hafter : EndsSecond after) (hoffset : readOffset after = some found) :
    readTime (decimals 2 hour ++ ':' :: (decimals 2 minute
      ++ ':' :: (decimals 2 second ++ (fractionDigits micros ++ after))))
      = some ((hour * 3600 + minute * 60) * 1000000 + (second * 1000000 + micros), found) := by
  obtain ⟨a, b, hab, hhours⟩ := @decimals_two hour (by omega)
  obtain ⟨c, d, hcd, hminutes⟩ := @decimals_two minute (by omega)
  have hrange : hour ≤ 23 ∧ minute ≤ 59 := by omega
  rw [hab, hcd]
  simp [readTime, hhours, hminutes, hrange, takeSeconds_written hsecond hmicros hafter, hoffset]

/-! ### Timestamps -/

theorem secondOfDay_lt (w : Wall) : w.secondOfDay < 86400 := by
  simp only [Wall.secondOfDay, Wall.timeOfDay, microsPerDay, microsPerSecond]
  omega

/-- The parts of a time of day make it up. -/
theorem timeOfDay_eq (w : Wall) :
    (((w.hour * 3600 + w.minute * 60) * 1000000 + (w.second * 1000000 + w.microsecond) : Nat) : Int)
      = w.timeOfDay := by
  have hparts : w.hour * 3600 + w.minute * 60 + w.second = w.secondOfDay := by
    simp only [Wall.hour, Wall.minute, Wall.second]
    omega
  calc (((w.hour * 3600 + w.minute * 60) * 1000000 + (w.second * 1000000 + w.microsecond) : Nat) : Int)
      = ((w.secondOfDay * 1000000 + w.microsecond : Nat) : Int) := by
        rw [← hparts, Nat.add_mul _ w.second, Nat.add_assoc]
    _ = w.timeOfDay := by
        simp only [Wall.secondOfDay, Wall.microsecond, Wall.timeOfDay, microsPerDay, microsPerSecond]
        omega

theorem ofDay_timeOfDay (w : Wall) : Wall.ofDay w.day w.timeOfDay = w := by
  have h : w.micros / microsPerDay * microsPerDay + w.micros % microsPerDay = w.micros :=
    Int.ediv_mul_add_emod _ _
  rw [Wall.ofDay, Wall.day, Wall.timeOfDay, h]

/-- **The text of a legible timestamp is read as the timestamp.** -/
theorem readText_wireText {t : Timestamp} (h : t.Legible) : readText t.wireText = .ok t := by
  have hvalid : t.wall.date.isValid = true := Date.isValid_ofDay t.wall.day
  have hyear : 1 ≤ t.wall.date.year ∧ t.wall.date.year ≤ 9999 :=
    Date.year_ofDay h.notBefore h.notAfter
  have hhour : t.wall.hour < 24 := Nat.div_lt_of_lt_mul (secondOfDay_lt t.wall)
  have hminute : t.wall.minute < 60 := Nat.mod_lt _ (by omega)
  have hsecond : t.wall.second < 60 := Nat.mod_lt _ (by omega)
  have hmicros : t.wall.microsecond < 1000000 := by
    simp only [Wall.microsecond, microsPerSecond]
    omega
  have htime := readTime_written hhour hminute hsecond hmicros (wireOffset_endsSecond t.offset)
    (readOffset_written h.offset)
  have hwall : Wall.ofDay t.wall.date.toDay t.wall.timeOfDay = t.wall := by
    rw [Wall.date, Date.toDay_ofDay, ofDay_timeOfDay]
  have hdateTime : readDateTime t.wireText.toList = some t := by
    rw [wireText_eq, String.toList_append, wallText_toList]
    simp only [List.append_assoc, List.cons_append]
    rw [readDateTime, takeDate_written hyear hvalid]
    simp only [beq_self_eq_true, Bool.true_or, if_true, htime, Option.map_some, timeOfDay_eq, hwall]
  rw [readText]
  simp only [hdateTime]
  exact checkYear_eq_ok.2 ⟨h.notBefore, rfl⟩

end Timestamp
end Automation
