/-
# Changes around an instant

The offset of a zone is decided by its history and by what its rule changes in
the years around. In a sound zone the changes come in order, and the first change
of the rule in a year does not wait for the last day. Then within a day of an
instant the years around that instant decide as well (`Zone.IsSound.offsetAt_eq_near`):
at the turn of a year, the year after the one that begins adds nothing yet, and
the year before the one that ends is settled. Rules by months are sound but for
those that change in December only or in both December and January.

Key definitions: `Zone.IsSound`, `Zone.Yearly.IsSound`, `Zone.ruleIn`,
`Zone.Yearly.IsPlain`.
Key theorems: `Zone.IsSound.ordered_changesNear`, `Zone.IsSound.offsetAt_eq_near`,
`Zone.Yearly.IsPlain.isSound`.
-/
import Automation.Proofs.Calendar.Months
import Automation.Zone.Basic

namespace Automation

namespace Zone

/-! ### Sound zones -/

/-- Whether an offset is below a day. -/
def IsOffset (offset : Int) : Prop := -86400 < offset ∧ offset < 86400

instance (offset : Int) : Decidable (IsOffset offset) :=
  inferInstanceAs (Decidable (-86400 < offset ∧ offset < 86400))

/-- A rule whose offsets are below a day. Its changes come in order and close to
their years, and the first one of a year before the last day. -/
structure Yearly.IsSound (r : Yearly) : Prop where
  standard : IsOffset r.standard
  daylight : IsOffset r.daylight
  close : ∀ year, ∀ c ∈ r.changes year, (Date.daysBeforeYear year - 100) * 86400 ≤ c.second
    ∧ c.second ≤ (Date.daysBeforeYear (year + 1) + 100) * 86400
  ordered : ∀ year, ∀ c ∈ r.changes year, ∀ d ∈ r.changes (year + 1), c.second ≤ d.second
  early : ∀ year, ∀ c ∈ (r.changes year).head?, c.second < Date.daysBeforeYear (year + 1) * 86400

/-- A zone whose changes come in order, with offsets below a day. -/
structure IsSound (z : Zone) : Prop where
  base : IsOffset z.base
  changes : ∀ c ∈ z.changes, IsOffset c.offset
  ordered : z.changes.Pairwise (·.second ≤ ·.second)
  yearly : ∀ r, z.yearly = some r → r.IsSound

/-- Whether a change comes after the history of the zone. -/
def isLater (z : Zone) (c : Change) : Bool := z.changes.getLast?.all (·.second < c.second)

/-- The changes of the rule in a year, after the last one of the history. -/
def ruleIn (z : Zone) (year : Int) : List Change :=
  match z.yearly with
  | none => []
  | some r => (r.changes year).filter z.isLater

variable {z : Zone} {year : Int}

/-! ### The changes of a year -/

namespace Yearly

/-- The change of a year to the daylight offset. -/
def onset (r : Yearly) (year : Int) : Change :=
  ⟨r.start.dayIn year * 86400 + r.start.second - r.standard, r.daylight⟩

/-- The change of a year back to the standard offset. -/
def ending (r : Yearly) (year : Int) : Change :=
  ⟨r.stop.dayIn year * 86400 + r.stop.second - r.daylight, r.standard⟩

/-- The changes of a year are these two, in order. -/
theorem changes_cases (r : Yearly) (year : Int) :
    (r.changes year = [r.onset year, r.ending year] ∧ (r.onset year).second ≤ (r.ending year).second)
      ∨ (r.changes year = [r.ending year, r.onset year] ∧ (r.ending year).second < (r.onset year).second) := by
  by_cases hle : (r.onset year).second ≤ (r.ending year).second
  · exact .inl ⟨if_pos hle, hle⟩
  · exact .inr ⟨if_neg hle, Int.not_le.1 hle⟩

variable {r : Yearly} {c : Change}

theorem mem_changes (hc : c ∈ r.changes year) : c = r.onset year ∨ c = r.ending year := by
  rcases r.changes_cases year with ⟨heq, -⟩ | ⟨heq, -⟩
  · rw [heq] at hc
    simpa using hc
  · rw [heq] at hc
    simpa [or_comm] using hc

/-- The first change of a year comes no later than either. -/
theorem head_changes_le (hc : c ∈ (r.changes year).head?) :
    c.second ≤ (r.onset year).second ∧ c.second ≤ (r.ending year).second := by
  rcases r.changes_cases year with ⟨heq, hle⟩ | ⟨heq, hlt⟩
  · rw [heq] at hc
    cases hc
    exact ⟨Int.le_refl _, hle⟩
  · rw [heq] at hc
    cases hc
    exact ⟨Int.le_of_lt hlt, Int.le_refl _⟩

theorem ordered_changes (r : Yearly) (year : Int) : (r.changes year).Pairwise (·.second ≤ ·.second) := by
  rcases r.changes_cases year with ⟨heq, hle⟩ | ⟨heq, hlt⟩
  · rw [heq]
    simpa using hle
  · rw [heq]
    simpa using Int.le_of_lt hlt

end Yearly

/-! ### The changes around a second -/

/-- The changes of the history and those of the rule in three years. -/
def changesAround (z : Zone) (year : Int) : List Change :=
  z.changes ++ (z.ruleIn (year - 1) ++ z.ruleIn year ++ z.ruleIn (year + 1))

theorem changesNear_eq (z : Zone) (second : Int) :
    z.changesNear second = z.changesAround (Date.ofDay (second / 86400)).year := by
  unfold changesNear ruleChanges changesAround ruleIn
  cases z.yearly with
  | none => rfl
  | some r =>
    unfold isLater
    cases z.changes.getLast? with
    | none => simp
    | some last => simp

theorem mem_ruleIn_iff {r : Yearly} (hr : z.yearly = some r) {c : Change} :
    c ∈ z.ruleIn year ↔ c ∈ r.changes year ∧ z.isLater c = true := by
  rw [ruleIn, hr]
  exact List.mem_filter

theorem mem_ruleIn {c : Change} (hc : c ∈ z.ruleIn year) :
    ∃ r, z.yearly = some r ∧ c ∈ r.changes year ∧ z.isLater c = true := by
  cases hr : z.yearly with
  | none =>
    rw [ruleIn, hr] at hc
    cases hc
  | some r => exact ⟨r, rfl, (mem_ruleIn_iff hr).1 hc⟩

/-! ### The offsets of changes -/

/-- What holds of the offsets of the history and of the rule holds of those around a second. -/
theorem offset_of_mem_changesNear {P : Int → Prop} (hchanges : ∀ c ∈ z.changes, P c.offset)
    (hyearly : ∀ r, z.yearly = some r → P r.standard ∧ P r.daylight) {second : Int} :
    ∀ c ∈ z.changesNear second, P c.offset := by
  have hrule : ∀ year, ∀ c ∈ z.ruleIn year, P c.offset := by
    intro year c hc
    obtain ⟨r, hr, hmem, -⟩ := mem_ruleIn hc
    rcases Yearly.mem_changes hmem with rfl | rfl
    · exact (hyearly r hr).2
    · exact (hyearly r hr).1
  intro c hc
  rw [changesNear_eq, changesAround] at hc
  simp only [List.mem_append] at hc
  rcases hc with hc | (hc | hc) | hc
  · exact hchanges c hc
  all_goals exact hrule _ c hc

theorem IsSound.isOffset_of_mem_changesNear (h : z.IsSound) {second : Int} :
    ∀ c ∈ z.changesNear second, IsOffset c.offset :=
  offset_of_mem_changesNear h.changes fun r hr => ⟨(h.yearly r hr).standard, (h.yearly r hr).daylight⟩

/-! ### The order of changes -/

/-- A change of the rule lies close to its year. -/
theorem IsSound.second_bounds (h : z.IsSound) {c : Change} (hc : c ∈ z.ruleIn year) :
    (Date.daysBeforeYear year - 100) * 86400 ≤ c.second
      ∧ c.second ≤ (Date.daysBeforeYear (year + 1) + 100) * 86400 := by
  obtain ⟨r, hr, hmem, -⟩ := mem_ruleIn hc
  exact (h.yearly r hr).close year c hmem

/-- A distance that the changes of a rule keep from those of the next year they
keep from those of all later years. -/
theorem IsSound.second_add_le_ruleIn (h : z.IsSound) {year' gap : Int} (hgap : gap ≤ 100 * 86400)
    (hnext : ∀ r, z.yearly = some r → ∀ year, ∀ c ∈ r.changes year, ∀ d ∈ r.changes (year + 1),
      c.second + gap ≤ d.second) (hyear : year < year') :
    ∀ c ∈ z.ruleIn year, ∀ d ∈ z.ruleIn year', c.second + gap ≤ d.second := by
  intro c hc d hd
  by_cases hsucc : year' = year + 1
  · subst hsucc
    obtain ⟨r, hr, hmem, -⟩ := mem_ruleIn hc
    exact hnext r hr year c hmem d ((mem_ruleIn_iff hr).1 hd).1
  · have hcbound := h.second_bounds hc
    have hdbound := h.second_bounds hd
    have hlong := Date.daysBeforeYear_succ_ge (year + 1)
    have := Date.daysBeforeYear_mono (show year + 1 + 1 ≤ year' by omega)
    omega

theorem IsSound.ordered_ruleIn (h : z.IsSound) {year' : Int} (hyear : year < year') :
    ∀ c ∈ z.ruleIn year, ∀ d ∈ z.ruleIn year', c.second ≤ d.second := by
  intro c hc d hd
  have hnext : ∀ r, z.yearly = some r → ∀ year, ∀ c ∈ r.changes year, ∀ d ∈ r.changes (year + 1),
      c.second + 0 ≤ d.second := by
    intro r hr year c hc d hd
    have := (h.yearly r hr).ordered year c hc d hd
    omega
  have := h.second_add_le_ruleIn (by omega) hnext hyear c hc d hd
  omega

/-- The changes of the history come before those of the rule. -/
theorem IsSound.ordered_history (h : z.IsSound) :
    ∀ c ∈ z.changes, ∀ d ∈ z.ruleIn year, c.second ≤ d.second := by
  intro c hc d hd
  obtain ⟨r, hr, -, hlater⟩ := mem_ruleIn hd
  have hne : z.changes ≠ [] := List.ne_nil_of_mem hc
  have hlast : z.changes.getLast? = some (z.changes.getLast hne) := List.getLast?_eq_some_getLast hne
  have hafter : (z.changes.getLast hne).second < d.second := by
    rw [isLater, hlast] at hlater
    simpa using hlater
  have hle : c.second ≤ (z.changes.getLast hne).second :=
    h.ordered.rel_getLast_of_rel_getLast_getLast hc (Int.le_refl _)
  omega

theorem pairwise_ruleIn (z : Zone) (year : Int) : (z.ruleIn year).Pairwise (·.second ≤ ·.second) := by
  unfold ruleIn
  split
  · exact List.Pairwise.nil
  · rename_i r _
    exact (r.ordered_changes year).filter _

/-- What holds between the changes of the history, those of the rule in each
year and those of different years holds between all around a second. -/
theorem pairwise_changesNear {R : Change → Change → Prop} (hhistory : z.changes.Pairwise R)
    (hyear : ∀ year, (z.ruleIn year).Pairwise R)
    (hlast : ∀ year, ∀ c ∈ z.changes, ∀ d ∈ z.ruleIn year, R c d)
    (hlater : ∀ year year', year < year' → ∀ c ∈ z.ruleIn year, ∀ d ∈ z.ruleIn year', R c d)
    (second : Int) : (z.changesNear second).Pairwise R := by
  rw [changesNear_eq, changesAround]
  generalize (Date.ofDay (second / 86400)).year = year
  simp only [List.pairwise_append, List.mem_append]
  refine ⟨hhistory, ⟨⟨hyear _, hyear _, hlater _ _ (by omega)⟩, hyear _, ?_⟩, ?_⟩
  · rintro c (hc | hc) d hd
    · exact hlater _ _ (by omega) c hc d hd
    · exact hlater _ _ (by omega) c hc d hd
  · rintro c hc d ((hd | hd) | hd)
    all_goals exact hlast _ c hc d hd

/-- **The changes around a second come in order.** -/
theorem IsSound.ordered_changesNear (h : z.IsSound) (second : Int) :
    (z.changesNear second).Pairwise (·.second ≤ ·.second) :=
  pairwise_changesNear h.ordered (pairwise_ruleIn z) (fun _ => h.ordered_history)
    (fun _ _ hlt => h.ordered_ruleIn hlt) second

/-! ### Offsets after changes -/

section OffsetAfter

variable {come : Int → Change → Bool} {offset : Int} {cs ds es : List Change}

/-- The offset is the first one or that of a change. -/
theorem offsetAfter_mem (come : Int → Change → Bool) (offset : Int) (cs : List Change) :
    offsetAfter come offset cs = offset ∨ ∃ c ∈ cs, offsetAfter come offset cs = c.offset := by
  induction cs generalizing offset with
  | nil => exact .inl rfl
  | cons c cs ih =>
    unfold offsetAfter
    split
    · rcases ih c.offset with heq | ⟨d, hd, heq⟩
      · exact .inr ⟨c, List.mem_cons_self, heq⟩
      · exact .inr ⟨d, List.mem_cons_of_mem c hd, heq⟩
    · exact .inl rfl

/-- What comes after some changes counts from the offset that they leave. -/
theorem offsetAfter_append_congr (h : ∀ o, offsetAfter come o ds = offsetAfter come o es) :
    offsetAfter come offset (cs ++ ds) = offsetAfter come offset (cs ++ es) := by
  induction cs generalizing offset with
  | nil => exact h offset
  | cons c cs ih =>
    simp only [List.cons_append, offsetAfter]
    split
    · exact ih
    · rfl

/-- After changes that have all come the next ones count from some offset. -/
theorem exists_offsetAfter_append (h : ∀ c ∈ cs, ∀ before, come before c = true) :
    ∃ o, offsetAfter come offset (cs ++ ds) = offsetAfter come o ds := by
  induction cs generalizing offset with
  | nil => exact ⟨offset, rfl⟩
  | cons c cs ih =>
    simp only [List.cons_append, offsetAfter, h c List.mem_cons_self, if_true]
    exact ih fun d hd => h d (List.mem_cons_of_mem c hd)

/-- Changes that have not come leave the offset as it is. -/
theorem offsetAfter_append_of_not_come (h : ∀ d ∈ ds, ∀ before, come before d = false) :
    offsetAfter come offset (cs ++ ds) = offsetAfter come offset cs := by
  have hnone : ∀ o, offsetAfter come o ds = offsetAfter come o [] := by
    intro o
    cases ds with
    | nil => rfl
    | cons d ds => simp only [offsetAfter, h d List.mem_cons_self, Bool.false_eq_true, if_false]
  rw [offsetAfter_append_congr hnone, List.append_nil]

end OffsetAfter

/-! ### Windows -/

/-- Whether a change has come by a second. -/
def comeBy (second : Int) (_ : Int) (c : Change) : Bool := c.second ≤ second

/-- Where the first change has come, the offset before it does not count. -/
theorem offsetAfter_cons_of_le {c : Change} {cs : List Change} {second : Int} (h : c.second ≤ second)
    (offset o : Int) :
    offsetAfter (comeBy second) offset (c :: cs) = offsetAfter (comeBy second) o (c :: cs) := by
  have hcome : ∀ before, comeBy second before c = true := fun _ => decide_eq_true h
  rw [offsetAfter, offsetAfter, if_pos (hcome offset), if_pos (hcome o)]

theorem offsetAt_eq (z : Zone) (t : Instant) :
    z.offsetAt t = offsetAfter (comeBy t.seconds) z.base (z.changesNear t.seconds) := rfl

/-- A rule that makes changes after the history in one year makes both in the next one. -/
theorem IsSound.ruleIn_succ (h : z.IsSound) {r : Yearly} (hr : z.yearly = some r) (hne : z.ruleIn year ≠ []) :
    z.ruleIn (year + 1) = r.changes (year + 1) := by
  obtain ⟨c, hc⟩ := List.exists_mem_of_ne_nil _ hne
  obtain ⟨hmem, hlater⟩ := (mem_ruleIn_iff hr).1 hc
  have hall : ∀ d ∈ r.changes (year + 1), z.isLater d = true := by
    intro d hd
    have horder := (h.yearly r hr).ordered year c hmem d hd
    unfold isLater at hlater ⊢
    cases hlast : z.changes.getLast? with
    | none => rfl
    | some last =>
      rw [hlast] at hlater
      have : last.second < c.second := by simpa using hlater
      have : last.second < d.second := by omega
      simpa using this
  rw [ruleIn, hr]
  exact List.filter_eq_self.2 hall

/-- At the turn of a year the offset before the changes of the year that ends
does not count: either it is the one that the history leaves, or the first of
these changes has come. -/
theorem IsSound.offsetAfter_ruleIn (h : z.IsSound) {second : Int} {ds : List Change}
    (hturn : Date.daysBeforeYear (year + 1) ≤ second / 86400) (offset : Int) :
    offsetAfter (comeBy second) offset (z.ruleIn (year - 1) ++ (z.ruleIn year ++ ds))
      = offsetAfter (comeBy second) offset (z.ruleIn year ++ ds) := by
  by_cases hbefore : z.ruleIn (year - 1) = []
  · rw [hbefore, List.nil_append]
  · obtain ⟨c, hc⟩ := List.exists_mem_of_ne_nil _ hbefore
    obtain ⟨r, hr, -, -⟩ := mem_ruleIn hc
    have hyear : z.ruleIn year = r.changes year := by
      have := h.ruleIn_succ hr hbefore
      rwa [Int.sub_add_cancel] at this
    obtain ⟨first, rest, hchanges⟩ : ∃ first rest, r.changes year = first :: rest := by
      rcases r.changes_cases year with ⟨heq, -⟩ | ⟨heq, -⟩
      all_goals exact ⟨_, _, heq⟩
    have hfirst : first.second ≤ second := by
      have := (h.yearly r hr).early year first (by rw [hchanges]; rfl)
      omega
    have hcome : ∀ c ∈ z.ruleIn (year - 1), ∀ before, comeBy second before c = true := by
      intro c hc before
      have hle := h.ordered_ruleIn (show year - 1 < year by omega) c hc first
        (by rw [hyear, hchanges]; exact List.mem_cons_self)
      exact decide_eq_true (Int.le_trans hle hfirst)
    obtain ⟨o, hleft⟩ : ∃ o, offsetAfter (comeBy second) offset (z.ruleIn (year - 1) ++ (z.ruleIn year ++ ds))
        = offsetAfter (comeBy second) o (z.ruleIn year ++ ds) :=
      exists_offsetAfter_append hcome
    rw [hleft, hyear, hchanges, List.cons_append]
    exact offsetAfter_cons_of_le hfirst o offset

/-- Around the turn of a year, both years have the changes that count. -/
theorem IsSound.offsetAfter_turn (h : z.IsSound) {second : Int}
    (hlow : Date.daysBeforeYear (year + 1) ≤ second / 86400)
    (hhigh : second / 86400 ≤ Date.daysBeforeYear (year + 1) + 1) :
    offsetAfter (comeBy second) z.base (z.changesAround year)
      = offsetAfter (comeBy second) z.base (z.changesAround (year + 1)) := by
  have hnot : ∀ c ∈ z.ruleIn (year + 1 + 1), ∀ before, comeBy second before c = false := by
    intro c hc before
    have hbound := h.second_bounds hc
    have hlong := Date.daysBeforeYear_succ_ge (year + 1)
    exact decide_eq_false (by omega)
  unfold changesAround
  rw [Int.add_sub_cancel]
  apply offsetAfter_append_congr
  intro offset
  rw [offsetAfter_append_of_not_come hnot, List.append_assoc]
  exact h.offsetAfter_ruleIn hlow offset

/-- **Within a day of an instant, the changes that decide its offset are the same.** -/
theorem IsSound.offsetAt_eq_near (h : z.IsSound) {t : Instant} {second : Int}
    (hlow : t.seconds - 86400 < second) (hhigh : second < t.seconds + 86400) :
    z.offsetAt t = offsetAfter (comeBy t.seconds) z.base (z.changesNear second) := by
  rw [offsetAt_eq, changesNear_eq, changesNear_eq]
  have hdays : second / 86400 = t.seconds / 86400 ∨ second / 86400 = t.seconds / 86400 + 1
      ∨ t.seconds / 86400 = second / 86400 + 1 := by omega
  rcases hdays with hsame | hnext | hnext
  · rw [hsame]
  · rcases Date.year_ofDay_succ (t.seconds / 86400) with hyear | ⟨hyear, hturn⟩
    · rw [hnext, hyear]
    · rw [hnext, hyear]
      exact h.offsetAfter_turn (by omega) (by omega)
  · rcases Date.year_ofDay_succ (second / 86400) with hyear | ⟨hyear, hturn⟩
    · rw [hnext, hyear]
    · rw [hnext, hyear]
      exact (h.offsetAfter_turn (by omega) (by omega)).symm

/-! ### Rules by months -/

/-- A day of a rule in one of the months, and a second within a week of it. -/
structure YearlyDay.IsPlain (d : YearlyDay) : Prop where
  month : 1 ≤ d.month ∧ d.month ≤ 12
  week : d.week ≤ 5
  second : -604800 ≤ d.second ∧ d.second ≤ 604800

/-- A day that is given by its weekday lies in its month. -/
theorem YearlyDay.IsPlain.dayIn_month {d : YearlyDay} (h : d.IsPlain) (year : Int) :
    Date.first year d.month ≤ d.dayIn year
      ∧ d.dayIn year < Date.first year d.month + Date.daysInMonth year d.month := by
  have hlength := Date.le_daysInMonth year h.month.1 h.month.2
  have hweek := h.week
  unfold dayIn
  rw [← Date.first]
  generalize hlead : (d.weekday + 7 - Date.weekdayOf (Date.first year d.month)) % 7 = lead
  generalize Date.daysInMonth year d.month = length at *
  dsimp only
  split
  · omega
  · split <;> omega

/-- The day lies in its year, and a month away from the start or the end of the
year if it is not in the first or the last month. -/
theorem YearlyDay.IsPlain.dayIn_year {d : YearlyDay} (h : d.IsPlain) (year : Int) :
    Date.daysBeforeYear year < d.dayIn year ∧ d.dayIn year ≤ Date.daysBeforeYear (year + 1)
      ∧ (1 < d.month → Date.daysBeforeYear year + 32 ≤ d.dayIn year)
      ∧ (d.month < 12 → d.dayIn year + 31 ≤ Date.daysBeforeYear (year + 1)) := by
  obtain ⟨h1, h12⟩ := h.month
  obtain ⟨hlow, hhigh⟩ := h.dayIn_month year
  have hnext := @Date.daysBeforeMonth_succ year d.month h1
  have hdecember : Date.daysBeforeMonth year 13 = Date.daysBeforeMonth year 12 + Date.daysInMonth year 12 :=
    Date.daysBeforeMonth_succ (by omega)
  have hlength : Date.daysInMonth year 12 = 31 := rfl
  have htotal := Date.daysBeforeMonth_thirteen year
  have hyear := Date.daysBeforeYear_succ year
  have hend := @Date.daysBeforeMonth_mono year (d.month + 1) 13 (by omega)
  simp only [Date.first, Date.toDay] at hlow hhigh
  refine ⟨by omega, by omega, ?_, ?_⟩
  · intro hlater
    have hstart : 31 ≤ Date.daysBeforeMonth year d.month := @Date.daysBeforeMonth_mono year 2 d.month hlater
    omega
  · intro hearlier
    have := @Date.daysBeforeMonth_mono year (d.month + 1) 12 hearlier
    omega

/-- Days whose months have another one between them lie four weeks apart. -/
theorem YearlyDay.IsPlain.dayIn_add_le {d e : YearlyDay} (hd : d.IsPlain) (he : e.IsPlain)
    (hmonths : d.month + 2 ≤ e.month) (year : Int) : d.dayIn year + 28 ≤ e.dayIn year := by
  obtain ⟨-, hdhigh⟩ := hd.dayIn_month year
  obtain ⟨helow, -⟩ := he.dayIn_month year
  have hmonth := hd.month
  have hmonth' := he.month
  have hnext := @Date.daysBeforeMonth_succ year d.month hmonth.1
  have hbetween := @Date.daysBeforeMonth_succ year (d.month + 1) (by omega)
  have hlength := @Date.le_daysInMonth year (d.month + 1) (by omega) (by omega)
  have hmono := @Date.daysBeforeMonth_mono year (d.month + 1 + 1) e.month hmonths
  simp only [Date.first, Date.toDay] at hdhigh helow
  omega

/-- Whether a rule is given by months, not those of one turn of a year, and its
offsets are below a day. -/
structure Yearly.IsPlain (r : Yearly) : Prop where
  standard : IsOffset r.standard
  daylight : IsOffset r.daylight
  start : r.start.IsPlain
  stop : r.stop.IsPlain
  early : r.start.month < 12 ∨ r.stop.month < 12
  turn : r.start.month ≤ r.stop.month + 10 ∧ r.stop.month ≤ r.start.month + 10

/-- Both changes of a rule by months lie within eight days of their days. -/
theorem Yearly.IsPlain.near_days {r : Yearly} (h : r.IsPlain) (year : Int) :
    ((r.start.dayIn year - 8) * 86400 ≤ (r.onset year).second
        ∧ (r.onset year).second ≤ (r.start.dayIn year + 8) * 86400)
      ∧ (r.stop.dayIn year - 8) * 86400 ≤ (r.ending year).second
        ∧ (r.ending year).second ≤ (r.stop.dayIn year + 8) * 86400 := by
  obtain ⟨hstandard, hdaylight, hstart, hstop, -⟩ := h
  have hstartSecond := hstart.second
  have hstopSecond := hstop.second
  unfold IsOffset at hstandard hdaylight
  unfold onset ending
  dsimp only
  omega

theorem Yearly.IsPlain.near_day {r : Yearly} (h : r.IsPlain) {c : Change} (hc : c ∈ r.changes year) :
    ∃ d : YearlyDay, (d = r.start ∨ d = r.stop) ∧ d.IsPlain
      ∧ (d.dayIn year - 8) * 86400 ≤ c.second ∧ c.second ≤ (d.dayIn year + 8) * 86400 := by
  obtain ⟨honset, hending⟩ := h.near_days year
  rcases Yearly.mem_changes hc with rfl | rfl
  · exact ⟨r.start, .inl rfl, h.start, honset⟩
  · exact ⟨r.stop, .inr rfl, h.stop, hending⟩

/-- The changes of a year come two weeks before those of the next. -/
theorem Yearly.IsPlain.second_add_le {r : Yearly} (h : r.IsPlain) {c d : Change} (hc : c ∈ r.changes year)
    (hd : d ∈ r.changes (year + 1)) : c.second + 14 * 86400 ≤ d.second := by
  obtain ⟨e, he, hplain, -, hhigh⟩ := h.near_day hc
  obtain ⟨e', he', hplain', hlow, -⟩ := h.near_day hd
  have hturn : e.month ≤ e'.month + 10 := by
    have := h.turn
    rcases he with rfl | rfl
    all_goals
      rcases he' with rfl | rfl
      all_goals omega
  have hmonth := hplain.month
  have hmonth' := hplain'.month
  obtain ⟨-, hend, -, hendEarly⟩ := hplain.dayIn_year year
  obtain ⟨hstart, -, hstartLate, -⟩ := hplain'.dayIn_year (year + 1)
  omega

/-- **A rule by months is sound.** -/
theorem Yearly.IsPlain.isSound {r : Yearly} (h : r.IsPlain) : r.IsSound where
  standard := h.standard
  daylight := h.daylight
  close := by
    intro year c hc
    obtain ⟨d, -, hplain, hlow, hhigh⟩ := h.near_day hc
    have hday := hplain.dayIn_year year
    omega
  ordered := by
    intro year c hc d hd
    have := h.second_add_le hc hd
    omega
  early := by
    intro year c hc
    have hearly := h.early
    have hdays := h.near_days year
    have hhead := Yearly.head_changes_le hc
    have hstart := h.start.dayIn_year year
    have hstop := h.stop.dayIn_year year
    omega

end Zone
end Automation
