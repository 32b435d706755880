/-
# The rounds of a reading

Clocks that are set back show some readings in two rounds, and clocks that are set
forward leave some out. Where the changes of a zone lie apart one turn decides for
each reading: before it the clocks are ahead of the reading or behind it as the
instant is of the one that fold `false` leads to, and from the turn on as it is of
the one that fold `true` leads to (`Zone.IsSound.exists_rounds`). All that orders
readings and instants follows. A reading that is not left out has been shown by
when the clocks are past it, and comes up again if they are behind it; clocks that
go back show a second round, and in a second round they do not go back.

Key definitions: `Zone.Meets`, `Zone.Rounds`, `Zone.TurnsAt`.
Key theorems: `Zone.exists_turnsAt`, `Zone.IsSound.exists_rounds`,
`Zone.IsSound.toInstant_le_of_le_wall`, `Zone.IsSound.lt_toInstant_of_wall_lt`,
`Zone.IsSound.wall_le_of_fold`, `Zone.IsSound.fold_of_wall_lt`.
-/
import Automation.Proofs.Zone.Readback

namespace Automation
namespace Zone

/-- Clocks are behind a reading or ahead of it as now is of an instant. -/
structure Meets (shown reading now met : Int) : Prop where
  before : shown < reading ↔ now < met
  after : reading < shown ↔ met < now

/-- How clocks meet a reading: before a turn at the instant `first`, from the turn
on at the instant `last`. The turn leaves out both if the reading is skipped. -/
structure Rounds (shown : Int → Int) (reading first last : Int) (skip : Bool) (turn : Int) : Prop where
  early : ∀ now, now < turn → Meets (shown now) reading now first
  late : ∀ now, turn ≤ now → Meets (shown now) reading now last
  kept : skip = false → first ≤ last ∧ turn ≤ last
  left : skip = true → last < turn ∧ turn ≤ first

variable {z : Zone} {fold : Bool} {second now before : Int} {c : Change} {cs : List Change}

/-! ### One list of changes -/

theorem comeOn_false_iff : comeOn false second before c = true ↔ c.second + max before c.offset ≤ second := by
  simp [comeOn, Change.wallSecond]

theorem comeOn_true_iff : comeOn true second before c = true ↔ c.second + min before c.offset ≤ second := by
  simp [comeOn, Change.wallSecond]

theorem offsetAfter_of_lt (h : now < c.second) : offsetAfter (comeBy now) before (c :: cs) = before := by
  have hnot : ¬ comeBy now before c = true := fun hcome => by
    have : c.second ≤ now := of_decide_eq_true hcome
    omega
  rw [offsetAfter, if_neg hnot]

theorem offsetAfter_of_le (h : c.second ≤ now) :
    offsetAfter (comeBy now) before (c :: cs) = offsetAfter (comeBy now) c.offset cs := by
  have hcome : comeBy now before c = true := decide_eq_true h
  rw [offsetAfter, if_pos hcome]

/-- Changes that lie apart come in order. -/
theorem Spaced.second_le (h : Spaced before (c :: cs)) : ∀ d ∈ cs.head?, c.second ≤ d.second := by
  intro d hd
  have := h.1 d hd
  omega

/-- Before a change the ones after it have not come either. -/
theorem Spaced.offsetAfter_before (h : Spaced before (c :: cs)) (hlt : now < c.second) :
    offsetAfter (comeBy now) c.offset cs = c.offset := by
  cases cs with
  | nil => rfl
  | cons d ds =>
    have := h.second_le d rfl
    exact offsetAfter_of_lt (by omega)

/-- The clocks after a change meet a reading before its end on its offset, whatever
comes later. -/
theorem Spaced.meets_after (h : Spaced before (c :: cs)) (hend : second < c.second + max before c.offset) :
    Meets (now + offsetAfter (comeBy now) c.offset cs) second now (second - c.offset) := by
  cases cs with
  | nil =>
    rw [offsetAfter]
    constructor <;> omega
  | cons d ds =>
    have hapart := h.1 d rfl
    by_cases hd : d.second ≤ now
    · have hpast := le_add_offsetAfter h.2 hd
      rw [offsetAfter_of_le hd]
      constructor <;> omega
    · rw [offsetAfter_of_lt (by omega)]
      constructor <;> omega

/-- Past a reading at which no change ends, the next change counts for neither fold. -/
theorem Spaced.offsetAfter_comeOn (h : Spaced before (c :: cs)) (hend : second < c.second + max before c.offset)
    (fold : Bool) : offsetAfter (comeOn fold second) c.offset cs = c.offset := by
  cases cs with
  | nil => rfl
  | cons d ds =>
    have hapart := h.1 d rfl
    have hnot : ¬ comeOn fold second c.offset d = true := by
      cases fold with
      | false =>
        rw [comeOn_false_iff]
        omega
      | true =>
        rw [comeOn_true_iff]
        omega
    rw [offsetAfter, if_neg hnot]

/-- The turn around a second of the wall on the clocks after some changes. -/
def TurnsAt (second before : Int) (cs : List Change) (turn : Int) : Prop :=
  Rounds (fun now => now + offsetAfter (comeBy now) before cs) second
    (second - offsetAfter (comeOn false second) before cs) (second - offsetAfter (comeOn true second) before cs)
    (skipped second before cs) turn

/-- A second before a change on both clocks comes on the offset before it. -/
theorem Spaced.turnsAt_before (h : Spaced before (c :: cs)) (hearly : second < c.second + min before c.offset) :
    TurnsAt second before (c :: cs) (second - before) := by
  have hfalse : ¬ comeOn false second before c = true := by
    rw [comeOn_false_iff]
    omega
  have htrue : ¬ comeOn true second before c = true := by
    rw [comeOn_true_iff]
    omega
  have hshown : skipped second before (c :: cs) = false := by
    rw [← Bool.not_eq_true, skipped_cons]
    rintro (hskip | hskip)
    · omega
    · have := le_of_skipped h hskip
      omega
  unfold TurnsAt
  rw [offsetAfter, if_neg hfalse, offsetAfter, if_neg htrue, hshown]
  refine ⟨fun now hnow => ?_, fun now hnow => ?_, fun _ => by omega, fun h => absurd h Bool.false_ne_true⟩
  · rw [offsetAfter_of_lt (by omega)]
    constructor <;> omega
  · by_cases hlt : now < c.second
    · rw [offsetAfter_of_lt hlt]
      constructor <;> omega
    · have hpast := le_add_offsetAfter h (Int.not_lt.1 hlt)
      rw [offsetAfter_of_le (Int.not_lt.1 hlt)]
      constructor <;> omega

/-- Around a second past a change on both clocks the turn is that of later changes. -/
theorem Spaced.turnsAt_after (h : Spaced before (c :: cs)) (hlate : c.second + max before c.offset ≤ second)
    {turn : Int} (hturn : TurnsAt second c.offset cs turn) : TurnsAt second before (c :: cs) turn := by
  have hskip : skipped second before (c :: cs) = skipped second c.offset cs := by
    rw [Bool.eq_iff_iff, skipped_cons]
    exact or_iff_right (by omega)
  have hfalse : comeOn false second before c = true := comeOn_false_iff.2 hlate
  have htrue : comeOn true second before c = true := comeOn_true_iff.2 (by omega)
  have hmeets : ∀ now met, Meets (now + offsetAfter (comeBy now) c.offset cs) second now met →
      Meets (now + offsetAfter (comeBy now) before (c :: cs)) second now met := by
    intro now met hmeets
    by_cases hlt : now < c.second
    · -- the clocks are behind the second on both offsets
      have hbefore := hmeets.before
      have hafter := hmeets.after
      rw [h.offsetAfter_before hlt] at hbefore hafter
      rw [offsetAfter_of_lt hlt]
      constructor <;> omega
    · rw [offsetAfter_of_le (Int.not_lt.1 hlt)]
      exact hmeets
  unfold TurnsAt
  rw [offsetAfter, if_pos hfalse, offsetAfter, if_pos htrue, hskip]
  exact ⟨fun now hnow => hmeets now _ (hturn.early now hnow), fun now hnow => hmeets now _ (hturn.late now hnow),
    hturn.kept, hturn.left⟩

/-- A change is the turn around the seconds that it repeats or leaves out. -/
theorem Spaced.turnsAt_change (h : Spaced before (c :: cs)) (hlow : c.second + min before c.offset ≤ second)
    (hhigh : second < c.second + max before c.offset) : TurnsAt second before (c :: cs) c.second := by
  have hfalse : ¬ comeOn false second before c = true := by
    rw [comeOn_false_iff]
    omega
  have htrue : comeOn true second before c = true := comeOn_true_iff.2 hlow
  have htail : ¬ skipped second c.offset cs = true := fun hskip => by
    have := le_of_skipped h hskip
    omega
  have hskip : skipped second before (c :: cs) = true ↔ before < c.offset := by
    rw [skipped_cons, or_iff_left htail]
    omega
  unfold TurnsAt
  rw [offsetAfter, if_neg hfalse, offsetAfter, if_pos htrue, h.offsetAfter_comeOn hhigh]
  refine ⟨fun now hnow => ?_, fun now hnow => ?_, fun hkept => ?_, fun hleft => ?_⟩
  · rw [offsetAfter_of_lt hnow]
    constructor <;> omega
  · rw [offsetAfter_of_le hnow]
    exact h.meets_after hhigh
  · have hback : ¬ before < c.offset := fun hlt => by
      rw [hskip.2 hlt] at hkept
      cases hkept
    omega
  · have hforward := hskip.1 hleft
    omega

/-- **Changes that lie apart turn at most once around a second.** -/
theorem exists_turnsAt (second : Int) (h : Spaced before cs) : ∃ turn, TurnsAt second before cs turn := by
  induction cs generalizing before with
  | nil =>
    refine ⟨second - before, fun now _ => ?_, fun now _ => ?_, fun _ => ?_, fun h => absurd h Bool.false_ne_true⟩
    · constructor <;> simp only [offsetAfter] <;> omega
    · constructor <;> simp only [offsetAfter] <;> omega
    · simp only [offsetAfter]
      omega
  | cons c cs ih =>
    by_cases hearly : second < c.second + min before c.offset
    · exact ⟨_, h.turnsAt_before hearly⟩
    · by_cases hlate : c.second + max before c.offset ≤ second
      · obtain ⟨turn, hturn⟩ := ih h.2
        exact ⟨turn, h.turnsAt_after hlate hturn⟩
      · exact ⟨_, h.turnsAt_change (by omega) (by omega)⟩

/-! ### Zones -/

/-- What holds of seconds holds of microseconds. -/
theorem Meets.micros {shown offset : Int} {i : Instant} {w : Wall}
    (h : Meets (i.seconds + shown) (w.micros / microsPerSecond) i.seconds (w.micros / microsPerSecond - offset)) :
    Meets (i.plus shown).micros w.micros i.micros (w.minus offset).micros := by
  have hbefore := h.before
  have hafter := h.after
  simp only [Instant.seconds, microsPerSecond] at hbefore hafter
  simp only [Instant.plus, Wall.minus, microsPerSecond]
  constructor <;> omega

/-- An instant a day away from a reading lies on the same side of it on all clocks. -/
theorem meets_of_far {shown offset reading : Int} (hshown : IsOffset shown) (hoffset : IsOffset offset)
    (hfar : now + 86400 ≤ reading ∨ reading + 86400 ≤ now) :
    Meets (now + shown) reading now (reading - offset) := by
  unfold IsOffset at hshown hoffset
  constructor <;> omega

variable {w : Wall} {i j : Instant}

/-- **The clocks of a zone turn at most once around a reading.** -/
theorem IsSound.exists_rounds (h : z.IsSound) (hspaced : z.IsSpaced) (w : Wall) :
    ∃ turn, Rounds (fun now => (z.toLocal ⟨now⟩).wall.micros) w.micros (z.toInstant ⟨w, false⟩).micros
      (z.toInstant ⟨w, true⟩).micros (z.skips w) turn := by
  obtain ⟨turn, hrounds⟩ := exists_turnsAt (w.micros / microsPerSecond) (hspaced (w.micros / microsPerSecond))
  have hmeets : ∀ (i : Instant) offset, IsOffset offset →
      Meets (i.seconds + offsetAfter (comeBy i.seconds) z.base (z.changesNear (w.micros / microsPerSecond)))
        (w.micros / microsPerSecond) i.seconds (w.micros / microsPerSecond - offset) →
      Meets (z.toLocal i).wall.micros w.micros i.micros (w.minus offset).micros := by
    intro i offset hoffset hnear
    apply Meets.micros
    by_cases hfar : i.seconds + 86400 ≤ w.micros / microsPerSecond
        ∨ w.micros / microsPerSecond + 86400 ≤ i.seconds
    · exact meets_of_far (h.isOffset_offsetAfter _ _) hoffset hfar
    · rw [h.offsetAt_eq_near (show i.seconds - 86400 < w.micros / microsPerSecond by omega) (by omega)]
      exact hnear
  have hoffset : ∀ fold, IsOffset (z.offsetOfWall fold w) := fun fold => h.isOffset_offsetAfter _ _
  refine ⟨turn * microsPerSecond, fun now hnow => ?_, fun now hnow => ?_, fun hskip => ?_, fun hskip => ?_⟩
  · refine hmeets ⟨now⟩ _ (hoffset false) (hrounds.early _ ?_)
    simp only [Instant.seconds, microsPerSecond] at hnow ⊢
    omega
  · refine hmeets ⟨now⟩ _ (hoffset true) (hrounds.late _ ?_)
    simp only [Instant.seconds, microsPerSecond] at hnow ⊢
    omega
  · have hkept := hrounds.kept hskip
    simp only [toInstant, offsetOfWall_eq, Wall.minus]
    generalize offsetAfter (comeOn false (w.micros / microsPerSecond)) z.base _ = first at *
    generalize offsetAfter (comeOn true (w.micros / microsPerSecond)) z.base _ = last at *
    simp only [microsPerSecond] at hkept ⊢
    omega
  · have hleft := hrounds.left hskip
    simp only [toInstant, offsetOfWall_eq, Wall.minus]
    generalize offsetAfter (comeOn false (w.micros / microsPerSecond)) z.base _ = first at *
    generalize offsetAfter (comeOn true (w.micros / microsPerSecond)) z.base _ = last at *
    simp only [microsPerSecond] at hleft ⊢
    omega

/-! ### Readings and instants in order -/

section Order

variable (h : z.IsSound) (hspaced : z.IsSpaced)

include h hspaced

/-- Clocks past a reading that is not skipped have shown it. -/
theorem IsSound.toInstant_le_of_le_wall (hkept : z.skips w = false) (hle : w.micros ≤ (z.toLocal i).wall.micros) :
    (z.toInstant ⟨w, false⟩).micros ≤ i.micros := by
  obtain ⟨turn, hrounds⟩ := h.exists_rounds hspaced w
  have hturn := hrounds.kept hkept
  by_cases hearly : i.micros < turn
  · have hmeets : Meets (z.toLocal i).wall.micros _ _ _ := hrounds.early i.micros hearly
    have hbefore := hmeets.before
    omega
  · have hmeets : Meets (z.toLocal i).wall.micros _ _ _ := hrounds.late i.micros (Int.not_lt.1 hearly)
    have hbefore := hmeets.before
    omega

/-- A reading that is not skipped comes, for the last time, after the clocks are behind it. -/
theorem IsSound.lt_toInstant_of_wall_lt (hkept : z.skips w = false) (hlt : (z.toLocal i).wall.micros < w.micros) :
    i.micros < (z.toInstant ⟨w, true⟩).micros := by
  obtain ⟨turn, hrounds⟩ := h.exists_rounds hspaced w
  have hturn := hrounds.kept hkept
  by_cases hearly : i.micros < turn
  · omega
  · have hmeets : Meets (z.toLocal i).wall.micros _ _ _ := hrounds.late i.micros (Int.not_lt.1 hearly)
    exact hmeets.before.1 hlt

/-- Clocks that are past a skipped reading do not come back behind it. -/
theorem IsSound.wall_lt_of_skips (hskip : z.skips w = true) (hle : i.micros ≤ j.micros)
    (hlt : (z.toLocal j).wall.micros < w.micros) : (z.toLocal i).wall.micros < w.micros := by
  obtain ⟨turn, hrounds⟩ := h.exists_rounds hspaced w
  have hturn := hrounds.left hskip
  by_cases hearly : j.micros < turn
  · have hmeets : Meets (z.toLocal i).wall.micros _ _ _ := hrounds.early i.micros (by omega)
    exact hmeets.before.2 (by omega)
  · have hmeets : Meets (z.toLocal j).wall.micros _ _ _ := hrounds.late j.micros (Int.not_lt.1 hearly)
    have hbefore := hmeets.before
    omega

/-- The instant that a skipped reading leads to comes after the gap. -/
theorem IsSound.le_wall_toInstant (hskip : z.skips w = true) :
    w.micros ≤ (z.toLocal (z.toInstant ⟨w, false⟩)).wall.micros := by
  obtain ⟨turn, hrounds⟩ := h.exists_rounds hspaced w
  have hturn := hrounds.left hskip
  have hmeets : Meets (z.toLocal (z.toInstant ⟨w, false⟩)).wall.micros _ _ _ :=
    hrounds.late (z.toInstant ⟨w, false⟩).micros hturn.2
  have hbefore := hmeets.before
  omega

/-- A reading that clocks show is not skipped. -/
theorem IsSound.skips_wall (i : Instant) : z.skips (z.toLocal i).wall = false := by
  rw [← Bool.not_eq_true]
  exact fun hskip => h.toLocal_ne_of_skips hspaced hskip i rfl

omit h hspaced in
/-- An instant is the one that the reading at it, with its fold, leads to. -/
theorem toInstant_wall_eq (hfold : (z.toLocal i).fold = false) : z.toInstant ⟨(z.toLocal i).wall, false⟩ = i := by
  have hoffset : z.offsetOfWall false (i.plus (z.offsetAt i)) = z.offsetAt i := by simpa [toLocal] using hfold
  show (i.plus (z.offsetAt i)).minus (z.offsetOfWall false (i.plus (z.offsetAt i))) = i
  rw [hoffset, Wall.minus, Instant.plus, Int.add_sub_cancel]

omit h hspaced in
theorem toInstant_wall_ne (hfold : (z.toLocal i).fold = true) : z.toInstant ⟨(z.toLocal i).wall, false⟩ ≠ i := by
  have hoffset : z.offsetOfWall false (i.plus (z.offsetAt i)) ≠ z.offsetAt i := by simpa [toLocal] using hfold
  intro heq
  have hmicros : (i.plus (z.offsetAt i)).micros - z.offsetOfWall false (i.plus (z.offsetAt i)) * microsPerSecond
      = i.micros := congrArg Instant.micros heq
  simp only [Instant.plus, microsPerSecond] at hmicros hoffset
  omega

/-- **From a second round on clocks do not go back.** -/
theorem IsSound.wall_le_of_fold (hfold : (z.toLocal i).fold = true) (hle : i.micros ≤ j.micros) :
    (z.toLocal i).wall.micros ≤ (z.toLocal j).wall.micros := by
  obtain ⟨turn, hrounds⟩ := h.exists_rounds hspaced (z.toLocal i).wall
  have hnot : (z.toInstant ⟨(z.toLocal i).wall, false⟩).micros ≠ i.micros :=
    fun heq => toInstant_wall_ne hfold (congrArg Instant.mk heq)
  have hlate : turn ≤ i.micros := by
    by_contra hearly
    have hmeets : Meets (z.toLocal i).wall.micros _ _ _ := hrounds.early i.micros (Int.not_le.1 hearly)
    have hbefore := hmeets.before
    have hafter := hmeets.after
    omega
  have hmeets : Meets (z.toLocal i).wall.micros _ _ _ := hrounds.late i.micros hlate
  have hmeets' : Meets (z.toLocal j).wall.micros _ _ _ := hrounds.late j.micros (by omega)
  have hbefore := hmeets.before
  have hbefore' := hmeets'.before
  omega

/-- **Clocks that have gone back show a second round.** -/
theorem IsSound.fold_of_wall_lt (hle : i.micros ≤ j.micros)
    (hlt : (z.toLocal j).wall.micros < (z.toLocal i).wall.micros) : (z.toLocal j).fold = true := by
  by_contra hfold
  obtain ⟨turn, hrounds⟩ := h.exists_rounds hspaced (z.toLocal j).wall
  have hturn := hrounds.kept (h.skips_wall hspaced j)
  have hfirst := toInstant_wall_eq (Bool.not_eq_true _ ▸ hfold)
  rw [hfirst] at hrounds hturn
  by_cases hearly : i.micros < turn
  · have hmeets : Meets (z.toLocal i).wall.micros _ _ _ := hrounds.early i.micros hearly
    have hafter := hmeets.after
    omega
  · have hmeets : Meets (z.toLocal i).wall.micros _ _ _ := hrounds.late i.micros (Int.not_lt.1 hearly)
    have hafter := hmeets.after
    omega

end Order

end Zone
end Automation
