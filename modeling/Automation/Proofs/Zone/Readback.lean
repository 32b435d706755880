/-
# Readings read back

The instant that a zone gives for a reading shows that reading again, unless the
clocks are set forward over it (`Zone.IsSound.toLocal_toInstant`). So each fold of
a reading that occurs leads to an instant at which it does. Where the changes of
a zone lie apart, a reading that is skipped occurs at no instant
(`Zone.IsSound.toLocal_ne_of_skips`); those of a rule by months do.

Both sides go through the changes in order. The wall counts a change as come from
the reading on that it ends at (fold `false`) or begins at (fold `true`), and a
reading past it leads to an instant past it: `Zone.second_le_of_comeOn`.

Key definitions: `Zone.skips`, `Zone.IsSpaced`.
Key theorems: `Zone.IsSound.toLocal_toInstant`, `Zone.IsSound.toLocal_ne_of_skips`,
`Zone.IsSound.isSpaced`.
-/
import Automation.Proofs.Zone.Windows

namespace Automation
namespace Zone

/-- Whether one of the changes sets the clocks forward over a second of the wall;
`before` is the offset before them. -/
def skipped (second : Int) : Int → List Change → Bool
  | _, [] => false
  | before, c :: cs =>
    (c.second + before ≤ second && second < c.second + c.offset) || skipped second c.offset cs

/-- Whether the clocks of a zone are set forward over a reading. -/
def skips (z : Zone) (w : Wall) : Bool :=
  skipped (w.micros / microsPerSecond) z.base (z.changesNear (w.micros / microsPerSecond))

/-- Changes that lie apart: each is over on the wall before the next one begins there. -/
def Spaced : Int → List Change → Prop
  | _, [] => True
  | before, c :: cs =>
    (∀ d ∈ cs.head?, c.second + max before c.offset ≤ d.second + min c.offset d.offset) ∧ Spaced c.offset cs

/-- A zone whose changes lie apart. -/
def IsSpaced (z : Zone) : Prop := ∀ second, Spaced z.base (z.changesNear second)

/-- Whether a change has come by a second of the wall. -/
def comeOn (fold : Bool) (second before : Int) (c : Change) : Bool := c.wallSecond before fold ≤ second

variable {z : Zone} {fold : Bool} {second before : Int} {c : Change} {cs : List Change}

theorem offsetOfWall_eq (z : Zone) (fold : Bool) (w : Wall) :
    z.offsetOfWall fold w = offsetAfter (comeOn fold (w.micros / microsPerSecond)) z.base
      (z.changesNear (w.micros / microsPerSecond)) := rfl

theorem skipped_cons : skipped second before (c :: cs) = true
    ↔ (c.second + before ≤ second ∧ second < c.second + c.offset) ∨ skipped second c.offset cs = true := by
  simp [skipped]

/-! ### One change -/

/-- A second of the wall that a change has come by lies past it on the clock
after it, or is skipped. -/
theorem le_or_skipped_of_comeOn (h : comeOn fold second before c = true) : c.second + c.offset ≤ second
    ∨ (c.second + before ≤ second ∧ second < c.second + c.offset) := by
  have hsecond : c.wallSecond before fold ≤ second := of_decide_eq_true h
  unfold Change.wallSecond at hsecond
  cases fold with
  | false =>
    simp only [Bool.false_eq_true, if_false] at hsecond
    omega
  | true =>
    simp only [if_true] at hsecond
    omega

/-- A second of the wall that a change has not come by lies before it on the
clock before it, or is skipped. -/
theorem lt_or_skipped_of_not_comeOn (h : ¬ comeOn fold second before c = true) : second < c.second + before
    ∨ (c.second + before ≤ second ∧ second < c.second + c.offset) := by
  have hsecond : ¬ c.wallSecond before fold ≤ second := fun hle => h (decide_eq_true hle)
  unfold Change.wallSecond at hsecond
  cases fold with
  | false =>
    simp only [Bool.false_eq_true, if_false] at hsecond
    omega
  | true =>
    simp only [if_true] at hsecond
    omega

/-! ### One list of changes -/

/-- A second of the wall that a change has come by leads to an instant past that
change, or is skipped. -/
theorem second_le_of_comeOn (hcome : comeOn fold second before c = true)
    (hordered : (c :: cs).Pairwise (·.second ≤ ·.second)) :
    c.second ≤ second - offsetAfter (comeOn fold second) c.offset cs
      ∨ skipped second before (c :: cs) = true := by
  rw [skipped_cons]
  induction cs generalizing before c with
  | nil =>
    rcases le_or_skipped_of_comeOn hcome with hle | hskip
    · rw [offsetAfter]
      exact .inl (by omega)
    · exact .inr (.inl hskip)
  | cons d ds ih =>
    obtain ⟨hfirst, hrest⟩ := List.pairwise_cons.1 hordered
    unfold offsetAfter
    by_cases hd : comeOn fold second c.offset d = true
    · -- the last change that has come decides
      rw [if_pos hd]
      rcases ih hd hrest with hle | hskip
      · have := hfirst d List.mem_cons_self
        exact .inl (by omega)
      · exact .inr (.inr (skipped_cons.2 hskip))
    · rw [if_neg hd]
      rcases le_or_skipped_of_comeOn hcome with hle | hskip
      · exact .inl (by omega)
      · exact .inr (.inl hskip)

/-- The offset of a second of the wall is the one at the instant that it leads
to, unless the second is skipped. -/
theorem offsetAfter_comeBy (hordered : cs.Pairwise (·.second ≤ ·.second)) :
    offsetAfter (comeBy (second - offsetAfter (comeOn fold second) before cs)) before cs
        = offsetAfter (comeOn fold second) before cs
      ∨ skipped second before cs = true := by
  induction cs generalizing before with
  | nil => exact .inl rfl
  | cons c cs ih =>
    by_cases hcome : comeOn fold second before c = true
    · have hoffset : offsetAfter (comeOn fold second) before (c :: cs)
          = offsetAfter (comeOn fold second) c.offset cs := by
        rw [offsetAfter, if_pos hcome]
      rcases second_le_of_comeOn hcome hordered with hle | hskip
      · rcases @ih c.offset (List.pairwise_cons.1 hordered).2 with heq | hskip
        · rw [hoffset, offsetAfter, if_pos (by simpa [comeBy] using hle)]
          exact .inl heq
        · exact .inr (skipped_cons.2 (.inr hskip))
      · exact .inr hskip
    · have hoffset : offsetAfter (comeOn fold second) before (c :: cs) = before := by
        rw [offsetAfter, if_neg hcome]
      rcases lt_or_skipped_of_not_comeOn hcome with hlt | hskip
      · have hnot : ¬ comeBy (second - before) before c = true := by
          simp only [comeBy, decide_eq_true_eq]
          omega
        rw [hoffset, offsetAfter, if_neg hnot]
        exact .inl rfl
      · exact .inr (skipped_cons.2 (.inl hskip))

/-! ### Zones -/

/-- The offset of a reading is below a day. -/
theorem IsSound.isOffset_offsetAfter (h : z.IsSound) (come : Int → Change → Bool) (second : Int) :
    IsOffset (offsetAfter come z.base (z.changesNear second)) := by
  rcases offsetAfter_mem come z.base (z.changesNear second) with hbase | ⟨c, hc, hoffset⟩
  · rw [hbase]
    exact h.base
  · rw [hoffset]
    exact h.isOffset_of_mem_changesNear c hc

/-- A reading at an offset leads to an instant that shows it if that is the
offset there. -/
theorem toLocal_minus {w : Wall} {offset : Int} (h : z.offsetAt (w.minus offset) = offset) :
    (z.toLocal (w.minus offset)).wall = w := by
  show (w.minus offset).plus (z.offsetAt (w.minus offset)) = w
  rw [h, Wall.minus, Instant.plus, Int.sub_add_cancel]

/-- **A reading leads to an instant that shows it**, unless the clocks are set
forward over the reading. -/
theorem IsSound.toLocal_toInstant (h : z.IsSound) (l : Local) :
    (z.toLocal (z.toInstant l)).wall = l.wall ∨ z.skips l.wall = true := by
  unfold toInstant skips
  rw [offsetOfWall_eq]
  generalize hsecond : l.wall.micros / microsPerSecond = second
  rcases @offsetAfter_comeBy l.fold second z.base _ (h.ordered_changesNear second) with hoffset | hskip
  · have hbound := h.isOffset_offsetAfter (comeOn l.fold second) second
    generalize offsetAfter (comeOn l.fold second) z.base (z.changesNear second) = offset at *
    have hseconds : (l.wall.minus offset).seconds = second - offset := by
      simp only [Wall.minus, Instant.seconds, ← hsecond, microsPerSecond]
      omega
    left
    apply toLocal_minus
    unfold IsOffset at hbound
    calc z.offsetAt (l.wall.minus offset)
        = offsetAfter (comeBy (l.wall.minus offset).seconds) z.base (z.changesNear second) :=
          h.offsetAt_eq_near (by omega) (by omega)
      _ = offset := by rw [hseconds, hoffset]
  · exact .inr hskip

/-! ### Readings that are skipped -/

/-- Past a change, the wall is past the change on the clock after it. -/
theorem le_add_offsetAfter (hspaced : Spaced before (c :: cs)) (hle : c.second ≤ second) :
    c.second + c.offset ≤ second + offsetAfter (comeBy second) c.offset cs := by
  induction cs generalizing before c with
  | nil =>
    rw [offsetAfter]
    omega
  | cons d ds ih =>
    obtain ⟨hapart, hrest⟩ := hspaced
    have hfirst := hapart d rfl
    unfold offsetAfter
    by_cases hd : comeBy second c.offset d = true
    · have hdle : d.second ≤ second := of_decide_eq_true hd
      have := ih hrest hdle
      rw [if_pos hd]
      omega
    · rw [if_neg hd]
      omega

/-- What later changes skip lies past a change on the clocks before and after it. -/
theorem le_of_skipped {shown : Int} (hspaced : Spaced before (c :: cs))
    (hskip : skipped shown c.offset cs = true) : c.second + max before c.offset ≤ shown := by
  induction cs generalizing before c with
  | nil => cases hskip
  | cons d ds ih =>
    obtain ⟨hapart, hrest⟩ := hspaced
    have hfirst := hapart d rfl
    rcases skipped_cons.1 hskip with hskip | hskip
    · omega
    · have := ih hrest hskip
      omega

/-- A second that is skipped is shown by no clock. -/
theorem add_offsetAfter_ne {shown : Int} (hspaced : Spaced before cs)
    (hskip : skipped shown before cs = true) : second + offsetAfter (comeBy second) before cs ≠ shown := by
  induction cs generalizing before with
  | nil => cases hskip
  | cons c cs ih =>
    unfold offsetAfter
    by_cases hcome : comeBy second before c = true
    · have hle : c.second ≤ second := of_decide_eq_true hcome
      have hafter := le_add_offsetAfter hspaced hle
      rw [if_pos hcome]
      rcases skipped_cons.1 hskip with hskip | hskip
      · omega
      · exact ih hspaced.2 hskip
    · have hlt : ¬ c.second ≤ second := fun hle => hcome (decide_eq_true hle)
      rw [if_neg hcome]
      rcases skipped_cons.1 hskip with hskip | hskip
      · omega
      · have := le_of_skipped hspaced hskip
        omega

/-- **A reading that the clocks are set forward over is shown at no instant**, if
the changes of the zone lie apart. -/
theorem IsSound.toLocal_ne_of_skips (h : z.IsSound) (hspaced : z.IsSpaced) {w : Wall}
    (hskip : z.skips w = true) (t : Instant) : (z.toLocal t).wall ≠ w := by
  intro hshown
  have hbound := h.isOffset_offsetAfter (comeBy t.seconds) t.seconds
  rw [← offsetAt_eq] at hbound
  have hsecond : t.seconds + z.offsetAt t = w.micros / microsPerSecond := by
    rw [← hshown]
    simp only [toLocal, Instant.plus, Instant.seconds, microsPerSecond]
    omega
  have hnear : z.offsetAt t
      = offsetAfter (comeBy t.seconds) z.base (z.changesNear (w.micros / microsPerSecond)) := by
    unfold IsOffset at hbound
    exact h.offsetAt_eq_near (by omega) (by omega)
  apply add_offsetAfter_ne (hspaced _) hskip
  rw [← hnear]
  exact hsecond

/-! ### Changes that lie apart -/

/-- Whether a change comes two days before another one. -/
def Apart (c d : Change) : Prop := c.second + 2 * 86400 ≤ d.second

/-- Changes that come two days after each other lie apart on every wall. -/
theorem spaced_of_apart (hbefore : IsOffset before) (hoffset : ∀ c ∈ cs, IsOffset c.offset)
    (hapart : cs.Pairwise Apart) : Spaced before cs := by
  induction cs generalizing before with
  | nil => trivial
  | cons c cs ih =>
    obtain ⟨hfirst, hrest⟩ := List.pairwise_cons.1 hapart
    have hc : IsOffset c.offset := hoffset c List.mem_cons_self
    refine ⟨?_, ih hc (fun d hd => hoffset d (List.mem_cons_of_mem c hd)) hrest⟩
    intro d hd
    have hmem : d ∈ cs := List.mem_of_mem_head? hd
    have hdays := hfirst d hmem
    have hdoffset := hoffset d (List.mem_cons_of_mem c hmem)
    unfold Apart at hdays
    unfold IsOffset at hbefore hc hdoffset
    omega

/-- The changes of a year come two days after each other if the months of a rule
have another one between them. -/
theorem Yearly.IsPlain.apart_changes {r : Yearly} (h : r.IsPlain)
    (hmonths : r.start.month + 2 ≤ r.stop.month ∨ r.stop.month + 2 ≤ r.start.month) (year : Int) :
    (r.changes year).Pairwise Apart := by
  have hdays : r.start.dayIn year + 28 ≤ r.stop.dayIn year ∨ r.stop.dayIn year + 28 ≤ r.start.dayIn year := by
    rcases hmonths with hmonths | hmonths
    · exact .inl (h.start.dayIn_add_le h.stop hmonths year)
    · exact .inr (h.stop.dayIn_add_le h.start hmonths year)
  have hnear := h.near_days year
  rcases r.changes_cases year with ⟨heq, hle⟩ | ⟨heq, hlt⟩
  · have hapart : Apart (r.onset year) (r.ending year) := by
      unfold Apart
      omega
    rw [heq]
    simpa using hapart
  · have hapart : Apart (r.ending year) (r.onset year) := by
      unfold Apart
      omega
    rw [heq]
    simpa using hapart

/-- **The changes of a zone lie apart** if those of its history do, and its rule
is one by months that begins later. -/
theorem IsSound.isSpaced (h : z.IsSound) (hhistory : z.changes.Pairwise Apart)
    (hlast : ∀ year, ∀ c ∈ z.changes, ∀ d ∈ z.ruleIn year, Apart c d)
    (hrule : ∀ r, z.yearly = some r → r.IsPlain
      ∧ (r.start.month + 2 ≤ r.stop.month ∨ r.stop.month + 2 ≤ r.start.month)) : z.IsSpaced := by
  intro second
  refine spaced_of_apart h.base h.isOffset_of_mem_changesNear ?_
  refine pairwise_changesNear hhistory ?_ hlast ?_ second
  · intro year
    unfold ruleIn
    split
    · exact List.Pairwise.nil
    · rename_i r hr
      obtain ⟨hplain, hmonths⟩ := hrule r hr
      exact (hplain.apart_changes hmonths year).filter _
  · intro year year' hlt
    refine h.second_add_le_ruleIn (by omega) ?_ hlt
    intro r hr year c hc d hd
    have := (hrule r hr).1.second_add_le hc hd
    omega

end Zone
end Automation
