/-
# What the search of an expression finds

A search of some days finds a reading that the expression matches and that the
clocks show, or move on to the end of a gap, and fails only if there is none: what
it passes over within a gap no clock shows (`Cron.search_finds`). The instant of what
is found comes after now if the clocks are behind it now, so the next match is
missed only where no reading still to come is left (`Cron.firstAfter_finds`).

Key definitions: `Cron.Matches`, `Cron.Offers`, `Cron.Finds`.
Key theorems: `Cron.skips_of_gap`, `Cron.search_finds`, `Cron.occurrence_gt`,
`Cron.firstAfter_finds`.
-/
import Automation.Proofs.Calendar.Ahead
import Automation.Proofs.Cron.Fields
import Automation.Proofs.Zone.Rounds

namespace Automation
namespace Cron

open Zone (Change Spaced comeBy offsetAfter skipped)

/-- The reading at the start of a second of the wall. -/
def wallAt (second : Int) : Wall := ⟨second * microsPerSecond⟩

/-- Whether an expression matches a second of the wall. -/
def Matches (c : Cron) (second : Int) : Prop :=
  c.matchesDay (.ofDay (second / 86400)) = true ∧ c.AllowsTime (second % 86400).toNat

/-- A match from a second on, up to the last day searched. One in a gap of the
clock counts unless every hour matches. -/
structure Offers (c : Cron) (z : Zone) (first last second : Int) : Prop where
  fits : c.Matches second
  first : first ≤ second
  last : second / 86400 ≤ last
  shown : z.skips (wallAt second) = false ∨ c.hour.every = false

/-- What a search gives: a match, or the minute after the gap that it lies in, or
an error if there is no match. -/
inductive Finds (c : Cron) (z : Zone) (first last : Int) : Except SearchError Int → Prop
  | reading {second found : Int} : c.Offers z first last second → second ≤ found →
      found ≤ second + 3 * 86400 → Finds c z first last (.ok found)
  | nothing : (∀ second, ¬ c.Offers z first last second) → Finds c z first last (.error .noMatch)

variable {c : Cron} {z : Zone} {now : Instant} {first last second later after before : Int} {cs : List Change}

theorem Offers.mono (h : c.Offers z later last second) (hle : first ≤ later) : c.Offers z first last second :=
  ⟨h.fits, Int.le_trans hle h.first, h.last, h.shown⟩

/-- A search goes on where it passes over no match. -/
theorem Finds.mono {result : Except SearchError Int} (h : Finds c z later last result) (hle : first ≤ later)
    (hnone : ∀ second, c.Offers z first last second → later ≤ second) : Finds c z first last result := by
  cases h with
  | reading hoffers hfound hnear => exact .reading (hoffers.mono hle) hfound hnear
  | nothing hnothing =>
    exact .nothing fun second hsecond =>
      hnothing second ⟨hsecond.fits, hnone second hsecond, hsecond.last, hsecond.shown⟩

/-! ### Gaps -/

theorem go_eq_none_iff : gapEnd?.go second before cs = none ↔ skipped second before cs = false := by
  induction cs generalizing before with
  | nil => simp [gapEnd?.go, skipped]
  | cons d ds ih =>
    unfold gapEnd?.go skipped
    split
    · rename_i hgap
      simp [hgap]
    · rename_i hgap
      rw [ih]
      simp [Bool.not_eq_true _ ▸ hgap]

theorem wallAt_seconds : (wallAt second).micros / microsPerSecond = second := by
  simp only [wallAt, microsPerSecond]
  omega

/-- A second lies in a gap if the clocks are set forward over it. -/
theorem gapEnd?_eq_none_iff : gapEnd? z second = none ↔ z.skips (wallAt second) = false := by
  unfold Zone.skips
  rw [wallAt_seconds]
  exact go_eq_none_iff

/-- Around a gap clocks come from before a second in it to its end. -/
theorem exists_turn_of_go (hspaced : Spaced before cs) (h : gapEnd?.go second before cs = some after) :
    ∃ turn, (∀ i, i < turn → i + offsetAfter (comeBy i) before cs < second)
      ∧ ∀ i, turn ≤ i → after ≤ i + offsetAfter (comeBy i) before cs := by
  induction cs generalizing before with
  | nil => cases h
  | cons d ds ih =>
    unfold gapEnd?.go at h
    split at h
    · rename_i hgap
      cases h
      simp only [Bool.and_eq_true, decide_eq_true_eq] at hgap
      refine ⟨d.second, fun i hi => ?_, fun i hi => ?_⟩
      · rw [Zone.offsetAfter_of_lt hi]
        omega
      · rw [Zone.offsetAfter_of_le hi]
        exact Zone.le_add_offsetAfter hspaced hi
    · obtain ⟨turn, hearly, hlate⟩ := ih hspaced.2 h
      have hskip : skipped second d.offset ds = true := by
        rw [← Bool.not_eq_false, ← go_eq_none_iff, h]
        exact Option.some_ne_none _
      have hpast := Zone.le_of_skipped hspaced hskip
      have hafter := gapEnd?.lt_of_go h
      refine ⟨turn, fun i hi => ?_, fun i hi => ?_⟩
      · by_cases hlt : i < d.second
        · rw [Zone.offsetAfter_of_lt hlt]
          omega
        · rw [Zone.offsetAfter_of_le (Int.not_lt.1 hlt)]
          exact hearly i hi
      · by_cases hlt : i < d.second
        · have := hlate i hi
          rw [hspaced.offsetAfter_before hlt] at this
          omega
        · rw [Zone.offsetAfter_of_le (Int.not_lt.1 hlt)]
          exact hlate i hi

section Gaps

variable (hz : z.IsSound) (hspaced : z.IsSpaced)

include hz hspaced

/-- The turn of a gap lies within a day of each second in it, and the clocks show no
second in it afterwards. -/
theorem exists_turn (h : gapEnd? z second = some after) : ∃ turn : Instant,
    after * microsPerSecond ≤ (z.toLocal turn).wall.micros ∧ after ≤ second + 2 * 86400
      ∧ ∀ i : Instant, second - 86400 < i.seconds → i.micros < turn.micros →
        (z.toLocal i).wall.micros < second * microsPerSecond := by
  obtain ⟨turn, hearly, hlate⟩ := exists_turn_of_go (hspaced second) h
  have hoffset : ∀ i, Zone.IsOffset (offsetAfter (comeBy i) z.base (z.changesNear second)) :=
    fun i => hz.isOffset_offsetAfter _ _
  have hgap := gapEnd?_gt h
  -- the turn is near, since the offsets before and after it are below a day
  have hbefore := hearly (turn - 1) (by omega)
  have hafter := hlate turn (Int.le_refl _)
  have hoffsetBefore := hoffset (turn - 1)
  have hoffsetAfter := hoffset turn
  unfold Zone.IsOffset at hoffsetBefore hoffsetAfter
  have hseconds : (⟨turn * microsPerSecond⟩ : Instant).seconds = turn := by
    simp only [Instant.seconds, microsPerSecond]
    omega
  refine ⟨⟨turn * microsPerSecond⟩, ?_, by omega, fun i hlow hi => ?_⟩
  · have hlow : (⟨turn * microsPerSecond⟩ : Instant).seconds - 86400 < second := by omega
    have hhigh : second < (⟨turn * microsPerSecond⟩ : Instant).seconds + 86400 := by omega
    have hnear := hz.offsetAt_eq_near hlow hhigh
    rw [hseconds] at hnear
    rw [← hnear] at hafter
    show after * microsPerSecond
      ≤ turn * microsPerSecond + z.offsetAt ⟨turn * microsPerSecond⟩ * microsPerSecond
    generalize z.offsetAt ⟨turn * microsPerSecond⟩ = offset at hafter ⊢
    simp only [microsPerSecond]
    omega
  · have hlt : i.seconds < turn := by
      simp only [Instant.seconds, microsPerSecond] at hi ⊢
      omega
    have hshown := hearly i.seconds hlt
    rw [← hz.offsetAt_eq_near (by omega) (by omega)] at hshown
    simp only [Zone.toLocal, Instant.plus, Instant.seconds, microsPerSecond] at hshown ⊢
    omega

/-- **From a second in a gap to the end of the gap clocks show nothing.** -/
theorem skips_of_gap (h : gapEnd? z second = some after) (hle : second ≤ later) (hlt : later < after) :
    z.skips (wallAt later) = true := by
  by_contra hkept
  obtain ⟨turn, hturn, -, hearly⟩ := exists_turn hz hspaced h
  have hshows := (hz.toLocal_toInstant ⟨wallAt later, false⟩).resolve_right hkept
  generalize hfirst : z.toInstant ⟨wallAt later, false⟩ = i at hshows
  have hround : (z.toLocal i).fold = false := by
    by_contra hfold
    have hne := Zone.toInstant_wall_ne (Bool.not_eq_false _ ▸ hfold)
    rw [hshows] at hne
    exact hne hfirst
  have hshown : (z.toLocal i).wall.micros = later * microsPerSecond := congrArg Wall.micros hshows
  have hoffset : Zone.IsOffset (z.offsetAt i) := hz.isOffset_offsetAfter _ _
  have hnear : second - 86400 < i.seconds := by
    unfold Zone.IsOffset at hoffset
    simp only [Zone.toLocal, Instant.plus, Instant.seconds, microsPerSecond] at hshown ⊢
    omega
  by_cases hi : i.micros < turn.micros
  · have := hearly i hnear hi
    simp only [microsPerSecond] at this hshown
    omega
  · have hback : (z.toLocal i).wall.micros < (z.toLocal turn).wall.micros := by
      simp only [microsPerSecond] at hturn hshown
      omega
    have := hz.fold_of_wall_lt hspaced (Int.not_lt.1 hi) hback
    rw [hround] at this
    cases this

end Gaps

/-! ### The search -/

/-- The second of the day of `second` that a search finds. -/
def foundOn (c : Cron) (second : Int) : Option Nat :=
  if c.matchesDay (.ofDay (second / 86400)) then c.firstOnDay (second % 86400).toNat else none

theorem foundOn_eq_some (hc : c.InSlots) {n : Nat} (h : c.foundOn second = some n) :
    c.Matches (second / 86400 * 86400 + n) ∧ second ≤ second / 86400 * 86400 + n ∧ n < 86400
      ∧ ∀ other, c.Matches other → second ≤ other → second / 86400 * 86400 + n ≤ other := by
  unfold foundOn at h
  split at h
  · rename_i hday
    have hfirst := firstOnDay_isFirst hc (second % 86400).toNat
    rw [h] at hfirst
    cases hfirst with
    | found hn hstart hleast =>
      have hplace : (second / 86400 * 86400 + (n : Int)) / 86400 = second / 86400 := by omega
      have htime : ((second / 86400 * 86400 + (n : Int)) % 86400).toNat = n := by omega
      refine ⟨⟨by rw [hplace]; exact hday, by rw [htime]; exact hn.2⟩, by omega, hn.1, ?_⟩
      intro other hother hle
      by_contra hlt
      have := hleast (other % 86400).toNat ⟨by omega, hother.2⟩ (by omega)
      omega
  · cases h

theorem foundOn_eq_none (hc : c.InSlots) (h : c.foundOn second = none) {other : Int}
    (hother : c.Matches other) (hle : second ≤ other) : (second / 86400 + 1) * 86400 ≤ other := by
  by_contra hlt
  have hsame : other / 86400 = second / 86400 := by omega
  unfold foundOn at h
  rw [if_pos (hsame ▸ hother.1)] at h
  have hfirst := firstOnDay_isFirst hc (second % 86400).toNat
  rw [h] at hfirst
  cases hfirst with
  | none hnone =>
    have := hnone (other % 86400).toNat ⟨by omega, hother.2⟩
    omega

section Search

variable (hz : z.IsSound) (hspaced : z.IsSpaced) (hc : c.InSlots)

include hz hspaced hc

/-- **A search finds a match, or there is none.** -/
theorem search_finds (hlast : last ≤ Date.lastDay) : Finds c z second last (c.search z last second) := by
  fun_induction search c z last second with
  | case1 second day hday =>
    exact .nothing fun other h => by
      have := h.first
      have := h.last
      omega
  | case2 second day hday hover => omega
  | case3 second day hday hin found hfound ih =>
    refine ih.mono (by omega) fun other hother => ?_
    exact foundOn_eq_none hc hfound hother.fits hother.first
  | case4 second day hday hin found n hn reading hgap =>
    obtain ⟨hfits, hle, hn, -⟩ := foundOn_eq_some hc hn
    exact .reading ⟨hfits, hle, by omega, .inl (gapEnd?_eq_none_iff.1 hgap)⟩ (Int.le_refl _) (by omega)
  | case5 second day hday hin found n hn reading after hgap hevery =>
    obtain ⟨hfits, hle, hn, -⟩ := foundOn_eq_some hc hn
    obtain ⟨-, -, hnear, -⟩ := exists_turn hz hspaced hgap
    have hafter := gapEnd?_gt hgap
    exact .reading ⟨hfits, hle, by omega, .inr (by simpa using hevery)⟩ (by omega) (by omega)
  | case6 second day hday hin found n hn reading after hgap hevery hlt ih =>
    obtain ⟨-, -, -, hleast⟩ := foundOn_eq_some hc hn
    refine ih.mono (by omega) fun other hother => ?_
    -- what is passed over lies in the gap
    by_contra hbefore
    have hskip := skips_of_gap hz hspaced hgap (hleast other hother.fits hother.first) (Int.not_le.1 hbefore)
    rcases hother.shown with hshown | hshown
    · rw [hshown] at hskip
      cases hskip
    · exact hevery (by simp [hshown])
  | case7 second day hday hin found n hn reading after hgap hevery hlt =>
    obtain ⟨-, hle, -⟩ := foundOn_eq_some hc hn
    have := gapEnd?_gt hgap
    omega

omit hc in
/-- **What the clocks are behind now occurs after now.** -/
theorem occurrence_gt (hbehind : (z.toLocal now).wall.micros < (wallAt second).micros) :
    now.micros < (occurrence z now second).micros := by
  unfold occurrence
  dsimp only
  rw [← wallAt]
  split
  · rename_i hfirst
    exact hfirst
  · rename_i hpast
    cases hskip : z.skips (wallAt second) with
    | false => exact hz.lt_toInstant_of_wall_lt hspaced hskip hbehind
    | true =>
      have hbefore := hz.wall_lt_of_skips hspaced hskip (Int.not_lt.1 hpast) hbehind
      have hafter := hz.le_wall_toInstant hspaced hskip
      omega

omit hspaced hc in
/-- An occurrence of a reading lies within a day of it. -/
theorem occurrence_lt : (occurrence z now second).micros < (second + 86400) * microsPerSecond := by
  have hoffset : ∀ fold, Zone.IsOffset (z.offsetOfWall fold (wallAt second)) :=
    fun fold => hz.isOffset_offsetAfter _ _
  have hfirst := hoffset false
  have hlast := hoffset true
  unfold Zone.IsOffset at hfirst hlast
  unfold occurrence
  dsimp only
  rw [← wallAt]
  split
  all_goals
    simp only [Zone.toInstant, Wall.minus]
    simp only [wallAt, microsPerSecond] at hfirst hlast ⊢
    omega

/-- **A next match comes after now, or no reading that is still to come matches.** -/
theorem firstAfter_finds (second : Int) (hlast : last + 5 ≤ Date.lastDay) (hnow : (now.plus 0).inRange = true) :
    (∃ next, c.firstAfter z now last second = .ok next ∧ now.micros < next.micros
        ∧ ∃ other, c.Offers z second last other)
      ∨ (c.firstAfter z now last second = .error .noMatch
        ∧ ∀ other, c.Offers z second last other → (wallAt other).micros ≤ (z.toLocal now).wall.micros) := by
  fun_induction firstAfter c z now last second with
  | case1 second e he =>
    have hfinds : Finds c z second last (c.search z last second) := search_finds hz hspaced hc (by omega)
    rw [he] at hfinds
    cases hfinds with
    | nothing hnothing => exact .inr ⟨rfl, fun other hother => absurd hother (hnothing other)⟩
  | case2 second found hfound t hlater =>
    have hfinds : Finds c z second last (c.search z last second) := search_finds hz hspaced hc (by omega)
    rw [hfound] at hfinds
    cases hfinds with
    | @reading match' _ hoffers hle hnear =>
      have hbound : t.micros < (found + 86400) * microsPerSecond := occurrence_lt hz
      have hday := hoffers.last
      have hrange : (t.plus 0).inRange = true := by
        rw [Wall.inRange_iff] at hnow ⊢
        simp only [Wall.day, Instant.plus, microsPerDay, microsPerSecond] at hnow hbound ⊢
        omega
      refine .inl ⟨t, ?_, hlater, match', hoffers⟩
      rw [Instant.checked, if_pos hrange]
      rfl
  | case3 second found hfound t hlater ih =>
    have hle := (search_le hfound).1
    rcases ih with ⟨next, hnext, hafter, other, hoffers⟩ | ⟨herror, hnone⟩
    · exact .inl ⟨next, hnext, hafter, other, hoffers.mono (by omega)⟩
    · refine .inr ⟨herror, fun other hother => ?_⟩
      by_cases hpast : found + 1 ≤ other
      · exact hnone other ⟨hother.fits, hpast, hother.last, hother.shown⟩
      · by_contra hbehind
        have hfuture : (z.toLocal now).wall.micros < (wallAt found).micros := by
          simp only [wallAt, microsPerSecond] at hbehind ⊢
          omega
        exact hlater (occurrence_gt hz hspaced hfuture)

end Search

end Cron
end Automation
