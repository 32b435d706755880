/-
# What writes do to the counts

Only recording an execution changes the counts of a workflow, and only its
own. Every other write leaves the counts of all workflows and removes no row
(`Table.Keeps`).

Key definitions: `Table.Keeps`.
Key theorems: `Table.save_keeps`, `Table.setActive_keeps`,
`Table.softDelete_keeps`, `Table.setNextRun_keeps`, `Table.record_counters`,
`Table.exists_record`.
-/
import Automation.Proofs.Table.Rows

namespace Automation

/-- A timestamp at offset zero stands for its instant. -/
@[simp] theorem Timestamp.instant_ofInstant (t : Instant) : (Timestamp.ofInstant t).instant = t := by
  simp [instant, ofInstant, Instant.plus, Wall.minus]

namespace Table

/-- A write that leaves all counts and removes no row. -/
structure Keeps (t t' : Table) : Prop where
  counters : ∀ id, t'.counters id = t.counters id
  has : ∀ {id}, t.has id = true → t'.has id = true

theorem Keeps.refl (t : Table) : Keeps t t := ⟨fun _ => rfl, id⟩

/-- A row written with the counts that are stored keeps all counts. -/
theorem Wrote.keeps {t t' : Table} {r : Row} (h : Wrote t t' r)
    (hcounters : r.counters = t.counters r.id) : Keeps t t' where
  counters id := by
    rw [Table.counters, h.find?_eq]
    by_cases hid : id = r.id
    · rw [if_pos hid, hid]
      exact hcounters
    · rw [if_neg hid]
      rfl
  has := h.has

theorem counters_of_find? {t : Table} {r : Row} {id : String} (h : t.find? id = some r) :
    t.counters r.id = r.counters := by
  rw [counters, find?_self h]
  rfl

/-! ### Writes of definitions -/

theorem save_keeps {t t' : Table} {zone : Zone} {now : Instant} {w w' : Workflow}
    (h : t.save zone now w = .ok (w', t')) : Keeps t t' := by
  obtain ⟨nextRun, d, -, -, -, hwrote⟩ := save_eq_ok h
  exact hwrote.keeps rfl

theorem setActive_keeps {t t' : Table} {zone : Zone} {now : Instant} {id : String} {active : Bool}
    {w : Workflow} (h : t.setActive zone now id active = .ok (w, t')) : Keeps t t' := by
  obtain ⟨v, -, h⟩ := Except.of_bind_eq_ok h
  exact save_keeps h

theorem softDelete_keeps {t t' : Table} {id : String} (h : t.softDelete id = .ok t') :
    Keeps t t' := by
  obtain ⟨r, hr, hwrote⟩ := softDelete_eq_ok h
  exact hwrote.keeps (counters_of_find? hr).symm

theorem setNextRun_keeps (t : Table) (id : String) (nextRun : Option Instant) :
    Keeps t (t.setNextRun id nextRun) where
  counters other := by
    rw [counters, counters, find?_setNextRun, Option.map_map]
    congr 2
    funext r
    simp only [Function.comp_apply]
    split <;> rfl
  has {other} h := by
    rw [has, find?_setNextRun, Option.isSome_map]
    exact h

/-! ### Recording -/

/-- To record an execution changes the counts of its workflow only. -/
theorem record_counters {t t' : Table} {id : String} {success : Bool} {error : Option LastError}
    {endedAt : Instant} (h : t.record id success error endedAt = .ok t') (other : String) :
    t'.counters other = if other = id
      then (t.counters id).record success (error.map LastError.stored) endedAt
      else t.counters other := by
  obtain ⟨r, hr, hwrote⟩ := record_eq_ok h
  obtain rfl := id_of_find? hr
  rw [counters, hwrote.find?_eq]
  by_cases hother : other = r.id
  · rw [if_pos hother, if_pos hother, counters_of_find? hr]
    rfl
  · rw [if_neg hother, if_neg hother, counters]

theorem record_has {t t' : Table} {id : String} {success : Bool} {error : Option LastError}
    {endedAt : Instant} (h : t.record id success error endedAt = .ok t') {other : String}
    (hother : t.has other = true) : t'.has other = true := by
  obtain ⟨r, -, hwrote⟩ := record_eq_ok h
  exact hwrote.has hother

/-- The execution of a stored workflow can be counted, if its failure, if any,
is noted at an instant that a clock can show. -/
theorem exists_record {t : Table} {id : String} (hid : t.has id = true) (success : Bool)
    {error : Option LastError} {endedAt : Instant} (hended : endedAt.checked = .ok endedAt)
    (herror : ∀ e ∈ error, e.timestamp = .ofInstant endedAt) :
    ∃ t', t.record id success error endedAt = .ok t' := by
  obtain ⟨r, hr⟩ := Option.isSome_iff_exists.1 hid
  have hmodify : ∀ f, ∃ t', t.modify id f = .ok t' := fun f => ⟨_, by rw [modify, hr]⟩
  unfold record
  cases success with
  | true => exact hmodify _
  | false =>
    cases error with
    | none => exact hmodify _
    | some e =>
      have hutc : e.timestamp.utc = .ok endedAt := by
        rw [herror e rfl, Timestamp.utc]
        rw [Timestamp.instant_ofInstant, hended]
      simp only [Option.mapM_some, hutc]
      exact hmodify _

end Table

end Automation
