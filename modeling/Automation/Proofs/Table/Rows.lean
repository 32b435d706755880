/-
# What a write does to the rows

Each write is described once. Saving, deleting and recording leave one row
with a given content, the one with their id, and do not touch the others
(`Table.Wrote`); setting a next run changes that field of a row, if there is
one. What is said elsewhere of writes is derived from this.

No write gives two rows the same id (`Table.Distinct`).

Key definitions: `LastError.stored`, `Table.has`, `Table.counters`,
`Table.addedAt`, `Table.Wrote`, `Table.put`, `Table.Distinct`.
Key theorems: `Table.Wrote.find?_eq`, `Table.save_eq_put`,
`Table.save_eq_ok`, `Table.softDelete_eq_ok`, `Table.record_eq_put`,
`Table.find?_setNextRun`, `Table.Distinct.put`.
-/
import Automation.Proofs.Document.Checked
import Automation.Table.Basic

namespace Automation

/-- A failure, as it is stored. -/
def LastError.stored (e : LastError) : StoredError := ⟨e.message, e.timestamp.instant, e.details⟩

theorem Timestamp.eq_of_utc {t : Timestamp} {now : Instant} (h : t.utc = .ok now) :
    now = t.instant := by
  unfold utc Instant.checked at h
  split at h
  · exact (Except.ok.inj h).symm
  · cases h

namespace Table

/-- Whether a workflow is stored. -/
def has (t : Table) (id : String) : Bool := (t.find? id).isSome

/-- The counts of a workflow; all are zero if it is not stored. -/
def counters (t : Table) (id : String) : Counters := ((t.find? id).map (·.counters)).getD {}

/-- The time at which a workflow was added, or is added now. -/
def addedAt (t : Table) (now : Instant) (w : Workflow) : Instant :=
  ((t.find? w.id).map (·.createdAt)).getD ((w.createdAt.map (·.instant)).getD now)

variable {t t' : Table} {r : Row} {id : String}

/-! ### Rows found -/

theorem id_of_find? (h : t.find? id = some r) : r.id = id := by
  simpa using List.find?_some h

theorem find?_self (h : t.find? id = some r) : t.find? r.id = some r := by
  rw [id_of_find? h, h]

/-- What is found by an id is what the row with that id holds. -/
theorem get_eq_ok {w : Workflow} (h : t.get id = .ok (some w)) :
    ∃ r, t.find? id = some r ∧ r.workflow = .ok w := by
  unfold get at h
  split at h
  · rename_i r hr
    obtain ⟨v, hv, h⟩ := Except.of_map_eq_ok h
    cases h
    exact ⟨r, hr, hv⟩
  · cases h

/-- A change of the rows that keeps their ids is seen by a search. -/
theorem find?_map (f : Row → Row) (hf : ∀ r, (f r).id = r.id) (rows : List Row) (id : String) :
    (Table.mk (rows.map f)).find? id = ((Table.mk rows).find? id).map f := by
  simp only [find?, List.find?_map]
  congr 2
  funext r
  simp [hf]

/-! ### Writes of one row -/

/-- A write of one row: it is new, or in the place of the one with its id. The
other rows stay as they are. -/
structure Wrote (t t' : Table) (r : Row) : Prop where
  found : t'.find? r.id = some r
  others : t'.rows.filter (·.id != r.id) = t.rows.filter (·.id != r.id)

/-- Only the row that was written is found to be another one. -/
theorem Wrote.find?_eq (h : Wrote t t' r) (id : String) :
    t'.find? id = if id = r.id then some r else t.find? id := by
  by_cases hid : id = r.id
  · rw [if_pos hid, hid, h.found]
  · have hsearch : ∀ u : Table, u.find? id = (u.rows.filter (·.id != r.id)).find? (·.id == id) := by
      intro u
      rw [List.find?_filter, find?]
      congr 1
      funext old
      by_cases hold : old.id = id
      · simp [hold, hid]
      · simp [hold]
    rw [if_neg hid, hsearch, h.others, ← hsearch]

theorem Wrote.get (h : Wrote t t' r) {w : Workflow}
    (hw : r.workflow = .ok w) : t'.get r.id = .ok (some w) := by
  rw [Table.get, h.found]
  simp only [hw]
  rfl

theorem Wrote.has (h : Wrote t t' r) {other : String} (hother : t.has other = true) :
    t'.has other = true := by
  rw [Table.has, h.find?_eq]
  split
  · rfl
  · exact hother

theorem wrote_replace {old : Row} (hold : t.find? r.id = some old) : Wrote t (t.replace r) r where
  found := by
    have hkeeps : ∀ old : Row, (if old.id == r.id then r else old).id = old.id := by
      intro old
      by_cases h : old.id = r.id
      · simp [h]
      · simp [h]
    have hfind := find?_map _ hkeeps t.rows r.id
    rw [replace, hfind, hold]
    simp [id_of_find? hold]
  others := by
    rw [replace, List.filter_map]
    have hid : ((fun old : Row => old.id != r.id) ∘ fun old => if old.id == r.id then r else old)
        = fun old => old.id != r.id := by
      funext old
      by_cases h : old.id = r.id
      · simp [h]
      · simp [h]
    rw [hid, List.map_congr_left (g := id), List.map_id]
    intro old hmem
    have hne : old.id ≠ r.id := by simpa using (List.mem_filter.1 hmem).2
    simp [hne]

theorem wrote_add (hnew : t.find? r.id = none) : Wrote t (t.add r) r where
  found := by
    rw [find?] at hnew
    rw [find?, add, List.find?_append, hnew]
    simp
  others := by
    rw [add, List.filter_append]
    simp

/-- The table with a row: it is new, or in the place of the one with its id. -/
def put (t : Table) (r : Row) : Table := if t.has r.id then t.replace r else t.add r

theorem put_of_find? {old : Row} (hold : t.find? r.id = some old) : t.put r = t.replace r := by
  rw [put, if_pos (by rw [has, hold]; rfl)]

theorem put_of_new (hnew : t.find? r.id = none) : t.put r = t.add r := by
  rw [put, if_neg (by rw [has, hnew]; simp)]

theorem wrote_put (t : Table) (r : Row) : Wrote t (t.put r) r := by
  cases hfind : t.find? r.id with
  | some old =>
    rw [put_of_find? hfind]
    exact wrote_replace hfind
  | none =>
    rw [put_of_new hfind]
    exact wrote_add hfind

/-- To change a row is to put another one in its place. -/
theorem modify_eq_ok {f : Row → Row} (hf : ∀ r, (f r).id = r.id) (h : t.modify id f = .ok t') :
    ∃ r, t.find? id = some r ∧ t' = t.put (f r) := by
  unfold modify at h
  split at h
  · rename_i r hr
    have hold : t.find? (f r).id = some r := by rw [hf, find?_self hr]
    exact ⟨r, hr, by rw [put_of_find? hold, Except.ok.inj h]⟩
  · cases h

theorem wrote_modify {f : Row → Row} (hf : ∀ r, (f r).id = r.id) (h : t.modify id f = .ok t') :
    ∃ r, t.find? id = some r ∧ Wrote t t' (f r) := by
  obtain ⟨r, hr, rfl⟩ := modify_eq_ok hf h
  exact ⟨r, hr, wrote_put t (f r)⟩

/-! ### The writes -/

/-- **What saving writes**: the documents of the workflow, with the counts that
are stored already and the time at which the workflow was added. -/
theorem save_eq_put {zone : Zone} {now : Instant} {w saved : Workflow}
    (h : t.save zone now w = .ok (saved, t')) :
    ∃ nextRun d, nextRunOf zone now w = .ok nextRun ∧ Definition.ofWorkflow w nextRun = .ok d
      ∧ Row.workflow ⟨w.id, t.addedAt now w, d, t.counters w.id⟩ = .ok saved
      ∧ t' = t.put ⟨w.id, t.addedAt now w, d, t.counters w.id⟩ := by
  obtain ⟨nextRun, hnextRun, h⟩ := Except.of_bind_eq_ok h
  obtain ⟨d, hd, h⟩ := Except.of_bind_eq_ok h
  refine ⟨nextRun, d, hnextRun, hd, ?_⟩
  cases hfind : t.find? w.id with
  | some old =>
    have hrow : (⟨w.id, t.addedAt now w, d, t.counters w.id⟩ : Row) = { old with definition := d } := by
      rw [addedAt, counters, hfind, ← id_of_find? hfind]
      rfl
    simp only [hfind] at h
    split at h
    · cases h
    · obtain ⟨v, hv, h⟩ := Except.of_bind_eq_ok h
      cases h
      have hold : t.find? ({ old with definition := d } : Row).id = some old := find?_self hfind
      rw [hrow]
      exact ⟨hv, (put_of_find? hold).symm⟩
  | none =>
    simp only [hfind] at h
    obtain ⟨createdAt, hcreatedAt, h⟩ := Except.of_bind_eq_ok h
    have hinstant : createdAt = w.createdAt.map (·.instant) := by
      have hutc := Except.of_mapError_eq_ok hcreatedAt
      cases hw : w.createdAt with
      | none =>
        rw [hw] at hutc
        exact (Except.ok.inj hutc).symm
      | some stamp =>
        rw [hw] at hutc
        obtain ⟨instant, hinstant, hutc⟩ := Except.of_map_eq_ok hutc
        rw [← hutc, Timestamp.eq_of_utc hinstant]
        rfl
    have hrow : (⟨w.id, t.addedAt now w, d, t.counters w.id⟩ : Row)
        = { id := w.id, createdAt := createdAt.getD now, definition := d } := by
      rw [addedAt, counters, hfind, hinstant]
      rfl
    split at h
    · cases h
    · obtain ⟨v, hv, h⟩ := Except.of_bind_eq_ok h
      cases h
      rw [hrow]
      exact ⟨hv, (put_of_new hfind).symm⟩

theorem save_eq_ok {zone : Zone} {now : Instant} {w saved : Workflow}
    (h : t.save zone now w = .ok (saved, t')) :
    ∃ nextRun d, nextRunOf zone now w = .ok nextRun ∧ Definition.ofWorkflow w nextRun = .ok d
      ∧ Row.workflow ⟨w.id, t.addedAt now w, d, t.counters w.id⟩ = .ok saved
      ∧ Wrote t t' ⟨w.id, t.addedAt now w, d, t.counters w.id⟩ := by
  obtain ⟨nextRun, d, hnextRun, hd, hsaved, rfl⟩ := save_eq_put h
  exact ⟨nextRun, d, hnextRun, hd, hsaved, wrote_put ..⟩

/-- To delete a workflow is to mark it. -/
theorem softDelete_eq_ok (h : t.softDelete id = .ok t') :
    ∃ r, t.find? id = some r ∧ Wrote t t'
      { r with definition := { r.definition with isDeleted := true, isActive := false } } :=
  wrote_modify (fun _ => rfl) h

/-- To record an execution is to count it in the row of its workflow. -/
theorem record_eq_put {success : Bool} {error : Option LastError} {endedAt : Instant}
    (h : t.record id success error endedAt = .ok t') :
    ∃ r, t.find? id = some r ∧ t' = t.put
      { r with counters := r.counters.record success (error.map LastError.stored) endedAt } := by
  unfold record at h
  cases success with
  | true => exact modify_eq_ok (fun _ => rfl) h
  | false =>
    obtain ⟨stored, hstored, h⟩ := Except.of_bind_eq_ok h
    have herror : stored = error.map LastError.stored := by
      cases error with
      | none => exact (Except.ok.inj hstored).symm
      | some e =>
        obtain ⟨noted, hnoted, hstored⟩ := Except.of_map_eq_ok hstored
        obtain ⟨now, hnow, hnoted⟩ := Except.of_bind_eq_ok hnoted
        have hutc := Except.of_mapError_eq_ok hnow
        rw [← hstored, ← Except.ok.inj hnoted, Timestamp.eq_of_utc hutc]
        rfl
    rw [← herror]
    exact modify_eq_ok (fun _ => rfl) h

theorem record_eq_ok {success : Bool} {error : Option LastError} {endedAt : Instant}
    (h : t.record id success error endedAt = .ok t') :
    ∃ r, t.find? id = some r ∧ Wrote t t'
      { r with counters := r.counters.record success (error.map LastError.stored) endedAt } := by
  obtain ⟨r, hr, rfl⟩ := record_eq_put h
  exact ⟨r, hr, wrote_put ..⟩

/-- To set a next run changes nothing else of its row, and no other row. -/
theorem find?_setNextRun (t : Table) (id : String) (nextRun : Option Instant) (other : String) :
    (t.setNextRun id nextRun).find? other = (t.find? other).map fun r =>
      if r.id == id then { r with definition := { r.definition with nextRun } } else r := by
  refine find?_map _ (fun r => ?_) t.rows other
  split <;> rfl

/-! ### Ids -/

/-- Whether no two rows have the same id. -/
def Distinct (t : Table) : Prop := (t.rows.map (·.id)).Nodup

/-- A row is found by its id, if no other has the same. -/
theorem Distinct.find?_of_mem : ∀ {rows : List Row} {r : Row}, (Table.mk rows).Distinct → r ∈ rows →
    (Table.mk rows).find? r.id = some r
  | [], _, _, hr => nomatch hr
  | old :: rows, r, h, hr => by
    rw [Distinct, List.map_cons, List.nodup_cons] at h
    rw [find?, List.find?_cons]
    rcases List.mem_cons.1 hr with rfl | hr
    · simp
    · have hne : old.id ≠ r.id := fun heq => h.1 (heq ▸ List.mem_map_of_mem hr)
      have hfound := find?_of_mem h.2 hr
      rw [beq_false_of_ne hne]
      exact hfound

theorem Distinct.put (h : t.Distinct) (r : Row) : (t.put r).Distinct := by
  cases hfind : t.find? r.id with
  | some old =>
    have hids : (t.replace r).rows.map (·.id) = t.rows.map (·.id) := by
      rw [replace, List.map_map]
      refine List.map_congr_left fun old _ => ?_
      by_cases hold : old.id = r.id
      · simp [hold]
      · simp [hold]
    rw [put_of_find? hfind, Distinct, hids]
    exact h
  | none =>
    have hnew : r.id ∉ t.rows.map (·.id) := by
      rintro hmem
      obtain ⟨old, hold, hid⟩ := List.mem_map.1 hmem
      simpa [hid] using List.find?_eq_none.1 hfind old hold
    rw [put_of_new hfind, Distinct, add, List.map_append]
    exact List.nodup_append.2 ⟨h, by simp, by simpa using hnew⟩

theorem Distinct.setNextRun (h : t.Distinct) (id : String) (nextRun : Option Instant) :
    (t.setNextRun id nextRun).Distinct := by
  have hids : (t.setNextRun id nextRun).rows.map (·.id) = t.rows.map (·.id) := by
    rw [Table.setNextRun, List.map_map]
    refine List.map_congr_left fun r _ => ?_
    by_cases hr : r.id = id
    · simp [hr]
    · simp [hr]
  rw [Distinct, hids]
  exact h

theorem Distinct.save {zone : Zone} {now : Instant} {w saved : Workflow} (ht : t.Distinct)
    (h : t.save zone now w = .ok (saved, t')) : t'.Distinct := by
  obtain ⟨_, _, _, _, _, rfl⟩ := save_eq_put h
  exact ht.put _

theorem Distinct.softDelete (ht : t.Distinct) (h : t.softDelete id = .ok t') : t'.Distinct := by
  obtain ⟨_, _, rfl⟩ := modify_eq_ok (fun _ => by rfl) h
  exact ht.put _

theorem Distinct.record {success : Bool} {error : Option LastError} {endedAt : Instant}
    (ht : t.Distinct) (h : t.record id success error endedAt = .ok t') : t'.Distinct := by
  obtain ⟨_, _, rfl⟩ := record_eq_put h
  exact ht.put _

end Table

end Automation
