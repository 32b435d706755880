/-
# Counting among other writes

Callers share one table. In any order they save definitions, switch workflows
on or off, set next runs, delete workflows and record executions. Each of
these is one transaction, but for switching a workflow on or off: that reads
the workflow in one and writes it back in another (`Table.setActive_history`),
so the copy that is written back may be old, and its counts with it.

However transactions are mixed, the counts of a workflow are those of its
recordings (`Table.History.tally`). That is so because every transaction but a
recording leaves them (`Table.Transaction.counters`).

Key definitions: `Recording`, `Table.Shared`, `Table.Transaction`,
`Table.History`.
Key theorems: `Table.setActive_history`, `Table.Transaction.counters`,
`Table.History.counters`, `Table.History.tally`.
-/
import Automation.Proofs.Table.Counters

namespace Automation

/-- An execution that was recorded. -/
structure Recording where
  workflowId : String
  success : Bool
  error : Option LastError
  endedAt : Instant

namespace Recording

/-- The failure that is kept of an execution. -/
def noted (r : Recording) : Option StoredError :=
  if r.success then none else r.error.map LastError.stored

/-- Counts one more execution. -/
def count (c : Counters) (r : Recording) : Counters :=
  c.record r.success (r.error.map LastError.stored) r.endedAt

/-! ### What a number of recordings comes to -/

theorem foldl_total : ∀ (rs : List Recording) (c : Counters),
    (rs.foldl count c).total = c.total + rs.length
  | [], _ => rfl
  | r :: rs, c => by
    have hfirst : (count c r).total = c.total + 1 := rfl
    rw [List.foldl_cons, foldl_total rs, hfirst, List.length_cons]
    omega

theorem foldl_successful : ∀ (rs : List Recording) (c : Counters),
    (rs.foldl count c).successful = c.successful + rs.countP (·.success)
  | [], _ => rfl
  | r :: rs, c => by
    rw [List.foldl_cons, foldl_successful rs, List.countP_cons]
    cases hr : r.success with
    | true =>
      have hfirst : (count c r).successful = c.successful + 1 := by simp [count, Counters.record, hr]
      rw [hfirst]
      simp only [if_true]
      omega
    | false =>
      have hfirst : (count c r).successful = c.successful := by simp [count, Counters.record, hr]
      rw [hfirst]
      simp

theorem foldl_failed : ∀ (rs : List Recording) (c : Counters),
    (rs.foldl count c).failed = c.failed + rs.countP (!·.success)
  | [], _ => rfl
  | r :: rs, c => by
    rw [List.foldl_cons, foldl_failed rs, List.countP_cons]
    cases hr : r.success with
    | true =>
      have hfirst : (count c r).failed = c.failed := by simp [count, Counters.record, hr]
      rw [hfirst]
      simp
    | false =>
      have hfirst : (count c r).failed = c.failed + 1 := by simp [count, Counters.record, hr]
      rw [hfirst]
      simp only [Bool.not_false, if_true]
      omega

/-- The last error is that of the last recording that has one to be kept. -/
theorem foldl_lastError : ∀ (rs : List Recording) (c : Counters),
    (rs.foldl count c).lastError = (rs.reverse.findSome? noted).or c.lastError
  | [], _ => rfl
  | r :: rs, c => by
    have hfirst : (count c r).lastError = r.noted.or c.lastError := by
      cases hr : r.success with
      | true => simp [count, Counters.record, noted, hr]
      | false => simp [count, Counters.record, noted, hr]
    rw [List.foldl_cons, foldl_lastError rs, hfirst, List.reverse_cons, List.findSome?_append,
      List.findSome?_singleton, Option.or_assoc]

end Recording

namespace Table

/-! ### Transactions -/

/-- A table that callers share, and the copies that they have read to write
them back. -/
structure Shared where
  table : Table
  copies : List Workflow := []

/-- One transaction, with the recording that it makes, if any. -/
inductive Transaction : Shared → List Recording → Shared → Prop where
  | save {s : Shared} {zone : Zone} {now : Instant} {w saved : Workflow} {table : Table} :
      s.table.save zone now w = .ok (saved, table) → Transaction s [] { s with table }
  /-- A workflow is read to be switched on or off. -/
  | read {s : Shared} {id : String} {w : Workflow} (active : Bool) :
      s.table.undeleted id = .ok w →
      Transaction s [] { s with copies := { w with isActive := active } :: s.copies }
  /-- A copy is written back, however old it is. -/
  | writeBack {s : Shared} {before after : List Workflow} {zone : Zone} {now : Instant}
      {w saved : Workflow} {table : Table} :
      s.copies = before ++ w :: after → s.table.save zone now w = .ok (saved, table) →
      Transaction s [] ⟨table, before ++ after⟩
  /-- A copy cannot be written back. -/
  | drop {s : Shared} {before after : List Workflow} {w : Workflow} :
      s.copies = before ++ w :: after → Transaction s [] { s with copies := before ++ after }
  | setNextRun {s : Shared} (id : String) (nextRun : Option Instant) :
      Transaction s [] { s with table := s.table.setNextRun id nextRun }
  | softDelete {s : Shared} {id : String} {table : Table} :
      s.table.softDelete id = .ok table → Transaction s [] { s with table }
  | record {s : Shared} (r : Recording) {table : Table} :
      s.table.record r.workflowId r.success r.error r.endedAt = .ok table →
      Transaction s [r] { s with table }

/-- Any number of transactions, in any order. -/
inductive History : Shared → List Recording → Shared → Prop where
  | nil {s : Shared} : History s [] s
  | step {s s' s'' : Shared} {recorded more : List Recording} :
      History s recorded s' → Transaction s' more s'' → History s (recorded ++ more) s''

/-- To switch a workflow on or off is to read it and to write it back. -/
theorem setActive_history {t t' : Table} {zone : Zone} {now : Instant} {id : String} {active : Bool}
    {saved : Workflow} (h : t.setActive zone now id active = .ok (saved, t'))
    (copies : List Workflow) : History ⟨t, copies⟩ [] ⟨t', copies⟩ := by
  obtain ⟨w, hw, hsave⟩ := Except.of_bind_eq_ok h
  have hread : History ⟨t, copies⟩ [] ⟨t, { w with isActive := active } :: copies⟩ :=
    .step .nil (.read active hw)
  have hback : Transaction ⟨t, { w with isActive := active } :: copies⟩ [] ⟨t', [] ++ copies⟩ :=
    .writeBack rfl hsave
  exact hread.step hback

/-! ### Counts -/

variable {s s' s'' : Shared} {recorded more : List Recording}

/-- A write that keeps all counts is one without a recording. -/
theorem Keeps.counters_foldl {t t' : Table} (h : t.Keeps t') (id : String) :
    t'.counters id
      = (([] : List Recording).filter (·.workflowId == id)).foldl Recording.count (t.counters id) :=
  h.counters id

/-- **No transaction but a recording changes the counts of a workflow**, and a
recording changes those of its own workflow only. -/
theorem Transaction.counters (h : Transaction s recorded s') (id : String) :
    s'.table.counters id
      = (recorded.filter (·.workflowId == id)).foldl Recording.count (s.table.counters id) := by
  cases h with
  | save hsave => exact (save_keeps hsave).counters_foldl id
  | read => exact (Keeps.refl _).counters_foldl id
  | writeBack _ hsave => exact (save_keeps hsave).counters_foldl id
  | drop => exact (Keeps.refl _).counters_foldl id
  | setNextRun other nextRun => exact (setNextRun_keeps _ other nextRun).counters_foldl id
  | softDelete hdelete => exact (softDelete_keeps hdelete).counters_foldl id
  | record r hrecord =>
    rw [record_counters hrecord id]
    by_cases hid : id = r.workflowId
    · have hown : [r].filter (·.workflowId == id) = [r] := by simp [hid]
      rw [if_pos hid, hown, hid]
      rfl
    · have hnone : [r].filter (·.workflowId == id) = [] := by simp [Ne.symm hid]
      rw [if_neg hid, hnone]
      rfl

/-- After any transactions a workflow has its old counts and those of its recordings. -/
theorem History.counters (h : History s recorded s') (id : String) :
    s'.table.counters id
      = (recorded.filter (·.workflowId == id)).foldl Recording.count (s.table.counters id) := by
  induction h with
  | nil => rfl
  | step _ hstep ih => rw [hstep.counters id, ih, List.filter_append, List.foldl_append]

/-- **Counts are exact, whatever is written meanwhile.** From the time when a
workflow is not stored yet, its executions are counted one for one, as they
were recorded; its last error is that of the last failure that came with one.
Counts never fall, and only such a failure changes the last error. -/
theorem History.tally {id : String} (hnew : s.table.has id = false) (h : History s recorded s')
    (hmore : History s' more s'') :
    let own := recorded.filter (·.workflowId == id)
    let before := s'.table.counters id
    let after := s''.table.counters id
    (before.total = own.length ∧ before.successful = own.countP (·.success)
        ∧ before.failed = own.countP (!·.success)
        ∧ before.lastError = own.reverse.findSome? Recording.noted)
      ∧ (before.total ≤ after.total ∧ before.successful ≤ after.successful
        ∧ before.failed ≤ after.failed)
      ∧ ((∀ r ∈ more, r.workflowId = id → r.noted = none) → after.lastError = before.lastError) := by
  intro own before after
  have hzero : s.table.counters id = {} := by
    have hnone : s.table.find? id = none := Option.not_isSome_iff_eq_none.1 (by simpa [has] using hnew)
    rw [Table.counters, hnone]
    rfl
  have hbefore : before = own.foldl Recording.count {} := hzero ▸ h.counters id
  have hafter : after = (more.filter (·.workflowId == id)).foldl Recording.count before :=
    hmore.counters id
  refine ⟨⟨?_, ?_, ?_, ?_⟩, ⟨?_, ?_, ?_⟩, fun hnoted => ?_⟩
  · rw [hbefore, Recording.foldl_total, Nat.zero_add]
  · rw [hbefore, Recording.foldl_successful, Nat.zero_add]
  · rw [hbefore, Recording.foldl_failed, Nat.zero_add]
  · rw [hbefore, Recording.foldl_lastError, Option.or_none]
  · rw [hafter, Recording.foldl_total]
    exact Nat.le_add_right ..
  · rw [hafter, Recording.foldl_successful]
    exact Nat.le_add_right ..
  · rw [hafter, Recording.foldl_failed]
    exact Nat.le_add_right ..
  · have hnone : (more.filter (·.workflowId == id)).reverse.findSome? Recording.noted = none := by
      refine List.findSome?_eq_none_iff.2 fun r hr => ?_
      obtain ⟨hmem, hown⟩ := List.mem_filter.1 (List.mem_reverse.1 hr)
      exact hnoted r hmem (beq_iff_eq.1 hown)
    rw [hafter, Recording.foldl_lastError, hnone, Option.none_or]

/-- A copy that was read before two executions is written back after them, and
the workflow is deleted in the end. -/
theorem History.tally_stale :
    let error : LastError := ⟨"no answer", .ofInstant ⟨86400000000⟩, none⟩
    let failure : Recording := ⟨"w-1", false, some error, ⟨86400000000⟩⟩
    let success : Recording := ⟨"w-1", true, none, ⟨86460000000⟩⟩
    Table.has {} "w-1" = false
      ∧ ∃ s s', History ⟨{}, []⟩ [failure, success] s ∧ History s [] s'
        ∧ (∃ copy, s.copies = [copy] ∧ copy.stats.total = 0)
        ∧ (s.table.counters "w-1").total = 2 ∧ (s.table.counters "w-1").failed = 1
        ∧ (s.table.counters "w-1").lastError = some error.stored
        ∧ 2 ≤ (s'.table.counters "w-1").total
        ∧ (s'.table.counters "w-1").lastError = some error.stored := by
  intro error failure success
  let w : Workflow := { id := "w-1", storeId := "store", name := "Notify", trigger := ⟨.manual, [], none⟩ }
  let copy : Workflow := { w with isActive := false, createdAt := some (.ofInstant ⟨0⟩) }
  let row (active deleted : Bool) (c : Counters) : Row := ⟨"w-1", ⟨0⟩, ⟨"store", none, "Notify", none,
    [], 1, active, deleted, "manual", [], .null, none, .arr [], none⟩, c⟩
  let once : Counters := ⟨1, 0, 1, some ⟨86400000000⟩, some error.stored⟩
  let twice : Counters := ⟨2, 1, 1, some ⟨86460000000⟩, some error.stored⟩
  have hsave : Table.save {} .utc ⟨0⟩ w = .ok (_, ⟨[row true false {}]⟩) := rfl
  have hread : Table.undeleted ⟨[row true false {}]⟩ "w-1" = .ok { copy with isActive := true } := rfl
  have hfailure : Table.record ⟨[row true false {}]⟩ "w-1" false (some error) ⟨86400000000⟩
      = .ok ⟨[row true false once]⟩ := rfl
  have hsuccess : Table.record ⟨[row true false once]⟩ "w-1" true none ⟨86460000000⟩
      = .ok ⟨[row true false twice]⟩ := rfl
  have hwrite : Table.save ⟨[row true false twice]⟩ .utc ⟨86520000000⟩ copy
      = .ok (_, ⟨[row false false twice]⟩) := rfl
  have hdelete : Table.softDelete ⟨[row false false twice]⟩ "w-1" = .ok ⟨[row false true twice]⟩ := rfl
  have hbefore : History ⟨{}, []⟩ [failure, success] ⟨⟨[row true false twice]⟩, [copy]⟩ :=
    (((History.nil.step (.save hsave)).step (.read false hread)).step
      (.record failure hfailure)).step (.record success hsuccess)
  have hafter : History ⟨⟨[row true false twice]⟩, [copy]⟩ [] ⟨⟨[row false true twice]⟩, []⟩ :=
    (History.nil.step (@Transaction.writeBack _ [] [] _ _ _ _ _ rfl hwrite)).step (.softDelete hdelete)
  obtain ⟨⟨htotal, -, hfailed, hlast⟩, ⟨htotal', -, -⟩, hlast'⟩ := History.tally rfl hbefore hafter
  refine ⟨rfl, _, _, hbefore, hafter, ⟨copy, rfl, rfl⟩, htotal, hfailed, hlast, ?_, ?_⟩
  · exact htotal ▸ htotal'
  · exact (hlast' nofun).trans hlast

end Table

end Automation
