/-
# What was written is not due yet

To save a workflow, or to switch it on or off, decides its next run anew: one
that may run gets a next run after now, and one that may not is not looked for.
So no write makes a workflow due at the time of the write or before, whatever
was stored (`Table.Writes.waits`). A workflow that no schedule runs is never due
after it was written: no transaction but a save gives it another trigger, and a
copy that is written back has the trigger that it was read with
(`Table.Course.unscheduled`).

Key definitions: `Table.Due`, `Table.Writes`, `Table.Shared.Unscheduled`.
Key theorems: `Table.save_put`, `Table.Course.unscheduled`, `Table.Writes.waits`.
-/
import Automation.Proofs.Calendar.Ahead
import Automation.Proofs.Table.Deletion
import Automation.Proofs.Table.Saving

namespace Automation
namespace Table

open Engine

/-- Whether the query for what is due at an instant gives a workflow. -/
def Due (t : Table) (now : Instant) (id : String) : Prop :=
  ∃ ws, t.dueAt now = .ok ws ∧ id ∈ ws.map (·.id)

/-- A write that succeeds: a workflow is saved, or switched on or off. -/
def Writes (t : Table) (zone : Zone) (now : Instant) (saved : Workflow) (t' : Table) : Prop :=
  (∃ w, t.save zone now w = .ok (saved, t'))
    ∨ ∃ id active, t.setActive zone now id active = .ok (saved, t')

/-- No row of a workflow, and no copy of it that is in hand, has a schedule for a
trigger. -/
structure Shared.Unscheduled (s : Shared) (id : String) : Prop where
  rows : ∀ r ∈ s.table.rows, r.id = id → r.definition.triggerName ≠ TriggerKind.schedule.name
  copies : ∀ w ∈ s.copies, w.id = id → w.isScheduled = false

variable {t t' : Table} {zone : Zone} {now : Instant} {w saved : Workflow} {r old : Row} {id : String}
  {s s' : Shared} {deed : Deed} {deeds : List Deed}

/-! ### Rows -/

/-- What is due has a row that is. -/
theorem Due.exists_row (h : t.Due now id) : ∃ r ∈ t.rows, r.id = id ∧ isDue now r = true := by
  obtain ⟨ws, hws, hmem⟩ := h
  obtain ⟨w, hw, rfl⟩ := List.mem_map.1 hmem
  obtain ⟨r, hr, hdue, hread⟩ := (mem_query ((dueAt_eq t now).symm.trans hws)).1 hw
  exact ⟨r, hr, (Row.fields_of_workflow hread).1.symm, hdue⟩

/-- A row that is put takes the place of all with its id. -/
theorem mem_put (h : old ∈ (t.put r).rows) : old = r ∨ (old ∈ t.rows ∧ old.id ≠ r.id) := by
  cases hfind : t.find? r.id with
  | some before =>
    rw [put_of_find? hfind] at h
    obtain ⟨found, hfound, rfl⟩ := List.mem_map.1 h
    by_cases hid : found.id = r.id
    · exact .inl (if_pos (beq_iff_eq.2 hid))
    · rw [if_neg (by simpa using hid)]
      exact .inr ⟨hfound, hid⟩
  | none =>
    rw [put_of_new hfind] at h
    rcases List.mem_append.1 h with hmem | hmem
    · have hnew := List.find?_eq_none.1 hfind old hmem
      exact .inr ⟨hmem, by simpa using hnew⟩
    · exact .inl (List.mem_singleton.1 hmem)

/-- Of the kinds of triggers only one has the name of a schedule. -/
theorem isScheduled_eq_false_iff : w.isScheduled = false
    ↔ w.trigger.kind.name ≠ TriggerKind.schedule.name := by
  have hname : w.trigger.kind.name = TriggerKind.schedule.name ↔ w.trigger.kind = .schedule := by
    constructor
    · intro heq
      have hfound := TriggerKind.ofName?_name w.trigger.kind
      rw [heq, TriggerKind.ofName?_name] at hfound
      exact (Option.some.inj hfound).symm
    · intro heq
      rw [heq]
  rw [Ne, hname, Workflow.isScheduled, beq_eq_false_iff_ne]

/-! ### Writes -/

/-- A save puts a row with the trigger of the workflow that is not due at the
time of the save or before. -/
theorem save_put (h : t.save zone now w = .ok (saved, t')) : ∃ r, t' = t.put r ∧ r.id = w.id
    ∧ saved.id = w.id ∧ r.definition.triggerName = w.trigger.kind.name
    ∧ saved.trigger.kind.name = w.trigger.kind.name
    ∧ ∀ i, i.micros ≤ now.micros → isDue i r = false := by
  obtain ⟨nextRun, d, hnextRun, hd, hread, rfl⟩ := save_eq_put h
  obtain ⟨_, _, -, -, hfields⟩ := Definition.ofWorkflow_eq_ok hd
  have htrigger : d.triggerName = w.trigger.kind.name := by rw [hfields]
  have hnext : d.nextRun = nextRun := by rw [hfields]
  have hexecutable : d.isExecutable = w.isExecutable := by
    rw [hfields]
    rfl
  obtain ⟨hid, -, -, -, hkind, -⟩ := Row.fields_of_workflow hread
  refine ⟨_, rfl, rfl, hid, htrigger, hkind.trans htrigger, fun i hi => ?_⟩
  by_contra hdue
  obtain ⟨hruns, -, due, hstored, hcome⟩ := of_isDue (Bool.of_not_eq_false hdue)
  have hactive : w.isExecutable = true := hexecutable.symm.trans hruns
  have hahead := nextRunOf_gt hnextRun hactive due (hnext.symm.trans hstored)
  omega

/-- To switch a workflow is to save a copy of it. -/
theorem Writes.exists_save (h : t.Writes zone now saved t') :
    ∃ w, t.save zone now w = .ok (saved, t') := by
  rcases h with hsave | ⟨id, active, hswitch⟩
  · exact hsave
  · obtain ⟨w, -, hsave⟩ := Except.of_bind_eq_ok hswitch
    exact ⟨_, hsave⟩

/-! ### Workflows that no schedule runs -/

theorem Shared.Unscheduled.not_due (h : s.Unscheduled id) (i : Instant) : ¬ s.table.Due i id := by
  intro hdue
  obtain ⟨r, hr, hid, hcome⟩ := hdue.exists_row
  exact h.rows r hr hid (of_isDue hcome).2.1

/-- A row with another trigger may be put. -/
theorem Shared.Unscheduled.put {copies : List Workflow} (h : s.Unscheduled id)
    (hr : r.id = id → r.definition.triggerName ≠ TriggerKind.schedule.name)
    (hcopies : ∀ w ∈ copies, w ∈ s.copies) : Shared.Unscheduled ⟨s.table.put r, copies⟩ id where
  rows := by
    intro old hold hid
    rcases mem_put hold with rfl | ⟨hmem, -⟩
    · exact hr hid
    · exact h.rows old hmem hid
  copies := fun w hw => h.copies w (hcopies w hw)

/-- **No transaction but a save of another definition gives a workflow a schedule.** -/
theorem Does.unscheduled (h : Does s deed s') (hs : s.Unscheduled id) : s'.Unscheduled id := by
  cases h with
  | @read other w active hread =>
    refine ⟨hs.rows, fun copy hcopy hid => ?_⟩
    rcases List.mem_cons.1 hcopy with rfl | hcopy
    · -- the copy has the trigger of the row that it was read from
      obtain ⟨found, hget, hfound⟩ := Except.of_bind_eq_ok hread
      cases found with
      | none => cases hfound
      | some v =>
        obtain ⟨r, hr, hrow⟩ := get_eq_ok hget
        obtain ⟨hsame, -, -, -, hkind, -⟩ := Row.fields_of_workflow hrow
        simp only at hfound
        split at hfound
        · cases hfound
        · cases hfound
          have hother := hs.rows r (List.mem_of_find?_eq_some hr) (hsame.symm.trans hid)
          exact isScheduled_eq_false_iff.2 (hkind ▸ hother)
    · exact hs.copies copy hcopy hid
  | @writeBack before after zone now copy saved table hcopies hsave =>
    obtain ⟨r, rfl, hrow, -, htrigger, -⟩ := save_put hsave
    refine hs.put (fun hid => ?_) fun w hw => Shared.mem_of_rest hcopies hw
    have hcopy := hs.copies copy (by simp [hcopies]) (hrow.symm.trans hid)
    rw [htrigger]
    exact isScheduled_eq_false_iff.1 hcopy
  | drop hcopies => exact ⟨hs.rows, fun w hw => hs.copies w (Shared.mem_of_rest hcopies hw)⟩
  | setNextRun other nextRun =>
    refine ⟨fun r hr hid => ?_, hs.copies⟩
    obtain ⟨old, hold, rfl⟩ := List.mem_map.1 hr
    by_cases hother : old.id == other
    · rw [if_pos hother] at hid ⊢
      exact hs.rows old hold hid
    · rw [if_neg hother] at hid ⊢
      exact hs.rows old hold hid
  | softDelete hdelete =>
    obtain ⟨r, hr, rfl⟩ := modify_eq_ok (fun _ => by rfl) hdelete
    exact hs.put (fun hid => hs.rows r (List.mem_of_find?_eq_some hr) hid) fun _ hw => hw
  | record counted hrecord =>
    obtain ⟨r, hr, rfl⟩ := record_eq_put hrecord
    exact hs.put (fun hid => hs.rows r (List.mem_of_find?_eq_some hr) hid) fun _ hw => hw

theorem Course.unscheduled (h : Course s deeds s') (hs : s.Unscheduled id) : s'.Unscheduled id := by
  induction h with
  | nil => exact hs
  | step _ hdoes ih => exact hdoes.unscheduled ih

/-- **A write makes no workflow due.** At the time of the write and before, the
query for what is due does not give the workflow that was written. If no
schedule runs it, the query never gives it, at any time and after any
transactions but a save of another definition, unless a copy is written back
that was read before, when a schedule ran it. -/
theorem Writes.waits (h : t.Writes zone now saved t') :
    (∀ i, i.micros ≤ now.micros → ¬ t'.Due i saved.id)
      ∧ (saved.isScheduled = false → ∀ copies : List Workflow,
        (∀ w ∈ copies, w.id = saved.id → w.isScheduled = false) →
        ∀ deeds s, Course ⟨t', copies⟩ deeds s → ∀ i, ¬ s.table.Due i saved.id) := by
  obtain ⟨w, hsave⟩ := h.exists_save
  obtain ⟨r, rfl, hid, hsaved, htrigger, hkind, hidle⟩ := save_put hsave
  constructor
  · intro i hi hdue
    obtain ⟨old, hold, hsame, hcome⟩ := hdue.exists_row
    rcases mem_put hold with rfl | ⟨-, hother⟩
    · exact Bool.noConfusion ((hidle i hi).symm.trans hcome)
    · exact hother (hsame.trans (hsaved.trans hid.symm))
  · intro hscheduled copies hcopies deeds s hcourse i
    have hname := isScheduled_eq_false_iff.1 hscheduled
    have hstart : Shared.Unscheduled ⟨t.put r, copies⟩ saved.id := by
      refine ⟨fun old hold hsame => ?_, hcopies⟩
      rcases mem_put hold with rfl | ⟨-, hother⟩
      · rw [htrigger, ← hkind]
        exact hname
      · exact absurd (hsame.trans (hsaved.trans hid.symm)) hother
    exact (hcourse.unscheduled hstart).not_due i

/-- A workflow of every morning is switched on again when the next run that is
stored with it has passed. Later it is saved with another trigger, and a run that
was in progress sets a next run all the same. -/
theorem Writes.waits_reactivated :
    let day (n : Int) : Instant := ⟨63902856600000000 + n * microsPerDay⟩
    let row (active : Bool) (trigger : String) (schedule : Json) (nextRun : Option Instant) : Row :=
      ⟨"w-1", day 0, ⟨"store-1", none, "Restock", none, [], 1, active, false, trigger, [], schedule,
        nextRun, .arr [], none⟩, {}⟩
    let mornings : Json := .obj [("type", .str "daily"), ("time", .str "9:30"), ("dayOfWeek", .null),
      ("dayOfMonth", .null), ("cronExpression", .null)]
    isDue (day 5) (row true "schedule" mornings (some (day 1))) = true
      ∧ ∃ switched saved, Writes ⟨[row false "schedule" mornings (some (day 1))]⟩ .utc (day 5) switched
          ⟨[row true "schedule" mornings (some (day 6))]⟩
        ∧ ¬ Due ⟨[row true "schedule" mornings (some (day 6))]⟩ (day 5) switched.id
        ∧ Writes ⟨[row true "schedule" mornings (some (day 6))]⟩ .utc (day 5) saved
          ⟨[row true "manual" .null none]⟩
        ∧ Course ⟨⟨[row true "manual" .null none]⟩, []⟩ [.setNextRun "w-1" (some (day 6))]
          ⟨⟨[row true "manual" .null (some (day 6))]⟩, []⟩
        ∧ ¬ Due ⟨[row true "manual" .null (some (day 6))]⟩ (day 7) saved.id := by
  intro day row mornings
  let restock (active : Bool) (trigger : Trigger) : Workflow := {
    id := "w-1", storeId := "store-1", name := "Restock", isActive := active, trigger
    createdAt := some (.ofInstant (day 0)) }
  let daily (nextRun : Instant) : Trigger :=
    ⟨.schedule, [], some ⟨.daily, some "9:30", none, none, none, some (.ofInstant nextRun)⟩⟩
  let onDemand := restock true ⟨.manual, [], none⟩
  have hread : undeleted ⟨[row false "schedule" mornings (some (day 1))]⟩ "w-1"
      = .ok (restock false (daily (day 1))) := rfl
  have hnext : nextRunOf .utc (day 5) (restock true (daily (day 1))) = .ok (some (day 6)) := by
    unfold nextRunOf Schedule.nextAfter Schedule.nextClockRun
    rfl
  have hsaved : save ⟨[row false "schedule" mornings (some (day 1))]⟩ .utc (day 5) (restock true (daily (day 1)))
      = .ok (restock true (daily (day 6)), ⟨[row true "schedule" mornings (some (day 6))]⟩) := by
    rw [save, hnext]
    rfl
  have hswitch : setActive ⟨[row false "schedule" mornings (some (day 1))]⟩ .utc (day 5) "w-1" true
      = .ok (restock true (daily (day 6)), ⟨[row true "schedule" mornings (some (day 6))]⟩) := by
    simp only [setActive, hread, bind, Except.bind]
    exact hsaved
  have hsave : save ⟨[row true "schedule" mornings (some (day 6))]⟩ .utc (day 5) onDemand
      = .ok (onDemand, ⟨[row true "manual" .null none]⟩) := rfl
  have hcourse : Course ⟨⟨[row true "manual" .null none]⟩, []⟩ [.setNextRun "w-1" (some (day 6))]
      ⟨⟨[row true "manual" .null (some (day 6))]⟩, []⟩ := Course.nil.step (.setNextRun ..)
  obtain ⟨hidle, -⟩ := Writes.waits (.inr ⟨_, _, hswitch⟩)
  obtain ⟨-, hnever⟩ := Writes.waits (.inl ⟨_, hsave⟩)
  exact ⟨rfl, _, _, .inr ⟨_, _, hswitch⟩, hidle _ (Int.le_refl _), .inl ⟨_, hsave⟩, hcourse,
    hnever rfl [] (by simp) _ _ hcourse (day 7)⟩

end Table
end Automation
