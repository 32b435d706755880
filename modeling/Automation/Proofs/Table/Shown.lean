/-
# What callers are shown of the table

A caller names a store and perhaps an organization, and is shown the workflows
of that store and of that organization that are not deleted
(`Workflow.IsShownTo`); a workflow without an organization is shown to its own
store only, and so is every workflow to a caller who names none. To ask for a
workflow that is not shown finds nothing, and to ask for a row that is no
workflow fails (`Table.shown`).

To count an execution and to set a next run change the workflow that they are
about and show nothing that was not shown before
(`Table.shown_recorded`, `Table.shown_setNextRun`). So two tables that show a
caller the same (`Table.AgreeFor`) do so after either, whatever else they hold.
Transactions write workflows only, so in what they leave no row fails
(`Table.History.isReadable`), and such tables show a caller the same if they
show it the same workflows (`Table.IsReadable.agreeFor_iff`).

Key definitions: `Workflow.IsShownTo`, `Table.shown`, `Table.Shows`,
`Table.IsReadable`, `Table.AgreeFor`, `Stats.record`.
Key theorems: `Workflow.isVisibleTo_iff`, `Table.Changed.shown`,
`Table.shown_recorded`, `Table.shown_setNextRun`, `Table.agreeFor_without`,
`Table.History.isReadable`.
-/
import Automation.Proofs.Engine.Queries
import Automation.Proofs.Table.Transactions

namespace Automation

namespace Workflow

/-- The workflow is not deleted, and is of the store, or of the organization if
there is one. -/
def IsShownTo (w : Workflow) (storeId : String) (organizationId : Option String) : Prop :=
  w.isDeleted = false
    ∧ (w.storeId = storeId ∨ ∃ o, organizationId = some o ∧ w.organizationId = some o)

theorem isVisibleTo_iff {w : Workflow} {storeId : String} {organizationId : Option String} :
    w.isVisibleTo storeId organizationId = true ↔ w.IsShownTo storeId organizationId := by
  cases organizationId with
  | none => simp [isVisibleTo, IsShownTo]
  | some o => simp [isVisibleTo, IsShownTo]

instance (w : Workflow) (storeId : String) (organizationId : Option String) :
    Decidable (w.IsShownTo storeId organizationId) :=
  decidable_of_iff _ isVisibleTo_iff

/-- A change of one workflow, known by its id. -/
def changed (id : String) (g : Workflow → Workflow) (w : Workflow) : Workflow :=
  if w.id = id then g w else w

end Workflow

/-! ### Rows that change -/

/-- What a workflow shows of its executions after one more. -/
def Stats.record (s : Stats) (success : Bool) (error : Option StoredError) (endedAt : Instant) :
    Stats where
  total := s.total + 1
  successful := if success then s.successful + 1 else s.successful
  failed := if success then s.failed else s.failed + 1
  lastExecutedAt := some (.ofInstant endedAt)
  lastError := if success then s.lastError
    else (error.map fun e => ⟨e.message, .ofInstant e.timestamp, e.details⟩).or s.lastError

theorem Counters.stats_record (c : Counters) (success : Bool) (error : Option StoredError)
    (endedAt : Instant) :
    (c.record success error endedAt).stats = c.stats.record success error endedAt := by
  cases success with
  | true => simp [record, stats, Stats.record]
  | false => cases error <;> simp [record, stats, Stats.record]

namespace Row

variable {r r' : Row}

/-- The workflow of a row once its documents have been read. -/
def built (r : Row) (kind : TriggerKind) (conditions : List Condition) (schedule : Option Schedule)
    (actions : List Action) : Workflow where
  id := r.id
  storeId := r.definition.storeId
  organizationId := r.definition.organizationId
  name := r.definition.name
  description := r.definition.description
  tags := r.definition.tags
  version := r.definition.version
  trigger := ⟨kind, conditions, schedule⟩
  actions
  isActive := r.definition.isActive
  isDeleted := r.definition.isDeleted
  stats := r.counters.stats
  createdBy := r.definition.createdBy
  createdAt := some (.ofInstant r.createdAt)

/-- A row with the documents of another is read as that one is. -/
theorem workflow_of_documents {f : Option Schedule → Option Schedule} {g : Workflow → Workflow}
    (htrigger : r'.definition.trigger = r.definition.trigger)
    (hconditions : r'.definition.conditions = r.definition.conditions)
    (hschedule : r'.definition.readSchedule = r.definition.readSchedule.map f)
    (hactions : r'.definition.actions = r.definition.actions)
    (hg : ∀ kind conditions schedule actions, r'.built kind conditions (f schedule) actions
      = g (r.built kind conditions schedule actions)) : r'.workflow = r.workflow.map g := by
  simp only [workflow, htrigger, hconditions, hschedule, hactions]
  cases r.definition.trigger with
  | error failure => rfl
  | ok kind =>
    cases r.definition.conditions.mapM fun c => Document.accept (Document.readCondition c) with
    | error failure => rfl
    | ok conditions =>
      cases r.definition.readSchedule with
      | error failure => rfl
      | ok schedule =>
        cases Document.accept (Document.readProgram r.definition.actions) with
        | error failure => rfl
        | ok actions => exact congrArg Except.ok (hg kind conditions schedule actions)

/-- A schedule that stays as it is. -/
theorem readSchedule_same (d : Definition) : d.readSchedule = d.readSchedule.map fun s => s := by
  cases d.readSchedule <;> rfl

/-- The counts of a row stand apart from its documents. -/
theorem workflow_counters (r : Row) (counters : Counters) :
    Row.workflow { r with counters }
      = r.workflow.map fun w => { w with stats := counters.stats } :=
  workflow_of_documents rfl rfl (readSchedule_same r.definition) rfl fun _ _ _ _ => rfl

/-- A row once its workflow is deleted. -/
def deleted (r : Row) : Row :=
  { r with definition := { r.definition with isDeleted := true, isActive := false } }

/-- So do its marks. -/
theorem workflow_deleted (r : Row) :
    r.deleted.workflow = r.workflow.map fun w => { w with isDeleted := true, isActive := false } :=
  workflow_of_documents rfl rfl (readSchedule_same r.definition) rfl fun _ _ _ _ => rfl

/-- The next run of a row is that of its schedule, if it has one. -/
theorem workflow_nextRun (r : Row) (nextRun : Option Instant) :
    Row.workflow { r with definition := { r.definition with nextRun } }
      = r.workflow.map fun w => { w with trigger := { w.trigger with
          schedule := w.trigger.schedule.map ({ · with nextRun := nextRun.map .ofInstant }) } } := by
  refine workflow_of_documents rfl rfl ?_ rfl fun _ _ _ _ => rfl
  simp only [Definition.readSchedule]
  split
  · rfl
  · split
    · rfl
    · split <;> rfl

theorem stats_of_workflow {w : Workflow} (h : r.workflow = .ok w) : w.stats = r.counters.stats := by
  obtain ⟨kind, -, h⟩ := Except.of_bind_eq_ok h
  obtain ⟨conditions, -, h⟩ := Except.of_bind_eq_ok h
  obtain ⟨schedule, -, h⟩ := Except.of_bind_eq_ok h
  obtain ⟨actions, -, h⟩ := Except.of_bind_eq_ok h
  cases h
  rfl

/-- A row once one more execution is counted. -/
def counted (success : Bool) (stored : Option StoredError) (endedAt : Instant) (r : Row) : Row :=
  { r with counters := r.counters.record success stored endedAt }

theorem workflow_counted (success : Bool) (stored : Option StoredError) (endedAt : Instant) (r : Row) :
    (r.counted success stored endedAt).workflow
      = r.workflow.map fun w => { w with stats := w.stats.record success stored endedAt } := by
  rw [counted, workflow_counters]
  cases hread : r.workflow with
  | error failure => rfl
  | ok w => simp only [Except.map, stats_of_workflow hread, Counters.stats_record]

end Row

namespace Table

variable {t t' : Table} {id other : String} {storeId : String} {organizationId : Option String}

/-! ### What is shown -/

/-- What a caller finds who asks for the workflow with an id. -/
def shown (t : Table) (storeId : String) (organizationId : Option String) (id : String) :
    Except Failure (Option Workflow) :=
  (t.get id).map (Option.filter fun w => w.IsShownTo storeId organizationId)

theorem shown_eq_some {w : Workflow} : t.shown storeId organizationId id = .ok (some w)
    ↔ t.get id = .ok (some w) ∧ w.IsShownTo storeId organizationId := by
  rw [shown]
  cases t.get id with
  | error failure =>
    constructor
    · intro h
      cases h
    · rintro ⟨h, -⟩
      cases h
  | ok found =>
    rw [Except.map, Except.ok.injEq, Except.ok.injEq, Option.filter_eq_some_iff, decide_eq_true_eq]

theorem id_of_shown {w : Workflow} (h : t.shown storeId organizationId id = .ok (some w)) :
    w.id = id := by
  obtain ⟨r, hr, hread⟩ := get_eq_ok (shown_eq_some.1 h).1
  exact (Row.id_of_workflow hread).trans (id_of_find? hr)

/-- A caller is shown a workflow with an id. -/
def Shows (t : Table) (storeId : String) (organizationId : Option String) (id : String) : Prop :=
  ∃ w, t.shown storeId organizationId id = .ok (some w)

/-- What is shown stays so when it changes. -/
theorem Shows.of_map {g : Workflow → Workflow} (h : t.Shows storeId organizationId id)
    (hg : t'.shown storeId organizationId id
      = (t.shown storeId organizationId id).map (Option.map g)) :
    t'.Shows storeId organizationId id := by
  obtain ⟨w, hw⟩ := h
  exact ⟨g w, by rw [hg, hw]; rfl⟩

/-! ### Changes -/

/-- The rows of a table after a change of one of them, if it is there. -/
def Changed (id : String) (f : Row → Row) (t t' : Table) : Prop :=
  ∀ other, t'.find? other = (t.find? other).map fun r => if r.id == id then f r else r

theorem changed_setNextRun (t : Table) (id : String) (nextRun : Option Instant) :
    Changed id (fun r => { r with definition := { r.definition with nextRun } }) t
      (t.setNextRun id nextRun) :=
  find?_setNextRun t id nextRun

theorem changed_modify {f : Row → Row} (hf : ∀ r, (f r).id = r.id) (t : Table) (id : String) :
    Changed id f t ((t.modify id f).toOption.getD t) := by
  intro other
  cases hmodify : t.modify id f with
  | ok t' =>
    obtain ⟨r, hr, hwrote⟩ := wrote_modify hf hmodify
    obtain rfl := id_of_find? hr
    show t'.find? other = _
    rw [hwrote.find?_eq, hf]
    split
    · rename_i hother
      rw [hother, hr, Option.map_some, beq_self_eq_true, if_pos rfl]
    · rename_i hother
      cases hold : t.find? other with
      | none => rfl
      | some old =>
        have hne : (old.id == r.id) = false := beq_false_of_ne (id_of_find? hold ▸ hother)
        rw [Option.map_some, hne, if_neg Bool.false_ne_true]
  | error failure =>
    have hnone : t.find? id = none := by
      unfold modify at hmodify
      split at hmodify
      · cases hmodify
      · assumption
    show t.find? other = _
    cases hold : t.find? other with
    | none => rfl
    | some old =>
      have hne : (old.id == id) = false := beq_false_of_ne fun heq => by
        rw [← heq, find?_self hold] at hnone
        cases hnone
      rw [Option.map_some, hne, if_neg Bool.false_ne_true]

variable {f : Row → Row} {g : Workflow → Workflow}

/-- A row that may change is read as a workflow that may. -/
theorem workflow_of_changed (hf : ∀ r, (f r).workflow = r.workflow.map g) (id : String) (r : Row) :
    (if r.id == id then f r else r).workflow = r.workflow.map (Workflow.changed id g) := by
  by_cases hid : r.id = id
  · rw [if_pos (beq_iff_eq.2 hid), hf]
    cases hread : r.workflow with
    | error failure => rfl
    | ok w =>
      have hw : w.id = id := (Row.id_of_workflow hread).trans hid
      simp only [Except.map, Workflow.changed, if_pos hw]
  · rw [if_neg (by simpa using hid)]
    cases hread : r.workflow with
    | error failure => rfl
    | ok w =>
      have hw : w.id ≠ id := fun heq => hid ((Row.id_of_workflow hread).symm.trans heq)
      simp only [Except.map, Workflow.changed, if_neg hw]

theorem Changed.get (h : Changed id f t t') (hf : ∀ r, (f r).workflow = r.workflow.map g)
    (other : String) : t'.get other = (t.get other).map (Option.map (Workflow.changed id g)) := by
  rw [Table.get, Table.get, h other]
  cases t.find? other with
  | none => rfl
  | some r =>
    simp only [Option.map_some, workflow_of_changed hf id r]
    cases r.workflow <;> rfl

/-- **What a change of one row does to what is shown**, if it neither hides nor
shows its workflow. -/
theorem Changed.shown (h : Changed id f t t') (hf : ∀ r, (f r).workflow = r.workflow.map g)
    (hg : ∀ w, (g w).IsShownTo storeId organizationId ↔ w.IsShownTo storeId organizationId)
    (other : String) : t'.shown storeId organizationId other
      = (t.shown storeId organizationId other).map (Option.map (Workflow.changed id g)) := by
  have hchanged : ∀ w, (Workflow.changed id g w).IsShownTo storeId organizationId
      ↔ w.IsShownTo storeId organizationId := fun w => by
    rw [Workflow.changed]
    split
    · exact hg w
    · exact Iff.rfl
  rw [Table.shown, Table.shown, h.get hf]
  cases t.get other with
  | error failure => rfl
  | ok found =>
    cases found with
    | none => rfl
    | some w =>
      by_cases hw : w.IsShownTo storeId organizationId
      · simp [Except.map, Option.filter_some, hchanged, hw]
      · simp [Except.map, Option.filter_some, hchanged, hw]

/-! ### The writes of executions -/

/-- To set a next run is such a change. -/
theorem shown_setNextRun (t : Table) (id : String) (nextRun : Option Instant) (other : String) :
    (t.setNextRun id nextRun).shown storeId organizationId other
      = (t.shown storeId organizationId other).map (Option.map (Workflow.changed id fun w =>
        { w with trigger := { w.trigger with
          schedule := w.trigger.schedule.map ({ · with nextRun := nextRun.map .ofInstant }) } })) :=
  (changed_setNextRun t id nextRun).shown (fun r => r.workflow_nextRun nextRun) (fun _ => Iff.rfl) other

/-- The table after an execution is recorded, or cannot be. -/
def recorded (t : Table) (id : String) (success : Bool) (error : Option LastError)
    (endedAt : Instant) : Table :=
  (t.record id success error endedAt).toOption.getD t

/-- Whether an execution can be recorded at all depends on no table; if so it is
counted in the row of its workflow. -/
theorem recorded_cases (id : String) (success : Bool) (error : Option LastError) (endedAt : Instant) :
    (∀ t : Table, t.recorded id success error endedAt = t)
      ∨ ∃ stored, ∀ t : Table,
        Changed id (Row.counted success stored endedAt) t (t.recorded id success error endedAt) := by
  have hcounts : ∀ stored, (∀ t : Table, t.record id success error endedAt
      = t.modify id (Row.counted success stored endedAt)) → ∀ t : Table,
        Changed id (Row.counted success stored endedAt) t (t.recorded id success error endedAt) := by
    intro stored hmodifies t
    rw [recorded, hmodifies t]
    exact changed_modify (f := Row.counted success stored endedAt) (fun _ => rfl) t id
  cases success with
  | true => exact .inr ⟨none, hcounts none fun _ => rfl⟩
  | false =>
    cases error with
    | none => exact .inr ⟨none, hcounts none fun _ => rfl⟩
    | some e =>
      cases hutc : e.timestamp.utc with
      | error failure =>
        refine .inl fun t => ?_
        rw [recorded, record]
        simp only [Option.mapM_some, hutc]
        rfl
      | ok now =>
        refine .inr ⟨some ⟨e.message, now, e.details⟩, hcounts _ fun t => ?_⟩
        rw [record]
        simp only [Option.mapM_some, hutc]
        rfl

/-- **To record an execution** changes a workflow that is shown in one way, the
same for all tables. -/
theorem shown_recorded (id : String) (success : Bool) (error : Option LastError) (endedAt : Instant) :
    ∃ g : Workflow → Workflow, ∀ (t : Table) storeId organizationId other,
      (t.recorded id success error endedAt).shown storeId organizationId other
        = (t.shown storeId organizationId other).map (Option.map g) := by
  rcases recorded_cases id success error endedAt with hfails | ⟨stored, hcounts⟩
  · refine ⟨fun w => w, fun t storeId organizationId other => ?_⟩
    rw [hfails t]
    cases t.shown storeId organizationId other with
    | error failure => rfl
    | ok found => rw [Except.map, Option.map_id']
  · exact ⟨_, fun t _ _ => (hcounts t).shown (Row.workflow_counted success stored endedAt)
      fun _ => Iff.rfl⟩

/-! ### Tables that show the same -/

/-- Two tables that show a caller the same. -/
def AgreeFor (storeId : String) (organizationId : Option String) (t t' : Table) : Prop :=
  ∀ id, t'.shown storeId organizationId id = t.shown storeId organizationId id

theorem AgreeFor.recorded (h : t.AgreeFor storeId organizationId t') (id : String) (success : Bool)
    (error : Option LastError) (endedAt : Instant) :
    (t.recorded id success error endedAt).AgreeFor storeId organizationId
      (t'.recorded id success error endedAt) := by
  obtain ⟨g, hg⟩ := shown_recorded id success error endedAt
  intro other
  rw [hg, hg, h other]

theorem AgreeFor.setNextRun (h : t.AgreeFor storeId organizationId t') (id : String)
    (nextRun : Option Instant) :
    (t.setNextRun id nextRun).AgreeFor storeId organizationId (t'.setNextRun id nextRun) := by
  intro other
  rw [shown_setNextRun, shown_setNextRun, h other]

/-- The table without the rows with an id. -/
def without (t : Table) (id : String) : Table := ⟨t.rows.filter (·.id != id)⟩

theorem find?_without (t : Table) (id other : String) :
    (t.without id).find? other = if other = id then none else t.find? other := by
  rw [find?, without, List.find?_filter]
  split
  · rename_i hother
    simp [hother]
  · rename_i hother
    rw [find?]
    congr 1
    funext r
    by_cases hr : r.id = other
    · simp [hr, hother]
    · simp [hr]

/-- A workflow that is not shown might as well not be there. -/
theorem agreeFor_without (hid : t.shown storeId organizationId id = .ok none) :
    t.AgreeFor storeId organizationId (t.without id) := by
  intro other
  by_cases hother : other = id
  · rw [hother, hid, Table.shown, get, find?_without, if_pos rfl]
    rfl
  · rw [Table.shown, Table.shown, get, get, find?_without, if_neg hother]

/-! ### Tables of workflows -/

/-- A table whose rows are workflows. -/
def IsReadable (t : Table) : Prop := ∀ id, ∃ found, t.get id = .ok found

/-- **Tables of workflows** show a caller the same if they show it the same
workflows. -/
theorem IsReadable.agreeFor_iff (h : t.IsReadable) (h' : t'.IsReadable) :
    t.AgreeFor storeId organizationId t' ↔ ∀ id w, w.IsShownTo storeId organizationId →
      (t'.get id = .ok (some w) ↔ t.get id = .ok (some w)) := by
  constructor
  · intro hagree id w hw
    have hsame := congrArg (· = .ok (some w)) (hagree id)
    simpa only [shown_eq_some, hw, and_true, eq_iff_iff] using hsame
  · intro hsame id
    obtain ⟨found, hfound⟩ := h id
    obtain ⟨found', hfound'⟩ := h' id
    rw [shown, shown, hfound, hfound', Except.map, Except.map]
    refine congrArg Except.ok (Option.ext fun w => ?_)
    rw [Option.filter_eq_some_iff, Option.filter_eq_some_iff, decide_eq_true_eq]
    refine and_congr_left fun hw => ?_
    simpa only [hfound, hfound', Except.ok.injEq] using hsame id w hw

theorem Changed.isReadable (h : Changed id f t t') (hf : ∀ r, (f r).workflow = r.workflow.map g)
    (ht : t.IsReadable) : t'.IsReadable := by
  intro other
  obtain ⟨found, hfound⟩ := ht other
  exact ⟨_, by rw [h.get hf, hfound]; rfl⟩

theorem IsReadable.recorded (h : t.IsReadable) (id : String) (success : Bool)
    (error : Option LastError) (endedAt : Instant) :
    (t.recorded id success error endedAt).IsReadable := by
  rcases recorded_cases id success error endedAt with hfails | ⟨stored, hcounts⟩
  · exact (hfails t).symm ▸ h
  · exact (hcounts t).isReadable (Row.workflow_counted success stored endedAt) h

theorem IsReadable.setNextRun (h : t.IsReadable) (id : String) (nextRun : Option Instant) :
    (t.setNextRun id nextRun).IsReadable :=
  (changed_setNextRun t id nextRun).isReadable (fun r => r.workflow_nextRun nextRun) h

theorem IsReadable.save {zone : Zone} {now : Instant} {w saved : Workflow} (h : t.IsReadable)
    (hsave : t.save zone now w = .ok (saved, t')) : t'.IsReadable := by
  obtain ⟨nextRun, d, -, -, hread, hwrote⟩ := save_eq_ok hsave
  intro other
  rw [get, hwrote.find?_eq]
  split
  · rename_i r hr
    split at hr
    · cases hr
      exact ⟨some saved, by rw [hread]; rfl⟩
    · have hold := h other
      rw [get, hr] at hold
      exact hold
  · exact ⟨none, rfl⟩

/-- Every transaction leaves a table of workflows one. -/
theorem Transaction.isReadable {s s' : Shared} {counted : List Recording}
    (h : Transaction s counted s') (hs : s.table.IsReadable) : s'.table.IsReadable := by
  cases h with
  | save hsave | writeBack _ hsave => exact hs.save hsave
  | read | drop => exact hs
  | setNextRun id nextRun => exact hs.setNextRun id nextRun
  | @softDelete id table hdelete =>
    have hdeleted : Changed id Row.deleted s.table ((s.table.softDelete id).toOption.getD s.table) :=
      changed_modify (f := Row.deleted) (fun _ => rfl) s.table id
    rw [hdelete] at hdeleted
    exact hdeleted.isReadable Row.workflow_deleted hs
  | record r hrecord =>
    have hrecorded := hs.recorded r.workflowId r.success r.error r.endedAt
    rw [recorded, hrecord] at hrecorded
    exact hrecorded

/-- **So do any number of transactions**, in any order. -/
theorem History.isReadable {s s' : Shared} {counted : List Recording} (h : History s counted s')
    (hs : s.table.IsReadable) : s'.table.IsReadable := by
  induction h with
  | nil => exact hs
  | step _ hstep ih => exact hstep.isReadable ih

end Table

end Automation
