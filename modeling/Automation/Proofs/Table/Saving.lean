/-
# What is saved is found again

A row holds a workflow in its own form: documents for conditions, schedule and
actions, the next run in a place of its own, counts and the time of adding
beside them. What is read of a row that was written is the workflow in stored
form (`Row.eq_of_workflow`), and to write that once more leaves the documents
as they are (`Row.ofWorkflow_workflow`). So a workflow with finite values is
found as it was saved, and writing back what was found changes nothing of the
definition but what was to be changed (`Table.save_faithful`).

Key definitions: `Workflow.stored`, `Definition.IsWritten`, `Table.IsWritten`.
Key theorems: `Row.eq_of_workflow`, `Row.ofWorkflow_workflow`,
`Table.History.isWritten`, `Table.save_faithful`.
-/
import Automation.Proofs.Document.Workflow
import Automation.Proofs.Document.Written
import Automation.Proofs.Table.Transactions

namespace Automation

/-! ### Workflows in stored form -/

namespace ScheduleKind

/-- The kind that the name of a kind stands for. -/
def named (kind : ScheduleKind) : ScheduleKind := (ofName? kind.name).getD kind

theorem ofName?_name {s : String} {kind : ScheduleKind} (h : ofName? s = some kind) : kind.name = s := by
  have hname := List.find?_some h
  exact beq_iff_eq.1 hname

theorem named_name (kind : ScheduleKind) : kind.named.name = kind.name := by
  unfold named
  cases h : ofName? kind.name with
  | none => rfl
  | some other => exact ofName?_name h

theorem named_eq {kind : ScheduleKind} (h : kind ∈ all) : kind.named = kind := by
  rcases List.mem_cons.1 h with rfl | h
  · rfl
  · rcases List.mem_cons.1 h with rfl | h
    · rfl
    · rcases List.mem_cons.1 h with rfl | h
      · rfl
      · rw [List.mem_singleton.1 h]
        rfl

end ScheduleKind

/-- A kind of trigger is known by its name. -/
theorem TriggerKind.ofName?_name (kind : TriggerKind) : ofName? kind.name = some kind := by
  cases kind <;> rfl

namespace Workflow

/-- The workflow with another next run. -/
def withNextRun (w : Workflow) (nextRun : Option Instant) : Workflow :=
  { w with trigger := { w.trigger with
    schedule := w.trigger.schedule.map fun s => { s with nextRun := nextRun.map .ofInstant } } }

/-- What a row makes of a workflow: free values are finite, the kind of the
schedule is that of its name, and the next run is the one stored. -/
def stored (w : Workflow) (nextRun : Option Instant) : Workflow :=
  { w with
    trigger := ⟨w.trigger.kind, w.trigger.conditions.map Condition.finite,
      w.trigger.schedule.map fun s => { s with kind := s.kind.named, nextRun := nextRun.map .ofInstant }⟩
    actions := Action.finiteAll w.actions }

theorem stored_eq {w : Workflow} (hfinite : w.isFinite = true)
    (hkind : ∀ s ∈ w.trigger.schedule, s.kind ∈ ScheduleKind.all) (nextRun : Option Instant) :
    w.stored nextRun = w.withNextRun nextRun := by
  rw [isFinite, Bool.and_eq_true, List.all_eq_true] at hfinite
  have hconditions : w.trigger.conditions.map Condition.finite = w.trigger.conditions := by
    rw [List.map_congr_left fun c hc => Condition.finite_eq (hfinite.1 c hc), List.map_id']
  have hschedule : (w.trigger.schedule.map fun s =>
        { s with kind := s.kind.named, nextRun := nextRun.map .ofInstant : Schedule })
      = w.trigger.schedule.map fun s => { s with nextRun := nextRun.map .ofInstant } := by
    cases hs : w.trigger.schedule with
    | none => rfl
    | some s => simp only [Option.map_some, ScheduleKind.named_eq (hkind s hs)]
  rw [stored, hconditions, hschedule, Action.finiteAll_eq w.actions hfinite.2]
  rfl

end Workflow

/-! ### Definitions -/

namespace Definition

theorem ofWorkflow_eq_ok {w : Workflow} {nextRun : Option Instant} {d : Definition}
    (h : ofWorkflow w nextRun = .ok d) : ∃ conditions actions,
      w.trigger.conditions.mapM Document.writeCondition = .ok conditions
      ∧ Document.writeActions w.actions = .ok actions
      ∧ d = ⟨w.storeId, w.organizationId, w.name, w.description, w.tags, w.version, w.isActive,
        w.isDeleted, w.trigger.kind.name, conditions,
        (w.trigger.schedule.map fun s => Json.obj (Document.scheduleFields s)).getD .null, nextRun,
        .arr actions, w.createdBy⟩ := by
  obtain ⟨conditions, hconditions, h⟩ := Except.of_bind_eq_ok h
  obtain ⟨actions, hactions, h⟩ := Except.of_bind_eq_ok h
  exact ⟨conditions, actions, hconditions, hactions, (Except.ok.inj h).symm⟩

/-- The next run is none of the documents. -/
theorem ofWorkflow_withNextRun {w : Workflow} {old : Option Instant} {d : Definition}
    (h : ofWorkflow w old = .ok d) (nextRun : Option Instant) :
    ofWorkflow w nextRun = .ok { d with nextRun } := by
  obtain ⟨conditions, actions, hconditions, hactions, rfl⟩ := ofWorkflow_eq_ok h
  rw [ofWorkflow, hconditions, hactions]
  rfl

theorem ofWorkflow_deleted {w : Workflow} {nextRun : Option Instant} {d : Definition}
    (h : ofWorkflow w nextRun = .ok d) :
    ofWorkflow { w with isDeleted := true, isActive := false } nextRun
      = .ok { d with isDeleted := true, isActive := false } := by
  obtain ⟨conditions, actions, hconditions, hactions, rfl⟩ := ofWorkflow_eq_ok h
  rw [ofWorkflow]
  simp only [hconditions, hactions]
  rfl

theorem text?_ofText? (s : Option String) : (Json.ofText? s).text? = s := by
  cases s <;> rfl

theorem int?_ofInt? (n : Option Int) : (Json.ofInt? n).int? = n := by
  cases n <;> rfl

/-- The schedule that is read from the document of one. -/
theorem readSchedule_written {d : Definition} {schedule found : Option Schedule}
    (hd : d.schedule = (schedule.map fun s => Json.obj (Document.scheduleFields s)).getD .null)
    (h : d.readSchedule = .ok found) : found = schedule.map fun s =>
      { s with kind := s.kind.named, nextRun := d.nextRun.map .ofInstant } := by
  cases schedule with
  | none =>
    rw [readSchedule, hd] at h
    exact (Except.ok.inj h).symm
  | some s =>
    have htype : (Json.obj (Document.scheduleFields s)).member? "type" = some (.str s.kind.name) := rfl
    have hgiven : (Json.obj (Document.scheduleFields s)).isGiven = true := rfl
    have hd : d.schedule = .obj (Document.scheduleFields s) := hd
    rw [readSchedule, hd, hgiven, htype] at h
    simp only [Bool.not_true, Bool.false_eq_true, if_false] at h
    split at h
    · cases h
    · rename_i kind hkind
      have hname : s.kind.named = kind := by
        have hkind : ScheduleKind.ofName? s.kind.name = some kind := hkind
        rw [ScheduleKind.named, hkind]
        rfl
      rw [← Except.ok.inj h, Option.map_some, hname, ← text?_ofText? s.time,
        ← text?_ofText? s.cronExpression, ← int?_ofInt? s.dayOfWeek, ← int?_ofInt? s.dayOfMonth]
      rfl

/-- A schedule in stored form has the same document. -/
theorem scheduleFields_stored (s : Schedule) (nextRun : Option Timestamp) :
    Document.scheduleFields { s with kind := s.kind.named, nextRun } = Document.scheduleFields s := by
  rw [Document.scheduleFields, ScheduleKind.named_name]
  rfl

theorem trigger_eq_ok {d : Definition} {kind found : TriggerKind} (hd : d.triggerName = kind.name)
    (h : d.trigger = .ok found) : found = kind := by
  rw [trigger, hd, TriggerKind.ofName?_name] at h
  exact (Except.ok.inj h).symm

end Definition

/-! ### Rows -/

namespace Row

variable {w v : Workflow} {nextRun : Option Instant} {r : Row}

/-- **What is read of a row that was written** is the workflow in stored form,
with the counts and the time of adding that the row has. -/
theorem eq_of_workflow (hd : Definition.ofWorkflow w nextRun = .ok r.definition)
    (h : r.workflow = .ok v) : v = { w.stored nextRun with
      id := r.id, stats := r.counters.stats, createdAt := some (.ofInstant r.createdAt) } := by
  obtain ⟨conditions, actions, hconditions, hactions, hd⟩ := Definition.ofWorkflow_eq_ok hd
  obtain ⟨kind, hkind, h⟩ := Except.of_bind_eq_ok h
  obtain ⟨readConditions, hreadConditions, h⟩ := Except.of_bind_eq_ok h
  obtain ⟨schedule, hschedule, h⟩ := Except.of_bind_eq_ok h
  obtain ⟨readActions, hreadActions, h⟩ := Except.of_bind_eq_ok h
  have hkind : kind = w.trigger.kind := by
    refine Definition.trigger_eq_ok ?_ hkind
    rw [hd]
  have hconditions : readConditions = w.trigger.conditions.map Condition.finite := by
    have hread := (Document.writeCondition_normalizes.mapM hconditions).1
    rw [hd, hread] at hreadConditions
    exact (Except.ok.inj hreadConditions).symm
  have hschedule : schedule = w.trigger.schedule.map fun s =>
      { s with kind := s.kind.named, nextRun := r.definition.nextRun.map .ofInstant } := by
    refine Definition.readSchedule_written ?_ hschedule
    rw [hd]
  have hactions : readActions = Action.finiteAll w.actions := by
    have hread := (Document.writeActions_normalizes w.actions hactions).1 0
    have hprogram : Document.readProgram r.definition.actions = .valid (Action.finiteAll w.actions) := by
      rw [hd]
      refine Checked.within_eq_valid.2 ?_
      cases actions with
      | nil => exact hread
      | cons first others => exact hread
    rw [hprogram] at hreadActions
    exact (Except.ok.inj hreadActions).symm
  rw [← Except.ok.inj h, hkind, hconditions, hschedule, hactions, hd]
  rfl

/-- **To write what was read of a row once more** changes nothing of its
definition but what is to be changed. -/
theorem ofWorkflow_workflow (hd : Definition.ofWorkflow w nextRun = .ok r.definition)
    (h : r.workflow = .ok v) (active : Bool) (later : Option Instant) :
    Definition.ofWorkflow { v with isActive := active } later
      = .ok { r.definition with isActive := active, nextRun := later } := by
  have hv := eq_of_workflow hd h
  obtain ⟨conditions, actions, hconditions, hactions, hd⟩ := Definition.ofWorkflow_eq_ok hd
  have hconditions := (Document.writeCondition_normalizes.mapM hconditions).2
  have hactions := (Document.writeActions_normalizes w.actions hactions).2
  have hschedule : ((w.stored nextRun).trigger.schedule.map fun s =>
      Json.obj (Document.scheduleFields s))
      = w.trigger.schedule.map fun s => Json.obj (Document.scheduleFields s) := by
    rw [Workflow.stored, Option.map_map]
    congr 1
    funext s
    exact congrArg Json.obj (Definition.scheduleFields_stored s _)
  rw [hv, hd, Definition.ofWorkflow]
  simp only [hschedule]
  simp only [Workflow.stored, hconditions, hactions]
  rfl

end Row

/-! ### Tables that were written -/

namespace Definition

/-- A definition that was written for some workflow. -/
def IsWritten (d : Definition) : Prop := ∃ w nextRun, ofWorkflow w nextRun = .ok d

variable {d : Definition}

theorem IsWritten.withNextRun (h : d.IsWritten) (nextRun : Option Instant) :
    IsWritten { d with nextRun } := by
  obtain ⟨w, old, hd⟩ := h
  exact ⟨w, nextRun, ofWorkflow_withNextRun hd nextRun⟩

theorem IsWritten.deleted (h : d.IsWritten) :
    IsWritten { d with isDeleted := true, isActive := false } := by
  obtain ⟨w, nextRun, hd⟩ := h
  exact ⟨{ w with isDeleted := true, isActive := false }, nextRun, ofWorkflow_deleted hd⟩

end Definition

namespace Table

/-- A table whose rows were written for workflows. -/
def IsWritten (t : Table) : Prop := ∀ id r, t.find? id = some r → r.definition.IsWritten

/-- A row that was written for a workflow may join the others. -/
theorem IsWritten.wrote {t t' : Table} {r : Row} (h : t.IsWritten) (hwrote : Wrote t t' r)
    (hr : r.definition.IsWritten) : t'.IsWritten := by
  intro id found hfound
  rw [hwrote.find?_eq] at hfound
  split at hfound
  · cases hfound
    exact hr
  · exact h id found hfound

theorem IsWritten.save {t t' : Table} {zone : Zone} {now : Instant} {w saved : Workflow}
    (h : t.IsWritten) (hsave : t.save zone now w = .ok (saved, t')) : t'.IsWritten := by
  obtain ⟨nextRun, d, -, hd, -, hwrote⟩ := save_eq_ok hsave
  exact h.wrote hwrote ⟨w, nextRun, hd⟩

/-- No transaction writes a definition that belongs to no workflow. -/
theorem Transaction.isWritten {s s' : Shared} {recorded : List Recording}
    (h : Transaction s recorded s') (hs : s.table.IsWritten) : s'.table.IsWritten := by
  cases h with
  | save hsave => exact hs.save hsave
  | read => exact hs
  | writeBack _ hsave => exact hs.save hsave
  | drop => exact hs
  | setNextRun id nextRun =>
    intro other found hfound
    rw [find?_setNextRun] at hfound
    obtain ⟨r, hr, rfl⟩ := Option.map_eq_some_iff.1 hfound
    split
    · exact (hs other r hr).withNextRun nextRun
    · exact hs other r hr
  | softDelete hdelete =>
    obtain ⟨r, hr, hwrote⟩ := softDelete_eq_ok hdelete
    exact hs.wrote hwrote (hs _ r hr).deleted
  | record r hrecord =>
    obtain ⟨old, hold, hwrote⟩ := record_eq_ok hrecord
    exact hs.wrote hwrote (hs _ old hold)

theorem History.isWritten {s s' : Shared} {recorded : List Recording} (h : History s recorded s')
    (hs : s.table.IsWritten) : s'.table.IsWritten := by
  induction h with
  | nil => exact hs
  | step _ hstep ih => exact hstep.isWritten ih

/-- What saving a workflow with finite values leaves in a table. -/
theorem save_found {t t' : Table} {zone : Zone} {now : Instant} {w saved : Workflow}
    (hfinite : w.isFinite = true) (hkind : ∀ s ∈ w.trigger.schedule, s.kind ∈ ScheduleKind.all)
    (h : t.save zone now w = .ok (saved, t')) :
    ∃ nextRun, nextRunOf zone now w = .ok nextRun ∧ t'.get w.id = .ok (some saved)
      ∧ saved = { w.withNextRun nextRun with
        stats := (t.counters w.id).stats, createdAt := some (.ofInstant (t.addedAt now w)) }
      ∧ t'.rows.filter (·.id != w.id) = t.rows.filter (·.id != w.id) := by
  obtain ⟨nextRun, d, hnextRun, hd, hrow, hwrote⟩ := save_eq_ok h
  have hsaved := Row.eq_of_workflow hd hrow
  rw [Workflow.stored_eq hfinite hkind] at hsaved
  exact ⟨nextRun, hnextRun, hwrote.get hrow, hsaved, hwrote.others⟩

theorem addedAt_of_find? {t : Table} {w : Workflow} {r : Row} (h : t.find? w.id = some r)
    (now : Instant) (active : Bool) : t.addedAt now { w with isActive := active } = r.createdAt := by
  rw [addedAt]
  simp only [h]
  rfl

/-- What writing back a workflow that was found changes of its row. -/
theorem save_writtenBack {t t' : Table} (ht : t.IsWritten) {id : String} {w : Workflow}
    (hget : t.get id = .ok (some w)) {zone : Zone} {now : Instant} {active : Bool} {saved : Workflow}
    (h : t.save zone now { w with isActive := active } = .ok (saved, t')) :
    ∃ r nextRun, t.find? id = some r
      ∧ Wrote t t' { r with definition := { r.definition with isActive := active, nextRun } } := by
  obtain ⟨r, hr, hw⟩ := get_eq_ok hget
  obtain ⟨written, old, hd⟩ := ht id r hr
  obtain ⟨nextRun, d, -, hnew, -, hwrote⟩ := save_eq_ok h
  have hsame := Row.ofWorkflow_workflow hd hw active nextRun
  have hd' : d = { r.definition with isActive := active, nextRun } := Except.ok.inj (hnew.symm.trans hsame)
  have hid : w.id = r.id := by rw [Row.eq_of_workflow hd hw]
  have hfind : t.find? w.id = some r := hid ▸ find?_self hr
  have hrow : (⟨w.id, t.addedAt now { w with isActive := active }, d, t.counters w.id⟩ : Row)
      = { r with definition := { r.definition with isActive := active, nextRun } } := by
    rw [addedAt_of_find? hfind, hid, counters_of_find? hr, hd']
  exact ⟨r, nextRun, hr, hrow ▸ hwrote⟩

/-- **Saving is faithful.** Once a workflow that was read from a document, with
whatever id, has been saved into whatever table, it is found as it was, with
the next run that belongs to it, the counts that were stored for it and the
time at which it was first added; all other rows are as they were. And in a
table that transactions have led to, writing back what was found, switched on
or off, changes nothing of the definition in its row but that and the next
run. -/
theorem save_faithful :
    (∀ {doc : Json} {v : Workflow} (id : String), Document.readWorkflow doc = .valid v →
      v.isFinite = true →
      ∀ {t t' : Table} {zone : Zone} {now : Instant} {w saved : Workflow}, w = { v with id } →
      t.save zone now w = .ok (saved, t') →
      ∃ nextRun, nextRunOf zone now w = .ok nextRun ∧ t'.get id = .ok (some saved)
        ∧ saved = { w.withNextRun nextRun with
          stats := (t.counters id).stats, createdAt := some (.ofInstant (t.addedAt now w)) }
        ∧ t'.rows.filter (·.id != id) = t.rows.filter (·.id != id))
    ∧ (∀ {s : Shared} {recorded : List Recording}, History ⟨{}, []⟩ recorded s →
      ∀ {id : String} {w saved : Workflow} {zone : Zone} {now : Instant} {active : Bool} {t' : Table},
      s.table.get id = .ok (some w) →
      s.table.save zone now { w with isActive := active } = .ok (saved, t') →
      ∃ r nextRun, s.table.find? id = some r
        ∧ t'.find? id
          = some { r with definition := { r.definition with isActive := active, nextRun } }
        ∧ ∀ other, other ≠ id → t'.find? other = s.table.find? other) := by
  refine ⟨fun {doc v} id hread hfinite => ?_, fun {s recorded} hhistory => ?_⟩
  · rintro t t' zone now w saved rfl hsave
    have hkind := Document.kind_mem_of_readWorkflow hread
    exact save_found hfinite hkind hsave
  · intro id w saved zone now active t' hget hsave
    have hempty : IsWritten {} := fun id r hr => nomatch hr
    obtain ⟨r, nextRun, hr, hwrote⟩ := save_writtenBack (hhistory.isWritten hempty) hget hsave
    obtain rfl := id_of_find? hr
    refine ⟨r, nextRun, hr, hwrote.found, fun other hother => ?_⟩
    have hsearch := hwrote.find?_eq other
    rwa [if_neg hother] at hsearch

/-- A workflow with a branch that a schedule is to run, but not yet. -/
def pausedDocument : Json := .obj [
  ("store_id", .str "store-1"), ("name", .str "Restock"), ("isActive", .bool false),
  ("trigger", .obj [("type", .str "schedule"), ("schedule", .obj [("type", .str "daily"),
    ("time", .str "9:30"), ("nextRun", .str "2025-01-06T09:30:00Z")])]),
  ("actions", .arr [.obj [("type", .str "condition"), ("config", .obj [
    ("condition", .obj [("field", .str "stock"), ("operator", .str "less_than"), ("value", .int 5)]),
    ("then_actions", .arr [.obj [("type", .str "webhook"), ("config", .obj [("body", .arr [.int 1])])]])])]])]

def pausedWorkflow (id : String) (nextRun : Timestamp) (active : Bool) : Workflow where
  id := id
  storeId := "store-1"
  name := "Restock"
  trigger := ⟨.schedule, [], some ⟨.daily, some "9:30", none, none, none, some nextRun⟩⟩
  actions := [.branch ⟨0, false⟩ (some ⟨"stock", "less_than", .int 5⟩)
    [.task ⟨0, false⟩ (.webhook none "POST" [] (.arr [.int 1]))] []]
  isActive := active

/-- A workflow that was paused is saved, found and switched on. -/
theorem save_faithful_switched :
    let day (n : Int) : Instant := ⟨63871752600000000 + n * 86400000000⟩
    let found : Workflow := { pausedWorkflow "w-1" (.ofInstant (day 1)) false with
      createdAt := some (.ofInstant (day 0)) }
    Document.readWorkflow pausedDocument = .valid (pausedWorkflow "" (.ofInstant (day 1)) false)
      ∧ ∃ t switched t' r,
        Table.save {} .utc (day 0) (pausedWorkflow "w-1" (.ofInstant (day 1)) false) = .ok (found, t)
        ∧ t.get "w-1" = .ok (some found)
        ∧ t.save .utc (day 1) { found with isActive := true } = .ok (switched, t')
        ∧ t.find? "w-1" = some r ∧ ∃ nextRun, t'.find? "w-1" = some { r with
          definition := { r.definition with isActive := true, nextRun } } := by
  intro day found
  let document : Json := Document.actionDocument "condition"
    [("condition", .obj [("field", .str "stock"), ("operator", .str "less_than"), ("value", .int 5)]),
      ("thenActions", .arr [Document.actionDocument "webhook" [("url", .null), ("method", .str "POST"),
        ("headers", .obj []), ("body", .arr [.int 1])] {}]), ("elseActions", .arr [])] {}
  let row (active : Bool) (nextRun : Instant) : Row := ⟨"w-1", day 0, ⟨"store-1", none, "Restock", none,
    [], 1, active, false, "schedule", [], .obj [("type", .str "daily"), ("time", .str "9:30"),
      ("dayOfWeek", .null), ("dayOfMonth", .null), ("cronExpression", .null)],
    some nextRun, .arr [document], none⟩, {}⟩
  let switched : Workflow := { pausedWorkflow "w-1" (.ofInstant (day 2)) true with
    createdAt := some (.ofInstant (day 0)) }
  have hread : Document.readWorkflow pausedDocument
      = .valid (pausedWorkflow "" (.ofInstant (day 1)) false) := rfl
  have hsave : Table.save {} .utc (day 0) (pausedWorkflow "w-1" (.ofInstant (day 1)) false)
      = .ok (found, ⟨[row false (day 1)]⟩) := rfl
  have hnext : nextRunOf .utc (day 1) { found with isActive := true } = .ok (some (day 2)) := by
    unfold nextRunOf Schedule.nextAfter Schedule.nextClockRun
    rfl
  have hswitch : Table.save ⟨[row false (day 1)]⟩ .utc (day 1) { found with isActive := true }
      = .ok (switched, ⟨[row true (day 2)]⟩) := by
    rw [Table.save, hnext]
    rfl
  obtain ⟨_, -, hget, -, -⟩ := save_faithful.1 "w-1" hread rfl rfl hsave
  have hhistory : History ⟨{}, []⟩ [] ⟨⟨[row false (day 1)]⟩, []⟩ := .step .nil (.save hsave)
  obtain ⟨r, nextRun, hr, hfound, -⟩ := save_faithful.2 hhistory hget hswitch
  exact ⟨hread, _, _, _, r, hsave, hget, hswitch, hr, nextRun, hfound⟩

end Table

end Automation
