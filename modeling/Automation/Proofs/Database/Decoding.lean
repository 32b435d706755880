/-
# Every stored workflow can be read

Whatever is asked of a database that was empty, and whether it succeeds or
fails, the table of workflows goes through a history of transactions
(`Database.perform_history`). No transaction gives two rows the same id or
leaves a row that cannot be read (`Table.History.distinct`,
`Table.History.isReadable`): to save a workflow is to read it again, and nothing
else writes what is read. So a workflow that the readers would refuse never
becomes a row, whoever made it, and every query gives its workflows
(`Database.queries_decode`).

Key definitions: `Database.perform`, `Database.performAll`.
Key theorems: `Table.History.distinct`, `Database.perform_history`,
`Database.queries_decode`.
-/
import Automation.Proofs.Database.Sessions
import Automation.Proofs.Table.Shown

namespace Automation

namespace Table

variable {s s' : Shared} {recorded : List Recording}

/-- No transaction gives two rows the same id. -/
theorem Transaction.distinct (h : Transaction s recorded s') (hs : s.table.Distinct) :
    s'.table.Distinct := by
  cases h with
  | save hsave | writeBack _ hsave => exact hs.save hsave
  | read | drop => exact hs
  | setNextRun id nextRun => exact hs.setNextRun id nextRun
  | softDelete hdelete => exact hs.softDelete hdelete
  | record r hrecord => exact hs.record hrecord

theorem History.distinct (h : History s recorded s') (hs : s.table.Distinct) :
    s'.table.Distinct := by
  induction h with
  | nil => exact hs
  | step _ hstep ih => exact hstep.distinct ih

/-- If no two rows have the same id, all rows of a table of workflows can be read. -/
theorem IsReadable.isReadable_of_mem {t : Table} (h : t.IsReadable) (hids : t.Distinct) {r : Row}
    (hr : r ∈ t.rows) : r.isReadable = true := by
  obtain ⟨found, hfound⟩ := h r.id
  have hfind : t.find? r.id = some r := hids.find?_of_mem hr
  rw [get, hfind] at hfound
  obtain ⟨w, hw, -⟩ := Except.of_map_eq_ok hfound
  rw [Row.isReadable, hw]
  rfl

end Table

namespace Database

/-- The database after a call, which may have failed. -/
def perform (db : Database) (c : Call) : Database := (c.session.on db).2

/-- The database after some calls. -/
def performAll (cs : List Call) (db : Database) : Database := cs.foldl perform db

/-! ### Calls as histories -/

theorem of_answer_withTable {α : Type} {f : α → Answer} {result : Except Failure (α × Table)}
    {db db' : Database} {a : Answer}
    (h : Call.outcome.answer f (db.withTable result) = .ok (a, db')) :
    ∃ b table, result = .ok (b, table) ∧ db' = { db with table } := by
  cases result with
  | error failure => cases h
  | ok written =>
    cases h
    exact ⟨written.1, written.2, rfl, rfl⟩

theorem of_answer_withRecords {α : Type} {f : α → Answer} {result : Except Failure (α × Records)}
    {db db' : Database} {a : Answer}
    (h : Call.outcome.answer f (db.withRecords result) = .ok (a, db')) : db'.table = db.table := by
  cases result with
  | error failure => cases h
  | ok written =>
    cases h
    rfl

/-- A call that succeeds takes the table of workflows through a history. -/
theorem history_of_outcome {db db' : Database} {c : Call} {a : Answer}
    (h : c.outcome db = .ok (a, db')) :
    ∃ recorded, Table.History ⟨db.table, []⟩ recorded ⟨db'.table, []⟩ := by
  cases c with
  | save zone now w =>
    obtain ⟨saved, table, hsave, rfl⟩ := of_answer_withTable h
    exact ⟨_, .step .nil (.save hsave)⟩
  | setActive zone now id active =>
    obtain ⟨saved, table, hactive, rfl⟩ := of_answer_withTable h
    exact ⟨_, Table.setActive_history hactive []⟩
  | softDelete id =>
    rw [Call.outcome] at h
    obtain ⟨_, table, hdelete, rfl⟩ := of_answer_withTable h
    obtain ⟨_, hdelete, hpair⟩ := Except.of_map_eq_ok hdelete
    cases hpair
    exact ⟨_, .step .nil (.softDelete hdelete)⟩
  | record id success error endedAt =>
    rw [Call.outcome] at h
    obtain ⟨_, table, hrecord, rfl⟩ := of_answer_withTable h
    obtain ⟨endedAt, -, hrecord⟩ := Except.of_bind_eq_ok hrecord
    obtain ⟨_, hrecord, hpair⟩ := Except.of_map_eq_ok hrecord
    cases hpair
    exact ⟨_, .step .nil (.record ⟨id, success, error, endedAt⟩ hrecord)⟩
  | setNextRun id nextRun =>
    rw [Call.outcome] at h
    obtain ⟨_, table, hset, rfl⟩ := of_answer_withTable h
    obtain ⟨nextRun, -, hset⟩ := Except.of_bind_eq_ok hset
    cases hset
    exact ⟨_, .step .nil (.setNextRun id nextRun)⟩
  | update kind id patch =>
    rw [of_answer_withRecords h]
    exact ⟨_, .nil⟩
  | create generated kind data =>
    rw [of_answer_withRecords h]
    exact ⟨_, .nil⟩

/-- **Every call takes the table of workflows through a history**, which is empty
if the call fails. -/
theorem perform_history (db : Database) (c : Call) :
    ∃ recorded, Table.History ⟨db.table, []⟩ recorded ⟨(db.perform c).table, []⟩ := by
  rw [perform, Call.session_on]
  cases houtcome : c.outcome db with
  | error f => exact ⟨_, .nil⟩
  | ok result => exact history_of_outcome houtcome

/-- So do any number of calls what every transaction does: they leave distinct
ids and rows that can be read. -/
theorem performAll_readable {db : Database} (hids : db.table.Distinct) (hread : db.table.IsReadable)
    (cs : List Call) : (db.performAll cs).table.Distinct ∧ (db.performAll cs).table.IsReadable := by
  let P (db' : Database) : Prop := db'.table.Distinct ∧ db'.table.IsReadable
  refine List.foldlRecOn (motive := P) cs perform ⟨hids, hread⟩ fun db' hP c _ => ?_
  obtain ⟨_, hhistory⟩ := perform_history db' c
  exact ⟨hhistory.distinct hP.1, hhistory.isReadable hP.2⟩

/-! ### Queries -/

/-- **Every row can be read and every query gives its workflows**, whatever was
asked of a database that was empty, failed calls included: by an id, for an
event, by what is due, or all of a store. -/
theorem queries_decode (cs : List Call) :
    let t := (performAll cs {}).table
    (∀ r ∈ t.rows, ∃ w, r.workflow = .ok w)
      ∧ (∀ id, ∃ found, t.get id = .ok found)
      ∧ (∀ storeId (kind : TriggerKind), ∃ ws, t.activeFor storeId kind.name = .ok ws)
      ∧ (∀ now, ∃ ws, t.dueAt now = .ok ws)
      ∧ ∀ storeId (kind : Option TriggerKind) active,
        ∃ ws, t.ofStore storeId (kind.map TriggerKind.name) active = .ok ws := by
  intro t
  have hempty : ({} : Database).table.Distinct ∧ ({} : Database).table.IsReadable :=
    ⟨List.nodup_nil, fun id => ⟨none, rfl⟩⟩
  obtain ⟨hids, hread⟩ := performAll_readable hempty.1 hempty.2 cs
  have hrows : ∀ r ∈ t.rows, r.isReadable = true := fun r hr => hread.isReadable_of_mem hids hr
  -- the rows that a query picks and sorts are rows of the table
  have hquery : ∀ picks first, ∃ ws, t.query picks first = .ok ws :=
    fun picks first => Table.exists_query (fun r hr _ => hrows r hr) first
  refine ⟨fun r hr => ?_, hread, fun storeId kind => ?_, fun now => ?_,
    fun storeId kind active => ?_⟩
  · have hr := hrows r hr
    unfold Row.isReadable at hr
    cases hw : r.workflow with
    | error f =>
      rw [hw] at hr
      cases hr
    | ok w => exact ⟨w, rfl⟩
  · rw [Table.activeFor_eq t storeId (by rw [TriggerKind.ofName?_name]; rfl)]
    exact hquery _ _
  · exact hquery _ _
  · have hkind : (kind.map TriggerKind.name).mapM Table.triggerNamed = .ok kind := by
      cases kind with
      | none => rfl
      | some kind =>
        show (Table.triggerNamed kind.name).map some = _
        rw [Table.triggerNamed, TriggerKind.ofName?_name]
        rfl
    rw [Table.ofStore, hkind]
    exact hquery _ _

end Database

end Automation
