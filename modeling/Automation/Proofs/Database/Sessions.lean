/-
# Work on the database, statement by statement

`Table.save` and its like give a new table or a failure, all at once. Here the
same operations are sequences of statements on a database that holds both
tables: rows are looked up, written and read again one after the other, and
what was written before a failure stays written (`Session`), unless the work is
a transaction, which is undone if it fails (`Session.transaction`).

An operation checks its arguments and encodes them before its transaction
begins, and all its writes lie inside that one transaction. So it does what the
operation on the tables does, and a call that fails leaves both tables as they
were, wherever it fails: before the transaction, at a write, at a row that is
not there or at the row that is read again after it was written
(`Call.session_on`, `Call.undone`).

Key definitions: `Database`, `Session`, `Session.transaction`, `Call`,
`Call.session`, `Call.outcome`.
Key theorems: `Session.save_on`, `Session.setActive_on`, `Session.record_on`,
`Session.update_on`, `Session.create_on`, `Call.session_on`, `Call.undone`.
-/
import Automation.Proofs.Table.Rows
import Automation.Records

namespace Automation

theorem Except.ok_bind {ε α β : Type} (a : α) (f : α → Except ε β) : (Except.ok a >>= f) = f a := rfl

/-- Both tables. -/
structure Database where
  table : Table := {}
  records : Records := {}

namespace Database

variable {α : Type}

/-- A result with the database that it leaves: a failure leaves this one. -/
def settle (db : Database) : Except Failure (α × Database) → Except Failure α × Database
  | .ok (a, db') => (.ok a, db')
  | .error f => (.error f, db)

/-- A write to the table of workflows. -/
def withTable (db : Database) (result : Except Failure (α × Table)) : Except Failure (α × Database) :=
  result.map fun (a, table) => (a, { db with table })

/-- A write to the records. -/
def withRecords (db : Database) (result : Except Failure (α × Records)) :
    Except Failure (α × Database) :=
  result.map fun (a, records) => (a, { db with records })

end Database

/-- Work on the database, which gives a value or fails. What it wrote before it
failed stays written. -/
abbrev Session := ExceptT Failure (StateM Database)

namespace Session

variable {α β : Type}

/-- What comes of work on a database, and the database that it leaves. -/
def on (work : Session α) (db : Database) : Except Failure α × Database := work.run.run db

/-- A result that needs no database. -/
def of (result : Except Failure α) : Session α := ExceptT.mk (pure result)

/-- Work that is undone if it fails. -/
def transaction (work : Session α) : Session α :=
  ExceptT.mk fun db =>
    match work.on db with
    | (.ok a, db') => (.ok a, db')
    | (.error f, _) => (.error f, db)

/-! ### What work leaves -/

theorem on_of (result : Except Failure α) (db : Database) :
    (of result).on db = (result, db) := rfl

theorem on_get (db : Database) : (get : Session Database).on db = (.ok db, db) := rfl

/-- Work goes on where the work before it ended, unless that failed. -/
theorem on_bind (work : Session α) (next : α → Session β) (db : Database) :
    (work >>= next).on db = match work.on db with
      | (.ok a, db') => (next a).on db'
      | (.error f, db') => (.error f, db') := by
  show StateT.bind work.run (ExceptT.bindCont next) db = _
  unfold StateT.bind on ExceptT.run StateT.run
  rcases hwork : work db with ⟨_ | _, _⟩ <;> rfl

theorem on_transaction (work : Session α) (db : Database) :
    (transaction work).on db = match work.on db with
      | (.ok a, db') => (.ok a, db')
      | (.error f, _) => (.error f, db) := rfl

/-! ### Statements -/

/-- Looks up a row. -/
def findRow (id : String) : Session (Option Row) := do
  return (← get).table.find? id

/-- Writes a row, which is new or takes the place of the one with its id. -/
def putRow (r : Row) : Session Unit := do
  if !r.definition.fits then throw .integerTooLarge
  modify fun db => { db with table := db.table.put r }

/-- Reads a row as it is stored now. -/
def readRow (id : String) : Session Workflow := do
  match ← findRow id with
  | some r => of r.workflow
  | none => throw (.notFound "Workflow" id)

/-- Changes the row with an id, and says whether there is one. -/
def changeRow (id : String) (f : Row → Row) : Session Bool := do
  match ← findRow id with
  | some r => do
    modify fun db => { db with table := db.table.put (f r) }
    return true
  | none => return false

/-- Changes a row that has to exist; that it does not is found out afterwards. -/
def changeExisting (id : String) (f : Row → Row) : Session Unit := do
  if !(← changeRow id f) then throw (.notFound "Workflow" id)

/-! ### Operations -/

/-- A workflow is encoded; then its row is written and read again. -/
def save (zone : Zone) (now : Instant) (w : Workflow) : Session Workflow := do
  let nextRun ← of (Table.nextRunOf zone now w)
  let definition ← of (Definition.ofWorkflow w nextRun)
  transaction do
    match ← findRow w.id with
    | some old => putRow { old with definition }
    | none => do
      let createdAt ← of ((w.createdAt.mapM Timestamp.utc).mapError .calendar)
      putRow { id := w.id, createdAt := createdAt.getD now, definition }
    readRow w.id

/-- The workflow with an id, unless it is deleted. -/
def undeleted (id : String) : Session Workflow := do
  match ← transaction (findRow id >>= fun r => of (r.mapM Row.workflow)) with
  | some w => if w.isDeleted then throw (.notFound "Workflow" id) else return w
  | none => throw (.notFound "Workflow" id)

/-- A workflow is read in one transaction and written back in another. -/
def setActive (zone : Zone) (now : Instant) (id : String) (active : Bool) : Session Workflow := do
  let w ← undeleted id
  save zone now { w with isActive := active }

def softDelete (id : String) : Session Unit :=
  transaction (changeExisting id fun r =>
    { r with definition := { r.definition with isDeleted := true, isActive := false } })

/-- The failure that is kept of an execution, in stored form. -/
def storedError (success : Bool) (error : Option LastError) : Except Failure (Option StoredError) :=
  if success then .ok none
  else error.mapM fun e => do
    return ⟨e.message, ← e.timestamp.utc.mapError .calendar, e.details⟩

def record (id : String) (success : Bool) (error : Option LastError) (endedAt : Timestamp) :
    Session Unit := do
  let endedAt ← of (endedAt.utc.mapError .calendar)
  let stored ← of (storedError success error)
  transaction (changeExisting id fun r =>
    { r with counters := r.counters.record success stored endedAt })

/-- A next run is set where there is a row; without one nothing is. -/
def setNextRun (id : String) (nextRun : Option Timestamp) : Session Unit :=
  transaction do
    let nextRun ← of ((nextRun.mapM Timestamp.utc).mapError .calendar)
    modify fun db => { db with table := db.table.setNextRun id nextRun }

/-- A record is looked up, and its fields are written with those of the patch. -/
def update (kind : EntityKind) (id : String) (patch : Members) : Session Record :=
  transaction do
    let r ← of ((← get).records.find kind id)
    let fields := Record.merged r.fields patch
    if Record.changes r.fields patch then
      modify fun db => { db with records := db.records.write kind id fields }
    return { r with fields }

/-- A record is added with an id that is made as it is written. -/
def create (generated : Json) (kind : EntityKind) (data : Members) : Session Record := do
  let storeId ← of (Records.ownerOf data)
  transaction do
    let id ← of (newId generated)
    let r : Record := ⟨id, kind, storeId, data.without Record.reserved⟩
    modify fun db => { db with records := ⟨db.records.rows ++ [r]⟩ }
    return r

/-! ### What the operations come to -/

variable {zone : Zone} {now : Instant} {id : String} {db : Database}

theorem on_findRow (id : String) (db : Database) : (findRow id).on db = (.ok (db.table.find? id), db) :=
  rfl

theorem on_readRow (id : String) (db : Database) : (readRow id).on db
    = (match db.table.find? id with | some r => r.workflow | none => .error (.notFound "Workflow" id), db) := by
  rw [readRow, on_bind, on_findRow]
  dsimp only
  cases db.table.find? id <;> rfl

theorem on_putRow (r : Row) (db : Database) : (putRow r).on db
    = if r.definition.fits then (.ok (), { db with table := db.table.put r })
      else (.error .integerTooLarge, db) := by
  unfold putRow
  cases r.definition.fits <;> rfl

theorem on_changeRow (id : String) (f : Row → Row) (db : Database) : (changeRow id f).on db
    = match db.table.find? id with
      | some r => (.ok true, { db with table := db.table.put (f r) })
      | none => (.ok false, db) := by
  rw [changeRow, on_bind, on_findRow]
  dsimp only
  cases db.table.find? id <;> rfl

/-- A row that is written is the one that is read again. -/
theorem on_putRow_readRow (r : Row) (db : Database) : (putRow r >>= fun _ => readRow r.id).on db
    = if r.definition.fits then (r.workflow, { db with table := db.table.put r })
      else (.error .integerTooLarge, db) := by
  rw [on_bind, on_putRow]
  cases r.definition.fits with
  | false => rfl
  | true =>
    have hfound := (Table.wrote_put db.table r).found
    simp only [if_true]
    rw [on_readRow]
    simp only [hfound]

/-- **Saving statement by statement** is saving. -/
theorem save_on (zone : Zone) (now : Instant) (w : Workflow) (db : Database) :
    (save zone now w).on db = db.settle (db.withTable (db.table.save zone now w)) := by
  rw [save, Table.save, on_bind, on_of]
  cases Table.nextRunOf zone now w with
  | error f => rfl
  | ok nextRun =>
    dsimp only [Except.ok_bind]
    rw [on_bind, on_of]
    cases Definition.ofWorkflow w nextRun with
    | error f => rfl
    | ok d =>
      dsimp only [Except.ok_bind]
      rw [on_transaction, on_bind, on_findRow]
      dsimp only
      cases hfind : db.table.find? w.id with
      | some old =>
        have hold : db.table.find? ({ old with definition := d } : Row).id = some old :=
          Table.find?_self hfind
        have hwritten := on_putRow_readRow { old with definition := d } db
        rw [Table.put_of_find? hold] at hwritten
        rw [← Table.id_of_find? hfind]
        dsimp only at hwritten ⊢
        rw [hwritten]
        cases d.fits with
        | false => rfl
        | true => cases Row.workflow { old with definition := d } <;> rfl
      | none =>
        dsimp only
        rw [on_bind, on_of]
        cases (w.createdAt.mapM Timestamp.utc).mapError Failure.calendar with
        | error f => rfl
        | ok createdAt =>
          let r : Row := { id := w.id, createdAt := createdAt.getD now, definition := d }
          have hwritten := on_putRow_readRow r db
          have hnew : db.table.find? r.id = none := hfind
          rw [Table.put_of_new hnew] at hwritten
          dsimp only [Except.ok_bind]
          rw [hwritten]
          cases hfits : d.fits with
          | false => rfl
          | true => cases r.workflow <;> rfl

theorem undeleted_on (id : String) (db : Database) :
    (undeleted id).on db = (db.table.undeleted id, db) := by
  rw [undeleted, Table.undeleted, Table.get, on_bind, on_transaction, on_bind, on_findRow]
  dsimp only
  cases db.table.find? id with
  | none => rfl
  | some r =>
    dsimp only
    rw [Option.mapM_some, on_of]
    cases hw : r.workflow with
    | error f => rfl
    | ok w =>
      show (if w.isDeleted then throw _ else pure w : Session Workflow).on db
        = (if w.isDeleted then throw _ else pure w, db)
      cases w.isDeleted <;> rfl

theorem setActive_on (zone : Zone) (now : Instant) (id : String) (active : Bool) (db : Database) :
    (setActive zone now id active).on db
      = db.settle (db.withTable (db.table.setActive zone now id active)) := by
  rw [setActive, Table.setActive, on_bind, undeleted_on]
  cases db.table.undeleted id with
  | error f => rfl
  | ok w => exact save_on zone now { w with isActive := active } db

/-- To change a row that has to exist is to change the table. -/
theorem changeExisting_on {f : Row → Row} (hf : ∀ r, (f r).id = r.id) (id : String) (db : Database) :
    (transaction (changeExisting id f)).on db
      = db.settle (db.withTable ((db.table.modify id f).map ((), ·))) := by
  rw [on_transaction, changeExisting, on_bind, on_changeRow, Table.modify]
  cases hfind : db.table.find? id with
  | none => rfl
  | some r =>
    have hold : db.table.find? (f r).id = some r := by rw [hf, Table.find?_self hfind]
    dsimp only
    rw [Table.put_of_find? hold]
    rfl

theorem softDelete_on (id : String) (db : Database) :
    (softDelete id).on db = db.settle (db.withTable ((db.table.softDelete id).map ((), ·))) :=
  changeExisting_on (by intro r; rfl) id db

theorem record_on (id : String) (success : Bool) (error : Option LastError) (endedAt : Timestamp)
    (db : Database) : (record id success error endedAt).on db
      = db.settle (db.withTable ((endedAt.utc.mapError .calendar).bind fun endedAt =>
        (db.table.record id success error endedAt).map ((), ·))) := by
  rw [record, on_bind, on_of]
  cases endedAt.utc.mapError Failure.calendar with
  | error f => rfl
  | ok endedAt =>
    dsimp only [Except.bind]
    rw [on_bind, on_of, storedError, Table.record]
    cases success with
    | true => exact changeExisting_on (by intro r; rfl) id db
    | false =>
      simp only [Bool.false_eq_true, if_false]
      cases error.mapM fun e => (do
          let timestamp ← e.timestamp.utc.mapError Failure.calendar
          return ⟨e.message, timestamp, e.details⟩ : Except Failure StoredError) with
      | error f => rfl
      | ok stored => exact changeExisting_on (by intro r; rfl) id db

theorem setNextRun_on (id : String) (nextRun : Option Timestamp) (db : Database) :
    (setNextRun id nextRun).on db = db.settle (db.withTable (do
      let nextRun ← (nextRun.mapM Timestamp.utc).mapError .calendar
      return ((), db.table.setNextRun id nextRun))) := by
  rw [setNextRun, on_transaction, on_bind, on_of]
  cases (nextRun.mapM Timestamp.utc).mapError Failure.calendar <;> rfl

theorem update_on (kind : EntityKind) (id : String) (patch : Members) (db : Database) :
    (update kind id patch).on db = db.settle (db.withRecords (db.records.update kind id patch)) := by
  rw [update, on_transaction, on_bind, on_get, Records.update]
  dsimp only
  rw [on_bind, on_of]
  cases db.records.find kind id with
  | error f => rfl
  | ok r =>
    dsimp only [Except.ok_bind]
    cases Record.changes r.fields patch <;> rfl

theorem create_on (generated : Json) (kind : EntityKind) (data : Members) (db : Database) :
    (create generated kind data).on db = db.settle (db.withRecords (do
      let _ ← Records.ownerOf data
      db.records.create (← newId generated) kind data)) := by
  rw [create, on_bind, on_of]
  cases hstore : Records.ownerOf data with
  | error f => rfl
  | ok storeId =>
    dsimp only [Except.ok_bind]
    rw [on_transaction, on_bind, on_of]
    cases newId generated with
    | error f => rfl
    | ok newId =>
      dsimp only [Except.ok_bind]
      rw [Records.create, hstore]
      rfl

end Session

/-! ### Calls -/

/-- A call of an operation, with whatever arguments. -/
inductive Call where
  | save (zone : Zone) (now : Instant) (w : Workflow)
  | setActive (zone : Zone) (now : Instant) (id : String) (active : Bool)
  | softDelete (id : String)
  | record (id : String) (success : Bool) (error : Option LastError) (endedAt : Timestamp)
  | setNextRun (id : String) (nextRun : Option Timestamp)
  | update (kind : EntityKind) (id : String) (patch : Members)
  | create (generated : Json) (kind : EntityKind) (data : Members)

/-- What a call gives. -/
inductive Answer where
  | workflow (w : Workflow)
  | record (r : Record)
  | done

namespace Call

/-- The statements of a call. -/
def session : Call → Session Answer
  | .save zone now w => .workflow <$> Session.save zone now w
  | .setActive zone now id active => .workflow <$> Session.setActive zone now id active
  | .softDelete id => (fun _ => .done) <$> Session.softDelete id
  | .record id success error endedAt => (fun _ => .done) <$> Session.record id success error endedAt
  | .setNextRun id nextRun => (fun _ => .done) <$> Session.setNextRun id nextRun
  | .update kind id patch => .record <$> Session.update kind id patch
  | .create generated kind data => .record <$> Session.create generated kind data

/-- What a call comes to on the tables as a whole. -/
def outcome (db : Database) : Call → Except Failure (Answer × Database)
  | .save zone now w => answer .workflow (db.withTable (db.table.save zone now w))
  | .setActive zone now id active =>
    answer .workflow (db.withTable (db.table.setActive zone now id active))
  | .softDelete id => answer (fun _ => .done) (db.withTable ((db.table.softDelete id).map ((), ·)))
  | .record id success error endedAt =>
    answer (fun _ => .done) (db.withTable ((endedAt.utc.mapError .calendar).bind fun endedAt =>
      (db.table.record id success error endedAt).map ((), ·)))
  | .setNextRun id nextRun =>
    answer (fun _ => .done) (db.withTable (do
      let nextRun ← (nextRun.mapM Timestamp.utc).mapError .calendar
      return ((), db.table.setNextRun id nextRun)))
  | .update kind id patch => answer .record (db.withRecords (db.records.update kind id patch))
  | .create generated kind data =>
    answer .record (db.withRecords (do
      let _ ← Records.ownerOf data
      db.records.create (← newId generated) kind data))
where
  answer {α : Type} (f : α → Answer) (result : Except Failure (α × Database)) :
      Except Failure (Answer × Database) := result.map fun (a, db) => (f a, db)

theorem on_map_settle {α : Type} {work : Session α} {db : Database}
    {result : Except Failure (α × Database)} (h : work.on db = db.settle result) (f : α → Answer) :
    (f <$> work).on db = db.settle (outcome.answer f result) := by
  rw [map_eq_pure_bind, Session.on_bind, h]
  cases result <;> rfl

/-- **The statements of a call** come to the call on the tables as a whole. -/
theorem session_on (c : Call) (db : Database) : c.session.on db = db.settle (c.outcome db) := by
  cases c with
  | save zone now w => exact on_map_settle (Session.save_on zone now w db) _
  | setActive zone now id active => exact on_map_settle (Session.setActive_on zone now id active db) _
  | softDelete id => exact on_map_settle (Session.softDelete_on id db) _
  | record id success error endedAt =>
    exact on_map_settle (Session.record_on id success error endedAt db) _
  | setNextRun id nextRun => exact on_map_settle (Session.setNextRun_on id nextRun db) _
  | update kind id patch => exact on_map_settle (Session.update_on kind id patch db) _
  | create generated kind data => exact on_map_settle (Session.create_on generated kind data db) _

/-- **A call that fails leaves both tables as they were**; one that does not
leaves what the operation on the tables as a whole gives. -/
theorem undone (c : Call) (db : Database) :
    (∀ f, (c.session.on db).1 = .error f → (c.session.on db).2 = db)
      ∧ ∀ a db', c.session.on db = (.ok a, db') ↔ c.outcome db = .ok (a, db') := by
  rw [session_on]
  cases c.outcome db with
  | error f => exact ⟨fun _ _ => rfl, fun a db' => by simp [Database.settle]⟩
  | ok result => exact ⟨nofun, fun a db' => by simp [Database.settle, Prod.ext_iff]⟩

/-- A workflow whose schedule is of no kind that has runs. -/
def yearlyWorkflow : Workflow where
  id := "w-1"
  storeId := "store-1"
  name := "Notify"
  trigger := ⟨.manual, [], some { kind := .other "yearly" }⟩

/-- It is written but cannot be read again: its row stands in the table when the
call fails, and is gone afterwards. -/
theorem undone_unreadable :
    ∃ r : Row, Definition.ofWorkflow yearlyWorkflow none = .ok r.definition
      ∧ ((Session.putRow r >>= fun _ => Session.readRow r.id).on {}).2.table.rows = [r]
      ∧ ((Call.save .utc ⟨0⟩ yearlyWorkflow).session.on {}).1 = .error (.notMember "yearly" "ScheduleType")
      ∧ ((Call.save .utc ⟨0⟩ yearlyWorkflow).session.on {}).2 = {} := by
  let fields : Members := [("type", .str "yearly"), ("time", .null), ("dayOfWeek", .null),
    ("dayOfMonth", .null), ("cronExpression", .null)]
  let r : Row := ⟨"w-1", ⟨0⟩, ⟨"store-1", none, "Notify", none, [], 1, true, false, "manual", [],
    .obj fields, none, .arr [], none⟩, {}⟩
  have hfails : ((Call.save .utc ⟨0⟩ yearlyWorkflow).session.on {}).1
      = .error (.notMember "yearly" "ScheduleType") := rfl
  exact ⟨r, rfl, rfl, hfails, (undone _ _).1 _ hfails⟩

end Call
end Automation
