/-
# Business records

The records that actions update and create: products, sales, people. A record
belongs to a store from its creation on. Its id and its store are its own: no
patch moves a record and no data chooses them.

To update a record is to find it and to write its fields with those of a patch
set, in one go (`Records.update`) or with other writes between the two. If the
patch sets nothing to another value, nothing is written.

Key definitions: `Record`, `Record.merged`, `Record.changes`, `Records.find`,
`Records.write`, `Records.update`, `Records.create`.
-/
import Automation.EntityKind
import Automation.Failure
import Automation.Json.Described

namespace Automation

structure Record where
  id : String
  kind : EntityKind
  storeId : String
  fields : Members

namespace Record

/-- The names that no patch and no data may set. -/
def reserved : List String := ["id", "storeId"]

/-- The fields of a record with its id and its store. -/
def document (r : Record) : Members :=
  (r.fields.put "id" (.str r.id)).put "storeId" (.str r.storeId)

/-- Fields with those of a patch set. -/
def merged (fields patch : Members) : Members := Members.merge fields (patch.without reserved)

/-- Whether a patch sets a field to a value that it does not equal already. -/
def changes (fields patch : Members) : Bool :=
  (patch.without reserved).any fun (name, value) => !(fields.lookup name).any value.equal

end Record

/-- A new id, which has to be text. -/
def newId : Json → Except Failure String
  | .str id => .ok id
  | v => .error (.idNotText v.kindName)

/-- All records, in the order in which they were created. -/
structure Records where
  rows : List Record := []

namespace Records

/-- The record of a kind with an id. -/
def find (t : Records) (kind : EntityKind) (id : String) : Except Failure Record :=
  match t.rows.find? fun r => r.id == id && r.kind == kind with
  | some r => .ok r
  | none => .error (.notFound kind.name id)

/-- Gives the record of a kind with an id other fields. -/
def write (t : Records) (kind : EntityKind) (id : String) (fields : Members) : Records :=
  ⟨t.rows.map fun r => if r.id == id && r.kind == kind then { r with fields } else r⟩

/-- Sets the fields of a patch in a record. -/
def update (t : Records) (kind : EntityKind) (id : String) (patch : Members) :
    Except Failure (Record × Records) := do
  let r ← t.find kind id
  let fields := Record.merged r.fields patch
  return ({ r with fields }, if Record.changes r.fields patch then t.write kind id fields else t)

/-- The store that data names. -/
def ownerOf (data : Members) : Except Failure String :=
  let store := (data.lookup "storeId").getD .null
  if store.isGiven then .ok store.described
  else .error (.invalid "storeId is required to create an entity" (some "storeId"))

/-- Adds a record with a new id. -/
def create (t : Records) (id : String) (kind : EntityKind) (data : Members) :
    Except Failure (Record × Records) := do
  let r : Record := ⟨id, kind, ← ownerOf data, data.without Record.reserved⟩
  return (r, ⟨t.rows ++ [r]⟩)

/-- The records by kind and id. -/
def listed (t : Records) : List Record :=
  t.rows.mergeSort fun a b =>
    a.kind.name < b.kind.name || (a.kind == b.kind && a.id ≤ b.id)

end Records

end Automation
