/-
# Workflow documents survive being written

A document that is accepted may leave fields out, name them in either
spelling and write numbers, truth values and timestamps in several ways. The
workflow that is read from it is written in one way, and that is a normal
form: it is accepted, it is read as the same workflow, and writing what is
read of it changes nothing any more.

Key definitions: `Workflow.isFinite`, `Document.normalize`.
Key theorems: `Document.readWorkflow_survives`, `Document.normalize_reproduces`.
-/
import Automation.Proofs.Document.Actions

namespace Automation

/-- Whether every double in the free parts of a workflow is finite. -/
def Workflow.isFinite (w : Workflow) : Bool :=
  w.trigger.conditions.all Condition.isFinite && Action.areFinite w.actions

namespace Document

open Checked (valid)

/-- The document of the workflow that a document is read as. -/
def normalize (doc : Json) : Except Failure Json := do
  let w ← accept (readWorkflow doc)
  writeWorkflow w

theorem actions_survive {ms : Members} {actions : List Action}
    (h : optional "actions" [] readActions ms = .valid actions)
    (hfinite : Action.areFinite actions = true) : ActionsSurvive actions := by
  rcases optional_eq_valid h with rfl | ⟨v, hv⟩
  · exact actionsSurvive_nil
  · exact readActions_survive v hv hfinite

/-- A workflow that has been read can be written, and is what is read again. -/
theorem readWorkflow_survives {doc : Json} {w : Workflow} (h : readWorkflow doc = .valid w)
    (hfinite : w.isFinite = true) : Survives writeWorkflow readWorkflow w := by
  obtain ⟨ms, rfl, h⟩ := readRecord_eq_valid h
  obtain ⟨_, createdAt, h13, hcreatedAt, rfl⟩ := Checked.and_eq_valid.1 h
  obtain ⟨_, createdBy, h12, -, rfl⟩ := Checked.and_eq_valid.1 h13
  obtain ⟨_, stats, h11, hstats, rfl⟩ := Checked.and_eq_valid.1 h12
  obtain ⟨_, isDeleted, h10, -, rfl⟩ := Checked.and_eq_valid.1 h11
  obtain ⟨_, isActive, h9, -, rfl⟩ := Checked.and_eq_valid.1 h10
  obtain ⟨_, actions, h8, hactions, rfl⟩ := Checked.and_eq_valid.1 h9
  obtain ⟨_, trigger, h7, htrigger, rfl⟩ := Checked.and_eq_valid.1 h8
  obtain ⟨_, version, h6, hversion, rfl⟩ := Checked.and_eq_valid.1 h7
  obtain ⟨_, tags, h5, -, rfl⟩ := Checked.and_eq_valid.1 h6
  obtain ⟨_, description, h4, -, rfl⟩ := Checked.and_eq_valid.1 h5
  obtain ⟨_, name, h3, hname, rfl⟩ := Checked.and_eq_valid.1 h4
  obtain ⟨_, organizationId, h2, -, rfl⟩ := Checked.and_eq_valid.1 h3
  obtain ⟨_, storeId, h1, hstoreId, rfl⟩ := Checked.and_eq_valid.1 h2
  obtain ⟨_, id, h0, -, rfl⟩ := Checked.and_eq_valid.1 h1
  cases h0
  rw [Workflow.isFinite, Bool.and_eq_true, List.all_eq_true] at hfinite
  have hstoreId := (readSizedText_rereads 1 none).required hstoreId
  have hname := (readSizedText_rereads 1 (some nameLength)).required hname
  have hversion := (readBounded_rereads 1 none).optional rfl hversion
  have hbounds : checkBounds 1 none version = .valid version := hversion
  have hstats := readStats_rereads.optional rfl hstats
  have hcreatedAt := nullableTimestamp_rereads.optional rfl hcreatedAt
  obtain ⟨v, hv⟩ := required_eq_valid htrigger
  obtain ⟨triggerOut, htriggerOut, htrigger⟩ := readTrigger_survives hv hfinite.1
  obtain ⟨items, hitems, hreads⟩ := actions_survive hactions hfinite.2
  have hactions : readActions (.arr items) = .valid actions := hreads 0
  have hid : nullable readText (.str (id.getD "")) = .valid (some (id.getD "")) := rfl
  refine ⟨.obj [("id", .str (id.getD "")), ("storeId", .str storeId),
    ("organizationId", Json.ofText? organizationId), ("name", .str name),
    ("description", Json.ofText? description), ("tags", Json.ofTexts tags), ("version", .int version),
    ("trigger", triggerOut), ("actions", .arr items), ("isActive", .bool isActive),
    ("isDeleted", .bool isDeleted), ("stats", writeStats stats),
    ("createdBy", Json.ofText? createdBy), ("createdAt", writeTimestamp createdAt)], ?_, ?_⟩
  · rw [writeWorkflow, htriggerOut, hitems, checkWorkflow, hstoreId, hname, hbounds]
    rfl
  · rw [readWorkflow, readRecord, optional_of_lookup rfl hid, required_of_lookup rfl hstoreId,
      optional_of_lookup rfl (nullableText_written organizationId), required_of_lookup rfl hname,
      optional_of_lookup rfl (nullableText_written description),
      optional_of_lookup rfl (texts_written tags), optional_of_lookup rfl hversion,
      required_of_lookup rfl htrigger, optional_of_lookup rfl hactions,
      optional_of_lookup rfl (readBoolean_bool isActive),
      optional_of_lookup rfl (readBoolean_bool isDeleted), optional_of_lookup rfl hstats,
      optional_of_lookup rfl (nullableText_written createdBy), optional_of_lookup rfl hcreatedAt]
    rfl

/-- The schedule of a workflow that has been read is of a kind that has runs. -/
theorem kind_mem_of_readWorkflow {doc : Json} {w : Workflow} (h : readWorkflow doc = .valid w) :
    ∀ s ∈ w.trigger.schedule, s.kind ∈ ScheduleKind.all := by
  obtain ⟨ms, rfl, h⟩ := readRecord_eq_valid h
  obtain ⟨_, createdAt, h13, -, rfl⟩ := Checked.and_eq_valid.1 h
  obtain ⟨_, createdBy, h12, -, rfl⟩ := Checked.and_eq_valid.1 h13
  obtain ⟨_, stats, h11, -, rfl⟩ := Checked.and_eq_valid.1 h12
  obtain ⟨_, isDeleted, h10, -, rfl⟩ := Checked.and_eq_valid.1 h11
  obtain ⟨_, isActive, h9, -, rfl⟩ := Checked.and_eq_valid.1 h10
  obtain ⟨_, actions, h8, -, rfl⟩ := Checked.and_eq_valid.1 h9
  obtain ⟨_, trigger, h7, htrigger, rfl⟩ := Checked.and_eq_valid.1 h8
  obtain ⟨_, version, h6, -, rfl⟩ := Checked.and_eq_valid.1 h7
  obtain ⟨_, tags, h5, -, rfl⟩ := Checked.and_eq_valid.1 h6
  obtain ⟨_, description, h4, -, rfl⟩ := Checked.and_eq_valid.1 h5
  obtain ⟨_, name, h3, -, rfl⟩ := Checked.and_eq_valid.1 h4
  obtain ⟨_, organizationId, h2, -, rfl⟩ := Checked.and_eq_valid.1 h3
  obtain ⟨_, storeId, h1, -, rfl⟩ := Checked.and_eq_valid.1 h2
  obtain ⟨_, id, h0, -, rfl⟩ := Checked.and_eq_valid.1 h1
  cases h0
  obtain ⟨_, hread⟩ := required_eq_valid htrigger
  exact kind_mem_of_readTrigger hread

/-- **An accepted document has a normal form, which reproduces itself.** The
workflow that is read from it is written as a document that is accepted, that
is read as the same workflow, and that is written again as it is. -/
theorem normalize_reproduces {doc : Json} {w : Workflow} (h : readWorkflow doc = .valid w)
    (hfinite : w.isFinite = true) :
    ∃ out, normalize doc = .ok out ∧ readWorkflow out = .valid w ∧ normalize out = .ok out := by
  obtain ⟨out, hout, hread⟩ := readWorkflow_survives h hfinite
  refine ⟨out, ?_, hread, ?_⟩
  · rw [normalize, h]
    exact hout
  · rw [normalize, hread]
    exact hout

/-- A document in other spellings than those that are written. -/
def mixedDocument : Json := .obj [
  ("id", .str "w-1"), ("store_id", .str "store-1"), ("name", .str "Restock"), ("version", .str "+2"),
  ("trigger", .obj [("type", .str "schedule"), ("schedule", .obj [("type", .str "weekly"),
    ("time", .str "9:30"), ("day_of_week", .str "01"), ("next_run", .str "2025-01-06 09:30:00,5+0230")])]),
  ("actions", .arr [.obj [("type", .str "condition"), ("order", .bool true), ("config", .obj [
    ("condition", .obj [("field", .str "stock"), ("operator", .str "less_than"), ("value", .int 5)]),
    ("then_actions", .arr [.obj [("type", .str "email"), ("continue_on_error", .str "Yes"),
      ("config", .obj [("to", .str "a@example.com")])]])])]]),
  ("created_at", .int 1736150400)]

def mixedWorkflow : Workflow where
  id := "w-1"
  storeId := "store-1"
  name := "Restock"
  version := 2
  trigger := ⟨.schedule, [], some ⟨.weekly, some "9:30", some 1, none, none,
    some ⟨⟨63871839000500000⟩, some 9000⟩⟩⟩
  actions := [.branch ⟨1, false⟩ (some ⟨"stock", "less_than", .int 5⟩)
    [.task ⟨0, true⟩ (.email ["a@example.com"] "" "")] []]
  createdAt := some ⟨⟨63871833600000000⟩, some 0⟩

/-- A branch, a schedule and timestamps in other spellings reach their normal form. -/
theorem normalize_reproduces_mixed :
    readWorkflow mixedDocument = .valid mixedWorkflow ∧ mixedWorkflow.isFinite = true
      ∧ ∃ out, normalize mixedDocument = .ok out ∧ readWorkflow out = .valid mixedWorkflow
        ∧ normalize out = .ok out := by
  have hread : readWorkflow mixedDocument = .valid mixedWorkflow := rfl
  have hfinite : mixedWorkflow.isFinite = true := rfl
  exact ⟨hread, hfinite, normalize_reproduces hread hfinite⟩

end Document
end Automation
