/-
# Conditions, schedules, triggers and statistics survive writing

The parts of a workflow document other than its actions. Each part that has
been read can be written, and what is written is read as the same part; of a
condition this holds if the doubles in its value are finite, since a document
has no place for others.

Key definitions: `Condition.isFinite`.
Key theorems: `Document.readTimestamp_rereads`, `Document.readCondition_survives`,
`Document.readSchedule_survives`, `Document.readTrigger_survives`,
`Document.readStats_rereads`.
-/
import Automation.Proofs.Calendar.Wire
import Automation.Proofs.Document.Checked

namespace Automation

/-! ### Finite values -/

mutual

/-- A value whose doubles are finite is written as it is. -/
theorem Json.finite_eq : (v : Json) → v.isFinite = true → v.finite = v
  | .null, _ => rfl
  | .bool _, _ => rfl
  | .int _, _ => rfl
  | .float x, h => by
    rw [Json.isFinite] at h
    rw [Json.finite, if_pos h]
  | .str _, _ => rfl
  | .arr items, h => by
    rw [Json.isFinite] at h
    rw [Json.finite, Json.finiteItems_eq items h]
  | .obj members, h => by
    rw [Json.isFinite] at h
    rw [Json.finite, Json.finiteMembers_eq members h]

theorem Json.finiteItems_eq : (items : List Json) → Json.areFinite items = true →
    Json.finiteItems items = items
  | [], _ => rfl
  | v :: items, h => by
    rw [Json.areFinite, Bool.and_eq_true] at h
    rw [Json.finiteItems, Json.finite_eq v h.1, Json.finiteItems_eq items h.2]

theorem Json.finiteMembers_eq : (members : List (String × Json)) →
    Json.membersAreFinite members = true → Json.finiteMembers members = members
  | [], _ => rfl
  | (name, v) :: members, h => by
    rw [Json.membersAreFinite, Bool.and_eq_true] at h
    rw [Json.finiteMembers, Json.finite_eq v h.1, Json.finiteMembers_eq members h.2]

end

/-- Whether every double in the value of a condition is finite. -/
def Condition.isFinite (c : Condition) : Bool := c.value.isFinite

namespace Document

open Checked (valid)

/-! ### Timestamps -/

/-- What is read of a timestamp is legible. -/
theorem legible_of_readTimestamp {v : Json} {t : Timestamp} (h : readTimestamp v = .valid t) :
    t.Legible := by
  unfold readTimestamp at h
  dsimp only at h
  split at h
  · rename_i u hu
    cases h
    cases v with
    | str s => exact Timestamp.legible_of_readText (Option.some.inj hu)
    | int n => exact Timestamp.legible_of_ofInt (Option.some.inj hu)
    | float x => exact Timestamp.legible_of_ofDouble (Option.some.inj hu)
    | _ => cases hu
  · cases h
  · cases h

theorem readTimestamp_rereads : Rereads readTimestamp (fun t => .str t.wireText) := by
  intro v t hv
  rw [readTimestamp]
  simp only [Timestamp.readText_wireText (legible_of_readTimestamp hv)]

/-! ### Values that may be missing -/

theorem nullableBounded_rereads (least : Int) (most : Option Int) :
    Rereads (nullable (readBounded least most)) Json.ofInt? :=
  (readBounded_rereads least most).nullable rfl (fun _ => rfl) (by simp)

theorem nullableTimestamp_rereads : Rereads (nullable readTimestamp) writeTimestamp :=
  readTimestamp_rereads.nullable rfl (fun _ => rfl) (by simp)

/-! ### Conditions -/

theorem readCondition_survives {v : Json} {c : Condition} (h : readCondition v = .valid c)
    (hfinite : c.isFinite = true) : Survives writeCondition readCondition c := by
  obtain ⟨ms, rfl, h⟩ := readRecord_eq_valid h
  obtain ⟨_, value, h2, -, rfl⟩ := Checked.and_eq_valid.1 h
  obtain ⟨_, operator, h1, hoperator, rfl⟩ := Checked.and_eq_valid.1 h2
  obtain ⟨_, field, h0, hfield, rfl⟩ := Checked.and_eq_valid.1 h1
  cases h0
  have hfield := (readSizedText_rereads 1 none).required hfield
  have hoperator := (readNamed_rereads Operator.all Operator.name).required hoperator
  have hvalue := Json.finite_eq value hfinite
  refine ⟨.obj [("field", .str field), ("operator", .str operator.name), ("value", value)], ?_, ?_⟩
  · simp [writeCondition, checkCondition, hfield, hoperator, hvalue, accept, Checked.and, Checked.within]
  · rw [readCondition, readRecord, required_of_lookup rfl hfield, required_of_lookup rfl hoperator,
      optional_of_lookup rfl rfl]
    rfl

/-! ### Schedules -/

theorem checkOptional_of_rereads {name : String} {least : Int} {most n : Option Int}
    (h : nullable (readBounded least most) (Json.ofInt? n) = .valid n) :
    checkOptional name least most n = .valid () := by
  cases n with
  | none => rfl
  | some n =>
    have hbounds : checkBounds least most n = .valid n := nullable_eq_valid h n rfl
    rw [checkOptional, hbounds]
    rfl

theorem readSchedule_survives {v : Json} {s : Schedule} (h : readSchedule v = .valid s) :
    ∃ out, writeSchedule (some s) = .ok out ∧ readSchedule out = .valid s := by
  obtain ⟨ms, rfl, h⟩ := readRecord_eq_valid h
  obtain ⟨h, hfit⟩ := Checked.ensure_eq_valid.1 h
  obtain ⟨_, nextRun, h5, hnextRun, rfl⟩ := Checked.and_eq_valid.1 h
  obtain ⟨_, cronExpression, h4, -, rfl⟩ := Checked.and_eq_valid.1 h5
  obtain ⟨_, dayOfMonth, h3, hmonthday, rfl⟩ := Checked.and_eq_valid.1 h4
  obtain ⟨_, dayOfWeek, h2, hweekday, rfl⟩ := Checked.and_eq_valid.1 h3
  obtain ⟨_, time, h1, -, rfl⟩ := Checked.and_eq_valid.1 h2
  obtain ⟨_, kind, h0, hkind, rfl⟩ := Checked.and_eq_valid.1 h1
  cases h0
  have hkind := (readNamed_rereads ScheduleKind.all ScheduleKind.name).required hkind
  have hweekday := (nullableBounded_rereads 0 (some 6)).optional rfl hweekday
  have hmonthday := (nullableBounded_rereads 1 (some 31)).optional rfl hmonthday
  have hnextRun := nullableTimestamp_rereads.optional rfl hnextRun
  have hcheck : checkSchedule ⟨kind, time, dayOfWeek, dayOfMonth, cronExpression, nextRun⟩
      = .valid ⟨kind, time, dayOfWeek, dayOfMonth, cronExpression, nextRun⟩ := by
    refine Checked.ensure_eq_valid.2 ⟨?_, hfit⟩
    rw [hkind, checkOptional_of_rereads hweekday, checkOptional_of_rereads hmonthday]
    rfl
  refine ⟨.obj (scheduleFields ⟨kind, time, dayOfWeek, dayOfMonth, cronExpression, nextRun⟩
    ++ [("nextRun", writeTimestamp nextRun)]), ?_, ?_⟩
  · rw [writeSchedule, hcheck]
    rfl
  · refine Checked.ensure_eq_valid.2 ⟨?_, hfit⟩
    rw [required_of_lookup rfl hkind, optional_of_lookup rfl (nullableText_written time),
      optional_of_lookup rfl hweekday, optional_of_lookup rfl hmonthday,
      optional_of_lookup rfl (nullableText_written cronExpression), optional_of_lookup rfl hnextRun]
    rfl

/-- A schedule that has been read is of a kind that has runs. -/
theorem kind_mem_of_readSchedule {v : Json} {s : Schedule} (h : readSchedule v = .valid s) :
    s.kind ∈ ScheduleKind.all := by
  obtain ⟨ms, rfl, h⟩ := readRecord_eq_valid h
  obtain ⟨h, -⟩ := Checked.ensure_eq_valid.1 h
  obtain ⟨_, nextRun, h5, -, rfl⟩ := Checked.and_eq_valid.1 h
  obtain ⟨_, cronExpression, h4, -, rfl⟩ := Checked.and_eq_valid.1 h5
  obtain ⟨_, dayOfMonth, h3, -, rfl⟩ := Checked.and_eq_valid.1 h4
  obtain ⟨_, dayOfWeek, h2, -, rfl⟩ := Checked.and_eq_valid.1 h3
  obtain ⟨_, time, h1, -, rfl⟩ := Checked.and_eq_valid.1 h2
  obtain ⟨_, kind, h0, hkind, rfl⟩ := Checked.and_eq_valid.1 h1
  cases h0
  obtain ⟨_, hkind⟩ := required_eq_valid hkind
  exact mem_of_readNamed hkind

/-! ### Triggers -/

theorem kind_mem_of_readTrigger {v : Json} {t : Trigger} (h : readTrigger v = .valid t) :
    ∀ s ∈ t.schedule, s.kind ∈ ScheduleKind.all := by
  obtain ⟨ms, rfl, h⟩ := readRecord_eq_valid h
  obtain ⟨h, -⟩ := Checked.ensure_eq_valid.1 h
  obtain ⟨_, schedule, h2, hschedule, rfl⟩ := Checked.and_eq_valid.1 h
  obtain ⟨_, conditions, h1, -, rfl⟩ := Checked.and_eq_valid.1 h2
  obtain ⟨_, kind, h0, -, rfl⟩ := Checked.and_eq_valid.1 h1
  cases h0
  intro s hs
  obtain ⟨_, hread⟩ := optional_nullable_eq_valid hschedule s hs
  exact kind_mem_of_readSchedule hread

theorem readTrigger_survives {v : Json} {t : Trigger} (h : readTrigger v = .valid t)
    (hfinite : ∀ c ∈ t.conditions, c.isFinite = true) : Survives writeTrigger readTrigger t := by
  obtain ⟨ms, rfl, h⟩ := readRecord_eq_valid h
  obtain ⟨h, hfit⟩ := Checked.ensure_eq_valid.1 h
  obtain ⟨_, schedule, h2, hschedule, rfl⟩ := Checked.and_eq_valid.1 h
  obtain ⟨_, conditions, h1, hconditions, rfl⟩ := Checked.and_eq_valid.1 h2
  obtain ⟨_, kind, h0, hkind, rfl⟩ := Checked.and_eq_valid.1 h1
  cases h0
  have hkind := (readNamed_rereads TriggerKind.all TriggerKind.name).required hkind
  have hconditions : ∀ c ∈ conditions, Survives writeCondition readCondition c := by
    intro c hc
    rcases optional_eq_valid hconditions with rfl | ⟨v, hv⟩
    · cases hc
    · obtain ⟨item, hitem⟩ := readList_mem hv c hc
      exact readCondition_survives hitem (hfinite c hc)
  obtain ⟨items, hitems, hreads⟩ := mapM_survives conditions hconditions
  have hschedule : ∃ out, writeSchedule schedule = .ok out
      ∧ nullable readSchedule out = .valid schedule := by
    cases schedule with
    | none => exact ⟨.null, rfl, rfl⟩
    | some s =>
      obtain ⟨v, hv⟩ := optional_nullable_eq_valid hschedule s rfl
      obtain ⟨out, hout, hread⟩ := readSchedule_survives hv
      have hnull : out ≠ .null := by
        rintro rfl
        cases hread
      exact ⟨out, hout, nullable_of_eq_valid hnull hread⟩
  obtain ⟨out, hout, hread⟩ := hschedule
  have hfits : (valid (⟨kind, conditions, schedule⟩ : Trigger)).ensure unfitTrigger?
      = .valid ⟨kind, conditions, schedule⟩ := Checked.ensure_eq_valid.2 ⟨rfl, hfit⟩
  refine ⟨.obj [("type", .str kind.name), ("conditions", .arr items), ("schedule", out)], ?_, ?_⟩
  · rw [writeTrigger, hitems, hout, hfits]
    rfl
  · have hlist : readList readCondition (.arr items) = .valid conditions := hreads 0
    refine Checked.ensure_eq_valid.2 ⟨?_, hfit⟩
    rw [required_of_lookup rfl hkind, optional_of_lookup rfl hlist, optional_of_lookup rfl hread]
    rfl

/-! ### Statistics -/

theorem readLastError_rereads : Rereads readLastError (fun e => writeLastError (some e)) := by
  intro v e h
  obtain ⟨ms, rfl, h⟩ := readRecord_eq_valid h
  obtain ⟨_, details, h2, -, rfl⟩ := Checked.and_eq_valid.1 h
  obtain ⟨_, timestamp, h1, htimestamp, rfl⟩ := Checked.and_eq_valid.1 h2
  obtain ⟨_, message, h0, -, rfl⟩ := Checked.and_eq_valid.1 h1
  cases h0
  have htimestamp := readTimestamp_rereads.required htimestamp
  show readLastError (.obj [("message", .str message), ("timestamp", .str timestamp.wireText),
    ("details", Json.ofText? details)]) = _
  rw [readLastError, readRecord, required_of_lookup rfl (readText_str message),
    required_of_lookup rfl htimestamp, optional_of_lookup rfl (nullableText_written details)]
  rfl

theorem nullableLastError_rereads : Rereads (nullable readLastError) writeLastError :=
  readLastError_rereads.nullable rfl (fun _ => rfl) (by simp [writeLastError])

theorem readStats_rereads : Rereads readStats writeStats := by
  intro v s h
  obtain ⟨ms, rfl, h⟩ := readRecord_eq_valid h
  obtain ⟨_, lastError, h4, hlastError, rfl⟩ := Checked.and_eq_valid.1 h
  obtain ⟨_, lastExecutedAt, h3, hlast, rfl⟩ := Checked.and_eq_valid.1 h4
  obtain ⟨_, failed, h2, -, rfl⟩ := Checked.and_eq_valid.1 h3
  obtain ⟨_, successful, h1, -, rfl⟩ := Checked.and_eq_valid.1 h2
  obtain ⟨_, total, h0, -, rfl⟩ := Checked.and_eq_valid.1 h1
  cases h0
  have hlast := nullableTimestamp_rereads.optional rfl hlast
  have hlastError := nullableLastError_rereads.optional rfl hlastError
  rw [writeStats, readStats, readRecord, optional_of_lookup rfl (readInteger_int total),
    optional_of_lookup rfl (readInteger_int successful), optional_of_lookup rfl (readInteger_int failed),
    optional_of_lookup rfl hlast, optional_of_lookup rfl hlastError]
  rfl

end Document
end Automation
