/-
# Deleting among other writes

Callers share one table and save no definitions; they switch workflows on or
off, set next runs, record executions and delete workflows. To switch a
workflow is to read it, unless it is deleted, and to write the copy back
later (`Table.Deed`).

Whether a workflow is deleted, and whether it is active, is what the last
deletion or write-back left (`Table.Course.marks`): a copy never is
deleted, so a workflow that is deleted between the two transactions comes
back with the second. Without such a copy in hand nothing brings it back
(`Table.Course.marks_of_unheld`).

Key definitions: `Marks`, `Table.marks`, `Table.Deed`, `Table.Does`,
`Table.Course`.
Key theorems: `Table.Does.transaction`, `Table.Does.marks`,
`Table.Course.marks`, `Table.Course.marks_of_unheld`,
`Table.marks_of_mem_activeFor`, `Table.Course.marks_after_softDelete`.
-/
import Automation.Proofs.Engine.Queries
import Automation.Proofs.Table.Transactions

namespace Automation

/-- What is stored of whether a workflow may run. -/
structure Marks where
  isDeleted : Bool
  isActive : Bool
deriving DecidableEq

namespace Marks

/-- The marks that a deletion leaves. -/
def deleted : Marks := ⟨true, false⟩

/-- The marks of a workflow that events and schedules may run. -/
def executable : Marks := ⟨false, true⟩

end Marks

namespace Definition

def marks (d : Definition) : Marks := ⟨d.isDeleted, d.isActive⟩

theorem marks_eq_executable {d : Definition} : d.marks = .executable ↔ d.isExecutable = true := by
  simp [marks, Marks.executable, isExecutable, and_comm]

theorem marks_ofWorkflow {w : Workflow} {nextRun : Option Instant} {d : Definition}
    (h : ofWorkflow w nextRun = .ok d) : d.marks = ⟨w.isDeleted, w.isActive⟩ := by
  obtain ⟨_, _, h⟩ := Except.of_bind_eq_ok h
  obtain ⟨_, _, h⟩ := Except.of_bind_eq_ok h
  cases h
  rfl

end Definition

namespace Table

open Engine

/-- The marks of a workflow, if it is stored. -/
def marks (t : Table) (id : String) : Option Marks := (t.find? id).map (·.definition.marks)

/-! ### What callers do -/

/-- What one transaction is for. -/
inductive Deed where
  /-- To read a workflow that is to be switched. -/
  | read (id : String) (active : Bool)
  /-- To write a copy back. -/
  | writeBack (copy : Workflow)
  /-- To give a copy up. -/
  | drop (copy : Workflow)
  | setNextRun (id : String) (nextRun : Option Instant)
  | softDelete (id : String)
  | record (r : Recording)

/-- The marks with which a deed leaves a workflow, if it decides them. -/
def Deed.leaves (id : String) : Deed → Option Marks
  | .writeBack copy => if copy.id = id then some ⟨false, copy.isActive⟩ else none
  | .softDelete other => if other = id then some .deleted else none
  | _ => none

/-- One transaction that takes place. -/
inductive Does : Shared → Deed → Shared → Prop where
  | read {s : Shared} {id : String} {w : Workflow} (active : Bool) :
      s.table.undeleted id = .ok w →
      Does s (.read id active) { s with copies := { w with isActive := active } :: s.copies }
  /-- A copy is written back, however old it is. -/
  | writeBack {s : Shared} {before after : List Workflow} {zone : Zone} {now : Instant}
      {w saved : Workflow} {table : Table} :
      s.copies = before ++ w :: after → s.table.save zone now w = .ok (saved, table) →
      Does s (.writeBack w) ⟨table, before ++ after⟩
  | drop {s : Shared} {before after : List Workflow} {w : Workflow} :
      s.copies = before ++ w :: after → Does s (.drop w) { s with copies := before ++ after }
  | setNextRun {s : Shared} (id : String) (nextRun : Option Instant) :
      Does s (.setNextRun id nextRun) { s with table := s.table.setNextRun id nextRun }
  | softDelete {s : Shared} {id : String} {table : Table} :
      s.table.softDelete id = .ok table → Does s (.softDelete id) { s with table }
  | record {s : Shared} (r : Recording) {table : Table} :
      s.table.record r.workflowId r.success r.error r.endedAt = .ok table →
      Does s (.record r) { s with table }

/-- Any number of transactions, in any order. -/
inductive Course : Shared → List Deed → Shared → Prop where
  | nil {s : Shared} : Course s [] s
  | step {s s' s'' : Shared} {deeds : List Deed} {deed : Deed} :
      Course s deeds s' → Does s' deed s'' → Course s (deeds ++ [deed]) s''

variable {s s' s₁ : Shared} {t t' : Table} {deed : Deed} {deeds before after : List Deed}
  {id : String}

/-- These are the transactions of `Transaction` but for saving a definition. -/
theorem Does.transaction (h : Does s deed s') : ∃ recorded, Transaction s recorded s' := by
  cases h with
  | read active hread => exact ⟨_, .read active hread⟩
  | writeBack hcopies hsave => exact ⟨_, .writeBack hcopies hsave⟩
  | drop hcopies => exact ⟨_, .drop hcopies⟩
  | setNextRun id nextRun => exact ⟨_, .setNextRun id nextRun⟩
  | softDelete hdelete => exact ⟨_, .softDelete hdelete⟩
  | record r hrecord => exact ⟨_, .record r hrecord⟩

/-! ### Copies -/

/-- A workflow that is read to be switched is not deleted then. -/
theorem undeleted_eq_ok {w : Workflow} (h : t.undeleted id = .ok w) :
    w.id = id ∧ w.isDeleted = false ∧ t.marks id ≠ some .deleted := by
  obtain ⟨found, hget, h⟩ := Except.of_bind_eq_ok h
  cases found with
  | none => cases h
  | some v =>
    obtain ⟨r, hr, hread⟩ := get_eq_ok hget
    obtain ⟨hid, -, -, hdeleted, -⟩ := Row.fields_of_workflow hread
    simp only at h
    split at h
    · cases h
    · rename_i hv
      have hundeleted : v.isDeleted = false := by simpa using hv
      have hrow : r.definition.isDeleted = false := hdeleted ▸ hundeleted
      cases h
      refine ⟨hid.trans (id_of_find? hr), hundeleted, fun hmarks => ?_⟩
      rw [marks, hr] at hmarks
      have hsame : r.definition.marks = .deleted := Option.some.inj hmarks
      have htrue : r.definition.isDeleted = true := congrArg Marks.isDeleted hsame
      exact Bool.noConfusion (hrow.symm.trans htrue)

/-- Ids are distinct, and no copy is deleted. -/
structure Shared.Sound (s : Shared) : Prop where
  distinct : s.table.Distinct
  undeleted : ∀ w ∈ s.copies, w.isDeleted = false

/-- To begin with no copy is in hand. -/
theorem Distinct.sound (h : t.Distinct) : Shared.Sound ⟨t, []⟩ := ⟨h, fun _ hw => nomatch hw⟩

/-- The other copies stay when one is used up. -/
theorem Shared.mem_of_rest {before after : List Workflow} {w v : Workflow}
    (h : s.copies = before ++ w :: after) (hv : v ∈ before ++ after) : v ∈ s.copies :=
  h ▸ ((List.Sublist.refl _).middle w).subset hv

theorem Does.sound (h : Does s deed s') (hs : s.Sound) : s'.Sound := by
  cases h with
  | read active hread =>
    refine ⟨hs.distinct, fun w hw => ?_⟩
    rcases List.mem_cons.1 hw with rfl | hw
    · exact (undeleted_eq_ok hread).2.1
    · exact hs.undeleted w hw
  | writeBack hcopies hsave =>
    exact ⟨hs.distinct.save hsave, fun w hw => hs.undeleted w (Shared.mem_of_rest hcopies hw)⟩
  | drop hcopies => exact ⟨hs.distinct, fun w hw => hs.undeleted w (Shared.mem_of_rest hcopies hw)⟩
  | setNextRun id nextRun => exact ⟨hs.distinct.setNextRun id nextRun, hs.undeleted⟩
  | softDelete hdelete => exact ⟨hs.distinct.softDelete hdelete, hs.undeleted⟩
  | record r hrecord => exact ⟨hs.distinct.record hrecord, hs.undeleted⟩

theorem Course.sound (h : Course s deeds s') (hs : s.Sound) : s'.Sound := by
  induction h with
  | nil => exact hs
  | step _ hdoes ih => exact hdoes.sound ih

/-! ### Marks -/

/-- A write of one row decides the marks of its workflow, and no others. -/
theorem Wrote.marks {r : Row} (h : Wrote t t' r) (id : String) :
    t'.marks id = if id = r.id then some r.definition.marks else t.marks id := by
  rw [Table.marks, h.find?_eq]
  split <;> rfl

theorem marks_setNextRun (t : Table) (id other : String) (nextRun : Option Instant) :
    (t.setNextRun id nextRun).marks other = t.marks other := by
  rw [marks, find?_setNextRun, marks, Option.map_map]
  congr 1
  funext r
  simp only [Function.comp_apply]
  split <;> rfl

/-- **What one transaction does to the marks of a workflow.** -/
theorem Does.marks (h : Does s deed s') (hs : s.Sound) (id : String) :
    s'.table.marks id = (deed.leaves id).or (s.table.marks id) := by
  cases h with
  | read | drop => rfl
  | setNextRun other nextRun => exact marks_setNextRun s.table other id nextRun
  | @writeBack _ _ zone now copy saved table hcopies hsave =>
    obtain ⟨nextRun, d, -, hd, -, hwrote⟩ := save_eq_ok hsave
    have hundeleted := hs.undeleted copy (by simp [hcopies])
    rw [hwrote.marks, Deed.leaves, Definition.marks_ofWorkflow hd, hundeleted]
    by_cases hid : copy.id = id
    · rw [if_pos hid, if_pos hid.symm, Option.some_or]
    · rw [if_neg hid, if_neg (Ne.symm hid), Option.none_or]
  | @softDelete other table hdelete =>
    obtain ⟨r, hr, hwrote⟩ := softDelete_eq_ok hdelete
    rw [hwrote.marks, Deed.leaves, id_of_find? hr]
    by_cases hid : other = id
    · rw [if_pos hid, if_pos hid.symm, Option.some_or]
      rfl
    · rw [if_neg hid, if_neg (Ne.symm hid), Option.none_or]
  | record r hrecord =>
    obtain ⟨old, hold, hwrote⟩ := record_eq_ok hrecord
    rw [hwrote.marks]
    by_cases hid : id = old.id
    · rw [if_pos hid, Table.marks, hid, find?_self hold]
      rfl
    · rw [if_neg hid]
      rfl

/-- **The last deed that decides the marks of a workflow decides them.** -/
theorem Course.marks (h : Course s deeds s') (hs : s.Sound) (id : String) :
    s'.table.marks id = (deeds.reverse.findSome? (Deed.leaves id)).or (s.table.marks id) := by
  induction h with
  | nil => rfl
  | step hcourse hdoes ih =>
    rw [hdoes.marks (hcourse.sound hs), ih, List.reverse_append, List.findSome?_append,
      Option.or_assoc, List.reverse_singleton, List.findSome?_singleton]

/-! ### What is given to run -/

variable {picks : Row → Bool} {first : Row → Row → Bool} {ws : List Workflow}

/-- A query for executable rows gives workflows with such marks. -/
theorem marks_of_mem_query (hids : t.Distinct)
    (hpicks : ∀ r, picks r = true → r.definition.isExecutable = true)
    (h : t.query picks first = .ok ws) {w : Workflow} (hw : w ∈ ws) :
    t.marks w.id = some .executable := by
  obtain ⟨r, hmem, hpicked, hread⟩ := (mem_query h).1 hw
  have hfound : t.find? r.id = some r := hids.find?_of_mem hmem
  rw [(Row.fields_of_workflow hread).1, marks, hfound, Option.map_some,
    Definition.marks_eq_executable.2 (hpicks r hpicked)]

/-- A trigger that is asked for is one that there is. -/
theorem isSome_ofName?_of_activeFor {storeId trigger : String}
    (h : t.activeFor storeId trigger = .ok ws) : (TriggerKind.ofName? trigger).isSome = true := by
  obtain ⟨kind, hkind, -⟩ := Except.of_bind_eq_ok h
  unfold triggerNamed at hkind
  split at hkind
  · rename_i found hfound
    rw [hfound]
    rfl
  · cases hkind

theorem marks_of_mem_activeFor (hids : t.Distinct) {storeId trigger : String}
    (h : t.activeFor storeId trigger = .ok ws) {w : Workflow} (hw : w ∈ ws) :
    t.marks w.id = some .executable := by
  rw [activeFor_eq t storeId (isSome_ofName?_of_activeFor h)] at h
  refine marks_of_mem_query hids (fun r hr => ?_) h hw
  simp only [isActiveFor, Bool.and_eq_true] at hr
  exact hr.1.1

theorem marks_of_mem_dueAt (hids : t.Distinct) {now : Instant} (h : t.dueAt now = .ok ws)
    {w : Workflow} (hw : w ∈ ws) : t.marks w.id = some .executable := by
  refine marks_of_mem_query hids (fun r hr => ?_) ((dueAt_eq t now).symm.trans h) hw
  simp only [isDue, Bool.and_eq_true] at hr
  exact hr.1.1

/-- A workflow that is executable is found by events of its kind in its store. -/
theorem mem_activeFor {r : Row} (hr : t.find? id = some r)
    (hexecutable : r.definition.isExecutable = true)
    (h : t.activeFor r.definition.storeId r.definition.triggerName = .ok ws) :
    id ∈ ws.map (·.id) := by
  rw [activeFor_eq t _ (isSome_ofName?_of_activeFor h)] at h
  have hpicked : isActiveFor r.definition.storeId r.definition.triggerName r = true := by
    simp [isActiveFor, hexecutable]
  have hmem : r ∈ t.rows := List.mem_of_find?_eq_some hr
  obtain ⟨w, hw, hread⟩ :=
    exists_of_forall₂ (forall₂_of_workflows h).flip r (mem_sorted.2 ⟨hmem, hpicked⟩)
  exact List.mem_map.2 ⟨w, hw, (Row.fields_of_workflow hread).1.trans (id_of_find? hr)⟩

/-! ### After a deletion -/

/-- No copy of a workflow is in hand. -/
def Shared.Unheld (s : Shared) (id : String) : Prop := ∀ w ∈ s.copies, w.id ≠ id

/-- While a workflow is deleted no copy of it comes into hand, and only a copy
could bring it back. -/
theorem Does.unheld (h : Does s deed s') (hs : s.Sound) (hdeleted : s.table.marks id = some .deleted)
    (hunheld : s.Unheld id) : s'.table.marks id = some .deleted ∧ s'.Unheld id := by
  have hmarks := h.marks hs id
  cases h with
  | @read other w active hread =>
    refine ⟨hdeleted, fun v hv => ?_⟩
    rcases List.mem_cons.1 hv with rfl | hv
    · obtain ⟨hid, -, hundeleted⟩ := undeleted_eq_ok hread
      rintro rfl
      exact hundeleted (hid ▸ hdeleted)
    · exact hunheld v hv
  | @writeBack _ _ _ _ copy _ _ hcopies _ =>
    have hother : copy.id ≠ id := hunheld copy (by simp [hcopies])
    have hleaves : Deed.leaves id (.writeBack copy) = none := if_neg hother
    refine ⟨?_, fun v hv => hunheld v (Shared.mem_of_rest hcopies hv)⟩
    rw [hmarks, hleaves, hdeleted, Option.none_or]
  | drop hcopies => exact ⟨hdeleted, fun v hv => hunheld v (Shared.mem_of_rest hcopies hv)⟩
  | setNextRun | record => exact ⟨hmarks.trans hdeleted, hunheld⟩
  | @softDelete other _ _ =>
    refine ⟨?_, hunheld⟩
    rw [hmarks, Deed.leaves, hdeleted]
    split <;> rfl

/-- **Deleted for good.** If no copy of a workflow is in hand when it is
deleted, it stays deleted. -/
theorem Course.marks_of_unheld (h : Course s deeds s') (hs : s.Sound)
    (hdeleted : s.table.marks id = some .deleted) (hunheld : s.Unheld id) :
    s'.table.marks id = some .deleted ∧ s'.Unheld id := by
  induction h with
  | nil => exact ⟨hdeleted, hunheld⟩
  | step hcourse hdoes ih =>
    obtain ⟨hstays, hnone⟩ := ih
    exact hdoes.unheld (hcourse.sound hs) hstays hnone

/-- **What becomes of a deleted workflow.** At any time after a workflow was
deleted its marks are those that the last write-back or deletion of it left;
without one it is deleted. If those are of a workflow that may run, events of
its kind in its store find it again, and otherwise no event and no tick does.
If no copy of it was in hand when it was deleted, it is deleted for good. -/
theorem Course.marks_after_softDelete (hids : t.Distinct) (hbefore : Course ⟨t, []⟩ before s)
    (hdelete : Does s (.softDelete id) s₁) (hafter : Course s₁ after s') :
    let last := (after.reverse.findSome? (Deed.leaves id)).getD .deleted
    s'.table.marks id = some last
      ∧ (∀ storeId trigger ws, s'.table.activeFor storeId trigger = .ok ws →
        id ∈ ws.map (·.id) → last = .executable)
      ∧ (∀ now ws, s'.table.dueAt now = .ok ws → id ∈ ws.map (·.id) → last = .executable)
      ∧ (last = .executable → ∀ r, s'.table.find? id = some r → ∀ ws,
        s'.table.activeFor r.definition.storeId r.definition.triggerName = .ok ws →
        id ∈ ws.map (·.id))
      ∧ ((∀ w ∈ s.copies, w.id ≠ id) → last = .deleted) := by
  intro last
  have hs : s.Sound := hbefore.sound hids.sound
  have hs₁ : s₁.Sound := hdelete.sound hs
  have hs' : s'.Sound := hafter.sound hs₁
  have hdeleted : s₁.table.marks id = some .deleted := by
    rw [hdelete.marks hs, Deed.leaves, if_pos rfl, Option.some_or]
  have hmarks : s'.table.marks id = some last := by
    rw [hafter.marks hs₁, hdeleted, Option.or_some]
  refine ⟨hmarks, fun storeId trigger ws hws hmem => ?_, fun now ws hws hmem => ?_,
    fun hlast r hr ws hws => ?_, fun hunheld => ?_⟩
  · obtain ⟨w, hw, rfl⟩ := List.mem_map.1 hmem
    exact Option.some.inj (hmarks.symm.trans (marks_of_mem_activeFor hs'.distinct hws hw))
  · obtain ⟨w, hw, rfl⟩ := List.mem_map.1 hmem
    exact Option.some.inj (hmarks.symm.trans (marks_of_mem_dueAt hs'.distinct hws hw))
  · have hexecutable : r.definition.isExecutable = true := by
      rw [Table.marks, hr, hlast] at hmarks
      exact Definition.marks_eq_executable.1 (Option.some.inj hmarks)
    exact mem_activeFor hr hexecutable hws
  · have hcopies : s₁.copies = s.copies := by
      cases hdelete
      rfl
    have hunheld₁ : s₁.Unheld id := fun w hw => hunheld w (hcopies ▸ hw)
    obtain ⟨hstays, -⟩ := hafter.marks_of_unheld hs₁ hdeleted hunheld₁
    exact Option.some.inj (hmarks.symm.trans hstays)

/-- A workflow is deleted between the two transactions that switch it on, and
an event finds it again. -/
theorem Course.marks_after_softDelete_writeBack :
    let row (active deleted : Bool) : Row := ⟨"w-1", ⟨0⟩, ⟨"store", none, "Notify", none, [], 1,
      active, deleted, "sale.created", [], .null, none, .arr [], none⟩, {}⟩
    ∃ copy s s₁ s', copy.isActive = true
      ∧ Course ⟨⟨[row false false]⟩, []⟩ [.read "w-1" true] s ∧ Does s (.softDelete "w-1") s₁
      ∧ s₁.table.marks "w-1" = some .deleted ∧ Course s₁ [.writeBack copy] s'
      ∧ s'.table.marks "w-1" = some .executable
      ∧ ∃ ws, s'.table.activeFor "store" "sale.created" = .ok ws ∧ "w-1" ∈ ws.map (·.id) := by
  intro row
  let copy : Workflow := {
    id := "w-1", storeId := "store", name := "Notify", trigger := ⟨.saleCreated, [], none⟩
    createdAt := some (.ofInstant ⟨0⟩) }
  have hread : Table.undeleted ⟨[row false false]⟩ "w-1" = .ok { copy with isActive := false } := rfl
  have hdelete : Table.softDelete ⟨[row false false]⟩ "w-1" = .ok ⟨[row false true]⟩ := rfl
  have hsave : Table.save ⟨[row false true]⟩ .utc ⟨0⟩ copy = .ok (_, ⟨[row true false]⟩) := rfl
  have hbefore : Course ⟨⟨[row false false]⟩, []⟩ [.read "w-1" true] ⟨⟨[row false false]⟩, [copy]⟩ :=
    Course.nil.step (@Does.read ⟨_, []⟩ _ _ true hread)
  have hdoes : Does ⟨⟨[row false false]⟩, [copy]⟩ (.softDelete "w-1") ⟨⟨[row false true]⟩, [copy]⟩ :=
    .softDelete hdelete
  have hafter : Course ⟨⟨[row false true]⟩, [copy]⟩ [.writeBack copy] ⟨⟨[row true false]⟩, []⟩ :=
    Course.nil.step (@Does.writeBack _ [] [] _ _ _ _ _ rfl hsave)
  have hids : (Table.mk [row false false]).Distinct := List.nodup_singleton _
  obtain ⟨hmarks, -, -, hfound, -⟩ := Course.marks_after_softDelete hids hbefore hdoes hafter
  have hactive : Table.activeFor ⟨[row true false]⟩ "store" "sale.created" = .ok [copy] := by
    rw [activeFor_eq _ _ rfl, query, List.filter_cons_of_pos (by decide), List.filter_nil,
      List.mergeSort_singleton]
    rfl
  exact ⟨copy, _, _, _, rfl, hbefore, hdoes, rfl, hafter, hmarks, _, hactive,
    hfound rfl (row true false) rfl _ hactive⟩

end Table

end Automation
