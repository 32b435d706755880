/-
# What has been written stays as it is

Wherever a value comes from, if it can be written, what is written of it is
read as its finite form: the same value, with null for every double that is
not finite. And the finite form is written in the same way. So a document that
has been written does not change any more, however often what is read of it is
written again.

Key definitions: `Condition.finite`, `Task.finite`, `Action.finite`,
`Document.Normalizes`.
Key theorems: `Document.writeCondition_normalizes`,
`Document.writeAction_normalizes`, `Document.writeActions_normalizes`.
-/
import Automation.Proofs.Document.Actions

namespace Automation

/-! ### Finite forms -/

namespace Json

mutual

theorem isFinite_finite : (v : Json) → v.finite.isFinite = true
  | .null | .bool _ | .int _ | .str _ => rfl
  | .float x => by
    rw [finite]
    split
    · rename_i hx
      rw [isFinite, hx]
    · rfl
  | .arr items => by
    rw [finite, isFinite]
    exact areFinite_finiteItems items
  | .obj members => by
    rw [finite, isFinite]
    exact membersAreFinite_finiteMembers members

theorem areFinite_finiteItems : (items : List Json) → areFinite (finiteItems items) = true
  | [] => rfl
  | v :: items => by
    rw [finiteItems, areFinite, isFinite_finite v, areFinite_finiteItems items]
    rfl

theorem membersAreFinite_finiteMembers : (members : List (String × Json)) →
    membersAreFinite (finiteMembers members) = true
  | [] => rfl
  | (name, v) :: members => by
    rw [finiteMembers, membersAreFinite, isFinite_finite v, membersAreFinite_finiteMembers members]
    rfl

end

theorem finite_finite (v : Json) : v.finite.finite = v.finite := finite_eq _ (isFinite_finite v)

theorem finiteMembers_finiteMembers (members : Members) :
    finiteMembers (finiteMembers members) = finiteMembers members :=
  finiteMembers_eq _ (membersAreFinite_finiteMembers members)

end Json

/-- A condition with a finite value. -/
def Condition.finite (c : Condition) : Condition := { c with value := c.value.finite }

theorem Condition.finite_eq {c : Condition} (h : c.isFinite = true) : c.finite = c := by
  rw [finite, Json.finite_eq c.value h]

namespace Task

/-- A task with finite values in its free parts. -/
def finite : Task → Task
  | .webhook url method headers body => .webhook url method headers body.finite
  | .update entity id updates => .update entity id (Json.finiteMembers updates)
  | .create entity data => .create entity (Json.finiteMembers data)
  | t => t

theorem finite_eq {t : Task} (h : t.isFinite = true) : t.finite = t := by
  cases t with
  | webhook url method headers body => rw [finite, Json.finite_eq body h]
  | update entity id updates => rw [finite, Json.finiteMembers_eq updates h]
  | create entity data => rw [finite, Json.finiteMembers_eq data h]
  | _ => rfl

end Task

namespace Action

mutual

/-- An action with finite values in the free parts, at every depth. -/
def finite : Action → Action
  | .task policy t => .task policy t.finite
  | .branch policy condition thenActions elseActions =>
    .branch policy (condition.map Condition.finite) (finiteAll thenActions) (finiteAll elseActions)

def finiteAll : List Action → List Action
  | [] => []
  | a :: rest => a.finite :: finiteAll rest

end

mutual

theorem finite_eq : (a : Action) → a.isFinite = true → a.finite = a
  | .task policy t, h => by
    rw [isFinite] at h
    rw [finite, Task.finite_eq h]
  | .branch policy condition thenActions elseActions, h => by
    rw [isFinite, Bool.and_eq_true, Bool.and_eq_true] at h
    obtain ⟨⟨hcondition, hthen⟩, helse⟩ := h
    have hsame : condition.map Condition.finite = condition := by
      cases condition with
      | none => rfl
      | some c => exact congrArg some (Condition.finite_eq hcondition)
    rw [finite, hsame, finiteAll_eq thenActions hthen, finiteAll_eq elseActions helse]

theorem finiteAll_eq : (actions : List Action) → areFinite actions = true →
    finiteAll actions = actions
  | [], _ => rfl
  | a :: rest, h => by
    rw [areFinite, Bool.and_eq_true] at h
    rw [finiteAll, finite_eq a h.1, finiteAll_eq rest h.2]

end

end Action

namespace Document

open Checked (valid)

/-- Whatever is written of a value is read as a normal form of the value, which
is written in the same way. -/
def Normalizes {α : Type} (write : α → Except Failure Json) (read : Json → Checked α)
    (normal : α → α) : Prop :=
  ∀ {a out}, write a = .ok out → read out = .valid (normal a) ∧ write (normal a) = .ok out

/-! ### Conditions -/

theorem readSizedText_str {least : Nat} {most : Option Nat} {s t : String}
    (h : readSizedText least most (.str s) = .valid t) : t = s := by
  rw [readSizedText, Checked.andThen_eq_valid] at h
  obtain ⟨u, hu, h⟩ := h
  cases hu
  repeat' split at h
  all_goals cases h
  all_goals rfl

theorem readNamed_str {α : Type} {all : List α} {name : α → String} {s : String} {a : α}
    (h : readNamed all name (.str s) = .valid a) : name a = s := by
  unfold readNamed at h
  dsimp only at h
  split at h
  · rename_i b hb
    cases h
    have hname := List.find?_some hb
    exact beq_iff_eq.1 hname
  · cases h

/-- A condition that can be written has a field and an operator that exists. -/
theorem of_checkCondition {c checked : Condition} (h : checkCondition c = .valid checked) :
    checked = c ∧ readSizedText 1 none (.str c.field) = .valid c.field
      ∧ ∃ operator, readNamed Operator.all Operator.name (.str c.operator) = .valid operator
        ∧ operator.name = c.operator := by
  obtain ⟨_, operator, h1, hoperator, rfl⟩ := Checked.and_eq_valid.1 h
  obtain ⟨_, field, h0, hfield, rfl⟩ := Checked.and_eq_valid.1 h1
  cases h0
  have hfield := Checked.within_eq_valid.1 hfield
  have hoperator := Checked.within_eq_valid.1 hoperator
  cases readSizedText_str hfield
  exact ⟨rfl, hfield, operator, hoperator, readNamed_str hoperator⟩

theorem writeCondition_normalizes : Normalizes writeCondition readCondition Condition.finite := by
  intro c out h
  obtain ⟨checked, hchecked, hout⟩ := Except.of_bind_eq_ok h
  have hcheck := accept_eq_ok hchecked
  obtain ⟨rfl, hfield, operator, hoperator, hname⟩ := of_checkCondition hcheck
  have hout : Json.obj [("field", .str checked.field), ("operator", .str checked.operator),
    ("value", checked.value.finite)] = out := Except.ok.inj hout
  subst hout
  refine ⟨?_, ?_⟩
  · rw [readCondition, readRecord, required_of_lookup rfl hfield, required_of_lookup rfl hoperator,
      optional_of_lookup rfl rfl]
    show valid (Condition.mk checked.field operator.name checked.value.finite) = _
    rw [hname]
    rfl
  · have hfinite : checkCondition checked.finite = .valid checked.finite := by
      unfold checkCondition at hcheck ⊢
      simp only [Condition.finite] at hcheck ⊢
      rw [hfield, hoperator] at hcheck ⊢
      rfl
    rw [writeCondition, hfinite]
    show Except.ok (Json.obj [("field", .str checked.field), ("operator", .str checked.operator),
      ("value", checked.value.finite.finite)]) = _
    rw [Json.finite_finite]

/-! ### Tasks -/

theorem nullableBounded_of_checkOptional {name : String} {least : Int} {most n : Option Int}
    (h : checkOptional name least most n = .valid ()) :
    nullable (readBounded least most) (Json.ofInt? n) = .valid n := by
  cases n with
  | none => rfl
  | some n =>
    obtain ⟨m, hm, -⟩ := Checked.map_eq_valid.1 (Checked.within_eq_valid.1 h)
    cases checkBounds_eq_valid hm
    have hread : readBounded least most (.int n) = .valid n := hm
    have hnull : Json.int n ≠ .null := by simp
    exact nullable_of_eq_valid hnull hread

/-- What a task is written with is read by the reader of its kind. -/
theorem readTask_written {t : Task} (hknown : ∀ name, t ≠ .unknown name)
    (hcheck : checkTask t = .valid ()) :
    ∃ record read, taskReader? t.kind = some (record, read) ∧ read (taskFields t) = .valid t.finite := by
  cases t with
  | email recipients subject body => exact ⟨_, _, rfl, readEmail_written recipients subject body⟩
  | notification user title message priority =>
    exact ⟨_, _, rfl, readNotification_written user title message priority⟩
  | webhook url method headers body => exact ⟨_, _, rfl, readWebhook_written url method headers body⟩
  | update entity id updates => exact ⟨_, _, rfl, readUpdate_written entity id updates⟩
  | create entity data => exact ⟨_, _, rfl, readCreate_written entity data⟩
  | approval approvers required timeout =>
    obtain ⟨_, _, h1, htimeout, -⟩ := Checked.and_eq_valid.1 hcheck
    obtain ⟨_, m, -, hrequired, -⟩ := Checked.and_eq_valid.1 h1
    have hrequired := Checked.within_eq_valid.1 hrequired
    cases checkBounds_eq_valid hrequired
    have hread : readBounded 1 none (.int required) = .valid required := hrequired
    exact ⟨_, _, rfl, readApproval_written hread (nullableBounded_of_checkOptional htimeout)⟩
  | delay milliseconds =>
    have hdelay : checkOptional "duration" 0 none (some milliseconds) = .valid () := hcheck
    have hread := nullableBounded_of_checkOptional hdelay
    exact ⟨_, _, rfl, readDelay_written (nullable_eq_valid hread milliseconds rfl)⟩
  | unknown name => exact absurd rfl (hknown name)

theorem taskFields_finite (t : Task) : taskFields t.finite = taskFields t := by
  cases t with
  | webhook url method headers body => rw [Task.finite, taskFields, taskFields, Json.finite_finite]
  | update entity id updates =>
    rw [Task.finite, taskFields, taskFields, Json.finite, Json.finite,
      Json.finiteMembers_finiteMembers]
  | create entity data =>
    rw [Task.finite, taskFields, taskFields, Json.finite, Json.finite,
      Json.finiteMembers_finiteMembers]
  | _ => rfl

theorem checkTask_finite (t : Task) : checkTask t.finite = checkTask t := by
  cases t <;> rfl

theorem kind_finite (t : Task) : t.finite.kind = t.kind := by
  cases t <;> rfl

theorem writeTask_of_known {policy : Policy} {t : Task} (hknown : ∀ name, t ≠ .unknown name) :
    writeTask policy t
      = (accept (checkTask t)).bind fun _ => .ok (actionDocument t.kind (taskFields t) policy) := by
  cases t with
  | unknown name => exact absurd rfl (hknown name)
  | _ => rfl

theorem writeTask_eq_ok {policy : Policy} {t : Task} {out : Json} (h : writeTask policy t = .ok out) :
    (∀ name, t ≠ .unknown name) ∧ checkTask t = .valid ()
      ∧ out = actionDocument t.kind (taskFields t) policy := by
  have hknown : ∀ name, t ≠ .unknown name := by
    rintro name rfl
    cases h
  rw [writeTask_of_known hknown] at h
  obtain ⟨_, hcheck, hout⟩ := Except.of_bind_eq_ok h
  exact ⟨hknown, accept_eq_ok hcheck, (Except.ok.inj hout).symm⟩

theorem writeTask_normalizes {policy : Policy} {t : Task} {out : Json}
    (h : writeTask policy t = .ok out) :
    readAction out = .valid (.task policy t.finite) ∧ writeTask policy t.finite = .ok out := by
  obtain ⟨hknown, hcheck, rfl⟩ := writeTask_eq_ok h
  obtain ⟨record, read, hkind, hread⟩ := readTask_written hknown hcheck
  have hfinite : ∀ name, t.finite ≠ .unknown name := by
    intro name hname
    cases t with
    | unknown other => exact absurd rfl (hknown other)
    | _ => cases hname
  refine ⟨readAction_task hkind hread policy, ?_⟩
  rw [writeTask_of_known hfinite, checkTask_finite, hcheck, kind_finite, taskFields_finite]
  rfl

/-! ### Actions -/

/-- The condition of a branch, or null. -/
def writeBranchCondition : Option Condition → Except Failure Json
  | some c => writeCondition c
  | none => .ok .null

/-- A branch is written with its condition and its two lists. -/
theorem writeAction_branch (policy : Policy) (condition : Option Condition)
    (thenActions elseActions : List Action) :
    writeAction (.branch policy condition thenActions elseActions) = (do
      let out ← writeBranchCondition condition
      let thens ← writeActions thenActions
      let elses ← writeActions elseActions
      return actionDocument "condition"
        [("condition", out), ("thenActions", .arr thens), ("elseActions", .arr elses)] policy) := by
  cases condition with
  | none =>
    rw [writeAction]
    rfl
  | some c =>
    rw [writeAction]
    rfl

theorem writeBranchCondition_normalizes {condition : Option Condition} {out : Json}
    (h : writeBranchCondition condition = .ok out) :
    nullable readCondition out = .valid (condition.map Condition.finite)
      ∧ writeBranchCondition (condition.map Condition.finite) = .ok out := by
  cases condition with
  | none =>
    cases h
    exact ⟨rfl, rfl⟩
  | some c =>
    obtain ⟨hread, hwrite⟩ := writeCondition_normalizes h
    have hnull : out ≠ .null := by
      rintro rfl
      cases hread
    exact ⟨nullable_of_eq_valid hnull hread, hwrite⟩

mutual

/-- **What is written of an action is read as its finite form**, which is
written in the same way. -/
theorem writeAction_normalizes : (a : Action) → {out : Json} → writeAction a = .ok out →
    readAction out = .valid a.finite ∧ writeAction a.finite = .ok out
  | .task policy t, out, h => by
    rw [writeAction] at h
    rw [Action.finite, writeAction]
    exact writeTask_normalizes h
  | .branch policy condition thenActions elseActions, out, h => by
    rw [writeAction_branch] at h
    obtain ⟨conditionOut, hcondition, h⟩ := Except.of_bind_eq_ok h
    obtain ⟨thens, hthens, h⟩ := Except.of_bind_eq_ok h
    obtain ⟨elses, helses, h⟩ := Except.of_bind_eq_ok h
    obtain ⟨hreadCondition, hwriteCondition⟩ := writeBranchCondition_normalizes hcondition
    obtain ⟨hreadThens, hwriteThens⟩ := writeActions_normalizes thenActions hthens
    obtain ⟨hreadElses, hwriteElses⟩ := writeActions_normalizes elseActions helses
    rw [← Except.ok.inj h, Action.finite]
    refine ⟨readAction_branch hreadCondition (hreadThens 0) (hreadElses 0) policy, ?_⟩
    rw [writeAction_branch, hwriteCondition, hwriteThens, hwriteElses]
    rfl

/-- So it is with all actions of a list. -/
theorem writeActions_normalizes : (actions : List Action) → {outs : List Json} →
    writeActions actions = .ok outs →
    (∀ index, readActionItems index outs = .valid (Action.finiteAll actions))
      ∧ writeActions (Action.finiteAll actions) = .ok outs
  | [], outs, h => by
    cases h
    exact ⟨fun _ => rfl, rfl⟩
  | a :: rest, outs, h => by
    rw [writeActions] at h
    obtain ⟨first, hfirst, h⟩ := Except.of_bind_eq_ok h
    obtain ⟨others, hothers, h⟩ := Except.of_bind_eq_ok h
    obtain ⟨hreadFirst, hwriteFirst⟩ := writeAction_normalizes a hfirst
    obtain ⟨hreadOthers, hwriteOthers⟩ := writeActions_normalizes rest hothers
    rw [← Except.ok.inj h, Action.finiteAll]
    refine ⟨fun index => ?_, ?_⟩
    · rw [readActionItems, hreadFirst, hreadOthers]
      rfl
    · rw [writeActions, hwriteFirst, hwriteOthers]
      rfl

end

/-! ### Lists of conditions -/

/-- Values that normalize one by one normalize as a list. -/
theorem Normalizes.mapM {α : Type} {write : α → Except Failure Json} {read : Json → Checked α}
    {normal : α → α} (h : Normalizes write read normal) : ∀ {as : List α} {outs : List Json},
      as.mapM write = .ok outs →
      outs.mapM (fun out => accept (read out)) = .ok (as.map normal)
        ∧ (as.map normal).mapM write = .ok outs
  | [], _, houts => by
    cases houts
    exact ⟨rfl, rfl⟩
  | a :: as, outs, houts => by
    rw [List.mapM_cons] at houts
    obtain ⟨out, hout, houts⟩ := Except.of_bind_eq_ok houts
    obtain ⟨rest, hrest, houts⟩ := Except.of_bind_eq_ok houts
    obtain ⟨hread, hwrite⟩ := h hout
    obtain ⟨hreads, hwrites⟩ := h.mapM hrest
    rw [← Except.ok.inj houts, List.map_cons]
    refine ⟨?_, ?_⟩
    · rw [List.mapM_cons, hread, hreads]
      rfl
    · rw [List.mapM_cons, hwrite, hwrites]
      rfl

end Document

end Automation
