/-
# Actions survive writing

An action is written with its kind, its policy and its configuration. What a
reader made of a configuration is written as one that the same reader reads as
the same task; for a branch this goes down to every action that it holds, by
induction on the document that was read.

Key definitions: `Task.isFinite`, `Action.isFinite`, `Document.TaskSurvives`.
Key theorems: `Document.taskReader?_survives`, `Document.readAction_survives`,
`Document.readActions_survive`.
-/
import Automation.Proofs.Document.Parts

namespace Automation

/-! ### Finite values -/

/-- Whether every double in the free parts of a task is finite. -/
def Task.isFinite : Task → Bool
  | .webhook _ _ _ body => body.isFinite
  | .update _ _ updates => Json.membersAreFinite updates
  | .create _ data => Json.membersAreFinite data
  | _ => true

mutual

/-- Whether every double in the free parts of an action, at any depth, is finite. -/
def Action.isFinite : Action → Bool
  | .task _ t => t.isFinite
  | .branch _ condition thenActions elseActions =>
    condition.all Condition.isFinite && Action.areFinite thenActions && Action.areFinite elseActions

def Action.areFinite : List Action → Bool
  | [] => true
  | a :: rest => a.isFinite && Action.areFinite rest

end

namespace Document

open Checked (valid)

variable {ms : Members} {t : Task}

/-! ### Tasks -/

/-- A task that can be written, and is what the reader of its kind reads from
its fields. -/
structure TaskSurvives (kind : String) (read : Members → Checked Task) (t : Task) : Prop where
  written : ∀ policy, writeTask policy t = .ok (actionDocument kind (taskFields t) policy)
  read : read (taskFields t) = .valid t

theorem readRecipients_written (texts : List String) :
    readRecipients (Json.ofTexts texts) = .valid texts := by
  have hlist := texts_written texts
  rw [Json.ofTexts] at hlist ⊢
  simp only [readRecipients, hlist]

theorem readTextMembers_map : ∀ headers : List (String × String),
    readTextMembers (headers.map fun (k, v) => (k, .str v)) = .valid headers
  | [] => rfl
  | (key, text) :: headers => by
    rw [List.map_cons, readTextMembers, readTextMembers_map headers]
    rfl

theorem readEmail_written (recipients : List String) (subject body : String) :
    readEmail (taskFields (.email recipients subject body)) = .valid (.email recipients subject body) := by
  rw [readEmail, taskFields, optional_of_lookup rfl (readRecipients_written recipients),
    optional_of_lookup rfl (readText_str subject), optional_of_lookup rfl (readText_str body)]
  rfl

theorem readNotification_written (user : Option String) (title message : String)
    (priority : Option String) : readNotification (taskFields (.notification user title message priority))
      = .valid (.notification user title message priority) := by
  rw [readNotification, taskFields, optional_of_lookup rfl (nullableText_written user),
    optional_of_lookup rfl (readText_str title), optional_of_lookup rfl (readText_str message),
    optional_of_lookup rfl (nullableText_written priority)]
  rfl

theorem readWebhook_written (url : Option String) (method : String)
    (headers : List (String × String)) (body : Json) :
    readWebhook (taskFields (.webhook url method headers body))
      = .valid (.webhook url method headers body.finite) := by
  have hheaders := readTextMembers_map headers
  have hbody : valid body.finite = valid body.finite := rfl
  rw [readWebhook, taskFields, optional_of_lookup rfl (nullableText_written url),
    optional_of_lookup rfl (readText_str method), optional_of_lookup rfl hheaders,
    optional_of_lookup rfl hbody]
  rfl

theorem readUpdate_written (entity id : Option String) (updates : Members) :
    readUpdate (taskFields (.update entity id updates))
      = .valid (.update entity id (Json.finiteMembers updates)) := by
  have hupdates : readObject (Json.obj updates).finite = .valid (Json.finiteMembers updates) := by
    rw [Json.finite]
    rfl
  rw [readUpdate, taskFields, optional_of_lookup rfl (nullableText_written entity),
    optional_of_lookup rfl (nullableText_written id), optional_of_lookup rfl hupdates]
  rfl

theorem readCreate_written (entity : Option String) (data : Members) :
    readCreate (taskFields (.create entity data))
      = .valid (.create entity (Json.finiteMembers data)) := by
  have hdata : readObject (Json.obj data).finite = .valid (Json.finiteMembers data) := by
    rw [Json.finite]
    rfl
  rw [readCreate, taskFields, optional_of_lookup rfl (nullableText_written entity),
    optional_of_lookup rfl hdata]
  rfl

theorem readApproval_written {approvers : List String} {required : Int} {timeout : Option Int}
    (hrequired : readBounded 1 none (.int required) = .valid required)
    (htimeout : nullable (readBounded 0 none) (Json.ofInt? timeout) = .valid timeout) :
    readApproval (taskFields (.approval approvers required timeout))
      = .valid (.approval approvers required timeout) := by
  rw [readApproval, taskFields, optional_of_lookup rfl (texts_written approvers),
    optional_of_lookup rfl hrequired, optional_of_lookup rfl htimeout]
  rfl

theorem readDelay_written {milliseconds : Int}
    (h : readBounded 0 none (.int milliseconds) = .valid milliseconds) :
    readDelay (taskFields (.delay milliseconds)) = .valid (.delay milliseconds) := by
  rw [readDelay, taskFields, optional_of_lookup rfl h]
  rfl

theorem readEmail_survives (h : readEmail ms = .valid t) : TaskSurvives "email" readEmail t := by
  obtain ⟨_, body, h2, -, rfl⟩ := Checked.and_eq_valid.1 h
  obtain ⟨_, subject, h1, -, rfl⟩ := Checked.and_eq_valid.1 h2
  obtain ⟨_, recipients, h0, -, rfl⟩ := Checked.and_eq_valid.1 h1
  cases h0
  exact ⟨fun _ => rfl, readEmail_written recipients subject body⟩

theorem readNotification_survives (h : readNotification ms = .valid t) :
    TaskSurvives "notification" readNotification t := by
  obtain ⟨_, priority, h3, -, rfl⟩ := Checked.and_eq_valid.1 h
  obtain ⟨_, message, h2, -, rfl⟩ := Checked.and_eq_valid.1 h3
  obtain ⟨_, title, h1, -, rfl⟩ := Checked.and_eq_valid.1 h2
  obtain ⟨_, user, h0, -, rfl⟩ := Checked.and_eq_valid.1 h1
  cases h0
  exact ⟨fun _ => rfl, readNotification_written user title message priority⟩

theorem readWebhook_survives (h : readWebhook ms = .valid t) (hfinite : t.isFinite = true) :
    TaskSurvives "webhook" readWebhook t := by
  obtain ⟨_, body, h3, -, rfl⟩ := Checked.and_eq_valid.1 h
  obtain ⟨_, headers, h2, -, rfl⟩ := Checked.and_eq_valid.1 h3
  obtain ⟨_, method, h1, -, rfl⟩ := Checked.and_eq_valid.1 h2
  obtain ⟨_, url, h0, -, rfl⟩ := Checked.and_eq_valid.1 h1
  cases h0
  refine ⟨fun _ => rfl, ?_⟩
  rw [readWebhook_written, Json.finite_eq body hfinite]

theorem readUpdate_survives (h : readUpdate ms = .valid t) (hfinite : t.isFinite = true) :
    TaskSurvives "update" readUpdate t := by
  obtain ⟨_, updates, h2, -, rfl⟩ := Checked.and_eq_valid.1 h
  obtain ⟨_, id, h1, -, rfl⟩ := Checked.and_eq_valid.1 h2
  obtain ⟨_, entity, h0, -, rfl⟩ := Checked.and_eq_valid.1 h1
  cases h0
  refine ⟨fun _ => rfl, ?_⟩
  rw [readUpdate_written, Json.finiteMembers_eq updates hfinite]

theorem readCreate_survives (h : readCreate ms = .valid t) (hfinite : t.isFinite = true) :
    TaskSurvives "create" readCreate t := by
  obtain ⟨_, data, h1, -, rfl⟩ := Checked.and_eq_valid.1 h
  obtain ⟨_, entity, h0, -, rfl⟩ := Checked.and_eq_valid.1 h1
  cases h0
  refine ⟨fun _ => rfl, ?_⟩
  rw [readCreate_written, Json.finiteMembers_eq data hfinite]

theorem readApproval_survives (h : readApproval ms = .valid t) :
    TaskSurvives "approval" readApproval t := by
  obtain ⟨_, timeout, h2, htimeout, rfl⟩ := Checked.and_eq_valid.1 h
  obtain ⟨_, approvals, h1, happrovals, rfl⟩ := Checked.and_eq_valid.1 h2
  obtain ⟨_, approvers, h0, -, rfl⟩ := Checked.and_eq_valid.1 h1
  cases h0
  have happrovals := (readBounded_rereads 1 none).optional rfl happrovals
  have htimeout := (nullableBounded_rereads 0 none).optional rfl htimeout
  have hbounds : checkBounds 1 none approvals = .valid approvals := happrovals
  refine ⟨fun policy => ?_, readApproval_written happrovals htimeout⟩
  rw [writeTask, checkTask, hbounds, checkOptional_of_rereads htimeout]
  · rfl
  · simp

theorem readDelay_survives (h : readDelay ms = .valid t) : TaskSurvives "delay" readDelay t := by
  obtain ⟨_, milliseconds, h0, hdelay, rfl⟩ := Checked.and_eq_valid.1 h
  cases h0
  have hdelay := (readBounded_rereads 0 none).optional rfl hdelay
  have hbounds : checkBounds 0 none milliseconds = .valid milliseconds := hdelay
  refine ⟨fun policy => ?_, readDelay_written hdelay⟩
  rw [writeTask, checkTask, checkOptional, hbounds]
  · rfl
  · simp

/-- What the reader of a kind makes survives, whatever the kind. -/
theorem taskReader?_survives {kind record : String} {read : Members → Checked Task}
    (hkind : taskReader? kind = some (record, read)) (h : read ms = .valid t)
    (hfinite : t.isFinite = true) : TaskSurvives kind read t := by
  unfold taskReader? at hkind
  split at hkind
  · cases hkind
    exact readEmail_survives h
  · cases hkind
    exact readNotification_survives h
  · cases hkind
    exact readWebhook_survives h hfinite
  · cases hkind
    exact readUpdate_survives h hfinite
  · cases hkind
    exact readCreate_survives h hfinite
  · cases hkind
    exact readApproval_survives h
  · cases hkind
    exact readDelay_survives h
  · cases hkind

/-! ### Actions -/

theorem readPolicy_actionDocument (kind : String) (config : Members) (policy : Policy) :
    readPolicy [("order", .int policy.order), ("continueOnError", .bool policy.continueOnError),
      ("type", .str kind), ("config", .obj config)] = .valid policy := by
  rw [readPolicy, optional_of_lookup rfl (readInteger_int policy.order),
    optional_of_lookup rfl (readBoolean_bool policy.continueOnError)]
  rfl

/-- A task is read from the document of an action with its kind. -/
theorem readAction_task {kind record : String} {read : Members → Checked Task} {fields : Members}
    (hkind : taskReader? kind = some (record, read)) (h : read fields = .valid t) (policy : Policy) :
    readAction (actionDocument kind fields policy) = .valid (.task policy t) := by
  have hpolicy := readPolicy_actionDocument kind fields policy
  have hconfig : readTask record read [("order", .int policy.order),
      ("continueOnError", .bool policy.continueOnError), ("type", .str kind),
      ("config", .obj fields)] = .valid t := by
    show Checked.within _ (readRecord record read (.obj fields)) = _
    rw [readRecord, h]
    rfl
  have hbranch : kind ≠ "condition" := by
    rintro rfl
    simp [taskReader?] at hkind
  have htype : List.lookup "type" [("order", Json.int policy.order),
      ("continueOnError", .bool policy.continueOnError), ("type", .str kind),
      ("config", .obj fields)] = some (.str kind) := rfl
  rw [actionDocument, readAction]
  simp only [htype, hkind, hpolicy, hconfig]
  rfl

/-- Actions that can be written, and are what is read again from any index on. -/
def ActionsSurvive (actions : List Action) : Prop :=
  ∃ outs, writeActions actions = .ok outs ∧ ∀ index, readActionItems index outs = .valid actions

/-- A branch is read from the document of an action with its two lists. -/
theorem readAction_branch {condition : Option Condition} {thenActions elseActions : List Action}
    {out : Json} {thens elses : List Json} (hout : nullable readCondition out = .valid condition)
    (hthens : readActionItems 0 thens = .valid thenActions)
    (helses : readActionItems 0 elses = .valid elseActions) (policy : Policy) :
    readAction (actionDocument "condition"
      [("condition", out), ("thenActions", .arr thens), ("elseActions", .arr elses)] policy)
      = .valid (.branch policy condition thenActions elseActions) := by
  have hpolicy := readPolicy_actionDocument "condition"
    [("condition", out), ("thenActions", .arr thens), ("elseActions", .arr elses)] policy
  have hbranching : readBranchingOf (.obj [("condition", out), ("thenActions", .arr thens),
      ("elseActions", .arr elses)]) = .valid ⟨condition, thenActions, elseActions⟩ := by
    rw [readBranchingOf, optional_of_lookup rfl hout]
    simp [readBranch, readActions, hthens, helses, Checked.within, Checked.and]
  have htype : List.lookup "type" [("order", Json.int policy.order),
      ("continueOnError", .bool policy.continueOnError), ("type", .str "condition"),
      ("config", .obj [("condition", out), ("thenActions", .arr thens), ("elseActions", .arr elses)])]
      = some (.str "condition") := rfl
  rw [actionDocument, readAction]
  simp only [htype, hpolicy]
  simp [readBranching, hbranching, Checked.within, Checked.and, Branching.toAction]

/-- A branch survives with its condition and with both lists of its actions. -/
theorem branch_survives {condition : Option Condition} {thenActions elseActions : List Action}
    (hcondition : ∀ c ∈ condition, Survives writeCondition readCondition c)
    (hthen : ActionsSurvive thenActions) (helse : ActionsSurvive elseActions) (policy : Policy) :
    Survives writeAction readAction (.branch policy condition thenActions elseActions) := by
  obtain ⟨thens, hthens, hreadThens⟩ := hthen
  obtain ⟨elses, helses, hreadElses⟩ := helse
  cases condition with
  | none =>
    have hreadNone : nullable readCondition .null = .valid none := rfl
    refine ⟨_, ?_, readAction_branch hreadNone (hreadThens 0) (hreadElses 0) policy⟩
    rw [writeAction, hthens, helses]
    rfl
  | some c =>
    obtain ⟨out, hout, hread⟩ := hcondition c rfl
    have hnull : out ≠ .null := by
      rintro rfl
      cases hread
    have hreadSome := nullable_of_eq_valid hnull hread
    refine ⟨_, ?_, readAction_branch hreadSome (hreadThens 0) (hreadElses 0) policy⟩
    rw [writeAction, hout, hthens, helses]
    rfl

theorem actionsSurvive_cons {a : Action} {rest : List Action}
    (hfirst : Survives writeAction readAction a) (hrest : ActionsSurvive rest) :
    ActionsSurvive (a :: rest) := by
  obtain ⟨out, hout, hread⟩ := hfirst
  obtain ⟨outs, houts, hreads⟩ := hrest
  refine ⟨out :: outs, ?_, fun index => ?_⟩
  · rw [writeActions, hout, houts]
    rfl
  · rw [readActionItems, hread, hreads]
    rfl

theorem actionsSurvive_nil : ActionsSurvive [] := ⟨[], rfl, fun _ => rfl⟩

/-! ### Actions at every depth -/

/-- What a branch is configured with survives. -/
structure BranchingSurvives (b : Branching) : Prop where
  condition : ∀ c ∈ b.condition, Survives writeCondition readCondition c
  thenActions : ActionsSurvive b.thenActions
  elseActions : ActionsSurvive b.elseActions

/-- Whether every double in what a branch is configured with is finite. -/
def Branching.isFinite (b : Branching) : Bool :=
  b.condition.all Condition.isFinite && Action.areFinite b.thenActions
    && Action.areFinite b.elseActions

/-- The actions of a branch stand in the member of one of two names, or there are none. -/
theorem branch_member {x y : Option (Checked (List Action))} {actions : List Action}
    (h : (x.or y).getD (valid []) = .valid actions) :
    actions = [] ∨ x = some (.valid actions) ∨ y = some (.valid actions) := by
  cases x with
  | some x =>
    rw [Option.some_or, Option.getD_some] at h
    exact Or.inr (Or.inl (congrArg some h))
  | none =>
    cases y with
    | some y =>
      rw [Option.none_or, Option.getD_some] at h
      exact Or.inr (Or.inr (congrArg some h))
    | none =>
      cases h
      exact Or.inl rfl

mutual

/-- **An action that has been read survives, at every depth.** -/
theorem readAction_survives : (v : Json) → {a : Action} → readAction v = .valid a →
    a.isFinite = true → Survives writeAction readAction a
  | .obj ms, a, h, hfinite => by
    rw [readAction] at h
    split at h
    · cases h
    · obtain ⟨_, b, h1, hb, rfl⟩ := Checked.and_eq_valid.1 (Checked.within_eq_valid.1 h)
      obtain ⟨_, policy, h0, -, rfl⟩ := Checked.and_eq_valid.1 h1
      cases h0
      rw [Branching.toAction, Action.isFinite] at hfinite
      have hsurvives := readBranching_survives ms hb hfinite
      exact branch_survives hsurvives.condition hsurvives.thenActions hsurvives.elseActions policy
    · rename_i kind _ _
      split at h
      · rename_i record read hkind
        obtain ⟨_, task, h1, htask, rfl⟩ := Checked.and_eq_valid.1 (Checked.within_eq_valid.1 h)
        obtain ⟨_, policy, h0, -, rfl⟩ := Checked.and_eq_valid.1 h1
        cases h0
        rw [Action.isFinite] at hfinite
        have hsurvives : TaskSurvives kind read task := by
          unfold readTask at htask
          split at htask
          · obtain ⟨_, -, htask⟩ := readRecord_eq_valid (Checked.within_eq_valid.1 htask)
            exact taskReader?_survives hkind htask hfinite
          · exact taskReader?_survives hkind htask hfinite
        refine ⟨_, ?_, readAction_task hkind hsurvives.read policy⟩
        rw [writeAction, hsurvives.written]
      · cases h
    · cases h

theorem readBranching_survives : (ms : List (String × Json)) → {b : Branching} →
    (readBranching ms).getD (valid {}) = .valid b → b.isFinite = true → BranchingSurvives b
  | [], b, h, _ => by
    cases h
    exact ⟨fun c hc => (by cases hc), actionsSurvive_nil, actionsSurvive_nil⟩
  | (key, v) :: rest, b, h, hfinite => by
    rw [readBranching] at h
    split at h
    · exact readBranchingOf_survives v (Checked.within_eq_valid.1 h) hfinite
    · exact readBranching_survives rest h hfinite

theorem readBranchingOf_survives : (v : Json) → {b : Branching} → readBranchingOf v = .valid b →
    b.isFinite = true → BranchingSurvives b
  | .obj ms, b, h, hfinite => by
    rw [readBranchingOf] at h
    obtain ⟨_, elseActions, h2, helse, rfl⟩ := Checked.and_eq_valid.1 h
    obtain ⟨_, thenActions, h1, hthen, rfl⟩ := Checked.and_eq_valid.1 h2
    obtain ⟨_, condition, h0, hcondition, rfl⟩ := Checked.and_eq_valid.1 h1
    cases h0
    rw [Branching.isFinite, Bool.and_eq_true, Bool.and_eq_true] at hfinite
    obtain ⟨⟨hfiniteCondition, hfiniteThen⟩, hfiniteElse⟩ := hfinite
    refine ⟨?_, ?_, ?_⟩
    · intro c hc
      cases hc
      obtain ⟨v, hv⟩ := optional_nullable_eq_valid hcondition c rfl
      exact readCondition_survives hv hfiniteCondition
    · rcases branch_member hthen with rfl | hthen | hthen
      · exact actionsSurvive_nil
      · exact readBranch_survives ms hthen hfiniteThen
      · exact readBranch_survives ms hthen hfiniteThen
    · rcases branch_member helse with rfl | helse | helse
      · exact actionsSurvive_nil
      · exact readBranch_survives ms helse hfiniteElse
      · exact readBranch_survives ms helse hfiniteElse

theorem readBranch_survives : (ms : List (String × Json)) → {name : String} →
    {actions : List Action} → readBranch name ms = some (.valid actions) →
    Action.areFinite actions = true → ActionsSurvive actions
  | [], _, _, h, _ => by
    cases h
  | (key, v) :: rest, name, actions, h, hfinite => by
    rw [readBranch] at h
    split at h
    · exact readActions_survive v (Checked.within_eq_valid.1 (Option.some.inj h)) hfinite
    · exact readBranch_survives rest h hfinite

theorem readActions_survive : (v : Json) → {actions : List Action} →
    readActions v = .valid actions → Action.areFinite actions = true → ActionsSurvive actions
  | .arr items, _, h, hfinite => readActionItems_survive items h hfinite

theorem readActionItems_survive : (vs : List Json) → {index : Nat} → {actions : List Action} →
    readActionItems index vs = .valid actions → Action.areFinite actions = true →
    ActionsSurvive actions
  | [], _, _, h, _ => by
    cases h
    exact actionsSurvive_nil
  | v :: vs, index, actions, h, hfinite => by
    rw [readActionItems] at h
    obtain ⟨_, rest, h1, hrest, rfl⟩ := Checked.and_eq_valid.1 h
    obtain ⟨_, first, h0, hfirst, rfl⟩ := Checked.and_eq_valid.1 h1
    cases h0
    rw [Action.areFinite, Bool.and_eq_true] at hfinite
    exact actionsSurvive_cons (readAction_survives v (Checked.within_eq_valid.1 hfirst) hfinite.1)
      (readActionItems_survive vs hrest hfinite.2)

end

end Document
end Automation
