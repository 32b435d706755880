/-
# What requests are addressed to

A mail goes to the addresses of its task that are not empty, each as it is
rendered; a message goes to the room of one person, and an update looks up one
record and writes to it, by an id that is rendered. The id of a person or of a
record is looked at after it is rendered: nothing is asked for unless it is
resolved. The addresses of a mail are looked at before: so there is at least one
recipient, but an address that is rendered as nothing stays among them
(`Task.mem_recipients_empty_iff`).

This is what a run may ask for, for one of the tasks in its actions, at whatever
depth (`Setting.Aimed`). `Setting.run_aimed` also tells when a task does ask for it: a
mail to the empty address is sent exactly if some address that is written is void.

Key definitions: `Setting.Makes`, `Setting.Aimed`.
Key theorems: `Task.mem_recipients_empty_iff`, `Process.Asks.of_mem_requests`,
`Setting.exists_mayAsk`, `Setting.run_aimed`.
-/
import Automation.Proofs.Run.Quiet
import Automation.Proofs.Template.Blank
import Automation.World

namespace Automation

/-- Every request that is made is one that the process can make. -/
theorem Process.Asks.of_mem_requests {α σ : Type} {P : Request → Prop} {env : Environment σ}
    {token : Token} : ∀ {p : Process α} {s : σ}, p.Asks P →
      ∀ made ∈ p.requests env token s, P made.request
  | .done _, _, _, made, hmade => by cases hmade
  | .clock _, _, h, made, hmade => of_mem_requests (h _) made hmade
  | .token _, _, h, made, hmade => of_mem_requests (h _) made hmade
  | .ask _ _, _, h, made, hmade => by
    rcases List.mem_cons.1 hmade with rfl | hmade
    · exact h.1
    · exact of_mem_requests (h.2 _) made hmade

namespace Task

open Template (IsVoid IsResolved render isResolved_iff)

variable {b : Bindings} {addresses : List String}

/-! ### Recipients -/

/-- The addresses that are left out are those that are empty as they are written. -/
theorem mem_recipientsOf {recipient : String} : recipient ∈ recipientsOf b addresses ↔
    ∃ address ∈ addresses, address ≠ "" ∧ render b address = recipient := by
  simp [recipientsOf, and_assoc]

/-- **The empty address is among the recipients** if an address that is written is
rendered as nothing. -/
theorem mem_recipients_empty_iff : "" ∈ recipientsOf b addresses ↔
    ∃ address ∈ addresses, address ≠ "" ∧ IsVoid b address := by
  simp only [mem_recipientsOf, Template.render_eq_empty_iff]

end Task

namespace Setting

open Template (IsVoid IsResolved render isResolved_iff)

variable {σ : Type} {X : Setting σ}

/-! ### What a task does ask for -/

/-- An action makes a request of some kind. -/
def Makes (X : Setting σ) (depth : Int) (a : Action) (s : σ) (P : Request → Prop) : Prop :=
  ∃ made ∈ X.actRequests depth a s, P made.request

/-- What templates read. -/
def bindings (X : Setting σ) : Bindings := X.ctx.bindings X.payload

variable {depth : Int} {policy : Policy} {s : σ} {P : Request → Prop}

/-- An action that is cancelled asks for nothing, any other for what its task asks for. -/
theorem makes_task_iff {task : Task} : X.Makes depth (.task policy task) s P ↔
    X.isCancelled s = false
      ∧ ∃ made ∈ (task.process X.runner X.ctx X.payload).requests X.env X.ctx.token s,
        P made.request := by
  rw [Makes, actRequests]
  simp only [Runner.step, Process.unlessCancelled, Process.requests]
  rw [isCancelled]
  cases X.env.cancelled X.ctx.token s with
  | true => simp [Process.requests]
  | false => simp [Process.requests_map]

/-- A process that begins with a request makes it, unless it is cancelled. -/
theorem mem_requests_perform {α : Type} {env : Environment σ} {token : Token} {r : Request}
    {f : Reply → Process α} (hs : env.cancelled token s = false) :
    ⟨s, r, (env.serve token r s).2⟩ ∈ ((Process.perform r).bind f).requests env token s := by
  rw [Process.requests_bind, Process.perform, Process.requests, hs]
  exact List.mem_append_left _ List.mem_cons_self

/-- Every request that a task makes is one that it may make. -/
theorem mayAsk_of_mem {task : Task} {made : Process.Made σ}
    (h : made ∈ (task.process X.runner X.ctx X.payload).requests X.env X.ctx.token s) :
    task.MayAsk X.runner X.ctx X.bindings made.request :=
  (task.process_asks X.runner X.ctx X.payload).of_mem_requests made h

/-- A mail is sent, to all recipients at once, if there are some. -/
theorem makes_mail_iff {addresses recipients : List String} {subject body : String} :
    X.Makes depth (.task policy (.email addresses subject body)) s
        (fun r => ∃ mail, r = .send mail ∧ mail.recipients = recipients) ↔
      X.isCancelled s = false ∧ X.runner.hasMailer = true
        ∧ recipients = Task.recipientsOf X.bindings addresses ∧ recipients ≠ [] := by
  rw [makes_task_iff]
  refine and_congr_right fun hs => ⟨?_, ?_⟩
  · rintro ⟨made, hmade, mail, hsend, rfl⟩
    have hmay := mayAsk_of_mem hmade
    rw [hsend] at hmay
    cases hmay with
    | send hmailer hne => exact ⟨hmailer, rfl, hne⟩
  · rintro ⟨hmailer, rfl, hne⟩
    have hsome : ¬ (Task.recipientsOf X.bindings addresses).isEmpty = true := by simpa using hne
    rw [Task.recipientsOf, bindings] at hsome
    rw [Task.process, Task.sendEmail, if_neg (by simp [hmailer])]
    simp only
    rw [if_neg hsome]
    exact ⟨_, mem_requests_perform hs, _, rfl, rfl⟩

/-- A mail goes to the empty address if an address that is written is void. -/
theorem makes_blank_mail_iff {addresses : List String} {subject body : String} :
    X.Makes depth (.task policy (.email addresses subject body)) s
        (fun r => ∃ mail, r = .send mail ∧ "" ∈ mail.recipients) ↔
      X.isCancelled s = false ∧ X.runner.hasMailer = true
        ∧ ∃ address ∈ addresses, address ≠ "" ∧ IsVoid X.bindings address := by
  rw [← Task.mem_recipients_empty_iff]
  constructor
  · rintro ⟨made, hmade, mail, hsend, hblank⟩
    obtain ⟨hs, hmailer, hrecipients, -⟩ := makes_mail_iff.1 ⟨made, hmade, mail, hsend, rfl⟩
    exact ⟨hs, hmailer, hrecipients ▸ hblank⟩
  · rintro ⟨hs, hmailer, hblank⟩
    obtain ⟨made, hmade, mail, hsend, hrecipients⟩ :=
      makes_mail_iff.2 ⟨hs, hmailer, rfl, List.ne_nil_of_mem hblank⟩
    exact ⟨made, hmade, mail, hsend, hrecipients ▸ hblank⟩

/-- A message is sent if there is a channel and its person is resolved. -/
theorem makes_message_iff {user : Option String} {title message : String}
    {priority : Option String} :
    X.Makes depth (.task policy (.notification user title message priority)) s
        (fun r => ∃ emission, r = .emit emission) ↔
      X.isCancelled s = false ∧ X.ctx.hasChannel = true
        ∧ IsResolved (render X.bindings (user.getD "")) := by
  rw [makes_task_iff]
  refine and_congr_right fun hs => ⟨?_, ?_⟩
  · rintro ⟨made, hmade, emission, hemit⟩
    have hmay := mayAsk_of_mem hmade
    rw [hemit] at hmay
    cases hmay with
    | emit hchannel htarget => exact ⟨hchannel, isResolved_iff.1 htarget⟩
  · rintro ⟨hchannel, hresolved⟩
    have htarget : Task.isTarget (render X.bindings (user.getD "")) = true :=
      isResolved_iff.2 hresolved
    rw [Task.process, Task.emitNotification, if_neg (by simp [hchannel])]
    simp only
    rw [← bindings, if_neg (by simp [htarget])]
    exact ⟨_, mem_requests_perform hs, _, rfl⟩

/-- An update looks its record up if its kind is one and its id is resolved. -/
theorem makes_lookup_iff {entity text : Option String} {updates : Members} :
    X.Makes depth (.task policy (.update entity text updates)) s
        (fun r => ∃ kind id, r = .find kind id) ↔
      X.isCancelled s = false ∧ (∃ kind, EntityKind.parse entity = .ok kind)
        ∧ IsResolved (render X.bindings (text.getD "")) := by
  rw [makes_task_iff]
  refine and_congr_right fun hs => ⟨?_, ?_⟩
  · rintro ⟨made, hmade, kind, id, hfind⟩
    have hmay := mayAsk_of_mem hmade
    rw [hfind] at hmay
    cases hmay with
    | find hkind htarget => exact ⟨⟨kind, hkind⟩, isResolved_iff.1 htarget⟩
  · rintro ⟨⟨kind, hkind⟩, hresolved⟩
    have htarget : Task.isTarget (render X.bindings (text.getD "")) = true :=
      isResolved_iff.2 hresolved
    rw [Task.process, Task.updateRecord, hkind]
    simp only
    rw [← bindings, if_neg (by simp [htarget]), Process.requests_map]
    exact ⟨_, mem_requests_perform hs, _, _, rfl⟩

/-! ### Runs -/

/-- What the requests of a run are addressed to. -/
structure Aimed (X : Setting σ) (depth : Int) (actions : List Action) (s : σ) : Prop where
  /-- A mail has recipients: those of a task, and the empty address is one of them if
  some address of that task is void. -/
  mails : ∀ made ∈ X.requests depth actions s, ∀ mail, made.request = .send mail →
    mail.recipients ≠ [] ∧ ∃ addresses subject body,
      .email addresses subject body ∈ Action.tasksOf actions
        ∧ mail.recipients = Task.recipientsOf X.bindings addresses
        ∧ ("" ∈ mail.recipients ↔
          ∃ address ∈ addresses, address ≠ "" ∧ IsVoid X.bindings address)
  messages : ∀ made ∈ X.requests depth actions s, ∀ emission, made.request = .emit emission →
    ∃ id, emission.room = "user:" ++ id ∧ IsResolved id
  lookups : ∀ made ∈ X.requests depth actions s, ∀ kind id, made.request = .find kind id →
    IsResolved id
  writes : ∀ made ∈ X.requests depth actions s, ∀ kind id fields,
    made.request = .write kind id fields → IsResolved id

/-- Every request of a run is one that a task of its actions may make. -/
theorem exists_mayAsk (depth : Int) (actions : List Action) (s : σ) :
    ∀ made ∈ X.requests depth actions s,
      ∃ task ∈ Action.tasksOf actions, task.MayAsk X.runner X.ctx X.bindings made.request := by
  have hasks : (X.runner.run X.ctx X.payload actions depth).Asks fun r =>
      ∃ task ∈ Action.tasksOf actions, task.MayAsk X.runner X.ctx X.bindings r :=
    Runner.run_asks_of_tasks (fun task htask =>
      (task.process_asks X.runner X.ctx X.payload).mono fun _ hmay => ⟨task, htask, hmay⟩) depth
  exact hasks.of_mem_requests

theorem aimed (X : Setting σ) (depth : Int) (actions : List Action) (s : σ) :
    X.Aimed depth actions s where
  mails made hmade mail hsend := by
    obtain ⟨task, htask, hmay⟩ := X.exists_mayAsk depth actions s made hmade
    rw [hsend] at hmay
    cases hmay with
    | send _ hne => exact ⟨hne, _, _, _, htask, rfl, Task.mem_recipients_empty_iff⟩
  messages made hmade emission hemit := by
    obtain ⟨task, -, hmay⟩ := X.exists_mayAsk depth actions s made hmade
    rw [hemit] at hmay
    cases hmay with
    | emit _ htarget => exact ⟨_, rfl, isResolved_iff.1 htarget⟩
  lookups made hmade kind id hfind := by
    obtain ⟨task, -, hmay⟩ := X.exists_mayAsk depth actions s made hmade
    rw [hfind] at hmay
    cases hmay with
    | find _ htarget => exact isResolved_iff.1 htarget
  writes made hmade kind id fields hwrite := by
    obtain ⟨task, -, hmay⟩ := X.exists_mayAsk depth actions s made hmade
    rw [hwrite] at hmay
    cases hmay with
    | write _ htarget => exact isResolved_iff.1 htarget

/-- **Messages and updates are addressed to what is resolved, and mails to somebody.**
Whatever the actions, the event, the context and the replies, no message and no update
goes to an empty id or to one with a placeholder left, and no mail is without
recipients. To the empty address a mail goes only if an address of its task is
rendered as nothing; and then it does go there. -/
theorem run_aimed (X : Setting σ) (depth : Int) (s : σ) :
    (∀ actions : List Action, X.Aimed depth actions s)
      ∧ (∀ (policy : Policy) (addresses recipients : List String) (subject body : String),
        X.Makes depth (.task policy (.email addresses subject body)) s
            (fun r => ∃ mail, r = .send mail ∧ mail.recipients = recipients) ↔
          X.isCancelled s = false ∧ X.runner.hasMailer = true
            ∧ recipients = Task.recipientsOf X.bindings addresses ∧ recipients ≠ [])
      ∧ (∀ (policy : Policy) (addresses : List String) (subject body : String),
        X.Makes depth (.task policy (.email addresses subject body)) s
            (fun r => ∃ mail, r = .send mail ∧ "" ∈ mail.recipients) ↔
          X.isCancelled s = false ∧ X.runner.hasMailer = true
            ∧ ∃ address ∈ addresses, address ≠ "" ∧ IsVoid X.bindings address)
      ∧ (∀ (policy : Policy) (user : Option String) (title message : String)
          (priority : Option String),
        X.Makes depth (.task policy (.notification user title message priority)) s
            (fun r => ∃ emission, r = .emit emission) ↔
          X.isCancelled s = false ∧ X.ctx.hasChannel = true
            ∧ IsResolved (render X.bindings (user.getD "")))
      ∧ ∀ (policy : Policy) (entity text : Option String) (updates : Members),
        X.Makes depth (.task policy (.update entity text updates)) s
            (fun r => ∃ kind id, r = .find kind id) ↔
          X.isCancelled s = false ∧ (∃ kind, EntityKind.parse entity = .ok kind)
            ∧ IsResolved (render X.bindings (text.getD "")) :=
  ⟨fun actions => X.aimed depth actions s, fun _ _ _ _ _ => makes_mail_iff, fun _ _ _ _ => makes_blank_mail_iff,
    fun _ _ _ _ _ => makes_message_iff, fun _ _ _ _ => makes_lookup_iff⟩

/-- An address that is one placeholder, for an event that has a list of one empty text
there: a mail goes to the empty address, while a message to the same text is refused. -/
theorem run_aimed_blank :
    let w : World := { clock := ⟨0⟩ }
    let X : Setting World := {
      env := World.environment
      runner := {}
      ctx := { storeId := "store-1" }
      payload := .obj [("email", .arr [.str ""])] }
    let address := "\x7b\x7bdata.email\x7d\x7d"
    IsVoid X.bindings address
      ∧ X.Makes 0 (.task {} (.email [address] "" "")) w
          (fun r => ∃ mail, r = .send mail ∧ "" ∈ mail.recipients)
      ∧ ¬ X.Makes 0 (.task {} (.notification (some address) "" "" none)) w
          (fun r => ∃ emission, r = .emit emission) := by
  intro w X address
  have hvoid : IsVoid X.bindings address := by
    have htaken : Template.takePlaceholder address.toList
        = some (⟨.data, "email", address.toList⟩, []) := by cbv
    obtain ⟨f, hf, hsource⟩ := Template.exists_source htaken
    have hvalue : f.value X.bindings = .arr [.str ""] := by
      have hroot : f.root = .data := congrArg Placeholder.root hf
      have hpath : f.path = "email" := congrArg Placeholder.path hf
      rw [Template.Form.value, hroot, hpath]
      cbv
    refine ⟨[f], by simpa using hsource, fun g hg => ?_⟩
    rw [List.mem_singleton.1 hg, hvalue]
    exact ⟨by simp, .only .empty⟩
  have haimed := X.run_aimed 0 w
  have haddress : address ≠ "" := by decide
  refine ⟨hvoid, ?_, fun hmakes => ?_⟩
  · exact (haimed.2.2.1 {} [address] "" "").2
      ⟨rfl, rfl, address, List.mem_singleton.2 rfl, haddress, hvoid⟩
  · obtain ⟨-, -, hresolved⟩ := (haimed.2.2.2.1 {} (some address) "" "" none).1 hmakes
    exact hresolved.ne_empty (Template.render_eq_empty_iff.2 hvoid)

end Setting

end Automation
