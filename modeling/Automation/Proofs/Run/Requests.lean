/-
# What a run asks for

A task asks for effects only: it never records an outcome and sets no next run.
A reply that tells of a cancellation ends it, and it fails as cancelled only
after such a reply (`Task.process_heeds`). What each task may ask for is told by
cases (`Task.process_asks`): what is asked for outside, and of whom, follows from
these. A whole run asks for what its tasks ask for (`Runner.run_asks_of_tasks`), so
for effects only (`Runner.run_asks`).

Key definitions: `Process.Asks`, `Request.isEffect`, `Reply.isCancellation`,
`Task.Heeds`, `Task.MayAsk`, `Action.tasks`.
Key theorems: `Task.process_heeds`, `Task.process_asks`, `Runner.run_asks_of_tasks`,
`Runner.run_asks`.
-/
import Automation.Run.Sequence

namespace Automation

/-! ### The requests of a process -/

namespace Process

variable {α β : Type}

/-- Every request that the process can make satisfies `P`. -/
def Asks (P : Request → Prop) : Process α → Prop
  | .done _ => True
  | .clock next => ∀ now, (next now).Asks P
  | .token next => ∀ cancelled, (next cancelled).Asks P
  | .ask request next => P request ∧ ∀ reply, (next reply).Asks P

theorem Asks.bind {P : Request → Prop} {f : α → Process β} (hf : ∀ a, (f a).Asks P) :
    ∀ {p : Process α}, p.Asks P → (p.bind f).Asks P
  | .done a, _ => hf a
  | .clock _, h => fun now => Asks.bind hf (h now)
  | .token _, h => fun cancelled => Asks.bind hf (h cancelled)
  | .ask _ _, h => ⟨h.1, fun reply => Asks.bind hf (h.2 reply)⟩

theorem Asks.map {P : Request → Prop} (f : α → β) {p : Process α} (h : p.Asks P) :
    (p.map f).Asks P :=
  h.bind fun a => show (done (f a)).Asks P from trivial

/-- It does not matter which of three processes in a row are put together first. -/
theorem bind_bind {γ : Type} (f : α → Process β) (g : β → Process γ) :
    ∀ p : Process α, (p.bind f).bind g = p.bind fun a => (f a).bind g
  | .done _ => rfl
  | .clock next => congrArg clock (funext fun now => bind_bind f g (next now))
  | .token next => congrArg token (funext fun cancelled => bind_bind f g (next cancelled))
  | .ask request next => congrArg (ask request) (funext fun reply => bind_bind f g (next reply))

theorem Asks.mono {P Q : Request → Prop} (h : ∀ request, P request → Q request) :
    ∀ {p : Process α}, p.Asks P → p.Asks Q
  | .done _, _ => trivial
  | .clock _, hp => fun now => (hp now).mono h
  | .token _, hp => fun cancelled => (hp cancelled).mono h
  | .ask request _, hp => ⟨h request hp.1, fun reply => (hp.2 reply).mono h⟩

theorem Asks.and {P Q : Request → Prop} : ∀ {p : Process α}, p.Asks P → p.Asks Q →
    p.Asks fun request => P request ∧ Q request
  | .done _, _, _ => trivial
  | .clock _, hp, hq => fun now => (hp now).and (hq now)
  | .token _, hp, hq => fun cancelled => (hp cancelled).and (hq cancelled)
  | .ask _ _, hp, hq => ⟨⟨hp.1, hq.1⟩, fun reply => (hp.2 reply).and (hq.2 reply)⟩

theorem asks_perform {P : Request → Prop} {request : Request} (h : P request) :
    (perform request).Asks P := by
  intro cancelled
  cases cancelled with
  | true => exact trivial
  | false => exact ⟨h, fun _ => trivial⟩

end Process

/-- Whether a request is one of an action: the others belong to executions. -/
def Request.isEffect : Request → Bool
  | .record .. | .setNextRun .. => false
  | _ => true

/-- Whether a reply tells that the execution was cancelled. -/
def Reply.isCancellation : Reply → Bool
  | .cancelled => true
  | .failed (.action e _) => e.kind == .cancelled
  | _ => false

/-! ### Tasks -/

namespace Task

/-- A process that asks for effects only, ends with a reply that tells of a
cancellation, and fails as cancelled only then. -/
inductive Heeds : Process Result → Prop where
  | ok (result : ActionStatus × Members) : Heeds (.done (.ok result))
  | fail {e : ActionError} : e.kind ≠ .cancelled → Heeds (.done (.error e))
  | clock {next : Instant → Process Result} : (∀ now, Heeds (next now)) → Heeds (.clock next)
  | request {r : Request} {f : Reply → Process Result} : r.isEffect = true →
      (∀ reply : Reply, reply.isCancellation = true → ∃ result, f reply = .done result) →
      (∀ reply : Reply, reply.isCancellation = false → Heeds (f reply)) →
      Heeds ((Process.perform r).bind f)

theorem afterReply_cancelled {result : Reply → Members} {reply : Reply} {e : ActionError}
    (h : afterReply result reply = .error e) (he : e.kind = .cancelled) :
    reply.isCancellation = true := by
  cases reply with
  | failed f =>
    obtain rfl : failureOf f = e := Except.error.inj h
    cases f <;> exact beq_iff_eq.2 he
  | cancelled => rfl
  | _ => cases h

/-- A process that ends with a reply, and fails as cancelled only if the reply
tells so. -/
theorem heeds_done {f : Reply → Result} (hf : ∀ {reply : Reply} {e : ActionError},
      f reply = .error e → e.kind = .cancelled → reply.isCancellation = true)
    {reply : Reply} (hreply : reply.isCancellation = false) : Heeds (.done (f reply)) := by
  cases hresult : f reply with
  | ok result => exact .ok result
  | error e =>
    refine .fail fun he => ?_
    rw [hf hresult he] at hreply
    cases hreply

/-- A process that makes one request, and fails as cancelled only if the reply
tells so. -/
theorem heeds_map {r : Request} {f : Reply → Result} (hr : r.isEffect = true)
    (hf : ∀ {reply : Reply} {e : ActionError}, f reply = .error e → e.kind = .cancelled →
      reply.isCancellation = true) : Heeds ((Process.perform r).map f) :=
  .request hr (fun reply _ => ⟨f reply, rfl⟩) fun _ hreply => heeds_done hf hreply

theorem heeds_request {r : Request} (hr : r.isEffect = true) (result : Reply → Members) :
    Heeds (request r result) :=
  heeds_map hr afterReply_cancelled

theorem updateReply_cancelled {id : String} : ∀ {reply : Reply},
    (updateReply id reply).isCancellation = true → reply.isCancellation = true
  | .failed f, h => by cases f <;> exact h
  | .done, h | .status _, h | .found _, h | .record _, h | .cancelled, h => h

theorem kind_of_parse_error {text : Option String} {e : ActionError}
    (h : EntityKind.parse text = .error e) : e.kind = .invalidTarget := by
  unfold EntityKind.parse at h
  split at h
  · cases h
  · obtain rfl := Except.error.inj h
    rfl

theorem sendEmail_heeds (runner : Runner) (bindings : Bindings) (addresses : List String)
    (subject body : String) : Heeds (sendEmail runner bindings addresses subject body) := by
  simp only [sendEmail]
  split
  · exact .fail nofun
  · split
    · exact .fail nofun
    · exact heeds_request rfl _

theorem emitNotification_heeds (ctx : Context) (bindings : Bindings) (user : Option String)
    (title message : String) (priority : Option String) :
    Heeds (emitNotification ctx bindings user title message priority) := by
  simp only [emitNotification]
  split
  · exact .ok _
  · split
    · exact .fail nofun
    · exact .clock fun _ => heeds_request rfl _

theorem callWebhook_heeds (bindings : Bindings) (url : Option String) (method : String)
    (headers : List (String × String)) (body : Json) :
    Heeds (callWebhook bindings url method headers body) := by
  simp only [callWebhook]
  by_cases hurl : (Template.render bindings (url.getD "")).isEmpty = true
  · rw [if_pos hurl]
    exact .fail nofun
  · rw [if_neg hurl]
    exact heeds_request rfl _

/-- To find a record and to write it back heeds both replies. -/
theorem heeds_writeFound {kind : EntityKind} {id : String} (patch : Members) {f : Reply → Result}
    (hf : ∀ {reply : Reply} {e : ActionError}, f reply = .error e → e.kind = .cancelled →
      reply.isCancellation = true) :
    Heeds (((Process.perform (.find kind id)).bind (writeFound kind id patch)).map f) := by
  rw [Process.map, Process.bind_bind]
  refine .request rfl (fun reply hreply => ?_) fun reply hreply => ?_
  · cases reply with
    | found fields => cases hreply
    | _ => exact ⟨_, rfl⟩
  · cases reply with
    | found fields =>
      simp only [writeFound]
      split
      · exact heeds_map rfl hf
      · have hdone : Reply.done.isCancellation = false := rfl
        exact heeds_done hf hdone
    | _ => exact heeds_done hf hreply

theorem updateRecord_heeds (bindings : Bindings) (entity id : Option String) (updates : Members) :
    Heeds (updateRecord bindings entity id updates) := by
  simp only [updateRecord]
  split
  · rename_i e he
    exact .fail (by simp [kind_of_parse_error he])
  · split
    · exact .fail nofun
    · exact heeds_writeFound _ fun h he => updateReply_cancelled (afterReply_cancelled h he)

theorem createRecord_heeds (ctx : Context) (bindings : Bindings) (entity : Option String)
    (data : Members) : Heeds (createRecord ctx bindings entity data) := by
  unfold createRecord
  split
  · rename_i e he
    exact .fail (by simp [kind_of_parse_error he])
  · exact heeds_request rfl _

theorem sleepFor_heeds (milliseconds : Int) :
    ∀ seconds : Option Double, Heeds (sleepFor milliseconds seconds)
  | some _ => heeds_request rfl _
  | none => .fail nofun

/-- **A task fails as cancelled only if a reply tells so**, and asks for effects
only. -/
theorem process_heeds (runner : Runner) (ctx : Context) (payload : Json) :
    ∀ task : Task, Heeds (task.process runner ctx payload)
  | .email .. => sendEmail_heeds ..
  | .notification .. => emitNotification_heeds ..
  | .webhook .. => callWebhook_heeds ..
  | .update .. => updateRecord_heeds ..
  | .create .. => createRecord_heeds ..
  | .approval .. => .ok _
  | .delay _ => sleepFor_heeds ..
  | .unknown _ => .fail nofun

theorem Heeds.asks {p : Process Result} (h : Heeds p) : p.Asks (·.isEffect = true) := by
  induction h with
  | ok _ => exact trivial
  | fail _ => exact trivial
  | clock _ ih => exact ih
  | @request r f hr hcancelled _ ih =>
    refine (Process.asks_perform hr).bind fun reply => ?_
    cases hreply : reply.isCancellation with
    | true =>
      obtain ⟨result, hresult⟩ := hcancelled reply hreply
      rw [hresult]
      trivial
    | false => exact ih reply hreply

/-! ### The requests of a task -/

/-- The recipients of a mail: the addresses that are not empty, rendered. -/
def recipientsOf (b : Bindings) (addresses : List String) : List String :=
  (addresses.filter (!·.isEmpty)).map (Template.render b)

/-- What a task may ask for: before a request it has made sure of what the request
relies on, and of its target. -/
inductive MayAsk (runner : Runner) (ctx : Context) (b : Bindings) : Task → Request → Prop where
  | send {addresses : List String} {subject body : String} : runner.hasMailer = true →
      recipientsOf b addresses ≠ [] →
      MayAsk runner ctx b (.email addresses subject body)
        (.send ⟨recipientsOf b addresses, Template.render b subject, Template.render b body, none⟩)
  | emit {user priority : Option String} {title message : String} {payload : Members} :
      ctx.hasChannel = true → isTarget (Template.render b (user.getD "")) = true →
      MayAsk runner ctx b (.notification user title message priority)
        (.emit ⟨"user:" ++ Template.render b (user.getD ""), "notification", payload⟩)
  | call {url : Option String} {method : String} {headers : List (String × String)} {body : Json}
      {call : WebhookCall} : call.url = Template.render b (url.getD "") →
      MayAsk runner ctx b (.webhook url method headers body) (.call call)
  | find {entity id : Option String} {updates : Members} {kind : EntityKind} :
      EntityKind.parse entity = .ok kind → isTarget (Template.render b (id.getD "")) = true →
      MayAsk runner ctx b (.update entity id updates) (.find kind (Template.render b (id.getD "")))
  /-- The record that is written was found with some fields. -/
  | write {entity id : Option String} {updates found : Members} {kind : EntityKind} :
      EntityKind.parse entity = .ok kind → isTarget (Template.render b (id.getD "")) = true →
      MayAsk runner ctx b (.update entity id updates)
        (.write kind (Template.render b (id.getD ""))
          (Record.merged found (Template.renderMembers b updates)))
  | create {entity : Option String} {data : Members} {kind : EntityKind} :
      EntityKind.parse entity = .ok kind →
      MayAsk runner ctx b (.create entity data)
        (.create kind ((Template.renderMembers b data).put "storeId" (.str ctx.storeId)))
  | sleep {milliseconds : Int} {seconds : Double} :
      Double.ofQuotient? (max milliseconds 0) 1000 = some seconds →
      MayAsk runner ctx b (.delay milliseconds) (.sleep seconds)

theorem request_asks {P : Request → Prop} {r : Request} (h : P r) (result : Reply → Members) :
    (request r result).Asks P :=
  (Process.asks_perform h).map _

theorem writeFound_asks {P : Request → Prop} {kind : EntityKind} {id : String} {patch : Members}
    (h : ∀ found, P (.write kind id (Record.merged found patch))) :
    ∀ reply, (writeFound kind id patch reply).Asks P
  | .found fields => by
    simp only [writeFound]
    split
    · exact Process.asks_perform (h fields)
    · exact trivial
  | .done | .status _ | .record _ | .failed _ | .cancelled => trivial

/-- **What tasks ask for**, whatever the replies. -/
theorem process_asks (runner : Runner) (ctx : Context) (payload : Json) :
    ∀ task : Task, (task.process runner ctx payload).Asks
      (task.MayAsk runner ctx (ctx.bindings payload))
  | .email addresses subject body => by
    simp only [process, sendEmail]
    split
    · exact trivial
    · rename_i hmailer
      split
      · exact trivial
      · rename_i hsome
        exact request_asks (.send (by simpa using hmailer) (by simpa [recipientsOf] using hsome)) _
  | .notification user title message priority => by
    simp only [process, emitNotification]
    split
    · exact trivial
    · rename_i hchannel
      split
      · exact trivial
      · rename_i htarget
        exact fun _ => request_asks (.emit (by simpa using hchannel) (by simpa using htarget)) _
  | .webhook url method headers body => by
    simp only [process, callWebhook]
    split
    · exact trivial
    · exact request_asks (.call rfl) _
  | .update entity id updates => by
    simp only [process, updateRecord]
    split
    · exact trivial
    · rename_i kind hkind
      split
      · exact trivial
      · rename_i htarget
        have htarget : isTarget (Template.render (ctx.bindings payload) (id.getD "")) = true := by
          simpa using htarget
        refine Process.Asks.map _ (Process.Asks.bind (writeFound_asks fun _ => ?_) ?_)
        · exact .write hkind htarget
        · exact Process.asks_perform (.find hkind htarget)
  | .create entity data => by
    simp only [process, createRecord]
    split
    · exact trivial
    · rename_i kind hkind
      exact request_asks (.create hkind) _
  | .approval .. => trivial
  | .delay milliseconds => by
    simp only [process, letPass]
    cases hseconds : Double.ofQuotient? (max milliseconds 0) 1000 with
    | none => exact trivial
    | some seconds => exact request_asks (.sleep hseconds) _
  | .unknown _ => trivial

end Task

/-! ### Runs -/

namespace Action

mutual

/-- The tasks of an action: the task that it is, or those of both sides of a branch. -/
def tasks : Action → List Task
  | .task _ t => [t]
  | .branch _ _ thens elses => tasksOf thens ++ tasksOf elses

def tasksOf : List Action → List Task
  | [] => []
  | a :: rest => a.tasks ++ tasksOf rest

end

end Action

theorem Step.runAll_asks {P : Request → Prop} : ∀ {steps : List Step},
    (∀ s ∈ steps, ∀ depth, (s.process depth).Asks P) → ∀ depth, (Step.runAll depth steps).Asks P
  | [], _, _ => trivial
  | step :: rest, h, depth => by
    have hrest := runAll_asks (fun s hs => h s (List.mem_cons_of_mem _ hs)) depth
    refine (h step (List.mem_cons_self ..) depth).bind fun outcome => ?_
    cases outcome.failure with
    | none => exact hrest.map _
    | some f =>
      by_cases hc : step.continueOnError = true
      · simp only [if_pos hc]
        exact hrest.map _
      · simp only [if_neg hc]
        trivial

theorem Step.sorted_asks {P : Request → Prop} {steps : List Step}
    (h : ∀ s ∈ steps, ∀ depth, (s.process depth).Asks P) (depth : Int) :
    (Step.runAll depth (Step.sorted steps)).Asks P :=
  runAll_asks (fun s hs => h s (List.mem_mergeSort.1 hs)) depth

theorem Process.Asks.unlessCancelled {P : Request → Prop} {kind : String} {p : Process Outcome}
    (h : p.Asks P) : (p.unlessCancelled kind).Asks P := by
  intro cancelled
  cases cancelled with
  | true => exact trivial
  | false => exact h

namespace Runner

theorem branch_asks {P : Request → Prop} (runner : Runner) (payload : Json)
    (condition : Option Condition) {thens elses : List Step}
    (hthens : ∀ s ∈ thens, ∀ depth, (s.process depth).Asks P)
    (helses : ∀ s ∈ elses, ∀ depth, (s.process depth).Asks P) (depth : Int) :
    (runner.branch payload condition thens elses depth).Asks P := by
  cases condition with
  | none => exact trivial
  | some c =>
    simp only [branch]
    split
    · exact trivial
    · refine (Step.sorted_asks ?_ _).map _
      split
      · exact hthens
      · exact helses

section tasks

variable {P : Request → Prop} {runner : Runner} {ctx : Context} {payload : Json}

mutual

theorem step_asks : ∀ a : Action, (∀ task ∈ a.tasks, (task.process runner ctx payload).Asks P) →
    ∀ depth, ((runner.step ctx payload a).process depth).Asks P
  | .task _ task, h, _ => ((h task (List.mem_singleton.2 rfl)).map _).unlessCancelled
  | .branch _ condition thens elses, h, depth =>
    (branch_asks runner payload condition
      (steps_asks thens fun task htask => h task (List.mem_append_left _ htask))
      (steps_asks elses fun task htask => h task (List.mem_append_right (Action.tasksOf thens) htask))
      depth).unlessCancelled

theorem steps_asks : ∀ actions : List Action,
    (∀ task ∈ Action.tasksOf actions, (task.process runner ctx payload).Asks P) →
    ∀ s ∈ runner.steps ctx payload actions, ∀ depth, (s.process depth).Asks P
  | [], _, s, hs => by cases hs
  | a :: rest, h, s, hs => by
    rcases List.mem_cons.1 hs with heq | hs
    · exact heq ▸ step_asks a fun task htask => h task (List.mem_append_left _ htask)
    · exact steps_asks rest (fun task htask => h task (List.mem_append_right a.tasks htask)) s hs

end

/-- A run asks for nothing but what the tasks of its actions ask for. -/
theorem run_asks_of_tasks {actions : List Action}
    (h : ∀ task ∈ Action.tasksOf actions, (task.process runner ctx payload).Asks P) (depth : Int) :
    (runner.run ctx payload actions depth).Asks P :=
  Step.sorted_asks (steps_asks actions h) depth

/-- A run asks for nothing but what tasks ask for. -/
theorem run_asks_of (h : ∀ task : Task, (task.process runner ctx payload).Asks P)
    (actions : List Action) (depth : Int) : (runner.run ctx payload actions depth).Asks P :=
  run_asks_of_tasks (fun task _ => h task) depth

end tasks

/-- A run asks for effects only. -/
theorem run_asks (runner : Runner) (ctx : Context) (payload : Json) (actions : List Action)
    (depth : Int) : (runner.run ctx payload actions depth).Asks (·.isEffect = true) :=
  run_asks_of (fun task => (Task.process_heeds runner ctx payload task).asks) actions depth

end Runner

end Automation
