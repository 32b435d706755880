/-
# Tasks that are refused

A task is refused if it fails because something is not set up, because its target
cannot be found, or because it is malformed. Tasks check their parts in different
orders, and an update learns only from the store that its record does not exist; but
all of them are refused before they have had any effect: whatever the ports reply, as
long as they fail as their contracts say, a process of a task that ends with a refusal
has made no request but idle ones, which look up a record or are themselves turned
away for want of one (`Task.process_onlyIdle`). This is a property of the process, so
it does not matter what other executions do between its requests.

In a setting it means that a refused action has sent no mail, called no webhook,
emitted nothing, created nothing, and left the records as they were
(`Setting.act_untouched`).

Key definitions: `ErrorKind.isRefusal`, `Request.MayRaise`, `Request.isIdle`,
`Process.OnlyIdle`, `Environment.Contracts`, `World.contracts`,
`Setting.Untouched`.
Key theorems: `Task.process_onlyIdle`, `Process.OnlyIdle.run`,
`Setting.act_untouched`.
-/
import Automation.Proofs.Engine.Resting
import Automation.Proofs.Run.Quiet

namespace Automation

/-! ### What ports may reply -/

/-- Whether failures of a kind tell that an action cannot be carried out as it is. -/
def ErrorKind.isRefusal : ErrorKind → Bool
  | .configMissing | .invalidTarget | .definition => true
  | .transient | .cancelled | .internal => false

namespace Request

/-- What the port of a request may fail with: mail and webhooks with failures of
actions that may pass, the other ports of actions with no failure of an action.
Failures that no action foresees are not excluded. -/
def MayRaise : Request → Failure → Prop
  | .send _, .action e _ | .call _, .action e _ => e.kind = .transient
  | .emit _, .action _ _ | .sleep _, .action _ _ | .find _ _, .action _ _
  | .write _ _ _, .action _ _ | .create _ _, .action _ _ => False
  | _, _ => True

def MayReply (request : Request) (reply : Reply) : Prop :=
  ∀ f, reply = .failed f → request.MayRaise f

/-- Whether a request with its reply has no effect: it looks up a record, or the
record that it should write does not exist. -/
def isIdle : Request → Reply → Bool
  | .find _ _, _ => true
  | .write _ _ _, .failed (.notFound _ _) => true
  | _, _ => false

/-- A write is idle only if its record does not exist. -/
theorem exists_of_isIdle_write {kind : EntityKind} {id : String} {fields : Members}
    {reply : Option Reply} (h : (write kind id fields).isIdle (reply.getD .cancelled) = true) :
    ∃ kind' id', reply = some (.failed (.notFound kind' id')) := by
  cases reply with
  | none => cases h
  | some reply =>
    cases reply with
    | failed f =>
      cases f with
      | notFound kind' id' => exact ⟨kind', id', rfl⟩
      | _ => cases h
    | _ => cases h

/-- No port fails with the refusal of an action. -/
theorem MayRaise.not_isRefusal {request : Request} {f : Failure} (h : request.MayRaise f)
    (heffect : request.isEffect = true) : (Task.failureOf f).kind.isRefusal = false := by
  cases f with
  | action e kind =>
    have htransient : e.kind = .transient := by
      cases request with
      | send _ | call _ => exact h
      | record | setNextRun => cases heffect
      | _ => exact h.elim
    rw [Task.failureOf, htransient]
    rfl
  | _ => rfl

end Request

/-! ### Processes that are idle unless they succeed -/

namespace Process

variable {α β : Type}

/-- Whatever the ports reply, a result of which `P` holds comes after idle requests
only; the flag tells whether all requests so far were idle. -/
def OnlyIdle (P : α → Prop) : Process α → Bool → Prop
  | .done a, idle => P a → idle = true
  | .clock next, idle => ∀ now, (next now).OnlyIdle P idle
  | .token next, idle => ∀ cancelled, (next cancelled).OnlyIdle P idle
  | .ask request next, idle =>
    ∀ reply, request.MayReply reply → (next reply).OnlyIdle P (idle && request.isIdle reply)

theorem OnlyIdle.map {P : α → Prop} {Q : β → Prop} {f : α → β} (hf : ∀ a, Q (f a) → P a) :
    ∀ {p : Process α} {idle : Bool}, p.OnlyIdle P idle → (p.map f).OnlyIdle Q idle
  | .done a, _, h => fun hq => h (hf a hq)
  | .clock _, _, h => fun now => (h now).map hf
  | .token _, _, h => fun cancelled => (h cancelled).map hf
  | .ask _ _, _, h => fun reply hreply => (h reply hreply).map hf

/-- Once a request had an effect there is no refusal; before, there may be. -/
theorem onlyIdle_done {P : α → Prop} {a : α} (h : ¬ P a) (idle : Bool) : (done a).OnlyIdle P idle :=
  fun ha => absurd ha h

end Process

/-! ### Tasks -/

namespace Task

/-- Whether a task was refused. -/
def IsRefused (result : Result) : Prop := ∃ e, result = .error e ∧ e.kind.isRefusal = true

theorem not_isRefused_ok (result : ActionStatus × Members) : ¬ IsRefused (.ok result) := by
  rintro ⟨e, he, -⟩
  cases he

theorem not_isRefused_cancellation : ¬ IsRefused (.error .cancellation) := by
  rintro ⟨e, he, hrefusal⟩
  cases he
  cases hrefusal

/-- No reply of a port refuses a task by itself. -/
theorem not_isRefused_afterReply {request : Request} {reply : Reply}
    (heffect : request.isEffect = true) (h : request.MayReply reply) (result : Reply → Members) :
    ¬ IsRefused (afterReply result reply) := by
  cases reply with
  | failed f =>
    rintro ⟨e, he, hrefusal⟩
    rw [← Except.error.inj he, (h f rfl).not_isRefusal heffect] at hrefusal
    cases hrefusal
  | cancelled => exact not_isRefused_cancellation
  | _ => exact not_isRefused_ok _

/-- Only a record that does not exist refuses an update. -/
theorem notFound_of_isRefused {request : Request} {id : String} {reply : Reply}
    (heffect : request.isEffect = true) (h : request.MayReply reply) {result : Reply → Members}
    (hrefused : IsRefused (afterReply result (updateReply id reply))) :
    ∃ kind missing, reply = .failed (.notFound kind missing) := by
  cases reply with
  | failed f =>
    cases f with
    | notFound kind missing => exact ⟨kind, missing, rfl⟩
    | _ => exact absurd hrefused (not_isRefused_afterReply heffect h result)
  | _ => exact absurd hrefused (not_isRefused_afterReply heffect h result)

theorem request_onlyIdle {r : Request} (hr : r.isEffect = true) (result : Reply → Members)
    (idle : Bool) : (request r result).OnlyIdle IsRefused idle := by
  intro cancelled
  cases cancelled with
  | true => exact Process.onlyIdle_done not_isRefused_cancellation idle
  | false =>
    exact fun reply hreply => Process.onlyIdle_done (not_isRefused_afterReply hr hreply result) _

/-- An update is refused by the store only, for want of its record. -/
theorem writeFound_onlyIdle (kind : EntityKind) (id : String) (patch : Members)
    (result : Reply → Members) {reply : Reply} (h : (Request.find kind id).MayReply reply) :
    ((writeFound kind id patch reply).map fun reply =>
      afterReply result (updateReply id reply)).OnlyIdle IsRefused true := by
  cases reply with
  | found fields =>
    simp only [writeFound]
    split
    · intro cancelled
      cases cancelled with
      | true => exact Process.onlyIdle_done not_isRefused_cancellation _
      | false =>
        intro reply hreply hrefused
        obtain ⟨_, _, rfl⟩ := notFound_of_isRefused rfl hreply hrefused
        rfl
    · exact Process.onlyIdle_done (not_isRefused_ok _) _
  | _ => exact fun _ => rfl

theorem updateRecord_onlyIdle (bindings : Bindings) (entity id : Option String) (updates : Members) :
    (updateRecord bindings entity id updates).OnlyIdle IsRefused true := by
  simp only [updateRecord]
  split
  · exact fun _ => rfl
  · rename_i kind _
    split
    · exact fun _ => rfl
    · rw [Process.map, Process.bind_bind]
      intro cancelled
      cases cancelled with
      | true => exact Process.onlyIdle_done not_isRefused_cancellation _
      | false => exact fun reply hreply => writeFound_onlyIdle kind _ _ _ hreply

/-- **A task is refused before it has any effect**, whatever the event, the context
and the replies of the ports. -/
theorem process_onlyIdle (runner : Runner) (ctx : Context) (payload : Json) :
    ∀ task : Task, (task.process runner ctx payload).OnlyIdle IsRefused true
  | .email addresses subject body => by
    simp only [process, sendEmail]
    split
    · exact fun _ => rfl
    · split
      · exact fun _ => rfl
      · exact request_onlyIdle rfl _ _
  | .notification user title message priority => by
    simp only [process, emitNotification]
    split
    · exact Process.onlyIdle_done (not_isRefused_ok _) _
    · split
      · exact fun _ => rfl
      · exact fun _ => request_onlyIdle rfl _ _
  | .webhook url method headers body => by
    simp only [process, callWebhook]
    split
    · exact fun _ => rfl
    · exact request_onlyIdle rfl _ _
  | .update entity id updates => updateRecord_onlyIdle ..
  | .create entity data => by
    simp only [process, createRecord]
    split
    · exact fun _ => rfl
    · exact request_onlyIdle rfl _ _
  | .approval .. => Process.onlyIdle_done (not_isRefused_ok _) _
  | .delay milliseconds => by
    simp only [process, letPass]
    cases Double.ofQuotient? (max milliseconds 0) 1000 with
    | some seconds => exact request_onlyIdle rfl _ _
    | none => exact fun _ => rfl
  | .unknown _ => fun _ => rfl

end Task

/-- Whether an action was refused. -/
def Outcome.IsRefused (o : Outcome) : Prop :=
  ∃ f, o.failure = some f ∧ f.error.kind.isRefusal = true

/-- An action that is a task is refused only if the task is. -/
theorem Runner.step_onlyIdle (runner : Runner) (ctx : Context) (payload : Json) (policy : Policy)
    (task : Task) (depth : Int) :
    ((runner.step ctx payload (.task policy task)).process depth).OnlyIdle Outcome.IsRefused true := by
  intro cancelled
  cases cancelled with
  | true =>
    refine Process.onlyIdle_done ?_ _
    rintro ⟨f, hf, hrefusal⟩
    cases hf
    cases hrefusal
  | false =>
    refine (task.process_onlyIdle runner ctx payload).map fun result hrefused => ?_
    obtain ⟨f, hf, hrefusal⟩ := hrefused
    cases result with
    | ok _ => cases hf
    | error e =>
      cases hf
      exact ⟨e, rfl, hrefusal⟩

/-! ### Ports that keep their contracts -/

/-- The ports of an environment keep their contracts: they fail only as they may, to
look up a record changes none, and neither does a write that finds no record. -/
structure Environment.Contracts {σ : Type} (env : Environment σ) where
  /-- The states in which the ports keep their contracts. -/
  Kept : σ → Prop
  records : σ → Records
  kept_serve : ∀ token request s, Kept s → Kept (env.serve token request s).2
  raises : ∀ token request s f, Kept s → (env.serve token request s).1 = some (.failed f) →
    request.MayRaise f
  find : ∀ token kind id s, Kept s →
    records (env.serve token (.find kind id) s).2 = records s
  write : ∀ token kind id fields s, Kept s → ∀ kind' id',
    (env.serve token (.write kind id fields) s).1 = some (.failed (.notFound kind' id')) →
      records (env.serve token (.write kind id fields) s).2 = records s

/-- Mail, webhooks and the channel fail only as they may. -/
structure Outside.KeepsContracts (o : Outside) : Prop where
  mail : ∀ e kind, o.mailFailure = some (.action e kind) → e.kind = .transient
  channel : ∀ e kind, o.channelFailure ≠ some (.action e kind)
  webhooks : ∀ url e kind, o.endpoints.lookup url = some (.fails (.action e kind)) →
    e.kind = .transient

theorem Records.of_find_eq_error {t : Records} {kind : EntityKind} {id : String} {f : Failure}
    (h : t.find kind id = .error f) : ∃ kind id, f = .notFound kind id := by
  unfold find at h
  split at h
  · cases h
  · cases h
    exact ⟨_, _, rfl⟩

theorem Records.of_create_eq_error {t : Records} {id : String} {kind : EntityKind} {data : Members}
    {f : Failure} (h : t.create id kind data = .error f) :
    ∃ message field, f = .invalid message field := by
  have howner : ownerOf data = .error f := by
    cases howner : ownerOf data with
    | error e =>
      rw [create, howner] at h
      exact congrArg _ (Except.error.inj h)
    | ok owner =>
      rw [create, howner] at h
      cases h
  unfold ownerOf at howner
  simp only at howner
  split at howner
  · cases howner
  · cases howner
    exact ⟨_, _, rfl⟩

namespace World

theorem of_later_eq_error {w : World} {micros : Int} {f : Failure} (h : w.later micros = .error f) :
    ∃ e, f = .calendar e := by
  unfold later at h
  split at h
  · cases h
  · cases h
    exact ⟨_, rfl⟩

theorem answer_mayRaise {url : String} {status : Int} {call : WebhookCall} {f : Failure}
    (h : answer url status = .failed f) : (Request.call call).MayRaise f := by
  unfold answer at h
  split at h
  · cases h
  · cases h
    rfl

/-- A world of which the outside keeps its contracts fails only as it may. -/
theorem serve_mayRaise {token : Token} {request : Request} {w : World} {f : Failure}
    (hw : w.outside.KeepsContracts) (h : (World.serve token request w).1 = some (.failed f)) :
    request.MayRaise f := by
  cases request with
  | send mail =>
    simp only [serve] at h
    split at h
    · rename_i failure hfailure
      cases h
      cases f with
      | action e kind => exact hw.mail e kind hfailure
      | _ => trivial
    · cases h
  | call call =>
    simp only [serve, serveCall] at h
    split at h
    · exact answer_mayRaise (Option.some.inj h)
    · rename_i failure hfailure
      cases h
      cases f with
      | action e kind =>
        refine hw.webhooks call.url e kind ?_
        cases hfound : w.outside.endpoints.lookup call.url with
        | none =>
          rw [show (w.noteCall call).outside = w.outside from rfl, hfound] at hfailure
          cases hfailure
        | some endpoint =>
          rw [show (w.noteCall call).outside = w.outside from rfl, hfound] at hfailure
          exact congrArg some hfailure
      | _ => trivial
    · cases h
    · cases h
    · exact answer_mayRaise (Option.some.inj h)
  | emit emission =>
    simp only [serve] at h
    split at h
    · rename_i failure hfailure
      cases h
      cases f with
      | action e kind => exact absurd hfailure (hw.channel e kind)
      | _ => trivial
    · cases h
  | sleep seconds =>
    simp only [serve, serveSleep] at h
    split at h
    · cases h
    · split at h
      · cases h
      · rename_i hlater
        cases h
        obtain ⟨_, rfl⟩ := of_later_eq_error hlater
        trivial
  | find kind id =>
    simp only [serve] at h
    split at h
    · cases h
    · rename_i hfind
      cases h
      obtain ⟨_, _, rfl⟩ := Records.of_find_eq_error hfind
      trivial
  | write kind id fields => cases h
  | create kind data =>
    simp only [serve] at h
    split at h
    · cases h
    · rename_i hcreate
      cases h
      obtain ⟨_, _, rfl⟩ := Records.of_create_eq_error hcreate
      trivial
  | record | setNextRun => trivial

/-- The contracts of a world. -/
def contracts : World.environment.Contracts where
  Kept w := w.outside.KeepsContracts
  records := World.records
  kept_serve token request w hw := (serve_heeds token request w).outside ▸ hw
  raises token request w f hw h := serve_mayRaise hw h
  find token kind id w _ := by
    simp only [World.environment, World.serve]
    split <;> rfl
  write token kind id fields w _ kind' id' h := by cases h

end World

/-! ### Refused actions -/

/-- Whether a request that was made, with the reply that it got, was idle. -/
def Process.Made.IsIdle {σ : Type} (env : Environment σ) (token : Token) (made : Process.Made σ) :
    Prop :=
  made.request.isIdle ((env.serve token made.request made.before).1.getD .cancelled) = true

/-- A run that ends with a result of which `P` holds has made idle requests only, and
has left the records as they were. -/
theorem Process.OnlyIdle.run {α σ : Type} {P : α → Prop} {env : Environment σ} (C : env.Contracts)
    (token : Token) : ∀ {p : Process α} {idle : Bool} {s : σ}, p.OnlyIdle P idle → C.Kept s →
      P (p.run env token s).1 → idle = true ∧ (∀ made ∈ p.requests env token s, made.IsIdle env token)
        ∧ C.records (p.run env token s).2 = C.records s
  | .done _, _, _, h, _, hP => ⟨h hP, nofun, rfl⟩
  | .clock next, _, s, h, hs, hP => OnlyIdle.run C token (p := next (env.now s)) (h _) hs hP
  | .token next, _, s, h, hs, hP =>
    OnlyIdle.run C token (p := next (env.cancelled token s)) (h _) hs hP
  | .ask request next, idle, s, h, hs, hP => by
    have hreply : request.MayReply ((env.serve token request s).1.getD .cancelled) := by
      intro f hf
      cases hserve : (env.serve token request s).1 with
      | none =>
        rw [hserve] at hf
        cases hf
      | some reply =>
        rw [hserve, Option.getD_some] at hf
        exact C.raises token request s f hs (hf ▸ hserve)
    obtain ⟨hidle, hrest, hrecords⟩ :=
      OnlyIdle.run C token (h _ hreply) (C.kept_serve token request s hs) hP
    obtain ⟨hbefore, hnow⟩ := Bool.and_eq_true_iff.1 hidle
    refine ⟨hbefore, List.forall_mem_cons.2 ⟨hnow, hrest⟩, hrecords.trans ?_⟩
    cases request with
    | find kind id => exact C.find token kind id s hs
    | write kind id fields =>
      obtain ⟨kind', id', hserve⟩ := Request.exists_of_isIdle_write hnow
      exact C.write token kind id fields s hs kind' id' hserve
    | _ => cases hnow

namespace Setting

variable {σ : Type} {X : Setting σ}

/-- An action has had no effect: it has sent nothing, called nothing, emitted nothing
and created nothing, and the records are as they were. -/
structure Untouched (C : X.env.Contracts) (depth : Int) (a : Action) (s : σ) : Prop where
  mail : ∀ made ∈ X.actRequests depth a s, ∀ mail, made.request ≠ .send mail
  webhooks : ∀ made ∈ X.actRequests depth a s, ∀ call, made.request ≠ .call call
  broadcast : ∀ made ∈ X.actRequests depth a s, ∀ emission, made.request ≠ .emit emission
  creation : ∀ made ∈ X.actRequests depth a s, ∀ kind data, made.request ≠ .create kind data
  /-- Whatever it meant to write has found no record. -/
  writes : ∀ made ∈ X.actRequests depth a s, ∀ kind id fields,
    made.request = .write kind id fields → ∃ kind' id',
      (X.env.serve X.ctx.token made.request made.before).1 = some (.failed (.notFound kind' id'))
  records : C.records (X.act depth a s).2 = C.records s

/-- **A refused action has had no effect.** Whatever the action, the event, the
context and the state of the ports: if an action that is no branch fails because
something is not set up, because its target cannot be found or because it is
malformed, then nothing has gone outside and the records are as they were. -/
theorem act_untouched (C : X.env.Contracts) (depth : Int) (policy : Policy) (task : Task) {s : σ}
    (hs : C.Kept s) {f : ActionFailure}
    (hfailure : (X.act depth (.task policy task) s).1.failure = some f)
    (hkind : f.error.kind = .configMissing ∨ f.error.kind = .invalidTarget
      ∨ f.error.kind = .definition) : X.Untouched C depth (.task policy task) s := by
  have hrefused : (X.act depth (.task policy task) s).1.IsRefused := by
    refine ⟨f, hfailure, ?_⟩
    rcases hkind with hkind | hkind | hkind <;> rw [hkind] <;> rfl
  obtain ⟨-, hidle, hrecords⟩ := Process.OnlyIdle.run C X.ctx.token
    (X.runner.step_onlyIdle X.ctx X.payload policy task depth) hs hrefused
  have hnone {request : Request} (hbusy : ∀ reply, request.isIdle reply = false) :
      ∀ made ∈ X.actRequests depth (.task policy task) s, made.request ≠ request := by
    rintro made hmade rfl
    have hmade := hidle made hmade
    rw [Process.Made.IsIdle, hbusy] at hmade
    cases hmade
  refine ⟨fun made hmade mail => hnone (fun _ => rfl) made hmade,
    fun made hmade call => hnone (fun _ => rfl) made hmade,
    fun made hmade emission => hnone (fun _ => rfl) made hmade,
    fun made hmade kind data => hnone (fun _ => rfl) made hmade,
    fun made hmade kind id fields hwrite => ?_, hrecords⟩
  have hmade := hidle made hmade
  rw [Process.Made.IsIdle, hwrite] at hmade
  rw [hwrite]
  exact Request.exists_of_isIdle_write hmade

/-- An update of a record that does not exist, in a world in which mail and webhooks
fail: it has looked the record up, and that is all. -/
theorem act_untouched_missing :
    let w : World := {
      clock := ⟨0⟩
      outside := {
        mailFailure := some (.action (.transient "Email delivery failed: smtp down" "" []) none)
        endpoints := [("https://hooks.example/a", .answers 500)] }
      records := ⟨[⟨"p-1", .product, "store-1", [("price", .int 1)]⟩]⟩ }
    let X : Setting World := {
      env := World.environment
      runner := {}
      ctx := { storeId := "store-1" }
      payload := .obj [("product", .str "p-2")] }
    let update : Task :=
      .update (some " Product ") (some "\x7b\x7bdata.product\x7d\x7d") [("price", .int 5)]
    World.contracts.Kept w
      ∧ (X.act 0 (.task {} update) w).1.failure.map (·.error.kind) = some .invalidTarget
      ∧ X.Untouched World.contracts 0 (.task {} update) w := by
  intro w X update
  have hkept : World.contracts.Kept w := by
    refine ⟨fun e kind h => ?_, fun e kind h => ?_, fun url e kind h => ?_⟩
    · cases h
      rfl
    · cases h
    · simp only [w, List.lookup_cons, List.lookup_nil] at h
      split at h <;> cases h
  have hfailure : (X.act 0 (.task {} update) w).1.failure.map (·.error.kind) = some .invalidTarget := by
    decide +kernel
  obtain ⟨f, hf, hkind⟩ := Option.map_eq_some_iff.1 hfailure
  exact ⟨hkept, hfailure,
    act_untouched World.contracts 0 {} update hkept hf (.inr (.inl hkind))⟩

end Setting

end Automation
