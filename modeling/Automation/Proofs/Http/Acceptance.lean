/-
# What becomes of a run that is acknowledged

A caller who leaves a run of a workflow to the workers is told whether it will be run.
That answer is a matter of the workflow alone: it is shown to the caller and active, or
the run is refused. Whether the run is queued is a matter of the queue alone: it takes
a job if workers are there and a place is free (`Dispatcher.HasRoom`). So a run is
acknowledged and lost when only the second fails: before the start, after a stop, and
while the queue is full (`Engine.runManual_cases`). Of runs that are asked for in a row
all that may be run are acknowledged, and the first are queued, as many as there is room
for (`Engine.askAll_eq`, `Dispatcher.jobs_enqueueAll`).

Requests for runs are answered in the same way, with the status of an accepted request
or of a refusal (`Http.handle_of_asksRun`), and no other request is accepted
(`Http.asksRun_of_accepted`).

Key definitions: `Dispatcher.HasRoom`, `Dispatcher.admitted`, `Engine.withJob`,
`Engine.runnable`, `Engine.askAll`, `Http.Request.AsksRun`.
Key theorems: `Dispatcher.jobs_enqueueAll`, `Engine.runManual_cases`,
`Engine.askAll_eq`, `Http.handle_of_asksRun`, `Http.run_acknowledged`.
-/
import Automation.Proofs.Engine.Queue
import Automation.Proofs.Http.Isolation

namespace Automation

namespace Dispatcher

variable {ι : Type} {d : Dispatcher ι} {job : ι}

/-- Workers are there, and a place in the queue is free. -/
def HasRoom (d : Dispatcher ι) : Prop :=
  d.running = true ∧ ∀ n ∈ d.capacity, d.pending.length < n

/-- The queue with one more job at its end. -/
def withJob (d : Dispatcher ι) (job : ι) : Dispatcher ι :=
  { d with
    accepted := d.accepted + 1
    pending := d.pending ++ [(d.accepted, job)]
    unfinished := d.unfinished + 1 }

/-- The jobs that wait. -/
def jobs (d : Dispatcher ι) : List ι := d.pending.map (·.2)

/-- The queue after jobs that come in a row. -/
def enqueueAll (d : Dispatcher ι) (jobs : List ι) : Dispatcher ι :=
  jobs.foldl (fun d job => (d.enqueue job).2) d

/-- Which jobs are taken of those that come in a row. -/
def admitted (d : Dispatcher ι) (jobs : List ι) : List ι :=
  if d.running then
    match d.capacity with
    | none => jobs
    | some n => jobs.take (n - d.pending.length)
  else []

theorem enqueue_of_hasRoom (h : d.HasRoom) (job : ι) : d.enqueue job = (true, d.withJob job) := by
  rcases enqueue_eq d job with ⟨-, -, heq⟩ | ⟨hfull, -⟩
  · exact heq
  · exact absurd h hfull

theorem enqueue_of_not_hasRoom (h : ¬ d.HasRoom) (job : ι) : d.enqueue job = (false, d) := by
  rcases enqueue_eq d job with ⟨hrunning, hroom, -⟩ | ⟨-, heq⟩
  · exact absurd ⟨hrunning, hroom⟩ h
  · exact heq

theorem jobs_withJob (d : Dispatcher ι) (job : ι) : (d.withJob job).jobs = d.jobs ++ [job] := by
  simp [jobs, withJob]

theorem admitted_nil (d : Dispatcher ι) : d.admitted [] = [] := by
  unfold admitted
  split
  · cases d.capacity <;> simp
  · rfl

theorem admitted_of_not_hasRoom (h : ¬ d.HasRoom) (jobs : List ι) : d.admitted jobs = [] := by
  unfold admitted
  by_cases hrunning : d.running = true
  · rw [if_pos hrunning]
    cases hcapacity : d.capacity with
    | none => exact absurd ⟨hrunning, by simp [hcapacity]⟩ h
    | some n =>
      have hfull : n ≤ d.pending.length := by
        by_contra hlt
        exact h ⟨hrunning, by simpa [hcapacity] using hlt⟩
      simp [Nat.sub_eq_zero_of_le hfull]
  · rw [if_neg hrunning]

/-- The first job takes a place from those behind it. -/
theorem admitted_cons (h : d.HasRoom) (job : ι) (jobs : List ι) :
    d.admitted (job :: jobs) = job :: (d.withJob job).admitted jobs := by
  have hrunning : (d.withJob job).running = true := h.1
  have hcapacity : (d.withJob job).capacity = d.capacity := rfl
  have hlength : (d.withJob job).pending.length = d.pending.length + 1 := by simp [withJob]
  unfold admitted
  rw [if_pos h.1, if_pos hrunning, hcapacity]
  cases hn : d.capacity with
  | none => rfl
  | some n =>
    have hroom : d.pending.length < n := h.2 n hn
    have hplaces : n - d.pending.length = n - (d.pending.length + 1) + 1 := by omega
    simp only [hlength]
    rw [hplaces, List.take_succ_cons]

/-- **Jobs that come in a row are taken as long as there is room**, and the others are
dropped. -/
theorem jobs_enqueueAll : ∀ (jobs : List ι) (d : Dispatcher ι),
    (d.enqueueAll jobs).jobs = d.jobs ++ d.admitted jobs
  | [], d => by rw [admitted_nil, List.append_nil]; rfl
  | job :: jobs, d => by
    have hcons : d.enqueueAll (job :: jobs) = (d.enqueue job).2.enqueueAll jobs := rfl
    rw [hcons]
    by_cases h : d.HasRoom
    · rw [enqueue_of_hasRoom h, jobs_enqueueAll jobs, admitted_cons h, jobs_withJob,
        List.append_assoc, List.singleton_append]
    · rw [enqueue_of_not_hasRoom h, jobs_enqueueAll jobs, admitted_of_not_hasRoom h,
        admitted_of_not_hasRoom h]

end Dispatcher

namespace Engine

/-- The engine with one more job at the end of its queue. -/
def withJob (e : Engine) (job : Job) : Engine :=
  { e with dispatcher := e.dispatcher.withJob job }

/-- The workflow with an id, if a caller may run it. -/
def runnable (e : Engine) (id : String) (ctx : Context) : Except Failure Workflow :=
  (e.visible id ctx.storeId ctx.organizationId).bind fun w =>
    if w.isExecutable then .ok w else .error (.notFound "Workflow" id)

variable {e : Engine} {id : String} {payload : Json} {ctx : Context} {w : Workflow}

theorem runnable_eq_ok : e.runnable id ctx = .ok w ↔
    e.visible id ctx.storeId ctx.organizationId = .ok w ∧ w.isExecutable = true := by
  unfold runnable
  cases e.visible id ctx.storeId ctx.organizationId with
  | error failure => simp [Except.bind]
  | ok v =>
    by_cases hv : v.isExecutable = true
    · simp only [Except.bind, if_pos hv, Except.ok.injEq]
      exact ⟨fun h => ⟨h, h ▸ hv⟩, And.left⟩
    · simp only [Except.bind, if_neg hv, reduceCtorEq, Except.ok.injEq, false_iff, not_and]
      exact fun h => h ▸ hv

theorem id_of_runnable (h : e.runnable id ctx = .ok w) : w.id = id :=
  Table.id_of_shown (shown_of_visible (runnable_eq_ok.1 h).1)

/-- **The answer is a matter of the workflow, the queue of its own.** -/
theorem runManual_eq (e : Engine) (id : String) (payload : Json) (ctx : Context) :
    e.runManual id payload ctx = (e.runnable id ctx,
      if (e.runnable id ctx).toBool then (e.enqueue (.run id payload ctx)).2 else e) := by
  cases hrunnable : e.runnable id ctx with
  | error failure =>
    unfold runnable at hrunnable
    unfold runManual
    cases hvisible : e.visible id ctx.storeId ctx.organizationId with
    | error other =>
      rw [hvisible] at hrunnable
      cases hrunnable
      rfl
    | ok w =>
      by_cases hw : w.isExecutable = true
      · simp [hvisible, Except.bind, hw] at hrunnable
      · simp only [hvisible, Except.bind, if_neg hw] at hrunnable ⊢
        cases hrunnable
        rfl
  | ok w =>
    obtain ⟨hvisible, hw⟩ := runnable_eq_ok.1 hrunnable
    obtain rfl : w.id = id := id_of_runnable hrunnable
    unfold runManual
    simp only [hvisible, if_pos hw]
    rfl

/-- **What becomes of a run**: it is refused, acknowledged and queued, or acknowledged and
lost. -/
theorem runManual_cases (e : Engine) (id : String) (payload : Json) (ctx : Context) :
    (∃ failure, e.runnable id ctx = .error failure ∧ e.runManual id payload ctx = (.error failure, e))
      ∨ ∃ w, e.runnable id ctx = .ok w ∧ (e.runManual id payload ctx).1 = .ok w
        ∧ (e.dispatcher.HasRoom →
          (e.runManual id payload ctx).2 = e.withJob (.run id payload ctx))
        ∧ (¬ e.dispatcher.HasRoom → (e.runManual id payload ctx).2 = e) := by
  rw [runManual_eq]
  cases hrunnable : e.runnable id ctx with
  | error failure => exact .inl ⟨failure, rfl, rfl⟩
  | ok w =>
    refine .inr ⟨w, rfl, rfl, fun h => ?_, fun h => ?_⟩
    · show (e.enqueue (.run id payload ctx)).2 = _
      rw [enqueue, Dispatcher.enqueue_of_hasRoom h]
      rfl
    · show (e.enqueue (.run id payload ctx)).2 = _
      rw [enqueue, Dispatcher.enqueue_of_not_hasRoom h]

/-! ### Runs in a row -/

/-- What a caller asks to be run. -/
structure Ask where
  id : String
  payload : Json
  ctx : Context

def Ask.job (a : Ask) : Job := .run a.id a.payload a.ctx

/-- What callers ask for in a row, while no worker gets to it. -/
def askAll (e : Engine) : List Ask → List (Except Failure Workflow) × Engine
  | [] => ([], e)
  | a :: asks =>
    let (answer, e) := e.runManual a.id a.payload a.ctx
    let (answers, e) := e.askAll asks
    (answer :: answers, e)

/-- The asks that are acknowledged. -/
def acknowledged (e : Engine) (asks : List Ask) : List Ask :=
  asks.filter fun a => (e.runnable a.id a.ctx).toBool

theorem runnable_withDispatcher (e : Engine) (d : Dispatcher Job) (id : String) (ctx : Context) :
    ({ e with dispatcher := d } : Engine).runnable id ctx = e.runnable id ctx := rfl

/-- **Runs in a row**: each is answered as the first would be, and what is acknowledged
comes to the queue. -/
theorem askAll_eq : ∀ (asks : List Ask) (e : Engine),
    e.askAll asks = (asks.map fun a => e.runnable a.id a.ctx,
      { e with dispatcher := e.dispatcher.enqueueAll ((e.acknowledged asks).map Ask.job) })
  | [], _ => rfl
  | a :: asks, e => by
    rw [askAll, runManual_eq]
    cases hrunnable : e.runnable a.id a.ctx with
    | error failure =>
      simp only [Except.toBool, Bool.false_eq_true, if_false, askAll_eq asks e]
      simp [acknowledged, hrunnable, Except.toBool]
    | ok w =>
      have hrest := askAll_eq asks (e.enqueue a.job).2
      simp only [Except.toBool, if_true]
      rw [show (Job.run a.id a.payload a.ctx) = a.job from rfl, hrest]
      simp only [enqueue, acknowledged, runnable_withDispatcher, List.map_cons, List.filter_cons,
        hrunnable, Except.toBool, if_true]
      rfl

end Engine

namespace Http

/-- A request for a run of a workflow, with a payload and in the name of a caller. -/
structure Request.AsksRun (r : Request) (id : String) (payload : Json) (scope : Scope) : Prop where
  route : Route.ofPath? (decodedPath r.address) = some (.trigger id)
  method : Text.toUpper r.method = "POST"
  body : ∃ content, r.content = .ok content ∧ payloadOf content = .ok payload
  scope : r.scope = .ok scope

variable {e : Engine} {r : Request} {id : String} {payload : Json} {scope : Scope}

theorem ofFailure_status (f : Failure) : (ofFailure f).status ≠ 202 := by
  unfold ofFailure
  cases f.code? with
  | none => exact (by decide : (500 : Nat) ≠ 202)
  | some code =>
    simp only [statusOf]
    split <;> decide

theorem unprocessable_status (detail : Members) : (unprocessable detail).status ≠ 202 := by
  unfold unprocessable
  simp only
  split
  · exact (by decide : (422 : Nat) ≠ 202)
  · exact (by decide : (500 : Nat) ≠ 202)

theorem respond_status_eq_accepted {α : Type} (result : Except Failure α) (body : α → Json) :
    (respond 202 (result.map body)).status = 202 ↔ result.toBool = true := by
  cases result with
  | error failure =>
    simp only [Except.map, respond, Except.toBool, Bool.false_eq_true, iff_false]
    exact ofFailure_status failure
  | ok a => exact iff_of_true rfl rfl

/-- A request has parts, its payload and its caller, or the answer to it is no acceptance. -/
theorem runParts_eq (e : Engine) (r : Request) (content : Json) :
    (∃ answer, answer.status ≠ 202 ∧ runParts e r content = .error answer)
      ∨ ∃ payload scope, payloadOf content = .ok payload ∧ r.scope = .ok scope
        ∧ runParts e r content = .ok (payload, (scope.enter e).1, (scope.enter e).2) := by
  unfold runParts
  cases hscope : r.scope with
  | error failure => exact .inl ⟨_, ofFailure_status failure, rfl⟩
  | ok scope =>
    cases hpayload : payloadOf content with
    | ok payload => exact .inr ⟨payload, scope, rfl, rfl, rfl⟩
    | error answer =>
      refine .inl ⟨answer, ?_, rfl⟩
      cases content with
      | null | obj => cases hpayload
      | bool | int | float | str | arr =>
        cases hpayload
        exact unprocessable_status _

/-- **A request for a run** is accepted if the run is acknowledged, and leaves what that
leaves. -/
theorem handle_of_asksRun (h : r.AsksRun id payload scope) :
    ((handle e true r).1.status = 202
        ↔ ((scope.enter e).2.runManual id payload (scope.enter e).1).1.toBool = true)
      ∧ (handle e true r).2 = ((scope.enter e).2.runManual id payload (scope.enter e).1).2 := by
  obtain ⟨content, hcontent, hpayload⟩ := h.body
  have hparts : runParts e r content
      = .ok (payload, (scope.enter e).1, (scope.enter e).2) := by
    unfold runParts
    rw [h.scope, hpayload]
    rfl
  have hhandle : handle e true r = askEngine e r content (.trigger id) := by
    have hmethod : (Text.toUpper r.method == (Route.trigger id).method) = true := by
      rw [h.method]
      rfl
    have hpost : ((Route.trigger id).method == "POST") = true := rfl
    simp only [handle, h.route, if_pos hmethod, answerRoute, if_pos hpost, hcontent, if_true]
  rw [hhandle, askEngine, hparts]
  exact ⟨respond_status_eq_accepted _ _, rfl⟩

/-! ### Requests for anything else

Each way to an answer that does not end in a run has a status of its own, and none of
them is that of an accepted request. -/

theorem respond_ok_status (result : Except Failure Json) : (respond 200 result).status ≠ 202 := by
  cases result with
  | error failure => exact ofFailure_status failure
  | ok body => exact (by decide : (200 : Nat) ≠ 202)

theorem readiness_status (ready : Bool) (pending : Nat) : (readiness ready pending).status ≠ 202 := by
  cases ready with
  | false => exact (by decide : (503 : Nat) ≠ 202)
  | true => exact (by decide : (200 : Nat) ≠ 202)

theorem withoutEngine_status (route : Route) : (withoutEngine route).status ≠ 202 := by
  cases route with
  | ready => exact readiness_status _ _
  | health | triggers => exact (by decide : (200 : Nat) ≠ 202)
  | trigger | test | stats => exact ofFailure_status _

theorem content_status {answer : Response} (h : r.content = .error answer) : answer.status ≠ 202 := by
  unfold Request.content at h
  split at h
  · cases h
  · cases h
  · split at h
    · cases h
    · split at h
      · cases h
      · cases h
        exact unprocessable_status _

theorem askEngine_accepted {content : Json} {route : Route}
    (h : (askEngine e r content route).1.status = 202) : ∃ id payload scope,
      route = .trigger id ∧ payloadOf content = .ok payload ∧ r.scope = .ok scope := by
  cases route with
  | trigger id =>
    rw [askEngine] at h
    obtain ⟨answer, hanswer, hparts⟩ | ⟨payload, scope, hpayload, hscope, -⟩ := runParts_eq e r content
    · rw [hparts] at h
      exact absurd h hanswer
    · exact ⟨id, payload, scope, rfl, hpayload, hscope⟩
  | test id =>
    rw [askEngine] at h
    obtain ⟨answer, hanswer, hparts⟩ | ⟨payload, scope, -, -, hparts⟩ := runParts_eq e r content
    · rw [hparts] at h
      exact absurd h hanswer
    · rw [hparts] at h
      exact absurd h (respond_ok_status _)
  | stats id =>
    simp only [askEngine] at h
    exact absurd h (respond_ok_status _)
  | ready => exact absurd h (readiness_status _ _)
  | health | triggers => cases h

theorem answerRoute_accepted {hasEngine : Bool} {route : Route}
    (h : (answerRoute e hasEngine r route).1.status = 202) : hasEngine = true ∧ ∃ content,
      (if route.method == "POST" then r.content else .ok .null) = .ok content
        ∧ (askEngine e r content route).1.status = 202 := by
  unfold answerRoute at h
  cases hcontent : if route.method == "POST" then r.content else .ok .null with
  | error answer =>
    simp only [hcontent] at h
    by_cases hpost : (route.method == "POST") = true
    · rw [if_pos hpost] at hcontent
      exact absurd h (content_status hcontent)
    · rw [if_neg hpost] at hcontent
      cases hcontent
  | ok content =>
    simp only [hcontent] at h
    cases hasEngine with
    | false => exact absurd h (withoutEngine_status route)
    | true => exact ⟨rfl, content, rfl, h⟩

/-- **No other request is accepted.** -/
theorem asksRun_of_accepted {hasEngine : Bool} (h : (handle e hasEngine r).1.status = 202) :
    hasEngine = true ∧ ∃ id payload scope, r.AsksRun id payload scope := by
  cases hroute : Route.ofPath? (decodedPath r.address) with
  | none =>
    cases hslashed : Route.ofSlashedPath? (decodedPath r.address) <;>
      simp [handle, hroute, hslashed, refused] at h
  | some route =>
    by_cases hmethod : (Text.toUpper r.method == route.method) = true
    · simp only [handle, hroute, if_pos hmethod] at h
      obtain ⟨hengine, content, hcontent, hasked⟩ := answerRoute_accepted h
      obtain ⟨id, payload, scope, rfl, hpayload, hscope⟩ := askEngine_accepted hasked
      exact ⟨hengine, id, payload, scope, hroute, eq_of_beq hmethod, ⟨content, hcontent, hpayload⟩,
        hscope⟩
    · simp [handle, hroute, hmethod, refused] at h

/-- **What an acknowledged run is worth.** A run of a workflow is acknowledged if the caller
is shown the workflow and it is active, and only then, whatever the state of the queue; a
refusal changes nothing. An acknowledged run is the last in the queue if workers are
there and the queue has room; else nothing keeps it. So are runs in a row: all that may be run
are acknowledged, and the first are queued, as many as there is room for. A request for a
run is accepted under the same condition, and but for the token of its context it leaves
what the run leaves. -/
theorem run_acknowledged (e : Engine) (id : String) (payload : Json) (ctx : Context) :
    (∀ w, (e.runManual id payload ctx).1 = .ok w
        ↔ e.visible id ctx.storeId ctx.organizationId = .ok w ∧ w.isExecutable = true)
      ∧ (∀ failure, (e.runManual id payload ctx).1 = .error failure →
        (e.runManual id payload ctx).2 = e)
      ∧ (∀ w, (e.runManual id payload ctx).1 = .ok w → w.id = id
        ∧ (e.dispatcher.HasRoom →
          (e.runManual id payload ctx).2 = e.withJob (.run id payload ctx))
        ∧ (¬ e.dispatcher.HasRoom → (e.runManual id payload ctx).2 = e))
      ∧ (∀ asks, (e.askAll asks).1 = asks.map (fun a => e.runnable a.id a.ctx)
        ∧ (e.askAll asks).2.dispatcher.jobs = e.dispatcher.jobs
          ++ e.dispatcher.admitted ((e.acknowledged asks).map Engine.Ask.job))
      ∧ (∀ r scope, Request.AsksRun r id payload scope →
        ((handle e true r).1.status = 202 ↔ ∃ w,
          e.visible id scope.storeId scope.organizationId = .ok w ∧ w.isExecutable = true)
        ∧ ((handle e true r).1.status = 202 →
          (e.dispatcher.HasRoom → (handle e true r).2
            = (scope.enter e).2.withJob (.run id payload (scope.enter e).1))
          ∧ (¬ e.dispatcher.HasRoom → (handle e true r).2 = (scope.enter e).2)))
      ∧ ∀ hasEngine r, (handle e hasEngine r).1.status = 202 →
        hasEngine = true ∧ ∃ id payload scope, Request.AsksRun r id payload scope := by
  refine ⟨fun w => ?_, fun failure hfailure => ?_, fun w hw => ?_, fun asks => ⟨?_, ?_⟩,
    fun r scope hasks => ?_, fun _ _ => asksRun_of_accepted⟩
  · rw [Engine.runManual_eq]
    exact Engine.runnable_eq_ok
  · rcases e.runManual_cases id payload ctx with ⟨other, -, heq⟩ | ⟨w, -, hw, -⟩
    · rw [heq]
    · rw [hw] at hfailure
      cases hfailure
  · rcases e.runManual_cases id payload ctx with ⟨other, -, heq⟩ | ⟨v, hrunnable, hv, hroom, hfull⟩
    · rw [heq] at hw
      cases hw
    · obtain rfl : v = w := Except.ok.inj (hv.symm.trans hw)
      exact ⟨Engine.id_of_runnable hrunnable, hroom, hfull⟩
  · rw [Engine.askAll_eq]
  · rw [Engine.askAll_eq]
    exact Dispatcher.jobs_enqueueAll _ _
  · obtain ⟨hstatus, hafter⟩ := handle_of_asksRun (e := e) hasks
    rw [hstatus, hafter]
    rcases (scope.enter e).2.runManual_cases id payload (scope.enter e).1 with
      ⟨failure, hrunnable, heq⟩ | ⟨w, hrunnable, hw, hroom, hfull⟩
    · rw [heq]
      refine ⟨iff_of_false Bool.false_ne_true ?_, fun h => absurd h Bool.false_ne_true⟩
      rintro ⟨w, hw⟩
      have hok : (scope.enter e).2.runnable id (scope.enter e).1 = .ok w := Engine.runnable_eq_ok.2 hw
      rw [hrunnable] at hok
      cases hok
    · rw [hw]
      exact ⟨iff_of_true rfl ⟨w, Engine.runnable_eq_ok.1 hrunnable⟩, fun _ => ⟨hroom, hfull⟩⟩

/-- A workflow that any store of its own may run, and a queue for one job: a run is lost
before the start, queued after it, and lost again behind the first, each time acknowledged. -/
theorem run_acknowledged_lost :
    let row : Row := {
      id := "w-1", createdAt := ⟨0⟩
      definition := ⟨"store-1", none, "Notify", none, [], 1, true, false, "manual", [], .null,
        none, .arr [], none⟩ }
    let e : Engine := {
      world := { clock := ⟨0⟩, table := ⟨[row]⟩ }, dispatcher := { capacity := some 1 } }
    let ctx : Context := { storeId := "store-1" }
    let ask : Engine.Ask := ⟨"w-1", .obj [], ctx⟩
    let r : Request := {
      method := "POST", address := "/api/v1/workflows/w-1/trigger"
      headers := [("X-Store-ID", "store-1")] }
    ¬ e.dispatcher.HasRoom ∧ (e.runManual "w-1" (.obj []) ctx).1.toBool = true
      ∧ (e.runManual "w-1" (.obj []) ctx).2 = e
      ∧ e.start.dispatcher.HasRoom
      ∧ (e.start.runManual "w-1" (.obj []) ctx).2 = e.start.withJob ask.job
      ∧ (e.start.askAll [ask, ask, ask]).1.map Except.toBool = [true, true, true]
      ∧ (e.start.askAll [ask, ask, ask]).2.dispatcher.jobs = [ask.job]
      ∧ (∃ scope, r.AsksRun "w-1" (.obj []) scope) ∧ (handle e true r).1.status = 202
      ∧ (handle e true r).2.dispatcher.jobs = [] := by
  intro row e ctx ask r
  have hidle : ¬ e.dispatcher.HasRoom := fun h => Bool.false_ne_true h.1
  have hroom : e.start.dispatcher.HasRoom := ⟨rfl, by rintro n hn; cases hn; decide⟩
  have hvisible : ∃ w, e.visible "w-1" "store-1" none = .ok w ∧ w.isExecutable = true :=
    ⟨_, rfl, by decide⟩
  obtain ⟨w, hw⟩ := hvisible
  obtain ⟨hanswer, -, hqueued, -, hrequest, -⟩ := run_acknowledged e "w-1" (.obj []) ctx
  obtain ⟨hanswer', -, hqueued', hrow, -⟩ := run_acknowledged e.start "w-1" (.obj []) ctx
  have hok := (hanswer w).2 hw
  have hok' := (hanswer' w).2 hw
  have hcaller : r.scope.toOption.map (fun scope => (scope.storeId, scope.organizationId))
      = some ("store-1", none) := by decide +kernel
  obtain ⟨scope, hfound, hnames⟩ := Option.map_eq_some_iff.1 hcaller
  obtain ⟨hstore, horganization⟩ := Prod.mk.inj hnames
  have hasks : r.AsksRun "w-1" (.obj []) scope := {
    route := by decide +kernel
    method := by decide +kernel
    body := ⟨.null, rfl, rfl⟩
    scope := by
      cases hscope : r.scope with
      | error failure =>
        rw [hscope] at hfound
        cases hfound
      | ok found =>
        rw [hscope] at hfound
        rw [Option.some.inj hfound] }
  obtain ⟨haccepted, hafter⟩ := hrequest r scope hasks
  rw [hstore, horganization] at haccepted
  have hstatus := haccepted.2 ⟨w, hw⟩
  refine ⟨hidle, by rw [hok]; rfl, (hqueued w hok).2.2 hidle, hroom, (hqueued' w hok').2.1 hroom,
    ?_, ?_, ⟨scope, hasks⟩, hstatus, ?_⟩
  · rw [(hrow _).1]
    decide +kernel
  · rw [(hrow _).2]
    rfl
  · rw [(hafter hstatus).2 hidle]
    rfl

end Http

end Automation
