/-
# Runs that are cancelled

A cancellation meets a run in the middle of some visit. What was visited
before knows nothing of it, and every action after that visit is skipped: it
fails as cancelled, without a request (`Setting.VisitsAll.cut`). Skipping is a
failure like any other, so it ends the run only at an action that does not
let the run go on. If there is none the execution counts as a success,
although it was cancelled (`Executor.execute_cancelled`); else it counts as a
failure, which leaves the last error as it was.

Key definitions: `Environment.CancelsByToken`, `Visit.isCancelled`,
`Setting.Cut`, `Executor.CutShort`.
Key theorems: `Setting.VisitsAll.cut`, `Executor.execute_cancelled`.
-/
import Automation.Proofs.Run.Requests
import Automation.Proofs.Run.Visits
import Automation.Run.Execution
import Automation.Table.Row
import Mathlib

namespace Automation

/-! ### Cancellation in an environment -/

/-- What is cancelled stays cancelled, and a request is cut short, or fails as
cancelled, only once the token is cancelled. -/
structure Environment.CancelsByToken {σ : Type} (env : Environment σ) (token : Token) : Prop where
  stays : ∀ request s, env.cancelled token s = true →
    env.cancelled token (env.serve token request s).2 = true
  cut : ∀ request s, ((env.serve token request s).1.getD .cancelled).isCancellation = true →
    env.cancelled token (env.serve token request s).2 = true

/-- A task that fails as cancelled leaves the token cancelled. -/
theorem Task.Heeds.cancelled_of_run {σ : Type} {env : Environment σ} {token : Token}
    (henv : env.CancelsByToken token) {p : Process Task.Result} (hp : Task.Heeds p) :
    ∀ {s t : σ} {e : ActionError}, p.run env token s = (.error e, t) → e.kind = .cancelled →
      env.cancelled token t = true := by
  induction hp with
  | ok result =>
    intro s t e hrun _
    cases hrun
  | fail hkind =>
    intro s t e hrun he
    cases hrun
    exact absurd he hkind
  | clock _ ih =>
    intro s t e hrun he
    exact ih _ hrun he
  | @request r f _ hcancelled _ ih =>
    intro s t e hrun he
    rw [Process.run_bind] at hrun
    by_cases hc : env.cancelled token s = true
    · obtain ⟨result, hresult⟩ := hcancelled .cancelled rfl
      simp only [Process.perform, Process.run, if_pos hc, hresult, Prod.mk.injEq] at hrun
      exact hrun.2 ▸ hc
    · simp only [Process.perform, Process.run, if_neg hc] at hrun
      cases hreply : ((env.serve token r s).1.getD .cancelled).isCancellation with
      | true =>
        obtain ⟨result, hresult⟩ := hcancelled _ hreply
        simp only [hresult, Process.run, Prod.mk.injEq] at hrun
        exact hrun.2 ▸ henv.cut r s hreply
      | false => exact ih _ hreply hrun he

/-! ### Visits of a cancelled run -/

/-- Whether an entry tells of a cancellation. -/
def TraceEntry.isCancelled (e : TraceEntry) : Bool := e.error.any (·.kind == .cancelled)

namespace Visit

variable {σ : Type}

/-- Whether the visit failed as cancelled. -/
def isCancelled (v : Visit σ) : Bool := v.outcome.failure.any (·.error.kind == .cancelled)

theorem isCancelled_iff {v : Visit σ} :
    v.isCancelled = true ↔ ∃ f, v.outcome.failure = some f ∧ f.error.kind = .cancelled := by
  rw [isCancelled, Option.any_eq_true]
  simp only [beq_iff_eq]

theorem kind_of_isCancelled {v : Visit σ} {f : ActionFailure} (h : v.isCancelled = true)
    (hf : v.outcome.failure = some f) : f.error.kind = .cancelled := by
  obtain ⟨g, hg, hkind⟩ := isCancelled_iff.1 h
  rw [hf] at hg
  exact Option.some.inj hg ▸ hkind

theorem isCancelled_entry (v : Visit σ) (depth : Int) :
    (v.entry depth).isCancelled = v.isCancelled := by
  rw [entry, Outcome.entry, TraceEntry.isCancelled, Option.any_map]
  rfl

theorem exists_isCancelled_listing {depth : Int} {visits : List (Visit σ)} :
    (∃ e ∈ listing depth visits, e.isCancelled = true) ↔
      ∃ n ∈ nodesOf depth visits, n.2.isCancelled = true := by
  simp only [listing, List.mem_map]
  constructor
  · rintro ⟨_, ⟨n, hn, rfl⟩, hc⟩
    exact ⟨n, hn, by rwa [isCancelled_entry] at hc⟩
  · rintro ⟨n, hn, hc⟩
    exact ⟨_, ⟨n, hn, rfl⟩, by rwa [isCancelled_entry]⟩

theorem mem_nodes_self (depth : Int) : ∀ v : Visit σ, (depth, v) ∈ v.nodes depth
  | mk .. => List.mem_cons_self ..

/-- Whether the visit was left out because of a cancellation. -/
def IsSkip (v : Visit σ) : Prop :=
  v.outcome = .failed v.action.kind .cancellation ∧ v.inside = []

theorem IsSkip.stops_eq {v : Visit σ} (h : v.IsSkip) : v.stops = !v.action.continueOnError := by
  rw [stops, h.1]
  rfl

end Visit

namespace Setting

variable {σ : Type} {X : Setting σ}

/-- Once the run is cancelled a visit is skipped and changes nothing. -/
theorem Visits.of_cancelled {depth : Int} {s t : σ} {a : Action} {v : Visit σ}
    (hs : X.isCancelled s = true) : X.Visits depth s a v t → v.IsSkip ∧ t = s
  | .cancelled _ => ⟨⟨rfl, rfl⟩, rfl⟩
  | .task hc _ | .noCondition hc | .tooDeep hc _ | .branch hc _ _ => by
    rw [hs] at hc
    cases hc

/-- Once the run is cancelled all further visits are skipped. -/
theorem VisitsAll.of_cancelled {depth : Int} {s t : σ} {actions : List Action}
    {visits : List (Visit σ)} {failure : Option ActionFailure} (hs : X.isCancelled s = true) :
    X.VisitsAll depth s actions visits failure t → (∀ v ∈ visits, v.IsSkip) ∧ t = s
  | .nil => ⟨nofun, rfl⟩
  | .stop hv _ => by
    obtain ⟨hskip, ht⟩ := hv.of_cancelled hs
    exact ⟨fun u hu => List.mem_singleton.1 hu ▸ hskip, ht⟩
  | .goOn hv _ hvs => by
    obtain ⟨hskip, rfl⟩ := hv.of_cancelled hs
    obtain ⟨hall, ht⟩ := hvs.of_cancelled hs
    exact ⟨List.forall_mem_cons.2 ⟨hskip, hall⟩, ht⟩

/-- Skipping ends at the first action that does not let the run go on. -/
theorem VisitsAll.failure_of_skips {depth : Int} {s t : σ} {actions : List Action}
    {visits : List (Visit σ)} {failure : Option ActionFailure} :
    X.VisitsAll depth s actions visits failure t → (∀ v ∈ visits, v.IsSkip) →
      (∀ f, failure = some f → f.error = .cancellation)
        ∧ (failure = none ↔ ∀ a ∈ actions, a.continueOnError = true)
  | .nil, _ => ⟨nofun, by simp⟩
  | .stop hv hstops, hall => by
    have hskip := hall _ (List.mem_cons_self ..)
    obtain rfl := hv.start_eq.2
    rw [hskip.stops_eq, Bool.not_eq_true'] at hstops
    rw [hskip.1]
    refine ⟨fun f hf => Option.some.inj hf ▸ rfl, nofun, fun h => ?_⟩
    rw [h _ (List.mem_cons_self ..)] at hstops
    cases hstops
  | .goOn hv hstops hvs, hall => by
    obtain ⟨hskip, hall⟩ := List.forall_mem_cons.1 hall
    obtain rfl := hv.start_eq.2
    obtain ⟨herror, hnone⟩ := hvs.failure_of_skips hall
    rw [hskip.stops_eq, Bool.not_eq_false'] at hstops
    refine ⟨herror, ?_⟩
    rw [hnone, List.forall_mem_cons]
    exact ⟨fun h => ⟨hstops, h⟩, fun h => h.2⟩

/-! ### The visit in which a cancellation falls -/

mutual

/-- After a visit with a cancellation in it the run is cancelled. -/
theorem Visits.isCancelled_of_mem (henv : X.env.CancelsByToken X.ctx.token) {depth : Int} {s t : σ}
    {a : Action} {v : Visit σ} : X.Visits depth s a v t →
      ∀ n ∈ v.nodes depth, n.2.isCancelled = true → X.isCancelled t = true
  | .cancelled hc, _, _, _ => hc
  | @Visits.task _ _ _ _ _ _ task result _ hrun, n, hn, hcancelled => by
    obtain rfl := List.mem_singleton.1 hn
    cases result with
    | ok _ => cases hcancelled
    | error e =>
      exact (Task.process_heeds X.runner X.ctx X.payload task).cancelled_of_run henv hrun
        (beq_iff_eq.1 hcancelled)
  | .noCondition _, n, hn, hcancelled => by
    obtain rfl := List.mem_singleton.1 hn
    cases hcancelled
  | .tooDeep _ _, n, hn, hcancelled => by
    obtain rfl := List.mem_singleton.1 hn
    cases hcancelled
  | .branch _ _ hinside, n, hn, hcancelled => by
    rcases List.mem_cons.1 hn with rfl | hn
    · obtain ⟨f, hf, hkind⟩ := Visit.isCancelled_iff.1 hcancelled
      exact hinside.isCancelled_of_failure henv hf hkind
    · exact hinside.isCancelled_of_mem henv n hn hcancelled

/-- After a run that fails as cancelled the run is cancelled. -/
theorem VisitsAll.isCancelled_of_failure (henv : X.env.CancelsByToken X.ctx.token) {depth : Int}
    {s t : σ} {actions : List Action} {visits : List (Visit σ)} {failure : Option ActionFailure}
    {f : ActionFailure} : X.VisitsAll depth s actions visits failure t → failure = some f →
      f.error.kind = .cancelled → X.isCancelled t = true
  | .nil, hf, _ => by cases hf
  | @VisitsAll.stop _ _ _ _ _ _ _ v hv _, hf, hkind => by
    refine hv.isCancelled_of_mem henv (depth, v) ?_ (Visit.isCancelled_iff.2 ⟨f, hf, hkind⟩)
    exact Visit.mem_nodes_self ..
  | .goOn _ _ hvs, hf, hkind => hvs.isCancelled_of_failure henv hf hkind

theorem VisitsAll.isCancelled_of_mem (henv : X.env.CancelsByToken X.ctx.token) {depth : Int}
    {s t : σ} {actions : List Action} {visits : List (Visit σ)} {failure : Option ActionFailure} :
    X.VisitsAll depth s actions visits failure t →
      ∀ n ∈ Visit.nodesOf depth visits, n.2.isCancelled = true → X.isCancelled t = true
  | .nil, n, hn, _ => by cases hn
  | .stop hv _, n, hn, hcancelled => by
    rw [Visit.nodesOf, Visit.nodesOf, List.append_nil] at hn
    exact hv.isCancelled_of_mem henv n hn hcancelled
  | .goOn hv _ hvs, n, hn, hcancelled => by
    rcases List.mem_append.1 hn with hn | hn
    · have hmid := hv.isCancelled_of_mem henv n hn hcancelled
      rwa [(hvs.of_cancelled hmid).2]
    · exact hvs.isCancelled_of_mem henv n hn hcancelled

end

mutual

/-- A visit that fails with a cancellation in it fails as cancelled. -/
theorem Visits.kind_of_mem (henv : X.env.CancelsByToken X.ctx.token) {depth : Int} {s t : σ}
    {a : Action} {v : Visit σ} {f : ActionFailure} : X.Visits depth s a v t →
      v.outcome.failure = some f → ∀ n ∈ v.nodes depth, n.2.isCancelled = true →
      f.error.kind = .cancelled
  | .cancelled _, hf, n, hn, hcancelled | .task _ _, hf, n, hn, hcancelled
  | .noCondition _, hf, n, hn, hcancelled | .tooDeep _ _, hf, n, hn, hcancelled => by
    obtain rfl := List.mem_singleton.1 hn
    exact Visit.kind_of_isCancelled hcancelled hf
  | .branch _ _ hinside, hf, n, hn, hcancelled => by
    rcases List.mem_cons.1 hn with rfl | hn
    · exact Visit.kind_of_isCancelled hcancelled hf
    · exact hinside.kind_of_mem henv hf n hn hcancelled

/-- A run that fails with a cancellation in it fails as cancelled: whatever
came after the cancellation was skipped. -/
theorem VisitsAll.kind_of_mem (henv : X.env.CancelsByToken X.ctx.token) {depth : Int} {s t : σ}
    {actions : List Action} {visits : List (Visit σ)} {failure : Option ActionFailure}
    {f : ActionFailure} : X.VisitsAll depth s actions visits failure t → failure = some f →
      ∀ n ∈ Visit.nodesOf depth visits, n.2.isCancelled = true → f.error.kind = .cancelled
  | .nil, _, n, hn, _ => by cases hn
  | .stop hv _, hf, n, hn, hcancelled => by
    rw [Visit.nodesOf, Visit.nodesOf, List.append_nil] at hn
    exact hv.kind_of_mem henv hf n hn hcancelled
  | .goOn hv _ hvs, hf, n, hn, hcancelled => by
    rcases List.mem_append.1 hn with hn | hn
    · have hmid := hv.isCancelled_of_mem henv n hn hcancelled
      rw [(hvs.failure_of_skips (hvs.of_cancelled hmid).1).1 f hf]
      rfl
    · exact hvs.kind_of_mem henv hf n hn hcancelled

end

/-- A cancellation that falls in the visit `v` of a list of actions: the
visits `before` it know nothing of it, and those `after` it are skipped. The
actions in `rest` come after that of `v`. -/
structure Cut (depth : Int) (actions : List Action) (failure : Option ActionFailure)
    (before : List (Visit σ)) (v : Visit σ) (after : List (Visit σ)) (rest : List Action) :
    Prop where
  actions_eq : actions = before.map Visit.action ++ v.action :: rest
  before : ∀ n ∈ Visit.nodesOf depth before, n.2.isCancelled = false
  within : ∃ n ∈ v.nodes depth, n.2.isCancelled = true
  after : ∀ u ∈ after, u.IsSkip
  /-- The list ends well if every action from that of `v` lets the run go on. -/
  failure_eq_none_iff : failure = none ↔ v.stops = false ∧ ∀ a ∈ rest, a.continueOnError = true

/-- **A cancellation falls in one visit of a run**: the first with a
cancellation in it. -/
theorem VisitsAll.cut (henv : X.env.CancelsByToken X.ctx.token) {depth : Int} {s t : σ}
    {actions : List Action} {visits : List (Visit σ)} {failure : Option ActionFailure} :
    X.VisitsAll depth s actions visits failure t →
      (∃ n ∈ Visit.nodesOf depth visits, n.2.isCancelled = true) →
      ∃ before v after rest, visits = before ++ v :: after
        ∧ Cut depth actions failure before v after rest
  | .nil, ⟨n, hn, _⟩ => by cases hn
  | @VisitsAll.stop _ _ _ _ _ a rest v hv hstops, hcancelled => by
    have hall : X.VisitsAll depth s (a :: rest) [v] v.outcome.failure t := .stop hv hstops
    have hfailure := hall.failure_eq_none_iff
    obtain rfl := hv.start_eq.2
    rw [Visit.nodesOf, Visit.nodesOf, List.append_nil] at hcancelled
    refine ⟨[], v, [], rest, rfl, rfl, nofun, hcancelled, nofun, ?_⟩
    rw [hfailure, List.forall_mem_singleton, hstops]
    simp
  | @VisitsAll.goOn _ _ _ _ _ _ _ rest v vs failure hv hstops hvs, hcancelled => by
    have hrest := hvs.cut henv
    obtain rfl := hv.start_eq.2
    by_cases hwithin : ∃ n ∈ v.nodes depth, n.2.isCancelled = true
    · obtain ⟨n, hn, hc⟩ := hwithin
      have hskips := (hvs.of_cancelled (hv.isCancelled_of_mem henv n hn hc)).1
      refine ⟨[], v, vs, rest, rfl, rfl, nofun, ⟨n, hn, hc⟩, hskips, ?_⟩
      rw [(hvs.failure_of_skips hskips).2]
      exact ⟨fun h => ⟨hstops, h⟩, fun h => h.2⟩
    · obtain ⟨n, hn, hc⟩ := hcancelled
      rcases List.mem_append.1 hn with hn | hn
      · exact absurd ⟨n, hn, hc⟩ hwithin
      · obtain ⟨before, w, after, rest, rfl, hcut⟩ := hrest ⟨n, hn, hc⟩
        refine ⟨v :: before, w, after, rest, rfl, ?_, ?_, hcut.within, hcut.after,
          hcut.failure_eq_none_iff⟩
        · rw [hcut.actions_eq]
          rfl
        · intro m hm
          rcases List.mem_append.1 hm with hm | hm
          · exact Bool.eq_false_iff.2 fun hc => hwithin ⟨m, hm, hc⟩
          · exact hcut.before m hm

end Setting

/-! ### Executions that are cancelled -/

/-- No last error is recorded of a cancellation. -/
theorem LastError.ofFailure_of_kind {e : ActionError} (h : e.kind = .cancelled)
    (action : Option String) (raised : Bool) (now : Instant) :
    LastError.ofFailure (.action e action) raised now = none := by
  cases e <;> first | rfl | cases h

/-- A count without an error leaves the last error as it was. -/
theorem Counters.record_lastError (c : Counters) (success : Bool) (endedAt : Instant) :
    (c.record success none endedAt).lastError = c.lastError := by
  cases success <;> rfl

namespace Executor

variable {σ : Type}

/-- An execution with result `r`, from state `s` to state `t`, in which a
cancellation falls. -/
structure CutShort (X : Setting σ) (w : Workflow) (s : σ) (r : ExecutionResult) (t : σ)
    (before : List (Visit σ)) (v : Visit σ) (after : List (Visit σ)) (rest : List Action)
    (failure : Option ActionFailure) (u : σ) : Prop where
  visits : X.VisitsAll 0 s (Action.sorted w.actions) (before ++ v :: after) failure u
  cut : Setting.Cut 0 (Action.sorted w.actions) failure before v after rest
  trace : r.trace = Visit.listing 0 (before ++ v :: after)
  /-- It is a success if every action from that of `v` lets the run go on. -/
  isSuccess_iff : r.isSuccess = true ↔ v.stops = false ∧ ∀ a ∈ rest, a.continueOnError = true
  /-- Else it fails as cancelled. -/
  kind : ∀ e, r.error = some e → e.kind = .cancelled
  /-- It is recorded once, by that, and without an error. -/
  recorded : t = (X.env.serve X.ctx.token (.record w.id r.isSuccess none (X.env.now u)) u).2
  lastError : ∀ c : Counters, (c.record r.isSuccess none (X.env.now u)).lastError = c.lastError

/-- What an executor gives the runs of an execution. -/
def setting (x : Executor) (env : Environment σ) (payload : Json) (ctx : Context) : Setting σ where
  env := env
  runner := x.runner
  ctx := ctx
  payload := payload

/-- What an execution with a trace visits: a crash leaves none. -/
theorem run_visits (x : Executor) {env : Environment σ} {w : Workflow} {payload : Json}
    {ctx : Context} {s u : σ} {r : ExecutionResult}
    (h : (x.run w payload ctx).run env ctx.token s = (r, u)) (htrace : r.trace ≠ []) :
    ∃ visits failure, (x.setting env payload ctx).VisitsAll 0 s (Action.sorted w.actions) visits
        failure u
      ∧ r.trace = Visit.listing 0 visits ∧ r.error = failure.map (·.error) := by
  cases hx : x.runFailure with
  | some f =>
    rw [run, hx] at h
    cases h
    exact absurd rfl htrace
  | none =>
    obtain ⟨visits, hvisits, hlisting⟩ := (x.setting env payload ctx).run_visits 0 w.orderedActions s
    rw [run, hx, Process.run_map] at h
    cases h
    rw [Workflow.orderedActions, Action.sorted_sorted] at hvisits
    exact ⟨visits, _, hvisits, hlisting, rfl⟩

/-- An execution with a result runs its actions, then records what came of
them. -/
theorem of_execute_eq_ok {x : Executor} {w : Workflow} {payload : Json} {ctx : Context}
    {env : Environment σ} {token : Token} {s t : σ} {r : ExecutionResult}
    (h : (x.execute w payload ctx).run env token s = (.ok r, t)) :
    ∃ u, (x.run w payload ctx).run env token s = (r, u) ∧
      t = (env.serve token (.record w.id r.isSuccess
        (r.error.bind fun e => LastError.ofFailure (.action e none) true (env.now u))
        (env.now u)) u).2 := by
  rw [execute, Process.run_bind, Process.run_map, record] at h
  cases hx : x.recordFailure with
  | some f =>
    rw [hx] at h
    cases h
  | none =>
    rw [hx] at h
    cases h
    exact ⟨_, rfl, rfl⟩

/-- **A cancelled execution is a success if no action ends it**: every action
from the one in which the cancellation falls lets the run go on. Else it fails
as cancelled, and that leaves the last error as it was. -/
theorem execute_cancelled (x : Executor) (env : Environment σ) (w : Workflow) (payload : Json)
    (ctx : Context) (s t : σ) (r : ExecutionResult) (henv : env.CancelsByToken ctx.token)
    (hrun : (x.execute w payload ctx).run env ctx.token s = (.ok r, t))
    (hcancelled : ∃ e ∈ r.trace, e.isCancelled = true) :
    ∃ before v after rest failure u,
      CutShort (x.setting env payload ctx) w s r t before v after rest failure u := by
  obtain ⟨u, hr, ht⟩ := of_execute_eq_ok hrun
  have htrace : r.trace ≠ [] := by
    obtain ⟨e, he, -⟩ := hcancelled
    exact List.ne_nil_of_mem he
  obtain ⟨visits, failure, hvisits, hlisting, herror⟩ := x.run_visits hr htrace
  rw [hlisting, Visit.exists_isCancelled_listing] at hcancelled
  obtain ⟨before, v, after, rest, rfl, hcut⟩ := hvisits.cut henv hcancelled
  obtain ⟨n, hn, hc⟩ := hcancelled
  have hkind : ∀ e, r.error = some e → e.kind = .cancelled := by
    intro e he
    rw [herror] at he
    obtain ⟨f, hf, rfl⟩ := Option.map_eq_some_iff.1 he
    exact hvisits.kind_of_mem henv hf n hn hc
  have hlast : (r.error.bind fun e => LastError.ofFailure (.action e none) true (env.now u))
      = none := by
    cases he : r.error with
    | none => rfl
    | some e => exact LastError.ofFailure_of_kind (hkind e he) ..
  refine ⟨before, v, after, rest, failure, u, hvisits, hcut, hlisting, ?_, hkind, ?_,
    fun c => c.record_lastError ..⟩
  · rw [← hcut.failure_eq_none_iff, ExecutionResult.isSuccess, herror, Option.isNone_map,
      Option.isNone_iff_eq_none]
  · rw [ht, hlast]
    rfl

/-- A record is created and the execution is cancelled meanwhile; the mail
that follows is skipped. Both actions let the run go on: a success. -/
theorem execute_cancelled_is_success :
    let env : Environment Bool := {
      now := fun _ => ⟨0⟩
      cancelled := fun _ cancelled => cancelled
      serve := fun _ request cancelled =>
        if request.isEffect then (none, true) else (some .done, cancelled) }
    let w : Workflow := {
      id := "w-1"
      storeId := "store"
      name := "Notify"
      trigger := ⟨.saleCreated, [], none⟩
      actions := [.task ⟨0, true⟩ (.create (some "product") []), .task ⟨1, true⟩ (.email [] "" "")] }
    let x : Executor := {}
    let ctx : Context := { storeId := "store" }
    env.CancelsByToken ctx.token ∧ ∃ r t,
      (x.execute w (.obj []) ctx).run env ctx.token false = (.ok r, t)
        ∧ (∃ e ∈ r.trace, e.isCancelled = true) ∧ r.isSuccess = true
        ∧ ∃ before v after rest failure u,
          CutShort (x.setting env (.obj []) ctx) w false r t before v after rest failure u := by
  intro env w x ctx
  have henv : env.CancelsByToken ctx.token := by
    refine ⟨fun request s hs => ?_, fun request s hs => ?_⟩
    · cases request <;> first | rfl | exact hs
    · cases request <;> first | rfl | cases hs
  have hsuccess : ((x.execute w (.obj []) ctx).run env ctx.token false).1.toOption.any
      (fun r => r.trace.any (·.isCancelled) && r.isSuccess) = true := by cbv
  cases hrun : (x.execute w (.obj []) ctx).run env ctx.token false with
  | mk result t =>
    rw [hrun] at hsuccess
    cases result with
    | error _ => cases hsuccess
    | ok r =>
      obtain ⟨htrace, hr⟩ := Bool.and_eq_true_iff.1 hsuccess
      have hcancelled := List.any_eq_true.1 htrace
      exact ⟨henv, r, t, rfl, hcancelled, hr,
        execute_cancelled x env w (.obj []) ctx false t r henv hrun hcancelled⟩

end Executor

end Automation
