/-
# What an event sets off

An event sets off the workflows that match it. They run side by side, each
comes to a result of its own, and the caller gets these results in the order of
the workflows, whatever any of them does (`Engine.map_results`). Each has then
counted its one execution, and the counts of all other workflows are as before,
unless they had executions of their own in progress
(`Engine.counters_executeAll`, `Engine.total_executeAll`,
`Engine.dispatch_matching`).

It takes an engine in which no other caller waits and whose executions record
for their own workflows only (`Engine.IsFree`). Whatever callers ask of an engine
leaves it so (`Engine.Operation.isFree`, `Engine.Operation.performAll_isFree`).

Key definitions: `Stage.Returns`, `Execution.RecordsOwn`, `Engine.IsFree`.
Key theorems: `Engine.map_results`, `Engine.counters_executeAll`,
`Engine.total_executeAll`, `Engine.Operation.isFree`,
`Engine.dispatch_matching`.
-/
import Automation.Proofs.Engine.Counts
import Automation.Proofs.Engine.Driving
import Automation.Proofs.Engine.Queries
import Automation.Proofs.Engine.Resting
import Automation.Proofs.Run.Returning

namespace Automation

/-! ### Stages and executions -/

namespace Stage

variable {α : Type} {P : α → Prop}

/-- Every result that has come, or can still come, satisfies `P`. -/
def Returns (P : α → Prop) : Stage α → Prop
  | .finished a => P a
  | .asking _ next => ∀ reply, (next reply).Returns P
  | .answered reply next => (next reply).Returns P
  | .waiting next => (next .cancelled).Returns P

theorem returns_stage (now : Instant) (cancelled : Bool) : ∀ {p : Process α}, p.Returns P →
    (p.stage now cancelled).Returns P
  | .done _, h => h
  | .clock next, h => returns_stage (p := next now) now cancelled (h now)
  | .token next, h => returns_stage (p := next cancelled) now cancelled (h cancelled)
  | .ask _ _, h => h

/-- It stays so when a fiber goes on. -/
theorem Returns.resume {stage : Stage α} {reply : Reply} {next : Reply → Process α}
    (h : stage.Returns P)
    (hstage : stage = .answered reply next ∨ stage = .waiting next ∧ reply = .cancelled)
    (now : Instant) (cancelled : Bool) : ((next reply).stage now cancelled).Returns P := by
  rcases hstage with rfl | ⟨rfl, rfl⟩
  · exact returns_stage now cancelled h
  · exact returns_stage now cancelled h

theorem returns_afterRequest {next : Reply → Process α} (h : ∀ reply, (next reply).Returns P) :
    ∀ reply : Option Reply, (afterRequest next reply).Returns P
  | some reply => h reply
  | none => h .cancelled

end Stage

namespace Execution

/-- The execution records for its own workflow only. -/
def RecordsOwn (f : Execution) : Prop := f.stage.Asks (·.RecordsFor f.label.workflowId)

variable {f : Execution}

/-- What an execution asks for is no outcome of another workflow. -/
theorem RecordsOwn.asking {request : Request} {next : Reply → Process.OfExecution}
    (h : f.RecordsOwn) (hstage : f.stage = .asking request next) :
    request.RecordsFor f.label.workflowId
      ∧ ∀ reply, Execution.RecordsOwn { f with stage := .afterRequest next reply } := by
  unfold RecordsOwn at h
  rw [hstage] at h
  exact ⟨h.1, Stage.asks_afterRequest h.2⟩

end Execution

/-- An answer leaves the counts of all workflows but the one that it is to count
an execution of. -/
theorem World.counters_serve (token : Token) {request : Request} {own id : String}
    (hown : request.RecordsFor own) (hid : own ≠ id) (w : World) :
    (World.serve token request w).2.table.counters id = w.table.counters id := by
  by_cases heffect : request.isEffect = true
  · rw [(World.serve_effect token heffect w).2.1]
  · cases request with
    | record other success error endedAt =>
      obtain rfl : other = own := hown
      simp only [serve]
      split
      · rename_i table hrecord
        have hcounters := Table.record_counters (Engine.of_through_eq_ok hrecord) id
        rw [if_neg hid.symm] at hcounters
        exact hcounters
      · rfl
    | setNextRun other nextRun =>
      simp only [serve]
      split
      · rename_i table htable
        cases Engine.of_through_eq_ok htable
        exact (Table.setNextRun_keeps ..).counters id
      · rfl
    | _ => exact absurd rfl heffect

namespace Engine

variable {e : Engine} {ws : List Workflow} {payload : Json} {ctx : Context} {id : String}

/-! ### What settling keeps -/

theorem recordsOwn_settle (h : ∀ f ∈ e.executions, f.RecordsOwn) :
    ∀ f ∈ e.settle.executions, f.RecordsOwn :=
  forall_mem_settle (fun hf hstage => Stage.Asks.resume hf hstage)
    (fun hf hstage => (hf.asking hstage).2) h

/-- The results of an owner stay results of their workflows. -/
theorem returns_settle {owner : Owner} (h : ∀ f ∈ e.executions, f.label.owner = owner →
      f.stage.Returns (ExecutionResult.IsOf f.label.workflowId)) :
    ∀ f ∈ e.settle.executions, f.label.owner = owner →
      f.stage.Returns (ExecutionResult.IsOf f.label.workflowId) := by
  refine forall_mem_settle (fun hf hstage now cancelled howner => ?_)
    (fun hf hstage reply howner => ?_) h
  · exact (hf howner).resume hstage now cancelled
  · have hreturns := hf howner
    rw [hstage] at hreturns
    exact Stage.returns_afterRequest hreturns reply

/-- Settling leaves the counts of a workflow without executions in progress. -/
theorem counters_settle (h : ∀ f ∈ e.executions, f.RecordsOwn ∧ f.label.workflowId ≠ id) :
    e.settle.world.table.counters id = e.world.table.counters id := by
  let P (fs : List Execution) (w : World) : Prop :=
    (∀ f ∈ fs, f.RecordsOwn ∧ f.label.workflowId ≠ id)
      ∧ w.table.counters id = e.world.table.counters id
  have hresume : (Fiber.resume World.environment : Fiber.Move _ _ _).Keeps P := by
    intro before after f g w w' hP hmove
    obtain ⟨reply, next, hstage, rfl, rfl⟩ := Fiber.resume_eq_some hmove
    obtain ⟨hown, hid⟩ := hP.1 f (by simp)
    exact ⟨forall_mem_replace hP.1 (fun _ hf => hf) ⟨Stage.Asks.resume hown hstage _ _, hid⟩, hP.2⟩
  have hserve : ∀ ready, (Fiber.serve World.environment ready : Fiber.Move _ _ _).Keeps P := by
    intro ready before after f g w w' hP hmove
    obtain ⟨request, next, hstage, rfl, rfl⟩ := Fiber.serve_eq_some hmove
    obtain ⟨hown, hid⟩ := hP.1 f (by simp)
    obtain ⟨hrequest, hnext⟩ := hown.asking hstage
    have hcounters := World.counters_serve f.token hrequest hid w
    exact ⟨forall_mem_replace hP.1 (fun _ hf => hf) ⟨hnext _, hid⟩, hcounters.trans hP.2⟩
  exact (Fiber.settle_induction hresume hserve e.executions e.world ⟨h, rfl⟩).2

/-! ### What is launched for a caller -/

theorem mem_launchAll {owner : Owner} {f : Execution} :
    f ∈ (e.launchAll owner ws payload ctx).executions
      ↔ f ∈ e.executions ∨ ∃ w ∈ ws, f = e.launched owner payload ctx w := by
  rw [launchAll_eq]
  simp only [moved, List.mem_append, List.mem_map, eq_comm]

/-- The executions of a caller that starts to wait are one of each workflow, in
their order. -/
theorem executionsOf_launchAll_caller (hcallers : e.executionsOf .caller = [])
    (ws : List Workflow) (payload : Json) (ctx : Context) :
    (e.launchAll .caller ws payload ctx).executionsOf .caller
      = ws.map (e.launched .caller payload ctx) := by
  have hkept : (ws.map (e.launched .caller payload ctx)).filter (·.label.owner == .caller)
      = ws.map (e.launched .caller payload ctx) := by
    refine List.filter_eq_self.2 fun f hf => ?_
    obtain ⟨w, -, rfl⟩ := List.mem_map.1 hf
    rfl
  rw [launchAll_eq]
  simp only [executionsOf, moved, List.filter_append] at hcallers ⊢
  rw [hcallers, hkept, List.nil_append]

/-! ### Results -/

/-- Executions that all have results of their workflows give these in their
order. -/
theorem map_results_of_forall : ∀ {fs : List Execution},
    (∀ f ∈ fs, ∃ r : ExecutionResult, f.result? = some (.ok r) ∧ r.workflowId = f.label.workflowId) →
      ((fs.filterMap (·.result?)).filterMap Except.toOption).map (·.workflowId)
        = fs.map (·.label.workflowId)
  | [], _ => rfl
  | f :: fs, h => by
    obtain ⟨r, hresult, hid⟩ := h f List.mem_cons_self
    have hrest := map_results_of_forall fun g hg => h g (List.mem_cons_of_mem _ hg)
    have hok : (Except.ok r : Except Failure ExecutionResult).toOption = some r := rfl
    rw [List.filterMap_cons_some hresult, List.filterMap_cons_some hok, List.map_cons, List.map_cons,
      hrest, hid]

/-- An execution launched for a caller comes to a result of its workflow,
whatever its actions do. -/
theorem exists_result (hcallers : e.executionsOf .caller = [])
    (hrecorder : e.world.outage? .recorder = none) (hreplies : e.world.outside.Replies)
    (ws : List Workflow) (payload : Json) (ctx : Context) :
    ∀ f ∈ (e.launchAll .caller ws payload ctx).settle.executionsOf .caller,
      ∃ r : ExecutionResult, f.result? = some (.ok r) ∧ r.workflowId = f.label.workflowId := by
  let launched := e.launchAll .caller ws payload ctx
  have hlaunched : ∀ f ∈ launched.executions, f.label.owner = .caller →
      ∃ w, f = e.launched .caller payload ctx w := by
    intro f hf howner
    have hcaller : f ∈ launched.executionsOf .caller :=
      List.mem_filter.2 ⟨hf, beq_iff_eq.2 howner⟩
    rw [executionsOf_launchAll_caller hcallers] at hcaller
    obtain ⟨w, -, rfl⟩ := List.mem_map.1 hcaller
    exact ⟨w, rfl⟩
  have hworld : launched.world = e.world := by
    rw [show launched = _ from launchAll_eq ..]
    rfl
  have hreturns : ∀ f ∈ launched.executions, f.label.owner = .caller →
      f.stage.Returns (ExecutionResult.IsOf f.label.workflowId) := by
    intro f hf howner
    obtain ⟨w, rfl⟩ := hlaunched f hf howner
    exact Executor.execute_returns _ w payload ctx hrecorder
  have hheeded : ∀ f ∈ launched.executions, f.label.owner = .caller → f.IsHeeded launched.world := by
    intro f hf howner
    obtain ⟨w, rfl⟩ := hlaunched f hf howner
    exact nofun
  intro f hf
  have hdone := isSome_result?_of_settle (hworld ▸ hreplies) hheeded f hf
  obtain ⟨hmem, howner⟩ := List.mem_filter.1 hf
  have hof := returns_settle hreturns f hmem (beq_iff_eq.1 howner)
  obtain ⟨result, hstage⟩ := isFinished_of_result? hdone
  rw [hstage] at hof
  obtain ⟨r, rfl, hid⟩ := hof
  exact ⟨r, by rw [Fiber.result?, hstage], hid⟩

/-- **A caller gets one result of each workflow**, in their order. -/
theorem map_results (hcallers : e.executionsOf .caller = [])
    (hrecorder : e.world.outage? .recorder = none) (hreplies : e.world.outside.Replies)
    (ws : List Workflow) (payload : Json) (ctx : Context) :
    ((e.executeAll ws payload ctx).1.filterMap Except.toOption).map (·.workflowId)
      = ws.map (·.id) := by
  let launched := e.launchAll .caller ws payload ctx
  calc ((e.executeAll ws payload ctx).1.filterMap Except.toOption).map (·.workflowId)
    _ = (launched.settle.executionsOf .caller).map (·.label.workflowId) :=
      map_results_of_forall (exists_result hcallers hrecorder hreplies ws payload ctx)
    _ = ((launched.settle.executionsOf .caller).map Execution.tag).map (·.1.workflowId) := by
      rw [List.map_map]
      rfl
    _ = ((launched.executionsOf .caller).map Execution.tag).map (·.1.workflowId) := by
      rw [tags_executionsOf_settle]
    _ = ws.map (·.id) := by
      rw [executionsOf_launchAll_caller hcallers, List.map_map, List.map_map]
      rfl

/-! ### Counts -/

/-- The counts of other workflows, with no executions in progress, stay. -/
theorem counters_executeAll (hown : ∀ f ∈ e.executions, f.RecordsOwn)
    (hrest : ∀ f ∈ e.executions, f.label.workflowId ≠ id) (hws : ∀ w ∈ ws, w.id ≠ id)
    (payload : Json) (ctx : Context) :
    (e.executeAll ws payload ctx).2.world.table.counters id = e.world.table.counters id := by
  have hlaunched : ∀ f ∈ (e.launchAll .caller ws payload ctx).executions,
      f.RecordsOwn ∧ f.label.workflowId ≠ id := by
    intro f hf
    rcases mem_launchAll.1 hf with hf | ⟨w, hw, rfl⟩
    · exact ⟨hown f hf, hrest f hf⟩
    · exact ⟨e.executor.execute_recordsFor w payload ctx, hws w hw⟩
  have hsettled := counters_settle hlaunched
  rw [launchAll_eq] at hsettled
  rw [executeAll, launchAll_eq]
  exact hsettled

/-- Sound executions stand somehow. -/
theorem Sound.exists_standings (h : e.Sound) :
    ∃ standings, List.Forall₂ Execution.Stands e.executions standings := by
  have hstands : ∀ f ∈ e.executions, ∃ g, f.Stands g := fun f hf => by
    obtain ⟨standing, hstage⟩ := (h.executions f hf).stands
    exact ⟨(f.label.workflowId, standing), rfl, hstage⟩
  generalize e.executions = fs at hstands
  induction fs with
  | nil => exact ⟨[], .nil⟩
  | cons f fs ih =>
    obtain ⟨g, hg⟩ := hstands f List.mem_cons_self
    obtain ⟨standings, hrest⟩ := ih fun x hx => hstands x (List.mem_cons_of_mem _ hx)
    exact ⟨g :: standings, .cons hg hrest⟩

/-- **Each execution is counted once**, if nothing else of its workflow is in
progress and its caller gets a result. -/
theorem total_executeAll (h : e.Sound) (hdone : Operation.GetsResults e ws payload ctx)
    (hstored : ∀ w ∈ ws, e.world.table.has w.id = true) (hids : (ws.map (·.id)).Nodup)
    (hrest : ∀ f ∈ e.executions, f.label.workflowId ≠ id) (hid : id ∈ ws.map (·.id)) :
    ((e.executeAll ws payload ctx).2.world.table.counters id).total
      = (e.world.table.counters id).total + 1 := by
  let launched := e.launchAll .caller ws payload ctx
  obtain ⟨hlaunch, hsound⟩ := launchAll_run .caller payload ctx h hstored
  have hrun : Run e (ws.map fun w => .entered w.id) launched.settle := by
    simpa using hlaunch.trans (settle_run hsound).1
  obtain ⟨standings, hstands⟩ := h.exists_standings
  have hnone : ∀ standing, standings.count (id, standing) = 0 := fun standing =>
    List.count_eq_zero.2 fun hmem => by
      obtain ⟨f, hf, hfstands⟩ := exists_of_forall₂ hstands _ hmem
      exact hrest f hf hfstands.label
  have hstart : Balance e.world.table e.world.table id [] standings :=
    ⟨by rw [hnone]; rfl, by rw [hnone]; rfl, rfl, Nat.le_refl _⟩
  obtain ⟨after, hafter, hbalance⟩ := hrun.balances hstands
  have htotal := (hbalance hstart).total
  have hentered : (ws.map fun w => ExecutionEvent.entered w.id).count (.entered id) = 1 := by
    have hinjective : Function.Injective ExecutionEvent.entered := fun _ _ h => by injection h
    have hcount := List.count_map_of_injective (ws.map (·.id)) _ hinjective id
    rw [List.map_map] at hcount
    exact hcount.trans (List.count_eq_one_of_mem hids hid)
  have hnothing : after.count (id, .owes) = 0 := List.count_eq_zero.2 fun hmem => by
    obtain ⟨f, hf, hfstands⟩ := exists_of_forall₂ hafter _ hmem
    have htag : f.tag ∈ launched.executions.map Execution.tag :=
      launched.tags_settle ▸ List.mem_map_of_mem hf
    obtain ⟨g, hg, hsame⟩ := List.mem_map.1 htag
    have hlabel : g.label = f.label := congrArg Prod.fst hsame
    rcases mem_launchAll.1 hg with hg | ⟨w, -, rfl⟩
    · exact hrest g hg (by rw [hlabel, hfstands.label])
    · have howner : f.label.owner = .caller := by rw [← hlabel]; rfl
      have hresult := hdone f (List.mem_filter.2 ⟨hf, beq_iff_eq.2 howner⟩)
      obtain ⟨result, hstage⟩ := isFinished_of_result? hresult
      have hstanding := hfstands.stage
      rw [hstage] at hstanding
      cases hstanding
  rw [List.nil_append, hentered, hnothing] at htotal
  exact htotal

/-! ### Engines in which no caller waits -/

/-- No caller waits, and executions record for their own workflows only. -/
def IsFree (e : Engine) : Prop := ∀ f ∈ e.executions, f.label.owner ≠ .caller ∧ f.RecordsOwn

/-- No execution of a workflow is in progress. -/
def IsIdle (e : Engine) (id : String) : Prop := ∀ f ∈ e.executions, f.label.workflowId ≠ id

variable {e' : Engine}

theorem IsFree.executionsOf_caller (h : e.IsFree) : e.executionsOf .caller = [] :=
  List.filter_eq_nil_iff.2 fun f hf => by simp [(h f hf).1]

theorem IsFree.fewer (h : e.IsFree) (hsub : ∀ f ∈ e'.executions, f ∈ e.executions) : e'.IsFree :=
  fun f hf => h f (hsub f hf)

theorem IsFree.aside (h : e.IsFree) (hexecutions : e'.executions = e.executions) : e'.IsFree :=
  h.fewer fun _ hf => hexecutions ▸ hf

theorem IsFree.settle (h : e.IsFree) : e.settle.IsFree :=
  forall_mem_settle
    (fun hf hstage now cancelled => ⟨hf.1, Stage.Asks.resume hf.2 hstage now cancelled⟩)
    (fun hf hstage reply => ⟨hf.1, (hf.2.asking hstage).2 reply⟩) h

theorem IsFree.launch (h : e.IsFree) {label : ExecutionLabel} (hlabel : label.owner ≠ .caller)
    (token : Token) {p : Process.OfExecution} (hp : p.Asks (·.RecordsFor label.workflowId)) :
    (e.launch label token p).IsFree := by
  intro f hf
  rcases List.mem_append.1 hf with hf | hf
  · exact h f hf
  · rw [List.mem_singleton.1 hf]
    exact ⟨hlabel, hp⟩

/-- A caller that has its results waits no more. -/
theorem executeAll_isFree (h : e.IsFree) (ws : List Workflow) (payload : Json) (ctx : Context) :
    (e.executeAll ws payload ctx).2.IsFree := by
  have hown : ∀ f ∈ (e.launchAll .caller ws payload ctx).executions, f.RecordsOwn := by
    intro f hf
    rcases mem_launchAll.1 hf with hf | ⟨w, -, rfl⟩
    · exact (h f hf).2
    · exact e.executor.execute_recordsFor w payload ctx
  intro f hf
  obtain ⟨hmem, howner⟩ := List.mem_filter.1 hf
  exact ⟨bne_iff_ne.1 howner, recordsOwn_settle hown f hmem⟩

theorem takeJob_isFree (h : e.IsFree) (number : Nat) (job : Job) (dispatcher : Dispatcher Job) :
    (e.takeJob number job dispatcher).IsFree := by
  intro f hf
  rcases mem_launchAll.1 hf with hf | ⟨w, -, rfl⟩
  · exact h f hf
  · exact ⟨nofun, Executor.execute_recordsFor _ w job.payload job.context⟩

theorem work_isFree (h : e.IsFree) : e.work.IsFree :=
  workRounds_induction (P := IsFree) (fun hP => takeJob_isFree hP _ _ _)
    (fun hP => hP.settle.fewer fun _ => mem_of_mem_collect) _ h

theorem tick_isFree (h : e.IsFree) : e.tick.2.IsFree := by
  have howner : Owner.schedule ≠ .caller := nofun
  unfold tick
  split
  · refine List.foldlRecOn _ _ h fun e' hlaunched w _ => ?_
    have htoken : IsFree { e' with tokens := e'.tokens + 1 } := hlaunched.aside rfl
    exact htoken.launch howner _ (Executor.executeScheduled_recordsFor ..)
  · exact h

theorem stop_isFree (h : e.IsFree) : e.stop.IsFree := by
  refine h.fewer fun f hf => ?_
  rw [executions_stop] at hf
  exact (List.mem_filter.1 hf).1

/-- **Whatever is asked of an engine**, no caller goes on waiting. -/
theorem Operation.isFree (h : e.IsFree) (o : Operation) : (o.perform e).IsFree := by
  refine o.perform_cases ?self ?start ?stop ?execute ?enqueue ?work ?tick ?stopScheduled ?write ?later
  case self => exact h
  case start => exact h.aside rfl
  case stop => exact stop_isFree h
  case execute => exact executeAll_isFree h
  case enqueue => exact fun job => h.aside rfl
  case work => exact work_isFree h
  case tick => exact tick_isFree h
  case stopScheduled => exact work_isFree (h.aside rfl)
  case write => exact fun table => h.aside rfl
  case later => exact fun clock => h.aside rfl

/-- So in an engine that began without executions none ever does. -/
theorem Operation.performAll_isFree (h : e.executions = []) (os : List Operation) :
    (os.foldl perform e).IsFree := by
  have hfree : e.IsFree := by
    rw [IsFree, h]
    exact List.forall_mem_nil _
  exact List.foldlRecOn (motive := IsFree) os perform hfree fun _ hP o _ => o.isFree hP

/-! ### Events -/

/-- **An event sets off the executable workflows of its store with its trigger
whose conditions hold**, whatever else is in progress and whatever any of them
does: one execution is launched of each, newest first, and only their counts
change. Where every webhook answers there is one result of each, in this order,
and each has been counted once if writes succeed. What is no kind of trigger
sets off nothing. -/
theorem dispatch_matching (hfree : e.IsFree) (hids : e.world.table.Distinct)
    (hread : ∀ r ∈ e.world.table.rows, r.isReadable = true)
    (hquery : e.world.outage? .activeFor = none) (hrecorder : e.world.outage? .recorder = none)
    (event : String) (payload : Json) (ctx : Context) :
    ∃ ws : List Workflow,
      (∀ w, w ∈ ws ↔ (∃ r ∈ e.world.table.rows, r.workflow = .ok w) ∧ w.storeId = ctx.storeId
        ∧ w.isActive = true ∧ w.isDeleted = false ∧ w.trigger.kind.name = event
        ∧ ∀ c ∈ w.trigger.conditions, c.holds payload = true)
      ∧ ws.Pairwise Workflow.IsNewer ∧ (ws.map (·.id)).Nodup
      ∧ (e.dispatch event payload ctx).2
        = (e.moved (e.executions ++ ws.map (e.launched .caller payload ctx)) e.world).settle.forget
          .caller
      ∧ (∀ id ∉ ws.map (·.id), e.IsIdle id →
          (e.dispatch event payload ctx).2.world.table.counters id = e.world.table.counters id)
      ∧ (e.world.outside.Replies →
          (e.dispatch event payload ctx).1.map (·.workflowId) = ws.map (·.id)
            ∧ (e.Sound → ∀ id ∈ ws.map (·.id), e.IsIdle id →
                ((e.dispatch event payload ctx).2.world.table.counters id).total
                  = (e.world.table.counters id).total + 1))
      ∧ (TriggerKind.ofName? event = none → ws = [] ∧ (e.dispatch event payload ctx).1 = []) := by
  let ws := e.matching event payload ctx fun _ => false
  have hcallers := hfree.executionsOf_caller
  have hown : ∀ f ∈ e.executions, f.RecordsOwn := fun f hf => (hfree f hf).2
  have hpicked : ∀ r ∈ e.world.table.rows, Table.isActiveFor ctx.storeId event r = true →
      r.isReadable = true := fun r hr _ => hread r hr
  have hdispatch : (e.dispatch event payload ctx).2 = (e.executeAll ws payload ctx).2 := rfl
  obtain ⟨hnewer, hnodup⟩ : ws.Pairwise Workflow.IsNewer ∧ (ws.map (·.id)).Nodup :=
    pairwise_matching hids fun _ => false
  refine ⟨ws, fun w => mem_matching hquery hpicked, hnewer, hnodup, ?_, fun id hid hidle => ?_,
    fun hreplies => ⟨map_results hcallers hrecorder hreplies ws payload ctx,
      fun hsound id hid hidle => ?_⟩, fun hkind => ?_⟩
  · rw [hdispatch, executeAll, launchAll_eq]
  · rw [hdispatch]
    exact counters_executeAll hown hidle (fun w hw heq => hid (heq ▸ List.mem_map_of_mem hw)) ..
  · have hdone : Operation.GetsResults e ws payload ctx := fun f hf => by
      obtain ⟨r, hresult, -⟩ := exists_result hcallers hrecorder hreplies ws payload ctx f hf
      rw [hresult]
      rfl
    rw [hdispatch]
    exact total_executeAll hsound hdone has_of_mem_matching hnodup hidle hid
  · have hws : ws = [] := matching_of_eq_none _ hkind
    have hnone : (e.settle.executionsOf .caller).map Execution.tag = [] := by
      rw [tags_executionsOf_settle, hcallers, List.map_nil]
    refine ⟨hws, ?_⟩
    show ((e.executeAll ws payload ctx).1).filterMap Except.toOption = []
    rw [hws]
    show ((e.settle.executionsOf .caller).filterMap (·.result?)).filterMap Except.toOption = []
    rw [List.map_eq_nil_iff.1 hnone]
    rfl

/-- The newer of two workflows of a store is first to give its result, and a
workflow of another store is left alone. -/
theorem dispatch_matching_twoStores :
    let row (id storeId : String) (createdAt : Instant) : Row := {
      id, createdAt
      definition := ⟨storeId, none, "Notify", none, [], 1, true, false, "manual", [], .null, none,
        .arr [], none⟩ }
    let e : Engine := {
      world := {
        clock := ⟨86400000000⟩
        table := ⟨[row "w-1" "store" ⟨0⟩, row "w-2" "store" ⟨1⟩, row "w-3" "other" ⟨2⟩]⟩ } }
    let ctx : Context := { storeId := "store" }
    let dispatched := e.dispatch "manual" .null ctx
    e.IsFree ∧ e.world.table.Distinct ∧ (∀ r ∈ e.world.table.rows, r.isReadable = true)
      ∧ e.world.outage? .activeFor = none ∧ e.world.outage? .recorder = none
      ∧ dispatched.1.map (·.workflowId) = ["w-2", "w-1"]
      ∧ (dispatched.2.world.table.counters "w-1").total = 1
      ∧ dispatched.2.world.table.counters "w-3" = {} := by
  intro row e ctx dispatched
  let w (id storeId : String) (createdAt : Instant) : Workflow :=
    { id, storeId, name := "Notify", trigger := ⟨.manual, [], none⟩
      createdAt := some (.ofInstant createdAt) }
  have hread : ∀ id storeId createdAt, (row id storeId createdAt).workflow = .ok (w id storeId createdAt) :=
    fun _ _ _ => rfl
  have hreadable : ∀ r ∈ e.world.table.rows, r.isReadable = true := by
    simp [e, Row.isReadable, hread, Except.toBool]
  have hnone : ∀ {P : Execution → Prop}, ∀ f ∈ e.executions, P f := List.forall_mem_nil _
  have hfree : e.IsFree := hnone
  have hids : e.world.table.Distinct := by
    unfold Table.Distinct
    decide
  have hidle : ∀ id, e.IsIdle id := fun _ => hnone
  obtain ⟨ws, hmem, hnewer, -, -, hothers, hresults, -⟩ :=
    dispatch_matching hfree hids hreadable rfl rfl "manual" .null ctx
  have hws : ws = [w "w-2" "store" ⟨1⟩, w "w-1" "store" ⟨0⟩] := by
    refine Workflow.eq_of_isNewer hnewer ?_ fun v => ?_
    · exact List.pairwise_pair.2 ⟨⟨1⟩, ⟨0⟩, rfl, rfl, .inl (by decide)⟩
    · rw [hmem, List.mem_pair]
      constructor
      · rintro ⟨⟨r, hr, hv⟩, hstore, -⟩
        simp only [e, List.mem_cons, List.not_mem_nil, or_false] at hr
        rcases hr with rfl | rfl | rfl
        · exact .inr (Except.ok.inj hv).symm
        · exact .inl (Except.ok.inj hv).symm
        · cases hv
          exact absurd hstore (by decide)
      · rintro (rfl | rfl)
        · exact ⟨⟨_, List.mem_cons_of_mem _ List.mem_cons_self, hread ..⟩, rfl, rfl, rfl, rfl,
            List.forall_mem_nil _⟩
        · exact ⟨⟨_, List.mem_cons_self, hread ..⟩, rfl, rfl, rfl, rfl, List.forall_mem_nil _⟩
  subst hws
  obtain ⟨hgiven, hcounted⟩ := hresults fun _ hhangs => by cases hhangs
  have hsound : e.Sound := ⟨⟨rfl, rfl, rfl, rfl⟩, hnone⟩
  refine ⟨hfree, hids, hreadable, rfl, rfl, hgiven, ?_, ?_⟩
  · exact hcounted hsound "w-1" (by simp [w]) (hidle _)
  · exact hothers "w-3" (by simp [w]) (hidle _)

end Engine

end Automation
