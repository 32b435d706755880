/-
# What callers ask of the engine is a run

Dispatching an event, testing a workflow, leaving a run to the workers and
letting them work, a tick of the scheduler, stopping, and every write of a
definition: each is a run of the engine (`Engine.Operation.leads`), as long as
writes succeed and a caller that waits gets its results.

Key definitions: `Engine.takeJob`, `Engine.Operation`,
`Engine.Operation.perform`, `Engine.Operation.IsReady`.
Key theorems: `Engine.launchAll_eq`, `Engine.executeAll_leads`,
`Engine.workRounds_induction`, `Engine.work_leads`, `Engine.stop_leads`,
`Engine.Operation.perform_cases`, `Engine.Operation.leads`.
-/
import Automation.Proofs.Engine.Settling

namespace Automation

/-! ### Stored workflows -/

theorem Row.id_of_workflow {r : Row} {w : Workflow} (h : r.workflow = .ok w) : w.id = r.id := by
  obtain ⟨kind, -, h⟩ := Except.of_bind_eq_ok h
  obtain ⟨conditions, -, h⟩ := Except.of_bind_eq_ok h
  obtain ⟨schedule, -, h⟩ := Except.of_bind_eq_ok h
  obtain ⟨actions, -, h⟩ := Except.of_bind_eq_ok h
  cases h
  rfl

namespace Table

theorem has_of_mem {t : Table} {r : Row} (h : r ∈ t.rows) : t.has r.id = true := by
  rw [has, find?, List.find?_isSome]
  exact ⟨r, h, by simp⟩

/-- The workflows of rows are those of the table that holds the rows. -/
theorem has_of_mem_workflows {t : Table} : ∀ {rows : List Row} {ws : List Workflow},
    (∀ r ∈ rows, r ∈ t.rows) → workflows rows = .ok ws → ∀ w ∈ ws, t.has w.id = true
  | [], ws, _, h, w, hw => by
    cases h
    cases hw
  | r :: rows, ws, hrows, h, w, hw => by
    rw [workflows, List.mapM_cons] at h
    obtain ⟨v, hv, h⟩ := Except.of_bind_eq_ok h
    obtain ⟨vs, hvs, h⟩ := Except.of_bind_eq_ok h
    cases h
    rcases List.mem_cons.1 hw with rfl | hw
    · rw [Row.id_of_workflow hv]
      exact has_of_mem (hrows r (List.mem_cons_self ..))
    · exact has_of_mem_workflows (fun r hr => hrows r (List.mem_cons_of_mem _ hr)) hvs w hw

theorem has_of_mem_activeFor {t : Table} {storeId trigger : String} {ws : List Workflow}
    (h : t.activeFor storeId trigger = .ok ws) : ∀ w ∈ ws, t.has w.id = true := by
  obtain ⟨kind, -, h⟩ := Except.of_bind_eq_ok h
  refine has_of_mem_workflows (fun r hr => ?_) h
  exact (List.mem_filter.1 (List.mem_mergeSort.1 hr)).1

theorem has_of_mem_dueAt {t : Table} {now : Instant} {ws : List Workflow}
    (h : t.dueAt now = .ok ws) : ∀ w ∈ ws, t.has w.id = true := by
  refine has_of_mem_workflows (fun r hr => ?_) h
  exact (List.mem_filter.1 (List.mem_mergeSort.1 hr)).1

theorem has_of_get {t : Table} {id : String} {w : Workflow} (h : t.get id = .ok (some w)) :
    t.has w.id = true := by
  obtain ⟨r, hr, hw⟩ := get_eq_ok h
  rw [Row.id_of_workflow hw, has, find?_self hr]
  rfl

end Table

namespace Engine

variable {e e' : Engine}

theorem has_of_mem_matching {event : String} {payload : Json} {ctx : Context}
    {broken : List Condition → Bool} :
    ∀ w ∈ e.matching event payload ctx broken, e.world.table.has w.id = true := by
  intro w hw
  unfold matching at hw
  split at hw
  · rename_i ws hws
    exact Table.has_of_mem_activeFor (of_through_eq_ok hws) w (List.mem_filter.1 hw).1
  · cases hw

theorem has_of_mem_workflowsOf {job : Job} :
    ∀ w ∈ e.workflowsOf job, e.world.table.has w.id = true := by
  intro w hw
  cases job with
  | event name payload ctx =>
    rw [workflowsOf] at hw
    exact has_of_mem_matching w hw
  | run id payload ctx =>
    simp only [workflowsOf] at hw
    split at hw
    · rename_i v hv
      split at hw
      · rw [List.mem_singleton.1 hw]
        exact Table.has_of_get (of_through_eq_ok hv)
      · cases hw
    · cases hw

theorem has_of_visible {id storeId : String} {organizationId : Option String} {w : Workflow}
    (h : e.visible id storeId organizationId = .ok w) : e.world.table.has w.id = true := by
  obtain ⟨found, hfound, h⟩ := Except.of_bind_eq_ok h
  cases found with
  | none => cases h
  | some v =>
    simp only at h
    split at h
    · cases h
      exact Table.has_of_get (of_through_eq_ok hfound)
    · cases h

/-! ### Entering and returning -/

theorem Sound.launch (h : e.Sound) (label : ExecutionLabel) (token : Token)
    {p : Process.OfExecution} (hp : p.Owes label.workflowId)
    (hid : e.world.table.has label.workflowId = true) : (e.launch label token p).Sound where
  writes := h.writes
  executions f hf := by
    rcases List.mem_append.1 hf with hf | hf
    · exact h.executions f hf
    · rw [List.mem_singleton.1 hf]
      exact ⟨⟨_, .answered hp⟩, hid, trivial⟩

/-- Whatever is no matter of executions. -/
theorem Sound.other (h : e.Sound) (hexecutions : e'.executions = e.executions)
    (htable : e'.world.table = e.world.table) (hwrites : e'.world.Writes) : e.Leads e' := by
  refine .of_step (.other hexecutions htable) ⟨hwrites, ?_⟩
  rw [hexecutions, htable]
  exact h.executions

/-- An execution of a workflow as it is launched for an event. -/
def launched (e : Engine) (owner : Owner) (payload : Json) (ctx : Context) (w : Workflow) : Execution :=
  .start ⟨owner, w.id⟩ ctx.token (e.executor.execute w payload ctx)

/-- One execution is launched of each workflow, in this order, and nothing else
changes. -/
theorem launchAll_eq (owner : Owner) (payload : Json) (ctx : Context) :
    ∀ (ws : List Workflow) (e : Engine), e.launchAll owner ws payload ctx
      = e.moved (e.executions ++ ws.map (e.launched owner payload ctx)) e.world
  | [], e => by
    rw [List.map_nil, List.append_nil]
    rfl
  | w :: ws, e => by
    have hrest := launchAll_eq owner payload ctx ws
      (e.launch ⟨owner, w.id⟩ ctx.token (e.executor.execute w payload ctx))
    rw [List.map_cons, List.append_cons]
    exact hrest

/-- To launch executions is to enter each of them, in this order. -/
theorem launchAll_run (owner : Owner) (payload : Json) (ctx : Context) :
    ∀ {ws : List Workflow} {e : Engine}, e.Sound → (∀ w ∈ ws, e.world.table.has w.id = true) →
      Run e (ws.map fun w => .entered w.id) (e.launchAll owner ws payload ctx)
        ∧ (e.launchAll owner ws payload ctx).Sound
  | [], _, h, _ => ⟨.nil, h⟩
  | w :: ws, e, h, hws => by
    have hw := hws w (List.mem_cons_self ..)
    have hsound := h.launch ⟨owner, w.id⟩ ctx.token
      (e.executor.execute_owes h.writes.recorder w payload ctx) hw
    have hlaunch := Run.single (.enter owner w payload ctx h.writes.recorder hw)
    obtain ⟨hrun, hrest⟩ := launchAll_run owner payload ctx hsound
      fun v hv => hws v (List.mem_cons_of_mem _ hv)
    exact ⟨hlaunch.trans hrun, hrest⟩

theorem launchAll_leads (owner : Owner) (payload : Json) (ctx : Context) {ws : List Workflow}
    (h : e.Sound) (hws : ∀ w ∈ ws, e.world.table.has w.id = true) :
    e.Leads (e.launchAll owner ws payload ctx) :=
  have hlaunch := launchAll_run owner payload ctx h hws
  ⟨⟨_, hlaunch.1⟩, hlaunch.2⟩

theorem mem_of_mem_others {before after : List Execution} {f g : Execution}
    (h : g ∈ before ++ after) : g ∈ before ++ f :: after := by
  rcases List.mem_append.1 h with h | h
  · exact List.mem_append_left _ h
  · exact List.mem_append_right _ (List.mem_cons_of_mem _ h)

/-- A sound execution with a result returns it. -/
theorem return_leads (h : e.Sound) {before after : List Execution} {f : Execution}
    (hexecutions : e.executions = before ++ f :: after) (hf : f.result?.isSome = true) :
    e.Leads (e.moved (before ++ after) e.world) := by
  obtain ⟨standing, hstands⟩ := (h.executions f (by rw [hexecutions]; simp)).stands
  have hsound : (e.moved (before ++ after) e.world).Sound :=
    h.fewer (fun g hg => hexecutions ▸ mem_of_mem_others hg) h.writes id
  cases hstage : f.stage with
  | finished result =>
    rw [hstage] at hstands
    cases hstands
    exact .of_step (.return hexecutions hstage) hsound
  | _ =>
    rw [Fiber.result?, hstage] at hf
    cases hf

/-- What dropping one element keeps, dropping several keeps. -/
theorem filter_induction {α : Type} {P : List α → Prop} {keep : α → Bool} :
    ∀ (rest before : List α), (∀ {before after : List α} {a : α}, a ∈ rest → keep a = false →
      P (before ++ a :: after) → P (before ++ after)) → P (before ++ rest) →
      P (before ++ rest.filter keep)
  | [], _, _, h => h
  | a :: rest, before, hdrop, h => by
    have hothers : ∀ {before after : List α} {b : α}, b ∈ rest → keep b = false →
        P (before ++ b :: after) → P (before ++ after) := fun hb => hdrop (List.mem_cons_of_mem a hb)
    cases hkeep : keep a with
    | true =>
      rw [List.filter_cons_of_pos hkeep, List.append_cons]
      exact filter_induction rest (before ++ [a]) hothers (List.append_cons .. ▸ h)
    | false =>
      rw [List.filter_cons_of_neg (by simp [hkeep])]
      exact filter_induction rest before hothers (hdrop List.mem_cons_self hkeep h)

/-- Executions with results may be dropped. -/
theorem filter_leads (h : e.Sound) (keep : Execution → Bool)
    (hdone : ∀ f ∈ e.executions, keep f = false → f.result?.isSome = true) :
    e.Leads (e.moved (e.executions.filter keep) e.world) := by
  let P (fs : List Execution) : Prop := e.Leads (e.moved fs e.world)
  refine filter_induction (P := P) e.executions [] (fun hf hkeep hP => ?_) h.leads
  exact hP.trans (return_leads hP.sound rfl (hdone _ hf hkeep))

/-- An owner whose executions all have results may be forgotten. -/
theorem forget_leads (h : e.Sound) {owner : Owner}
    (hdone : ∀ f ∈ e.executionsOf owner, f.result?.isSome = true) : e.Leads (e.forget owner) := by
  refine filter_leads h (·.label.owner != owner) fun f hf hkeep => ?_
  refine hdone f (List.mem_filter.2 ⟨hf, ?_⟩)
  simpa using hkeep

/-- A caller that gets all its results has made a run. -/
theorem executeAll_leads (h : e.Sound) {ws : List Workflow} {payload : Json} {ctx : Context}
    (hws : ∀ w ∈ ws, e.world.table.has w.id = true)
    (hdone : ∀ f ∈ (e.launchAll .caller ws payload ctx).settle.executionsOf .caller,
      f.result?.isSome = true) : e.Leads (e.executeAll ws payload ctx).2 := by
  have hlaunch := launchAll_leads .caller payload ctx h hws
  have hsettle := settle_leads hlaunch.sound
  exact (hlaunch.trans hsettle).trans (forget_leads hsettle.sound hdone)

/-! ### Workers -/

/-- A worker takes a job: the workflows of the job are launched. -/
def takeJob (e : Engine) (number : Nat) (job : Job) (dispatcher : Dispatcher Job) : Engine :=
  let e := { e with dispatcher }
  e.launchAll (.job number) (e.workflowsOf job) job.payload job.context

/-- What taking one job keeps, taking several keeps. -/
theorem takeJobs_induction {P : Engine → Prop}
    (htake : ∀ {e : Engine} {number : Nat} {job : Job} {dispatcher : Dispatcher Job}, P e →
      P (e.takeJob number job dispatcher)) :
    ∀ (count : Nat) {e : Engine}, P e → P (takeJobs count e)
  | 0, _, h => h
  | count + 1, e, h => by
    unfold takeJobs
    split
    · exact h
    · exact takeJobs_induction htake count (htake h)

/-- What taking a job and settling keep, working keeps. -/
theorem workRounds_induction {P : Engine → Prop}
    (htake : ∀ {e : Engine} {number : Nat} {job : Job} {dispatcher : Dispatcher Job}, P e →
      P (e.takeJob number job dispatcher)) (hsettle : ∀ {e : Engine}, P e → P e.settle.collect) :
    ∀ (rounds : Nat) {e : Engine}, P e → P (workRounds rounds e)
  | 0, _, h => hsettle h
  | rounds + 1, e, h => by
    rw [workRounds]
    split
    · exact hsettle h
    · exact workRounds_induction htake hsettle rounds (takeJobs_induction htake _ (hsettle h))

theorem takeJob_leads (h : e.Sound) {number : Nat} {job : Job} {dispatcher : Dispatcher Job} :
    e.Leads (e.takeJob number job dispatcher) := by
  have htake : e.Leads { e with dispatcher } := h.other rfl rfl h.writes
  have hstored : ∀ w ∈ Engine.workflowsOf { e with dispatcher } job, e.world.table.has w.id = true :=
    has_of_mem_workflowsOf
  exact htake.trans (launchAll_leads (.job number) job.payload job.context htake.sound hstored)

/-- A worker finishes a job. -/
def finishJob (e : Engine) (number : Nat) : Engine :=
  { e.forget (.job number) with dispatcher := e.dispatcher.finish number }

theorem mem_of_mem_finishJobs : ∀ {numbers : List Nat} {e : Engine} {f : Execution},
    f ∈ (numbers.foldl finishJob e).executions → f ∈ e.executions
  | [], _, _, h => h
  | n :: _, e, f, h => by
    have hmem : f ∈ (e.finishJob n).executions := mem_of_mem_finishJobs h
    exact (List.mem_filter.1 hmem).1

theorem finishJobs_leads : ∀ {numbers : List Nat} {e : Engine}, e.Sound →
    (∀ n ∈ numbers, ∀ f ∈ e.executionsOf (.job n), f.result?.isSome = true) →
    e.Leads (numbers.foldl finishJob e)
  | [], e, h, _ => h.leads
  | n :: numbers, e, h, hdone => by
    have hforget := forget_leads h (hdone n (List.mem_cons_self ..))
    have hfinish : e.Leads (e.finishJob n) :=
      hforget.trans (hforget.sound.other rfl rfl hforget.sound.writes)
    refine hfinish.trans (finishJobs_leads hfinish.sound fun m hm f hf => ?_)
    obtain ⟨hf, howner⟩ := List.mem_filter.1 hf
    exact hdone m (List.mem_cons_of_mem _ hm) f
      (List.mem_filter.2 ⟨(List.mem_filter.1 hf).1, howner⟩)

/-- The engine without the scheduled executions that have their results. -/
def collectScheduled (e : Engine) : Engine :=
  e.moved (e.executions.filter fun f => f.label.owner != .schedule || f.result?.isNone) e.world

theorem collect_eq (e : Engine) : e.collect =
    (e.collectScheduled.dispatcher.busy.filter e.collectScheduled.isDone).foldl finishJob
      e.collectScheduled :=
  rfl

theorem mem_of_mem_collect {f : Execution} (h : f ∈ e.collect.executions) : f ∈ e.executions := by
  rw [collect_eq] at h
  exact (List.mem_filter.1 (mem_of_mem_finishJobs h)).1

theorem collect_leads (h : e.Sound) : e.Leads e.collect := by
  have hscheduled : e.Leads e.collectScheduled := by
    refine filter_leads h _ fun f _ hkeep => ?_
    rw [Bool.or_eq_false_iff, ← Option.not_isSome, Bool.not_eq_false'] at hkeep
    exact hkeep.2
  rw [collect_eq]
  refine hscheduled.trans (finishJobs_leads hscheduled.sound fun n hn f hf => ?_)
  exact List.all_eq_true.1 (List.mem_filter.1 hn).2 f hf

theorem work_leads (h : e.Sound) : e.Leads e.work := by
  let P (e' : Engine) : Prop := e.Leads e'
  refine workRounds_induction (P := P) (fun hP => hP.trans (takeJob_leads hP.sound)) (fun hP => ?_) _
    h.leads
  have hsettle := settle_leads hP.sound
  exact hP.trans (hsettle.trans (collect_leads hsettle.sound))

theorem isAtRest_of_mem_collect_settle {f : Execution} (h : f ∈ e.settle.collect.executions) :
    f.stage.isAtRest = true :=
  Fiber.isAtRest_of_mem_settle World.environment e.executions e.world f (mem_of_mem_collect h)

/-- Once the workers have done what they can every execution is at rest. -/
theorem isAtRest_of_mem_workRounds : ∀ (rounds : Nat) {e : Engine},
    ∀ f ∈ (workRounds rounds e).executions, f.stage.isAtRest = true
  | 0, _, _, hf => isAtRest_of_mem_collect_settle hf
  | rounds + 1, e, f, hf => by
    rw [workRounds] at hf
    split at hf
    · exact isAtRest_of_mem_collect_settle hf
    · exact isAtRest_of_mem_workRounds rounds f hf

/-! ### The scheduler -/

theorem launchScheduled_leads (h : e.Sound) {w : Workflow} (hw : e.world.table.has w.id = true) :
    e.Leads (e.launchScheduled w) := by
  have htoken : e.Leads { e with tokens := e.tokens + 1 } := h.other rfl rfl h.writes
  refine htoken.trans (.of_step (.enterScheduled e.tokens w _ h.writes.recorder hw) ?_)
  exact htoken.sound.launch ⟨.schedule, w.id⟩ e.tokens
    (Executor.executeScheduled_owes _ h.writes.recorder ..) hw

theorem launchAllScheduled_leads : ∀ {ws : List Workflow} {e : Engine}, e.Sound →
    (∀ w ∈ ws, e.world.table.has w.id = true) → e.Leads (ws.foldl launchScheduled e)
  | [], _, h, _ => h.leads
  | w :: ws, e, h, hws => by
    have hlaunch := launchScheduled_leads h (hws w (List.mem_cons_self ..))
    exact hlaunch.trans (launchAllScheduled_leads hlaunch.sound
      fun v hv => hws v (List.mem_cons_of_mem _ hv))

theorem tick_leads (h : e.Sound) : e.Leads e.tick.2 := by
  unfold tick
  split
  · rename_i due hdue
    refine launchAllScheduled_leads h fun w hw => ?_
    exact Table.has_of_mem_dueAt (of_through_eq_ok hdue) w (List.mem_filter.1 hw).1
  · exact h.leads

theorem cancelAll_eq : ∀ (tokens : List Token) (w : World),
    (tokens.foldl World.cancel w).outages = w.outages
      ∧ (tokens.foldl World.cancel w).table = w.table
      ∧ (tokens.foldl World.cancel w).clock = w.clock
  | [], _ => ⟨rfl, rfl, rfl⟩
  | token :: tokens, w => cancelAll_eq tokens (w.cancel token)

theorem stopScheduled_leads (h : e.Sound) : e.Leads e.stopScheduled.2 := by
  let tokens := (e.executionsOf .schedule).map (·.token)
  obtain ⟨houtages, htable, hclock⟩ := cancelAll_eq tokens e.world
  have hcancel : e.Leads (e.moved e.executions (tokens.foldl World.cancel e.world)) :=
    h.other rfl htable (h.writes.of_outages houtages (hclock ▸ h.writes.clock))
  exact hcancel.trans (work_leads hcancel.sound)

/-! ### Stopping -/

/-- To record that an execution was cancelled succeeds. -/
theorem recordCancelled_eq (h : e.Sound) {id : String} (hid : e.world.table.has id = true) :
    ∃ table, World.serve 0 (.record id false none e.world.clock) e.world
        = (some .done, { e.world with table })
      ∧ (∀ {other}, e.world.table.has other = true → table.has other = true)
      ∧ ∀ executions, (e.moved executions e.world).recordCancelled id
        = e.moved executions { e.world with table } := by
  have herror : ∀ last ∈ (none : Option LastError), last.timestamp = .ofInstant e.world.clock :=
    nofun
  obtain ⟨table, hserve, hhas⟩ := World.serve_record 0 h.writes false hid h.writes.clock herror
  refine ⟨table, hserve, hhas, fun executions => ?_⟩
  have hrecorder : (e.moved executions e.world).executor.recordFailure = none := h.writes.recorder
  rw [recordCancelled, Executor.record, hrecorder]
  change e.moved executions (World.serve 0 (.record id false none e.world.clock) e.world).2 = _
  rw [hserve]

/-- Recording changes nothing but the world. -/
theorem recordCancelledAll_eq : ∀ (ids : List String) (e : Engine),
    ids.foldl recordCancelled e = e.moved e.executions (ids.foldl recordCancelled e).world
  | [], _ => rfl
  | id :: ids, e => recordCancelledAll_eq ids (e.recordCancelled id)

/-- The workflows of the executions that are given up. -/
def givenUp (isOfJob : Execution → Bool) (executions : List Execution) : List String :=
  (executions.filter fun f => isOfJob f && f.result?.isNone).map (·.label.workflowId)

/-- Executions at rest can be given up: those without a result are recorded as
cancelled, the others return. -/
theorem giveUp_leads (isOfJob : Execution → Bool) : ∀ (rest before : List Execution) {e : Engine},
    e.Sound → e.executions = before ++ rest →
    (∀ f ∈ rest, isOfJob f = true → f.stage.isAtRest = true) →
    e.Leads ((givenUp isOfJob rest).foldl recordCancelled
      (e.moved (before ++ rest.filter fun f => !isOfJob f) e.world))
  | [], before, e, h, hexecutions, _ => by
    rw [List.filter_nil, ← hexecutions]
    exact h.leads
  | f :: rest, before, e, h, hexecutions, hrest => by
    have hothers : ∀ g ∈ rest, isOfJob g = true → g.stage.isAtRest = true := fun g hg =>
      hrest g (List.mem_cons_of_mem _ hg)
    have hf : f.Sound e.world.table := h.executions f (by rw [hexecutions]; simp)
    cases hjob : isOfJob f with
    | false =>
      simp only [givenUp, List.filter_cons, hjob, Bool.false_and, Bool.false_eq_true, Bool.not_false,
        ↓reduceIte]
      rw [List.append_cons]
      exact giveUp_leads isOfJob rest (before ++ [f]) h (by simpa using hexecutions) hothers
    | true =>
      simp only [givenUp, List.filter_cons, hjob, Bool.true_and, Bool.not_true, Bool.false_eq_true,
        ↓reduceIte]
      have hatRest := hrest f (List.mem_cons_self ..) hjob
      cases hstage : f.stage with
      | finished result =>
        have hresult : f.result? = some result := by rw [Fiber.result?, hstage]
        have hreturn := return_leads h hexecutions (by rw [hresult]; rfl)
        simp only [hresult, Option.isNone_some, Bool.false_eq_true, ↓reduceIte]
        exact hreturn.trans (giveUp_leads isOfJob rest before hreturn.sound rfl hothers)
      | waiting next =>
        have hresult : f.result? = none := by rw [Fiber.result?, hstage]
        obtain ⟨table, hserve, hhas, hrecord⟩ := recordCancelled_eq h hf.stored
        simp only [hresult, Option.isNone_none, ↓reduceIte, List.map_cons, List.foldl_cons, hrecord]
        have hwrites : World.Writes { e.world with table } := h.writes.of_outages rfl h.writes.clock
        have hsound : (e.moved (before ++ rest) { e.world with table }).Sound :=
          h.fewer (fun g hg => hexecutions ▸ mem_of_mem_others hg) hwrites hhas
        have hgiveUp := Leads.of_step (.giveUp hexecutions (by rw [hstage]; rfl) hserve) hsound
        exact hgiveUp.trans (giveUp_leads isOfJob rest before hsound rfl hothers)
      | asking request next =>
        rw [hstage] at hatRest
        cases hatRest
      | answered reply next =>
        rw [hstage] at hatRest
        cases hatRest

/-- Whether an execution is of a job that a worker has taken. -/
def isOfJob (e : Engine) (f : Execution) : Bool := e.dispatcher.busy.any fun n => f.label.owner == .job n

/-- Stopping gives up the executions of jobs, and no others. -/
theorem executions_stop (e : Engine) :
    e.stop.executions = e.executions.filter fun f => !e.isOfJob f := by
  rw [Engine.stop, recordCancelledAll_eq]
  rfl

/-- **Stopping is a run**, once the executions of jobs are at rest. -/
theorem stop_leads (h : e.Sound)
    (hrest : ∀ f ∈ e.executions, e.isOfJob f = true → f.stage.isAtRest = true) :
    e.Leads e.stop := by
  have hgive := giveUp_leads e.isOfJob e.executions [] h rfl hrest
  exact hgive.trans (hgive.sound.other rfl rfl hgive.sound.writes)

/-! ### Operations -/

/-- What callers ask of an engine. -/
inductive Operation where
  | start
  | stop
  /-- Executes what an event sets off, and waits for it. -/
  | dispatch (event : String) (payload : Json) (ctx : Context)
  | testRun (id : String) (payload : Json) (ctx : Context)
  /-- Leaves an event, or a run, to the workers. -/
  | enqueue (job : Job)
  | runManual (id : String) (payload : Json) (ctx : Context)
  | work
  | tick
  | stopScheduled
  | save (w : Workflow)
  | setActive (id : String) (active : Bool)
  | softDelete (id : String)
  | setNextRun (id : String) (nextRun : Option Instant)
  | later (micros : Int)

namespace Operation

def perform (e : Engine) : Operation → Engine
  | start => e.start
  | stop => e.stop
  | dispatch event payload ctx => (e.dispatch event payload ctx).2
  | testRun id payload ctx => (e.testRun id payload ctx).2
  | enqueue job => (e.enqueue job).2
  | runManual id payload ctx => (e.runManual id payload ctx).2
  | work => e.work
  | tick => e.tick.2
  | stopScheduled => e.stopScheduled.2
  | save w => (e.save w).2
  | setActive id active => (e.setActive id active).2
  | softDelete id => (e.softDelete id).2
  | setNextRun id nextRun => (e.setNextRun id nextRun).2
  | later micros => (e.later micros).2

/-- What an operation makes of an engine: it leaves it, or does one of a few
things to it. -/
theorem perform_cases {P : Engine → Prop} (o : Operation) (hself : P e)
    (hstart : P { e.startDispatcher with started := true }) (hstop : P e.stop)
    (hexecute : ∀ ws payload ctx, P (e.executeAll ws payload ctx).2)
    (henqueue : ∀ job, P (e.enqueue job).2) (hwork : P e.work) (htick : P e.tick.2)
    (hstopScheduled : P e.stopScheduled.2)
    (hwrite : ∀ table, P { e with world := { e.world with table } })
    (hlater : ∀ clock, P { e with world := { e.world with clock } }) : P (o.perform e) := by
  have hwritten : ∀ {α : Type} (result : Except Failure (α × Table)), P (e.write result).2 :=
    fun result => by
      cases result with
      | error f => exact hself
      | ok r => exact hwrite r.2
  cases o with
  | start =>
    rw [perform, Engine.start]
    split
    · exact hself
    · exact hstart
  | stop => exact hstop
  | dispatch event payload ctx => exact hexecute ..
  | testRun id payload ctx =>
    rw [perform, Engine.testRun]
    split
    · exact hself
    · exact hexecute ..
  | enqueue job => exact henqueue job
  | runManual id payload ctx =>
    rw [perform, Engine.runManual]
    split
    · exact hself
    · split
      · exact henqueue _
      · exact hself
  | work => exact hwork
  | tick => exact htick
  | stopScheduled => exact hstopScheduled
  | save w => exact hwritten _
  | setActive id active => exact hwritten _
  | softDelete id => exact hwritten _
  | setNextRun id nextRun => exact hwritten _
  | later micros =>
    rw [perform, Engine.later, World.later]
    cases e.world.clock.later micros with
    | ok clock => exact hlater clock
    | error f => exact hself

/-- Whether a caller gets all the results of some workflows. -/
def GetsResults (e : Engine) (ws : List Workflow) (payload : Json) (ctx : Context) : Prop :=
  ∀ f ∈ (e.launchAll .caller ws payload ctx).settle.executionsOf .caller, f.result?.isSome = true

/-- A caller that waits gets its results, and the engine is stopped when the
executions of jobs are at rest. -/
def IsReady (e : Engine) : Operation → Prop
  | stop => ∀ f ∈ e.executions, e.isOfJob f = true → f.stage.isAtRest = true
  | dispatch event payload ctx =>
    GetsResults e (e.matching event payload ctx fun _ => false) payload ctx
  | testRun id payload ctx => ∀ w, e.visible id ctx.storeId ctx.organizationId = .ok w →
    GetsResults e [w] payload ctx
  | _ => True

/-- A step that keeps executions and counts, and what writes need. -/
theorem keeps_leads (h : e.Sound) {events : List ExecutionEvent} (hstep : Step e events e')
    (hkeeps : e'.executions = e.executions ∧ e.world.table.Keeps e'.world.table)
    (hwrites : e'.world.Writes) : e.Leads e' := by
  refine .of_step hstep ⟨hwrites, fun f hf => ?_⟩
  exact (h.executions f (hkeeps.1 ▸ hf)).mono hkeeps.2.has

theorem write_writes {α : Type} (h : e.Sound) (result : Except Failure (α × Table)) :
    (e.write result).2.world.Writes := by
  cases result with
  | error f => exact h.writes
  | ok r => exact h.writes.of_outages rfl h.writes.clock

/-- **Every operation is a run**, and writes still succeed after it. -/
theorem leads (h : e.Sound) (o : Operation) (ho : o.IsReady e) : e.Leads (o.perform e) := by
  cases o with
  | start =>
    rw [perform, Engine.start]
    split
    · exact h.leads
    · exact h.other rfl rfl h.writes
  | stop => exact stop_leads h ho
  | dispatch event payload ctx => exact executeAll_leads h has_of_mem_matching ho
  | testRun id payload ctx =>
    rw [perform, Engine.testRun]
    split
    · exact h.leads
    · rename_i w hw
      refine executeAll_leads h (fun v hv => ?_) (ho w hw)
      exact List.mem_singleton.1 hv ▸ has_of_visible hw
  | enqueue job => exact h.other rfl rfl h.writes
  | runManual id payload ctx =>
    rw [perform, Engine.runManual]
    split
    · exact h.leads
    · split
      · exact h.other rfl rfl h.writes
      · exact h.leads
  | work => exact work_leads h
  | tick => exact tick_leads h
  | stopScheduled => exact stopScheduled_leads h
  | save w => exact keeps_leads h (.save w) (e.save_keeps w) (write_writes h _)
  | setActive id active =>
    exact keeps_leads h (.setActive id active) (e.setActive_keeps id active) (write_writes h _)
  | softDelete id => exact keeps_leads h (.softDelete id) (e.softDelete_keeps id) (write_writes h _)
  | setNextRun id nextRun =>
    exact keeps_leads h (.setNextRun id nextRun) (e.setNextRun_keeps id nextRun) (write_writes h _)
  | later micros =>
    rw [perform, Engine.later]
    split
    · rename_i w hw
      obtain ⟨hclock, houtages, htable⟩ := World.checked_of_later hw
      exact h.other rfl htable (h.writes.of_outages houtages hclock)
    · exact h.leads

end Operation

end Engine

end Automation
