/-
# Engines that differ in what a caller is not shown

Two engines agree for a caller if they are the same but for their tables, and
these show the caller the same (`Engine.AgreeFor`). What an execution
does depends on no table: it records an outcome without caring whether that is
stored (`Executor.execute_ignores`), so executions go on in both engines alike
(`Engine.AgreeFor.settle`).

A caller then gets the same from both, whatever is asked, and they agree
afterwards (`Engine.AgreeFor.runManual`, `Engine.AgreeFor.testRun`); so they do
once workers have run what is shown (`Engine.AgreeFor.work`). A workflow that is
not shown is not found, and to ask for it changes nothing
(`Engine.visible_of_shown`).

Key definitions: `World.AgreeFor`, `Engine.AgreeFor`, `Engine.RunsShown`.
Key theorems: `World.environment_respects`, `Executor.execute_ignores`,
`Engine.AgreeFor.settle`, `Engine.visible_eq`, `Engine.AgreeFor.work`.
-/
import Automation.Proofs.Engine.Dispatching
import Automation.Proofs.Engine.Landing
import Automation.Proofs.Engine.Queue
import Automation.Proofs.Process.Alike
import Automation.Proofs.Table.Shown

namespace Automation

variable {storeId : String} {organizationId : Option String}

/-- Whether a request is one of an execution, about its own workflow. -/
def Request.IsUnheard (request : Request) : Prop := request.isEffect = false

/-! ### Worlds -/

namespace World

/-- The world with another table of workflows. -/
def withTable (w : World) (table : Table) : World := { w with table }

/-- Two worlds that differ in nothing but what a caller is not shown. -/
structure AgreeFor (storeId : String) (organizationId : Option String) (w w' : World) : Prop where
  table : w.table.AgreeFor storeId organizationId w'.table
  common : w' = w.withTable w'.table

theorem later_withTable (w : World) (table : Table) (micros : Int) :
    (w.withTable table).later micros = (w.later micros).map (·.withTable table) := by
  rw [later, later]
  cases hclock : w.clock.later micros with
  | ok clock => simp only [withTable, hclock]; rfl
  | error failure => simp only [withTable, hclock]; rfl

variable (token : Token)

/-- The world in which something has begun to sleep. -/
def noteSleep (w : World) (seconds : Double) : World :=
  { w with log := { w.log with sleeps := w.log.sleeps ++ [seconds] } }

theorem serveSleep_of_cancels {w : World} {seconds : Double} (h : w.outside.sleepCancels = true) :
    w.serveSleep token seconds = (none, (w.noteSleep seconds).cancel token) :=
  if_pos h

theorem serveSleep_of_ok {w w' : World} {seconds : Double} (h : w.outside.sleepCancels = false)
    (hlater : (w.noteSleep seconds).later (microsOfSeconds seconds) = .ok w') :
    w.serveSleep token seconds = (some .done, w') := by
  unfold noteSleep at hlater
  simp only [serveSleep, h, hlater, Bool.false_eq_true, if_false]

theorem serveSleep_of_error {w : World} {seconds : Double} {failure : Failure}
    (h : w.outside.sleepCancels = false)
    (hlater : (w.noteSleep seconds).later (microsOfSeconds seconds) = .error failure) :
    w.serveSleep token seconds = (some (.failed failure), w.noteSleep seconds) := by
  unfold noteSleep at hlater
  simp only [serveSleep, h, hlater, Bool.false_eq_true, if_false]
  rfl

theorem serveSleep_withTable (seconds : Double) (w : World) (table : Table) :
    (w.withTable table).serveSleep token seconds
      = ((w.serveSleep token seconds).1, (w.serveSleep token seconds).2.withTable table) := by
  cases hcancels : w.outside.sleepCancels with
  | true =>
    rw [serveSleep_of_cancels token hcancels,
      serveSleep_of_cancels (w := w.withTable table) token hcancels]
    rfl
  | false =>
    have hlater := later_withTable (w.noteSleep seconds) table (microsOfSeconds seconds)
    cases hw : (w.noteSleep seconds).later (microsOfSeconds seconds) with
    | ok w' =>
      rw [hw] at hlater
      rw [serveSleep_of_ok token hcancels hw,
        serveSleep_of_ok (w := w.withTable table) token hcancels hlater]
    | error failure =>
      rw [hw] at hlater
      rw [serveSleep_of_error token hcancels hw,
        serveSleep_of_error (w := w.withTable table) token hcancels hlater]
      rfl

/-- Effects go outside in the same way, whatever the table is. -/
theorem serve_withTable {request : Request} (h : request.isEffect = true) (w : World) (table : Table) :
    World.serve token request (w.withTable table)
      = ((World.serve token request w).1, (World.serve token request w).2.withTable table) := by
  cases request with
  | call call =>
    simp only [serve, serveCall, noteCall, withTable]
    split <;> rfl
  | sleep seconds => exact serveSleep_withTable token seconds w table
  | create kind data =>
    have hsame : (w.withTable table).records.create (w.withTable table).newId kind data
        = w.records.create w.newId kind data := rfl
    simp only [serve, hsame]
    cases w.records.create w.newId kind data <;> rfl
  | write kind id fields => rfl
  | record => cases h
  | setNextRun => cases h
  | _ =>
    simp only [serve, withTable]
    split <;> rfl

/-- To record an outcome is always answered, and changes the table if that is in
order. -/
theorem serve_record_eq (id : String) (success : Bool) (error : Option LastError)
    (endedAt : Instant) (w : World) : ∃ reply,
      World.serve token (.record id success error endedAt) w = (some reply,
        if (w.outage? .record).isSome then w
        else w.withTable (w.table.recorded id success error endedAt)) := by
  simp only [serve, through]
  cases w.outage? .record with
  | some f => exact ⟨_, rfl⟩
  | none =>
    simp only [Table.recorded]
    cases w.table.record id success error endedAt <;> exact ⟨_, rfl⟩

/-- So is to set a next run. -/
theorem serve_setNextRun_eq (id : String) (nextRun : Option Instant) (w : World) : ∃ reply,
    World.serve token (.setNextRun id nextRun) w = (some reply,
      if (w.outage? .setNextRun).isSome then w
      else w.withTable (w.table.setNextRun id nextRun)) := by
  simp only [serve, through]
  cases w.outage? .setNextRun <;> exact ⟨_, rfl⟩

variable {w w' : World}

theorem AgreeFor.outage? (h : AgreeFor storeId organizationId w w') (part : Part) :
    w'.outage? part = w.outage? part := by
  rw [h.common]
  rfl

/-- What is asked outside is answered alike. -/
theorem AgreeFor.serve_effect (h : AgreeFor storeId organizationId w w') {request : Request}
    (heffect : request.isEffect = true) :
    (World.serve token request w').1 = (World.serve token request w).1
      ∧ AgreeFor storeId organizationId (World.serve token request w).2
        (World.serve token request w').2 := by
  obtain ⟨-, htable, -⟩ := World.serve_effect token heffect w
  rw [h.common, serve_withTable token heffect]
  exact ⟨rfl, htable.symm ▸ h.table, rfl⟩

/-- What is asked of the tables is answered, and changes both alike. -/
theorem AgreeFor.serve_unheard (h : AgreeFor storeId organizationId w w') {request : Request}
    (hunheard : request.IsUnheard) : ∃ reply reply',
      (World.serve token request w).1 = some reply ∧ (World.serve token request w').1 = some reply'
      ∧ AgreeFor storeId organizationId (World.serve token request w).2
        (World.serve token request w').2 := by
  have hboth : ∀ {table table' : Table}, table.AgreeFor storeId organizationId table' →
      AgreeFor storeId organizationId (w.withTable table) (w'.withTable table') := fun htables =>
    ⟨htables, by rw [h.common]; rfl⟩
  cases request with
  | record id success error endedAt =>
    obtain ⟨reply, hreply⟩ := serve_record_eq token id success error endedAt w
    obtain ⟨reply', hreply'⟩ := serve_record_eq token id success error endedAt w'
    rw [hreply, hreply', h.outage?]
    refine ⟨reply, reply', rfl, rfl, ?_⟩
    split
    · exact h
    · exact hboth (h.table.recorded id success error endedAt)
  | setNextRun id nextRun =>
    obtain ⟨reply, hreply⟩ := serve_setNextRun_eq token id nextRun w
    obtain ⟨reply', hreply'⟩ := serve_setNextRun_eq token id nextRun w'
    rw [hreply, hreply', h.outage?]
    refine ⟨reply, reply', rfl, rfl, ?_⟩
    split
    · exact h
    · exact hboth (h.table.setNextRun id nextRun)
  | _ => cases hunheard

/-- An answer hides nothing that a caller was shown. -/
theorem shows_serve (request : Request) {w : World} {id : String}
    (h : w.table.Shows storeId organizationId id) :
    (World.serve token request w).2.table.Shows storeId organizationId id := by
  cases heffect : request.isEffect with
  | true =>
    rw [(World.serve_effect token heffect w).2.1]
    exact h
  | false =>
    cases request with
    | record other success error endedAt =>
      obtain ⟨reply, hreply⟩ := serve_record_eq token other success error endedAt w
      obtain ⟨g, hg⟩ := Table.shown_recorded other success error endedAt
      rw [hreply]
      split
      · exact h
      · exact h.of_map (hg ..)
    | setNextRun other nextRun =>
      obtain ⟨reply, hreply⟩ := serve_setNextRun_eq token other nextRun w
      rw [hreply]
      split
      · exact h
      · exact h.of_map (Table.shown_setNextRun ..)
    | _ => cases heffect

/-- **Worlds that agree for a caller** cannot be told apart by processes that do
not care whether outcomes are stored. -/
theorem environment_respects :
    environment.Respects Request.IsUnheard (AgreeFor storeId organizationId) where
  now h := by
    rw [h.common]
    rfl
  cancelled token h := by
    rw [h.common]
    rfl
  reply token request h hheard := (h.serve_effect token (Bool.of_not_eq_false hheard)).1
  answers token request h hunheard := by
    obtain ⟨reply, reply', hreply, hreply', -⟩ := h.serve_unheard token hunheard
    exact ⟨reply, reply', hreply, hreply'⟩
  state token request h := by
    cases heffect : request.isEffect with
    | true => exact (h.serve_effect token heffect).2
    | false =>
      obtain ⟨-, -, -, -, hstate⟩ := h.serve_unheard token heffect
      exact hstate

end World

/-! ### Executions -/

namespace Executor

theorem record_ignores (x : Executor) (id : String) (error : Option ActionError) :
    (x.record id error).Ignores Request.IsUnheard := by
  rw [record]
  cases x.recordFailure with
  | some f => exact trivial
  | none => exact fun _ => ⟨fun _ _ _ => rfl, fun _ => trivial⟩

/-- **No execution cares whether its outcome is stored.** -/
theorem execute_ignores (x : Executor) (w : Workflow) (payload : Json) (ctx : Context) :
    (x.execute w payload ctx).Ignores Request.IsUnheard := by
  have hrun : (x.run w payload ctx).Ignores Request.IsUnheard :=
    ((x.run_asks w payload ctx).mono fun _ heffect => by simp [Request.IsUnheard, heffect]).ignores
  exact hrun.bind fun r => (x.record_ignores w.id r.error).map _

/-- Nor does a scheduled one care for its next run. -/
theorem executeScheduled_ignores (x : Executor) (zone : Zone) (w : Workflow) (ctx : Context) :
    (x.executeScheduled zone w ctx).Ignores Request.IsUnheard := by
  refine (x.execute_ignores w (.obj []) ctx).bind fun result now => ?_
  beta_reduce
  split
  · exact ⟨fun _ _ _ => rfl, fun _ => trivial⟩
  · exact trivial

end Executor

namespace Engine

/-- No execution in progress cares whether outcomes are stored. -/
def IsUnhearing (e : Engine) : Prop := ∀ f ∈ e.executions, f.stage.Ignores Request.IsUnheard

/-- Two engines that differ in nothing but what a caller is not shown. -/
structure AgreeFor (storeId : String) (organizationId : Option String) (e e' : Engine) : Prop where
  unhearing : e.IsUnhearing
  world : World.AgreeFor storeId organizationId e.world e'.world
  common : e' = { e with world := e'.world }

variable {e e' : Engine} {ws : List Workflow} {payload : Json} {ctx : Context}

/-! ### Executions in engines that agree -/

theorem IsUnhearing.settle (h : e.IsUnhearing) : e.settle.IsUnhearing :=
  forall_mem_settle (fun hf hstage now cancelled => hf.resume hstage now cancelled)
    (fun hf hstage reply => by
      rw [hstage] at hf
      exact Stage.ignores_afterRequest hf.2 reply) h

theorem IsUnhearing.launchAll (h : e.IsUnhearing) (owner : Owner) (ws : List Workflow)
    (payload : Json) (ctx : Context) : (e.launchAll owner ws payload ctx).IsUnhearing := by
  intro f hf
  rcases mem_launchAll.1 hf with hf | ⟨w, -, rfl⟩
  · exact h f hf
  · exact e.executor.execute_ignores w payload ctx

theorem IsUnhearing.filter (h : e.IsUnhearing) (keep : Execution → Bool) :
    (e.moved (e.executions.filter keep) e.world).IsUnhearing :=
  fun f hf => h f (List.mem_filter.1 hf).1

theorem IsUnhearing.fewer (h : e.IsUnhearing) (hsub : ∀ f ∈ e'.executions, f ∈ e.executions) :
    e'.IsUnhearing :=
  fun f hf => h f (hsub f hf)

theorem IsUnhearing.tick (h : e.IsUnhearing) : e.tick.2.IsUnhearing := by
  unfold Engine.tick
  split
  · refine List.foldlRecOn _ _ h fun e' hlaunched w _ f hf => ?_
    rcases List.mem_append.1 hf with hf | hf
    · exact hlaunched f hf
    · rw [List.mem_singleton.1 hf]
      exact Executor.executeScheduled_ignores ..
  · exact h

theorem IsUnhearing.takeJob (h : e.IsUnhearing) (number : Nat) (job : Job)
    (dispatcher : Dispatcher Job) : (e.takeJob number job dispatcher).IsUnhearing := by
  intro f hf
  rcases mem_launchAll.1 hf with hf | ⟨w, -, rfl⟩
  · exact h f hf
  · exact Executor.execute_ignores _ w job.payload job.context

theorem IsUnhearing.work (h : e.IsUnhearing) : e.work.IsUnhearing :=
  workRounds_induction (P := IsUnhearing) (fun hP => hP.takeJob _ _ _)
    (fun hP => hP.settle.fewer fun _ => mem_of_mem_collect) _ h

/-- Whatever is asked of an engine, no execution cares whether outcomes are
stored. -/
theorem Operation.isUnhearing (h : e.IsUnhearing) (o : Operation) : (o.perform e).IsUnhearing := by
  refine o.perform_cases ?self ?start ?stop ?execute ?enqueue ?work ?tick ?stopScheduled ?write ?later
  case self => exact h
  case start => exact h
  case stop =>
    refine h.fewer fun f hf => ?_
    rw [executions_stop] at hf
    exact (List.mem_filter.1 hf).1
  case execute =>
    intro ws payload ctx
    exact (h.launchAll .caller ws payload ctx).settle.fewer fun _ hf => (List.mem_filter.1 hf).1
  case enqueue => exact fun _ => h
  case work => exact h.work
  case tick => exact h.tick
  case stopScheduled => exact IsUnhearing.work h
  case write => exact fun _ => h
  case later => exact fun _ => h

/-- So none does in an engine that began without executions. -/
theorem Operation.performAll_isUnhearing (h : e.executions = []) (os : List Operation) :
    (os.foldl perform e).IsUnhearing := by
  have hnone : e.IsUnhearing := by
    rw [IsUnhearing, h]
    exact List.forall_mem_nil _
  exact List.foldlRecOn (motive := IsUnhearing) os perform hnone fun _ hP o _ => o.isUnhearing hP

/-- **Engines that agree settle alike.** -/
theorem AgreeFor.settle (h : e.AgreeFor storeId organizationId e') :
    e.settle.AgreeFor storeId organizationId e'.settle := by
  obtain ⟨hexecutions, hworld⟩ :=
    Fiber.settle_alike World.environment_respects h.unhearing h.world
  have hsettle : e'.settle = e.moved (Fiber.settle World.environment e.executions e'.world).1
      (Fiber.settle World.environment e.executions e'.world).2 := by
    rw [h.common]
    rfl
  rw [hsettle, hexecutions]
  exact ⟨h.unhearing.settle, hworld, rfl⟩

theorem AgreeFor.executor (h : e.AgreeFor storeId organizationId e') : e'.executor = e.executor := by
  rw [h.common, Engine.executor, Engine.executor]
  simp only [h.world.outage?]

theorem AgreeFor.launchAll (h : e.AgreeFor storeId organizationId e') (owner : Owner)
    (ws : List Workflow) (payload : Json) (ctx : Context) :
    (e.launchAll owner ws payload ctx).AgreeFor storeId organizationId
      (e'.launchAll owner ws payload ctx) where
  unhearing := h.unhearing.launchAll owner ws payload ctx
  world := by
    rw [launchAll_eq, launchAll_eq]
    exact h.world
  common := by
    have hlaunched : e'.launched owner payload ctx = e.launched owner payload ctx := by
      funext w
      rw [launched, launched, h.executor]
    rw [launchAll_eq, launchAll_eq, hlaunched, h.common]
    rfl

theorem AgreeFor.executionsOf (h : e.AgreeFor storeId organizationId e') (owner : Owner) :
    e'.executionsOf owner = e.executionsOf owner := by
  rw [h.common]
  rfl

theorem AgreeFor.forget (h : e.AgreeFor storeId organizationId e') (owner : Owner) :
    (e.forget owner).AgreeFor storeId organizationId (e'.forget owner) where
  unhearing := h.unhearing.filter _
  world := h.world
  common := by
    rw [h.common]
    rfl

/-- A caller that waits gets the same results, and the engines agree afterwards. -/
theorem AgreeFor.executeAll (h : e.AgreeFor storeId organizationId e') (ws : List Workflow)
    (payload : Json) (ctx : Context) :
    (e'.executeAll ws payload ctx).1 = (e.executeAll ws payload ctx).1
      ∧ (e.executeAll ws payload ctx).2.AgreeFor storeId organizationId
        (e'.executeAll ws payload ctx).2 := by
  have hsettled := (h.launchAll .caller ws payload ctx).settle
  refine ⟨?_, hsettled.forget .caller⟩
  simp only [Engine.executeAll, hsettled.executionsOf]

theorem AgreeFor.execute (h : e.AgreeFor storeId organizationId e') (w : Workflow)
    (payload : Json) (ctx : Context) :
    (e'.execute w payload ctx).1 = (e.execute w payload ctx).1
      ∧ (e.execute w payload ctx).2.AgreeFor storeId organizationId (e'.execute w payload ctx).2 := by
  obtain ⟨hresults, hagree⟩ := h.executeAll [w] payload ctx
  refine ⟨?_, hagree⟩
  simp only [Engine.execute, hresults]

theorem AgreeFor.enqueue (h : e.AgreeFor storeId organizationId e') (job : Job) :
    (e.enqueue job).2.AgreeFor storeId organizationId (e'.enqueue job).2 where
  unhearing := h.unhearing
  world := h.world
  common := by
    rw [h.common]
    rfl

theorem AgreeFor.contextFor (h : e.AgreeFor storeId organizationId e') (store : String)
    (organization user : Option String) (extra : Members) :
    (e'.contextFor store organization user extra).1 = (e.contextFor store organization user extra).1
      ∧ (e.contextFor store organization user extra).2.AgreeFor storeId organizationId
        (e'.contextFor store organization user extra).2 := by
  refine ⟨by rw [h.common]; rfl, h.unhearing, h.world, ?_⟩
  rw [h.common]
  rfl

/-! ### What a caller is shown -/

/-- **What a caller finds** is what is shown. -/
theorem visible_eq (e : Engine) (id : String) :
    e.visible id storeId organizationId = e.world.through .get
      ((e.world.table.shown storeId organizationId id).bind
        (Option.elim · (.error (.notFound "Workflow" id)) .ok)) := by
  rw [visible, get, Table.shown, World.through, World.through]
  cases e.world.outage? .get with
  | some f => rfl
  | none =>
    cases e.world.table.get id with
    | error failure => rfl
    | ok found =>
      cases found with
      | none => rfl
      | some w =>
        show (if w.isVisibleTo storeId organizationId then (.ok w : Except Failure Workflow)
          else .error (.notFound "Workflow" id)) = _
        by_cases hw : w.IsShownTo storeId organizationId
        · simp [Except.map, Except.bind, Option.filter_some, hw, Workflow.isVisibleTo_iff]
        · simp [Except.map, Except.bind, Option.filter_some, hw, Workflow.isVisibleTo_iff]

theorem AgreeFor.visible (h : e.AgreeFor storeId organizationId e') (id : String) :
    e'.visible id storeId organizationId = e.visible id storeId organizationId := by
  rw [visible_eq, visible_eq, h.world.table id, World.through, World.through, h.world.outage?]

/-! ### What a caller asks -/

/-- To leave a run to the workers is refused by both or accepted by both. -/
theorem AgreeFor.runManual (h : e.AgreeFor storeId organizationId e') (id : String) (payload : Json)
    (ctx : Context) (hstore : ctx.storeId = storeId)
    (horganization : ctx.organizationId = organizationId) :
    (e'.runManual id payload ctx).1 = (e.runManual id payload ctx).1
      ∧ (e.runManual id payload ctx).2.AgreeFor storeId organizationId
        (e'.runManual id payload ctx).2 := by
  rw [Engine.runManual, Engine.runManual, hstore, horganization, h.visible]
  split
  · exact ⟨rfl, h⟩
  · split
    · exact ⟨rfl, h.enqueue _⟩
    · exact ⟨rfl, h⟩

/-- To test a workflow gives the same result in both. -/
theorem AgreeFor.testRun (h : e.AgreeFor storeId organizationId e') (id : String) (payload : Json)
    (ctx : Context) (hstore : ctx.storeId = storeId)
    (horganization : ctx.organizationId = organizationId) :
    (e'.testRun id payload ctx).1 = (e.testRun id payload ctx).1
      ∧ (e.testRun id payload ctx).2.AgreeFor storeId organizationId
        (e'.testRun id payload ctx).2 := by
  rw [Engine.testRun, Engine.testRun, hstore, horganization, h.visible]
  split
  · exact ⟨rfl, h⟩
  · exact h.execute _ payload ctx

theorem AgreeFor.stats (h : e.AgreeFor storeId organizationId e') (id : String) :
    e'.stats id storeId organizationId = e.stats id storeId organizationId := by
  rw [Engine.stats, Engine.stats, h.visible]

/-- What is not shown is not found. -/
theorem visible_of_shown {id : String}
    (hid : e.world.table.shown storeId organizationId id = .ok none) :
    ∃ failure, e.visible id storeId organizationId = .error failure := by
  rw [visible_eq, hid, World.through]
  split <;> exact ⟨_, rfl⟩

/-- To ask for it changes nothing. -/
theorem runManual_of_shown {id : String} (payload : Json) (ctx : Context)
    (hid : e.world.table.shown ctx.storeId ctx.organizationId id = .ok none) :
    (e.runManual id payload ctx).2 = e := by
  obtain ⟨failure, hfailure⟩ := visible_of_shown hid
  rw [runManual, hfailure]

theorem testRun_of_shown {id : String} (payload : Json) (ctx : Context)
    (hid : e.world.table.shown ctx.storeId ctx.organizationId id = .ok none) :
    (e.testRun id payload ctx).2 = e := by
  obtain ⟨failure, hfailure⟩ := visible_of_shown hid
  rw [testRun, hfailure]

/-- What is found is shown. -/
theorem shown_of_visible {id : String} {w : Workflow}
    (hw : e.visible id storeId organizationId = .ok w) :
    e.world.table.shown storeId organizationId id = .ok (some w) := by
  rw [visible_eq] at hw
  obtain ⟨found, hfound, hok⟩ := Except.of_bind_eq_ok (of_through_eq_ok hw)
  cases found with
  | none => cases hok
  | some v =>
    cases hok
    exact hfound

/-! ### Workers -/

/-- Every job that waits is a run of a workflow that a caller is shown. -/
def RunsShown (storeId : String) (organizationId : Option String) (e : Engine) : Prop :=
  ∀ job ∈ e.dispatcher.pending, ∃ id payload ctx, job.2 = .run id payload ctx
    ∧ e.world.table.Shows storeId organizationId id

theorem AgreeFor.workflowsOf (h : e.AgreeFor storeId organizationId e') {id : String}
    (hid : e.world.table.Shows storeId organizationId id) (payload : Json) (ctx : Context) :
    e'.workflowsOf (.run id payload ctx) = e.workflowsOf (.run id payload ctx) := by
  obtain ⟨w, hw⟩ := hid
  have hget := (Table.shown_eq_some.1 hw).1
  have hget' := (Table.shown_eq_some.1 ((h.world.table id).trans hw)).1
  simp only [Engine.workflowsOf, World.through, hget, hget', h.world.outage?]

theorem AgreeFor.withDispatcher (h : e.AgreeFor storeId organizationId e')
    (dispatcher : Dispatcher Job) :
    AgreeFor storeId organizationId { e with dispatcher } { e' with dispatcher } where
  unhearing := h.unhearing
  world := h.world
  common := by
    rw [h.common]

theorem AgreeFor.dispatcher (h : e.AgreeFor storeId organizationId e') :
    e'.dispatcher = e.dispatcher := by
  rw [h.common]

/-- A worker that takes a job launches the same executions in both. -/
theorem AgreeFor.takeJob (h : e.AgreeFor storeId organizationId e') {id : String}
    (hid : e.world.table.Shows storeId organizationId id) (number : Nat) (payload : Json)
    (ctx : Context) (dispatcher : Dispatcher Job) :
    (e.takeJob number (.run id payload ctx) dispatcher).AgreeFor storeId organizationId
      (e'.takeJob number (.run id payload ctx) dispatcher) := by
  have hqueue := h.withDispatcher dispatcher
  rw [Engine.takeJob, Engine.takeJob, hqueue.workflowsOf hid]
  exact hqueue.launchAll (.job number) _ payload ctx

theorem RunsShown.takeJob (h : e.RunsShown storeId organizationId) {number : Nat} {job : Job}
    {dispatcher : Dispatcher Job} (htake : e.dispatcher.take? = some ((number, job), dispatcher)) :
    (e.takeJob number job dispatcher).RunsShown storeId organizationId := by
  obtain ⟨-, rest, hpending, rfl⟩ := Dispatcher.take?_eq_some htake
  intro waiting hwaiting
  rw [Engine.takeJob, launchAll_eq] at hwaiting ⊢
  exact h waiting (hpending ▸ List.mem_cons_of_mem _ hwaiting)

/-- Workers take the same jobs. -/
theorem AgreeFor.takeJobs : ∀ (count : Nat) {e e' : Engine}, e.AgreeFor storeId organizationId e' →
    e.RunsShown storeId organizationId →
    (takeJobs count e).AgreeFor storeId organizationId (takeJobs count e')
      ∧ (takeJobs count e).RunsShown storeId organizationId
  | 0, _, _, h, hshown => ⟨h, hshown⟩
  | count + 1, e, e', h, hshown => by
    unfold Engine.takeJobs
    rw [h.dispatcher]
    split
    · exact ⟨h, hshown⟩
    · rename_i number job dispatcher htake
      obtain ⟨-, rest, hpending, -⟩ := Dispatcher.take?_eq_some htake
      have hrest := hshown.takeJob htake
      obtain ⟨id, payload, ctx, rfl, hid⟩ := hshown (number, job) (by simp [hpending])
      exact takeJobs count (h.takeJob hid number payload ctx dispatcher) hrest

/-- Settling hides nothing that a caller was shown. -/
theorem shows_settle {id : String} (h : e.world.table.Shows storeId organizationId id) :
    e.settle.world.table.Shows storeId organizationId id := by
  let P (_ : List Execution) (w : World) : Prop := w.table.Shows storeId organizationId id
  have hresume : (Fiber.resume World.environment : Fiber.Move _ _ _).Keeps P := by
    intro before after f g w w' hP hmove
    obtain ⟨reply, next, -, -, rfl⟩ := Fiber.resume_eq_some hmove
    exact hP
  have hserve : ∀ ready, (Fiber.serve World.environment ready : Fiber.Move _ _ _).Keeps P := by
    intro ready before after f g w w' hP hmove
    obtain ⟨request, next, -, -, rfl⟩ := Fiber.serve_eq_some hmove
    exact World.shows_serve f.token request hP
  exact Fiber.settle_induction hresume hserve e.executions e.world h

theorem RunsShown.settle (h : e.RunsShown storeId organizationId) :
    e.settle.RunsShown storeId organizationId := by
  intro waiting hwaiting
  obtain ⟨id, payload, ctx, hjob, hid⟩ := h waiting hwaiting
  exact ⟨id, payload, ctx, hjob, shows_settle hid⟩

/-- A run that is left to the workers is one of a workflow that is shown. -/
theorem RunsShown.runManual (h : e.RunsShown storeId organizationId) (id : String) (payload : Json)
    (ctx : Context) (hstore : ctx.storeId = storeId)
    (horganization : ctx.organizationId = organizationId) :
    (e.runManual id payload ctx).2.RunsShown storeId organizationId := by
  rw [Engine.runManual, hstore, horganization]
  split
  · exact h
  · rename_i w hw
    have hshown := shown_of_visible hw
    split
    · intro waiting hwaiting
      rw [Engine.enqueue] at hwaiting ⊢
      simp only at hwaiting ⊢
      unfold Dispatcher.enqueue at hwaiting
      split at hwaiting
      · rcases List.mem_append.1 hwaiting with hwaiting | hwaiting
        · exact h waiting hwaiting
        · rw [List.mem_singleton.1 hwaiting]
          exact ⟨w.id, payload, ctx, rfl, w, (Table.id_of_shown hshown).symm ▸ hshown⟩
      · exact h waiting hwaiting
    · exact h

theorem RunsShown.testRun (h : e.RunsShown storeId organizationId) (id : String) (payload : Json)
    (ctx : Context) : (e.testRun id payload ctx).2.RunsShown storeId organizationId := by
  rw [Engine.testRun]
  split
  · exact h
  · rename_i w _
    have hlaunched : (e.launchAll .caller [w] payload ctx).RunsShown storeId organizationId := by
      rw [launchAll_eq]
      exact h
    exact hlaunched.settle

theorem AgreeFor.finishJobs : ∀ (numbers : List Nat) {e e' : Engine},
    e.AgreeFor storeId organizationId e' →
    (numbers.foldl finishJob e).AgreeFor storeId organizationId (numbers.foldl finishJob e')
  | [], _, _, h => h
  | n :: numbers, e, e', h => by
    have hforget := h.forget (.job n)
    have hfinish := hforget.withDispatcher (e.dispatcher.finish n)
    have hsame : e'.finishJob n = { e'.forget (.job n) with dispatcher := e.dispatcher.finish n } := by
      rw [← h.dispatcher]
      rfl
    exact finishJobs numbers (hsame ▸ hfinish)

theorem AgreeFor.collectScheduled (h : e.AgreeFor storeId organizationId e') :
    e.collectScheduled.AgreeFor storeId organizationId e'.collectScheduled where
  unhearing := h.unhearing.filter _
  world := h.world
  common := by
    rw [h.common]
    rfl

/-- Jobs are finished alike. -/
theorem AgreeFor.collect (h : e.AgreeFor storeId organizationId e') :
    e.collect.AgreeFor storeId organizationId e'.collect := by
  have hscheduled := h.collectScheduled
  have hdone : e'.collectScheduled.isDone = e.collectScheduled.isDone := by
    funext n
    rw [isDone, isDone, hscheduled.executionsOf]
  rw [collect_eq, collect_eq, hscheduled.dispatcher, hdone]
  exact hscheduled.finishJobs _

theorem pending_finishJobs : ∀ (numbers : List Nat) (e : Engine),
    (numbers.foldl finishJob e).dispatcher.pending = e.dispatcher.pending
  | [], _ => rfl
  | n :: numbers, e => by
    have hfinish : (e.dispatcher.finish n).pending = e.dispatcher.pending := by
      unfold Dispatcher.finish
      split <;> rfl
    exact (pending_finishJobs numbers (e.finishJob n)).trans hfinish

theorem RunsShown.collect (h : e.RunsShown storeId organizationId) :
    e.collect.RunsShown storeId organizationId := by
  intro waiting hwaiting
  rw [collect_eq, pending_finishJobs] at hwaiting
  rw [collect_eq, finishJobs_world]
  exact h waiting hwaiting

theorem AgreeFor.workRounds : ∀ (rounds : Nat) {e e' : Engine},
    e.AgreeFor storeId organizationId e' → e.RunsShown storeId organizationId →
    (workRounds rounds e).AgreeFor storeId organizationId (workRounds rounds e')
      ∧ (workRounds rounds e).RunsShown storeId organizationId
  | 0, _, _, h, hshown => ⟨h.settle.collect, hshown.settle.collect⟩
  | rounds + 1, e, e', h, hshown => by
    have hsettled := h.settle.collect
    rw [Engine.workRounds, Engine.workRounds, hsettled.dispatcher]
    split
    · exact ⟨hsettled, hshown.settle.collect⟩
    · have hwaiting := hshown.settle.collect
      obtain ⟨htaken, hrest⟩ := hsettled.takeJobs e.settle.collect.dispatcher.workers hwaiting
      exact workRounds rounds htaken hrest

/-- **Workers leave engines in agreement**, if what waits for them are runs of
workflows that the caller is shown. -/
theorem AgreeFor.work (h : e.AgreeFor storeId organizationId e')
    (hshown : e.RunsShown storeId organizationId) :
    e.work.AgreeFor storeId organizationId e'.work ∧ e.work.RunsShown storeId organizationId := by
  rw [Engine.work, Engine.work, h.dispatcher]
  exact h.workRounds _ hshown

end Engine

end Automation
