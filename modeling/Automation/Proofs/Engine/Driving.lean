/-
# Operations are beats

Whatever callers ask of an engine, and in whatever order, what happens to
definitions and to scheduled executions is a number of beats
(`Engine.Operation.performAll_drives`). It takes an engine in which next runs
can be written, in which ids are distinct, and whose executions ask for no more
than they may (`Engine.Orderly`); every operation leaves it so. Only a next run
that is set by hand is no beat, nor is a clock that is turned back.

Key definitions: `Stage.Asks`, `World.Onward`, `Engine.Orderly`,
`Engine.Drives`, `Engine.Operation.IsOnward`.
Key theorems: `World.serve_onward`, `Engine.settle_drives`,
`Engine.work_drives`, `Engine.Operation.drives`,
`Engine.Operation.performAll_drives`.
-/
import Automation.Proofs.Engine.Beats
import Automation.Proofs.Run.Forward

namespace Automation

/-! ### What is asked from a stage on -/

namespace Stage

variable {α : Type} {P : Request → Prop}

/-- Every request that is made, or can still be made, satisfies `P`. -/
def Asks (P : Request → Prop) : Stage α → Prop
  | .finished _ => True
  | .asking request next => P request ∧ ∀ reply, (next reply).Asks P
  | .answered reply next => (next reply).Asks P
  | .waiting next => (next .cancelled).Asks P

theorem asks_stage (now : Instant) (cancelled : Bool) : ∀ {p : Process α}, p.Asks P →
    (p.stage now cancelled).Asks P
  | .done _, _ => trivial
  | .clock next, h => asks_stage (p := next now) now cancelled (h now)
  | .token next, h => asks_stage (p := next cancelled) now cancelled (h cancelled)
  | .ask _ _, h => h

/-- It stays so when a fiber goes on. -/
theorem Asks.resume {stage : Stage α} {reply : Reply} {next : Reply → Process α}
    (h : stage.Asks P)
    (hstage : stage = .answered reply next ∨ stage = .waiting next ∧ reply = .cancelled)
    (now : Instant) (cancelled : Bool) : ((next reply).stage now cancelled).Asks P := by
  rcases hstage with rfl | ⟨rfl, rfl⟩
  · exact asks_stage now cancelled h
  · exact asks_stage now cancelled h

theorem asks_afterRequest {next : Reply → Process α} (h : ∀ reply, (next reply).Asks P) :
    ∀ reply : Option Reply, (afterRequest next reply).Asks P
  | some reply => h reply
  | none => h .cancelled

end Stage

/-! ### What time leaves -/

namespace World

/-- A world in which time has passed, and no definition has changed. -/
structure Onward (w w' : World) : Prop where
  clock : w.clock.micros ≤ w'.clock.micros
  outages : w'.outages = w.outages
  definitions : ∀ id, w'.table.definition? id = w.table.definition? id
  distinct : w.table.Distinct → w'.table.Distinct

theorem Onward.refl (w : World) : w.Onward w := ⟨Int.le_refl _, rfl, fun _ => rfl, id⟩

theorem Onward.trans {w w' w'' : World} (h : w.Onward w') (h' : w'.Onward w'') : w.Onward w'' where
  clock := Int.le_trans h.clock h'.clock
  outages := h'.outages.trans h.outages
  definitions id := (h'.definitions id).trans (h.definitions id)
  distinct ht := h'.distinct (h.distinct ht)

/-- Nothing but the clock has moved, and the table is the same. -/
theorem Onward.of_table {w w' : World} (hclock : w.clock.micros ≤ w'.clock.micros)
    (houtages : w'.outages = w.outages) (htable : w'.table = w.table) : w.Onward w' where
  clock := hclock
  outages := houtages
  definitions _ := by rw [htable]
  distinct ht := htable ▸ ht

theorem clock_later {w w' : World} {micros : Int} (h : w.later micros = .ok w') :
    w'.clock.micros = w.clock.micros + micros := by
  unfold later at h
  split at h
  · rename_i clock hclock
    cases h
    unfold Instant.later at hclock
    simp only at hclock
    split at hclock
    · cases hclock
    · unfold Instant.checked at hclock
      split at hclock
      · cases hclock
        rfl
      · cases hclock
  · cases h

/-- No answer turns the clock back, unless that is asked for. -/
theorem clock_serve (token : Token) {request : Request} (h : request.isForward = true) (w : World) :
    w.clock.micros ≤ (World.serve token request w).2.clock.micros := by
  cases request with
  | sleep seconds =>
    have hpositive : 0 ≤ microsOfSeconds seconds := of_decide_eq_true h
    simp only [serve, serveSleep]
    split
    · exact Int.le_refl _
    · split
      · rename_i w' hlater
        rw [clock_later hlater]
        exact Int.le_add_of_nonneg_right hpositive
      · exact Int.le_refl _
  | call call =>
    simp only [serve, serveCall]
    split <;> exact Int.le_refl _
  | write kind id fields => exact Int.le_refl _
  | _ =>
    simp only [serve]
    split <;> exact Int.le_refl _

/-- **To answer a request leaves all definitions**, and time only passes, unless
a next run is to be set. -/
theorem serve_onward (token : Token) {request : Request} (h : request.isForward = true)
    (hadvance : request.isAdvance = false) (w : World) :
    w.Onward (World.serve token request w).2 := by
  by_cases heffect : request.isEffect = true
  · obtain ⟨houtages, htable, -⟩ := serve_effect token heffect w
    exact .of_table (clock_serve token h w) houtages htable
  · cases request with
    | record id success error endedAt =>
      simp only [serve]
      split
      · rename_i table hrecord
        have htable := Engine.of_through_eq_ok hrecord
        exact ⟨Int.le_refl _, rfl, Engine.definition?_record htable, fun ht => ht.record htable⟩
      · exact .refl w
    | setNextRun id nextRun => cases hadvance
    | _ => cases heffect rfl

/-- A process that sets no next run leaves all definitions. -/
theorem run_onward {α : Type} (token : Token) {owner : Owner} (howner : owner ≠ .schedule) :
    ∀ {p : Process α} (w : World), p.Asks owner.MayAsk →
      w.Onward (p.run World.environment token w).2
  | .done _, w, _ => .refl w
  | .clock next, w, h => run_onward (p := next w.clock) token howner w (h w.clock)
  | .token next, w, h =>
    run_onward (p := next (w.cancelled.contains token)) token howner w (h _)
  | .ask request _, w, h => by
    have hadvance : request.isAdvance = false := Bool.eq_false_iff.2 fun ha => howner (h.1.2 ha)
    have hserve := serve_onward token h.1.1 hadvance w
    exact hserve.trans (run_onward token howner _ (h.2 _))

end World

namespace Engine

/-! ### Engines that stay in order -/

/-- An engine in which next runs can be written, and whose executions ask for no
more than they may. -/
structure Orderly (e : Engine) : Prop where
  advances : e.world.outage? .setNextRun = none
  distinct : e.world.table.Distinct
  executions : ∀ f ∈ e.executions, f.stage.Asks f.label.owner.MayAsk

/-- An engine comes from another by beats, and is in order. -/
structure Drives (e e' : Engine) : Prop where
  beats : ∃ events, Beats e events e'
  orderly : e'.Orderly

variable {e e' e'' : Engine}

theorem Orderly.drives (h : e.Orderly) : e.Drives e := ⟨⟨_, .nil⟩, h⟩

theorem Drives.trans (h : e.Drives e') (h' : e'.Drives e'') : e.Drives e'' := by
  obtain ⟨_, hbeats⟩ := h.beats
  obtain ⟨_, hmore⟩ := h'.beats
  exact ⟨⟨_, hbeats.trans hmore⟩, h'.orderly⟩

theorem Drives.of_beat {events : List ScheduleEvent} (hbeat : Beat e events e') (h : e'.Orderly) :
    e.Drives e' :=
  ⟨⟨_, .cons hbeat .nil⟩, h⟩

/-- Whatever is no matter of scheduled executions. -/
theorem Orderly.other (h : e.Orderly)
    (hscheduled : e'.executionsOf .schedule = e.executionsOf .schedule)
    (hexecutions : ∀ f ∈ e'.executions, f.stage.Asks f.label.owner.MayAsk) (hzone : e'.zone = e.zone)
    (hworld : e.world.Onward e'.world) : e.Drives e' := by
  refine .of_beat (.other hscheduled hworld.definitions hzone hworld.clock) ⟨?_, ?_, hexecutions⟩
  · rw [World.outage?, hworld.outages]
    exact h.advances
  · exact hworld.distinct h.distinct

/-- Whatever is no matter of executions at all. -/
theorem Orderly.aside (h : e.Orderly) (hexecutions : e'.executions = e.executions)
    (hzone : e'.zone = e.zone) (hworld : e.world.Onward e'.world) : e.Drives e' := by
  refine h.other ?_ ?_ hzone hworld
  · rw [executionsOf, executionsOf, hexecutions]
  · rw [hexecutions]
    exact h.executions

/-! ### Moves -/

/-- An execution that is none of the scheduler's moves on among the others. -/
theorem executionsOf_moved {before after : List Execution} {f g : Execution} (w : World)
    (hexecutions : e.executions = before ++ f :: after) (hlabel : g.label = f.label)
    (howner : f.label.owner ≠ .schedule) :
    (e.moved (before ++ g :: after) w).executionsOf .schedule = e.executionsOf .schedule := by
  have hf : (f.label.owner == Owner.schedule) = false := beq_false_of_ne howner
  rw [executionsOf, executionsOf, hexecutions]
  simp [moved, hlabel, hf]

/-- The executions of an orderly engine once one of them has moved on. -/
theorem Orderly.replaced (h : e.Orderly) {before after : List Execution} {f g : Execution}
    (hexecutions : e.executions = before ++ f :: after) (hg : g.stage.Asks g.label.owner.MayAsk) :
    ∀ x ∈ before ++ g :: after, x.stage.Asks x.label.owner.MayAsk := by
  intro x hx
  have hothers : ∀ y ∈ before ++ f :: after, y.stage.Asks y.label.owner.MayAsk :=
    hexecutions ▸ h.executions
  rcases List.mem_append.1 hx with hx | hx
  · exact hothers x (List.mem_append_left _ hx)
  · rcases List.mem_cons.1 hx with rfl | hx
    · exact hg
    · exact hothers x (List.mem_append_right _ (List.mem_cons_of_mem _ hx))

theorem resume_drives (h : e.Orderly) {before after : List Execution} {f g : Execution} {w : World}
    (hexecutions : e.executions = before ++ f :: after)
    (hresume : f.resume World.environment e.world = some (g, w)) :
    e.Drives (e.moved (before ++ g :: after) w) := by
  have hf := h.executions f (by rw [hexecutions]; simp)
  obtain ⟨reply, next, hstage, hg, rfl⟩ := Fiber.resume_eq_some hresume
  have hasks : g.stage.Asks g.label.owner.MayAsk := by
    rw [hg]
    exact hf.resume hstage _ _
  have hlabel : g.label = f.label := by rw [hg]
  have hmoved := h.replaced hexecutions hasks
  by_cases howner : f.label.owner = .schedule
  · exact .of_beat (.resume hexecutions howner hresume) ⟨h.advances, h.distinct, hmoved⟩
  · exact h.other (executionsOf_moved _ hexecutions hlabel howner) hmoved rfl (.refl _)

theorem serve_drives (h : e.Orderly) {before after : List Execution} {f g : Execution} {w : World}
    {ready : Request → Bool} (hexecutions : e.executions = before ++ f :: after)
    (hserve : f.serve World.environment ready e.world = some (g, w)) :
    e.Drives (e.moved (before ++ g :: after) w) := by
  have hf := h.executions f (by rw [hexecutions]; simp)
  obtain ⟨request, next, hstage, rfl, rfl⟩ := Fiber.serve_eq_some hserve
  rw [hstage] at hf
  obtain ⟨hmay, hnext⟩ := hf
  have hmoved : ∀ reply, ∀ x ∈ before ++ { f with stage := .afterRequest next reply } :: after,
      x.stage.Asks x.label.owner.MayAsk := fun reply =>
    h.replaced hexecutions (Stage.asks_afterRequest hnext reply)
  cases hadvance : request.isAdvance with
  | true =>
    cases request with
    | setNextRun id nextRun =>
      have hserved : World.serve f.token (.setNextRun id nextRun) e.world
          = (some .done, { e.world with table := e.world.table.setNextRun id nextRun }) := by
        simp only [World.serve, World.through, h.advances]
      simp only [World.environment, hserved]
      refine .of_beat (.advance hexecutions (hmay.2 rfl) hstage hserved) ?_
      exact ⟨h.advances, h.distinct.setNextRun id nextRun, hmoved (some .done)⟩
    | _ => cases hadvance
  | false =>
    have hworld := World.serve_onward f.token hmay.1 hadvance e.world
    by_cases howner : f.label.owner = .schedule
    · have hbeat := @Beat.act e _ _ f _ _ (World.serve f.token request e.world).1 _ hexecutions howner
        hstage hadvance hworld.definitions hworld.clock
      refine .of_beat hbeat ⟨?_, hworld.distinct h.distinct, hmoved _⟩
      show World.outage? (World.serve f.token request e.world).2 _ = none
      rw [World.outage?, hworld.outages]
      exact h.advances
    · exact h.other (executionsOf_moved _ hexecutions rfl howner) (hmoved _) rfl hworld

/-- **Settling is a number of beats.** -/
theorem settle_drives (h : e.Orderly) : e.Drives e.settle := by
  let P (fs : List Execution) (w : World) : Prop := e.Drives (e.moved fs w)
  have hresume : (Fiber.resume World.environment : Fiber.Move _ _ _).Keeps P :=
    fun hP hmove => hP.trans (resume_drives hP.orderly rfl hmove)
  have hserve : ∀ ready, (Fiber.serve World.environment ready : Fiber.Move _ _ _).Keeps P :=
    fun ready _ _ _ _ _ _ hP hmove => hP.trans (serve_drives hP.orderly rfl hmove)
  exact Fiber.settle_induction hresume hserve e.executions e.world h.drives

/-! ### Executions that are none of the scheduler's -/

theorem executionsOf_forget {owner : Owner} (howner : owner ≠ .schedule) :
    (e.forget owner).executionsOf .schedule = e.executionsOf .schedule := by
  rw [executionsOf, executionsOf, forget, List.filter_filter]
  refine List.filter_congr fun f _ => ?_
  by_cases hf : f.label.owner = .schedule
  · simp [hf, howner.symm]
  · simp [hf]

theorem launch_drives (h : e.Orderly) (label : ExecutionLabel) (token : Token)
    {p : Process.OfExecution} (howner : label.owner ≠ .schedule) (hp : p.Asks label.owner.MayAsk) :
    e.Drives (e.launch label token p) := by
  have hscheduled : (e.launch label token p).executionsOf .schedule = e.executionsOf .schedule := by
    have hlabel : (label.owner == Owner.schedule) = false := beq_false_of_ne howner
    simp [executionsOf, launch, Fiber.start, hlabel]
  refine h.other hscheduled (fun f hf => ?_) rfl (.refl _)
  rcases List.mem_append.1 hf with hf | hf
  · exact h.executions f hf
  · rw [List.mem_singleton.1 hf]
    exact hp

theorem launchAll_drives {owner : Owner} (howner : owner ≠ .schedule) (payload : Json)
    (ctx : Context) : ∀ (ws : List Workflow) {e : Engine}, e.Orderly →
      e.Drives (e.launchAll owner ws payload ctx)
  | [], _, h => h.drives
  | w :: ws, e, h => by
    have hlaunch := launch_drives h ⟨owner, w.id⟩ ctx.token howner
      (e.executor.execute_mayAsk owner w payload ctx)
    exact hlaunch.trans (launchAll_drives howner payload ctx ws hlaunch.orderly)

theorem forget_drives (h : e.Orderly) {owner : Owner} (howner : owner ≠ .schedule) :
    e.Drives (e.forget owner) :=
  h.other (executionsOf_forget howner) (fun f hf => h.executions f (List.mem_filter.1 hf).1) rfl
    (.refl _)

/-- A caller that waits for some executions leaves the scheduled ones. -/
theorem executeAll_drives (h : e.Orderly) (ws : List Workflow) (payload : Json) (ctx : Context) :
    e.Drives (e.executeAll ws payload ctx).2 := by
  have howner : Owner.caller ≠ .schedule := nofun
  have hlaunch := launchAll_drives howner payload ctx ws h
  have hsettle := settle_drives hlaunch.orderly
  exact (hlaunch.trans hsettle).trans (forget_drives hsettle.orderly howner)

/-! ### Workers -/

theorem takeJob_drives (h : e.Orderly) {number : Nat} {job : Job} {dispatcher : Dispatcher Job} :
    e.Drives (e.takeJob number job dispatcher) := by
  have howner : Owner.job number ≠ .schedule := nofun
  have htake : e.Drives { e with dispatcher } := h.aside rfl rfl (.refl _)
  exact htake.trans (launchAll_drives howner job.payload job.context _ htake.orderly)

theorem finishJobs_drives : ∀ {numbers : List Nat} {e : Engine}, e.Orderly →
    e.Drives (numbers.foldl finishJob e)
  | [], _, h => h.drives
  | n :: _, e, h => by
    have howner : Owner.job n ≠ .schedule := nofun
    have hforget := forget_drives h howner
    have hfinish : e.Drives (e.finishJob n) :=
      hforget.trans (hforget.orderly.aside rfl rfl (.refl _))
    exact hfinish.trans (finishJobs_drives hfinish.orderly)

theorem isFinished_of_result? {f : Execution} (h : f.result?.isSome = true) : f.stage.IsFinished := by
  cases hstage : f.stage with
  | finished result => exact ⟨result, rfl⟩
  | _ =>
    rw [Fiber.result?, hstage] at h
    cases h

theorem collect_drives (h : e.Orderly) : e.Drives e.collect := by
  let P (fs : List Execution) : Prop := e.Drives (e.moved fs e.world)
  have hscheduled : e.Drives e.collectScheduled := by
    refine filter_induction (P := P) e.executions [] (fun {before after f} _ hkeep hP => ?_) h.drives
    rw [Bool.or_eq_false_iff, ← Option.not_isSome, Bool.not_eq_false'] at hkeep
    refine hP.trans (.of_beat (.forget rfl (isFinished_of_result? hkeep.2)) ?_)
    exact ⟨hP.orderly.advances, hP.orderly.distinct,
      fun g hg => hP.orderly.executions g (mem_of_mem_others hg)⟩
  rw [collect_eq]
  exact hscheduled.trans (finishJobs_drives hscheduled.orderly)

/-- **To work is a number of beats**, and so is waiting for the scheduled
executions. -/
theorem work_drives (h : e.Orderly) : e.Drives e.work := by
  let P (e' : Engine) : Prop := e.Drives e'
  refine workRounds_induction (P := P) (fun hP => hP.trans (takeJob_drives hP.orderly))
    (fun hP => ?_) _ h.drives
  have hsettle := settle_drives hP.orderly
  exact hP.trans (hsettle.trans (collect_drives hsettle.orderly))

/-! ### The scheduler -/

theorem launchScheduled_orderly (h : e.Orderly) (w : Workflow) : (e.launchScheduled w).Orderly where
  advances := h.advances
  distinct := h.distinct
  executions f hf := by
    rcases List.mem_append.1 hf with hf | hf
    · exact h.executions f hf
    · rw [List.mem_singleton.1 hf]
      exact Executor.executeScheduled_mayAsk ..

theorem tick_drives (h : e.Orderly) : e.Drives e.tick.2 := by
  refine ⟨tick_beats h.distinct, ?_⟩
  unfold tick
  split
  · exact List.foldlRecOn _ _ h fun _ hlaunched w _ => launchScheduled_orderly hlaunched w
  · exact h

theorem stopScheduled_drives (h : e.Orderly) : e.Drives e.stopScheduled.2 := by
  let tokens := (e.executionsOf .schedule).map (·.token)
  obtain ⟨houtages, htable, hclock⟩ := cancelAll_eq tokens e.world
  have hworld : e.world.Onward (tokens.foldl World.cancel e.world) :=
    .of_table (by rw [hclock]) houtages htable
  have hcancel : e.Drives (e.moved e.executions (tokens.foldl World.cancel e.world)) :=
    h.aside rfl rfl hworld
  exact hcancel.trans (work_drives hcancel.orderly)

/-! ### Stopping -/

theorem recordCancelled_drives (h : e.Orderly) (id : String) : e.Drives (e.recordCancelled id) := by
  have howner : Owner.caller ≠ .schedule := nofun
  have hrecord := World.run_onward 0 howner e.world
    (e.executor.record_mayAsk .caller id (some .cancellation))
  exact h.aside rfl rfl hrecord

/-- Executions of jobs may be given up; that leaves the scheduled ones. -/
theorem stop_drives (h : e.Orderly) : e.Drives e.stop := by
  have hscheduled : (e.moved (e.executions.filter fun f => !e.isOfJob f) e.world).executionsOf .schedule
      = e.executionsOf .schedule := by
    rw [executionsOf, executionsOf, moved, List.filter_filter]
    refine List.filter_congr fun f _ => ?_
    by_cases hf : f.label.owner = .schedule
    · simp [isOfJob, hf]
    · simp [hf]
  have hdrop : e.Drives (e.moved (e.executions.filter fun f => !e.isOfJob f) e.world) :=
    h.other hscheduled (fun f hf => h.executions f (List.mem_filter.1 hf).1) rfl (.refl _)
  have hrecord : e.Drives ((givenUp e.isOfJob e.executions).foldl recordCancelled
      (e.moved (e.executions.filter fun f => !e.isOfJob f) e.world)) :=
    List.foldlRecOn (motive := fun e' => e.Drives e') _ _ hdrop fun _ hP id _ =>
      hP.trans (recordCancelled_drives hP.orderly id)
  exact hrecord.trans (hrecord.orderly.aside rfl rfl (.refl _))

/-! ### Writes of definitions -/

/-- A write that succeeds is a beat; one that fails is nothing. -/
theorem write_drives {α : Type} (h : e.Orderly) {result : Except Failure (α × Table)}
    (hwrite : ∀ {a t}, result = .ok (a, t) → t.Distinct
      ∧ ∃ events, Beat e events (e.moved e.executions { e.world with table := t })) :
    e.Drives (e.write result).2 := by
  cases result with
  | error f => exact h.drives
  | ok r =>
    obtain ⟨hdistinct, events, hbeat⟩ := hwrite rfl
    exact .of_beat hbeat ⟨h.advances, hdistinct, h.executions⟩

theorem save_drives (h : e.Orderly) (w : Workflow) : e.Drives (e.save w).2 :=
  write_drives h fun {saved t} hsave => by
    refine ⟨h.distinct.save (of_through_eq_ok hsave), _, @Beat.save _ _ w saved ?_⟩
    rw [save, hsave]
    rfl

/-- To switch a workflow on or off is to save the copy that was read. -/
theorem setActive_drives (h : e.Orderly) (id : String) (active : Bool) :
    e.Drives (e.setActive id active).2 :=
  write_drives h fun {saved t} hactive => by
    obtain ⟨w, -, hsave⟩ := Except.of_bind_eq_ok (of_through_eq_ok (of_through_eq_ok hactive))
    refine ⟨h.distinct.save (of_through_eq_ok hsave), _,
      @Beat.save _ _ { w with isActive := active } saved ?_⟩
    rw [save, hsave]
    rfl

theorem softDelete_drives (h : e.Orderly) (id : String) : e.Drives (e.softDelete id).2 :=
  write_drives h fun {_ t} hdelete => by
    obtain ⟨t', ht', heq⟩ := Except.of_map_eq_ok hdelete
    cases heq
    refine ⟨h.distinct.softDelete (of_through_eq_ok ht'), _, @Beat.softDelete _ _ id ?_⟩
    rw [softDelete, ht']
    rfl

/-! ### Operations -/

namespace Operation

/-- The clock is not turned back, and next runs are left to executions. -/
def IsOnward : Operation → Prop
  | .setNextRun .. => False
  | .later micros => 0 ≤ micros
  | _ => True

/-- **Every operation is a number of beats.** -/
theorem drives (h : e.Orderly) : ∀ o : Operation, o.IsOnward → e.Drives (o.perform e)
  | start, _ => by
    rw [perform, Engine.start]
    split
    · exact h.drives
    · exact h.aside rfl rfl (.refl _)
  | stop, _ => stop_drives h
  | dispatch .., _ => executeAll_drives h ..
  | testRun .., _ => by
    rw [perform, Engine.testRun]
    split
    · exact h.drives
    · exact executeAll_drives h ..
  | enqueue _, _ => h.aside rfl rfl (.refl _)
  | runManual .., _ => by
    rw [perform, Engine.runManual]
    split
    · exact h.drives
    · split
      · exact h.aside rfl rfl (.refl _)
      · exact h.drives
  | work, _ => work_drives h
  | tick, _ => tick_drives h
  | stopScheduled, _ => stopScheduled_drives h
  | save w, _ => save_drives h w
  | setActive id active, _ => setActive_drives h id active
  | softDelete id, _ => softDelete_drives h id
  | later micros, hmicros => by
    rw [perform, Engine.later]
    split
    · rename_i w hlater
      obtain ⟨-, houtages, htable⟩ := World.checked_of_later hlater
      have hclock : e.world.clock.micros ≤ w.clock.micros := by
        rw [World.clock_later hlater]
        exact Int.le_add_of_nonneg_right hmicros
      exact h.aside rfl rfl (.of_table hclock houtages htable)
    · exact h.drives

/-- **So is any number of operations**, whatever they are and in any order. -/
theorem performAll_drives {os : List Operation} (h : e.Orderly) (hos : ∀ o ∈ os, o.IsOnward) :
    e.Drives (os.foldl perform e) :=
  List.foldlRecOn (motive := fun e' => e.Drives e') os perform h.drives fun _ hP o ho =>
    hP.trans (drives hP.orderly o (hos o ho))

end Operation

end Engine

end Automation
