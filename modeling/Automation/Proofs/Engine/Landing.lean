/-
# Scheduled executions land

What an engine does is a number of pulses, and without a tick none of them
launches anything (`Engine.work_glides`). Cancelling leaves every scheduled
execution cancelled, and no answer takes that back; so once the engine has
worked none of them waits, and all have landed (`Engine.executionsOf_stopScheduled`).
So among any ticks and completions no workflow is ever in flight twice, and
after stopping every execution that was launched has landed and has recorded
its outcome (`Engine.Pulses.landed`).

Key definitions: `Engine.Glides`, `Engine.IsRecalled`.
Key theorems: `Engine.settle_glides`, `Engine.work_glides`,
`Engine.executionsOf_stopScheduled`, `Engine.Operation.pulses`,
`Engine.Pulses.landed`.
-/
import Automation.Proofs.Engine.Flights
import Automation.Proofs.Engine.Queries
import Automation.Proofs.Engine.Resting

namespace Automation

namespace FlightEvent

def isLaunched : FlightEvent → Bool
  | launched .. => true
  | _ => false

def isRefused : FlightEvent → Bool
  | refused _ => true
  | _ => false

end FlightEvent

namespace Engine

variable {e e' e'' : Engine}

/-- An engine comes from another without a launch, and no outcome is refused as
long as writes succeed. -/
structure Glides (e e' : Engine) : Prop where
  pulses : ∃ events, Pulses e events e' ∧ (∀ event ∈ events, event.isLaunched = false)
    ∧ (e.Sound → ∀ event ∈ events, event.isRefused = false)
  sound : e.Sound → e'.Sound

theorem Glides.of_pulse {events : List FlightEvent} (hpulse : Pulse e events e')
    (hlaunched : ∀ event ∈ events, event.isLaunched = false)
    (hrefused : e.Sound → ∀ event ∈ events, event.isRefused = false)
    (hsound : e.Sound → e'.Sound) : e.Glides e' :=
  ⟨⟨events, .single hpulse, hlaunched, hrefused⟩, hsound⟩

/-- Whatever leaves the scheduled executions as they are. -/
theorem Glides.other (hscheduled : e'.executionsOf .schedule = e.executionsOf .schedule)
    (hsound : e.Sound → e'.Sound) : e.Glides e' :=
  .of_pulse (.other hscheduled) nofun nofun hsound

theorem Glides.refl (e : Engine) : e.Glides e := .other rfl id

theorem Glides.trans (h : e.Glides e') (h' : e'.Glides e'') : e.Glides e'' := by
  obtain ⟨events, hpulses, hlaunched, hrefused⟩ := h.pulses
  obtain ⟨more, hpulses', hlaunched', hrefused'⟩ := h'.pulses
  refine ⟨⟨events ++ more, hpulses.trans hpulses', ?_, fun hsound => ?_⟩, h'.sound ∘ h.sound⟩
  · exact List.forall_mem_append.2 ⟨hlaunched, hlaunched'⟩
  · exact List.forall_mem_append.2 ⟨hrefused hsound, hrefused' (h.sound hsound)⟩

/-! ### Moves -/

variable {before after : List Execution} {f g : Execution} {w : World}

theorem resume_glides (hexecutions : e.executions = before ++ f :: after)
    (hresume : f.resume World.environment e.world = some (g, w)) :
    e.Glides (e.moved (before ++ g :: after) w) := by
  have hsound : e.Sound → (e.moved (before ++ g :: after) w).Sound := fun h =>
    (resume_step h hexecutions hresume).2
  by_cases howner : f.label.owner = .schedule
  · exact .of_pulse (.resume hexecutions howner hresume) nofun nofun hsound
  · obtain ⟨reply, next, -, hg, -⟩ := Fiber.resume_eq_some hresume
    exact .other (executionsOf_moved w hexecutions (by rw [hg]) howner) hsound

theorem serve_glides {ready : Request → Bool} (hexecutions : e.executions = before ++ f :: after)
    (hserve : f.serve World.environment ready e.world = some (g, w)) :
    e.Glides (e.moved (before ++ g :: after) w) := by
  have hsound : e.Sound → (e.moved (before ++ g :: after) w).Sound := fun h =>
    (serve_step h hexecutions hserve).2
  obtain ⟨request, next, hstage, rfl, rfl⟩ := Fiber.serve_eq_some hserve
  by_cases howner : f.label.owner = .schedule
  · cases request with
    | record id success error endedAt =>
      have hmem : f ∈ e.executions := by rw [hexecutions]; simp
      have hwritten : e.Sound → ∃ table,
          World.serve f.token (.record id success error endedAt) e.world
            = (some .done, { e.world with table }) := fun h => by
        obtain ⟨table, hdone, -⟩ := (h.executions f hmem).write h.writes hstage nofun
        exact ⟨table, hdone⟩
      cases htable : e.world.through .record (e.world.table.record id success error endedAt) with
      | ok table =>
        simp only [World.environment, World.serve, htable] at hsound ⊢
        exact .of_pulse (.record hexecutions howner hstage htable) (by simp [FlightEvent.isLaunched])
          (fun _ => by simp [FlightEvent.isRefused]) hsound
      | error failure =>
        simp only [World.environment, World.serve, htable] at hsound ⊢
        refine .of_pulse (.refuse hexecutions howner hstage htable)
          (by simp [FlightEvent.isLaunched]) (fun h => ?_) hsound
        obtain ⟨table, hdone⟩ := hwritten h
        simp only [World.serve, htable] at hdone
        cases hdone
    | _ => exact .of_pulse (.act hexecutions howner hstage rfl) nofun nofun hsound
  · exact .other (executionsOf_moved _ hexecutions rfl howner) hsound

theorem settle_glides (e : Engine) : e.Glides e.settle := by
  let P (fs : List Execution) (w : World) : Prop := e.Glides (e.moved fs w)
  have hresume : (Fiber.resume World.environment : Fiber.Move _ _ _).Keeps P :=
    fun hP hmove => hP.trans (resume_glides rfl hmove)
  have hserve : ∀ ready, (Fiber.serve World.environment ready : Fiber.Move _ _ _).Keeps P :=
    fun ready _ _ _ _ _ _ hP hmove => hP.trans (serve_glides rfl hmove)
  exact Fiber.settle_induction hresume hserve e.executions e.world (.refl e)

/-! ### Workers -/

theorem executionsOf_launchAll {owner : Owner} (howner : owner ≠ .schedule) (payload : Json)
    (ctx : Context) (ws : List Workflow) (e : Engine) :
    (e.launchAll owner ws payload ctx).executionsOf .schedule = e.executionsOf .schedule := by
  have hlaunched : (ws.map (e.launched owner payload ctx)).filter (·.label.owner == .schedule) = [] := by
    simp [List.filter_map, Function.comp_def, launched, Fiber.start, beq_false_of_ne howner]
  rw [launchAll_eq]
  simp only [executionsOf, moved, List.filter_append, hlaunched, List.append_nil]

theorem takeJob_glides (e : Engine) (number : Nat) (job : Job) (dispatcher : Dispatcher Job) :
    e.Glides (e.takeJob number job dispatcher) := by
  have howner : Owner.job number ≠ .schedule := nofun
  exact .other (executionsOf_launchAll howner job.payload job.context _ _)
    fun h => (takeJob_leads h).sound

theorem executionsOf_finishJobs : ∀ (numbers : List Nat) (e : Engine),
    (numbers.foldl finishJob e).executionsOf .schedule = e.executionsOf .schedule
  | [], _ => rfl
  | n :: numbers, e => by
    have howner : Owner.job n ≠ .schedule := nofun
    have hfinish : (e.finishJob n).executionsOf .schedule = e.executionsOf .schedule :=
      executionsOf_forget howner
    exact (executionsOf_finishJobs numbers (e.finishJob n)).trans hfinish

/-- Of the scheduled executions those with results are collected, and no others. -/
theorem executionsOf_collect (e : Engine) :
    e.collect.executionsOf .schedule = (e.executionsOf .schedule).filter (·.result?.isNone) := by
  rw [collect_eq, executionsOf_finishJobs]
  simp only [executionsOf, collectScheduled, moved, List.filter_filter]
  refine List.filter_congr fun f _ => ?_
  by_cases howner : f.label.owner = .schedule
  · simp [howner]
  · simp [beq_false_of_ne howner]

theorem collectScheduled_glides (e : Engine) : e.Glides e.collectScheduled := by
  let P (fs : List Execution) : Prop := e.Glides (e.moved fs e.world)
  refine filter_induction (P := P) e.executions [] (fun {before after f} _ hkeep hP => ?_) (.refl e)
  rw [Bool.or_eq_false_iff, ← Option.not_isSome, Bool.not_eq_false', bne_eq_false_iff_eq] at hkeep
  obtain ⟨howner, hresult⟩ := hkeep
  refine hP.trans (.of_pulse (.land rfl howner (isFinished_of_result? hresult))
    (by simp [FlightEvent.isLaunched]) (fun _ => by simp [FlightEvent.isRefused]) fun h => ?_)
  exact (return_leads h rfl hresult).sound

theorem collect_glides (e : Engine) : e.Glides e.collect := by
  refine e.collectScheduled_glides.trans (.other ?_ fun h => ?_)
  · rw [collect_eq]
    exact executionsOf_finishJobs _ e.collectScheduled
  · rw [collect_eq]
    refine (finishJobs_leads h fun n hn f hf => ?_).sound
    exact List.all_eq_true.1 (List.mem_filter.1 hn).2 f hf

/-- **To work launches nothing.** -/
theorem work_glides (e : Engine) : e.Glides e.work := by
  let P (e' : Engine) : Prop := e.Glides e'
  exact workRounds_induction (P := P) (fun hP => hP.trans (takeJob_glides ..))
    (fun hP => hP.trans ((settle_glides _).trans (collect_glides _))) _ (.refl e)

/-! ### Stopping -/

/-- Every scheduled execution has been cancelled. -/
def IsRecalled (e : Engine) : Prop := ∀ f ∈ e.executionsOf .schedule, f.token ∈ e.world.cancelled

theorem IsRecalled.settle (h : e.IsRecalled) : e.settle.IsRecalled := by
  intro f hf
  have htag : f.tag ∈ (e.executionsOf .schedule).map Execution.tag :=
    e.tags_executionsOf_settle .schedule ▸ List.mem_map_of_mem hf
  obtain ⟨g, hg, hsame⟩ := List.mem_map.1 htag
  have htoken : g.token = f.token := congrArg Prod.snd hsame
  exact e.settle_heeds.cancelled _ (htoken ▸ h g hg)

theorem finishJobs_world : ∀ (numbers : List Nat) (e : Engine),
    (numbers.foldl finishJob e).world = e.world
  | [], _ => rfl
  | n :: numbers, e => finishJobs_world numbers (e.finishJob n)

theorem IsRecalled.collect (h : e.IsRecalled) : e.collect.IsRecalled := by
  intro f hf
  rw [executionsOf_collect] at hf
  have hworld : e.collect.world = e.world := finishJobs_world _ e.collectScheduled
  rw [hworld]
  exact h f (List.mem_filter.1 hf).1

theorem IsRecalled.takeJob (h : e.IsRecalled) (number : Nat) (job : Job)
    (dispatcher : Dispatcher Job) : (e.takeJob number job dispatcher).IsRecalled := by
  have howner : Owner.job number ≠ .schedule := nofun
  intro f hf
  rw [Engine.takeJob, executionsOf_launchAll howner] at hf
  rw [Engine.takeJob, launchAll_eq]
  exact h f hf

/-- An engine that has settled holds no execution any more that was recalled. -/
theorem IsRecalled.executionsOf_collect (h : e.IsRecalled) :
    e.settle.collect.executionsOf .schedule = [] := by
  refine List.eq_nil_iff_forall_not_mem.2 fun f hf => ?_
  rw [Engine.executionsOf_collect] at hf
  obtain ⟨hscheduled, hresult⟩ := List.mem_filter.1 hf
  obtain ⟨hmem, -⟩ := List.mem_filter.1 hscheduled
  have hrest := Fiber.isAtRest_of_mem_settle World.environment e.executions e.world f hmem
  cases hstage : f.stage with
  | finished result =>
    rw [Fiber.result?, hstage] at hresult
    cases hresult
  | waiting next => exact not_cancelled_of_settle hmem hstage (h.settle f hscheduled)
  | _ =>
    rw [hstage] at hrest
    cases hrest

/-- Nor does one that has worked. -/
theorem IsRecalled.executionsOf_workRounds : ∀ (rounds : Nat) {e : Engine}, e.IsRecalled →
    (workRounds rounds e).executionsOf .schedule = []
  | 0, _, h => h.executionsOf_collect
  | rounds + 1, e, h => by
    rw [workRounds]
    split
    · exact h.executionsOf_collect
    · have htaken : (takeJobs e.settle.collect.dispatcher.workers e.settle.collect).IsRecalled :=
        takeJobs_induction (P := IsRecalled) (fun hP => hP.takeJob _ _ _) _ h.settle.collect
      exact htaken.executionsOf_workRounds rounds

theorem mem_cancelAll {token : Token} : ∀ {tokens : List Token} {w : World},
    token ∈ tokens ∨ token ∈ w.cancelled → token ∈ (tokens.foldl World.cancel w).cancelled
  | [], _, .inr h => h
  | first :: tokens, w, h => by
    have hrest : token ∈ tokens ∨ token ∈ (w.cancel first).cancelled := by
      rcases h with h | h
      · rcases List.mem_cons.1 h with rfl | h
        · exact .inr List.mem_cons_self
        · exact .inl h
      · exact .inr (List.mem_cons_of_mem _ h)
    exact @mem_cancelAll token tokens (w.cancel first) hrest

/-- The engine once its scheduled executions are cancelled. -/
def recalled (e : Engine) : Engine :=
  e.moved e.executions (((e.executionsOf .schedule).map (·.token)).foldl World.cancel e.world)

theorem isRecalled_recalled (e : Engine) : e.recalled.IsRecalled := fun _ hf =>
  mem_cancelAll (.inl (List.mem_map_of_mem hf))

/-- **Once the scheduler has stopped nothing is in flight.** -/
theorem executionsOf_stopScheduled (e : Engine) : e.stopScheduled.2.executionsOf .schedule = [] :=
  e.isRecalled_recalled.executionsOf_workRounds _

theorem stopScheduled_glides (e : Engine) : e.Glides e.stopScheduled.2 := by
  have hrecall : e.Glides e.recalled := by
    refine .other rfl fun h => ?_
    obtain ⟨houtages, htable, hclock⟩ :=
      cancelAll_eq ((e.executionsOf .schedule).map (·.token)) e.world
    have hcancel : e.Leads e.recalled :=
      h.other rfl htable (h.writes.of_outages houtages (hclock ▸ h.writes.clock))
    exact hcancel.sound
  exact hrecall.trans e.recalled.work_glides

/-! ### Operations -/

theorem Glides.exists_pulses (h : e.Glides e') : ∃ events, Pulses e events e' := by
  obtain ⟨events, hpulses, -⟩ := h.pulses
  exact ⟨events, hpulses⟩

theorem exists_pulses_of_eq (h : e'.executionsOf .schedule = e.executionsOf .schedule) :
    ∃ events, Pulses e events e' :=
  ⟨_, .single (.other h)⟩

/-- A tick is a pulse, whatever the table finds due. -/
theorem tick_pulses (hids : e.world.table.Distinct) : ∃ events, Pulses e events e.tick.2 := by
  rw [tick_eq]
  split
  · rename_i due hdue
    have hquery : e.world.table.query (Table.isDue e.world.clock) Table.earliestFirst = .ok due :=
      of_through_eq_ok hdue
    have hdistinct : (due.map (·.id)).Nodup := Table.nodup_query hids hquery
    exact ⟨_, .single (.tick hdistinct)⟩
  · exact ⟨[], .nil⟩

theorem executeAll_pulses (e : Engine) (ws : List Workflow) (payload : Json) (ctx : Context) :
    ∃ events, Pulses e events (e.executeAll ws payload ctx).2 := by
  have howner : Owner.caller ≠ .schedule := nofun
  have hlaunch : Pulses e [] (e.launchAll .caller ws payload ctx) :=
    .single (.other (executionsOf_launchAll howner payload ctx ws e))
  obtain ⟨events, hsettle⟩ := (e.launchAll .caller ws payload ctx).settle_glides.exists_pulses
  exact ⟨_, (hlaunch.trans hsettle).step (.other (executionsOf_forget howner))⟩

theorem executionsOf_stop (e : Engine) : e.stop.executionsOf .schedule = e.executionsOf .schedule := by
  rw [executionsOf, executionsOf, executions_stop, List.filter_filter]
  refine List.filter_congr fun f _ => ?_
  by_cases howner : f.label.owner = .schedule
  · simp [isOfJob, howner]
  · simp [beq_false_of_ne howner]

/-- **Whatever callers ask of an engine is a number of pulses.** -/
theorem Operation.pulses (hids : e.world.table.Distinct) (o : Operation) :
    ∃ events, Pulses e events (o.perform e) := by
  let P (e' : Engine) : Prop := ∃ events, Pulses e events e'
  refine o.perform_cases (P := P) ?self ?start ?stop ?execute ?enqueue ?work ?tick ?stopScheduled
    ?write ?later
  case self => exact ⟨[], .nil⟩
  case start => exact exists_pulses_of_eq rfl
  case stop => exact exists_pulses_of_eq e.executionsOf_stop
  case execute => exact e.executeAll_pulses
  case enqueue => exact fun job => exists_pulses_of_eq rfl
  case work => exact e.work_glides.exists_pulses
  case tick => exact tick_pulses hids
  case stopScheduled => exact e.stopScheduled_glides.exists_pulses
  case write => exact fun table => exists_pulses_of_eq rfl
  case later => exact fun clock => exists_pulses_of_eq rfl

/-- So are any operations, one after the other. -/
theorem Operation.performAll_pulses {os : List Operation} (h : e.Orderly)
    (hos : ∀ o ∈ os, o.IsOnward) : ∃ events, Pulses e events (os.foldl perform e) := by
  let P (e' : Engine) : Prop := e'.Orderly ∧ ∃ events, Pulses e events e'
  have hall : P (os.foldl perform e) :=
    List.foldlRecOn (motive := P) os perform ⟨h, [], .nil⟩ fun e' hP o ho => by
      obtain ⟨events, hpulses⟩ := hP.2
      obtain ⟨more, hmore⟩ := o.pulses hP.1.distinct
      exact ⟨(o.drives hP.1 (hos o ho)).orderly, _, hpulses.trans hmore⟩
  exact hall.2

/-! ### Any ticks and completions, and then a stop -/

/-- Who has landed is in flight no longer, and nobody else has gone. -/
theorem mem_inFlightIds_land (hnodup : e.inFlightIds.Nodup)
    (hexecutions : e.executions = before ++ f :: after) (howner : f.label.owner = .schedule)
    (w : World) (id : String) : id ∈ (e.moved (before ++ after) w).inFlightIds
      ↔ id ∈ e.inFlightIds ∧ id ≠ f.label.workflowId := by
  have hids : ∀ executions : List Execution, (e.moved executions w).inFlightIds
      = (executions.filter (·.label.owner == .schedule)).map (·.label.workflowId) := fun _ => rfl
  have hall : e.inFlightIds
      = ((before ++ f :: after).filter (·.label.owner == .schedule)).map (·.label.workflowId) := by
    rw [← hexecutions]
    rfl
  rw [hall] at hnodup ⊢
  rw [hids]
  simp only [List.filter_append, List.map_append, List.filter_cons, howner, beq_self_eq_true,
    if_true, List.map_cons] at hnodup ⊢
  rw [List.nodup_middle, List.nodup_cons] at hnodup
  simp only [List.mem_append, List.mem_cons] at hnodup ⊢
  constructor
  · rintro hmem
    refine ⟨?_, fun heq => hnodup.1 (heq ▸ hmem)⟩
    rcases hmem with hmem | hmem
    · exact .inl hmem
    · exact .inr (.inr hmem)
  · rintro ⟨hmem | heq | hmem, hne⟩
    · exact .inl hmem
    · exact (hne heq).elim
    · exact .inr hmem

/-- What is collected has its result; whoever has none stays in flight. -/
theorem mem_inFlightIds_collect (e : Engine) (id : String) : id ∈ e.collect.inFlightIds
    ↔ ∃ f ∈ e.executionsOf .schedule, f.label.workflowId = id ∧ f.result? = none := by
  rw [inFlightIds, executionsOf_collect]
  simp only [List.mem_map, List.mem_filter, Option.isNone_iff_eq_none]
  constructor
  · rintro ⟨f, ⟨hf, hresult⟩, hid⟩
    exact ⟨f, hf, hid, hresult⟩
  · rintro ⟨f, hf, hid, hresult⟩
    exact ⟨f, ⟨hf, hresult⟩, hid⟩

/-- **Whatever the ticks find due, and however the executions move and end in
between**: no workflow is in flight twice; a tick launches exactly what is due
and not in flight, once each; who lands goes alone; and stopping leaves nothing
in flight, launches nothing, and every execution launched before it has landed
and, if it had a recorder, has recorded its outcome or been refused. No outcome
is refused while writes succeed. -/
theorem Pulses.landed {e₀ e : Engine} {events : List FlightEvent}
    (h₀ : e₀.executionsOf .schedule = []) (h : Pulses e₀ events e) :
    e.inFlightIds.Nodup
      ∧ (∀ due, e.world.through .dueAt (e.world.table.dueAt e.world.clock) = .ok due →
          e.tick = e.launchReady due)
      ∧ (∀ due : List Workflow, (due.map (·.id)).Nodup →
          let launched := (due.map (·.id)).filter (· ∉ e.inFlightIds)
          (e.launchReady due).1 = launched.length
            ∧ (e.launchReady due).2.inFlightIds = e.inFlightIds ++ launched
            ∧ (e.inFlightIds ++ launched).Nodup)
      ∧ (∀ before f after, e.executions = before ++ f :: after → f.label.owner = .schedule →
          ∀ id, id ∈ (e.moved (before ++ after) e.world).inFlightIds
            ↔ id ∈ e.inFlightIds ∧ id ≠ f.label.workflowId)
      ∧ (∀ id, id ∈ e.collect.inFlightIds
          ↔ ∃ f ∈ e.executionsOf .schedule, f.label.workflowId = id ∧ f.result? = none)
      ∧ e.stopScheduled.1 = 0 ∧ e.stopScheduled.2.inFlightIds = []
      ∧ ∃ more, Pulses e more e.stopScheduled.2
          ∧ (∀ id records, .launched id records ∉ more) ∧ (e.Sound → ∀ id, .refused id ∉ more)
          ∧ ∀ id,
            events.count (.launched id true) = (events ++ more).count (.recorded id)
                + (events ++ more).count (.refused id)
              ∧ events.count (.launched id true) + events.count (.launched id false)
                = (events ++ more).count (.landed id) := by
  obtain ⟨aloft, hflights⟩ := h.flights h₀
  have hnone := e.executionsOf_stopScheduled
  obtain ⟨more, hmore, hlaunched, hrefused⟩ := e.stopScheduled_glides.pulses
  refine ⟨hflights.nodup, fun due hdue => by rw [tick_eq, hdue], fun due hids => ⟨?_, ?_, ?_⟩,
    fun before f after hexecutions howner => mem_inFlightIds_land hflights.nodup hexecutions howner _,
    e.mem_inFlightIds_collect, ?_, ?_, more, hmore, ?_, ?_, fun id => ?_⟩
  · rw [← map_id_ready, List.length_map]
    rfl
  · exact e.inFlightIds_launchReady due
  · obtain ⟨aloft', hticked⟩ := hflights.pulse (.tick hids)
    exact e.inFlightIds_launchReady due ▸ hticked.nodup
  · show (e.stopScheduled.2.executionsOf .schedule).length = 0
    rw [hnone]
    rfl
  · rw [inFlightIds, hnone]
    rfl
  · intro id records hmem
    cases hlaunched _ hmem
  · intro hsound id hmem
    cases hrefused hsound _ hmem
  · obtain ⟨aloft', hstopped⟩ := (h.trans hmore).flights h₀
    have haloft : aloft' = [] := by
      have hflies := hstopped.flies
      rw [hnone] at hflies
      cases hflies
      rfl
    subst haloft
    have hfew : ∀ records, more.count (.launched id records) = 0 := fun records =>
      List.count_eq_zero.2 fun hmem => by cases hlaunched _ hmem
    have houtcomes := hstopped.outcomes id
    have hlandings := hstopped.landings id
    simp only [List.count_append, hfew, List.map_nil, List.count_nil, Nat.add_zero] at houtcomes hlandings ⊢
    exact ⟨houtcomes, hlandings⟩

/-- A second tick launches nothing that is in flight, and stopping records what
the first one launched. -/
theorem Pulses.landed_secondTick :
    let row (id : String) : Row := {
      id, createdAt := ⟨0⟩
      definition := ⟨"store", none, "Report", none, [], 1, true, false, "schedule", [], .null,
        none, .arr [], none⟩ }
    let w (id : String) : Workflow :=
      { id, storeId := "store", name := "Report", trigger := ⟨.schedule, [], none⟩ }
    let e₀ : Engine :=
      { world := { clock := ⟨86400000000⟩, table := ⟨[row "w-1", row "w-2"]⟩ } }
    let e := ((e₀.launchReady [w "w-1", w "w-2"]).2.launchReady [w "w-2"]).2
    e₀.executionsOf .schedule = [] ∧ e.inFlightIds = ["w-1", "w-2"] ∧
      ∃ more, Pulses e₀ [.launched "w-1" true, .launched "w-2" true] e
        ∧ Pulses e more e.stopScheduled.2 ∧ e.stopScheduled.2.inFlightIds = []
        ∧ more.count (.recorded "w-1") = 1 ∧ more.count (.landed "w-2") = 1 := by
  intro row w e₀ e
  have hfirst : Pulses e₀ [.launched "w-1" true, .launched "w-2" true]
      (e₀.launchReady [w "w-1", w "w-2"]).2 := .single (@Pulse.tick _ [w "w-1", w "w-2"] (by decide))
  have hticks : Pulses e₀ [.launched "w-1" true, .launched "w-2" true] e :=
    hfirst.step (@Pulse.tick _ [w "w-2"] (by decide))
  have hsound₀ : e₀.Sound := ⟨⟨rfl, rfl, rfl, rfl⟩, List.forall_mem_nil _⟩
  have hstored : ∀ v ∈ [w "w-1", w "w-2"], e₀.world.table.has v.id = true := by decide
  have hsound : e.Sound := (launchAllScheduled_leads hsound₀ hstored).sound
  obtain ⟨-, -, -, -, -, -, hempty, more, hmore, -, hrefused, hcounts⟩ := Pulses.landed rfl hticks
  have hnone : more.count (.refused "w-1") = 0 := List.count_eq_zero.2 (hrefused hsound "w-1")
  refine ⟨rfl, rfl, more, hticks, hmore, hempty, ?_, ?_⟩
  · have houtcomes := (hcounts "w-1").1
    simpa [List.count_append, hnone] using houtcomes.symm
  · have hlandings := (hcounts "w-2").2
    simpa [List.count_append] using hlandings.symm

end Engine

end Automation
