/-
# What beats come to for one workflow

Of all that happens while a scheduler runs, little matters to one workflow:
where its scheduled execution stands (`Flight`), what definition is stored, and
the time. `Engine.Turn` says once what a beat can do to these three, and every
run of beats is one of turns for each workflow (`Engine.Beats.turns`), with the
same events as far as they are its own.

Key definitions: `Flight`, `Engine.View`, `Engine.Turn`, `Engine.Turns`,
`Flight.Stands`, `Engine.Shows`.
Key theorems: `Engine.Beat.turn`, `Engine.Beats.turns`, `Engine.Turns.split`.
-/
import Automation.Proofs.Engine.Beats

namespace Automation

/-- Where the scheduled execution of a workflow stands. -/
inductive Flight where
  /-- None is in progress, or it has its result. -/
  | idle
  /-- It was launched from a copy, at a time, and is still to look at the clock. -/
  | running (w : Workflow) (since : Instant)
  /-- It has looked at the clock, and is to set the next run. -/
  | looked (w : Workflow) (now : Instant) (nextRun : Option Instant)
  /-- It has set the next run. -/
  | landed

namespace Engine

/-- What matters to one workflow. -/
structure View where
  flight : Flight
  definition : Option Definition
  clock : Instant

/-- What can happen to the workflow `id` next, and what is seen of it. -/
inductive Turn (zone : Zone) (id : String) : View → List ScheduleEvent → View → Prop where
  /-- Time passes, at most. -/
  | pass {v v' : View} : v'.flight = v.flight → v'.definition = v.definition →
      v.clock.micros ≤ v'.clock.micros → Turn zone id v [] v'
  | launch {v : View} {r : Row} {w : Workflow} {due : Instant} : v.flight = .idle → r.id = id →
      v.definition = some r.definition → r.workflow = .ok w → Table.isDue v.clock r = true →
      r.definition.nextRun = some due →
      Turn zone id v [.launched w due v.clock] { v with flight := .running w v.clock }
  | look {v : View} {w : Workflow} {since : Instant} {nextRun : Option Instant} :
      v.flight = .running w since → w.nextRunAfter zone v.clock = .ok nextRun →
      Turn zone id v [.looked id v.clock] { v with flight := .looked w v.clock nextRun }
  | advance {v : View} {w : Workflow} {now : Instant} {nextRun : Option Instant} :
      v.flight = .looked w now nextRun →
      Turn zone id v [.advanced id nextRun]
        { v with flight := .landed, definition := v.definition.map fun d => { d with nextRun } }
  /-- There is no telling the next run. -/
  | fail {v : View} {w : Workflow} {since : Instant} {error : Cron.SearchError} :
      v.flight = .running w since → w.nextRunAfter zone v.clock = .error error →
      Turn zone id v [.ended id v.clock] { v with flight := .idle }
  | land {v : View} : v.flight = .landed →
      Turn zone id v [.ended id v.clock] { v with flight := .idle }
  | save {v : View} {w : Workflow} {nextRun : Option Instant} {d : Definition} : w.id = id →
      Table.nextRunOf zone v.clock w = .ok nextRun → Definition.ofWorkflow w nextRun = .ok d →
      Turn zone id v [.saved w v.clock] { v with definition := some d }
  | delete {v : View} {d : Definition} : v.definition = some d →
      Turn zone id v [] { v with definition := some { d with isDeleted := true, isActive := false } }

/-- Any number of turns. -/
inductive Turns (zone : Zone) (id : String) : View → List ScheduleEvent → View → Prop where
  | nil {v : View} : Turns zone id v [] v
  | cons {v v' v'' : View} {events more : List ScheduleEvent} : Turn zone id v events v' →
      Turns zone id v' more v'' → Turns zone id v (events ++ more) v''

/-! ### Scheduled executions of one workflow -/

/-- The scheduled executions of a workflow. -/
def flightsOf (executions : List Execution) (id : String) : List Execution :=
  executions.filter fun f => f.label.owner == .schedule && f.label.workflowId == id

end Engine

/-- At most one scheduled execution is in progress, and it stands as told. -/
inductive Flight.Stands (zone : Zone) (id : String) : Flight → List Execution → Prop where
  | none : Stands zone id .idle []
  | finished {f : Execution} : f.stage.IsFinished → Stands zone id .idle [f]
  | running {f : Execution} {w : Workflow} {since : Instant} : w.id = id →
      f.stage.IsRunning zone w → Stands zone id (.running w since) [f]
  | looked {f : Execution} {w : Workflow} {now : Instant} {nextRun : Option Instant} :
      f.stage.IsSetting id nextRun → Stands zone id (.looked w now nextRun) [f]
  | landed {f : Execution} : f.stage.IsEnding → Stands zone id .landed [f]

namespace Engine

/-- What an engine shows of a workflow. -/
structure Shows (e : Engine) (id : String) (v : View) : Prop where
  flight : v.flight.Stands e.zone id (flightsOf e.executions id)
  definition : v.definition = e.world.table.definition? id
  clock : v.clock = e.world.clock

theorem flightsOf_executionsOf (e : Engine) (id : String) :
    flightsOf (e.executionsOf .schedule) id = flightsOf e.executions id := by
  rw [flightsOf, flightsOf, executionsOf, List.filter_filter]
  congr 1
  funext f
  cases f.label.owner == Owner.schedule <;> simp

theorem flightsOf_cons (f : Execution) (fs : List Execution) (id : String) :
    flightsOf (f :: fs) id
      = if (f.label.owner == .schedule && f.label.workflowId == id) = true
        then f :: flightsOf fs id else flightsOf fs id :=
  List.filter_cons

theorem flightsOf_append (fs gs : List Execution) (id : String) :
    flightsOf (fs ++ gs) id = flightsOf fs id ++ flightsOf gs id :=
  List.filter_append ..

/-- An execution of something else does not count. -/
theorem flightsOf_other {before after : List Execution} {f : Execution} {id : String}
    (h : (f.label.owner == .schedule && f.label.workflowId == id) = false) :
    flightsOf (before ++ f :: after) id = flightsOf (before ++ after) id := by
  rw [flightsOf_append, flightsOf_append, flightsOf_cons, h, if_neg Bool.false_ne_true]

end Engine

/-- There is never more than one. -/
theorem Flight.Stands.length_le {zone : Zone} {id : String} {fl : Flight} {fs : List Execution}
    (h : fl.Stands zone id fs) : fs.length ≤ 1 := by
  cases h <;> simp

namespace Engine

/-- The one scheduled execution of a workflow is the only one. -/
theorem flightsOf_own {before after : List Execution} {f : Execution} {id : String}
    (h : (f.label.owner == .schedule && f.label.workflowId == id) = true)
    (hone : (flightsOf (before ++ f :: after) id).length ≤ 1) :
    flightsOf (before ++ after) id = []
      ∧ ∀ g : Execution, g.label = f.label → flightsOf (before ++ g :: after) id = [g] := by
  rw [flightsOf_append, flightsOf_cons, if_pos h, List.length_append, List.length_cons] at hone
  have hbefore : flightsOf before id = [] := List.length_eq_zero_iff.1 (by omega)
  have hafter : flightsOf after id = [] := List.length_eq_zero_iff.1 (by omega)
  refine ⟨by rw [flightsOf_append, hbefore, hafter]; rfl, fun g hg => ?_⟩
  rw [flightsOf_append, flightsOf_cons, hg, if_pos h, hbefore, hafter]
  rfl

/-! ### What a beat comes to -/

variable {e e' : Engine} {id : String} {v : View} {before after : List Execution} {f g : Execution}
  {world : World}

/-- What is seen of the workflow itself, and of another one. -/
theorem filter_own {events : List ScheduleEvent} {other : String}
    (h : ∀ event ∈ events, event.workflowId = other) :
    events.filter (·.workflowId == id) = if other = id then events else [] := by
  split
  · rename_i hid
    exact List.filter_eq_self.2 fun event hevent => by rw [h event hevent, hid, beq_self_eq_true]
  · rename_i hid
    refine List.filter_eq_nil_iff.2 fun event hevent => ?_
    rw [h event hevent, beq_false_of_ne hid]
    exact Bool.false_ne_true

theorem filter_singleton (event : ScheduleEvent) :
    [event].filter (·.workflowId == id) = if event.workflowId = id then [event] else [] :=
  filter_own fun _ h => congrArg _ (List.mem_singleton.1 h)

/-- What leaves the workflow as it stands takes time, at most. -/
theorem Shows.pass (hv : Shows e id v) (hzone : e'.zone = e.zone)
    (hflight : v.flight.Stands e.zone id (flightsOf e'.executions id))
    (hdefinition : e'.world.table.definition? id = e.world.table.definition? id)
    (hclock : e.world.clock.micros ≤ e'.world.clock.micros) :
    ∃ v', Turn e.zone id v [] v' ∧ Shows e' id v' := by
  refine ⟨{ v with clock := e'.world.clock }, .pass rfl rfl (hv.clock ▸ hclock), ?_, ?_, rfl⟩
  · rw [hzone]
    exact hflight
  · rw [hdefinition]
    exact hv.definition

/-- No workflow is concerned by what an execution of another one does. -/
theorem Shows.moved_other (hv : Shows e id v) (h : e.executions = before ++ f :: after)
    (hother : f.label.workflowId ≠ id) (hg : g.label = f.label)
    (hdefinition : world.table.definition? id = e.world.table.definition? id)
    (hclock : e.world.clock.micros ≤ world.clock.micros) :
    ∃ v', Turn e.zone id v [] v' ∧ Shows (e.moved (before ++ g :: after) world) id v' := by
  have hnot : (f.label.owner == .schedule && f.label.workflowId == id) = false := by
    rw [beq_false_of_ne hother, Bool.and_false]
  have hflights : flightsOf (before ++ g :: after) id = flightsOf e.executions id := by
    rw [h, flightsOf_other hnot, flightsOf_other (by rw [hg, hnot])]
  exact hv.pass rfl (hflights ▸ hv.flight) hdefinition hclock

/-- How the scheduled execution of a workflow stands, and what stands for the
workflow when it has moved on. -/
theorem Shows.own (hv : Shows e id v) (h : e.executions = before ++ f :: after)
    (howner : f.label.owner = .schedule) (hid : f.label.workflowId = id) :
    v.flight.Stands e.zone id [f] ∧ ∀ g : Execution, g.label = f.label →
      flightsOf (before ++ g :: after) id = [g] := by
  have hown : (f.label.owner == .schedule && f.label.workflowId == id) = true := by
    rw [howner, hid, beq_self_eq_true, beq_self_eq_true]
    rfl
  have hstands := hv.flight
  rw [h] at hstands
  obtain ⟨-, hmoved⟩ := flightsOf_own hown hstands.length_le
  rw [hmoved f rfl] at hstands
  exact ⟨hstands, hmoved⟩

theorem Shows.launch (hv : Shows e id v) {r : Row} {w : Workflow} {due : Instant} (token : Token)
    (ctx : Context) (hfind : e.world.table.find? w.id = some r) (hread : r.workflow = .ok w)
    (hdue : Table.isDue e.world.clock r = true) (hnext : r.definition.nextRun = some due)
    (hidle : e.isInFlight w.id = false) :
    ∃ v', Turn e.zone id v ([ScheduleEvent.launched w due e.world.clock].filter (·.workflowId == id)) v'
      ∧ Shows (e.launch ⟨.schedule, w.id⟩ token (e.executor.executeScheduled e.zone w ctx)) id v' := by
  let f : Execution := .start ⟨.schedule, w.id⟩ token (e.executor.executeScheduled e.zone w ctx)
  have hlaunched : flightsOf (e.executions ++ [f]) id
      = flightsOf e.executions id ++ if (w.id == id) = true then [f] else [] := by
    rw [flightsOf_append, flightsOf_cons]
    rfl
  rw [filter_singleton, ScheduleEvent.workflowId]
  by_cases hid : w.id = id
  · subst hid
    have hnone : flightsOf e.executions w.id = [] := by
      rw [← flightsOf_executionsOf]
      refine List.filter_eq_nil_iff.2 fun f hf hown => ?_
      exact List.any_eq_false.1 hidle f hf (Bool.and_eq_true .. ▸ hown).2
    obtain ⟨flight, definition, clock⟩ := v
    obtain ⟨hflight, hdefinition, hclock⟩ := hv
    rw [hnone] at hflight hlaunched
    rw [if_pos (beq_self_eq_true w.id)] at hlaunched
    cases hflight
    cases hclock
    have hstored : definition = some r.definition := by
      refine hdefinition.trans ?_
      rw [Table.definition?, hfind]
      rfl
    have hstage : f.stage.IsRunning e.zone w :=
      .answered (e.executor.executeScheduled_settles e.zone w ctx)
    rw [if_pos rfl]
    refine ⟨_, .launch rfl (Table.id_of_find? hfind) hstored hread hdue hnext, ?_, hdefinition, rfl⟩
    rw [Engine.launch, hlaunched]
    exact .running rfl hstage
  · rw [if_neg hid]
    rw [if_neg (by simpa using hid), List.append_nil] at hlaunched
    exact hv.pass rfl (hlaunched ▸ hv.flight) rfl (Int.le_refl _)

/-! ### Executions that move on -/

/-- What a scheduled execution that is still to look goes on with. -/
theorem settles_of_isRunning {zone : Zone} {w : Workflow} {reply : Reply}
    {next : Reply → Process.OfExecution} (h : f.stage.IsRunning zone w)
    (hf : f.stage = .answered reply next ∨ f.stage = .waiting next ∧ reply = .cancelled) :
    (next reply).Settles zone w := by
  rcases hf with hf | ⟨hf, rfl⟩
  · rw [hf] at h
    cases h with
    | answered hnext => exact hnext
  · rw [hf] at h
    cases h with
    | waiting hnext => exact hnext

/-- Nothing is seen of an execution that is still to look. -/
theorem progress_of_isRunning {zone : Zone} {w : Workflow} (h : f.stage.IsRunning zone w)
    (now : Instant) : f.progress now = [] := by
  unfold Execution.progress
  generalize f.stage = stage at h
  cases h with
  | @asking request next hrequest _ =>
    cases request with
    | setNextRun _ _ => cases hrequest
    | _ => rfl
  | answered _ => rfl
  | waiting _ => rfl

theorem progress_of_isSetting {nextRun : Option Instant} (h : f.stage.IsSetting id nextRun)
    (now : Instant) : f.progress now = [.looked f.label.workflowId now] := by
  unfold Execution.progress
  generalize f.stage = stage at h
  cases h
  rfl

theorem progress_of_isFinished (h : f.stage.IsFinished) (now : Instant) :
    f.progress now = [.ended f.label.workflowId now] := by
  obtain ⟨result, hresult⟩ := h
  rw [Execution.progress, hresult]

theorem workflowId_of_mem_progress {now : Instant} : ∀ event ∈ f.progress now,
    event.workflowId = f.label.workflowId := by
  intro event hevent
  unfold Execution.progress at hevent
  split at hevent
  · rw [List.mem_singleton.1 hevent]
    rfl
  · rw [List.mem_singleton.1 hevent]
    rfl
  · cases hevent

/-- An execution moves on: to its next request, to look at the clock, or to
its end. -/
theorem Shows.resume (hv : Shows e id v) (h : e.executions = before ++ f :: after)
    (howner : f.label.owner = .schedule) (hresume : f.resume World.environment e.world = some (g, world)) :
    ∃ v', Turn e.zone id v ((g.progress e.world.clock).filter (·.workflowId == id)) v'
      ∧ Shows (e.moved (before ++ g :: after) world) id v' := by
  obtain ⟨reply, next, hf, hg, rfl⟩ := Fiber.resume_eq_some hresume
  have hlabel : g.label = f.label := by rw [hg]
  have hstage : g.stage = (next reply).stage e.world.clock (e.world.cancelled.contains f.token) := by
    rw [hg]
    rfl
  rw [filter_own fun event hevent => workflowId_of_mem_progress event hevent, hlabel]
  by_cases hid : f.label.workflowId = id
  · rw [if_pos hid]
    obtain ⟨hstands, hmoved⟩ := hv.own h howner hid
    obtain ⟨flight, definition, clock⟩ := v
    obtain ⟨-, hdefinition, hclock⟩ := hv
    cases hclock
    have hshows : ∀ fl : Flight, fl.Stands e.zone id [g] →
        Shows (e.moved (before ++ g :: after) e.world) id ⟨fl, definition, e.world.clock⟩ :=
      fun fl hfl => ⟨hmoved g hlabel ▸ hfl, hdefinition, rfl⟩
    have hown : g.label.workflowId = id := hlabel ▸ hid
    change Flight.Stands e.zone id flight [f] at hstands
    cases hstands with
    | finished hfinished =>
      obtain ⟨result, hresult⟩ := hfinished
      rcases hf with hf | ⟨hf, -⟩ <;> cases hf.symm.trans hresult
    | @running _ w since hw hrunning =>
      have hsettles := settles_of_isRunning hrunning hf
      rcases hsettles.stage_cases e.world.clock (e.world.cancelled.contains f.token)
        with hstill | ⟨nextRun, hnext, hsetting⟩ | ⟨error, herror, hfinished⟩
      · rw [← hstage] at hstill
        rw [progress_of_isRunning hstill]
        exact ⟨_, .pass rfl rfl (Int.le_refl _), hshows _ (.running hw hstill)⟩
      · rw [← hstage, hw] at hsetting
        rw [progress_of_isSetting hsetting, hown]
        exact ⟨_, .look rfl hnext, hshows _ (.looked hsetting)⟩
      · rw [← hstage] at hfinished
        rw [progress_of_isFinished hfinished, hown]
        exact ⟨_, .fail rfl herror, hshows _ (.finished hfinished)⟩
    | looked hsetting =>
      generalize f.stage = stage at hf hsetting
      cases hsetting
      rcases hf with hf | ⟨hf, -⟩ <;> cases hf
    | landed hending =>
      have hfinished : g.stage.IsFinished := by
        generalize f.stage = stage at hf hending
        cases hending with
        | answered reply result =>
          rcases hf with hf | ⟨hf, -⟩
          · cases hf
            exact ⟨result, hstage⟩
          · cases hf
      rw [progress_of_isFinished hfinished, hown]
      exact ⟨_, .land rfl, hshows _ (.finished hfinished)⟩
  · rw [if_neg hid]
    exact hv.moved_other h hid hlabel rfl (Int.le_refl _)

/-- An execution is answered, or is not, when it asks for anything but the
next run. -/
theorem Shows.act (hv : Shows e id v) (h : e.executions = before ++ f :: after)
    (howner : f.label.owner = .schedule) {request : Request} {next : Reply → Process.OfExecution}
    (reply : Option Reply) (hf : f.stage = .asking request next) (hrequest : request.isAdvance = false)
    (hdefinition : ∀ id, world.table.definition? id = e.world.table.definition? id)
    (hclock : e.world.clock.micros ≤ world.clock.micros) :
    ∃ v', Turn e.zone id v [] v'
      ∧ Shows (e.moved (before ++ { f with stage := .afterRequest next reply } :: after) world) id v' := by
  by_cases hid : f.label.workflowId = id
  · obtain ⟨hstands, hmoved⟩ := hv.own h howner hid
    have hstill : v.flight.Stands e.zone id [{ f with stage := .afterRequest next reply }] := by
      generalize v.flight = flight at hstands ⊢
      cases hstands with
      | finished hfinished =>
        obtain ⟨result, hresult⟩ := hfinished
        cases hf.symm.trans hresult
      | running hw hrunning =>
        refine .running hw ?_
        rw [hf] at hrunning
        cases hrunning with
        | asking _ hnext =>
          cases reply with
          | some reply => exact .answered (hnext reply)
          | none => exact .waiting (hnext .cancelled)
      | looked hsetting =>
        rw [hf] at hsetting
        cases hsetting
        cases hrequest
      | landed hending =>
        rw [hf] at hending
        cases hending
    have hflights := hmoved { f with stage := .afterRequest next reply } rfl
    exact hv.pass rfl (hflights.symm ▸ hstill) (hdefinition id) hclock
  · exact hv.moved_other h hid rfl (hdefinition id) hclock

/-- A next run is asked for by an execution of the workflow only. -/
theorem Shows.eq_of_asking (hv : Shows e f.label.workflowId v) (h : e.executions = before ++ f :: after)
    (howner : f.label.owner = .schedule) {nextRun : Option Instant}
    {next : Reply → Process.OfExecution} (hf : f.stage = .asking (.setNextRun id nextRun) next) :
    f.label.workflowId = id ∧ (∃ w now, v.flight = .looked w now nextRun)
      ∧ (Stage.answered .done next).IsEnding := by
  obtain ⟨hstands, -⟩ := hv.own h howner rfl
  generalize v.flight = flight at hstands
  cases hstands with
  | finished hfinished =>
    obtain ⟨result, hresult⟩ := hfinished
    cases hf.symm.trans hresult
  | running hw hrunning =>
    rw [hf] at hrunning
    cases hrunning with
    | asking hrequest _ => cases hrequest
  | @looked _ w now _ hsetting =>
    rw [hf] at hsetting
    generalize f.label.workflowId = own at hsetting
    cases hsetting with
    | asking result => exact ⟨rfl, ⟨w, now, rfl⟩, .answered .done result⟩
  | landed hending =>
    rw [hf] at hending
    cases hending

/-- What a next run that is set does to the definitions. -/
theorem definition?_setNextRun (t : Table) (id : String) (nextRun : Option Instant) (other : String) :
    (t.setNextRun id nextRun).definition? other
      = if other = id then (t.definition? other).map fun d => { d with nextRun }
        else t.definition? other := by
  rw [Table.definition?, Table.definition?, Table.find?_setNextRun, Option.map_map]
  cases hfind : t.find? other with
  | none => simp
  | some r =>
    have hid : r.id = other := Table.id_of_find? hfind
    by_cases hother : other = id
    · simp [hid, hother]
    · simp [hid, hother]

/-- The next run is written. -/
theorem Shows.advance (hall : ∀ id, ∃ v, Shows e id v) (hv : Shows e id v)
    (h : e.executions = before ++ f :: after) (howner : f.label.owner = .schedule) {target : String}
    {nextRun : Option Instant} {next : Reply → Process.OfExecution}
    (hf : f.stage = .asking (.setNextRun target nextRun) next)
    (hserve : World.serve f.token (.setNextRun target nextRun) e.world = (some .done, world)) :
    ∃ v', Turn e.zone id v
        ([ScheduleEvent.advanced f.label.workflowId nextRun].filter (·.workflowId == id)) v'
      ∧ Shows (e.moved (before ++ { f with stage := .answered .done next } :: after) world) id v' := by
  obtain ⟨u, hu⟩ := hall f.label.workflowId
  obtain ⟨htarget, -, -⟩ := hu.eq_of_asking h howner hf
  obtain ⟨htable, hclock⟩ := World.of_serve_setNextRun hserve
  have hdefinition := definition?_setNextRun e.world.table target nextRun id
  rw [filter_singleton, ScheduleEvent.workflowId]
  by_cases hid : f.label.workflowId = id
  · subst hid
    obtain ⟨-, ⟨w, now, hlooked⟩, hending⟩ := hv.eq_of_asking h howner hf
    obtain ⟨-, hmoved⟩ := hv.own h howner rfl
    rw [if_pos rfl]
    rw [if_pos htarget] at hdefinition
    have hflights := hmoved { f with stage := .answered .done next } rfl
    refine ⟨_, .advance hlooked, ?_, ?_, ?_⟩
    · show Flight.landed.Stands e.zone _ (flightsOf (before ++ { f with stage := _ } :: after) _)
      rw [hflights]
      exact .landed hending
    · show v.definition.map _ = world.table.definition? _
      rw [htable, hdefinition, hv.definition]
    · exact hv.clock.trans hclock.symm
  · rw [if_neg hid]
    rw [if_neg (by rw [← htarget]; exact fun hsame => hid hsame.symm)] at hdefinition
    rw [← htable] at hdefinition
    exact hv.moved_other h hid rfl hdefinition (hclock ▸ Int.le_refl _)

/-- An execution with a result is forgotten. -/
theorem Shows.forget (hv : Shows e id v) (h : e.executions = before ++ f :: after)
    (hf : f.stage.IsFinished) :
    ∃ v', Turn e.zone id v [] v' ∧ Shows (e.moved (before ++ after) e.world) id v' := by
  refine hv.pass rfl ?_ rfl (Int.le_refl _)
  show v.flight.Stands e.zone id (flightsOf (before ++ after) id)
  have hstands := hv.flight
  rw [h] at hstands
  cases hown : (f.label.owner == .schedule && f.label.workflowId == id) with
  | false => rwa [flightsOf_other hown] at hstands
  | true =>
    obtain ⟨hnone, hmoved⟩ := flightsOf_own hown hstands.length_le
    obtain ⟨result, hresult⟩ := hf
    rw [hmoved f rfl] at hstands
    rw [hnone]
    generalize v.flight = flight at hstands ⊢
    cases hstands with
    | finished _ => exact .none
    | running _ hrunning =>
      rw [hresult] at hrunning
      cases hrunning
    | looked hsetting =>
      rw [hresult] at hsetting
      cases hsetting
    | landed hending =>
      rw [hresult] at hending
      cases hending

/-! ### Definitions that are written -/

/-- A write that succeeds changes the table, and nothing else. -/
theorem of_write_eq_ok {α : Type} {result : Except Failure (α × Table)} {a : α}
    (h : e.write result = (.ok a, e')) :
    ∃ t, result = .ok (a, t) ∧ e' = { e with world := { e.world with table := t } } := by
  cases result with
  | error f => cases h
  | ok r =>
    cases h
    exact ⟨r.2, rfl, rfl⟩

theorem definition?_of_wrote {t t' : Table} {r : Row} (h : Table.Wrote t t' r) (id : String) :
    t'.definition? id = if id = r.id then some r.definition else t.definition? id := by
  rw [Table.definition?, h.find?_eq]
  split
  · rfl
  · rfl

theorem Shows.save (hv : Shows e id v) {w saved : Workflow} (h : e.save w = (.ok saved, e')) :
    ∃ v', Turn e.zone id v ([ScheduleEvent.saved w e.world.clock].filter (·.workflowId == id)) v'
      ∧ Shows e' id v' := by
  obtain ⟨t, hsave, rfl⟩ := of_write_eq_ok h
  obtain ⟨nextRun, d, hnextRun, hd, -, hwrote⟩ := Table.save_eq_ok (of_through_eq_ok hsave)
  have hdefinition := definition?_of_wrote hwrote id
  rw [filter_singleton, ScheduleEvent.workflowId]
  by_cases hid : w.id = id
  · rw [if_pos hid.symm] at hdefinition
    rw [if_pos hid, ← hv.clock]
    rw [← hv.clock] at hnextRun
    exact ⟨_, .save hid hnextRun hd, hv.flight, hdefinition.symm, hv.clock⟩
  · rw [if_neg fun hsame => hid hsame.symm] at hdefinition
    rw [if_neg hid]
    exact hv.pass rfl hv.flight hdefinition (Int.le_refl _)

theorem Shows.softDelete (hv : Shows e id v) {target : String} (h : e.softDelete target = (.ok (), e')) :
    ∃ v', Turn e.zone id v [] v' ∧ Shows e' id v' := by
  obtain ⟨t, hdelete, rfl⟩ := of_write_eq_ok h
  obtain ⟨t, ht, hpair⟩ := Except.of_map_eq_ok hdelete
  cases hpair
  obtain ⟨r, hfind, hwrote⟩ := Table.softDelete_eq_ok (of_through_eq_ok ht)
  have hdefinition := definition?_of_wrote hwrote id
  by_cases hid : id = r.id
  · rw [if_pos hid] at hdefinition
    have hstored : v.definition = some r.definition := by
      rw [hv.definition, Table.definition?, hid, Table.find?_self hfind]
      rfl
    exact ⟨_, .delete hstored, hv.flight, hdefinition.symm, hv.clock⟩
  · rw [if_neg hid] at hdefinition
    exact hv.pass rfl hv.flight hdefinition (Int.le_refl _)

/-! ### Runs -/

theorem Beat.zone_eq {events : List ScheduleEvent} (h : Beat e events e') : e'.zone = e.zone := by
  cases h with
  | save h =>
    obtain ⟨t, -, rfl⟩ := of_write_eq_ok h
    rfl
  | softDelete h =>
    obtain ⟨t, -, rfl⟩ := of_write_eq_ok h
    rfl
  | other _ _ hzone _ => exact hzone
  | _ => rfl

/-- **A beat is a turn for each workflow**, with the events that are its own. -/
theorem Beat.turn {events : List ScheduleEvent} (h : Beat e events e') (hall : ∀ id, ∃ v, Shows e id v)
    (hv : Shows e id v) :
    ∃ v', Turn e.zone id v (events.filter (·.workflowId == id)) v' ∧ Shows e' id v' := by
  cases h with
  | launch token ctx hfind hread hdue hnext hidle =>
    exact hv.launch token ctx hfind hread hdue hnext hidle
  | resume hsplit howner hresume => exact hv.resume hsplit howner hresume
  | act hsplit howner hasking hrequest hdefinition hclock =>
    exact hv.act hsplit howner _ hasking hrequest hdefinition hclock
  | advance hsplit howner hasking hserve => exact hv.advance hall hsplit howner hasking hserve
  | forget hsplit hfinished => exact hv.forget hsplit hfinished
  | save hsave => exact hv.save hsave
  | softDelete hdelete => exact hv.softDelete hdelete
  | other hexecutions hdefinition hzone hclock =>
    refine hv.pass hzone ?_ (hdefinition id) hclock
    rw [← flightsOf_executionsOf, hexecutions, flightsOf_executionsOf]
    exact hv.flight

/-- **A run of beats is one of turns for each workflow.** -/
theorem Beats.turns {events : List ScheduleEvent} (h : Beats e events e') :
    ∀ {V : String → View}, (∀ id, Shows e id (V id)) → ∃ V' : String → View,
      (∀ id, Shows e' id (V' id))
        ∧ ∀ id, Turns e.zone id (V id) (events.filter (·.workflowId == id)) (V' id) := by
  induction h with
  | nil => exact fun {V} hV => ⟨V, hV, fun id => .nil⟩
  | cons hbeat _ ih =>
    intro V hV
    choose V₁ hturn hV₁ using fun id => hbeat.turn (fun id => ⟨V id, hV id⟩) (hV id)
    obtain ⟨V₂, hV₂, hturns⟩ := ih hV₁
    refine ⟨V₂, hV₂, fun id => ?_⟩
    rw [List.filter_append]
    exact .cons (hturn id) (hbeat.zone_eq ▸ hturns id)

/-- What is seen of an engine while no scheduled execution is in progress. -/
theorem shows_of_idle (h : e.executionsOf .schedule = []) (id : String) :
    Shows e id ⟨.idle, e.world.table.definition? id, e.world.clock⟩ where
  flight := by
    rw [← flightsOf_executionsOf, h]
    exact .none
  definition := rfl
  clock := rfl

/-- There is at most one event to a turn. -/
theorem Turn.length_le {zone : Zone} {v v' : View} {events : List ScheduleEvent}
    (h : Turn zone id v events v') : events.length ≤ 1 := by
  cases h <;> simp

/-- An event is seen at a turn, with turns before and after it. -/
theorem Turns.split {zone : Zone} {v v' : View} {events : List ScheduleEvent}
    (h : Turns zone id v events v') : ∀ {before after : List ScheduleEvent} {event : ScheduleEvent},
      events = before ++ event :: after → ∃ m m', Turns zone id v before m
        ∧ Turn zone id m [event] m' ∧ Turns zone id m' after v' := by
  induction h with
  | nil =>
    intro before after event hevents
    cases (List.append_eq_nil_iff.1 hevents.symm).2
  | @cons v u v' events more hturn hrest ih =>
    intro before after event hevents
    rcases List.append_eq_append_iff.1 hevents with ⟨rest, rfl, hmore⟩ | ⟨rest, hsplit, hrestEvents⟩
    · obtain ⟨m, m', hbefore, hevent, hafter⟩ := ih hmore
      exact ⟨m, m', .cons hturn hbefore, hevent, hafter⟩
    · cases rest with
      | nil =>
        have hmore : more = [] ++ event :: after := hrestEvents.symm
        obtain ⟨m, m', hnone, hevent, hafter⟩ := ih hmore
        rw [hsplit] at hturn
        have hbefore := Turns.cons hturn hnone
        rw [List.append_nil, List.append_nil] at hbefore
        exact ⟨m, m', hbefore, hevent, hafter⟩
      | cons first rest =>
        have hlength := hturn.length_le
        rw [hsplit, List.length_append, List.length_cons] at hlength
        have hbefore : before = [] := List.length_eq_zero_iff.1 (by omega)
        have hrestNil : rest = [] := List.length_eq_zero_iff.1 (by omega)
        rw [hbefore, hrestNil, List.nil_append] at hsplit
        rw [hrestNil] at hrestEvents
        cases hrestEvents
        exact ⟨v, u, hbefore ▸ .nil, hsplit ▸ hturn, hrest⟩

end Engine

end Automation
