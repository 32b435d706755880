/-
# A workflow that is saved while it runs

Saving a workflow stores the next run that belongs to its new schedule, or none
if no schedule runs it any more. But an execution that is in progress at that
time holds an older copy, and sets the next run in the end, whatever is stored
by then. So the next run that is stored in the end is that of the schedule that
is stored, unless an execution of an older copy was in progress when the
workflow was saved, and was the last one to set the next run
(`Engine.Beats.rescheduled`).

Key definitions: `Workflow.scheduleDocument`, `Definition.BelongsTo`,
`Engine.InProgress`, `Flight.Traced`.
Key theorems: `Engine.Turns.traced`, `Engine.Turns.belongsTo`,
`Engine.Beats.rescheduled`.
-/
import Automation.Proofs.Engine.Turns
import Automation.Proofs.Table.Saving

namespace Automation

/-- The document of the schedule of a workflow. -/
def Workflow.scheduleDocument (w : Workflow) : Json :=
  (w.trigger.schedule.map fun s => Json.obj (Document.scheduleFields s)).getD .null

/-! ### Definitions of a workflow -/

namespace Definition

/-- A definition that was written for a workflow; it may have been deleted
since, and may have another next run. -/
def BelongsTo (w : Workflow) (d : Definition) : Prop :=
  ∃ active deleted nextRun,
    ofWorkflow { w with isActive := active, isDeleted := deleted } nextRun = .ok d

variable {w : Workflow} {d : Definition}

theorem BelongsTo.withNextRun (h : d.BelongsTo w) (nextRun : Option Instant) :
    BelongsTo w { d with nextRun } := by
  obtain ⟨active, deleted, old, hd⟩ := h
  exact ⟨active, deleted, nextRun, ofWorkflow_withNextRun hd nextRun⟩

theorem BelongsTo.deleted (h : d.BelongsTo w) :
    BelongsTo w { d with isDeleted := true, isActive := false } := by
  obtain ⟨active, deleted, nextRun, hd⟩ := h
  have hgone := ofWorkflow_deleted hd
  exact ⟨false, true, nextRun, hgone⟩

theorem BelongsTo.fields (h : d.BelongsTo w) :
    d.triggerName = w.trigger.kind.name ∧ d.schedule = w.scheduleDocument := by
  obtain ⟨active, deleted, nextRun, hd⟩ := h
  obtain ⟨conditions, actions, -, -, rfl⟩ := ofWorkflow_eq_ok hd
  exact ⟨rfl, rfl⟩

/-- The copy that a row gives has the schedule for which the row was written. -/
theorem BelongsTo.copy {r : Row} {u : Workflow} (h : r.definition.BelongsTo w)
    (hread : r.workflow = .ok u) : u.scheduleDocument = w.scheduleDocument := by
  obtain ⟨active, deleted, nextRun, hd⟩ := h
  rw [Row.eq_of_workflow hd hread, Workflow.scheduleDocument, Workflow.scheduleDocument]
  simp only [Workflow.stored, Option.map_map]
  congr 2
  funext s
  exact congrArg Json.obj (scheduleFields_stored s _)

end Definition

/-! ### Executions in progress -/

/-- Whether an execution begins or ends. -/
def ScheduleEvent.isBound : ScheduleEvent → Bool
  | .launched .. | .ended .. => true
  | _ => false

namespace Engine

/-- After some events an execution is in progress that was launched from a copy. -/
def InProgress (events : List ScheduleEvent) (u : Workflow) : Prop :=
  ∃ first due since rest, events = first ++ .launched u due since :: rest
    ∧ ∀ event ∈ rest, event.isBound = false

theorem InProgress.append {events more : List ScheduleEvent} {u : Workflow} (h : InProgress events u)
    (hmore : ∀ event ∈ more, event.isBound = false) : InProgress (events ++ more) u := by
  obtain ⟨first, due, since, rest, rfl, hrest⟩ := h
  refine ⟨first, due, since, rest ++ more, ?_, fun event hevent => ?_⟩
  · rw [List.append_assoc]
    rfl
  · rcases List.mem_append.1 hevent with hevent | hevent
    · exact hrest event hevent
    · exact hmore event hevent

/-- An execution in progress was launched among the later events, or among the
earlier ones and is in progress since. -/
theorem InProgress.cases {events more : List ScheduleEvent} {u : Workflow}
    (h : InProgress (events ++ more) u) :
    InProgress more u ∨ InProgress events u ∧ ∀ event ∈ more, event.isBound = false := by
  obtain ⟨first, due, since, rest, hsplit, hrest⟩ := h
  rcases List.append_eq_append_iff.1 hsplit with ⟨middle, rfl, hmore⟩ | ⟨middle, hevents, hafter⟩
  · exact .inl ⟨middle, due, since, rest, hmore, hrest⟩
  · rcases List.cons_eq_append_iff.1 hafter with ⟨rfl, hmore⟩ | ⟨others, rfl, rfl⟩
    · exact .inl ⟨[], due, since, rest, hmore, hrest⟩
    · refine .inr ⟨⟨first, due, since, others, hevents, fun event hevent => ?_⟩, fun event hevent => ?_⟩
      · exact hrest event (List.mem_append_left _ hevent)
      · exact hrest event (List.mem_append_right _ hevent)

end Engine

/-- Where the scheduled execution of a workflow stands after some events: it was
launched by one of them, and sets the next run of its copy. -/
def Flight.Traced (zone : Zone) (events : List ScheduleEvent) : Flight → Prop
  | .idle | .landed => True
  | .running u _ => Engine.InProgress events u
  | .looked u now nextRun => Engine.InProgress events u ∧ u.nextRunAfter zone now = .ok nextRun

theorem Flight.Traced.append {zone : Zone} {events more : List ScheduleEvent}
    (hmore : ∀ event ∈ more, event.isBound = false) : ∀ {flight : Flight},
      flight.Traced zone events → flight.Traced zone (events ++ more)
  | .idle, _ | .landed, _ => trivial
  | .running _ _, h => Engine.InProgress.append h hmore
  | .looked _ _ _, h => ⟨h.1.append hmore, h.2⟩

namespace Engine

variable {zone : Zone} {id : String} {v v' : View}

theorem Turn.traced {events seen : List ScheduleEvent} (h : Turn zone id v events v')
    (htraced : v.flight.Traced zone seen) : v'.flight.Traced zone (seen ++ events) := by
  cases h with
  | pass hsame =>
    rw [hsame, List.append_nil]
    exact htraced
  | @launch _ w due =>
    show InProgress (seen ++ [.launched w due v.clock]) w
    exact ⟨seen, due, v.clock, [], rfl, fun _ hevent => (List.not_mem_nil hevent).elim⟩
  | @look w since nextRun hrunning hnext =>
    rw [hrunning] at htraced
    have hprogress : InProgress (seen ++ [.looked id v.clock]) w :=
      InProgress.append htraced fun _ hevent => List.mem_singleton.1 hevent ▸ rfl
    exact ⟨hprogress, hnext⟩
  | advance | fail | land => exact True.intro
  | save => exact htraced.append fun _ hevent => List.mem_singleton.1 hevent ▸ rfl
  | delete =>
    rw [List.append_nil]
    exact htraced

/-- Executions are launched from copies, and set the next runs of these. -/
theorem Turns.traced {events : List ScheduleEvent} (h : Turns zone id v events v') :
    ∀ {seen : List ScheduleEvent}, v.flight.Traced zone seen →
      v'.flight.Traced zone (seen ++ events) := by
  induction h with
  | nil =>
    intro seen htraced
    rwa [List.append_nil]
  | cons hturn _ ih =>
    intro seen htraced
    rw [← List.append_assoc]
    exact ih (hturn.traced htraced)

/-! ### Definitions between two saves -/

/-- What is stored for a workflow stays its own until it is saved again; the
next run stays until one is set. -/
theorem Turn.belongsTo {events : List ScheduleEvent} {w : Workflow} {d : Definition}
    (h : Turn zone id v events v') (hsaved : ∀ event ∈ events, event.isSaved = false)
    (hv : v.definition = some d) (hd : d.BelongsTo w) :
    ∃ d', v'.definition = some d' ∧ d'.BelongsTo w
      ∧ ((∀ n, .advanced id n ∉ events) → d'.nextRun = d.nextRun) := by
  cases h with
  | pass _ hsame => exact ⟨d, hsame.trans hv, hd, fun _ => rfl⟩
  | launch | look | fail | land => exact ⟨d, hv, hd, fun _ => rfl⟩
  | @advance _ _ nextRun _ =>
    refine ⟨{ d with nextRun }, ?_, hd.withNextRun nextRun, fun hnone => ?_⟩
    · show v.definition.map _ = _
      rw [hv]
      rfl
    · cases hnone nextRun (List.mem_singleton_self _)
  | save => cases hsaved _ (List.mem_singleton_self _)
  | @delete old hold =>
    cases hv.symm.trans hold
    exact ⟨_, rfl, hd.deleted, fun _ => rfl⟩

theorem Turns.belongsTo {events : List ScheduleEvent} {w : Workflow}
    (h : Turns zone id v events v') : (∀ event ∈ events, event.isSaved = false) →
      ∀ {d : Definition}, v.definition = some d → d.BelongsTo w →
      ∃ d', v'.definition = some d' ∧ d'.BelongsTo w
        ∧ ((∀ n, .advanced id n ∉ events) → d'.nextRun = d.nextRun) := by
  induction h with
  | nil => exact fun _ d hv hd => ⟨d, hv, hd, fun _ => rfl⟩
  | cons hturn _ ih =>
    intro hsaved d hv hd
    obtain ⟨d₁, hv₁, hd₁, hnext₁⟩ :=
      hturn.belongsTo (fun event hevent => hsaved event (List.mem_append_left _ hevent)) hv hd
    obtain ⟨d₂, hv₂, hd₂, hnext₂⟩ :=
      ih (fun event hevent => hsaved event (List.mem_append_right _ hevent)) hv₁ hd₁
    refine ⟨d₂, hv₂, hd₂, fun hnone => ?_⟩
    rw [hnext₂ fun n hn => hnone n (List.mem_append_right _ hn),
      hnext₁ fun n hn => hnone n (List.mem_append_left _ hn)]

/-- A turn in which the workflow is saved, a next run set, or an execution
launched. -/
theorem Turn.of_saved {w : Workflow} {now : Instant} (h : Turn zone id v [.saved w now] v') :
    v'.flight = v.flight ∧ ∃ nextRun d, Table.nextRunOf zone now w = .ok nextRun
      ∧ Definition.ofWorkflow w nextRun = .ok d ∧ v'.definition = some d := by
  cases h with
  | save _ hnext hd => exact ⟨rfl, _, _, hnext, hd, rfl⟩

theorem Turn.of_advanced {n : Option Instant} (h : Turn zone id v [.advanced id n] v') :
    (∃ u now, v.flight = .looked u now n)
      ∧ v'.definition = v.definition.map fun d => { d with nextRun := n } := by
  cases h with
  | advance hlooked => exact ⟨⟨_, _, hlooked⟩, rfl⟩

theorem Turn.of_launched {u : Workflow} {due t : Instant} (h : Turn zone id v [.launched u due t] v') :
    ∃ r : Row, v.definition = some r.definition ∧ r.workflow = .ok u
      ∧ r.definition.triggerName = TriggerKind.schedule.name := by
  cases h with
  | launch _ _ hstored hread hdue _ =>
    obtain ⟨-, htrigger, -⟩ := Table.of_isDue hdue
    exact ⟨_, hstored, hread, htrigger⟩

/-- An execution that is launched after a save has the schedule that was saved. -/
theorem Turns.launched_own {events : List ScheduleEvent} {w u : Workflow} {d : Definition}
    (h : Turns zone id v events v') (hsaved : ∀ event ∈ events, event.isSaved = false)
    (hv : v.definition = some d) (hd : d.BelongsTo w) (hu : InProgress events u) :
    w.trigger.kind = .schedule ∧ u.scheduleDocument = w.scheduleDocument := by
  obtain ⟨first, due, since, rest, rfl, -⟩ := hu
  obtain ⟨m, m', hfirst, hlaunch, -⟩ := h.split rfl
  obtain ⟨r, hstored, hread, htrigger⟩ := hlaunch.of_launched
  obtain ⟨d', hm, hbelongs, -⟩ :=
    hfirst.belongsTo (fun event hevent => hsaved event (List.mem_append_left _ hevent)) hv hd
  cases hm.symm.trans hstored
  have hname : TriggerKind.ofName? w.trigger.kind.name = some .schedule := by
    rw [← hbelongs.fields.1, htrigger, TriggerKind.ofName?_name]
  rw [TriggerKind.ofName?_name] at hname
  exact ⟨Option.some.inj hname, hbelongs.copy hread⟩

/-! ### Runs -/

/-- **The next run of a workflow that is saved while it runs.** Let a workflow
be saved for the last time. If no next run is set after that, the one that is
stored belongs to what was saved. Else it is the one that was set last. That is
the next run of the schedule that is stored, if the execution that set it was
launched since; if it was in progress when the workflow was saved it is that of
the older copy. -/
theorem Beats.rescheduled {e₀ e : Engine} {events : List ScheduleEvent}
    (h₀ : e₀.executionsOf .schedule = []) (h : Beats e₀ events e) {id : String}
    {before after : List ScheduleEvent} {w : Workflow} {now : Instant}
    (hevents : events.filter (·.workflowId == id) = before ++ .saved w now :: after)
    (hlast : ∀ event ∈ after, event.isSaved = false) :
    ∃ r, e.world.table.find? id = some r ∧ r.definition.triggerName = w.trigger.kind.name
      ∧ r.definition.schedule = w.scheduleDocument
      ∧ ((∀ n, .advanced id n ∉ after) → Table.nextRunOf e₀.zone now w = .ok r.definition.nextRun)
      ∧ ∀ {first rest : List ScheduleEvent} {n : Option Instant},
        after = first ++ .advanced id n :: rest → (∀ m, .advanced id m ∉ rest) →
        r.definition.nextRun = n ∧ ∃ u t, u.nextRunAfter e₀.zone t = .ok n
          ∧ (InProgress first u ∧ w.trigger.kind = .schedule ∧ u.scheduleDocument = r.definition.schedule
            ∨ InProgress before u ∧ ∀ event ∈ first, event.isBound = false) := by
  obtain ⟨V, hshows, hturns⟩ := h.turns (shows_of_idle h₀)
  obtain ⟨m, m', hbefore, hsave, hafter⟩ := (hturns id).split hevents
  obtain ⟨hflight, nextRun, d, hnext, hd, hstored⟩ := hsave.of_saved
  have hbelongs : d.BelongsTo w := ⟨w.isActive, w.isDeleted, nextRun, hd⟩
  obtain ⟨d', hfinal, hbelongs', hkept⟩ := hafter.belongsTo hlast hstored hbelongs
  obtain ⟨r, hfind, hr⟩ : ∃ r, e.world.table.find? id = some r ∧ r.definition = d' := by
    have hdefinition := (hshows id).definition.symm.trans hfinal
    exact Option.map_eq_some_iff.1 hdefinition
  subst hr
  obtain ⟨htrigger, hschedule⟩ := hbelongs'.fields
  refine ⟨r, hfind, htrigger, hschedule, fun hnone => ?_, fun {first rest n} hsplit hrest => ?_⟩
  · obtain ⟨conditions, actions, -, -, rfl⟩ := Definition.ofWorkflow_eq_ok hd
    rw [hkept hnone]
    exact hnext
  · obtain ⟨x, x', hfirst, hadvance, hothers⟩ := hafter.split hsplit
    obtain ⟨⟨u, t, hlooked⟩, hset⟩ := hadvance.of_advanced
    subst hsplit
    have hfirstSaved : ∀ event ∈ first, event.isSaved = false :=
      fun event hevent => hlast event (List.mem_append_left _ hevent)
    have hrestSaved : ∀ event ∈ rest, event.isSaved = false :=
      fun event hevent => hlast event (List.mem_append_right _ (List.mem_cons_of_mem _ hevent))
    have hnextRun : r.definition.nextRun = n := by
      obtain ⟨dx, hx, hbelongsx, -⟩ := hfirst.belongsTo hfirstSaved hstored hbelongs
      rw [hx, Option.map_some] at hset
      obtain ⟨dy, hy, -, hsame⟩ := hothers.belongsTo hrestSaved hset (hbelongsx.withNextRun n)
      cases hfinal.symm.trans hy
      exact hsame hrest
    have htraced : m.flight.Traced e₀.zone ([] ++ before) := hbefore.traced True.intro
    rw [List.nil_append] at htraced
    have hlookedTraced := hfirst.traced (hflight ▸ htraced)
    rw [hlooked] at hlookedTraced
    obtain ⟨hprogress, hnextAfter⟩ := hlookedTraced
    refine ⟨hnextRun, u, t, hnextAfter, ?_⟩
    rcases hprogress.cases with hown | hold
    · obtain ⟨hkind, hdocument⟩ := hfirst.launched_own hfirstSaved hstored hbelongs hown
      exact .inl ⟨hown, hkind, hdocument.trans hschedule.symm⟩
    · exact .inr hold

/-- A report that is sent every morning, added some day before. -/
def morningReport (nextRun : Option Timestamp) (c : Counters) : Workflow where
  id := "w-1"
  storeId := "store"
  name := "Report"
  trigger := ⟨.schedule, [], some ⟨.daily, some "09:00", none, none, none, nextRun⟩⟩
  stats := c.stats
  createdAt := some (.ofInstant ⟨63871372800000000⟩)

/-- The report is saved while it is sent, to be sent on demand only; then the
next morning is set for it. -/
theorem Beats.rescheduled_onDemand :
    let morning : Instant := ⟨63871491600000000⟩
    let now : Instant := ⟨63871491660000000⟩
    let tomorrow : Instant := ⟨63871578000000000⟩
    let copy := morningReport (some (.ofInstant morning)) {}
    let onDemand : Workflow := { copy with trigger := ⟨.manual, [], none⟩ }
    ∃ e₁ e₂ r, e₁.executionsOf .schedule = [] ∧ Beats e₁ [.launched copy morning now,
        .saved onDemand now, .looked "w-1" now, .advanced "w-1" (some tomorrow), .ended "w-1" now] e₂
      ∧ Table.nextRunOf .utc now onDemand = .ok none
      ∧ e₂.world.table.find? "w-1" = some r ∧ r.definition.triggerName = "manual"
      ∧ r.definition.nextRun = some tomorrow := by
  intro morning now tomorrow copy onDemand
  let document : Json := .obj [("type", .str "daily"), ("time", .str "09:00"), ("dayOfWeek", .null),
    ("dayOfMonth", .null), ("cronExpression", .null)]
  let row (trigger : String) (schedule : Json) (nextRun : Option Instant) (c : Counters) : Row :=
    ⟨"w-1", ⟨63871372800000000⟩, ⟨"store", none, "Report", none, [], 1, true, false, trigger, [],
      schedule, nextRun, .arr [], none⟩, c⟩
  let once : Counters := ⟨1, 1, 0, some now, none⟩
  let e₁ : Engine :=
    { world := { clock := now, table := ⟨[row "schedule" document (some morning) {}]⟩ } }
  let result : Except Failure ExecutionResult := .ok ⟨"w-1", none, []⟩
  let f (stage : Stage (Except Failure ExecutionResult)) : Execution := ⟨⟨.schedule, "w-1"⟩, 0, stage⟩
  let looking := f (.answered .done fun _ => Executor.settling .utc copy result)
  let asking := f (.asking (.setNextRun "w-1" (some tomorrow)) fun _ => .done result)
  let world (r : Row) : World := { e₁.world with table := ⟨[r]⟩ }
  have hnext : copy.nextRunAfter .utc now = .ok (some tomorrow) := by
    unfold Workflow.nextRunAfter Schedule.nextAfter Schedule.nextClockRun
    rfl
  have hlaunch : Beats e₁ [.launched copy morning now]
      (e₁.moved [looking] (world (row "schedule" document (some morning) once))) :=
    @launch_beats e₁ (row "schedule" document (some morning) {}) copy morning _ 0
      { storeId := "store" } rfl rfl rfl rfl rfl rfl rfl rfl
  have hsave : Beat (e₁.moved [looking] (world (row "schedule" document (some morning) once)))
      [.saved onDemand now] (e₁.moved [looking] (world (row "manual" .null none once))) :=
    @Beat.save _ _ onDemand { onDemand with stats := once.stats } rfl
  have hresume : looking.resume World.environment (world (row "manual" .null none once))
      = some (asking, world (row "manual" .null none once)) := by
    show some (f ((Executor.settling .utc copy result).stage now false), _) = _
    rw [Executor.stage_settling_ok false hnext]
    rfl
  have hlook : Beat (e₁.moved [looking] (world (row "manual" .null none once)))
      [.looked "w-1" now] (e₁.moved [asking] (world (row "manual" .null none once))) :=
    @Beat.resume (e₁.moved [looking] (world (row "manual" .null none once))) [] [] looking asking
      _ rfl rfl hresume
  have hadvance : Beat (e₁.moved [asking] (world (row "manual" .null none once)))
      [.advanced "w-1" (some tomorrow)] (e₁.moved [f (.answered .done fun _ => .done result)]
        (world (row "manual" .null (some tomorrow) once))) :=
    @Beat.advance (e₁.moved [asking] (world (row "manual" .null none once))) [] [] asking "w-1"
      (some tomorrow) (fun _ => .done result) _ rfl rfl rfl rfl
  have hend : Beat (e₁.moved [f (.answered .done fun _ => .done result)]
      (world (row "manual" .null (some tomorrow) once))) [.ended "w-1" now]
      (e₁.moved [f (.finished result)] (world (row "manual" .null (some tomorrow) once))) :=
    @Beat.resume (e₁.moved [f (.answered .done fun _ => .done result)]
      (world (row "manual" .null (some tomorrow) once))) [] []
      (f (.answered .done fun _ => .done result)) (f (.finished result)) _ rfl rfl rfl
  have hrun := hlaunch.trans (.cons hsave (.cons hlook (.cons hadvance (.cons hend .nil))))
  have hlast : ∀ event ∈ [ScheduleEvent.looked "w-1" now, .advanced "w-1" (some tomorrow),
      .ended "w-1" now], event.isSaved = false := by
    simp [ScheduleEvent.isSaved]
  obtain ⟨r, hfind, htrigger, -, -, hset⟩ := @Beats.rescheduled _ _ _ rfl hrun "w-1"
    [.launched copy morning now] _ onDemand now rfl hlast
  obtain ⟨hnextRun, -⟩ := @hset [.looked "w-1" now] [.ended "w-1" now] (some tomorrow) rfl
    (by simp)
  exact ⟨e₁, _, r, rfl, hrun, rfl, hfind, htrigger, hnextRun⟩

end Engine

end Automation
