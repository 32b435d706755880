/-
# A stored next run leads to one launch

A scheduled execution that has ended has set a next run that lies ahead of it,
so the workflow is not due any more, and the next run that launches it again
is a later one. There is one exception. If there is no telling the next run,
as for a cron expression whose years are past, the execution ends without
setting any: the next run that launched it stays, and launches the workflow
again at once (`Engine.Beats.launched_once`).

Key definitions: `World.isDue`, `Engine.View.Passed`, `Engine.View.Settled`.
Key theorems: `Executor.isDue_executeScheduled`, `Engine.Turn.passed`,
`Engine.Turns.launched_gt`, `Engine.Turns.settled_of_advanced`,
`Engine.Beats.launched_once`.
-/
import Automation.Proofs.Engine.Turns
import Automation.Proofs.Table.Saving

namespace Automation

/-- Whether a workflow is due. -/
def World.isDue (world : World) (id : String) : Bool :=
  (world.table.find? id).any (Table.isDue world.clock)

/-! ### An execution by itself -/

namespace Table

/-- What is set to run later, or never, is not due. -/
theorem not_isDue_setNextRun (t : Table) {now : Instant} {id : String} {nextRun : Option Instant}
    (hahead : ∀ next ∈ nextRun, now.micros < next.micros) :
    ((t.setNextRun id nextRun).find? id).any (isDue now) = false := by
  rw [find?_setNextRun]
  cases hfind : t.find? id with
  | none => rfl
  | some r =>
    rw [Option.map_some, id_of_find? hfind, beq_self_eq_true, if_pos rfl, Option.any_some]
    refine Bool.eq_false_iff.2 fun hdue => ?_
    obtain ⟨-, -, next, hnext, hcome⟩ := of_isDue hdue
    have hlater := hahead next hnext
    omega

end Table

namespace Executor

/-- Setting the next run leaves a workflow due only if it was due and there is no
telling its next run. -/
theorem isDue_settling {zone : Zone} {w : Workflow} (result : Except Failure ExecutionResult)
    (token : Token) {ran settled : World}
    (hrun : ((settling zone w result).run World.environment token ran).2 = settled)
    (hwrites : ran.outage? .setNextRun = none) : settled.clock = ran.clock
      ∧ (settled.isDue w.id = true
        ↔ ran.isDue w.id = true ∧ ∃ error, w.nextRunAfter zone ran.clock = .error error) := by
  cases hnext : w.nextRunAfter zone ran.clock with
  | error error =>
    have hsame : ran = settled := by
      rw [← hrun, run_settling_error World.environment token ran hnext]
    rw [← hsame]
    exact ⟨rfl, fun hdue => ⟨hdue, error, rfl⟩, fun h => h.1⟩
  | ok nextRun =>
    have hset : settled = { ran with table := ran.table.setNextRun w.id nextRun } := by
      rw [← hrun, run_settling_ok World.environment token ran hnext]
      show (World.serve token (.setNextRun w.id nextRun) ran).2 = _
      rw [World.serve, World.through, hwrites]
    have hahead := Workflow.nextRunAfter_ahead hnext (Int.le_refl ran.clock.micros)
    have hidle : settled.isDue w.id = false := by
      rw [World.isDue, hset]
      exact ran.table.not_isDue_setNextRun hahead
    rw [hidle]
    refine ⟨by rw [hset], fun h => absurd h Bool.false_ne_true, fun h => ?_⟩
    obtain ⟨-, error, herror⟩ := h
    cases herror

/-- **An execution that has run through leaves its workflow due** only if it
was due and there is no telling its next run. -/
theorem isDue_executeScheduled (x : Executor) (zone : Zone) (w : Workflow) (ctx : Context)
    (token : Token) (world : World) :
    let ran := ((x.execute w (.obj []) ctx).run World.environment token world).2
    let settled := ((x.executeScheduled zone w ctx).run World.environment token world).2
    ran.outage? .setNextRun = none →
      settled.clock = ran.clock
        ∧ (settled.isDue w.id = true
          ↔ ran.isDue w.id = true ∧ ∃ error, w.nextRunAfter zone ran.clock = .error error) := by
  intro ran settled hwrites
  let result := ((x.execute w (.obj []) ctx).run World.environment token world).1
  have hrun : ((settling zone w result).run World.environment token ran).2 = settled := by
    show _ = ((x.executeScheduled zone w ctx).run World.environment token world).2
    rw [executeScheduled_eq, Process.run_bind]
  exact isDue_settling result token hrun hwrites

end Executor

/-! ### Executions among others -/

/-- A definition that runs, if it does, later than `due`. -/
def Definition.RunsAfter (due : Instant) (d : Definition) : Prop :=
  d.isExecutable = true → ∀ next ∈ d.nextRun, due.micros < next.micros

section writes

variable {zone : Zone} {now due : Instant} {w : Workflow} {nextRun : Option Instant}

/-- The next run that is saved with a definition lies after all that is past. -/
theorem Definition.runsAfter_of_saved {d : Definition} (hnext : Table.nextRunOf zone now w = .ok nextRun)
    (hd : Definition.ofWorkflow w nextRun = .ok d) (hdue : due.micros ≤ now.micros) :
    d.RunsAfter due := by
  intro hexecutable next hmem
  obtain ⟨conditions, actions, -, -, rfl⟩ := Definition.ofWorkflow_eq_ok hd
  exact Int.lt_of_le_of_lt hdue (Table.nextRunOf_gt hnext hexecutable next hmem)

theorem Definition.runsAfter_of_mem_map {definition : Option Definition}
    (hahead : ∀ next ∈ nextRun, due.micros < next.micros) :
    ∀ d ∈ definition.map fun d => { d with nextRun }, d.RunsAfter due := by
  intro d hd _ next hnext
  obtain ⟨old, -, rfl⟩ := Option.map_eq_some_iff.1 hd
  exact hahead next hnext

theorem Definition.runsAfter_deleted (due : Instant) (d : Definition) :
    Definition.RunsAfter due { d with isDeleted := true, isActive := false } :=
  fun hexecutable => absurd hexecutable Bool.false_ne_true

end writes

/-- Where the scheduled execution of a workflow stands once there was a launch
because of `due`: it is to set a later next run, or a later one is stored. -/
def Flight.Passed (due : Instant) (definition : Option Definition) : Flight → Prop
  | .idle | .landed => ∀ d ∈ definition, d.RunsAfter due
  | .running _ _ => True
  | .looked _ _ nextRun => ∀ next ∈ nextRun, due.micros < next.micros

/-- Another definition may be stored that runs later. -/
theorem Flight.Passed.write {due : Instant} {definition : Option Definition} {d : Definition}
    (hd : d.RunsAfter due) : ∀ {flight : Flight}, flight.Passed due definition →
      flight.Passed due (some d)
  | .idle, _ => by
    rintro _ ⟨⟩
    exact hd
  | .landed, _ => by
    rintro _ ⟨⟩
    exact hd
  | .running _ _, _ => trivial
  | .looked _ _ _, h => h

namespace Engine

/-- A workflow that was launched because of `due`, and is not to be launched
because of that again. -/
structure View.Passed (due : Instant) (v : View) : Prop where
  clock : due.micros ≤ v.clock.micros
  flight : v.flight.Passed due v.definition

variable {zone : Zone} {id : String} {v v' : View} {due : Instant}

/-- What has passed stays so, unless there is no telling the next run. -/
theorem Turn.passed {events : List ScheduleEvent} (h : Turn zone id v events v')
    (hpassed : v.Passed due) : v'.Passed due
      ∨ ∃ w since error, v.flight = .running w since ∧ events = [.ended id v.clock]
        ∧ w.nextRunAfter zone v.clock = .error error := by
  obtain ⟨hclock, hflight⟩ := hpassed
  cases h with
  | pass hsame hdefinition htime =>
    refine .inl ⟨Int.le_trans hclock htime, ?_⟩
    rw [hsame, hdefinition]
    exact hflight
  | launch => exact .inl ⟨hclock, trivial⟩
  | look _ hnext => exact .inl ⟨hclock, Workflow.nextRunAfter_ahead hnext hclock⟩
  | advance hlooked =>
    rw [hlooked] at hflight
    exact .inl ⟨hclock, Definition.runsAfter_of_mem_map hflight⟩
  | fail hrunning herror => exact .inr ⟨_, _, _, hrunning, rfl, herror⟩
  | land hlanded =>
    rw [hlanded] at hflight
    exact .inl ⟨hclock, hflight⟩
  | save _ hnext hd =>
    exact .inl ⟨hclock, hflight.write (Definition.runsAfter_of_saved hnext hd hclock)⟩
  | @delete d _ => exact .inl ⟨hclock, hflight.write (Definition.runsAfter_deleted due d)⟩

/-- A launch leaves the next run that it was because of behind. -/
theorem Turn.passed_of_launched {w : Workflow} {t : Instant} {events : List ScheduleEvent}
    (h : Turn zone id v events v') (hevent : .launched w due t ∈ events) :
    v'.Passed due ∧ v'.flight = .running w t := by
  cases h with
  | launch _ _ _ _ hdue hnext =>
    cases List.mem_singleton.1 hevent
    obtain ⟨-, -, next, hsame, hcome⟩ := Table.of_isDue hdue
    cases hnext.symm.trans hsame
    exact ⟨⟨hcome, trivial⟩, rfl⟩
  | pass | delete => cases hevent
  | look | advance | fail | land | save => cases List.mem_singleton.1 hevent

/-- What has passed is launched because of a later next run only. -/
theorem Turn.launched_gt {w : Workflow} {later t : Instant} {events : List ScheduleEvent}
    (h : Turn zone id v events v') (hpassed : v.Passed due)
    (hevent : .launched w later t ∈ events) : due.micros < later.micros := by
  cases h with
  | @launch r _ _ hidle _ hstored _ hdue hnext =>
    cases List.mem_singleton.1 hevent
    obtain ⟨hexecutable, -⟩ := Table.of_isDue hdue
    have hflight := hpassed.flight
    rw [hidle] at hflight
    exact hflight r.definition hstored hexecutable later hnext
  | pass | delete => cases hevent
  | look | advance | fail | land | save => cases List.mem_singleton.1 hevent

/-- An execution is launched by an event, and no turn without an event moves it. -/
theorem Turn.flight_cases {events : List ScheduleEvent} (h : Turn zone id v events v') :
    (events.filter (!·.isSaved) = [] ∧ v'.flight = v.flight)
      ∨ ∃ event, events.filter (!·.isSaved) = [event]
        ∧ ∀ w since, v'.flight = .running w since → ∃ x, event = .launched w x since := by
  cases h with
  | pass hsame => exact .inl ⟨rfl, hsame⟩
  | save | delete => exact .inl ⟨rfl, rfl⟩
  | @launch _ _ x =>
    refine .inr ⟨_, rfl, ?_⟩
    rintro _ _ ⟨⟩
    exact ⟨x, rfl⟩
  | look | advance | fail | land => exact .inr ⟨_, rfl, fun _ _ hrunning => nomatch hrunning⟩

/-! ### Settled for good -/

/-- A workflow whose execution has looked at the clock at `s`, and is to set a
next run after that. -/
structure View.Settling (s : Instant) (v : View) : Prop where
  clock : s.micros ≤ v.clock.micros
  flight : ∃ w now nextRun, v.flight = .looked w now nextRun
    ∧ ∀ next ∈ nextRun, s.micros < next.micros

/-- A workflow that runs after `s`, and not because of a time before that. -/
structure View.Settled (s : Instant) (v : View) : Prop where
  clock : s.micros ≤ v.clock.micros
  definition : ∀ d ∈ v.definition, d.RunsAfter s
  flight : ∀ {w now nextRun}, v.flight = .looked w now nextRun →
    ∀ next ∈ nextRun, s.micros < next.micros

variable {s : Instant}

/-- Once settled, a workflow stays so: whatever is written lies ahead. -/
theorem Turn.settled {events : List ScheduleEvent} (h : Turn zone id v events v')
    (hsettled : v.Settled s) : v'.Settled s := by
  obtain ⟨hclock, hdefinition, hflight⟩ := hsettled
  cases h with
  | pass hsame hdefinitions htime =>
    refine ⟨Int.le_trans hclock htime, hdefinitions ▸ hdefinition, fun hlooked => ?_⟩
    exact hflight (hsame.symm.trans hlooked)
  | launch => exact ⟨hclock, hdefinition, fun hlooked => nomatch hlooked⟩
  | look _ hnext =>
    refine ⟨hclock, hdefinition, fun hlooked => ?_⟩
    cases hlooked
    exact Workflow.nextRunAfter_ahead hnext hclock
  | advance hlooked =>
    have hahead := hflight hlooked
    exact ⟨hclock, Definition.runsAfter_of_mem_map hahead, fun hlanded => nomatch hlanded⟩
  | fail | land => exact ⟨hclock, hdefinition, fun hidle => nomatch hidle⟩
  | save _ hnext hd =>
    refine ⟨hclock, ?_, hflight⟩
    rintro _ ⟨⟩
    exact Definition.runsAfter_of_saved hnext hd hclock
  | delete =>
    refine ⟨hclock, ?_, hflight⟩
    rintro _ ⟨⟩
    exact Definition.runsAfter_deleted s _

theorem Turns.settled {events : List ScheduleEvent} (h : Turns zone id v events v')
    (hsettled : v.Settled s) : v'.Settled s := by
  induction h with
  | nil => exact hsettled
  | cons hturn _ ih => exact ih (hturn.settled hsettled)

/-- A workflow that is to be settled is so once the next run is set. -/
theorem Turn.settling {events : List ScheduleEvent} (h : Turn zone id v events v')
    (hsettling : v.Settling s) :
    v'.Settling s ∧ (∀ n, .advanced id n ∉ events) ∨ v'.Settled s := by
  obtain ⟨hclock, w, now, nextRun, hlooked, hahead⟩ := hsettling
  cases h with
  | pass hsame _ htime =>
    exact .inl ⟨⟨Int.le_trans hclock htime, w, now, nextRun, hsame.trans hlooked, hahead⟩, by simp⟩
  | advance hset =>
    cases hset.symm.trans hlooked
    exact .inr ⟨hclock, Definition.runsAfter_of_mem_map hahead, fun hlanded => nomatch hlanded⟩
  | save => exact .inl ⟨⟨hclock, w, now, nextRun, hlooked, hahead⟩, by simp⟩
  | delete => exact .inl ⟨⟨hclock, w, now, nextRun, hlooked, hahead⟩, by simp⟩
  | launch hidle => cases hidle.symm.trans hlooked
  | look hrunning => cases hrunning.symm.trans hlooked
  | fail hrunning => cases hrunning.symm.trans hlooked
  | land hlanded => cases hlanded.symm.trans hlooked

theorem Turns.settled_of_advanced {events : List ScheduleEvent} (h : Turns zone id v events v')
    {n : Option Instant} : v.Settling s → .advanced id n ∈ events → v'.Settled s := by
  induction h with
  | nil => exact fun _ hmem => (List.not_mem_nil hmem).elim
  | cons hturn hturns ih =>
    intro hsettling hmem
    rcases hturn.settling hsettling with ⟨hstill, hnone⟩ | hsettled
    · rcases List.mem_append.1 hmem with hmem | hmem
      · exact absurd hmem (hnone n)
      · exact ih hstill hmem
    · exact hturns.settled hsettled

theorem Turn.settling_of_looked (h : Turn zone id v [.looked id s] v') : v'.Settling s := by
  cases h with
  | look _ hnext =>
    have hahead := Workflow.nextRunAfter_ahead hnext (Int.le_refl v.clock.micros)
    exact ⟨Int.le_refl _, _, _, _, rfl, hahead⟩

/-- What runs after `s` is not due at `s`. -/
theorem View.Settled.not_isDue {e : Engine} (hshows : e.Shows id v) (h : v.Settled s) :
    (e.world.table.find? id).any (Table.isDue s) = false := by
  cases hfind : e.world.table.find? id with
  | none => rfl
  | some r =>
    rw [Option.any_some]
    refine Bool.eq_false_iff.2 fun hdue => ?_
    obtain ⟨hexecutable, -, next, hnext, hcome⟩ := Table.of_isDue hdue
    have hd : r.definition ∈ v.definition := by
      rw [hshows.definition, Table.definition?, hfind]
      rfl
    have hlater := h.definition r.definition hd hexecutable next hnext
    omega

/-! ### Runs -/

/-- Somewhere among events an execution ended because there was no telling the
next run of the copy that it was launched from. -/
def FailsIn (zone : Zone) (id : String) (events : List ScheduleEvent) : Prop :=
  ∃ w due since now error, [.launched w due since, .ended id now] <:+: events
    ∧ w.nextRunAfter zone now = .error error

/-- **What has passed is launched because of later next runs only**, as long as
no execution fails to tell the next run; `seen` is what was seen so far. -/
theorem Turns.launched_gt {events : List ScheduleEvent} (h : Turns zone id v events v') :
    ∀ {seen : List ScheduleEvent}, v.Passed due →
      (∀ w since, v.flight = .running w since → ∃ first x, seen = first ++ [.launched w x since]) →
      ∀ {between after : List ScheduleEvent} {w : Workflow} {later t : Instant},
        events.filter (!·.isSaved) = between ++ .launched w later t :: after →
        due.micros < later.micros ∨ FailsIn zone id (seen ++ between) := by
  induction h with
  | nil =>
    intro seen _ _ between after w later t hevents
    cases (List.append_eq_nil_iff.1 hevents.symm).2
  | @cons v u v' events more hturn _ ih =>
    intro seen hpassed hseen between after w later t hevents
    rw [List.filter_append] at hevents
    rcases hturn.passed hpassed with hstill | ⟨copy, since, error, hrunning, rfl, herror⟩
    · rcases hturn.flight_cases with ⟨hnone, hflight⟩ | ⟨event, hone, hlaunched⟩
      · rw [hnone, List.nil_append] at hevents
        exact ih hstill (hflight ▸ hseen) hevents
      · rw [hone, List.singleton_append] at hevents
        rcases List.cons_eq_append_iff.1 hevents with ⟨rfl, hfirst⟩ | ⟨rest, rfl, hrest⟩
        · cases hfirst
          have hmem : .launched w later t ∈ events :=
            List.mem_of_mem_filter (hone ▸ List.mem_singleton_self _)
          exact .inl (hturn.launched_gt hpassed hmem)
        · have hseen' : ∀ copy since, u.flight = .running copy since →
              ∃ first x, seen ++ [event] = first ++ [.launched copy x since] := by
            intro copy since hrunning
            obtain ⟨x, rfl⟩ := hlaunched copy since hrunning
            exact ⟨seen, x, rfl⟩
          rcases ih hstill hseen' hrest with hlater | hfails
          · exact .inl hlater
          · rw [List.append_assoc] at hfails
            exact .inr hfails
    · obtain ⟨first, x, rfl⟩ := hseen copy since hrunning
      rcases List.cons_eq_append_iff.1 hevents with ⟨-, hfirst⟩ | ⟨rest, rfl, -⟩
      · cases hfirst
      · refine .inr ⟨copy, x, since, v.clock, error, ⟨first, rest, ?_⟩, herror⟩
        rw [List.append_assoc, List.append_assoc]
        rfl

/-- **A stored next run leads to one launch.** Once a scheduled execution has
run through, its workflow is not due. Whatever goes on meanwhile, one that
settles at `s` by setting a next run leaves its workflow not due at `s` for
good, and a later execution is launched because of a later next run. It is
otherwise only where there is no telling the next run: then what was due is due
still. -/
theorem Beats.launched_once {e₀ e : Engine} {events : List ScheduleEvent}
    (h₀ : e₀.executionsOf .schedule = []) (h : Beats e₀ events e) :
    (∀ (w : Workflow) (ctx : Context) (token : Token),
      let ran := ((e₀.executor.execute w (.obj []) ctx).run World.environment token e₀.world).2
      let settled :=
        ((e₀.executor.executeScheduled e₀.zone w ctx).run World.environment token e₀.world).2
      ran.outage? .setNextRun = none → settled.clock = ran.clock
        ∧ (settled.isDue w.id = true
          ↔ ran.isDue w.id = true ∧ ∃ error, w.nextRunAfter e₀.zone ran.clock = .error error))
    ∧ (∀ {id : String} {before after : List ScheduleEvent} {s : Instant} {n : Option Instant},
      events.filter (·.workflowId == id) = before ++ .looked id s :: after →
      .advanced id n ∈ after → (e.world.table.find? id).any (Table.isDue s) = false)
    ∧ ∀ {id : String} {before between after : List ScheduleEvent} {w w' : Workflow}
      {due later t t' : Instant},
      events.filter (fun event => event.workflowId == id && !event.isSaved)
        = before ++ .launched w due t :: (between ++ .launched w' later t' :: after) →
      due.micros < later.micros ∨ FailsIn e₀.zone id (.launched w due t :: between) := by
  obtain ⟨V, hshows, hturns⟩ := h.turns (shows_of_idle h₀)
  refine ⟨fun w ctx token hwrites => ?_, ?_, ?_⟩
  · exact e₀.executor.isDue_executeScheduled e₀.zone w ctx token e₀.world hwrites
  · intro id before after s n hevents hadvanced
    obtain ⟨m, m', -, hlook, hafter⟩ := (hturns id).split hevents
    exact (hafter.settled_of_advanced hlook.settling_of_looked hadvanced).not_isDue (hshows id)
  · intro id before between after w w' due later t t' hevents
    have hown : (events.filter (·.workflowId == id)).filter (!·.isSaved)
        = before ++ .launched w due t :: (between ++ .launched w' later t' :: after) := by
      rw [List.filter_filter, ← hevents]
      exact List.filter_congr fun event _ => Bool.and_comm ..
    obtain ⟨first, rest, hsplit, -, hrest⟩ := List.filter_eq_append_iff.1 hown
    obtain ⟨saves, others, rfl, -, -, hothers⟩ := List.filter_eq_cons_iff.1 hrest
    rw [← List.append_assoc] at hsplit
    obtain ⟨m, m', -, hlaunch, hturns⟩ := (hturns id).split hsplit
    obtain ⟨hpassed, hrunning⟩ := hlaunch.passed_of_launched (List.mem_singleton_self _)
    have hseen : ∀ copy since, m'.flight = .running copy since →
        ∃ first x, [ScheduleEvent.launched w due t] = first ++ [.launched copy x since] := by
      intro copy since hcopy
      cases hrunning.symm.trans hcopy
      exact ⟨[], due, rfl⟩
    exact hturns.launched_gt hpassed hseen hothers

end Engine

/-! ### A schedule that is past -/

/-- The last morning of the year 2025. -/
def lastMorning : Cron where
  minute := ⟨false, [0]⟩
  hour := ⟨false, [9]⟩
  day := ⟨false, [31]⟩
  lastDay := false
  nearest := none
  month := ⟨false, [12]⟩
  weekday := ⟨true, []⟩
  placed := []
  second := ⟨false, [0]⟩
  year := ⟨false, [2025]⟩
  bySecond := true

set_option maxRecDepth 4000 in
theorem lastMorning_parse : Cron.parse? "0 9 31 12 * 0 2025" = some lastMorning := rfl

theorem lastMorning_nextAfter (nextRun : Option Timestamp) {now : Instant}
    (hrange : (Zone.utc.toLocal now).wall.inRange = true) :
    Schedule.nextAfter ⟨.cron, none, none, none, some "0 9 31 12 * 0 2025", nextRun⟩ .utc now
      = (lastMorning.next .utc now).map some := by
  have hparse : (some "0 9 31 12 * 0 2025").bind Cron.parse? = some lastMorning := by
    rw [Option.bind_some, lastMorning_parse]
  have hvalid : Cron.isValid (some "0 9 31 12 * 0 2025") = true := by decide
  exact Schedule.nextAfter_cron rfl hparse hvalid hrange

/-- A workflow of the last morning of 2025 that was added the night before. -/
def lastMorningWorkflow (nextRun : Option Timestamp) (c : Counters) : Workflow where
  id := "w-1"
  storeId := "store"
  name := "Close"
  trigger := ⟨.schedule, [], some ⟨.cron, none, none, none, some "0 9 31 12 * 0 2025", nextRun⟩⟩
  stats := c.stats
  createdAt := some (.ofInstant ⟨63902822400000000⟩)

/-- In the night the morning is still to come. -/
theorem lastMorningWorkflow_ahead :
    Table.nextRunOf .utc ⟨63902822400000000⟩ (lastMorningWorkflow none {})
      = .ok (some ⟨63902854800000000⟩) := by
  have hsearch : lastMorning.search .utc (Date.daysBeforeYear 2076) 63902822401 = .ok 63902854800 := by
    unfold Cron.search
    rfl
  have hnext : lastMorning.next .utc ⟨63902822400000000⟩ = .ok ⟨63902854800000000⟩ := by
    show lastMorning.firstAfter .utc _ (Date.daysBeforeYear 2076) 63902822401 = _
    unfold Cron.firstAfter
    split
    · rename_i error herror
      cases hsearch.symm.trans herror
    · rename_i found hfound
      cases hsearch.symm.trans hfound
      rfl
  have hafter := @lastMorning_nextAfter none ⟨63902822400000000⟩ rfl
  rw [hnext] at hafter
  rw [Table.nextRunOf]
  simp only [lastMorningWorkflow, hafter]
  rfl

/-- In the new year there is no telling another one. -/
theorem lastMorningWorkflow_past (nextRun : Option Timestamp) (c : Counters) :
    (lastMorningWorkflow nextRun c).nextRunAfter .utc ⟨63902908800000000⟩ = .error .noMatch := by
  have hlast : Date.daysBeforeYear 2077 ≤ Date.lastDay := by decide
  have hstart : Date.daysBeforeYear 2026 < 63902908801 / 86400 := by decide
  have hnext : lastMorning.next .utc ⟨63902908800000000⟩ = .error .noMatch := by
    refine Cron.firstAfter_eq_error hlast hstart fun later hlater => ?_
    have hne : later.toNat ≠ 2025 := by omega
    simp [Cron.Field.allows, lastMorning, hne]
  have hafter := @lastMorning_nextAfter nextRun ⟨63902908800000000⟩ rfl
  rw [hnext] at hafter
  exact hafter

namespace Engine

/-- A workflow of the last morning of the year is launched in the new year,
stays due, and is launched because of that morning once more. -/
theorem Beats.launched_once_pastYear :
    let midnight : Instant := ⟨63902822400000000⟩
    let morning : Instant := ⟨63902854800000000⟩
    let newYear : Instant := ⟨63902908800000000⟩
    let stored := lastMorningWorkflow (some (.ofInstant morning))
    let once : Counters := ⟨1, 1, 0, some newYear, none⟩
    let e₀ : Engine := { world := { clock := midnight } }
    ∃ e₁ e₂, e₀.executionsOf .schedule = [] ∧ Beats e₀ [.saved (lastMorningWorkflow none {}) midnight] e₁
      ∧ Beats e₁ [.launched (stored {}) morning newYear, .ended "w-1" newYear,
        .launched (stored once) morning newYear] e₂
      ∧ FailsIn .utc "w-1" [.launched (stored {}) morning newYear, .ended "w-1" newYear]
      ∧ World.isDue ((e₁.executor.executeScheduled .utc (stored {}) { storeId := "store" }).run
        World.environment 0 e₁.world).2 "w-1" = true := by
  intro midnight morning newYear stored once e₀
  let document : Json := .obj [("type", .str "cron"), ("time", .null), ("dayOfWeek", .null),
    ("dayOfMonth", .null), ("cronExpression", .str "0 9 31 12 * 0 2025")]
  let row (c : Counters) : Row := ⟨"w-1", midnight, ⟨"store", none, "Close", none, [], 1, true, false,
    "schedule", [], document, some morning, .arr [], none⟩, c⟩
  let e₁ : Engine := { world := { clock := newYear, table := ⟨[row {}]⟩ } }
  have hread : ∀ c, (row c).workflow = .ok (stored c) := fun c => rfl
  have hpast : ∀ c, (stored c).nextRunAfter .utc newYear = .error .noMatch :=
    fun c => lastMorningWorkflow_past _ c
  have hsave : e₀.save (lastMorningWorkflow none {})
      = (.ok (stored {}), { e₀ with world := { e₀.world with table := ⟨[row {}]⟩ } }) := by
    have htable : Table.save {} .utc midnight (lastMorningWorkflow none {})
        = .ok (stored {}, ⟨[row {}]⟩) := by
      rw [Table.save, lastMorningWorkflow_ahead]
      rfl
    show e₀.write (Table.save {} .utc midnight (lastMorningWorkflow none {})) = _
    rw [htable]
    rfl
  have hwait : Beat { e₀ with world := { e₀.world with table := ⟨[row {}]⟩ } } [] e₁ :=
    .other rfl (fun _ => rfl) rfl (by decide)
  -- the first execution fails to tell the next run
  let result : Except Failure ExecutionResult := .ok ⟨"w-1", none, []⟩
  let f (stage : Stage (Except Failure ExecutionResult)) : Execution := ⟨⟨.schedule, "w-1"⟩, 0, stage⟩
  let looking := f (.answered .done fun _ => Executor.settling .utc (stored {}) result)
  let world : World := { e₁.world with table := ⟨[row once]⟩ }
  have hlaunch : Beats e₁ [.launched (stored {}) morning newYear] (e₁.moved [looking] world) :=
    @launch_beats e₁ (row {}) (stored {}) morning _ 0 { storeId := "store" } rfl rfl rfl (hread {})
      rfl rfl rfl rfl
  have hresume : looking.resume World.environment world = some (f (.finished result), world) := by
    rw [← Executor.stage_settling_error false (hpast {})]
    rfl
  have hend : Beat (e₁.moved [looking] world) [.ended "w-1" newYear]
      (e₁.moved [f (.finished result)] world) :=
    @Beat.resume (e₁.moved [looking] world) [] [] looking (f (.finished result)) world rfl rfl hresume
  have hforget : Beat (e₁.moved [f (.finished result)] world) [] (e₁.moved [] world) :=
    @Beat.forget (e₁.moved [f (.finished result)] world) [] [] (f (.finished result)) rfl ⟨result, rfl⟩
  have hagain : Beats (e₁.moved [] world) [.launched (stored once) morning newYear] _ :=
    @launch_beats (e₁.moved [] world) (row once) (stored once) morning _ 0 { storeId := "store" }
      rfl rfl rfl (hread once) rfl rfl rfl rfl
  have hrun : Beats e₁ [.launched (stored {}) morning newYear, .ended "w-1" newYear,
      .launched (stored once) morning newYear] _ :=
    hlaunch.trans (.cons hend (.cons hforget hagain))
  obtain ⟨hsettled, -, hlater⟩ := Beats.launched_once rfl hrun
  have hexecute := e₁.executor.execute_of_actions_nil (.obj []) { storeId := "store" }
    (rfl : (stored {}).actions = []) rfl rfl
  have hwrites : (((e₁.executor.execute (stored {}) (.obj []) { storeId := "store" }).run
      World.environment 0 e₁.world).2).outage? .setNextRun = none := by
    rw [hexecute]
    rfl
  have hdue := (hsettled (stored {}) { storeId := "store" } 0 hwrites).2
  rw [hexecute] at hdue
  have hstill := hdue.2 ⟨rfl, .noMatch, hpast {}⟩
  have hfails : FailsIn .utc "w-1" [.launched (stored {}) morning newYear, .ended "w-1" newYear] := by
    rcases @hlater "w-1" [] [.ended "w-1" newYear] [] (stored {}) (stored once) morning morning
      newYear newYear rfl with hless | hfails
    · cases Int.lt_irrefl _ hless
    · exact hfails
  exact ⟨e₁, _, rfl, .cons (.save hsave) (.cons hwait .nil), hrun, hfails, hstill⟩

end Engine

end Automation
