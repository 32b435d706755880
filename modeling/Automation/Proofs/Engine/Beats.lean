/-
# What can happen while a scheduler runs

The scheduler launches what is due; each launched execution runs beside
everything else, and sets the next run in the end. `Engine.Beat` tells what
can happen next, as far as it matters to scheduled executions: one is launched
from the copy that the table gives, moves on, is answered, sets the next run
and is forgotten; a definition is saved or deleted; or something happens that
leaves definitions and scheduled executions alone. The clock never goes back,
and the writes succeed. A tick is a number of such beats (`Engine.tick_beats`).

Key definitions: `ScheduleEvent`, `Table.definition?`, `Engine.Beat`,
`Engine.Beats`.
Key theorems: `Table.of_isDue`, `Engine.tick_beats`.
-/
import Automation.Proofs.Engine.Operations
import Automation.Proofs.Run.Scheduled
import Mathlib.Data.List.Forall2

namespace Automation

/-- What is seen of a scheduler and of what it runs. -/
inductive ScheduleEvent where
  /-- An execution is launched from a copy of its workflow, because of a stored
  next run, at a time. -/
  | launched (w : Workflow) (due now : Instant)
  /-- An execution looks at the clock, and is to set the next run. -/
  | looked (workflowId : String) (now : Instant)
  | advanced (workflowId : String) (nextRun : Option Instant)
  | ended (workflowId : String) (now : Instant)
  | saved (w : Workflow) (now : Instant)

namespace ScheduleEvent

def workflowId : ScheduleEvent → String
  | launched w _ _ => w.id
  | looked id _ => id
  | advanced id _ => id
  | ended id _ => id
  | saved w _ => w.id

def isSaved : ScheduleEvent → Bool
  | saved .. => true
  | _ => false

end ScheduleEvent

/-- What is seen when a scheduled execution has moved on. -/
def Execution.progress (f : Execution) (now : Instant) : List ScheduleEvent :=
  match f.stage with
  | .asking (.setNextRun ..) _ => [.looked f.label.workflowId now]
  | .finished _ => [.ended f.label.workflowId now]
  | _ => []

namespace Table

/-- The definition that is stored for a workflow. -/
def definition? (t : Table) (id : String) : Option Definition := (t.find? id).map (·.definition)

/-- What is due is executable, has a schedule, and its next run has come. -/
theorem of_isDue {now : Instant} {r : Row} (h : isDue now r = true) :
    r.definition.isExecutable = true ∧ r.definition.triggerName = TriggerKind.schedule.name
      ∧ ∃ due, r.definition.nextRun = some due ∧ due.micros ≤ now.micros := by
  rw [isDue, Bool.and_eq_true, Bool.and_eq_true, beq_iff_eq] at h
  obtain ⟨⟨hexecutable, htrigger⟩, hcome⟩ := h
  cases hnext : r.definition.nextRun with
  | none =>
    rw [hnext] at hcome
    cases hcome
  | some due =>
    rw [hnext] at hcome
    exact ⟨hexecutable, htrigger, due, rfl, of_decide_eq_true hcome⟩

end Table

namespace Engine

/-- What happens next, and what is seen of it. -/
inductive Beat : Engine → List ScheduleEvent → Engine → Prop where
  /-- What is due is launched, unless an execution of it is in progress. -/
  | launch {e : Engine} {r : Row} {w : Workflow} {due : Instant} (token : Token) (ctx : Context) :
      e.world.table.find? w.id = some r → r.workflow = .ok w →
      Table.isDue e.world.clock r = true → r.definition.nextRun = some due →
      e.isInFlight w.id = false →
      Beat e [.launched w due e.world.clock]
        (e.launch ⟨.schedule, w.id⟩ token (e.executor.executeScheduled e.zone w ctx))
  /-- A scheduled execution moves on. -/
  | resume {e : Engine} {before after : List Execution} {f g : Execution} {world : World} :
      e.executions = before ++ f :: after → f.label.owner = .schedule →
      f.resume World.environment e.world = some (g, world) →
      Beat e (g.progress e.world.clock) (e.moved (before ++ g :: after) world)
  /-- It is answered, or is not, whatever it asks for but the next run. -/
  | act {e : Engine} {before after : List Execution} {f : Execution} {request : Request}
      {next : Reply → Process.OfExecution} {reply : Option Reply} {world : World} :
      e.executions = before ++ f :: after → f.label.owner = .schedule →
      f.stage = .asking request next → request.isAdvance = false →
      (∀ id, world.table.definition? id = e.world.table.definition? id) →
      e.world.clock.micros ≤ world.clock.micros →
      Beat e [] (e.moved (before ++ { f with stage := .afterRequest next reply } :: after) world)
  /-- The next run is written. -/
  | advance {e : Engine} {before after : List Execution} {f : Execution} {id : String}
      {nextRun : Option Instant} {next : Reply → Process.OfExecution} {world : World} :
      e.executions = before ++ f :: after → f.label.owner = .schedule →
      f.stage = .asking (.setNextRun id nextRun) next →
      World.serve f.token (.setNextRun id nextRun) e.world = (some .done, world) →
      Beat e [.advanced f.label.workflowId nextRun]
        (e.moved (before ++ { f with stage := .answered .done next } :: after) world)
  /-- An execution with a result is forgotten. -/
  | forget {e : Engine} {before after : List Execution} {f : Execution} :
      e.executions = before ++ f :: after → f.stage.IsFinished →
      Beat e [] (e.moved (before ++ after) e.world)
  | save {e e' : Engine} {w saved : Workflow} : e.save w = (.ok saved, e') →
      Beat e [.saved w e.world.clock] e'
  | softDelete {e e' : Engine} {id : String} : e.softDelete id = (.ok (), e') → Beat e [] e'
  /-- Whatever leaves definitions and scheduled executions as they are. -/
  | other {e e' : Engine} : e'.executionsOf .schedule = e.executionsOf .schedule →
      (∀ id, e'.world.table.definition? id = e.world.table.definition? id) → e'.zone = e.zone →
      e.world.clock.micros ≤ e'.world.clock.micros → Beat e [] e'

/-- Any number of beats, in any order. -/
inductive Beats : Engine → List ScheduleEvent → Engine → Prop where
  | nil {e : Engine} : Beats e [] e
  | cons {e e' e'' : Engine} {events more : List ScheduleEvent} :
      Beat e events e' → Beats e' more e'' → Beats e (events ++ more) e''

theorem Beats.trans {e e' e'' : Engine} {events more : List ScheduleEvent} (h : Beats e events e')
    (h' : Beats e' more e'') : Beats e (events ++ more) e'' := by
  induction h with
  | nil => exact h'
  | cons hbeat _ ih =>
    rw [List.append_assoc]
    exact .cons hbeat (ih h')

/-! ### A tick -/

/-- The workflows of rows come from the rows, one from each. -/
theorem forall₂_of_workflows : ∀ {rows : List Row} {ws : List Workflow},
    Table.workflows rows = .ok ws → List.Forall₂ (fun r w => r.workflow = .ok w) rows ws
  | [], _, h => by
    cases h
    exact .nil
  | r :: rows, ws, h => by
    rw [Table.workflows, List.mapM_cons] at h
    obtain ⟨v, hv, h⟩ := Except.of_bind_eq_ok h
    obtain ⟨vs, hvs, h⟩ := Except.of_bind_eq_ok h
    cases h
    exact .cons hv (forall₂_of_workflows hvs)

theorem map_id_of_forall₂ {rows : List Row} {ws : List Workflow}
    (h : List.Forall₂ (fun r w => r.workflow = .ok w) rows ws) :
    ws.map (·.id) = rows.map (·.id) := by
  induction h with
  | nil => rfl
  | cons hw _ ih => rw [List.map_cons, List.map_cons, ih, Row.id_of_workflow hw]

/-- Whatever is paired is paired with something. -/
theorem exists_of_forall₂ {α β : Type} {R : α → β → Prop} {as : List α} {bs : List β}
    (h : List.Forall₂ R as bs) : ∀ b ∈ bs, ∃ a ∈ as, R a b := by
  induction h with
  | nil => exact fun b hb => nomatch hb
  | cons hfirst _ ih =>
    intro b hb
    rcases List.mem_cons.1 hb with rfl | hb
    · exact ⟨_, List.mem_cons_self, hfirst⟩
    · obtain ⟨a, ha, hpaired⟩ := ih b hb
      exact ⟨a, List.mem_cons_of_mem _ ha, hpaired⟩

/-- Whether a workflow may be launched. -/
def IsReady (e : Engine) (w : Workflow) : Prop :=
  ∃ r, e.world.table.find? w.id = some r ∧ r.workflow = .ok w
    ∧ Table.isDue e.world.clock r = true ∧ e.isInFlight w.id = false

theorem isInFlight_launchScheduled (e : Engine) (w : Workflow) (id : String) :
    (e.launchScheduled w).isInFlight id = (e.isInFlight id || w.id == id) := by
  simp [isInFlight, executionsOf, launchScheduled, launch, newToken, Fiber.start]

theorem launchAllScheduled_beats : ∀ {ws : List Workflow} {e : Engine}, (∀ w ∈ ws, e.IsReady w) →
    (ws.map (·.id)).Nodup → ∃ events, Beats e events (ws.foldl launchScheduled e)
  | [], e, _, _ => ⟨[], .nil⟩
  | w :: ws, e, hready, hids => by
    rw [List.map_cons, List.nodup_cons] at hids
    obtain ⟨r, hfind, hread, hdue, hidle⟩ := hready w List.mem_cons_self
    obtain ⟨-, -, due, hnext, -⟩ := Table.of_isDue hdue
    have htoken : Beat e [] { e with tokens := e.tokens + 1 } :=
      .other rfl (fun _ => rfl) rfl (Int.le_refl _)
    have hlaunch : Beat { e with tokens := e.tokens + 1 } [.launched w due e.world.clock]
        (e.launchScheduled w) := .launch e.tokens _ hfind hread hdue hnext hidle
    have hothers : ∀ v ∈ ws, (e.launchScheduled w).IsReady v := by
      intro v hv
      obtain ⟨r, hfind, hread, hdue, hidle⟩ := hready v (List.mem_cons_of_mem w hv)
      have hne : w.id ≠ v.id := fun heq => hids.1 (heq ▸ List.mem_map_of_mem hv)
      refine ⟨r, hfind, hread, hdue, ?_⟩
      rw [isInFlight_launchScheduled, hidle, beq_false_of_ne hne]
      rfl
    obtain ⟨events, hrest⟩ := launchAllScheduled_beats hothers hids.2
    exact ⟨_, .cons htoken (.cons hlaunch hrest)⟩

/-- **A tick is a number of beats**: it launches what is due and not in progress. -/
theorem tick_beats {e : Engine} (hids : e.world.table.Distinct) :
    ∃ events, Beats e events e.tick.2 := by
  unfold tick
  split
  · rename_i due hdue
    let rows := (e.world.table.rows.filter (Table.isDue e.world.clock)).mergeSort Table.earliestFirst
    have hrows : List.Forall₂ (fun r w => r.workflow = .ok w) rows due :=
      forall₂_of_workflows (of_through_eq_ok hdue)
    have hrowIds : (rows.map (·.id)).Nodup := by
      have hperm : rows.Perm (e.world.table.rows.filter (Table.isDue e.world.clock)) :=
        List.mergeSort_perm ..
      have hsub : (e.world.table.rows.filter (Table.isDue e.world.clock)).Sublist e.world.table.rows :=
        List.filter_sublist
      exact (hperm.map (·.id)).nodup_iff.2 (hids.sublist (hsub.map (·.id)))
    refine launchAllScheduled_beats (fun w hw => ?_) ?_
    · obtain ⟨hmem, hidle⟩ := List.mem_filter.1 hw
      obtain ⟨r, hr, hread⟩ := exists_of_forall₂ hrows w hmem
      obtain ⟨hstored, hisDue⟩ := List.mem_filter.1 (List.mem_mergeSort.1 hr)
      refine ⟨r, ?_, hread, hisDue, by simpa using hidle⟩
      rw [Row.id_of_workflow hread]
      exact hids.find?_of_mem hstored
    · have hdueIds : (due.map (·.id)).Nodup := map_id_of_forall₂ hrows ▸ hrowIds
      exact hdueIds.sublist (List.filter_sublist.map _)
  · exact ⟨[], .nil⟩

/-! ### Executions without actions -/

/-- To record an execution leaves all definitions. -/
theorem definition?_record {t t' : Table} {id : String} {success : Bool} {error : Option LastError}
    {endedAt : Instant} (h : t.record id success error endedAt = .ok t') (other : String) :
    t'.definition? other = t.definition? other := by
  obtain ⟨r, hr, hwrote⟩ := Table.record_eq_ok h
  rw [Table.definition?, hwrote.find?_eq, Table.definition?]
  split
  · rename_i hother
    rw [hother, Table.find?_self hr]
    rfl
  · rfl

/-- An execution without actions is launched and records its success; then it
is to look at the clock. -/
theorem launch_beats {e : Engine} {r : Row} {w : Workflow} {due : Instant} {t : Table} (token : Token)
    (ctx : Context) (hidle : e.executions = []) (houtages : e.world.outages = [])
    (hfind : e.world.table.find? w.id = some r) (hread : r.workflow = .ok w)
    (hdue : Table.isDue e.world.clock r = true) (hnext : r.definition.nextRun = some due)
    (hactions : w.actions = [])
    (hrecord : e.world.table.record w.id true none e.world.clock = .ok t) :
    Beats e [.launched w due e.world.clock] (e.moved [⟨⟨.schedule, w.id⟩, token,
      .answered .done fun _ => Executor.settling e.zone w (.ok ⟨w.id, none, []⟩)⟩]
      { e.world with table := t }) := by
  let p : Process.OfExecution := .clock fun now => .ask (.record w.id true none now) fun _ =>
    Executor.settling e.zone w (.ok ⟨w.id, none, []⟩)
  let f (stage : Stage (Except Failure ExecutionResult)) : Execution := ⟨⟨.schedule, w.id⟩, token, stage⟩
  have hrun : e.executor.runFailure = none := by
    show e.world.outages.lookup _ = none
    rw [houtages]
    rfl
  have hwritten : e.executor.recordFailure = none := by
    show e.world.outages.lookup _ = none
    rw [houtages]
    rfl
  have hprocess : e.executor.executeScheduled e.zone w ctx = p := by
    rw [Executor.executeScheduled_eq, e.executor.execute_of_actions_nil _ ctx hactions hrun hwritten]
    rfl
  have hfree : e.isInFlight w.id = false := by
    rw [isInFlight, executionsOf, hidle]
    rfl
  have hlaunch : Beat e [.launched w due e.world.clock] (e.launch ⟨.schedule, w.id⟩ token p) :=
    hprocess ▸ .launch token ctx hfind hread hdue hnext hfree
  have hlaunched : (e.launch ⟨.schedule, w.id⟩ token p).executions
      = [] ++ f (.answered .done fun _ => p) :: [] := by
    rw [launch, hidle]
    rfl
  have hasks : Beat (e.launch ⟨.schedule, w.id⟩ token p) []
      (e.moved [f (p.stage e.world.clock false)] e.world) :=
    @Beat.resume _ _ _ _ (f (p.stage e.world.clock false)) _ hlaunched rfl rfl
  have hdone : Beat (e.moved [f (p.stage e.world.clock false)] e.world) [] _ :=
    @Beat.act _ [] [] _ _ _ (some .done) { e.world with table := t } rfl rfl rfl rfl
      (fun id => definition?_record hrecord id) (Int.le_refl _)
  exact .cons hlaunch (.cons hasks (.cons hdone .nil))

end Engine

end Automation
