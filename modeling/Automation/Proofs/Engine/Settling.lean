/-
# Settling is a run

While the parts that count executions are in order (`World.Writes`), every
write that an execution asks for succeeds: its workflow is stored, and its
failure is noted at the instant that a clock shows. So each move of a fiber is
a step of the engine, and settling is a run (`Engine.settle_run`).

Key definitions: `World.Writes`, `Engine.Sound`, `Engine.Leads`.
Key theorems: `Execution.Sound.write`, `Engine.resume_step`,
`Engine.serve_step`, `Engine.settle_run`.
-/
import Automation.Proofs.Engine.Standing
import Automation.Proofs.Process.Settling

namespace Automation

/-! ### Worlds in which writes succeed -/

namespace World

/-- The parts that count executions are in order, and the clock shows a date. -/
structure Writes (w : World) : Prop where
  recorder : w.outage? .recorder = none
  record : w.outage? .record = none
  setNextRun : w.outage? .setNextRun = none
  clock : w.clock.checked = .ok w.clock

theorem checked_of_later {w w' : World} {micros : Int} (h : w.later micros = .ok w') :
    w'.clock.checked = .ok w'.clock ∧ w'.outages = w.outages ∧ w'.table = w.table := by
  unfold later at h
  split at h
  · rename_i clock hclock
    cases h
    refine ⟨?_, rfl, rfl⟩
    unfold Instant.later at hclock
    simp only at hclock
    split at hclock
    · cases hclock
    · unfold Instant.checked at hclock ⊢
      split at hclock
      · rename_i hrange
        cases hclock
        rw [if_pos hrange]
      · cases hclock
  · cases h

/-- To ask something outside changes no outage and no table. -/
theorem serve_effect (token : Token) {request : Request} (hrequest : request.isEffect = true)
    (w : World) : (World.serve token request w).2.outages = w.outages
      ∧ (World.serve token request w).2.table = w.table
      ∧ (w.clock.checked = .ok w.clock →
        (World.serve token request w).2.clock.checked
          = .ok (World.serve token request w).2.clock) := by
  cases request with
  | send mail =>
    simp only [serve]
    split <;> exact ⟨rfl, rfl, id⟩
  | call call =>
    simp only [serve, serveCall]
    split <;> exact ⟨rfl, rfl, id⟩
  | emit emission =>
    simp only [serve]
    split <;> exact ⟨rfl, rfl, id⟩
  | sleep seconds =>
    simp only [serve, serveSleep]
    split
    · exact ⟨rfl, rfl, id⟩
    · split
      · rename_i w' hlater
        obtain ⟨hclock, houtages, htable⟩ := checked_of_later hlater
        exact ⟨houtages, htable, fun _ => hclock⟩
      · exact ⟨rfl, rfl, id⟩
  | find kind target =>
    simp only [serve]
    split <;> exact ⟨rfl, rfl, id⟩
  | write kind target fields => exact ⟨rfl, rfl, id⟩
  | create kind data =>
    simp only [serve]
    split <;> exact ⟨rfl, rfl, id⟩
  | record id success error endedAt => cases hrequest
  | setNextRun id nextRun => cases hrequest

theorem Writes.of_outages {w w' : World} (h : w.Writes) (houtages : w'.outages = w.outages)
    (hclock : w'.clock.checked = .ok w'.clock) : w'.Writes where
  recorder := by rw [outage?, houtages]; exact h.recorder
  record := by rw [outage?, houtages]; exact h.record
  setNextRun := by rw [outage?, houtages]; exact h.setNextRun
  clock := hclock

/-- An outcome can be recorded, for a workflow that is stored. -/
theorem serve_record (token : Token) {w : World} (hw : w.Writes) {id : String} (success : Bool)
    {error : Option LastError} {endedAt : Instant} (hid : w.table.has id = true)
    (hended : endedAt.checked = .ok endedAt) (herror : ∀ e ∈ error, e.timestamp = .ofInstant endedAt) :
    ∃ table, World.serve token (.record id success error endedAt) w = (some .done, { w with table })
      ∧ ∀ {other}, w.table.has other = true → table.has other = true := by
  obtain ⟨table, htable⟩ := Table.exists_record hid success hended herror
  refine ⟨table, ?_, fun h => Table.record_has htable h⟩
  simp only [serve, through, hw.record, htable]

theorem serve_setNextRun (token : Token) {w : World} (hw : w.Writes) (id : String)
    (nextRun : Option Instant) :
    ∃ table, World.serve token (.setNextRun id nextRun) w = (some .done, { w with table })
      ∧ ∀ {other}, w.table.has other = true → table.has other = true := by
  refine ⟨w.table.setNextRun id nextRun, ?_, fun h => (Table.setNextRun_keeps ..).has h⟩
  simp only [serve, through, hw.setNextRun]

end World

/-! ### Engines in which writes succeed -/

/-- An outcome that a stage asks to record ended at an instant that a clock
can show. -/
def Stage.IsTimely {α : Type} : Stage α → Prop
  | .asking (.record _ _ _ endedAt) _ => endedAt.checked = .ok endedAt
  | _ => True

theorem Stage.isTimely_of_owes {id : String} {p : Process.OfExecution} (h : p.Owes id)
    {now : Instant} (hnow : now.checked = .ok now) (cancelled : Bool) :
    (p.stage now cancelled).IsTimely := by
  induction h with
  | clock _ ih => exact ih now
  | token _ ih => exact ih cancelled
  | @effect request next hrequest _ _ => cases request <;> first | exact trivial | cases hrequest
  | record _ _ => exact hnow

theorem Stage.isTimely_of_ends {success : Bool} {p : Process.OfExecution} (h : p.Ends success)
    (now : Instant) (cancelled : Bool) : (p.stage now cancelled).IsTimely := by
  induction h with
  | done _ => exact trivial
  | clock _ ih => exact ih now
  | token _ ih => exact ih cancelled
  | nextRun _ _ => exact trivial

/-- An execution whose writes succeed. -/
structure Execution.Sound (t : Table) (f : Execution) : Prop where
  stands : ∃ standing, f.stage.Stands f.label.workflowId standing
  stored : t.has f.label.workflowId = true
  timely : f.stage.IsTimely

/-- An execution that moves on stays sound. -/
theorem Execution.Sound.resume {f g : Execution} {w w' : World} (h : f.Sound w.table)
    (hw : w.Writes) (hresume : f.resume World.environment w = some (g, w')) :
    g.Sound w.table ∧ w' = w := by
  obtain ⟨standing, hstage⟩ := h.stands
  have hstands : f.Stands (f.label.workflowId, standing) := ⟨rfl, hstage⟩
  obtain ⟨hg, -⟩ := hstands.resume hresume
  obtain ⟨reply, next, hf, rfl, rfl⟩ := Fiber.resume_eq_some hresume
  refine ⟨⟨⟨standing, hg.stage⟩, h.stored, ?_⟩, rfl⟩
  rcases hf with hf | ⟨hf, rfl⟩
  · rw [hf] at hstage
    cases hstage with
    | answered howes => exact Stage.isTimely_of_owes howes hw.clock _
    | recorded hends => exact Stage.isTimely_of_ends hends ..
  · rw [hf] at hstage
    cases hstage with
    | waiting howes => exact Stage.isTimely_of_owes howes hw.clock _

/-- So does one that the outside answers, or does not. -/
theorem Execution.Sound.act {f : Execution} {t : Table} {request : Request}
    {next : Reply → Process.OfExecution} (h : f.Sound t) (hf : f.stage = .asking request next)
    (hrequest : request.isEffect = true) (reply : Option Reply) :
    Execution.Sound t { f with stage := .afterRequest next reply } := by
  obtain ⟨standing, hstage⟩ := h.stands
  have hstands : f.Stands (f.label.workflowId, standing) := ⟨rfl, hstage⟩
  refine ⟨⟨standing, (hstands.act hf hrequest reply).stage⟩, h.stored, ?_⟩
  cases reply <;> exact trivial

/-- What an execution asks to be written is written. -/
theorem Execution.Sound.write {f : Execution} {w : World} {request : Request}
    {next : Reply → Process.OfExecution} (h : f.Sound w.table) (hw : w.Writes)
    (hf : f.stage = .asking request next) (hrequest : ¬ request.isEffect = true) :
    ∃ table, World.serve f.token request w = (some .done, { w with table })
      ∧ (∀ {id}, w.table.has id = true → table.has id = true)
      ∧ Execution.Sound table { f with stage := .answered .done next } := by
  obtain ⟨⟨standing, hstage⟩, hstored, htimely⟩ := h
  rw [hf] at hstage htimely
  cases hstage with
  | effect heffect _ => exact absurd heffect hrequest
  | record herror hends =>
    obtain ⟨table, hserve, hhas⟩ := World.serve_record f.token hw _ hstored htimely herror
    exact ⟨table, hserve, hhas, ⟨_, .recorded (hends _)⟩, hhas hstored, trivial⟩
  | nextRun hends =>
    obtain ⟨table, hserve, hhas⟩ := World.serve_setNextRun f.token hw _ _
    exact ⟨table, hserve, hhas, ⟨_, .recorded (hends _)⟩, hhas hstored, trivial⟩

theorem Execution.Sound.mono {t t' : Table} {f : Execution} (h : f.Sound t)
    (ht : ∀ {id}, t.has id = true → t'.has id = true) : f.Sound t' :=
  ⟨h.stands, ht h.stored, h.timely⟩

namespace Engine

/-- An engine in which writes succeed. -/
structure Sound (e : Engine) : Prop where
  writes : e.world.Writes
  executions : ∀ f ∈ e.executions, f.Sound e.world.table

/-- An engine comes from another by a run, and writes still succeed. -/
structure Leads (e e' : Engine) : Prop where
  run : ∃ events, Run e events e'
  sound : e'.Sound

variable {e e' e'' : Engine}

theorem Sound.leads (h : e.Sound) : e.Leads e := ⟨⟨_, .nil⟩, h⟩

theorem Leads.trans (h : e.Leads e') (h' : e'.Leads e'') : e.Leads e'' := by
  obtain ⟨_, hrun⟩ := h.run
  obtain ⟨_, hrun'⟩ := h'.run
  exact ⟨⟨_, hrun.trans hrun'⟩, h'.sound⟩

theorem Leads.of_step {events : List ExecutionEvent} (hstep : Step e events e') (h : e'.Sound) :
    e.Leads e' :=
  ⟨⟨_, .single hstep⟩, h⟩

/-- The engine is sound once one of its executions has moved on soundly. -/
theorem Sound.moved {before after : List Execution} {f : Execution} (h : e.Sound)
    (hexecutions : e.executions = before ++ f :: after) {w : World} (hw : w.Writes)
    (ht : ∀ {id}, e.world.table.has id = true → w.table.has id = true) {g : Execution}
    (hg : g.Sound w.table) : (e.moved (before ++ g :: after) w).Sound where
  writes := hw
  executions x hx := by
    have hothers : ∀ y ∈ before ++ f :: after, y.Sound w.table := fun y hy =>
      (h.executions y (hexecutions ▸ hy)).mono ht
    rcases List.mem_append.1 hx with hx | hx
    · exact hothers x (List.mem_append_left _ hx)
    · rcases List.mem_cons.1 hx with rfl | hx
      · exact hg
      · exact hothers x (List.mem_append_right _ (List.mem_cons_of_mem _ hx))

/-- Fewer executions are sound too. -/
theorem Sound.fewer (h : e.Sound) {executions : List Execution}
    (hsub : ∀ f ∈ executions, f ∈ e.executions) {w : World} (hw : w.Writes)
    (ht : ∀ {id}, e.world.table.has id = true → w.table.has id = true) :
    (e.moved executions w).Sound where
  writes := hw
  executions f hf := (h.executions f (hsub f hf)).mono ht

/-! ### Moves -/

/-- To move on is a step, of which nothing is seen. -/
theorem resume_step (h : e.Sound) {before after : List Execution} {f g : Execution} {w : World}
    (hexecutions : e.executions = before ++ f :: after)
    (hresume : f.resume World.environment e.world = some (g, w)) :
    Step e [] (e.moved (before ++ g :: after) w) ∧ (e.moved (before ++ g :: after) w).Sound := by
  have hf : f.Sound e.world.table := h.executions f (by rw [hexecutions]; simp)
  refine ⟨.resume hexecutions hresume, ?_⟩
  obtain ⟨hg, rfl⟩ := hf.resume h.writes hresume
  exact h.moved hexecutions h.writes id hg

/-- So is to be served. -/
theorem serve_step (h : e.Sound) {before after : List Execution} {f g : Execution} {w : World}
    {ready : Request → Bool} (hexecutions : e.executions = before ++ f :: after)
    (hserve : f.serve World.environment ready e.world = some (g, w)) :
    Step e [] (e.moved (before ++ g :: after) w) ∧ (e.moved (before ++ g :: after) w).Sound := by
  have hf : f.Sound e.world.table := h.executions f (by rw [hexecutions]; simp)
  obtain ⟨request, next, hstage, rfl, rfl⟩ := Fiber.serve_eq_some hserve
  by_cases hrequest : request.isEffect = true
  · obtain ⟨houtages, htable, hclock⟩ := World.serve_effect f.token hrequest e.world
    refine ⟨.act hexecutions hstage hrequest htable, ?_⟩
    refine h.moved hexecutions (h.writes.of_outages houtages (hclock h.writes.clock)) ?_ ?_
    · intro id hid
      exact htable ▸ hid
    · exact htable ▸ hf.act hstage hrequest _
  · obtain ⟨table, hserve, hhas, hsound⟩ := hf.write h.writes hstage hrequest
    have hrequest : request.isEffect = false := Bool.eq_false_iff.2 hrequest
    simp only [World.environment, hserve]
    refine ⟨.write hexecutions hstage hrequest hserve, ?_⟩
    have hwrites : World.Writes { e.world with table } := h.writes.of_outages rfl h.writes.clock
    exact h.moved hexecutions hwrites hhas hsound

/-- **Settling is a run**, of which nothing is seen. -/
theorem settle_run (h : e.Sound) : Run e [] e.settle ∧ e.settle.Sound := by
  let P (fs : List Execution) (w : World) : Prop := Run e [] (e.moved fs w) ∧ (e.moved fs w).Sound
  have hstep : ∀ {e' e'' : Engine}, Run e [] e' → Step e' [] e'' → Run e [] e'' :=
    fun hrun hstep => hrun.step hstep
  have hresume : (Fiber.resume World.environment : Fiber.Move _ _ _).Keeps P := fun hP hmove => by
    obtain ⟨hresumed, hsound⟩ := resume_step hP.2 rfl hmove
    exact ⟨hstep hP.1 hresumed, hsound⟩
  have hserve : ∀ ready, (Fiber.serve World.environment ready : Fiber.Move _ _ _).Keeps P :=
    fun ready _ _ _ _ _ _ hP hmove => by
      obtain ⟨hserved, hsound⟩ := serve_step hP.2 rfl hmove
      exact ⟨hstep hP.1 hserved, hsound⟩
  exact Fiber.settle_induction hresume hserve e.executions e.world ⟨.nil, h⟩

theorem settle_leads (h : e.Sound) : e.Leads e.settle := ⟨⟨[], (settle_run h).1⟩, (settle_run h).2⟩

end Engine

end Automation
