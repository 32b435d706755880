/-
# What an engine does to its table is a history

Executions record outcomes and set next runs, and callers save, switch and delete
workflows; each of these is a transaction of the table or two, so any number of
operations take the table through a history (`Engine.Operation.reaches`). What
every transaction keeps is therefore kept by an engine whatever is asked of it: a
table of workflows stays one (`Engine.Operation.performAll_isReadable`). So two
engines agree for a caller as soon as they show it the same workflows and are
otherwise the same (`Engine.Operation.performAll_agreeFor`).

Key definitions: `Table.Reaches`.
Key theorems: `World.serve_reaches`, `World.run_reaches`,
`Engine.settle_reaches`, `Engine.Operation.reaches`,
`Engine.Operation.performAll_isReadable`, `Engine.Operation.performAll_agreeFor`.
-/
import Automation.Proofs.Engine.Isolation

namespace Automation

/-! ### Histories of a table -/

namespace Table

/-- Some transactions lead from a table to another, with no copy left in hand. -/
def Reaches (t t' : Table) : Prop := ∃ counted, History ⟨t, []⟩ counted ⟨t', []⟩

theorem Reaches.refl (t : Table) : t.Reaches t := ⟨[], .nil⟩

theorem History.trans {s s' s'' : Shared} {counted more : List Recording} (h : History s counted s')
    (h' : History s' more s'') : ∃ all, History s all s'' := by
  induction h' with
  | nil => exact ⟨counted, h⟩
  | step _ hstep ih =>
    obtain ⟨all, hall⟩ := ih
    exact ⟨_, hall.step hstep⟩

theorem Reaches.trans {t t' t'' : Table} (h : t.Reaches t') (h' : t'.Reaches t'') :
    t.Reaches t'' := by
  obtain ⟨_, hfirst⟩ := h
  obtain ⟨_, hrest⟩ := h'
  exact hfirst.trans hrest

theorem Reaches.of_transaction {t t' : Table} {counted : List Recording}
    (h : Transaction ⟨t, []⟩ counted ⟨t', []⟩) : t.Reaches t' :=
  ⟨_, History.nil.step h⟩

theorem Reaches.isReadable {t t' : Table} (h : t.Reaches t') (ht : t.IsReadable) : t'.IsReadable := by
  obtain ⟨_, hhistory⟩ := h
  exact hhistory.isReadable ht

end Table

/-! ### Executions -/

namespace World

/-- An answer takes the table through a transaction, or leaves it. -/
theorem serve_reaches (token : Token) (request : Request) (w : World) :
    w.table.Reaches (World.serve token request w).2.table := by
  cases heffect : request.isEffect with
  | true =>
    rw [(serve_effect token heffect w).2.1]
    exact .refl _
  | false =>
    cases request with
    | record id success error endedAt =>
      simp only [serve]
      split
      · rename_i table hrecord
        exact .of_transaction (.record ⟨id, success, error, endedAt⟩ (Engine.of_through_eq_ok hrecord))
      · exact .refl _
    | setNextRun id nextRun =>
      simp only [serve]
      split
      · rename_i table htable
        cases Engine.of_through_eq_ok htable
        exact .of_transaction (.setNextRun id nextRun)
      · exact .refl _
    | _ => cases heffect

theorem run_reaches {α : Type} (token : Token) : ∀ (p : Process α) (w : World),
    w.table.Reaches (p.run World.environment token w).2.table
  | .done _, _ => .refl _
  | .clock next, w => run_reaches token (next w.clock) w
  | .token next, w => run_reaches token (next (w.cancelled.contains token)) w
  | .ask request _, w => (serve_reaches token request w).trans (run_reaches token _ _)

end World

namespace Engine

variable {e : Engine}

theorem settle_reaches (e : Engine) : e.world.table.Reaches e.settle.world.table := by
  let P (_ : List Execution) (w : World) : Prop := e.world.table.Reaches w.table
  have hresume : (Fiber.resume World.environment : Fiber.Move _ _ _).Keeps P := by
    intro before after f g w w' hP hmove
    obtain ⟨reply, next, -, -, rfl⟩ := Fiber.resume_eq_some hmove
    exact hP
  have hserve : ∀ ready, (Fiber.serve World.environment ready : Fiber.Move _ _ _).Keeps P := by
    intro ready before after f g w w' hP hmove
    obtain ⟨request, next, -, -, rfl⟩ := Fiber.serve_eq_some hmove
    exact hP.trans (World.serve_reaches f.token request w)
  exact Fiber.settle_induction hresume hserve e.executions e.world (.refl _)

theorem executeAll_reaches (e : Engine) (ws : List Workflow) (payload : Json) (ctx : Context) :
    e.world.table.Reaches (e.executeAll ws payload ctx).2.world.table := by
  have hlaunched : (e.launchAll .caller ws payload ctx).world = e.world := by
    rw [launchAll_eq]
    rfl
  have hsettled := settle_reaches (e.launchAll .caller ws payload ctx)
  rw [hlaunched] at hsettled
  exact hsettled

theorem work_reaches (e : Engine) : e.world.table.Reaches e.work.world.table := by
  let P (e' : Engine) : Prop := e.world.table.Reaches e'.world.table
  have htake : ∀ {e' : Engine} {number : Nat} {job : Job} {dispatcher : Dispatcher Job}, P e' →
      P (e'.takeJob number job dispatcher) := fun hP => by
    show e.world.table.Reaches _
    rw [takeJob, launchAll_eq]
    exact hP
  have hsettle : ∀ {e' : Engine}, P e' → P e'.settle.collect := fun {e'} hP => by
    show e.world.table.Reaches _
    rw [collect_eq, finishJobs_world]
    exact hP.trans e'.settle_reaches
  exact workRounds_induction (P := P) htake hsettle e.dispatcher.pending.length
    (Table.Reaches.refl e.world.table)

theorem stop_reaches (e : Engine) : e.world.table.Reaches e.stop.world.table := by
  have hrecord : ∀ (e' : Engine) (id : String),
      e'.world.table.Reaches (e'.recordCancelled id).world.table :=
    fun e' id => World.run_reaches 0 (e'.executor.record id (some .cancellation)) e'.world
  let P (e' : Engine) : Prop := e.world.table.Reaches e'.world.table
  exact List.foldlRecOn (motive := P) _ _ (Table.Reaches.refl e.world.table)
    fun e' hP id _ => hP.trans (hrecord e' id)

/-- To cancel executions leaves the table. -/
theorem stopScheduled_reaches (e : Engine) :
    e.world.table.Reaches e.stopScheduled.2.world.table := by
  let tokens := (e.executionsOf .schedule).map (·.token)
  obtain ⟨-, htable, -⟩ := cancelAll_eq tokens e.world
  have hwork := work_reaches { e with world := tokens.foldl World.cancel e.world }
  rw [htable] at hwork
  exact hwork

theorem world_launchAllScheduled : ∀ (ws : List Workflow) (e : Engine),
    (ws.foldl launchScheduled e).world = e.world
  | [], _ => rfl
  | w :: ws, e => world_launchAllScheduled ws (e.launchScheduled w)

/-! ### Callers -/

theorem write_reaches {α : Type} {result : Except Failure (α × Table)}
    (h : ∀ a t, result = .ok (a, t) → e.world.table.Reaches t) :
    e.world.table.Reaches (e.write result).2.world.table := by
  cases result with
  | error f => exact .refl _
  | ok r => exact h r.1 r.2 rfl

/-- To switch a workflow on or off is to read it and to write it back. -/
theorem setActive_reaches (e : Engine) (id : String) (active : Bool) :
    e.world.table.Reaches (e.setActive id active).2.world.table := by
  refine write_reaches fun saved t hactive => ?_
  obtain ⟨w, hread, hsave⟩ := Except.of_bind_eq_ok (of_through_eq_ok (of_through_eq_ok hactive))
  have hback : e.world.table.setActive e.zone e.world.clock id active = .ok (saved, t) := by
    rw [Table.setActive, hread]
    exact of_through_eq_ok hsave
  exact ⟨_, Table.setActive_history hback []⟩

/-- **Every operation takes the table through a history.** -/
theorem Operation.reaches (e : Engine) (o : Operation) :
    e.world.table.Reaches (o.perform e).world.table := by
  cases o with
  | start =>
    rw [perform, Engine.start]
    split <;> exact .refl _
  | stop => exact stop_reaches e
  | dispatch event payload ctx => exact executeAll_reaches e ..
  | testRun id payload ctx =>
    rw [perform, Engine.testRun]
    split
    · exact .refl _
    · exact executeAll_reaches e ..
  | enqueue job => exact .refl _
  | runManual id payload ctx =>
    rw [perform, Engine.runManual]
    split
    · exact .refl _
    · split <;> exact .refl _
  | work => exact work_reaches e
  | tick =>
    rw [perform, Engine.tick]
    split
    · rw [world_launchAllScheduled]
      exact .refl _
    · exact .refl _
  | stopScheduled => exact stopScheduled_reaches e
  | save w => exact write_reaches fun _ _ hsave => .of_transaction (.save (of_through_eq_ok hsave))
  | setActive id active => exact setActive_reaches e id active
  | softDelete id =>
    refine write_reaches fun _ t hdelete => ?_
    obtain ⟨table, htable, hpair⟩ := Except.of_map_eq_ok hdelete
    cases hpair
    exact .of_transaction (.softDelete (of_through_eq_ok htable))
  | setNextRun id nextRun =>
    refine write_reaches fun _ t hset => ?_
    obtain ⟨table, htable, hpair⟩ := Except.of_map_eq_ok hset
    cases hpair
    cases of_through_eq_ok htable
    exact .of_transaction (.setNextRun id nextRun)
  | later micros =>
    rw [perform, Engine.later]
    split
    · rename_i world hlater
      obtain ⟨-, -, htable⟩ := World.checked_of_later hlater
      rw [show ({ e with world } : Engine).world.table = e.world.table from htable]
      exact .refl _
    · exact .refl _

/-- Whatever is asked of an engine, its table stays one of workflows. -/
theorem Operation.performAll_isReadable (h : e.world.table.IsReadable) (os : List Operation) :
    (os.foldl Operation.perform e).world.table.IsReadable := by
  let P (e' : Engine) : Prop := e'.world.table.IsReadable
  exact List.foldlRecOn (motive := P) os perform h fun e' hP o _ => (o.reaches e').isReadable hP

/-- **Engines that began at rest** agree for a caller, whatever was asked of each
since, if they show it the same workflows and are the same but for their tables. -/
theorem Operation.performAll_agreeFor {e' : Engine} {storeId : String}
    {organizationId : Option String} (hidle : e.executions = []) (h : e.world.table.IsReadable)
    (h' : e'.world.table.IsReadable) (os os' : List Operation) {f f' : Engine}
    (hf : os.foldl perform e = f) (hf' : os'.foldl perform e' = f')
    (hcommon : f' = { f with world := f.world.withTable f'.world.table })
    (hsame : ∀ id w, w.IsShownTo storeId organizationId →
      (f'.world.table.get id = .ok (some w) ↔ f.world.table.get id = .ok (some w))) :
    f.AgreeFor storeId organizationId f' := by
  have hread : f.world.table.IsReadable := hf ▸ performAll_isReadable h os
  have hread' : f'.world.table.IsReadable := hf' ▸ performAll_isReadable h' os'
  have hworld : f'.world = f.world.withTable f'.world.table := congrArg Engine.world hcommon
  refine ⟨hf ▸ performAll_isUnhearing hidle os, ⟨(hread.agreeFor_iff hread').2 hsame, hworld⟩, ?_⟩
  exact hworld ▸ hcommon

end Engine

end Automation
