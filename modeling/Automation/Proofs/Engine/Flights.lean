/-
# Scheduled executions in flight

Between the ticks of a scheduler its executions run beside everything else and
come to their ends in any order. `Engine.Pulse` tells what can happen next, as
far as it matters to them: a tick finds any workflows due, an execution moves
on, is answered, records its outcome or is refused, or is forgotten once it
has its result. Whatever happens, no workflow has two executions in flight, and
each that was launched with a recorder in order has recorded its outcome, was
refused, or still owes it (`Engine.Flights`).

Key definitions: `FlightEvent`, `Engine.inFlightIds`, `Engine.launchReady`,
`Engine.Pulse`, `Engine.Pulses`, `Execution.Flies`, `Engine.Flights`.
Key theorems: `Engine.tick_eq`, `Engine.inFlightIds_launchReady`,
`Engine.Flights.pulse`, `Engine.Pulses.flights`.
-/
import Automation.Proofs.Engine.Counts
import Automation.Proofs.Engine.Driving

namespace Automation

/-- Whether a request is for an outcome to be recorded. -/
def Request.isRecord : Request → Bool
  | .record .. => true
  | _ => false

/-- What is seen of scheduled executions. -/
inductive FlightEvent where
  /-- An execution is launched; it `records` if there is a recorder in order. -/
  | launched (workflowId : String) (records : Bool)
  | recorded (workflowId : String)
  /-- The table does not take the outcome of an execution. -/
  | refused (workflowId : String)
  | landed (workflowId : String)
deriving DecidableEq

/-! ### Executions that record nothing -/

theorem Process.Ends.asks {success : Bool} {p : Process.OfExecution} (h : p.Ends success) :
    p.Asks (·.isRecord = false) := by
  induction h with
  | done _ => exact trivial
  | clock _ ih => exact ih
  | token _ ih => exact ih
  | nextRun _ ih => exact ⟨rfl, ih⟩

/-- Without a recorder nothing is recorded. -/
theorem Executor.executeScheduled_unrecorded (x : Executor) {failure : Failure}
    (hx : x.recordFailure = some failure) (zone : Zone) (w : Workflow) (ctx : Context) :
    (x.executeScheduled zone w ctx).Asks (·.isRecord = false) := by
  have heffect : ∀ request : Request, request.isEffect = true → request.isRecord = false := by
    intro request h
    cases request with
    | record _ _ _ _ => cases h
    | _ => rfl
  have hrun := (x.run_asks w (.obj []) ctx).mono heffect
  have hexecute : (x.execute w (.obj []) ctx).Asks (·.isRecord = false) := by
    refine hrun.bind fun r => ?_
    rw [record, hx]
    exact trivial
  rw [executeScheduled_eq]
  refine hexecute.bind fun result now => ?_
  beta_reduce
  split
  · exact ⟨rfl, fun _ => trivial⟩
  · exact trivial

/-! ### How executions fly -/

namespace Execution

/-- How an execution in flight stands: it is still to record its outcome, or it
records none any more. -/
inductive Flies (f : Execution) : String × Bool → Prop where
  | owing : f.stage.Stands f.label.workflowId .owes → Flies f (f.label.workflowId, true)
  | settled : f.stage.Asks (·.isRecord = false) → Flies f (f.label.workflowId, false)

variable {f f' : Execution} {g : String × Bool} {request : Request}
  {next : Reply → Process.OfExecution} {w w' : World}

theorem Flies.label (h : f.Flies g) : g.1 = f.label.workflowId := by
  cases h <;> rfl

/-- Moving on does not change how an execution flies. -/
theorem Flies.resume (h : f.Flies g) (hresume : f.resume World.environment w = some (f', w')) :
    f'.Flies g := by
  cases h with
  | owing hstands =>
    have howes : f.Stands (f.label.workflowId, .owes) := ⟨rfl, hstands⟩
    obtain ⟨hlabel, hstage⟩ := (howes.resume hresume).1
    simp only at hlabel hstage
    rw [← hlabel] at hstage ⊢
    exact .owing hstage
  | settled hasks =>
    obtain ⟨reply, next, hstage, rfl, -⟩ := Fiber.resume_eq_some hresume
    exact .settled (hasks.resume hstage _ _)

/-- Nor does any answer but to an outcome. -/
theorem Flies.act (h : f.Flies g) (hf : f.stage = .asking request next)
    (hrequest : request.isRecord = false) (reply : Option Reply) :
    Flies { f with stage := .afterRequest next reply } g := by
  cases h with
  | owing hstands =>
    rw [hf] at hstands
    have heffect : request.isEffect = true := by
      cases hstands with
      | effect heffect _ => exact heffect
      | record _ _ => cases hrequest
    exact @Flies.owing { f with stage := .afterRequest next reply } (hstands.act heffect reply)
  | settled hasks =>
    rw [hf] at hasks
    exact @Flies.settled { f with stage := .afterRequest next reply }
      (Stage.asks_afterRequest hasks.2 reply)

/-- What asks to record an outcome owes it, and records none any more. -/
theorem Flies.record {id : String} {success : Bool} {error : Option LastError} {endedAt : Instant}
    (h : f.Flies g) (hf : f.stage = .asking (.record id success error endedAt) next)
    (reply : Option Reply) : g = (id, true)
      ∧ Flies { f with stage := .afterRequest next reply } (id, false) := by
  cases h with
  | owing hstands =>
    rw [hf] at hstands
    have hid : f.label.workflowId = id ∧ ∀ reply, (next reply).Ends success := by
      generalize f.label.workflowId = label at hstands
      cases hstands with
      | effect heffect _ => cases heffect
      | record _ hends => exact ⟨rfl, hends⟩
    obtain ⟨rfl, hends⟩ := hid
    exact ⟨rfl, @Flies.settled { f with stage := .afterRequest next reply }
      (Stage.asks_afterRequest (fun reply => (hends reply).asks) reply)⟩
  | settled hasks =>
    rw [hf] at hasks
    cases hasks.1

/-- What has its result owes nothing. -/
theorem Flies.finished (h : f.Flies g) (hf : f.stage.IsFinished) :
    g = (f.label.workflowId, false) := by
  cases h with
  | owing hstands =>
    obtain ⟨result, hresult⟩ := hf
    rw [hresult] at hstands
    cases hstands
  | settled _ => rfl

end Execution

namespace Engine

variable {e e' e'' : Engine}

/-! ### Ticks -/

/-- The workflows with an execution in flight. -/
def inFlightIds (e : Engine) : List String := (e.executionsOf .schedule).map (·.label.workflowId)

/-- What may be launched of what is due. -/
def ready (e : Engine) (due : List Workflow) : List Workflow := due.filter (!e.isInFlight ·.id)

/-- Launches what may be launched of what is due. -/
def launchReady (e : Engine) (due : List Workflow) : Nat × Engine :=
  ((e.ready due).length, (e.ready due).foldl launchScheduled e)

/-- Whether what is launched now is going to record its outcome. -/
def records (e : Engine) : Bool := (e.world.outage? .recorder).isNone

/-- A tick launches what may be launched of what the table finds due. -/
theorem tick_eq (e : Engine) : e.tick =
    match e.world.through .dueAt (e.world.table.dueAt e.world.clock) with
    | .ok due => e.launchReady due
    | .error _ => (0, e) :=
  rfl

theorem isInFlight_eq (e : Engine) (id : String) :
    e.isInFlight id = decide (id ∈ e.inFlightIds) := by
  rw [Bool.eq_iff_iff, decide_eq_true_iff, inFlightIds, List.mem_map, isInFlight, List.any_eq_true]
  simp only [beq_iff_eq]

/-- An execution launched comes after those in flight. -/
theorem executionsOf_launchScheduled (e : Engine) (w : Workflow) : ∃ f : Execution,
    (e.launchScheduled w).executionsOf .schedule = e.executionsOf .schedule ++ [f]
      ∧ f.Flies (w.id, e.records) := by
  let ctx : Context :=
    { storeId := w.storeId, organizationId := w.organizationId, hasChannel := e.hasChannel
      token := e.tokens }
  let f : Execution := .start ⟨.schedule, w.id⟩ e.tokens (e.executor.executeScheduled e.zone w ctx)
  have hlaunched : (e.launchScheduled w).executions = e.executions ++ [f] := rfl
  refine ⟨f, by simp [executionsOf, hlaunched, f, Fiber.start], ?_⟩
  unfold records
  cases hrecorder : e.world.outage? .recorder with
  | none => exact @Execution.Flies.owing f (.answered (e.executor.executeScheduled_owes hrecorder ..))
  | some failure =>
    exact @Execution.Flies.settled f (e.executor.executeScheduled_unrecorded hrecorder ..)

theorem inFlightIds_launchScheduled (e : Engine) (w : Workflow) :
    (e.launchScheduled w).inFlightIds = e.inFlightIds ++ [w.id] := by
  obtain ⟨f, hf, hflies⟩ := e.executionsOf_launchScheduled w
  rw [inFlightIds, hf, List.map_append, List.map_singleton, ← hflies.label, inFlightIds]

theorem inFlightIds_launchAll : ∀ (ws : List Workflow) (e : Engine),
    (ws.foldl launchScheduled e).inFlightIds = e.inFlightIds ++ ws.map (·.id)
  | [], e => (List.append_nil _).symm
  | w :: ws, e => by
    rw [List.foldl_cons, inFlightIds_launchAll ws, inFlightIds_launchScheduled, List.append_assoc,
      List.map_cons, List.singleton_append]

theorem map_id_ready (e : Engine) (due : List Workflow) :
    (e.ready due).map (·.id) = (due.map (·.id)).filter (· ∉ e.inFlightIds) := by
  rw [ready, List.filter_map]
  congr 1
  refine List.filter_congr fun w _ => ?_
  rw [isInFlight_eq, Function.comp_apply, decide_not]

/-- **What is due and not in flight is launched**, once each and in this order. -/
theorem inFlightIds_launchReady (e : Engine) (due : List Workflow) :
    (e.launchReady due).2.inFlightIds
      = e.inFlightIds ++ (due.map (·.id)).filter (· ∉ e.inFlightIds) := by
  rw [launchReady, inFlightIds_launchAll, map_id_ready]

/-! ### What can happen -/

/-- What happens next, and what is seen of it. -/
inductive Pulse : Engine → List FlightEvent → Engine → Prop where
  /-- Some workflows are due, each once; those not in flight are launched. -/
  | tick {e : Engine} {due : List Workflow} : (due.map (·.id)).Nodup →
      Pulse e ((e.ready due).map fun w => .launched w.id e.records) (e.launchReady due).2
  /-- An execution moves on. -/
  | resume {e : Engine} {before after : List Execution} {f g : Execution} {world : World} :
      e.executions = before ++ f :: after → f.label.owner = .schedule →
      f.resume World.environment e.world = some (g, world) →
      Pulse e [] (e.moved (before ++ g :: after) world)
  /-- It is answered, or is not, whatever it asks for but its outcome. -/
  | act {e : Engine} {before after : List Execution} {f : Execution} {request : Request}
      {next : Reply → Process.OfExecution} {reply : Option Reply} {world : World} :
      e.executions = before ++ f :: after → f.label.owner = .schedule →
      f.stage = .asking request next → request.isRecord = false →
      Pulse e [] (e.moved (before ++ { f with stage := .afterRequest next reply } :: after) world)
  /-- Its outcome is recorded. -/
  | record {e : Engine} {before after : List Execution} {f : Execution} {id : String}
      {success : Bool} {error : Option LastError} {endedAt : Instant}
      {next : Reply → Process.OfExecution} {table : Table} :
      e.executions = before ++ f :: after → f.label.owner = .schedule →
      f.stage = .asking (.record id success error endedAt) next →
      e.world.through .record (e.world.table.record id success error endedAt) = .ok table →
      Pulse e [.recorded id] (e.moved (before ++ { f with stage := .answered .done next } :: after)
        { e.world with table })
  /-- Its outcome is refused. -/
  | refuse {e : Engine} {before after : List Execution} {f : Execution} {id : String}
      {success : Bool} {error : Option LastError} {endedAt : Instant}
      {next : Reply → Process.OfExecution} {failure : Failure} :
      e.executions = before ++ f :: after → f.label.owner = .schedule →
      f.stage = .asking (.record id success error endedAt) next →
      e.world.through .record (e.world.table.record id success error endedAt) = .error failure →
      Pulse e [.refused id]
        (e.moved (before ++ { f with stage := .answered (.failed failure) next } :: after) e.world)
  /-- An execution with a result, whatever it is, is forgotten. -/
  | land {e : Engine} {before after : List Execution} {f : Execution} :
      e.executions = before ++ f :: after → f.label.owner = .schedule → f.stage.IsFinished →
      Pulse e [.landed f.label.workflowId] (e.moved (before ++ after) e.world)
  /-- Whatever leaves the scheduled executions as they are. -/
  | other {e e' : Engine} : e'.executionsOf .schedule = e.executionsOf .schedule → Pulse e [] e'

/-- Any number of them, in any order. -/
inductive Pulses : Engine → List FlightEvent → Engine → Prop where
  | nil {e : Engine} : Pulses e [] e
  | step {e e' e'' : Engine} {events more : List FlightEvent} :
      Pulses e events e' → Pulse e' more e'' → Pulses e (events ++ more) e''

theorem Pulses.single {events : List FlightEvent} (h : Pulse e events e') : Pulses e events e' :=
  .step .nil h

theorem Pulses.trans {events : List FlightEvent} (h : Pulses e events e') :
    ∀ {more : List FlightEvent} {e'' : Engine}, Pulses e' more e'' → Pulses e (events ++ more) e''
  | _, _, .nil => by rwa [List.append_nil]
  | _, _, .step h' hpulse => by
    rw [← List.append_assoc]
    exact .step (h.trans h') hpulse

/-! ### The account of flights -/

/-- What is known of the executions in flight, after some events since there
were none. -/
structure Flights (e : Engine) (events : List FlightEvent) (aloft : List (String × Bool)) : Prop where
  flies : List.Forall₂ Execution.Flies (e.executionsOf .schedule) aloft
  distinct : (aloft.map (·.1)).Nodup
  /-- Whatever was launched to record has recorded, was refused or owes. -/
  outcomes : ∀ id, events.count (.launched id true)
    = events.count (.recorded id) + events.count (.refused id) + aloft.count (id, true)
  /-- Whatever was launched has landed or is in flight. -/
  landings : ∀ id, events.count (.launched id true) + events.count (.launched id false)
    = events.count (.landed id) + (aloft.map (·.1)).count id

variable {events : List FlightEvent} {aloft : List (String × Bool)}

theorem map_fst_of_flies {fs : List Execution} (h : List.Forall₂ Execution.Flies fs aloft) :
    aloft.map (·.1) = fs.map (·.label.workflowId) := by
  induction h with
  | nil => rfl
  | cons hf _ ih => rw [List.map_cons, List.map_cons, hf.label, ih]

theorem Flights.inFlightIds_eq (h : e.Flights events aloft) : e.inFlightIds = aloft.map (·.1) :=
  (map_fst_of_flies h.flies).symm

/-- No workflow has two executions in flight. -/
theorem Flights.nodup (h : e.Flights events aloft) : e.inFlightIds.Nodup :=
  h.inFlightIds_eq ▸ h.distinct

theorem Flights.launch (h : e.Flights events aloft) {w : Workflow} (hw : w.id ∉ e.inFlightIds) :
    (e.launchScheduled w).Flights (events ++ [.launched w.id e.records])
      (aloft ++ [(w.id, e.records)]) := by
  obtain ⟨f, hf, hflies⟩ := e.executionsOf_launchScheduled w
  refine ⟨hf ▸ List.rel_append h.flies (.cons hflies .nil), ?_, fun id => ?_, fun id => ?_⟩
  · rw [List.map_append, List.map_singleton, List.nodup_append_comm, List.singleton_append,
      List.nodup_cons]
    exact ⟨h.inFlightIds_eq ▸ hw, h.distinct⟩
  · have houtcomes := h.outcomes id
    by_cases hid : w.id = id
    · cases e.records
      all_goals
        simp [hid, List.count_append]
        omega
    · simpa [hid, List.count_append, List.count_singleton] using houtcomes
  · have hlandings := h.landings id
    by_cases hid : w.id = id
    · cases e.records
      all_goals
        simp [hid, List.count_append] at hlandings ⊢
        omega
    · simpa [hid, List.count_append, List.count_singleton] using hlandings

theorem records_launchScheduled (e : Engine) (w : Workflow) :
    (e.launchScheduled w).records = e.records :=
  rfl

theorem Flights.launchAll : ∀ {ws : List Workflow} {e : Engine} {events : List FlightEvent}
    {aloft : List (String × Bool)}, e.Flights events aloft → (ws.map (·.id)).Nodup →
    (∀ w ∈ ws, w.id ∉ e.inFlightIds) → ∃ aloft',
      (ws.foldl launchScheduled e).Flights (events ++ ws.map fun w => .launched w.id e.records) aloft'
  | [], _, _, aloft, h, _, _ => ⟨aloft, by simpa using h⟩
  | w :: ws, e, events, aloft, h, hids, hidle => by
    rw [List.map_cons, List.nodup_cons] at hids
    have hothers : ∀ v ∈ ws, v.id ∉ (e.launchScheduled w).inFlightIds := by
      intro v hv hmem
      rw [inFlightIds_launchScheduled, List.mem_append, List.mem_singleton] at hmem
      rcases hmem with hmem | heq
      · exact hidle v (List.mem_cons_of_mem _ hv) hmem
      · exact hids.1 (heq ▸ List.mem_map_of_mem hv)
    obtain ⟨aloft', hrest⟩ := Flights.launchAll (h.launch (hidle w List.mem_cons_self)) hids.2 hothers
    rw [List.append_assoc, records_launchScheduled] at hrest
    exact ⟨aloft', hrest⟩

/-- One scheduled execution among all executions, and how it flies: it may come
to fly otherwise, or go. -/
theorem Flights.split (h : e.Flights events aloft) {before after : List Execution} {f : Execution}
    (hexecutions : e.executions = before ++ f :: after) (howner : f.label.owner = .schedule) :
    ∃ b g a, aloft = b ++ g :: a ∧ f.Flies g
      ∧ (∀ (f' : Execution) (g' : String × Bool) (w : World), f'.label = f.label → f'.Flies g' →
        List.Forall₂ Execution.Flies ((e.moved (before ++ f' :: after) w).executionsOf .schedule)
          (b ++ g' :: a))
      ∧ ∀ w : World, List.Forall₂ Execution.Flies
        ((e.moved (before ++ after) w).executionsOf .schedule) (b ++ a) := by
  have hscheduled : e.executionsOf .schedule = before.filter (·.label.owner == .schedule)
      ++ f :: after.filter (·.label.owner == .schedule) := by
    simp [executionsOf, hexecutions, howner]
  obtain ⟨b, g, a, rfl, hg, hreplace, hdrop⟩ := forall₂_split (hscheduled ▸ h.flies)
  refine ⟨b, g, a, rfl, hg, fun f' g' w hlabel hf' => ?_, fun w => ?_⟩
  · simpa [executionsOf, moved, hlabel, howner] using hreplace f' g' hf'
  · simpa [executionsOf, moved] using hdrop

/-- Executions that fly as before keep the account. -/
theorem Flights.keep (h : e.Flights events aloft)
    (hflies : List.Forall₂ Execution.Flies (e'.executionsOf .schedule) aloft) :
    e'.Flights (events ++ []) aloft := by
  rw [List.append_nil]
  exact ⟨hflies, h.distinct, h.outcomes, h.landings⟩

/-- An outcome that is recorded or refused is owed no longer. -/
theorem Flights.outcome {b a : List (String × Bool)} {id : String} {event : FlightEvent}
    (h : e.Flights events (b ++ (id, true) :: a)) (hevent : event = .recorded id ∨ event = .refused id)
    (hflies : List.Forall₂ Execution.Flies (e'.executionsOf .schedule) (b ++ (id, false) :: a)) :
    e'.Flights (events ++ [event]) (b ++ (id, false) :: a) := by
  refine ⟨hflies, by simpa using h.distinct, fun other => ?_, fun other => ?_⟩
  · have houtcomes := h.outcomes other
    by_cases hother : id = other
    · rcases hevent with rfl | rfl
      all_goals
        simp [hother, List.count_append] at houtcomes ⊢
        omega
    · rcases hevent with rfl | rfl
      all_goals simpa [hother, List.count_append, List.count_cons] using houtcomes
  · have hlandings := h.landings other
    rcases hevent with rfl | rfl
    all_goals simpa [List.count_append, List.count_cons] using hlandings

/-- An execution that owes nothing may go. -/
theorem Flights.land {b a : List (String × Bool)} {id : String}
    (h : e.Flights events (b ++ (id, false) :: a))
    (hflies : List.Forall₂ Execution.Flies (e'.executionsOf .schedule) (b ++ a)) :
    e'.Flights (events ++ [.landed id]) (b ++ a) := by
  refine ⟨hflies, ?_, fun other => ?_, fun other => ?_⟩
  · have hsub : (b ++ a).Sublist (b ++ (id, false) :: a) :=
      (List.sublist_cons_self ..).append_left b
    exact h.distinct.sublist (hsub.map _)
  · simpa [List.count_append, List.count_cons] using h.outcomes other
  · have hlandings := h.landings other
    by_cases hother : id = other
    · simp [hother, List.count_append] at hlandings ⊢
      omega
    · simpa [hother, List.count_append, List.count_cons] using hlandings

/-- **Whatever happens keeps the account.** -/
theorem Flights.pulse {more : List FlightEvent} (h : e.Flights events aloft)
    (hpulse : Pulse e more e') : ∃ aloft', e'.Flights (events ++ more) aloft' := by
  cases hpulse with
  | @tick due hids =>
    refine h.launchAll (hids.sublist (List.filter_sublist.map _)) fun w hw hmem => ?_
    have hidle := (List.mem_filter.1 hw).2
    rw [isInFlight_eq, decide_eq_true hmem] at hidle
    cases hidle
  | resume hexecutions howner hresume =>
    obtain ⟨b, g, a, rfl, hg, hreplace, -⟩ := h.split hexecutions howner
    obtain ⟨reply, next, -, hlabel, -⟩ := Fiber.resume_eq_some hresume
    exact ⟨_, h.keep (hreplace _ g _ (by rw [hlabel]) (hg.resume hresume))⟩
  | act hexecutions howner hstage hrequest =>
    obtain ⟨b, g, a, rfl, hg, hreplace, -⟩ := h.split hexecutions howner
    exact ⟨_, h.keep (hreplace _ g _ rfl (hg.act hstage hrequest _))⟩
  | record hexecutions howner hstage _ =>
    obtain ⟨b, g, a, rfl, hg, hreplace, -⟩ := h.split hexecutions howner
    obtain ⟨rfl, hsettled⟩ := hg.record hstage (some .done)
    exact ⟨_, h.outcome (.inl rfl) (hreplace _ _ _ rfl hsettled)⟩
  | @refuse _ _ _ _ _ _ _ _ failure hexecutions howner hstage _ =>
    obtain ⟨b, g, a, rfl, hg, hreplace, -⟩ := h.split hexecutions howner
    obtain ⟨rfl, hsettled⟩ := hg.record hstage (some (.failed failure))
    exact ⟨_, h.outcome (.inr rfl) (hreplace _ _ _ rfl hsettled)⟩
  | land hexecutions howner hfinished =>
    obtain ⟨b, g, a, rfl, hg, -, hdrop⟩ := h.split hexecutions howner
    obtain rfl := hg.finished hfinished
    exact ⟨_, h.land (hdrop _)⟩
  | other hscheduled => exact ⟨aloft, h.keep (hscheduled ▸ h.flies)⟩

/-- So the account holds after any number of them. -/
theorem Pulses.flights {e₀ : Engine} (h₀ : e₀.executionsOf .schedule = []) :
    ∀ {e : Engine} {events : List FlightEvent}, Pulses e₀ events e → ∃ aloft, e.Flights events aloft
  | _, _, .nil => ⟨[], h₀ ▸ .nil, .nil, fun _ => rfl, fun _ => rfl⟩
  | _, _, .step h hpulse => by
    obtain ⟨aloft, hflights⟩ := h.flights h₀
    exact hflights.pulse hpulse

end Engine

end Automation
