/-
# Nothing begins after a cancellation

A process looks at its token before every request. So, if the token is
cancelled while the process waits for a reply, whoever cancels it, the process
comes to its end without another request (`Process.IsQuiet`): it is silent from
that reply on (`Process.IsSilent`). All tasks are so (`Task.process_quiet`), and
so are the runs that they are put together to (`Runner.run_quiet`).

For the requests of a run this means that none is made once the run is
cancelled, and that a request in whose course it is cancelled is the last
(`Process.IsQuiet.uncancelled`, `Process.IsQuiet.last`). For its visits it means
that they fall into two parts: those that began before, and those after, which
are all skipped, at whatever depth and of whatever kind
(`Setting.VisitsAll.parted`). `Setting.run_stilled` puts the two together.

Key definitions: `Process.IsSilent`, `Process.IsQuiet`, `Process.requests`,
`Setting.Parted`, `Setting.Stilled`.
Key theorems: `Task.process_quiet`, `Runner.run_quiet`, `Process.IsQuiet.last`,
`Setting.VisitsAll.parted`, `Setting.run_stilled`.
-/
import Automation.Proofs.Run.Cancellation

namespace Automation

namespace Process

variable {α β σ : Type}

/-! ### Processes that a cancellation stills -/

/-- Once its token is cancelled the process comes to its end without a request. -/
def IsSilent : Process α → Prop
  | .done _ => True
  | .clock next => ∀ now, (next now).IsSilent
  | .token next => (next true).IsSilent
  | .ask _ _ => False

/-- If its token is cancelled before a reply comes, the process goes on with the
reply without another request. -/
def IsQuiet : Process α → Prop
  | .done _ => True
  | .clock next => ∀ now, (next now).IsQuiet
  | .token next => ∀ cancelled, (next cancelled).IsQuiet
  | .ask _ next => ∀ reply, (next reply).IsSilent ∧ (next reply).IsQuiet

theorem IsSilent.bind {f : α → Process β} (hf : ∀ a, (f a).IsSilent) :
    ∀ {p : Process α}, p.IsSilent → (p.bind f).IsSilent
  | .done a, _ => hf a
  | .clock _, h => fun now => IsSilent.bind hf (h now)
  | .token next, h => IsSilent.bind (p := next true) hf h
  | .ask _ _, h => h.elim

/-- A cancellation may come while the first process waits, so what follows it
has to be silent as well as quiet. -/
theorem IsQuiet.bind {f : α → Process β} (hf : ∀ a, (f a).IsSilent ∧ (f a).IsQuiet) :
    ∀ {p : Process α}, p.IsQuiet → (p.bind f).IsQuiet
  | .done a, _ => (hf a).2
  | .clock _, h => fun now => IsQuiet.bind hf (h now)
  | .token _, h => fun cancelled => IsQuiet.bind hf (h cancelled)
  | .ask _ _, h => fun reply =>
    ⟨(h reply).1.bind fun a => (hf a).1, IsQuiet.bind hf (h reply).2⟩

/-- Silent and quiet: what may begin at any moment. -/
def IsStill (p : Process α) : Prop := p.IsSilent ∧ p.IsQuiet

theorem isStill_done (a : α) : (done a).IsStill := ⟨trivial, trivial⟩

theorem IsStill.bind {f : α → Process β} {p : Process α} (h : p.IsStill)
    (hf : ∀ a, (f a).IsStill) : (p.bind f).IsStill :=
  ⟨h.1.bind fun a => (hf a).1, h.2.bind hf⟩

theorem IsStill.map {p : Process α} (h : p.IsStill) (f : α → β) : (p.map f).IsStill :=
  h.bind fun a => isStill_done (f a)

theorem isStill_perform (request : Request) : (perform request).IsStill := by
  refine ⟨trivial, fun cancelled => ?_⟩
  cases cancelled with
  | true => exact trivial
  | false => exact fun reply => isStill_done reply

theorem IsStill.unlessCancelled {p : Process Outcome} (h : p.IsQuiet) (kind : String) :
    (p.unlessCancelled kind).IsStill := by
  refine ⟨trivial, fun cancelled => ?_⟩
  cases cancelled with
  | true => exact trivial
  | false => exact h

/-! ### The requests of a process -/

/-- A request that was made, with the state in which it was made and the state
in which its reply came. -/
structure Made (σ : Type) where
  before : σ
  request : Request
  after : σ

/-- The requests that a process makes, in order. -/
def requests (env : Environment σ) (token : Token) : Process α → σ → List (Made σ)
  | .done _, _ => []
  | .clock next, s => (next (env.now s)).requests env token s
  | .token next, s => (next (env.cancelled token s)).requests env token s
  | .ask request next, s =>
    let (reply, t) := env.serve token request s
    ⟨s, request, t⟩ :: (next (reply.getD .cancelled)).requests env token t

variable (env : Environment σ) (token : Token)

/-- Only requests change the state: a process leaves the state that its last
request leaves. -/
theorem run_state : ∀ (p : Process α) (s : σ),
    (p.run env token s).2 = ((p.requests env token s).getLast?.map (·.after)).getD s
  | .done _, _ => rfl
  | .clock next, s => run_state (next (env.now s)) s
  | .token next, s => run_state (next (env.cancelled token s)) s
  | .ask request next, s => by
    have hrest := run_state (next ((env.serve token request s).1.getD .cancelled))
      (env.serve token request s).2
    rw [run, hrest, requests, List.getLast?_cons]
    cases ((next _).requests env token _).getLast? with
    | none => rfl
    | some _ => rfl

/-- What follows a process makes its requests from the state that the process
leaves. -/
theorem requests_bind (f : α → Process β) :
    ∀ (p : Process α) (s : σ), (p.bind f).requests env token s =
      p.requests env token s
        ++ (f (p.run env token s).1).requests env token (p.run env token s).2
  | .done _, _ => rfl
  | .clock next, s => requests_bind f (next (env.now s)) s
  | .token next, s => requests_bind f (next (env.cancelled token s)) s
  | .ask request next, s =>
    congrArg (_ :: ·) (requests_bind f (next ((env.serve token request s).1.getD .cancelled))
      (env.serve token request s).2)

theorem requests_map (f : α → β) (p : Process α) (s : σ) :
    (p.map f).requests env token s = p.requests env token s := by
  rw [map, requests_bind]
  exact List.append_nil _

/-- A silent process that has been cancelled makes no request. -/
theorem IsSilent.requests_eq_nil {s : σ} (hs : env.cancelled token s = true) :
    ∀ {p : Process α}, p.IsSilent → p.requests env token s = []
  | .done _, _ => rfl
  | .clock next, h => IsSilent.requests_eq_nil (p := next (env.now s)) hs (h _)
  | .token next, h => by
    rw [requests, hs]
    exact IsSilent.requests_eq_nil (p := next true) hs h
  | .ask _ _, h => h.elim

/-- A quiet process makes its requests before it is cancelled. -/
theorem IsQuiet.uncancelled : ∀ {p : Process α} {s : σ}, p.IsQuiet →
    (env.cancelled token s = true → p.IsSilent) →
    ∀ made ∈ p.requests env token s, env.cancelled token made.before = false
  | .done _, _, _, _, made, hmade => by cases hmade
  | .clock _, _, h, hs, made, hmade =>
    IsQuiet.uncancelled (h _) (fun hc => hs hc _) made hmade
  | .token next, s, h, hs, made, hmade => by
    refine IsQuiet.uncancelled (h (env.cancelled token s)) (fun hc => ?_) made hmade
    rw [hc]
    exact hs hc
  | .ask request next, s, h, hs, made, hmade => by
    rcases List.mem_cons.1 hmade with rfl | hmade
    · exact Bool.eq_false_iff.2 hs
    · exact IsQuiet.uncancelled (h _).2 (fun _ => (h _).1) made hmade

/-- If a quiet process is cancelled in the course of a request, it makes no
request after it. -/
theorem IsQuiet.last : ∀ {p : Process α} {s : σ}, p.IsQuiet →
    ∀ {front : List (Made σ)} {made : Made σ} {back : List (Made σ)},
      p.requests env token s = front ++ made :: back →
      env.cancelled token made.after = true → back = []
  | .done _, _, _, front, made, back, hsplit, _ => by
    cases front <;> cases hsplit
  | .clock _, _, h, _, _, _, hsplit, hcancelled => IsQuiet.last (h _) hsplit hcancelled
  | .token _, _, h, _, _, _, hsplit, hcancelled => IsQuiet.last (h _) hsplit hcancelled
  | .ask request next, s, h, front, made, back, hsplit, hcancelled => by
    rw [requests] at hsplit
    cases front with
    | nil =>
      obtain ⟨rfl, rfl⟩ := List.cons.inj hsplit
      exact (h _).1.requests_eq_nil env token hcancelled
    | cons first front =>
      have hrest := (List.cons.inj hsplit).2
      exact IsQuiet.last (h _).2 hrest hcancelled

end Process

/-! ### Tasks and runs -/

namespace Task

theorem request_still (r : Request) (f : Reply → Result) :
    ((Process.perform r).map f).IsStill :=
  (Process.isStill_perform r).map f

theorem writeFound_still (kind : EntityKind) (id : String) (patch : Members) :
    ∀ reply, (writeFound kind id patch reply).IsStill
  | .found fields => by
    simp only [writeFound]
    split
    · exact Process.isStill_perform _
    · exact Process.isStill_done _
  | .done | .status _ | .record _ | .failed _ | .cancelled => Process.isStill_done _

theorem sleepFor_still (milliseconds : Int) :
    ∀ seconds : Option Double, (sleepFor milliseconds seconds).IsStill
  | some _ => request_still _ _
  | none => Process.isStill_done _

/-- **A task that is cancelled while it waits makes no further request.** Only an
update makes more than one: it finds its record first. -/
theorem process_quiet (runner : Runner) (ctx : Context) (payload : Json) :
    ∀ task : Task, (task.process runner ctx payload).IsStill
  | .email addresses subject body => by
    simp only [process, sendEmail]
    split
    · exact Process.isStill_done _
    · split
      · exact Process.isStill_done _
      · exact request_still _ _
  | .notification user title message priority => by
    simp only [process, emitNotification]
    split
    · exact Process.isStill_done _
    · split
      · exact Process.isStill_done _
      · exact ⟨fun _ => (request_still _ _).1, fun _ => (request_still _ _).2⟩
  | .webhook url method headers body => by
    simp only [process, callWebhook]
    split
    · exact Process.isStill_done _
    · exact request_still _ _
  | .update entity id updates => by
    simp only [process, updateRecord]
    split
    · exact Process.isStill_done _
    · split
      · exact Process.isStill_done _
      · exact ((Process.isStill_perform _).bind (writeFound_still _ _ _)).map _
  | .create entity data => by
    simp only [process, createRecord]
    split
    · exact Process.isStill_done _
    · exact request_still _ _
  | .approval .. => Process.isStill_done _
  | .delay _ => sleepFor_still ..
  | .unknown _ => Process.isStill_done _

end Task

theorem Step.runAll_still : ∀ {steps : List Step},
    (∀ s ∈ steps, ∀ depth, (s.process depth).IsStill) →
    ∀ depth, (Step.runAll depth steps).IsStill
  | [], _, _ => Process.isStill_done _
  | step :: rest, h, depth => by
    have hrest := runAll_still (fun s hs => h s (List.mem_cons_of_mem _ hs)) depth
    refine (h step (List.mem_cons_self ..) depth).bind fun outcome => ?_
    cases outcome.failure with
    | none => exact hrest.map _
    | some f =>
      by_cases hc : step.continueOnError = true
      · simp only [if_pos hc]
        exact hrest.map _
      · simp only [if_neg hc]
        exact Process.isStill_done _

theorem Step.sorted_still {steps : List Step} (h : ∀ s ∈ steps, ∀ depth, (s.process depth).IsStill)
    (depth : Int) : (Step.runAll depth (Step.sorted steps)).IsStill :=
  runAll_still (fun s hs => h s (List.mem_mergeSort.1 hs)) depth

namespace Runner

variable (runner : Runner) (ctx : Context) (payload : Json)

theorem branch_still (condition : Option Condition) {thens elses : List Step}
    (hthens : ∀ s ∈ thens, ∀ depth, (s.process depth).IsStill)
    (helses : ∀ s ∈ elses, ∀ depth, (s.process depth).IsStill) (depth : Int) :
    (runner.branch payload condition thens elses depth).IsStill := by
  cases condition with
  | none => exact Process.isStill_done _
  | some c =>
    simp only [branch]
    split
    · exact Process.isStill_done _
    · refine (Step.sorted_still ?_ _).map _
      split
      · exact hthens
      · exact helses

mutual

theorem step_still : ∀ (a : Action) (depth : Int),
    ((runner.step ctx payload a).process depth).IsStill
  | .task _ task, _ =>
    .unlessCancelled ((task.process_quiet runner ctx payload).map _).2 _
  | .branch _ condition thens elses, depth =>
    .unlessCancelled (branch_still runner payload condition (steps_still thens)
      (steps_still elses) depth).2 _

theorem steps_still : ∀ actions : List Action, ∀ s ∈ runner.steps ctx payload actions,
    ∀ depth, (s.process depth).IsStill
  | [], s, hs => by cases hs
  | a :: rest, s, hs => by
    rcases List.mem_cons.1 hs with heq | hs
    · exact heq ▸ step_still a
    · exact steps_still rest s hs

end

/-- **A run that is cancelled makes no further request**, whatever it waits for. -/
theorem run_quiet (actions : List Action) (depth : Int) :
    (runner.run ctx payload actions depth).IsStill :=
  Step.sorted_still (steps_still runner ctx payload actions) depth

end Runner

/-! ### The visits of a cancelled run -/

namespace Setting

variable {σ : Type} {X : Setting σ}

/-- Visits from state `s` to state `t` that fall into those that began before a
cancellation and those that were skipped because of it. -/
structure Parted (X : Setting σ) (nodes : List (Int × Visit σ)) (s t : σ)
    (begun skipped : List (Int × Visit σ)) : Prop where
  nodes_eq : nodes = begun ++ skipped
  before : ∀ n ∈ begun, X.isCancelled n.2.start = false
  after : ∀ n ∈ skipped, X.isCancelled n.2.start = true ∧ n.2.IsSkip
  /-- Nothing begins in a state that is cancelled already, nor changes it. -/
  start : X.isCancelled s = true → begun = [] ∧ t = s
  /-- What is skipped leaves a state that is cancelled. -/
  finish : skipped ≠ [] → X.isCancelled t = true

theorem Parted.nil (s : σ) : X.Parted [] s s [] [] where
  nodes_eq := rfl
  before := nofun
  after := nofun
  start _ := ⟨rfl, rfl⟩
  finish h := absurd rfl h

/-- One visit that began, with those inside it. -/
theorem Parted.cons {node : Int × Visit σ} {nodes begun skipped : List (Int × Visit σ)} {s t : σ}
    (h : X.Parted nodes s t begun skipped) (hs : X.isCancelled s = false)
    (hnode : node.2.start = s) : X.Parted (node :: nodes) s t (node :: begun) skipped where
  nodes_eq := by rw [h.nodes_eq, List.cons_append]
  before := List.forall_mem_cons.2 ⟨hnode ▸ hs, h.before⟩
  after := h.after
  start hc := by
    rw [hs] at hc
    cases hc
  finish := h.finish

theorem Parted.append {nodes more : List (Int × Visit σ)} {s t u : σ}
    {begun skipped begun' skipped' : List (Int × Visit σ)} (h : X.Parted nodes s t begun skipped)
    (h' : X.Parted more t u begun' skipped') :
    ∃ begun skipped, X.Parted (nodes ++ more) s u begun skipped := by
  have hstart : X.isCancelled s = true → u = s := by
    intro hs
    obtain ⟨-, rfl⟩ := h.start hs
    exact (h'.start hs).2
  by_cases hskipped : skipped = []
  · refine ⟨begun ++ begun', skipped', ⟨?_, ?_, h'.after, fun hs => ⟨?_, hstart hs⟩, h'.finish⟩⟩
    · rw [h.nodes_eq, h'.nodes_eq, hskipped, List.append_nil, List.append_assoc]
    · exact List.forall_mem_append.2 ⟨h.before, h'.before⟩
    · obtain ⟨hbegun, rfl⟩ := h.start hs
      rw [hbegun, (h'.start hs).1, List.append_nil]
  · -- the second part begins in a cancelled state, so all of it is skipped
    have ht := h.finish hskipped
    obtain ⟨hbegun', rfl⟩ := h'.start ht
    refine ⟨begun, skipped ++ skipped', ⟨?_, h.before, ?_, fun hs => ⟨(h.start hs).1, hstart hs⟩, fun _ => ht⟩⟩
    · rw [h.nodes_eq, h'.nodes_eq, hbegun', List.nil_append, List.append_assoc]
    · exact List.forall_mem_append.2 ⟨h.after, h'.after⟩

mutual

theorem Visits.parted {depth : Int} {s t : σ} {a : Action} {v : Visit σ} :
    X.Visits depth s a v t → ∃ begun skipped, X.Parted (v.nodes depth) s t begun skipped
  | .cancelled hc => by
    refine ⟨[], _, ⟨rfl, nofun, fun n hn => ?_, fun _ => ⟨rfl, rfl⟩, fun _ => hc⟩⟩
    obtain rfl := List.mem_singleton.1 hn
    exact ⟨hc, rfl, rfl⟩
  | .task hc _ => by
    refine ⟨_, [], ⟨(List.append_nil _).symm, fun n hn => ?_, nofun, fun hs => ?_, fun h => absurd rfl h⟩⟩
    · obtain rfl := List.mem_singleton.1 hn
      exact hc
    · rw [hs] at hc
      cases hc
  | .noCondition hc | .tooDeep hc _ => ⟨_, _, (Parted.nil _).cons hc rfl⟩
  | .branch hc _ hinside => by
    obtain ⟨begun, skipped, hparted⟩ := hinside.parted
    exact ⟨_, _, hparted.cons hc rfl⟩

/-- **A cancellation parts the visits of a run**: whatever is visited after it,
inside branches and outside, is skipped. -/
theorem VisitsAll.parted {depth : Int} {s t : σ} {actions : List Action} {visits : List (Visit σ)}
    {failure : Option ActionFailure} : X.VisitsAll depth s actions visits failure t →
      ∃ begun skipped, X.Parted (Visit.nodesOf depth visits) s t begun skipped
  | .nil => ⟨_, _, .nil _⟩
  | .stop hv _ => by
    rw [Visit.nodesOf, Visit.nodesOf, List.append_nil]
    exact hv.parted
  | .goOn hv _ hvs => by
    obtain ⟨_, _, hfirst⟩ := hv.parted
    obtain ⟨_, _, hrest⟩ := hvs.parted
    exact hfirst.append hrest

end

/-! ### Runs -/

/-- The requests that a run of actions makes, in order. -/
def requests (X : Setting σ) (depth : Int) (actions : List Action) (s : σ) :
    List (Process.Made σ) :=
  (X.runner.run X.ctx X.payload actions depth).requests X.env X.ctx.token s

/-- The requests that one action makes, in order. -/
def actRequests (X : Setting σ) (depth : Int) (a : Action) (s : σ) : List (Process.Made σ) :=
  ((X.runner.step X.ctx X.payload a).process depth).requests X.env X.ctx.token s

/-- What a cancellation makes of a run, at whatever moment it comes: before the
run, in the course of one of its requests, or never. -/
structure Stilled (X : Setting σ) (depth : Int) (actions : List Action) (s : σ)
    (visits : List (Visit σ)) (begun skipped : List (Int × Visit σ)) : Prop where
  /-- Whatever reply the run waits for, if it is cancelled before the reply
  comes, it goes on to its end without a request. -/
  quiet : (X.runner.run X.ctx X.payload actions depth).IsStill
  /-- No request is made once the run is cancelled. -/
  uncancelled : ∀ made ∈ X.requests depth actions s, X.isCancelled made.before = false
  /-- If the run is cancelled in the course of a request, that is the last. -/
  last : ∀ front made back, X.requests depth actions s = front ++ made :: back →
    X.isCancelled made.after = true → back = []
  /-- Nothing else has an effect. -/
  state : (X.run depth actions s).2 =
    ((X.requests depth actions s).getLast?.map (·.after)).getD s
  rules : ∃ t, X.VisitsAll depth s (Action.sorted actions) visits (X.run depth actions s).1.failure t
  nodes_eq : Visit.nodesOf depth visits = begun ++ skipped
  /-- The entries of the trace are those of the visits that began before the
  cancellation, and then those of the others. -/
  trace : (X.run depth actions s).1.trace =
    (begun.map fun n => n.2.entry n.1) ++ skipped.map fun n => n.2.entry n.1
  before : ∀ n ∈ begun, X.isCancelled n.2.start = false
  /-- Each action that is visited after the cancellation is traced as failed, as
  cancelled, and nothing inside it is visited. -/
  after : ∀ n ∈ skipped, X.isCancelled n.2.start = true ∧ n.2.inside = []
    ∧ n.2.entry n.1 = ⟨n.2.action.kind, .failed, n.1, some .cancellation, none⟩
    ∧ ActionError.cancellation.kind = .cancelled

/-- **Nothing begins after a cancellation.** Whatever the actions, the event, the
replies and the moment at which the run is cancelled: no request is made from
then on, and every action that is visited from then on, at any depth and of any
kind, fails as cancelled. -/
theorem run_stilled (X : Setting σ) (depth : Int) (actions : List Action) (s : σ) :
    ∃ visits begun skipped, X.Stilled depth actions s visits begun skipped := by
  obtain ⟨visits, hvisits, htrace⟩ := X.run_visits depth actions s
  obtain ⟨begun, skipped, hparted⟩ := hvisits.parted
  have hstill := X.runner.run_quiet X.ctx X.payload actions depth
  refine ⟨visits, begun, skipped, {
    quiet := hstill
    uncancelled := hstill.2.uncancelled X.env X.ctx.token fun _ => hstill.1
    last := fun _ _ _ hsplit => hstill.2.last X.env X.ctx.token hsplit
    state := Process.run_state X.env X.ctx.token _ s
    rules := ⟨_, hvisits⟩
    nodes_eq := hparted.nodes_eq
    trace := ?_
    before := hparted.before
    after := fun n hn => ?_ }⟩
  · rw [htrace, Visit.listing, hparted.nodes_eq, List.map_append]
  · obtain ⟨hcancelled, houtcome, hinside⟩ := hparted.after n hn
    refine ⟨hcancelled, hinside, ?_, rfl⟩
    rw [Visit.entry, houtcome]
    rfl

end Setting

end Automation
