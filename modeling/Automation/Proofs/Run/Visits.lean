/-
# What a run visits

A run is told by rules, one for each way in which a visit of an action can go
(`Setting.Visits`), and by three for a list of actions: it is empty, it ends
with a visit that stops it, or it goes on (`Setting.VisitsAll`). A visit keeps
the state in which it began and the visits inside it, so the visits of a run
are a tree, and the trace of the run is that tree read from the top
(`Visit.listing`).

Every run follows the rules (`Setting.run_visits`), whatever its requests are
answered. All else is read off the rules: how deep a visit can be
(`Setting.VisitsAll.of_mem_nodes`), which visits are left out
(`Setting.VisitsAll.actions_eq_or_stops`), and where the failure of a run is
found in its trace (`Setting.VisitsAll.getLast?_listing`).

Key definitions: `Visit`, `Visit.listing`, `Setting`, `Setting.Visits`,
`Setting.VisitsAll`, `Setting.Account`.
Key theorems: `Setting.run_visits`, `Setting.run_account`.
-/
import Automation.Run.Sequence

namespace Automation

/-! ### Lists of actions in order -/

/-- The same actions by their order, where those of one order stay as they
were listed. -/
structure Action.IsStableSort (actions sorted : List Action) : Prop where
  perm : sorted.Perm actions
  ordered : sorted.Pairwise fun a b => a.order ≤ b.order
  stable : ∀ n : Int, (sorted.filter fun a => a.order == n) = actions.filter fun a => a.order == n

theorem Action.order_trans (a b c : Action) :
    decide (a.order ≤ b.order) = true → decide (b.order ≤ c.order) = true →
      decide (a.order ≤ c.order) = true := by
  simp only [decide_eq_true_eq]
  omega

theorem Action.order_total (a b : Action) :
    (decide (a.order ≤ b.order) || decide (b.order ≤ a.order)) = true := by
  simp only [Bool.or_eq_true, decide_eq_true_eq]
  omega

theorem Action.sorted_pairwise (actions : List Action) :
    (Action.sorted actions).Pairwise fun a b => a.order ≤ b.order :=
  (List.pairwise_mergeSort order_trans order_total actions).imp fun h => by simpa using h

theorem Action.sorted_stable (actions : List Action) (n : Int) :
    ((Action.sorted actions).filter fun a => a.order == n)
      = actions.filter fun a => a.order == n := by
  have hsub : (actions.filter fun a => a.order == n).Sublist (Action.sorted actions) := by
    refine List.sublist_mergeSort order_trans order_total ?_ List.filter_sublist
    refine List.pairwise_of_forall_mem_list fun a ha b hb => ?_
    have hal : a.order = n := by simpa using (List.mem_filter.1 ha).2
    have hbl : b.order = n := by simpa using (List.mem_filter.1 hb).2
    simp [hal, hbl]
  have hfilter := hsub.filter fun a => a.order == n
  simp only [List.filter_filter, Bool.and_self] at hfilter
  have hperm : (Action.sorted actions).Perm actions := List.mergeSort_perm ..
  exact (hfilter.eq_of_length (hperm.filter _).length_eq.symm).symm

theorem Action.sorted_isStableSort (actions : List Action) :
    Action.IsStableSort actions (Action.sorted actions) :=
  ⟨List.mergeSort_perm .., sorted_pairwise actions, sorted_stable actions⟩

/-- What is in order stays as it is. -/
theorem Action.sorted_sorted (actions : List Action) :
    Action.sorted (Action.sorted actions) = Action.sorted actions :=
  List.mergeSort_of_pairwise ((sorted_pairwise actions).imp fun h => by simpa using h)

/-! ### The parts of a run -/

theorem Process.run_map {α β σ : Type} (env : Environment σ) (token : Token) (f : α → β)
    (p : Process α) (s : σ) :
    (p.map f).run env token s = (f (p.run env token s).1, (p.run env token s).2) := by
  rw [map, run_bind]
  rfl

theorem Process.run_unlessCancelled {σ : Type} (env : Environment σ) (token : Token)
    (kind : String) (p : Process Outcome) (s : σ) :
    (p.unlessCancelled kind).run env token s =
      if env.cancelled token s then (.failed kind .cancellation, s) else p.run env token s := by
  simp only [unlessCancelled, run]
  split <;> rfl

theorem Task.outcome_inner (kind : String) (result : Task.Result) :
    (Task.outcome kind result).inner = [] := by
  cases result <;> rfl

theorem Task.outcome_status {kind : String} {result : Task.Result} {f : ActionFailure}
    (hf : (Task.outcome kind result).failure = some f) :
    (Task.outcome kind result).status = .failed := by
  cases result with
  | ok _ => cases hf
  | error _ => rfl

/-! ### Visits -/

/-- A visit of an action: the state in which it begins, the action, what comes
of it, and the visits inside it. -/
inductive Visit (σ : Type) where
  | mk (start : σ) (action : Action) (outcome : Outcome) (inside : List (Visit σ))

namespace Visit

variable {σ : Type}

def start : Visit σ → σ
  | mk s _ _ _ => s

def action : Visit σ → Action
  | mk _ a _ _ => a

def outcome : Visit σ → Outcome
  | mk _ _ o _ => o

def inside : Visit σ → List (Visit σ)
  | mk _ _ _ vs => vs

/-- Whether the visit ends the list of actions that it is in: the action has
failed and does not let the run go on. -/
def stops (v : Visit σ) : Bool := v.outcome.failure.isSome && !v.action.continueOnError

def entry (depth : Int) (v : Visit σ) : TraceEntry := v.outcome.entry v.action.kind depth

mutual

/-- A visit at a depth and the visits inside it, from the top. -/
def nodes (depth : Int) : Visit σ → List (Int × Visit σ)
  | mk s a o inside => (depth, mk s a o inside) :: nodesOf (depth + 1) inside

def nodesOf (depth : Int) : List (Visit σ) → List (Int × Visit σ)
  | [] => []
  | v :: vs => v.nodes depth ++ nodesOf depth vs

end

/-- The entries of visits at a depth, where those of the visits inside a visit
follow its own. -/
def listing (depth : Int) (visits : List (Visit σ)) : List TraceEntry :=
  (nodesOf depth visits).map fun n => n.2.entry n.1

theorem listing_cons (depth : Int) (v : Visit σ) (vs : List (Visit σ)) :
    listing depth (v :: vs) =
      v.entry depth :: (listing (depth + 1) v.inside ++ listing depth vs) := by
  obtain ⟨s, a, o, inside⟩ := v
  simp [listing, nodesOf, nodes, Visit.inside]

end Visit

/-! ### The rules -/

/-- What a run is given: the meaning of its requests, what it can rely on, and
the event with its context. -/
structure Setting (σ : Type) where
  env : Environment σ
  runner : Runner
  ctx : Context
  payload : Json

namespace Setting

variable {σ : Type}

def isCancelled (X : Setting σ) (s : σ) : Bool := X.env.cancelled X.ctx.token s

/-- Runs actions at a depth. -/
def run (X : Setting σ) (depth : Int) (actions : List Action) (s : σ) : RunResult × σ :=
  (X.runner.run X.ctx X.payload actions depth).run X.env X.ctx.token s

/-- Carries out one action at a depth. -/
def act (X : Setting σ) (depth : Int) (a : Action) (s : σ) : Outcome × σ :=
  ((X.runner.step X.ctx X.payload a).process depth).run X.env X.ctx.token s

mutual

/-- `Visits depth s a v t`: in state `s` a visit of `a` at `depth` is `v`, and
it leaves state `t`. -/
inductive Visits (X : Setting σ) : Int → σ → Action → Visit σ → σ → Prop where
  /-- Nothing is begun once the run is cancelled. -/
  | cancelled {depth : Int} {s : σ} {a : Action} : X.isCancelled s = true →
      X.Visits depth s a (.mk s a (.failed a.kind .cancellation) []) s
  | task {depth : Int} {s t : σ} {policy : Policy} {task : Task} {result : Task.Result} :
      X.isCancelled s = false →
      (task.process X.runner X.ctx X.payload).run X.env X.ctx.token s = (result, t) →
      X.Visits depth s (.task policy task)
        (.mk s (.task policy task) (Task.outcome task.kind result) []) t
  | noCondition {depth : Int} {s : σ} {policy : Policy} {thens elses : List Action} :
      X.isCancelled s = false →
      X.Visits depth s (.branch policy none thens elses)
        (.mk s (.branch policy none thens elses)
          (.failed "condition"
            (.definition "Condition action requires a condition" "condition")) []) s
  | tooDeep {depth : Int} {s : σ} {policy : Policy} {c : Condition} {thens elses : List Action} :
      X.isCancelled s = false → X.runner.maxDepth < depth + 1 →
      X.Visits depth s (.branch policy (some c) thens elses)
        (.mk s (.branch policy (some c) thens elses)
          (.failed "condition" (.definition
            s!"Condition nesting exceeds maximum depth of {X.runner.maxDepth}" none)) []) s
  /-- A branch visits the actions of one side, one step deeper. -/
  | branch {depth : Int} {s t : σ} {policy : Policy} {c : Condition} {thens elses : List Action}
      {inside : List (Visit σ)} {failure : Option ActionFailure} :
      X.isCancelled s = false → depth + 1 ≤ X.runner.maxDepth →
      X.VisitsAll (depth + 1) s (Action.sorted (if c.holds X.payload then thens else elses))
        inside failure t →
      X.Visits depth s (.branch policy (some c) thens elses)
        (.mk s (.branch policy (some c) thens elses)
          (Runner.branchOutcome (c.holds X.payload)
            ⟨Visit.listing (depth + 1) inside, failure⟩) inside) t

/-- `VisitsAll depth s actions visits failure t`: in state `s` the visits of
`actions`, taken in order, are `visits`; they end with `failure`, if any, and
leave state `t`. -/
inductive VisitsAll (X : Setting σ) :
    Int → σ → List Action → List (Visit σ) → Option ActionFailure → σ → Prop where
  | nil {depth : Int} {s : σ} : X.VisitsAll depth s [] [] none s
  | stop {depth : Int} {s t : σ} {a : Action} {rest : List Action} {v : Visit σ} :
      X.Visits depth s a v t → v.stops = true →
      X.VisitsAll depth s (a :: rest) [v] v.outcome.failure t
  | goOn {depth : Int} {s t u : σ} {a : Action} {rest : List Action} {v : Visit σ}
      {vs : List (Visit σ)} {failure : Option ActionFailure} :
      X.Visits depth s a v t → v.stops = false → X.VisitsAll depth t rest vs failure u →
      X.VisitsAll depth s (a :: rest) (v :: vs) failure u

end

/-! ### Every run follows the rules -/

theorem steps_eq_map (runner : Runner) (ctx : Context) (payload : Json) :
    ∀ actions : List Action,
      runner.steps ctx payload actions = actions.map (runner.step ctx payload)
  | [] => rfl
  | a :: rest => by rw [Runner.steps, steps_eq_map runner ctx payload rest, List.map_cons]

theorem step_order (runner : Runner) (ctx : Context) (payload : Json) (a : Action) :
    (runner.step ctx payload a).order = a.order := by
  cases a <;> rfl

theorem step_continueOnError (runner : Runner) (ctx : Context) (payload : Json) (a : Action) :
    (runner.step ctx payload a).continueOnError = a.continueOnError := by
  cases a <;> rfl

theorem step_kind (runner : Runner) (ctx : Context) (payload : Json) (a : Action) :
    (runner.step ctx payload a).kind = a.kind := by
  cases a <;> rfl

/-- To put the steps of actions in order is to put the actions in order. -/
theorem sorted_steps (runner : Runner) (ctx : Context) (payload : Json) (actions : List Action) :
    Step.sorted (runner.steps ctx payload actions)
      = (Action.sorted actions).map (runner.step ctx payload) := by
  rw [steps_eq_map, Step.sorted, Action.sorted, List.map_mergeSort]
  intro a _ b _
  simp only [step_order]

/-- Runs actions that are in order. -/
def runSorted (X : Setting σ) (depth : Int) (actions : List Action) (s : σ) : RunResult × σ :=
  (Step.runAll depth (actions.map (X.runner.step X.ctx X.payload))).run X.env X.ctx.token s

theorem run_eq_runSorted (X : Setting σ) (depth : Int) (actions : List Action) (s : σ) :
    X.run depth actions s = X.runSorted depth (Action.sorted actions) s := by
  rw [run, Runner.run, sorted_steps, runSorted]

/-- The run of a list is the visit of its first action, followed, unless that
stops it, by the run of the others. -/
theorem runSorted_cons (X : Setting σ) (depth : Int) (a : Action) (rest : List Action) (s : σ) :
    X.runSorted depth (a :: rest) s =
      let o := (X.act depth a s).1
      let visited := o.entry a.kind depth :: o.inner
      if o.failure.isSome && !a.continueOnError then
        (⟨visited, o.failure⟩, (X.act depth a s).2)
      else
        let r := X.runSorted depth rest (X.act depth a s).2
        (⟨visited ++ r.1.trace, r.1.failure⟩, r.2) := by
  rw [runSorted, List.map_cons, Step.runAll, Process.run_bind]
  simp only [step_kind, step_continueOnError]
  rw [← act]
  cases hf : (X.act depth a s).1.failure with
  | none =>
    simp only [Option.isSome_none, Bool.false_and, Bool.false_eq_true, ↓reduceIte, Process.run_map]
    rfl
  | some f =>
    cases hc : a.continueOnError with
    | true =>
      simp only [Option.isSome_some, Bool.not_true, Bool.and_false, Bool.false_eq_true, ↓reduceIte,
        Process.run_map]
      rfl
    | false => rfl

/-- A visit of an action is what carrying it out comes to. -/
structure Carries (X : Setting σ) (depth : Int) (a : Action) (s : σ) (v : Visit σ) : Prop where
  visits : X.Visits depth s a v (X.act depth a s).2
  outcome : v.outcome = (X.act depth a s).1
  inner : v.outcome.inner = Visit.listing (depth + 1) v.inside

theorem Carries.of_visits {X : Setting σ} {depth : Int} {s t : σ} {a : Action} {v : Visit σ}
    (hv : X.Visits depth s a v t) (hact : X.act depth a s = (v.outcome, t))
    (hinner : v.outcome.inner = Visit.listing (depth + 1) v.inside) : X.Carries depth a s v where
  visits := by rwa [hact]
  outcome := by rw [hact]
  inner := hinner

theorem Visits.start_eq {X : Setting σ} {depth : Int} {s t : σ} {a : Action} {v : Visit σ} :
    X.Visits depth s a v t → v.start = s ∧ v.action = a
  | .cancelled _ => ⟨rfl, rfl⟩
  | .task _ _ => ⟨rfl, rfl⟩
  | .noCondition _ => ⟨rfl, rfl⟩
  | .tooDeep _ _ => ⟨rfl, rfl⟩
  | .branch _ _ _ => ⟨rfl, rfl⟩

/-- If each action of a list is carried out by the rules, so is the list. -/
theorem runSorted_visitsAll (X : Setting σ) (depth : Int) : ∀ (actions : List Action) (s : σ),
    (∀ a ∈ actions, ∀ (depth : Int) (s : σ), ∃ v, X.Carries depth a s v) →
    ∃ visits, X.VisitsAll depth s actions visits (X.runSorted depth actions s).1.failure
        (X.runSorted depth actions s).2
      ∧ (X.runSorted depth actions s).1.trace = Visit.listing depth visits
  | [], s, _ => ⟨[], .nil, rfl⟩
  | a :: rest, s, h => by
    obtain ⟨v, hv, houtcome, hinner⟩ := h a (List.mem_cons_self ..) depth s
    obtain rfl := hv.start_eq.2
    have hstops : (v.outcome.failure.isSome && !v.action.continueOnError) = v.stops := rfl
    rw [runSorted_cons]
    simp only [← houtcome, hstops]
    by_cases hs : v.stops = true
    · rw [if_pos hs]
      refine ⟨[v], .stop hv hs, ?_⟩
      rw [Visit.listing_cons, hinner]
      simp [Visit.entry, Visit.listing, Visit.nodesOf]
    · rw [if_neg hs]
      obtain ⟨vs, hvs, htrace⟩ := runSorted_visitsAll X depth rest (X.act depth v.action s).2
        fun b hb => h b (List.mem_cons_of_mem _ hb)
      refine ⟨v :: vs, .goOn hv (by simpa using hs) hvs, ?_⟩
      rw [Visit.listing_cons, hinner, htrace]
      simp [Visit.entry]

theorem act_task (X : Setting σ) (depth : Int) (policy : Policy) (task : Task) (s : σ) :
    X.act depth (.task policy task) s =
      if X.isCancelled s then (.failed task.kind .cancellation, s)
      else
        let r := (task.process X.runner X.ctx X.payload).run X.env X.ctx.token s
        (Task.outcome task.kind r.1, r.2) := by
  refine (Process.run_unlessCancelled ..).trans ?_
  rw [Process.run_map]
  rfl

theorem act_branch (X : Setting σ) (depth : Int) (policy : Policy) (condition : Option Condition)
    (thens elses : List Action) (s : σ) :
    X.act depth (.branch policy condition thens elses) s =
      if X.isCancelled s then (.failed "condition" .cancellation, s)
      else
        match condition with
        | none =>
          (.failed "condition"
            (.definition "Condition action requires a condition" "condition"), s)
        | some c =>
          if X.runner.maxDepth < depth + 1 then
            (.failed "condition" (.definition
              s!"Condition nesting exceeds maximum depth of {X.runner.maxDepth}" none), s)
          else
            let r := X.run (depth + 1) (if c.holds X.payload then thens else elses) s
            (Runner.branchOutcome (c.holds X.payload) r.1, r.2) := by
  refine (Process.run_unlessCancelled ..).trans ?_
  cases condition with
  | none => rfl
  | some c =>
    congr 1
    simp only [Runner.branch]
    split
    · rfl
    · rw [Process.run_map, run, Runner.run, apply_ite (X.runner.steps X.ctx X.payload)]

mutual

/-- Carrying out an action follows the rules. The recursion goes into the two
sides of a branch; that they are put in order first does not matter, as what
is shown of the actions of a list does not depend on their order. -/
theorem act_carries (X : Setting σ) : ∀ (a : Action) (depth : Int) (s : σ),
    ∃ v, X.Carries depth a s v
  | .task policy task, depth, s => by
    have hact := act_task X depth policy task s
    by_cases hc : X.isCancelled s = true
    · rw [if_pos hc] at hact
      exact ⟨_, .of_visits (.cancelled hc) hact rfl⟩
    · rw [if_neg hc] at hact
      exact ⟨_, .of_visits (.task (by simpa using hc) rfl) hact (Task.outcome_inner ..)⟩
  | .branch policy none thens elses, depth, s => by
    have hact := act_branch X depth policy none thens elses s
    by_cases hc : X.isCancelled s = true
    · rw [if_pos hc] at hact
      exact ⟨_, .of_visits (.cancelled hc) hact rfl⟩
    · rw [if_neg hc] at hact
      exact ⟨_, .of_visits (.noCondition (by simpa using hc)) hact rfl⟩
  | .branch policy (some c) thens elses, depth, s => by
    have hact := act_branch X depth policy (some c) thens elses s
    by_cases hc : X.isCancelled s = true
    · rw [if_pos hc] at hact
      exact ⟨_, .of_visits (.cancelled hc) hact rfl⟩
    · rw [if_neg hc] at hact
      have hc : X.isCancelled s = false := by simpa using hc
      by_cases hd : X.runner.maxDepth < depth + 1
      · simp only [if_pos hd] at hact
        exact ⟨_, .of_visits (.tooDeep hc hd) hact rfl⟩
      · simp only [if_neg hd] at hact
        have hsides : ∀ a ∈ Action.sorted (if c.holds X.payload then thens else elses),
            ∀ (depth : Int) (s : σ), ∃ v, X.Carries depth a s v := by
          intro a ha
          rw [Action.sorted, List.mem_mergeSort] at ha
          split at ha
          · exact act_carries_all X thens a ha
          · exact act_carries_all X elses a ha
        obtain ⟨inside, hinside, htrace⟩ := runSorted_visitsAll X (depth + 1) _ s hsides
        rw [← run_eq_runSorted] at hinside htrace
        refine ⟨_, .of_visits (.branch hc (by omega) hinside) ?_ rfl⟩
        rw [hact, ← htrace]
        rfl

theorem act_carries_all (X : Setting σ) : ∀ (actions : List Action), ∀ a ∈ actions,
    ∀ (depth : Int) (s : σ), ∃ v, X.Carries depth a s v
  | [], a, ha => by cases ha
  | b :: rest, a, ha => by
    rcases List.mem_cons.1 ha with h | ha
    · exact h ▸ act_carries X b
    · exact act_carries_all X rest a ha

end

/-- **Every run follows the rules.** Its trace is the listing of its visits. -/
theorem run_visits (X : Setting σ) (depth : Int) (actions : List Action) (s : σ) :
    ∃ visits, X.VisitsAll depth s (Action.sorted actions) visits (X.run depth actions s).1.failure
        (X.run depth actions s).2
      ∧ (X.run depth actions s).1.trace = Visit.listing depth visits := by
  rw [run_eq_runSorted]
  exact runSorted_visitsAll X depth _ s fun a _ => act_carries X a

/-! ### Which actions are visited -/

/-- The visits are of the first actions of the list: of all of them, unless
the last visit stops the run. -/
theorem VisitsAll.actions_eq_or_stops {X : Setting σ} {depth : Int} {s t : σ}
    {actions : List Action} {visits : List (Visit σ)} {failure : Option ActionFailure} :
    X.VisitsAll depth s actions visits failure t →
      visits.map Visit.action <+: actions ∧
        (visits.map Visit.action = actions ∨ ∃ v, visits.getLast? = some v ∧ v.stops = true)
  | .nil => ⟨List.nil_prefix, .inl rfl⟩
  | .stop hv hs => by
    obtain rfl := hv.start_eq.2
    exact ⟨⟨_, rfl⟩, .inr ⟨_, rfl, hs⟩⟩
  | .goOn hv _ hvs => by
    obtain rfl := hv.start_eq.2
    obtain ⟨⟨left, hleft⟩, hall⟩ := hvs.actions_eq_or_stops
    refine ⟨⟨left, by rw [← hleft]; rfl⟩, ?_⟩
    rcases hall with hall | ⟨w, hw, hs⟩
    · exact .inl (by rw [← hall]; rfl)
    · refine .inr ⟨w, ?_, hs⟩
      rw [List.getLast?_cons, hw]
      rfl

/-- Only the last visit can stop the run. -/
theorem VisitsAll.not_stops_of_mem_dropLast {X : Setting σ} {depth : Int} {s t : σ}
    {actions : List Action} {visits : List (Visit σ)} {failure : Option ActionFailure} :
    X.VisitsAll depth s actions visits failure t → ∀ v ∈ visits.dropLast, v.stops = false
  | .nil, v, hv => by cases hv
  | .stop _ _, v, hv => by cases hv
  | @VisitsAll.goOn _ _ _ _ _ _ _ _ _ vs _ _ hw hvs, v, hv => by
    cases vs with
    | nil => cases hv
    | cons x vs =>
      rw [List.dropLast_cons_of_ne_nil (List.cons_ne_nil x vs)] at hv
      rcases List.mem_cons.1 hv with rfl | hv
      · exact hw
      · exact hvs.not_stops_of_mem_dropLast v hv

/-- A run fails if and only if one of its visits stops it. -/
theorem VisitsAll.failure_eq_none_iff {X : Setting σ} {depth : Int} {s t : σ}
    {actions : List Action} {visits : List (Visit σ)} {failure : Option ActionFailure} :
    X.VisitsAll depth s actions visits failure t →
      (failure = none ↔ ∀ v ∈ visits, v.stops = false)
  | .nil => by simp
  | .stop (v := v) _ hs => by
    have hsome : v.outcome.failure.isSome = true := by
      rw [Visit.stops, Bool.and_eq_true] at hs
      exact hs.1
    constructor
    · intro hnone
      rw [hnone] at hsome
      cases hsome
    · intro hall
      rw [hall v (List.mem_cons_self ..)] at hs
      cases hs
  | .goOn _ hs hvs => by
    rw [hvs.failure_eq_none_iff, List.forall_mem_cons]
    exact ⟨fun h => ⟨hs, h⟩, fun h => h.2⟩

/-! ### How deep a visit can be -/

mutual

/-- Every visit of a tree follows the rules, at its own depth, and no visit is
deeper than branches may be nested. -/
theorem Visits.of_mem_nodes {X : Setting σ} {depth : Int} {s t : σ} {a : Action} {v : Visit σ} :
    X.Visits depth s a v t → depth ≤ X.runner.maxDepth → ∀ n ∈ v.nodes depth,
      depth ≤ n.1 ∧ n.1 ≤ X.runner.maxDepth ∧ ∃ u, X.Visits n.1 n.2.start n.2.action n.2 u
  | .cancelled hc, hd, n, hn => by
    obtain rfl := List.mem_singleton.1 hn
    exact ⟨Int.le_refl _, hd, _, .cancelled hc⟩
  | .task hc hr, hd, n, hn => by
    obtain rfl := List.mem_singleton.1 hn
    exact ⟨Int.le_refl _, hd, _, .task hc hr⟩
  | .noCondition hc, hd, n, hn => by
    obtain rfl := List.mem_singleton.1 hn
    exact ⟨Int.le_refl _, hd, _, .noCondition hc⟩
  | .tooDeep hc hdeep, hd, n, hn => by
    obtain rfl := List.mem_singleton.1 hn
    exact ⟨Int.le_refl _, hd, _, .tooDeep hc hdeep⟩
  | .branch hc hdeep hinside, hd, n, hn => by
    rcases List.mem_cons.1 hn with rfl | hn
    · exact ⟨Int.le_refl _, hd, _, .branch hc hdeep hinside⟩
    · obtain ⟨hle, hmax, hvisit⟩ := hinside.of_mem_nodes hdeep n hn
      exact ⟨by omega, hmax, hvisit⟩

theorem VisitsAll.of_mem_nodes {X : Setting σ} {depth : Int} {s t : σ} {actions : List Action}
    {visits : List (Visit σ)} {failure : Option ActionFailure} :
    X.VisitsAll depth s actions visits failure t → depth ≤ X.runner.maxDepth →
      ∀ n ∈ Visit.nodesOf depth visits,
        depth ≤ n.1 ∧ n.1 ≤ X.runner.maxDepth ∧ ∃ u, X.Visits n.1 n.2.start n.2.action n.2 u
  | .nil, _, n, hn => by cases hn
  | .stop hv _, hd, n, hn => by
    rw [Visit.nodesOf, Visit.nodesOf, List.append_nil] at hn
    exact hv.of_mem_nodes hd n hn
  | .goOn hv _ hvs, hd, n, hn => by
    rcases List.mem_append.1 hn with hn | hn
    · exact hv.of_mem_nodes hd n hn
    · exact hvs.of_mem_nodes hd n hn

end

/-- As deep as branches may be nested, a branch fails and visits nothing. -/
theorem Visits.branch_at_maxDepth {X : Setting σ} {s t : σ} {policy : Policy}
    {condition : Option Condition} {thens elses : List Action} {v : Visit σ} :
    X.Visits X.runner.maxDepth s (.branch policy condition thens elses) v t →
      v.inside = [] ∧ v.outcome.status = .failed ∧ ∃ f, v.outcome.failure = some f ∧
        f.error.kind = if X.isCancelled s then .cancelled else .definition
  | .cancelled hc => ⟨rfl, rfl, _, rfl, by rw [if_pos hc]; rfl⟩
  | .noCondition hc => ⟨rfl, rfl, _, rfl, by rw [hc]; rfl⟩
  | .tooDeep hc _ => ⟨rfl, rfl, _, rfl, by rw [hc]; rfl⟩
  | .branch _ hdeep _ => by omega

/-! ### Where the failure of a run is found -/

mutual

/-- The last entry of a visit that fails tells its failure: it is the entry of
the visit or, in a branch, of the visit that stopped the branch. -/
theorem Visits.getLast?_nodes {X : Setting σ} {depth : Int} {s t : σ} {a : Action} {v : Visit σ}
    {f : ActionFailure} : X.Visits depth s a v t → v.outcome.failure = some f →
      ∃ n, (v.nodes depth).getLast? = some n ∧ n.2.outcome.status = .failed
        ∧ n.2.outcome.failure.map (·.error) = some f.error
  | .cancelled hc, hf => ⟨_, rfl, rfl, congrArg (Option.map (·.error)) hf⟩
  | .task _ _, hf => ⟨_, rfl, Task.outcome_status hf, congrArg (Option.map (·.error)) hf⟩
  | .noCondition hc, hf => ⟨_, rfl, rfl, congrArg (Option.map (·.error)) hf⟩
  | .tooDeep hc hd, hf => ⟨_, rfl, rfl, congrArg (Option.map (·.error)) hf⟩
  | .branch _ _ hinside, hf => by
    obtain ⟨n, hn, hstatus, herror⟩ := hinside.getLast?_nodes hf
    refine ⟨n, ?_, hstatus, herror⟩
    rw [Visit.nodes, List.getLast?_cons, hn]
    rfl

theorem VisitsAll.getLast?_nodes {X : Setting σ} {depth : Int} {s t : σ} {actions : List Action}
    {visits : List (Visit σ)} {failure : Option ActionFailure} {f : ActionFailure} :
    X.VisitsAll depth s actions visits failure t → failure = some f →
      ∃ n, (Visit.nodesOf depth visits).getLast? = some n ∧ n.2.outcome.status = .failed
        ∧ n.2.outcome.failure.map (·.error) = some f.error
  | .nil, hf => by cases hf
  | .stop hv _, hf => by
    rw [Visit.nodesOf, Visit.nodesOf, List.append_nil]
    exact hv.getLast?_nodes hf
  | .goOn _ _ hvs, hf => by
    obtain ⟨n, hn, hstatus, herror⟩ := hvs.getLast?_nodes hf
    refine ⟨n, ?_, hstatus, herror⟩
    rw [Visit.nodesOf, List.getLast?_append, hn]
    rfl

end

/-- The last entry of a run that fails tells its failure. -/
theorem VisitsAll.getLast?_listing {X : Setting σ} {depth : Int} {s t : σ}
    {actions : List Action} {visits : List (Visit σ)} {f : ActionFailure}
    (h : X.VisitsAll depth s actions visits (some f) t) :
    ∃ e, (Visit.listing depth visits).getLast? = some e ∧ e.status = .failed
      ∧ e.error = some f.error := by
  obtain ⟨n, hn, hstatus, herror⟩ := h.getLast?_nodes rfl
  refine ⟨n.2.entry n.1, ?_, hstatus, herror⟩
  rw [Visit.listing, List.getLast?_map, hn]
  rfl

/-! ### The account of a run -/

/-- What a run at a depth tells of its visits. -/
structure Account (X : Setting σ) (depth : Int) (actions : List Action) (s : σ) (r : RunResult)
    (visits : List (Visit σ)) : Prop where
  /-- The visits follow the rules; so do those inside them. -/
  rules : ∃ t, X.VisitsAll depth s (Action.sorted actions) visits r.failure t
  /-- They are of the first actions in order, up to one that stops the run. -/
  order : Action.IsStableSort actions (Action.sorted actions)
    ∧ visits.map Visit.action <+: Action.sorted actions
  stop : visits.map Visit.action = Action.sorted actions
    ∨ ∃ v, visits.getLast? = some v ∧ v.stops = true
  goOn : ∀ v ∈ visits.dropLast, v.stops = false
  trace : r.trace = Visit.listing depth visits
  /-- Each visit, at its own depth, follows the rules. -/
  nodes : ∀ n ∈ Visit.nodesOf depth visits,
    depth ≤ n.1 ∧ n.1 ≤ X.runner.maxDepth ∧ ∃ t, X.Visits n.1 n.2.start n.2.action n.2 t
  shallow : ∀ e ∈ r.trace, depth ≤ e.depth ∧ e.depth ≤ X.runner.maxDepth
  deepest : ∀ n ∈ Visit.nodesOf depth visits, n.1 = X.runner.maxDepth →
    ∀ policy condition thens elses, n.2.action = .branch policy condition thens elses →
      n.2.inside = [] ∧ n.2.outcome.status = .failed ∧ ∃ f, n.2.outcome.failure = some f ∧
        f.error.kind = if X.isCancelled n.2.start then .cancelled else .definition
  isOk_iff : r.isOk = true ↔ ∀ v ∈ visits, v.stops = false
  failure : ∀ f, r.failure = some f → ∃ e, r.trace.getLast? = some e ∧ e.status = .failed
    ∧ e.error = some f.error

/-- **The trace of a run is the account of its visits**, whatever its requests
are answered: it visits its actions in order, up to the first that fails and
does not let the run go on, and a branch one side, never too deep. -/
theorem run_account (X : Setting σ) (depth : Int) (actions : List Action) (s : σ)
    (hdepth : depth ≤ X.runner.maxDepth) :
    ∃ visits, X.Account depth actions s (X.run depth actions s).1 visits := by
  obtain ⟨visits, hvisits, htrace⟩ := X.run_visits depth actions s
  have hnodes := hvisits.of_mem_nodes hdepth
  refine ⟨visits, ⟨_, hvisits⟩, ⟨Action.sorted_isStableSort actions, hvisits.actions_eq_or_stops.1⟩,
    hvisits.actions_eq_or_stops.2, hvisits.not_stops_of_mem_dropLast, htrace, hnodes, ?_, ?_, ?_, ?_⟩
  · intro e he
    rw [htrace, Visit.listing, List.mem_map] at he
    obtain ⟨n, hn, rfl⟩ := he
    exact ⟨(hnodes n hn).1, (hnodes n hn).2.1⟩
  · intro n hn hmax policy condition thens elses haction
    obtain ⟨-, -, t, hvisit⟩ := hnodes n hn
    rw [hmax, haction] at hvisit
    exact hvisit.branch_at_maxDepth
  · rw [RunResult.isOk, Option.isNone_iff_eq_none, hvisits.failure_eq_none_iff]
  · intro f hf
    rw [hf] at hvisits
    rw [htrace]
    exact hvisits.getLast?_listing

/-- A branch inside a branch, where only one level is allowed, and an action
after them that lets the run go on. -/
theorem run_account_nested :
    let X : Setting Unit := {
      env := ⟨fun _ => ⟨0⟩, fun _ _ => false, fun _ _ s => (some .done, s)⟩
      runner := { maxDepth := 1 }
      ctx := { storeId := "store" }
      payload := .obj [("total", .int 5)] }
    let actions : List Action :=
      [.task ⟨2, true⟩ (.email [] "" ""),
        .branch ⟨1, true⟩ (some ⟨"total", "equals", .int 5⟩)
          [.task ⟨0, false⟩ (.delay 10), .branch ⟨1, false⟩ (some ⟨"total", "in", .null⟩) [] []] []]
    0 ≤ X.runner.maxDepth ∧ ∃ visits, X.Account 0 actions () (X.run 0 actions ()).1 visits :=
  ⟨by decide, run_account _ 0 _ () (by decide)⟩

end Setting

end Automation
