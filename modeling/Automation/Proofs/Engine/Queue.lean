/-
# The queue of jobs

Callers put jobs into the queue of the dispatcher, workers take and end them,
and now and then the dispatcher is started or stopped. Whatever the order of
these steps, every job that is accepted leaves the queue once, and in its turn:
a worker takes it, or stopping throws it away (`Dispatcher.Account`). What
waiting for the queue waits for is what waits in it and what workers have in
hand. Whatever an engine does to its queue is a number of such steps
(`Engine.Operation.queues`).

Key definitions: `QueueStep`, `QueueEvent`, `Dispatcher.perform`,
`Dispatcher.run`, `Dispatcher.Account`, `Engine.Queues`.
Key theorems: `Dispatcher.Account.perform`, `Dispatcher.Account.run`,
`Dispatcher.run_ofSizes`, `Engine.Operation.queues`.
-/
import Automation.Proofs.Engine.Operations
import Mathlib.Data.List.Basic

namespace Automation

/-- What callers and workers do to a queue, and who starts and stops it. -/
inductive QueueStep (ι : Type) where
  /-- A caller leaves a job to the workers. -/
  | enqueue (job : ι)
  /-- An idle worker looks for a job. -/
  | take
  /-- A worker is done with a job, however that ended. -/
  | finish (number : Nat)
  | start
  | stop

/-- What is seen of a queue. A job is known by its number. -/
inductive QueueEvent (ι : Type) where
  | accepted (job : Nat × ι)
  | refused (job : ι)
  | started (job : Nat × ι)
  /-- A worker is done with a job, or gives it up. -/
  | ended (number : Nat)
  /-- A job that waited is thrown away. -/
  | discarded (job : Nat × ι)

namespace QueueEvent

variable {ι : Type}

def accepted? : QueueEvent ι → Option (Nat × ι)
  | accepted job => some job
  | _ => none

def started? : QueueEvent ι → Option (Nat × ι)
  | started job => some job
  | _ => none

def ended? : QueueEvent ι → Option Nat
  | ended number => some number
  | _ => none

def discarded? : QueueEvent ι → Option (Nat × ι)
  | discarded job => some job
  | _ => none

/-- The job that leaves the queue, in one way or the other. -/
def left? : QueueEvent ι → Option (Nat × ι)
  | started job | discarded job => some job
  | _ => none

/-- A job that leaves the queue is started or discarded. -/
theorem left_perm : ∀ events : List (QueueEvent ι), (events.filterMap left?).Perm
    (events.filterMap started? ++ events.filterMap discarded?)
  | [] => .nil
  | accepted _ :: events => left_perm events
  | refused _ :: events => left_perm events
  | ended _ :: events => left_perm events
  | started job :: events => (left_perm events).cons job
  | discarded job :: events => ((left_perm events).cons job).trans List.perm_middle.symm

/-- Jobs start in the order in which they leave the queue. -/
theorem started_sublist : ∀ events : List (QueueEvent ι),
    (events.filterMap started?).Sublist (events.filterMap left?)
  | [] => .slnil
  | accepted _ :: events => started_sublist events
  | refused _ :: events => started_sublist events
  | ended _ :: events => started_sublist events
  | started job :: events => (started_sublist events).cons_cons job
  | discarded job :: events => (started_sublist events).cons job

end QueueEvent

namespace Dispatcher

open QueueEvent

variable {ι : Type} {d d' : Dispatcher ι}

/-! ### Steps -/

/-- What a step does, and what is seen of it. -/
def perform (d : Dispatcher ι) : QueueStep ι → List (QueueEvent ι) × Dispatcher ι
  | .enqueue job =>
    match d.enqueue job with
    | (true, d') => ([.accepted (d.accepted, job)], d')
    | (false, d') => ([.refused job], d')
  | .take =>
    match d.take? with
    | some (job, d') => ([.started job], d')
    | none => ([], d)
  | .finish number => (if d.busy.contains number then [.ended number] else [], d.finish number)
  | .start => ([], d.start)
  | .stop => (d.busy.map .ended ++ d.pending.map .discarded, d.stop)

/-- Any number of steps, in any order. -/
def run (d : Dispatcher ι) : List (QueueStep ι) → List (QueueEvent ι) × Dispatcher ι
  | [] => ([], d)
  | step :: steps =>
    ((d.perform step).1 ++ ((d.perform step).2.run steps).1, ((d.perform step).2.run steps).2)

theorem run_append (more : List (QueueStep ι)) : ∀ (steps : List (QueueStep ι)) (d : Dispatcher ι),
    (d.run (steps ++ more)).2 = ((d.run steps).2.run more).2
  | [], _ => rfl
  | step :: steps, d => run_append more steps (d.perform step).2

/-- A job is accepted if the dispatcher runs and the queue has room, and then
comes last; else nothing changes. -/
theorem enqueue_eq (d : Dispatcher ι) (job : ι) :
    (d.running = true ∧ (∀ n ∈ d.capacity, d.pending.length < n)
        ∧ d.enqueue job = (true, { d with
          accepted := d.accepted + 1
          pending := d.pending ++ [(d.accepted, job)]
          unfinished := d.unfinished + 1 }))
      ∨ (¬ (d.running = true ∧ ∀ n ∈ d.capacity, d.pending.length < n)
        ∧ d.enqueue job = (false, d)) := by
  have hroom : (!d.isFull) = true ↔ ∀ n ∈ d.capacity, d.pending.length < n := by
    cases hcapacity : d.capacity <;> simp [isFull, hcapacity]
  unfold enqueue
  split
  · rename_i h
    obtain ⟨hrunning, hfree⟩ := (Bool.and_eq_true _ _).mp h
    exact .inl ⟨hrunning, hroom.1 hfree, rfl⟩
  · rename_i h
    refine .inr ⟨fun hboth => h ?_, rfl⟩
    rw [hboth.1, hroom.2 hboth.2]
    rfl

/-- A worker takes the first job. -/
theorem take?_eq_some {job : Nat × ι} (h : d.take? = some (job, d')) :
    d.running = true ∧ ∃ rest, d.pending = job :: rest
      ∧ d' = { d with pending := rest, busy := d.busy ++ [job.1] } := by
  unfold take? at h
  split at h
  · rename_i hidle
    refine ⟨((Bool.and_eq_true _ _).mp hidle).1, ?_⟩
    split at h
    · cases h
    · rename_i first rest hpending
      cases h
      exact ⟨rest, hpending, rfl⟩
  · cases h

/-! ### What steps keep -/

/-- What is known of a queue, after some events since it was new. -/
structure Account (d : Dispatcher ι) (events : List (QueueEvent ι)) : Prop where
  numbered : (events.filterMap accepted?).map Prod.fst = List.range d.accepted
  /-- What has left the queue and what waits in it are, in this order, the jobs
  that were accepted. -/
  inTurn : events.filterMap left? ++ d.pending = events.filterMap accepted?
  /-- What was started has ended or is in the hands of a worker. -/
  inHand : ((events.filterMap started?).map Prod.fst).Perm (events.filterMap ended? ++ d.busy)
  unfinished : d.unfinished = d.pending.length + d.busy.length
  fits : ∀ n ∈ d.capacity, d.pending.length ≤ n
  idle : d.running = false → d.pending = [] ∧ d.busy = []

variable {events : List (QueueEvent ι)}

theorem Account.enqueue (h : d.Account events) (job : ι) :
    (d.perform (.enqueue job)).2.Account (events ++ (d.perform (.enqueue job)).1) := by
  rcases d.enqueue_eq job with ⟨hrunning, hroom, heq⟩ | ⟨-, heq⟩
  · simp only [perform, heq]
    constructor
    case numbered => simp [accepted?, h.numbered, List.range_succ]
    case inTurn => simp [List.filterMap_cons, accepted?, left?, ← h.inTurn]
    case inHand => simpa [List.filterMap_cons, started?, ended?] using h.inHand
    case unfinished =>
      simp only [List.length_append, List.length_singleton, h.unfinished]
      omega
    case fits => simpa [Nat.succ_le_iff] using hroom
    case idle => simp [hrunning]
  · simp only [perform, heq]
    constructor
    case numbered => simpa [List.filterMap_cons, accepted?] using h.numbered
    case inTurn => simpa [List.filterMap_cons, accepted?, left?] using h.inTurn
    case inHand => simpa [List.filterMap_cons, started?, ended?] using h.inHand
    case unfinished => exact h.unfinished
    case fits => exact h.fits
    case idle => exact h.idle

theorem Account.take (h : d.Account events) :
    (d.perform .take).2.Account (events ++ (d.perform .take).1) := by
  cases htake : d.take? with
  | none =>
    simp only [perform, htake, List.append_nil]
    exact h
  | some taken =>
    obtain ⟨job, d'⟩ := taken
    obtain ⟨hrunning, rest, hpending, rfl⟩ := take?_eq_some htake
    simp only [perform, htake]
    constructor
    case numbered => simpa [List.filterMap_cons, accepted?] using h.numbered
    case inTurn => simpa [List.filterMap_cons, accepted?, left?, hpending] using h.inTurn
    case inHand =>
      simpa [List.filterMap_cons, started?, ended?] using h.inHand.append_right [job.1]
    case unfinished =>
      have hcount : d.unfinished = rest.length + 1 + d.busy.length := by
        rw [h.unfinished, hpending, List.length_cons]
      simp only [List.length_append, List.length_singleton]
      omega
    case fits =>
      intro n hn
      have hfits := h.fits n hn
      rw [hpending, List.length_cons] at hfits
      exact Nat.le_of_succ_le hfits
    case idle => simp [hrunning]

theorem Account.finish (h : d.Account events) (number : Nat) :
    (d.perform (.finish number)).2.Account (events ++ (d.perform (.finish number)).1) := by
  by_cases hbusy : number ∈ d.busy
  · have hperm : (events.filterMap ended? ++ d.busy).Perm
        (events.filterMap ended? ++ number :: d.busy.erase number) :=
      (List.perm_cons_erase hbusy).append_left _
    simp only [perform, Dispatcher.finish, List.contains_eq_mem, hbusy, decide_true, if_true]
    constructor
    case numbered => simpa [List.filterMap_cons, accepted?] using h.numbered
    case inTurn => simpa [List.filterMap_cons, accepted?, left?] using h.inTurn
    case inHand => simpa [List.filterMap_cons, started?, ended?] using h.inHand.trans hperm
    case unfinished =>
      have hlength := List.length_erase_of_mem hbusy
      have hpositive := List.length_pos_of_mem hbusy
      have hcount := h.unfinished
      simp only
      omega
    case fits => exact h.fits
    case idle =>
      intro hidle
      rw [(h.idle hidle).2] at hbusy
      cases hbusy
  · simp only [perform, Dispatcher.finish, List.contains_eq_mem, hbusy, decide_false,
      Bool.false_eq_true, if_false, List.append_nil]
    exact h

/-- Workers end what they have in hand, and whatever waits leaves the queue. -/
theorem Account.stop (h : d.Account events) :
    (d.perform .stop).2.Account (events ++ (d.perform .stop).1) := by
  simp only [perform, Dispatcher.stop]
  constructor
  case numbered =>
    simpa [List.filterMap_map, Function.comp_def, accepted?, List.filterMap_none] using h.numbered
  case inTurn =>
    simpa [List.filterMap_map, Function.comp_def, accepted?, left?, List.filterMap_none]
      using h.inTurn
  case inHand =>
    simpa [List.filterMap_map, Function.comp_def, started?, ended?, List.filterMap_none]
      using h.inHand
  case unfinished =>
    have hcount := h.unfinished
    simp only [List.length_nil]
    omega
  case fits => simp
  case idle => simp

/-- **Every step keeps the account.** -/
theorem Account.perform (h : d.Account events) :
    ∀ step, (d.perform step).2.Account (events ++ (d.perform step).1)
  | .enqueue job => h.enqueue job
  | .take => h.take
  | .finish number => h.finish number
  | .start => by
    simp only [Dispatcher.perform, Dispatcher.start, List.append_nil]
    exact ⟨h.numbered, h.inTurn, h.inHand, h.unfinished, h.fits, nofun⟩
  | .stop => h.stop

theorem Account.run : ∀ (steps : List (QueueStep ι)) {d : Dispatcher ι} {events : List (QueueEvent ι)},
    d.Account events → (d.run steps).2.Account (events ++ (d.run steps).1)
  | [], _, _, h => by
    rw [Dispatcher.run, List.append_nil]
    exact h
  | step :: steps, _, _, h => by
    rw [Dispatcher.run, ← List.append_assoc]
    exact Account.run steps (h.perform step)

theorem account_ofSizes (workers queueSize : Int) :
    (ofSizes workers queueSize : Dispatcher ι).Account [] where
  numbered := rfl
  inTurn := rfl
  inHand := .nil
  unfinished := rfl
  fits _ _ := Nat.zero_le _
  idle _ := ⟨rfl, rfl⟩

/-- No step changes the size of the queue. -/
theorem capacity_perform (d : Dispatcher ι) (step : QueueStep ι) :
    (d.perform step).2.capacity = d.capacity := by
  cases step with
  | enqueue job => rcases d.enqueue_eq job with ⟨-, -, heq⟩ | ⟨-, heq⟩ <;> simp only [perform, heq]
  | take =>
    cases htake : d.take? with
    | none => simp only [perform, htake]
    | some taken =>
      obtain ⟨-, rest, -, heq⟩ := take?_eq_some htake
      simp only [perform, htake, heq]
  | finish number =>
    simp only [perform, finish]
    split <;> rfl
  | start => rfl
  | stop => rfl

theorem capacity_run : ∀ (steps : List (QueueStep ι)) (d : Dispatcher ι),
    (d.run steps).2.capacity = d.capacity
  | [], _ => rfl
  | step :: steps, d => (capacity_run steps (d.perform step).2).trans (d.capacity_perform step)

/-! ### From the start -/

/-- **Whatever callers and workers do to a new queue**, and however often it is
started and stopped: a bounded one holds no more jobs than it may; a job is
accepted exactly if the dispatcher runs and the queue is not full, and is then
the last that waits; jobs start in the order in which they were accepted, and
each that was accepted has been started, or has been discarded, or waits; what
is waited for is what waits and what was started and has not ended; and
stopping leaves none of either. -/
theorem run_ofSizes (workers queueSize : Int) (steps : List (QueueStep ι)) :
    let events := ((ofSizes workers queueSize).run steps).1
    let d := ((ofSizes workers queueSize).run steps).2
    (0 < queueSize → (d.pending.length : Int) ≤ queueSize)
      ∧ (∀ job, ((d.enqueue job).1 = true
            ↔ d.running = true ∧ ¬ (0 < queueSize ∧ queueSize ≤ d.pending.length))
          ∧ ((d.enqueue job).1 = true → (d.enqueue job).2 = { d with
              accepted := d.accepted + 1
              pending := d.pending ++ [(d.accepted, job)]
              unfinished := d.unfinished + 1 })
          ∧ ((d.enqueue job).1 = false → (d.enqueue job).2 = d))
      ∧ (events.filterMap started?).Sublist (events.filterMap accepted?)
      ∧ ((events.filterMap accepted?).map Prod.fst).Nodup
      ∧ (events.filterMap accepted?).Perm
          (events.filterMap started? ++ events.filterMap discarded? ++ d.pending)
      ∧ ((events.filterMap started?).map Prod.fst).Perm (events.filterMap ended? ++ d.busy)
      ∧ d.unfinished = d.pending.length + d.busy.length
      ∧ (d.stop.pending = [] ∧ d.stop.busy = [] ∧ d.stop.unfinished = 0) := by
  intro events d
  have h : d.Account events := (account_ofSizes workers queueSize).run steps
  have hcapacity : d.capacity = if 0 < queueSize then some queueSize.toNat else none :=
    capacity_run steps (ofSizes workers queueSize)
  have hroom : (∀ n ∈ d.capacity, d.pending.length < n)
      ↔ ¬ (0 < queueSize ∧ queueSize ≤ d.pending.length) := by
    rw [hcapacity]
    split
    · simp only [Option.mem_some_iff, forall_eq']
      omega
    · simp only [Option.not_mem_none, false_implies, implies_true, true_iff]
      omega
  refine ⟨fun hsize => ?_, fun job => ?_, ?_, ?_, ?_, h.inHand, h.unfinished, rfl, rfl, ?_⟩
  · have hfits := h.fits queueSize.toNat (by rw [hcapacity, if_pos hsize]; rfl)
    omega
  · rcases d.enqueue_eq job with ⟨hrunning, hfree, heq⟩ | ⟨hnot, heq⟩
    · rw [heq]
      exact ⟨by simp [hrunning, hroom.1 hfree], fun _ => rfl, nofun⟩
    · rw [heq]
      exact ⟨⟨nofun, fun hboth => (hnot ⟨hboth.1, hroom.2 hboth.2⟩).elim⟩, nofun, fun _ => rfl⟩
  · rw [← h.inTurn]
    exact (started_sublist events).trans (List.sublist_append_left ..)
  · rw [h.numbered]
    exact List.nodup_range
  · rw [← h.inTurn]
    exact (left_perm events).append_right _
  · have hcount := h.unfinished
    simp only [stop]
    omega

example : ((ofSizes 1 2).run [.enqueue "early", .start, .enqueue "a", .take, .enqueue "b",
      .enqueue "c", .enqueue "late", .take, .finish 0, .take, .stop]).1
    = [.refused "early", .accepted (0, "a"), .started (0, "a"), .accepted (1, "b"),
      .accepted (2, "c"), .refused "late", .ended 0, .started (1, "b"), .ended 1,
      .discarded (2, "c")] :=
  rfl

end Dispatcher

/-! ### The queue of an engine -/

namespace Engine

variable {e e' e'' : Engine}

/-- Whatever happens to the queue is a number of steps. -/
def Queues (e e' : Engine) : Prop := ∃ steps, e'.dispatcher = (e.dispatcher.run steps).2

theorem Queues.of_eq (h : e'.dispatcher = e.dispatcher) : e.Queues e' := ⟨[], h⟩

theorem Queues.refl (e : Engine) : e.Queues e := .of_eq rfl

theorem Queues.trans (h : e.Queues e') (h' : e'.Queues e'') : e.Queues e'' := by
  obtain ⟨steps, hsteps⟩ := h
  obtain ⟨more, hmore⟩ := h'
  exact ⟨steps ++ more, by rw [hmore, hsteps, Dispatcher.run_append]⟩

theorem enqueue_queues (e : Engine) (job : Job) : e.Queues (e.enqueue job).2 := by
  refine ⟨[.enqueue job], ?_⟩
  rcases e.dispatcher.enqueue_eq job with ⟨-, -, heq⟩ | ⟨-, heq⟩
  all_goals simp only [Engine.enqueue, Dispatcher.run, Dispatcher.perform, heq]

theorem executeAll_queues (e : Engine) (ws : List Workflow) (payload : Json) (ctx : Context) :
    e.Queues (e.executeAll ws payload ctx).2 :=
  .of_eq <| by
    rw [executeAll, launchAll_eq]
    rfl

theorem takeJobs_queues : ∀ (count : Nat) (e : Engine), e.Queues (takeJobs count e)
  | 0, e => .refl e
  | count + 1, e => by
    unfold takeJobs
    split
    · exact .refl e
    · rename_i number job dispatcher htake
      have hstarted : e.Queues (e.takeJob number job dispatcher) := by
        refine ⟨[.take], ?_⟩
        simp only [takeJob, launchAll_eq, moved, Dispatcher.run, Dispatcher.perform, htake]
      exact hstarted.trans (takeJobs_queues count _)

theorem finishJobs_queues : ∀ (numbers : List Nat) (e : Engine),
    e.Queues (numbers.foldl finishJob e)
  | [], e => .refl e
  | n :: numbers, e =>
    have hfinish : e.Queues (e.finishJob n) := ⟨[.finish n], rfl⟩
    hfinish.trans (finishJobs_queues numbers _)

theorem collect_queues (e : Engine) : e.Queues e.collect := by
  have hscheduled : e.Queues e.collectScheduled := .of_eq rfl
  rw [collect_eq]
  exact hscheduled.trans (finishJobs_queues _ _)

theorem settleCollect_queues (e : Engine) : e.Queues e.settle.collect :=
  have hsettle : e.Queues e.settle := .of_eq rfl
  hsettle.trans e.settle.collect_queues

theorem workRounds_queues : ∀ (rounds : Nat) (e : Engine), e.Queues (workRounds rounds e)
  | 0, e => e.settleCollect_queues
  | rounds + 1, e => by
    rw [workRounds]
    split
    · exact e.settleCollect_queues
    · exact (e.settleCollect_queues.trans (takeJobs_queues _ _)).trans (workRounds_queues rounds _)

theorem tick_queues (e : Engine) : e.Queues e.tick.2 := by
  unfold tick
  split
  · exact .of_eq (List.foldlRecOn (motive := fun e' : Engine => e'.dispatcher = e.dispatcher) _ _ rfl
      fun _ hlaunched _ _ => hlaunched)
  · exact .refl e

theorem stop_queues (e : Engine) : e.Queues e.stop := by
  refine ⟨[.stop], ?_⟩
  rw [Engine.stop, recordCancelledAll_eq]
  rfl

/-- **Whatever callers ask of an engine**, it takes the steps of a queue. -/
theorem Operation.queues (e : Engine) (o : Operation) : e.Queues (o.perform e) := by
  refine o.perform_cases ?self ?start ?stop ?execute ?enqueue ?work ?tick ?stopScheduled ?write ?later
  case self => exact .refl e
  case start => exact ⟨[.start], rfl⟩
  case stop => exact e.stop_queues
  case execute => exact e.executeAll_queues
  case enqueue => exact e.enqueue_queues
  case work => exact workRounds_queues _ e
  case tick => exact e.tick_queues
  case stopScheduled => exact workRounds_queues _ _
  case write => exact fun table => .of_eq rfl
  case later => exact fun clock => .of_eq rfl

/-- So after any operations of a new engine its queue is accounted for. -/
theorem account_performAll (workers queueSize : Int) {e : Engine}
    (hnew : e.dispatcher = .ofSizes workers queueSize) (os : List Operation) :
    ∃ events, (os.foldl Operation.perform e).dispatcher.Account events := by
  have hqueues : e.Queues (os.foldl Operation.perform e) :=
    List.foldlRecOn (motive := fun e' => e.Queues e') os _ (.refl e)
      fun _ h o _ => h.trans (o.queues _)
  obtain ⟨steps, hsteps⟩ := hqueues
  rw [hsteps, hnew]
  exact ⟨_, (Dispatcher.account_ofSizes workers queueSize).run steps⟩

end Engine

end Automation
