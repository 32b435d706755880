/-
# Processes side by side

A fiber is a process on its way, with the token that cancels it. Fibers run
in rounds: those with a reply go on to their next request, then the requests
are served, one after the other. Requests that write to the tables wait until
no other is left. A fiber whose request gets no reply waits until its token is
cancelled. `settle` runs fibers until each of them has a result
or waits; it ends, because a fiber only ever moves on (`Fiber.Before`).

Key definitions: `Stage`, `Fiber`, `Fiber.settle`.
Key theorems: `Stage.before_wellFounded`, `Fiber.less_wellFounded`.
-/
import Automation.Process.Basic

namespace Automation

/-- How far a process has come. -/
inductive Stage (α : Type) where
  | finished (result : α)
  | asking (request : Request) (next : Reply → Process α)
  /-- A request has its reply. -/
  | answered (reply : Reply) (next : Reply → Process α)
  /-- A request has no reply and gets none. -/
  | waiting (next : Reply → Process α)

/-- Looks at clock and cancellation up to the next request. -/
def Process.stage {α : Type} (now : Instant) (cancelled : Bool) : Process α → Stage α
  | .done a => .finished a
  | .clock next => (next now).stage now cancelled
  | .token next => (next cancelled).stage now cancelled
  | .ask request next => .asking request next

namespace Stage

variable {α : Type}

/-- The stages that come after a stage. -/
inductive Before : Stage α → Stage α → Prop where
  | answer (reply : Reply) (request : Request) (next : Reply → Process α) :
      Before (.answered reply next) (.asking request next)
  | wait (request : Request) (next : Reply → Process α) :
      Before (.waiting next) (.asking request next)
  | resume (reply : Reply) (next : Reply → Process α) (now : Instant) (cancelled : Bool) :
      Before ((next reply).stage now cancelled) (.answered reply next)
  | leave (next : Reply → Process α) (now : Instant) (cancelled : Bool) :
      Before ((next .cancelled).stage now cancelled) (.waiting next)

theorem acc_stage : ∀ (p : Process α) (now : Instant) (cancelled : Bool),
    Acc Before (p.stage now cancelled)
  | .done _, _, _ => ⟨_, fun _ h => nomatch h⟩
  | .clock next, now, cancelled => acc_stage (next now) now cancelled
  | .token next, now, cancelled => acc_stage (next cancelled) now cancelled
  | .ask _ next, _, _ =>
    have rest (reply : Reply) := acc_stage (next reply)
    ⟨_, fun
      | _, .answer reply _ _ => ⟨_, fun | _, .resume _ _ now cancelled => rest reply now cancelled⟩
      | _, .wait _ _ => ⟨_, fun | _, .leave _ now cancelled => rest .cancelled now cancelled⟩⟩

/-- No process goes on for ever. -/
theorem before_wellFounded : WellFounded (Before : Stage α → Stage α → Prop) :=
  have rest (next : Reply → Process α) (reply : Reply) := acc_stage (next reply)
  have answered (reply : Reply) (next : Reply → Process α) : Acc Before (.answered reply next) :=
    ⟨_, fun | _, .resume _ _ now cancelled => rest next reply now cancelled⟩
  have waiting (next : Reply → Process α) : Acc Before (.waiting next) :=
    ⟨_, fun | _, .leave _ now cancelled => rest next .cancelled now cancelled⟩
  ⟨fun
    | .finished _ => ⟨_, fun _ h => nomatch h⟩
    | .asking _ next => ⟨_, fun
      | _, .answer reply _ _ => answered reply next
      | _, .wait _ _ => waiting next⟩
    | .answered reply next => answered reply next
    | .waiting next => waiting next⟩

end Stage

/-- A process on its way, with a label and the token that cancels it. -/
structure Fiber (ι α : Type) where
  label : ι
  token : Token
  stage : Stage α

namespace Fiber

variable {ι α σ : Type}

/-- The fibers that come after a fiber. -/
def Before (g f : Fiber ι α) : Prop := g.stage.Before f.stage

/-- Lists of fibers in which at least one has moved on and none has moved back. -/
inductive Less : List (Fiber ι α) → List (Fiber ι α) → Prop where
  | both {g f : Fiber ι α} {gs fs : List (Fiber ι α)} : Before g f → Less gs fs →
      Less (g :: gs) (f :: fs)
  | first {g f : Fiber ι α} (fs : List (Fiber ι α)) : Before g f → Less (g :: fs) (f :: fs)
  | others (f : Fiber ι α) {gs fs : List (Fiber ι α)} : Less gs fs → Less (f :: gs) (f :: fs)

theorem acc_cons {f : Fiber ι α} (hf : Acc Before f) :
    ∀ {fs : List (Fiber ι α)}, Acc Less fs → Acc Less (f :: fs) := by
  induction hf with
  | intro f _ ihf =>
    intro fs hfs
    induction hfs with
    | intro fs hfs ihfs =>
      refine ⟨_, fun l h => ?_⟩
      cases h with
      | both hg hgs => exact ihf _ hg (hfs _ hgs)
      | first _ hg => exact ihf _ hg ⟨_, hfs⟩
      | others _ hgs => exact ihfs _ hgs

/-- Moving on comes to an end. -/
theorem less_wellFounded : WellFounded (Less : List (Fiber ι α) → List (Fiber ι α) → Prop) :=
  ⟨fun fs => by
    induction fs with
    | nil => exact ⟨_, fun _ h => nomatch h⟩
    | cons f fs ih => exact acc_cons ((InvImage.wf stage Stage.before_wellFounded).apply f) ih⟩

/-- A way for a fiber to move on, if it can. -/
def Move (ι α σ : Type) := Fiber ι α → σ → Option (Fiber ι α × σ)

/-- A move only ever leads forward. -/
def Move.Forward (move : Move ι α σ) : Prop :=
  ∀ {f g : Fiber ι α} {s t : σ}, move f s = some (g, t) → g.Before f

/-- Moves all fibers that can, one after the other; none if there is none. -/
def pass? (move : Move ι α σ) : List (Fiber ι α) → σ → Option (List (Fiber ι α) × σ)
  | [], _ => none
  | f :: fs, s =>
    match move f s with
    | some (g, s) =>
      match pass? move fs s with
      | some (gs, s) => some (g :: gs, s)
      | none => some (g :: fs, s)
    | none => (pass? move fs s).map fun (gs, s) => (f :: gs, s)

theorem pass?_less {move : Move ι α σ} (forward : move.Forward) :
    ∀ {fs gs : List (Fiber ι α)} {s t : σ}, pass? move fs s = some (gs, t) → Less gs fs
  | f :: fs, gs, s, t, h => by
    unfold pass? at h
    split at h
    · rename_i g s' hmove
      split at h
      · rename_i hs s'' hpass
        cases h
        exact .both (forward hmove) (pass?_less forward hpass)
      · cases h
        exact .first _ (forward hmove)
    · obtain ⟨⟨hs, s'⟩, hpass, h⟩ := Option.map_eq_some_iff.1 h
      cases h
      exact .others _ (pass?_less forward hpass)

/-- Goes on with a reply, or without one once the token is cancelled. -/
def resume (env : Environment σ) : Move ι α σ := fun f s =>
  let onward (p : Process α) : Fiber ι α :=
    { f with stage := p.stage (env.now s) (env.cancelled f.token s) }
  match f.stage with
  | .answered reply next => some (onward (next reply), s)
  | .waiting next => if env.cancelled f.token s then some (onward (next .cancelled), s) else none
  | _ => none

/-- Serves the request of a fiber, if `ready` holds of it. -/
def serve (env : Environment σ) (ready : Request → Bool) : Move ι α σ := fun f s =>
  match f.stage with
  | .asking request next =>
    if ready request then
      match env.serve f.token request s with
      | (some reply, s) => some ({ f with stage := .answered reply next }, s)
      | (none, s) => some ({ f with stage := .waiting next }, s)
    else none
  | _ => none

theorem resume_forward (env : Environment σ) : (resume env : Move ι α σ).Forward := by
  intro f g s t h
  obtain ⟨label, token, stage⟩ := f
  unfold resume at h
  cases stage with
  | finished a => simp at h
  | asking request next => simp at h
  | answered reply next =>
    simp only [Option.some.injEq, Prod.mk.injEq] at h
    exact h.1 ▸ .resume reply next _ _
  | waiting next =>
    simp only at h
    split at h
    · simp only [Option.some.injEq, Prod.mk.injEq] at h
      exact h.1 ▸ .leave next _ _
    · simp at h

theorem serve_forward (env : Environment σ) (ready : Request → Bool) :
    (serve env ready : Move ι α σ).Forward := by
  intro f g s t h
  obtain ⟨label, token, stage⟩ := f
  unfold serve at h
  cases stage with
  | asking request next =>
    simp only at h
    split at h
    · split at h
      · simp only [Option.some.injEq, Prod.mk.injEq] at h
        exact h.1 ▸ .answer _ request next
      · simp only [Option.some.injEq, Prod.mk.injEq] at h
        exact h.1 ▸ .wait request next
    · simp at h
  | _ => simp at h

/-- One round: fibers with a reply go on; else the requests that do not wait
are served; else the others are. None if all have come to rest. -/
def round? (env : Environment σ) (fs : List (Fiber ι α)) (s : σ) : Option (List (Fiber ι α) × σ) :=
  match pass? (resume env) fs s with
  | some moved => some moved
  | none =>
    match pass? (serve env (·.isPrompt)) fs s with
    | some moved => some moved
    | none => pass? (serve env fun _ => true) fs s

theorem round?_less {env : Environment σ} {fs gs : List (Fiber ι α)} {s t : σ}
    (h : round? env fs s = some (gs, t)) : Less gs fs := by
  unfold round? at h
  split at h
  · rename_i hresume
    cases h
    exact pass?_less (resume_forward env) hresume
  · split at h
    · rename_i hserve
      cases h
      exact pass?_less (serve_forward env _) hserve
    · exact pass?_less (serve_forward env _) h

instance : WellFoundedRelation (List (Fiber ι α)) := ⟨Less, less_wellFounded⟩

/-- Runs fibers until each of them has a result or waits. -/
def settle (env : Environment σ) (fs : List (Fiber ι α)) (s : σ) : List (Fiber ι α) × σ :=
  match h : round? env fs s with
  | some (gs, t) =>
    have := round?_less h
    settle env gs t
  | none => (fs, s)
termination_by fs

/-- The fiber of a process that is about to start. -/
def start (label : ι) (token : Token) (p : Process α) : Fiber ι α :=
  ⟨label, token, .answered .done fun _ => p⟩

/-- The result of a fiber that has one. -/
def result? (f : Fiber ι α) : Option α :=
  match f.stage with
  | .finished a => some a
  | _ => none

end Fiber

end Automation
