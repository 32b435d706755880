/-
# Executions that come to rest

No answer takes a cancellation back, and none changes how the outside behaves
(`World.serve_heeds`). So what is cancelled before an engine settles is so
afterwards, and an execution that still waits has not been cancelled
(`Engine.not_cancelled_of_settle`). Where every webhook answers, or cancels
whoever calls it, a request without a reply leaves its execution cancelled; the
executions of an owner then all come to their results
(`Engine.isSome_result?_of_settle`).

Key definitions: `Outside.Replies`, `World.Heeds`, `Execution.tag`.
Key theorems: `World.serve_heeds`, `World.cancelled_of_serve_eq_none`,
`Engine.tags_settle`, `Engine.not_cancelled_of_settle`,
`Engine.isSome_result?_of_settle`.
-/
import Automation.Proofs.Engine.Settling

namespace Automation

/-- Every webhook answers, or cancels the execution that calls. -/
def Outside.Replies (o : Outside) : Prop := ∀ url, o.endpoints.lookup url ≠ some .hangs

namespace World

/-! ### What answers keep -/

/-- The outside behaves as before, and what was cancelled still is. -/
structure Heeds (w w' : World) : Prop where
  outside : w'.outside = w.outside
  cancelled : ∀ token ∈ w.cancelled, token ∈ w'.cancelled

theorem Heeds.refl (w : World) : w.Heeds w := ⟨rfl, fun _ h => h⟩

theorem Heeds.trans {w w' w'' : World} (h : w.Heeds w') (h' : w'.Heeds w'') : w.Heeds w'' :=
  ⟨h'.outside.trans h.outside, fun token ht => h'.cancelled token (h.cancelled token ht)⟩

theorem cancel_heeds (w : World) (token : Token) : w.Heeds (w.cancel token) :=
  ⟨rfl, fun _ h => List.mem_cons_of_mem _ h⟩

theorem later_heeds {w w' : World} {micros : Int} (h : w.later micros = .ok w') : w.Heeds w' := by
  unfold later at h
  split at h
  · cases h
    exact ⟨rfl, fun _ h => h⟩
  · cases h

variable (token : Token)

theorem serveCall_heeds (call : WebhookCall) (w : World) : w.Heeds (w.serveCall token call).2 := by
  have hnote : w.Heeds (w.noteCall call) := ⟨rfl, fun _ h => h⟩
  simp only [serveCall]
  split
  · exact hnote
  · exact hnote
  · exact ⟨rfl, fun _ h => h⟩
  · exact hnote.trans (cancel_heeds _ token)
  · exact hnote.trans (cancel_heeds _ token)

theorem serveSleep_heeds (seconds : Double) (w : World) :
    w.Heeds (w.serveSleep token seconds).2 := by
  let slept : World := { w with log := { w.log with sleeps := w.log.sleeps ++ [seconds] } }
  have hslept : w.Heeds slept := ⟨rfl, fun _ h => h⟩
  simp only [serveSleep]
  split
  · exact hslept.trans (cancel_heeds slept token)
  · split
    · rename_i later hlater
      exact hslept.trans (later_heeds hlater)
    · exact hslept

/-- **No answer takes a cancellation back.** -/
theorem serve_heeds (request : Request) (w : World) :
    w.Heeds (World.serve token request w).2 := by
  cases request with
  | call call => exact w.serveCall_heeds token call
  | sleep seconds => exact w.serveSleep_heeds token seconds
  | write kind id fields => exact ⟨rfl, fun _ h => h⟩
  | _ =>
    simp only [serve]
    split <;> exact ⟨rfl, fun _ h => h⟩

/-- A request without a reply has cancelled who made it, if no webhook hangs. -/
theorem cancelled_of_serve_eq_none {request : Request} {w : World} (hreplies : w.outside.Replies)
    (h : (World.serve token request w).1 = none) :
    token ∈ (World.serve token request w).2.cancelled := by
  cases request with
  | call call =>
    simp only [serve, serveCall] at h ⊢
    split at h
    · cases h
    · cases h
    · rename_i hhangs
      cases hfound : w.outside.endpoints.lookup call.url with
      | none =>
        rw [show (w.noteCall call).outside = w.outside from rfl, hfound] at hhangs
        cases hhangs
      | some endpoint =>
        rw [show (w.noteCall call).outside = w.outside from rfl, hfound] at hhangs
        obtain rfl : endpoint = .hangs := hhangs
        exact (hreplies call.url hfound).elim
    · exact List.mem_cons_self
    · cases h
  | sleep seconds =>
    simp only [serve, serveSleep] at h ⊢
    split at h
    · rename_i hcut
      rw [if_pos hcut]
      exact List.mem_cons_self
    · split at h <;> cases h
  | write kind id fields => cases h
  | _ =>
    simp only [serve] at h
    split at h <;> cases h

end World

/-! ### Settling -/

/-- No process begins by waiting. -/
theorem Process.stage_ne_waiting {α : Type} : ∀ (p : Process α) (now : Instant) (cancelled : Bool)
    (next : Reply → Process α), p.stage now cancelled ≠ .waiting next
  | .done _, _, _, _ => nofun
  | .clock next, now, cancelled, waits => stage_ne_waiting (next now) now cancelled waits
  | .token next, now, cancelled, waits => stage_ne_waiting (next cancelled) now cancelled waits
  | .ask _ _, _, _, _ => nofun

namespace Execution

/-- What an execution is from its start to its end. -/
def tag (f : Execution) : ExecutionLabel × Token := (f.label, f.token)

/-- If the execution waits for a reply, it has been cancelled. -/
def IsHeeded (f : Execution) (w : World) : Prop :=
  ∀ next, f.stage = .waiting next → f.token ∈ w.cancelled

end Execution

namespace Engine

variable {e : Engine}

/-- Executions that move on stay what they are. -/
theorem tags_settle (e : Engine) :
    e.settle.executions.map Execution.tag = e.executions.map Execution.tag := by
  let P (fs : List Execution) (_ : World) : Prop :=
    fs.map Execution.tag = e.executions.map Execution.tag
  have hresume : (Fiber.resume World.environment : Fiber.Move _ _ _).Keeps P := by
    intro before after f g w w' hP hmove
    obtain ⟨reply, next, -, rfl, -⟩ := Fiber.resume_eq_some hmove
    simpa [P, Execution.tag] using hP
  have hserve : ∀ ready, (Fiber.serve World.environment ready : Fiber.Move _ _ _).Keeps P := by
    intro ready before after f g w w' hP hmove
    obtain ⟨request, next, -, rfl, -⟩ := Fiber.serve_eq_some hmove
    simpa [P, Execution.tag] using hP
  exact Fiber.settle_induction hresume hserve e.executions e.world rfl

/-- So do those of an owner. -/
theorem tags_executionsOf_settle (e : Engine) (owner : Owner) :
    (e.settle.executionsOf owner).map Execution.tag = (e.executionsOf owner).map Execution.tag := by
  have hfilter : ∀ e' : Engine, (e'.executionsOf owner).map Execution.tag
      = (e'.executions.map Execution.tag).filter (·.1.owner == owner) := fun e' => by
    rw [List.filter_map]
    rfl
  rw [hfilter, hfilter, tags_settle]

theorem settle_heeds (e : Engine) : e.world.Heeds e.settle.world := by
  let P (_ : List Execution) (w : World) : Prop := e.world.Heeds w
  have hresume : (Fiber.resume World.environment : Fiber.Move _ _ _).Keeps P := by
    intro before after f g w w' hP hmove
    obtain ⟨reply, next, -, -, rfl⟩ := Fiber.resume_eq_some hmove
    exact hP
  have hserve : ∀ ready, (Fiber.serve World.environment ready : Fiber.Move _ _ _).Keeps P := by
    intro ready before after f g w w' hP hmove
    obtain ⟨request, next, -, -, rfl⟩ := Fiber.serve_eq_some hmove
    exact hP.trans (World.serve_heeds f.token request w)
  exact Fiber.settle_induction hresume hserve e.executions e.world (.refl _)

/-- An execution that waits once the engine has settled has not been cancelled. -/
theorem not_cancelled_of_settle {f : Execution} (hf : f ∈ e.settle.executions)
    {next : Reply → Process (Except Failure ExecutionResult)} (hstage : f.stage = .waiting next) :
    f.token ∉ e.settle.world.cancelled := by
  have hcancelled : e.settle.world.cancelled.contains f.token = false :=
    Fiber.not_cancelled_of_mem_settle World.environment e.executions e.world f hf next hstage
  exact fun hmem => by simp [hmem] at hcancelled

/-- What replacing one of several elements keeps. -/
theorem forall_mem_replace {α : Type} {P Q : α → Prop} {before after : List α} {a b : α}
    (h : ∀ x ∈ before ++ a :: after, P x) (hothers : ∀ x, P x → Q x) (hb : Q b) :
    ∀ x ∈ before ++ b :: after, Q x := by
  simp only [List.forall_mem_append, List.forall_mem_cons] at h ⊢
  exact ⟨fun x hx => hothers x (h.1 x hx), hb, fun x hx => hothers x (h.2.2 x hx)⟩

/-- What executions keep when they move on and when they are answered holds of
all of them once the engine has settled. -/
theorem forall_mem_settle {Q : Execution → Prop}
    (hresume : ∀ {f : Execution} {reply : Reply} {next : Reply → Process.OfExecution}, Q f →
      (f.stage = .answered reply next ∨ f.stage = .waiting next ∧ reply = .cancelled) →
      ∀ now cancelled, Q { f with stage := (next reply).stage now cancelled })
    (hserve : ∀ {f : Execution} {request : Request} {next : Reply → Process.OfExecution}, Q f →
      f.stage = .asking request next → ∀ reply, Q { f with stage := .afterRequest next reply })
    (h : ∀ f ∈ e.executions, Q f) : ∀ f ∈ e.settle.executions, Q f := by
  let P (fs : List Execution) (_ : World) : Prop := ∀ f ∈ fs, Q f
  have hresumes : (Fiber.resume World.environment : Fiber.Move _ _ _).Keeps P := by
    intro before after f g w w' hP hmove
    obtain ⟨reply, next, hstage, rfl, -⟩ := Fiber.resume_eq_some hmove
    exact forall_mem_replace hP (fun _ => id) (hresume (hP f (by simp)) hstage _ _)
  have hserves : ∀ ready, (Fiber.serve World.environment ready : Fiber.Move _ _ _).Keeps P := by
    intro ready before after f g w w' hP hmove
    obtain ⟨request, next, hstage, rfl, -⟩ := Fiber.serve_eq_some hmove
    exact forall_mem_replace hP (fun _ => id) (hserve (hP f (by simp)) hstage _)
  exact Fiber.settle_induction hresumes hserves e.executions e.world h

/-- **If no webhook hangs, the executions of an owner all come to their
results**, whatever their actions do. -/
theorem isSome_result?_of_settle (hreplies : e.world.outside.Replies) {owner : Owner}
    (hheeded : ∀ f ∈ e.executions, f.label.owner = owner → f.IsHeeded e.world) :
    ∀ f ∈ e.settle.executionsOf owner, f.result?.isSome = true := by
  let P (fs : List Execution) (w : World) : Prop :=
    w.outside.Replies ∧ ∀ f ∈ fs, f.label.owner = owner → f.IsHeeded w
  have hresume : (Fiber.resume World.environment : Fiber.Move _ _ _).Keeps P := by
    intro before after f g w w' hP hmove
    obtain ⟨reply, next, -, rfl, rfl⟩ := Fiber.resume_eq_some hmove
    refine ⟨hP.1, forall_mem_replace hP.2 (fun _ h => h) fun _ waits hstage => ?_⟩
    exact (Process.stage_ne_waiting (next reply) _ _ waits hstage).elim
  have hserve : ∀ ready, (Fiber.serve World.environment ready : Fiber.Move _ _ _).Keeps P := by
    intro ready before after f g w w' hP hmove
    obtain ⟨request, next, -, rfl, rfl⟩ := Fiber.serve_eq_some hmove
    have hworld : w.Heeds (World.serve f.token request w).2 := World.serve_heeds ..
    refine ⟨hworld.outside ▸ hP.1, forall_mem_replace hP.2
      (fun _ h howner waits hstage => hworld.cancelled _ (h howner waits hstage))
      fun _ waits hstage => World.cancelled_of_serve_eq_none f.token hP.1 ?_⟩
    cases hreply : (World.serve f.token request w).1 with
    | none => rfl
    | some reply =>
      simp only [World.environment, hreply, Stage.afterRequest] at hstage
      cases hstage
  obtain ⟨-, hsettled⟩ := Fiber.settle_induction hresume hserve e.executions e.world
    ⟨hreplies, hheeded⟩
  intro f hf
  obtain ⟨hmem, howner⟩ := List.mem_filter.1 hf
  have hrest := Fiber.isAtRest_of_mem_settle World.environment e.executions e.world f hmem
  cases hstage : f.stage with
  | finished result => rw [Fiber.result?, hstage]; rfl
  | waiting next =>
    have hcancelled := hsettled f hmem (beq_iff_eq.1 howner) next hstage
    exact (not_cancelled_of_settle hmem hstage hcancelled).elim
  | _ =>
    rw [hstage] at hrest
    cases hrest

end Engine

end Automation
