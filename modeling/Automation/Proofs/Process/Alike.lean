/-
# Settling in two states

Two states are alike for processes that do not care for some of the replies
(`Process.Ignores`) if clock and cancellations are the same in both, and so are
all the replies that they care for (`Environment.Respects`). Fibers of such
processes settle in both in the same way: they are moved in the same order, only
the replies that nobody cares for may differ, and in the end there are none of
those left (`Fiber.settle_alike`).

Key definitions: `Process.Ignores`, `Stage.Ignores`, `Environment.Respects`,
`Fiber.Alike`.
Key theorems: `Fiber.resume_alike`, `Fiber.serve_alike`, `Fiber.pass?_alike`,
`Fiber.settle_alike`.
-/
import Automation.Proofs.Run.Requests
import Automation.Proofs.Process.Settling
import Mathlib.Data.List.Forall2

namespace Automation

variable {ι α β σ : Type} {P : Request → Prop}

/-! ### Replies that nobody cares for -/

namespace Process

/-- The process goes on in one way, whatever the reply to a request with `P` is. -/
def Ignores (P : Request → Prop) : Process α → Prop
  | .done _ => True
  | .clock next => ∀ now, (next now).Ignores P
  | .token next => ∀ cancelled, (next cancelled).Ignores P
  | .ask request next =>
    (P request → ∀ reply reply', next reply = next reply') ∧ ∀ reply, (next reply).Ignores P

/-- A process without such requests does not care for their replies. -/
theorem Asks.ignores : ∀ {p : Process α}, p.Asks (fun request => ¬ P request) → p.Ignores P
  | .done _, _ => trivial
  | .clock _, h => fun now => (h now).ignores
  | .token _, h => fun cancelled => (h cancelled).ignores
  | .ask _ _, h => ⟨fun hrequest => absurd hrequest h.1, fun reply => (h.2 reply).ignores⟩

theorem Ignores.bind {f : α → Process β} (hf : ∀ a, (f a).Ignores P) :
    ∀ {p : Process α}, p.Ignores P → (p.bind f).Ignores P
  | .done a, _ => hf a
  | .clock _, h => fun now => Ignores.bind hf (h now)
  | .token _, h => fun cancelled => Ignores.bind hf (h cancelled)
  | .ask _ _, h =>
    ⟨fun hrequest reply reply' => congrArg (Process.bind f) (h.1 hrequest reply reply'),
      fun reply => Ignores.bind hf (h.2 reply)⟩

theorem Ignores.map (f : α → β) {p : Process α} (h : p.Ignores P) : (p.map f).Ignores P :=
  h.bind fun a => show (done (f a)).Ignores P from trivial

end Process

namespace Stage

/-- What follows does not care for the replies to requests with `P`. -/
def Ignores (P : Request → Prop) : Stage α → Prop
  | .finished _ => True
  | .asking request next =>
    (P request → ∀ reply reply', next reply = next reply') ∧ ∀ reply, (next reply).Ignores P
  | .answered reply next => (next reply).Ignores P
  | .waiting next => (next .cancelled).Ignores P

theorem ignores_stage (now : Instant) (cancelled : Bool) : ∀ {p : Process α}, p.Ignores P →
    (p.stage now cancelled).Ignores P
  | .done _, _ => trivial
  | .clock next, h => ignores_stage (p := next now) now cancelled (h now)
  | .token next, h => ignores_stage (p := next cancelled) now cancelled (h cancelled)
  | .ask _ _, h => h

theorem ignores_afterRequest {next : Reply → Process α} (h : ∀ reply, (next reply).Ignores P) :
    ∀ reply : Option Reply, (afterRequest next reply).Ignores P
  | some reply => h reply
  | none => h .cancelled

/-- It stays so when a fiber goes on. -/
theorem Ignores.resume {stage : Stage α} {reply : Reply} {next : Reply → Process α}
    (h : stage.Ignores P)
    (hstage : stage = .answered reply next ∨ stage = .waiting next ∧ reply = .cancelled)
    (now : Instant) (cancelled : Bool) : ((next reply).stage now cancelled).Ignores P := by
  rcases hstage with rfl | ⟨rfl, rfl⟩
  · exact ignores_stage now cancelled h
  · exact ignores_stage now cancelled h

end Stage

/-! ### States that are alike -/

/-- In states that are related clock and cancellations are the same, and so are
the replies, but for those to requests with `P`; these are always answered. -/
structure Environment.Respects (env : Environment σ) (P : Request → Prop) (T : σ → σ → Prop) :
    Prop where
  now {s s' : σ} : T s s' → env.now s' = env.now s
  cancelled {s s' : σ} (token : Token) : T s s' → env.cancelled token s' = env.cancelled token s
  reply {s s' : σ} (token : Token) (request : Request) : T s s' → ¬ P request →
    (env.serve token request s').1 = (env.serve token request s).1
  answers {s s' : σ} (token : Token) (request : Request) : T s s' → P request →
    ∃ reply reply', (env.serve token request s).1 = some reply
      ∧ (env.serve token request s').1 = some reply'
  state {s s' : σ} (token : Token) (request : Request) : T s s' →
    T (env.serve token request s).2 (env.serve token request s').2

namespace Fiber

/-- The same fiber, but for a reply that makes no difference. -/
inductive Alike (P : Request → Prop) : Fiber ι α → Fiber ι α → Prop where
  | refl {f : Fiber ι α} : f.stage.Ignores P → Alike P f f
  | answered {label : ι} {token : Token} {reply reply' : Reply} {next next' : Reply → Process α} :
      (next reply).Ignores P → next' reply' = next reply →
      Alike P ⟨label, token, .answered reply next⟩ ⟨label, token, .answered reply' next'⟩

/-- At rest there is no reply left that could differ. -/
theorem Alike.eq_of_isAtRest {f f' : Fiber ι α} (h : Alike P f f')
    (hrest : f.stage.isAtRest = true) : f' = f := by
  cases h with
  | refl => rfl
  | answered => cases hrest

/-- What comes of two moves is alike. -/
def Matched (P : Request → Prop) (T : σ → σ → Prop) (moved moved' : Fiber ι α × σ) : Prop :=
  Alike P moved.1 moved'.1 ∧ T moved.2 moved'.2

variable {env : Environment σ} {T : σ → σ → Prop} {f f' : Fiber ι α} {s s' : σ}

/-! ### Moves -/

/-- A fiber goes on in both states in the same way. -/
theorem onward_alike (henv : env.Respects P T) (hs : T s s') (label : ι) (token : Token)
    {p : Process α} (hp : p.Ignores P) :
    Alike P ⟨label, token, p.stage (env.now s) (env.cancelled token s)⟩
      ⟨label, token, p.stage (env.now s') (env.cancelled token s')⟩ := by
  rw [henv.now hs, henv.cancelled token hs]
  exact .refl (Stage.ignores_stage _ _ hp)

theorem resume_alike (henv : env.Respects P T) (hf : Alike P f f') (hs : T s s') :
    Option.Rel (Matched P T) (resume env f s) (resume env f' s') := by
  cases hf with
  | @answered label token reply reply' next next' hignores hnext =>
    refine .some ⟨?_, hs⟩
    rw [hnext]
    exact onward_alike henv hs label token hignores
  | refl hignores =>
    obtain ⟨label, token, stage⟩ := f
    cases stage with
    | finished | asking => exact .none
    | answered reply next => exact .some ⟨onward_alike henv hs label token hignores, hs⟩
    | waiting next =>
      have honward := onward_alike henv hs label token hignores
      simp only [resume]
      rw [henv.cancelled token hs] at honward ⊢
      split
      · exact .some ⟨honward, hs⟩
      · exact .none

/-- A request that is ready is served. -/
theorem serve_asking (env : Environment σ) (ready : Request → Bool) (label : ι) (token : Token)
    (request : Request) (next : Reply → Process α) (s : σ) :
    serve env ready ⟨label, token, .asking request next⟩ s
      = if ready request then some (⟨label, token, .afterRequest next (env.serve token request s).1⟩,
          (env.serve token request s).2)
        else none := by
  simp only [serve]
  split
  · rcases env.serve token request s with ⟨reply | reply, t⟩ <;> rfl
  · rfl

/-- A fiber is served in both states in the same way. -/
theorem afterRequest_alike (henv : env.Respects P T) (hs : T s s') (label : ι) (token : Token)
    {request : Request} {next : Reply → Process α}
    (hnext : P request → ∀ reply reply', next reply = next reply')
    (hignores : ∀ reply, (next reply).Ignores P) :
    Alike P ⟨label, token, .afterRequest next (env.serve token request s).1⟩
      ⟨label, token, .afterRequest next (env.serve token request s').1⟩ := by
  by_cases hrequest : P request
  · obtain ⟨reply, reply', hreply, hreply'⟩ := henv.answers token request hs hrequest
    rw [hreply, hreply']
    exact .answered (hignores reply) (hnext hrequest reply' reply)
  · rw [henv.reply token request hs hrequest]
    exact .refl (Stage.ignores_afterRequest hignores _)

theorem serve_alike (henv : env.Respects P T) (ready : Request → Bool) (hf : Alike P f f')
    (hs : T s s') : Option.Rel (Matched P T) (serve env ready f s) (serve env ready f' s') := by
  cases hf with
  | answered => exact .none
  | refl hignores =>
    obtain ⟨label, token, stage⟩ := f
    cases stage with
    | finished | answered | waiting => exact .none
    | asking request next =>
      rw [serve_asking, serve_asking]
      split
      · exact .some ⟨afterRequest_alike henv hs label token hignores.1 hignores.2,
          henv.state token request hs⟩
      · exact .none

/-! ### Rounds -/

/-- What comes of several moves is alike. -/
def AllMatched (P : Request → Prop) (T : σ → σ → Prop) (moved moved' : List (Fiber ι α) × σ) : Prop :=
  List.Forall₂ (Alike P) moved.1 moved'.1 ∧ T moved.2 moved'.2

variable {move : Move ι α σ}

/-- If one move is the same in both states, a pass is. -/
theorem pass?_alike (hmove : ∀ {f f' : Fiber ι α} {s s' : σ}, Alike P f f' → T s s' →
      Option.Rel (Matched P T) (move f s) (move f' s')) {fs fs' : List (Fiber ι α)}
    (hfs : List.Forall₂ (Alike P) fs fs') :
    ∀ {s s' : σ}, T s s' → Option.Rel (AllMatched P T) (pass? move fs s) (pass? move fs' s') := by
  induction hfs with
  | nil => exact fun _ => .none
  | @cons f f' fs fs' hf hfs ih =>
    intro s s' hs
    have hmoved := hmove hf hs
    unfold pass?
    generalize move f s = first, move f' s' = first' at hmoved ⊢
    cases hmoved with
    | none =>
      have hrest := ih hs
      generalize pass? move fs s = rest, pass? move fs' s' = rest' at hrest ⊢
      cases hrest with
      | none => exact .none
      | some h => exact .some ⟨.cons hf h.1, h.2⟩
    | @some moved moved' h =>
      have hrest := ih h.2
      simp only
      generalize pass? move fs moved.2 = rest, pass? move fs' moved'.2 = rest' at hrest ⊢
      cases hrest with
      | none => exact .some ⟨.cons h.1 hfs, h.2⟩
      | some hothers => exact .some ⟨.cons h.1 hothers.1, hothers.2⟩

/-- A round is the same in both states. -/
theorem round?_alike (henv : env.Respects P T) {fs fs' : List (Fiber ι α)}
    (hfs : List.Forall₂ (Alike P) fs fs') (hs : T s s') :
    Option.Rel (AllMatched P T) (round? env fs s) (round? env fs' s') := by
  have hresume := pass?_alike (resume_alike henv) hfs hs
  have hprompt := pass?_alike (serve_alike henv (·.isPrompt)) hfs hs
  have hothers := pass?_alike (serve_alike henv fun _ => true) hfs hs
  unfold round?
  generalize pass? (resume env) fs s = resumed, pass? (resume env) fs' s' = resumed' at hresume ⊢
  cases hresume with
  | some h => exact .some h
  | none =>
    generalize pass? (serve env (·.isPrompt)) fs s = served,
      pass? (serve env (·.isPrompt)) fs' s' = served' at hprompt ⊢
    cases hprompt with
    | some h => exact .some h
    | none => exact hothers

/-! ### Settling -/

theorem settle_of_some {fs gs : List (Fiber ι α)} {s t : σ} (h : round? env fs s = some (gs, t)) :
    settle env fs s = settle env gs t := by
  rw [settle]
  split
  · rename_i hround
    rw [h] at hround
    cases hround
    rfl
  · rename_i hround
    rw [h] at hround
    cases hround

theorem settle_of_none {fs : List (Fiber ι α)} {s : σ} (h : round? env fs s = none) :
    settle env fs s = (fs, s) := by
  rw [settle]
  split
  · rename_i hround
    rw [h] at hround
    cases hround
  · rfl

theorem allMatched_settle (henv : env.Respects P T) (fs : List (Fiber ι α)) (s : σ) :
    ∀ {fs' : List (Fiber ι α)} {s' : σ}, List.Forall₂ (Alike P) fs fs' → T s s' →
      AllMatched P T (settle env fs s) (settle env fs' s') := by
  fun_induction settle env fs s with
  | case1 fs s gs t h _ ih =>
    intro fs' s' hfs hs
    have hround := round?_alike henv hfs hs
    generalize hmoved : round? env fs' s' = moved' at hround
    rw [h] at hround
    cases hround with
    | some hrounds =>
      rw [settle_of_some hmoved]
      exact ih hrounds.1 hrounds.2
  | case2 fs s h =>
    intro fs' s' hfs hs
    have hround := round?_alike henv hfs hs
    generalize hmoved : round? env fs' s' = moved' at hround
    rw [h] at hround
    cases hround
    rw [settle_of_none hmoved]
    exact ⟨hfs, hs⟩

/-- **Fibers settle in both states in the same way**, if they do not care for the
replies that differ. -/
theorem settle_alike (henv : env.Respects P T) {fs : List (Fiber ι α)}
    (hfs : ∀ f ∈ fs, f.stage.Ignores P) (hs : T s s') :
    (settle env fs s').1 = (settle env fs s).1 ∧ T (settle env fs s).2 (settle env fs s').2 := by
  have hself : List.Forall₂ (Alike P) fs fs :=
    List.forall₂_same.2 fun f hf => .refl (hfs f hf)
  obtain ⟨halike, hstate⟩ := allMatched_settle henv fs s hself hs
  refine ⟨?_, hstate⟩
  have hrest := isAtRest_of_mem_settle env fs s
  generalize (settle env fs s).1 = gs, (settle env fs s').1 = gs' at halike hrest
  induction halike with
  | nil => rfl
  | cons hf _ ih =>
    rw [hf.eq_of_isAtRest (hrest _ List.mem_cons_self),
      ih fun f hf => hrest f (List.mem_cons_of_mem _ hf)]

end Fiber

end Automation
