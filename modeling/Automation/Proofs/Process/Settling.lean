/-
# Fibers that settle

Settling moves one fiber after the other, so whatever every single move keeps
is kept by it (`Fiber.settle_induction`), and it ends with all fibers at rest
(`Fiber.isAtRest_of_mem_settle`) and none of those that wait cancelled
(`Fiber.not_cancelled_of_mem_settle`).

Key definitions: `Stage.isAtRest`, `Stage.afterRequest`, `Fiber.Move.Keeps`.
Key theorems: `Fiber.settle_induction`, `Fiber.isAtRest_of_mem_settle`,
`Fiber.not_cancelled_of_mem_settle`.
-/
import Automation.Process.Fiber

namespace Automation

namespace Stage

variable {α : Type}

/-- Whether a fiber has its result or waits for a reply that does not come. -/
def isAtRest : Stage α → Bool
  | .finished _ | .waiting _ => true
  | _ => false

/-- The stage after a request, with its reply if there is one. -/
def afterRequest (next : Reply → Process α) : Option Reply → Stage α
  | some reply => .answered reply next
  | none => .waiting next

end Stage

namespace Fiber

variable {ι α σ : Type} {P : List (Fiber ι α) → σ → Prop} {move : Move ι α σ}

/-! ### Moves -/

/-- A fiber goes on with its reply, or without one if it is cancelled. -/
theorem resume_eq_some {env : Environment σ} {f g : Fiber ι α} {s t : σ}
    (h : resume env f s = some (g, t)) :
    ∃ reply next, (f.stage = .answered reply next ∨ f.stage = .waiting next ∧ reply = .cancelled)
      ∧ g = { f with stage := (next reply).stage (env.now s) (env.cancelled f.token s) }
      ∧ t = s := by
  obtain ⟨label, token, stage⟩ := f
  cases stage with
  | finished _ => cases h
  | asking _ _ => cases h
  | answered reply next =>
    cases h
    exact ⟨reply, next, .inl rfl, rfl, rfl⟩
  | waiting next =>
    simp only [resume] at h
    split at h
    · cases h
      exact ⟨.cancelled, next, .inr ⟨rfl, rfl⟩, rfl, rfl⟩
    · cases h

/-- A fiber is served what it asks for. -/
theorem serve_eq_some {env : Environment σ} {ready : Request → Bool} {f g : Fiber ι α} {s t : σ}
    (h : serve env ready f s = some (g, t)) :
    ∃ request next, f.stage = .asking request next
      ∧ g = { f with stage := .afterRequest next (env.serve f.token request s).1 }
      ∧ t = (env.serve f.token request s).2 := by
  obtain ⟨label, token, stage⟩ := f
  cases stage with
  | asking request next =>
    refine ⟨request, next, rfl, ?_⟩
    simp only [serve] at h
    split at h
    · split at h
      · rename_i reply s' hserve
        cases h
        rw [hserve]
        exact ⟨rfl, rfl⟩
      · rename_i s' hserve
        cases h
        rw [hserve]
        exact ⟨rfl, rfl⟩
    · cases h
  | _ => cases h

/-! ### What settling keeps -/

/-- A move of one fiber among others that keeps `P`. -/
def Move.Keeps (move : Move ι α σ) (P : List (Fiber ι α) → σ → Prop) : Prop :=
  ∀ {before after : List (Fiber ι α)} {f g : Fiber ι α} {s t : σ},
    P (before ++ f :: after) s → move f s = some (g, t) → P (before ++ g :: after) t

theorem pass?_induction (hmove : move.Keeps P) :
    ∀ (before : List (Fiber ι α)) {fs gs : List (Fiber ι α)} {s t : σ}, P (before ++ fs) s →
      pass? move fs s = some (gs, t) → P (before ++ gs) t
  | before, f :: fs, gs, s, t, hP, h => by
    unfold pass? at h
    split at h
    · rename_i g s' hg
      have hP' := hmove hP hg
      split at h
      · rename_i hs s'' hpass
        cases h
        rw [List.append_cons] at hP' ⊢
        exact pass?_induction hmove _ hP' hpass
      · cases h
        exact hP'
    · obtain ⟨⟨hs, s'⟩, hpass, h⟩ := Option.map_eq_some_iff.1 h
      cases h
      rw [List.append_cons] at hP ⊢
      exact pass?_induction hmove _ hP hpass

theorem round?_induction {env : Environment σ} (hresume : (resume env : Move ι α σ).Keeps P)
    (hserve : ∀ ready, (serve env ready : Move ι α σ).Keeps P) {fs gs : List (Fiber ι α)} {s t : σ}
    (hP : P fs s) (h : round? env fs s = some (gs, t)) : P gs t := by
  unfold round? at h
  split at h
  · rename_i hpass
    cases h
    exact pass?_induction hresume [] hP hpass
  · split at h
    · rename_i hpass
      cases h
      exact pass?_induction (hserve _) [] hP hpass
    · exact pass?_induction (hserve _) [] hP h

/-- What every single move keeps, settling keeps. -/
theorem settle_induction {env : Environment σ} (hresume : (resume env : Move ι α σ).Keeps P)
    (hserve : ∀ ready, (serve env ready : Move ι α σ).Keeps P) (fs : List (Fiber ι α)) (s : σ)
    (hP : P fs s) : P (settle env fs s).1 (settle env fs s).2 := by
  fun_induction settle env fs s with
  | case1 fs s gs t h _ ih => exact ih (round?_induction hresume hserve hP h)
  | case2 fs s h => exact hP

/-! ### At rest -/

theorem eq_none_of_pass?_eq_none : ∀ {fs : List (Fiber ι α)} {s : σ}, pass? move fs s = none →
    ∀ f ∈ fs, move f s = none
  | f :: fs, s, h, g, hg => by
    unfold pass? at h
    split at h
    · split at h <;> cases h
    · rename_i hf
      rcases List.mem_cons.1 hg with rfl | hg
      · exact hf
      · exact eq_none_of_pass?_eq_none (Option.map_eq_none_iff.1 h) g hg

/-- A fiber that can neither go on nor be served is at rest. -/
theorem isAtRest_of_eq_none {env : Environment σ} {f : Fiber ι α} {s : σ}
    (hresume : resume env f s = none) (hserve : serve env (fun _ => true) f s = none) :
    f.stage.isAtRest = true := by
  obtain ⟨label, token, stage⟩ := f
  cases stage with
  | finished _ => rfl
  | waiting _ => rfl
  | answered _ _ => cases hresume
  | asking request next =>
    simp only [serve, if_true] at hserve
    split at hserve <;> cases hserve

/-- Settling ends with all fibers at rest. -/
theorem isAtRest_of_mem_settle (env : Environment σ) (fs : List (Fiber ι α)) (s : σ) :
    ∀ f ∈ (settle env fs s).1, f.stage.isAtRest = true := by
  fun_induction settle env fs s with
  | case1 fs s gs t h _ ih => exact ih
  | case2 fs s h =>
    intro f hf
    unfold round? at h
    split at h
    · cases h
    · rename_i hpass
      split at h
      · cases h
      · exact isAtRest_of_eq_none (eq_none_of_pass?_eq_none hpass f hf)
          (eq_none_of_pass?_eq_none h f hf)

/-- A fiber that waits and cannot go on is not cancelled. -/
theorem not_cancelled_of_eq_none {env : Environment σ} {f : Fiber ι α} {s : σ}
    {next : Reply → Process α} (hstage : f.stage = .waiting next) (h : resume env f s = none) :
    env.cancelled f.token s = false := by
  obtain ⟨label, token, stage⟩ := f
  obtain rfl : stage = .waiting next := hstage
  simp only [resume] at h
  split at h
  · cases h
  · rename_i hcancelled
    exact Bool.eq_false_iff.2 hcancelled

/-- Settling leaves no cancelled fiber waiting. -/
theorem not_cancelled_of_mem_settle (env : Environment σ) (fs : List (Fiber ι α)) (s : σ) :
    ∀ f ∈ (settle env fs s).1, ∀ next, f.stage = .waiting next →
      env.cancelled f.token (settle env fs s).2 = false := by
  fun_induction settle env fs s with
  | case1 fs s gs t h _ ih => exact ih
  | case2 fs s h =>
    intro f hf next hstage
    unfold round? at h
    split at h
    · cases h
    · rename_i hpass
      exact not_cancelled_of_eq_none hstage (eq_none_of_pass?_eq_none hpass f hf)

end Fiber

end Automation
