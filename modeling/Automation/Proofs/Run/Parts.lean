/-
# Runs in two parts

If no action of a first list comes after one of a second list, then the two lists
together are put in order by putting each in order (`Action.sorted_append`): the
order of actions is the only one that is stable (`Action.IsStableSort.unique`), also
for actions of one order on both sides. The steps of two lists run one list after
the other (`Step.runAll_append`). So the run of both lists is, as a process, the run
of the first, which the run of the second follows if the first is ok
(`Runner.run_append`): whatever its requests are answered, it makes the same
requests in the same order, leaves the same state, and its trace and its failure are
put together from those of the two runs (`Setting.run_inParts`).

Key definitions: `RunResult.followedBy`, `RunResult.goOn`, `Setting.InParts`.
Key theorems: `Action.IsStableSort.unique`, `Action.sorted_append`,
`Runner.run_append`, `Setting.run_inParts`.
-/
import Automation.Proofs.Run.Quiet
import Automation.World

namespace Automation

/-! ### Order is settled by stability -/

namespace Action

/-- Of two lists in order, one begins with an action as early as the other has any. -/
theorem order_le_of_mem {a b : Action} {m : List Action}
    (hm : (b :: m).Pairwise fun a b => a.order ≤ b.order) (h : a ∈ b :: m) : b.order ≤ a.order := by
  rcases List.mem_cons.1 h with rfl | h
  · exact Int.le_refl _
  · exact (List.pairwise_cons.1 hm).1 a h

/-- Two lists in order that have the same actions of each order, in the same
sequence, are equal. -/
theorem eq_of_filter_order : ∀ {l m : List Action},
    l.Pairwise (fun a b => a.order ≤ b.order) → m.Pairwise (fun a b => a.order ≤ b.order) →
    (∀ n : Int, (l.filter fun a => a.order == n) = m.filter fun a => a.order == n) → l = m
  | [], [], _, _, _ => rfl
  | [], b :: m, _, _, h => by simpa using h b.order
  | a :: l, [], _, _, h => by simpa using h a.order
  | a :: l, b :: m, hl, hm, h => by
    have mem (n : Int) (c : Action) : (c ∈ (a :: l) ∧ c.order = n) ↔ (c ∈ (b :: m) ∧ c.order = n) := by
      have hc : c ∈ ((a :: l).filter fun a => a.order == n)
          ↔ c ∈ ((b :: m).filter fun a => a.order == n) := by rw [h n]
      simpa [List.mem_filter] using hc
    have hab : a.order = b.order := by
      have ha := ((mem a.order a).1 ⟨List.mem_cons_self, rfl⟩).1
      have hb := ((mem b.order b).2 ⟨List.mem_cons_self, rfl⟩).1
      have hle := order_le_of_mem hm ha
      have hge := order_le_of_mem hl hb
      omega
    -- the first actions are the first ones of their order, so they are the same
    have hfirst := h a.order
    simp only [List.filter_cons, hab, beq_self_eq_true, ↓reduceIte, List.cons.injEq] at hfirst
    obtain ⟨rfl, -⟩ := hfirst
    have hrest : ∀ n : Int, (l.filter fun a => a.order == n) = m.filter fun a => a.order == n := by
      intro n
      have hn := h n
      simp only [List.filter_cons] at hn
      split at hn
      · exact (List.cons.inj hn).2
      · exact hn
    rw [eq_of_filter_order (List.pairwise_cons.1 hl).2 (List.pairwise_cons.1 hm).2 hrest]

/-- **There is one stable order.** -/
theorem IsStableSort.unique {actions l m : List Action} (hl : IsStableSort actions l)
    (hm : IsStableSort actions m) : l = m :=
  eq_of_filter_order hl.ordered hm.ordered fun n => (hl.stable n).trans (hm.stable n).symm

/-- If no action of one list comes after one of another, each list is put in order
by itself. -/
theorem sorted_append {xs ys : List Action} (h : ∀ x ∈ xs, ∀ y ∈ ys, x.order ≤ y.order) :
    sorted (xs ++ ys) = sorted xs ++ sorted ys := by
  have hxs := sorted_isStableSort xs
  have hys := sorted_isStableSort ys
  refine (sorted_isStableSort (xs ++ ys)).unique ⟨hxs.perm.append hys.perm, ?_, fun n => ?_⟩
  · refine List.pairwise_append.2 ⟨hxs.ordered, hys.ordered, fun x hx y hy => ?_⟩
    exact h x (hxs.perm.mem_iff.1 hx) y (hys.perm.mem_iff.1 hy)
  · rw [List.filter_append, List.filter_append, hxs.stable n, hys.stable n]

end Action

/-! ### One run after another -/

/-- The result of two runs, of which the first was ok. -/
def RunResult.followedBy (first second : RunResult) : RunResult :=
  ⟨first.trace ++ second.trace, second.failure⟩

/-- Another run follows a run that is ok. -/
def RunResult.goOn (next : Process RunResult) (r : RunResult) : Process RunResult :=
  if r.isOk then next.map r.followedBy else .done r

namespace Process

variable {α β γ σ : Type}

theorem bind_done : ∀ p : Process α, p.bind .done = p
  | .done _ => rfl
  | .clock next => congrArg clock (funext fun now => bind_done (next now))
  | .token next => congrArg token (funext fun cancelled => bind_done (next cancelled))
  | .ask request next => congrArg (ask request) (funext fun reply => bind_done (next reply))

theorem map_bind (f : α → β) (g : β → Process γ) (p : Process α) :
    (p.map f).bind g = p.bind fun a => g (f a) := by
  rw [map, bind_bind]
  rfl

theorem map_map (f : α → β) (g : β → γ) (p : Process α) : (p.map f).map g = p.map fun a => g (f a) :=
  map_bind f _ p

end Process

namespace Step

/-- What is visited first stays in front of the trace of a longer run. -/
theorem goOn_visited (visited : List TraceEntry) (next p : Process RunResult) :
    (p.map fun r : RunResult => { r with trace := visited ++ r.trace }).bind (RunResult.goOn next)
      = (p.bind (RunResult.goOn next)).map fun r => { r with trace := visited ++ r.trace } := by
  rw [Process.map_bind, Process.map, Process.bind_bind]
  congr 1
  funext r
  obtain ⟨trace, failure⟩ := r
  cases failure with
  | some _ => rfl
  | none =>
    refine ((Process.map_map _ _ next).trans ?_).symm
    congr 1
    funext r
    exact congrArg (RunResult.mk · r.failure) (List.append_assoc ..).symm

/-- The steps of two lists run one list after the other. -/
theorem runAll_append (depth : Int) (rest : List Step) : ∀ steps : List Step,
    runAll depth (steps ++ rest) = (runAll depth steps).bind (RunResult.goOn (runAll depth rest))
  | [] => (Process.bind_done _).symm
  | step :: steps => by
    rw [List.cons_append, runAll, runAll, Process.bind_bind]
    congr 1
    funext outcome
    rw [runAll_append depth rest steps]
    cases outcome.failure with
    | none => exact (goOn_visited _ _ _).symm
    | some failure =>
      by_cases hc : step.continueOnError = true
      · simp only [if_pos hc]
        exact (goOn_visited _ _ _).symm
      · simp only [if_neg hc]
        rfl

end Step

/-- **The run of two lists is the run of the first and then, if that is ok, the run
of the second**, if no action of the first comes after one of the second. -/
theorem Runner.run_append (runner : Runner) (ctx : Context) (payload : Json) {xs ys : List Action}
    (h : ∀ x ∈ xs, ∀ y ∈ ys, x.order ≤ y.order) (depth : Int) :
    runner.run ctx payload (xs ++ ys) depth =
      (runner.run ctx payload xs depth).bind
        (RunResult.goOn (runner.run ctx payload ys depth)) := by
  simp only [run, Setting.sorted_steps]
  rw [Action.sorted_append h, List.map_append, Step.runAll_append]

/-! ### What two parts of a run come to -/

namespace Setting

variable {σ : Type} {X : Setting σ}

/-- The run of two lists, told by the runs of each. -/
structure InParts (X : Setting σ) (depth : Int) (xs ys : List Action) (s : σ) : Prop where
  /-- As a process it is the first run with the second after it: this holds also
  while other executions change the state between its requests. -/
  process : X.runner.run X.ctx X.payload (xs ++ ys) depth =
    (X.runner.run X.ctx X.payload xs depth).bind
      (RunResult.goOn (X.runner.run X.ctx X.payload ys depth))
  /-- If the first run is ok, the second starts from the state that it leaves. -/
  ok : (X.run depth xs s).1.isOk = true →
    X.run depth (xs ++ ys) s =
        ((X.run depth xs s).1.followedBy (X.run depth ys (X.run depth xs s).2).1,
          (X.run depth ys (X.run depth xs s).2).2)
      ∧ X.requests depth (xs ++ ys) s =
        X.requests depth xs s ++ X.requests depth ys (X.run depth xs s).2
  /-- If it is not, nothing of the second list is visited. -/
  failed : (X.run depth xs s).1.isOk = false →
    X.run depth (xs ++ ys) s = X.run depth xs s
      ∧ X.requests depth (xs ++ ys) s = X.requests depth xs s

/-- **A run goes in parts.** If no action of one list comes after one of another, the
run of both lists is the run of the one and then, unless that fails, the run of the
other from the state that it leaves: with the same requests in the same order, the
traces one after the other, and the failure of the part that failed. -/
theorem run_inParts (X : Setting σ) (depth : Int) {xs ys : List Action}
    (h : ∀ x ∈ xs, ∀ y ∈ ys, x.order ≤ y.order) (s : σ) : X.InParts depth xs ys s := by
  have hprocess := X.runner.run_append X.ctx X.payload h depth
  refine ⟨hprocess, fun hok => ?_, fun hfailed => ?_⟩
  · rw [Setting.run, requests, hprocess, Process.run_bind, Process.requests_bind]
    rw [← Setting.run, ← requests]
    simp only [RunResult.goOn, if_pos hok, Process.run_map, Process.requests_map]
    exact ⟨rfl, rfl⟩
  · rw [Setting.run, requests, hprocess, Process.run_bind, Process.requests_bind]
    rw [← Setting.run, ← requests]
    have hnot : ¬ (X.run depth xs s).1.isOk = true := by simp [hfailed]
    simp only [RunResult.goOn, if_neg hnot]
    exact ⟨rfl, List.append_nil _⟩

/-- A failure that lets the run go on comes first and a tie stands at the boundary:
both parts run, each in its own order. -/
theorem run_inParts_tied :
    let w : World := { clock := ⟨0⟩, records := ⟨[⟨"p-1", .product, "store-1", []⟩]⟩ }
    let X : Setting World := {
      env := World.environment
      runner := {}
      ctx := { storeId := "store-1" }
      payload := .obj [("status", .str "paid")] }
    let xs : List Action :=
      [.task ⟨1, false⟩ (.update (some "product") (some "p-1") [("price", .int 5)]),
        .task ⟨0, true⟩ (.unknown "refund")]
    let ys : List Action :=
      [.branch ⟨2, false⟩ (some ⟨"status", "equals", .str "paid"⟩)
          [.task ⟨0, false⟩ (.email [] "" "")] [],
        .task ⟨1, false⟩ (.webhook (some "https://hooks.example/a") "" [] .null)]
    (∀ x ∈ xs, ∀ y ∈ ys, x.order ≤ y.order) ∧ X.InParts 0 xs ys w
      ∧ (X.run 0 xs w).1.isOk = true ∧ (X.run 0 (xs ++ ys) w).1.isOk = false := by
  intro w X xs ys
  have h : ∀ x ∈ xs, ∀ y ∈ ys, x.order ≤ y.order := by decide
  refine ⟨h, X.run_inParts 0 h w, ?_, ?_⟩ <;> cbv

end Setting

end Automation
