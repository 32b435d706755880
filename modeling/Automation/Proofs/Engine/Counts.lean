/-
# Every execution is counted once

An execution in progress owes the table an outcome, until it has recorded
one; then it is to return that outcome. So at any time the executions entered
are those counted and those that still owe an outcome, and the successes
counted are those returned and those yet to be returned (`Engine.Balance`).
Every step keeps this balance (`Engine.Step.balances`), and a run that leaves
nothing in progress has counted exactly what was entered and what was
returned (`Engine.Run.counts`).

Key definitions: `Engine.Balance`, `Engine.Ledger`.
Key theorems: `Engine.Step.balances`, `Engine.Run.balances`, `Engine.Run.counts`.
-/
import Automation.Proofs.Engine.Standing
import Mathlib.Data.List.Forall2

namespace Automation

/-! ### The balance -/

namespace Engine

/-- The counts of a workflow in the tables `t₀` and `t`, with some events
between them and some executions in progress. -/
structure Balance (t₀ t : Table) (id : String) (events : List ExecutionEvent)
    (standings : List (String × Standing)) : Prop where
  /-- Whatever was entered is counted or still owes its outcome. -/
  total : (t.counters id).total + standings.count (id, .owes)
    = (t₀.counters id).total + events.count (.entered id)
  /-- The successes counted are those returned and those to be returned. -/
  successful : (t.counters id).successful = (t₀.counters id).successful
    + events.count (.returned id true) + standings.count (id, .ended true)
  /-- Each execution counted is a success or a failure. -/
  failed : (t.counters id).total + ((t₀.counters id).successful + (t₀.counters id).failed)
    = (t₀.counters id).total + ((t.counters id).successful + (t.counters id).failed)
  failed_le : (t₀.counters id).failed ≤ (t.counters id).failed

variable {t₀ t t' : Table} {id other : String} {events : List ExecutionEvent}
  {before after : List (String × Standing)} {success : Bool}

theorem Balance.keep {standings : List (String × Standing)} (h : Balance t₀ t id events standings)
    (hkeeps : t.Keeps t') : Balance t₀ t' id (events ++ []) standings := by
  obtain ⟨htotal, hsuccessful, hfailed, hle⟩ := h
  rw [← hkeeps.counters] at htotal hsuccessful hfailed hle
  rw [List.append_nil]
  exact ⟨htotal, hsuccessful, hfailed, hle⟩

theorem Balance.enter {standings : List (String × Standing)} (h : Balance t₀ t id events standings)
    (other : String) :
    Balance t₀ t id (events ++ [.entered other]) (standings ++ [(other, .owes)]) := by
  obtain ⟨htotal, hsuccessful, hfailed, hle⟩ := h
  refine ⟨?_, ?_, hfailed, hle⟩
  · simp only [List.count_append, List.count_singleton]
    by_cases hid : other = id
    · simp [hid]
      omega
    · simp [hid]
      omega
  · simpa [List.count_append, List.count_singleton] using hsuccessful

/-- To record an outcome that is owed is to count it. -/
theorem Balance.record {error : Option LastError} {endedAt : Instant}
    (h : Balance t₀ t id events (before ++ (other, .owes) :: after))
    (hrecord : t.record other success error endedAt = .ok t') :
    Balance t₀ t' id (events ++ []) (before ++ (other, .ended success) :: after) := by
  have hcounters := Table.record_counters hrecord
  obtain ⟨htotal, hsuccessful, hfailed, hle⟩ := h
  simp only [List.count_append, List.count_cons] at htotal hsuccessful
  rw [List.append_nil]
  by_cases hid : id = other
  · subst hid
    cases success
    all_goals
      simp at htotal hsuccessful
      constructor <;> simp [hcounters, Counters.record, List.count_append] <;> omega
  · have hne : ¬ other = id := fun heq => hid heq.symm
    simp [hne] at htotal hsuccessful
    constructor <;> simp [hcounters, hid, hne, List.count_append] <;> omega

/-- An execution that has recorded a failure may be forgotten. -/
theorem Balance.forget (h : Balance t₀ t id events (before ++ (other, .ended false) :: after)) :
    Balance t₀ t id events (before ++ after) := by
  obtain ⟨htotal, hsuccessful, hfailed, hle⟩ := h
  refine ⟨?_, ?_, hfailed, hle⟩
  · simpa [List.count_append, List.count_cons] using htotal
  · simpa [List.count_append, List.count_cons] using hsuccessful

/-- An execution returns what it has recorded. -/
theorem Balance.return (h : Balance t₀ t id events (before ++ (other, .ended success) :: after)) :
    Balance t₀ t id (events ++ [.returned other success]) (before ++ after) := by
  obtain ⟨htotal, hsuccessful, hfailed, hle⟩ := h
  simp only [List.count_append, List.count_cons] at htotal hsuccessful
  refine ⟨?_, ?_, hfailed, hle⟩
  · simpa [List.count_append] using htotal
  · simp only [List.count_append, List.count_singleton]
    by_cases hid : other = id ∧ success = true
    · simp [hid] at hsuccessful ⊢
      omega
    · simp [hid] at hsuccessful ⊢
      omega

/-! ### Runs -/

/-- What is known of the executions in progress, after some events since `e₀`. -/
structure Ledger (e₀ e : Engine) (events : List ExecutionEvent)
    (standings : List (String × Standing)) : Prop where
  stands : List.Forall₂ Execution.Stands e.executions standings
  balance : ∀ id, Balance e₀.world.table e.world.table id events standings

/-- One of several elements and what it is paired with: it may come to be paired
otherwise, or go. -/
theorem forall₂_split {α β : Type} {R : α → β → Prop} {f : α} {after : List α} :
    ∀ {before : List α} {standings : List β}, List.Forall₂ R (before ++ f :: after) standings →
      ∃ b g a, standings = b ++ g :: a ∧ R f g
        ∧ (∀ f' g', R f' g' → List.Forall₂ R (before ++ f' :: after) (b ++ g' :: a))
        ∧ List.Forall₂ R (before ++ after) (b ++ a)
  | [], _, .cons hg ha => ⟨[], _, _, rfl, hg, fun _ _ h => .cons h ha, ha⟩
  | _ :: _, _, .cons hx h => by
    obtain ⟨b, g, a, rfl, hg, hreplace, hdrop⟩ := forall₂_split h
    exact ⟨_ :: b, g, a, rfl, hg, fun f' g' h => .cons hx (hreplace f' g' h), .cons hx hdrop⟩

/-- **Every step keeps the balance** of every workflow. -/
theorem Step.balances {e e' : Engine} {more : List ExecutionEvent} (hstep : Step e more e')
    {standings : List (String × Standing)}
    (hstands : List.Forall₂ Execution.Stands e.executions standings) :
    ∃ standings', List.Forall₂ Execution.Stands e'.executions standings'
      ∧ ∀ {t₀ id events}, Balance t₀ e.world.table id events standings →
        Balance t₀ e'.world.table id (events ++ more) standings' := by
  have hkept : more = [] → e'.executions = e.executions ∧ e.world.table.Keeps e'.world.table →
      ∃ standings', List.Forall₂ Execution.Stands e'.executions standings'
        ∧ ∀ {t₀ id events}, Balance t₀ e.world.table id events standings →
          Balance t₀ e'.world.table id (events ++ more) standings' := by
    rintro rfl ⟨hexecutions, hkeeps⟩
    exact ⟨standings, hexecutions ▸ hstands, fun h => h.keep hkeeps⟩
  cases hstep with
  | enter owner w payload ctx hrecord _ =>
    refine ⟨standings ++ [(w.id, Standing.owes)], ?_, fun h => h.enter w.id⟩
    exact List.rel_append hstands (.cons ⟨rfl, .answered (e.executor.execute_owes hrecord ..)⟩ .nil)
  | enterScheduled token w ctx hrecord _ =>
    refine ⟨standings ++ [(w.id, Standing.owes)], ?_, fun h => h.enter w.id⟩
    exact List.rel_append hstands
      (.cons ⟨rfl, .answered (e.executor.executeScheduled_owes hrecord ..)⟩ .nil)
  | resume hexecutions hresume =>
    obtain ⟨b, g, a, rfl, hg, hreplace, -⟩ := forall₂_split (hexecutions ▸ hstands)
    obtain ⟨hg', rfl⟩ := hg.resume hresume
    exact ⟨_, hreplace _ g hg', fun h => h.keep (.refl _)⟩
  | act hexecutions hf hrequest htable =>
    obtain ⟨b, g, a, rfl, hg, hreplace, -⟩ := forall₂_split (hexecutions ▸ hstands)
    exact ⟨_, hreplace _ g (hg.act hf hrequest _), fun h => h.keep (htable ▸ .refl _)⟩
  | write hexecutions hf hrequest hserve =>
    obtain ⟨b, g, a, rfl, hg, hreplace, -⟩ := forall₂_split (hexecutions ▸ hstands)
    rcases hg.write hf hrequest hserve with
      ⟨success, error, endedAt, rfl, hrecord, hg'⟩ | ⟨hkeeps, hg'⟩
    · exact ⟨_, hreplace _ _ hg', fun h => h.record hrecord⟩
    · exact ⟨_, hreplace _ g hg', fun h => h.keep hkeeps⟩
  | giveUp hexecutions hf hserve =>
    obtain ⟨b, g, a, rfl, hg, -, hdrop⟩ := forall₂_split (hexecutions ▸ hstands)
    obtain rfl := hg.eq_owes hf
    refine ⟨_, hdrop, fun h => ?_⟩
    exact (h.record (World.of_serve_record hserve)).forget
  | «return» hexecutions hf =>
    obtain ⟨b, g, a, rfl, hg, -, hdrop⟩ := forall₂_split (hexecutions ▸ hstands)
    obtain rfl := hg.eq_ended hf
    exact ⟨_, hdrop, fun h => h.return⟩
  | save => exact hkept rfl (e.save_keeps _)
  | setActive => exact hkept rfl (e.setActive_keeps ..)
  | softDelete => exact hkept rfl (e.softDelete_keeps _)
  | setNextRun => exact hkept rfl (e.setNextRun_keeps ..)
  | other hexecutions htable => exact hkept rfl ⟨hexecutions, htable ▸ .refl _⟩

/-- So does every run. -/
theorem Run.balances {e e' : Engine} {more : List ExecutionEvent} (h : Run e more e')
    {standings : List (String × Standing)}
    (hstands : List.Forall₂ Execution.Stands e.executions standings) :
    ∃ standings', List.Forall₂ Execution.Stands e'.executions standings'
      ∧ ∀ {t₀ id events}, Balance t₀ e.world.table id events standings →
        Balance t₀ e'.world.table id (events ++ more) standings' := by
  induction h with
  | nil => exact ⟨standings, hstands, fun h => h.keep (.refl _)⟩
  | step _ hstep ih =>
    obtain ⟨before, hbefore, hbalance⟩ := ih
    obtain ⟨after, hafter, hbalance'⟩ := hstep.balances hbefore
    exact ⟨after, hafter, fun h => by simpa using hbalance' (hbalance h)⟩

/-- What is known once there was no execution in progress. -/
theorem Run.ledger {e₀ e : Engine} (h₀ : e₀.executions = []) {events : List ExecutionEvent}
    (h : Run e₀ events e) : ∃ standings, Ledger e₀ e events standings := by
  have hnone : List.Forall₂ Execution.Stands e₀.executions [] := by
    rw [h₀]
    exact .nil
  obtain ⟨standings, hstands, hbalance⟩ := h.balances hnone
  have hstart : ∀ id, Balance e₀.world.table e₀.world.table id [] [] := fun _ =>
    ⟨rfl, rfl, rfl, Nat.le_refl _⟩
  exact ⟨standings, hstands, fun id => hbalance (hstart id)⟩

/-- **Every execution is counted once.** Whatever happens to an engine, once no
execution is in progress each that was entered has been counted: those that
returned a success as successful, the rest as failed. At no time is an
execution counted that is neither. -/
theorem Run.counts {e₀ e : Engine} (h₀ : e₀.executions = []) {events : List ExecutionEvent}
    (h : Run e₀ events e) (id : String) :
    ((e₀.world.table.counters id).total
        = (e₀.world.table.counters id).successful + (e₀.world.table.counters id).failed →
      (e.world.table.counters id).total
        = (e.world.table.counters id).successful + (e.world.table.counters id).failed)
      ∧ (e.executions = [] →
        (e.world.table.counters id).total
            = (e₀.world.table.counters id).total + events.count (.entered id)
          ∧ (e.world.table.counters id).successful
            = (e₀.world.table.counters id).successful + events.count (.returned id true)
          ∧ events.count (.returned id true) ≤ events.count (.entered id)
          ∧ (e.world.table.counters id).failed = (e₀.world.table.counters id).failed
            + (events.count (.entered id) - events.count (.returned id true))) := by
  obtain ⟨standings, hstands, hbalance⟩ := h.ledger h₀
  obtain ⟨htotal, hsuccessful, hfailed, hle⟩ := hbalance id
  refine ⟨fun hsum => by omega, fun hdone => ?_⟩
  rw [hdone] at hstands
  cases hstands
  simp only [List.count_nil, Nat.add_zero] at htotal hsuccessful
  exact ⟨htotal, hsuccessful, by omega, by omega⟩

/-- A run that crashes is entered, records its failure and returns it. -/
theorem Run.counts_crash :
    let row : Row := {
      id := "w-1"
      createdAt := ⟨0⟩
      definition := ⟨"store", none, "Notify", none, [], 1, true, false, "manual", [], .null, none,
        .arr [], none⟩ }
    let w : Workflow := { id := "w-1", storeId := "store", name := "Notify", trigger := ⟨.manual, [], none⟩ }
    let e₀ : Engine := {
      world := { clock := ⟨86400000000⟩, table := ⟨[row]⟩, outages := [(.runner, .crash "Boom" none)] } }
    e₀.world.table.has w.id = true ∧ e₀.executions = [] ∧
      ∃ e, Run e₀ [.entered "w-1", .returned "w-1" false] e ∧ e.executions = []
        ∧ (e.world.table.counters "w-1").total = 1 ∧ (e.world.table.counters "w-1").successful = 0
        ∧ (e.world.table.counters "w-1").failed = 1 := by
  intro row w e₀
  have henter : Run e₀ [.entered "w-1"] _ :=
    .single (.enter .caller w .null { storeId := "store" } rfl rfl)
  have hasks : Run e₀ [.entered "w-1"] _ := henter.step (@Step.resume _ [] [] _ _ _ rfl rfl)
  have hrecord : Run e₀ [.entered "w-1"] _ := hasks.step (@Step.write _ [] [] _ _ _ _ rfl rfl rfl rfl)
  have hends : Run e₀ [.entered "w-1"] _ := hrecord.step (@Step.resume _ [] [] _ _ _ rfl rfl)
  let r : ExecutionResult := { workflowId := "w-1", error := some (.internal "Boom: ") }
  have hreturn := hends.step (@Step.return _ [] [] _ r rfl rfl)
  have hcounts := (Run.counts rfl hreturn "w-1").2 rfl
  exact ⟨rfl, rfl, _, hreturn, rfl, hcounts.1, hcounts.2.1, hcounts.2.2.2⟩

end Engine

end Automation
