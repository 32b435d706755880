/-
# What the queries of the table give

A query picks rows, puts them in order and reads them (`Table.query`). If all
that it picks can be read, it gives their workflows, each once and in the order
of the rows (`Table.exists_query`, `Table.mem_query`, `Table.pairwise_query`).
One row among them that cannot be read hides all the others; one that is not
picked changes nothing (`Table.query_unreadable`, `Table.query_readable`). So an
event sets off nothing and a tick launches nothing while such a row is in their
way (`Engine.matching_unreadable`, `Engine.tick_unreadable`), and otherwise they
do as if the rows that cannot be read were not there.

Key definitions: `Row.isReadable`, `Table.query`, `Table.readable`,
`Workflow.IsNewer`.
Key theorems: `Table.mem_query`, `Table.nodup_query`, `Table.pairwise_query`,
`Engine.mem_matching`, `Engine.pairwise_matching`, `Engine.matching_unreadable`,
`Engine.tick_unreadable`, `Engine.matching_readable`, `Engine.dueAt_readable`.
-/
import Automation.Proofs.Engine.Beats
import Automation.Proofs.Table.Saving

namespace Automation

/-- Whether a row holds a workflow. -/
def Row.isReadable (r : Row) : Bool := r.workflow.toBool

/-- Whether a workflow was added after another, or at the same time and has the
greater id. -/
def Workflow.IsNewer (a b : Workflow) : Prop :=
  ∃ s t : Instant, a.createdAt = some (.ofInstant s) ∧ b.createdAt = some (.ofInstant t)
    ∧ (t.micros < s.micros ∨ t = s ∧ b.id < a.id)

theorem Workflow.IsNewer.asymm {a b : Workflow} (h : a.IsNewer b) : ¬ b.IsNewer a := by
  have hsame : ∀ {w : Workflow} {s t : Instant}, w.createdAt = some (.ofInstant s) →
      w.createdAt = some (.ofInstant t) → s = t := fun {_ s t} hs ht => by
    have heq : Timestamp.ofInstant s = Timestamp.ofInstant t := Option.some.inj (hs.symm.trans ht)
    rw [← Timestamp.instant_ofInstant s, heq, Timestamp.instant_ofInstant]
  obtain ⟨s, t, ha, hb, hab⟩ := h
  rintro ⟨t', s', hb', ha', hba⟩
  obtain rfl := hsame ha ha'
  obtain rfl := hsame hb hb'
  rcases hab with hab | ⟨rfl, hab⟩
  · rcases hba with hba | ⟨rfl, -⟩
    · exact Int.lt_asymm hab hba
    · exact Int.lt_irrefl _ hab
  · rcases hba with hba | ⟨-, hba⟩
    · exact Int.lt_irrefl _ hba
    · exact String.lt_asymm hab hba

/-- Which workflows are listed newest first decides their list. -/
theorem Workflow.eq_of_isNewer {ws vs : List Workflow} (hws : ws.Pairwise Workflow.IsNewer)
    (hvs : vs.Pairwise Workflow.IsNewer) (h : ∀ w, w ∈ ws ↔ w ∈ vs) : ws = vs := by
  have hdistinct : ∀ {us : List Workflow}, us.Pairwise Workflow.IsNewer → us.Nodup := fun hus =>
    hus.imp fun hnewer heq => (heq ▸ hnewer).asymm (heq ▸ hnewer)
  have hperm : ws.Perm vs := (List.perm_ext_iff_of_nodup (hdistinct hws) (hdistinct hvs)).2 h
  exact hperm.eq_of_pairwise (fun _ _ _ _ hab hba => (hab.asymm hba).elim) hws hvs

/-- What a workflow has from its row as it stands. -/
theorem Row.fields_of_workflow {r : Row} {w : Workflow} (h : r.workflow = .ok w) :
    w.id = r.id ∧ w.storeId = r.definition.storeId ∧ w.isActive = r.definition.isActive
      ∧ w.isDeleted = r.definition.isDeleted ∧ w.trigger.kind.name = r.definition.triggerName
      ∧ w.createdAt = some (.ofInstant r.createdAt) := by
  obtain ⟨kind, hkind, h⟩ := Except.of_bind_eq_ok h
  obtain ⟨conditions, -, h⟩ := Except.of_bind_eq_ok h
  obtain ⟨schedule, -, h⟩ := Except.of_bind_eq_ok h
  obtain ⟨actions, -, h⟩ := Except.of_bind_eq_ok h
  cases h
  refine ⟨rfl, rfl, rfl, rfl, ?_, rfl⟩
  unfold Definition.trigger at hkind
  split at hkind
  · rename_i found hname
    cases hkind
    have hfound := List.find?_some hname
    exact beq_iff_eq.1 hfound
  · cases hkind

namespace Table

open Engine

/-! ### Rows picked, put in order and read -/

def query (t : Table) (picks : Row → Bool) (first : Row → Row → Bool) :
    Except Failure (List Workflow) :=
  workflows ((t.rows.filter picks).mergeSort first)

/-- Whether a row is executable and has a trigger, in a store. -/
def isActiveFor (storeId trigger : String) (r : Row) : Bool :=
  r.definition.isExecutable && r.definition.storeId == storeId && r.definition.triggerName == trigger

theorem activeFor_eq (t : Table) (storeId : String) {trigger : String}
    (h : (TriggerKind.ofName? trigger).isSome = true) :
    t.activeFor storeId trigger = t.query (isActiveFor storeId trigger) newestFirst := by
  obtain ⟨kind, hkind⟩ := Option.isSome_iff_exists.1 h
  have hfound := List.find?_some hkind
  have hname : kind.name = trigger := beq_iff_eq.1 hfound
  rw [activeFor, triggerNamed, hkind, ← hname]
  rfl

theorem dueAt_eq (t : Table) (now : Instant) : t.dueAt now = t.query (isDue now) earliestFirst :=
  rfl

variable {t : Table} {picks : Row → Bool} {first : Row → Row → Bool} {ws : List Workflow}
  {rows : List Row}

/-- Rows that can all be read are. -/
theorem exists_workflows : ∀ {rows : List Row}, (∀ r ∈ rows, r.isReadable = true) →
    ∃ ws, workflows rows = .ok ws
  | [], _ => ⟨[], rfl⟩
  | r :: rows, h => by
    obtain ⟨ws, hws⟩ := exists_workflows fun r hr => h r (List.mem_cons_of_mem _ hr)
    have hread := h r List.mem_cons_self
    unfold Row.isReadable at hread
    cases hw : r.workflow with
    | error f =>
      rw [hw] at hread
      cases hread
    | ok w =>
      refine ⟨w :: ws, ?_⟩
      rw [workflows] at hws ⊢
      rw [List.mapM_cons, hw, hws]
      rfl

/-- One that cannot be read fails them all. -/
theorem exists_failure {r : Row} (hbad : r.isReadable = false) :
    ∀ {rows : List Row}, r ∈ rows → ∃ failure, workflows rows = .error failure
  | [], hr => nomatch hr
  | old :: rows, hr => by
    rw [workflows, List.mapM_cons]
    cases hold : old.workflow with
    | error failure => exact ⟨failure, rfl⟩
    | ok w =>
      have hmem : r ∈ rows := by
        rcases List.mem_cons.1 hr with rfl | hr
        · rw [Row.isReadable, hold] at hbad
          cases hbad
        · exact hr
      obtain ⟨failure, hfailure⟩ := exists_failure hbad hmem
      rw [workflows] at hfailure
      exact ⟨failure, by rw [hfailure]; rfl⟩

example :
    let row (id : String) (conditions : List Json) : Row := {
      id, createdAt := ⟨0⟩
      definition := ⟨"store", none, "Notify", none, [], 1, true, false, "manual", conditions, .null,
        none, .arr [], none⟩ }
    (row "bad" [.null]).isReadable = false ∧ (row "good" []).isReadable = true
      ∧ (Table.workflows [row "good" []]).toBool = true
      ∧ (Table.workflows [row "good" [], row "bad" [.null]]).toBool = false :=
  ⟨rfl, rfl, rfl, rfl⟩

theorem mem_sorted {r : Row} :
    r ∈ (t.rows.filter picks).mergeSort first ↔ r ∈ t.rows ∧ picks r = true := by
  rw [List.mem_mergeSort, List.mem_filter]

/-- **A query gives what the picked rows hold.** -/
theorem mem_query (h : t.query picks first = .ok ws) {w : Workflow} :
    w ∈ ws ↔ ∃ r ∈ t.rows, picks r = true ∧ r.workflow = .ok w := by
  have hrows := forall₂_of_workflows h
  constructor
  · intro hw
    obtain ⟨r, hr, hread⟩ := exists_of_forall₂ hrows w hw
    obtain ⟨hmem, hpicks⟩ := mem_sorted.1 hr
    exact ⟨r, hmem, hpicks, hread⟩
  · rintro ⟨r, hmem, hpicks, hread⟩
    obtain ⟨v, hv, hsame⟩ := exists_of_forall₂ hrows.flip r (mem_sorted.2 ⟨hmem, hpicks⟩)
    rw [hread] at hsame
    exact Except.ok.inj hsame ▸ hv

/-- If ids are distinct no workflow is given twice. -/
theorem nodup_query (hids : t.Distinct) (h : t.query picks first = .ok ws) :
    (ws.map (·.id)).Nodup := by
  have hperm : ((t.rows.filter picks).mergeSort first).Perm (t.rows.filter picks) :=
    List.mergeSort_perm ..
  have hsub : (t.rows.filter picks).Sublist t.rows := List.filter_sublist
  rw [map_id_of_forall₂ (forall₂_of_workflows h), (hperm.map (·.id)).nodup_iff]
  exact hids.sublist (hsub.map (·.id))

/-! ### Newest first -/

theorem newestFirst_iff {a b : Row} : newestFirst a b = true
    ↔ b.createdAt.micros < a.createdAt.micros ∨ a.createdAt = b.createdAt ∧ b.id ≤ a.id := by
  simp [newestFirst]

theorem newestFirst_trans (a b c : Row) (hab : newestFirst a b = true)
    (hbc : newestFirst b c = true) : newestFirst a c = true := by
  rw [newestFirst_iff] at hab hbc ⊢
  rcases hab with hab | ⟨hab, hids⟩
  · rcases hbc with hbc | ⟨hbc, -⟩
    · exact .inl (hbc.trans hab)
    · exact .inl (hbc ▸ hab)
  · rcases hbc with hbc | ⟨hbc, hids'⟩
    · exact .inl (hab ▸ hbc)
    · exact .inr ⟨hab.trans hbc, String.le_trans hids' hids⟩

theorem newestFirst_total (a b : Row) : (newestFirst a b || newestFirst b a) = true := by
  rw [Bool.or_eq_true, newestFirst_iff, newestFirst_iff]
  rcases lt_trichotomy a.createdAt.micros b.createdAt.micros with hlt | heq | hgt
  · exact .inr (.inl hlt)
  · have hsame : a.createdAt = b.createdAt := congrArg Instant.mk heq
    rcases String.le_total a.id b.id with hids | hids
    · exact .inr (.inr ⟨hsame.symm, hids⟩)
    · exact .inl (.inr ⟨hsame, hids⟩)
  · exact .inl (.inl hgt)

theorem isNewer_of_newestFirst {r r' : Row} {w w' : Workflow} (hr : r.workflow = .ok w)
    (hr' : r'.workflow = .ok w') (hids : w.id ≠ w'.id) (h : newestFirst r r' = true) :
    w.IsNewer w' := by
  obtain ⟨hid, -, -, -, -, hcreated⟩ := Row.fields_of_workflow hr
  obtain ⟨hid', -, -, -, -, hcreated'⟩ := Row.fields_of_workflow hr'
  refine ⟨_, _, hcreated, hcreated', ?_⟩
  rcases newestFirst_iff.1 h with hlater | ⟨hsame, hle⟩
  · exact .inl hlater
  · rw [← hid, ← hid'] at hle
    exact .inr ⟨hsame.symm, Std.lt_of_le_of_ne hle hids.symm⟩

/-- What holds of any two rows in their order holds of the workflows read from
them. -/
theorem pairwise_of_forall₂ {P : Row → Row → Prop} {Q : Workflow → Workflow → Prop}
    (h : List.Forall₂ (fun r w => r.workflow = .ok w) rows ws)
    (hids : (ws.map (·.id)).Nodup) (hPQ : ∀ {r r' w w'}, r.workflow = .ok w → r'.workflow = .ok w' →
      w.id ≠ w'.id → P r r' → Q w w') (hrows : rows.Pairwise P) : ws.Pairwise Q := by
  induction h with
  | nil => exact .nil
  | @cons r w rows ws hread hrest ih =>
    rw [List.pairwise_cons] at hrows
    rw [List.map_cons, List.nodup_cons] at hids
    refine List.pairwise_cons.2 ⟨fun v hv => ?_, ih hids.2 hrows.2⟩
    obtain ⟨r', hr', hread'⟩ := exists_of_forall₂ hrest v hv
    have hne : w.id ≠ v.id := fun heq => hids.1 (heq ▸ List.mem_map_of_mem hv)
    exact hPQ hread hread' hne (hrows.1 r' hr')

/-- **The workflows that an event may set off come newest first.** -/
theorem pairwise_query (hids : t.Distinct) (h : t.query picks newestFirst = .ok ws) :
    ws.Pairwise Workflow.IsNewer :=
  pairwise_of_forall₂ (forall₂_of_workflows h) (nodup_query hids h) isNewer_of_newestFirst
    (List.pairwise_mergeSort newestFirst_trans newestFirst_total _)

/-! ### Rows that cannot be read -/

/-- The table without the rows that cannot be read. -/
def readable (t : Table) : Table := ⟨t.rows.filter Row.isReadable⟩

/-- A query that picks readable rows only does as if the others were absent. -/
theorem query_readable (h : ∀ r ∈ t.rows, picks r = true → r.isReadable = true)
    (first : Row → Row → Bool) : t.query picks first = t.readable.query picks first := by
  have hrows : t.rows.filter picks = t.readable.rows.filter picks := by
    rw [readable, List.filter_filter]
    refine List.filter_congr fun r hr => ?_
    cases hpicks : picks r with
    | true => rw [h r hr hpicks, Bool.and_self]
    | false => rfl
  rw [query, query, hrows]

/-- One that picks a row that cannot be read fails, whatever else it picks. -/
theorem query_unreadable {r : Row} (hr : r ∈ t.rows) (hpicks : picks r = true)
    (hbad : r.isReadable = false) (first : Row → Row → Bool) :
    ∃ failure, t.query picks first = .error failure :=
  exists_failure hbad (mem_sorted.2 ⟨hr, hpicks⟩)

/-- Readable rows are read. -/
theorem exists_query (h : ∀ r ∈ t.rows, picks r = true → r.isReadable = true)
    (first : Row → Row → Bool) : ∃ ws, t.query picks first = .ok ws :=
  exists_workflows fun r hr => h r (mem_sorted.1 hr).1 (mem_sorted.1 hr).2

end Table

namespace Engine

variable {e : Engine} {event : String} {payload : Json} {ctx : Context} {r : Row}

/-- What is no kind of trigger sets off nothing. -/
theorem matching_of_eq_none (broken : List Condition → Bool)
    (h : TriggerKind.ofName? event = none) : e.matching event payload ctx broken = [] := by
  unfold matching
  split
  · rename_i ws hws
    have hquery := of_through_eq_ok hws
    rw [Table.activeFor, Table.triggerNamed, h] at hquery
    cases hquery
  · rfl

/-- An event sets off nothing while a row in its way cannot be read: that row
hides all others. -/
theorem matching_unreadable (broken : List Condition → Bool) (hr : r ∈ e.world.table.rows)
    (hactive : Table.isActiveFor ctx.storeId event r = true) (hbad : r.isReadable = false) :
    e.matching event payload ctx broken = [] := by
  cases hkind : TriggerKind.ofName? event with
  | none => exact matching_of_eq_none broken hkind
  | some kind =>
    unfold matching
    split
    · rename_i ws hws
      obtain ⟨failure, hfailure⟩ := Table.query_unreadable hr hactive hbad Table.newestFirst
      have hquery := of_through_eq_ok hws
      rw [Table.activeFor_eq _ _ (by rw [hkind]; rfl), hfailure] at hquery
      cases hquery
    · rfl

/-- Otherwise the event sets off what it would if such rows were absent. -/
theorem matching_readable (broken : List Condition → Bool)
    (hread : ∀ r ∈ e.world.table.rows, Table.isActiveFor ctx.storeId event r = true →
      r.isReadable = true) :
    e.matching event payload ctx broken
      = Engine.matching { e with world := { e.world with table := e.world.table.readable } } event
        payload ctx broken := by
  cases hkind : TriggerKind.ofName? event with
  | none => rw [matching_of_eq_none broken hkind, matching_of_eq_none broken hkind]
  | some kind =>
    have hsome : (TriggerKind.ofName? event).isSome = true := by rw [hkind]; rfl
    have hquery := Table.query_readable hread Table.newestFirst
    rw [← Table.activeFor_eq _ _ hsome, ← Table.activeFor_eq _ _ hsome] at hquery
    simp only [matching, hquery]
    rfl

/-- Nor does a tick launch anything. -/
theorem tick_unreadable (hr : r ∈ e.world.table.rows)
    (hdue : Table.isDue e.world.clock r = true) (hbad : r.isReadable = false) : e.tick = (0, e) := by
  unfold tick
  split
  · rename_i due hquery
    obtain ⟨failure, hfailure⟩ := Table.query_unreadable hr hdue hbad Table.earliestFirst
    have hok := of_through_eq_ok hquery
    rw [Table.dueAt_eq, hfailure] at hok
    cases hok
  · rfl

/-- Otherwise the tick finds due what it would if such rows were absent. -/
theorem dueAt_readable (hread : ∀ r ∈ e.world.table.rows, Table.isDue e.world.clock r = true →
    r.isReadable = true) :
    e.world.table.dueAt e.world.clock = e.world.table.readable.dueAt e.world.clock :=
  Table.query_readable hread Table.earliestFirst

/-- An event finds the workflows that its rows hold, if these can be read. -/
theorem exists_matching (hquery : e.world.outage? .activeFor = none)
    (hread : ∀ r ∈ e.world.table.rows, Table.isActiveFor ctx.storeId event r = true →
      r.isReadable = true) (hkind : (TriggerKind.ofName? event).isSome = true)
    (payload : Json) : ∃ ws,
      e.world.table.query (Table.isActiveFor ctx.storeId event) Table.newestFirst = .ok ws
        ∧ e.matching event payload ctx (fun _ => false)
          = ws.filter fun w => Condition.allHold w.trigger.conditions payload := by
  obtain ⟨ws, hws⟩ := Table.exists_query hread Table.newestFirst
  refine ⟨ws, hws, ?_⟩
  have hthrough : e.world.through .activeFor (e.world.table.activeFor ctx.storeId event) = .ok ws := by
    rw [World.through, hquery, Table.activeFor_eq _ _ hkind, hws]
  simp only [matching, hthrough, Bool.not_false, Bool.true_and]

/-- **What an event sets off**, if its rows can be read: the executable workflows
of the store with its trigger whose conditions hold. -/
theorem mem_matching (hquery : e.world.outage? .activeFor = none)
    (hread : ∀ r ∈ e.world.table.rows, Table.isActiveFor ctx.storeId event r = true →
      r.isReadable = true) {w : Workflow} :
    w ∈ e.matching event payload ctx (fun _ => false)
      ↔ (∃ r ∈ e.world.table.rows, r.workflow = .ok w) ∧ w.storeId = ctx.storeId
        ∧ w.isActive = true ∧ w.isDeleted = false ∧ w.trigger.kind.name = event
        ∧ ∀ c ∈ w.trigger.conditions, c.holds payload = true := by
  cases hkind : TriggerKind.ofName? event with
  | none =>
    rw [matching_of_eq_none _ hkind]
    refine ⟨nofun, ?_⟩
    rintro ⟨-, -, -, -, rfl, -⟩
    rw [TriggerKind.ofName?_name] at hkind
    cases hkind
  | some kind =>
    obtain ⟨ws, hws, hmatching⟩ := exists_matching hquery hread (by rw [hkind]; rfl) payload
    rw [hmatching, List.mem_filter, Table.mem_query hws, Condition.allHold, List.all_eq_true]
    constructor
    · rintro ⟨⟨r, hr, hactive, hw⟩, hconditions⟩
      obtain ⟨-, hstore, hon, hdeleted, htrigger, -⟩ := Row.fields_of_workflow hw
      simp only [Table.isActiveFor, Definition.isExecutable, Bool.and_eq_true, beq_iff_eq,
        Bool.not_eq_true', ← hstore, ← hon, ← hdeleted, ← htrigger] at hactive
      obtain ⟨⟨⟨hon, hdeleted⟩, hstore⟩, htrigger⟩ := hactive
      exact ⟨⟨r, hr, hw⟩, hstore, hon, hdeleted, htrigger, hconditions⟩
    · rintro ⟨⟨r, hr, hw⟩, hstore, hon, hdeleted, htrigger, hconditions⟩
      obtain ⟨-, hstore', hon', hdeleted', htrigger', -⟩ := Row.fields_of_workflow hw
      refine ⟨⟨r, hr, ?_, hw⟩, hconditions⟩
      simp [Table.isActiveFor, Definition.isExecutable, ← hstore', ← hon', ← hdeleted', ← htrigger',
        hstore, hon, hdeleted, htrigger]

/-- They come newest first, each once. -/
theorem pairwise_matching (hids : e.world.table.Distinct) (broken : List Condition → Bool) :
    (e.matching event payload ctx broken).Pairwise Workflow.IsNewer
      ∧ ((e.matching event payload ctx broken).map (·.id)).Nodup := by
  cases hkind : TriggerKind.ofName? event with
  | none =>
    rw [matching_of_eq_none broken hkind]
    exact ⟨.nil, .nil⟩
  | some kind =>
    unfold matching
    split
    · rename_i ws hws
      have hquery := of_through_eq_ok hws
      rw [Table.activeFor_eq _ _ (by rw [hkind]; rfl)] at hquery
      exact ⟨(Table.pairwise_query hids hquery).filter _,
        (Table.nodup_query hids hquery).sublist (List.filter_sublist.map _)⟩
    · exact ⟨.nil, .nil⟩

end Engine

end Automation
