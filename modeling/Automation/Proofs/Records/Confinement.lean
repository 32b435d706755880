/-
# What a run can do to records

A run reaches the records through two requests: it writes the fields of a
record, and it creates a record. Whatever the actions and the event say, a
write is to the record that an update names, by its kind and by the id that its
text renders to, and a creation is for the store of the context
(`Task.process_isConfined`). Writing changes no id, no kind and no store; no
request removes a record; and the ids of new records are the next ones that the
store gives out (`Environment.Stores`).

So after any run the records that there were are still there, in their places,
and only those that an update addressed may have other fields; the others are
new, they belong to the store of the context, and they have the ids that the
store gave out (`Setting.run_confined`).

Key definitions: `Environment.Stores`, `World.stores`, `Task.Addresses`,
`Visit.Addresses`, `Record.SameUnless`, `Environment.Stores.Extends`.
Key theorems: `Environment.Stores.serve_extends`,
`Environment.Stores.Extends.trans`, `Task.process_isConfined`,
`Setting.VisitsAll.recordsExtend`, `Setting.run_confined`.
-/
import Automation.Proofs.Document.Checked
import Automation.Proofs.Run.Requests
import Automation.Proofs.Run.Visits
import Automation.World
import Mathlib

namespace Automation

/-! ### Record stores -/

/-- The records of an environment. Only writes and creations touch them. It may
be that neither takes place; a record that is created gets the next id. -/
structure Environment.Stores {σ : Type} (env : Environment σ) where
  records : σ → Records
  /-- The number of ids given out so far. -/
  given : σ → Nat
  idAt : Nat → String
  write : ∀ token kind id fields s,
    given (env.serve token (.write kind id fields) s).2 = given s
      ∧ (records (env.serve token (.write kind id fields) s).2 = records s
        ∨ records (env.serve token (.write kind id fields) s).2 = (records s).write kind id fields)
  create : ∀ token kind data s,
    given (env.serve token (.create kind data) s).2 = given s
        ∧ records (env.serve token (.create kind data) s).2 = records s
      ∨ given (env.serve token (.create kind data) s).2 = given s + 1
        ∧ ∃ r, (records s).create (idAt (given s)) kind data
          = .ok (r, records (env.serve token (.create kind data) s).2)
  other : ∀ token request s, (∀ kind id fields, request ≠ .write kind id fields) →
    (∀ kind data, request ≠ .create kind data) →
    given (env.serve token request s).2 = given s
      ∧ records (env.serve token request s).2 = records s

/-- The records of a world. -/
def World.stores : World.environment.Stores where
  records := World.records
  given := World.ids
  idAt n := s!"gen-{n + 1}"
  write _ _ _ _ _ := ⟨rfl, .inr rfl⟩
  create token kind data w := by
    simp only [World.environment, World.serve]
    split
    · rename_i r records hcreate
      exact .inr ⟨rfl, r, hcreate⟩
    · exact .inl ⟨rfl, rfl⟩
  other token request w hwrite hcreate := by
    cases request with
    | write kind id fields => exact absurd rfl (hwrite kind id fields)
    | create kind data => exact absurd rfl (hcreate kind data)
    | send mail =>
      simp only [World.environment, World.serve]
      split <;> exact ⟨rfl, rfl⟩
    | call call =>
      simp only [World.environment, World.serve, World.serveCall]
      split <;> exact ⟨rfl, rfl⟩
    | emit emission =>
      simp only [World.environment, World.serve]
      split <;> exact ⟨rfl, rfl⟩
    | sleep seconds =>
      simp only [World.environment, World.serve, World.serveSleep]
      split
      · exact ⟨rfl, rfl⟩
      · split
        · rename_i later hlater
          unfold World.later at hlater
          split at hlater
          · cases hlater
            exact ⟨rfl, rfl⟩
          · cases hlater
        · exact ⟨rfl, rfl⟩
    | find kind id =>
      simp only [World.environment, World.serve]
      split <;> exact ⟨rfl, rfl⟩
    | record id success error endedAt =>
      simp only [World.environment, World.serve]
      split <;> exact ⟨rfl, rfl⟩
    | setNextRun id nextRun =>
      simp only [World.environment, World.serve]
      split <;> exact ⟨rfl, rfl⟩

/-! ### Requests of tasks -/

/-- Whether a request leaves alone what is not addressed, and creates records
of a store only. -/
def Request.IsConfined (storeId : String) (addressed : EntityKind → String → Prop) : Request → Prop
  | .write kind id _ => addressed kind id
  | .create _ data => data.lookup "storeId" = some (.str storeId)
  | _ => True

namespace Task

/-- Whether a task is an update that names a record: its kind, and the id that
its text renders to. -/
def Addresses (bindings : Bindings) (kind : EntityKind) (id : String) : Task → Prop
  | .update entity text _ =>
    EntityKind.parse entity = .ok kind ∧ Template.render bindings (text.getD "") = id
  | _ => False

/-- **A task writes to the record that it names only**, and creates records of
the store of the context only, whatever its data and the event say. -/
theorem process_isConfined (runner : Runner) (ctx : Context) (payload : Json) (task : Task) :
    (task.process runner ctx payload).Asks (Request.IsConfined ctx.storeId
      fun kind id => task.Addresses (ctx.bindings payload) kind id) := by
  refine (task.process_asks runner ctx payload).mono fun request h => ?_
  cases h with
  | write hkind _ => exact ⟨hkind, rfl⟩
  | create _ => exact Members.lookup_put_self ..
  | send | emit | call | find | sleep => exact trivial

end Task

/-! ### Records that have been extended -/

/-- The same record: its id, its kind and its store are as they were, and so are
its fields unless it is addressed. -/
structure Record.SameUnless (addressed : EntityKind → String → Prop) (r r' : Record) : Prop where
  id : r'.id = r.id
  kind : r'.kind = r.kind
  storeId : r'.storeId = r.storeId
  unchanged : ¬ addressed r.kind r.id → r' = r

namespace Record.SameUnless

variable {addressed more : EntityKind → String → Prop} {r r' r'' : Record}

theorem refl (r : Record) : SameUnless addressed r r := ⟨rfl, rfl, rfl, fun _ => rfl⟩

theorem mono (h : SameUnless addressed r r') (hmore : ∀ kind id, addressed kind id → more kind id) :
    SameUnless more r r' :=
  ⟨h.id, h.kind, h.storeId, fun hnot => h.unchanged fun haddressed => hnot (hmore _ _ haddressed)⟩

theorem trans (h : SameUnless addressed r r') (h' : SameUnless addressed r' r'') :
    SameUnless addressed r r'' where
  id := h'.id.trans h.id
  kind := h'.kind.trans h.kind
  storeId := h'.storeId.trans h.storeId
  unchanged hnot := by
    obtain rfl := h.unchanged hnot
    exact h'.unchanged hnot

end Record.SameUnless

namespace Environment.Stores

variable {σ : Type} {env : Environment σ} {E : env.Stores} {storeId : String}
  {addressed more : EntityKind → String → Prop} {s t u : σ} {change : Record → Record}
  {created : List Record}

/-- What became of the records from one state to another: those that there were
are in their places, changed or not, and those that were `created` follow. -/
structure Extends (E : env.Stores) (storeId : String) (addressed : EntityKind → String → Prop)
    (s t : σ) (change : Record → Record) (created : List Record) : Prop where
  rows : (E.records t).rows = (E.records s).rows.map change ++ created
  /-- No record gets another id, kind or store, nor other fields unless it is
  addressed. -/
  same : ∀ r, Record.SameUnless addressed r (change r)
  /-- New records belong to the store. -/
  owner : ∀ r ∈ created, r.storeId = storeId
  /-- The ids of new records are the next ones. -/
  ids : created.map (·.id) = (List.range' (E.given s) created.length).map E.idAt
  given : E.given t = E.given s + created.length

namespace Extends

theorem refl (s : σ) : E.Extends storeId addressed s s id [] where
  rows := by rw [List.map_id, List.append_nil]
  same := .refl
  owner := nofun
  ids := rfl
  given := rfl

/-- What leaves the records alone extends them. -/
theorem of_eq (hgiven : E.given t = E.given s) (hrecords : E.records t = E.records s) :
    E.Extends storeId addressed s t id [] where
  rows := by rw [hrecords, List.map_id, List.append_nil]
  same := .refl
  owner := nofun
  ids := rfl
  given := hgiven

theorem mono (h : E.Extends storeId addressed s t change created)
    (hmore : ∀ kind id, addressed kind id → more kind id) :
    E.Extends storeId more s t change created :=
  { h with same := fun r => (h.same r).mono hmore }

/-- What was created may be changed later; it keeps its store and its id. -/
theorem trans {change' : Record → Record} {created' : List Record}
    (h : E.Extends storeId addressed s t change created)
    (h' : E.Extends storeId addressed t u change' created') :
    E.Extends storeId addressed s u (change' ∘ change) (created.map change' ++ created') where
  rows := by rw [h'.rows, h.rows, List.map_append, List.map_map, List.append_assoc]
  same r := (h.same r).trans (h'.same _)
  owner r hr := by
    rcases List.mem_append.1 hr with hr | hr
    · obtain ⟨old, hold, rfl⟩ := List.mem_map.1 hr
      exact (h'.same old).storeId.trans (h.owner old hold)
    · exact h'.owner r hr
  ids := by
    have hids : (created.map change').map (·.id) = created.map (·.id) := by
      rw [List.map_map]
      exact List.map_congr_left fun r _ => (h'.same r).id
    rw [List.map_append, hids, h.ids, h'.ids, h.given, ← List.map_append, List.range'_append_1,
      List.length_append, List.length_map]
  given := by rw [h'.given, h.given, List.length_append, List.length_map, Nat.add_assoc]

end Extends

/-! ### One request -/

/-- To write is to change the record that is addressed. -/
theorem write_eq (t : Records) (kind : EntityKind) (id : String) (fields : Members) :
    ∃ change : Record → Record, (t.write kind id fields).rows = t.rows.map change
      ∧ ∀ r, Record.SameUnless (fun k i => k = kind ∧ i = id) r (change r) := by
  refine ⟨_, rfl, fun r => ?_⟩
  by_cases h : (r.id == id && r.kind == kind) = true
  · obtain ⟨hid, hkind⟩ := Bool.and_eq_true_iff.1 h
    rw [if_pos h]
    exact ⟨rfl, rfl, rfl, fun hnot => absurd ⟨beq_iff_eq.1 hkind, beq_iff_eq.1 hid⟩ hnot⟩
  · rw [if_neg h]
    exact .refl r

/-- A record that is created for a store belongs to it. -/
theorem create_eq_ok {t t' : Records} {id : String} {kind : EntityKind} {data : Members} {r : Record}
    (hdata : data.lookup "storeId" = some (.str storeId)) (h : t.create id kind data = .ok (r, t')) :
    t'.rows = t.rows ++ [r] ∧ r.id = id ∧ r.storeId = storeId := by
  obtain ⟨owner, howner, h⟩ := Except.of_bind_eq_ok h
  cases h
  unfold Records.ownerOf at howner
  simp only [hdata, Option.getD_some] at howner
  split at howner
  · exact ⟨rfl, rfl, (Except.ok.inj howner).symm⟩
  · cases howner

/-- **What one request does to the records.** -/
theorem serve_extends (E : env.Stores) (token : Token) {request : Request}
    (h : request.IsConfined storeId addressed) (s : σ) :
    ∃ change created, E.Extends storeId addressed s (env.serve token request s).2 change created := by
  have hother : (∀ kind id fields, request ≠ .write kind id fields) →
      (∀ kind data, request ≠ .create kind data) →
      ∃ change created, E.Extends storeId addressed s (env.serve token request s).2 change created := by
    intro hwrite hcreate
    obtain ⟨hgiven, hrecords⟩ := E.other token request s hwrite hcreate
    exact ⟨_, _, .of_eq hgiven hrecords⟩
  cases request with
  | write kind id fields =>
    obtain ⟨hgiven, hrecords | hrecords⟩ := E.write token kind id fields s
    · exact ⟨_, _, .of_eq hgiven hrecords⟩
    · obtain ⟨change, hrows, hsame⟩ := write_eq (E.records s) kind id fields
      refine ⟨change, [], ?_, fun r => (hsame r).mono ?_, nofun, rfl, hgiven⟩
      · rw [hrecords, hrows, List.append_nil]
      · rintro _ _ ⟨rfl, rfl⟩
        exact h
  | create kind data =>
    obtain ⟨hgiven, hrecords⟩ | ⟨hgiven, r, hcreate⟩ := E.create token kind data s
    · exact ⟨_, _, .of_eq hgiven hrecords⟩
    · obtain ⟨hrows, hid, howner⟩ := create_eq_ok h hcreate
      refine ⟨id, [r], ?_, .refl, fun r' hr' => ?_, ?_, hgiven⟩
      · rw [hrows, List.map_id]
      · rw [List.mem_singleton.1 hr', howner]
      · rw [List.map_singleton, hid]
        rfl
  | _ => exact hother nofun nofun

/-- What a process does to the records, if all its requests are confined. -/
theorem run_extends (E : env.Stores) (token : Token) {α : Type} : ∀ (p : Process α) (s : σ),
    p.Asks (Request.IsConfined storeId addressed) →
      ∃ change created, E.Extends storeId addressed s (p.run env token s).2 change created
  | .done _, s, _ => ⟨_, _, .refl s⟩
  | .clock next, s, h => run_extends E token (next (env.now s)) s (h (env.now s))
  | .token next, s, h => run_extends E token (next (env.cancelled token s)) s (h _)
  | .ask request next, s, h => by
    obtain ⟨_, _, hserve⟩ := serve_extends E token h.1 s
    obtain ⟨_, _, hrun⟩ := run_extends E token (next ((env.serve token request s).1.getD .cancelled))
      (env.serve token request s).2 (h.2 _)
    exact ⟨_, _, hserve.trans hrun⟩

end Environment.Stores

/-! ### Runs -/

/-- Whether a visit carries out an update that names a record. -/
def Visit.Addresses {σ : Type} (X : Setting σ) (kind : EntityKind) (id : String) (v : Visit σ) : Prop :=
  X.isCancelled v.start = false ∧ ∃ policy task, v.action = .task policy task
    ∧ task.Addresses (X.ctx.bindings X.payload) kind id

namespace Setting

variable {σ : Type} {X : Setting σ} (E : X.env.Stores)

/-- Whether one of the visits, or one inside them, names a record. -/
def Addressed (X : Setting σ) (nodes : List (Int × Visit σ)) (kind : EntityKind) (id : String) : Prop :=
  ∃ n ∈ nodes, n.2.Addresses X kind id

theorem Addressed.mono {nodes more : List (Int × Visit σ)} (hmore : nodes ⊆ more) (kind : EntityKind)
    (id : String) : X.Addressed nodes kind id → X.Addressed more kind id :=
  fun ⟨n, hn, haddresses⟩ => ⟨n, hmore hn, haddresses⟩

mutual

/-- What a visit does to the records. -/
theorem Visits.recordsExtend {depth : Int} {s t : σ} {a : Action} {v : Visit σ} :
    X.Visits depth s a v t → ∃ change created,
      E.Extends X.ctx.storeId (X.Addressed (v.nodes depth)) s t change created
  | .cancelled _ | .noCondition _ | .tooDeep _ _ => ⟨_, _, .refl s⟩
  | @Visits.task _ _ _ _ _ policy task result hc hrun => by
    have hconfined := task.process_isConfined X.runner X.ctx X.payload
    obtain ⟨change, created, hextends⟩ := E.run_extends X.ctx.token _ s hconfined
    rw [hrun] at hextends
    refine ⟨change, created, hextends.mono fun kind id haddresses => ?_⟩
    exact ⟨_, List.mem_singleton.2 rfl, hc, policy, task, rfl, haddresses⟩
  | .branch _ _ hinside => by
    obtain ⟨change, created, hextends⟩ := hinside.recordsExtend
    exact ⟨change, created, hextends.mono (Addressed.mono (List.subset_cons_self _ _))⟩

/-- **What the visits of a run do to the records.** -/
theorem VisitsAll.recordsExtend {depth : Int} {s t : σ} {actions : List Action}
    {visits : List (Visit σ)} {failure : Option ActionFailure} :
    X.VisitsAll depth s actions visits failure t → ∃ change created,
      E.Extends X.ctx.storeId (X.Addressed (Visit.nodesOf depth visits)) s t change created
  | .nil => ⟨_, _, .refl s⟩
  | .stop hv _ => by
    rw [Visit.nodesOf, Visit.nodesOf, List.append_nil]
    exact hv.recordsExtend
  | @VisitsAll.goOn _ _ _ _ _ _ _ _ v vs _ hv _ hvs => by
    obtain ⟨_, _, hfirst⟩ := hv.recordsExtend
    obtain ⟨_, _, hrest⟩ := hvs.recordsExtend
    have hleft : v.nodes depth ⊆ Visit.nodesOf depth (v :: vs) := List.subset_append_left ..
    have hright : Visit.nodesOf depth vs ⊆ Visit.nodesOf depth (v :: vs) :=
      List.subset_append_right ..
    exact ⟨_, _, (hfirst.mono (Addressed.mono hleft)).trans (hrest.mono (Addressed.mono hright))⟩

end

/-- **Runs are confined.** Whatever the actions, the event, the context and the
records at the start, in a run with its branches, its failures and perhaps a
cancellation in it, every record keeps its place, its id, its kind and its
store; its fields change only if a visit carries out an update that names it;
and all other records in the end are new, belong to the store of the context
and have the next ids that the store gives out. -/
theorem run_confined (depth : Int) (actions : List Action) (s : σ) :
    ∃ visits, X.VisitsAll depth s (Action.sorted actions) visits (X.run depth actions s).1.failure
        (X.run depth actions s).2
      ∧ (X.run depth actions s).1.trace = Visit.listing depth visits
      ∧ ∃ change created, E.Extends X.ctx.storeId (X.Addressed (Visit.nodesOf depth visits)) s
        (X.run depth actions s).2 change created := by
  obtain ⟨visits, hvisits, htrace⟩ := X.run_visits depth actions s
  exact ⟨visits, hvisits, htrace, hvisits.recordsExtend E⟩

/-- A branch updates a record and creates one with an id and a store of its own
choice; then an action fails. -/
theorem run_confined_nested :
    let w : World := {
      clock := ⟨0⟩
      records := ⟨[⟨"p-1", .product, "store-1", [("price", .int 1)]⟩,
        ⟨"p-2", .product, "store-2", []⟩]⟩ }
    let X : Setting World := {
      env := World.environment
      runner := {}
      ctx := { storeId := "store-1" }
      payload := .obj [("status", .str "paid")] }
    let chosen : Members := [("id", .str "p-3"), ("storeId", .str "store-2")]
    let actions : List Action :=
      [.branch ⟨0, true⟩ (some ⟨"status", "equals", .str "paid"⟩)
          [.task ⟨0, false⟩ (.update (some "product") (some "p-1") [("price", .int 5)]),
            .task ⟨1, false⟩ (.create (some "product") chosen)] [],
        .task ⟨1, true⟩ (.unknown "refund")]
    ∃ visits change created, World.stores.Extends "store-1" (X.Addressed (Visit.nodesOf 0 visits)) w
        (X.run 0 actions w).2 change created
      ∧ created.map (·.storeId) = ["store-1"] ∧ created.map (·.id) = ["gen-1"] := by
  intro w X chosen actions
  obtain ⟨visits, -, -, change, created, hextends⟩ := run_confined (X := X) World.stores 0 actions w
  have hrows : (X.run 0 actions w).2.records.rows.length = 3 := by cbv
  have hlength : created.length = 1 := by
    have hboth := congrArg List.length hextends.rows
    rw [List.length_append, List.length_map] at hboth
    have hbefore : (World.stores.records w).rows.length = 2 := rfl
    have hafter : (World.stores.records (X.run 0 actions w).2).rows.length = 3 := hrows
    omega
  obtain ⟨r, rfl⟩ := List.length_eq_one_iff.1 hlength
  refine ⟨visits, change, [r], hextends, ?_, ?_⟩
  · rw [List.map_singleton, hextends.owner r (List.mem_singleton.2 rfl)]
  · rw [hextends.ids]
    cbv

end Setting

end Automation
