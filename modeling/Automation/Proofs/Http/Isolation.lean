/-
# Answers that show nothing of others

Requests name the store that they come from, and perhaps an organization. Two
services that agree on what is shown to those answer each request alike, and
agree afterwards (`Http.handle_agrees`), also once workers have run what was
left to them; so they do for any number of requests
(`Http.answerAll_agrees`).

A request about a workflow that is not shown is answered as if there were no
workflow with that id, and leaves the service as it is but for a token
(`Http.handle_isolated`).

Key definitions: `Http.Request.IsFrom`, `Http.Request.workflowId?`,
`Engine.withoutWorkflow`, `Http.answerAll`.
Key theorems: `Http.askEngine_agrees`, `Http.handle_agrees`,
`Http.handle_of_shown`, `Http.handle_isolated`, `Http.answerAll_agrees`.
-/
import Automation.Http.Answer
import Automation.Proofs.Engine.Isolation

namespace Automation

variable {storeId : String} {organizationId : Option String}

namespace Engine

/-- The engine without a workflow. -/
def withoutWorkflow (e : Engine) (id : String) : Engine :=
  { e with world := e.world.withTable (e.world.table.without id) }

/-- A workflow that a caller is not shown might as well not be there. -/
theorem agreeFor_withoutWorkflow {e : Engine} (hunhearing : e.IsUnhearing) {id : String}
    (hid : e.world.table.shown storeId organizationId id = .ok none) :
    e.AgreeFor storeId organizationId (e.withoutWorkflow id) :=
  ⟨hunhearing, ⟨Table.agreeFor_without hid, rfl⟩, rfl⟩

end Engine

namespace Http

/-- The workflow that a route is about. -/
def Route.workflowId? : Route → Option String
  | .trigger id | .test id | .stats id => some id
  | _ => none

namespace Request

/-- The workflow that a request is about. -/
def workflowId? (r : Request) : Option String :=
  (Route.ofPath? (decodedPath r.address)).bind Route.workflowId?

/-- A request that names no other store and organization than these. -/
def IsFrom (storeId : String) (organizationId : Option String) (r : Request) : Prop :=
  ∀ scope, r.scope = .ok scope → scope.storeId = storeId ∧ scope.organizationId = organizationId

theorem isFrom_of_scope {r : Request} (h : (r.scope.toOption.map fun scope =>
    (scope.storeId, scope.organizationId)) = some (storeId, organizationId)) :
    r.IsFrom storeId organizationId := by
  intro scope hscope
  rw [hscope] at h
  cases h
  exact ⟨rfl, rfl⟩

end Request

variable {e e' : Engine} {r : Request} {content : Json}

/-! ### Answers of engines that agree -/

/-- The context of a caller, and the engine that has made it. -/
def Scope.enter (scope : Scope) (e : Engine) : Context × Engine :=
  e.contextFor scope.storeId scope.organizationId scope.userId []

theorem enter_agrees (h : e.AgreeFor storeId organizationId e') (scope : Scope) :
    (scope.enter e').1 = (scope.enter e).1
      ∧ (scope.enter e).2.AgreeFor storeId organizationId (scope.enter e').2 :=
  h.contextFor scope.storeId scope.organizationId scope.userId []

/-- Which parts a request has depends on no engine. -/
theorem runParts_cases (r : Request) (content : Json) :
    (∃ answer, ∀ e, runParts e r content = .error answer)
      ∨ ∃ payload scope, r.scope = .ok scope ∧ ∀ e, runParts e r content
        = .ok (payload, (scope.enter e).1, (scope.enter e).2) := by
  unfold runParts
  cases hscope : r.scope with
  | error f => exact .inl ⟨_, fun _ => rfl⟩
  | ok scope =>
    cases payloadOf content with
    | error answer => exact .inl ⟨_, fun _ => rfl⟩
    | ok payload => exact .inr ⟨payload, scope, rfl, fun _ => rfl⟩

/-- **An engine is asked** with the same answer. -/
theorem askEngine_agrees (h : e.AgreeFor storeId organizationId e')
    (hfrom : r.IsFrom storeId organizationId) (content : Json) (route : Route) :
    (askEngine e' r content route).1 = (askEngine e r content route).1
      ∧ (askEngine e r content route).2.AgreeFor storeId organizationId
        (askEngine e' r content route).2 := by
  cases route with
  | trigger id =>
    rw [askEngine, askEngine]
    obtain ⟨answer, hparts⟩ | ⟨payload, scope, hscope, hparts⟩ := runParts_cases r content
    · rw [hparts, hparts]
      exact ⟨rfl, h⟩
    · obtain ⟨hstore, horganization⟩ := hfrom scope hscope
      obtain ⟨hctx, hagree⟩ := enter_agrees h scope
      obtain ⟨hresult, hafter⟩ := hagree.runManual id payload (scope.enter e).1 hstore horganization
      simp only [hparts, hctx, hresult]
      exact ⟨trivial, hafter⟩
  | test id =>
    rw [askEngine, askEngine]
    obtain ⟨answer, hparts⟩ | ⟨payload, scope, hscope, hparts⟩ := runParts_cases r content
    · rw [hparts, hparts]
      exact ⟨rfl, h⟩
    · obtain ⟨hstore, horganization⟩ := hfrom scope hscope
      obtain ⟨hctx, hagree⟩ := enter_agrees h scope
      obtain ⟨hresult, hafter⟩ := hagree.testRun id payload (scope.enter e).1 hstore horganization
      simp only [hparts, hctx, hresult]
      exact ⟨trivial, hafter⟩
  | stats id =>
    refine ⟨?_, h⟩
    rw [askEngine, askEngine]
    cases hscope : r.scope with
    | error f => rfl
    | ok scope =>
      obtain ⟨rfl, rfl⟩ := hfrom scope hscope
      show (respond 200 ((e'.stats id scope.storeId scope.organizationId).bind _), e').1 = _
      rw [h.stats]
      rfl
  | ready =>
    refine ⟨?_, h⟩
    rw [h.common]
    rfl
  | health | triggers => exact ⟨rfl, h⟩

/-- A request that is not refused is one that the engine is asked. -/
theorem handle_cases (hasEngine : Bool) (r : Request) :
    (∃ response, ∀ e, handle e hasEngine r = (response, e))
      ∨ ∃ content route, Route.ofPath? (decodedPath r.address) = some route
        ∧ ∀ e, handle e hasEngine r = askEngine e r content route := by
  cases hroute : Route.ofPath? (decodedPath r.address) with
  | none =>
    cases hslashed : Route.ofSlashedPath? (decodedPath r.address) with
    | none => exact .inl ⟨refused 404 "Not Found", fun e => by simp only [handle, hroute, hslashed]⟩
    | some _ => exact .inl ⟨⟨307, .null⟩, fun e => by simp only [handle, hroute, hslashed]⟩
  | some route =>
    by_cases hmethod : (Text.toUpper r.method == route.method) = true
    · have hanswered : ∀ e, handle e hasEngine r = answerRoute e hasEngine r route := fun e => by
        simp only [handle, hroute, if_pos hmethod]
      cases hcontent : if route.method == "POST" then r.content else .ok .null with
      | error answer => exact .inl ⟨answer, fun e => by simp only [hanswered, answerRoute, hcontent]⟩
      | ok content =>
        cases hasEngine with
        | false =>
          refine .inl ⟨withoutEngine route, fun e => ?_⟩
          simp only [hanswered, answerRoute, hcontent, Bool.false_eq_true, if_false]
        | true =>
          refine .inr ⟨content, route, rfl, fun e => ?_⟩
          simp only [hanswered, answerRoute, hcontent, if_true]
    · exact .inl ⟨refused 405 "Method Not Allowed", fun e => by
        simp only [handle, hroute, if_neg hmethod]⟩

/-- **Requests are answered alike.** -/
theorem handle_agrees (h : e.AgreeFor storeId organizationId e') (hasEngine : Bool)
    (hfrom : r.IsFrom storeId organizationId) :
    (handle e' hasEngine r).1 = (handle e hasEngine r).1
      ∧ (handle e hasEngine r).2.AgreeFor storeId organizationId (handle e' hasEngine r).2 := by
  obtain ⟨response, hrefused⟩ | ⟨content, route, -, hasked⟩ := handle_cases hasEngine r
  · rw [hrefused, hrefused]
    exact ⟨rfl, h⟩
  · rw [hasked, hasked]
    exact askEngine_agrees h hfrom content route

/-! ### What is left to workers -/

theorem askEngine_runsShown (hshown : e.RunsShown storeId organizationId)
    (hfrom : r.IsFrom storeId organizationId) (content : Json) (route : Route) :
    (askEngine e r content route).2.RunsShown storeId organizationId := by
  cases route with
  | trigger id =>
    rw [askEngine]
    obtain ⟨answer, hparts⟩ | ⟨payload, scope, hscope, hparts⟩ := runParts_cases r content
    · rw [hparts]
      exact hshown
    · obtain ⟨hstore, horganization⟩ := hfrom scope hscope
      have henter : (scope.enter e).2.RunsShown storeId organizationId := hshown
      rw [hparts]
      exact henter.runManual id payload (scope.enter e).1 hstore horganization
  | test id =>
    rw [askEngine]
    obtain ⟨answer, hparts⟩ | ⟨payload, scope, hscope, hparts⟩ := runParts_cases r content
    · rw [hparts]
      exact hshown
    · have henter : (scope.enter e).2.RunsShown storeId organizationId := hshown
      rw [hparts]
      exact henter.testRun id payload (scope.enter e).1
  | stats | ready | health | triggers => exact hshown

/-- What callers leave to workers are runs of workflows that they are shown. -/
theorem handle_runsShown (hshown : e.RunsShown storeId organizationId) (hasEngine : Bool)
    (hfrom : r.IsFrom storeId organizationId) :
    (handle e hasEngine r).2.RunsShown storeId organizationId := by
  obtain ⟨response, hrefused⟩ | ⟨content, route, -, hasked⟩ := handle_cases hasEngine r
  · rw [hrefused]
    exact hshown
  · rw [hasked]
    exact askEngine_runsShown hshown hfrom content route

/-! ### Workflows that are not shown -/

/-- To ask about a workflow that is not shown leaves the engine as it is. -/
theorem askEngine_of_shown (hfrom : r.IsFrom storeId organizationId) (content : Json)
    {route : Route} {id : String} (hid : route.workflowId? = some id)
    (hnone : e.world.table.shown storeId organizationId id = .ok none) :
    ∃ tokens, (askEngine e r content route).2 = { e with tokens } := by
  cases route with
  | trigger other =>
    cases hid
    rw [askEngine]
    obtain ⟨answer, hparts⟩ | ⟨payload, scope, hscope, hparts⟩ := runParts_cases r content
    · rw [hparts]
      exact ⟨e.tokens, rfl⟩
    · obtain ⟨rfl, rfl⟩ := hfrom scope hscope
      rw [hparts]
      exact ⟨e.tokens + 1,
        Engine.runManual_of_shown (e := (scope.enter e).2) payload (scope.enter e).1 hnone⟩
  | test other =>
    cases hid
    rw [askEngine]
    obtain ⟨answer, hparts⟩ | ⟨payload, scope, hscope, hparts⟩ := runParts_cases r content
    · rw [hparts]
      exact ⟨e.tokens, rfl⟩
    · obtain ⟨rfl, rfl⟩ := hfrom scope hscope
      rw [hparts]
      exact ⟨e.tokens + 1,
        Engine.testRun_of_shown (e := (scope.enter e).2) payload (scope.enter e).1 hnone⟩
  | stats other => exact ⟨e.tokens, rfl⟩
  | ready | health | triggers => cases hid

/-- So does a request about it. -/
theorem handle_of_shown (hasEngine : Bool) (hfrom : r.IsFrom storeId organizationId) {id : String}
    (hid : r.workflowId? = some id)
    (hnone : e.world.table.shown storeId organizationId id = .ok none) :
    ∃ tokens, (handle e hasEngine r).2 = { e with tokens } := by
  obtain ⟨response, hrefused⟩ | ⟨content, route, hroute, hasked⟩ := handle_cases hasEngine r
  · rw [hrefused]
    exact ⟨e.tokens, rfl⟩
  · rw [Request.workflowId?, hroute] at hid
    rw [hasked]
    exact askEngine_of_shown hfrom content hid hnone

/-- **What callers learn of the workflows of others.** Two services that agree on
what a caller is shown answer each request of that caller alike, and agree
afterwards, also once workers have run what is left to them, if that is shown. To
a request about a workflow that is not shown they answer what they would if there
were no such workflow, and nothing is executed, left to workers or recorded. -/
theorem handle_isolated (h : e.AgreeFor storeId organizationId e') (hasEngine : Bool)
    (hfrom : r.IsFrom storeId organizationId) :
    (handle e' hasEngine r).1 = (handle e hasEngine r).1
      ∧ (handle e hasEngine r).2.AgreeFor storeId organizationId (handle e' hasEngine r).2
      ∧ (e.RunsShown storeId organizationId →
        (handle e hasEngine r).2.work.AgreeFor storeId organizationId (handle e' hasEngine r).2.work)
      ∧ ∀ id, r.workflowId? = some id → e.world.table.shown storeId organizationId id = .ok none →
        (handle e hasEngine r).1 = (handle (e.withoutWorkflow id) hasEngine r).1
          ∧ ∃ tokens, (handle e hasEngine r).2 = { e with tokens } := by
  obtain ⟨hresponse, hagree⟩ := handle_agrees h hasEngine hfrom
  refine ⟨hresponse, hagree, fun hshown => ?_, fun id hid hnone => ⟨?_, ?_⟩⟩
  · exact (hagree.work (handle_runsShown hshown hasEngine hfrom)).1
  · have hwithout := Engine.agreeFor_withoutWorkflow h.unhearing hnone
    exact (handle_agrees hwithout hasEngine hfrom).1.symm
  · exact handle_of_shown hasEngine hfrom hid hnone

/-- A store of an organization is shown the workflow of another store of it, but
none of a store without an organization. -/
theorem handle_isolated_foreign :
    let row (id storeId : String) (organizationId : Option String) : Row := {
      id, createdAt := ⟨0⟩
      definition := ⟨storeId, organizationId, "Notify", none, [], 1, true, false, "manual", [], .null,
        none, .arr [], none⟩ }
    let shared : Row := row "w-1" "store-1" (some "org")
    let foreign : Row := row "w-2" "store-2" none
    let e : Engine := { world := { clock := ⟨0⟩, table := ⟨[shared, foreign]⟩ } }
    let e' : Engine := { world := { clock := ⟨0⟩, table := ⟨[shared]⟩ } }
    let test (id : String) : Request := {
      method := "POST", address := "/api/v1/workflows/" ++ id ++ "/test"
      headers := [("X-Store-ID", "store-3"), ("X-Organization-ID", "org")] }
    e.AgreeFor "store-3" (some "org") e'
      ∧ (∀ id ∈ ["w-1", "w-2"], (test id).IsFrom "store-3" (some "org"))
      ∧ e.world.table.Shows "store-3" (some "org") "w-1"
      ∧ (handle e' true (test "w-1")).1 = (handle e true (test "w-1")).1
      ∧ e.RunsShown "store-3" (some "org")
      ∧ (handle e true (test "w-1")).2.work.AgreeFor "store-3" (some "org")
        (handle e' true (test "w-1")).2.work
      ∧ e.world.table.has "w-2" = true ∧ (handle e true (test "w-2")).1.status = 404
      ∧ (handle e true (test "w-2")).1 = (handle e' true (test "w-2")).1
      ∧ ∃ tokens, (handle e true (test "w-2")).2 = { e with tokens } := by
  intro row shared foreign e e' test
  have hunhearing : e.IsUnhearing := List.forall_mem_nil _
  have hhidden : e.world.table.shown "store-3" (some "org") "w-2" = .ok none := rfl
  have hshows : e.world.table.Shows "store-3" (some "org") "w-1" := ⟨_, rfl⟩
  have hwithout : e.withoutWorkflow "w-2" = e' := rfl
  have hagree : e.AgreeFor "store-3" (some "org") e' :=
    hwithout ▸ Engine.agreeFor_withoutWorkflow hunhearing hhidden
  have hfrom : ∀ id ∈ ["w-1", "w-2"], (test id).IsFrom "store-3" (some "org") := by
    intro id hid
    rcases List.mem_pair.1 hid with rfl | rfl <;> exact Request.isFrom_of_scope (by decide +kernel)
  have hruns : e.RunsShown "store-3" (some "org") := List.forall_mem_nil _
  obtain ⟨hshared, -, hwork, -⟩ := handle_isolated hagree true (hfrom "w-1" (by simp))
  obtain ⟨-, -, -, hforeign⟩ := handle_isolated hagree true (hfrom "w-2" (by simp))
  obtain ⟨hunknown, hsame⟩ := hforeign "w-2" (by decide +kernel) hhidden
  rw [hwithout] at hunknown
  have hstatus : (handle e true (test "w-2")).1.status = 404 := by decide +kernel
  exact ⟨hagree, hfrom, hshows, hshared, hruns, hwork hruns, rfl, hstatus, hunknown, hsame⟩

/-! ### Any number of requests -/

/-- The answers to requests, one after the other; after each the workers run what
is left to them. -/
def answerAll (hasEngine : Bool) : Engine → List Request → List Response × Engine
  | e, [] => ([], e)
  | e, r :: rs =>
    let (response, e) := handle e hasEngine r
    let (responses, e) := answerAll hasEngine e.work rs
    (response :: responses, e)

/-- **Any number of requests are answered alike**, with workers running between
them. -/
theorem answerAll_agrees (hasEngine : Bool) : ∀ (rs : List Request) {e e' : Engine},
    e.AgreeFor storeId organizationId e' → e.RunsShown storeId organizationId →
    (∀ r ∈ rs, r.IsFrom storeId organizationId) →
    (answerAll hasEngine e' rs).1 = (answerAll hasEngine e rs).1
      ∧ (answerAll hasEngine e rs).2.AgreeFor storeId organizationId (answerAll hasEngine e' rs).2
      ∧ (answerAll hasEngine e rs).2.RunsShown storeId organizationId
  | [], _, _, h, hshown, _ => ⟨rfl, h, hshown⟩
  | r :: rs, e, e', h, hshown, hfrom => by
    have hfirst := hfrom r List.mem_cons_self
    obtain ⟨hresponse, hagree⟩ := handle_agrees h hasEngine hfirst
    have hleft := handle_runsShown hshown hasEngine hfirst
    obtain ⟨hworked, hrest⟩ := hagree.work hleft
    obtain ⟨hresponses, hafter⟩ := answerAll_agrees hasEngine rs hworked hrest
      fun r hr => hfrom r (List.mem_cons_of_mem _ hr)
    refine ⟨?_, hafter⟩
    simp only [answerAll, hresponse, hresponses]

end Http

end Automation
