/-
# Who a run is for

A run acts for a store, perhaps for an organization and a person. Templates
see these beside whatever else the caller adds, and nothing that the caller
adds can take their place (`Context.lookup_tree`).

Key definitions: `Context`, `Context.tree`, `Context.bindings`.
-/
import Automation.Process.Basic
import Automation.Template

namespace Automation

structure Context where
  storeId : String
  organizationId : Option String := none
  userId : Option String := none
  /-- Whether there is a channel for notifications. -/
  hasChannel : Bool := true
  /-- What cancels the run. -/
  token : Token := 0
  extra : Members := []

namespace Context

/-- What templates see of the context. -/
def tree (ctx : Context) : Members :=
  ((ctx.extra.put "storeId" (.str ctx.storeId)).put "organizationId"
    (Json.ofText? ctx.organizationId)).put "userId" (Json.ofText? ctx.userId)

/-- What templates see of an event in the context. -/
def bindings (ctx : Context) (payload : Json) : Bindings := ⟨payload, .obj ctx.tree⟩

end Context

theorem Members.lookup_put_self (key : String) (value : Json) :
    ∀ ms : Members, (ms.put key value).lookup key = some value
  | [] => by simp [Members.put]
  | (k, v) :: ms => by
    unfold Members.put
    split
    · rename_i h
      have hk : k = key := by simpa using h
      simp [hk]
    · rename_i h
      have hk : (key == k) = false := by
        simp only [beq_eq_false_iff_ne, ne_eq]
        intro hkey
        simp [hkey] at h
      simp only [List.lookup_cons, hk]
      exact lookup_put_self key value ms

theorem Members.lookup_put_other {key other : String} (value : Json) (hne : other ≠ key) :
    ∀ ms : Members, (ms.put key value).lookup other = ms.lookup other
  | [] => by
    have : (other == key) = false := by simpa using hne
    simp [Members.put, List.lookup_cons, this]
  | (k, v) :: ms => by
    unfold Members.put
    split
    · rename_i h
      have hk : k = key := by simpa using h
      have : (other == k) = false := by simpa [hk] using hne
      simp [List.lookup_cons, this]
    · simp only [List.lookup_cons]
      split
      · rfl
      · exact lookup_put_other value hne ms

/-- Whatever the caller adds, templates see the store, the organization and
the person of the context. -/
theorem Context.lookup_tree (ctx : Context) :
    ctx.tree.lookup "storeId" = some (.str ctx.storeId)
      ∧ ctx.tree.lookup "organizationId" = some (Json.ofText? ctx.organizationId)
      ∧ ctx.tree.lookup "userId" = some (Json.ofText? ctx.userId) := by
  refine ⟨?_, ?_, Members.lookup_put_self _ _ _⟩
  · rw [tree, Members.lookup_put_other _ (by decide), Members.lookup_put_other _ (by decide),
      Members.lookup_put_self]
  · rw [tree, Members.lookup_put_other _ (by decide), Members.lookup_put_self]

end Automation
