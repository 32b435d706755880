/-
# What a reader reads again

A checked value that is valid was put together from valid parts. Most readers
read a value in several spellings, and a writer picks one of them: the reader
rereads what the writer writes if it takes the written form of each value it
makes for that value. Readers of optional values and of fields inherit this
from the readers that they are made of.

Key definitions: `Document.Rereads`, `Document.Survives`.
Key theorems: `Checked.and_eq_valid`, `Document.Rereads.nullable`,
`Document.Rereads.optional`, `Document.mapM_survives`.
-/
import Automation.Document.Writing

namespace Automation

/-! ### Results -/

namespace Except

variable {ε ε' α β : Type}

/-- A result of two steps is a result of each. -/
theorem of_bind_eq_ok {x : Except ε α} {f : α → Except ε β} {b : β}
    (h : (x >>= f) = .ok b) : ∃ a, x = .ok a ∧ f a = .ok b := by
  cases x with
  | error e => cases h
  | ok a => exact ⟨a, rfl, h⟩

theorem of_map_eq_ok {x : Except ε α} {f : α → β} {b : β}
    (h : x.map f = .ok b) : ∃ a, x = .ok a ∧ f a = b := by
  cases x with
  | error e => cases h
  | ok a => exact ⟨a, rfl, Except.ok.inj h⟩

theorem of_mapError_eq_ok {x : Except ε α} {f : ε → ε'} {a : α}
    (h : x.mapError f = .ok a) : x = .ok a := by
  cases x with
  | error e => cases h
  | ok b => exact congrArg Except.ok (Except.ok.inj h)

end Except

namespace Checked

variable {α β : Type}

/-! ### Parts of valid values -/

theorem and_eq_valid {f : Checked (α → β)} {x : Checked α} {b : β} :
    f.and x = .valid b ↔ ∃ g a, f = .valid g ∧ x = .valid a ∧ g a = b := by
  cases f <;> cases x <;> simp [Checked.and]

theorem map_eq_valid {f : α → β} {x : Checked α} {b : β} :
    x.map f = .valid b ↔ ∃ a, x = .valid a ∧ f a = b := by
  cases x <;> simp [Checked.map]

theorem within_eq_valid {place : Place} {x : Checked α} {a : α} :
    x.within place = .valid a ↔ x = .valid a := by
  cases x <;> simp [Checked.within]

theorem andThen_eq_valid {x : Checked α} {next : α → Checked β} {b : β} :
    x.andThen next = .valid b ↔ ∃ a, x = .valid a ∧ next a = .valid b := by
  cases x <;> simp [Checked.andThen]

theorem ensure_eq_valid {unfit? : α → Option String} {x : Checked α} {a : α} :
    x.ensure unfit? = .valid a ↔ x = .valid a ∧ unfit? a = none := by
  rw [ensure, andThen_eq_valid]
  constructor
  · rintro ⟨b, hb, h⟩
    cases hunfit : unfit? b with
    | some reason =>
      rw [hunfit] at h
      cases h
    | none =>
      rw [hunfit] at h
      cases h
      exact ⟨hb, hunfit⟩
  · rintro ⟨hx, hunfit⟩
    exact ⟨a, hx, by rw [hunfit]⟩

end Checked

namespace Document

theorem accept_eq_ok {α : Type} {x : Checked α} {a : α} (h : accept x = .ok a) : x = .valid a := by
  cases x with
  | valid b => exact congrArg Checked.valid (Except.ok.inj h)
  | invalid faults => cases h

variable {α : Type} {read : Json → Checked α} {write : α → Json} {name : String} {ms : Members}
  {a default : α} {v : Json}

/-! ### Readers and writers -/

/-- The reader takes the written form of every value that it makes for that
value. -/
def Rereads (read : Json → Checked α) (write : α → Json) : Prop :=
  ∀ ⦃v a⦄, read v = .valid a → read (write a) = .valid a

/-- The value can be written, and is what is read again. -/
def Survives (write : α → Except Failure Json) (read : Json → Checked α) (a : α) : Prop :=
  ∃ out, write a = .ok out ∧ read out = .valid a

/-! ### Records and their fields -/

theorem readRecord_eq_valid {record : String} {read : Members → Checked α}
    (h : readRecord record read v = .valid a) : ∃ ms, v = .obj ms ∧ read ms = .valid a := by
  cases v with
  | obj ms => exact ⟨ms, rfl, h⟩
  | _ => cases h

theorem find?_eq_some_of_lookup (h : ms.lookup name = some v) : find? name ms = some (name, v) := by
  rw [find?, h]

/-- A field is read from the member of its own name. -/
theorem required_of_lookup (hfound : ms.lookup name = some v) (hread : read v = .valid a) :
    required name read ms = .valid a := by
  rw [required, find?_eq_some_of_lookup hfound]
  exact Checked.within_eq_valid.2 hread

theorem optional_of_lookup (hfound : ms.lookup name = some v) (hread : read v = .valid a) :
    optional name default read ms = .valid a := by
  rw [optional, find?_eq_some_of_lookup hfound]
  exact Checked.within_eq_valid.2 hread

/-- What is read of a field is read from the member of its own name, if there is one. -/
theorem read_of_required (h : required name read ms = .valid a) (hfound : ms.lookup name = some v) :
    read v = .valid a := by
  rw [required, find?_eq_some_of_lookup hfound] at h
  exact Checked.within_eq_valid.1 h

theorem read_of_optional (h : optional name default read ms = .valid a) (hfound : ms.lookup name = some v) :
    read v = .valid a := by
  rw [optional, find?_eq_some_of_lookup hfound] at h
  exact Checked.within_eq_valid.1 h

theorem required_eq_valid (h : required name read ms = .valid a) : ∃ v, read v = .valid a := by
  unfold required at h
  split at h
  · rename_i v _
    exact ⟨v, Checked.within_eq_valid.1 h⟩
  · cases h

theorem optional_eq_valid (h : optional name default read ms = .valid a) :
    a = default ∨ ∃ v, read v = .valid a := by
  unfold optional at h
  split at h
  · rename_i v _
    exact Or.inr ⟨v, Checked.within_eq_valid.1 h⟩
  · cases h
    exact Or.inl rfl

/-- A field that has been read can be read from what is written of it. -/
theorem Rereads.required (h : Rereads read write) (hfield : required name read ms = .valid a) :
    read (write a) = .valid a := by
  obtain ⟨v, hv⟩ := required_eq_valid hfield
  exact h hv

theorem Rereads.optional (h : Rereads read write) (hdefault : read (write default) = .valid default)
    (hfield : optional name default read ms = .valid a) : read (write a) = .valid a := by
  rcases optional_eq_valid hfield with rfl | ⟨v, hv⟩
  · exact hdefault
  · exact h hv

/-! ### Optional values -/

theorem nullable_of_ne_null (hv : v ≠ .null) : nullable read v = (read v).map some := by
  cases v with
  | null => exact absurd rfl hv
  | _ => rfl

theorem nullable_of_eq_valid (hv : v ≠ .null) (hread : read v = .valid a) :
    nullable read v = .valid (some a) := by
  rw [nullable_of_ne_null hv, hread]
  rfl

theorem nullable_eq_valid {found : Option α} (h : nullable read v = .valid found) :
    ∀ a ∈ found, read v = .valid a := by
  intro a ha
  cases ha
  cases v with
  | null => cases h
  | _ =>
    rw [nullable_of_ne_null (by simp), Checked.map_eq_valid] at h
    obtain ⟨b, hb, hab⟩ := h
    cases hab
    exact hb

/-- A value that may be missing is reread if null is written for none only. -/
theorem Rereads.nullable (h : Rereads read write) {writeOption : Option α → Json}
    (hnone : writeOption none = .null) (hsome : ∀ a, writeOption (some a) = write a)
    (hnull : ∀ a, write a ≠ .null) : Rereads (nullable read) writeOption := by
  intro v found hv
  cases found with
  | none => rw [hnone, Document.nullable]
  | some a =>
    rw [hsome]
    exact nullable_of_eq_valid (hnull a) (h (nullable_eq_valid hv a rfl))

/-- A field that may be missing or null. -/
theorem optional_nullable_eq_valid {found : Option α}
    (h : optional name none (nullable read) ms = .valid found) :
    ∀ a ∈ found, ∃ v, read v = .valid a := by
  intro a ha
  rcases optional_eq_valid h with rfl | ⟨v, hv⟩
  · cases ha
  · exact ⟨v, nullable_eq_valid hv a ha⟩

/-! ### Lists -/

theorem readItems_map : ∀ (as : List α) (index : Nat), (∀ a ∈ as, read (write a) = .valid a) →
    readItems read index (as.map write) = .valid as
  | [], _, _ => rfl
  | a :: as, index, h => by
    have hfirst := h a List.mem_cons_self
    have hrest := readItems_map as (index + 1) fun b hb => h b (List.mem_cons_of_mem a hb)
    rw [List.map_cons, readItems, hfirst, hrest]
    rfl

/-- The values of a list are read from its items. -/
theorem readItems_mem : ∀ (vs : List Json) {index : Nat} {as : List α},
    readItems read index vs = .valid as → ∀ a ∈ as, ∃ v, read v = .valid a
  | [], _, _, h, a, ha => by
    cases h
    cases ha
  | v :: vs, index, as, h, a, ha => by
    rw [readItems] at h
    obtain ⟨_, rest, h1, hrest, rfl⟩ := Checked.and_eq_valid.1 h
    obtain ⟨_, first, h0, hfirst, rfl⟩ := Checked.and_eq_valid.1 h1
    cases h0
    rcases List.mem_cons.1 ha with rfl | ha
    · exact ⟨v, Checked.within_eq_valid.1 hfirst⟩
    · exact readItems_mem vs hrest a ha

theorem readList_mem {as : List α} (h : readList read v = .valid as) :
    ∀ a ∈ as, ∃ v, read v = .valid a := by
  cases v with
  | arr vs => exact readItems_mem vs h
  | _ => cases h

/-- Values that survive one by one survive as a list. -/
theorem mapM_survives {write : α → Except Failure Json} : ∀ as : List α,
    (∀ a ∈ as, Survives write read a) →
    ∃ outs, as.mapM write = .ok outs ∧ ∀ index, readItems read index outs = .valid as
  | [], _ => ⟨[], rfl, fun _ => rfl⟩
  | a :: as, h => by
    obtain ⟨out, hout, hread⟩ := h a List.mem_cons_self
    obtain ⟨outs, houts, hreads⟩ := mapM_survives as fun b hb => h b (List.mem_cons_of_mem a hb)
    refine ⟨out :: outs, ?_, fun index => ?_⟩
    · rw [List.mapM_cons, hout, houts]
      rfl
    · rw [readItems, hread, hreads]
      rfl

/-! ### Plain values -/

theorem readText_str (s : String) : readText (.str s) = .valid s := rfl

theorem readInteger_int (n : Int) : readInteger (.int n) = .valid n := rfl

theorem readBoolean_bool (b : Bool) : readBoolean (.bool b) = .valid b := rfl

theorem nullableText_written (s : Option String) : nullable readText (Json.ofText? s) = .valid s := by
  cases s <;> rfl

theorem texts_written (texts : List String) : readList readText (Json.ofTexts texts) = .valid texts :=
  readItems_map texts 0 fun _ _ => rfl

theorem readSizedText_rereads (least : Nat) (most : Option Nat) :
    Rereads (readSizedText least most) .str := by
  intro v s hv
  rw [readSizedText, Checked.andThen_eq_valid] at hv
  obtain ⟨t, -, ht⟩ := hv
  have hst : t = s := by
    repeat' split at ht
    all_goals cases ht
    all_goals rfl
  rw [← hst] at ht ⊢
  exact ht

theorem checkBounds_eq_valid {least : Int} {most : Option Int} {n m : Int}
    (h : checkBounds least most n = .valid m) : n = m := by
  unfold checkBounds at h
  repeat' split at h
  all_goals cases h
  all_goals rfl

theorem readBounded_rereads (least : Int) (most : Option Int) :
    Rereads (readBounded least most) .int := by
  intro v n hv
  rw [readBounded, Checked.andThen_eq_valid] at hv
  obtain ⟨m, -, hm⟩ := hv
  cases checkBounds_eq_valid hm
  exact hm

/-- A bounded number is read as it is written. -/
theorem nullableBounded_written {least : Int} {most n found : Option Int}
    (h : nullable (readBounded least most) (Json.ofInt? n) = .valid found) : found = n := by
  cases n with
  | none => exact (Checked.valid.inj h).symm
  | some n =>
    obtain ⟨m, hm, rfl⟩ := Checked.map_eq_valid.1 h
    have hchecked : checkBounds least most n = .valid m := hm
    rw [checkBounds_eq_valid hchecked]

theorem mem_of_readNamed {all : List α} {name : α → String} (h : readNamed all name v = .valid a) :
    a ∈ all := by
  unfold readNamed at h
  cases v with
  | str s =>
    dsimp only at h
    split at h
    · rename_i b hb
      cases h
      exact List.mem_of_find?_eq_some hb
    · cases h
  | _ => cases h

theorem name_of_readNamed {all : List α} {name : α → String} {s : String}
    (h : readNamed all name (.str s) = .valid a) : name a = s := by
  unfold readNamed at h
  dsimp only at h
  split at h
  · rename_i b hb
    cases h
    have hname := List.find?_some hb
    exact beq_iff_eq.1 hname
  · cases h

/-- A value of a listed set is found again by its name. -/
theorem readNamed_rereads (all : List α) (name : α → String) :
    Rereads (readNamed all name) (fun a => .str (name a)) := by
  intro v a hv
  unfold readNamed at hv
  cases v with
  | str s =>
    dsimp only at hv
    split at hv
    · rename_i b hb
      cases hv
      have hname := List.find?_some hb
      rw [beq_iff_eq] at hname
      rw [readNamed, hname, hb]
    · cases hv
  | _ => cases hv

end Document
end Automation
