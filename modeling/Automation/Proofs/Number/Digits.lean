/-
# Digits in text

Digits in a row are taken off a text up to the first other character
(`takeDigits_append`), and write a number place by place (`digitsValue_join`). The
text of a natural number is such a row. It writes the number, and starts with a
zero only for zero itself (`digitsValue_toDigits`, `exists_toDigits_eq_cons`).

Digits of any script write the number that has their values as its decimal places
(`Text.digits?_eq_some_iff`).

Key theorems: `digitsValue_append`, `digitsValue_join`, `takeDigits_append`,
`Text.digits?_eq_some_iff`, `digitsValue_toDigits`.
-/
import Automation.Number.Reading
import Mathlib

namespace Automation

/-! ### Rows of digits -/

theorem digitsValue_append (ds : List Char) (d : Char) :
    digitsValue (ds ++ [d]) = 10 * digitsValue ds + (d.toNat - 48) := by
  simp [digitsValue]

/-- Digits write a number of at most as many places. -/
theorem digitsValue_lt (ds : List Char) (h : ∀ d ∈ ds, d.isDigit = true) :
    digitsValue ds < 10 ^ ds.length := by
  induction ds using List.reverseRecOn with
  | nil => simp [digitsValue]
  | append_singleton ds d ih =>
    have hds := ih fun c hc => h c (List.mem_append_left _ hc)
    have hd : 48 ≤ d.toNat ∧ d.toNat ≤ 57 := Char.isDigit_iff_toNat.1 (h d (by simp))
    rw [digitsValue_append, List.length_append, List.length_singleton, Nat.pow_succ]
    omega

/-- Digits before others count as many tens as there are others. -/
theorem digitsValue_join (ds es : List Char) :
    digitsValue (ds ++ es) = digitsValue ds * 10 ^ es.length + digitsValue es := by
  induction es using List.reverseRecOn with
  | nil => simp [digitsValue]
  | append_singleton es e ih =>
    rw [← List.append_assoc, digitsValue_append, digitsValue_append, ih, List.length_append,
      List.length_singleton, Nat.pow_succ]
    ring

theorem digitsValue_replicate_zero (k : Nat) : digitsValue (List.replicate k '0') = 0 := by
  induction k with
  | zero => rfl
  | succ k ih => rw [List.replicate_succ', digitsValue_append, ih]; rfl

theorem takeDigits_append {ds after : List Char} (hds : ∀ d ∈ ds, d.isDigit = true)
    (hafter : ∀ c ∈ after.head?, c.isDigit = false) : takeDigits (ds ++ after) = (ds, after) := by
  rw [takeDigits, List.takeWhile_append_of_pos hds, List.dropWhile_append_of_pos hds]
  cases after with
  | nil => simp
  | cons c after =>
    have hc := hafter c rfl
    simp [hc]

/-! ### Digits of any script -/

namespace Text

theorem digits?_append (cs : List Char) (c : Char) :
    digits? (cs ++ [c]) = (digits? cs).bind fun n => (digitValue? c).map (10 * n + ·) := by
  rw [digits?, List.foldl_append]
  rfl

/-- **Digits write the number whose decimal places they are.** -/
theorem digits?_eq_some_iff {cs : List Char} {n : Nat} :
    digits? cs = some n
      ↔ ∃ ds : List Nat, cs.map digitValue? = ds.map some ∧ Nat.ofDigits 10 ds.reverse = n := by
  induction cs using List.reverseRecOn generalizing n with
  | nil =>
    constructor
    · rintro ⟨⟩
      exact ⟨[], rfl, rfl⟩
    · rintro ⟨ds, hds, rfl⟩
      rw [List.map_eq_nil_iff.1 hds.symm]
      rfl
  | append_singleton cs c ih =>
    -- the last digit is the place of the ones, so it stands first in the reversed row
    have hlast : ∀ (ds : List Nat) (d : Nat),
        Nat.ofDigits 10 (ds ++ [d]).reverse = 10 * Nat.ofDigits 10 ds.reverse + d := by
      intro ds d
      rw [List.reverse_append, List.reverse_singleton, List.singleton_append, Nat.ofDigits_cons]
      exact Nat.add_comm _ _
    rw [digits?_append, List.map_append, List.map_singleton]
    constructor
    · intro h
      obtain ⟨m, hm, hn⟩ := Option.bind_eq_some_iff.1 h
      obtain ⟨d, hd, rfl⟩ := Option.map_eq_some_iff.1 hn
      obtain ⟨ds, hds, rfl⟩ := ih.1 hm
      exact ⟨ds ++ [d], by rw [hds, hd, List.map_append, List.map_singleton], hlast ds d⟩
    · rintro ⟨es, hes, rfl⟩
      obtain ⟨ds, last, rfl, hds, hone⟩ := List.append_eq_map_iff.1 hes
      obtain ⟨d, rfl, hd⟩ := List.map_eq_singleton_iff.1 hone
      rw [ih.2 ⟨ds, hds.symm, rfl⟩, ← hd, hlast]
      rfl

/-- In ASCII they write what the other reader of digits reads. -/
theorem digits?_of_isDigit {cs : List Char} (h : ∀ c ∈ cs, c.isDigit = true) :
    digits? cs = some (digitsValue cs) := by
  induction cs using List.reverseRecOn with
  | nil => rfl
  | append_singleton cs c ih =>
    have hc : c.isDigit = true := h c (by simp)
    have hbounds : 48 ≤ c.toNat ∧ c.toNat ≤ 57 := Char.isDigit_iff_toNat.1 hc
    have hlt : c.toNat < 128 := by omega
    rw [digits?_append, ih fun d hd => h d (List.mem_append_left _ hd), digitsValue_append,
      digitValue?, if_pos hlt, if_pos hc]
    rfl

end Text

/-! ### The text of a natural number -/

theorem toList_toString (n : Nat) : (toString n).toList = Nat.toDigits 10 n := by
  rw [Nat.toString_eq_repr, Nat.repr_eq_ofList_toDigits, String.toList_ofList]

theorem isDigit_of_mem_toDigits {n : Nat} : ∀ d ∈ Nat.toDigits 10 n, d.isDigit = true :=
  fun _ hd => Nat.isDigit_of_mem_toDigits (by decide) (by decide) hd

theorem digitsValue_toDigits (n : Nat) : digitsValue (Nat.toDigits 10 n) = n :=
  Nat.ofDigitChars_toDigits (by decide) (by decide)

theorem toDigits_ne_nil (n : Nat) : Nat.toDigits 10 n ≠ [] :=
  List.ne_nil_of_length_pos Nat.length_toDigits_pos

theorem digitChar_ne_zero : ∀ n < 10, 0 < n → n.digitChar ≠ '0' := by decide

/-- The text of a positive number starts with a digit other than zero. -/
theorem exists_toDigits_eq_cons {n : Nat} (h : 0 < n) :
    ∃ d ds, Nat.toDigits 10 n = d :: ds ∧ d ≠ '0' := by
  induction n using Nat.strong_induction_on with
  | _ n ih =>
    rw [Nat.toDigits_eq_if (by decide)]
    split
    · rename_i hlt
      exact ⟨_, _, rfl, digitChar_ne_zero n hlt h⟩
    · rename_i hle
      obtain ⟨d, ds, hds, hd⟩ := ih (n / 10) (by omega) (by omega)
      exact ⟨d, ds ++ [_], by rw [hds]; rfl, hd⟩

end Automation
