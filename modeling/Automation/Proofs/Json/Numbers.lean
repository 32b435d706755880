/-
# Numbers are read as they are written

A number in text is a whole number, digits after a point and a power of ten, of
which the last two may be missing (`Json.Numeral`); it is an integer if both are,
and a double otherwise. Such a text is read up to its end, and no further
(`Json.readNumber_text`).

Every integer and every finite double is written as such a number
(`Json.exists_numeral_int`, `Double.exists_numeral`). The text of a double shows its
shortest decimal in one of three layouts, none of which changes the value
(`Double.exists_numeral_layOut`), so the double comes back bit by bit.

Key definitions: `Json.Numeral`, `Json.Numeral.IsProper`, `Json.EndsNumber`.
Key theorems: `Json.readNumber_text`, `Double.exists_numeral_layOut`,
`Double.exists_numeral`.
-/
import Automation.Json.Reader
import Automation.Proofs.Number.Decimals
import Automation.Proofs.Number.Digits

namespace Automation

namespace Json

/-! ### Numbers in text -/

/-- The parts of a number in text; a missing fraction has no digits. -/
structure Numeral where
  negative : Bool
  whole : List Char
  places : List Char := []
  /-- Whether the power of ten is negative, and its digits. -/
  power : Option (Bool × List Char) := none

namespace Numeral

def signText (negative : Bool) : List Char := if negative then ['-'] else []

def fractionText (places : List Char) : List Char := if places.isEmpty then [] else '.' :: places

def powerText : Option (Bool × List Char) → List Char
  | none => []
  | some (negative, ds) => 'e' :: (if negative then '-' else '+') :: ds

/-- The characters behind the sign. -/
def chars (n : Numeral) : List Char := n.whole ++ (fractionText n.places ++ powerText n.power)

def text (n : Numeral) : List Char := signText n.negative ++ n.chars

def isInteger (n : Numeral) : Bool := n.places.isEmpty && n.power.isNone

/-- The power of ten that is written. -/
def powerValue : Option (Bool × List Char) → Int
  | none => 0
  | some (negative, ds) => if negative then -(digitsValue ds : Int) else digitsValue ds

/-- The decimal behind the sign. -/
def decimal (n : Numeral) : Double.Decimal :=
  ⟨digitsValue (n.whole ++ n.places), powerValue n.power - n.places.length⟩

def value (n : Numeral) : Json :=
  if n.isInteger then .int (if n.negative then -(digitsValue n.whole : Int) else digitsValue n.whole)
  else .float (.ofDecimal n.negative n.decimal.digits n.decimal.exponent)

/-- The parts are digits; there is a whole number without a zero before it, and
the power of ten is not empty. -/
structure IsProper (n : Numeral) : Prop where
  whole : n.whole = ['0'] ∨ ∃ d ds, n.whole = d :: ds ∧ d ≠ '0'
  whole_digits : ∀ d ∈ n.whole, d.isDigit = true
  places_digits : ∀ d ∈ n.places, d.isDigit = true
  power_digits : ∀ p ∈ n.power, p.2 ≠ [] ∧ ∀ d ∈ p.2, d.isDigit = true

end Numeral

/-- Behind such characters no number goes on. -/
def EndsNumber (rest : List Char) : Prop :=
  ∀ c ∈ rest.head?, c.isDigit = false ∧ c ≠ '.' ∧ c ≠ 'e' ∧ c ≠ 'E'

/-! ### Reading numbers -/

namespace Numeral

variable {n : Numeral} {rest : List Char}

theorem takeWhole_append (h : n.IsProper) (hrest : ∀ c ∈ rest.head?, c.isDigit = false) :
    takeWhole (n.whole ++ rest) = some (n.whole, rest) := by
  rcases h.whole with hzero | ⟨d, ds, hwhole, hd⟩
  · rw [hzero]
    rfl
  · have htake := takeDigits_append h.whole_digits hrest
    rw [hwhole] at htake ⊢
    rw [List.cons_append] at htake ⊢
    unfold takeWhole
    split
    · rename_i heq
      exact absurd (List.cons.inj heq).1 hd
    · simp [htake]

/-- What follows the whole number does not start with a digit. -/
theorem head?_powerText_append (power : Option (Bool × List Char)) (hrest : EndsNumber rest) :
    ∀ c ∈ (powerText power ++ rest).head?, c.isDigit = false ∧ c ≠ '.' := by
  intro c hc
  cases power with
  | none => exact ⟨(hrest c hc).1, (hrest c hc).2.1⟩
  | some p =>
    obtain rfl : 'e' = c := by simpa [powerText] using hc
    exact ⟨by decide, by decide⟩

theorem takeFraction_append {places : List Char} (hdigits : ∀ d ∈ places, d.isDigit = true)
    (hrest : ∀ c ∈ rest.head?, c.isDigit = false ∧ c ≠ '.') :
    takeFraction (fractionText places ++ rest)
      = if places.isEmpty then none else some (places, rest) := by
  cases places with
  | nil =>
    cases rest with
    | nil => rfl
    | cons c rest =>
      have hpoint := (hrest c rfl).2
      simp only [fractionText, List.isEmpty_nil, if_true, List.nil_append]
      unfold takeFraction
      split
      · rename_i heq
        exact absurd (List.cons.inj heq).1 hpoint
      · rfl
  | cons d ds =>
    have htake := takeDigits_append hdigits fun c hc => (hrest c hc).1
    rw [List.cons_append] at htake
    simp [fractionText, takeFraction, htake]

theorem takeExponent_append {power : Option (Bool × List Char)}
    (hpower : ∀ p ∈ power, p.2 ≠ [] ∧ ∀ d ∈ p.2, d.isDigit = true) (hrest : EndsNumber rest) :
    takeExponent (powerText power ++ rest) = power.map fun p => (powerValue (some p), rest) := by
  cases power with
  | none =>
    cases rest with
    | nil => rfl
    | cons c rest =>
      obtain ⟨-, -, he, hE⟩ := hrest c rfl
      simp [powerText, takeExponent, he, hE]
  | some p =>
    obtain ⟨negative, ds⟩ := p
    obtain ⟨hne, hdigits⟩ := hpower _ rfl
    have htake := takeDigits_append hdigits fun c hc => (hrest c hc).1
    have hempty : ds.isEmpty = false := by simpa using hne
    cases negative <;> simp [powerText, takeExponent, takeSign, htake, hempty, powerValue]

/-- What follows the whole number does not start with a digit either. -/
theorem head?_fractionText_append (n : Numeral) (hrest : EndsNumber rest) :
    ∀ c ∈ (fractionText n.places ++ (powerText n.power ++ rest)).head?, c.isDigit = false := by
  intro c hc
  cases hplaces : n.places with
  | nil =>
    rw [hplaces] at hc
    exact (head?_powerText_append n.power hrest c hc).1
  | cons d ds =>
    obtain rfl : '.' = c := by simpa [hplaces, fractionText] using hc
    decide

/-- The sign is taken off. -/
theorem split_text (h : n.IsProper) (rest : List Char) :
    (match n.text ++ rest with
      | '-' :: more => (true, more)
      | _ => (false, n.text ++ rest)) = (n.negative, n.chars ++ rest) := by
  cases hsign : n.negative with
  | true => simp [text, hsign, signText]
  | false =>
    have hdigit : ∀ d ∈ n.whole.head?, d ≠ '-' := by
      rintro d hd rfl
      exact absurd (h.whole_digits _ (List.mem_of_mem_head? hd)) (by decide)
    have hne : n.whole ≠ [] := by rcases h.whole with hw | ⟨d, ds, hw, -⟩ <;> simp [hw]
    obtain ⟨d, ds, hw⟩ := List.exists_cons_of_ne_nil hne
    rw [hw] at hdigit
    simp only [text, hsign, signText, chars, hw]
    split
    · rename_i heq
      exact absurd (List.cons.inj heq).1 (hdigit d rfl)
    · rfl

end Numeral

/-- **A number in text is read up to its end.** -/
theorem readNumber_text {n : Numeral} (h : n.IsProper) {rest : List Char} (hrest : EndsNumber rest) :
    readNumber (n.text ++ rest) = .ok (n.value, rest) := by
  have hsign := Numeral.split_text h rest
  have hwhole := Numeral.takeWhole_append h (n.head?_fractionText_append hrest)
  have hplaces := Numeral.takeFraction_append h.places_digits
    (Numeral.head?_powerText_append n.power hrest)
  have hpower := Numeral.takeExponent_append h.power_digits hrest
  have hchars : n.chars ++ rest
      = n.whole ++ (Numeral.fractionText n.places ++ (Numeral.powerText n.power ++ rest)) := by
    simp [Numeral.chars]
  unfold readNumber
  split
  rename_i negative unsigned hsplit
  obtain ⟨rfl, rfl⟩ := Prod.mk.inj (hsplit.symm.trans hsign)
  rw [hchars, hwhole]
  clear hwhole hchars hsplit hsign h
  obtain ⟨negative, whole, places, power⟩ := n
  simp only at hplaces hpower ⊢
  -- a part that is missing leaves what follows in its place
  cases places with
  | nil =>
    simp only [Numeral.fractionText, List.isEmpty_nil, if_true, List.nil_append] at hplaces ⊢
    cases power with
    | none =>
      simp only [Numeral.powerText, List.nil_append, Option.map_none] at hplaces hpower ⊢
      simp [hplaces, hpower, Numeral.value, Numeral.isInteger]
    | some p => simp [hplaces, hpower, Numeral.value, Numeral.isInteger, Numeral.decimal]
  | cons d ds =>
    simp only [List.isEmpty_cons] at hplaces
    cases power with
    | none =>
      simp only [Numeral.powerText, List.nil_append, Option.map_none] at hplaces hpower ⊢
      simp [hplaces, hpower, Numeral.value, Numeral.isInteger, Numeral.decimal, Numeral.powerValue]
    | some p => simp [hplaces, hpower, Numeral.value, Numeral.isInteger, Numeral.decimal]

/-! ### Integers -/

theorem whole_toDigits (n : Nat) :
    Nat.toDigits 10 n = ['0'] ∨ ∃ d ds, Nat.toDigits 10 n = d :: ds ∧ d ≠ '0' := by
  rcases Nat.eq_zero_or_pos n with rfl | h
  · exact .inl rfl
  · exact .inr (exists_toDigits_eq_cons h)

/-- **An integer is written as a number.** -/
theorem exists_numeral_int (n : Int) :
    ∃ numeral : Numeral, numeral.IsProper ∧ (toString n).toList = numeral.text
      ∧ numeral.value = .int n := by
  refine ⟨⟨n < 0, Nat.toDigits 10 n.natAbs, [], none⟩,
    ⟨whole_toDigits _, isDigit_of_mem_toDigits, by simp, by simp⟩, ?_, ?_⟩
  · have htext : toString n = n.repr := rfl
    rw [htext, Int.repr_eq_if]
    simp only [Numeral.text, Numeral.chars, Numeral.signText, Numeral.fractionText, Numeral.powerText,
      List.isEmpty_nil, if_true, List.append_nil]
    by_cases hsign : n < 0
    · have habs : (-n).toNat = n.natAbs := by omega
      rw [if_neg (by omega), String.toList_append, habs, ← Nat.toString_eq_repr, toList_toString]
      simp [hsign]
    · have habs : n.toNat = n.natAbs := by omega
      rw [if_pos (by omega), habs, ← Nat.toString_eq_repr, toList_toString]
      simp [hsign]
  · simp only [Numeral.value, Numeral.isInteger, List.isEmpty_nil, Option.isNone_none, Bool.and_self,
      if_true, digitsValue_toDigits, Json.int.injEq]
    by_cases hsign : n < 0
    · rw [if_pos (by simpa using hsign)]
      omega
    · rw [if_neg (by simpa using hsign)]
      omega

end Json

namespace Double

open Json (Numeral)

/-! ### Doubles -/

theorem dropZeros_spec {fuel digits taken digits' taken' : Nat} (hpos : 0 < digits)
    (h : dropZeros fuel digits taken = (digits', taken')) :
    0 < digits' ∧ digits * 10 ^ taken = digits' * 10 ^ taken' := by
  induction fuel generalizing digits taken with
  | zero =>
    cases h
    exact ⟨hpos, rfl⟩
  | succ fuel ih =>
    rw [dropZeros] at h
    split at h
    · rename_i hzero
      have hmod : digits % 10 = 0 := by simpa [hpos.ne'] using hzero
      obtain ⟨hpos', heq⟩ := ih (by omega) h
      refine ⟨hpos', heq ▸ ?_⟩
      rw [Nat.pow_succ', ← Nat.mul_assoc, Nat.div_mul_cancel (Nat.dvd_of_mod_eq_zero hmod)]
    · cases h
      exact ⟨hpos, rfl⟩

theorem pad2_digits (n : Nat) : (pad2 n).toList ≠ [] ∧ (∀ d ∈ (pad2 n).toList, d.isDigit = true)
    ∧ digitsValue (pad2 n).toList = n := by
  unfold pad2
  split
  · rw [String.toList_append, toList_toString, digitsValue_join, digitsValue_toDigits]
    refine ⟨by simp, ?_, by simp [digitsValue]⟩
    intro d hd
    rcases List.mem_append.1 hd with hd | hd
    · obtain rfl : d = '0' := by simpa using hd
      decide
    · exact isDigit_of_mem_toDigits d hd
  · rw [toList_toString]
    exact ⟨toDigits_ne_nil n, isDigit_of_mem_toDigits, digitsValue_toDigits n⟩

/-- Zeros at the end of the digits count as tens. -/
theorem tenPow_shift (n k : ℕ) (e : ℤ) : ((n * 10 ^ k : ℕ) : ℚ) * 10 ^ e = n * 10 ^ (e + k) := by
  rw [Nat.cast_mul, Nat.cast_pow, Nat.cast_ofNat, zpow_add₀ (by norm_num), zpow_natCast]
  ring

/-- What a layout of the digits `ds` shows, the first of which counts `10 ^ lead`. -/
structure Shows (ds : List Char) (lead : Int) (n : Numeral) : Prop where
  proper : n.IsProper
  isInteger : n.isInteger = false
  value : n.decimal.value = digitsValue ds * 10 ^ (lead + 1 - ds.length)
  exponent : lead + 1 - ds.length ≤ n.decimal.exponent ∨ -1 ≤ n.decimal.exponent

variable {ds : List Char} {lead : Int} (negative : Bool)

/-- Below one the digits stand behind zeros. -/
theorem shows_fraction (hdigits : ∀ d ∈ ds, d.isDigit = true) (hne : ds ≠ []) (hlead : lead < 0) :
    Shows ds lead ⟨negative, ['0'], List.replicate (lead.natAbs - 1) '0' ++ ds, none⟩ where
  proper := {
    whole := .inl rfl
    whole_digits := by simp
    places_digits := by
      intro d hd
      rcases List.mem_append.1 hd with hd | hd
      · rw [List.eq_of_mem_replicate hd]
        decide
      · exact hdigits d hd
    power_digits := by simp }
  isInteger := by simp [Numeral.isInteger, hne]
  value := by
    have hvalue : digitsValue (['0'] ++ (List.replicate (lead.natAbs - 1) '0' ++ ds)) = digitsValue ds := by
      rw [digitsValue_join, digitsValue_join, digitsValue_replicate_zero]
      simp [digitsValue]
    have hexponent : (0 : Int) - (List.replicate (lead.natAbs - 1) '0' ++ ds).length
        = lead + 1 - ds.length := by
      rw [List.length_append, List.length_replicate]
      omega
    simp only [Numeral.decimal, Decimal.value, Numeral.powerValue, hvalue, hexponent]
  exponent := by
    refine .inl ?_
    simp only [Numeral.decimal, Numeral.powerValue, List.length_append, List.length_replicate]
    omega

/-- The digits of a whole number, filled up with zeros. -/
theorem shows_whole (hdigits : ∀ d ∈ ds, d.isDigit = true) (hhead : ∃ d rest, ds = d :: rest ∧ d ≠ '0')
    (hlead : 0 ≤ lead) (hlength : ds.length ≤ lead.toNat + 1) :
    Shows ds lead
      ⟨negative, ds ++ List.replicate (lead.toNat + 1 - ds.length) '0', ['0'], none⟩ where
  proper := {
    whole := by
      obtain ⟨d, rest, rfl, hd⟩ := hhead
      exact .inr ⟨d, _, rfl, hd⟩
    whole_digits := by
      intro d hd
      rcases List.mem_append.1 hd with hd | hd
      · exact hdigits d hd
      · rw [List.eq_of_mem_replicate hd]
        decide
    places_digits := by simp
    power_digits := by simp }
  isInteger := rfl
  value := by
    have hvalue : digitsValue (ds ++ List.replicate (lead.toNat + 1 - ds.length) '0' ++ ['0'])
        = digitsValue ds * 10 ^ (lead.toNat + 2 - ds.length) := by
      have hzero : digitsValue ['0'] = 0 := rfl
      rw [digitsValue_join, digitsValue_join, digitsValue_replicate_zero, hzero, Nat.add_zero,
        Nat.add_zero, Nat.mul_assoc, ← Nat.pow_add, List.length_replicate, List.length_singleton]
      congr 2
      omega
    simp only [Numeral.decimal, Decimal.value, Numeral.powerValue, hvalue, tenPow_shift]
    congr 2
    rw [List.length_singleton]
    omega
  exponent := .inr (by simp [Numeral.decimal, Numeral.powerValue])

/-- The digits of a whole number before those of a fraction. -/
theorem shows_split (hdigits : ∀ d ∈ ds, d.isDigit = true) (hhead : ∃ d rest, ds = d :: rest ∧ d ≠ '0')
    (hlead : 0 ≤ lead) (hlength : lead.toNat + 1 < ds.length) :
    Shows ds lead ⟨negative, ds.take (lead.toNat + 1), ds.drop (lead.toNat + 1), none⟩ where
  proper := {
    whole := by
      obtain ⟨d, rest, rfl, hd⟩ := hhead
      exact .inr ⟨d, _, rfl, hd⟩
    whole_digits := fun d hd => hdigits d (List.mem_of_mem_take hd)
    places_digits := fun d hd => hdigits d (List.mem_of_mem_drop hd)
    power_digits := by simp }
  isInteger := by
    have hne : ds.drop (lead.toNat + 1) ≠ [] := by
      rw [ne_eq, List.drop_eq_nil_iff]
      omega
    simp [Numeral.isInteger, hne]
  value := by
    have hexponent : (0 : Int) - (ds.drop (lead.toNat + 1)).length = lead + 1 - ds.length := by
      rw [List.length_drop]
      omega
    simp only [Numeral.decimal, Decimal.value, Numeral.powerValue, List.take_append_drop, hexponent]
  exponent := by
    refine .inl ?_
    simp only [Numeral.decimal, Numeral.powerValue, List.length_drop]
    omega

theorem powerValue_pad2 (lead : Int) :
    Numeral.powerValue (some (decide (lead < 0), (pad2 lead.natAbs).toList)) = lead := by
  simp only [Numeral.powerValue, (pad2_digits lead.natAbs).2.2, decide_eq_true_eq]
  split <;> omega

/-- One digit, a fraction if there are more, and a power of ten. -/
theorem shows_scientific (hdigits : ∀ d ∈ ds, d.isDigit = true)
    (hhead : ∃ d rest, ds = d :: rest ∧ d ≠ '0') :
    Shows ds lead ⟨negative, ds.take 1, ds.drop 1, some (lead < 0, (pad2 lead.natAbs).toList)⟩ := by
  have hexponent : lead - (ds.drop 1).length = lead + 1 - ds.length := by
    obtain ⟨d, rest, rfl, -⟩ := hhead
    simp only [List.drop_one, List.tail_cons, List.length_cons]
    omega
  exact {
    proper := {
      whole := by
        obtain ⟨d, rest, rfl, hd⟩ := hhead
        exact .inr ⟨d, _, rfl, hd⟩
      whole_digits := fun d hd => hdigits d (List.mem_of_mem_take hd)
      places_digits := fun d hd => hdigits d (List.mem_of_mem_drop hd)
      power_digits := by
        rintro p hp
        obtain rfl : _ = p := Option.some.inj hp
        exact ⟨(pad2_digits _).1, (pad2_digits _).2.1⟩ }
    isInteger := by simp [Numeral.isInteger]
    value := by
      simp only [Numeral.decimal, Decimal.value, List.take_append_drop, powerValue_pad2, hexponent]
    exponent := by
      refine .inl ?_
      simp only [Numeral.decimal, powerValue_pad2]
      omega }

/-- **Each layout shows its digits.** -/
theorem exists_numeral_layOut (hdigits : ∀ d ∈ ds, d.isDigit = true)
    (hhead : ∃ d rest, ds = d :: rest ∧ d ≠ '0') (lead : Int) :
    ∃ n : Numeral, Shows ds lead n ∧ n.negative = negative ∧ (layOut ds lead).toList = n.chars := by
  have hne : ds ≠ [] := by
    obtain ⟨d, rest, rfl, -⟩ := hhead
    exact List.cons_ne_nil d rest
  have hempty : ds.isEmpty = false := by simpa using hne
  unfold layOut
  split
  · by_cases hlead : lead < 0
    · refine ⟨_, shows_fraction negative hdigits hne hlead, rfl, ?_⟩
      simp [hlead, Numeral.chars, Numeral.fractionText, Numeral.powerText, hne]
    · by_cases hlength : ds.length ≤ lead.toNat + 1
      · refine ⟨_, shows_whole negative hdigits hhead (by omega) hlength, rfl, ?_⟩
        have hdrop : ds.drop (lead.toNat + 1) = [] := List.drop_eq_nil_of_le hlength
        have htake : ds.take (lead.toNat + 1) = ds := List.take_of_length_le hlength
        simp [hlead, hdrop, htake, Numeral.chars, Numeral.fractionText, Numeral.powerText]
      · refine ⟨_, shows_split negative hdigits hhead (by omega) (by omega), rfl, ?_⟩
        have hdrop : ds.drop (lead.toNat + 1) ≠ [] := by
          rw [ne_eq, List.drop_eq_nil_iff]
          omega
        have hfill : lead.toNat + 1 - ds.length = 0 := by omega
        simp [hlead, hdrop, hfill, Numeral.chars, Numeral.fractionText, Numeral.powerText]
  · refine ⟨_, shows_scientific negative hdigits hhead, rfl, ?_⟩
    cases ds.drop 1 with
    | nil =>
      by_cases hlead : lead < 0 <;>
        simp [hlead, Numeral.chars, Numeral.fractionText, Numeral.powerText]
    | cons c cs =>
      by_cases hlead : lead < 0 <;>
        simp [hlead, Numeral.chars, Numeral.fractionText, Numeral.powerText]

theorem ofRank_eq (negative : Bool) (rank : Fin finiteRanks) :
    ofRank negative rank = .finite negative rank := dif_pos rank.isLt

/-- The sign of a double and the digits of its magnitude. -/
theorem toText_finite {rank : Fin finiteRanks} (hrank : rank.val ≠ 0) (negative : Bool) {digits taken : Nat}
    (hzeros : dropZeros 20 (shortest rank).digits 0 = (digits, taken)) :
    (toText (.finite negative rank)).toList = Numeral.signText negative ++ (layOut (Nat.toDigits 10 digits)
      ((shortest rank).exponent + taken + (Nat.toDigits 10 digits).length - 1)).toList := by
  have hnonzero : (rank.val == 0) = false := by simpa using hrank
  simp only [toText, hnonzero, hzeros, toList_toString, Bool.false_eq_true, if_false]
  rw [String.toList_append]
  cases negative <;> rfl

/-- **A finite double is written as a number that is the double.** -/
theorem exists_numeral (x : Double) (h : x.isFinite = true) :
    ∃ n : Numeral, n.IsProper ∧ x.toText.toList = n.text ∧ n.value = .float x := by
  obtain ⟨negative, rank⟩ | _ | _ := x
  · by_cases hzero : rank.val = 0
    · refine ⟨⟨negative, ['0'], ['0'], none⟩, ⟨.inl rfl, by simp, by simp, by simp⟩, ?_, ?_⟩
      · simp only [toText, hzero]
        cases negative <;> rfl
      · have hrank := ofRank_eq negative rank
        rw [hzero] at hrank
        rw [← hrank]
        rfl
    · have hpos : 0 < rank.val := Nat.pos_of_ne_zero hzero
      obtain ⟨hshortest, hleast⟩ := shortest_spec hpos rank.isLt
      obtain ⟨⟨digits, taken⟩, hzeros⟩ : ∃ p, dropZeros 20 (shortest rank).digits 0 = p := ⟨_, rfl⟩
      have hnonzero : 0 < (shortest rank).digits := Decimal.digits_pos (by omega) (by omega)
      obtain ⟨hdigits, hdropped⟩ := dropZeros_spec hnonzero hzeros
      obtain ⟨n, hshows, hsign, htext⟩ := exists_numeral_layOut negative
        (isDigit_of_mem_toDigits (n := digits)) (exists_toDigits_eq_cons hdigits)
        ((shortest rank).exponent + taken + (Nat.toDigits 10 digits).length - 1)
      have hexponent : (shortest rank).exponent + taken + (Nat.toDigits 10 digits).length - 1 + 1
          - (Nat.toDigits 10 digits).length = (shortest rank).exponent + taken := by omega
      have hsame : n.decimal.value = (shortest rank).value := by
        rw [hshows.value, digitsValue_toDigits, hexponent, ← tenPow_shift, ← hdropped, pow_zero, mul_one]
        rfl
      have hrank : n.decimal.rank = rank := (Decimal.rank_congr hsame).trans hshortest
      refine ⟨n, hshows.proper, ?_, ?_⟩
      · rw [toText_finite hzero negative hzeros, htext, Numeral.text, hsign]
      · have hrange : -1000 ≤ n.decimal.exponent := by
          have := hshows.exponent
          omega
        have hread := ofDecimal_eq (d := n.decimal) (by omega) (by omega) hrange n.negative
        rw [Numeral.value, hshows.isInteger, hread, hrank, hsign, ofRank_eq]
        rfl
  · cases h
  · cases h

end Double

end Automation
