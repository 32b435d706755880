/-
# Strings are read as they are written

Every character of a string is written as itself or as an escape, and is read back
from what is written (`Json.readString_writeChar`), a character beyond the first
plane from its two surrogates. So a string comes back from its escaped form
(`Json.readsAs_escape`). Some characters may also stand in a string without being
escaped (`Json.IsLiteral`), and are read as they are.

Key definitions: `Json.escape`, `Json.IsLiteral`, `Json.ReadsAs`.
Key theorems: `Json.readString_writeChar`, `Json.readString_literal`,
`Json.writeChar_cases`.
-/
import Automation.Json.Printer
import Automation.Json.Reader
import Mathlib

namespace Automation.Json

open Text (hexDigit hexDigits hexValue?)

/-- The characters of a string between its quotes. -/
def escape (cs : List Char) : List Char := cs.flatMap writeChar

theorem writeString_eq (s : String) : writeString s = '"' :: (escape s.toList ++ ['"']) := rfl

theorem escape_append (cs ds : List Char) : escape (cs ++ ds) = escape cs ++ escape ds :=
  List.flatMap_append

/-- A character that may stand in a string as it is. -/
def IsLiteral (c : Char) : Prop := c ≠ '"' ∧ c ≠ '\\' ∧ 0x20 ≤ c.toNat

/-! ### Escapes -/

theorem hexValue?_hexDigit : ∀ n < 16, hexValue? (hexDigit n) = some n := by decide

theorem hexCode?_hexDigits {n : Nat} (h : n < 0x10000) :
    ∃ a b c d, hexDigits 4 n = [a, b, c, d] ∧ hexCode? a b c d = some n := by
  refine ⟨_, _, _, _, rfl, ?_⟩
  have ha := hexValue?_hexDigit (n / 16 / 16 / 16 % 16) (by omega)
  have hb := hexValue?_hexDigit (n / 16 / 16 % 16) (by omega)
  have hc := hexValue?_hexDigit (n / 16 % 16) (by omega)
  have hd := hexValue?_hexDigit (n % 16) (by omega)
  simp only [hexCode?, ha, hb, hc, hd, Option.bind_eq_bind, Option.bind_some, Option.pure_def,
    Option.some.injEq]
  omega

variable {opened : Nat} {acc : List Char}

/-- The escape of a unit that is no surrogate is the character of that code. -/
theorem readString_unitEscape {unit : Nat} (hunit : unit < 0x10000)
    (hsurrogate : unit < 0xd800 ∨ 0xe000 ≤ unit) {rest : List Char} (hrest : rest ≠ []) :
    readString opened acc (unitEscape unit ++ rest)
      = readString opened (charOfCode unit :: acc) rest := by
  obtain ⟨a, b, c, d, hdigits, hcode⟩ := hexCode?_hexDigits hunit
  obtain ⟨next, more, rfl⟩ := List.exists_cons_of_ne_nil hrest
  have hhigh : (decide (0xd800 ≤ unit) && decide (unit < 0xdc00)) = false := by
    rw [Bool.and_eq_false_iff, decide_eq_false_iff_not, decide_eq_false_iff_not]
    omega
  rw [unitEscape, hdigits]
  simp only [List.cons_append, List.nil_append]
  -- the reader looks for a second unit before it knows that it needs none
  by_cases hpair : ∃ e f g h after rest, next :: more = '\\' :: 'u' :: e :: f :: g :: h :: after :: rest
  · obtain ⟨e, f, g, h, after, rest, heq⟩ := hpair
    rw [heq, readString.eq_def]
    simp [hcode, hhigh]
  · rw [readString]
    · exact fun e f g h after rest hnext hmore => hpair ⟨e, f, g, h, after, rest, by rw [hnext, hmore]⟩
    · exact hcode

/-- The escapes of two surrogates are one character. -/
theorem readString_surrogates {high low : Nat} (hhigh : 0xd800 ≤ high ∧ high < 0xdc00)
    (hlow : 0xdc00 ≤ low ∧ low < 0xe000) {rest : List Char} (hrest : rest ≠ []) :
    readString opened acc (unitEscape high ++ (unitEscape low ++ rest))
      = readString opened (joinSurrogates high low :: acc) rest := by
  obtain ⟨a, b, c, d, hdigits, hcode⟩ := hexCode?_hexDigits (n := high) (by omega)
  obtain ⟨e, f, g, h, hdigits', hcode'⟩ := hexCode?_hexDigits (n := low) (by omega)
  obtain ⟨after, more, rfl⟩ := List.exists_cons_of_ne_nil hrest
  rw [unitEscape, unitEscape, hdigits, hdigits']
  simp only [List.cons_append, List.nil_append]
  rw [readString.eq_def]
  simp [hcode, hcode', hhigh, hlow]

/-! ### Characters -/

/-- How a character is written: as it is, by a letter, by its code, or by two
surrogates. -/
theorem writeChar_cases (c : Char) :
    (writeChar c = [c] ∧ IsLiteral c) ∨ (∃ e, writeChar c = ['\\', e] ∧ e ≠ 'u' ∧ escaped? e = some c)
      ∨ (writeChar c = unitEscape c.toNat ∧ c.toNat < 0x10000)
      ∨ (writeChar c = unitEscape (0xd800 + (c.toNat - 0x10000) / 0x400)
          ++ unitEscape (0xdc00 + (c.toNat - 0x10000) % 0x400) ∧ 0x10000 ≤ c.toNat) := by
  unfold writeChar
  by_cases hquote : (c == '"' || c == '\\') = true
  · rw [if_pos hquote]
    refine .inr (.inl ⟨c, rfl, ?_⟩)
    rcases (by simpa using hquote : c = '"' ∨ c = '\\') with rfl | rfl <;> exact ⟨by decide, rfl⟩
  rw [if_neg hquote]
  split
  · rename_i h
    obtain rfl : c = '\n' := by simpa using h
    exact .inr (.inl ⟨'n', rfl, by decide, rfl⟩)
  split
  · rename_i h
    obtain rfl : c = '\r' := by simpa using h
    exact .inr (.inl ⟨'r', rfl, by decide, rfl⟩)
  split
  · rename_i h
    obtain rfl : c = '\t' := by simpa using h
    exact .inr (.inl ⟨'t', rfl, by decide, rfl⟩)
  split
  · rename_i h
    obtain rfl : c = '\x08' := by simpa using h
    exact .inr (.inl ⟨'b', rfl, by decide, rfl⟩)
  split
  · rename_i h
    obtain rfl : c = '\x0c' := by simpa using h
    exact .inr (.inl ⟨'f', rfl, by decide, rfl⟩)
  split
  · rename_i h
    have hplain : c ≠ '"' ∧ c ≠ '\\' := by simpa using hquote
    have hrange : 0x20 ≤ c.toNat ∧ c.toNat < 0x7f := by simpa using h
    exact .inl ⟨rfl, hplain.1, hplain.2, hrange.1⟩
  split
  · rename_i h
    exact .inr (.inr (.inl ⟨rfl, h⟩))
  · rename_i h
    exact .inr (.inr (.inr ⟨rfl, by omega⟩))

/-- What is written for a character starts with the character or with a backslash. -/
theorem writeChar_head (c : Char) : writeChar c = [c] ∨ ∃ more, writeChar c = '\\' :: more := by
  rcases writeChar_cases c with ⟨h, -⟩ | ⟨e, h, -⟩ | ⟨h, -⟩ | ⟨h, -⟩
  · exact .inl h
  · exact .inr ⟨_, h⟩
  · exact .inr ⟨_, h⟩
  · exact .inr ⟨_, h⟩

theorem isLiteral_of_writeChar {c : Char} (h : writeChar c = [c]) : IsLiteral c := by
  rcases writeChar_cases c with ⟨-, hc⟩ | ⟨e, hwrite, -⟩ | ⟨hwrite, -⟩ | ⟨hwrite, -⟩
  · exact hc
  · rw [h] at hwrite
    cases hwrite
  · rw [h] at hwrite
    cases hwrite
  · rw [h] at hwrite
    cases hwrite

/-- What holds of the digits holds of all that is written with them. -/
theorem forall_mem_hexDigits {p : Char → Prop} (h : ∀ k < 16, p (hexDigit k)) :
    ∀ width n, ∀ d ∈ hexDigits width n, p d
  | 0, _ => List.forall_mem_nil p
  | width + 1, n => by
    rw [hexDigits, List.forall_mem_append, List.forall_mem_singleton]
    exact ⟨forall_mem_hexDigits h width _, h _ (Nat.mod_lt n (by decide))⟩

theorem forall_mem_unitEscape {p : Char → Prop} (hslash : p '\\') (hletter : p 'u')
    (hdigits : ∀ k < 16, p (hexDigit k)) (unit : Nat) : ∀ d ∈ unitEscape unit, p d := by
  rw [unitEscape, List.forall_mem_cons, List.forall_mem_cons]
  exact ⟨hslash, hletter, forall_mem_hexDigits hdigits 4 unit⟩

theorem not_brace_of_mem_unitEscape {d : Char} {unit : Nat} (h : d ∈ unitEscape unit) :
    d ≠ '{' ∧ d ≠ '}' :=
  forall_mem_unitEscape (p := fun d => d ≠ '{' ∧ d ≠ '}') (by decide) (by decide) (by decide) unit d h

/-- A brace is written for itself only. -/
theorem eq_of_brace_mem_writeChar {c d : Char} (hd : d = '{' ∨ d = '}') (h : d ∈ writeChar c) :
    d = c := by
  have hescape : ¬ (d ≠ '{' ∧ d ≠ '}') := by rintro ⟨h, h'⟩; exact hd.elim h h'
  rcases writeChar_cases c with ⟨hwrite, -⟩ | ⟨e, hwrite, -, he⟩ | ⟨hwrite, -⟩ | ⟨hwrite, -⟩
  · simpa [hwrite] using h
  · rw [hwrite] at h
    rcases List.mem_cons.1 h with rfl | h
    · exact absurd (by decide) hescape
    · obtain rfl := List.mem_singleton.1 h
      rcases hd with rfl | rfl <;> cases he
  · rw [hwrite] at h
    exact absurd (not_brace_of_mem_unitEscape h) hescape
  · rw [hwrite] at h
    rcases List.mem_append.1 h with h | h <;> exact absurd (not_brace_of_mem_unitEscape h) hescape

theorem readString_literal {c : Char} (hc : IsLiteral c) (rest : List Char) :
    readString opened acc (c :: rest) = readString opened (c :: acc) rest := by
  obtain ⟨hquote, hslash, hcontrol⟩ := hc
  rw [readString]
  · rw [if_neg (by omega)]
  · exact hquote
  · exact fun _ h => absurd h hslash
  · exact fun _ _ h => absurd h hslash
  · exact fun h => absurd h hslash

theorem readString_letter {e c : Char} (he : e ≠ 'u') (hescaped : escaped? e = some c)
    (rest : List Char) :
    readString opened acc ('\\' :: e :: rest) = readString opened (c :: acc) rest := by
  rw [readString]
  · rw [hescaped]
  · exact he

/-- The code of a character is that of no surrogate. -/
theorem toNat_valid (c : Char) : c.toNat < 0xd800 ∨ 0xe000 ≤ c.toNat ∧ c.toNat < 0x110000 := by
  have h : c.toNat < 0xd800 ∨ 0xdfff < c.toNat ∧ c.toNat < 0x110000 := c.valid
  omega

/-- **A character is read back from what is written for it.** -/
theorem readString_writeChar (c : Char) {rest : List Char} (hrest : rest ≠ []) :
    readString opened acc (writeChar c ++ rest) = readString opened (c :: acc) rest := by
  have hvalid := toNat_valid c
  rcases writeChar_cases c with ⟨hwrite, hc⟩ | ⟨e, hwrite, he, hescaped⟩ | ⟨hwrite, hcode⟩ | ⟨hwrite, hcode⟩
  · rw [hwrite]
    exact readString_literal hc rest
  · rw [hwrite]
    exact readString_letter he hescaped rest
  · have hchar : charOfCode c.toNat = c := by
      have hhigh : (decide (0xd800 ≤ c.toNat) && decide (c.toNat < 0xe000)) = false := by
        rw [Bool.and_eq_false_iff, decide_eq_false_iff_not, decide_eq_false_iff_not]
        omega
      rw [charOfCode, hhigh]
      exact Char.ofNat_toNat c
    rw [hwrite, readString_unitEscape hcode (by omega) hrest, hchar]
  · have hchar : joinSurrogates (0xd800 + (c.toNat - 0x10000) / 0x400)
        (0xdc00 + (c.toNat - 0x10000) % 0x400) = c := by
      have hsum : 0x10000 + (0xd800 + (c.toNat - 0x10000) / 0x400 - 0xd800) * 0x400
          + (0xdc00 + (c.toNat - 0x10000) % 0x400 - 0xdc00) = c.toNat := by omega
      rw [joinSurrogates, hsum]
      exact Char.ofNat_toNat c
    rw [hwrite, List.append_assoc, readString_surrogates ⟨by omega, by omega⟩ ⟨by omega, by omega⟩ hrest,
      hchar]

/-! ### Strings -/

/-- Characters that are written as they are stay when they are escaped. -/
theorem escape_eq_self : ∀ {cs : List Char}, (∀ c ∈ cs, writeChar c = [c]) → escape cs = cs
  | [], _ => rfl
  | c :: cs, h => by
    have hcs := escape_eq_self fun d hd => h d (List.mem_cons_of_mem c hd)
    rw [escape, List.flatMap_cons, h c List.mem_cons_self]
    exact congrArg (c :: ·) hcs

theorem brace_not_mem_escape {d : Char} (hd : d = '{' ∨ d = '}') {cs : List Char} (h : d ∉ cs) :
    d ∉ escape cs := by
  intro hmem
  obtain ⟨c, hc, hwrite⟩ := List.mem_flatMap.1 hmem
  rw [eq_of_brace_mem_writeChar hd hwrite] at h
  exact h hc

/-- Characters other than quotes and backslashes that an escaped string starts with
are characters that the string starts with. -/
theorem exists_of_escape_append : ∀ {ds cs rest tail : List Char},
    (∀ d ∈ ds, d ≠ '"' ∧ d ≠ '\\') → escape cs ++ '"' :: rest = ds ++ tail →
      ∃ more, cs = ds ++ more ∧ tail = escape more ++ '"' :: rest
  | [], cs, _, _, _, h => ⟨cs, rfl, h.symm⟩
  | d :: ds, [], rest, tail, hds, h => by
    have hd : '"' = d := (List.cons.inj h).1
    exact absurd hd.symm (hds d List.mem_cons_self).1
  | d :: ds, c :: cs, rest, tail, hds, h => by
    have hd := hds d List.mem_cons_self
    rw [escape, List.flatMap_cons, List.append_assoc] at h
    rcases writeChar_head c with hwrite | ⟨more, hwrite⟩
    · rw [hwrite] at h
      obtain ⟨rfl, htail⟩ := List.cons.inj h
      obtain ⟨more, rfl, hmore⟩ := exists_of_escape_append
        (fun e he => hds e (List.mem_cons_of_mem c he)) htail
      exact ⟨more, rfl, hmore⟩
    · rw [hwrite] at h
      exact absurd (List.cons.inj h).1.symm hd.2

/-- What stands between quotes as `raw` is read as the characters `cs`. -/
def ReadsAs (raw cs : List Char) : Prop :=
  ∀ opened acc rest, readString opened acc (raw ++ '"' :: rest)
    = .ok (String.ofList (acc.reverse ++ cs), rest)

theorem ReadsAs.nil : ReadsAs [] [] := by
  intro opened acc rest
  rw [List.nil_append, readString, List.append_nil]

theorem ReadsAs.writeChar {raw cs : List Char} (h : ReadsAs raw cs) (c : Char) :
    ReadsAs (writeChar c ++ raw) (c :: cs) := by
  intro opened acc rest
  rw [List.append_assoc, readString_writeChar c (by simp), h]
  simp

theorem ReadsAs.literal {raw cs : List Char} (h : ReadsAs raw cs) :
    ∀ {ds : List Char}, (∀ d ∈ ds, IsLiteral d) → ReadsAs (ds ++ raw) (ds ++ cs)
  | [], _ => h
  | d :: ds, hds => by
    intro opened acc rest
    have hrest := h.literal fun d hd => hds d (List.mem_cons_of_mem _ hd)
    rw [List.cons_append, List.cons_append, readString_literal (hds d List.mem_cons_self), hrest]
    simp

/-- **A string is read back from its escaped form.** -/
theorem readsAs_escape : ∀ cs : List Char, ReadsAs (escape cs) cs
  | [] => .nil
  | c :: cs => (readsAs_escape cs).writeChar c

end Automation.Json
