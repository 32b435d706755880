/-
# What is written as JSON text is read back

The layout of a JSON text does not depend on how its strings are written, as long as
each of them can be read. So the writer is taken with the way of writing strings left
open (`Json.writeWith`), and what it writes is read as the value with the strings
that are read in their places (`Json.reads`): numbers come back as they
are, and so do the names of the members and their order.

With the escapes that the writer uses this is the round trip: a value whose doubles
are finite and whose objects do not repeat a name is read back from its own text
(`Json.read_render`).

Key definitions: `Json.mapTexts`, `Json.parts`, `Json.writeWith`,
`Json.CanBeRead`, `Json.Reads`.
Key theorems: `Json.readItems_of_reads`, `Json.readMembers_of_reads`, `Json.reads`,
`Json.read_writeWith`, `Json.read_render`.
-/
import Automation.Proofs.Json.Numbers
import Automation.Proofs.Json.Strings

namespace Automation.Json

/-! ### Values and their strings -/

mutual

/-- A value with another text in the place of each text. Names stay. -/
def mapTexts (f : String → String) : Json → Json
  | .null => .null
  | .bool b => .bool b
  | .int n => .int n
  | .float x => .float x
  | .str s => .str (f s)
  | .arr items => .arr (mapItems f items)
  | .obj members => .obj (mapMembers f members)

def mapItems (f : String → String) : List Json → List Json
  | [] => []
  | x :: xs => x.mapTexts f :: mapItems f xs

def mapMembers (f : String → String) : Members → Members
  | [] => []
  | (k, v) :: ms => (k, v.mapTexts f) :: mapMembers f ms

end

mutual

/-- A value and all values inside it. -/
def parts : Json → List Json
  | .arr items => .arr items :: itemParts items
  | .obj members => .obj members :: memberParts members
  | v => [v]

def itemParts : List Json → List Json
  | [] => []
  | x :: xs => x.parts ++ itemParts xs

def memberParts : Members → List Json
  | [] => []
  | (_, v) :: ms => v.parts ++ memberParts ms

end

theorem mem_parts_self (j : Json) : j ∈ j.parts := by
  cases j <;> simp [parts]

theorem mem_itemParts {x : Json} : ∀ {xs : List Json}, x ∈ xs → x ∈ itemParts xs
  | y :: ys, h => by
    rcases List.mem_cons.1 h with rfl | h
    · exact List.mem_append_left _ (mem_parts_self x)
    · exact List.mem_append_right _ (mem_itemParts h)

theorem mem_memberParts {m : String × Json} : ∀ {ms : Members}, m ∈ ms → m.2 ∈ memberParts ms
  | (k, v) :: ms, h => by
    rcases List.mem_cons.1 h with rfl | h
    · exact List.mem_append_left _ (mem_parts_self v)
    · exact List.mem_append_right _ (mem_memberParts h)

mutual

theorem isFinite_of_mem_parts {x : Double} :
    ∀ {j : Json}, j.isFinite = true → .float x ∈ j.parts → x.isFinite = true
  | .null, _, h | .bool _, _, h | .int _, _, h | .str _, _, h => by simp [parts] at h
  | .float y, hfinite, h => by
    obtain rfl : x = y := by simpa [parts] using h
    exact hfinite
  | .arr items, hfinite, h => isFinite_of_mem_itemParts hfinite (by simpa [parts] using h)
  | .obj members, hfinite, h => isFinite_of_mem_memberParts hfinite (by simpa [parts] using h)

theorem isFinite_of_mem_itemParts {x : Double} :
    ∀ {xs : List Json}, areFinite xs = true → .float x ∈ itemParts xs → x.isFinite = true
  | [], _, h => absurd h List.not_mem_nil
  | _ :: _, hfinite, h => by
    obtain ⟨hy, hys⟩ := Bool.and_eq_true_iff.1 hfinite
    rcases List.mem_append.1 h with h | h
    · exact isFinite_of_mem_parts hy h
    · exact isFinite_of_mem_itemParts hys h

theorem isFinite_of_mem_memberParts {x : Double} :
    ∀ {ms : Members}, membersAreFinite ms = true → .float x ∈ memberParts ms → x.isFinite = true
  | [], _, h => absurd h List.not_mem_nil
  | (_, _) :: _, hfinite, h => by
    obtain ⟨hv, hms⟩ := Bool.and_eq_true_iff.1 hfinite
    rcases List.mem_append.1 h with h | h
    · exact isFinite_of_mem_parts hv h
    · exact isFinite_of_mem_memberParts hms h

end

mutual

theorem mapTexts_id : ∀ j : Json, j.mapTexts id = j
  | .null | .bool _ | .int _ | .float _ | .str _ => rfl
  | .arr items => congrArg Json.arr (mapItems_id items)
  | .obj members => congrArg Json.obj (mapMembers_id members)

theorem mapItems_id : ∀ xs : List Json, mapItems id xs = xs
  | [] => rfl
  | x :: xs => by rw [mapItems, mapTexts_id x, mapItems_id xs]

theorem mapMembers_id : ∀ ms : List (String × Json), mapMembers id ms = ms
  | [] => rfl
  | (k, v) :: ms => by rw [mapMembers, mapTexts_id v, mapMembers_id ms]

end

/-! ### Writing with other strings -/

mutual

/-- The text of a value, where `w` writes strings. -/
def writeWith (w : String → List Char) : Json → List Char
  | .null => "null".toList
  | .bool b => (if b then "true" else "false").toList
  | .int n => (toString n).toList
  | .float x => writeDouble x
  | .str s => '"' :: (w s ++ ['"'])
  | .arr [] => ['[', ']']
  | .arr (x :: xs) => '[' :: (writeWith w x ++ writeItemsWith w xs)
  | .obj [] => ['{', '}']
  | .obj ((k, v) :: ms) =>
    '{' :: '"' :: (w k ++ '"' :: ':' :: ' ' :: (writeWith w v ++ writeMembersWith w ms))

def writeItemsWith (w : String → List Char) : List Json → List Char
  | [] => [']']
  | x :: xs => ',' :: ' ' :: (writeWith w x ++ writeItemsWith w xs)

def writeMembersWith (w : String → List Char) : Members → List Char
  | [] => ['}']
  | (k, v) :: ms =>
    ',' :: ' ' :: '"' :: (w k ++ '"' :: ':' :: ' ' :: (writeWith w v ++ writeMembersWith w ms))

end

mutual

/-- The writer escapes strings. -/
theorem writeWith_escape : ∀ j : Json, writeWith (fun s => escape s.toList) j = j.write
  | .null | .bool _ | .int _ | .float _ | .str _ | .arr [] | .obj [] => rfl
  | .arr (x :: xs) => by rw [writeWith, write, writeWith_escape x, writeItemsWith_escape xs]
  | .obj ((k, v) :: ms) => by
    rw [writeWith, write, writeWith_escape v, writeMembersWith_escape ms, writeString_eq]
    simp

theorem writeItemsWith_escape :
    ∀ xs : List Json, writeItemsWith (fun s => escape s.toList) xs = writeItems xs
  | [] => rfl
  | x :: xs => by rw [writeItemsWith, writeItems, writeWith_escape x, writeItemsWith_escape xs]

theorem writeMembersWith_escape :
    ∀ ms : List (String × Json), writeMembersWith (fun s => escape s.toList) ms = writeMembers ms
  | [] => rfl
  | (k, v) :: ms => by
    rw [writeMembersWith, writeMembers, writeWith_escape v, writeMembersWith_escape ms, writeString_eq]
    simp

end

/-! ### Reading -/

theorem writeDouble_finite {x : Double} (h : x.isFinite = true) : writeDouble x = x.toText.toList := by
  cases x with
  | finite => rfl
  | infinite | nan => cases h

/-- What one value asks for: its doubles are finite, its strings are read as `f` has
them, its names as they are, and it has each of them once. -/
def CanBeRead (w : String → List Char) (f : String → String) : Json → Prop
  | .float x => x.isFinite = true
  | .str s => ReadsAs (w s) (f s).toList
  | .obj members =>
    (members.map (·.1)).Nodup ∧ ∀ m ∈ members, ReadsAs (w m.1) m.1.toList
  | _ => True

variable {w : String → List Char} {f : String → String}

/-- The text of a value is read as the value, up to its end. Every character of the
text is worth two calls. -/
def Reads (w : String → List Char) (f : String → String) (j : Json) : Prop :=
  ∀ (fuel : Nat) (rest : List Char), 2 * (writeWith w j).length ≤ fuel → EndsNumber rest →
    readValue fuel (writeWith w j ++ rest) = .ok (j.mapTexts f, rest)

theorem endsNumber_cons {c : Char} (hc : c = ',' ∨ c = ']' ∨ c = '}') (rest : List Char) :
    EndsNumber (c :: rest) := by
  intro d hd
  obtain rfl : c = d := by simpa using hd
  rcases hc with rfl | rfl | rfl <;> decide

theorem skipSpace_cons {c : Char} (hc : isSpace c = false) (rest : List Char) :
    skipSpace (c :: rest) = c :: rest := by
  simp [skipSpace, hc]

/-- A number starts with a digit, perhaps behind a minus. -/
theorem Numeral.text_cases {n : Numeral} (h : n.IsProper) :
    (∃ d ds, n.text = d :: ds ∧ d.isDigit = true)
      ∨ ∃ d ds, n.text = '-' :: d :: ds ∧ d.isDigit = true := by
  obtain ⟨d, ds, hwhole⟩ : ∃ d ds, n.whole = d :: ds := by
    rcases h.whole with hw | ⟨d, ds, hw, -⟩
    · exact ⟨_, _, hw⟩
    · exact ⟨d, ds, hw⟩
  have hd : d.isDigit = true := h.whole_digits d (by simp [hwhole])
  cases hsign : n.negative with
  | true =>
    exact .inr ⟨d, ds ++ (fractionText n.places ++ powerText n.power),
      by simp [text, signText, chars, hsign, hwhole], hd⟩
  | false =>
    exact .inl ⟨d, ds ++ (fractionText n.places ++ powerText n.power),
      by simp [text, signText, chars, hsign, hwhole], hd⟩

theorem readValue_of_digit {fuel : Nat} {d : Char} {ds : List Char} (hd : d.isDigit = true) :
    readValue (fuel + 1) (d :: ds) = readNumber (d :: ds) := by
  have hne : ∀ c : Char, c.isDigit = false → d ≠ c := by
    rintro c hc rfl
    rw [hd] at hc
    cases hc
  unfold readValue
  split
  all_goals first
    | rfl
    | (rename_i heq; exact absurd (List.cons.inj heq).1 (hne _ (by decide)))

theorem readValue_of_minus {fuel : Nat} {d : Char} {ds : List Char} (hd : d.isDigit = true) :
    readValue (fuel + 1) ('-' :: d :: ds) = readNumber ('-' :: d :: ds) := by
  unfold readValue
  split
  all_goals first
    | rfl
    | (rename_i heq; exact absurd (List.cons.inj heq).1 (by decide))
    | (rename_i heq; obtain rfl := (List.cons.inj (List.cons.inj heq).2).1; cases hd)

/-- A number is read as a value. -/
theorem readValue_text {n : Numeral} (h : n.IsProper) {fuel : Nat} {rest : List Char}
    (hrest : EndsNumber rest) : readValue (fuel + 1) (n.text ++ rest) = .ok (n.value, rest) := by
  rw [← readNumber_text h hrest]
  rcases Numeral.text_cases h with ⟨d, ds, htext, hd⟩ | ⟨d, ds, htext, hd⟩
  · rw [htext]
    exact readValue_of_digit hd
  · rw [htext]
    exact readValue_of_minus hd

/-- No value starts with white space or with the end of a list. -/
theorem exists_writeWith_eq_cons {j : Json} (h : CanBeRead w f j) :
    ∃ c cs, writeWith w j = c :: cs ∧ isSpace c = false ∧ c ≠ ']' := by
  have hdigit : ∀ d : Char, d.isDigit = true → isSpace d = false ∧ d ≠ ']' := by
    intro d hd
    refine ⟨?_, by rintro rfl; cases hd⟩
    rw [Bool.eq_false_iff]
    intro hspace
    rcases (by simpa [isSpace] using hspace : ((d = ' ' ∨ d = '\t') ∨ d = '\n') ∨ d = '\r')
      with ((rfl | rfl) | rfl) | rfl <;> cases hd
  have hnumber : ∀ {n : Numeral}, n.IsProper →
      ∃ c cs, n.text = c :: cs ∧ isSpace c = false ∧ c ≠ ']' := by
    intro n hn
    rcases Numeral.text_cases hn with ⟨d, ds, htext, hd⟩ | ⟨d, ds, htext, -⟩
    · exact ⟨d, ds, htext, hdigit d hd⟩
    · exact ⟨'-', d :: ds, htext, by decide, by decide⟩
  cases j with
  | null | str => exact ⟨_, _, rfl, by decide, by decide⟩
  | bool b => cases b <;> exact ⟨_, _, rfl, by decide, by decide⟩
  | int n =>
    obtain ⟨numeral, hproper, htext, -⟩ := exists_numeral_int n
    rw [writeWith, htext]
    exact hnumber hproper
  | float x =>
    obtain ⟨numeral, hproper, htext, -⟩ := Double.exists_numeral x h
    rw [writeWith, writeDouble_finite h, htext]
    exact hnumber hproper
  | arr items => cases items <;> exact ⟨_, _, rfl, by decide, by decide⟩
  | obj members => cases members <;> exact ⟨_, _, rfl, by decide, by decide⟩

theorem skipSpace_writeWith {j : Json} (h : CanBeRead w f j) (rest : List Char) :
    skipSpace (writeWith w j ++ rest) = writeWith w j ++ rest := by
  obtain ⟨c, cs, hwrite, hspace, -⟩ := exists_writeWith_eq_cons h
  rw [hwrite]
  exact skipSpace_cons hspace _

/-! ### Lists -/

theorem readItems_of_reads (x : Json) (xs : List Json) (hparts : ∀ v ∈ x :: xs, CanBeRead w f v)
    (hreads : ∀ v ∈ x :: xs, Reads w f v) (fuel : Nat) (acc : List Json) (rest : List Char)
    (hfuel : 2 * (writeWith w x ++ writeItemsWith w xs).length + 1 ≤ fuel) :
    readItems fuel acc (writeWith w x ++ (writeItemsWith w xs ++ rest))
      = .ok (.arr (acc.reverse ++ mapItems f (x :: xs)), rest) := by
  induction xs generalizing x fuel acc with
  | nil =>
    obtain ⟨fuel, rfl⟩ : ∃ k, fuel = k + 1 := ⟨fuel - 1, by omega⟩
    have hvalue := hreads x List.mem_cons_self fuel (']' :: rest)
      (by simp at hfuel; omega) (endsNumber_cons (by simp) _)
    rw [readItems, writeItemsWith, List.singleton_append, hvalue]
    simp [bind, Except.bind, skipSpace, isSpace, mapItems]
  | cons y ys ih =>
    obtain ⟨fuel, rfl⟩ : ∃ k, fuel = k + 1 := ⟨fuel - 1, by omega⟩
    simp only [writeItemsWith, List.length_append, List.length_cons] at hfuel
    have hvalue := hreads x List.mem_cons_self fuel
      (',' :: ' ' :: (writeWith w y ++ (writeItemsWith w ys ++ rest)))
      (by omega) (endsNumber_cons (by simp) _)
    have hrest := ih y (fun v hv => hparts v (List.mem_cons_of_mem x hv))
      (fun v hv => hreads v (List.mem_cons_of_mem x hv)) fuel (x.mapTexts f :: acc)
      (by simp only [List.length_append]; omega)
    have hspace : skipSpace (' ' :: (writeWith w y ++ (writeItemsWith w ys ++ rest)))
        = writeWith w y ++ (writeItemsWith w ys ++ rest) :=
      skipSpace_writeWith (hparts y (by simp)) _
    have hcomma : skipSpace (',' :: ' ' :: (writeWith w y ++ (writeItemsWith w ys ++ rest)))
        = ',' :: ' ' :: (writeWith w y ++ (writeItemsWith w ys ++ rest)) := skipSpace_cons (by decide) _
    rw [readItems, writeItemsWith]
    simp only [List.cons_append, List.append_assoc, hvalue, hcomma, hspace, hrest, bind, Except.bind]
    simp [mapItems]

/-! ### Objects -/

/-- A new member goes to the end. -/
theorem put_of_not_mem {key : String} (value : Json) :
    ∀ {ms : Members}, key ∉ ms.map (·.1) → ms.put key value = ms ++ [(key, value)]
  | [], _ => rfl
  | (k, v) :: ms, h => by
    have hk : (k == key) = false := by
      rw [beq_eq_false_iff_ne]
      rintro rfl
      exact h List.mem_cons_self
    have hms := put_of_not_mem value fun hmem => h (List.mem_cons_of_mem k hmem)
    simp [Members.put, hk, hms]

section Member

variable {k : String} {v : Json} {acc : Members} {fuel : Nat} (hpart : CanBeRead w f v)
  (hread : Reads w f v) (hname : ReadsAs (w k) k.toList) (hnew : k ∉ acc.map (·.1))
  (hfuel : 2 * (writeWith w v).length ≤ fuel)

include hname in
theorem readString_name (opened : Nat) (rest : List Char) :
    readString opened [] (w k ++ '"' :: rest) = .ok (k, rest) := by
  rw [hname]
  simp

include hpart hread hname hnew hfuel

/-- The last member is read up to what follows the object. -/
theorem readMembers_last (rest : List Char) :
    readMembers (fuel + 1) acc ('"' :: (w k ++ '"' :: ':' :: ' ' :: (writeWith w v ++ '}' :: rest)))
      = .ok (.obj (acc ++ [(k, v.mapTexts f)]), rest) := by
  have hspace : skipSpace (' ' :: (writeWith w v ++ '}' :: rest)) = writeWith w v ++ '}' :: rest :=
    skipSpace_writeWith hpart _
  have hvalue := hread fuel ('}' :: rest) hfuel (endsNumber_cons (by simp) _)
  rw [readMembers]
  simp only [readString_name hname, skipSpace_cons (show isSpace ':' = false from rfl),
    skipSpace_cons (show isSpace '}' = false from rfl), hspace, hvalue, put_of_not_mem _ hnew, bind,
    Except.bind]

/-- Any other member is read up to the next one. -/
theorem readMembers_next (rest : List Char) :
    readMembers (fuel + 1) acc
        ('"' :: (w k ++ '"' :: ':' :: ' ' :: (writeWith w v ++ ',' :: ' ' :: '"' :: rest)))
      = readMembers fuel (acc ++ [(k, v.mapTexts f)]) ('"' :: rest) := by
  have hspace : skipSpace (' ' :: (writeWith w v ++ ',' :: ' ' :: '"' :: rest))
      = writeWith w v ++ ',' :: ' ' :: '"' :: rest := skipSpace_writeWith hpart _
  have hquote : skipSpace (' ' :: '"' :: rest) = '"' :: rest := rfl
  have hvalue := hread fuel (',' :: ' ' :: '"' :: rest) hfuel (endsNumber_cons (by simp) _)
  rw [readMembers]
  simp only [readString_name hname, skipSpace_cons (show isSpace ':' = false from rfl),
    skipSpace_cons (show isSpace ',' = false from rfl), hspace, hquote, hvalue, put_of_not_mem _ hnew,
    bind, Except.bind]

end Member

theorem readMembers_of_reads (k : String) (v : Json) (ms : Members)
    (hparts : ∀ m ∈ (k, v) :: ms, CanBeRead w f m.2) (hreads : ∀ m ∈ (k, v) :: ms, Reads w f m.2)
    (hnames : ∀ m ∈ (k, v) :: ms, ReadsAs (w m.1) m.1.toList) (fuel : Nat) (acc : Members)
    (rest : List Char) (hdistinct : (acc.map (·.1) ++ ((k, v) :: ms).map (·.1)).Nodup)
    (hfuel : 2 * (writeWith w v ++ writeMembersWith w ms).length + 1 ≤ fuel) :
    readMembers fuel acc
        ('"' :: (w k ++ '"' :: ':' :: ' ' :: (writeWith w v ++ (writeMembersWith w ms ++ rest))))
      = .ok (.obj (acc ++ mapMembers f ((k, v) :: ms)), rest) := by
  obtain ⟨fuel, rfl⟩ : ∃ k, fuel = k + 1 := ⟨fuel - 1, by omega⟩
  have hpart : CanBeRead w f v := hparts (k, v) List.mem_cons_self
  have hread : Reads w f v := hreads (k, v) List.mem_cons_self
  have hname : ReadsAs (w k) k.toList := hnames (k, v) List.mem_cons_self
  have hnew : k ∉ acc.map (·.1) := fun hmem =>
    (List.nodup_append.1 hdistinct).2.2 k hmem k List.mem_cons_self rfl
  rw [List.length_append] at hfuel
  have hlength : 2 * (writeWith w v).length ≤ fuel := by omega
  cases ms with
  | nil =>
    have hlast := readMembers_last hpart hread hname hnew hlength rest
    rw [writeMembersWith, List.singleton_append, hlast]
    simp [mapMembers]
  | cons m ms =>
    obtain ⟨k', v'⟩ := m
    simp only [writeMembersWith, List.length_append, List.length_cons] at hfuel
    have hnext := readMembers_next hpart hread hname hnew hlength
      (w k' ++ '"' :: ':' :: ' ' :: (writeWith w v' ++ (writeMembersWith w ms ++ rest)))
    have hrest := readMembers_of_reads k' v' ms (fun m hm => hparts m (List.mem_cons_of_mem _ hm))
      (fun m hm => hreads m (List.mem_cons_of_mem _ hm))
      (fun m hm => hnames m (List.mem_cons_of_mem _ hm)) fuel
      (acc ++ [(k, v.mapTexts f)]) rest (by simpa using hdistinct)
      (by simp only [List.length_append]; omega)
    simp only [writeMembersWith, List.cons_append, List.append_assoc]
    rw [hnext, hrest]
    simp [mapMembers]

/-! ### Values -/

theorem reads_number {j : Json} {n : Numeral} (hproper : n.IsProper)
    (htext : writeWith w j = n.text) (hvalue : n.value = j.mapTexts f) : Reads w f j := by
  intro fuel rest hfuel hrest
  obtain ⟨c, cs, hcons⟩ : ∃ c cs, n.text = c :: cs := by
    rcases Numeral.text_cases hproper with ⟨d, ds, h, -⟩ | ⟨d, ds, h, -⟩ <;> exact ⟨_, _, h⟩
  rw [htext, hcons, List.length_cons] at hfuel
  obtain ⟨fuel, rfl⟩ : ∃ k, fuel = k + 1 := ⟨fuel - 1, by omega⟩
  rw [htext, readValue_text hproper hrest, hvalue]

theorem reads_str {s : String} (h : ReadsAs (w s) (f s).toList) : Reads w f (.str s) := by
  intro fuel rest hfuel hrest
  rw [writeWith, List.length_cons] at hfuel
  obtain ⟨fuel, rfl⟩ : ∃ k, fuel = k + 1 := ⟨fuel - 1, by omega⟩
  rw [writeWith, List.cons_append, List.append_assoc, List.singleton_append, readValue, h]
  simp [mapTexts, Except.map]

theorem reads_arr {items : List Json} (hparts : ∀ v ∈ items, CanBeRead w f v)
    (hreads : ∀ v ∈ items, Reads w f v) : Reads w f (.arr items) := by
  intro fuel rest hfuel hrest
  cases items with
  | nil =>
    obtain ⟨fuel, rfl⟩ : ∃ k, fuel = k + 1 := ⟨fuel - 1, by simp [writeWith] at hfuel; omega⟩
    rfl
  | cons x xs =>
    rw [writeWith, List.length_cons] at hfuel
    obtain ⟨fuel, rfl⟩ : ∃ k, fuel = k + 1 := ⟨fuel - 1, by omega⟩
    have hpart := hparts x List.mem_cons_self
    have hspace := skipSpace_writeWith hpart (writeItemsWith w xs ++ rest)
    have hitems := readItems_of_reads x xs hparts hreads fuel [] rest (by omega)
    obtain ⟨c, cs, hwrite, -, hend⟩ := exists_writeWith_eq_cons hpart
    rw [writeWith, List.cons_append, List.append_assoc, readValue, hspace]
    rw [hwrite, List.cons_append] at hitems ⊢
    split
    · rename_i heq
      exact absurd (List.cons.inj heq).1 hend
    · rw [hitems]
      rfl

theorem reads_obj {members : Members} (h : CanBeRead w f (.obj members))
    (hparts : ∀ m ∈ members, CanBeRead w f m.2) (hreads : ∀ m ∈ members, Reads w f m.2) :
    Reads w f (.obj members) := by
  intro fuel rest hfuel hrest
  cases members with
  | nil =>
    obtain ⟨fuel, rfl⟩ : ∃ k, fuel = k + 1 := ⟨fuel - 1, by simp [writeWith] at hfuel; omega⟩
    rfl
  | cons m ms =>
    obtain ⟨k, v⟩ := m
    simp only [writeWith, List.length_cons, List.length_append] at hfuel
    obtain ⟨fuel, rfl⟩ : ∃ k, fuel = k + 1 := ⟨fuel - 1, by omega⟩
    have hmembers := readMembers_of_reads k v ms hparts hreads h.2 fuel [] rest
      (by simpa using h.1) (by rw [List.length_append]; omega)
    rw [writeWith, List.cons_append, List.cons_append, List.append_assoc, List.cons_append,
      List.cons_append, List.cons_append, List.append_assoc, readValue, skipSpace_cons (by decide)]
    exact hmembers

theorem reads_null : Reads w f .null := by
  intro fuel rest hfuel hrest
  obtain ⟨fuel, rfl⟩ : ∃ k, fuel = k + 1 := ⟨fuel - 1, by simp [writeWith] at hfuel; omega⟩
  rfl

theorem reads_bool (b : Bool) : Reads w f (.bool b) := by
  intro fuel rest hfuel hrest
  obtain ⟨fuel, rfl⟩ : ∃ k, fuel = k + 1 := ⟨fuel - 1, by cases b <;> simp [writeWith] at hfuel <;> omega⟩
  cases b <;> rfl

mutual

/-- **What is written is read back**, whatever way of writing strings is taken that
can be read. -/
theorem reads : ∀ j : Json, (∀ v ∈ j.parts, CanBeRead w f v) → Reads w f j
  | .null, _ => reads_null
  | .bool b, _ => reads_bool b
  | .int n, _ => by
    obtain ⟨numeral, hproper, htext, hvalue⟩ := exists_numeral_int n
    exact reads_number hproper htext hvalue
  | .float x, h => by
    have hx : x.isFinite = true := h (.float x) (by simp [parts])
    obtain ⟨numeral, hproper, htext, hvalue⟩ := Double.exists_numeral x hx
    exact reads_number hproper ((writeDouble_finite hx).trans htext) hvalue
  | .str s, h => reads_str (h (.str s) (by simp [parts]))
  | .arr items, h => by
    have hitems : ∀ v ∈ itemParts items, CanBeRead w f v :=
      fun v hv => h v (List.mem_cons_of_mem _ hv)
    exact reads_arr (fun v hv => hitems v (mem_itemParts hv)) (reads_items items hitems)
  | .obj members, h => by
    have hmembers : ∀ v ∈ memberParts members, CanBeRead w f v :=
      fun v hv => h v (List.mem_cons_of_mem _ hv)
    exact reads_obj (h _ List.mem_cons_self) (fun m hm => hmembers m.2 (mem_memberParts hm))
      (reads_members members hmembers)

theorem reads_items : ∀ xs : List Json, (∀ v ∈ itemParts xs, CanBeRead w f v) →
    ∀ x ∈ xs, Reads w f x
  | [], _, _, hx => absurd hx List.not_mem_nil
  | y :: ys, h, x, hx => by
    have hy : Reads w f y := reads y fun v hv => h v (List.mem_append_left _ hv)
    rcases List.mem_cons.1 hx with rfl | hx
    · exact hy
    · exact reads_items ys (fun v hv => h v (List.mem_append_right _ hv)) x hx

theorem reads_members : ∀ ms : Members, (∀ v ∈ memberParts ms, CanBeRead w f v) →
    ∀ m ∈ ms, Reads w f m.2
  | [], _, _, hm => absurd hm List.not_mem_nil
  | (k, v) :: ms, h, m, hm => by
    have hv : Reads w f v := reads v fun u hu => h u (List.mem_append_left _ hu)
    rcases List.mem_cons.1 hm with rfl | hm
    · exact hv
    · exact reads_members ms (fun u hu => h u (List.mem_append_right _ hu)) m hm

end

/-! ### Whole texts -/

/-- The text of a value, with another way of writing strings, is read as the value. -/
theorem read_writeWith {j : Json} (h : ∀ v ∈ j.parts, CanBeRead w f v) :
    read (String.ofList (writeWith w j)) = .ok (j.mapTexts f) := by
  have hspace := skipSpace_writeWith (h j (mem_parts_self j)) []
  have hvalue := reads j h (2 * (writeWith w j).length + 2) [] (by omega) (by simp [EndsNumber])
  rw [List.append_nil] at hspace hvalue
  simp only [read, String.toList_ofList, hspace, hvalue]
  rfl

/-- **A value is read back from its own text.** -/
theorem read_render {j : Json} (hfinite : j.isFinite = true)
    (hdistinct : ∀ ms, .obj ms ∈ j.parts → (ms.map (·.1)).Nodup) : read j.render = .ok j := by
  have hparts : ∀ v ∈ j.parts, CanBeRead (fun s => escape s.toList) id v := by
    intro v hv
    cases v with
    | null | bool | int | arr => trivial
    | float x => exact isFinite_of_mem_parts hfinite hv
    | str s => exact readsAs_escape s.toList
    | obj members => exact ⟨hdistinct members hv, fun m _ => readsAs_escape m.1.toList⟩
  rw [render, ← writeWith_escape, read_writeWith hparts, mapTexts_id]

end Automation.Json
