/-
# Templates in escaped strings

A string in a JSON text is escaped before its placeholders are rendered. If what
begins like a placeholder in the string has a closing brace in the string, then no
other placeholder begins when it is escaped, and none reaches past its closing quote
(`Template.takePlaceholder_escape`). If moreover no placeholder of the string has a
character that is escaped (`Template.IsEscapable`), then each of them becomes its
value inside the string, and nothing else changes (`Template.filled_escape`).

Whether the string can be read afterwards depends on what was put in: a value goes
in as it is, without escapes. If it is free of quotes, backslashes and control
characters (`Template.TakesLiterals`), then the string is read as the text that it
is rendered to (`Template.readsAs_raw`).

Key definitions: `Template.filled`, `Template.Opens`, `Template.IsEscapable`,
`Template.raw`, `Template.TakesLiterals`.
Key theorems: `Template.takePlaceholder_escape`, `Template.filled_escape`,
`Template.readsAs_raw`.
-/
import Automation.Proofs.Json.Strings
import Automation.Proofs.Template.Cut

namespace Automation.Template

open Json (escape writeChar IsLiteral ReadsAs)
open Text (isBlank isSpace)

variable {b : Bindings} {cs rest : List Char}

/-! ### Rendering characters -/

/-- The characters that those of a template become. -/
def filled (b : Bindings) (cs : List Char) : List Char := (pieces cs).flatMap (·.render b)

theorem render_eq (b : Bindings) (template : String) :
    render b template = String.ofList (filled b template.toList) := rfl

theorem filled_nil (b : Bindings) : filled b [] = [] := by rw [filled, pieces_nil, List.flatMap_nil]

theorem filled_source (b : Bindings) (f : Form) (rest : List Char) :
    filled b (f.source ++ rest) = f.rendered b ++ filled b rest := by
  rw [filled, pieces_of_some (takePlaceholder_source f rest), List.flatMap_cons]
  rfl

theorem filled_cons {c : Char} (h : takePlaceholder (c :: cs) = none) :
    filled b (c :: cs) = c :: filled b cs := by
  rw [filled, pieces_cons h, List.flatMap_cons]
  rfl

/-- A placeholder begins with two opening braces. -/
theorem takePlaceholder_eq_none {c : Char} (h : c ≠ '{' ∨ ∀ d ∈ cs.head?, d ≠ '{') :
    takePlaceholder (c :: cs) = none := by
  cases htaken : takePlaceholder (c :: cs) with
  | none => rfl
  | some taken =>
    obtain ⟨f, -, hsource⟩ := exists_source htaken
    obtain ⟨rfl, rfl⟩ := List.cons.inj hsource
    rcases h with h | h
    · exact absurd rfl h
    · exact absurd rfl (h '{' rfl)

/-- Characters among which no brace opens stay. -/
theorem filled_append : ∀ {ds : List Char}, '{' ∉ ds → filled b (ds ++ cs) = ds ++ filled b cs
  | [], _ => rfl
  | d :: ds, h => by
    have hd : d ≠ '{' := fun hd => h (hd ▸ List.mem_cons_self)
    have hds : '{' ∉ ds := fun hmem => h (List.mem_cons_of_mem d hmem)
    rw [List.cons_append, filled_cons (takePlaceholder_eq_none (.inl hd)), filled_append hds,
      List.cons_append]

/-! ### What begins like a placeholder -/

/-- The characters begin like a placeholder; `inner` follows its dot. -/
def Opens (cs inner : List Char) : Prop :=
  ∃ blanks root, (∀ c ∈ blanks, isBlank c = true)
    ∧ cs = '{' :: '{' :: (blanks ++ (Root.name root ++ '.' :: inner))

/-- Behind all that begins like a placeholder there is a closing brace. -/
def IsClosed (cs : List Char) : Prop :=
  ∀ before after inner, cs = before ++ after → Opens after inner → '}' ∈ inner

theorem IsClosed.append_right {ds : List Char} (h : IsClosed (ds ++ cs)) : IsClosed cs :=
  fun before after inner heq hopens =>
    h (ds ++ before) after inner (by rw [heq, List.append_assoc]) hopens

/-- What ends with a closing brace is closed: no opening reaches to the end. -/
theorem isClosed_of_getLast? (h : cs.getLast? = some '}') : IsClosed cs := by
  rintro before after inner rfl ⟨blanks, root, -, rfl⟩
  cases hinner : inner.getLast? with
  | none =>
    rw [List.getLast?_eq_none_iff] at hinner
    simp [hinner, List.getLast?_append, List.getLast?_cons] at h
  | some c =>
    have hlast : some c = some '}' := by
      simpa [List.getLast?_append, List.getLast?_cons, hinner] using h
    obtain rfl : c = '}' := Option.some.inj hlast
    exact List.mem_of_getLast? hinner

theorem Form.opens (f : Form) (rest : List Char) :
    Opens (f.source ++ rest) (f.body ++ '}' :: '}' :: rest) :=
  ⟨f.blanks, f.root, f.blanks_blank, by simp [source, inner]⟩

/-- The characters up to the dot stand in a string as they are. -/
theorem Opens.exists_opening {inner : List Char} (h : Opens cs inner) :
    ∃ opening, cs = opening ++ inner ∧ (∀ c ∈ opening, c ≠ '"' ∧ c ≠ '\\')
      ∧ ∀ other, Opens (opening ++ other) other := by
  obtain ⟨blanks, root, hblanks, rfl⟩ := h
  refine ⟨'{' :: '{' :: (blanks ++ (root.name ++ ['.'])), by simp, ?_, fun other =>
    ⟨blanks, root, hblanks, by simp⟩⟩
  intro c hc
  have hname : ∀ root : Root, ∀ c ∈ root.name, c ≠ '"' ∧ c ≠ '\\' := by
    rintro (_ | _) <;> simp [Root.name]
  have hblank : isBlank c = true → c ≠ '"' ∧ c ≠ '\\' := by
    intro h
    constructor <;> rintro rfl <;> simp [isBlank, isSpace] at h
  simp only [List.mem_cons, List.mem_append, List.not_mem_nil, or_false] at hc
  rcases hc with rfl | rfl | hc | hc | rfl
  · decide
  · decide
  · exact hblank (hblanks c hc)
  · exact hname root c hc
  · decide

/-- A body and two closing braces make a placeholder of what begins like one. -/
theorem Opens.exists_form {body : List Char} (h : Opens cs (body ++ '}' :: '}' :: rest))
    (hne : body ≠ []) (hbody : '}' ∉ body) : ∃ f : Form, cs = f.source ++ rest := by
  obtain ⟨blanks, root, hblanks, rfl⟩ := h
  exact ⟨⟨blanks, root, body, hblanks, hne, hbody⟩, by simp [Form.source, Form.inner]⟩

/-- Up to the first closing brace there is only one way to cut. -/
theorem eq_of_append_brace {ds es rest' : List Char} (hds : '}' ∉ ds) (hes : '}' ∉ es)
    (h : ds ++ '}' :: rest = es ++ '}' :: rest') : ds = es ∧ rest = rest' := by
  have htake := congrArg (List.takeWhile (· != '}')) h
  rw [List.takeWhile_append_of_pos (bne_brace_of_not_mem hds),
    List.takeWhile_append_of_pos (bne_brace_of_not_mem hes), List.takeWhile_cons_of_neg (by decide),
    List.takeWhile_cons_of_neg (by decide), List.append_nil, List.append_nil] at htake
  subst htake
  exact ⟨rfl, (List.cons.inj (List.append_cancel_left h)).2⟩

/-! ### Placeholders in escaped strings -/

/-- **No placeholder begins in an escaped string where none begins in the string**,
not even one that would end behind the string. -/
theorem takePlaceholder_escape (hclosed : IsClosed cs) (hnone : takePlaceholder cs = none)
    (rest : List Char) : takePlaceholder (escape cs ++ '"' :: rest) = none := by
  cases htaken : takePlaceholder (escape cs ++ '"' :: rest) with
  | none => rfl
  | some taken =>
    exfalso
    obtain ⟨p, after⟩ := taken
    obtain ⟨f, -, hsource⟩ := exists_source htaken
    -- the string itself begins like the placeholder
    obtain ⟨opening, hopening, hplain, hopens⟩ := (f.opens after).exists_opening
    obtain ⟨inner, rfl, hinner⟩ := Json.exists_of_escape_append hplain (hsource.trans hopening)
    obtain ⟨body, more, rfl, hbody⟩ := List.eq_append_cons_of_mem
      (hclosed [] _ inner (List.nil_append _).symm (hopens inner))
    -- and its first closing brace is that of the placeholder
    have hescape : escape (body ++ '}' :: more) ++ '"' :: rest
        = escape body ++ '}' :: (escape more ++ '"' :: rest) := by
      have hbrace : escape ('}' :: more) = '}' :: escape more := rfl
      rw [Json.escape_append, hbrace, List.append_assoc, List.cons_append]
    rw [hescape] at hinner
    obtain ⟨hsame, hrest⟩ := eq_of_append_brace f.not_mem_body
      (Json.brace_not_mem_escape (.inr rfl) hbody) hinner
    obtain ⟨more, rfl, -⟩ := @Json.exists_of_escape_append ['}'] _ _ _ (by simp) hrest.symm
    have hne : body ≠ [] := by
      rintro rfl
      exact f.body_ne_nil hsame
    obtain ⟨g, hg⟩ := (hopens (body ++ '}' :: '}' :: more)).exists_form hne hbody
    rw [List.singleton_append, hg, takePlaceholder_source] at hnone
    cases hnone

/-- What a piece becomes in an escaped string. -/
def Piece.raw (b : Bindings) : Piece → List Char
  | .char c => writeChar c
  | .placeholder p => (Piece.placeholder p).render b

/-- What a string becomes that is escaped first and then rendered. -/
def raw (b : Bindings) (cs : List Char) : List Char := (pieces cs).flatMap (·.raw b)

theorem raw_source (f : Form) : raw b f.source = f.rendered b := by
  rw [raw, pieces_source, List.flatMap_singleton]
  rfl

/-- The string can be escaped before it is rendered: what begins like a placeholder is
closed in it, and its placeholders stay as they are when they are escaped. -/
structure IsEscapable (cs : List Char) : Prop where
  closed : IsClosed cs
  source : ∀ p, .placeholder p ∈ pieces cs → ∀ c ∈ p.source, writeChar c = [c]

/-- What goes into the string may stand in a string as it is. -/
def TakesLiterals (b : Bindings) (cs : List Char) : Prop :=
  ∀ p, .placeholder p ∈ pieces cs →
    ∀ c ∈ ((b.root p.root).at p.path).display.toList, IsLiteral c

theorem Form.eq_of_mem_pieces_source {f : Form} {p : Placeholder}
    (h : .placeholder p ∈ pieces f.source) : p = f.placeholder := by
  simpa [pieces_source] using h

theorem Form.isEscapable_source {f : Form} (h : ∀ c ∈ f.source, writeChar c = [c]) :
    IsEscapable f.source where
  closed := isClosed_of_getLast? (by simp [source, inner, List.getLast?_cons])
  source := fun _ hp => eq_of_mem_pieces_source hp ▸ h

theorem Form.takesLiterals_source {f : Form}
    (h : ∀ c ∈ (f.value b).display.toList, IsLiteral c) : TakesLiterals b f.source :=
  fun _ hp => eq_of_mem_pieces_source hp ▸ h

/-- **An escaped string is rendered by itself**, and its placeholders are those that it
had before. -/
theorem filled_escape (h : IsEscapable cs) (rest : List Char) :
    filled b (escape cs ++ '"' :: rest) = raw b cs ++ filled b ('"' :: rest) := by
  obtain ⟨hclosed, hsource⟩ := h
  unfold raw
  fun_induction pieces cs with
  | case1 cs p rest' htaken _ ih =>
    obtain ⟨f, rfl, rfl⟩ := exists_source htaken
    have hsame : escape f.source = f.source :=
      Json.escape_eq_self (hsource f.placeholder List.mem_cons_self)
    rw [Json.escape_append, hsame, List.append_assoc, filled_source, List.flatMap_cons,
      ih hclosed.append_right fun p hp => hsource p (List.mem_cons_of_mem _ hp), List.append_assoc]
    rfl
  | case2 _ => rfl
  | case3 c rest' hnone ih =>
    have hclosed' : IsClosed ([c] ++ rest') := hclosed
    have hrest := ih hclosed'.append_right
      fun p hp => hsource p (List.mem_cons_of_mem _ hp)
    have hescape : escape (c :: rest') = writeChar c ++ escape rest' := List.flatMap_cons
    rw [List.flatMap_cons, hescape, List.append_assoc, List.append_assoc, ← hrest]
    by_cases hc : c = '{'
    · subst hc
      exact filled_cons (takePlaceholder_escape hclosed hnone rest)
    · refine filled_append fun hmem => hc ?_
      exact (Json.eq_of_brace_mem_writeChar (.inl rfl) hmem).symm

/-- **What the string becomes is read as the text that it is rendered to**, if only
literals go into it. -/
theorem readsAs_raw (h : IsEscapable cs) (hvalue : TakesLiterals b cs) :
    ReadsAs (raw b cs) (filled b cs) := by
  obtain ⟨-, hsource⟩ := h
  unfold TakesLiterals at hvalue
  unfold raw filled
  fun_induction pieces cs with
  | case1 cs p rest' htaken _ ih =>
    have hrest := ih (fun q hq => hvalue q (List.mem_cons_of_mem _ hq))
      fun q hq => hsource q (List.mem_cons_of_mem _ hq)
    refine hrest.literal fun c hc => ?_
    simp only [Piece.raw, Piece.render] at hc
    split at hc
    · exact Json.isLiteral_of_writeChar (hsource p List.mem_cons_self c hc)
    · exact hvalue p List.mem_cons_self c hc
  | case2 _ => exact .nil
  | case3 c rest' hnone ih =>
    have hrest := ih (fun q hq => hvalue q (List.mem_cons_of_mem _ hq))
      fun q hq => hsource q (List.mem_cons_of_mem _ hq)
    exact hrest.writeChar c

end Automation.Template
