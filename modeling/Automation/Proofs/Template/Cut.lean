/-
# How a template is cut

What a placeholder looks like is told by its parts alone (`Template.Form`): two
opening braces, blanks, a root, a dot, a body without a closing brace, and two
closing braces. A cut of a template is texts and placeholders in turn, and it is
the leftmost one if no placeholder begins inside one of its texts, wherever that
placeholder would end (`Template.Leftmost`).

Every template has exactly one leftmost cut, and rendering follows it: the texts
stay, and each placeholder becomes the text of its value, or stays if there is
none (`Template.render_leftmost`). The cut does not depend on the values, so what
is put in for a placeholder is not looked at again.

Key definitions: `Template.Form`, `Template.Bare`, `Template.Cut`,
`Template.Leftmost`.
Key theorems: `Template.takePlaceholder_eq_some_iff`, `Template.exists_leftmost`,
`Template.Leftmost.unique`, `Template.render_leftmost`.
-/
import Automation.Template
import Mathlib

namespace Automation

/-- The name of a root. -/
def Root.name : Root → List Char
  | .data => ['d', 'a', 't', 'a']
  | .context => ['c', 'o', 'n', 't', 'e', 'x', 't']

namespace Template

open Text (isBlank trimmed)

/-! ### Placeholders by their shape -/

/-- The parts that a placeholder is written of. -/
structure Form where
  blanks : List Char
  root : Root
  body : List Char
  blanks_blank : ∀ c ∈ blanks, isBlank c = true
  body_ne_nil : body ≠ []
  /-- So the placeholder ends at the first closing brace after the dot. -/
  not_mem_body : '}' ∉ body

namespace Form

/-- What follows the blanks of a placeholder. -/
def inner (f : Form) : List Char := f.root.name ++ '.' :: (f.body ++ ['}', '}'])

/-- How the placeholder is written. -/
def source (f : Form) : List Char := '{' :: '{' :: (f.blanks ++ f.inner)

/-- The path that the placeholder names: blanks at its ends do not count. -/
def path (f : Form) : String := trimmed (String.ofList f.body)

/-- The value that the placeholder names; null if there is none. -/
def value (f : Form) (bindings : Bindings) : Json := (bindings.root f.root).at f.path

/-- The characters that the placeholder becomes: the text of its value, or what
is written if there is no value. -/
def rendered (f : Form) (bindings : Bindings) : List Char :=
  if (f.value bindings).isNull then f.source else (f.value bindings).display.toList

def placeholder (f : Form) : Placeholder := ⟨f.root, f.path, f.source⟩

theorem render_placeholder (f : Form) (bindings : Bindings) :
    (Piece.placeholder f.placeholder).render bindings = f.rendered bindings := rfl

theorem source_ne_nil (f : Form) : f.source ≠ [] := List.cons_ne_nil _ _

end Form

theorem takeRoot_name (root : Root) (rest : List Char) :
    takeRoot (root.name ++ '.' :: rest) = some (root, rest) := by
  cases root <;> rfl

theorem eq_of_takeRoot {cs rest : List Char} {root : Root} (h : takeRoot cs = some (root, rest)) :
    cs = root.name ++ '.' :: rest := by
  unfold takeRoot at h
  split at h
  · cases h
    rfl
  · cases h
    rfl
  · cases h

/-- No root starts with a blank. -/
theorem dropWhile_name (root : Root) (rest : List Char) :
    (root.name ++ rest).dropWhile isBlank = root.name ++ rest := by
  cases root
  · exact List.dropWhile_cons_of_neg (by decide)
  · exact List.dropWhile_cons_of_neg (by decide)

theorem bne_brace_of_not_mem {cs : List Char} (h : '}' ∉ cs) : ∀ c ∈ cs, (c != '}') = true := by
  intro c hc
  rw [bne_iff_ne]
  rintro rfl
  exact h hc

/-- A placeholder that is written is taken. -/
theorem takePlaceholder_source (f : Form) (rest : List Char) :
    takePlaceholder (f.source ++ rest) = some (f.placeholder, rest) := by
  have hbody := bne_brace_of_not_mem f.not_mem_body
  have hblanks : (f.blanks ++ (f.inner ++ rest)).dropWhile isBlank = f.inner ++ rest := by
    rw [List.dropWhile_append_of_pos f.blanks_blank, Form.inner, List.append_assoc, dropWhile_name]
  have hroot : takeRoot (f.inner ++ rest) = some (f.root, f.body ++ '}' :: '}' :: rest) := by
    have hinner : f.inner ++ rest = f.root.name ++ '.' :: (f.body ++ '}' :: '}' :: rest) := by
      simp [Form.inner]
    rw [hinner, takeRoot_name]
  have htake : (f.body ++ '}' :: '}' :: rest).takeWhile (· != '}') = f.body := by
    rw [List.takeWhile_append_of_pos hbody, List.takeWhile_cons_of_neg (by decide), List.append_nil]
  have hdrop : (f.body ++ '}' :: '}' :: rest).dropWhile (· != '}') = '}' :: '}' :: rest := by
    rw [List.dropWhile_append_of_pos hbody, List.dropWhile_cons_of_neg (by decide)]
  have hsize : (f.blanks ++ (f.inner ++ rest)).length + 2 - rest.length = f.source.length := by
    simp only [Form.source, List.length_append, List.length_cons]
    omega
  have hsource : f.source ++ rest = '{' :: '{' :: (f.blanks ++ (f.inner ++ rest)) := by
    simp [Form.source]
  have htaken : ('{' :: '{' :: (f.blanks ++ (f.inner ++ rest))).take f.source.length = f.source := by
    rw [← hsource, List.take_left]
  have hempty : f.body.isEmpty = false := by simpa using f.body_ne_nil
  rw [hsource]
  simp only [takePlaceholder, hblanks, hroot, htake, hdrop, hempty, hsize, htaken]
  rfl

/-- What is taken is a placeholder that is written. -/
theorem exists_source {cs rest : List Char} {p : Placeholder}
    (h : takePlaceholder cs = some (p, rest)) : ∃ f : Form, f.placeholder = p ∧ cs = f.source ++ rest := by
  -- it is enough to find the form: what is taken of it is known
  suffices hform : ∃ (f : Form) (after : List Char), cs = f.source ++ after by
    obtain ⟨f, after, rfl⟩ := hform
    rw [takePlaceholder_source] at h
    cases h
    exact ⟨f, rfl, rfl⟩
  unfold takePlaceholder at h
  split at h
  · rename_i tail
    split at h
    · cases h
    · rename_i root inner hroot
      simp only at h
      split at h
      · rename_i after hafter
        split at h
        · cases h
        · rename_i hempty
          have htail := List.takeWhile_append_dropWhile (p := isBlank) (l := tail)
          have hinner := List.takeWhile_append_dropWhile (p := (· != '}')) (l := inner)
          rw [hafter] at hinner
          refine ⟨⟨tail.takeWhile isBlank, root, inner.takeWhile (· != '}'),
            fun c hc => (List.mem_takeWhile_imp hc), by simpa using hempty, fun hmem => ?_⟩, after, ?_⟩
          · have hne := List.mem_takeWhile_imp hmem
            exact absurd hne (by decide)
          · calc '{' :: '{' :: tail
                = '{' :: '{' :: (tail.takeWhile isBlank ++ tail.dropWhile isBlank) := by rw [htail]
              _ = '{' :: '{' :: (tail.takeWhile isBlank ++ (root.name ++ '.' :: inner)) := by
                  rw [eq_of_takeRoot hroot]
              _ = '{' :: '{' :: (tail.takeWhile isBlank
                    ++ (root.name ++ '.' :: (inner.takeWhile (· != '}') ++ '}' :: '}' :: after))) := by
                  rw [hinner]
              _ = _ := by simp [Form.source, Form.inner]
      · cases h
  · cases h

theorem takePlaceholder_eq_some_iff {cs rest : List Char} {p : Placeholder} :
    takePlaceholder cs = some (p, rest) ↔ ∃ f : Form, f.placeholder = p ∧ cs = f.source ++ rest := by
  constructor
  · exact exists_source
  · rintro ⟨f, rfl, rfl⟩
    exact takePlaceholder_source f rest

/-- At one place at most one placeholder begins. -/
theorem Form.eq_of_append {f g : Form} {rest rest' : List Char}
    (h : f.source ++ rest = g.source ++ rest') : f = g ∧ rest = rest' := by
  have htaken := takePlaceholder_source f rest
  rw [h, takePlaceholder_source] at htaken
  obtain ⟨hplaceholder, rfl⟩ := Prod.mk.inj (Option.some.inj htaken)
  refine ⟨?_, rfl⟩
  have hroot : g.root = f.root := congrArg Placeholder.root hplaceholder
  have hsource : g.source = f.source := congrArg Placeholder.source hplaceholder
  obtain ⟨blanks, root, body, hblanks, hne, hmem⟩ := f
  obtain ⟨blanks', root', body', hblanks', hne', hmem'⟩ := g
  obtain rfl : root' = root := hroot
  have hall : blanks' ++ (root'.name ++ '.' :: (body' ++ ['}', '}']))
      = blanks ++ (root'.name ++ '.' :: (body ++ ['}', '}'])) := (List.cons.inj (List.cons.inj hsource).2).2
  have hinner := congrArg (List.dropWhile isBlank) hall
  rw [List.dropWhile_append_of_pos hblanks, List.dropWhile_append_of_pos hblanks',
    dropWhile_name, dropWhile_name] at hinner
  have hbody : body' = body := by simpa using hinner
  subst hbody
  have hblanks : blanks' = blanks := by simpa using hall
  subst hblanks
  rfl

/-! ### Cuts -/

theorem pieces_of_some {cs rest : List Char} {p : Placeholder}
    (h : takePlaceholder cs = some (p, rest)) : pieces cs = .placeholder p :: pieces rest := by
  rw [pieces]
  split
  · rename_i h'
    rw [h] at h'
    cases h'
    rfl
  · rename_i h'
    rw [h] at h'
    cases h'

theorem pieces_nil : pieces [] = [] := by
  rw [pieces]
  rfl

/-- The characters of a placeholder are that placeholder and nothing else. -/
theorem pieces_source (f : Form) : pieces f.source = [.placeholder f.placeholder] := by
  have htaken : takePlaceholder f.source = some (f.placeholder, []) := by
    simpa using takePlaceholder_source f []
  rw [pieces_of_some htaken, pieces_nil]

theorem pieces_cons {c : Char} {rest : List Char} (h : takePlaceholder (c :: rest) = none) :
    pieces (c :: rest) = .char c :: pieces rest := by
  rw [pieces]
  split
  · rename_i h'
    rw [h] at h'
    cases h'
  · rfl

/-- No placeholder begins in a text that `rest` follows. -/
def Bare (text rest : List Char) : Prop :=
  ∀ before after, text = before ++ after → after ≠ [] →
    ∀ (f : Form) (tail : List Char), after ++ rest ≠ f.source ++ tail

/-- A template in parts: texts, each before a placeholder, and a last text. -/
structure Cut where
  parts : List (List Char × Form)
  last : List Char

/-- `Leftmost cs cut`: the characters `cs` are cut from the left into the
placeholders of `cut` and the texts between them. -/
inductive Leftmost : List Char → Cut → Prop where
  | last {text : List Char} : Bare text [] → Leftmost text ⟨[], text⟩
  | placeholder {text rest : List Char} {f : Form} {cut : Cut} : Bare text (f.source ++ rest) →
      Leftmost rest cut → Leftmost (text ++ (f.source ++ rest)) ⟨(text, f) :: cut.parts, cut.last⟩

namespace Cut

/-- The placeholders of a cut, from the left. -/
def forms (cut : Cut) : List Form := cut.parts.map (·.2)

/-- The characters that a cut becomes. -/
def rendered (cut : Cut) (bindings : Bindings) : List Char :=
  (cut.parts.flatMap fun part => part.1 ++ part.2.rendered bindings) ++ cut.last

/-- A cut with one more character before it. -/
def push (c : Char) : Cut → Cut
  | ⟨[], last⟩ => ⟨[], c :: last⟩
  | ⟨(text, f) :: parts, last⟩ => ⟨(c :: text, f) :: parts, last⟩

theorem rendered_push (c : Char) (cut : Cut) (bindings : Bindings) :
    (cut.push c).rendered bindings = c :: cut.rendered bindings := by
  obtain ⟨parts, last⟩ := cut
  cases parts with
  | nil => rfl
  | cons part parts => simp [push, rendered]

end Cut

theorem Bare.nil (rest : List Char) : Bare [] rest := by
  intro before after h hafter
  exact absurd (List.append_eq_nil_iff.1 h.symm).2 hafter

/-- A text stays bare with a character before it at which no placeholder begins. -/
theorem Bare.cons {c : Char} {text rest : List Char} (h : Bare text rest)
    (hc : takePlaceholder (c :: (text ++ rest)) = none) : Bare (c :: text) rest := by
  intro before after hsplit hafter f tail heq
  cases before with
  | nil =>
    obtain rfl : c :: text = after := hsplit
    rw [← List.cons_append, heq, takePlaceholder_source] at hc
    cases hc
  | cons b before => exact h before after (List.cons.inj hsplit).2 hafter f tail heq

theorem Leftmost.push {c : Char} {cs : List Char} {cut : Cut} (h : Leftmost cs cut)
    (hc : takePlaceholder (c :: cs) = none) : Leftmost (c :: cs) (cut.push c) := by
  cases h with
  | last hbare => exact .last (hbare.cons (by simpa using hc))
  | placeholder hbare hrest => exact .placeholder (hbare.cons hc) hrest

/-- Every template has a leftmost cut, and its pieces are rendered as the cut is. -/
theorem exists_leftmost (cs : List Char) : ∃ cut, Leftmost cs cut ∧
    ∀ bindings : Bindings, (pieces cs).flatMap (·.render bindings) = cut.rendered bindings := by
  fun_induction pieces cs with
  | case1 cs p rest htaken _ ih =>
    obtain ⟨f, rfl, rfl⟩ := exists_source htaken
    obtain ⟨cut, hcut, hrendered⟩ := ih
    refine ⟨_, .placeholder (.nil _) hcut, fun bindings => ?_⟩
    rw [List.flatMap_cons, Form.render_placeholder, hrendered]
    simp [Cut.rendered]
  | case2 _ => exact ⟨_, .last (.nil _), fun _ => rfl⟩
  | case3 c rest hnone ih =>
    obtain ⟨cut, hcut, hrendered⟩ := ih
    refine ⟨cut.push c, hcut.push hnone, fun bindings => ?_⟩
    rw [List.flatMap_cons, hrendered, Cut.rendered_push]
    rfl

/-- In a bare text no placeholder begins. -/
theorem Bare.append_ne {text more rest tail : List Char} {f : Form} (h : Bare (text ++ more) rest)
    (hmore : more ≠ []) : f.source ++ tail ≠ more ++ rest :=
  fun heq => h text more rfl hmore f tail heq.symm

/-- **A template has only one leftmost cut.** -/
theorem Leftmost.unique {cs : List Char} {cut other : Cut} (h : Leftmost cs cut)
    (h' : Leftmost cs other) : cut = other := by
  induction h generalizing other with
  | @last text hbare =>
    generalize hcs : text = cs at h'
    cases h' with
    | last _ => rfl
    | @placeholder text' rest' f' cut' _ _ =>
      subst hcs
      have hne : f'.source ++ rest' ≠ [] := List.append_ne_nil_of_left_ne_nil f'.source_ne_nil _
      exact absurd (List.append_nil _).symm (hbare.append_ne hne)
  | @placeholder text rest f cut hbare _ ih =>
    generalize hcs : text ++ (f.source ++ rest) = cs at h'
    cases h' with
    | last hbare' =>
      subst hcs
      have hne : f.source ++ rest ≠ [] := List.append_ne_nil_of_left_ne_nil f.source_ne_nil _
      exact absurd (List.append_nil _).symm (hbare'.append_ne hne)
    | @placeholder text' rest' f' cut' hbare' hrest' =>
      -- the text that ends first ends where the placeholder of the other begins
      have htext : text = text' := by
        rcases List.append_eq_append_iff.1 hcs with ⟨more, rfl, heq⟩ | ⟨more, rfl, heq⟩
        · by_cases hmore : more = []
          · rw [hmore, List.append_nil]
          · exact absurd heq (hbare'.append_ne hmore)
        · by_cases hmore : more = []
          · rw [hmore, List.append_nil]
          · exact absurd heq (hbare.append_ne hmore)
      subst htext
      obtain ⟨rfl, rfl⟩ := Form.eq_of_append (List.append_cancel_left hcs)
      rw [ih hrest']

end Template

end Automation
