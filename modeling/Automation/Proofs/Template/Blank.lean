/-
# What is rendered as nothing

The values without text are the missing one, the empty text, the empty list, and
the lists with one item that has no text (`Json.display_eq_empty_iff`): a second
item would bring a comma, and numbers, truth values and objects are always
written. So a template is rendered as nothing exactly if it is placeholders and
nothing between them, each of which leads to a value without text that is not the
missing one; a placeholder that leads nowhere would stay
(`Template.render_eq_empty_iff`).

A text that is resolved is neither empty nor has it any placeholder left
(`Template.IsResolved`). The test for that looks for both marks of a placeholder,
so it also refuses texts that only look as if they had one
(`Template.isResolved_iff`).

Key definitions: `Json.IsMute`, `Template.IsVoid`, `Template.IsResolved`.
Key theorems: `Json.display_eq_empty_iff`, `Template.render_eq_empty_iff`,
`Template.isResolved_iff`.
-/
import Automation.Proofs.Json.Numbers
import Automation.Proofs.Template.Cut

namespace Automation

/-! ### Values without text -/

namespace Json

/-- A value without text. -/
inductive IsMute : Json → Prop where
  | null : IsMute .null
  | empty : IsMute (.str "")
  | nothing : IsMute (.arr [])
  | only {v : Json} : IsMute v → IsMute (.arr [v])

theorem Numeral.IsProper.text_ne_nil {n : Numeral} (h : n.IsProper) : n.text ≠ [] := by
  have hwhole : n.whole ≠ [] := by
    rcases h.whole with hwhole | ⟨d, ds, hwhole, -⟩ <;> simp [hwhole]
  rw [Numeral.text, Numeral.chars]
  exact List.append_ne_nil_of_right_ne_nil _ (List.append_ne_nil_of_left_ne_nil hwhole _)

theorem toString_ne_empty (n : Int) : toString n ≠ "" := by
  obtain ⟨numeral, hproper, htext, -⟩ := exists_numeral_int n
  intro hempty
  rw [hempty] at htext
  exact hproper.text_ne_nil htext.symm

theorem display_float_ne_empty (x : Double) : x.display ≠ "" := by
  rw [Double.display]
  cases hint : x.toInt? with
  | some n => exact toString_ne_empty n
  | none =>
    cases x with
    | finite negative rank =>
      obtain ⟨numeral, hproper, htext, -⟩ := Double.exists_numeral (.finite negative rank) rfl
      intro hempty
      simp only [hempty] at htext
      exact hproper.text_ne_nil htext.symm
    | infinite negative => cases negative <;> decide
    | nan => decide

theorem displayRest_eq_empty {xs : List Json} (h : displayRest xs = "") : xs = [] := by
  cases xs with
  | nil => rfl
  | cons x xs =>
    rw [displayRest, String.append_eq_empty_iff] at h
    exact absurd h.1 (by decide)

theorem write_obj_ne_nil (members : Members) : (Json.obj members).write ≠ [] := by
  cases members <;> simp [write]

theorem isMute_of_display : ∀ {v : Json}, v.display = "" → v.IsMute
  | .null, _ => .null
  | .bool b, h => by
    rw [display] at h
    cases b <;> exact absurd h (by decide)
  | .int n, h => absurd h (toString_ne_empty n)
  | .float x, h => absurd h (display_float_ne_empty x)
  | .str s, h => by
    obtain rfl : s = "" := h
    exact .empty
  | .arr [], _ => .nothing
  | .arr (x :: xs), h => by
    rw [display, String.append_eq_empty_iff] at h
    obtain rfl := displayRest_eq_empty h.2
    exact .only (isMute_of_display h.1)
  | .obj members, h => by
    have hlist := congrArg String.toList h
    rw [display, render, String.toList_ofList] at hlist
    exact absurd hlist (write_obj_ne_nil members)

/-- **What has no text**: nothing, the empty text, and lists of at most one item that
has none. -/
theorem display_eq_empty_iff {v : Json} : v.display = "" ↔ v.IsMute := by
  refine ⟨isMute_of_display, fun h => ?_⟩
  induction h with
  | null | empty | nothing => rfl
  | only _ ih => rw [display, ih, displayRest, String.append_empty]

end Json

namespace Template

/-! ### Templates without text -/

/-- A template of placeholders only, each of which leads to a value without text. -/
def IsVoid (b : Bindings) (template : String) : Prop :=
  ∃ forms : List Form, template.toList = forms.flatMap Form.source
    ∧ ∀ f ∈ forms, f.value b ≠ .null ∧ (f.value b).IsMute

theorem Form.rendered_eq_nil_iff {f : Form} {b : Bindings} :
    f.rendered b = [] ↔ f.value b ≠ .null ∧ (f.value b).IsMute := by
  rw [rendered, ← Json.display_eq_empty_iff]
  cases hvalue : f.value b with
  | null => simp [Json.isNull, f.source_ne_nil]
  | _ => simp [Json.isNull]

/-- Placeholders in a row are these placeholders and nothing else. -/
theorem pieces_flatMap_source : ∀ forms : List Form,
    pieces (forms.flatMap Form.source) = forms.map fun f => .placeholder f.placeholder
  | [] => pieces_nil
  | f :: forms => by
    rw [List.flatMap_cons, pieces_of_some (takePlaceholder_source f _), pieces_flatMap_source forms,
      List.map_cons]

/-- A cut that comes to nothing has no text in it. -/
theorem Leftmost.eq_flatMap_of_rendered {cs : List Char} {cut : Cut} (h : Leftmost cs cut)
    {b : Bindings} (hnil : cut.rendered b = []) :
    cs = cut.forms.flatMap Form.source ∧ ∀ f ∈ cut.forms, f.rendered b = [] := by
  induction h with
  | last _ => exact ⟨hnil, nofun⟩
  | @placeholder text rest f cut _ _ ih =>
    have hparts : text ++ f.rendered b ++ cut.rendered b = [] := by
      simpa [Cut.rendered] using hnil
    obtain ⟨hpart, hrest⟩ := List.append_eq_nil_iff.1 hparts
    obtain ⟨rfl, hform⟩ := List.append_eq_nil_iff.1 hpart
    obtain ⟨rfl, hforms⟩ := ih hrest
    exact ⟨rfl, List.forall_mem_cons.2 ⟨hform, hforms⟩⟩

/-- **What is rendered as nothing**: placeholders without anything between them, all of
which lead to a value that is there and has no text. -/
theorem render_eq_empty_iff {b : Bindings} {template : String} :
    render b template = "" ↔ IsVoid b template := by
  constructor
  · intro hempty
    obtain ⟨cut, hcut, hrendered⟩ := exists_leftmost template.toList
    have hnil : cut.rendered b = [] := by
      rw [← hrendered, ← String.toList_ofList (l := List.flatMap _ _)]
      exact congrArg String.toList hempty
    obtain ⟨hsource, hforms⟩ := hcut.eq_flatMap_of_rendered hnil
    exact ⟨cut.forms, hsource, fun f hf => Form.rendered_eq_nil_iff.1 (hforms f hf)⟩
  · rintro ⟨forms, hsource, hforms⟩
    have hnil : (forms.map fun f => Piece.placeholder f.placeholder).flatMap (·.render b) = [] := by
      rw [List.flatMap_map, List.flatMap_eq_nil_iff]
      exact fun f hf => Form.rendered_eq_nil_iff.2 (hforms f hf)
    rw [render, hsource, pieces_flatMap_source, hnil, String.ofList_nil]

/-! ### Texts that are resolved -/

/-- Text that something can be addressed to. -/
structure IsResolved (text : String) : Prop where
  ne_empty : text ≠ ""
  /-- No placeholder is left in it. -/
  no_placeholder : ∀ (before : List Char) (f : Form) (after : List Char),
    text.toList ≠ before ++ (f.source ++ after)
  /-- It does not even have two opening braces and two closing ones, wherever these are. -/
  no_marks : ∀ before after before' after' : List Char,
    text.toList = before ++ ['{', '{'] ++ after → text.toList ≠ before' ++ ['}', '}'] ++ after'

theorem hasMarks_iff {text : String} : hasMarks text = true ↔
    (∃ before after, text.toList = before ++ ['{', '{'] ++ after)
      ∧ ∃ before after, text.toList = before ++ ['}', '}'] ++ after := by
  rw [hasMarks, Bool.and_eq_true, Text.occurs_iff, Text.occurs_iff]

/-- A text with a placeholder in it has its marks. -/
theorem hasMarks_of_source {text : String} {before after : List Char} {f : Form}
    (h : text.toList = before ++ (f.source ++ after)) : hasMarks text = true := by
  rw [hasMarks_iff]
  refine ⟨⟨before, f.blanks ++ f.inner ++ after, ?_⟩,
    ⟨before ++ '{' :: '{' :: (f.blanks ++ f.root.name ++ '.' :: f.body), after, ?_⟩⟩
  · simp [h, Form.source]
  · simp [h, Form.source, Form.inner]

/-- **The test for targets**: a text passes if it is resolved. -/
theorem isResolved_iff {text : String} :
    (!text.isEmpty && !hasMarks text) = true ↔ IsResolved text := by
  rw [Bool.and_eq_true, Bool.not_eq_true', Bool.not_eq_true']
  constructor
  · rintro ⟨hempty, hmarks⟩
    refine ⟨by simpa using hempty, fun before f after h => ?_, fun before after before' after' h h' => ?_⟩
    · rw [hasMarks_of_source h] at hmarks
      cases hmarks
    · rw [hasMarks_iff.2 ⟨⟨before, after, h⟩, ⟨before', after', h'⟩⟩] at hmarks
      cases hmarks
  · intro h
    refine ⟨by simpa using h.ne_empty, Bool.eq_false_iff.2 fun hmarks => ?_⟩
    obtain ⟨⟨before, after, hopen⟩, ⟨before', after', hclose⟩⟩ := hasMarks_iff.1 hmarks
    exact h.no_marks before after before' after' hopen hclose

end Template

end Automation
