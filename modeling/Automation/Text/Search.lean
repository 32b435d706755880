/-
# Text inside text

Key definitions: `occurs`, `occurs_iff`.
-/
namespace Automation.Text

/-- Whether `needle` occurs in the characters, without gaps. -/
def occurs (needle : List Char) : List Char → Bool
  | [] => needle.isEmpty
  | c :: cs => needle.isPrefixOf (c :: cs) || occurs needle cs

/-- An occurrence has characters before it and characters after it. -/
theorem occurs_iff {needle : List Char} :
    ∀ {hay : List Char}, occurs needle hay = true ↔ ∃ before after, hay = before ++ needle ++ after
  | [] => by
    simp only [occurs, List.isEmpty_iff]
    constructor
    · rintro rfl
      exact ⟨[], [], rfl⟩
    · rintro ⟨before, after, h⟩
      simp only [List.append_assoc, List.nil_eq_append_iff] at h
      exact (List.append_eq_nil_iff.1 h.2).1
  | c :: cs => by
    simp only [occurs, Bool.or_eq_true, List.isPrefixOf_iff_prefix, @occurs_iff needle cs]
    constructor
    · rintro (⟨after, h⟩ | ⟨before, after, rfl⟩)
      · exact ⟨[], after, by simp [h]⟩
      · exact ⟨c :: before, after, rfl⟩
    · rintro ⟨before, after, h⟩
      cases before with
      | nil => exact .inl ⟨after, by simpa using h.symm⟩
      | cons b before =>
        simp only [List.cons_append, List.cons.injEq] at h
        exact .inr ⟨before, after, by simpa using h.2⟩

end Automation.Text
