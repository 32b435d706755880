/-
# Templates

A template is text with placeholders such as `{{ data.customer.name }}`: two
braces, the root `data` or `context`, a dot, a path, and two braces. The
path ends at the first closing brace and does not count blanks at its ends.
A template is cut once, from the left, into characters and placeholders
(`Template.pieces`); a placeholder is replaced by the text of its value, and
stays as it is written when there is none.

Key definitions: `Placeholder`, `Template.pieces`, `Template.render`.
-/
import Automation.Display
import Automation.Path
import Automation.Text.Blank
import Automation.Text.Search

namespace Automation

/-- The trees that placeholders look into. -/
inductive Root where
  | data
  | context
deriving DecidableEq, Repr

/-- The values of the roots; null for a root without one. -/
structure Bindings where
  data : Json := .null
  context : Json := .null

def Bindings.root (b : Bindings) : Root → Json
  | .data => b.data
  | .context => b.context

/-- A placeholder: where its value is, and how it is written. -/
structure Placeholder where
  root : Root
  path : String
  source : List Char

namespace Template

open Text (isBlank trimmed occurs)

/-- The root that characters start with, and what follows its dot. -/
def takeRoot : List Char → Option (Root × List Char)
  | 'd' :: 'a' :: 't' :: 'a' :: '.' :: rest => some (.data, rest)
  | 'c' :: 'o' :: 'n' :: 't' :: 'e' :: 'x' :: 't' :: '.' :: rest => some (.context, rest)
  | _ => none

/-- The placeholder that characters start with, and what follows it. -/
def takePlaceholder : List Char → Option (Placeholder × List Char)
  | '{' :: '{' :: rest =>
    match takeRoot (rest.dropWhile isBlank) with
    | none => none
    | some (root, inner) =>
      let body := inner.takeWhile (· != '}')
      match inner.dropWhile (· != '}') with
      | '}' :: '}' :: after =>
        if body.isEmpty then none
        else
          let size := rest.length + 2 - after.length
          some (⟨root, trimmed (String.ofList body), ('{' :: '{' :: rest).take size⟩, after)
      | _ => none
  | _ => none

theorem takeRoot_length {cs rest : List Char} {root : Root} (h : takeRoot cs = some (root, rest)) :
    rest.length < cs.length := by
  unfold takeRoot at h
  split at h <;> simp_all <;> omega

theorem takePlaceholder_length {cs rest : List Char} {p : Placeholder}
    (h : takePlaceholder cs = some (p, rest)) : rest.length < cs.length := by
  unfold takePlaceholder at h
  split at h
  · rename_i tail
    split at h
    · simp at h
    · rename_i root inner hroot
      have hinner := takeRoot_length hroot
      have hblank := (List.dropWhile_suffix (l := tail) isBlank).length_le
      have hbody := (List.dropWhile_suffix (l := inner) (· != '}')).length_le
      simp only at h
      split at h
      · rename_i after hafter
        rw [hafter] at hbody
        split at h
        · simp at h
        · simp only [Option.some.injEq, Prod.mk.injEq] at h
          obtain ⟨_, rfl⟩ := h
          simp only [List.length_cons] at hbody ⊢
          omega
      · simp at h
  · simp at h

/-- A piece of a template. -/
inductive Piece where
  | char (c : Char)
  | placeholder (p : Placeholder)

/-- The pieces of a template, from the left. -/
def pieces (cs : List Char) : List Piece :=
  match h : takePlaceholder cs with
  | some (p, rest) =>
    have := takePlaceholder_length h
    .placeholder p :: pieces rest
  | none =>
    match cs with
    | [] => []
    | c :: rest => .char c :: pieces rest
termination_by cs.length

/-- The characters that a piece becomes. -/
def Piece.render (bindings : Bindings) : Piece → List Char
  | .char c => [c]
  | .placeholder p =>
    let value := (bindings.root p.root).at p.path
    if value.isNull then p.source else value.display.toList

/-- The text of a template. -/
def render (bindings : Bindings) (template : String) : String :=
  String.ofList ((pieces template.toList).flatMap (·.render bindings))

/-- Renders a text; any other value stays. -/
def renderValue (bindings : Bindings) : Json → Json
  | .str s => .str (render bindings s)
  | value => value

/-- Renders the texts among the values of members; nested ones stay. -/
def renderMembers (bindings : Bindings) (members : Members) : Members :=
  members.map fun (k, v) => (k, renderValue bindings v)

/-- Whether text still has the marks of a placeholder. -/
def hasMarks (s : String) : Bool :=
  let cs := s.toList
  occurs ['{', '{'] cs && occurs ['}', '}'] cs

end Template

end Automation
