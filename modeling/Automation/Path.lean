/-
# Dotted paths into a value

A path names a place in a value by segments parted by dots. A segment is the
name of a member on an object and an index, in decimal digits of any script,
on a list. A place that does not exist holds null, as does every place below
it, so a path can be followed segment by segment (`Path.follow_append`).

Key definitions: `Path.segments`, `Path.follow`, `Json.at`.
-/
import Automation.Json.Basic
import Automation.Number.Reading

namespace Automation

namespace Path

/-- The segments of a path: the parts between its dots, empty ones included. -/
def segments : List Char → List (List Char)
  | [] => [[]]
  | c :: cs =>
    if c == '.' then [] :: segments cs
    else
      match segments cs with
      | s :: rest => (c :: s) :: rest
      | [] => [[c]]

/-- The value at one segment; null if there is none. -/
def step (tree : Json) (segment : List Char) : Json :=
  match tree with
  | .obj members => (members.lookup (String.ofList segment)).getD .null
  | .arr items => ((readIndex? segment).bind (items[·]?)).getD .null
  | _ => .null

/-- The value at the end of the segments. -/
def follow (tree : Json) (path : List (List Char)) : Json := path.foldl step tree

theorem follow_append (tree : Json) (p q : List (List Char)) :
    follow tree (p ++ q) = follow (follow tree p) q := by
  simp [follow]

end Path

/-- The value at a path; null if there is none. The empty path leads nowhere. -/
def Json.at (tree : Json) (path : String) : Json :=
  if path.isEmpty then .null else Path.follow tree (Path.segments path.toList)

end Automation
