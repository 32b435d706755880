/-
# The places that paths lead to

A path can end nowhere in four ways: an object has no member of the name, a list has
no item of the index, a segment on a list is no index, or the path goes on behind a
value that holds no others (`Path.IsLost`). Any other path leads to one value
(`Path.isLost_iff`). A place that is not there counts as null (`Json.at_eq_null`), and
so does every place behind a null.

A dot between two paths parts their segments (`Path.segments_dotted`), so the value at
the one and then the other is the value at both, whether a place is missing, holds a
null or is named by an empty segment (`Json.at_dotted`).

On a list a segment counts by the number that its digits write, in any script and with
any zeros before it (`Path.IsNumeral`). A segment of more than `indexDigits` characters
is no index, so it leads nowhere even if its number is small. No item is out of reach
for that: its index without such zeros is short enough (`Json.at_toString`).

Key definitions: `Path.find?`, `Path.IsLost`, `Json.Lacks`, `Path.IsNumeral`.
Key theorems: `Path.segments_dotted`, `Path.follow_eq`, `Path.isLost_iff`,
`Json.at_numeral`, `Json.at_dotted`.
-/
import Automation.Path
import Automation.Proofs.Number.Digits

namespace Automation

namespace Path

/-! ### Segments -/

theorem segments_ne_nil (cs : List Char) : segments cs ≠ [] := by
  cases cs with
  | nil => simp [segments]
  | cons c cs =>
    rw [segments]
    split
    · simp
    · split <;> simp

/-- A segment without a dot is the whole path. -/
theorem segments_of_not_mem {cs : List Char} (h : '.' ∉ cs) : segments cs = [cs] := by
  induction cs with
  | nil => rfl
  | cons c cs ih =>
    have hc : (c == '.') = false := by
      rw [beq_eq_false_iff_ne]
      rintro rfl
      exact h List.mem_cons_self
    have hcs := ih fun hmem => h (List.mem_cons_of_mem c hmem)
    simp [segments, hc, hcs]

/-- **A dot between two paths parts their segments.** -/
theorem segments_dotted (p q : List Char) :
    segments (p ++ '.' :: q) = segments p ++ segments q := by
  induction p with
  | nil => simp [segments]
  | cons c p ih =>
    rw [List.cons_append, segments, segments, ih]
    by_cases hc : (c == '.') = true
    · rw [if_pos hc, if_pos hc]
      rfl
    · rw [if_neg hc, if_neg hc]
      -- the character goes to the first segment, which is one of `p` on both sides
      cases hp : segments p with
      | nil => exact absurd hp (segments_ne_nil p)
      | cons s rest => rfl

/-! ### Places -/

/-- The value one segment further, if there is one. -/
def child? (tree : Json) (segment : List Char) : Option Json :=
  match tree with
  | .obj members => members.lookup (String.ofList segment)
  | .arr items => (readIndex? segment).bind (items[·]?)
  | _ => none

/-- The value at the end of a path, if the path leads to one. -/
def find? (tree : Json) : List (List Char) → Option Json
  | [] => some tree
  | segment :: rest => (child? tree segment).bind (find? · rest)

theorem step_eq (tree : Json) (segment : List Char) :
    step tree segment = (child? tree segment).getD .null := by
  cases tree <;> rfl

/-- Behind a null there are only nulls. -/
theorem follow_null : ∀ path : List (List Char), follow .null path = .null
  | [] => rfl
  | _ :: rest => follow_null rest

/-- **What is not found counts as null.** -/
theorem follow_eq : ∀ (tree : Json) (path : List (List Char)),
    follow tree path = (find? tree path).getD .null
  | _, [] => rfl
  | tree, segment :: rest => by
    have hstep : follow tree (segment :: rest) = follow (step tree segment) rest := rfl
    rw [hstep, step_eq, find?]
    cases child? tree segment with
    | none => exact follow_null rest
    | some child => exact follow_eq child rest

/-- What the one path leads to is where the other sets out from. -/
theorem find?_append (tree : Json) (p q : List (List Char)) :
    find? tree (p ++ q) = (find? tree p).bind (find? · q) := by
  induction p generalizing tree with
  | nil => rfl
  | cons segment p ih =>
    rw [List.cons_append, find?, find?]
    cases child? tree segment with
    | none => rfl
    | some child => exact ih child

/-- A path that leads nowhere in a value. -/
inductive IsLost : Json → List (List Char) → Prop where
  | name {members : Members} {segment : List Char} {rest : List (List Char)}
      (h : members.lookup (String.ofList segment) = none) : IsLost (.obj members) (segment :: rest)
  | index {items : List Json} {segment : List Char} {rest : List (List Char)} {i : Nat}
      (hindex : readIndex? segment = some i) (h : items.length ≤ i) :
      IsLost (.arr items) (segment :: rest)
  | word {items : List Json} {segment : List Char} {rest : List (List Char)}
      (h : readIndex? segment = none) : IsLost (.arr items) (segment :: rest)
  | scalar {tree : Json} {segment : List Char} {rest : List (List Char)}
      (h : tree.isContainer = false) : IsLost tree (segment :: rest)
  | deeper {tree child : Json} {segment : List Char} {rest : List (List Char)}
      (hchild : child? tree segment = some child) (h : IsLost child rest) :
      IsLost tree (segment :: rest)

/-- **A path leads nowhere, or to a value.** -/
theorem isLost_iff {tree : Json} {path : List (List Char)} :
    IsLost tree path ↔ find? tree path = none := by
  constructor
  · intro h
    induction h with
    | name h => simp [find?, child?, h]
    | index hindex h => simp [find?, child?, hindex, h]
    | word h => simp [find?, child?, h]
    | @scalar tree _ _ h =>
      cases tree with
      | null | bool | int | float | str => rfl
      | arr | obj => cases h
    | deeper hchild _ ih => simp [find?, hchild, ih]
  · intro h
    induction path generalizing tree with
    | nil => cases h
    | cons segment rest ih =>
      cases hchild : child? tree segment with
      | some child => exact .deeper hchild (ih (by simpa [find?, hchild] using h))
      | none =>
        cases tree with
        | null | bool | int | float | str => exact .scalar rfl
        | obj members => exact .name hchild
        | arr items =>
          cases hindex : readIndex? segment with
          | none => exact .word hindex
          | some i => exact .index hindex (by simpa [child?, hindex] using hchild)

/-! ### Numerals -/

/-- A segment whose characters are decimal digits, of any script, and the places of a
number. -/
def IsNumeral (segment : String) (n : Nat) : Prop :=
  segment ≠ ""
    ∧ ∃ ds : List Nat, segment.toList.map Text.digitValue? = ds.map some
      ∧ Nat.ofDigits 10 ds.reverse = n

theorem isNumeral_iff {segment : String} {n : Nat} :
    IsNumeral segment n ↔ segment ≠ "" ∧ Text.digits? segment.toList = some n := by
  rw [IsNumeral, Text.digits?_eq_some_iff]

theorem IsNumeral.not_dot {segment : String} {n : Nat} (h : IsNumeral segment n) :
    '.' ∉ segment.toList := by
  obtain ⟨-, ds, hds, -⟩ := h
  intro hdot
  have hmem : Text.digitValue? '.' ∈ ds.map some := hds ▸ List.mem_map_of_mem hdot
  obtain ⟨d, -, hd⟩ := List.mem_map.1 hmem
  cases hd

/-- The text of a number is its numeral. -/
theorem isNumeral_toString (n : Nat) : IsNumeral (toString n) n := by
  have hne : (toString n).toList ≠ [] := toList_toString n ▸ toDigits_ne_nil n
  refine isNumeral_iff.2 ⟨fun h => hne (by rw [h]; rfl), ?_⟩
  rw [toList_toString, Text.digits?_of_isDigit isDigit_of_mem_toDigits, digitsValue_toDigits]

theorem readIndex?_eq {segment : String} (h : segment ≠ "") :
    readIndex? segment.toList
      = if segment.length ≤ indexDigits then Text.digits? segment.toList else none := by
  have hempty : segment.toList.isEmpty = false := by simpa using h
  rw [readIndex?, hempty, Bool.false_or, String.length_toList]
  by_cases hlen : segment.length ≤ indexDigits
  · rw [if_pos hlen, if_neg (by simpa using hlen)]
  · rw [if_neg hlen, if_pos (by simpa using hlen)]

end Path

namespace Json

variable {tree : Json} {path segment : String}

theorem at_of_ne_empty (h : path ≠ "") :
    tree.at path = Path.follow tree (Path.segments path.toList) := by
  rw [Json.at, if_neg (by simpa using h)]

/-- A path of one segment takes one step. -/
theorem at_segment (h : segment ≠ "") (hdot : '.' ∉ segment.toList) :
    tree.at segment = Path.step tree segment.toList := by
  rw [at_of_ne_empty h, Path.segments_of_not_mem hdot]
  rfl

/-- A path of one segment leads to the member of that name. -/
theorem at_obj {name : String} (ms : Members) (hname : name.isEmpty = false)
    (hdot : '.' ∉ name.toList) : (Json.obj ms).at name = (ms.lookup name).getD .null := by
  rw [at_segment (by simpa using hname) hdot, Path.step, String.ofList_toList]

/-- Whether there is nothing at a path in a value. The empty path leads nowhere. -/
def Lacks (tree : Json) (path : String) : Prop :=
  path = "" ∨ Path.IsLost tree (Path.segments path.toList)

theorem at_eq_null (h : tree.Lacks path) : tree.at path = .null := by
  unfold Json.at
  rcases h with rfl | h
  · rfl
  · by_cases hempty : path.isEmpty = true
    · rw [if_pos hempty]
    · rw [if_neg hempty, Path.follow_eq, Path.isLost_iff.1 h]
      rfl

theorem lacks_iff (h : path ≠ "") :
    tree.Lacks path ↔ Path.find? tree (Path.segments path.toList) = none := by
  rw [Lacks, or_iff_right h, Path.isLost_iff]

/-! ### Indices -/

/-- **A numeral on a list** leads to the item of its number, unless it is too long. -/
theorem at_numeral {n : Nat} (h : Path.IsNumeral segment n) (items : List Json) :
    (arr items).at segment
      = if segment.length ≤ indexDigits then items.getD n .null else .null := by
  obtain ⟨hne, hdigits⟩ := Path.isNumeral_iff.1 h
  rw [at_segment hne h.not_dot, Path.step, Path.readIndex?_eq hne, hdigits]
  by_cases hlen : segment.length ≤ indexDigits
  · rw [if_pos hlen, if_pos hlen, Option.bind_some, List.getD_eq_getElem?_getD]
  · rw [if_neg hlen, if_neg hlen]
    rfl

/-- A word that is no numeral leads nowhere on a list. -/
theorem at_word (hdot : '.' ∉ segment.toList) (h : ∀ n, ¬ Path.IsNumeral segment n)
    (items : List Json) : (arr items).at segment = .null := by
  by_cases hne : segment = ""
  · rw [hne]
    rfl
  · have hdigits : Text.digits? segment.toList = none := by
      rw [Option.eq_none_iff_forall_ne_some]
      exact fun n hn => h n (Path.isNumeral_iff.2 ⟨hne, hn⟩)
    rw [at_segment hne hdot, Path.step, Path.readIndex?_eq hne, hdigits, ite_self]
    rfl

/-- The items of a list are at the texts of their indices. -/
theorem at_toString {items : List Json} {i : Nat} (hi : i < items.length)
    (hitems : items.length ≤ 10 ^ indexDigits) : (arr items).at (toString i) = items[i] := by
  have hlen : (toString i).length ≤ indexDigits :=
    Nat.repr_length i indexDigits (by decide) (lt_of_lt_of_le hi hitems)
  rw [at_numeral (Path.isNumeral_toString i), if_pos hlen, List.getD_eq_getElem _ _ hi]

/-! ### Dotted paths -/

/-- **Two paths with a dot between them.** They lead to what the second leads to from the
value at the first, and nowhere exactly if the first or the second leads nowhere. A row of
digits is a name on an object; on a list it is the index that it writes, if it is not too
long for one, and other segments lead nowhere. -/
theorem at_dotted (tree : Json) {p q : String} (hp : p ≠ "") (hq : q ≠ "") :
    tree.at (p ++ "." ++ q) = (tree.at p).at q
      ∧ (tree.Lacks (p ++ "." ++ q) ↔ tree.Lacks p ∨ (tree.at p).Lacks q)
      ∧ (∀ segment n, Path.IsNumeral segment n → ∀ members items,
        (obj members).at segment = (members.lookup segment).getD .null
          ∧ (arr items).at segment
            = if segment.length ≤ indexDigits then items.getD n .null else .null)
      ∧ (∀ segment, '.' ∉ segment.toList → (∀ n, ¬ Path.IsNumeral segment n) →
        ∀ items, (arr items).at segment = .null)
      ∧ ∀ items i, (hi : i < items.length) → items.length ≤ 10 ^ indexDigits →
        (arr items).at (toString i) = items[i] := by
  have hpq : p ++ "." ++ q ≠ "" := by simp
  have hsegments : Path.segments (p ++ "." ++ q).toList
      = Path.segments p.toList ++ Path.segments q.toList := by
    rw [← Path.segments_dotted]
    simp
  refine ⟨?_, ?_, fun segment n h members items => ⟨?_, at_numeral h items⟩,
    fun _ hdot h items => at_word hdot h items, fun _ _ hi hitems => at_toString hi hitems⟩
  · rw [at_of_ne_empty hpq, at_of_ne_empty hq, at_of_ne_empty hp, hsegments, Path.follow_append]
  · rw [lacks_iff hpq, lacks_iff hp, lacks_iff hq, hsegments, Path.find?_append,
      at_of_ne_empty hp, Path.follow_eq]
    cases Path.find? tree (Path.segments p.toList) <;> simp
  · exact at_obj members (by simpa using h.1) h.not_dot

/-- The first path ends in an empty segment; in the second a row of Arabic digits with a
zero before it is an index of a list, and a zero the name of a member. A path behind the
null in the list leads nowhere. -/
theorem at_dotted_scripts :
    let items : List Json := [.null, .obj [("0", .str "tea")]]
    let tree : Json := .obj [("cups", .obj [("", .arr items)])]
    tree.at "cups." = .arr items
      ∧ tree.at ("cups." ++ "." ++ "٠١.0") = .str "tea"
      ∧ tree.Lacks ("cups." ++ "." ++ "0.0")
      ∧ Path.IsNumeral "٠١" 1
      ∧ (arr items).at "٠١" = .obj [("0", .str "tea")]
      ∧ (arr items).at "first" = .null
      ∧ (arr items).at (toString 1) = .obj [("0", .str "tea")] := by
  intro items tree
  have hcups : tree.at "cups." = .arr items := by cbv
  have hnumeral : Path.IsNumeral "٠١" 1 := ⟨by decide, [0, 1], by decide, rfl⟩
  have hword : ∀ n, ¬ Path.IsNumeral "first" n := by
    intro n h
    have hdigits : Text.digits? "first".toList = none := by cbv
    rw [Path.isNumeral_iff, hdigits] at h
    cases h.2
  have hfirst : Path.child? (arr items) ['0'] = some .null := by cbv
  have hlost : (arr items).Lacks "0.0" := .inr (.deeper hfirst (.scalar rfl))
  have hlength : "٠١".length ≤ indexDigits := by decide
  have hsize : items.length ≤ 10 ^ indexDigits :=
    calc items.length ≤ 10 := by decide
      _ ≤ 10 ^ indexDigits := Nat.le_self_pow (by decide) 10
  obtain ⟨hvalue, -, hindex, hother, htext⟩ :=
    at_dotted tree (p := "cups.") (q := "٠١.0") (by decide) (by decide)
  have hmissing := (at_dotted tree (p := "cups.") (q := "0.0") (by decide) (by decide)).2.1
  refine ⟨hcups, ?_, hmissing.2 (.inr (hcups ▸ hlost)), hnumeral,
    (hindex "٠١" 1 hnumeral [] items).2.trans (if_pos hlength), hother "first" (by decide) hword items,
    htext items 1 (by decide) hsize⟩
  rw [hvalue, hcups]
  rfl

end Json

end Automation
