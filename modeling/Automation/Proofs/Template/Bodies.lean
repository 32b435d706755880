/-
# The bodies of webhooks

A body that is an object or a list is written as JSON text, and the text is rendered.
As long as its strings can be escaped before they are rendered and its names have no
placeholder (`Template.IsEscapableBody`), the text is rendered string by string
(`Template.filled_write`), so a webhook is called with the layout of the body and
with the values in its strings (`Template.bodyText`). But what is put in for a
placeholder is never escaped: a value with a quote, a backslash or a control
character can break the text or add members to it. Without such values it is read as
the body with each of its texts rendered (`Template.read_bodyText`,
`Task.process_webhook`).

Key definitions: `Template.IsEscapableBody`, `Template.bodyText`.
Key theorems: `Template.filled_write`, `Template.webhookBody_eq`,
`Template.read_bodyText`, `Task.process_webhook`.
-/
import Automation.Proofs.Json.Readback
import Automation.Proofs.Run.Requests
import Automation.Proofs.Template.Agreement
import Automation.Proofs.Template.Escaped

namespace Automation

/-! ### Numbers hold no braces -/

theorem Json.Numeral.not_brace_mem_text {n : Json.Numeral} (h : n.IsProper) : '{' ∉ n.text := by
  have hdigits : ∀ {ds : List Char}, (∀ d ∈ ds, d.isDigit = true) → '{' ∉ ds :=
    fun hds hmem => absurd (hds _ hmem) (by decide)
  have hwhole : '{' ∉ n.whole := hdigits h.whole_digits
  have hplaces : '{' ∉ n.places := hdigits h.places_digits
  have hsign : '{' ∉ signText n.negative := by cases n.negative <;> decide
  have hfraction : '{' ∉ fractionText n.places := by
    unfold fractionText
    split
    · exact List.not_mem_nil
    · simpa using hplaces
  have hpower : '{' ∉ powerText n.power := by
    cases hpow : n.power with
    | none => exact List.not_mem_nil
    | some p =>
      have hds : '{' ∉ p.2 := hdigits (h.power_digits p hpow).2
      cases p with
      | mk negative ds => cases negative <;> simpa [powerText] using hds
  simp [text, chars, hsign, hwhole, hfraction, hpower]

namespace Template

open Json (escape write writeItems writeMembers writeWith writeItemsWith writeMembersWith parts
  itemParts memberParts)

variable {b : Bindings}

/-! ### Whole texts -/

/-- Up to its closing quote the string is rendered by itself. -/
def Fills (b : Bindings) (s : String) : Prop :=
  ∀ rest, filled b (escape s.toList ++ '"' :: rest) = raw b s.toList ++ filled b ('"' :: rest)

/-- What one value asks for, so that its text is rendered string by string. -/
def CanBeFilled (b : Bindings) : Json → Prop
  | .float x => x.isFinite = true
  | .str s => Fills b s
  | .obj members => ∀ m ∈ members, Fills b m.1
  | _ => True

/-- What is written with `raw` for strings. -/
abbrev rawText (b : Bindings) (s : String) : List Char := raw b s.toList

theorem filled_other {c : Char} (hc : c ≠ '{') (cs : List Char) :
    filled b (c :: cs) = c :: filled b cs := filled_cons (takePlaceholder_eq_none (.inl hc))

/-- A brace that opens an object opens no placeholder. -/
theorem filled_brace {cs : List Char} (h : ∀ d ∈ cs.head?, d ≠ '{') :
    filled b ('{' :: cs) = '{' :: filled b cs := filled_cons (takePlaceholder_eq_none (.inr h))

theorem Fills.string {s : String} (h : Fills b s) (rest : List Char) :
    filled b (Json.writeString s ++ rest) = '"' :: (rawText b s ++ '"' :: filled b rest) := by
  rw [Json.writeString_eq, List.cons_append, List.append_assoc, List.singleton_append,
    filled_other (by decide), h rest, filled_other (by decide)]

theorem Fills.member {k : String} (h : Fills b k) (rest : List Char) :
    filled b (Json.writeString k ++ ':' :: ' ' :: rest)
      = '"' :: (rawText b k ++ '"' :: ':' :: ' ' :: filled b rest) := by
  rw [h.string, filled_other (by decide), filled_other (by decide)]

mutual

/-- **A JSON text is rendered string by string.** -/
theorem filled_write : ∀ j : Json, (∀ v ∈ j.parts, CanBeFilled b v) → ∀ rest,
    filled b (j.write ++ rest) = writeWith (rawText b) j ++ filled b rest
  | .null, _, rest => filled_append (by decide)
  | .bool c, _, rest => by cases c <;> exact filled_append (by decide)
  | .int n, _, rest => by
    obtain ⟨numeral, hproper, htext, -⟩ := Json.exists_numeral_int n
    refine filled_append ?_
    rw [write, htext]
    exact Json.Numeral.not_brace_mem_text hproper
  | .float x, h, rest => by
    have hx : x.isFinite = true := h (.float x) (by simp [parts])
    obtain ⟨numeral, hproper, htext, -⟩ := Double.exists_numeral x hx
    refine filled_append ?_
    rw [write, Json.writeDouble_finite hx, htext]
    exact Json.Numeral.not_brace_mem_text hproper
  | .str s, h, rest => by
    have hs : Fills b s := h (.str s) (by simp [parts])
    rw [write, hs.string, writeWith]
    simp
  | .arr [], _, rest => filled_append (by decide)
  | .arr (x :: xs), h, rest => by
    have hitems : ∀ v ∈ itemParts (x :: xs), CanBeFilled b v :=
      fun v hv => h v (List.mem_cons_of_mem _ hv)
    rw [write, List.cons_append, List.append_assoc, filled_other (by decide),
      filled_write x fun v hv => hitems v (List.mem_append_left _ hv),
      filled_writeItems xs fun v hv => hitems v (List.mem_append_right _ hv), writeWith]
    simp
  | .obj [], _, rest => by
    rw [write, List.cons_append, filled_brace (by simp)]
    exact congrArg ('{' :: ·) (filled_other (by decide) rest)
  | .obj ((k, v) :: ms), h, rest => by
    have hmembers : ∀ u ∈ memberParts ((k, v) :: ms), CanBeFilled b u :=
      fun u hu => h u (List.mem_cons_of_mem _ hu)
    have hnames : ∀ m ∈ (k, v) :: ms, Fills b m.1 := h _ List.mem_cons_self
    have hk : Fills b k := hnames (k, v) List.mem_cons_self
    rw [write, List.cons_append, filled_brace (by simp [Json.writeString_eq]), List.append_assoc,
      List.cons_append, List.cons_append, hk.member, List.append_assoc,
      filled_write v fun u hu => hmembers u (List.mem_append_left _ hu),
      filled_writeMembers ms (fun m hm => hnames m (List.mem_cons_of_mem _ hm))
        fun u hu => hmembers u (List.mem_append_right _ hu), writeWith]
    simp

theorem filled_writeItems : ∀ xs : List Json, (∀ v ∈ itemParts xs, CanBeFilled b v) → ∀ rest,
    filled b (writeItems xs ++ rest) = writeItemsWith (rawText b) xs ++ filled b rest
  | [], _, rest => filled_append (by decide)
  | x :: xs, h, rest => by
    rw [writeItems, List.cons_append, List.cons_append, List.append_assoc, filled_other (by decide),
      filled_other (by decide), filled_write x fun v hv => h v (List.mem_append_left _ hv),
      filled_writeItems xs fun v hv => h v (List.mem_append_right _ hv), writeItemsWith]
    simp

theorem filled_writeMembers : ∀ ms : Members, (∀ m ∈ ms, Fills b m.1) →
    (∀ v ∈ memberParts ms, CanBeFilled b v) → ∀ rest,
      filled b (writeMembers ms ++ rest) = writeMembersWith (rawText b) ms ++ filled b rest
  | [], _, _, rest => filled_append (by decide)
  | (k, v) :: ms, hnames, h, rest => by
    have hk : Fills b k := hnames (k, v) List.mem_cons_self
    rw [writeMembers, List.cons_append, List.cons_append, List.append_assoc, List.cons_append,
      List.cons_append, List.append_assoc, filled_other (by decide), filled_other (by decide), hk.member,
      filled_write v fun u hu => h u (List.mem_append_left _ hu),
      filled_writeMembers ms (fun m hm => hnames m (List.mem_cons_of_mem _ hm))
        fun u hu => h u (List.mem_append_right _ hu), writeMembersWith]
    simp

end

/-! ### Bodies -/

/-- Nothing in the characters begins like a placeholder. -/
def IsUnopened (cs : List Char) : Prop :=
  ∀ before after inner, cs = before ++ after → ¬ Opens after inner

/-- The texts of a body can be escaped before they are rendered, and its names have
no placeholder. -/
structure IsEscapableBody (body : Json) : Prop where
  text : ∀ s, .str s ∈ body.parts → IsEscapable s.toList
  name : ∀ ms, .obj ms ∈ body.parts → ∀ m ∈ ms, IsUnopened m.1.toList

/-- The JSON text of a body with the values put into its strings. -/
def bodyText (b : Bindings) (body : Json) : String := String.ofList (writeWith (rawText b) body)

theorem IsUnopened.pieces_eq {cs : List Char} (h : IsUnopened cs) : pieces cs = cs.map .char := by
  induction cs with
  | nil => exact pieces_nil
  | cons c cs ih =>
    have hnone : takePlaceholder (c :: cs) = none := by
      cases htaken : takePlaceholder (c :: cs) with
      | none => rfl
      | some taken =>
        obtain ⟨f, -, hsource⟩ := exists_source htaken
        exact absurd (hsource ▸ f.opens _) (h [] _ _ rfl)
    have hcs : IsUnopened cs := fun before after inner heq =>
      h (c :: before) after inner (by rw [heq, List.cons_append])
    rw [pieces_cons hnone, ih hcs, List.map_cons]

theorem isUnopened_of_not_mem {cs : List Char} (h : '{' ∉ cs) : IsUnopened cs := by
  rintro before after inner rfl ⟨blanks, root, -, rfl⟩
  exact h (by simp)

theorem IsUnopened.isEscapable {cs : List Char} (h : IsUnopened cs) : IsEscapable cs where
  closed := fun before after inner heq hopens => absurd hopens (h before after inner heq)
  source := fun p hp => by simp [h.pieces_eq] at hp

theorem IsUnopened.takesLiterals {cs : List Char} (h : IsUnopened cs) : TakesLiterals b cs :=
  fun p hp => by simp [h.pieces_eq] at hp

theorem IsUnopened.filled_eq {cs : List Char} (h : IsUnopened cs) : filled b cs = cs := by
  rw [filled, h.pieces_eq, List.flatMap_map]
  simp [Piece.render]

theorem IsUnopened.raw_eq {cs : List Char} (h : IsUnopened cs) : raw b cs = escape cs := by
  rw [raw, h.pieces_eq, List.flatMap_map]
  rfl

/-- **What a webhook is called with**, whatever the values are. -/
theorem webhookBody_eq {body : Json} (hcontainer : body.isContainer = true)
    (hfinite : body.isFinite = true) (hbody : IsEscapableBody body) :
    Task.webhookBody b body = some (bodyText b body) := by
  have hfilled : ∀ v ∈ body.parts, CanBeFilled b v := by
    intro v hv
    cases v with
    | null | bool | int | arr => trivial
    | float x => exact Json.isFinite_of_mem_parts hfinite hv
    | str s => exact filled_escape (hbody.text s hv)
    | obj members => exact fun m hm => filled_escape (hbody.name members hv m hm).isEscapable
  have htext : render b body.render = bodyText b body := by
    have hwrite := filled_write body hfilled []
    rw [List.append_nil, filled_nil, List.append_nil] at hwrite
    rw [render_eq, Json.render, String.toList_ofList, hwrite, bodyText]
  rw [← htext]
  cases body with
  | null | bool | int | float | str => cases hcontainer
  | arr | obj => rfl

/-- **Without values that would have to be escaped it is read as the body with each of
its texts rendered.** -/
theorem read_bodyText {body : Json} (hfinite : body.isFinite = true)
    (hdistinct : ∀ ms, .obj ms ∈ body.parts → (ms.map (·.1)).Nodup) (hbody : IsEscapableBody body)
    (hvalues : ∀ s, .str s ∈ body.parts → TakesLiterals b s.toList) :
    Json.read (bodyText b body) = .ok (body.mapTexts (render b)) := by
  refine Json.read_writeWith fun v hv => ?_
  cases v with
  | null | bool | int | arr => trivial
  | float x => exact Json.isFinite_of_mem_parts hfinite hv
  | str s =>
    have hrender : (render b s).toList = filled b s.toList := String.toList_ofList
    rw [Json.CanBeRead, hrender]
    exact readsAs_raw (hbody.text s hv) (hvalues s hv)
  | obj members =>
    refine ⟨hdistinct members hv, fun m hm => ?_⟩
    have hname := hbody.name members hv m hm
    have hread := readsAs_raw (b := b) hname.isEscapable hname.takesLiterals
    rwa [hname.filled_eq] at hread

end Template

namespace Task

/-- **What a webhook is called with.** There is one text that each of its calls has
as its body: the JSON text of the task's body with the values put into its strings as
they are. It is read as the body with each text rendered, if no value has a character
that would have to be escaped. The call is made if the address is not empty and the
execution has not been cancelled. -/
theorem process_webhook (runner : Runner) (ctx : Context) (payload : Json) (url : Option String)
    (method : String) (headers : List (String × String)) {body : Json}
    (hcontainer : body.isContainer = true) (hfinite : body.isFinite = true)
    (hdistinct : ∀ ms, .obj ms ∈ body.parts → (ms.map (·.1)).Nodup)
    (hbody : Template.IsEscapableBody body) :
    ((process runner ctx payload (.webhook url method headers body)).Asks fun request =>
        ∃ call, request = .call call
          ∧ call.body = some (Template.bodyText (ctx.bindings payload) body))
      ∧ ((Template.render (ctx.bindings payload) (url.getD "")).isEmpty = false →
          ∃ next call reply, process runner ctx payload (.webhook url method headers body) = .token next
            ∧ next false = .ask (.call call) reply)
      ∧ ((∀ s, .str s ∈ body.parts → Template.TakesLiterals (ctx.bindings payload) s.toList) →
          Json.read (Template.bodyText (ctx.bindings payload) body)
            = .ok (body.mapTexts (Template.render (ctx.bindings payload)))) := by
  refine ⟨?_, fun hurl => ?_, Template.read_bodyText hfinite hdistinct hbody⟩
  · rw [process, callWebhook]
    simp only
    split
    · exact trivial
    · exact (Process.asks_perform ⟨_, rfl, Template.webhookBody_eq hcontainer hfinite hbody⟩).map _
  · rw [process, callWebhook]
    simp only [hurl, Bool.false_eq_true, if_false, request, Process.perform]
    exact ⟨_, _, _, rfl, rfl⟩

end Task

namespace Template

theorem isName_note : IsName "note" := ⟨rfl, by decide, by decide, by simp [Text.isBlank, Text.isSpace]⟩

/-- The placeholder of the note of an event. -/
def noteForm : Form := { isName_note.form with root := .data }

theorem source_noteForm : "\x7b\x7bdata.note\x7d\x7d" = String.ofList noteForm.source := by
  rw [← String.toList_inj]
  simp [noteForm, IsName.form, Form.source, Form.inner, Root.name]

theorem isEscapable_noteForm : IsEscapable noteForm.source :=
  Form.isEscapable_source <| by
    simp [noteForm, IsName.form, Form.source, Form.inner, Root.name, Json.writeChar]

theorem value_noteForm {note : Json} (h : b.data = .obj [("note", note)]) :
    noteForm.value b = note := by
  have hpath : noteForm.path = "note" := isName_note.path_form
  rw [Form.value, show b.root noteForm.root = b.data from rfl, h, hpath,
    Json.at_obj _ isName_note.isEmpty_eq_false isName_note.not_dot]
  simp

end Template

namespace Task

/-- A note goes into the string that its placeholder stands in. But one that closes the
string adds a member. -/
theorem process_webhook_note :
    let body := Json.obj [("note", .str "\x7b\x7bdata.note\x7d\x7d"), ("marks", .arr [.int 1, .null])]
    let event (note : String) := Json.obj [("note", .str note)]
    let ctx : Context := { storeId := "s-1" }
    let task := Task.webhook (some "https://hooks.example/a") "POST" [] body
    let text (note : String) := Template.bodyText (ctx.bindings (event note)) body
    body.isContainer = true ∧ body.isFinite = true
      ∧ (∀ ms, .obj ms ∈ body.parts → (ms.map (·.1)).Nodup) ∧ Template.IsEscapableBody body
      ∧ (∀ note, (process {} ctx (event note) task).Asks fun request =>
          ∃ call, request = .call call ∧ call.body = some (text note))
      ∧ Json.read (text "ok") = .ok (.obj [("note", .str "ok"), ("marks", .arr [.int 1, .null])])
      ∧ Json.read (text "x\", \"admin\": \"true")
        = .ok (.obj [("note", .str "x"), ("admin", .str "true"), ("marks", .arr [.int 1, .null])]) := by
  intro body event ctx task text
  have hvalue : ∀ note, Template.noteForm.value (ctx.bindings (event note)) = Json.ofText? (some note) :=
    fun _ => Template.value_noteForm rfl
  have hrendered : ∀ note, Template.noteForm.rendered (ctx.bindings (event note)) = note.toList :=
    fun note => Template.Form.rendered_ofText? (hvalue note)
  have hdistinct : ∀ ms, .obj ms ∈ body.parts → (ms.map (·.1)).Nodup := by
    simp [body, Json.parts, Json.memberParts, Json.itemParts]
  have hstring : ∀ s, Json.str s ∈ body.parts → s = String.ofList Template.noteForm.source := by
    rw [← Template.source_noteForm]
    simp [body, Json.parts, Json.memberParts, Json.itemParts]
  have hbody : Template.IsEscapableBody body := by
    constructor
    · intro s hs
      rw [hstring s hs, String.toList_ofList]
      exact Template.isEscapable_noteForm
    · intro ms hms
      obtain rfl : ms = [("note", .str "\x7b\x7bdata.note\x7d\x7d"),
          ("marks", .arr [.int 1, .null])] := by
        simpa [body, Json.parts, Json.memberParts, Json.itemParts] using hms
      simpa using ⟨Template.isUnopened_of_not_mem (by decide),
        Template.isUnopened_of_not_mem (by decide)⟩
  have hprocess := fun note => process_webhook {} ctx (event note) (some "https://hooks.example/a")
    "POST" [] rfl rfl hdistinct hbody
  refine ⟨rfl, rfl, hdistinct, hbody, fun note => (hprocess note).1, ?_, ?_⟩
  · have hread := (hprocess "ok").2.2 fun s hs => by
      rw [hstring s hs, String.toList_ofList]
      refine Template.Form.takesLiterals_source ?_
      simp [hvalue, Json.ofText?, Json.display, Json.IsLiteral]
    rw [hread]
    simp [body, Json.mapTexts, Json.mapMembers, Json.mapItems, Template.source_noteForm,
      Template.render_source, hrendered]
  · have hnames : ∀ {s : String}, '{' ∉ s.toList → ∀ note,
        Template.rawText (ctx.bindings (event note)) s = Json.escape s.toList :=
      fun hs _ => (Template.isUnopened_of_not_mem hs).raw_eq
    have hnote : ∀ note, Template.rawText (ctx.bindings (event note)) "\x7b\x7bdata.note\x7d\x7d"
        = note.toList := by
      intro note
      rw [Template.rawText, Template.source_noteForm, String.toList_ofList, Template.raw_source, hrendered]
    have htext : text "x\", \"admin\": \"true"
        = (Json.obj [("note", .str "x"), ("admin", .str "true"),
            ("marks", .arr [.int 1, .null])]).render := by
      simp only [text, body, Template.bodyText, Json.writeWith, Json.writeMembersWith,
        Json.writeItemsWith, hnote, hnames (show '{' ∉ "note".toList by decide),
        hnames (show '{' ∉ "marks".toList by decide)]
      rfl
    rw [htext]
    exact Json.read_render rfl (by simp [Json.parts, Json.memberParts, Json.itemParts])

end Task

end Automation
