/-
# What a template looks at

Of all values a template looks at those that its placeholders name, and at no
others: bindings that agree on them give the same text (`Template.render_congr`).

In the tree of a context the store, the organization and the person stand at
paths that nothing else can take (`Context.lookup_tree`). So a template that names
only these reads the same for every event and whatever the caller adds
(`Template.render_sameScope`).

Key definitions: `Template.Writes`, `Template.Form.NamesScope`, `Context.SameScope`.
Key theorems: `Template.render_congr`, `Template.render_scope`,
`Template.render_sameScope`, `Template.render_agrees`.
-/
import Automation.Proofs.Path.Places
import Automation.Proofs.Template.Cut
import Automation.Run.Context

namespace Automation

/-- Two contexts for one store, organization and person; what else the caller
adds may differ. -/
structure Context.SameScope (ctx ctx' : Context) : Prop where
  storeId : ctx.storeId = ctx'.storeId
  organizationId : ctx.organizationId = ctx'.organizationId
  userId : ctx.userId = ctx'.userId

namespace Template

open Text (isBlank isSpace trimmed trim trimOf)

/-- A template has a placeholder among those of its leftmost cut. -/
def Writes (template : String) (f : Form) : Prop :=
  ∃ cut, Leftmost template.toList cut ∧ f ∈ cut.forms

/-! ### Bindings that agree -/

theorem Form.rendered_congr {f : Form} {b b' : Bindings} (h : f.value b = f.value b') :
    f.rendered b = f.rendered b' := by
  rw [rendered, rendered, h]

theorem Cut.rendered_congr {cut : Cut} {b b' : Bindings}
    (h : ∀ f ∈ cut.forms, f.value b = f.value b') : cut.rendered b = cut.rendered b' := by
  have hparts : ∀ part ∈ cut.parts,
      part.1 ++ part.2.rendered b = part.1 ++ part.2.rendered b' := by
    intro part hpart
    have hform : part.2 ∈ cut.forms := List.mem_map_of_mem hpart
    rw [Form.rendered_congr (h part.2 hform)]
  rw [Cut.rendered, Cut.rendered, List.flatMap_congr hparts]

/-- **Bindings that agree on what the placeholders of a template name give the
same text.** -/
theorem render_congr {template : String} {b b' : Bindings}
    (h : ∀ f, Writes template f → f.value b = f.value b') :
    render b template = render b' template := by
  obtain ⟨cut, hcut, hrendered⟩ := exists_leftmost template.toList
  have hforms : ∀ f ∈ cut.forms, f.value b = f.value b' := fun f hf => h f ⟨cut, hcut, hf⟩
  rw [render, render, hrendered, hrendered, Cut.rendered_congr hforms]

/-! ### The scope of a run -/

/-- The placeholder names the store, the organization or the person of a context. -/
def Form.NamesScope (f : Form) : Prop :=
  f.root = .context ∧ (f.path = "storeId" ∨ f.path = "organizationId" ∨ f.path = "userId")

/-- What such a placeholder names is the same in all contexts of one scope. -/
theorem Form.NamesScope.value_congr {f : Form} (h : f.NamesScope) {ctx ctx' : Context}
    (hscope : ctx.SameScope ctx') (payload payload' : Json) :
    f.value (ctx.bindings payload) = f.value (ctx'.bindings payload') := by
  obtain ⟨hroot, hpath⟩ := h
  have hname : f.path.isEmpty = false ∧ '.' ∉ f.path.toList := by
    rcases hpath with hpath | hpath | hpath <;> simp [hpath]
  have hlookup : ctx.tree.lookup f.path = ctx'.tree.lookup f.path := by
    rcases hpath with hpath | hpath | hpath
    · rw [hpath, ctx.lookup_tree.1, ctx'.lookup_tree.1, hscope.storeId]
    · rw [hpath, ctx.lookup_tree.2.1, ctx'.lookup_tree.2.1, hscope.organizationId]
    · rw [hpath, ctx.lookup_tree.2.2, ctx'.lookup_tree.2.2, hscope.userId]
  calc f.value (ctx.bindings payload)
      = (Json.obj ctx.tree).at f.path := by
        rw [value, hroot]
        rfl
    _ = (Json.obj ctx'.tree).at f.path := by
      rw [Json.at_obj _ hname.1 hname.2, Json.at_obj _ hname.1 hname.2, hlookup]
    _ = f.value (ctx'.bindings payload') := by
      rw [value, hroot]
      rfl

/-- A text is what a placeholder becomes; without one it stays as written. -/
theorem Form.rendered_ofText? {f : Form} {b : Bindings} {text : Option String}
    (h : f.value b = Json.ofText? text) :
    f.rendered b = (text.map String.toList).getD f.source := by
  rw [rendered, h]
  cases text with
  | none => rfl
  | some s => rfl

/-- A template that is one placeholder becomes the text of that placeholder. -/
theorem render_source (f : Form) (b : Bindings) :
    render b (String.ofList f.source) = String.ofList (f.rendered b) := by
  rw [render, String.toList_ofList, pieces_source, List.flatMap_singleton, Form.render_placeholder]

/-- A name that can stand in a placeholder as it is. -/
structure IsName (name : String) : Prop where
  isEmpty_eq_false : name.isEmpty = false
  not_brace : '}' ∉ name.toList
  not_dot : '.' ∉ name.toList
  not_blank : ∀ c ∈ name.toList, isBlank c = false

/-- The placeholder of a name in the context, without blanks. -/
def IsName.form {name : String} (h : IsName name) : Form where
  blanks := []
  root := .context
  body := name.toList
  blanks_blank := by simp
  body_ne_nil := by simpa using h.isEmpty_eq_false
  not_mem_body := h.not_brace

theorem dropWhile_eq_self {p : Char → Bool} {cs : List Char} (h : ∀ c ∈ cs, p c = false) :
    cs.dropWhile p = cs := by
  rw [List.dropWhile_eq_self_iff]
  intro hlength
  simp [h _ (List.getElem_mem hlength)]

theorem IsName.path_form {name : String} (h : IsName name) : h.form.path = name := by
  have hfront : name.toList.dropWhile isBlank = name.toList :=
    dropWhile_eq_self fun c hc => h.not_blank c hc
  have hback : name.toList.reverse.dropWhile isBlank = name.toList.reverse :=
    dropWhile_eq_self fun c hc => h.not_blank c (List.mem_reverse.1 hc)
  simp only [Form.path, form, trimmed, trim, trimOf, hfront, hback,
    List.reverse_reverse, String.ofList_toList]

theorem IsName.source_form {name : String} (h : IsName name) :
    String.ofList h.form.source = "\x7b\x7bcontext." ++ name ++ "\x7d\x7d" := by
  rw [← String.toList_inj]
  simp [Form.source, Form.inner, form, Root.name]

/-- What a name in the context becomes where a text is looked up. -/
theorem render_name {name : String} (hname : IsName name) (text : Option String) {ctx : Context}
    (hvalue : ctx.tree.lookup name = some (Json.ofText? text)) (payload : Json) :
    render (ctx.bindings payload) ("\x7b\x7bcontext." ++ name ++ "\x7d\x7d")
      = text.getD ("\x7b\x7bcontext." ++ name ++ "\x7d\x7d") := by
  have hfound : hname.form.value (ctx.bindings payload) = Json.ofText? text :=
    calc hname.form.value (ctx.bindings payload)
        = (Json.obj ctx.tree).at name := by
          rw [Form.value, hname.path_form]
          rfl
      _ = Json.ofText? text := by
          rw [Json.at_obj _ hname.isEmpty_eq_false hname.not_dot, hvalue]
          rfl
  rw [← hname.source_form, render_source, Form.rendered_ofText? hfound]
  cases text with
  | none => rfl
  | some s => exact String.ofList_toList

theorem isName_storeId : IsName "storeId" := ⟨rfl, by decide, by decide, by simp [isBlank, isSpace]⟩

theorem isName_organizationId : IsName "organizationId" := ⟨rfl, by decide, by decide, by simp [isBlank, isSpace]⟩

theorem isName_userId : IsName "userId" := ⟨rfl, by decide, by decide, by simp [isBlank, isSpace]⟩

/-- **The scope of a run cannot be made up.** What `context.storeId`,
`context.organizationId` and `context.userId` become is told by the store, the
organization and the person of the context alone. -/
theorem render_scope (ctx : Context) (payload : Json) :
    render (ctx.bindings payload) "\x7b\x7bcontext.storeId\x7d\x7d" = ctx.storeId
      ∧ render (ctx.bindings payload) "\x7b\x7bcontext.organizationId\x7d\x7d"
          = ctx.organizationId.getD "\x7b\x7bcontext.organizationId\x7d\x7d"
      ∧ render (ctx.bindings payload) "\x7b\x7bcontext.userId\x7d\x7d"
          = ctx.userId.getD "\x7b\x7bcontext.userId\x7d\x7d" := by
  obtain ⟨hstore, horganization, huser⟩ := ctx.lookup_tree
  exact ⟨render_name isName_storeId (some ctx.storeId) hstore payload,
    render_name isName_organizationId ctx.organizationId horganization payload,
    render_name isName_userId ctx.userId huser payload⟩

/-- In all contexts of one scope a template that names nothing else reads the same. -/
theorem render_sameScope {ctx ctx' : Context} (hscope : ctx.SameScope ctx') (payload payload' : Json)
    {template : String} (h : ∀ f, Writes template f → f.NamesScope) :
    render (ctx.bindings payload) template = render (ctx'.bindings payload') template :=
  render_congr fun f hf => (h f hf).value_congr hscope payload payload'

/-- **A template looks only at what it names.** Bindings that agree on the values
of its placeholders give the same text. In particular neither the event nor what
the caller adds to a context can change what the store, the organization and the
person are rendered as. -/
theorem render_agrees :
    (∀ (template : String) (b b' : Bindings),
      (∀ f, Writes template f → (b.root f.root).at f.path = (b'.root f.root).at f.path) →
        render b template = render b' template)
      ∧ (∀ (ctx ctx' : Context) (payload payload' : Json) (template : String), ctx.SameScope ctx' →
        (∀ f, Writes template f → f.NamesScope) →
          render (ctx.bindings payload) template = render (ctx'.bindings payload') template)
      ∧ ∀ (ctx : Context) (payload : Json),
        render (ctx.bindings payload) "\x7b\x7bcontext.storeId\x7d\x7d" = ctx.storeId
          ∧ render (ctx.bindings payload) "\x7b\x7bcontext.organizationId\x7d\x7d"
              = ctx.organizationId.getD "\x7b\x7bcontext.organizationId\x7d\x7d"
          ∧ render (ctx.bindings payload) "\x7b\x7bcontext.userId\x7d\x7d"
              = ctx.userId.getD "\x7b\x7bcontext.userId\x7d\x7d" :=
  ⟨fun _ _ _ h => render_congr h,
    fun _ _ payload payload' _ hscope h => render_sameScope hscope payload payload' h, render_scope⟩

/-- A template that is one placeholder writes no other. -/
theorem eq_of_writes_source {f g : Form} (h : Writes (String.ofList f.source) g) : g = f := by
  obtain ⟨cut, hcut, hg⟩ := h
  have hself : Leftmost f.source ⟨[([], f)], []⟩ := by
    simpa using Leftmost.placeholder (.nil (f.source ++ [])) (.last (.nil []))
  rw [String.toList_ofList] at hcut
  obtain rfl := hcut.unique hself
  simpa [Cut.forms] using hg

/-- A store that the caller adds and an event that names one change nothing. -/
theorem render_agrees_storeId :
    let template := String.ofList isName_storeId.form.source
    let ctx : Context := { storeId := "s-1" }
    let other : Context := { storeId := "s-1", extra := [("storeId", .str "s-2")] }
    let payload := Json.obj [("storeId", .str "s-3")]
    (∀ f, Writes template f → ((ctx.bindings .null).root f.root).at f.path
        = ((other.bindings payload).root f.root).at f.path)
      ∧ ctx.SameScope other ∧ (∀ f, Writes template f → f.NamesScope)
      ∧ render (ctx.bindings .null) template = render (other.bindings payload) template
      ∧ render (ctx.bindings payload) template = render (other.bindings .null) template := by
  intro template ctx other payload
  have hscope : ctx.SameScope other := ⟨rfl, rfl, rfl⟩
  have hnames : ∀ f, Writes template f → f.NamesScope := by
    intro f hf
    rw [eq_of_writes_source hf]
    exact ⟨rfl, .inl isName_storeId.path_form⟩
  have hvalues : ∀ f, Writes template f → ((ctx.bindings .null).root f.root).at f.path
      = ((other.bindings payload).root f.root).at f.path :=
    fun f hf => (hnames f hf).value_congr hscope .null payload
  exact ⟨hvalues, hscope, hnames, render_agrees.1 template _ _ hvalues,
    render_agrees.2.1 ctx other payload .null template hscope hnames⟩

end Template

end Automation
