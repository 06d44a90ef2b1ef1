import ContentFilters.Proofs.Registry.FlatChain
import ContentFilters.Proofs.Registry.Stage
import ContentFilters.Proofs.Standard.CodeBlock

/-!
# Code is protected

No tag filter finds anything in a code block, so once the code filter has run, every later tag
filter of both stages passes the block on as it is. A document that is one code tag is therefore
rendered as the block for its body, and whatever tags are written inside the body are shown.
-/
namespace ContentFilters

variable {settings : Settings}

/-- A filter leaves a text as it is: it returns the text and changes nothing in the session. -/
def Filter.Leaves (settings : Settings) (params : Option FilterParams) (text : Text)
    (f : Filter) : Prop :=
  ∀ (stages : TagStage → Text → Option FilterParams → Action Text) (session : Session),
    session.settings = .ok settings → (f.run stages text params).run session = .ok text session

/-- The words before the colon of a tag that can be told from the markup around them. -/
structure Tag.PlainSpace (space : Text) : Prop where
  no_blank : ∀ c ∈ space, Text.isBlank c = false
  no_opening : '<' ∉ space
  no_closing : '>' ∉ space

theorem Tag.PlainSpace.no_space {space : Text} (h : PlainSpace space) : ' ' ∉ space :=
  fun hmem => absurd (h.no_blank ' ' hmem) (by decide)

/-- A tag filter leaves a headless text as it is. -/
theorem Filter.leaves_of_headless {f : Filter} {replace : TagFunction} {name : String}
    (hf : f.behavior = .expand replace) (hname : f.shortName = .ok name)
    (hspace : Tag.PlainSpace settings.tagNamespace.toList) {text : Text}
    (htext : Tag.headless text = true) (params : Option FilterParams) :
    f.Leaves settings params text := by
  intro stages session hs
  have hexpand : Tag.Walk.expand (tagName settings name) settings.maxAttributesLength
      (replace.noted params) text = pure text :=
    Tag.Walk.expand_of_headless htext hspace.no_space hspace.no_closing name.toList
  rw [run_expand hf hname stages text params hs,
    Tag.expand_eq_walk (replace.noted params) (plain_tagName hname hspace.no_opening), hexpand]
  rfl

theorem Filter.run_foldlM_of_leaves {params : Option FilterParams} {text : Text}
    {filters : List Filter} (h : ∀ f ∈ filters, f.Leaves settings params text)
    (stages : TagStage → Text → Option FilterParams → Action Text) {session : Session}
    (hs : session.settings = .ok settings) :
    (filters.foldlM (fun text (f : Filter) => f.run stages text params) text).run session =
      .ok text session := by
  induction filters with
  | nil => rfl
  | cons f rest ih =>
    obtain ⟨hf, hrest⟩ := List.forall_mem_cons.mp h
    rw [List.foldlM_cons, Action.run_bind_of_ok (hf stages session hs), ih hrest]

/-! ## The code filter in front -/

namespace Standard.CodeBlock

/-- The name of the tags that hold code. -/
def tag (settings : Settings) : Tag.TagName := ⟨settings.tagNamespace.toList, "code".toList⟩

def tagged (settings : Settings) (body : Text) : Text :=
  (tag settings).head ++ '>' :: body ++ (tag settings).closing

/-- The code filter turns a code tag into the block for its body, with one call. -/
theorem run_tagged {f : Filter} (hdata : f.data = data) (hbehavior : f.behavior = filter.behavior)
    {body block : Text} {params : Option FilterParams}
    (hblock : replacement [] body params = .ok block)
    (hspace : Tag.PlainSpace settings.tagNamespace.toList)
    (hlimit : 0 ≤ settings.maxAttributesLength)
    (hhead : ¬ (tag settings).head <:+: body) (hclosing : ¬ (tag settings).closing <:+: body)
    (stages : TagStage → Text → Option FilterParams → Action Text) {session : Session}
    (hs : session.settings = .ok settings) :
    (f.run stages (tagged settings body) params).run session =
      .ok block { session with calls := session.calls ++ [⟨[], body, params.isSome⟩] } := by
  let replace : TagFunction := fun attributes body params =>
    Action.ofExcept (replacement attributes body params)
  have hname : f.shortName = .ok "code" := by
    rw [Filter.shortName, hdata]
    rfl
  have hword : LowerWord "code".toList := lowerWord_of_all (by decide) (by decide)
  have hpair : Tag.Walk.expand (Filter.tagName settings "code") settings.maxAttributesLength
      (replace.noted params) (tagged settings body) = replace.noted params [] body :=
    Tag.Walk.expand_lone_pair hspace.no_opening hword (by omega) hhead hclosing
  rw [Filter.run_expand hbehavior hname stages _ params hs,
    Tag.expand_eq_walk _ (Filter.plain_tagName hname hspace.no_opening), hpair,
    TagFunction.noted, Action.run_bind_of_ok (Action.run_noteCall _ session)]
  show (Action.ofExcept (replacement [] body params)).run _ = _
  rw [hblock]
  rfl

/-- Both stages and the plain markup filter are registered, the code filter is the first of the tag
filters before markup, and none of the others has a way of its own to find tags. -/
structure ComesFirst (r : Registry) : Prop where
  reachable : r.Reachable
  pre_stage : ∃ f, r.lookup "macropre" = some f ∧ f.behavior = .stage .preMarkup
  post_stage : ∃ f, r.lookup "macropost" = some f ∧ f.behavior = .stage .postMarkup
  plain : ∃ f, r.lookup "plain" = some f ∧ f.behavior = Markup.plain.behavior
  first : ∃ code others, r.byKind .preMarkup = code :: others ∧ code.data = data ∧
    code.behavior = filter.behavior ∧ ∀ f ∈ others, ∃ replace, f.behavior = .expand replace
  post_filters : ∀ f ∈ r.byKind .postMarkup, ∃ replace, f.behavior = .expand replace

namespace ComesFirst

variable {r : Registry} (h : ComesFirst r) {params : FilterParams}
include h

theorem leaves_of_expand (hspace : Tag.PlainSpace settings.tagNamespace.toList) {text : Text}
    (htext : Tag.headless text = true) {k : FilterKind} {f : Filter} (hf : f ∈ r.byKind k)
    (hexpand : ∃ replace, f.behavior = .expand replace) :
    f.Leaves settings (some params) text := by
  obtain ⟨replace, hreplace⟩ := hexpand
  obtain ⟨name, hname⟩ := h.reachable.coherent.exists_shortName hf
  exact Filter.leaves_of_headless hreplace hname hspace htext (some params)

/-- With plain markup and nothing after it, the flat chain is the code filter followed by filters
that leave headless texts as they are, and no name is left out of it. -/
theorem exists_flat (hmarkup : params.markup = "plain") (hfilters : params.filters = []) :
    Pipeline.skipRecords r params = [] ∧
      ∃ code rest, ((Pipeline.chainNames params).filterMap r.lookup).flatMap r.spread =
          code :: rest ∧ code.data = data ∧ code.behavior = filter.behavior ∧
        ∀ settings : Settings, Tag.PlainSpace settings.tagNamespace.toList →
          ∀ text, Tag.headless text = true →
            ∀ f ∈ rest, f.Leaves settings (some params) text := by
  obtain ⟨pre, hpre, hpreStage⟩ := h.pre_stage
  obtain ⟨post, hpost, hpostStage⟩ := h.post_stage
  obtain ⟨plain, hplain, hplainBehavior⟩ := h.plain
  obtain ⟨code, others, hfirst, hdata, hbehavior, hothers⟩ := h.first
  have hnames : Pipeline.chainNames params = ["macropre", "plain", "macropost"] := by
    rw [Pipeline.chainNames, hmarkup, hfilters]
    rfl
  have hself : r.spread plain = [plain] := by
    rw [Registry.spread, hplainBehavior]
    rfl
  refine ⟨?_, code, others ++ plain :: r.byKind .postMarkup, ?_, hdata, hbehavior, ?_⟩
  · rw [Pipeline.skipRecords, hnames]
    simp [hpre, hplain, hpost]
  · rw [hnames]
    simp only [List.filterMap_cons, hpre, hplain, hpost, List.filterMap_nil, List.flatMap_cons,
      List.flatMap_nil, Registry.spread_stage hpreStage, Registry.spread_stage hpostStage, hself,
      TagStage.kind, hfirst, List.cons_append, List.nil_append, List.append_nil]
  · intro settings hspace text htext f hf
    rcases List.mem_append.mp hf with hother | hlater
    · have hmem : f ∈ r.byKind .preMarkup := by
        rw [hfirst]
        exact List.mem_cons_of_mem code hother
      exact h.leaves_of_expand hspace htext hmem (hothers f hother)
    · rcases List.mem_cons.mp hlater with rfl | hmem
      · intro stages session _
        rw [Filter.run, hplainBehavior]
        rfl
      · exact h.leaves_of_expand hspace htext hmem (h.post_filters f hmem)

/-- A code tag is rendered as the block for its body. -/
theorem run_render (hspace : Tag.PlainSpace settings.tagNamespace.toList)
    (hlimit : 0 ≤ settings.maxAttributesLength) (hmarkup : params.markup = "plain")
    (hfilters : params.filters = []) {body block : Text}
    (hblock : replacement [] body (some params) = .ok block) (hheadless : Tag.headless block = true)
    (hhead : ¬ (tag settings).head <:+: body) (hclosing : ¬ (tag settings).closing <:+: body)
    {session : Session} (hs : session.settings = .ok settings) :
    (Pipeline.render r (tagged settings body) (some params)).run session =
      .ok block { session with calls := session.calls ++ [⟨[], body, true⟩] } := by
  obtain ⟨hskipped, code, rest, hchain, hdata, hbehavior, hrest⟩ := h.exists_flat hmarkup hfilters
  have hthere : (r.lookup params.markup).isSome := by
    obtain ⟨plain, hplain, -⟩ := h.plain
    rw [hmarkup, hplain]
    rfl
  have htext : tagged settings body ≠ [] := by simp [tagged, tag, Tag.TagName.head]
  have hcode := run_tagged hdata hbehavior hblock hspace hlimit hhead hclosing
    (fun _ text _ => pure text) hs
  rw [Pipeline.run_render htext hthere, hskipped, List.append_nil,
    h.reachable.coherent.foldlM_run_eq_flatMap (fun _ text _ => pure text), hchain,
    List.foldlM_cons, Action.run_bind_of_ok hcode]
  exact Filter.run_foldlM_of_leaves (hrest settings hspace block hheadless) _ hs

end ComesFirst

/-- Code is protected from every tag filter. Whatever the attributes, the body and the parameters,
a block is given and holds no head of a tag, so a tag filter returns it unchanged and asks for no
replacement. A document that is one code tag is rendered as the block for its body, by this one
call, even if the body is full of other tags. -/
theorem render_tagged (hspace : Tag.PlainSpace settings.tagNamespace.toList) :
    (∀ attributes body params, ∃ block, replacement attributes body params = .ok block ∧
      (∀ name, ¬ Tag.TagName.head ⟨settings.tagNamespace.toList, name⟩ <:+: block) ∧
      ∀ (f : Filter) replace name, f.behavior = .expand replace → f.shortName = .ok name →
        ∀ stages later (session : Session), session.settings = .ok settings →
          (f.run stages block later).run session = .ok block session) ∧
      ∀ (r : Registry) (params : FilterParams) (body : Text) (session : Session),
        0 ≤ settings.maxAttributesLength → ComesFirst r → params.markup = "plain" →
          params.filters = [] → ¬ (tag settings).head <:+: body →
          ¬ (tag settings).closing <:+: body → session.settings = .ok settings →
          ∃ block, replacement [] body (some params) = .ok block ∧
            (Pipeline.render r (tagged settings body) (some params)).run session =
              .ok block { session with calls := session.calls ++ [⟨[], body, true⟩] } := by
  constructor
  · intro attributes body params
    obtain ⟨language, numbered, caption, hblock⟩ := exists_replacement attributes body params
    have hheadless := headless_render language numbered caption body
    refine ⟨_, hblock, Tag.not_head_infix hheadless hspace.no_space hspace.no_closing, ?_⟩
    intro f replace name hf hname stages later session hs
    exact Filter.leaves_of_headless hf hname hspace hheadless later stages session hs
  · intro r params body session hlimit hfirst hmarkup hfilters hhead hclosing hs
    obtain ⟨language, numbered, caption, hblock⟩ := exists_replacement [] body (some params)
    exact ⟨_, hblock, hfirst.run_render hspace hlimit hmarkup hfilters hblock
      (headless_render language numbered caption body) hhead hclosing hs⟩

/-- With the standard filters, a note inside a code tag is shown. -/
theorem render_tagged_note :
    (Pipeline.render (Registry.registerAll {} (filters .bundled)).1
        "<publify:code><publify:note>x</publify:note></publify:code>".toList
        (some { markup := "plain" })).run { settings := .ok {} } =
      .ok "<pre><code>&lt;publify:note&gt;x&lt;/publify:note&gt;</code></pre>".toList
        { settings := .ok {}
          calls := [⟨[], "<publify:note>x</publify:note>".toList, true⟩] } := by
  have hr : Registry.Reachable (Registry.registerAll {} (filters .bundled)).1 :=
    Registry.reachable_registerAll _
  have hentries : (Registry.registerAll {} (filters .bundled)).1.entries =
      [("macropre", Standard.stage .preMarkup), ("macropost", Standard.stage .postMarkup),
        ("markdown", Markup.markdown .bundled), ("plain", Markup.plain), ("code", filter),
        ("note", Admonition.filter), ("sanitize", Cleaning.filter .bundled none),
        ("externallinks", OffsiteLinks.filter .bundled)] := rfl
  generalize (Registry.registerAll {} (filters .bundled)).1 = r at hr hentries ⊢
  have hfirst : ComesFirst r := by
    refine ⟨hr, ⟨Standard.stage .preMarkup, ?_, rfl⟩, ⟨Standard.stage .postMarkup, ?_, rfl⟩,
      ⟨Markup.plain, ?_, rfl⟩, ⟨filter, [], ?_, rfl, rfl, ?_⟩, ?_⟩
    · rw [Registry.lookup, hentries]
      rfl
    · rw [Registry.lookup, hentries]
      rfl
    · rw [Registry.lookup, hentries]
      rfl
    · rw [hr.coherent.byKind_eq, Registry.all, hentries]
      rfl
    · exact fun f hf => absurd hf List.not_mem_nil
    · have hnotes : r.byKind .postMarkup = [Admonition.filter] := by
        rw [hr.coherent.byKind_eq, Registry.all, hentries]
        rfl
      rw [hnotes]
      intro f hf
      rw [List.mem_singleton.mp hf]
      exact ⟨_, rfl⟩
  have hblank : (({} : Settings).tagNamespace.toList.all fun c => Text.isBlank c == false) = true :=
    by decide
  have hspace : Tag.PlainSpace ({} : Settings).tagNamespace.toList :=
    ⟨fun c hc => eq_of_beq (List.all_eq_true.mp hblank c hc), by decide, by decide⟩
  have hbody : 'c' ∉ "<publify:note>x</publify:note>".toList := by decide
  obtain ⟨block, hblock, hrun⟩ := (render_tagged hspace).2 r { markup := "plain" }
    "<publify:note>x</publify:note>".toList { settings := .ok {} } (by decide) hfirst rfl rfl
    (fun hhead => hbody (hhead.subset (by decide)))
    (fun hclosing => hbody (hclosing.subset (by decide))) rfl
  have hshown : block =
      "<pre><code>&lt;publify:note&gt;x&lt;/publify:note&gt;</code></pre>".toList := by
    cases hblock
    rfl
  rw [← hshown]
  exact hrun

end Standard.CodeBlock

end ContentFilters
