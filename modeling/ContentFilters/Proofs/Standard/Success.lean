import ContentFilters.Proofs.Registry.Chain
import ContentFilters.Proofs.Standard.Admonition
import ContentFilters.Proofs.Standard.Registered
import ContentFilters.Proofs.Tag.Places

/-!
# Tag expansion does not fail

Authors write tags, and deployments write options, in any way they like. The code filter and the
note filter give a text all the same: every option that they ask for has a default, every value has
a displayed form, and an unknown type of note is taken as a plain one. So neither expansion, nor a
stage, nor rendering without the filters that read whole documents fails, whatever the text, the
namespace, the limit and the options are.
-/
namespace ContentFilters

/-- With these settings an action returns a result and keeps the settings. -/
def Action.Succeeds (settings : Settings) (α : Type) (x : Action α) : Prop :=
  ∀ session : Session, session.settings = .ok settings → ∃ a after,
    x.run session = .ok a after ∧ after.settings = .ok settings

variable {settings : Settings}

theorem sequential_succeeds : Sequential (Action.Succeeds settings) where
  pure a session hs := ⟨a, session, rfl, hs⟩
  bind := by
    intro α β x next hx hnext session hs
    obtain ⟨a, middle, hrun, hmiddle⟩ := hx session hs
    obtain ⟨b, after, hrun', hafter⟩ := hnext a middle hmiddle
    exact ⟨b, after, (Action.run_bind_of_ok hrun).trans hrun', hafter⟩

namespace Action

theorem succeeds_settings : Succeeds settings Settings Action.settings :=
  fun session hs => ⟨settings, session, run_settings hs, hs⟩

theorem succeeds_noteCall (call : TagCall) : Succeeds settings Unit (noteCall call) :=
  fun session hs => ⟨(), _, run_noteCall call session, hs⟩

theorem succeeds_report (level : Journal.Level) (logger message : String) :
    Succeeds settings Unit (report level logger message) :=
  fun _ hs => ⟨(), _, rfl, hs⟩

theorem succeeds_ofExcept {α : Type} {x : Except FilterError α} (h : ∃ a, x = .ok a) :
    Succeeds settings α (ofExcept x) := by
  obtain ⟨a, rfl⟩ := h
  exact sequential_succeeds.pure a

end Action

namespace Standard

variable {tools : Tools}

/-! ## Both tag filters -/

/-- Both options of a code block are declared with a default. -/
theorem CodeBlock.exists_optionValue (params : Option FilterParams) :
    ∀ option ∈ ["lang", "linenumber"], ∃ v, data.optionValue params option = .ok v := by
  simp only [List.forall_mem_cons]
  exact ⟨Descriptor.exists_optionValue rfl params, Descriptor.exists_optionValue rfl params,
    List.forall_mem_nil _⟩

theorem CodeBlock.succeeds_run (params : Option FilterParams)
    (stages : TagStage → Text → Option FilterParams → Action Text) (text : Text) :
    Action.Succeeds settings Text (filter.run stages text params) := by
  have hname : filter.shortName = .ok "code" := rfl
  refine sequential_succeeds.run_of_expand Action.succeeds_settings Action.succeeds_noteCall rfl
    hname (fun attributes body => ?_) stages text
  obtain ⟨language, numbered, caption, hblock⟩ := exists_replacement attributes body params
  exact Action.succeeds_ofExcept ⟨_, hblock⟩

theorem Admonition.succeeds_replacement (attributes : Tag.Attributes) (body : Text)
    (params : Option FilterParams) :
    Action.Succeeds settings Text (replacement attributes body params) :=
  sequential_replacement sequential_succeeds Action.succeeds_report
    (Action.succeeds_ofExcept (exists_kindName attributes params)) body

theorem Admonition.succeeds_run (params : Option FilterParams)
    (stages : TagStage → Text → Option FilterParams → Action Text) (text : Text) :
    Action.Succeeds settings Text (filter.run stages text params) := by
  have hname : filter.shortName = .ok "note" := rfl
  exact sequential_succeeds.run_of_expand Action.succeeds_settings Action.succeeds_noteCall rfl
    hname (fun attributes body => succeeds_replacement attributes body params) stages text

/-! ## Stages and chains -/

/-- The filters that read a text as Markdown or as a document. -/
def documentNames : List String := ["markdown", "sanitize", "externallinks"]

/-- What a name that is none of these looks up runs to its end, a stage by its bucket. -/
theorem succeeds_spread (params : Option FilterParams)
    (stages : TagStage → Text → Option FilterParams → Action Text) {serial : Nat} {name : String}
    (hname : name ∉ documentNames) {f : Filter} (hf : (registry tools serial).lookup name = some f) :
    ∀ g ∈ (registry tools serial).spread f, ∀ text,
      Action.Succeeds settings Text (g.run stages text params) := by
  refine forall_mem_spread (fun _ _ h => h) (CodeBlock.succeeds_run params stages)
    (Admonition.succeeds_run params stages) (fun hnot => ?_) tools serial
  obtain ⟨g, n, hg, rfl⟩ := exists_of_lookup hf
  simp only [documentNames, List.mem_cons, List.not_mem_nil, or_false, not_or] at hname
  obtain ⟨hmarkdown, hsanitize, hlinks⟩ := hname
  rcases leaf_cases hg hnot with ⟨h, -⟩ | ⟨-, rfl⟩ | ⟨-, rfl⟩ | ⟨-, rfl⟩ | ⟨h, -⟩ | ⟨h, -⟩
  · exact absurd h hmarkdown
  · exact sequential_succeeds.pure
  · exact CodeBlock.succeeds_run params stages
  · exact Admonition.succeeds_run params stages
  · exact absurd h hsanitize
  · exact absurd h hlinks

theorem succeeds_stage (params : Option FilterParams) (serial : Nat) (s : TagStage) (text : Text) :
    Action.Succeeds settings Text ((registry tools serial).run (stage s) text params) := by
  have hleaves : ∀ g ∈ (registry tools serial).spread (stage s), ∀ text,
      Action.Succeeds settings Text (g.run (fun _ text _ => pure text) text params) :=
    forall_mem_spread (fun _ _ h => h) (CodeBlock.succeeds_run params _)
      (Admonition.succeeds_run params _) (fun hnot => absurd rfl (hnot s)) tools serial
  rw [(reachable_registry tools serial).coherent.run_eq_foldlM_spread (fun _ text _ => pure text)]
  exact sequential_succeeds.foldlM (fun text g hg => hleaves g hg text) text

/-- The markup asked for is the plain one, and no filter that reads whole documents is asked for. -/
def PlainParams (settings : Settings) (params : Option FilterParams) : Prop :=
  let asked := Pipeline.effective settings params
  asked.markup = "plain" ∧ ∀ name ∈ asked.filters, name ∉ documentNames

theorem PlainParams.not_mem_documentNames {params : Option FilterParams}
    (h : PlainParams settings params) :
    ∀ name ∈ Pipeline.chainNames (Pipeline.effective settings params), name ∉ documentNames := by
  obtain ⟨hmarkup, hfilters⟩ := h
  rw [Pipeline.chainNames, hmarkup]
  simp only [List.forall_mem_cons]
  exact ⟨by decide, by decide, by decide, hfilters⟩

theorem succeeds_render {params : Option FilterParams} (h : PlainParams settings params)
    (serial : Nat) (text : Text) :
    Action.Succeeds settings Text (Pipeline.render (registry tools serial) text params) := by
  intro session hs
  rw [Pipeline.run_render_effective hs]
  by_cases htext : text = []
  · subst htext
    exact ⟨[], session, Pipeline.run_render_nil _ _ session, hs⟩
  · have hfound : ((registry tools serial).lookup "plain").isSome := by
      rw [Registry.lookup, entries_registry]
      rfl
    rw [Pipeline.run_render_flat (reachable_registry tools serial).coherent htext (h.1.symm ▸ hfound)
      (fun _ text _ => pure text)]
    refine sequential_succeeds.foldlM (fun text g hg => ?_) text _ hs
    exact Pipeline.forall_mem_flat (fun name hname f hf =>
      succeeds_spread _ _ (h.not_mem_documentNames name hname) hf) g hg text

/-- Nothing that the two tag filters do can fail, whatever the text, the settings and the options
are. The scan for tags looks at no place outside the text. The options that the filters ask for have
values, and each tag is replaced. So both filters, both stages over the standard filters, and
rendering without the filters that read whole documents return a text. -/
theorem expansion_succeeds (settings : Settings) (tools : Tools) (serial : Nat)
    (params : Option FilterParams) :
    (∀ text name limit scanner, Tag.Scanner.Reached text name limit scanner → ∀ place form,
        Tag.Scanner.findByPlace? name limit form text scanner.bracket place =
          some ((scanner.find place form).1, (scanner.find place form).2.bracket)) ∧
      (∀ option ∈ ["lang", "linenumber"], ∃ v, CodeBlock.data.optionValue params option = .ok v) ∧
      (∃ v, Admonition.data.optionValue params "type" = .ok v) ∧
      (∀ attributes body, (∃ block, CodeBlock.replacement attributes body params = .ok block) ∧
        Action.Succeeds settings Text (Admonition.replacement attributes body params)) ∧
      (∀ stages text,
        Action.Succeeds settings Text (CodeBlock.filter.run stages text params) ∧
        Action.Succeeds settings Text (Admonition.filter.run stages text params)) ∧
      (∀ s text,
        Action.Succeeds settings Text ((registry tools serial).run (stage s) text params)) ∧
      (PlainParams settings params → ∀ text,
        Action.Succeeds settings Text (Pipeline.render (registry tools serial) text params)) := by
  refine ⟨fun text name limit scanner h place form => h.findByPlace?_eq place form,
    CodeBlock.exists_optionValue params, Admonition.exists_optionValue params,
    fun attributes body => ⟨?_, Admonition.succeeds_replacement attributes body params⟩,
    fun stages text => ⟨CodeBlock.succeeds_run params stages text,
      Admonition.succeeds_run params stages text⟩,
    succeeds_stage params serial, fun h => succeeds_render h serial⟩
  obtain ⟨language, numbered, caption, hblock⟩ := CodeBlock.exists_replacement attributes body params
  exact ⟨_, hblock⟩

/-- A setup without markup whose options have values of other types than texts, and which asks for a
filter that is not there. -/
def oddParams : FilterParams where
  markup := "plain"
  filters := ["absent", "note"]
  options := [("lang", .object [("a", .null)]), ("linenumber", .null), ("type", .list [])]

/-- A head at the very end of a text is looked at without failing, and a text with tags is rendered
with these options. -/
theorem expansion_succeeds_oddParams :
    (Tag.Scanner.findByPlace? ⟨"publify".toList, "note".toList⟩ 10 .selfClosing
        "<publify:note>".toList none 0).isSome ∧
      ∃ result after,
        (Pipeline.render (registry .bundled 0)
          "<publify:code></publify:code><publify:note type=1/>".toList (some oddParams)).run
          { settings := .ok {} } = .ok result after := by
  have hplain : PlainParams {} (some oddParams) := by
    simp only [PlainParams, Pipeline.effective, Option.getD_some]
    decide
  obtain ⟨hscan, -, -, -, -, -, hrender⟩ := expansion_succeeds {} .bundled 0 (some oddParams)
  have hlooked := hscan "<publify:note>".toList ⟨"publify".toList, "note".toList⟩ 10 _ .new 0
    .selfClosing
  refine ⟨Option.isSome_of_eq_some hlooked, ?_⟩
  obtain ⟨result, after, hrun, -⟩ := hrender hplain
    "<publify:code></publify:code><publify:note type=1/>".toList { settings := .ok {} } rfl
  exact ⟨result, after, hrun⟩

end Standard

end ContentFilters
