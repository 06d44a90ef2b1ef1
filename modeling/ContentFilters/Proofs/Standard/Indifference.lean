import ContentFilters.Proofs.Registry.Chain
import ContentFilters.Proofs.Standard.Admonition
import ContentFilters.Proofs.Standard.Registered

/-!
# What a rendering depends on

Parameters are handed as a whole to every filter, and so to every tag of a text. Still only a few
things in them matter: the markup, the names in the list that are registered, and those values of
six options that are truthy. Parameters that agree on these are rendered alike, to the same text or
the same error. The journal may differ, since names that are not registered are reported, with the
name of the setup. But no filter looks at the journal, so the difference stays there.
-/
namespace ContentFilters

/-! ## Apart from the journal -/

def Session.unlogged (s : Session) : Session := { s with records := [] }

theorem Session.exists_records {s s' : Session} (h : s.unlogged = s'.unlogged) :
    ∃ records, s = { s' with records := records } := by
  cases s
  cases s'
  cases h
  exact ⟨_, rfl⟩

namespace Action

def unlogged {α : Type} :
    EStateM.Result FilterError Session α → EStateM.Result FilterError Session α
  | .ok a s => .ok a s.unlogged
  | .error e s => .error e s.unlogged

/-- An action that never looks at the journal: with another one it comes to the same, the journal
apart. -/
def Oblivious (α : Type) (x : Action α) : Prop :=
  ∀ (s : Session) (records : List Journal.Record),
    unlogged (x.run { s with records := records }) = unlogged (x.run s)

theorem sequential_oblivious : Sequential Oblivious where
  pure _ _ _ := rfl
  bind := by
    intro α β x next hx hnext s records
    have hsame := hx s records
    cases hrun : x.run s with
    | ok a middle =>
      cases hrun' : x.run { s with records := records } with
      | ok a' middle' =>
        rw [hrun, hrun'] at hsame
        obtain ⟨rfl, hmiddle⟩ := EStateM.Result.ok.inj hsame
        obtain ⟨records', rfl⟩ := Session.exists_records hmiddle
        rw [run_bind_of_ok hrun, run_bind_of_ok hrun']
        exact hnext a' middle records'
      | error e middle' =>
        rw [hrun, hrun'] at hsame
        cases hsame
    | error e middle =>
      cases hrun' : x.run { s with records := records } with
      | ok a middle' =>
        rw [hrun, hrun'] at hsame
        cases hsame
      | error e' middle' =>
        rw [hrun, hrun'] at hsame
        obtain ⟨rfl, hmiddle⟩ := EStateM.Result.error.inj hsame
        rw [run_bind_of_error hrun, run_bind_of_error hrun']
        exact congrArg (EStateM.Result.error e') hmiddle

theorem oblivious_settings : Oblivious Settings settings := by
  rintro ⟨read, _, _, _⟩ _
  cases read with
  | ok _ => rfl
  | error _ => rfl

theorem oblivious_sharedPolicy : Oblivious Html.Policy sharedPolicy := by
  rintro ⟨read, _, _, shared⟩ _
  cases shared with
  | some _ => rfl
  | none =>
    cases read with
    | ok _ => rfl
    | error _ => rfl

theorem oblivious_report (level : Journal.Level) (logger message : String) :
    Oblivious Unit (report level logger message) := fun _ _ => rfl

theorem oblivious_noteCall (call : TagCall) : Oblivious Unit (noteCall call) := fun _ _ => rfl

theorem oblivious_ofExcept {α : Type} (x : Except FilterError α) : Oblivious α (ofExcept x) := by
  cases x with
  | ok a => exact sequential_oblivious.pure a
  | error e => exact fun _ _ => rfl

end Action

namespace Standard

variable {tools : Tools}

/-! ## The standard filters -/

/-- The filters that are no stages use the session only for the settings, for the shared policy, and
to note their calls. -/
theorem oblivious_run {name : String} {g : Filter} (hg : (name, g) ∈ named tools)
    (hnot : ∀ s, g.behavior ≠ .stage s) (params : Option FilterParams)
    (stages : TagStage → Text → Option FilterParams → Action Text) (text : Text) :
    Action.Oblivious Text (g.run stages text params) := by
  rcases leaf_cases hg hnot with ⟨-, rfl⟩ | ⟨-, rfl⟩ | ⟨-, rfl⟩ | ⟨-, rfl⟩ | ⟨-, rfl⟩ | ⟨-, rfl⟩
  · exact Action.sequential_oblivious.bind Action.oblivious_settings fun _ =>
      Action.oblivious_ofExcept _
  · exact Action.sequential_oblivious.pure text
  · have hname : CodeBlock.filter.shortName = .ok "code" := rfl
    exact Action.sequential_oblivious.run_of_expand Action.oblivious_settings
      Action.oblivious_noteCall rfl hname (fun _ _ => Action.oblivious_ofExcept _) stages text
  · have hname : Admonition.filter.shortName = .ok "note" := rfl
    exact Action.sequential_oblivious.run_of_expand Action.oblivious_settings
      Action.oblivious_noteCall rfl hname (fun _ body => Admonition.sequential_replacement
        Action.sequential_oblivious Action.oblivious_report (Action.oblivious_ofExcept _) body)
      stages text
  · exact Action.sequential_oblivious.bind Action.oblivious_sharedPolicy fun _ =>
      Action.oblivious_ofExcept _
  · exact Action.oblivious_ofExcept _

end Standard

/-! ## Parameters that agree -/

/-- The value supplied for an option; one that is not truthy counts as none. -/
def FilterParams.supplied? (p : FilterParams) (option : String) : Option Value :=
  (Value.field? option p.options).filter Value.truthy

theorem Descriptor.optionValue_congr (d : Descriptor) {p q : FilterParams} {option : String}
    (h : p.supplied? option = q.supplied? option) :
    d.optionValue (some p) option = d.optionValue (some q) option := by
  have hsupplied : ((some p).bind fun p => Value.field? option p.options).filter Value.truthy =
      ((some q).bind fun p => Value.field? option p.options).filter Value.truthy := h
  unfold optionValue
  rw [hsupplied]

theorem Filter.run_expand_congr {f : Filter} {replace : TagFunction}
    (hf : f.behavior = .expand replace) {p q : FilterParams}
    (h : ∀ attributes body, replace attributes body (some p) = replace attributes body (some q))
    (stages : TagStage → Text → Option FilterParams → Action Text) (text : Text) :
    f.run stages text (some p) = f.run stages text (some q) := by
  simp only [run, hf, expandTags, h, Option.isSome_some]

namespace Standard

variable {tools : Tools}

def optionNames : List String := ["lang", "linenumber", "type", "target", "rel", "site_host"]

/-- Agreement in all that a rendering depends on. -/
structure Alike (r : Registry) (p q : FilterParams) : Prop where
  markup : p.markup = q.markup
  filters : (p.filters.filter fun name => (r.lookup name).isSome) =
    q.filters.filter fun name => (r.lookup name).isSome
  options : ∀ option ∈ optionNames, p.supplied? option = q.supplied? option

section Congruence

variable {p q : FilterParams} (h : ∀ option ∈ optionNames, p.supplied? option = q.supplied? option)
include h

theorem CodeBlock.replacement_congr (attributes : Tag.Attributes) (body : Text) :
    replacement attributes body (some p) = replacement attributes body (some q) := by
  unfold replacement
  rw [data.optionValue_congr (h "lang" (by decide)),
    data.optionValue_congr (h "linenumber" (by decide))]

theorem Admonition.replacement_congr (attributes : Tag.Attributes) (body : Text) :
    replacement attributes body (some p) = replacement attributes body (some q) := by
  unfold replacement kindName
  rw [data.optionValue_congr (h "type" (by decide))]

theorem OffsiteLinks.transform_congr (text : Text) :
    transform tools text (some p) = transform tools text (some q) := by
  unfold transform marking
  rw [data.optionValue_congr (h "target" (by decide)), data.optionValue_congr (h "rel" (by decide)),
    data.optionValue_congr (h "site_host" (by decide))]

theorem run_congr {name : String} {g : Filter} (hg : (name, g) ∈ named tools)
    (hnot : ∀ s, g.behavior ≠ .stage s)
    (stages : TagStage → Text → Option FilterParams → Action Text) (text : Text) :
    g.run stages text (some p) = g.run stages text (some q) := by
  rcases leaf_cases hg hnot with ⟨-, rfl⟩ | ⟨-, rfl⟩ | ⟨-, rfl⟩ | ⟨-, rfl⟩ | ⟨-, rfl⟩ | ⟨-, rfl⟩
  · rfl
  · rfl
  · exact Filter.run_expand_congr rfl
      (fun attributes body => congrArg Action.ofExcept
        (CodeBlock.replacement_congr h attributes body)) stages text
  · exact Filter.run_expand_congr rfl (Admonition.replacement_congr h) stages text
  · rfl
  · exact congrArg Action.ofExcept (OffsiteLinks.transform_congr h text)

end Congruence

/-! ## Renderings -/

theorem Alike.filterMap_lookup {r : Registry} {p q : FilterParams} (h : Alike r p q) :
    (Pipeline.chainNames p).filterMap r.lookup = (Pipeline.chainNames q).filterMap r.lookup := by
  have hkept : ∀ names : List String, names.filterMap r.lookup =
      (names.filter fun name => (r.lookup name).isSome).filterMap r.lookup := by
    intro names
    rw [List.filterMap_filter]
    refine List.filterMap_congr fun name _ => ?_
    cases r.lookup name <;> rfl
  simp only [Pipeline.chainNames, List.filterMap_cons]
  rw [h.markup, hkept p.filters, hkept q.filters, h.filters]

/-- A filter that neither looks at the journal nor tells two parameters apart. -/
def Indifferent (p q : FilterParams)
    (stages : TagStage → Text → Option FilterParams → Action Text) (g : Filter) : Prop :=
  ∀ text, Action.Oblivious Text (g.run stages text (some p)) ∧
    g.run stages text (some p) = g.run stages text (some q)

theorem indifferent_of_leaf {p q : FilterParams}
    (h : ∀ option ∈ optionNames, p.supplied? option = q.supplied? option)
    (stages : TagStage → Text → Option FilterParams → Action Text) {name : String} {g : Filter}
    (hg : (name, g) ∈ named tools) (hnot : ∀ s, g.behavior ≠ .stage s) : Indifferent p q stages g :=
  fun text => ⟨oblivious_run hg hnot (some p) stages text, run_congr h hg hnot stages text⟩

theorem indifferent_spread {p q : FilterParams}
    (h : ∀ option ∈ optionNames, p.supplied? option = q.supplied? option)
    (stages : TagStage → Text → Option FilterParams → Action Text) {serial : Nat} {name : String}
    {f : Filter} (hf : (registry tools serial).lookup name = some f) :
    ∀ g ∈ (registry tools serial).spread f, Indifferent p q stages g := by
  have hcode : ("code", CodeBlock.filter) ∈ named tools := by simp [named]
  have hnote : ("note", Admonition.filter) ∈ named tools := by simp [named]
  refine forall_mem_spread (fun _ _ hrun => hrun)
    (indifferent_of_leaf h stages hcode (Filter.not_stage_of_expandsTags rfl))
    (indifferent_of_leaf h stages hnote (Filter.not_stage_of_expandsTags rfl)) (fun hnot => ?_)
    tools serial
  obtain ⟨g, n, hg, rfl⟩ := exists_of_lookup hf
  have hrun : Indifferent p q stages g := indifferent_of_leaf h stages hg hnot
  exact hrun

theorem indifferent_runFlat {serial : Nat} {p q : FilterParams}
    (h : Alike (registry tools serial) p q)
    (stages : TagStage → Text → Option FilterParams → Action Text) (text : Text) :
    Action.Oblivious Text (Pipeline.runFlat (registry tools serial) stages p text) ∧
      Pipeline.runFlat (registry tools serial) stages p text =
        Pipeline.runFlat (registry tools serial) stages q text := by
  have hleaf : ∀ g ∈ ((Pipeline.chainNames p).filterMap (registry tools serial).lookup).flatMap
      (registry tools serial).spread, Indifferent p q stages g :=
    Pipeline.forall_mem_flat fun _ _ _ hf => indifferent_spread h.options stages hf
  refine ⟨Action.sequential_oblivious.foldlM (fun text g hg => (hleaf g hg text).1) text, ?_⟩
  unfold Pipeline.runFlat
  rw [← h.filterMap_lookup]
  exact Filter.foldlM_run_congr (fun g hg text => (hleaf g hg text).2) text

theorem unlogged_run_render {serial : Nat} {p q : FilterParams}
    (h : Alike (registry tools serial) p q) (text : Text) (session : Session) :
    Action.unlogged ((Pipeline.render (registry tools serial) text (some p)).run session) =
      Action.unlogged ((Pipeline.render (registry tools serial) text (some q)).run session) := by
  by_cases htext : text = []
  · subst htext
    rw [Pipeline.run_render_nil, Pipeline.run_render_nil]
  cases hmarkup : (registry tools serial).lookup p.markup with
  | none =>
    have hmarkup' := h.markup ▸ hmarkup
    rw [Pipeline.run_render_of_missing_markup hmarkup htext,
      Pipeline.run_render_of_missing_markup hmarkup' htext, h.markup]
    simp only [Action.unlogged, Session.unlogged]
  | some f =>
    have hthere : ((registry tools serial).lookup p.markup).isSome := by rw [hmarkup]; rfl
    have hr := (reachable_registry tools serial).coherent
    -- both runs differ from one on the given session by what the walk has written
    obtain ⟨hoblivious, hsame⟩ := indifferent_runFlat h (fun _ text _ => pure text) text
    rw [Pipeline.run_render_flat hr htext hthere fun _ text _ => pure text,
      Pipeline.run_render_flat hr htext (h.markup ▸ hthere) fun _ text _ => pure text, ← hsame]
    exact (hoblivious session _).trans (hoblivious session _).symm

/-- Rendering over the standard filters comes to the same text or the same error, the journal apart,
for parameters that agree on the markup, on the registered names and on the truthy values of the six
options. So the name of a setup, a name that is not registered, wherever it stands, and any other
option change nothing but the journal. This holds whatever the tools of the filters do, and for any
errors of theirs. -/
theorem render_indifferent (tools : Tools) (serial : Nat) (text : Text) (session : Session) :
    let outcome := fun params : FilterParams =>
      Action.unlogged ((Pipeline.render (registry tools serial) text (some params)).run session)
    (∀ p q, Alike (registry tools serial) p q → outcome p = outcome q) ∧
      ∀ (p : FilterParams) (before after : List String), p.filters = before ++ after →
        ∀ name unknown options, (registry tools serial).lookup unknown = none →
          (∀ option ∈ optionNames,
            Value.field? option options = Value.field? option p.options) →
          outcome ⟨name, p.markup, before ++ unknown :: after, options⟩ = outcome p := by
  intro outcome
  refine ⟨fun p q h => unlogged_run_render h text session, ?_⟩
  intro p before after hp name unknown options hunknown hoptions
  have halike : Alike (registry tools serial)
      ⟨name, p.markup, before ++ unknown :: after, options⟩ p := by
    refine ⟨rfl, ?_, fun option hoption => ?_⟩
    · rw [hp, List.filter_append, List.filter_append, List.filter_cons_of_neg (by simp [hunknown])]
    · exact congrArg (Option.filter Value.truthy) (hoptions option hoption)
  exact unlogged_run_render halike text session

def twin : FilterParams where
  name := "one"
  markup := "plain"
  filters := ["note"]
  options := [("lang", .str "lean"), ("type", .null)]

/-- A setup with another name, with filters that are not there, with another value that is not
truthy, and with an option that no filter reads. -/
def otherTwin : FilterParams where
  name := "two"
  markup := "plain"
  filters := ["absent", "note", "none"]
  options := [("colour", .str "red"), ("lang", .str "lean"), ("linenumber", .list [])]

/-- The two setups are rendered alike, and so is the first one with a filter that is not there. -/
theorem render_indifferent_twin :
    let outcome := fun params : FilterParams => Action.unlogged
      ((Pipeline.render (registry .bundled 0) "<publify:code>x</publify:code>".toList
        (some params)).run { settings := .ok {} })
    outcome twin = outcome otherTwin ∧
      outcome ⟨"three", "plain", ["absent", "note"], twin.options⟩ = outcome twin := by
  intro outcome
  have hlookup : ∀ name, (registry .bundled 0).lookup name = Registry.entry? name
      ((named .bundled).mapIdx fun i entry => (entry.1, { entry.2 with serial := 0 + i })) := by
    intro name
    rw [Registry.lookup, entries_registry]
  have hnote : ((registry .bundled 0).lookup "note").isSome = true := by rw [hlookup]; rfl
  have habsent : (registry .bundled 0).lookup "absent" = none := by rw [hlookup]; rfl
  have hnone : ((registry .bundled 0).lookup "none").isSome = false := by rw [hlookup]; rfl
  obtain ⟨halike, hinserted⟩ :=
    render_indifferent .bundled 0 "<publify:code>x</publify:code>".toList { settings := .ok {} }
  refine ⟨halike twin otherTwin ⟨rfl, ?_, ?_⟩, ?_⟩
  · simp [twin, otherTwin, hnote, habsent, hnone]
  · simp only [optionNames, List.forall_mem_cons]
    exact ⟨rfl, rfl, rfl, rfl, rfl, rfl, List.forall_mem_nil _⟩
  · exact hinserted twin [] ["note"] rfl "three" "absent" twin.options habsent fun _ _ => rfl

end Standard

end ContentFilters
