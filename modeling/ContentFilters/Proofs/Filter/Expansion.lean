import ContentFilters.Proofs.Filter.ShortName
import ContentFilters.Proofs.Tag.Expansion

/-!
# Tag filters expand what the plain reading reads

A tag filter takes the namespace and the limit from the settings and the name of its tags from its
own identity. Running it on a text is the plain walk over the text, position by position, whatever
the replacement of a tag does: return, fail, write to the journal or change the session.
-/
namespace ContentFilters

namespace Action

variable {α β : Type}

theorem run_bind_of_ok {x : Action α} {next : α → Action β} {session after : Session} {a : α}
    (h : x.run session = .ok a after) : (x >>= next).run session = (next a).run after := by
  rw [EStateM.run_bind, h]

theorem run_settings {session : Session} {settings : Settings}
    (h : session.settings = .ok settings) : Action.settings.run session = .ok settings session := by
  have hread : (get : Action Session).run session = .ok session session := rfl
  rw [Action.settings, run_bind_of_ok hread, h]
  rfl

theorem run_noteCall (call : TagCall) (session : Session) :
    (noteCall call).run session = .ok () { session with calls := session.calls ++ [call] } := rfl

end Action

/-- The replacement of a tag together with the note that it was asked for. -/
def TagFunction.noted (replace : TagFunction) (params : Option FilterParams) :
    Tag.Replacement Action := fun attributes body => do
  Action.noteCall ⟨attributes, body, params.isSome⟩
  replace attributes body params

namespace Filter

/-- The tags that a filter with a name expands under some settings. -/
def tagName (settings : Settings) (name : String) : Tag.TagName :=
  ⟨settings.tagNamespace.toList, name.toList⟩

theorem plain_tagName {f : Filter} {name : String} (hname : f.shortName = .ok name)
    {settings : Settings} (hspace : '<' ∉ settings.tagNamespace.toList) :
    (tagName settings name).Plain :=
  ⟨hspace, (Descriptor.lowerWord_of_shortName? (shortName_eq_ok.mp hname)).not_mem (by decide)⟩

variable {f : Filter} {replace : TagFunction} {name : String} {settings : Settings}

/-- What a tag filter does once the settings are read and its name is known. -/
theorem run_expand (hf : f.behavior = .expand replace) (hname : f.shortName = .ok name)
    (stages : TagStage → Text → Option FilterParams → Action Text) (text : Text)
    (params : Option FilterParams) {session : Session} (hs : session.settings = .ok settings) :
    (f.run stages text params).run session =
      (Tag.expand (tagName settings name) settings.maxAttributesLength (replace.noted params)
        text).run session := by
  have hnamed : (Action.ofExcept f.shortName).run session = .ok name session := by
    rw [hname]
    rfl
  rw [Filter.run, hf]
  simp only [expandTags]
  rw [Action.run_bind_of_ok (Action.run_settings hs), Action.run_bind_of_ok hnamed]
  rfl

/-- Running a tag filter is the walk that looks at every position of the text: first for
self-closing tags, and then, in what that gave, for pairs whose body ends at the first closing half.
The session shows that the same replacements are asked for in the same order. -/
theorem run_eq_walk (hf : f.behavior = .expand replace) (hname : f.shortName = .ok name)
    (stages : TagStage → Text → Option FilterParams → Action Text) (text : Text)
    (params : Option FilterParams) {session : Session} (hs : session.settings = .ok settings)
    (hspace : '<' ∉ settings.tagNamespace.toList) :
    let tag := tagName settings name
    let limit := settings.maxAttributesLength
    LowerWord name.toList ∧
      (f.run stages text params).run session =
        (Tag.Walk.expand tag limit (replace.noted params) text).run session ∧
      (∀ s a body rest, (Tag.Walk.selfClosingTags tag limit).read? s = some (a, body, rest) ↔
        s = tag.head ++ a ++ ['/', '>'] ++ rest ∧ body = [] ∧ Tag.Acceptable limit a) ∧
      (∀ s a body rest, (Tag.Walk.pairs tag limit).read? s = some (a, body, rest) ↔
        s = tag.head ++ a ++ ['>'] ++ body ++ tag.closing ++ rest ∧ Tag.Acceptable limit a ∧
          ∀ i < body.length, ¬ tag.closing <+: (body ++ tag.closing ++ rest).drop i) := by
  intro tag limit
  refine ⟨Descriptor.lowerWord_of_shortName? (shortName_eq_ok.mp hname), ?_, ?_, ?_⟩
  · rw [run_expand hf hname stages text params hs,
      Tag.expand_eq_walk (replace.noted params) (plain_tagName hname hspace)]
  · exact fun _ _ _ _ => Tag.Walk.read?_selfClosingTags_eq_some
  · exact fun _ _ _ _ => Tag.Walk.read?_pairs_eq_some

/-- Leaves of a tag its body, without the opening brackets in it. -/
def plainBody : TagFunction := fun _ body _ => pure (body.filter (· ≠ '<'))

def keepsBody (word : String) (kind : FilterKind) : Filter where
  data := { moduleName := "filters", qualifiedName := word, typeName := word, kind := kind }
  behavior := .expand plainBody

theorem run_eq_walk_keepsBody :
    let f := keepsBody "Note" .preMarkup
    let text := "<publify:note>a</publify:note><publify:note/>".toList
    LowerWord "note".toList ∧
      (f.run (fun _ text _ => pure text) text none).run { settings := .ok {} } =
        (Tag.Walk.expand (tagName {} "note") 2048 (plainBody.noted none) text).run
          { settings := .ok {} } := by
  intro f text
  have hname : f.shortName = .ok "note" := shortName_eq_ok.mpr (by decide)
  have hs : ({ settings := .ok {} } : Session).settings = .ok {} := rfl
  have hwalk := run_eq_walk rfl hname (fun _ text _ => pure text) text none hs (by decide)
  exact ⟨hwalk.1, hwalk.2.1⟩

end Filter

end ContentFilters
