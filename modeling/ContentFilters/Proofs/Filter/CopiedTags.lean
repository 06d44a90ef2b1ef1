import ContentFilters.Proofs.Filter.Expansion
import ContentFilters.Proofs.Tag.Steps

/-!
# Refused self-closing tags are not opening tags

A tag filter expands self-closing tags first and pairs of tags second. What the first pass refuses
it copies, and the second pass reads the copy. It does not take a copied self-closing tag for the
opening half of a pair, with all the text up to the next closing half as its body: an opening tag
that it accepts in a copied text does not end with a slash.
-/
namespace ContentFilters.Filter
open Tag.Walk (Step steps selfClosingTags pairs)

variable {f : Filter} {replace : TagFunction} {name : String} {settings : Settings}

/-- The second pass reads what the first one copied, between the replacements around it. -/
theorem run_eq_paired (hf : f.behavior = .expand replace) (hname : f.shortName = .ok name)
    (stages : TagStage → Text → Option FilterParams → Action Text) {text : Text}
    (params : Option FilterParams) {session : Session} (hs : session.settings = .ok settings)
    (hspace : '<' ∉ settings.tagNamespace.toList) {front back : List Step} {copied : Text}
    (hsteps : steps (selfClosingTags (tagName settings name) settings.maxAttributesLength) text =
      front ++ copied.map .kept ++ back) :
    (f.run stages text params).run session = (do
      let before ← front.mapM (Step.result (replace.noted params))
      let behind ← back.mapM (Step.result (replace.noted params))
      Tag.expandPaired (replace.noted params)
        { text := before.flatten ++ copied ++ behind.flatten, name := tagName settings name,
          limit := settings.maxAttributesLength } 0 : Action Text).run session := by
  have hself : Tag.expandSelfClosing (replace.noted params)
      { text := text, name := tagName settings name, limit := settings.maxAttributesLength } 0 =
      Tag.Walk.rewrite _ (replace.noted params) text :=
    Tag.expandSelfClosing_eq_walk _ (plain_tagName hname hspace) (Tag.knownBracket_none text 0)
  rw [run_expand hf hname stages text params hs, Tag.expand, hself,
    Tag.Walk.rewrite_of_steps _ hsteps]
  simp only [bind_assoc, pure_bind]

theorem run_eq_pairs (hf : f.behavior = .expand replace) (hname : f.shortName = .ok name)
    (stages : TagStage → Text → Option FilterParams → Action Text) {text : Text}
    (params : Option FilterParams) {session : Session} (hs : session.settings = .ok settings)
    (hspace : '<' ∉ settings.tagNamespace.toList)
    (hsteps : steps (selfClosingTags (tagName settings name) settings.maxAttributesLength) text =
      text.map .kept) :
    (f.run stages text params).run session =
      (List.flatten <$> (steps (pairs (tagName settings name) settings.maxAttributesLength)
        text).mapM (Step.result (replace.noted params)) : Action Text).run session := by
  have hpaired : Tag.expandPaired (replace.noted params)
      { text := text, name := tagName settings name, limit := settings.maxAttributesLength } 0 =
      Tag.Walk.rewrite _ (replace.noted params) text :=
    Tag.expandPaired_eq_walk _ (plain_tagName hname hspace) (Tag.knownBracket_none text 0)
  have hcopied : steps (selfClosingTags (tagName settings name) settings.maxAttributesLength) text =
      [] ++ text.map .kept ++ [] := by
    rw [hsteps, List.nil_append, List.append_nil]
  rw [run_eq_paired hf hname stages params hs hspace hcopied]
  simp only [List.mapM_nil, pure_bind, List.flatten_nil, List.nil_append, List.append_nil]
  rw [hpaired, Tag.Walk.rewrite_eq_mapM_steps]

/-- The first pass keeps or replaces, step by step. Where it kept a run of characters, the second
pass reads them between what the steps around them gave, and none of its searches accepts an opening
tag in them that ends with a slash, or any tag that starts where a self-closing tag was copied. So if
the first pass replaces nothing, the second one asks for no replacement of a pair whose opening tag
ends with a slash. -/
theorem run_no_slashed_opening (hf : f.behavior = .expand replace) (hname : f.shortName = .ok name)
    (stages : TagStage → Text → Option FilterParams → Action Text) (text : Text)
    (params : Option FilterParams) {session : Session} (hs : session.settings = .ok settings)
    (hspace : '<' ∉ settings.tagNamespace.toList) :
    let tag := tagName settings name
    let limit := settings.maxAttributesLength
    let noted := replace.noted params
    let first := steps (selfClosingTags tag limit) text
    let second := steps (pairs tag limit) text
    first.flatMap Step.source = text ∧
      (∀ front copied back, first = front ++ copied.map .kept ++ back →
        (f.run stages text params).run session = (do
          let before ← front.mapM (Step.result noted)
          let behind ← back.mapM (Step.result noted)
          Tag.expandPaired noted { text := before.flatten ++ copied ++ behind.flatten,
                                   name := tag, limit := limit } 0 : Action Text).run session ∧
        ∀ before behind scanner place opening,
          Tag.Searches { text := before ++ copied ++ behind, name := tag, limit := limit } 0
            scanner place →
          (scanner.find place .opening).1 = some opening →
          (before.length ≤ opening.start → opening.stop ≤ before.length + copied.length →
            opening.attributeText.getLast? ≠ some '/') ∧
          ∀ lead refused trail, copied = lead ++ tag.head ++ refused ++ ['/', '>'] ++ trail →
            '>' ∉ refused → opening.start ≠ before.length + lead.length) ∧
      ((∀ source a body, Step.replaced source a body ∉ first) →
        (f.run stages text params).run session =
          (List.flatten <$> second.mapM (Step.result noted) : Action Text).run session ∧
        ∀ source a body, .replaced source a body ∈ second →
          source = tag.head ++ a ++ ['>'] ++ body ++ tag.closing ∧ a.getLast? ≠ some '/') := by
  intro tag limit noted first second
  refine ⟨Tag.Walk.flatMap_source_steps (Tag.Walk.cuts_selfClosingTags tag limit) text, ?_, ?_⟩
  · intro front copied back hsteps
    refine ⟨run_eq_paired hf hname stages params hs hspace hsteps, ?_⟩
    have hcopied : copied.map .kept <:+: first := ⟨front, back, hsteps.symm⟩
    have hplain := plain_tagName hname hspace
    intro before behind scanner place opening hsearch hfind
    constructor
    · exact Tag.Walk.getLast?_ne_slash_of_find hplain hcopied hsearch hfind
    · intro lead refused trail hsplit hrefused
      exact Tag.Walk.start_ne_of_find hplain hcopied hsplit hrefused hsearch hfind
  · intro hnone
    have hkept : first = text.map .kept := Tag.Walk.steps_eq_map_kept hnone
    refine ⟨run_eq_pairs hf hname stages params hs hspace hkept, ?_⟩
    intro source a body hpair
    exact Tag.Walk.getLast?_ne_slash_of_pair hkept hpair

theorem run_no_slashed_opening_tooLong :
    let settings : Settings := { maxAttributesLength := 2 }
    let f := keepsBody "Note" .preMarkup
    let tag := tagName settings "note"
    let accepted := "<publify:note ab/>".toList
    let refused := "<publify:note abc/>d</publify:note>".toList
    (f.run (fun _ text _ => pure text) (accepted ++ refused) none).run { settings := .ok settings } =
        (do
          let replaced ← Step.result (plainBody.noted none) (.replaced accepted " ab".toList [])
          Tag.expandPaired (plainBody.noted none)
            { text := replaced ++ refused, name := tag, limit := 2 } 0 : Action Text).run
          { settings := .ok settings } ∧
      (∀ scanner place opening,
        Tag.Searches { text := refused, name := tag, limit := 2 } 0 scanner place →
        (scanner.find place .opening).1 = some opening → opening.start ≠ 0) ∧
      (f.run (fun _ text _ => pure text) refused none).run { settings := .ok settings } =
        (List.flatten <$> (steps (pairs tag 2) refused).mapM
          (Step.result (plainBody.noted none)) : Action Text).run { settings := .ok settings } := by
  intro settings f tag accepted refused
  have hname : f.shortName = .ok "note" := shortName_eq_ok.mpr (by decide)
  have hs : ({ settings := .ok settings } : Session).settings = .ok settings := rfl
  have hrun := fun text =>
    run_no_slashed_opening rfl hname (fun _ text _ => pure text) text none hs (by decide)
  have hmixed : steps (selfClosingTags tag 2) (accepted ++ refused) =
      [.replaced accepted " ab".toList []] ++ refused.map .kept ++ [] := by decide +kernel
  have hrefused : steps (selfClosingTags tag 2) refused = refused.map .kept := by decide +kernel
  obtain ⟨-, hcopied, -⟩ := hrun (accepted ++ refused)
  obtain ⟨hpaired, hopening⟩ := hcopied _ _ _ hmixed
  obtain ⟨-, -, hnothing⟩ := hrun refused
  refine ⟨?_, ?_, ?_⟩
  · rw [hpaired]
    simp only [List.mapM_cons, List.mapM_nil, bind_assoc, pure_bind, List.flatten_cons,
      List.flatten_nil, List.append_nil]
    rfl
  · intro scanner place opening hsearch hfind
    have hcopy : Tag.Searches { text := [] ++ refused ++ [], name := tag, limit := 2 } 0 scanner
        place := by
      simpa using hsearch
    have hsplit : "<publify:note abc/>d</publify:note>".toList =
        [] ++ (tagName settings "note").head ++ " abc".toList ++ ['/', '>'] ++
          "d</publify:note>".toList := by
      decide +kernel
    exact (hopening [] [] scanner place opening hcopy hfind).2 _ _ _ hsplit (by decide)
  · refine (hnothing fun source a body hmem => ?_).1
    rw [hrefused] at hmem
    simp at hmem

end ContentFilters.Filter
