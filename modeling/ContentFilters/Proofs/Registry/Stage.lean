import ContentFilters.Proofs.Filter.Pass
import ContentFilters.Proofs.Registry.Views
import ContentFilters.Registry.Pipeline
import ContentFilters.Standard.Library

/-!
# Stages over printed documents

A stage runs the registered tag filters of its kind, each over what the one before gave. On the text
of a document that is the passes of these filters over the items, in the order of the registry. What
becomes of an item depends on the registry only through the filter with its name, and the calls of
each filter are those that its own tags in the document stand for.
-/
namespace ContentFilters.Registry

open Tag (Item printed)

variable {settings : Settings} {params : Option FilterParams}

def passes (r : Registry) (stage : TagStage) : List Pass :=
  (r.byKind stage.kind).flatMap Filter.passes

/-- No two filters of a registry have the same name. -/
theorem Coherent.pairwise_shortName {r : Registry} (hr : Coherent r) (k : FilterKind) :
    (r.byKind k).Pairwise fun f g => f.data.shortName? ≠ g.data.shortName? := by
  have hsome : r.entries.map (some ·.1) = (r.entries.map (·.1)).map some := List.map_map.symm
  have hall : (r.all.map (·.data.shortName?)).Nodup := by
    rw [hr.map_shortName, hsome]
    exact hr.nodup.map fun _ _ => Option.some.inj
  rw [hr.byKind_eq]
  exact (List.pairwise_map.mp hall).filter _

/-- Every filter of a registry has a name. -/
theorem Coherent.exists_shortName {r : Registry} (hr : Coherent r) {k : FilterKind} {f : Filter}
    (hf : f ∈ r.byKind k) : ∃ name, f.shortName = .ok name := by
  rw [hr.byKind_eq] at hf
  obtain ⟨entry, hentry, rfl⟩ := List.mem_map.mp (List.mem_filter.mp hf).1
  exact ⟨entry.1, Filter.shortName_eq_ok.mpr (hr.named entry hentry)⟩

/-- Tag filters with different names, run in turn on a printed document, make their passes over its
items in turn. -/
theorem exists_followed_foldlM {filters : List Filter} {items : List Item} {session : Session}
    (hnames : filters.Pairwise fun f g => f.data.shortName? ≠ g.data.shortName?)
    (hfilters : ∀ f ∈ filters, ∃ name replace, f.shortName = .ok name ∧
      f.behavior = .expand replace ∧
      ∀ attributes body, Harmless settings (replace attributes body params))
    (hspace : '<' ∉ settings.tagNamespace.toList)
    (hitems : ∀ item ∈ items, item.WellFormed settings.maxAttributesLength)
    (hs : session.settings = .ok settings)
    (stages : TagStage → Text → Option FilterParams → Action Text) :
    ∃ finals after,
      (filters.foldlM (fun text (f : Filter) => f.run stages text params)
        (printed settings.tagNamespace.toList items)).run session =
        .ok (printed settings.tagNamespace.toList finals) after ∧
      Followed settings params (filters.flatMap Filter.passes) session items finals after := by
  induction filters generalizing items session with
  | nil => exact ⟨items, session, rfl, .nil hs hitems⟩
  | cons f rest ih =>
    obtain ⟨hne, hrest⟩ := List.pairwise_cons.mp hnames
    obtain ⟨⟨name, replace, hname, hf, hharmless⟩, hothers⟩ := List.forall_mem_cons.mp hfilters
    obtain ⟨between, middle, hrun, hfollowed⟩ :=
      Filter.exists_followed hf hname hharmless hspace hitems hs stages
    obtain ⟨finals, after, hrun', hfollowed'⟩ :=
      ih hrest hothers hfollowed.wellFormed hfollowed.settings_eq
    refine ⟨finals, after, ?_, ?_⟩
    · rw [List.foldlM_cons, Action.run_bind_of_ok hrun, hrun']
    · rw [List.flatMap_cons]
      refine hfollowed.trans hfollowed' fun p hp q hq => ?_
      obtain ⟨g, hg, hqg⟩ := List.mem_flatMap.mp hq
      exact Filter.tag_ne_of_name_ne (hne g hg) p hp q hqg

/-- Running a stage on a printed document answers exactly the tags with registered names, each with
a text returned for the attributes and the body it was printed from; everything else stays, whatever
the order of the registry. The run is that of the passes over the items, and where the replacements
ask for none themselves, the calls are those of each filter in turn: for its self-closing tags and
then for its pairs, as they stand in the document. -/
theorem run_stage_printed {r : Registry} (hr : Reachable r) (stage : TagStage)
    (hspace : '<' ∉ settings.tagNamespace.toList)
    (hfilters : ∀ f ∈ r.byKind stage.kind, ∃ replace, f.behavior = .expand replace ∧
      ∀ attributes body, Harmless settings (replace attributes body params))
    {items : List Item} (hitems : ∀ item ∈ items, item.WellFormed settings.maxAttributesLength)
    {session : Session} (hs : session.settings = .ok settings) :
    ∃ finals after,
      (r.run (Standard.stage stage) (printed settings.tagNamespace.toList items) params).run
        session = .ok (printed settings.tagNamespace.toList finals) after ∧
      ((r.passes stage).foldlM (Pass.answer params) items).run session = .ok finals after ∧
      List.Forall₂ (Answered settings params (r.passes stage)) items finals ∧
      ((∀ p ∈ r.passes stage, ∀ attributes body, Quiet (p.replace attributes body params)) →
        after.calls = session.calls ++ (r.passes stage).flatMap (Pass.calls params items)) := by
  have hcoherent : Coherent r := hr.coherent
  have hnamed : ∀ f ∈ r.byKind stage.kind, ∃ name replace, f.shortName = .ok name ∧
      f.behavior = .expand replace ∧
      ∀ attributes body, Harmless settings (replace attributes body params) := by
    intro f hf
    obtain ⟨name, hname⟩ := hcoherent.exists_shortName hf
    obtain ⟨replace, hbehavior, hharmless⟩ := hfilters f hf
    exact ⟨name, replace, hname, hbehavior, hharmless⟩
  obtain ⟨finals, after, hrun, hfollowed⟩ :=
    exists_followed_foldlM (hcoherent.pairwise_shortName stage.kind) hnamed hspace hitems hs
      fun _ text _ => pure text
  exact ⟨finals, after, hrun, hfollowed.run_eq, hfollowed.answered, hfollowed.calls_eq⟩

def notes : List Item :=
  [.literal "see ".toList, .selfClosing "code".toList [],
    .paired "note".toList [⟨' ', "k".toList, "v".toList, '"'⟩] "b".toList,
    .paired "other".toList [] "x".toList]

theorem run_stage_printed_notes :
    let r := (registerAll {} [Filter.keepsBody "Note" .preMarkup,
      Filter.keepsBody "Code" .preMarkup]).1
    (r.run (Standard.stage .preMarkup) (printed "publify".toList notes) none).run
      { settings := .ok {} } =
      .ok "see b<publify:other>x</publify:other>".toList
        { settings := .ok {}
          calls := [⟨[("k".toList, "v".toList)], "b".toList, false⟩, ⟨[], [], false⟩] } := by
  intro r
  have hr : Reachable r := reachable_registerAll _
  have hs : ({ settings := .ok {} } : Session).settings = .ok {} := rfl
  have hnote : (Filter.keepsBody "Note" .preMarkup).shortName = .ok "note" :=
    Filter.shortName_eq_ok.mpr (by decide)
  have hcode : (Filter.keepsBody "Code" .preMarkup).shortName = .ok "code" :=
    Filter.shortName_eq_ok.mpr (by decide)
  have hkind : r.byKind .preMarkup = [Filter.keepsBody "Note" .preMarkup,
    Filter.keepsBody "Code" .preMarkup] := rfl
  have hpasses : r.passes .preMarkup =
      [⟨.selfClosing, "note".toList, Filter.plainBody⟩, ⟨.opening, "note".toList, Filter.plainBody⟩,
        ⟨.selfClosing, "code".toList, Filter.plainBody⟩,
        ⟨.opening, "code".toList, Filter.plainBody⟩] := by
    rw [passes, TagStage.kind, hkind, List.flatMap_cons, List.flatMap_cons,
      Filter.passes_eq rfl hnote, Filter.passes_eq rfl hcode]
    rfl
  have hharmless : ∀ attributes body, Harmless {} (Filter.plainBody attributes body none) :=
    fun _ body session hsession => ⟨_, session, rfl, hsession, by simp⟩
  have hfilters : ∀ f ∈ r.byKind TagStage.preMarkup.kind, ∃ replace, f.behavior = .expand replace ∧
      ∀ attributes body, Harmless {} (replace attributes body none) := by
    rw [TagStage.kind, hkind]
    simp only [List.forall_mem_cons]
    exact ⟨⟨_, rfl, hharmless⟩, ⟨_, rfl, hharmless⟩, fun _ hnone => nomatch hnone⟩
  have hbare : Tag.Printable 2048 [] := ⟨by simp, by simp, by simp, by decide⟩
  have hvalue : Tag.Printable 2048 [⟨' ', "k".toList, "v".toList, '"'⟩] := by
    refine ⟨List.forall_mem_singleton.mpr ?_, by simp, by simp, by decide⟩
    refine ⟨by decide, by decide, List.all_eq_true.mp (by decide), .inl rfl, by decide, ?_⟩
    rintro quote (rfl | rfl) hne
    · exact absurd rfl hne
    · decide
  have hitems : ∀ item ∈ notes, item.WellFormed 2048 := by
    simp only [notes, List.forall_mem_cons]
    exact ⟨.literal (by decide), .selfClosing (lowerWord_of_all (by decide) (by decide)) hbare,
      .paired (lowerWord_of_all (by decide) (by decide)) hvalue (by decide),
      .paired (lowerWord_of_all (by decide) (by decide)) hbare (by decide),
      fun _ hnone => nomatch hnone⟩
  obtain ⟨finals, after, hrun, hpassed, -, -⟩ :=
    run_stage_printed hr .preMarkup (by decide) hfilters hitems hs
  rw [hpasses] at hpassed
  have hfinals : EStateM.Result.ok [.literal "see ".toList, .literal [], .literal "b".toList,
      .paired "other".toList [] "x".toList] _ = EStateM.Result.ok finals after := hpassed
  cases hfinals
  exact hrun

end ContentFilters.Registry
