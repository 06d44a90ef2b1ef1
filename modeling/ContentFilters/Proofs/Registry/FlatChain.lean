import ContentFilters.Proofs.Filter.Expansion
import ContentFilters.Proofs.Registry.Views
import ContentFilters.Registry.Pipeline
import ContentFilters.Standard.Library

/-!
# The pipeline as one flat run

Rendering nests two loops: the chain of looked-up filters, and inside its stages the registered tag
filters of a kind. In a reachable registry this is one run over a flat list, in which every stage is
replaced by its bucket. No stage is ever found in a bucket, so none is reached from inside another,
and a failure inside a stage ends the whole run just as a failure outside does.
-/
namespace ContentFilters

/-! ## Running filters in turn -/

/-- What comes of running filters in turn from a text and a session on: each gets the text and the
session that the one before left, and the first failure is the result, whatever was to follow. -/
inductive InTurn (run : Filter → Text → Action Text) :
    List Filter → Text → Session → EStateM.Result FilterError Session Text → Prop
  | done (text : Text) (session : Session) : InTurn run [] text session (.ok text session)
  | next {f : Filter} {rest : List Filter} {text between : Text} {session middle : Session}
      {result : EStateM.Result FilterError Session Text} :
      (run f text).run session = .ok between middle → InTurn run rest between middle result →
        InTurn run (f :: rest) text session result
  | failed {f : Filter} (rest : List Filter) {text : Text} {session after : Session}
      {e : FilterError} :
      (run f text).run session = .error e after →
        InTurn run (f :: rest) text session (.error e after)

theorem inTurn_foldlM (run : Filter → Text → Action Text) (filters : List Filter) (text : Text)
    (session : Session) :
    InTurn run filters text session
      ((filters.foldlM (fun text f => run f text) text).run session) := by
  induction filters generalizing text session with
  | nil => exact .done text session
  | cons f rest ih =>
    rw [List.foldlM_cons]
    cases hrun : (run f text).run session with
    | ok between middle =>
      rw [Action.run_bind_of_ok hrun]
      exact .next hrun (ih between middle)
    | error e after =>
      rw [EStateM.run_bind, hrun]
      exact .failed rest hrun

/-- A run in turn has one result. -/
theorem InTurn.unique {run : Filter → Text → Action Text} {filters : List Filter} {text : Text}
    {session : Session} {result other : EStateM.Result FilterError Session Text}
    (h : InTurn run filters text session result) (h' : InTurn run filters text session other) :
    result = other := by
  induction h with
  | done text session =>
    cases h'
    rfl
  | next hrun _ ih =>
    cases h' with
    | next hrun' hrest =>
      rw [hrun] at hrun'
      cases hrun'
      exact ih hrest
    | failed _ hrun' =>
      rw [hrun] at hrun'
      cases hrun'
  | failed rest hrun =>
    cases h' with
    | next hrun' _ =>
      rw [hrun] at hrun'
      cases hrun'
    | failed _ hrun' =>
      rw [hrun] at hrun'
      cases hrun'
      rfl

/-- What a filter that is not a stage does has nothing to do with stages. -/
theorem Filter.run_of_not_stage {f : Filter} (hf : ∀ s, f.behavior ≠ .stage s)
    (stages stages' : TagStage → Text → Option FilterParams → Action Text) (text : Text)
    (params : Option FilterParams) : f.run stages text params = f.run stages' text params := by
  unfold Filter.run
  cases hb : f.behavior with
  | stage s => exact absurd hb (hf s)
  | undefined => rfl
  | transform run => rfl
  | expand replace => rfl

theorem Filter.foldlM_run_congr {filters : List Filter}
    {stages stages' : TagStage → Text → Option FilterParams → Action Text}
    {params params' : Option FilterParams}
    (h : ∀ f ∈ filters, ∀ text, f.run stages text params = f.run stages' text params')
    (text : Text) :
    filters.foldlM (fun text f => f.run stages text params) text =
      filters.foldlM (fun text f => f.run stages' text params') text := by
  induction filters generalizing text with
  | nil => rfl
  | cons f rest ih =>
    obtain ⟨hf, hrest⟩ := List.forall_mem_cons.mp h
    simp only [List.foldlM_cons, hf, ih hrest]

namespace Registry

/-- The filters that a filter stands for: those of its bucket if it is a stage, else itself. -/
def spread (r : Registry) (f : Filter) : List Filter :=
  match f.behavior with
  | .stage s => r.byKind s.kind
  | _ => [f]

theorem spread_stage {r : Registry} {f : Filter} {s : TagStage} (hf : f.behavior = .stage s) :
    r.spread f = r.byKind s.kind := by rw [spread, hf]

theorem spread_of_not_stage {r : Registry} {f : Filter} (hf : ∀ s, f.behavior ≠ .stage s) :
    r.spread f = [f] := by
  unfold spread
  split
  · next s hs => exact absurd hs (hf s)
  · rfl

/-- No stage stands in a bucket that a stage runs. -/
theorem Coherent.not_stage_of_mem {r : Registry} (hr : Coherent r) {stage : TagStage} {f : Filter}
    (hf : f ∈ r.byKind stage.kind) (s : TagStage) : f.behavior ≠ .stage s := by
  apply Filter.not_stage_of_expandsTags
  rw [hr.kind_of_mem hf]
  exact stage.expandsTags_kind

theorem Coherent.not_stage_of_mem_spread {r : Registry} (hr : Coherent r) {f g : Filter}
    (hg : g ∈ r.spread f) (s : TagStage) : g.behavior ≠ .stage s := by
  unfold spread at hg
  split at hg
  · exact hr.not_stage_of_mem hg s
  · next hnot =>
    rw [List.mem_singleton.mp hg]
    exact hnot s

section Runs

variable {r : Registry} (hr : Coherent r)
  (stages : TagStage → Text → Option FilterParams → Action Text) (params : Option FilterParams)
include hr

/-- Running a filter over a registry is running the filters that it stands for. -/
theorem Coherent.run_eq_foldlM_spread (f : Filter) (text : Text) :
    r.run f text params =
      (r.spread f).foldlM (fun text g => g.run stages text params) text := by
  by_cases hf : ∃ s, f.behavior = .stage s
  · obtain ⟨s, hs⟩ := hf
    have hrun : r.run f text params = r.runStage s text params := by
      unfold Registry.run Filter.run
      rw [hs]
    rw [hrun, spread_stage hs]
    exact Filter.foldlM_run_congr (fun g hg text =>
      Filter.run_of_not_stage (hr.not_stage_of_mem hg) _ stages text params) text
  · have hnot : ∀ s, f.behavior ≠ .stage s := fun s hs => hf ⟨s, hs⟩
    rw [spread_of_not_stage hnot]
    simp only [List.foldlM_cons, List.foldlM_nil, bind_pure]
    exact Filter.run_of_not_stage hnot r.runStage stages text params

theorem Coherent.foldlM_run_eq_flatMap (chain : List Filter) (text : Text) :
    chain.foldlM (fun text f => r.run f text params) text =
      (chain.flatMap r.spread).foldlM (fun text g => g.run stages text params) text := by
  induction chain generalizing text with
  | nil => rfl
  | cons f rest ih =>
    rw [List.foldlM_cons, List.flatMap_cons, List.foldlM_append,
      hr.run_eq_foldlM_spread stages params f text]
    simp only [ih]

end Runs

end Registry

namespace Pipeline

variable {r : Registry} {params : FilterParams}

def skipRecord (params : FilterParams) (name : String) : Journal.Record :=
  ⟨.warning, loggerName, skipMessage name params.name⟩

def skipRecords (r : Registry) (params : FilterParams) : List Journal.Record :=
  ((chainNames params).filter fun name => (r.lookup name).isNone).map (skipRecord params)

theorem resolve_of_found {name : String} {f : Filter} (h : r.lookup name = some f)
    (rest : List String) :
    resolve r params (name :: rest) = (do return f :: (← resolve r params rest)) := by
  rw [resolve, h]

theorem resolve_of_missing {name : String} (h : r.lookup name = none) (hne : name ≠ params.markup)
    (rest : List String) :
    resolve r params (name :: rest) = (do
      Action.report .warning loggerName (skipMessage name params.name)
      resolve r params rest) := by
  rw [resolve, h]
  simp only [if_neg hne]

/-- With the markup filter registered, every other name that is not there is reported and left
out. -/
theorem run_resolve (hmarkup : (r.lookup params.markup).isSome) (names : List String)
    (session : Session) :
    (resolve r params names).run session = .ok (names.filterMap r.lookup)
      { session with records := session.records ++
        (names.filter fun name => (r.lookup name).isNone).map (skipRecord params) } := by
  induction names generalizing session with
  | nil =>
    simp only [List.filterMap_nil, List.filter_nil, List.map_nil, List.append_nil]
    rfl
  | cons name rest ih =>
    cases hname : r.lookup name with
    | some f =>
      rw [resolve_of_found hname, Action.run_bind_of_ok (ih session)]
      simp only [List.filterMap_cons, List.filter_cons, hname, Option.isNone_some,
        Bool.false_eq_true, if_false]
      rfl
    | none =>
      have hne : name ≠ params.markup := by
        rintro rfl
        rw [hname] at hmarkup
        cases hmarkup
      have hreport : (Action.report .warning loggerName (skipMessage name params.name)).run session
          = .ok () { session with records := session.records ++ [skipRecord params name] } := rfl
      rw [resolve_of_missing hname hne, Action.run_bind_of_ok hreport, ih]
      simp only [List.filterMap_cons, List.filter_cons, hname, Option.isNone_none, if_true,
        List.map_cons, List.append_assoc, List.singleton_append]

theorem run_render {text : Text} (htext : text ≠ []) (hmarkup : (r.lookup params.markup).isSome)
    (session : Session) :
    (render r text (some params)).run session =
      (((chainNames params).filterMap r.lookup).foldlM
        (fun text f => r.run f text (some params)) text).run
        { session with records := session.records ++ skipRecords r params } := by
  have hempty : text.isEmpty = false := by simpa using htext
  unfold render
  simp only [hempty, Bool.false_eq_true, if_false, pure_bind]
  exact Action.run_bind_of_ok (run_resolve hmarkup (chainNames params) session)

/-- Rendering a text runs one flat list of filters in turn: the bucket of the first stage, the
markup filter, the bucket of the second stage, and the post-process filters that are registered,
with every stage among them replaced by its bucket. No stage is left in the list, so it does not
matter what one would do. The names left out are reported before the first filter runs. -/
theorem render_inTurn (hr : Registry.Reachable r) {pre post markup : Filter}
    (hpre : r.lookup "macropre" = some pre) (hpreStage : pre.behavior = .stage .preMarkup)
    (hpost : r.lookup "macropost" = some post) (hpostStage : post.behavior = .stage .postMarkup)
    (hmarkup : r.lookup params.markup = some markup) {text : Text} (htext : text ≠ []) :
    let flat := r.byKind .preMarkup ++ r.spread markup ++ r.byKind .postMarkup ++
      (params.filters.filterMap r.lookup).flatMap r.spread
    (∀ k, r.byKind k = r.all.filter (·.kind = k)) ∧
      (∀ f ∈ flat, ∀ s, f.behavior ≠ .stage s) ∧
      ∀ stages session,
        InTurn (fun f text => f.run stages text (some params)) flat text
          { session with records := session.records ++ skipRecords r params }
          ((render r text (some params)).run session) := by
  intro flat
  have hcoherent : Registry.Coherent r := hr.coherent
  have hflat : ((chainNames params).filterMap r.lookup).flatMap r.spread = flat := by
    have hnames : chainNames params =
        "macropre" :: params.markup :: "macropost" :: params.filters := rfl
    rw [hnames]
    simp only [List.filterMap_cons, hpre, hmarkup, hpost, List.flatMap_cons,
      Registry.spread_stage hpreStage, Registry.spread_stage hpostStage, TagStage.kind]
    simp only [flat, List.append_assoc]
  refine ⟨hcoherent.byKind_eq, ?_, fun stages session => ?_⟩
  · intro f hf
    rw [← hflat] at hf
    obtain ⟨g, -, hfg⟩ := List.mem_flatMap.mp hf
    exact hcoherent.not_stage_of_mem_spread hfg
  · rw [run_render htext (by rw [hmarkup]; rfl), ← hflat,
      hcoherent.foldlM_run_eq_flatMap stages (some params)]
    exact inTurn_foldlM _ _ text _

def adds (typeName word : String) (kind : FilterKind) : Filter where
  data := { moduleName := "filters", qualifiedName := typeName, typeName := typeName, kind := kind }
  behavior := .transform fun text _ => pure (text ++ word.toList)

def fails : Filter where
  data := { moduleName := "filters", qualifiedName := "Stop", typeName := "Stop",
            kind := .postProcess }
  behavior := .transform fun _ _ => throw (.raised "stop")

def smallEntries : List (String × Filter) :=
  [("macropre", Standard.stage .preMarkup), ("macropost", Standard.stage .postMarkup),
    ("plain", adds "Plain" "p" .markup), ("b", adds "B" "b" .postMarkup), ("stop", fails),
    ("a", adds "A" "a" .preMarkup)]

/-- A chain that runs a stage again, leaves a name out, and fails before its last filter. -/
def stoppedParams : FilterParams :=
  { markup := "plain", filters := ["macropre", "absent", "stop", "plain"] }

theorem render_inTurn_stopped :
    let r := (Registry.registerAll {} (smallEntries.map (·.2))).1
    let skipped : Session :=
      { settings := .ok {}, records := [skipRecord stoppedParams "absent"] }
    r.byKind .preMarkup = [adds "A" "a" .preMarkup] ∧
      (render r "x".toList (some stoppedParams)).run { settings := .ok {} } =
        .error (.raised "stop") skipped := by
  intro r skipped
  have hr : Registry.Reachable r := Registry.reachable_registerAll _
  have hentries : r.entries = smallEntries := rfl
  have hlookup : r.lookup = fun name => Registry.entry? name smallEntries := by
    funext name
    rw [Registry.lookup, hentries]
  clear_value r
  have hpre : r.lookup "macropre" = some (Standard.stage .preMarkup) := by rw [hlookup]; rfl
  have hpost : r.lookup "macropost" = some (Standard.stage .postMarkup) := by rw [hlookup]; rfl
  have hplain : r.lookup stoppedParams.markup = some (adds "Plain" "p" .markup) := by
    rw [hlookup]
    rfl
  have htext : "x".toList ≠ [] := by decide
  obtain ⟨hkinds, -, hrun⟩ := render_inTurn hr hpre rfl hpost rfl hplain htext
  have ha : r.byKind .preMarkup = [adds "A" "a" .preMarkup] := by
    rw [hkinds, Registry.all, hentries]
    rfl
  have hb : r.byKind .postMarkup = [adds "B" "b" .postMarkup] := by
    rw [hkinds, Registry.all, hentries]
    rfl
  have hfilters : stoppedParams.filters.filterMap r.lookup =
      [Standard.stage .preMarkup, fails, adds "Plain" "p" .markup] := by rw [hlookup]; rfl
  have hskipped : skipRecords r stoppedParams = [skipRecord stoppedParams "absent"] := by
    rw [skipRecords, hlookup]
    rfl
  have hstage : r.spread (Standard.stage .preMarkup) = [adds "A" "a" .preMarkup] := ha
  have hturn := hrun (fun _ text _ => pure text) { settings := .ok {} }
  rw [ha, hb, hfilters, hskipped, List.flatMap_cons, hstage] at hturn
  -- the run goes through four filters and fails in the fifth
  exact ⟨ha, hturn.unique (.next rfl (.next rfl (.next rfl (.next rfl (.failed _ rfl)))))⟩

end Pipeline

end ContentFilters
