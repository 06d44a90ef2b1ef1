import ContentFilters.Proofs.Registry.FlatChain

/-!
# How a chain is resolved

The names of a chain are looked up from the left. The markup filter is told by its name, not by its
place: if no filter has that name, the walk ends at the first place where it stands, which may be
that of a stage. Every other name that is not registered costs one record and is left out. So the
walk fails exactly for a missing markup filter, and a failed walk means that no filter is run at all.
-/
namespace ContentFilters

theorem Action.run_bind_of_error {α β : Type} {x : Action α} {next : α → Action β}
    {session after : Session} {e : FilterError} (h : x.run session = .error e after) :
    (x >>= next).run session = .error e after := by
  rw [EStateM.run_bind, h]

namespace Pipeline

variable {r : Registry} {params : FilterParams}

/-- The names of a chain that are looked up before the walk ends: all of them, or those in front of
the first place with the name of a missing markup filter. -/
def walked (r : Registry) (params : FilterParams) : List String :=
  let names := "macropre" :: params.markup :: "macropost" :: params.filters
  if (r.lookup params.markup).isSome then names else names.takeWhile (· ≠ params.markup)

/-- The records of a walk: one for each name that is not there, the markup filter's apart. -/
def walkRecords (r : Registry) (params : FilterParams) : List Journal.Record :=
  ((walked r params).filter fun name =>
    (r.lookup name).isNone && name ≠ params.markup).map (skipRecord params)

theorem resolve_of_missing_markup (h : r.lookup params.markup = none) (rest : List String) :
    resolve r params (params.markup :: rest) = throw (.notRegistered params.markup) := by
  rw [resolve, h]
  simp only [if_pos]
  rfl

/-- Without the markup filter the walk fails at the first place with its name, and the records are
those of the names in front of it. -/
theorem run_resolve_missing_markup (hmarkup : r.lookup params.markup = none) {names : List String}
    (hmem : params.markup ∈ names) (session : Session) :
    (resolve r params names).run session = .error (.notRegistered params.markup)
      { session with records := session.records ++
        ((names.takeWhile (· ≠ params.markup)).filter fun name =>
          (r.lookup name).isNone).map (skipRecord params) } := by
  induction names generalizing session with
  | nil => exact absurd hmem List.not_mem_nil
  | cons name rest ih =>
    by_cases hname : name = params.markup
    · subst hname
      rw [resolve_of_missing_markup hmarkup, List.takeWhile_cons_of_neg (by simp)]
      simp only [List.filter_nil, List.map_nil, List.append_nil]
      rfl
    · have hrest : params.markup ∈ rest :=
        (List.mem_cons.mp hmem).resolve_left (Ne.symm hname)
      rw [List.takeWhile_cons_of_pos (by simpa using hname)]
      cases hfound : r.lookup name with
      | some f =>
        rw [resolve_of_found hfound, Action.run_bind_of_error (ih hrest session),
          List.filter_cons_of_neg (by simp [hfound])]
      | none =>
        have hreport : (Action.report .warning loggerName (skipMessage name params.name)).run session
            = .ok () { session with records := session.records ++ [skipRecord params name] } := rfl
        rw [resolve_of_missing hfound hname, Action.run_bind_of_ok hreport, ih hrest,
          List.filter_cons_of_pos (by simp [hfound])]
        simp only [List.map_cons, List.append_assoc, List.singleton_append]

theorem walkRecords_of_registered (h : (r.lookup params.markup).isSome) :
    walkRecords r params = skipRecords r params := by
  unfold walkRecords skipRecords walked
  rw [if_pos h]
  refine congrArg _ (List.filter_congr fun name _ => ?_)
  by_cases hname : name = params.markup
  · -- a registered name is not left out, so the test for the markup filter's name is not needed
    subst hname
    rw [Option.isNone_eq_false_iff.mpr h, Bool.false_and]
  · simp [hname]

theorem walkRecords_of_missing (h : r.lookup params.markup = none) :
    walkRecords r params =
      (((chainNames params).takeWhile (· ≠ params.markup)).filter fun name =>
        (r.lookup name).isNone).map (skipRecord params) := by
  unfold walkRecords walked
  rw [if_neg (by simp [h])]
  refine congrArg _ (List.filter_congr fun name hname => ?_)
  have hne := List.all_eq_true.mp List.all_takeWhile name hname
  rw [hne, Bool.and_true]

/-- The walk in one equation: which filters it finds or how it fails, and what it reports. -/
theorem run_filterChain (r : Registry) (params : FilterParams) (session : Session) :
    (filterChain r params).run session =
      match r.lookup params.markup with
      | some _ => .ok ((chainNames params).filterMap r.lookup)
          { session with records := session.records ++ walkRecords r params }
      | none => .error (.notRegistered params.markup)
          { session with records := session.records ++ walkRecords r params } := by
  cases h : r.lookup params.markup with
  | some f =>
    have hmarkup : (r.lookup params.markup).isSome := by rw [h]; rfl
    rw [walkRecords_of_registered hmarkup]
    exact run_resolve hmarkup (chainNames params) session
  | none =>
    rw [walkRecords_of_missing h]
    exact run_resolve_missing_markup h (by simp [chainNames]) session

theorem walkRecords_congr {r' : Registry}
    (h : ∀ name, (r'.lookup name).isSome = (r.lookup name).isSome) :
    walkRecords r' params = walkRecords r params := by
  have hnone : ∀ name, (r'.lookup name).isNone = (r.lookup name).isNone := fun name => by
    rw [← Option.not_isSome, ← Option.not_isSome, h]
  simp only [walkRecords, walked, h, hnone]

theorem run_render_nil (r : Registry) (params : FilterParams) (session : Session) :
    (render r [] (some params)).run session = .ok [] session := rfl

theorem run_render_of_missing_markup (h : r.lookup params.markup = none) {text : Text}
    (htext : text ≠ []) (session : Session) :
    (render r text (some params)).run session = .error (.notRegistered params.markup)
      { session with records := session.records ++ walkRecords r params } := by
  have hempty : text.isEmpty = false := by simpa using htext
  have hchain := run_filterChain r params session
  rw [h] at hchain
  unfold render
  simp only [hempty, Bool.false_eq_true, if_false, pure_bind]
  exact Action.run_bind_of_error hchain

/-- Runs the filters of a chain with every stage among them replaced by its bucket. -/
def runFlat (r : Registry) (stages : TagStage → Text → Option FilterParams → Action Text)
    (params : FilterParams) (text : Text) : Action Text :=
  (((chainNames params).filterMap r.lookup).flatMap r.spread).foldlM
    (fun text f => f.run stages text (some params)) text

theorem forall_mem_flat {Q : Filter → Prop}
    (h : ∀ name ∈ chainNames params, ∀ f, r.lookup name = some f → ∀ g ∈ r.spread f, Q g) :
    ∀ g ∈ ((chainNames params).filterMap r.lookup).flatMap r.spread, Q g := by
  intro g hg
  obtain ⟨f, hf, hspread⟩ := List.mem_flatMap.mp hg
  obtain ⟨name, hname, hfound⟩ := List.mem_filterMap.mp hf
  exact h name hname f hfound g hspread

/-- With the markup filter there, rendering runs the flat chain after the records of the walk are
written. -/
theorem run_render_flat (hr : Registry.Coherent r) {text : Text} (htext : text ≠ [])
    (hmarkup : (r.lookup params.markup).isSome)
    (stages : TagStage → Text → Option FilterParams → Action Text) (session : Session) :
    (render r text (some params)).run session = (runFlat r stages params text).run
      { session with records := session.records ++ walkRecords r params } := by
  rw [run_render htext hmarkup, hr.foldlM_run_eq_flatMap stages, walkRecords_of_registered hmarkup]
  rfl

/-- The parameters that a text is rendered with: without any, the configured markup filter alone. -/
def effective (settings : Settings) (params : Option FilterParams) : FilterParams :=
  params.getD { markup := FilterParams.normalName settings.defaultMarkup }

theorem run_render_effective {settings : Settings} {session : Session}
    (hs : session.settings = .ok settings) (text : Text) (params : Option FilterParams) :
    (render r text params).run session =
      (render r text (some (effective settings params))).run session := by
  cases params with
  | some p => rfl
  | none =>
    unfold render
    by_cases hempty : text.isEmpty
    · simp only [hempty, if_true]
    · simp only [hempty, Bool.false_eq_true, if_false, pure_bind]
      rw [Action.run_bind_of_ok (Action.run_settings hs)]
      rfl

/-- Building a chain fails exactly if the markup filter is missing, and then with its name; else it
gives what the names of the chain look up, in their order. In both cases the records are those of
the walk. Rendering a text without the markup filter fails in the same way and with the same
records, whatever the registered filters would do, so none of them has run. -/
theorem filterChain_walk (r : Registry) (params : FilterParams) (session : Session) :
    let names := "macropre" :: params.markup :: "macropost" :: params.filters
    let logged : Session := { session with records := session.records ++ walkRecords r params }
    (∀ e after, (filterChain r params).run session = .error e after ↔
        r.lookup params.markup = none ∧ e = .notRegistered params.markup ∧ after = logged) ∧
      (∀ chain after, (filterChain r params).run session = .ok chain after ↔
        r.lookup params.markup ≠ none ∧ chain = names.filterMap r.lookup ∧ after = logged) ∧
      (r.lookup params.markup = none → ∀ text ≠ [], ∀ r' : Registry,
        (∀ name, (r'.lookup name).isSome = (r.lookup name).isSome) →
          (render r' text (some params)).run session =
            .error (.notRegistered params.markup) logged) := by
  intro names logged
  have hrun := run_filterChain r params session
  refine ⟨fun e after => ?_, fun chain after => ?_, fun hmissing text htext r' hnames => ?_⟩
  · rw [hrun]
    cases r.lookup params.markup with
    | some f => simp
    | none => simp [logged, eq_comm]
  · rw [hrun]
    cases r.lookup params.markup with
    | some f => simp [logged, names, chainNames, stageName, TagStage.kind, FilterKind.name, eq_comm]
    | none => simp
  · have hmissing' : r'.lookup params.markup = none := by
      simpa [hmissing] using hnames params.markup
    rw [run_render_of_missing_markup hmissing' htext, walkRecords_congr hnames]

/-- A setup whose markup filter has the name of a stage. -/
def stageMarkup : FilterParams := { markup := "macropost", filters := ["absent", "macropost"] }

/-- With nothing but the plain markup filter registered, the walk ends at the second name of four:
the first stage is reported, and neither the second one nor the other filter is. -/
theorem filterChain_walk_stageMarkup :
    let r := (Registry.registerAll {} [adds "Plain" "p" .markup]).1
    (render r "x".toList (some stageMarkup)).run { settings := .ok {} } =
      .error (.notRegistered "macropost")
        { settings := .ok {}, records := [skipRecord stageMarkup "macropre"] } := by
  intro r
  have hentries : r.entries = [("plain", adds "Plain" "p" .markup)] := rfl
  have hlookup : ∀ name, r.lookup name =
      Registry.entry? name [("plain", adds "Plain" "p" .markup)] := fun name => by
    rw [Registry.lookup, hentries]
  have hmissing : r.lookup stageMarkup.markup = none := by rw [hlookup]; rfl
  have hrecords : walkRecords r stageMarkup = [skipRecord stageMarkup "macropre"] := by
    simp only [walkRecords, walked, hlookup]
    rfl
  have hrun := (filterChain_walk r stageMarkup { settings := .ok {} }).2.2 hmissing
    "x".toList (by decide) r fun _ => rfl
  rw [hrecords] at hrun
  exact hrun

end Pipeline

end ContentFilters
