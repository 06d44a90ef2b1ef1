import ContentFilters.Proofs.Journal.Requests
import Mathlib.Logic.Relation

/-!
# What a request establishes

In any hierarchy, whatever handlers, levels and flags have been set, a requested logger has a
handler that its records reach. Where one was reached already nothing is set; else the logger alone
gets the handler for standard output, and the configured level if it had none. That handler takes
every record that its logger passes on; a handler that was there before takes those of its own level
and above only.

Three walks go upwards from a logger: the search for a handler, the way of a record, and the search
for a level. The first two end at a logger that does not propagate, the third ends at a logger with
a level of its own and looks through flags. `Reaches` and `HasLevel` say where they lead without
walking, by links from child to parent.
-/
namespace ContentFilters.Journal.Hierarchy

/-! ## Walks upwards -/

section Climbs

variable {h : Hierarchy} {goesOn found : Logger → Prop} {name above : String}

/-- The link from a logger to its parent, for a walk that goes on at this logger. -/
def Link (h : Hierarchy) (goesOn : Logger → Prop) (name above : String) : Prop :=
  name ≠ "" ∧ goesOn (h.logger name) ∧ above = (h.logger name).parent

/-- A walk upwards comes from one logger to another; it goes on at all it leaves. -/
def Climbs (h : Hierarchy) (goesOn : Logger → Prop) : String → String → Prop :=
  Relation.ReflTransGen (h.Link goesOn)

/-- A walk upwards can come to a logger of a kind. -/
def Finds (h : Hierarchy) (goesOn found : Logger → Prop) (name : String) : Prop :=
  ∃ above, h.Climbs goesOn name above ∧ found (h.logger above)

theorem finds_root : h.Finds goesOn found "" ↔ found (h.logger "") := by
  constructor
  · rintro ⟨above, hclimbs, hfound⟩
    rcases hclimbs.cases_head with rfl | ⟨_, ⟨hne, -⟩, -⟩
    · exact hfound
    · exact absurd rfl hne
  · intro hfound
    exact ⟨"", .refl, hfound⟩

theorem finds_of_ne (hname : name ≠ "") :
    h.Finds goesOn found name ↔
      found (h.logger name) ∨
        goesOn (h.logger name) ∧ h.Finds goesOn found (h.logger name).parent := by
  constructor
  · rintro ⟨above, hclimbs, hfound⟩
    rcases hclimbs.cases_head with rfl | ⟨_, ⟨-, hon, rfl⟩, hrest⟩
    · exact .inl hfound
    · exact .inr ⟨hon, above, hrest, hfound⟩
  · rintro (hfound | ⟨hon, above, hclimbs, hfound⟩)
    · exact ⟨name, .refl, hfound⟩
    · exact ⟨above, .head ⟨hname, hon, rfl⟩ hclimbs, hfound⟩

theorem Finds.of_climbs (hclimbs : h.Climbs goesOn name above)
    (hfinds : h.Finds goesOn found above) : h.Finds goesOn found name := by
  obtain ⟨top, hrest, hfound⟩ := hfinds
  exact ⟨top, hclimbs.trans hrest, hfound⟩

theorem Climbs.eq_or_length_lt (hrises : Rises h) (hclimbs : h.Climbs goesOn name above) :
    above = name ∨ above.length < name.length := by
  induction hclimbs with
  | refl => exact .inl rfl
  | tail _ hlink ih =>
    obtain ⟨hne, -, rfl⟩ := hlink
    have hshorter := hrises _ hne
    rcases ih with rfl | hlt
    · exact .inr hshorter
    · exact .inr (Nat.lt_trans hshorter hlt)

end Climbs

/-! ## Where records go -/

section Paths

variable {h : Hierarchy} {name above : String} {handler : Handler}

/-- A logger stands on the propagation path of another one. -/
def OnPath (h : Hierarchy) : String → String → Prop := h.Climbs (·.propagates = true)

/-- Records of a logger reach a handler. -/
def Reaches (h : Hierarchy) (name : String) (handler : Handler) : Prop :=
  h.Finds (·.propagates = true) (handler ∈ ·.handlers) name

theorem propagationPath_root (h : Hierarchy) : h.propagationPath "" = [h.logger ""] := by
  rw [propagationPath, lineage_root, propagationPath.upTo, propagationPath.upTo, ite_self]

theorem propagationPath_of_ne (hrises : Rises h) (hname : name ≠ "") :
    h.propagationPath name = h.logger name ::
      if (h.logger name).propagates then h.propagationPath (h.logger name).parent else [] := by
  rw [propagationPath, lineage_of_ne hrises hname, propagationPath.upTo]
  split <;> rfl

theorem reachedHandlers_root (h : Hierarchy) :
    h.reachedHandlers "" = (h.logger "").handlers := by
  rw [reachedHandlers, propagationPath_root, List.flatMap_singleton]

theorem reachedHandlers_of_ne (hrises : Rises h) (hname : name ≠ "") :
    h.reachedHandlers name = (h.logger name).handlers ++
      if (h.logger name).propagates then h.reachedHandlers (h.logger name).parent else [] := by
  rw [reachedHandlers, propagationPath_of_ne hrises hname, List.flatMap_cons]
  split <;> rfl

/-- The way of a record visits exactly the handlers that it can reach by links. -/
theorem mem_reachedHandlers (hrises : Rises h) :
    handler ∈ h.reachedHandlers name ↔ h.Reaches name handler := by
  induction name using hrises.induction with
  | root =>
    rw [reachedHandlers_root, Reaches, finds_root]
  | child name hname ih =>
    rw [reachedHandlers_of_ne hrises hname, List.mem_append, Reaches, finds_of_ne hname]
    refine or_congr_right ?_
    split
    · next hup => exact ih.trans (and_iff_right hup).symm
    · next hup => exact iff_of_false List.not_mem_nil fun hon => hup hon.1

/-- The search for a handler agrees with the way of a record. -/
theorem hasHandlers_iff (hrises : Rises h) :
    h.hasHandlers name = true ↔ ∃ handler, h.Reaches name handler := by
  rw [hasHandlers, Bool.not_eq_true', List.isEmpty_eq_false_iff_exists_mem]
  exact exists_congr fun handler => mem_reachedHandlers hrises

end Paths

/-! ## Which records go -/

section Levels

variable {h : Hierarchy} {name : String} {least level : Int} {handler : Handler}

/-- A logger has a level, of its own or from the nearest logger above that has one. -/
def HasLevel (h : Hierarchy) (name : String) (least : Int) : Prop :=
  h.Finds (·.level = 0) (fun l => l.level ≠ 0 ∧ l.level = least) name

theorem effectiveLevel_root (h : Hierarchy) : h.effectiveLevel "" = (h.logger "").level := by
  rw [effectiveLevel, lineage_root, List.find?_singleton]
  by_cases hlevel : (h.logger "").level = 0 <;> simp [hlevel]

theorem effectiveLevel_of_ne (hrises : Rises h) (hname : name ≠ "") :
    h.effectiveLevel name = if (h.logger name).level = 0 then
      h.effectiveLevel (h.logger name).parent else (h.logger name).level := by
  rw [effectiveLevel, lineage_of_ne hrises hname, List.find?_cons]
  by_cases hlevel : (h.logger name).level = 0
  · simp [hlevel, effectiveLevel]
  · rw [if_neg hlevel, bne_iff_ne.mpr hlevel]
    rfl

/-- The search for a level finds the one that links lead to, whatever the flags say. -/
theorem hasLevel_iff (hrises : Rises h) :
    h.HasLevel name least ↔ h.effectiveLevel name ≠ 0 ∧ h.effectiveLevel name = least := by
  induction name using hrises.induction with
  | root => rw [effectiveLevel_root, HasLevel, finds_root]
  | child name hname ih =>
    rw [effectiveLevel_of_ne hrises hname, HasLevel, finds_of_ne hname]
    by_cases hlevel : (h.logger name).level = 0
    · simpa [HasLevel, hlevel] using ih
    · simp [hlevel]

theorem isEnabled_iff (hrises : Rises h) :
    h.isEnabled name level = true ↔ 0 < level ∧ ∀ least, h.HasLevel name least → least ≤ level := by
  simp only [hasLevel_iff hrises, isEnabled, decide_eq_true_eq]
  refine and_congr_right fun hpositive => ⟨?_, fun hleast => ?_⟩
  · rintro hlevel least ⟨-, rfl⟩
    exact hlevel
  · by_cases hnone : h.effectiveLevel name = 0
    · rw [hnone]
      exact Int.le_of_lt hpositive
    · exact hleast _ ⟨hnone, rfl⟩

/-- A record that is passed on goes to each handler that it reaches, unless the handler's own level
is above the record's. -/
theorem mem_recipients (hrises : Rises h) (hpositive : 0 < level)
    (hlevel : ∀ least, h.HasLevel name least → least ≤ level) :
    handler ∈ h.recipients name level ↔ h.Reaches name handler ∧ handler.level ≤ level := by
  rw [recipients, if_pos ((isEnabled_iff hrises).mpr ⟨hpositive, hlevel⟩), List.mem_filter,
    mem_reachedHandlers hrises, decide_eq_true_eq]

theorem writtenLine_mem_log (message : String) (hhandler : handler ∈ h.recipients name level)
    (hsink : handler.sink = .output) :
    writtenLine name level message ∈ h.log name level message := by
  refine List.mem_map.mpr ⟨handler, List.mem_filter.mpr ⟨hhandler, ?_⟩, rfl⟩
  rw [hsink]
  rfl

end Levels

/-! ## A request -/

section Request

variable {h : Hierarchy} {settings : Except SettingsError Settings} {name above : String}
  {handler : Handler}

/-- No handlers, level or flag of a logger differ. -/
def SameSetup (h h' : Hierarchy) : Prop :=
  ∀ name, (h'.logger name).handlers = (h.logger name).handlers ∧
    (h'.logger name).level = (h.logger name).level ∧
    (h'.logger name).propagates = (h.logger name).propagates

theorem sameSetup_ensure (h : Hierarchy) (name : String) : SameSetup h (h.ensure name) :=
  fun other => ⟨handlers_ensure h name other, level_ensure h name other,
    propagates_ensure h name other⟩

theorem request_of_reaches (hh : Attainable h)
    (hfound : ∃ handler, (h.ensure (storedName name)).Reaches (storedName name) handler) :
    h.request settings name = (h.ensure (storedName name), .ok ()) := by
  have hhas := (hasHandlers_iff (hh.create _).rises).mpr hfound
  rcases request_cases h settings name with ⟨-, hrequest⟩ | ⟨hnone, -⟩
  · exact hrequest
  · rw [hhas] at hnone
    cases hnone

/-- A request that finds no handler equips the requested logger, and changes no other. -/
theorem request_of_not_reaches (hh : Attainable h) (settings : Except SettingsError Settings)
    (hmissing : ¬ ∃ handler, (h.ensure (storedName name)).Reaches (storedName name) handler) :
    (∀ other, (h.request settings name).1.logger? other =
      ((h.ensure (storedName name)).logger? other).map fun l =>
        if other = storedName name then equipped settings l else l) ∧
      ∀ s, settings = .ok s → (h.request settings name).2 = .ok () := by
  have hnone := mt (hasHandlers_iff (hh.create _).rises).mp hmissing
  rcases request_cases h settings name with ⟨hhas, -⟩ | ⟨-, f, hf, hself, hrequest⟩
  · exact absurd hhas hnone
  · rw [hrequest]
    constructor
    · intro other
      rw [logger?_update hf.name]
      refine Option.map_congr fun l hl => ?_
      split
      · next hother =>
        subst hother
        rwa [logger, hl, Option.getD_some] at hself
      · rfl
    · rintro s rfl
      exact ite_self _

theorem reaches_fallback (hh : Attainable h) (settings : Except SettingsError Settings)
    (hmissing : ¬ ∃ handler, (h.ensure (storedName name)).Reaches (storedName name) handler) :
    (h.request settings name).1.Reaches (storedName name) .fallback := by
  have hnone := mt (hasHandlers_iff (hh.create _).rises).mp hmissing
  obtain ⟨level, hlogger⟩ := logger_request h settings name (storedName name)
  refine ⟨storedName name, .refl, ?_⟩
  rw [hlogger, if_pos ⟨rfl, Bool.not_eq_true _ ▸ hnone⟩]
  exact List.mem_append_right _ (List.mem_singleton_self _)

theorem reaches_request (hh : Attainable h) (settings : Except SettingsError Settings)
    (name : String) : ∃ handler, (h.request settings name).1.Reaches (storedName name) handler := by
  by_cases hfound : ∃ handler, (h.ensure (storedName name)).Reaches (storedName name) handler
  · rw [request_of_reaches hh hfound]
    exact hfound
  · exact ⟨.fallback, reaches_fallback hh settings hfound⟩

/-- A new logger may come into the middle of other walks, but into none from a shorter name. -/
theorem Reaches.ensure (hh : Attainable h) (hreaches : h.Reaches above handler)
    (hlen : above.length < name.length) : (h.ensure name).Reaches above handler := by
  rw [← mem_reachedHandlers (hh.create name).rises, reachedHandlers, propagationPath,
    lineage_ensure hh.rises hlen]
  exact (mem_reachedHandlers hh.rises).mpr hreaches

/-- A logger below finds the handlers of one on its way, also if it is new. -/
theorem Reaches.ensure_of_onPath (hh : Attainable h) (habove : (h.logger? above).isSome)
    (hreaches : h.Reaches above handler) (hpath : (h.ensure name).OnPath name above) :
    (h.ensure name).Reaches name handler := by
  rcases hpath.eq_or_length_lt (hh.create name).rises with rfl | hlen
  · rwa [ensure_of_present habove]
  · exact (hreaches.ensure hh hlen).of_climbs hpath

/-- In any hierarchy, a request leaves the logger with a handler that its records reach. If one was
reached already, nothing is set; else the logger alone gets a handler for standard output, and the
configured level if it had none. Asking again changes nothing, nor does asking for a logger below
whose records pass this one, besides that a logger may be created. A record of a level above zero
that the logger has or above goes to every handler that it reaches and whose level is not higher;
the handler that a request gives is one of these. -/
theorem request_establishes (hh : Attainable h) (settings : Except SettingsError Settings)
    (name : String) :
    let n := storedName name
    let created := h.ensure n
    let after := (h.request settings name).1
    (SameSetup h created ∧ ((h.logger? n).isSome → created = h)) ∧
      (∃ handler, after.Reaches n handler) ∧
      ((∃ handler, created.Reaches n handler) → h.request settings name = (created, .ok ())) ∧
      ((¬ ∃ handler, created.Reaches n handler) →
        (∀ other, after.logger? other = (created.logger? other).map fun l =>
          if other = n then equipped settings l else l) ∧
        (∀ s, settings = .ok s → (h.request settings name).2 = .ok ()) ∧
        after.Reaches n .fallback) ∧
      (∀ again, after.request again name = (after, .ok ())) ∧
      (∀ again child, let c := storedName child
        (after.ensure c).OnPath c n →
          after.request again child = (after.ensure c, .ok ()) ∧
            SameSetup after (after.ensure c) ∧
            ((after.logger? c).isSome → after.ensure c = after)) ∧
      ∀ level message, 0 < level → (∀ least, after.HasLevel n least → least ≤ level) →
        (∀ handler, handler ∈ after.recipients n level ↔
          after.Reaches n handler ∧ handler.level ≤ level) ∧
        ∀ handler ∈ after.recipients n level, handler.sink = .output →
          writtenLine n level message ∈ after.log n level message := by
  intro n created after
  have hafter : Attainable after := hh.request settings name
  have hpresent : (after.logger? n).isSome := by
    rw [isSome_logger?_request]
    exact isSome_logger?_ensure.mpr (.inl rfl)
  have hreaches : ∃ handler, after.Reaches n handler := reaches_request hh settings name
  have hbelow : ∀ again child, (after.ensure (storedName child)).OnPath (storedName child) n →
      after.request again child = (after.ensure (storedName child), .ok ()) := by
    intro again child hpath
    obtain ⟨handler, hhandler⟩ := hreaches
    exact request_of_reaches hafter
      ⟨handler, hhandler.ensure_of_onPath hafter hpresent hpath⟩
  refine ⟨⟨sameSetup_ensure h n, ensure_of_present⟩, hreaches, request_of_reaches hh,
    fun hmissing => ?_, fun again => ?_, fun again child hpath => ?_,
    fun level message hpositive hlevel => ?_⟩
  · obtain ⟨hloggers, hresult⟩ := request_of_not_reaches hh settings hmissing
    exact ⟨hloggers, hresult, reaches_fallback hh settings hmissing⟩
  · have hagain := hbelow again name .refl
    rwa [ensure_of_present hpresent] at hagain
  · exact ⟨hbelow again child hpath, sameSetup_ensure after _, ensure_of_present⟩
  · exact ⟨fun handler => mem_recipients hafter.rises hpositive hlevel,
      fun handler => writtenLine_mem_log message⟩

/-- A logger whose records do not reach the only handler, that of the root, without any levels. -/
def shutOff : Hierarchy :=
  (((ensure {} "a.b").setPropagates "a.b" false).addHandler "" { sink := .discard }).setLevel "" 0

theorem attainable_shutOff : Attainable shutOff :=
  (((Attainable.initial.create "a.b").setPropagates "a.b" false).addHandler "" _).setLevel "" 0

/-- The logger gets a handler of its own, which then serves a new logger below it as well. -/
theorem request_establishes_shutOff :
    Attainable shutOff ∧
      let after := (shutOff.request (.ok {}) "a.b").1
      after.logger? "a.b" =
          some { name := "a.b", handlers := [.fallback], propagates := false, level := 20 } ∧
        after.request (.ok {}) "a.b.c" = (after.ensure "a.b.c", .ok ()) ∧
        "TIME Level 25 a.b: x\n" ∈ after.log "a.b" 25 "x" := by
  refine ⟨attainable_shutOff, ?_⟩
  intro after
  have hafter : Attainable after := attainable_shutOff.request (.ok {}) "a.b"
  obtain ⟨-, -, -, hmissing, -, hbelow, hlog⟩ :=
    request_establishes attainable_shutOff (.ok {}) "a.b"
  have hnone : ¬ ∃ handler, (shutOff.ensure "a.b").Reaches "a.b" handler := by
    rw [← hasHandlers_iff (attainable_shutOff.create "a.b").rises]
    decide +kernel
  obtain ⟨hloggers, -, hfallback⟩ := hmissing hnone
  refine ⟨?_, ?_, ?_⟩
  · refine (hloggers "a.b").trans ?_
    decide +kernel
  · have hpath : (after.ensure "a.b.c").OnPath "a.b.c" "a.b" :=
      .single ⟨by decide, by decide +kernel, by decide +kernel⟩
    exact (hbelow (.ok {}) "a.b.c" hpath).1
  · obtain ⟨hpositive, hleast⟩ := (isEnabled_iff hafter.rises).mp
      (show after.isEnabled "a.b" 25 = true by decide +kernel)
    obtain ⟨hrecipients, hwritten⟩ := hlog 25 "x" hpositive hleast
    have hmem : Handler.fallback ∈ after.recipients "a.b" 25 :=
      (hrecipients _).mpr ⟨hfallback, by decide⟩
    have hline := hwritten _ hmem rfl
    rwa [show writtenLine (storedName "a.b") 25 "x" = "TIME Level 25 a.b: x\n" by decide +kernel]
      at hline

/-- A root whose only handler passes over records below its own level. -/
def choosy : Hierarchy :=
  (addHandler {} "" { sink := .output, level := Level.error.weight }).setLevel ""
    Level.info.weight

theorem attainable_choosy : Attainable choosy := (Attainable.initial.addHandler "" _).setLevel "" _

/-- A requested logger, when it and the root have no level any more. -/
def unset : Hierarchy := ((request {} (.ok {}) "a").1.setLevel "a" 0).setLevel "" 0

theorem attainable_unset : Attainable unset :=
  ((Attainable.initial.request (.ok {}) "a").setLevel "a" 0).setLevel "" 0

/-- A root whose only handler writes nothing. -/
def muted : Hierarchy := addHandler {} "" { sink := .discard }

theorem attainable_muted : Attainable muted := Attainable.initial.addHandler "" _

/-- A record that the level of its logger lets pass may be lost. Each handler that it reaches may
have a higher level; a record of level zero is given to none at all; and a handler may drop what it
is given. -/
theorem request_lost :
    (¬ ∀ (h : Hierarchy) (name : String) (level : Int), Attainable h → 0 < level →
      let after := (h.request (.ok {}) name).1
      after.effectiveLevel (storedName name) ≤ level →
        after.recipients (storedName name) level ≠ []) ∧
      (¬ ∀ (h : Hierarchy) (name : String) (level : Int), Attainable h →
        let after := (h.request (.ok {}) name).1
        (∀ handler ∈ after.reachedHandlers (storedName name), handler.level = 0) →
          after.effectiveLevel (storedName name) ≤ level →
            after.recipients (storedName name) level ≠ []) ∧
      ¬ ∀ (h : Hierarchy) (name : String) (level : Int) (message : String), Attainable h →
        let after := (h.request (.ok {}) name).1
        after.recipients (storedName name) level ≠ [] →
          after.log (storedName name) level message ≠ [] := by
  refine ⟨fun hgiven => ?_, fun hgiven => ?_, fun hwritten => ?_⟩
  · have hnone : (choosy.request (.ok {}) "a").1.recipients (storedName "a") 20 = [] := by
      decide +kernel
    exact hgiven choosy "a" 20 attainable_choosy (by decide) (by decide +kernel) hnone
  · have hnone : (unset.request (.ok {}) "a").1.recipients (storedName "a") 0 = [] := by
      decide +kernel
    exact hgiven unset "a" 0 attainable_unset (by decide +kernel) (by decide +kernel) hnone
  · have hnone : (muted.request (.ok {}) "a").1.log (storedName "a") 30 "x" = [] := by
      decide +kernel
    exact hwritten muted "a" 30 "x" attainable_muted (by decide +kernel) hnone

end Request

end ContentFilters.Journal.Hierarchy
