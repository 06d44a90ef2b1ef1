import ContentFilters.Proofs.Filter.Spelling
import ContentFilters.Proofs.Filter.StoredParams
import ContentFilters.Proofs.Registry.Chain

/-!
# Every registered filter can be addressed

A filter stands under a word of lower-case letters, which is what the stored form of each spelling
of its name is. So whoever spells the name of a registered filter, as markup or anywhere among the
post-process filters, gets that filter at that place of the chain. A blank text spells no name: as
markup it is stored as the empty text, which no registry holds, and among the filters it is dropped.
-/
namespace ContentFilters

namespace Registry

theorem mem_of_found {name : String} {f : Filter} {entries : List (String × Filter)}
    (h : entry? name entries = some f) : (name, f) ∈ entries := by
  induction entries with
  | nil => cases h
  | cons entry rest ih =>
    obtain ⟨key, g⟩ := entry
    rw [ entry?] at h
    split at h
    · next hkey =>
      subst hkey
      cases h
      exact List.mem_cons_self
    · exact List.mem_cons_of_mem _ (ih h)

variable {r : Registry}

theorem Coherent.lookup_of_mem (hr : Coherent r) {entry : String × Filter}
    (h : entry ∈ r.entries) : r.lookup entry.1 = some entry.2 := by
  have hall := map_lookup_names hr.nodup
  rw [List.map_map] at hall
  exact List.map_inj_left.mp hall entry h

theorem Coherent.lookup_of_shortName (hr : Coherent r) {f : Filter} (hf : f ∈ r.all)
    {name : String} (hname : f.shortName = .ok name) : r.lookup name = some f := by
  obtain ⟨entry, hentry, rfl⟩ := List.mem_map.mp hf
  have hkey := hr.named entry hentry
  rw [Filter.shortName_eq_ok.mp hname] at hkey
  cases hkey
  exact hr.lookup_of_mem hentry

theorem Coherent.lowerWord_of_mem (hr : Coherent r) {entry : String × Filter}
    (h : entry ∈ r.entries) : LowerWord entry.1.toList :=
  Descriptor.lowerWord_of_shortName? (hr.named entry h)

theorem Coherent.lookup_empty (hr : Coherent r) : r.lookup "" = none := by
  rw [Option.eq_none_iff_forall_ne_some]
  intro f hf
  exact (hr.lowerWord_of_mem (mem_of_found hf)).nonempty rfl

end Registry

namespace Pipeline

variable {r : Registry} {params : FilterParams}

/-- Building the chain for some parameters gives these filters, in every session. -/
def Resolves (r : Registry) (params : FilterParams) (chain : List Filter) : Prop :=
  ∀ session, ∃ after, (filterChain r params).run session = .ok chain after

/-- With the markup filter registered, the chain is the first stage, the markup filter, the second
stage and the post-process filters, each of them left out if it is not there. -/
theorem resolves_of_markup {f : Filter} (h : r.lookup params.markup = some f) :
    Resolves r params ((r.lookup "macropre").toList ++ f :: (r.lookup "macropost").toList ++
      params.filters.filterMap r.lookup) := by
  intro session
  have hchain : (chainNames params).filterMap r.lookup =
      (r.lookup "macropre").toList ++ f :: (r.lookup "macropost").toList ++
        params.filters.filterMap r.lookup := by
    have hcons : ∀ (name : String) (rest : List String), (name :: rest).filterMap r.lookup =
        (r.lookup name).toList ++ rest.filterMap r.lookup := by
      intro name rest
      rw [List.filterMap_cons]
      cases r.lookup name <;> rfl
    have hnames : chainNames params =
        "macropre" :: params.markup :: "macropost" :: params.filters := rfl
    rw [hnames, hcons, hcons, hcons, h]
    simp only [Option.toList_some, List.append_assoc, List.cons_append, List.nil_append]
  have hrun := run_filterChain r params session
  rw [h, hchain] at hrun
  exact ⟨_, hrun⟩

/-- In a reachable registry every name is a word of lower-case letters, that of its filter. Every
spelling of it addresses the filter: as markup it is resolved to the filter at the place of the
markup filter, and anywhere in the list of filters it is resolved to it between what the entries
before and after it resolve to. A blank text addresses no filter: as markup it makes the chain fail,
and in the list of filters it counts for nothing. Texts are never at fault, so records with any
texts are stored. -/
theorem resolves_spelling (hr : Registry.Reachable r) :
    (∀ entry ∈ r.entries, LowerWord entry.1.toList ∧ entry.2.shortName = .ok entry.1) ∧
      (∀ p : FilterParams, ∃ stored, FilterParams.check p.toValue = .ok stored) ∧
      (∀ f ∈ r.all, ∀ name, f.shortName = .ok name → ∀ s : String, Spells name.toList s.toList →
        ∀ fields p, FilterParams.check (.object fields) = .ok p →
          (Value.field? "markup" fields = some (.str s) →
            Resolves r p ((r.lookup "macropre").toList ++ f :: (r.lookup "macropost").toList ++
              p.filters.filterMap r.lookup)) ∧
          (∀ before after g,
            Value.field? "filters" fields = some (.list ((before ++ s :: after).map .str)) →
            r.lookup p.markup = some g →
              Resolves r p ((r.lookup "macropre").toList ++ g :: (r.lookup "macropost").toList ++
                ((FilterParams.normalFilters before).filterMap r.lookup ++
                  f :: (FilterParams.normalFilters after).filterMap r.lookup)))) ∧
      (∀ s : String, Text.allBlank s.toList = true →
        ∀ fields p, FilterParams.check (.object fields) = .ok p →
          (Value.field? "markup" fields = some (.str s) →
            r.lookup p.markup = none ∧ ∀ session, ∃ after,
              (filterChain r p).run session = .error (.notRegistered p.markup) after) ∧
          (∀ before after,
            Value.field? "filters" fields = some (.list ((before ++ s :: after).map .str)) →
              p.filters = FilterParams.normalFilters (before ++ after))) := by
  have hcoherent : Registry.Coherent r := hr.coherent
  refine ⟨fun entry hentry => ?_, fun p => ⟨_, FilterParams.check_toValue p⟩, ?_, ?_⟩
  · exact ⟨hcoherent.lowerWord_of_mem hentry,
      Filter.shortName_eq_ok.mpr (hcoherent.named entry hentry)⟩
  · intro f hf name hname s hs fields p hp
    have hword := Descriptor.lowerWord_of_shortName? (Filter.shortName_eq_ok.mp hname)
    have hfound : r.lookup name = some f := hcoherent.lookup_of_shortName hf hname
    refine ⟨fun hmarkup => ?_, fun before after g hfilters hmarkup => ?_⟩
    · apply resolves_of_markup
      rw [FilterParams.markup_of_check hp hmarkup, FilterParams.normalName_of_spells hword hs,
        hfound]
    · have hresolves := resolves_of_markup hmarkup
      rw [FilterParams.filters_of_check hp hfilters, FilterParams.normalFilters_append,
        FilterParams.normalFilters_cons_of_spells hword hs, List.filterMap_append,
        List.filterMap_cons_some hfound] at hresolves
      exact hresolves
  · intro s hs fields p hp
    refine ⟨fun hmarkup => ?_, fun before after hfilters => ?_⟩
    · have hmissing : r.lookup p.markup = none := by
        rw [FilterParams.markup_of_check hp hmarkup, FilterParams.normalName_of_allBlank hs,
          hcoherent.lookup_empty]
      refine ⟨hmissing, fun session => ?_⟩
      have hrun := run_filterChain r p session
      rw [hmissing] at hrun
      exact ⟨_, hrun⟩
    · rw [FilterParams.filters_of_check hp hfilters, FilterParams.normalFilters_append,
        FilterParams.normalFilters_cons_of_allBlank hs, FilterParams.normalFilters_append]

/-- Two filters, of which the second one is addressed among blank and unknown entries. -/
def spelledFields : List (String × Value) :=
  [("markup", .str " pLAIN\t"),
    ("filters", .list (["", "absent", "\u00a0 SToP\u2003", " \n"].map .str))]

theorem resolves_spelling_stop :
    let r := (Registry.registerAll {} [adds "Plain" "p" .markup, fails]).1
    ∃ p, FilterParams.check (.object spelledFields) = .ok p ∧
      Resolves r p [adds "Plain" "p" .markup, fails] := by
  intro r
  have hr : Registry.Reachable r := Registry.reachable_registerAll _
  have hentries : r.entries = [("plain", adds "Plain" "p" .markup), ("stop", fails)] := rfl
  have hlookup : r.lookup = fun name =>
      Registry.entry? name [("plain", adds "Plain" "p" .markup), ("stop", fails)] := by
    funext name
    rw [Registry.lookup, hentries]
  have hmem : fails ∈ r.all := by
    rw [Registry.all, hentries]
    exact List.mem_cons_of_mem _ List.mem_cons_self
  have hname : fails.shortName = .ok "stop" := Filter.shortName_eq_ok.mpr (by decide)
  have hspells : Spells "stop".toList "\u00a0 SToP\u2003".toList :=
    @Spells.of _ "\u00a0 ".toList "SToP".toList "\u2003".toList (by decide) (by decide) (by decide)
  have hchecked : FilterParams.check (.object spelledFields) =
      .ok { markup := "plain", filters := ["absent", "stop"] } := rfl
  have hmarkup : r.lookup "plain" = some (adds "Plain" "p" .markup) := by rw [hlookup]; rfl
  have hresolves := ((resolves_spelling hr).2.2.1 fails hmem "stop" hname _ hspells spelledFields
    _ hchecked).2 ["", "absent"] [" \n"] _ rfl hmarkup
  rw [hlookup] at hresolves
  exact ⟨_, hchecked, hresolves⟩

end Pipeline

end ContentFilters
