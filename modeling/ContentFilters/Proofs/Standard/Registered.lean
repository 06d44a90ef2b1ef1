import ContentFilters.Proofs.Registry.Addressing
import ContentFilters.Standard.Library

/-!
# The registry of the standard filters

Registering the standard filters on an empty registry puts each under its own name, in the order in
which they are listed, and each stage finds the one tag filter that belongs to it. Serial numbers
tell filters apart that were built apart; what a filter does has nothing to do with them. All this
holds for any tools that the filters work with.
-/
namespace ContentFilters

namespace Registry

/-- Filters with names of their own are listed as they were registered. -/
theorem entries_registerAll_of_nodup {entries : List (String × Filter)}
    (hnamed : ∀ entry ∈ entries, entry.2.data.shortName? = some entry.1)
    (hnodup : (entries.map (·.1)).Nodup) :
    (registerAll {} (entries.map (·.2))).1.entries = entries := by
  have hput : ∀ {name : String} {f : Filter} {entries : List (String × Filter)},
      name ∉ entries.map (·.1) → put name f entries = entries ++ [(name, f)] := by
    intro name f entries h
    induction entries with
    | nil => rfl
    | cons entry rest ih =>
      obtain ⟨hne, hrest⟩ := not_or.mp (mt List.mem_cons.mpr h)
      rw [put, if_neg (Ne.symm hne), ih hrest]
      rfl
  induction entries using List.reverseRecOn with
  | nil => rfl
  | append_singleton entries entry ih =>
    obtain ⟨hfirst, hlast⟩ := List.forall_mem_append.mp hnamed
    rw [List.map_append, List.nodup_append] at hnodup
    obtain ⟨hdistinct, -, hdisjoint⟩ := hnodup
    have hnew : entry.1 ∉ entries.map (·.1) := fun hmem =>
      hdisjoint _ hmem _ (List.mem_singleton.mpr rfl) rfl
    rw [List.map_append, List.map_singleton,
      entries_registerAll_concat _ _ (hlast entry (List.mem_singleton.mpr rfl)),
      ih hfirst hdistinct, hput hnew]

end Registry

namespace Standard

variable {tools : Tools}

/-- A registry of the standard filters alone, built from a serial number on. -/
def registry (tools : Tools) (serial : Nat) : Registry :=
  (Registry.registerAll {} (build tools serial)).1

def named (tools : Tools) : List (String × Filter) :=
  [("macropre", stage .preMarkup), ("macropost", stage .postMarkup),
    ("markdown", Markup.markdown tools), ("plain", Markup.plain), ("code", CodeBlock.filter),
    ("note", Admonition.filter), ("sanitize", Cleaning.filter tools none),
    ("externallinks", OffsiteLinks.filter tools)]

theorem shortName?_named (tools : Tools) :
    ∀ entry ∈ named tools, entry.2.data.shortName? = some entry.1 := by
  have hmarkdown : Markup.markdownData.shortName? = some "markdown" := rfl
  have hsanitize : Cleaning.data.shortName? = some "sanitize" := rfl
  have hlinks : OffsiteLinks.data.shortName? = some "externallinks" := rfl
  simp only [named, List.forall_mem_cons]
  exact ⟨rfl, rfl, hmarkdown, rfl, rfl, rfl, hsanitize, hlinks, List.forall_mem_nil _⟩

theorem nodup_named (tools : Tools) : ((named tools).map (·.1)).Nodup := by
  simp [named]

theorem reachable_registry (tools : Tools) (serial : Nat) : (registry tools serial).Reachable :=
  Registry.reachable_registerAll _

theorem entries_registry (tools : Tools) (serial : Nat) :
    (registry tools serial).entries =
      (named tools).mapIdx fun i entry => (entry.1, { entry.2 with serial := serial + i }) := by
  have hbuild : build tools serial = ((named tools).mapIdx fun i entry =>
      (entry.1, { entry.2 with serial := serial + i })).map (·.2) := rfl
  have hnames : ((named tools).mapIdx fun i entry => (entry.1,
      ({ entry.2 with serial := serial + i } : Filter))).map (·.1) = (named tools).map (·.1) := rfl
  rw [registry, hbuild]
  refine Registry.entries_registerAll_of_nodup ?_ (hnames ▸ nodup_named tools)
  intro entry hentry
  obtain ⟨i, hi, rfl⟩ := List.mem_mapIdx.mp hentry
  exact shortName?_named tools (named tools)[i] (List.getElem_mem hi)

theorem lookup_registry (tools : Tools) (serial : Nat) :
    (registry tools serial).lookup = fun name => Registry.entry? name
      ((named tools).mapIdx fun i entry => (entry.1, { entry.2 with serial := serial + i })) := by
  funext name
  rw [Registry.lookup, entries_registry]

/-- What is found in the registry is the standard filter with that name, its serial number apart. -/
theorem exists_of_lookup {serial : Nat} {name : String} {f : Filter}
    (h : (registry tools serial).lookup name = some f) :
    ∃ g n, (name, g) ∈ named tools ∧ f = { g with serial := n } := by
  have hmem := Registry.mem_of_found h
  rw [entries_registry] at hmem
  obtain ⟨i, hi, heq⟩ := List.mem_mapIdx.mp hmem
  cases heq
  exact ⟨(named tools)[i].2, serial + i, List.getElem_mem hi, rfl⟩

/-- The filters that are no stages. -/
theorem leaf_cases {name : String} {g : Filter} (h : (name, g) ∈ named tools)
    (hnot : ∀ s, g.behavior ≠ .stage s) :
    (name = "markdown" ∧ g = Markup.markdown tools) ∨ (name = "plain" ∧ g = Markup.plain) ∨
      (name = "code" ∧ g = CodeBlock.filter) ∨ (name = "note" ∧ g = Admonition.filter) ∨
      (name = "sanitize" ∧ g = Cleaning.filter tools none) ∨
      (name = "externallinks" ∧ g = OffsiteLinks.filter tools) := by
  simp only [named, List.mem_cons, Prod.mk.injEq, List.not_mem_nil, or_false] at h
  rcases h with ⟨-, rfl⟩ | ⟨-, rfl⟩ | h
  · exact absurd rfl (hnot .preMarkup)
  · exact absurd rfl (hnot .postMarkup)
  · exact h

theorem byKind_preMarkup (tools : Tools) (serial : Nat) :
    (registry tools serial).byKind .preMarkup =
      [{ CodeBlock.filter with serial := serial + 4 }] := by
  rw [(reachable_registry tools serial).coherent.byKind_eq, Registry.all, entries_registry]
  rfl

theorem byKind_postMarkup (tools : Tools) (serial : Nat) :
    (registry tools serial).byKind .postMarkup =
      [{ Admonition.filter with serial := serial + 5 }] := by
  rw [(reachable_registry tools serial).coherent.byKind_eq, Registry.all, entries_registry]
  rfl

/-- What holds of both tag filters and of a filter that is no stage holds of all that it stands for,
if serial numbers do not matter to it. -/
theorem forall_mem_spread {Q : Filter → Prop} (hserial : ∀ f n, Q f → Q { f with serial := n })
    (hcode : Q CodeBlock.filter) (hnote : Q Admonition.filter) {g : Filter}
    (hself : (∀ s, g.behavior ≠ .stage s) → Q g) (tools : Tools) (serial : Nat) :
    ∀ f ∈ (registry tools serial).spread g, Q f := by
  by_cases hstage : ∃ s, g.behavior = .stage s
  · obtain ⟨s, hs⟩ := hstage
    rw [Registry.spread_stage hs]
    cases s with
    | preMarkup =>
      rw [TagStage.kind, byKind_preMarkup]
      exact List.forall_mem_singleton.mpr (hserial _ _ hcode)
    | postMarkup =>
      rw [TagStage.kind, byKind_postMarkup]
      exact List.forall_mem_singleton.mpr (hserial _ _ hnote)
  · have hnot : ∀ s, g.behavior ≠ .stage s := fun s hs => hstage ⟨s, hs⟩
    rw [Registry.spread_of_not_stage hnot]
    exact List.forall_mem_singleton.mpr (hself hnot)

end Standard

end ContentFilters
