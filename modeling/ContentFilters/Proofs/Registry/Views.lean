import ContentFilters.Proofs.Registry.History
import Mathlib.Data.List.Perm.Basic
import Mathlib.Data.String.Basic

/-!
# Views of a registry

The buckets are a snapshot of their own, and listings are computed from the buckets, from the
entries, or from both. In every reachable registry they agree: each bucket is the list of all
filters with those of other kinds left out, the tag filters are the two tag buckets merged without a
change of order, and names and descriptions are those of the filters that are listed.
-/
namespace ContentFilters.Registry

/-! ## Merged lists -/

/-- The third list holds the items of the first two, and each of these keeps its order. -/
inductive Merged {α : Type} : List α → List α → List α → Prop
  | nil : Merged [] [] []
  | left {a : α} {first second merged : List α} :
      Merged first second merged → Merged (a :: first) second (a :: merged)
  | right {a : α} {first second merged : List α} :
      Merged first second merged → Merged first (a :: second) (a :: merged)

theorem Merged.perm {α : Type} {first second merged : List α} (h : Merged first second merged) :
    merged.Perm (first ++ second) := by
  induction h with
  | nil => exact .nil
  | left _ ih => exact ih.cons _
  | right _ ih => exact (ih.cons _).trans List.perm_middle.symm

/-- What satisfies one of two properties that exclude each other is a merge. -/
theorem merged_filter {α : Type} (p q : α → Bool) (hpq : ∀ a, p a = true → q a = false)
    (items : List α) :
    Merged (items.filter p) (items.filter q) (items.filter fun a => p a || q a) := by
  induction items with
  | nil => exact .nil
  | cons a rest ih =>
    cases hp : p a with
    | true => simpa [hp, hpq a hp] using ih.left
    | false =>
      cases hq : q a with
      | true => simpa [hp, hq] using ih.right
      | false => simpa [hp, hq] using ih

/-! ## Buckets -/

theorem expandsTags_eq (k : FilterKind) :
    k.expandsTags = (decide (k = .preMarkup) || decide (k = .postMarkup)) := by
  cases k <;> rfl

theorem Coherent.byKind_eq {r : Registry} (hr : Coherent r) (k : FilterKind) :
    r.byKind k = r.all.filter (·.kind = k) := hr.sorted k

theorem Coherent.kind_of_mem {r : Registry} (hr : Coherent r) {k : FilterKind} {f : Filter}
    (hf : f ∈ r.byKind k) : f.kind = k := by
  rw [hr.byKind_eq] at hf
  exact of_decide_eq_true (List.mem_filter.mp hf).2

theorem map_snd_kinds (r : Registry) : r.kinds.map (·.2) = FilterKind.all.map r.byKind := rfl

theorem Coherent.disjoint_kinds {r : Registry} (hr : Coherent r) :
    (r.kinds.map (·.2)).Pairwise List.Disjoint := by
  rw [map_snd_kinds, List.pairwise_map]
  have hall : FilterKind.all.Nodup := by decide
  refine hall.imp ?_
  intro k l hkl f hk hl
  exact hkl ((hr.kind_of_mem hk).symm.trans (hr.kind_of_mem hl))

/-- The filters of some kinds, kind after kind, are the filters of these kinds rearranged. -/
theorem perm_flatMap_filter_kind (filters : List Filter) {ks : List FilterKind} (h : ks.Nodup) :
    (ks.flatMap fun k => filters.filter (·.kind = k)).Perm (filters.filter (·.kind ∈ ks)) := by
  induction ks with
  | nil => simp
  | cons k rest ih =>
    obtain ⟨hk, hrest⟩ := List.nodup_cons.mp h
    have hmerged := merged_filter (fun f : Filter => decide (f.kind = k))
      (fun f => decide (f.kind ∈ rest)) (by intro f hf; simp_all) filters
    have hmem : (fun f : Filter => decide (f.kind ∈ k :: rest)) =
        fun f => decide (f.kind = k) || decide (f.kind ∈ rest) := by
      funext f
      simp
    rw [List.flatMap_cons, hmem]
    exact ((ih hrest).append_left _).trans hmerged.perm.symm

theorem Coherent.perm_kinds {r : Registry} (hr : Coherent r) :
    (r.kinds.flatMap (·.2)).Perm r.all := by
  have hflat : r.kinds.flatMap (·.2) =
      FilterKind.all.flatMap fun k => r.all.filter (·.kind = k) := by
    simp only [kinds, List.flatMap_map, hr.byKind_eq]
  have hall : r.all.filter (·.kind ∈ FilterKind.all) = r.all :=
    List.filter_eq_self.mpr fun f _ => decide_eq_true (FilterKind.mem_all f.kind)
  rw [hflat]
  exact (perm_flatMap_filter_kind r.all (by decide)).trans (.of_eq hall)

/-! ## Names -/

theorem perm_names (r : Registry) : r.names.Perm (r.entries.map (·.1)) :=
  List.mergeSort_perm _ _

theorem Coherent.names_increasing {r : Registry} (hr : Coherent r) :
    r.names.Pairwise (· < ·) := by
  have hsorted : r.names.Pairwise fun a b => decide (a ≤ b) = true := by
    refine List.pairwise_mergeSort ?_ ?_ _
    · intro a b c hab hbc
      exact decide_eq_true ((of_decide_eq_true hab).trans (of_decide_eq_true hbc))
    · intro a b
      simpa using le_total a b
  have hnodup : r.names.Nodup := (perm_names r).nodup_iff.mpr hr.nodup
  refine (hsorted.and hnodup).imp ?_
  intro a b h
  exact lt_of_le_of_ne (of_decide_eq_true h.1) h.2

/-! ## Descriptions -/

/-- The declared defaults are an object of objects. -/
def HasObjectDefaults (f : Filter) : Prop :=
  ∃ options, f.data.defaults = .object options ∧
    ∀ option ∈ options, ∃ fields, option.2 = .object fields

theorem objectOf_object (path : List String) {options : List (String × Value)}
    (h : ∀ option ∈ options, ∃ fields, option.2 = .object fields) :
    ∃ defaults, Checked.objectOf Checked.object path (.object options) = .ok defaults := by
  unfold Checked.objectOf
  simp only
  generalize 0 = i
  induction options generalizing i with
  | nil => exact ⟨[], rfl⟩
  | cons option rest ih =>
    obtain ⟨name, value⟩ := option
    obtain ⟨fields, rfl⟩ := h _ List.mem_cons_self
    obtain ⟨defaults, hrest⟩ :=
      ih (fun other hother => h other (List.mem_cons_of_mem _ hother)) (i + 1)
    refine ⟨(name, fields) :: defaults, ?_⟩
    rw [Checked.each, hrest]
    rfl

def infoOf (entry : String × Filter) (defaults : List (String × List (String × Value))) :
    FilterInfo where
  shortName := entry.1
  kind := entry.2.kind.name
  displayName := entry.2.data.displayName
  description := entry.2.data.description
  helpText := entry.2.data.helpText
  defaults := defaults
  expandsTags := entry.2.kind.expandsTags

/-- The record of an entry passes its check unchanged. -/
theorem check_infoRecord {entry : String × Filter} (h : HasObjectDefaults entry.2) :
    ∃ defaults, FilterInfo.check (infoRecord entry) = .ok (infoOf entry defaults) := by
  obtain ⟨options, hdefaults, hoptions⟩ := h
  obtain ⟨defaults, hchecked⟩ := objectOf_object ["default_config"] hoptions
  refine ⟨defaults, ?_⟩
  simp only [FilterInfo.check, infoRecord, hdefaults, FilterInfo.required, Value.field?,
    ↓reduceIte, String.reduceEq, Checked.string, FilterParams.optional, hchecked,
    Checked.truthValue]
  rfl

/-- Describing succeeds for every entry in turn, with the entry's name and kind. -/
theorem describe_ok {r : Registry} (h : ∀ f ∈ r.all, HasObjectDefaults f) :
    ∃ infos, r.describe = .ok infos ∧
      List.Forall₂ (fun entry info => info.shortName = entry.1 ∧
        info.expandsTags = entry.2.kind.expandsTags) r.entries infos := by
  unfold all at h
  unfold describe
  revert h
  induction r.entries with
  | nil => exact fun _ => ⟨[], rfl, .nil⟩
  | cons entry rest ih =>
    intro h
    obtain ⟨hfirst, hrest⟩ := List.forall_mem_cons.mp h
    obtain ⟨defaults, hchecked⟩ := check_infoRecord hfirst
    obtain ⟨infos, hinfos, hall⟩ := ih hrest
    refine ⟨infoOf entry defaults :: infos, ?_, .cons ⟨rfl, rfl⟩ hall⟩
    rw [List.mapM_cons, hchecked, hinfos]
    rfl

theorem mem_tagFilters {r : Registry} {f : Filter} (hf : f ∈ r.all) :
    f ∈ r.tagFilters ↔ f.kind.expandsTags = true := by
  simp only [tagFilters, List.mem_filter, hf, true_and]

/-- In every reachable registry all views agree with the list of all filters. -/
theorem views_agree {r : Registry} (h : Reachable r) :
    (∀ k, r.byKind k = r.all.filter (·.kind = k)) ∧
      (∀ k : FilterKind, r.byKindNamed (.str k.name) = .ok (r.byKind k)) ∧
      r.kinds = [.preMarkup, .postMarkup, .markup, .postProcess, .other].map
        (fun k => (k, r.byKind k)) ∧
      (r.kinds.map (·.2)).Pairwise List.Disjoint ∧
      (r.kinds.flatMap (·.2)).Perm r.all ∧
      r.tagFilters = r.all.filter (fun f => f.kind = .preMarkup ∨ f.kind = .postMarkup) ∧
      Merged (r.byKind .preMarkup) (r.byKind .postMarkup) r.tagFilters ∧
      r.names.Pairwise (· < ·) ∧
      (r.names.map some).Perm (r.all.map (·.data.shortName?)) ∧
      ((∀ f ∈ r.all, HasObjectDefaults f) →
        ∃ infos, r.describe = .ok infos ∧
          List.Forall₂ (fun f info => f.shortName = .ok info.shortName ∧
            (info.expandsTags = true ↔ f ∈ r.tagFilters)) r.all infos) := by
  have hr : Coherent r := h.coherent
  refine ⟨hr.byKind_eq, ?_, rfl, hr.disjoint_kinds, hr.perm_kinds, ?_, ?_, hr.names_increasing,
    ?_, ?_⟩
  · intro k
    simp only [byKindNamed, FilterKind.read, FilterKind.ofName?_name]
    rfl
  · simp only [tagFilters, expandsTags_eq, Bool.decide_or]
  · have hmerged := merged_filter (fun f : Filter => decide (f.kind = .preMarkup))
      (fun f => decide (f.kind = .postMarkup)) (by intro f hf; simp_all) r.all
    simpa only [hr.byKind_eq, tagFilters, expandsTags_eq] using hmerged
  · rw [hr.map_shortName]
    exact ((perm_names r).map some).trans (.of_eq List.map_map)
  · intro hdefaults
    obtain ⟨infos, hinfos, hall⟩ := describe_ok hdefaults
    refine ⟨infos, hinfos, ?_⟩
    rw [all, List.forall₂_map_left_iff]
    refine (List.forall₂_and_left r.entries infos |>.mpr ⟨fun _ h => h, hall⟩).imp ?_
    intro entry info hentry
    obtain ⟨hmem, hname, hkind⟩ := hentry
    refine ⟨?_, ?_⟩
    · rw [Filter.shortName, Descriptor.shortName, hr.named entry hmem, hname]
    · rw [mem_tagFilters (List.mem_map_of_mem hmem), hkind]

def bare (word : String) (kind : FilterKind) : Filter where
  data := { moduleName := "filters", qualifiedName := word, typeName := word, kind := kind }
  behavior := .undefined

/-- A filter that is replaced by one of another kind moves to the front of the other bucket, where
its name has stood from the start. -/
theorem views_agree_replaced :
    let r := (registerAll {} [bare "Code" .preMarkup, bare "Note" .postMarkup,
      bare "Code" .postMarkup]).1
    Reachable r ∧ Merged [] r.all r.tagFilters ∧
      r.all = [bare "Code" .postMarkup, bare "Note" .postMarkup] := by
  intro r
  have hr : Reachable r := reachable_registerAll _
  have hpre : r.byKind .preMarkup = [] := rfl
  have hpost : r.byKind .postMarkup = r.all := rfl
  have hmerged := (views_agree hr).2.2.2.2.2.2.1
  rw [hpre, hpost] at hmerged
  exact ⟨hr, hmerged, rfl⟩

end ContentFilters.Registry
