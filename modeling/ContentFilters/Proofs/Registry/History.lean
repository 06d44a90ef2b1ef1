import ContentFilters.Registry.Basic
import Mathlib.Data.List.Induction
import Mathlib.Data.List.Nodup

/-!
# Histories of registrations

A registry is what a sequence of registrations made of the empty one. Each name stands where it was
first registered and holds the filter that was registered under it last. A filter without a name is
refused, and a refusal leaves no trace: neither entries nor buckets nor the journal can tell that it
was asked for.

The invariant that every registration keeps is `Coherent`: entries stand under the short names of
their filters, no name is there twice, and each bucket holds the filters of its kind in the order of
the entries.
-/
namespace ContentFilters.Registry

/-! ## Entries -/

theorem entry?_put (name other : String) (f : Filter) (entries : List (String × Filter)) :
    entry? other (put name f entries) = if name = other then some f else entry? other entries := by
  induction entries with
  | nil => simp only [put, entry?]
  | cons entry rest ih =>
    obtain ⟨key, old⟩ := entry
    by_cases hkey : key = name
    · subst hkey
      simp only [put, if_pos, entry?]
      split <;> rfl
    · simp only [put, if_neg hkey, entry?, ih]
      by_cases hother : key = other
      · subst hother
        rw [if_pos rfl, if_neg (Ne.symm hkey), if_pos rfl]
      · rw [if_neg hother, if_neg hother]

/-- A name that is there keeps its place; a new one comes last. -/
theorem map_fst_put (name : String) (f : Filter) (entries : List (String × Filter)) :
    (put name f entries).map (·.1) =
      if name ∈ entries.map (·.1) then entries.map (·.1) else entries.map (·.1) ++ [name] := by
  induction entries with
  | nil => rfl
  | cons entry rest ih =>
    obtain ⟨key, old⟩ := entry
    by_cases hkey : key = name
    · subst hkey
      simp [put]
    · have hmem : name ∈ key :: rest.map (·.1) ↔ name ∈ rest.map (·.1) := by
        simp [Ne.symm hkey]
      simp only [put, if_neg hkey, List.map_cons, ih, hmem]
      split <;> rfl

theorem mem_put {name : String} {f : Filter} {entries : List (String × Filter)}
    {entry : String × Filter} (h : entry ∈ put name f entries) :
    entry = (name, f) ∨ entry ∈ entries := by
  induction entries with
  | nil => exact Or.inl (List.mem_singleton.1 h)
  | cons first rest ih =>
    obtain ⟨key, old⟩ := first
    unfold put at h
    split at h
    · next hkey =>
      subst hkey
      rcases List.mem_cons.1 h with rfl | h
      · exact Or.inl rfl
      · exact Or.inr (List.mem_cons_of_mem _ h)
    · rcases List.mem_cons.1 h with rfl | h
      · exact Or.inr List.mem_cons_self
      · exact (ih h).imp_right (List.mem_cons_of_mem _)

/-- With every name there once, the entries are what their names look up. -/
theorem map_lookup_names {entries : List (String × Filter)} (h : (entries.map (·.1)).Nodup) :
    (entries.map (·.1)).map (fun name => entry? name entries) = entries.map (some ·.2) := by
  induction entries with
  | nil => rfl
  | cons entry rest ih =>
    obtain ⟨key, f⟩ := entry
    rw [List.map_cons, List.nodup_cons] at h
    have htail : (rest.map (·.1)).map (fun name => entry? name ((key, f) :: rest)) =
        (rest.map (·.1)).map (fun name => entry? name rest) := by
      refine List.map_congr_left fun name hname => ?_
      have hne : key ≠ name := fun he => h.1 (he ▸ hname)
      simp only [if_neg hne, entry?]
    have hhead : entry? key ((key, f) :: rest) = some f := if_pos rfl
    simp only [List.map_cons, htail, ih h.2, hhead]

/-- Sorting keeps the filters of a kind in their order. -/
theorem sortByKind_eq (filters : List Filter) (k : FilterKind) :
    sortByKind filters k = filters.filter (·.kind = k) := by
  have hfold : ∀ (filters : List Filter) (buckets : FilterKind → List Filter),
      filters.foldl (fun buckets f k => if k = f.kind then buckets k ++ [f] else buckets k)
        buckets k = buckets k ++ filters.filter (·.kind = k) := by
    intro filters
    induction filters with
    | nil => intro buckets; simp
    | cons f rest ih =>
      intro buckets
      rw [List.foldl_cons, ih]
      by_cases hk : f.kind = k
      · simp [hk]
      · simp [hk, Ne.symm hk]
  exact (hfold filters fun _ => []).trans (List.nil_append _)

/-! ## One registration -/

/-- What a registration does: it is refused exactly when the filter has no name, and else it puts
the filter under its name and makes the buckets anew. -/
theorem register_eq (r : Registry) (f : Filter) :
    r.register f = match f.data.shortName? with
      | none => .error (.unnamed f.data.identity)
      | some name =>
        .ok ({ entries := put name f r.entries
               buckets := sortByKind ((put name f r.entries).map (·.2)) },
          ⟨.debug, loggerName, message (r.lookup name) name f⟩) := by
  unfold register Filter.shortName Descriptor.shortName
  cases f.data.shortName? <;> rfl

theorem register_eq_ok {r after : Registry} {f : Filter} {record : Journal.Record}
    (h : r.register f = .ok (after, record)) :
    ∃ name, f.data.shortName? = some name ∧ after.entries = put name f r.entries ∧
      ∀ k, after.buckets k = after.all.filter (·.kind = k) := by
  rw [register_eq] at h
  cases hname : f.data.shortName? with
  | none => rw [hname] at h; cases h
  | some name =>
    rw [hname] at h
    cases h
    exact ⟨name, rfl, rfl, fun k => sortByKind_eq _ k⟩

/-- The registries that registrations make of the empty one. -/
inductive Reachable : Registry → Prop
  | empty : Reachable {}
  | register {r after : Registry} {f : Filter} {record : Journal.Record} :
      Reachable r → r.register f = .ok (after, record) → Reachable after

structure Coherent (r : Registry) : Prop where
  named : ∀ entry ∈ r.entries, entry.2.data.shortName? = some entry.1
  nodup : (r.entries.map (·.1)).Nodup
  sorted : ∀ k, r.buckets k = r.all.filter (·.kind = k)

theorem coherent_empty : Coherent {} := ⟨by simp, by simp, fun _ => rfl⟩

theorem Coherent.register {r after : Registry} {f : Filter} {record : Journal.Record}
    (hr : Coherent r) (h : r.register f = .ok (after, record)) : Coherent after := by
  obtain ⟨name, hname, hentries, hbuckets⟩ := register_eq_ok h
  refine ⟨?_, ?_, hbuckets⟩
  · intro entry hentry
    rw [hentries] at hentry
    rcases mem_put hentry with rfl | hold
    · exact hname
    · exact hr.named entry hold
  · rw [hentries, map_fst_put]
    split
    · exact hr.nodup
    · next hnew => simpa using hr.nodup.concat hnew

theorem Reachable.coherent {r : Registry} (h : Reachable r) : Coherent r := by
  induction h with
  | empty => exact coherent_empty
  | register _ h ih => exact ih.register h

/-- The entries of a coherent registry carry the names of its filters. -/
theorem Coherent.map_shortName {r : Registry} (hr : Coherent r) :
    r.all.map (·.data.shortName?) = r.entries.map (some ·.1) := by
  rw [all, List.map_map]
  exact List.map_congr_left fun entry hentry => hr.named entry hentry

/-! ## Histories -/

/-- The names that a history registers, in the order of their first registrations. -/
def firstNames (history : List Filter) : List String :=
  (history.filterMap (·.data.shortName?)).eraseDups

/-- The filter that a history registers last under a name. -/
def lastNamed? (history : List Filter) (name : String) : Option Filter :=
  history.reverse.find? fun f => f.data.shortName? = some name

theorem registerAll_concat (r : Registry) (history : List Filter) (f : Filter) :
    r.registerAll (history ++ [f]) =
      match (r.registerAll history).1.register f with
      | .ok (after, record) => (after, (r.registerAll history).2 ++ [record])
      | .error _ => r.registerAll history := by
  unfold registerAll
  refine List.foldl_append.trans ?_
  rfl

theorem registerAll_concat_unnamed (r : Registry) (history : List Filter) {f : Filter}
    (hf : f.data.shortName? = none) : r.registerAll (history ++ [f]) = r.registerAll history := by
  rw [registerAll_concat, register_eq, hf]

theorem entries_registerAll_concat (r : Registry) (history : List Filter) {f : Filter}
    {name : String} (hf : f.data.shortName? = some name) :
    (r.registerAll (history ++ [f])).1.entries = put name f (r.registerAll history).1.entries := by
  rw [registerAll_concat, register_eq, hf]

/-- Whatever is asked for, in whatever order, the registry stays reachable. -/
theorem reachable_registerAll (history : List Filter) : Reachable (registerAll {} history).1 := by
  induction history using List.reverseRecOn with
  | nil => exact .empty
  | append_singleton history f ih =>
    rw [registerAll_concat]
    cases h : (registerAll {} history).1.register f with
    | error e => exact ih
    | ok result => exact ih.register h

/-- A name takes its place when it is first registered. -/
theorem names_registerAll (history : List Filter) :
    (registerAll {} history).1.entries.map (·.1) = firstNames history := by
  induction history using List.reverseRecOn with
  | nil => rfl
  | append_singleton history f ih =>
    cases hf : f.data.shortName? with
    | none =>
      rw [registerAll_concat_unnamed _ _ hf, ih]
      simp [firstNames, hf]
    | some name =>
      rw [entries_registerAll_concat _ _ hf, map_fst_put, ih]
      have hmem : name ∈ firstNames history ↔ name ∈ history.filterMap (·.data.shortName?) :=
        List.mem_eraseDups
      simp only [hmem]
      simp only [firstNames, List.filterMap_append, List.filterMap_cons, hf, List.filterMap_nil,
        List.eraseDups_append, List.removeAll, List.filter_cons, List.filter_nil]
      by_cases hold : name ∈ history.filterMap (·.data.shortName?)
      · simp [hold]
      · simp [hold, List.eraseDups_cons]

/-- A name holds the filter that was registered under it last. -/
theorem lookup_registerAll (history : List Filter) (name : String) :
    (registerAll {} history).1.lookup name = lastNamed? history name := by
  induction history using List.reverseRecOn with
  | nil => rfl
  | append_singleton history f ih =>
    have hlast : lastNamed? (history ++ [f]) name =
        if f.data.shortName? = some name then some f else lastNamed? history name := by
      simp only [lastNamed?, List.reverse_append, List.reverse_singleton, List.singleton_append,
        List.find?_cons]
      split <;> simp_all
    rw [hlast]
    cases hf : f.data.shortName? with
    | none => rw [registerAll_concat_unnamed _ _ hf, ih, if_neg (by simp)]
    | some other =>
      rw [lookup, entries_registerAll_concat _ _ hf, entry?_put, ← ih]
      simp only [Option.some.injEq]
      rfl

/-- Refused registrations might as well not have been asked for. -/
theorem registerAll_filter_named (r : Registry) (history : List Filter) :
    r.registerAll (history.filter (·.data.shortName?.isSome)) = r.registerAll history := by
  induction history using List.reverseRecOn with
  | nil => rfl
  | append_singleton history f ih =>
    rw [List.filter_append]
    cases hf : f.data.shortName? with
    | none =>
      have hdrop : [f].filter (·.data.shortName?.isSome) = [] := by simp [hf]
      rw [hdrop, List.append_nil, ih, registerAll_concat_unnamed _ _ hf]
    | some name =>
      have hkeep : [f].filter (·.data.shortName?.isSome) = [f] := by simp [hf]
      rw [hkeep, registerAll_concat, registerAll_concat, ih]

theorem contains_iff (r : Registry) (name : String) :
    r.contains name = true ↔ name ∈ r.entries.map (·.1) := by
  simp only [contains, List.any_eq_true, beq_iff_eq, List.mem_map]

/-- Looking a name up finds the one filter of the list that has it. -/
theorem Coherent.lookup_eq {r : Registry} (hr : Coherent r) (name : String) :
    r.lookup name = r.all.find? (·.data.shortName? = some name) := by
  have hentries : ∀ entries : List (String × Filter),
      (∀ entry ∈ entries, entry.2.data.shortName? = some entry.1) →
      entry? name entries = (entries.map (·.2)).find? (·.data.shortName? = some name) := by
    intro entries hnamed
    induction entries with
    | nil => rfl
    | cons entry rest ih =>
      have hfirst := hnamed entry List.mem_cons_self
      have hrest := ih fun other hother => hnamed other (List.mem_cons_of_mem _ hother)
      by_cases hkey : entry.1 = name
      · simp [hkey, hfirst, entry?]
      · simp [hkey, hfirst, hrest, entry?]
  exact hentries r.entries hr.named

/-- A registry lists each name where it was registered first with the filter that was registered
under it last; every look-up agrees with that list, and refusals leave no trace. -/
theorem registerAll_history (history : List Filter) :
    let r := (registerAll {} history).1
    r.all.map some = (firstNames history).map (lastNamed? history) ∧
      r.all.map (·.data.shortName?) = (firstNames history).map some ∧
      (∀ name, r.lookup name = r.all.find? (·.data.shortName? = some name)) ∧
      (∀ name f, r.require name = .ok f ↔ r.lookup name = some f) ∧
      (∀ name, r.require name = .error (.notRegistered name) ↔ r.lookup name = none) ∧
      (∀ name, r.contains name = true ↔ some name ∈ r.all.map (·.data.shortName?)) ∧
      r.size = r.all.length ∧
      (∀ f, f.data.shortName? = none →
        r.register f = .error (.unnamed f.data.identity) ∧
          registerAll {} (history ++ [f]) = registerAll {} history) ∧
      (∀ f, f.data.shortName?.isSome → ∃ after record, r.register f = .ok (after, record)) ∧
      registerAll {} (history.filter (·.data.shortName?.isSome)) = registerAll {} history := by
  intro r
  have hr : Coherent r := (reachable_registerAll history).coherent
  have hnames : r.entries.map (·.1) = firstNames history := names_registerAll history
  have hshort : r.all.map (·.data.shortName?) = (firstNames history).map some := by
    rw [hr.map_shortName, ← hnames, List.map_map]
    rfl
  refine ⟨?_, hshort, hr.lookup_eq, ?_, ?_, ?_, ?_, ?_, ?_, registerAll_filter_named {} history⟩
  · have hall : r.all.map some = r.entries.map (some ·.2) := List.map_map
    rw [hall, ← map_lookup_names hr.nodup, hnames]
    exact List.map_congr_left fun name _ => lookup_registerAll history name
  · intro name f
    unfold require
    cases r.lookup name <;> simp
  · intro name
    unfold require
    cases r.lookup name <;> simp
  · intro name
    rw [contains_iff, hnames, hshort]
    simp
  · simp only [size, all, List.length_map]
  · intro f hf
    refine ⟨?_, registerAll_concat_unnamed {} history hf⟩
    rw [register_eq, hf]
  · intro f hf
    obtain ⟨name, hname⟩ := Option.isSome_iff_exists.mp hf
    rw [register_eq, hname]
    exact ⟨_, _, rfl⟩

end ContentFilters.Registry
