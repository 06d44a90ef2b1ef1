import ContentFilters.Proofs.Tag.WrittenAttributes
import Mathlib.Data.List.Induction
import Mathlib.Data.List.Nodup

/-!
# The values of attributes

An attribute text is read into one value for each key. Which value that is depends only on the last
pair with the key in each of the two readings: the pairs in single quotes are set after those in
double quotes, and what is set later replaces what was set before. Written attributes are read back
pair by pair, so their values can be told from the list that was written.
-/
namespace ContentFilters.Tag.Attributes

def lastValue? (key : Text) (found : List (Text × Text)) : Option Text :=
  (found.filter (·.1 = key)).getLast?.map (·.2)

theorem lastValue?_concat (key : Text) (found : List (Text × Text)) (p : Text × Text) :
    lastValue? key (found ++ [p]) = if p.1 = key then some p.2 else lastValue? key found := by
  unfold lastValue?
  rw [List.filter_append]
  by_cases hkey : p.1 = key
  · simp [hkey]
  · simp [hkey]

theorem setAll_concat (a : Attributes) (found : List (Text × Text)) (p : Text × Text) :
    setAll a (found ++ [p]) = set p.1 p.2 (setAll a found) := by
  unfold setAll
  rw [List.foldl_append]
  rfl

/-- Of all pairs that are set, the last one with a key counts. -/
theorem get?_setAll (key : Text) (a : Attributes) (found : List (Text × Text)) :
    get? key (setAll a found) = (lastValue? key found).or (get? key a) := by
  induction found using List.reverseRecOn with
  | nil => rfl
  | append_singleton found p ih =>
    rw [setAll_concat, get?_set, lastValue?_concat, ih]
    split <;> rfl

/-! ## Keys -/

/-- A key that is there keeps its place; a new one comes last. -/
theorem map_fst_set (key value : Text) (a : Attributes) :
    (set key value a).map (·.1) =
      if key ∈ a.map (·.1) then a.map (·.1) else a.map (·.1) ++ [key] := by
  induction a with
  | nil => rfl
  | cons p rest ih =>
    obtain ⟨k, v⟩ := p
    by_cases hkey : k = key
    · simp [set, hkey]
    · have hmem : key ∈ k :: rest.map (·.1) ↔ key ∈ rest.map (·.1) := by simp [Ne.symm hkey]
      simp only [set, if_neg hkey, List.map_cons, ih, hmem]
      split <;> rfl

theorem mem_keys_set {key other value : Text} {a : Attributes} :
    other ∈ (set key value a).map (·.1) ↔ other = key ∨ other ∈ a.map (·.1) := by
  rw [map_fst_set]
  split
  · next hold =>
    constructor
    · exact .inr
    · rintro (rfl | hother)
      · exact hold
      · exact hother
  · rw [List.mem_append, List.mem_singleton, or_comm]

theorem nodup_keys_set {key value : Text} {a : Attributes} (h : (a.map (·.1)).Nodup) :
    ((set key value a).map (·.1)).Nodup := by
  rw [map_fst_set]
  split
  · exact h
  · next hnew => simpa using h.concat hnew

theorem mem_keys_setAll {other : Text} {a : Attributes} {found : List (Text × Text)} :
    other ∈ (setAll a found).map (·.1) ↔ other ∈ found.map (·.1) ∨ other ∈ a.map (·.1) := by
  induction found using List.reverseRecOn with
  | nil => simp [setAll]
  | append_singleton found p ih =>
    rw [setAll_concat, mem_keys_set, ih, List.map_append, List.mem_append, List.map_singleton,
      List.mem_singleton, ← or_assoc, or_comm (a := other = p.1)]

theorem nodup_keys_setAll {a : Attributes} (h : (a.map (·.1)).Nodup)
    (found : List (Text × Text)) : ((setAll a found).map (·.1)).Nodup := by
  induction found using List.reverseRecOn with
  | nil => exact h
  | append_singleton found p ih =>
    rw [setAll_concat]
    exact nodup_keys_set ih

/-- Whatever the text, no key is read twice. -/
theorem nodup_keys_parse (s : Text) : ((parse s).map (·.1)).Nodup :=
  nodup_keys_setAll (nodup_keys_setAll (a := []) List.nodup_nil _) _

/-! ## Written attributes -/

/-- The last value that is written for a key in one kind of quotes. -/
def lastWritten? (quote : Char) (key : Text) (written : List Written) : Option Text :=
  (written.filter fun w => w.quote = quote ∧ w.key = key).getLast?.map (·.value)

theorem lastValue?_writtenPairs (quote : Char) (key : Text) (written : List Written) :
    lastValue? key (writtenPairs quote written) = lastWritten? quote key written := by
  have hfilter : (writtenPairs quote written).filter (·.1 = key) =
      (written.filter fun w => w.quote = quote ∧ w.key = key).map fun w => (w.key, w.value) := by
    rw [writtenPairs, List.filter_map, List.filter_filter]
    refine congrArg (List.map _) (List.filter_congr fun w _ => ?_)
    rw [Function.comp_apply, ← Bool.decide_and, decide_eq_decide]
    exact and_comm
  rw [lastValue?, lastWritten?, hfilter, List.getLast?_map, Option.map_map]
  rfl

theorem mem_keys_writtenPairs {quote : Char} {key : Text} {written : List Written} :
    key ∈ (writtenPairs quote written).map (·.1) ↔
      ∃ w ∈ written, w.quote = quote ∧ w.key = key := by
  simp [writtenPairs, and_assoc]

/-- Written attributes are read back as the map that sends each written key to its last value in
single quotes, or else to its last value in double quotes, and that has no other key. -/
theorem get?_parse_render {written : List Written} (h : ∀ w ∈ written, w.Readable) :
    (∀ key, get? key (parse (render written)) =
      (lastWritten? '\'' key written).or (lastWritten? '"' key written)) ∧
      (∀ key, key ∈ (parse (render written)).map (·.1) ↔ ∃ w ∈ written, w.key = key) ∧
      ((parse (render written)).map (·.1)).Nodup := by
  refine ⟨fun key => ?_, fun key => ?_, nodup_keys_parse _⟩
  · rw [parse_render h, ofWritten, get?_setAll, get?_setAll, lastValue?_writtenPairs,
      lastValue?_writtenPairs, get?, Option.or_none]
  · rw [parse_render h, ofWritten, mem_keys_setAll, mem_keys_setAll, mem_keys_writtenPairs,
      mem_keys_writtenPairs]
    constructor
    · rintro (⟨w, hw, -, hkey⟩ | ⟨w, hw, -, hkey⟩ | hnone)
      · exact ⟨w, hw, hkey⟩
      · exact ⟨w, hw, hkey⟩
      · cases hnone
    · rintro ⟨w, hw, hkey⟩
      rcases (h w hw).known_quote with hquote | hquote
      · exact .inr (.inl ⟨w, hw, hquote, hkey⟩)
      · exact .inl ⟨w, hw, hquote, hkey⟩

/-- One key in both kinds of quotes, with a value that ends in an equals sign and one that holds the
other quote. -/
def mixedQuotes : List Written :=
  [⟨' ', "k".toList, "it's".toList, '"'⟩, ⟨'\n', "k".toList, " b=".toList, '\''⟩,
    ⟨'\t', "k".toList, "'=".toList, '"'⟩, ⟨' ', "j".toList, [], '"'⟩]

theorem get?_parse_render_mixedQuotes :
    (∀ w ∈ mixedQuotes, w.Readable) ∧
      get? "k".toList (parse (render mixedQuotes)) = some " b=".toList ∧
      get? "j".toList (parse (render mixedQuotes)) = some [] := by
  have hreadable : ∀ w ∈ mixedQuotes, w.Readable := by
    simp only [mixedQuotes, List.forall_mem_cons]
    refine ⟨⟨by decide, by decide, List.all_eq_true.mp (by decide), .inl rfl, by decide, ?_⟩,
      ⟨by decide, by decide, List.all_eq_true.mp (by decide), .inr rfl, by decide, ?_⟩,
      ⟨by decide, by decide, List.all_eq_true.mp (by decide), .inl rfl, by decide, ?_⟩,
      ⟨by decide, by decide, List.all_eq_true.mp (by decide), .inl rfl, by decide, ?_⟩,
      fun _ hnone => nomatch hnone⟩
    -- no value holds an equals sign before a quote of either kind
    all_goals rintro quote (rfl | rfl) - <;> decide
  obtain ⟨hvalues, -, -⟩ := get?_parse_render hreadable
  exact ⟨hreadable, hvalues _, hvalues _⟩

end ContentFilters.Tag.Attributes
