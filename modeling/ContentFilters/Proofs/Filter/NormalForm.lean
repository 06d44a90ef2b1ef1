import ContentFilters.Proofs.Filter.Spelling
import ContentFilters.Proofs.Filter.StoredParams
import ContentFilters.Proofs.Text.LowerCase

/-!
# Stored records are in normal form

Whatever the supplied texts are, the stored names are trimmed and in lower case, and to trim and
lower-case them again changes nothing. The stored list holds the stored forms of the supplied
entries that are not blank, in their order and as often as they were given; the other two fields are
stored as they are. So a stored record passes the check again and comes out the same.
-/
namespace ContentFilters

namespace Text

/-- Only of blanks nothing is left. -/
theorem trim_eq_nil_iff {s : Text} : trim s = [] ↔ allBlank s = true := by
  refine ⟨fun hnil => ?_, trim_of_allBlank⟩
  have hany : (trim s).any (fun c => !isBlank c) = !allBlank s := by
    rw [trim, trimWhile, dropEndWhile, List.any_reverse, List.any_dropWhile, List.all_reverse,
      List.not_all_eq_any_not, List.any_dropWhile]
    rfl
  rw [hnil] at hany
  simpa using hany

theorem lower_trim_lower_trim (s : Text) : lower (trim (lower (trim s))) = lower (trim s) := by
  have htrimmed : Trimmed isBlank (lower (trim s)) :=
    trimmed_lower (trimsTo_trimWhile isBlank s).trimmed
  have htrim : trim (lower (trim s)) = lower (trim s) := trimWhile_of_trimmed htrimmed
  rw [htrim, lower_lower]

end Text

/-! ## What passes a check -/

namespace Checked

variable {path : List String} {v : Value}

theorem string_eq_ok {s : String} : string path v = .ok s ↔ v = .str s := by
  cases v <;> simp [string, fault]

theorem each_string_eq_ok {items : List Value} {names : List String} {i : Nat} :
    each (fun i v => string (path ++ [toString i]) v) i items = .ok names ↔
      items = names.map .str := by
  constructor
  · intro h
    induction items generalizing i names with
    | nil =>
      cases h
      rfl
    | cons item rest ih =>
      obtain ⟨⟨first, later⟩, hboth, rfl⟩ := map_eq_ok.mp h
      obtain ⟨hfirst, hlater⟩ := both_eq_ok.mp hboth
      rw [string_eq_ok.mp hfirst, ih hlater, List.map_cons]
  · rintro rfl
    exact each_string path names i

theorem stringList_eq_ok {names : List String} :
    stringList path v = .ok names ↔ v = .list (names.map .str) := by
  cases v with
  | list items => exact each_string_eq_ok.trans (by rw [Value.list.injEq])
  | _ => simp [stringList, fault]

theorem object_eq_ok {fields : List (String × Value)} :
    object path v = .ok fields ↔ v = .object fields := by
  cases v <;> simp [object, fault]

end Checked

namespace FilterParams

variable {fields : List (String × Value)} {α : Type}

/-- A field of a record holds this, in the form in which it is written, or it is not given and this
is the default. -/
def Supplies (fields : List (String × Value)) (name : String) (written : α → Value)
    (fallback given : α) : Prop :=
  Value.field? name fields = some (written given) ∨
    Value.field? name fields = none ∧ given = fallback

/-- A field whose check reads what is written supplies what the check gives. -/
theorem supplies_of_optional {name : String} {fallback given : α}
    {check : List String → Value → Checked α} {written : α → Value}
    (hcheck : ∀ v a, check [name] v = .ok a → v = written a)
    (h : optional fields name fallback check = .ok given) :
    Supplies fields name written fallback given := by
  unfold optional at h
  split at h
  · next hnone => exact .inr ⟨hnone, (Except.ok.inj h).symm⟩
  · next v hsome => exact .inl (by rw [hsome, hcheck v given h])

/-- The same for a field that is stored in a form of its own. -/
theorem exists_supplies_of_optional {β : Type} {name : String} {fallback : α} {stored : β}
    {check : List String → Value → Checked α} {written : α → Value} {normal : α → β}
    (hcheck : ∀ v a, check [name] v = .ok a → v = written a)
    (h : optional fields name (normal fallback) (fun path v => (check path v).map normal) =
      .ok stored) :
    ∃ given, Supplies fields name written fallback given ∧ stored = normal given := by
  unfold optional at h
  split at h
  · next hnone => exact ⟨fallback, .inr ⟨hnone, rfl⟩, (Except.ok.inj h).symm⟩
  · next v hsome =>
    obtain ⟨given, hgiven, rfl⟩ := Checked.map_eq_ok.mp h
    exact ⟨given, .inl (by rw [hsome, hcheck v given hgiven]), rfl⟩

theorem normalName_normalName (s : String) : normalName (normalName s) = normalName s := by
  simp only [normalName, String.toList_ofList, Text.lower_trim_lower_trim]

theorem normalName_eq_empty_iff {s : String} :
    normalName s = "" ↔ Text.allBlank s.toList = true := by
  rw [normalName, ← String.toList_eq_nil_iff, String.toList_ofList, Text.lower_eq_nil_iff,
    Text.trim_eq_nil_iff]

theorem normalFilters_eq (names : List String) :
    normalFilters names = (names.filter fun s => Text.trim s.toList ≠ []).map normalName := by
  unfold normalFilters
  congr 1
  refine List.filter_congr fun s _ => ?_
  by_cases hblank : Text.allBlank s.toList = true
  · simp [Text.trim_eq_nil_iff.mpr hblank, hblank]
  · simp [mt Text.trim_eq_nil_iff.mp hblank, hblank]

theorem mem_normalFilters {names : List String} {s : String} (hs : s ∈ normalFilters names) :
    normalName s = s ∧ s ≠ "" := by
  obtain ⟨given, hgiven, rfl⟩ := List.mem_map.mp hs
  refine ⟨normalName_normalName given, fun hempty => ?_⟩
  have hblank := normalName_eq_empty_iff.mp hempty
  have hkept := (List.mem_filter.mp hgiven).2
  rw [hblank] at hkept
  cases hkept

/-- A list of stored names is its own stored form. -/
theorem normalFilters_normalFilters (names : List String) :
    normalFilters (normalFilters names) = normalFilters names := by
  have hkept : ∀ s ∈ normalFilters names, (!Text.allBlank s.toList) = true := by
    intro s hs
    obtain ⟨hsame, hne⟩ := mem_normalFilters hs
    rw [← hsame] at hne
    rw [Bool.not_eq_true']
    exact Bool.eq_false_iff.mpr (mt normalName_eq_empty_iff.mpr hne)
  have hsame : ∀ s ∈ normalFilters names, normalName s = s := fun s hs => (mem_normalFilters hs).1
  calc normalFilters (normalFilters names) = (normalFilters names).map normalName :=
        congrArg (List.map normalName) (List.filter_eq_self.mpr hkept)
    _ = (normalFilters names).map fun s => s := List.map_congr_left hsame
    _ = normalFilters names := List.map_id' _

/-- A stored record is in normal form: the names are those supplied, or the defaults, trimmed and in
lower case, without the blank entries of the list, and none of them is changed by that again or is
empty; the name of the record and the options are as supplied. Checking the stored record gives it
back. -/
theorem check_normalForm {v : Value} {p : FilterParams} (h : check v = .ok p) :
    (∃ fields markup names, v = .object fields ∧
      Supplies fields "name" .str "default" p.name ∧
      Supplies fields "markup" .str "markdown" markup ∧
      Supplies fields "filters" (fun names => .list (names.map .str)) [] names ∧
      Supplies fields "filter_params" .object [] p.options ∧
      p.markup = normalName markup ∧
      p.filters = (names.filter fun s => Text.trim s.toList ≠ []).map normalName) ∧
    normalName p.markup = p.markup ∧
    (∀ s ∈ p.filters, normalName s = s ∧ s ≠ "") ∧
    check p.toValue = .ok p := by
  cases v with
  | object fields =>
    obtain ⟨hname, hmarkup, hfilters, hoptions⟩ := check_object_eq_ok.mp h
    have hdefault : normalName "markdown" = "markdown" := by decide +kernel
    have hnone : normalFilters [] = [] := rfl
    rw [← hdefault] at hmarkup
    rw [← hnone] at hfilters
    obtain ⟨markup, hgiven, hstored⟩ :=
      exists_supplies_of_optional (fun _ _ => Checked.string_eq_ok.mp) hmarkup
    obtain ⟨names, hnames, hkept⟩ :=
      exists_supplies_of_optional (fun _ _ => Checked.stringList_eq_ok.mp) hfilters
    have hsame : normalName p.markup = p.markup := by rw [hstored, normalName_normalName]
    have hsameAll : normalFilters p.filters = p.filters := by
      rw [hkept, normalFilters_normalFilters]
    refine ⟨⟨fields, markup, names, rfl, ?_, hgiven, hnames, ?_, hstored, ?_⟩, hsame, ?_, ?_⟩
    · exact supplies_of_optional (fun _ _ => Checked.string_eq_ok.mp) hname
    · exact supplies_of_optional (fun _ _ => Checked.object_eq_ok.mp) hoptions
    · rw [hkept, normalFilters_eq]
    · rw [hkept]
      exact fun s => mem_normalFilters
    · rw [check_toValue, hsame, hsameAll]
  | _ => cases h

/-- A record with sigmas at the ends of words, a dotted capital I, blanks of several kinds and a
repeated entry. -/
def unevenFields : List (String × Value) :=
  [("markup", .str "\u2003ΟΔΌΣ\n"),
    ("filters", .list (["", " İX", "\u00a0\t", "ΣΑΣ ", "ΣΑΣ"].map .str)),
    ("filter_params", .object [("ΣΑΣ", .int 1)])]

def evenParams : FilterParams where
  markup := "οδός"
  filters := ["i\u0307x", "σας", "σας"]
  options := [("ΣΑΣ", .int 1)]

theorem check_normalForm_sigmas :
    check (.object unevenFields) = .ok evenParams ∧ normalName "οδός" = "οδός" ∧
      check evenParams.toValue = .ok evenParams := by
  have hmarkup : normalName "\u2003ΟΔΌΣ\n" = "οδός" := by decide +kernel
  have hfilters : normalFilters ["", " İX", "\u00a0\t", "ΣΑΣ ", "ΣΑΣ"] =
      ["i\u0307x", "σας", "σας"] := by decide +kernel
  have hcheck : check (.object unevenFields) = .ok evenParams := by
    refine check_object_eq_ok.mpr ⟨rfl, congrArg Except.ok hmarkup, ?_, rfl⟩
    rw [optional_of_some rfl, Checked.stringList_map_str]
    exact congrArg Except.ok hfilters
  obtain ⟨-, hsame, -, hagain⟩ := check_normalForm hcheck
  exact ⟨hcheck, hsame, hagain⟩

end FilterParams

end ContentFilters
