import ContentFilters.Filter.Params

/-!
# What a stored record holds

A supplied record is stored exactly if each of its fields passes its own check, and then it holds
what these checks give. So the stored names depend on the supplied names alone.
-/
namespace ContentFilters

namespace Checked

variable {α β : Type}

theorem both_eq_ok {a : Checked α} {b : Checked β} {x : α} {y : β} :
    a.both b = .ok (x, y) ↔ a = .ok x ∧ b = .ok y := by
  cases a <;> cases b <;> simp [both]

theorem map_eq_ok {a : Checked α} {f : α → β} {y : β} :
    a.map f = .ok y ↔ ∃ x, a = .ok x ∧ f x = y := by
  cases a <;> simp [Except.map]

theorem each_string (path : List String) (names : List String) (i : Nat) :
    each (fun i v => string (path ++ [toString i]) v) i (names.map .str) = .ok names := by
  induction names generalizing i with
  | nil => rfl
  | cons name rest ih =>
    rw [List.map_cons, each, ih]
    rfl

theorem stringList_map_str (path : List String) (names : List String) :
    stringList path (.list (names.map .str)) = .ok names := each_string path names 0

end Checked

namespace FilterParams

variable {fields : List (String × Value)} {p : FilterParams}

theorem optional_of_some {α : Type} {name : String} {v : Value}
    (h : Value.field? name fields = some v) (fallback : α)
    (check : List String → Value → Checked α) :
    optional fields name fallback check = check [name] v := by
  rw [optional, h]

/-- A record is stored if its four fields pass their checks, and it holds what these give. -/
theorem check_object_eq_ok :
    check (.object fields) = .ok p ↔
      optional fields "name" "default" Checked.string = .ok p.name ∧
      optional fields "markup" "markdown"
        (fun path v => (Checked.string path v).map normalName) = .ok p.markup ∧
      optional fields "filters" []
        (fun path v => (Checked.stringList path v).map normalFilters) = .ok p.filters ∧
      optional fields "filter_params" [] Checked.object = .ok p.options := by
  simp only [← Checked.both_eq_ok]
  unfold check
  constructor
  · intro h
    obtain ⟨⟨name, markup, filters, options⟩, hchecked, rfl⟩ := Checked.map_eq_ok.mp h
    exact hchecked
  · intro h
    exact Checked.map_eq_ok.mpr ⟨_, h, rfl⟩

theorem markup_of_check (h : check (.object fields) = .ok p) {s : String}
    (hs : Value.field? "markup" fields = some (.str s)) : p.markup = normalName s := by
  have hmarkup := (check_object_eq_ok.mp h).2.1
  rw [optional_of_some hs] at hmarkup
  exact (Except.ok.inj hmarkup).symm

theorem filters_of_check (h : check (.object fields) = .ok p) {names : List String}
    (hnames : Value.field? "filters" fields = some (.list (names.map .str))) :
    p.filters = normalFilters names := by
  have hfilters := (check_object_eq_ok.mp h).2.2.1
  rw [optional_of_some hnames, Checked.stringList_map_str] at hfilters
  exact (Except.ok.inj hfilters).symm

/-- A record with all its fields given is stored, whatever the texts in it are. -/
theorem check_toValue (p : FilterParams) :
    check p.toValue =
      .ok { p with markup := normalName p.markup, filters := normalFilters p.filters } := by
  refine check_object_eq_ok.mpr ⟨rfl, rfl, ?_, rfl⟩
  rw [optional_of_some rfl, Checked.stringList_map_str]
  rfl

end FilterParams

end ContentFilters
