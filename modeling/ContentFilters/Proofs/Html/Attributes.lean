import ContentFilters.Html.Document.Write
import Mathlib.Data.List.Induction

/-!
# Attributes of an element

What setting an attribute does to the attributes of an element: the value is there afterwards, every
other attribute is as before, and a new name comes last. The attributes of an element that was read
hold texts and lists of words, as their names ask for, and so can be written.
-/
namespace ContentFilters.Html.Document

/-! ## Setting -/

section Setting

variable (name : Text) (value : AttributeValue) (attributes : Attributes)

theorem attributeOf?_setAttribute (key : Text) :
    attributeOf? key (setAttribute name value attributes) =
      if name = key then some value else attributeOf? key attributes := by
  unfold attributeOf?
  induction attributes with
  | nil =>
    by_cases h : name = key
    · simp [setAttribute, h]
    · simp [setAttribute, h]
  | cons entry rest ih =>
    obtain ⟨k, old⟩ := entry
    rw [setAttribute]
    by_cases hk : k = name
    · subst hk
      by_cases h : k = key
      · simp [h]
      · simp [h]
    · by_cases h : k = key
      · subst h
        simp [hk, Ne.symm hk]
      · simpa [hk, h] using ih

/-- Setting an attribute to the value that it has changes nothing. -/
theorem setAttribute_of_attributeOf? {name : Text} {value : AttributeValue}
    {attributes : Attributes} (h : attributeOf? name attributes = some value) :
    setAttribute name value attributes = attributes := by
  induction attributes with
  | nil => cases h
  | cons entry rest ih =>
    obtain ⟨key, old⟩ := entry
    rw [setAttribute]
    by_cases hk : key = name
    · subst hk
      have hold : old = value := by simpa [attributeOf?] using h
      rw [if_pos rfl, hold]
    · have hrest : attributeOf? name rest = some value := by simpa [attributeOf?, hk] using h
      rw [if_neg hk, ih hrest]

/-- A new name comes last. -/
theorem map_fst_setAttribute :
    (setAttribute name value attributes).map (·.1) =
      attributes.map (·.1) ++ if name ∈ attributes.map (·.1) then [] else [name] := by
  induction attributes with
  | nil => rfl
  | cons entry rest ih =>
    obtain ⟨key, old⟩ := entry
    rw [setAttribute]
    by_cases hk : key = name
    · simp [hk]
    · have hmem : name ∈ key :: rest.map (·.1) ↔ name ∈ rest.map (·.1) := by
        simp [Ne.symm hk]
      simp only [if_neg hk, List.map_cons, ih, List.cons_append, hmem]

theorem mem_setAttribute {entry : Text × AttributeValue}
    (h : entry ∈ setAttribute name value attributes) :
    entry = (name, value) ∨ entry ∈ attributes := by
  induction attributes with
  | nil => exact .inl (List.mem_singleton.mp h)
  | cons first rest ih =>
    obtain ⟨key, old⟩ := first
    rw [setAttribute] at h
    split at h
    · next hk =>
      rw [hk] at h
      exact (List.mem_cons.mp h).imp_right (List.mem_cons_of_mem _)
    · rcases List.mem_cons.mp h with rfl | hrest
      · exact .inr List.mem_cons_self
      · exact (ih hrest).imp_right (List.mem_cons_of_mem _)

end Setting

/-- Attributes in which at most the values of some names are changed: the others stay, in their
order, and what is added comes after what was there. -/
structure KeptBut (names : List Text) (before after : Attributes) : Prop where
  others : after.filter (fun entry => !names.contains entry.1) =
    before.filter (fun entry => !names.contains entry.1)
  order : ∃ added, after.map (·.1) = before.map (·.1) ++ added

namespace KeptBut

variable {names : List Text} {name : Text} {before after : Attributes}

protected theorem refl (attributes : Attributes) : KeptBut names attributes attributes :=
  ⟨rfl, [], (List.append_nil _).symm⟩

theorem filter_setAttribute (hname : name ∈ names) (value : AttributeValue)
    (attributes : Attributes) :
    (setAttribute name value attributes).filter (fun entry => !names.contains entry.1) =
      attributes.filter (fun entry => !names.contains entry.1) := by
  have hskipped : (!names.contains name) = false := by simpa using hname
  induction attributes with
  | nil => rw [setAttribute, List.filter_cons, hskipped, if_neg Bool.false_ne_true]
  | cons entry rest ih =>
    obtain ⟨key, old⟩ := entry
    rw [setAttribute]
    split
    · next hkey =>
      subst hkey
      simp only [List.filter_cons, hskipped, Bool.false_eq_true, if_false]
    · rw [List.filter_cons, List.filter_cons, ih]

/-- One of the names may be set. -/
theorem set (h : KeptBut names before after) (hname : name ∈ names) (value : AttributeValue) :
    KeptBut names before (setAttribute name value after) where
  others := (filter_setAttribute hname value after).trans h.others
  order := by
    obtain ⟨added, hadded⟩ := h.order
    rw [map_fst_setAttribute, hadded, List.append_assoc]
    exact ⟨_, rfl⟩

end KeptBut

/-! ## Reading -/

/-- What holds of every value as it is read holds of the attributes of an element. -/
theorem forall_mem_elementAttributes {Q : Text → AttributeValue → Prop} {tag : Text}
    (h : ∀ name value, Q name (readValue tag name value)) (written : List (Text × Text)) :
    ∀ entry ∈ elementAttributes tag written, Q entry.1 entry.2 := by
  unfold elementAttributes
  induction written using List.reverseRecOn with
  | nil => exact fun _ he => nomatch he
  | append_singleton written last ih =>
    intro entry hentry
    rw [List.foldl_append] at hentry
    rcases mem_setAttribute _ _ _ hentry with rfl | hmem
    · exact h _ _
    · exact ih entry hmem

/-- Values as they are read: a list of words if the name of the attribute asks for one, and else a
text. -/
inductive AttributeValue.AsRead (tag name : Text) : AttributeValue → Prop
  | words (list : List Text) : holdsWords tag name = true → AsRead tag name (.words list)
  | text (s : Text) : holdsWords tag name = false → AsRead tag name (.text s)

theorem asRead_readValue (tag name value : Text) : (readValue tag name value).AsRead tag name := by
  unfold readValue
  split
  · next hwords => exact .words _ hwords
  · next hwords => exact .text _ (Bool.eq_false_iff.mpr hwords)

/-- The values with a text. -/
def AttributeValue.Writable (value : AttributeValue) : Prop := value.shown?.isSome

theorem AttributeValue.AsRead.writable {tag name : Text} {value : AttributeValue}
    (h : value.AsRead tag name) : value.Writable := by
  cases h with
  | words list => exact rfl
  | text s => exact rfl

end ContentFilters.Html.Document
