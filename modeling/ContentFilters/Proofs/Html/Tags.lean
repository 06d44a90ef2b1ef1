import ContentFilters.Proofs.Html.Escaped
import ContentFilters.Proofs.Text.Pieces
import Mathlib.Data.List.Forall2

/-!
# The markup of a text

What is left of a text when only its markup is looked at: its tags, from bracket to bracket, and its
brackets and quotes. A piece of a text can be read by itself if its brackets come in pairs, and then
the tags of the whole are those of its pieces, one after the other. Escaped texts hold no tag, so
whatever is escaped into a text does not show in its tags.
-/
namespace ContentFilters.Html

/-- The tags of a text without their brackets, each from an opening bracket to the next closing
one. -/
def tags (s : Text) : List Text :=
  match _h : Text.cutAt? '<' s with
  | none => []
  | some (_, inside) =>
    match _h' : Text.cutAt? '>' inside with
    | none => []
    | some (tag, rest) => tag :: tags rest
termination_by s.length
decreasing_by
  have := Text.length_of_cutAt? _h
  have := Text.length_of_cutAt? _h'
  omega

/-- The brackets and quotes of a text, in their order. -/
def marks (s : Text) : Text := s.filter (· ∈ markupChars)

theorem tags_eq (s : Text) : tags s =
    match Text.cutAt? '<' s with
    | none => []
    | some (_, inside) =>
      match Text.cutAt? '>' inside with
      | none => []
      | some (tag, rest) => tag :: tags rest := by
  fun_cases tags s with
  | case1 h => simp only [h]
  | case2 before inside h h' => simp only [h, h']
  | case3 before inside h tag rest h' => simp only [h, h']

theorem tags_nil : tags [] = [] := by
  rw [tags_eq]
  rfl

/-- A text without an opening bracket adds no tag to what follows. -/
theorem tags_append_text {s : Text} (h : '<' ∉ s) (rest : Text) : tags (s ++ rest) = tags rest := by
  rw [tags_eq (s ++ rest), tags_eq rest]
  cases hcut : Text.cutAt? '<' rest with
  | none =>
    have hnone : Text.cutAt? '<' (s ++ rest) = none := by
      rw [Text.cutAt?_eq_none] at hcut ⊢
      exact List.not_mem_append h hcut
    rw [hnone]
  | some p =>
    obtain ⟨before, inside⟩ := p
    obtain ⟨rfl, hbefore⟩ := Text.cutAt?_eq_some.mp hcut
    rw [← List.append_assoc, Text.cutAt?_append (List.not_mem_append h hbefore)]

theorem tags_append_tag {tag : Text} (h : '>' ∉ tag) (rest : Text) :
    tags ('<' :: tag ++ '>' :: rest) = tag :: tags rest := by
  have hopening : Text.cutAt? '<' ('<' :: tag ++ '>' :: rest) = some ([], tag ++ '>' :: rest) :=
    Text.cutAt?_append List.not_mem_nil _
  rw [tags_eq, hopening]
  simp only [Text.cutAt?_append h]

theorem marks_append (s t : Text) : marks (s ++ t) = marks s ++ marks t := List.filter_append ..

theorem marks_of_not_mem {s : Text} (h : ∀ d ∈ markupChars, d ∉ s) : marks s = [] := by
  rw [marks, List.filter_eq_nil_iff]
  intro c hc hmark
  exact h c (of_decide_eq_true hmark) hc

/-! ## Pieces -/

def marksOfTags (found : List Text) : Text := found.flatMap fun tag => '<' :: marks tag ++ ['>']

/-- A piece of a text whose tags are whole, and whose brackets and quotes are all in its tags. -/
structure Reads (s : Text) (found : List Text) : Prop where
  tags_append : ∀ rest, tags (s ++ rest) = found ++ tags rest
  marks_eq : marks s = marksOfTags found

namespace Reads

theorem tags_eq {s : Text} {found : List Text} (h : Reads s found) : tags s = found := by
  have hall := h.tags_append []
  rwa [List.append_nil, tags_nil, List.append_nil] at hall

theorem text {s : Text} (h : ∀ d ∈ markupChars, d ∉ s) : Reads s [] where
  tags_append rest := tags_append_text (h '<' (by decide)) rest
  marks_eq := marks_of_not_mem h

theorem char {c : Char} (h : c ∉ markupChars) : Reads [c] [] :=
  text fun _ hd hmem => h (List.mem_singleton.mp hmem ▸ hd)

theorem escaped (s : Text) : Reads (escape s) [] :=
  text fun _ hd => not_mem_escape hd s

theorem tag {tag : Text} (h : '>' ∉ tag) : Reads ('<' :: tag ++ ['>']) [tag] where
  tags_append rest := by
    rw [List.append_assoc]
    exact tags_append_tag h rest
  marks_eq := by
    have hopening : marks ['<'] = ['<'] := rfl
    have hclosing : marks ['>'] = ['>'] := rfl
    rw [← List.singleton_append, List.append_assoc, marks_append, marks_append, hopening, hclosing]
    simp [marksOfTags]

theorem append {s t : Text} {found more : List Text} (hs : Reads s found) (ht : Reads t more) :
    Reads (s ++ t) (found ++ more) where
  tags_append rest := by
    rw [List.append_assoc, hs.tags_append, ht.tags_append, List.append_assoc]
  marks_eq := by
    rw [marks_append, hs.marks_eq, ht.marks_eq]
    exact List.flatMap_append.symm

/-- Tags that are written one after the other. -/
theorem written (found : List Text) (h : ∀ tag ∈ found, '>' ∉ tag) :
    Reads (found.flatMap fun tag => '<' :: tag ++ ['>']) found := by
  induction found with
  | nil => exact text fun _ _ => List.not_mem_nil
  | cons first rest ih =>
    obtain ⟨hfirst, hrest⟩ := List.forall_mem_cons.mp h
    rw [List.flatMap_cons]
    exact (tag hfirst).append (ih hrest)

/-- Pieces with the same tags, joined without markup between them. -/
theorem join {separator : Text} {found : List Text} {pieces : List Text}
    (hseparator : Reads separator []) (h : ∀ piece ∈ pieces, Reads piece found) :
    Reads (Text.join separator pieces) (List.replicate pieces.length found).flatten := by
  induction pieces with
  | nil => exact text fun _ _ => List.not_mem_nil
  | cons piece rest ih =>
    obtain ⟨hpiece, hrest⟩ := List.forall_mem_cons.mp h
    rw [List.length_cons, List.replicate_succ, List.flatten_cons]
    cases rest with
    | nil =>
      rw [Text.join_singleton]
      simpa using hpiece
    | cons next rest =>
      rw [Text.join_cons_cons]
      exact hpiece.append (hseparator.append (ih hrest))

end Reads

/-! ## The same markup -/

/-- Tags that are the same, save for the value of one attribute, in which nothing is markup. -/
inductive SameTag : Text → Text → Prop
  | same (tag : Text) : SameTag tag tag
  | value {value value' : Text} (before after : Text) : Escaped value → Escaped value' →
      SameTag (before ++ '"' :: value ++ '"' :: after) (before ++ '"' :: value' ++ '"' :: after)

/-- Texts with the same tags in the same order, the values of attributes apart, and with the same
brackets and quotes. -/
structure SameMarkup (s t : Text) : Prop where
  tags : List.Forall₂ SameTag (tags s) (tags t)
  marks : marks s = marks t

theorem SameTag.marks_eq {tag tag' : Text} (h : SameTag tag tag') :
    Html.marks tag = Html.marks tag' := by
  cases h with
  | same => rfl
  | value before after hvalue hvalue' =>
    have hquote : ∀ s, Html.marks ('"' :: s) = '"' :: Html.marks s := fun _ =>
      List.filter_cons_of_pos (by decide)
    simp only [marks_append, hquote, marks_of_not_mem hvalue.no_markup,
      marks_of_not_mem hvalue'.no_markup]

theorem marksOfTags_eq {found found' : List Text} (h : List.Forall₂ SameTag found found') :
    marksOfTags found = marksOfTags found' := by
  induction h with
  | nil => rfl
  | cons htag _ ih =>
    unfold marksOfTags at ih ⊢
    rw [List.flatMap_cons, List.flatMap_cons, htag.marks_eq, ih]

theorem Reads.sameMarkup {s t : Text} {found found' : List Text} (hs : Reads s found)
    (ht : Reads t found') (h : List.Forall₂ SameTag found found') : SameMarkup s t where
  tags := by rwa [hs.tags_eq, ht.tags_eq]
  marks := by rw [hs.marks_eq, ht.marks_eq, marksOfTags_eq h]

end ContentFilters.Html
