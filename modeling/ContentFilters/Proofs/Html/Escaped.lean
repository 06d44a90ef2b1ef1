import ContentFilters.Html.Escape

/-!
# Escaped texts

What an escaped text may hold: no bracket and no quote, and an ampersand only at the start of one of
the five references that decoding knows. So it can be put between two tags, or between the quotes of
an attribute, without ending what it is put into.
-/
namespace ContentFilters.Html

/-- The characters that mean something in markup, the ampersand apart. -/
def markupChars : Text := ['<', '>', '"', '\'']

def references : List Text :=
  ["&amp;".toList, "&lt;".toList, "&gt;".toList, "&quot;".toList, "&#x27;".toList]

/-- A text that markup takes as a text. -/
structure Escaped (s : Text) : Prop where
  no_markup : ∀ d ∈ markupChars, d ∉ s
  ampersand : ∀ i, s[i]? = some '&' → ∃ reference ∈ references, reference <+: s.drop i

theorem escapeChar_cases (c : Char) :
    escapeChar c ∈ references ∨ escapeChar c = [c] ∧ c ≠ '&' ∧ c ∉ markupChars := by
  unfold escapeChar
  split
  · left; decide
  · split
    · left; decide
    · split
      · left; decide
      · split
        · left; decide
        · split
          · left; decide
          · right
            simp_all [markupChars]

/-- What stands neither in a text nor in a reference does not get in by escaping. -/
theorem not_mem_escape_of_not_mem {d : Char} {s : Text} (hs : d ∉ s)
    (hreferences : ∀ reference ∈ references, d ∉ reference) : d ∉ escape s := by
  intro hmem
  obtain ⟨c, hc, hd⟩ := List.mem_flatMap.mp hmem
  rcases escapeChar_cases c with hreference | ⟨hself, -, -⟩
  · exact hreferences _ hreference hd
  · rw [hself, List.mem_singleton] at hd
    exact hs (hd ▸ hc)

/-- Nothing that means something in markup is left in an escaped text. -/
theorem not_mem_escape {d : Char} (hd : d ∈ markupChars) (s : Text) : d ∉ escape s := by
  have hreferences : ∀ reference ∈ references, ∀ d ∈ markupChars, d ∉ reference := by
    simp [references, markupChars]
  intro hmem
  obtain ⟨c, -, hc⟩ := List.mem_flatMap.mp hmem
  rcases escapeChar_cases c with hreference | ⟨hself, -, hplain⟩
  · exact hreferences _ hreference d hd hc
  · rw [hself, List.mem_singleton] at hc
    exact hplain (hc ▸ hd)

theorem ampersand_escape (s : Text) (i : Nat) (h : (escape s)[i]? = some '&') :
    ∃ reference ∈ references, reference <+: (escape s).drop i := by
  have honce : ∀ reference ∈ references, '&' ∉ reference.tail := by decide
  induction s generalizing i with
  | nil => cases h
  | cons c rest ih =>
    rw [escape_cons] at h ⊢
    rcases Nat.lt_or_ge i (escapeChar c).length with hlt | hge
    · rw [List.getElem?_append_left hlt] at h
      rcases escapeChar_cases c with hreference | ⟨hself, hc, -⟩
      · cases i with
        | zero => exact ⟨_, hreference, List.prefix_append _ _⟩
        | succ i =>
          rw [← List.getElem?_tail] at h
          exact absurd (List.mem_of_getElem? h) (honce _ hreference)
      · rw [hself] at h
        exact absurd (List.mem_singleton.mp (List.mem_of_getElem? h)) (Ne.symm hc)
    · rw [List.getElem?_append_right hge] at h
      obtain ⟨reference, hreference, hprefix⟩ := ih _ h
      refine ⟨reference, hreference, ?_⟩
      rw [List.drop_append, List.drop_eq_nil_of_le hge, List.nil_append]
      exact hprefix

theorem escaped_escape (s : Text) : Escaped (escape s) :=
  ⟨fun _ hd => not_mem_escape hd s, ampersand_escape s⟩

theorem escape_append (s t : Text) : escape (s ++ t) = escape s ++ escape t :=
  List.flatMap_append

end ContentFilters.Html
