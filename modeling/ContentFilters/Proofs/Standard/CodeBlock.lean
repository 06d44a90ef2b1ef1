import ContentFilters.Proofs.Html.Escaped
import ContentFilters.Proofs.Tag.Untouched
import ContentFilters.Standard.CodeBlock

/-!
# What a code block is made of

A block is always given: both of its options are declared with a default. The brackets in it are
those of its own tags, which have no prefix; everything that comes from the tag or from the options
is escaped. So the block is headless, whatever the body, the language and the caption are.
-/
namespace ContentFilters

theorem Tag.headless_escape (s : Text) : headless (Html.escape s) = true :=
  headless_of_not_mem (Html.not_mem_escape (by decide) s)

/-! ## Options -/

/-- An option with a default has a value, whatever is supplied. -/
theorem Descriptor.exists_optionValue {d : Descriptor} {option : String} {v : Value}
    (h : d.defaultValue option = .ok (some v)) (params : Option FilterParams) :
    ∃ w, d.optionValue params option = .ok w := by
  unfold optionValue
  split
  · next supplied _ => exact ⟨supplied, rfl⟩
  · rw [h]
    exact ⟨v, rfl⟩

namespace Standard

/-- What holds for an option that a tag may set as well: its attribute, unless it is empty, and else
the displayed form of the option. -/
inductive Settles (d : Descriptor) (attributes : Tag.Attributes) (params : Option FilterParams)
    (option : String) : Text → Prop
  | given {text : Text} : Tag.Attributes.get? option.toList attributes = some text →
      text ≠ [] → Settles d attributes params option text
  | fallback {v : Value} : (Tag.Attributes.get? option.toList attributes).getD [] = [] →
      d.optionValue params option = .ok v → Settles d attributes params option v.display

theorem Settles.attributeOr_eq {d : Descriptor} {attributes : Tag.Attributes}
    {params : Option FilterParams} {option : String} {text : Text}
    (h : Settles d attributes params option text) :
    CodeBlock.attributeOr attributes option (d.optionValue params option) = .ok text := by
  unfold CodeBlock.attributeOr
  cases h with
  | given hget hne =>
    have hkept : (some text).filter (!·.isEmpty) = some text := by simp [hne]
    rw [hget, hkept]
  | fallback hget hv =>
    have hdropped : (Tag.Attributes.get? option.toList attributes).filter (!·.isEmpty) = none := by
      cases hfound : Tag.Attributes.get? option.toList attributes with
      | none => rfl
      | some text =>
        rw [hfound, Option.getD_some] at hget
        rw [hget]
        rfl
    rw [hdropped, hv]
    rfl

/-- An option with a default is always settled. -/
theorem exists_settles {d : Descriptor} {option : String} {v : Value}
    (h : d.defaultValue option = .ok (some v)) (attributes : Tag.Attributes)
    (params : Option FilterParams) : ∃ text, Settles d attributes params option text := by
  by_cases hget : (Tag.Attributes.get? option.toList attributes).getD [] = []
  · obtain ⟨w, hw⟩ := Descriptor.exists_optionValue h params
    exact ⟨w.display, .fallback hget hw⟩
  · cases hfound : Tag.Attributes.get? option.toList attributes with
    | none =>
      rw [hfound] at hget
      exact absurd rfl hget
    | some text =>
      rw [hfound] at hget
      exact ⟨text, .given hfound hget⟩

def askedTitle (attributes : Tag.Attributes) : Text :=
  (Tag.Attributes.get? "title".toList attributes).getD []

namespace CodeBlock

open Tag (headless headless_append headless_of_not_mem headless_escape headless_join)

theorem exists_language (attributes : Tag.Attributes) (params : Option FilterParams) :
    ∃ language, Settles data attributes params "lang" language := by
  have hdefault : data.defaultValue "lang" = .ok (some (.str "")) := rfl
  exact exists_settles hdefault attributes params

theorem exists_number (attributes : Tag.Attributes) (params : Option FilterParams) :
    ∃ number, Settles data attributes params "linenumber" number := by
  have hdefault : data.defaultValue "linenumber" = .ok (some (.str "false")) := rfl
  exact exists_settles hdefault attributes params

/-- The block is written from the language, the numbering and the title that are settled. -/
theorem replacement_of_settles {attributes : Tag.Attributes} {params : Option FilterParams}
    {language number : Text} (hlanguage : Settles data attributes params "lang" language)
    (hnumber : Settles data attributes params "linenumber" number) (body : Text) :
    replacement attributes body params =
      .ok (render language (switchesOn number) (askedTitle attributes) body) := by
  unfold replacement
  rw [hlanguage.attributeOr_eq, hnumber.attributeOr_eq]
  rfl

/-- A block is given for every tag, and it is a block for some language, with or without numbers. -/
theorem exists_replacement (attributes : Tag.Attributes) (body : Text)
    (params : Option FilterParams) :
    ∃ language numbered caption,
      replacement attributes body params = .ok (render language numbered caption body) := by
  obtain ⟨language, hlanguage⟩ := exists_language attributes params
  obtain ⟨number, hnumber⟩ := exists_number attributes params
  exact ⟨language, switchesOn number, askedTitle attributes,
    replacement_of_settles hlanguage hnumber body⟩

/-! ## The lines of a block -/

theorem numberFrom_eq_mapIdx (width n : Nat) (lines : List Text) :
    numberFrom width n lines = lines.mapIdx fun k line => lineMark width (n + k) ++ line := by
  induction lines generalizing n with
  | nil => rfl
  | cons line rest ih =>
    have hshift : ∀ k, n + 1 + k = n + (k + 1) := by omega
    simp only [numberFrom, ih, List.mapIdx_cons, Nat.add_zero, hshift]

theorem mem_numberFrom {width n : Nat} {lines : List Text} {line : Text}
    (h : line ∈ numberFrom width n lines) :
    ∃ k, ∃ text ∈ lines, line = lineMark width k ++ text := by
  rw [numberFrom_eq_mapIdx, List.mem_mapIdx] at h
  obtain ⟨k, hk, rfl⟩ := h
  exact ⟨n + k, lines[k], List.getElem_mem hk, rfl⟩

def shownLines (numbered : Bool) (body : Text) : List Text :=
  let escaped := (codeLines body).map Html.escape
  if numbered then numberFrom (Nat.toDigits 10 (codeLines body).length).length 1 escaped
  else escaped

theorem code_eq_join (numbered : Bool) (body : Text) :
    code numbered body = Text.join ['\n'] (shownLines numbered body) := rfl

/-- What holds for the escaped lines, with any mark in front and with none, holds for all lines of a
block. -/
theorem forall_mem_shownLines {P : Text → Prop} {body : Text}
    (hplain : ∀ line ∈ codeLines body, P (Html.escape line))
    (hmarked : ∀ line ∈ codeLines body, ∀ width k, P (lineMark width k ++ Html.escape line))
    (numbered : Bool) : ∀ shown ∈ shownLines numbered body, P shown := by
  intro shown hshown
  cases numbered with
  | false =>
    obtain ⟨line, hline, rfl⟩ := List.mem_map.mp hshown
    exact hplain line hline
  | true =>
    obtain ⟨k, text, htext, rfl⟩ := mem_numberFrom hshown
    obtain ⟨line, hline, rfl⟩ := List.mem_map.mp htext
    exact hmarked line hline _ k

/-! ## The block is headless -/

theorem not_mem_padded {d : Char} (hblank : d ≠ ' ') (hdigit : d.isDigit = false) (width n : Nat) :
    d ∉ padded width n := by
  intro hmem
  rcases List.mem_append.mp hmem with hpadding | hnumeral
  · exact hblank (List.eq_of_mem_replicate hpadding)
  · have hisDigit := Nat.isDigit_of_mem_toDigits (by decide) (by decide) hnumeral
    rw [hdigit] at hisDigit
    cases hisDigit

theorem headless_lineMark (width n : Nat) : headless (lineMark width n) = true := by
  have hnumeral : '<' ∉ padded width n := not_mem_padded (by decide) (by decide) width n
  unfold lineMark
  exact headless_append (headless_append (by decide) (headless_of_not_mem hnumeral)) (by decide)

theorem headless_code (numbered : Bool) (body : Text) : headless (code numbered body) = true := by
  have hplain : ∀ line ∈ codeLines body, headless (Html.escape line) = true :=
    fun line _ => headless_escape line
  have hmarked : ∀ line ∈ codeLines body, ∀ width k,
      headless (lineMark width k ++ Html.escape line) = true :=
    fun line _ width k => headless_append (headless_lineMark width k) (headless_escape line)
  rw [code_eq_join]
  exact headless_join (by decide) (forall_mem_shownLines hplain hmarked numbered)

/-- The opening tags of a block end in a bracket or a blank, with a language and without one. -/
theorem headless_opening (language : Text) :
    headless ("<pre><code".toList ++ classText language ++ ['>']) = true := by
  unfold classText
  split
  · decide
  · have hopening : headless ("<pre><code".toList ++ " class=\"language-".toList) = true := by
      decide
    simp only [List.append_assoc]
    rw [← List.append_assoc]
    exact headless_append hopening (headless_append (headless_escape language) (by decide))

theorem headless_block (language : Text) (numbered : Bool) (body : Text) :
    headless (block language numbered body) = true :=
  headless_append (headless_append (headless_opening language) (headless_code numbered body))
    (by decide)

/-- No tag head stands in a block. -/
theorem headless_render (language : Text) (numbered : Bool) (caption body : Text) :
    headless (render language numbered caption body) = true := by
  unfold render
  split
  · exact headless_block language numbered body
  · refine headless_append (headless_append (headless_append (headless_append ?_ ?_) ?_) ?_) ?_
    · decide
    · exact headless_escape caption
    · decide
    · exact headless_block language numbered body
    · decide

end CodeBlock

end Standard

end ContentFilters
