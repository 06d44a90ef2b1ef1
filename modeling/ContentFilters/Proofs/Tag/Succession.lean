import ContentFilters.Proofs.Tag.Reading
import ContentFilters.Proofs.Tag.Search
import ContentFilters.Tag.Expansion
import Mathlib.Data.List.Forall2

/-!
# Searches in succession

What one scanner answers when it is asked again and again, for tags of either form in any mix, as
long as each search starts at or behind the end of the tag found before. Every answer is then the
first tag at or behind the place asked for, as if nothing were remembered, and there is no answer
just if there is no such tag. Here a tag is told by the characters at its places alone.
-/
namespace ContentFilters.Tag

/-! ## Tags in a text -/

/-- A tag stands in a text: a head at its start, a character that ends the name, and up to the first
closing bracket the attribute text, with a slash behind it if the tag is self-closing. -/
structure StandsIn (name : TagName) (limit : Int) (form : TagForm) (text : Text)
    (tag : Occurrence) : Prop where
  head : name.head <+: text.drop tag.start
  delimited : ∃ c ∈ [' ', '\t', '/', '>'], text[tag.start + name.head.length]? = some c
  bracket : ∃ b, FirstBracket text (tag.start + name.head.length) b ∧ tag.stop = b + 1 ∧
    slice text (tag.start + name.head.length) b = tag.attributeText ++ form.ending
  length_le : (tag.attributeText.length : Int) ≤ limit + 1
  lead : tag.attributeText = [] ∨ tag.attributeText.head? = some ' ' ∨
    tag.attributeText.head? = some '\t'

theorem endsName_iff {s : Text} :
    endsName s = true ↔ ∃ c ∈ [' ', '\t', '/', '>'], s.head? = some c := by
  cases s with
  | nil => simp [endsName]
  | cons c rest => simp [endsName, or_assoc]

variable {name : TagName} {limit : Int} {form : TagForm} {text : Text} {place : Nat}

/-- A head stands at a place, told by the characters of the text. -/
theorem afterHead?_drop_eq_some {i : Nat} {after : Text} :
    afterHead? name (text.drop i) = some after ↔
      after = text.drop (i + name.head.length) ∧ name.head <+: text.drop i ∧
        ∃ c ∈ [' ', '\t', '/', '>'], text[i + name.head.length]? = some c := by
  rw [afterHead?_eq_some]
  constructor
  · rintro ⟨hdrop, hends⟩
    have hafter : after = text.drop (i + name.head.length) := by
      rw [← List.drop_drop, hdrop, List.drop_left]
    rw [hafter, endsName_iff, List.head?_drop] at hends
    exact ⟨hafter, ⟨after, hdrop.symm⟩, hends⟩
  · rintro ⟨rfl, ⟨rest, hrest⟩, hends⟩
    rw [endsName_iff, List.head?_drop]
    refine ⟨?_, hends⟩
    rw [← List.drop_drop, ← hrest, List.drop_left]

namespace StandsIn

variable {tag other : Occurrence}

theorem tagAtStart?_eq (h : StandsIn name limit form text tag) :
    Walk.tagAtStart? name limit form (text.drop tag.start) =
      some (tag.attributeText, text.drop tag.stop) := by
  obtain ⟨b, hb, hstop, hinner⟩ := h.bracket
  have hhead := afterHead?_drop_eq_some.mpr ⟨rfl, h.head, h.delimited⟩
  rw [slice, List.drop_take] at hinner
  have htext := attributeText?_eq_some.mpr ⟨hinner, h.length_le, startsBlank_iff.mpr h.lead⟩
  rw [Walk.tagAtStart?_of_bracket hhead hb, htext, hstop]
  rfl

/-- Where a tag starts, one tag stands only. -/
theorem eq_of_start_eq (h : StandsIn name limit form text tag)
    (hother : StandsIn name limit form text other) (hstart : tag.start = other.start) :
    tag = other := by
  have hattributes := h.tagAtStart?_eq
  rw [hstart, hother.tagAtStart?_eq] at hattributes
  obtain ⟨b, hb, hstop, -⟩ := h.bracket
  obtain ⟨b', hb', hstop', -⟩ := hother.bracket
  rw [← hstart] at hb'
  have hsame : b = b' :=
    Nat.le_antisymm (hb.le_of_le hb' (Nat.le_refl _)) (hb'.le_of_le hb (Nat.le_refl _))
  obtain ⟨start, stop, attributes⟩ := tag
  obtain ⟨start', stop', attributes'⟩ := other
  simp_all

end StandsIn

/-- What the plain reading sees at a place stands there. -/
theorem standsIn_of_tagAtStart? {i b : Nat} {a inside : Text}
    (h : Walk.tagAtStart? name limit form (text.drop i) = some (a, inside))
    (hb : FirstBracket text (i + name.head.length) b) :
    StandsIn name limit form text ⟨i, b + 1, a⟩ := by
  cases hhead : afterHead? name (text.drop i) with
  | none =>
    rw [Walk.tagAtStart?_of_no_head hhead] at h
    cases h
  | some after =>
    rw [Walk.tagAtStart?_of_bracket hhead hb] at h
    obtain ⟨hafter, hstands, hdelimited⟩ := afterHead?_drop_eq_some.mp hhead
    obtain ⟨_, htext, he⟩ := Option.map_eq_some_iff.mp h
    cases he
    obtain ⟨hinner, hlength, hblank⟩ := attributeText?_eq_some.mp htext
    refine ⟨hstands, hdelimited, ⟨b, hb, rfl, ?_⟩, hlength, startsBlank_iff.mp hblank⟩
    rw [slice, List.drop_take, ← hafter, hinner]

/-- Where the plain reading sees nothing, no tag starts. -/
theorem StandsIn.start_ne {tag : Occurrence} (h : StandsIn name limit form text tag) {i : Nat}
    (hnone : Walk.tagAtStart? name limit form (text.drop i) = none) : tag.start ≠ i := by
  rintro rfl
  rw [h.tagAtStart?_eq] at hnone
  cases hnone

/-! ## One search -/

structure FirstFrom (name : TagName) (limit : Int) (form : TagForm) (text : Text) (place : Nat)
    (tag : Occurrence) : Prop where
  stands : StandsIn name limit form text tag
  le_start : place ≤ tag.start
  least : ∀ other, StandsIn name limit form text other → place ≤ other.start →
    tag.start ≤ other.start

theorem FirstFrom.unique {tag other : Occurrence} (h : FirstFrom name limit form text place tag)
    (hother : FirstFrom name limit form text place other) : tag = other :=
  h.stands.eq_of_start_eq hother.stands <| Nat.le_antisymm
    (h.least other hother.stands hother.le_start) (hother.least tag h.stands h.le_start)

theorem NextTag.firstFrom {tag : Occurrence} (h : NextTag name limit form text place tag) :
    FirstFrom name limit form text place tag := by
  obtain ⟨b, hb, hstop⟩ := h.bracket
  have hstands := standsIn_of_tagAtStart? h.at_start hb
  rw [← hstop] at hstands
  refine ⟨hstands, h.le_start, fun other hother hplace => Nat.le_of_not_lt fun hlt => ?_⟩
  exact hother.start_ne (h.earlier other.start hplace hlt) rfl

structure Answers (name : TagName) (limit : Int) (form : TagForm) (text : Text) (place : Nat)
    (answer : Option Occurrence) : Prop where
  eq_some_iff : ∀ tag, answer = some tag ↔ FirstFrom name limit form text place tag
  eq_none_iff : answer = none ↔ ∀ tag, StandsIn name limit form text tag → tag.start < place

theorem IsNext.answers {answer : Option Occurrence} {last : Option Nat}
    (h : IsNext name limit form text place (answer, last)) :
    Answers name limit form text place answer := by
  cases answer with
  | none =>
    have hbefore : ∀ tag, StandsIn name limit form text tag → tag.start < place := fun tag htag =>
      Nat.lt_of_not_le fun hle => htag.start_ne (h tag.start hle) rfl
    refine ⟨fun tag => iff_of_false (by simp) fun hfirst => ?_, iff_of_true rfl hbefore⟩
    exact absurd hfirst.le_start (Nat.not_le_of_lt (hbefore tag hfirst.stands))
  | some found =>
    have hfound : FirstFrom name limit form text place found := h.1.firstFrom
    refine ⟨fun tag => ⟨?_, fun htag => congrArg some (hfound.unique htag)⟩, ?_⟩
    · rintro ⟨⟩
      exact hfound
    · refine iff_of_false (by simp) fun hnone => ?_
      exact absurd hfound.le_start (Nat.not_le_of_lt (hnone found hfound.stands))

/-! ## One search after the other -/

/-- The answers of a scanner that is asked for tags of a form from a place on, again and again. -/
def Scanner.searches (scanner : Scanner) : List (Nat × TagForm) → List (Option Occurrence)
  | [] => []
  | (place, form) :: requests =>
    (scanner.find place form).1 :: (scanner.find place form).2.searches requests

/-- Every search but the first starts at or behind the end of the tag that the one before it
found. -/
def Advancing : List (Nat × TagForm) → List (Option Occurrence) → Prop
  | _ :: request :: requests, answer :: answers =>
    (∃ tag, answer = some tag ∧ tag.stop ≤ request.1) ∧ Advancing (request :: requests) answers
  | _, _ => True

/-- Searches that advance keep the remembered bracket right. -/
theorem Scanner.answers_searches {scanner : Scanner} (hname : scanner.name.Plain)
    {requests : List (Nat × TagForm)}
    (hlast : ∀ request ∈ requests.head?, KnownBracket scanner.text request.1 scanner.bracket)
    (hadvancing : Advancing requests (scanner.searches requests)) :
    List.Forall₂ (fun request answer => Answers scanner.name scanner.limit request.2 scanner.text
      request.1 answer) requests (scanner.searches requests) := by
  induction requests generalizing scanner with
  | nil => exact .nil
  | cons request requests ih =>
    obtain ⟨place, form⟩ := request
    have hnext := find_isNext hname (hlast _ rfl) form
    refine .cons hnext.answers (@ih (scanner.find place form).2 hname ?_ ?_)
    · intro later hlater
      obtain ⟨rest, rfl⟩ := List.head?_eq_some_iff.mp hlater
      obtain ⟨⟨tag, htag, hstop⟩, -⟩ := hadvancing
      rw [htag] at hnext
      exact hnext.2.later hstop
    · cases requests with
      | nil => trivial
      | cons later rest => exact hadvancing.2

/-- A new scanner that is asked for tags again and again, each time from the end of the tag found
before or from behind it, gives the first tag at or behind the place each time, and none just if
there is none. -/
theorem first_of_successive_searches (hname : name.Plain) (limit : Int) (text : Text)
    {requests : List (Nat × TagForm)} :
    let scanner : Scanner := { text := text, name := name, limit := limit }
    Advancing requests (scanner.searches requests) →
      List.Forall₂ (fun request answer => Answers name limit request.2 text request.1 answer)
        requests (scanner.searches requests) := by
  intro scanner hadvancing
  have hfresh : ∀ request ∈ requests.head?, KnownBracket text request.1 none :=
    fun request _ => knownBracket_none text request.1
  exact Scanner.answers_searches hname hfresh hadvancing

/-- The second head has the remembered bracket of the first, and the last head has none. -/
theorem first_of_successive_searches_mixed :
    let name : TagName := ⟨"ns".toList, "a".toList⟩
    let text := "<ns:a <ns:a x><ns:a y/><ns:a z> <ns:a ".toList
    let scanner : Scanner := { text := text, name := name, limit := 5 }
    let requests : List (Nat × TagForm) := [(0, .selfClosing), (23, .opening), (31, .opening)]
    name.Plain ∧ Advancing requests (scanner.searches requests) ∧
      scanner.searches requests = [some ⟨14, 23, " y".toList⟩, some ⟨23, 31, " z".toList⟩, none] ∧
      FirstFrom name 5 .selfClosing text 0 ⟨14, 23, " y".toList⟩ := by
  intro name text scanner requests
  have hname : name.Plain := ⟨by decide, by decide⟩
  have hsearches : scanner.searches requests =
      [some ⟨14, 23, " y".toList⟩, some ⟨23, 31, " z".toList⟩, none] := by decide +kernel
  have hadvancing : Advancing requests (scanner.searches requests) := by
    rw [hsearches]
    exact ⟨⟨_, rfl, by decide⟩, ⟨_, rfl, by decide⟩, trivial⟩
  have hall := first_of_successive_searches hname 5 text hadvancing
  refine ⟨hname, hadvancing, hsearches, ?_⟩
  obtain ⟨hfirst, -⟩ := List.forall₂_cons.mp hall
  have hanswer := congrArg List.head? hsearches
  exact (hfirst.eq_some_iff _).mp (Option.some.inj hanswer)

/-- A search that finds nothing may leave a bracket that is wrong for one that starts over. -/
example : ({ text := "<ns:a x> <ns:a y>".toList, name := ⟨"ns".toList, "a".toList⟩, limit := 20 } :
    Scanner).searches [(0, .selfClosing), (0, .opening)] =
      [none, some ⟨0, 17, " x> <ns:a y".toList⟩] := by decide +kernel

end ContentFilters.Tag
