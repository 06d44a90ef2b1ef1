import ContentFilters.Proofs.Tag.Expansion

/-!
# Looking at characters by their place

The scan for tags takes texts apart; here the same scan is written with places of the whole text,
and it looks at two characters for each head: the one where a slash is due, and the first one of the
attribute text. Looking at a place outside the text is an error. It never happens: a head has two
characters at least, so even an empty attribute text has a character in front of it, and a closing
bracket that is remembered lies in the text. So both scans give the same.
-/
namespace ContentFilters.Tag

/-- The character at a place; there is none in front of a text or behind it. -/
def charAt? (text : Text) (place : Int) : Option Char :=
  if place < 0 then none else text[place.toNat]?

/-- Whether the attribute text between two places is refused: it ends before it starts, is too long,
or starts with something else than a blank or a tab. -/
def refusesBetween? (text : Text) (limit : Int) (inner : Nat) (stop : Int) : Option Bool :=
  if stop < inner ∨ limit + 1 < stop - inner then some true
  else if inner < stop then (charAt? text inner).map fun first => !(first = ' ' || first = '\t')
  else some false

/-- Whether a tag with its attribute text from `inner` on and its closing bracket at `b` is
refused. -/
def refuses? (text : Text) (limit : Int) (form : TagForm) (inner b : Nat) : Option Bool :=
  match form with
  | .selfClosing =>
    (charAt? text (b - 1)).bind fun last =>
      if last = '/' then refusesBetween? text limit inner (b - 1) else some true
  | .opening => refusesBetween? text limit inner b

/-- Where the attribute text ends if the closing bracket stands at `b`. -/
def attributesEnd (form : TagForm) (b : Nat) : Nat :=
  match form with
  | .selfClosing => b - 1
  | .opening => b

namespace Scanner

/-- The next tag at or after a place, and the closing bracket found last, if every place that is
looked at lies in the text. -/
def findByPlace? (name : TagName) (limit : Int) (form : TagForm) (text : Text)
    (last : Option Nat) (place : Nat) : Option (Option Occurrence × Option Nat) :=
  match _h : nextHead name.head (text.drop place) with
  | none => some (none, last)
  | some (skipped, after) =>
    let start := place + skipped
    let inner := start + name.head.length
    match nextBracket last inner after with
    | none => some (none, none)
    | some b =>
      match refuses? text limit form inner b with
      | none => none
      | some true => findByPlace? name limit form text (some b) inner
      | some false => some (some ⟨start, b + 1, slice text inner (attributesEnd form b)⟩, some b)
termination_by text.length - place
decreasing_by
  have := length_of_nextHead _h
  have := List.length_pos_iff.mpr name.head_ne_nil
  simp only [List.length_drop] at *
  omega

/-- The scanners that searches make of a new one. -/
inductive Reached (text : Text) (name : TagName) (limit : Int) : Scanner → Prop
  | new : Reached text name limit { text := text, name := name, limit := limit }
  | find {scanner : Scanner} (place : Nat) (form : TagForm) :
      Reached text name limit scanner → Reached text name limit (scanner.find place form).2

end Scanner

/-! ## Characters and slices -/

theorem charAt?_natCast {text : Text} {i : Nat} (h : i < text.length) :
    charAt? text (i : Int) = some text[i] := by
  unfold charAt?
  rw [if_neg (by omega), Int.toNat_natCast, List.getElem?_eq_getElem h]

theorem length_slice {text : Text} {inner stop : Nat} (h : stop ≤ text.length) :
    (slice text inner stop).length = stop - inner := by
  rw [slice, List.length_drop, List.length_take, Nat.min_eq_left h]

theorem startsBlank_slice {text : Text} {inner stop : Nat} (hlt : inner < stop)
    (h : stop ≤ text.length) :
    startsBlank (slice text inner stop) =
      (text[inner] = ' ' || text[inner] = '\t' : Bool) := by
  have hcons : slice text inner stop = text[inner] :: slice text (inner + 1) stop := by
    rw [slice, List.drop_eq_getElem_cons (by rw [List.length_take]; omega), List.getElem_take]
    rfl
  rw [hcons]
  rfl

theorem getLast?_slice {text : Text} {inner b : Nat} (hlt : inner < b) (h : b ≤ text.length) :
    (slice text inner b).getLast? = some text[b - 1] := by
  have hplace : inner + (b - inner - 1) = b - 1 := by omega
  rw [List.getLast?_eq_getElem?, length_slice h, slice, List.getElem?_drop, hplace,
    List.getElem?_take_of_lt (by omega), List.getElem?_eq_getElem (by omega)]

theorem dropLast_slice {text : Text} {inner b : Nat} (h : b ≤ text.length) :
    (slice text inner b).dropLast = slice text inner (b - 1) := by
  rw [List.dropLast_eq_take, length_slice h, slice, slice, List.drop_take, List.drop_take,
    List.take_take, Nat.min_eq_left (by omega), Nat.sub_right_comm]

/-! ## The two scans -/

def isAcceptable (limit : Int) (a : Text) : Bool :=
  decide ((a.length : Int) ≤ limit + 1) && startsBlank a

/-- Between two places of the text, what is refused is what is not acceptable. -/
theorem refusesBetween?_eq {text : Text} {limit : Int} {inner stop : Nat} (hle : inner ≤ stop)
    (h : stop ≤ text.length) :
    refusesBetween? text limit inner stop = some (!isAcceptable limit (slice text inner stop)) := by
  have hlength : ((slice text inner stop).length : Int) = stop - inner := by
    rw [length_slice h]
    omega
  unfold refusesBetween? isAcceptable
  rw [hlength]
  by_cases hlong : limit + 1 < (stop : Int) - inner
  · rw [if_pos (Or.inr hlong), decide_eq_false (by omega)]
    rfl
  · rw [if_neg (by omega), decide_eq_true (by omega), Bool.true_and]
    rcases Nat.lt_or_eq_of_le hle with hlt | rfl
    · rw [if_pos (by omega), charAt?_natCast (by omega), startsBlank_slice hlt h]
      rfl
    · have hempty : slice text inner inner = [] :=
        List.drop_eq_nil_of_le (by rw [List.length_take]; omega)
      rw [if_neg (by omega), hempty]
      rfl

theorem attributeText?_eq {limit : Int} {form : TagForm} {text : Text} {inner b : Nat}
    (h : b ≤ text.length) :
    attributeText? limit form (slice text inner b) =
      if form = .selfClosing → (slice text inner b).getLast? = some '/' then
        (some (slice text inner (attributesEnd form b))).filter (isAcceptable limit)
      else none := by
  cases form with
  | opening => rfl
  | selfClosing =>
    simp only [attributeText?, attributesEnd, ← dropLast_slice h, true_imp_iff]
    split <;> rfl

theorem eq_slice_of_attributeText? {limit : Int} {form : TagForm} {text a : Text} {inner b : Nat}
    (h : b ≤ text.length) (ha : attributeText? limit form (slice text inner b) = some a) :
    a = slice text inner (attributesEnd form b) := by
  rw [attributeText?_eq h] at ha
  split at ha
  · exact (Option.some.inj (Option.filter_eq_some_iff.mp ha).1).symm
  · cases ha

/-- With the closing bracket in the text, every place that is looked at lies in the text, and what
is refused is what has no acceptable attribute text. -/
theorem refuses?_eq {text : Text} {limit : Int} {form : TagForm} {inner b : Nat}
    (hinner : 0 < inner) (hle : inner ≤ b) (hb : b < text.length) :
    refuses? text limit form inner b =
      some (attributeText? limit form (slice text inner b)).isNone := by
  have hsome : ∀ a : Text, ((some a).filter (isAcceptable limit)).isNone =
      !isAcceptable limit a := by
    intro a
    rw [Option.filter_some]
    split <;> simp_all
  rw [attributeText?_eq (Nat.le_of_lt hb)]
  cases form with
  | opening =>
    rw [if_pos (by simp), hsome]
    exact refusesBetween?_eq hle (Nat.le_of_lt hb)
  | selfClosing =>
    have hcast : (b : Int) - 1 = ((b - 1 : Nat) : Int) := by omega
    simp only [refuses?, true_imp_iff]
    rw [hcast, charAt?_natCast (by omega), Option.bind_some]
    rcases Nat.lt_or_eq_of_le hle with hlt | rfl
    · rw [getLast?_slice hlt (Nat.le_of_lt hb)]
      simp only [Option.some.injEq]
      split
      · rw [hsome]
        exact refusesBetween?_eq (by omega) (by omega)
      · rfl
    · -- an empty tag has the end of its head where a slash is due, and is refused in any case
      have hempty : slice text inner inner = [] :=
        List.drop_eq_nil_of_le (by rw [List.length_take]; omega)
      have hno_slash : ([] : Text).getLast? ≠ some '/' := by simp
      rw [hempty, if_neg hno_slash]
      split
      · exact if_pos (Or.inl (by omega))
      · rfl

namespace Scanner

def BracketInText (text : Text) (last : Option Nat) : Prop := ∀ b, last = some b → b < text.length

theorem bracketInText_none (text : Text) : BracketInText text none := by
  intro b hb
  cases hb

theorem nextBracket_inText {text : Text} {last : Option Nat} (hlast : BracketInText text last)
    {inner b : Nat} (h : nextBracket last inner (text.drop inner) = some b) :
    inner ≤ b ∧ b < text.length := by
  have hfound : ∀ k, (text.drop inner).findIdx? (· = '>') = some k →
      inner ≤ inner + k ∧ inner + k < text.length := by
    intro k hk
    obtain ⟨hlt, -⟩ := List.findIdx?_eq_some_iff_getElem.mp hk
    rw [List.length_drop] at hlt
    omega
  unfold nextBracket at h
  split at h
  · split at h
    · next hle =>
      cases h
      exact ⟨hle, hlast _ rfl⟩
    · obtain ⟨k, hk, rfl⟩ := Option.map_eq_some_iff.mp h
      exact hfound k hk
  · obtain ⟨k, hk, rfl⟩ := Option.map_eq_some_iff.mp h
    exact hfound k hk

theorem findByPlace?_of_no_head {name : TagName} {text : Text} {place : Nat}
    (h : nextHead name.head (text.drop place) = none) (limit : Int) (form : TagForm)
    (last : Option Nat) : findByPlace? name limit form text last place = some (none, last) := by
  unfold findByPlace?
  split
  · rfl
  · next hsome =>
    rw [h] at hsome
    cases hsome

theorem findByPlace?_of_head {name : TagName} {text after : Text} {place skipped : Nat}
    (h : nextHead name.head (text.drop place) = some (skipped, after)) (limit : Int)
    (form : TagForm) (last : Option Nat) :
    findByPlace? name limit form text last place =
      match nextBracket last (place + skipped + name.head.length) after with
      | none => some (none, none)
      | some b =>
        match refuses? text limit form (place + skipped + name.head.length) b with
        | none => none
        | some true =>
          findByPlace? name limit form text (some b) (place + skipped + name.head.length)
        | some false =>
          some (some ⟨place + skipped, b + 1,
            slice text (place + skipped + name.head.length) (attributesEnd form b)⟩, some b) := by
  rw [findByPlace?]
  split
  · next hnone =>
    rw [h] at hnone
    cases hnone
  · next hsome =>
    rw [h] at hsome
    cases hsome
    rfl

/-- What the scan of the text cuts out for a bracket is the slice in front of it. -/
theorem attributeTextWithin?_drop {text : Text} {inner b : Nat} (hle : inner ≤ b)
    (hb : b < text.length) (limit : Int) (form : TagForm) :
    attributeTextWithin? limit form (b - inner) (text.drop inner) =
      attributeText? limit form (slice text inner b) := by
  rw [attributeTextWithin?_eq (by rw [List.length_drop]; omega), slice, List.drop_take]

/-- Every place that is looked at lies in the text, so the scan by places gives what the scan of the
text gives, and the bracket it remembers lies in the text again. -/
theorem findByPlace?_eq {name : TagName} {limit : Int} {form : TagForm} {text : Text}
    {last : Option Nat} {place : Nat} {rest : Text} (hrest : rest = text.drop place)
    (hlast : BracketInText text last) :
    findByPlace? name limit form text last place =
        some (findIn name limit form last place rest) ∧
      BracketInText text (findIn name limit form last place rest).2 := by
  have hpos := List.length_pos_iff.mpr name.head_ne_nil
  fun_induction findIn name limit form last place rest with
  | case1 last place rest hnone =>
    subst hrest
    exact ⟨findByPlace?_of_no_head hnone limit form last, hlast⟩
  | case2 last place rest skipped after hhead start inner hnone =>
    subst hrest
    refine ⟨?_, bracketInText_none text⟩
    rw [findByPlace?_of_head hhead, hnone]
  | case3 last place rest skipped after hhead start inner b hb attributes ha =>
    subst hrest
    obtain ⟨-, hafter, -⟩ := afterHead?_of_nextHead_drop hhead
    obtain ⟨hle, hlt⟩ := nextBracket_inText hlast (hafter ▸ hb)
    rw [hafter, attributeTextWithin?_drop hle hlt] at ha
    refine ⟨?_, fun b' hb' => by cases hb'; exact hlt⟩
    have hkept : refuses? text limit form inner b = some false := by
      rw [refuses?_eq (by omega) hle hlt, ha]
      rfl
    rw [findByPlace?_of_head hhead]
    simp only [start, inner] at hb hkept ha ⊢
    simp only [hb, hkept, eq_slice_of_attributeText? (Nat.le_of_lt hlt) ha]
  | case4 last place rest skipped after hhead start inner b hb ha ih =>
    subst hrest
    obtain ⟨-, hafter, -⟩ := afterHead?_of_nextHead_drop hhead
    obtain ⟨hle, hlt⟩ := nextBracket_inText hlast (hafter ▸ hb)
    rw [hafter, attributeTextWithin?_drop hle hlt] at ha
    have hrefused : refuses? text limit form inner b = some true := by
      rw [refuses?_eq (by omega) hle hlt, ha]
      rfl
    rw [findByPlace?_of_head hhead]
    simp only [start, inner] at hb hrefused ⊢
    simp only [hb, hrefused]
    exact ih hafter fun b' hb' => by cases hb'; exact hlt

namespace Reached

variable {text : Text} {name : TagName} {limit : Int} {scanner : Scanner}

/-- Searches change nothing but the bracket that is remembered, and that lies in the text. -/
theorem invariant (h : Reached text name limit scanner) :
    (scanner.text = text ∧ scanner.name = name ∧ scanner.limit = limit) ∧
      BracketInText text scanner.bracket := by
  induction h with
  | new => exact ⟨⟨rfl, rfl, rfl⟩, bracketInText_none text⟩
  | find place form _ ih =>
    obtain ⟨⟨rfl, rfl, rfl⟩, hbracket⟩ := ih
    exact ⟨⟨rfl, rfl, rfl⟩, (Scanner.findByPlace?_eq rfl hbracket).2⟩

/-- No search of a scanner looks outside the text, whatever was searched for before. -/
theorem findByPlace?_eq (h : Reached text name limit scanner) (place : Nat) (form : TagForm) :
    findByPlace? name limit form text scanner.bracket place =
      some ((scanner.find place form).1, (scanner.find place form).2.bracket) := by
  obtain ⟨⟨rfl, rfl, rfl⟩, hbracket⟩ := h.invariant
  exact (Scanner.findByPlace?_eq rfl hbracket).1

end Reached

end Scanner

end ContentFilters.Tag
