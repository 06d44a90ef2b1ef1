import ContentFilters.Tag.Attributes

/-!
# Finding inline tags

A tag starts with its head, `<namespace:name`, followed by a blank, a tab, a slash or a closing
angle bracket, and reaches up to the first closing angle bracket after it. What lies between is its
attribute text, in a self-closing tag without the slash at the end. A tag counts only if that text
is not longer than one more than the limit, and is empty or starts with a blank or a tab.

`Scanner.find` goes from head to head. The place of the last closing angle bracket that was found is
kept, so that heads in front of the same bracket do not look for it again.
-/
namespace ContentFilters.Tag

/-- What a tag is called: the word before the colon and the word after it. -/
structure TagName where
  space : Text
  name : Text
  deriving DecidableEq, Repr

namespace TagName

/-- The start of every tag with this name. -/
def head (n : TagName) : Text := '<' :: n.space ++ ':' :: n.name

/-- The closing half of a pair of tags. -/
def closing (n : TagName) : Text := '<' :: '/' :: n.space ++ ':' :: n.name ++ ['>']

theorem head_ne_nil (n : TagName) : n.head ≠ [] := by simp [head]

theorem closing_ne_nil (n : TagName) : n.closing ≠ [] := by simp [closing]

end TagName

structure Occurrence where
  start : Nat
  stop : Nat
  attributeText : Text
  deriving DecidableEq, Repr

/-- Whether a tag is looked for by itself or as the opening half of a pair. -/
inductive TagForm where
  | selfClosing
  | opening
  deriving DecidableEq, Repr

/-- Whether the text after a head ends the name in it. -/
def endsName : Text → Bool
  | c :: _ => c = ' ' || c = '\t' || c = '/' || c = '>'
  | [] => false

/-- The first head in a text: how many characters are before it, and the text after it. -/
def nextHead (head : Text) : Text → Option (Nat × Text)
  | [] => none
  | c :: rest =>
    match (Text.after? head (c :: rest)).filter endsName with
    | some after => some (0, after)
    | none => (nextHead head rest).map fun p => (p.1 + 1, p.2)

/-- Whether an attribute text starts as it must. -/
def startsBlank : Text → Bool
  | [] => true
  | c :: _ => c = ' ' || c = '\t'

/-- The attribute text of a tag with `inner` between its head and its closing bracket, if the tag
has the form asked for and its attribute text is acceptable. -/
def attributeText? (limit : Int) (form : TagForm) (inner : Text) : Option Text :=
  let text? := match form with
    | .selfClosing => if inner.getLast? = some '/' then some inner.dropLast else none
    | .opening => some inner
  text?.filter fun a => decide ((a.length : Int) ≤ limit + 1) && startsBlank a

/-- The attribute text of a tag whose closing bracket stands `n` characters into the text after its
head. What is too long for any tag is not cut out, so that heads far in front of a common bracket
cost little. -/
def attributeTextWithin? (limit : Int) (form : TagForm) (n : Nat) (after : Text) : Option Text :=
  if limit + 2 < n then none else attributeText? limit form (after.take n)

theorem attributeTextWithin?_eq {limit : Int} {form : TagForm} {n : Nat} {after : Text}
    (h : n ≤ after.length) :
    attributeTextWithin? limit form n after = attributeText? limit form (after.take n) := by
  unfold attributeTextWithin?
  split
  · next hn =>
    have hlen : (after.take n).length = n := by simp [h]
    unfold attributeText?
    cases form with
    | selfClosing =>
      simp only
      split
      · rw [Option.filter_some_neg]
        rw [List.length_dropLast, hlen, decide_eq_false (by omega), Bool.false_and]
      · rfl
    | opening =>
      simp only
      rw [Option.filter_some_neg]
      rw [hlen, decide_eq_false (by omega), Bool.false_and]
  · rfl

theorem length_of_nextHead {head s after : Text} {n : Nat}
    (h : nextHead head s = some (n, after)) : n + head.length + after.length = s.length := by
  induction s generalizing n with
  | nil => simp [nextHead] at h
  | cons c rest ih =>
    unfold nextHead at h
    split at h
    · next found hf =>
      obtain ⟨rfl, rfl⟩ := Prod.mk.inj (Option.some.inj h)
      have := Text.append_of_after? (Option.filter_eq_some_iff.1 hf).1
      rw [this, List.length_append]
      omega
    · obtain ⟨⟨m, a⟩, hm, he⟩ := Option.map_eq_some_iff.1 h
      obtain ⟨rfl, rfl⟩ := Prod.mk.inj he
      have := ih hm
      simp only [List.length_cons] at this ⊢
      omega

structure Scanner where
  text : Text
  name : TagName
  limit : Int
  /-- The place of the closing bracket found last. -/
  bracket : Option Nat := none

namespace Scanner

/-- The place of the first closing bracket at or after `place`, which `after` starts at; the one
found last is used again if it lies there. -/
def nextBracket (last : Option Nat) (place : Nat) (after : Text) : Option Nat :=
  match last with
  | some b =>
    if place ≤ b then some b else (after.findIdx? (· = '>')).map (place + ·)
  | none => (after.findIdx? (· = '>')).map (place + ·)

/-- The next tag in `rest`, the text from `place` on, and the closing bracket found last. -/
def findIn (name : TagName) (limit : Int) (form : TagForm) (last : Option Nat) (place : Nat)
    (rest : Text) : Option Occurrence × Option Nat :=
  match _h : nextHead name.head rest with
  | none => (none, last)
  | some (skipped, after) =>
    let start := place + skipped
    let inner := start + name.head.length
    match nextBracket last inner after with
    | none => (none, none)
    | some b =>
      match attributeTextWithin? limit form (b - inner) after with
      | some attributes => (some ⟨start, b + 1, attributes⟩, some b)
      | none => findIn name limit form (some b) inner after
termination_by rest.length
decreasing_by
  have := length_of_nextHead _h
  have := List.length_pos_iff.2 name.head_ne_nil
  omega

/-- The next tag at or after a place, and the scanner for what follows. -/
def find (s : Scanner) (place : Nat) (form : TagForm) : Option Occurrence × Scanner :=
  let (tag?, bracket) := findIn s.name s.limit form s.bracket place (s.text.drop place)
  (tag?, { s with bracket := bracket })

@[simp] theorem find_text (s : Scanner) (place : Nat) (form : TagForm) :
    (s.find place form).2.text = s.text := rfl

theorem lt_stop_of_findIn {name : TagName} {limit : Int} {form : TagForm} {last last' : Option Nat}
    {place : Nat} {rest : Text} {tag : Occurrence}
    (h : findIn name limit form last place rest = (some tag, last')) : place < tag.stop := by
  fun_induction findIn name limit form last place rest with
  | case1 => simp at h
  | case2 => simp at h
  | case3 last place rest skipped after hn start inner b hb attributes ha =>
    simp only [Prod.mk.injEq, Option.some.injEq] at h
    obtain ⟨rfl, -⟩ := h
    have hpos := List.length_pos_iff.2 name.head_ne_nil
    have hle : inner ≤ b := by
      unfold nextBracket at hb
      split at hb
      · split at hb
        · simp_all
        · obtain ⟨k, -, rfl⟩ := Option.map_eq_some_iff.1 hb; omega
      · obtain ⟨k, -, rfl⟩ := Option.map_eq_some_iff.1 hb; omega
    show place < b + 1
    omega
  | case4 last place rest skipped after hn start inner b hb ha ih =>
    have := ih h
    omega

theorem lt_stop_of_find {s : Scanner} {place : Nat} {form : TagForm} {tag : Occurrence}
    (h : (s.find place form).1 = some tag) : place < tag.stop := by
  unfold find at h
  generalize hf : findIn s.name s.limit form s.bracket place (s.text.drop place) = r at h
  obtain ⟨t, b⟩ := r
  simp only at h
  subst h
  exact lt_stop_of_findIn hf

theorem place_lt_of_find {s : Scanner} {place : Nat} {form : TagForm} {tag : Occurrence}
    (h : (s.find place form).1 = some tag) : place < s.text.length := by
  refine Nat.lt_of_not_le fun hle => ?_
  have hnil : s.text.drop place = [] := List.drop_eq_nil_of_le hle
  unfold find at h
  rw [hnil] at h
  unfold findIn at h
  simp [nextHead] at h

end Scanner

end ContentFilters.Tag
