import ContentFilters.Text.Basic

/-!
# Marks

What has been read already is kept out of the way of further reading: in its place the text holds a
mark, a word between two control characters that no source may hold. A mark stands for an escaped
character, for HTML or a read element that was set aside under a number, or for one of three signs
that are written at the very end.
-/
namespace ContentFilters.Markdown

inductive Mark where
  /-- A character that was escaped. -/
  | escaped (c : Char)
  /-- The HTML that was set aside under a number. -/
  | html (n : Nat)
  /-- The piece of a line that was set aside under a number. -/
  | piece (n : Nat)
  /-- An ampersand that is not escaped when it is written. -/
  | ampersand
  /-- The arrow that leads back from a footnote. -/
  | backArrow
  /-- A space at which no line is broken. -/
  | firmSpace
  deriving DecidableEq, Repr

namespace Mark

/-- The character that begins a mark. -/
def opening : Char := '\x02'

def closing : Char := '\x03'

def digits (n : Nat) : Text := (toString n).toList

/-- The word between the two control characters. -/
def word : Mark → Text
  | escaped c => digits c.toNat
  | html n => 'h' :: digits n
  | piece n => 'p' :: digits n
  | ampersand => ['a']
  | backArrow => ['b']
  | firmSpace => ['s']

def toText (mark : Mark) : Text := opening :: mark.word ++ [closing]

def number? (s : Text) : Option Nat :=
  if s.isEmpty || !s.all Text.isDigit then none
  else some (s.foldl (fun n c => n * 10 + (c.toNat - 48)) 0)

def ofWord? (word : Text) : Option Mark :=
  match word with
  | 'h' :: rest => (number? rest).map .html
  | 'p' :: rest => (number? rest).map .piece
  | ['a'] => some .ampersand
  | ['b'] => some .backArrow
  | ['s'] => some .firmSpace
  | _ => (number? word).map fun n => .escaped (Char.ofNat n)

/-- The mark that begins a text, and the text after it. -/
def first? : Text → Option (Mark × Text)
  | [] => none
  | c :: rest =>
    if c = opening then
      match Text.cutAt? closing rest with
      | none => none
      | some (word, after) => (ofWord? word).map fun mark => (mark, after)
    else none

theorem length_of_first? {s rest : Text} {mark : Mark} (h : first? s = some (mark, rest)) :
    rest.length < s.length := by
  cases s with
  | nil => simp [first?] at h
  | cons c s =>
    simp only [first?] at h
    split at h
    · split at h
      · simp at h
      · next word after hc =>
        obtain ⟨_, _, he⟩ := Option.map_eq_some_iff.1 h
        obtain ⟨_, rfl⟩ := Prod.mk.inj he
        have := Text.length_of_cutAt? hc
        simp only [List.length_cons]
        omega
    · simp at h

/-- A text with every mark that `meaning` knows replaced by what it means. -/
def resolve (meaning : Mark → Option Text) (s : Text) : Text :=
  match s with
  | [] => []
  | c :: rest =>
    match _h : first? (c :: rest) with
    | none => c :: resolve meaning rest
    | some (mark, after) =>
      match meaning mark with
      | some replacement => replacement ++ resolve meaning after
      | none => mark.toText ++ resolve meaning after
termination_by s.length
decreasing_by
  · simp
  · exact length_of_first? _h
  · exact length_of_first? _h

def restoreEscaped (s : Text) : Text :=
  resolve (fun mark => match mark with | .escaped c => some [c] | _ => none) s

end Mark

end ContentFilters.Markdown
