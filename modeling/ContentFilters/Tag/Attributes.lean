import ContentFilters.Text.Basic

/-!
# Attributes of inline tags

The attribute text of a tag is read as pairs of a key and a quoted value with an equals sign between
them and no blank around it. A key is a run of characters that are neither blank nor an equals sign.
Everything else in the text is overlooked.

The text is read twice, once for each kind of quote, and both readings see the whole of it: each
finds its pairs from the left without overlap. A later pair replaces an earlier one with the same
key, and the single-quoted pairs come last.
-/
namespace ContentFilters.Tag

/-- The attributes of a tag, in the order in which their keys were first given. -/
abbrev Attributes := List (Text × Text)

namespace Attributes

def get? (key : Text) : Attributes → Option Text
  | [] => none
  | (k, v) :: rest => if k = key then some v else get? key rest

/-- Sets the value of a key: in place if it is there, else at the end. -/
def set (key value : Text) : Attributes → Attributes
  | [] => [(key, value)]
  | (k, v) :: rest => if k = key then (k, value) :: rest else (k, v) :: set key value rest

theorem get?_set (key other value : Text) (a : Attributes) :
    get? other (set key value a) = if key = other then some value else get? other a := by
  induction a with
  | nil => simp [set, get?]
  | cons p rest ih =>
    obtain ⟨k, v⟩ := p
    unfold set
    split
    · next h => subst h; simp only [get?]; split <;> rfl
    · next h =>
      simp only [get?, ih]
      split
      · next hk => subst hk; simp [Ne.symm h]
      · rfl

def isKeyChar (c : Char) : Bool := !Text.isBlank c && c != '='

/-- A pair at the very start of a text, with the text after its closing quote. -/
def pair? (quote : Char) (s : Text) : Option (Text × Text × Text) :=
  let key := s.takeWhile isKeyChar
  if key.isEmpty then none
  else match s.dropWhile isKeyChar with
    | '=' :: q :: rest =>
      if q = quote then (Text.cutAt? quote rest).map fun (value, after) => (key, value, after)
      else none
    | _ => none

theorem length_of_pair? {quote : Char} {s key value after : Text}
    (h : pair? quote s = some (key, value, after)) : after.length < s.length := by
  unfold pair? at h
  simp only at h
  split at h
  · simp at h
  · split at h
    · next q rest hd =>
      split at h
      · obtain ⟨⟨v, a⟩, hc, he⟩ := Option.map_eq_some_iff.1 h
        simp only [Prod.mk.injEq] at he
        obtain ⟨-, -, rfl⟩ := he
        have h1 := Text.length_of_cutAt? hc
        have h2 := (List.dropWhile_sublist isKeyChar (l := s)).length_le
        rw [hd] at h2
        simp only [List.length_cons] at h2
        omega
      · simp at h
    · simp at h

/-- The pairs with one kind of quote, from the left and without overlap. -/
def pairs (quote : Char) (s : Text) : List (Text × Text) :=
  match s with
  | [] => []
  | c :: rest =>
    match _h : pair? quote (c :: rest) with
    | some (key, value, after) => (key, value) :: pairs quote after
    | none => pairs quote rest
termination_by s.length
decreasing_by
  · exact length_of_pair? _h
  · simp

def setAll (a : Attributes) (found : List (Text × Text)) : Attributes :=
  found.foldl (fun a p => set p.1 p.2 a) a

def parse (s : Text) : Attributes :=
  setAll (setAll [] (pairs '"' s)) (pairs '\'' s)

/-! ## Writing attributes -/

structure Written where
  /-- The blank in front. -/
  gap : Char
  key : Text
  value : Text
  quote : Char

def Written.text (w : Written) : Text := w.gap :: w.key ++ '=' :: w.quote :: w.value ++ [w.quote]

def render (written : List Written) : Text := written.flatMap Written.text

end Attributes

end ContentFilters.Tag
