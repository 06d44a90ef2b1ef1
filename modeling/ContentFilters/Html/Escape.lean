import ContentFilters.Text.Basic

/-!
# Escaped text

Text that is put into a document by a filter has its markup characters and both quotes replaced by
references. The references can be decoded again, so escaping loses nothing and keeps apart what was
apart.
-/
namespace ContentFilters.Html

def escapeChar (c : Char) : Text :=
  if c = '&' then "&amp;".toList
  else if c = '<' then "&lt;".toList
  else if c = '>' then "&gt;".toList
  else if c = '"' then "&quot;".toList
  else if c = '\'' then "&#x27;".toList
  else [c]

def escape (s : Text) : Text := s.flatMap escapeChar

/-- Decodes the references that `escape` writes, in one pass from the left. -/
def unescape : Text → Text
  | '&' :: 'a' :: 'm' :: 'p' :: ';' :: rest => '&' :: unescape rest
  | '&' :: 'l' :: 't' :: ';' :: rest => '<' :: unescape rest
  | '&' :: 'g' :: 't' :: ';' :: rest => '>' :: unescape rest
  | '&' :: 'q' :: 'u' :: 'o' :: 't' :: ';' :: rest => '"' :: unescape rest
  | '&' :: '#' :: 'x' :: '2' :: '7' :: ';' :: rest => '\'' :: unescape rest
  | c :: rest => c :: unescape rest
  | [] => []

theorem escape_cons (c : Char) (s : Text) : escape (c :: s) = escapeChar c ++ escape s := rfl

/-- Decoding an escaped text gives the text back. -/
theorem unescape_escape (s : Text) : unescape (escape s) = s := by
  induction s with
  | nil => rfl
  | cons c s ih =>
    rw [escape_cons]
    unfold escapeChar
    split
    · next h => subst h; simpa [unescape] using ih
    · split
      · next h => subst h; simpa [unescape] using ih
      · split
        · next h => subst h; simpa [unescape] using ih
        · split
          · next h => subst h; simpa [unescape] using ih
          · split
            · next h => subst h; simpa [unescape] using ih
            · next hamp _ _ _ _ =>
              rw [List.singleton_append, unescape.eq_6 _ _ (by simp_all) (by simp_all)
                (by simp_all) (by simp_all) (by simp_all), ih]

end ContentFilters.Html
