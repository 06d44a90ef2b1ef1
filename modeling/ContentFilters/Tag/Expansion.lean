import ContentFilters.Tag.Scanner

/-!
# Expanding inline tags

A text is rewritten in two passes. The first replaces every self-closing tag, the second replaces
every pair of tags in what the first one gave. Within a pass the tags are taken from the left, they
neither overlap nor nest, and what a tag is replaced by is not looked at again. The body of a pair
reaches to the first closing half after the opening one; without such a half the pass is over.

The replacement of a tag is computed in an arbitrary monad, so that it may fail or leave a trace.
-/
namespace ContentFilters.Tag

/-- How a tag with these attributes and this body is replaced. -/
abbrev Replacement (m : Type → Type) := Attributes → Text → m Text

variable {m : Type → Type} [Monad m]

def slice (s : Text) (start stop : Nat) : Text := (s.take stop).drop start

/-- Replaces the self-closing tags from a place on. -/
def expandSelfClosing (replace : Replacement m) (scanner : Scanner) (place : Nat) : m Text :=
  match _h : scanner.find place .selfClosing with
  | (none, _) => pure (scanner.text.drop place)
  | (some tag, next) => do
    let replaced ← replace (Attributes.parse tag.attributeText) []
    let rest ← expandSelfClosing replace next tag.stop
    return slice scanner.text place tag.start ++ replaced ++ rest
termination_by scanner.text.length - place
decreasing_by
  have hfound : (scanner.find place .selfClosing).1 = some tag := by rw [_h]
  have htext : next.text = scanner.text := by rw [← Scanner.find_text scanner place .selfClosing, _h]
  have := Scanner.lt_stop_of_find hfound
  have := Scanner.place_lt_of_find hfound
  rw [htext]
  omega

/-- Replaces the pairs of tags from a place on. -/
def expandPaired (replace : Replacement m) (scanner : Scanner) (place : Nat) : m Text :=
  match _h : scanner.find place .opening with
  | (none, _) => pure (scanner.text.drop place)
  | (some tag, next) =>
    match Text.cut? scanner.name.closing (scanner.text.drop tag.stop) with
    | none => pure (scanner.text.drop place)
    | some (body, _) => do
      let replaced ← replace (Attributes.parse tag.attributeText) body
      let rest ← expandPaired replace next
        (tag.stop + body.length + scanner.name.closing.length)
      return slice scanner.text place tag.start ++ replaced ++ rest
termination_by scanner.text.length - place
decreasing_by
  have hfound : (scanner.find place .opening).1 = some tag := by rw [_h]
  have htext : next.text = scanner.text := by rw [← Scanner.find_text scanner place .opening, _h]
  have := Scanner.lt_stop_of_find hfound
  have := Scanner.place_lt_of_find hfound
  rw [htext]
  omega

/-- Replaces the self-closing tags of a text and then the pairs of what that gives. -/
def expand (name : TagName) (limit : Int) (replace : Replacement m) (text : Text) : m Text := do
  let once ← expandSelfClosing replace { text := text, name := name, limit := limit } 0
  expandPaired replace { text := once, name := name, limit := limit } 0

end ContentFilters.Tag
