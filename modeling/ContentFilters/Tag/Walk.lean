import ContentFilters.Tag.Expansion

/-!
# The plain reading of tag expansion

What expansion means, said without a scanner: walk over the text from the left and look at every
position for a tag that starts there. Where there is one it is replaced and the walk goes on behind
it; elsewhere one character is kept. Nothing is remembered from one position to the next, so this
states which tags count and in which order they are replaced, at the price of looking for the same
closing bracket again and again.
-/
namespace ContentFilters.Tag.Walk

/-- The tag at the very start of a text: its attribute text and the text after its bracket. -/
def tagAtStart? (name : TagName) (limit : Int) (form : TagForm) (s : Text) : Option (Text × Text) :=
  match (Text.after? name.head s).filter endsName with
  | none => none
  | some after =>
    match Text.cutAt? '>' after with
    | none => none
    | some (inner, rest) => (attributeText? limit form inner).map fun a => (a, rest)

/-- The pair of tags at the very start of a text: its attribute text, its body, and the text after
its closing half. -/
def pairAtStart? (name : TagName) (limit : Int) (s : Text) : Option (Text × Text × Text) :=
  match tagAtStart? name limit .opening s with
  | none => none
  | some (a, inside) => (Text.cut? name.closing inside).map fun p => (a, p.1, p.2)

theorem length_of_tagAtStart? {name : TagName} {limit : Int} {form : TagForm} {s a rest : Text}
    (h : tagAtStart? name limit form s = some (a, rest)) : rest.length < s.length := by
  unfold tagAtStart? at h
  split at h
  · simp at h
  · next after hf =>
    split at h
    · simp at h
    · next inner r hc =>
      obtain ⟨t, -, he⟩ := Option.map_eq_some_iff.1 h
      obtain ⟨-, rfl⟩ := Prod.mk.inj he
      have hr := Text.length_of_cutAt? hc
      rw [Text.append_of_after? (Option.filter_eq_some_iff.1 hf).1, List.length_append]
      omega

theorem length_of_pairAtStart? {name : TagName} {limit : Int} {s a body rest : Text}
    (h : pairAtStart? name limit s = some (a, body, rest)) : rest.length < s.length := by
  unfold pairAtStart? at h
  split at h
  · simp at h
  · next t inside ht =>
    obtain ⟨⟨b, r⟩, hc, he⟩ := Option.map_eq_some_iff.1 h
    simp only [Prod.mk.injEq] at he
    obtain ⟨-, -, rfl⟩ := he
    have hr := Text.length_of_cut? name.closing_ne_nil hc
    have hi := length_of_tagAtStart? ht
    omega

/-- How to tell what is to be replaced at the very start of a text: an attribute text, a body, and
the text after both, which is shorter. -/
structure Reader where
  read? : Text → Option (Text × Text × Text)
  shorter {s a body rest : Text} : read? s = some (a, body, rest) → rest.length < s.length

def selfClosingTags (name : TagName) (limit : Int) : Reader where
  read? s := (tagAtStart? name limit .selfClosing s).map fun p => (p.1, [], p.2)
  shorter h := by
    obtain ⟨⟨a, rest⟩, ht, he⟩ := Option.map_eq_some_iff.1 h
    cases he
    exact length_of_tagAtStart? ht

def pairs (name : TagName) (limit : Int) : Reader where
  read? := pairAtStart? name limit
  shorter := length_of_pairAtStart?

variable {m : Type → Type} [Monad m]

/-- Replaces what a reader reads, at whatever position it stands. -/
def rewrite (reader : Reader) (replace : Replacement m) (s : Text) : m Text :=
  match s with
  | [] => pure []
  | c :: rest =>
    match _h : reader.read? (c :: rest) with
    | none => do
      let kept ← rewrite reader replace rest
      return c :: kept
    | some (a, body, after) => do
      let replaced ← replace (Attributes.parse a) body
      let kept ← rewrite reader replace after
      return replaced ++ kept
termination_by s.length
decreasing_by
  · simp
  · exact reader.shorter ‹_›

def expandSelfClosing (name : TagName) (limit : Int) (replace : Replacement m) (s : Text) :
    m Text :=
  rewrite (selfClosingTags name limit) replace s

def expandPaired (name : TagName) (limit : Int) (replace : Replacement m) (s : Text) : m Text :=
  rewrite (pairs name limit) replace s

/-- Replaces the self-closing tags of a text and then the pairs of what that gives. -/
def expand (name : TagName) (limit : Int) (replace : Replacement m) (s : Text) : m Text := do
  let once ← expandSelfClosing name limit replace s
  expandPaired name limit replace once

end ContentFilters.Tag.Walk
