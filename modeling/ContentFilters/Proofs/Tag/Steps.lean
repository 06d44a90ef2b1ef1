import ContentFilters.Proofs.Tag.Expansion

/-!
# A pass, step by step

A walk over a text is a list of steps: at a position it keeps the character there, or it replaces
what starts there. Which steps are taken depends on the text alone, not on what the replacements
give. So the list says where the texts copied from one replacement to the next are, and what was
refused in them: nothing is read at a position whose character is kept.

Both passes judge the same tags, and the slash at the end of a self-closing tag counts as a
character of the attribute text for the pass over pairs alone. Hence an opening tag with such a
slash is always a self-closing tag too, and no copied text holds one.
-/
namespace ContentFilters.Tag

/-! ## The searches of the pass over pairs -/

/-- Where the pass over pairs looks for the next opening tag, and with which scanner, if it starts
with a scanner at a place. -/
inductive Searches (scanner : Scanner) (place : Nat) : Scanner → Nat → Prop
  | first : Searches scanner place scanner place
  | behind {here next : Scanner} {i : Nat} {tag : Occurrence} {body rest : Text} :
      Searches scanner place here i → here.find i .opening = (some tag, next) →
      Text.cut? here.name.closing (here.text.drop tag.stop) = some (body, rest) →
      Searches scanner place next (tag.stop + body.length + here.name.closing.length)

/-- From one search to the next only the remembered bracket changes, and it stays right. -/
theorem Searches.known {scanner here : Scanner} {place i : Nat} (h : Searches scanner place here i)
    (hname : scanner.name.Plain) (hlast : KnownBracket scanner.text place scanner.bracket) :
    here = { scanner with bracket := here.bracket } ∧ KnownBracket scanner.text i here.bracket := by
  induction h with
  | first => exact ⟨rfl, hlast⟩
  | @behind here next i tag body rest _ hfind _ ih =>
    obtain ⟨hhere, hlast'⟩ := ih
    have hplain : here.name.Plain := by rw [hhere]; exact hname
    have htext : here.text = scanner.text := by rw [hhere]
    rw [← htext] at hlast' ⊢
    obtain ⟨-, hknown⟩ := Scanner.isNext_of_find hplain hlast' hfind
    refine ⟨?_, hknown.later (by omega)⟩
    rw [Scanner.next_of_find hfind, hhere]

theorem Searches.nextTag {scanner here : Scanner} {place i : Nat}
    (h : Searches scanner place here i) (hname : scanner.name.Plain)
    (hlast : KnownBracket scanner.text place scanner.bracket) {tag : Occurrence}
    (hfind : (here.find i .opening).1 = some tag) :
    NextTag scanner.name scanner.limit .opening scanner.text i tag := by
  obtain ⟨hhere, hlast'⟩ := h.known hname hlast
  have hplain : here.name.Plain := by rw [hhere]; exact hname
  have htext : here.text = scanner.text := by rw [hhere]
  rw [← htext] at hlast'
  obtain ⟨hnext, -⟩ := Scanner.isNext_of_find hplain hlast' (Prod.ext hfind rfl)
  rwa [hhere] at hnext

/-! ## The steps of a walk -/

namespace Walk

inductive Step where
  | kept (c : Char)
  | replaced (source attributeText body : Text)
  deriving DecidableEq, Repr

namespace Step

def source : Step → Text
  | kept c => [c]
  | replaced source _ _ => source

def result {m : Type → Type} [Monad m] (replace : Replacement m) : Step → m Text
  | kept c => pure [c]
  | replaced _ attributeText body => replace (Attributes.parse attributeText) body

@[simp] theorem flatMap_source_map_kept (s : Text) : (s.map kept).flatMap source = s := by
  induction s with
  | nil => rfl
  | cons c rest ih => rw [List.map_cons, List.flatMap_cons, ih, source, List.singleton_append]

end Step

def steps (reader : Reader) (s : Text) : List Step :=
  match s with
  | [] => []
  | c :: rest =>
    match _h : reader.read? (c :: rest) with
    | none => .kept c :: steps reader rest
    | some (a, body, after) =>
      .replaced ((c :: rest).take ((c :: rest).length - after.length)) a body :: steps reader after
termination_by s.length
decreasing_by
  · simp
  · exact reader.shorter ‹_›

variable {reader : Reader}

theorem steps_nil : steps reader [] = [] := by rw [steps]

theorem steps_cons_of_none {c : Char} {rest : Text} (h : reader.read? (c :: rest) = none) :
    steps reader (c :: rest) = .kept c :: steps reader rest := by
  rw [steps]
  split
  · rfl
  · next hsome => rw [h] at hsome; cases hsome

theorem steps_of_some {s a body after : Text} (h : reader.read? s = some (a, body, after)) :
    steps reader s = .replaced (s.take (s.length - after.length)) a body :: steps reader after := by
  cases s with
  | nil => exact absurd (reader.shorter h) (Nat.not_lt_zero _)
  | cons c rest =>
    rw [steps]
    split
    · next hnone => rw [h] at hnone; cases hnone
    · next hsome =>
      rw [h] at hsome
      cases hsome
      rfl

section Results

variable {m : Type → Type} [Monad m] [LawfulMonad m]

/-- The result of a walk is made up of the results of its steps, taken in order. -/
theorem rewrite_eq_mapM_steps (replace : Replacement m) (s : Text) :
    rewrite reader replace s = List.flatten <$> (steps reader s).mapM (Step.result replace) := by
  fun_induction steps reader s with
  | case1 => simp [rewrite_nil]
  | case2 c rest h ih =>
    rw [rewrite_cons_of_none h, ih]
    simp [Step.result]
  | case3 c rest a body after h ih =>
    rw [rewrite_of_some h, ih]
    simp [Step.result]

theorem mapM_result_kept (replace : Replacement m) (s : Text) :
    (s.map Step.kept).mapM (Step.result replace) = pure (s.map fun c => [c]) := by
  induction s with
  | nil => rfl
  | cons c rest ih =>
    rw [List.map_cons, List.mapM_cons, ih, Step.result, pure_bind, pure_bind, List.map_cons]

/-- What is copied stands between what the steps before it and the steps behind it give. -/
theorem rewrite_of_steps (replace : Replacement m) {s copied : Text} {front back : List Step}
    (h : steps reader s = front ++ copied.map .kept ++ back) :
    rewrite reader replace s = do
      let before ← front.mapM (Step.result replace)
      let behind ← back.mapM (Step.result replace)
      return before.flatten ++ copied ++ behind.flatten := by
  have hchars : (copied.map fun c => [c]).flatten = copied := by
    rw [← List.flatMap_def, List.flatMap_singleton']
  rw [rewrite_eq_mapM_steps, h, List.mapM_append, List.mapM_append, mapM_result_kept]
  simp [hchars]

end Results

/-! ## From the steps back to the text -/

/-- A reader whose rest is the end of the text that it reads. -/
def Reader.Cuts (reader : Reader) : Prop :=
  ∀ ⦃s a body rest : Text⦄, reader.read? s = some (a, body, rest) → rest <:+ s

theorem cuts_selfClosingTags (name : TagName) (limit : Int) : (selfClosingTags name limit).Cuts := by
  intro s a body rest h
  obtain ⟨rfl, -, -⟩ := read?_selfClosingTags_eq_some.mp h
  exact List.suffix_append _ rest

theorem cuts_pairs (name : TagName) (limit : Int) : (pairs name limit).Cuts := by
  intro s a body rest h
  obtain ⟨rfl, -, -⟩ := read?_pairs_eq_some.mp h
  exact List.suffix_append _ rest

theorem Reader.Cuts.take_append (hcuts : reader.Cuts) {s a body rest : Text}
    (h : reader.read? s = some (a, body, rest)) : s.take (s.length - rest.length) ++ rest = s := by
  obtain ⟨source, rfl⟩ := hcuts h
  rw [List.length_append, Nat.add_sub_cancel, List.take_left]

/-- Nothing of a text is passed over. -/
theorem flatMap_source_steps (hcuts : reader.Cuts) (s : Text) :
    (steps reader s).flatMap Step.source = s := by
  fun_induction steps reader s with
  | case1 => rfl
  | case2 c rest h ih => rw [List.flatMap_cons, ih, Step.source, List.singleton_append]
  | case3 c rest a body after h ih =>
    rw [List.flatMap_cons, ih, Step.source, hcuts.take_append h]

/-- The first step of a walk, and where it goes on. -/
theorem steps_eq_cons {s : Text} {step : Step} {back : List Step}
    (h : steps reader s = step :: back) :
    (∃ c rest, s = c :: rest ∧ reader.read? s = none ∧ step = .kept c ∧
        steps reader rest = back) ∨
      ∃ a body rest, reader.read? s = some (a, body, rest) ∧
        step = .replaced (s.take (s.length - rest.length)) a body ∧ steps reader rest = back := by
  cases hread : reader.read? s with
  | none =>
    cases s with
    | nil => rw [steps_nil] at h; cases h
    | cons c rest =>
      rw [steps_cons_of_none hread] at h
      obtain ⟨rfl, hback⟩ := List.cons.inj h
      exact .inl ⟨c, rest, rfl, rfl, rfl, hback⟩
  | some p =>
    obtain ⟨a, body, rest⟩ := p
    rw [steps_of_some hread] at h
    obtain ⟨rfl, hback⟩ := List.cons.inj h
    exact .inr ⟨a, body, rest, rfl, rfl, hback⟩

/-- What a walk still does after some of its steps, it does from some position on. -/
theorem exists_steps_eq (hcuts : reader.Cuts) {s : Text} {front back : List Step}
    (h : steps reader s = front ++ back) :
    ∃ rest, s = front.flatMap Step.source ++ rest ∧ steps reader rest = back := by
  induction front generalizing s with
  | nil => exact ⟨s, rfl, h⟩
  | cons step front ih =>
    rcases steps_eq_cons h with ⟨c, tail, rfl, -, rfl, hfront⟩ | ⟨a, body, tail, hread, rfl, hfront⟩
    · obtain ⟨rest, rfl, hback⟩ := ih hfront
      exact ⟨rest, rfl, hback⟩
    · obtain ⟨rest, htail, hback⟩ := ih hfront
      refine ⟨rest, ?_, hback⟩
      rw [List.flatMap_cons, List.append_assoc, ← htail, Step.source, hcuts.take_append hread]

/-- Wherever a character was copied, nothing is read. -/
theorem exists_read?_eq_none (hcuts : reader.Cuts) {text copied inside : Text}
    (h : (copied ++ inside).map .kept <:+: steps reader text) (hinside : inside ≠ []) :
    ∃ after, reader.read? (inside ++ after) = none := by
  obtain ⟨front, back, hsteps⟩ := h
  have hsplit : steps reader text =
      (front ++ copied.map .kept) ++ (inside.map .kept ++ back) := by
    rw [← hsteps, List.map_append]
    simp only [List.append_assoc]
  obtain ⟨here, -, hhere⟩ := exists_steps_eq hcuts hsplit
  obtain ⟨after, hafter, -⟩ := exists_steps_eq hcuts hhere
  rw [Step.flatMap_source_map_kept] at hafter
  refine ⟨after, ?_⟩
  rw [← hafter]
  cases inside with
  | nil => exact absurd rfl hinside
  | cons c inside =>
    rcases steps_eq_cons hhere with ⟨_, _, _, hread, _⟩ | ⟨_, _, _, _, hstep, _⟩
    · exact hread
    · cases hstep

/-- What is replaced was read where it stands, and the walk went on behind it. -/
theorem exists_read?_of_mem (hcuts : reader.Cuts) {s source a body : Text}
    (h : Step.replaced source a body ∈ steps reader s) :
    ∃ before rest, s = before ++ (source ++ rest) ∧
      reader.read? (source ++ rest) = some (a, body, rest) := by
  obtain ⟨front, back, hsteps⟩ := List.append_of_mem h
  obtain ⟨here, hs, hhere⟩ := exists_steps_eq hcuts hsteps
  rcases steps_eq_cons hhere with ⟨_, _, _, _, hstep, _⟩ | ⟨_, _, rest, hread, hstep, _⟩
  · cases hstep
  · cases hstep
    refine ⟨front.flatMap Step.source, rest, ?_, ?_⟩
    · rw [hcuts.take_append hread, hs]
    · rw [hcuts.take_append hread, hread]

/-- A walk that replaces nothing keeps the whole text. -/
theorem steps_eq_map_kept {s : Text}
    (h : ∀ source a body, Step.replaced source a body ∉ steps reader s) :
    steps reader s = s.map .kept := by
  fun_induction steps reader s with
  | case1 => rfl
  | case2 c rest hread ih =>
    have hrest := ih fun source a body hmem => h source a body (List.mem_cons_of_mem _ hmem)
    rw [hrest, List.map_cons]
  | case3 c rest a body after hread ih => exact absurd List.mem_cons_self (h _ a body)

/-! ## Slashes at the end -/

/-- Without its last slash an acceptable attribute text is acceptable: it is shorter, and it still
starts with a blank, since a slash alone would not. -/
theorem acceptable_of_concat_slash {limit : Int} {a : Text} (h : Acceptable limit (a ++ ['/'])) :
    Acceptable limit a := by
  have hlength := h.length_le
  rw [List.length_append, List.length_singleton] at hlength
  refine ⟨fun hmem => h.unclosed (List.mem_append_left _ hmem), by omega, ?_⟩
  have hlead := h.lead
  cases a with
  | nil => exact .inl rfl
  | cons c rest => simpa using hlead

variable {name : TagName} {limit : Int}

/-- An opening tag that is written as a self-closing one is read as such. -/
theorem read?_selfClosingTags_of_slash {s a rest : Text}
    (hs : s = name.head ++ (a ++ ['/']) ++ '>' :: rest) (ha : Acceptable limit (a ++ ['/'])) :
    (selfClosingTags name limit).read? s = some (a, [], rest) := by
  refine read?_selfClosingTags_eq_some.mpr ⟨?_, rfl, acceptable_of_concat_slash ha⟩
  rw [hs]
  simp

/-- No opening tag inside a copied text ends with a slash, whatever stands behind that text. -/
theorem getLast?_ne_slash_of_kept {text copied inside behind a rest : Text}
    (hcopied : (copied ++ inside).map .kept <:+: steps (selfClosingTags name limit) text)
    (htag : tagAtStart? name limit .opening (inside ++ behind) = some (a, rest))
    (hinside : behind.length ≤ rest.length) : a.getLast? ≠ some '/' := by
  intro hlast
  obtain ⟨shown, rfl⟩ := List.getLast?_eq_some_iff.mp hlast
  obtain ⟨hs, ha⟩ := tagAtStart?_eq_some.mp htag
  rw [TagForm.ending, List.append_nil] at hs
  obtain ⟨more, rfl⟩ : behind <:+ rest := by
    refine List.suffix_of_suffix_length_le (List.suffix_append inside behind) ?_ hinside
    rw [hs]
    exact (List.suffix_cons '>' rest).trans (List.suffix_append _ _)
  have htext : inside = name.head ++ (shown ++ ['/']) ++ '>' :: more := by
    rw [← List.append_left_inj behind, hs, List.append_assoc (name.head ++ _), List.cons_append]
  have hne : inside ≠ [] := by
    rw [htext]
    simp
  -- The tag does not reach behind the copied text, so it stood there in the first pass too.
  obtain ⟨after, hnone⟩ := exists_read?_eq_none (cuts_selfClosingTags name limit) hcopied hne
  have hread : (selfClosingTags name limit).read? (inside ++ after) =
      some (shown, [], more ++ after) := by
    refine read?_selfClosingTags_of_slash ?_ ha
    rw [htext, List.append_assoc, List.cons_append]
  rw [hnone] at hread
  cases hread

/-- The pass over pairs accepts no opening tag that ends with a slash inside a copied text, whatever
stands around that text. -/
theorem getLast?_ne_slash_of_find (hname : name.Plain) {text before copied behind : Text}
    (hcopied : copied.map .kept <:+: steps (selfClosingTags name limit) text)
    {scanner : Scanner} {place : Nat}
    (hsearch : Searches { text := before ++ copied ++ behind, name := name, limit := limit } 0
      scanner place) {tag : Occurrence} (hfind : (scanner.find place .opening).1 = some tag)
    (hstart : before.length ≤ tag.start) (hstop : tag.stop ≤ before.length + copied.length) :
    tag.attributeText.getLast? ≠ some '/' := by
  have hnext := hsearch.nextTag hname (knownBracket_none _ 0) hfind
  have hlt := hnext.start_lt_stop
  obtain ⟨n, hn⟩ := Nat.exists_eq_add_of_le hstart
  have hcut : copied.take n ++ copied.drop n = copied := List.take_append_drop n copied
  have hdrop : (before ++ copied ++ behind).drop tag.start = copied.drop n ++ behind := by
    rw [List.append_assoc, hn, ← List.drop_drop, List.drop_left,
      List.drop_append_of_le_length (by omega)]
  have hat := hnext.at_start
  rw [hdrop] at hat
  rw [← hcut] at hcopied
  refine getLast?_ne_slash_of_kept hcopied hat ?_
  simp only [List.length_drop, List.length_append]
  omega

/-- So the pass over pairs does not take a self-closing tag that was copied for an opening one. -/
theorem start_ne_of_find (hname : name.Plain)
    {text before copied behind lead refused trail : Text}
    (hcopied : copied.map .kept <:+: steps (selfClosingTags name limit) text)
    (hsplit : copied = lead ++ name.head ++ refused ++ ['/', '>'] ++ trail) (hrefused : '>' ∉ refused)
    {scanner : Scanner} {place : Nat}
    (hsearch : Searches { text := before ++ copied ++ behind, name := name, limit := limit } 0
      scanner place) {tag : Occurrence} (hfind : (scanner.find place .opening).1 = some tag) :
    tag.start ≠ before.length + lead.length := by
  intro hstart
  have hnext := hsearch.nextTag hname (knownBracket_none _ 0) hfind
  have hstop := hnext.stop_le
  have hdrop : (before ++ copied ++ behind).drop tag.start =
      name.head ++ ((refused ++ ['/']) ++ '>' :: (trail ++ behind)) := by
    rw [hstart, hsplit, ← List.length_append]
    simp
  have hat := hnext.at_start
  rw [hdrop, tagAtStart?_eq_some] at hat
  obtain ⟨hs, ha⟩ := hat
  -- Both tags end with the first closing bracket behind the head.
  have hcut : Text.cutAt? '>' ((refused ++ ['/']) ++ '>' :: (trail ++ behind)) =
      Text.cutAt? '>' (tag.attributeText ++ '>' :: (before ++ copied ++ behind).drop tag.stop) := by
    refine congrArg (Text.cutAt? '>') ((List.append_right_inj name.head).mp ?_)
    rw [hs, TagForm.ending, List.append_nil, List.append_assoc]
  rw [Text.cutAt?_append (by simpa using hrefused), Text.cutAt?_append ha.unclosed] at hcut
  obtain ⟨hattributes, hbehind⟩ := Prod.mk.inj (Option.some.inj hcut)
  refine getLast?_ne_slash_of_find hname hcopied hsearch hfind (by omega) ?_ ?_
  · have hlength := congrArg List.length hbehind
    simp only [List.length_append, List.length_drop, hsplit] at hlength hstop ⊢
    omega
  · rw [← hattributes, List.getLast?_concat]

/-- A pair whose opening tag stands in a copied text and the body behind it: if the first pass copies
the whole text, no pair is read in it whose opening tag ends with a slash. -/
theorem getLast?_ne_slash_of_pair {text source a body : Text}
    (hcopied : steps (selfClosingTags name limit) text = text.map .kept)
    (hpair : Step.replaced source a body ∈ steps (pairs name limit) text) :
    source = name.head ++ a ++ ['>'] ++ body ++ name.closing ∧ a.getLast? ≠ some '/' := by
  obtain ⟨before, rest, htext, hread⟩ := exists_read?_of_mem (cuts_pairs name limit) hpair
  obtain ⟨hsource, ha, -⟩ := read?_pairs_eq_some.mp hread
  have htag : tagAtStart? name limit .opening (source ++ rest ++ []) =
      some (a, body ++ name.closing ++ rest) := by
    refine tagAtStart?_eq_some.mpr ⟨?_, ha⟩
    rw [List.append_nil, hsource]
    simp [TagForm.ending]
  have hall : (before ++ (source ++ rest)).map .kept <:+: steps (selfClosingTags name limit) text :=
    ⟨[], [], by rw [List.nil_append, List.append_nil, hcopied, htext]⟩
  exact ⟨List.append_cancel_right hsource, getLast?_ne_slash_of_kept hall htag (Nat.zero_le _)⟩

end Walk

end ContentFilters.Tag
