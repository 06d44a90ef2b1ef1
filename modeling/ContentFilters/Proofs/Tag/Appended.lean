import ContentFilters.Proofs.Tag.Expansion

/-!
# Texts put one behind the other

No tag reaches over the end of a text that ends with a closing bracket: a head holds no such
bracket, and a tag ends with the first one behind its head. So a scan of two texts, one behind the
other, finds in the first text what a scan of that text alone finds, with the same bracket
remembered, and then goes on as a new scan of the second text would, all places moved by the length
of the first.

Nothing is asked of the opening brackets in a namespace here, so heads may overlap.
-/
namespace ContentFilters.Tag

/-- The texts behind which no tag is cut apart: empty ones, and those that end with a closing
bracket. -/
def EndsClosed (s : Text) : Prop := s = [] ∨ s.getLast? = some '>'

namespace EndsClosed

variable {s : Text}

theorem drop (h : EndsClosed s) (n : Nat) : EndsClosed (s.drop n) := by
  rcases h with rfl | hlast
  · exact .inl List.drop_nil
  · rcases Nat.lt_or_ge n s.length with hlt | hge
    · refine .inr ?_
      rw [List.getLast?_drop, if_neg (Nat.not_le.mpr hlt), hlast]
    · exact .inl (List.drop_eq_nil_of_le hge)

theorem mem (h : EndsClosed s) (hne : s ≠ []) : '>' ∈ s :=
  List.mem_of_getLast? (h.resolve_left hne)

end EndsClosed

/-! ## Patterns -/

/-- What is found in the first of two texts is found in both. -/
theorem cut?_append_of_some {pattern s before after : Text}
    (h : Text.cut? pattern s = some (before, after)) (t : Text) :
    Text.cut? pattern (s ++ t) = some (before, after ++ t) := by
  obtain ⟨rfl, hfirst⟩ := Text.cut?_eq_some.mp h
  rw [Text.cut?_eq_some]
  refine ⟨List.append_assoc _ _ _, fun i hi => ?_⟩
  rw [Text.after?_eq_none, List.drop_append_of_le_length (by simp only [List.length_append]; omega)]
  intro hat
  refine Text.after?_eq_none.mp (hfirst i hi)
    (List.prefix_of_prefix_length_le hat (List.prefix_append _ t) ?_)
  simp only [List.length_drop, List.length_append]
  omega

/-- A pattern whose only closing bracket is its last character does not reach over the end of a text
that ends with such a bracket. -/
theorem cut?_append_eq_none {front s t : Text} (hfront : '>' ∉ front) (hs : EndsClosed s)
    (hcut : Text.cut? (front ++ ['>']) s = none) (hcut' : Text.cut? (front ++ ['>']) t = none) :
    Text.cut? (front ++ ['>']) (s ++ t) = none := by
  rw [Text.cut?_eq_none] at hcut hcut' ⊢
  intro i
  rcases Nat.lt_or_ge i s.length with hlt | hge
  · have hne : s.drop i ≠ [] := by simpa using hlt
    have hbracket := (hs.drop i).mem hne
    have hnot := Text.after?_eq_none.mp (hcut i)
    rw [List.drop_append_of_le_length (Nat.le_of_lt hlt), Text.after?_eq_none]
    rintro ⟨rest, heq⟩
    rcases List.append_eq_append_iff.mp heq with ⟨more, hmore, -⟩ | ⟨more, hmore, -⟩
    · exact hnot ⟨more, hmore.symm⟩
    · rcases List.eq_nil_or_concat more with rfl | ⟨more, c, rfl⟩
      · rw [List.append_nil] at hmore
        exact hnot (hmore ▸ List.prefix_rfl)
      · rw [List.concat_eq_append, ← List.append_assoc] at hmore
        rw [(List.append_inj' hmore rfl).1] at hfront
        exact hfront (List.mem_append_left more hbracket)
  · rw [List.drop_append, List.drop_of_length_le hge, List.nil_append]
    exact hcut' _

/-- The names in whose heads no closing bracket stands. -/
def TagName.Unclosed (name : TagName) : Prop := '>' ∉ name.space ∧ '>' ∉ name.name

namespace TagName.Unclosed

variable {name : TagName} (h : name.Unclosed)
include h

theorem not_mem_head : '>' ∉ name.head := by simp [TagName.head, h.1, h.2]

theorem cut?_closing_append {s t : Text} (hs : EndsClosed s)
    (hcut : Text.cut? name.closing s = none) (hcut' : Text.cut? name.closing t = none) :
    Text.cut? name.closing (s ++ t) = none := by
  have hfront : '>' ∉ '<' :: '/' :: name.space ++ ':' :: name.name := by simp [h.1, h.2]
  exact cut?_append_eq_none hfront hs hcut hcut'

end TagName.Unclosed

/-! ## Heads -/

section Heads

variable {name : TagName} (hname : '>' ∉ name.head) {s : Text} (hs : EndsClosed s)
include hname hs

/-- A head that starts in the first text ends in it, and so does its name. -/
theorem afterHead?_append (hne : s ≠ []) (t : Text) :
    afterHead? name (s ++ t) = (afterHead? name s).map (· ++ t) := by
  ext after
  simp only [Option.map_eq_some_iff, afterHead?_eq_some]
  constructor
  · rintro ⟨htext, hends⟩
    rcases List.append_eq_append_iff.mp htext with ⟨more, hhead, -⟩ | ⟨tail, rfl, rfl⟩
    · exact absurd (hhead ▸ List.mem_append_left more (hs.mem hne)) hname
    · refine ⟨tail, ⟨rfl, ?_⟩, rfl⟩
      cases tail with
      | nil => exact absurd (List.append_nil name.head ▸ hs.mem hne) hname
      | cons c tail => exact hends
  · rintro ⟨tail, ⟨rfl, hends⟩, rfl⟩
    refine ⟨List.append_assoc _ _ _, ?_⟩
    cases tail with
    | nil => cases hends
    | cons c tail => exact hends

/-- The first head of two texts is the first one of the first text, or else that of the second. -/
theorem nextHead_append (t : Text) :
    nextHead name.head (s ++ t) = match nextHead name.head s with
      | some (skipped, after) => some (skipped, after ++ t)
      | none => (nextHead name.head t).map fun p => (s.length + p.1, p.2) := by
  induction s with
  | nil => simp [nextHead]
  | cons c rest ih =>
    have hhere : (Text.after? name.head (c :: (rest ++ t))).filter endsName =
        ((Text.after? name.head (c :: rest)).filter endsName).map (· ++ t) :=
      afterHead?_append hname hs (List.cons_ne_nil c rest) t
    have hrest := ih (hs.drop 1)
    rw [List.cons_append, nextHead, nextHead, hhere]
    cases (Text.after? name.head (c :: rest)).filter endsName with
    | some after => rfl
    | none =>
      simp only [Option.map_none, hrest]
      cases nextHead name.head rest with
      | some found => rfl
      | none =>
        simp only [Option.map_none, Option.map_map, List.length_cons]
        refine congrArg (Option.map · _) (funext fun p => Prod.ext ?_ rfl)
        exact Nat.add_right_comm rest.length p.1 1

end Heads

/-! ## The scan of the first text -/

namespace Scanner

variable {name : TagName} {limit : Int} {form : TagForm} {last : Option Nat} {place : Nat}
  {rest : Text}

theorem findIn_of_no_head (h : nextHead name.head rest = none) :
    findIn name limit form last place rest = (none, last) := by
  rw [findIn]
  split
  · rfl
  · next hsome => rw [h] at hsome; cases hsome

theorem findIn_of_head {skipped : Nat} {after : Text}
    (h : nextHead name.head rest = some (skipped, after)) :
    findIn name limit form last place rest =
      match nextBracket last (place + skipped + name.head.length) after with
      | none => (none, none)
      | some b =>
        match attributeTextWithin? limit form (b - (place + skipped + name.head.length)) after with
        | some attributes => (some ⟨place + skipped, b + 1, attributes⟩, some b)
        | none => findIn name limit form (some b) (place + skipped + name.head.length) after := by
  rw [findIn]
  split
  · next hnone => rw [h] at hnone; cases hnone
  · next hsome =>
    rw [h] at hsome
    cases hsome
    rfl

/-- Only the text up to the closing bracket is looked at. -/
theorem attributeTextWithin?_append {n : Nat} {after : Text} (h : n ≤ after.length) (t : Text) :
    attributeTextWithin? limit form n (after ++ t) = attributeTextWithin? limit form n after := by
  rw [attributeTextWithin?, List.take_append_of_le_length h, attributeTextWithin?]

/-- Behind a head the first text has a closing bracket, so the second one does not matter. -/
theorem nextBracket_append {after : Text} (hafter : EndsClosed after) (hne : after ≠ [])
    (hlast : ∀ b ∈ last, b < place + after.length) (t : Text) :
    nextBracket last place (after ++ t) = nextBracket last place after ∧
      ∃ b, nextBracket last place after = some b ∧ place ≤ b ∧ b < place + after.length := by
  obtain ⟨k, hk⟩ : ∃ k, after.findIdx? (· = '>') = some k := by
    rw [← Option.isSome_iff_exists, List.findIdx?_isSome, List.any_eq_true]
    exact ⟨'>', hafter.mem hne, decide_eq_true rfl⟩
  have hlt : k < after.length := (List.findIdx?_eq_some_iff_getElem.mp hk).choose
  have hsame : (after ++ t).findIdx? (· = '>') = some k := by
    rw [List.findIdx?_append, hk]
    rfl
  have hnew : place ≤ place + k ∧ place + k < place + after.length := by omega
  cases last with
  | none =>
    exact ⟨by simp only [nextBracket, hk, hsame], place + k, by simp [nextBracket, hk], hnew⟩
  | some b =>
    by_cases hle : place ≤ b
    · exact ⟨by simp only [nextBracket, if_pos hle], b, by rw [nextBracket, if_pos hle], hle,
        hlast b rfl⟩
    · refine ⟨by simp only [nextBracket, if_neg hle, hk, hsame], place + k, ?_, hnew⟩
      rw [nextBracket, if_neg hle, hk]
      rfl

/-- The first head of two texts in the first one, and the bracket behind it. -/
theorem nextBracket_of_nextHead (hname : '>' ∉ name.head) (hrest : EndsClosed rest)
    (hlast : ∀ b ∈ last, b < place + rest.length) {skipped : Nat} {after : Text}
    (h : nextHead name.head rest = some (skipped, after)) (t : Text) :
    nextHead name.head (rest ++ t) = some (skipped, after ++ t) ∧ EndsClosed after ∧
      place + skipped + name.head.length + after.length = place + rest.length ∧
      nextBracket last (place + skipped + name.head.length) (after ++ t) =
        nextBracket last (place + skipped + name.head.length) after ∧
      ∃ b, nextBracket last (place + skipped + name.head.length) after = some b ∧
        place + skipped + name.head.length ≤ b ∧ b < place + rest.length := by
  have happend := nextHead_append hname hrest t
  rw [h] at happend
  obtain ⟨hat, hends⟩ := afterHead?_eq_some.mp (afterHead?_of_nextHead h).1
  have hclosed : EndsClosed after := by
    have hdrop := (hrest.drop skipped).drop name.head.length
    rwa [hat, List.drop_left] at hdrop
  have hne : after ≠ [] := by
    rintro rfl
    cases hends
  have hlength : place + skipped + name.head.length + after.length = place + rest.length := by
    have := length_of_nextHead h
    omega
  rw [← hlength] at hlast ⊢
  exact ⟨happend, hclosed, rfl, nextBracket_append hclosed hne hlast t⟩

variable (limit form) in
/-- A scan of two texts finds what a scan of the first one finds. Where that finds nothing, it goes
on at the start of the second one. -/
theorem findIn_append (hname : '>' ∉ name.head) (hrest : EndsClosed rest)
    (hlast : ∀ b ∈ last, b < place + rest.length) (t : Text) :
    match findIn name limit form last place rest with
    | (some tag, next) =>
      findIn name limit form last place (rest ++ t) = (some tag, next) ∧
        tag.start < tag.stop ∧ tag.stop ≤ place + rest.length ∧ ∀ b ∈ next, b < tag.stop
    | (none, next) =>
      findIn name limit form last place (rest ++ t) =
          findIn name limit form next (place + rest.length) t ∧
        ∀ b ∈ next, b < place + rest.length := by
  fun_induction findIn name limit form last place rest with
  | case1 last place rest hhead =>
    refine ⟨?_, hlast⟩
    have happend := nextHead_append hname hrest t
    rw [hhead] at happend
    cases hmore : nextHead name.head t with
    | none =>
      rw [hmore] at happend
      rw [findIn_of_no_head happend, findIn_of_no_head hmore]
    | some found =>
      rw [hmore] at happend
      rw [findIn_of_head happend, findIn_of_head hmore]
      simp only [Nat.add_assoc]
  | case2 last place rest skipped after hhead start inner hbracket =>
    -- a text that ends with a closing bracket has one behind each of its heads
    obtain ⟨-, -, -, -, b, hb, -⟩ := nextBracket_of_nextHead hname hrest hlast hhead t
    cases hbracket.symm.trans hb
  | case3 last place rest skipped after hhead start inner b hb attributes ha =>
    obtain ⟨happend, -, hlength, hsame, b', hb', hle, hlt⟩ :=
      nextBracket_of_nextHead hname hrest hlast hhead t
    cases hb.symm.trans hb'
    have htext : attributeTextWithin? limit form (b - (place + skipped + name.head.length))
        (after ++ t) = some attributes := (attributeTextWithin?_append (by omega) t).trans ha
    have hstart : start < b + 1 := by omega
    refine ⟨?_, hstart, hlt, fun b' hmem => ?_⟩
    · rw [findIn_of_head happend, hsame, hb']
      simp only [htext]
      rfl
    · cases hmem
      exact Nat.lt_succ_self b
  | case4 last place rest skipped after hhead start inner b hb ha ih =>
    obtain ⟨happend, hclosed, hlength, hsame, b', hb', hle, hlt⟩ :=
      nextBracket_of_nextHead hname hrest hlast hhead t
    cases hb.symm.trans hb'
    have htext : attributeTextWithin? limit form (b - (place + skipped + name.head.length))
        (after ++ t) = none := (attributeTextWithin?_append (by omega) t).trans ha
    have hagain : findIn name limit form last place (rest ++ t) =
        findIn name limit form (some b) inner (after ++ t) := by
      rw [findIn_of_head happend, hsame, hb']
      simp only [htext]
      rfl
    rw [hagain, ← hlength]
    exact ih hclosed fun b' hmem => by cases hmem; omega

end Scanner

/-! ## The scan of the second text -/

def Occurrence.moved (offset : Nat) (tag : Occurrence) : Occurrence :=
  ⟨offset + tag.start, offset + tag.stop, tag.attributeText⟩

/-- What a scan remembers of a text that stands behind others, and what a scan of that text alone
remembers: the same bracket, or one in front of the text, and nothing. -/
def MovedBracket (offset : Nat) (last moved : Option Nat) : Prop :=
  moved = last.map (offset + ·) ∨ last = none ∧ ∀ b ∈ moved, b < offset

namespace Scanner

variable {name : TagName} {limit : Int} {form : TagForm} {offset : Nat} {last moved : Option Nat}

theorem nextBracket_moved (h : MovedBracket offset last moved) (place : Nat) (after : Text) :
    nextBracket moved (offset + place) after = (nextBracket last place after).map (offset + ·) := by
  have hnew : (after.findIdx? (· = '>')).map (offset + place + ·) =
      ((after.findIdx? (· = '>')).map (place + ·)).map (offset + ·) := by
    simp only [Option.map_map, Function.comp_def, Nat.add_assoc]
  rcases h with rfl | ⟨rfl, hbehind⟩
  · cases last with
    | none => exact hnew
    | some b =>
      simp only [nextBracket, Option.map_some, Nat.add_le_add_iff_left, hnew]
      split <;> rfl
  · cases moved with
    | none => exact hnew
    | some b =>
      have hb : b < offset := hbehind b rfl
      simp only [nextBracket, if_neg (show ¬ offset + place ≤ b by omega), hnew]

theorem findIn_moved_of_head (h : MovedBracket offset last moved) {place skipped : Nat}
    {rest after : Text} (hhead : nextHead name.head rest = some (skipped, after)) :
    let inner := place + skipped + name.head.length
    findIn name limit form moved (offset + place) rest =
      match (nextBracket last inner after).map (offset + ·) with
      | none => (none, none)
      | some b =>
        match attributeTextWithin? limit form (b - (offset + inner)) after with
        | some attributes => (some ⟨offset + (place + skipped), b + 1, attributes⟩, some b)
        | none => findIn name limit form (some b) (offset + inner) after := by
  intro inner
  rw [findIn_of_head hhead, Nat.add_assoc offset, Nat.add_assoc offset, nextBracket_moved h]

variable (name limit form) in
/-- A scan of a text behind others finds what a scan of the text alone finds. -/
theorem findIn_moved (place : Nat) (rest : Text) : ∀ moved, MovedBracket offset last moved →
    ∃ next, findIn name limit form moved (offset + place) rest =
        ((findIn name limit form last place rest).1.map (.moved offset), next) ∧
      MovedBracket offset (findIn name limit form last place rest).2 next := by
  fun_induction findIn name limit form last place rest with
  | case1 last place rest hhead => exact fun moved h => ⟨moved, findIn_of_no_head hhead, h⟩
  | case2 last place rest skipped after hhead start inner hb =>
    intro moved h
    refine ⟨none, ?_, .inl rfl⟩
    simp only [findIn_moved_of_head h hhead, start, inner] at hb ⊢
    simp only [hb, Option.map_none]
  | case3 last place rest skipped after hhead start inner b hb attributes ha =>
    intro moved h
    refine ⟨some (offset + b), ?_, .inl rfl⟩
    simp only [findIn_moved_of_head h hhead, start, inner] at hb ha ⊢
    simp only [hb, Option.map_some, Nat.add_sub_add_left, ha]
    rfl
  | case4 last place rest skipped after hhead start inner b hb ha ih =>
    intro moved h
    simp only [findIn_moved_of_head h hhead, start, inner] at hb ha ih ⊢
    simp only [hb, Option.map_some, Nat.add_sub_add_left, ha]
    exact ih _ (.inl rfl)

/-! ## One search -/

/-- A search in two texts that finds a tag in the first one. -/
theorem find_append_of_some {scanner next : Scanner} {place : Nat} {tag : Occurrence}
    (hname : '>' ∉ scanner.name.head) (hs : EndsClosed scanner.text)
    (hplace : place ≤ scanner.text.length) (hlast : ∀ b ∈ scanner.bracket, b < scanner.text.length)
    (h : scanner.find place form = (some tag, next)) (t : Text) :
    ({ scanner with text := scanner.text ++ t } : Scanner).find place form =
        (some tag, { next with text := next.text ++ t }) ∧
      tag.start < tag.stop ∧ tag.stop ≤ scanner.text.length ∧
        ∀ b ∈ next.bracket, b < scanner.text.length := by
  have hlength : place + (scanner.text.drop place).length = scanner.text.length := by
    rw [List.length_drop]
    omega
  rw [← hlength] at hlast
  have happend := findIn_append scanner.limit form hname (hs.drop place) hlast t
  unfold find at h ⊢
  generalize findIn scanner.name scanner.limit form scanner.bracket place
    (scanner.text.drop place) = answer at h happend
  obtain ⟨tag?, last⟩ := answer
  cases h
  obtain ⟨hfind, hstart, hstop, hbracket⟩ := happend
  rw [List.drop_append_of_le_length hplace]
  refine ⟨by simp only [hfind], hstart, by omega, fun b hb => ?_⟩
  have := hbracket b hb
  omega

/-- A search in two texts that finds no tag in the first one. -/
theorem find_append_of_none {scanner next : Scanner} {place : Nat}
    (hname : '>' ∉ scanner.name.head) (hs : EndsClosed scanner.text)
    (hplace : place ≤ scanner.text.length) (hlast : ∀ b ∈ scanner.bracket, b < scanner.text.length)
    (h : scanner.find place form = (none, next)) (t : Text) :
    ∃ moved, (∀ b ∈ moved, b < scanner.text.length) ∧
      ({ scanner with text := scanner.text ++ t } : Scanner).find place form =
        ({ scanner with text := scanner.text ++ t, bracket := moved } : Scanner).find
          (scanner.text.length + 0) form := by
  have hlength : place + (scanner.text.drop place).length = scanner.text.length := by
    rw [List.length_drop]
    omega
  rw [← hlength] at hlast
  have happend := findIn_append scanner.limit form hname (hs.drop place) hlast t
  unfold find at h ⊢
  generalize findIn scanner.name scanner.limit form scanner.bracket place
    (scanner.text.drop place) = answer at h happend
  obtain ⟨tag?, last⟩ := answer
  cases h
  obtain ⟨hfind, hbracket⟩ := happend
  rw [hlength] at hfind hbracket
  refine ⟨last, hbracket, ?_⟩
  rw [List.drop_append_of_le_length hplace, hfind, Nat.add_zero, List.drop_left]

/-- A search in the second of two texts. -/
theorem find_moved {scanner next : Scanner} {place : Nat} {answer : Option Occurrence} {s : Text}
    (hlast : MovedBracket s.length scanner.bracket moved)
    (h : scanner.find place form = (answer, next)) :
    ∃ after, ({ scanner with text := s ++ scanner.text, bracket := moved } : Scanner).find
        (s.length + place) form =
          (answer.map (.moved s.length), { next with text := s ++ next.text, bracket := after }) ∧
      MovedBracket s.length next.bracket after := by
  obtain ⟨after, hfind, hafter⟩ := findIn_moved scanner.name scanner.limit form place
    (scanner.text.drop place) moved hlast
  unfold find at h ⊢
  rw [List.drop_append, Nat.add_sub_cancel_left, List.drop_of_length_le (Nat.le_add_right _ _),
    List.nil_append]
  cases h
  exact ⟨after, by simp only [hfind], hafter⟩

end Scanner

/-! ## The passes -/

section Passes

variable {m : Type → Type} [Monad m]

theorem expandSelfClosing_of_none (replace : Replacement m) {scanner next : Scanner} {place : Nat}
    (h : scanner.find place .selfClosing = (none, next)) :
    expandSelfClosing replace scanner place = pure (scanner.text.drop place) := by
  rw [expandSelfClosing]
  split
  · rfl
  · next hsome => rw [h] at hsome; cases hsome

theorem expandSelfClosing_of_some (replace : Replacement m) {scanner next : Scanner} {place : Nat}
    {tag : Occurrence} (h : scanner.find place .selfClosing = (some tag, next)) :
    expandSelfClosing replace scanner place = do
      let replaced ← replace (Attributes.parse tag.attributeText) []
      let rest ← expandSelfClosing replace next tag.stop
      return slice scanner.text place tag.start ++ replaced ++ rest := by
  rw [expandSelfClosing]
  split
  · next hnone => rw [h] at hnone; cases hnone
  · next hsome =>
    rw [h] at hsome
    cases hsome
    rfl

theorem slice_append_right (s t : Text) (start stop : Nat) :
    slice (s ++ t) (s.length + start) (s.length + stop) = slice t start stop := by
  rw [slice, List.take_length_add_append, List.drop_length_add_append, slice]

theorem slice_append_left {s : Text} {stop : Nat} (h : stop ≤ s.length) (t : Text) (start : Nat) :
    slice (s ++ t) start stop = slice s start stop := by
  rw [slice, List.take_append_of_le_length h, slice]

/-- The pass over self-closing tags from a place in the second text on. -/
theorem expandSelfClosing_moved (replace : Replacement m) (s : Text) (scanner : Scanner)
    (place : Nat) : ∀ moved, MovedBracket s.length scanner.bracket moved →
      expandSelfClosing replace { scanner with text := s ++ scanner.text, bracket := moved }
        (s.length + place) = expandSelfClosing replace scanner place := by
  fun_induction expandSelfClosing replace scanner place with
  | case1 scanner place next h =>
    intro moved hlast
    obtain ⟨after, hfind, -⟩ := Scanner.find_moved hlast h
    rw [expandSelfClosing_of_none replace hfind, List.drop_length_add_append]
  | case2 scanner place tag next h ih =>
    intro moved hlast
    obtain ⟨after, hfind, hafter⟩ := Scanner.find_moved hlast h
    have htext : next.text = scanner.text := by rw [Scanner.next_of_find h]
    rw [expandSelfClosing_of_some replace hfind]
    rw [htext] at ih ⊢
    simp only [Occurrence.moved, slice_append_right, ih after hafter]

section Lawful

variable [LawfulMonad m]

/-- Where the first of two texts holds no further tag, it is copied, and the pass goes on in the
second one. -/
theorem expandSelfClosing_append_of_none (replace : Replacement m) {scanner next : Scanner}
    {place : Nat} (hname : '>' ∉ scanner.name.head) (hs : EndsClosed scanner.text)
    (hplace : place ≤ scanner.text.length) (hlast : ∀ b ∈ scanner.bracket, b < scanner.text.length)
    (h : scanner.find place .selfClosing = (none, next)) (t : Text) :
    expandSelfClosing replace { scanner with text := scanner.text ++ t } place = do
      let back ← expandSelfClosing replace { scanner with text := t, bracket := none } 0
      return scanner.text.drop place ++ back := by
  obtain ⟨moved, hmoved, hfind⟩ := Scanner.find_append_of_none hname hs hplace hlast h t
  cases hback : ({ scanner with text := t, bracket := none } : Scanner).find 0 .selfClosing with
  | mk answer behind =>
    obtain ⟨after, hfind', hafter⟩ := Scanner.find_moved (.inr ⟨rfl, hmoved⟩) hback
    rw [hfind'] at hfind
    cases answer with
    | none =>
      rw [expandSelfClosing_of_none replace hfind, expandSelfClosing_of_none replace hback]
      simp [List.drop_append_of_le_length hplace]
    | some tag =>
      have hcopied : slice (scanner.text ++ t) place (scanner.text.length + tag.start) =
          scanner.text.drop place ++ slice t 0 tag.start := by
        rw [slice, List.take_length_add_append, List.drop_append_of_le_length hplace, slice,
          List.drop_zero]
      rw [expandSelfClosing_of_some replace hfind, expandSelfClosing_of_some replace hback]
      simp only [Occurrence.moved, hcopied,
        expandSelfClosing_moved replace scanner.text behind tag.stop after hafter]
      simp

/-- The pass over the self-closing tags of two texts is the pass over the first and then the pass
over the second. -/
theorem expandSelfClosing_append (replace : Replacement m) {scanner : Scanner} {place : Nat}
    (hname : '>' ∉ scanner.name.head) (hs : EndsClosed scanner.text)
    (hplace : place ≤ scanner.text.length) (hlast : ∀ b ∈ scanner.bracket, b < scanner.text.length)
    (t : Text) :
    expandSelfClosing replace { scanner with text := scanner.text ++ t } place = do
      let front ← expandSelfClosing replace scanner place
      let back ← expandSelfClosing replace { scanner with text := t, bracket := none } 0
      return front ++ back := by
  fun_induction expandSelfClosing replace scanner place with
  | case1 scanner place next h =>
    rw [expandSelfClosing_append_of_none replace hname hs hplace hlast h t, pure_bind]
  | case2 scanner place tag next h ih =>
    obtain ⟨hfind, hstart, hstop, hnext⟩ := Scanner.find_append_of_some hname hs hplace hlast h t
    rw [expandSelfClosing_of_some replace hfind, slice_append_left (by omega)]
    rw [Scanner.next_of_find h] at ih ⊢
    simp only [ih hname hs hstop hnext, bind_assoc, pure_bind, List.append_assoc]

end Lawful

theorem expandPaired_of_none (replace : Replacement m) {scanner next : Scanner} {place : Nat}
    (h : scanner.find place .opening = (none, next)) :
    expandPaired replace scanner place = pure (scanner.text.drop place) := by
  rw [expandPaired]
  split
  · rfl
  · next hsome => rw [h] at hsome; cases hsome

theorem expandPaired_of_some (replace : Replacement m) {scanner next : Scanner} {place : Nat}
    {tag : Occurrence} (h : scanner.find place .opening = (some tag, next)) :
    expandPaired replace scanner place =
      match Text.cut? scanner.name.closing (scanner.text.drop tag.stop) with
      | none => pure (scanner.text.drop place)
      | some (body, _) => do
        let replaced ← replace (Attributes.parse tag.attributeText) body
        let rest ← expandPaired replace next
          (tag.stop + body.length + scanner.name.closing.length)
        return slice scanner.text place tag.start ++ replaced ++ rest := by
  rw [expandPaired]
  split
  · next hnone => rw [h] at hnone; cases hnone
  · next hsome =>
    rw [h] at hsome
    cases hsome
    cases Text.cut? scanner.name.closing (scanner.text.drop tag.stop) with
    | none => rfl
    | some found => rfl

/-- The pass over the pairs of two texts of which the second holds no closing half. -/
theorem expandPaired_append [LawfulMonad m] (replace : Replacement m) {scanner : Scanner}
    {place : Nat} (hname : scanner.name.Unclosed) (hs : EndsClosed scanner.text)
    (hplace : place ≤ scanner.text.length) (hlast : ∀ b ∈ scanner.bracket, b < scanner.text.length)
    {t : Text} (ht : Text.cut? scanner.name.closing t = none) :
    expandPaired replace { scanner with text := scanner.text ++ t } place = do
      let front ← expandPaired replace scanner place
      return front ++ t := by
  fun_induction expandPaired replace scanner place with
  | case1 scanner place next h =>
    rw [pure_bind, ← List.drop_append_of_le_length hplace]
    obtain ⟨moved, hmoved, hfind⟩ :=
      Scanner.find_append_of_none hname.not_mem_head hs hplace hlast h t
    cases hback : ({ scanner with text := t, bracket := none } : Scanner).find 0 .opening with
    | mk answer behind =>
      obtain ⟨after, hfind', -⟩ := Scanner.find_moved (.inr ⟨rfl, hmoved⟩) hback
      rw [hfind'] at hfind
      cases answer with
      | none => rw [expandPaired_of_none replace hfind]
      | some tag =>
        have hunclosed : Text.cut? scanner.name.closing
            ((scanner.text ++ t).drop (scanner.text.length + tag.stop)) = none := by
          rw [List.drop_length_add_append]
          exact Text.cut?_drop_eq_none ht _
        rw [expandPaired_of_some replace hfind]
        simp only [Occurrence.moved, hunclosed]
  | case2 scanner place tag next h hcut =>
    obtain ⟨hfind, -, hstop, -⟩ :=
      Scanner.find_append_of_some hname.not_mem_head hs hplace hlast h t
    have hunclosed : Text.cut? scanner.name.closing ((scanner.text ++ t).drop tag.stop) = none := by
      rw [List.drop_append_of_le_length hstop]
      exact hname.cut?_closing_append (hs.drop _) hcut ht
    rw [expandPaired_of_some replace hfind]
    simp only [hunclosed, pure_bind, List.drop_append_of_le_length hplace]
  | case3 scanner place tag next h body rest hcut ih =>
    obtain ⟨hfind, hstart, hstop, hnext⟩ :=
      Scanner.find_append_of_some hname.not_mem_head hs hplace hlast h t
    have hclosed : Text.cut? scanner.name.closing ((scanner.text ++ t).drop tag.stop) =
        some (body, rest ++ t) := by
      rw [List.drop_append_of_le_length hstop]
      exact cut?_append_of_some hcut t
    have hbehind : tag.stop + body.length + scanner.name.closing.length ≤ scanner.text.length := by
      have hlength := congrArg List.length (Text.append_of_cut? hcut)
      simp only [List.length_drop, List.length_append] at hlength
      omega
    rw [expandPaired_of_some replace hfind, slice_append_left (by omega)]
    rw [Scanner.next_of_find h] at ih ⊢
    simp only [hclosed, ih hname hs hbehind hnext ht, bind_assoc, pure_bind, List.append_assoc]

end Passes

end ContentFilters.Tag
