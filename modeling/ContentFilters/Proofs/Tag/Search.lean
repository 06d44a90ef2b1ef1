import ContentFilters.Proofs.Text.Cutting
import ContentFilters.Tag.Walk

/-!
# The search for the next tag

A scanner jumps from head to head and remembers the closing bracket it found last. What it finds is
nevertheless the first position, at or after the place where it starts, at which the plain reading
sees a tag. Two facts carry this. A head holds no opening bracket but its first character, so no
position inside a refused head can start another one. And the remembered bracket, if it does not lie
behind, is the first one after the place in question: `KnownBracket` says so, and it stays true as
the place moves on.
-/
namespace ContentFilters.Tag

/-! ## Heads -/

def afterHead? (name : TagName) (s : Text) : Option Text :=
  (Text.after? name.head s).filter endsName

theorem afterHead?_eq_some {name : TagName} {s after : Text} :
    afterHead? name s = some after ↔ s = name.head ++ after ∧ endsName after = true := by
  rw [afterHead?, Option.filter_eq_some_iff, Text.after?_eq_some]

/-- A head starts with an opening bracket. -/
theorem afterHead?_eq_none_of_ne {name : TagName} {c : Char} (h : c ≠ '<') (rest : Text) :
    afterHead? name (c :: rest) = none := by
  rw [afterHead?, TagName.head, List.cons_append, Text.after?_eq_none_of_head_ne _ _ (Ne.symm h)]
  rfl

theorem afterHead?_nil (name : TagName) : afterHead? name [] = none := rfl

/-- The names with which tags can be found without looking back: an opening bracket stands only at
the start of their heads. -/
def TagName.Plain (name : TagName) : Prop := '<' ∉ name.space ∧ '<' ∉ name.name

theorem TagName.Plain.not_mem_tail {name : TagName} (h : name.Plain) : '<' ∉ name.head.tail := by
  simp [TagName.head, h.1, h.2]

/-- No head starts inside a head. -/
theorem afterHead?_inside {name : TagName} (hname : name.Plain) {s after : Text}
    (h : afterHead? name s = some after) {i : Nat} (hpos : 0 < i) (hi : i < name.head.length) :
    afterHead? name (s.drop i) = none := by
  obtain ⟨rfl, -⟩ := afterHead?_eq_some.mp h
  have hdrop : (name.head ++ after).drop i = name.head.drop i ++ after :=
    List.drop_append_of_le_length (Nat.le_of_lt hi)
  have hcons : name.head.drop i = name.head[i] :: name.head.drop (i + 1) :=
    List.drop_eq_getElem_cons hi
  rw [hdrop, hcons, List.cons_append]
  apply afterHead?_eq_none_of_ne
  intro hc
  apply hname.not_mem_tail
  rw [← hc, ← List.drop_one]
  exact List.mem_drop_iff_getElem.mpr ⟨i - 1, by omega, by simp [Nat.add_sub_cancel' hpos]⟩

theorem afterHead?_of_nextHead_none {name : TagName} {s : Text}
    (h : nextHead name.head s = none) (i : Nat) : afterHead? name (s.drop i) = none := by
  induction s generalizing i with
  | nil => rw [List.drop_nil, afterHead?_nil]
  | cons c rest ih =>
    unfold nextHead at h
    split at h
    · cases h
    · next hfirst =>
      cases i with
      | zero => exact hfirst
      | succ i => exact ih (Option.map_eq_none_iff.mp h) i

theorem afterHead?_of_nextHead {name : TagName} {s after : Text} {n : Nat}
    (h : nextHead name.head s = some (n, after)) :
    afterHead? name (s.drop n) = some after ∧ ∀ i < n, afterHead? name (s.drop i) = none := by
  induction s generalizing n with
  | nil => cases h
  | cons c rest ih =>
    unfold nextHead at h
    split at h
    · next found hfound =>
      cases h
      exact ⟨hfound, fun i hi => absurd hi (Nat.not_lt_zero i)⟩
    · next hfirst =>
      obtain ⟨⟨k, a⟩, hk, he⟩ := Option.map_eq_some_iff.mp h
      cases he
      obtain ⟨hat, hbefore⟩ := ih hk
      refine ⟨hat, fun i hi => ?_⟩
      cases i with
      | zero => exact hfirst
      | succ i => exact hbefore i (Nat.lt_of_succ_lt_succ hi)

/-! ## Closing brackets -/

structure FirstBracket (text : Text) (place b : Nat) : Prop where
  le : place ≤ b
  found : text[b]? = some '>'
  earlier : ∀ i, place ≤ i → i < b → text[i]? ≠ some '>'

theorem FirstBracket.later {text : Text} {place place' b : Nat} (h : FirstBracket text place b)
    (hle : place ≤ place') (hb : place' ≤ b) : FirstBracket text place' b :=
  ⟨hb, h.found, fun i hi => h.earlier i (Nat.le_trans hle hi)⟩

theorem FirstBracket.le_of_le {text : Text} {place place' b b' : Nat}
    (h : FirstBracket text place b) (h' : FirstBracket text place' b') (hle : place ≤ place') :
    b ≤ b' := by
  refine Nat.le_of_not_lt fun hlt => ?_
  exact h.earlier b' (Nat.le_trans hle h'.le) hlt h'.found

/-- The text from a place on is cut at the first bracket there. -/
theorem FirstBracket.cutAt?_drop {text : Text} {place b : Nat} (h : FirstBracket text place b) :
    Text.cutAt? '>' (text.drop place) =
      some ((text.drop place).take (b - place), text.drop (b + 1)) := by
  have hb : b < text.length := (List.getElem?_eq_some_iff.mp h.found).choose
  rw [Text.cutAt?_eq_some]
  refine ⟨?_, ?_⟩
  · have hcons : text.drop b = '>' :: text.drop (b + 1) := by
      rw [List.drop_eq_getElem_cons hb, (List.getElem?_eq_some_iff.mp h.found).choose_spec]
    have hdrop : (text.drop place).drop (b - place) = text.drop b := by
      rw [List.drop_drop, Nat.add_sub_cancel' h.le]
    rw [← hcons, ← hdrop, List.take_append_drop]
  · intro hmem
    obtain ⟨i, hi, hat⟩ := List.mem_take_iff_getElem.mp hmem
    refine h.earlier (place + i) (Nat.le_add_right place i) (by omega) ?_
    rw [← List.getElem?_drop, List.getElem?_eq_getElem (by omega), hat]

theorem firstBracket_of_findIdx? {text : Text} {place k : Nat}
    (h : (text.drop place).findIdx? (· = '>') = some k) : FirstBracket text place (place + k) := by
  obtain ⟨hk, hat, hbefore⟩ := List.findIdx?_eq_some_iff_getElem.mp h
  refine ⟨Nat.le_add_right place k, ?_, ?_⟩
  · rw [← List.getElem?_drop, List.getElem?_eq_getElem hk]
    exact congrArg some (of_decide_eq_true hat)
  · intro i hi hlt hbracket
    obtain ⟨j, rfl⟩ := Nat.exists_eq_add_of_le hi
    rw [← List.getElem?_drop] at hbracket
    obtain ⟨hj, heq⟩ := List.getElem?_eq_some_iff.mp hbracket
    exact hbefore j (by omega) (decide_eq_true heq)

theorem exists_firstBracket {text : Text} {place : Nat} (h : '>' ∈ text.drop place) :
    ∃ b, FirstBracket text place b := by
  cases hfound : (text.drop place).findIdx? (· = '>') with
  | none => exact absurd (List.findIdx?_eq_none_iff.mp hfound '>' h) (by simp)
  | some k => exact ⟨place + k, firstBracket_of_findIdx? hfound⟩

/-- What a scanner remembers is behind a place or is the first bracket there. -/
def KnownBracket (text : Text) (place : Nat) (last : Option Nat) : Prop :=
  ∀ b, last = some b → place ≤ b → FirstBracket text place b

theorem knownBracket_none (text : Text) (place : Nat) : KnownBracket text place none :=
  fun _ h => nomatch h

theorem KnownBracket.later {text : Text} {place place' : Nat} {last : Option Nat}
    (h : KnownBracket text place last) (hle : place ≤ place') : KnownBracket text place' last :=
  fun b hb hlt => (h b hb (Nat.le_trans hle hlt)).later hle hlt

/-- A bracket that lies behind is no hindrance. -/
theorem knownBracket_behind (text : Text) {place b : Nat} (h : b < place) :
    KnownBracket text place (some b) := by
  intro b' hb hle
  cases hb
  exact absurd h (Nat.not_lt.mpr hle)

theorem FirstBracket.known {text : Text} {place b : Nat} (h : FirstBracket text place b) :
    KnownBracket text place (some b) := by
  intro b' hb _
  cases hb
  exact h

/-- Remembering changes nothing but the cost. -/
theorem Scanner.nextBracket_eq {text : Text} {place : Nat} {last : Option Nat}
    (h : KnownBracket text place last) :
    nextBracket last place (text.drop place) =
      ((text.drop place).findIdx? (· = '>')).map (place + ·) := by
  cases last with
  | none => rfl
  | some b =>
    simp only [nextBracket]
    split
    · next hle =>
      have hb := h b rfl hle
      cases hfound : (text.drop place).findIdx? (· = '>') with
      | none =>
        obtain ⟨hlt, hat⟩ := List.getElem?_eq_some_iff.mp hb.found
        have hmem : '>' ∈ text.drop place := List.mem_drop_iff_getElem.mpr
          ⟨b - place, by omega, by simpa [Nat.add_sub_cancel' hle] using hat⟩
        exact absurd (List.findIdx?_eq_none_iff.mp hfound '>' hmem) (by simp)
      | some k =>
        have hk := firstBracket_of_findIdx? hfound
        have heq : b = place + k :=
          Nat.le_antisymm (hb.le_of_le hk (Nat.le_refl _)) (hk.le_of_le hb (Nat.le_refl _))
        rw [heq]
        rfl
    · rfl

theorem Scanner.firstBracket_of_nextBracket {text : Text} {place b : Nat} {last : Option Nat}
    (hlast : KnownBracket text place last)
    (h : nextBracket last place (text.drop place) = some b) : FirstBracket text place b := by
  rw [nextBracket_eq hlast] at h
  obtain ⟨k, hk, rfl⟩ := Option.map_eq_some_iff.mp h
  exact firstBracket_of_findIdx? hk

theorem Scanner.not_mem_of_nextBracket {text : Text} {place : Nat} {last : Option Nat}
    (hlast : KnownBracket text place last)
    (h : nextBracket last place (text.drop place) = none) : '>' ∉ text.drop place := by
  rw [nextBracket_eq hlast, Option.map_eq_none_iff] at h
  intro hmem
  simpa using List.findIdx?_eq_none_iff.mp h '>' hmem

/-! ## Tags at a place -/

namespace Walk

theorem tagAtStart?_eq (name : TagName) (limit : Int) (form : TagForm) (s : Text) :
    tagAtStart? name limit form s = match afterHead? name s with
      | none => none
      | some after => match Text.cutAt? '>' after with
        | none => none
        | some (inner, rest) => (attributeText? limit form inner).map fun a => (a, rest) := rfl

theorem tagAtStart?_of_no_head {name : TagName} {s : Text} (h : afterHead? name s = none)
    (limit : Int) (form : TagForm) : tagAtStart? name limit form s = none := by
  rw [tagAtStart?_eq, h]

variable {name : TagName} {limit : Int} {form : TagForm} {text : Text}

/-- Without a closing bracket there is no tag. -/
theorem tagAtStart?_of_no_bracket {place i : Nat} (h : '>' ∉ text.drop place)
    (hi : place ≤ i + name.head.length) : tagAtStart? name limit form (text.drop i) = none := by
  rw [tagAtStart?_eq]
  cases hhead : afterHead? name (text.drop i) with
  | none => rfl
  | some after =>
    have hdrop : text.drop (i + name.head.length) = after := by
      rw [← List.drop_drop, (afterHead?_eq_some.mp hhead).1, List.drop_left]
    have hnone : Text.cutAt? '>' after = none := by
      rw [Text.cutAt?_eq_none, ← hdrop, ← Nat.add_sub_cancel' hi, ← List.drop_drop]
      exact fun hmem => h (List.mem_of_mem_drop hmem)
    simp only [hnone]

/-- A tag whose head stands at a place ends with the first bracket after the head. -/
theorem tagAtStart?_of_bracket {i b : Nat} {after : Text}
    (hhead : afterHead? name (text.drop i) = some after)
    (hb : FirstBracket text (i + name.head.length) b) :
    tagAtStart? name limit form (text.drop i) =
      (attributeText? limit form (after.take (b - (i + name.head.length)))).map
        fun a => (a, text.drop (b + 1)) := by
  have hdrop : text.drop (i + name.head.length) = after := by
    rw [← List.drop_drop, (afterHead?_eq_some.mp hhead).1, List.drop_left]
  have hcut := hb.cutAt?_drop
  rw [hdrop] at hcut
  rw [tagAtStart?_eq, hhead]
  simp only [hcut]

/-- Every tag at a place ends with the first bracket after its head. -/
theorem exists_bracket_of_tagAtStart? {i : Nat} {a inside : Text}
    (h : tagAtStart? name limit form (text.drop i) = some (a, inside)) :
    ∃ b, FirstBracket text (i + name.head.length) b ∧ inside = text.drop (b + 1) := by
  by_cases hmem : '>' ∈ text.drop (i + name.head.length)
  · obtain ⟨b, hb⟩ := exists_firstBracket hmem
    refine ⟨b, hb, ?_⟩
    cases hhead : afterHead? name (text.drop i) with
    | none =>
      rw [tagAtStart?_of_no_head hhead] at h
      cases h
    | some after =>
      rw [tagAtStart?_of_bracket hhead hb] at h
      obtain ⟨t, -, he⟩ := Option.map_eq_some_iff.mp h
      cases he
      rfl
  · rw [tagAtStart?_of_no_bracket hmem (Nat.le_refl _)] at h
    cases h

end Walk

/-! ## The next tag -/

/-- A tag that is the first one at or after a place. -/
structure NextTag (name : TagName) (limit : Int) (form : TagForm) (text : Text) (place : Nat)
    (tag : Occurrence) : Prop where
  le_start : place ≤ tag.start
  at_start : Walk.tagAtStart? name limit form (text.drop tag.start) =
    some (tag.attributeText, text.drop tag.stop)
  bracket : ∃ b, FirstBracket text (tag.start + name.head.length) b ∧ tag.stop = b + 1
  earlier : ∀ i, place ≤ i → i < tag.start → Walk.tagAtStart? name limit form (text.drop i) = none

theorem NextTag.start_lt_stop {name : TagName} {limit : Int} {form : TagForm} {text : Text}
    {place : Nat} {tag : Occurrence} (h : NextTag name limit form text place tag) :
    tag.start < tag.stop := by
  obtain ⟨b, hb, hstop⟩ := h.bracket
  have := hb.le
  omega

theorem NextTag.stop_le {name : TagName} {limit : Int} {form : TagForm} {text : Text}
    {place : Nat} {tag : Occurrence} (h : NextTag name limit form text place tag) :
    tag.stop ≤ text.length := by
  obtain ⟨b, hb, hstop⟩ := h.bracket
  have := (List.getElem?_eq_some_iff.mp hb.found).choose
  omega

/-- What a search from a place on may answer, and which bracket it may remember with it. -/
def IsNext (name : TagName) (limit : Int) (form : TagForm) (text : Text) (place : Nat) :
    Option Occurrence × Option Nat → Prop
  | (none, _) => ∀ i, place ≤ i → Walk.tagAtStart? name limit form (text.drop i) = none
  | (some tag, last) => NextTag name limit form text place tag ∧ KnownBracket text tag.stop last

/-- A search may start anywhere behind positions without tags. -/
theorem IsNext.from {name : TagName} {limit : Int} {form : TagForm} {text : Text}
    {place place' : Nat} {answer : Option Occurrence × Option Nat}
    (h : IsNext name limit form text place' answer) (hle : place ≤ place')
    (hskip : ∀ i, place ≤ i → i < place' → Walk.tagAtStart? name limit form (text.drop i) = none) :
    IsNext name limit form text place answer := by
  obtain ⟨tag?, last⟩ := answer
  have hboth : ∀ i, place ≤ i → (place' ≤ i → Walk.tagAtStart? name limit form (text.drop i) = none)
      → Walk.tagAtStart? name limit form (text.drop i) = none := by
    intro i hi hlater
    rcases Nat.lt_or_ge i place' with hlt | hge
    · exact hskip i hi hlt
    · exact hlater hge
  cases tag? with
  | none => exact fun i hi => hboth i hi (h i)
  | some tag =>
    obtain ⟨hnext, hlast⟩ := h
    refine ⟨⟨Nat.le_trans hle hnext.le_start, hnext.at_start, hnext.bracket, ?_⟩, hlast⟩
    exact fun i hi hlt => hboth i hi fun hge => hnext.earlier i hge hlt

/-- The next head in the text from a place on, told by places of the whole text. -/
theorem afterHead?_of_nextHead_drop {name : TagName} {text after : Text} {place skipped : Nat}
    (h : nextHead name.head (text.drop place) = some (skipped, after)) :
    afterHead? name (text.drop (place + skipped)) = some after ∧
      after = text.drop (place + skipped + name.head.length) ∧
      ∀ i, place ≤ i → i < place + skipped → afterHead? name (text.drop i) = none := by
  obtain ⟨hat, hbefore⟩ := afterHead?_of_nextHead h
  rw [List.drop_drop] at hat
  refine ⟨hat, ?_, ?_⟩
  · rw [← List.drop_drop, (afterHead?_eq_some.mp hat).1, List.drop_left]
  · intro i hi hlt
    have := hbefore (i - place) (by omega)
    rwa [List.drop_drop, Nat.add_sub_cancel' hi] at this

/-- A head is judged by the bracket that is remembered or looked up for it. -/
theorem Scanner.tagAtStart?_of_nextBracket {name : TagName} {limit : Int} {form : TagForm}
    {text after : Text} {start b : Nat} {last : Option Nat}
    (hat : afterHead? name (text.drop start) = some after)
    (hlast : KnownBracket text (start + name.head.length) last)
    (hb : nextBracket last (start + name.head.length) after = some b) :
    FirstBracket text (start + name.head.length) b ∧
      Walk.tagAtStart? name limit form (text.drop start) =
        (attributeTextWithin? limit form (b - (start + name.head.length)) after).map
          fun a => (a, text.drop (b + 1)) := by
  have hafter : text.drop (start + name.head.length) = after := by
    rw [← List.drop_drop, (afterHead?_eq_some.mp hat).1, List.drop_left]
  rw [← hafter] at hb
  have hbracket := firstBracket_of_nextBracket hlast hb
  have hlength : b - (start + name.head.length) ≤ after.length := by
    have hlt := (List.getElem?_eq_some_iff.mp hbracket.found).choose
    rw [← hafter, List.length_drop]
    omega
  refine ⟨hbracket, ?_⟩
  rw [attributeTextWithin?_eq hlength, Walk.tagAtStart?_of_bracket hat hbracket]

/-- A scanner finds the first tag at or after the place it is asked for. -/
theorem Scanner.findIn_isNext {name : TagName} (hname : name.Plain) {limit : Int} {form : TagForm}
    {text : Text} {last : Option Nat} {place : Nat} {rest : Text} (hrest : rest = text.drop place)
    (hlast : KnownBracket text place last) :
    IsNext name limit form text place (findIn name limit form last place rest) := by
  fun_induction findIn name limit form last place rest with
  | case1 last place rest hnone =>
    intro i hi
    apply Walk.tagAtStart?_of_no_head
    have := afterHead?_of_nextHead_none hnone (i - place)
    rwa [hrest, List.drop_drop, Nat.add_sub_cancel' hi] at this
  | case2 last place rest skipped after hhead start inner hnone =>
    subst hrest
    obtain ⟨hat, hafter, hbefore⟩ := afterHead?_of_nextHead_drop hhead
    rw [hafter] at hnone
    have hmem := not_mem_of_nextBracket (hlast.later (by omega)) hnone
    intro i hi
    rcases Nat.lt_or_ge i start with hlt | hge
    · exact Walk.tagAtStart?_of_no_head (hbefore i hi hlt) limit form
    · exact Walk.tagAtStart?_of_no_bracket hmem (by omega)
  | case3 last place rest skipped after hhead start inner b hb attributes ha =>
    subst hrest
    obtain ⟨hat, -, hbefore⟩ := afterHead?_of_nextHead_drop hhead
    obtain ⟨hbracket, htag⟩ := tagAtStart?_of_nextBracket hat (hlast.later (by omega)) hb
    refine ⟨⟨Nat.le_add_right place skipped, ?_, ⟨b, hbracket, rfl⟩, ?_⟩,
      knownBracket_behind text (Nat.lt_succ_self b)⟩
    · rw [htag, ha]
      rfl
    · exact fun i hi hlt => Walk.tagAtStart?_of_no_head (hbefore i hi hlt) limit form
  | case4 last place rest skipped after hhead start inner b hb ha ih =>
    subst hrest
    obtain ⟨hat, hafter, hbefore⟩ := afterHead?_of_nextHead_drop hhead
    obtain ⟨hbracket, htag⟩ := tagAtStart?_of_nextBracket hat (hlast.later (by omega)) hb
    refine (ih hafter hbracket.known).from (by omega) ?_
    -- Neither the refused head nor any position inside it starts a tag.
    intro i hi hlt
    rcases Nat.lt_trichotomy i start with hbeforeStart | rfl | hinside
    · exact Walk.tagAtStart?_of_no_head (hbefore i hi hbeforeStart) limit form
    · rw [htag, ha]
      rfl
    · have := afterHead?_inside hname hat (i := i - start) (by omega) (by omega)
      rw [List.drop_drop, Nat.add_sub_cancel' (by omega)] at this
      exact Walk.tagAtStart?_of_no_head this limit form

/-- The answer of a scanner at a place, and what it remembers after it. -/
theorem Scanner.find_isNext {scanner : Scanner} (hname : scanner.name.Plain) {place : Nat}
    (hlast : KnownBracket scanner.text place scanner.bracket) (form : TagForm) :
    IsNext scanner.name scanner.limit form scanner.text place
      ((scanner.find place form).1, (scanner.find place form).2.bracket) :=
  findIn_isNext hname rfl hlast

end ContentFilters.Tag
