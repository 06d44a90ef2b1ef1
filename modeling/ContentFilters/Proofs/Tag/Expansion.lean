import ContentFilters.Proofs.Tag.Reading
import ContentFilters.Proofs.Tag.Search
import ContentFilters.Tag.Expansion

/-!
# Expansion is the plain reading

Each pass of the expansion replaces the next tag that its scanner finds and goes on behind it. The
scanner finds what the plain reading sees first, so the pass is the walk from the same place on. The
pass over pairs may stop at the first opening tag without a closing half: no closing half follows
any later one either.
-/
namespace ContentFilters.Tag

/-! ## One step of a pass -/

/-- A scan leaves the text, the name and the limit alone. -/
theorem Scanner.next_of_find {scanner next : Scanner} {place : Nat} {form : TagForm}
    {answer : Option Occurrence} (h : scanner.find place form = (answer, next)) :
    next = { scanner with bracket := next.bracket } := by
  unfold find at h
  cases h
  rfl

theorem Scanner.isNext_of_find {scanner next : Scanner} (hname : scanner.name.Plain) {place : Nat}
    {form : TagForm} {answer : Option Occurrence}
    (hlast : KnownBracket scanner.text place scanner.bracket)
    (h : scanner.find place form = (answer, next)) :
    IsNext scanner.name scanner.limit form scanner.text place (answer, next.bracket) := by
  have hnext := find_isNext hname hlast form
  rwa [h] at hnext

namespace Walk

variable {name : TagName} {limit : Int} {text : Text}

theorem read?_selfClosingTags (s : Text) : (selfClosingTags name limit).read? s =
    (tagAtStart? name limit .selfClosing s).map fun p => (p.1, [], p.2) := rfl

theorem read?_pairs_of_no_tag {s : Text} (h : tagAtStart? name limit .opening s = none) :
    (pairs name limit).read? s = none := by
  show pairAtStart? name limit s = none
  rw [pairAtStart?, h]

theorem read?_pairs_of_tag {s a inside : Text}
    (h : tagAtStart? name limit .opening s = some (a, inside)) :
    (pairs name limit).read? s =
      (Text.cut? name.closing inside).map fun p => (a, p.1, p.2) := by
  show pairAtStart? name limit s = _
  rw [pairAtStart?, h]

/-- No pair starts where the first opening tag stands, or later, once no closing half follows. -/
theorem read?_pairs_of_unclosed {i start b : Nat}
    (hb : FirstBracket text (start + name.head.length) b)
    (hcut : Text.cut? name.closing (text.drop (b + 1)) = none) (hi : start ≤ i) :
    (pairs name limit).read? (text.drop i) = none := by
  cases htag : tagAtStart? name limit .opening (text.drop i) with
  | none => exact read?_pairs_of_no_tag htag
  | some p =>
    obtain ⟨a, inside⟩ := p
    obtain ⟨b', hb', rfl⟩ := exists_bracket_of_tagAtStart? htag
    have hle : b ≤ b' := hb.le_of_le hb' (by omega)
    have hnone := Text.cut?_drop_eq_none hcut (b' - b)
    rw [List.drop_drop, show b + 1 + (b' - b) = b' + 1 by omega] at hnone
    rw [read?_pairs_of_tag htag, hnone]
    rfl

variable {m : Type → Type} [Monad m] [LawfulMonad m] {reader : Reader} {replace : Replacement m}

/-- What is read first from a place on is replaced, and the text before it is copied. -/
theorem rewrite_at {place start stop : Nat} {a body : Text} (hle : place ≤ start)
    (hlength : start ≤ text.length)
    (hskip : ∀ i, place ≤ i → i < start → reader.read? (text.drop i) = none)
    (hread : reader.read? (text.drop start) = some (a, body, text.drop stop)) :
    rewrite reader replace (text.drop place) = do
      let replaced ← replace (Attributes.parse a) body
      let kept ← rewrite reader replace (text.drop stop)
      return slice text place start ++ replaced ++ kept := by
  have hcopy : rewrite reader replace (text.drop place) =
      (slice text place start ++ ·) <$> rewrite reader replace (text.drop start) := by
    have hn : start - place ≤ (text.drop place).length := by
      rw [List.length_drop]
      omega
    rw [rewrite_skip hn, List.drop_drop, Nat.add_sub_cancel' hle, slice, List.drop_take]
    intro i hi
    rw [List.drop_drop]
    exact hskip (place + i) (Nat.le_add_right place i) (by omega)
  rw [hcopy, rewrite_of_some hread]
  simp only [map_bind, map_pure, List.append_assoc]

end Walk

/-! ## The passes -/

variable {m : Type → Type} [Monad m] [LawfulMonad m]

theorem expandSelfClosing_eq_walk (replace : Replacement m) {scanner : Scanner}
    (hname : scanner.name.Plain) {place : Nat}
    (hlast : KnownBracket scanner.text place scanner.bracket) :
    expandSelfClosing replace scanner place =
      Walk.expandSelfClosing scanner.name scanner.limit replace (scanner.text.drop place) := by
  unfold Walk.expandSelfClosing
  fun_induction expandSelfClosing replace scanner place with
  | case1 scanner place next h =>
    have hnone := Scanner.isNext_of_find hname hlast h
    rw [Walk.rewrite_of_all_none]
    intro i
    rw [List.drop_drop, Walk.read?_selfClosingTags, hnone (place + i) (Nat.le_add_right place i)]
    rfl
  | case2 scanner place tag next h ih =>
    obtain ⟨hnext, hlast'⟩ := Scanner.isNext_of_find hname hlast h
    have hlength := Nat.le_trans (Nat.le_of_lt hnext.start_lt_stop) hnext.stop_le
    have hrest := ih (by rw [Scanner.next_of_find h]; exact hname)
      (by rw [Scanner.next_of_find h]; exact hlast')
    rw [Scanner.next_of_find h] at hrest ⊢
    rw [Walk.rewrite_at hnext.le_start hlength _ _, hrest]
    · intro i hi hlt
      rw [Walk.read?_selfClosingTags, hnext.earlier i hi hlt]
      rfl
    · rw [Walk.read?_selfClosingTags, hnext.at_start]
      rfl

theorem expandPaired_eq_walk (replace : Replacement m) {scanner : Scanner}
    (hname : scanner.name.Plain) {place : Nat}
    (hlast : KnownBracket scanner.text place scanner.bracket) :
    expandPaired replace scanner place =
      Walk.expandPaired scanner.name scanner.limit replace (scanner.text.drop place) := by
  unfold Walk.expandPaired
  fun_induction expandPaired replace scanner place with
  | case1 scanner place next h =>
    have hnone := Scanner.isNext_of_find hname hlast h
    rw [Walk.rewrite_of_all_none]
    intro i
    rw [List.drop_drop]
    exact Walk.read?_pairs_of_no_tag (hnone (place + i) (Nat.le_add_right place i))
  | case2 scanner place tag next h hcut =>
    obtain ⟨hnext, -⟩ := Scanner.isNext_of_find hname hlast h
    obtain ⟨b, hb, hstop⟩ := hnext.bracket
    rw [hstop] at hcut
    rw [Walk.rewrite_of_all_none]
    intro i
    rw [List.drop_drop]
    rcases Nat.lt_or_ge (place + i) tag.start with hlt | hge
    · exact Walk.read?_pairs_of_no_tag (hnext.earlier _ (Nat.le_add_right place i) hlt)
    · exact Walk.read?_pairs_of_unclosed hb hcut hge
  | case3 scanner place tag next h body rest hcut ih =>
    obtain ⟨hnext, hlast'⟩ := Scanner.isNext_of_find hname hlast h
    have hlength := Nat.le_trans (Nat.le_of_lt hnext.start_lt_stop) hnext.stop_le
    have hrest := ih (by rw [Scanner.next_of_find h]; exact hname)
      (by rw [Scanner.next_of_find h]; exact hlast'.later (by omega))
    rw [Scanner.next_of_find h] at hrest ⊢
    rw [Walk.rewrite_at hnext.le_start hlength _ _, hrest]
    · intro i hi hlt
      exact Walk.read?_pairs_of_no_tag (hnext.earlier i hi hlt)
    · have hbehind : scanner.text.drop (tag.stop + body.length + scanner.name.closing.length) =
          rest := by
        rw [← List.drop_drop, ← List.drop_drop, Text.append_of_cut? hcut, List.append_assoc,
          List.drop_left, List.drop_left]
      rw [Walk.read?_pairs_of_tag hnext.at_start, hcut, hbehind]
      rfl

/-- Both passes, with scanners that are new and remember nothing. -/
theorem expand_eq_walk (replace : Replacement m) {name : TagName} (hname : name.Plain)
    (limit : Int) (text : Text) :
    expand name limit replace text = Walk.expand name limit replace text := by
  have hfirst : expandSelfClosing replace { text := text, name := name, limit := limit } 0 =
      Walk.expandSelfClosing name limit replace text :=
    expandSelfClosing_eq_walk replace hname (knownBracket_none text 0)
  have hsecond : ∀ once, expandPaired replace { text := once, name := name, limit := limit } 0 =
      Walk.expandPaired name limit replace once :=
    fun once => expandPaired_eq_walk replace hname (knownBracket_none once 0)
  simp only [expand, Walk.expand, hfirst, hsecond]

end ContentFilters.Tag
