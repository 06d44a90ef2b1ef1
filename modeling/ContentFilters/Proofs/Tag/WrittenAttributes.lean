import ContentFilters.Proofs.Text.Cutting
import ContentFilters.Tag.Attributes
import Mathlib.Data.List.TakeWhile

/-!
# Reading written attributes

Each of the two readings of an attribute text must take up the attributes with its own quote and
pass over those with the other one, from whatever position inside them it looks. A reading takes up
a pair only where a run of key characters leads to an equals sign and its own quote; `LeadsToPair`
is that condition, and in an attribute with the other quote it holds nowhere.
-/
namespace ContentFilters.Tag.Attributes

/-- A run of key characters, perhaps an empty one, leads to an equals sign and the quote. -/
inductive LeadsToPair (quote : Char) : Text → Prop
  | here (rest : Text) : LeadsToPair quote ('=' :: quote :: rest)
  | step {c : Char} {s : Text} :
      isKeyChar c = true → LeadsToPair quote s → LeadsToPair quote (c :: s)

theorem leadsToPair_append {quote : Char} {run : Text} (h : ∀ c ∈ run, isKeyChar c = true)
    (rest : Text) : LeadsToPair quote (run ++ '=' :: quote :: rest) := by
  induction run with
  | nil => exact .here rest
  | cons c run ih =>
    exact .step (h c List.mem_cons_self) (ih fun d hd => h d (List.mem_cons_of_mem c hd))

theorem leadsToPair_of_pair? {quote : Char} {s : Text} {found : Text × Text × Text}
    (h : pair? quote s = some found) : LeadsToPair quote s := by
  unfold pair? at h
  simp only at h
  split at h
  · cases h
  · split at h
    · next q rest hd =>
      split at h
      · next hq =>
        rw [← List.takeWhile_append_dropWhile (p := isKeyChar) (l := s), hd, hq]
        exact leadsToPair_append (fun c hc => List.mem_takeWhile_imp hc) rest
      · cases h
    · cases h

theorem pair?_eq_none {quote : Char} {s : Text} (h : ¬ LeadsToPair quote s) :
    pair? quote s = none := by
  cases hpair : pair? quote s with
  | none => rfl
  | some found => exact absurd (leadsToPair_of_pair? hpair) h

theorem isKeyChar_of_isBlank {c : Char} (h : Text.isBlank c = true) : isKeyChar c = false := by
  rw [isKeyChar, h]
  rfl

theorem ne_equals_of_isBlank {c : Char} (h : Text.isBlank c = true) : c ≠ '=' := by
  rintro rfl
  exact absurd h (by decide)

/-- What may follow an attribute: nothing, or the blank of the next one. -/
def EndsAttribute (rest : Text) : Prop := ∀ c ∈ rest.head?, Text.isBlank c = true

theorem EndsAttribute.not_leadsToPair {quote : Char} {rest : Text} (h : EndsAttribute rest) :
    ¬ LeadsToPair quote rest := by
  cases rest with
  | nil => exact fun hlead => nomatch hlead
  | cons c cs =>
    have hblank : Text.isBlank c = true := h c rfl
    intro hlead
    cases hlead with
    | here rest => exact ne_equals_of_isBlank hblank rfl
    | step hkey _ => exact absurd hkey (by rw [isKeyChar_of_isBlank hblank]; decide)

/-- A key leads to its own quote only. -/
theorem not_leadsToPair_key {quote other : Char} (hne : other ≠ quote) {key : Text}
    (hkey : ∀ c ∈ key, isKeyChar c = true) (rest : Text) :
    ¬ LeadsToPair quote (key ++ '=' :: other :: rest) := by
  induction key with
  | nil =>
    intro h
    cases h with
    | here rest => exact hne rfl
    | step hchar _ => exact absurd hchar (by decide)
  | cons c key ih =>
    intro h
    have hchar := hkey c List.mem_cons_self
    rw [List.cons_append] at h
    generalize htail : key ++ '=' :: other :: rest = tail at h
    cases h with
    | here rest => exact absurd hchar (by decide)
    | step _ hlead =>
      rw [← htail] at hlead
      exact ih (fun d hd => hkey d (List.mem_cons_of_mem c hd)) hlead

/-- From inside a value nothing leads to the quote of another kind. -/
theorem not_leadsToPair_value {quote other : Char} (hne : other ≠ quote) (hother : other ≠ '=')
    {value : Text} (hvalue : ¬ ['=', quote] <:+: value) {rest : Text} (hrest : EndsAttribute rest) :
    ¬ LeadsToPair quote (value ++ other :: rest) := by
  induction value with
  | nil =>
    intro h
    rw [List.nil_append] at h
    cases h with
    | here rest => exact hother rfl
    | step _ hlead => exact hrest.not_leadsToPair hlead
  | cons c value ih =>
    intro h
    rw [List.cons_append] at h
    generalize htail : value ++ other :: rest = tail at h
    cases h with
    | here after =>
      cases value with
      | nil =>
        cases htail
        exact hne rfl
      | cons d value =>
        cases htail
        exact hvalue ⟨[], value, rfl⟩
    | step _ hlead =>
      rw [← htail] at hlead
      exact ih (fun hinside => hvalue (hinside.trans (List.suffix_cons c value).isInfix)) hlead

/-! ## One attribute -/

theorem pairs_nil (quote : Char) : pairs quote [] = [] := by
  unfold pairs
  rfl

theorem pairs_cons (quote c : Char) (rest : Text) :
    pairs quote (c :: rest) =
      match pair? quote (c :: rest) with
      | some (key, value, after) => (key, value) :: pairs quote after
      | none => pairs quote rest := by
  conv => lhs; unfold pairs
  split
  · next h => simp only [h]
  · next h => simp only [h]

theorem pairs_of_none {quote c : Char} {rest : Text} (h : ¬ LeadsToPair quote (c :: rest)) :
    pairs quote (c :: rest) = pairs quote rest := by
  rw [pairs_cons, pair?_eq_none h]

theorem pairs_of_some {quote : Char} {s key value after : Text}
    (h : pair? quote s = some (key, value, after)) :
    pairs quote s = (key, value) :: pairs quote after := by
  cases s with
  | nil => exact absurd (length_of_pair? h) (Nat.not_lt_zero _)
  | cons c rest => rw [pairs_cons, h]

/-- A key with a value in quotes is taken up as it stands. -/
theorem pair?_written {quote : Char} {key value : Text} (hne : key ≠ [])
    (hkey : ∀ c ∈ key, isKeyChar c = true) (hvalue : quote ∉ value) (after : Text) :
    pair? quote (key ++ '=' :: quote :: (value ++ quote :: after)) = some (key, value, after) := by
  have htake : (key ++ '=' :: quote :: (value ++ quote :: after)).takeWhile isKeyChar = key := by
    rw [List.takeWhile_append_of_pos hkey, List.takeWhile_cons_of_neg (by decide), List.append_nil]
  have hdrop : (key ++ '=' :: quote :: (value ++ quote :: after)).dropWhile isKeyChar =
      '=' :: quote :: (value ++ quote :: after) := by
    rw [List.dropWhile_append_of_pos hkey, List.dropWhile_cons_of_neg (by decide)]
  unfold pair?
  simp only [htake, hdrop, List.isEmpty_iff, hne, if_false, if_true,
    Text.cutAt?_append hvalue after, Option.map_some]

/-- What can be read back of a written attribute: its key is a run of key characters, and its value
holds neither its own quote nor an equals sign before a quote of the other kind. -/
structure Written.Readable (w : Written) : Prop where
  gap_blank : Text.isBlank w.gap = true
  key_ne_nil : w.key ≠ []
  key_chars : ∀ c ∈ w.key, isKeyChar c = true
  known_quote : w.quote = '"' ∨ w.quote = '\''
  value_closed : w.quote ∉ w.value
  value_inert : ∀ quote, quote = '"' ∨ quote = '\'' → quote ≠ w.quote →
    ¬ ['=', quote] <:+: w.value

theorem Written.text_append (w : Written) (rest : Text) :
    w.text ++ rest = w.gap :: (w.key ++ '=' :: w.quote :: (w.value ++ w.quote :: rest)) := by
  simp only [Written.text, List.cons_append, List.append_assoc, List.nil_append]

/-- Before an attribute there is a blank, or nothing. -/
theorem endsAttribute_render {written : List Written} (h : ∀ w ∈ written, w.Readable) :
    EndsAttribute (render written) := by
  cases written with
  | nil => exact fun c hc => nomatch hc
  | cons w rest =>
    intro c hc
    cases hc
    exact (h w List.mem_cons_self).gap_blank

namespace Written.Readable

variable {w : Written} (h : w.Readable) {rest : Text}
include h

theorem not_leadsToPair_gap (quote : Char) (s : Text) : ¬ LeadsToPair quote (w.gap :: s) :=
  EndsAttribute.not_leadsToPair fun c hc => by cases hc; exact h.gap_blank

/-- The reading for its own quote takes an attribute up. -/
theorem pairs_own : pairs w.quote (w.text ++ rest) = (w.key, w.value) :: pairs w.quote rest := by
  rw [text_append, pairs_of_none (h.not_leadsToPair_gap _ _)]
  exact pairs_of_some (pair?_written h.key_ne_nil h.key_chars h.value_closed rest)

/-- The reading for the other quote passes an attribute over. -/
theorem pairs_other {quote : Char} (hquote : quote = '"' ∨ quote = '\'') (hne : quote ≠ w.quote)
    (hrest : EndsAttribute rest) : pairs quote (w.text ++ rest) = pairs quote rest := by
  have hequals : w.quote ≠ '=' := by
    rcases h.known_quote with hq | hq <;> rw [hq] <;> decide
  have hkey : ∀ key : Text, (∀ c ∈ key, isKeyChar c = true) → ∀ tail,
      pairs quote (key ++ '=' :: w.quote :: tail) = pairs quote (w.quote :: tail) := by
    intro key hchars tail
    induction key with
    | nil => exact pairs_of_none (not_leadsToPair_key (Ne.symm hne) hchars tail)
    | cons c key ih =>
      have hskip := not_leadsToPair_key (Ne.symm hne) hchars tail
      rw [List.cons_append] at hskip ⊢
      rw [pairs_of_none hskip]
      exact ih fun d hd => hchars d (List.mem_cons_of_mem c hd)
  have hvalue : ∀ value : Text, ¬ ['=', quote] <:+: value →
      pairs quote (value ++ w.quote :: rest) = pairs quote rest := by
    intro value hinert
    induction value with
    | nil => exact pairs_of_none (not_leadsToPair_value (Ne.symm hne) hequals hinert hrest)
    | cons c value ih =>
      have hskip := not_leadsToPair_value (Ne.symm hne) hequals hinert hrest
      rw [List.cons_append] at hskip ⊢
      rw [pairs_of_none hskip]
      exact ih fun hinside => hinert (hinside.trans (List.suffix_cons c value).isInfix)
  have hopen : ¬ ['=', quote] <:+: w.quote :: w.value := by
    intro hinside
    rcases List.infix_cons_iff.mp hinside with hprefix | hinside
    · exact hequals (List.cons_prefix_cons.mp hprefix).1.symm
    · exact h.value_inert quote hquote hne hinside
  rw [text_append, pairs_of_none (h.not_leadsToPair_gap _ _), hkey _ h.key_chars,
    ← List.cons_append, hvalue _ hopen]

end Written.Readable

/-! ## All attributes -/

def writtenPairs (quote : Char) (written : List Written) : List (Text × Text) :=
  (written.filter (·.quote = quote)).map fun w => (w.key, w.value)

/-- What written attributes mean: each key has its last single-quoted value, or else its last
double-quoted one. -/
def ofWritten (written : List Written) : Attributes :=
  setAll (setAll [] (writtenPairs '"' written)) (writtenPairs '\'' written)

theorem pairs_render {quote : Char} (hquote : quote = '"' ∨ quote = '\'') {written : List Written}
    (h : ∀ w ∈ written, w.Readable) :
    pairs quote (render written) = writtenPairs quote written := by
  induction written with
  | nil => exact pairs_nil quote
  | cons w rest ih =>
    have hw := h w List.mem_cons_self
    have hrest := ih fun v hv => h v (List.mem_cons_of_mem w hv)
    have hends := endsAttribute_render fun v hv => h v (List.mem_cons_of_mem w hv)
    have htext : render (w :: rest) = w.text ++ render rest := List.flatMap_cons
    rw [htext]
    by_cases hown : quote = w.quote
    · subst hown
      rw [hw.pairs_own, hrest]
      simp [writtenPairs]
    · rw [hw.pairs_other hquote hown hends, hrest]
      simp [writtenPairs, Ne.symm hown]

/-- Written attributes are read back. -/
theorem parse_render {written : List Written} (h : ∀ w ∈ written, w.Readable) :
    parse (render written) = ofWritten written := by
  rw [parse, pairs_render (.inl rfl) h, pairs_render (.inr rfl) h, ofWritten]

end ContentFilters.Tag.Attributes
