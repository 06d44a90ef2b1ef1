import ContentFilters.Proofs.Tag.AttributeValues
import Mathlib.Data.List.Infix

/-!
# Attributes of any text

The attribute text of a tag is whatever its author left there: a quote may stand open, the two kinds
may be mixed, and a value of one kind may hold what looks like a pair of the other. Nothing can be
said then about what was meant, but what is read is still determined. A reading takes up the
leftmost pair of its kind, then the leftmost one behind it, and so on; `Scan` is this rule, and it
speaks of pairs as parts of the text only. So no attribute is read that does not stand in the text,
and no attribute at all is read only where no pair stands.
-/
namespace ContentFilters.Tag.Attributes

structure IsPair (quote : Char) (key value : Text) : Prop where
  key_ne_nil : key ≠ []
  key_chars : ∀ c ∈ key, Text.isBlank c = false ∧ c ≠ '='
  value_closed : quote ∉ value

def pairText (quote : Char) (key value : Text) : Text := key ++ '=' :: quote :: value ++ [quote]

def BeginsWithPair (quote : Char) (s : Text) : Prop :=
  ∃ key value, IsPair quote key value ∧ pairText quote key value <+: s

/-- A pair stands somewhere in a text. -/
def Occurs (quote : Char) (key value s : Text) : Prop :=
  IsPair quote key value ∧ pairText quote key value <:+: s

def HoldsPair (quote : Char) (s : Text) : Prop := ∃ key value, Occurs quote key value s

variable {quote : Char} {s : Text} {found : List (Text × Text)}

theorem pairText_append (quote : Char) (key value after : Text) :
    pairText quote key value ++ after = key ++ '=' :: quote :: (value ++ quote :: after) := by
  simp only [pairText, List.append_assoc, List.cons_append, List.nil_append]

theorem not_holdsPair_nil : ¬ HoldsPair quote [] := by
  rintro ⟨key, value, -, hinside⟩
  exact absurd (List.infix_nil.mp hinside) (List.append_ne_nil_of_right_ne_nil _ (by simp))

theorem holdsPair_cons {c : Char} :
    HoldsPair quote (c :: s) ↔ BeginsWithPair quote (c :: s) ∨ HoldsPair quote s := by
  simp only [HoldsPair, Occurs, BeginsWithPair, List.infix_cons_iff, and_or_left, exists_or]

/-! ## The start of a text -/

theorem isKeyChar_iff {c : Char} : isKeyChar c = true ↔ Text.isBlank c = false ∧ c ≠ '=' := by
  simp [isKeyChar]

/-- A reading sees a pair at the start of a text just if one stands there. -/
theorem pair?_eq_some_iff {key value after : Text} :
    pair? quote s = some (key, value, after) ↔
      IsPair quote key value ∧ s = pairText quote key value ++ after := by
  constructor
  · intro h
    unfold pair? at h
    simp only at h
    split at h
    · cases h
    · next hempty =>
      split at h
      · next q rest hdrop =>
        split at h
        · next hquote =>
          obtain ⟨⟨v, a⟩, hcut, he⟩ := Option.map_eq_some_iff.mp h
          cases he
          obtain ⟨hrest, hclosed⟩ := Text.cutAt?_eq_some.mp hcut
          -- the run of key characters is the whole key: an equals sign stops it
          have hchars : ∀ c ∈ s.takeWhile isKeyChar, Text.isBlank c = false ∧ c ≠ '=' :=
            fun c hc => isKeyChar_iff.mp (List.mem_takeWhile_imp hc)
          refine ⟨⟨mt List.isEmpty_iff.mpr hempty, hchars, hclosed⟩, ?_⟩
          rw [pairText_append, ← hrest, ← hquote, ← hdrop, List.takeWhile_append_dropWhile]
        · cases h
      · cases h
  · rintro ⟨hpair, rfl⟩
    rw [pairText_append]
    exact pair?_written hpair.key_ne_nil (fun c hc => isKeyChar_iff.mpr (hpair.key_chars c hc))
      hpair.value_closed after

theorem beginsWithPair_iff : BeginsWithPair quote s ↔ ∃ found, pair? quote s = some found := by
  constructor
  · rintro ⟨key, value, hpair, after, rfl⟩
    exact ⟨(key, value, after), pair?_eq_some_iff.mpr ⟨hpair, rfl⟩⟩
  · rintro ⟨⟨key, value, after⟩, h⟩
    obtain ⟨hpair, rfl⟩ := pair?_eq_some_iff.mp h
    exact ⟨key, value, hpair, after, rfl⟩

theorem pair?_eq_none_iff : pair? quote s = none ↔ ¬ BeginsWithPair quote s := by
  rw [beginsWithPair_iff, ← Option.isSome_iff_exists, Option.not_isSome_iff_eq_none]

/-! ## From pair to pair -/

/-- The pairs that are taken up from a text: each is the leftmost one behind the one before it. -/
inductive Scan (quote : Char) : Text → List (Text × Text) → Prop
  | done {s : Text} : ¬ HoldsPair quote s → Scan quote s []
  | next {before key value after : Text} {found : List (Text × Text)} :
      (∀ i < before.length,
        ¬ BeginsWithPair quote ((before ++ (pairText quote key value ++ after)).drop i)) →
      IsPair quote key value → Scan quote after found →
      Scan quote (before ++ (pairText quote key value ++ after)) ((key, value) :: found)

theorem Scan.at_start {key value after : Text} (hpair : IsPair quote key value)
    (h : Scan quote after found) :
    Scan quote (pairText quote key value ++ after) ((key, value) :: found) := by
  rw [← List.nil_append (pairText quote key value ++ after)]
  exact .next (fun i hi => absurd hi (Nat.not_lt_zero i)) hpair h

theorem Scan.cons {c : Char} (hnone : ¬ BeginsWithPair quote (c :: s)) (h : Scan quote s found) :
    Scan quote (c :: s) found := by
  cases h with
  | done hempty =>
    apply Scan.done
    rw [holdsPair_cons]
    exact not_or.mpr ⟨hnone, hempty⟩
  | @next before _ _ _ _ hleft hpair hrest =>
    rw [← List.cons_append]
    refine .next ?_ hpair hrest
    intro i hi
    cases i with
    | zero => exact hnone
    | succ i => exact hleft i (Nat.lt_of_succ_lt_succ hi)

theorem scan_pairs (quote : Char) (s : Text) : Scan quote s (pairs quote s) := by
  -- along the reading: a pair right at its place is the next one, and else it moves by a character
  fun_induction pairs quote s with
  | case1 => exact .done not_holdsPair_nil
  | case2 c rest key value after hpair ih =>
    obtain ⟨hpair, htext⟩ := pair?_eq_some_iff.mp hpair
    rw [htext]
    exact ih.at_start hpair
  | case3 c rest hnone ih => exact ih.cons (pair?_eq_none_iff.mp hnone)

/-- What stands before the leftmost pair is passed over. -/
theorem pairs_append_of_not_begins {before : Text}
    (h : ∀ i < before.length, ¬ BeginsWithPair quote ((before ++ s).drop i)) :
    pairs quote (before ++ s) = pairs quote s := by
  induction before with
  | nil => rfl
  | cons c before ih =>
    have hfirst : ¬ BeginsWithPair quote (c :: (before ++ s)) := h 0 (Nat.zero_lt_succ _)
    rw [List.cons_append, pairs_cons, pair?_eq_none_iff.mpr hfirst]
    exact ih fun i hi => h (i + 1) (Nat.succ_lt_succ hi)

theorem pairs_of_not_holdsPair (h : ¬ HoldsPair quote s) : pairs quote s = [] := by
  induction s with
  | nil => exact pairs_nil quote
  | cons c rest ih =>
    obtain ⟨hfirst, hrest⟩ := not_or.mp (mt holdsPair_cons.mpr h)
    rw [pairs_cons, pair?_eq_none_iff.mpr hfirst]
    exact ih hrest

theorem Scan.eq_pairs (h : Scan quote s found) : found = pairs quote s := by
  induction h with
  | done hempty => exact (pairs_of_not_holdsPair hempty).symm
  | next hleft hpair _ ih =>
    rw [pairs_append_of_not_begins hleft, pairs_of_some (pair?_eq_some_iff.mpr ⟨hpair, rfl⟩), ih]

theorem existsUnique_scan (quote : Char) (s : Text) : ∃! found, Scan quote s found :=
  ⟨pairs quote s, scan_pairs quote s, fun _ h => h.eq_pairs⟩

/-- Whatever is taken up stands in the text. -/
theorem Scan.occurs (h : Scan quote s found) : ∀ p ∈ found, Occurs quote p.1 p.2 s := by
  induction h with
  | done _ => exact fun p hp => nomatch hp
  | @next before key value after found _ hpair _ ih =>
    intro p hp
    rcases List.mem_cons.mp hp with rfl | hp
    · exact ⟨hpair, before, after, List.append_assoc _ _ _⟩
    · obtain ⟨hp, hinside⟩ := ih p hp
      refine ⟨hp, hinside.trans (List.IsSuffix.isInfix ?_)⟩
      exact (List.suffix_append _ after).trans (List.suffix_append before _)

/-- All pairs are overlooked only where there is none. -/
theorem Scan.eq_nil_iff (h : Scan quote s found) : found = [] ↔ ¬ HoldsPair quote s := by
  constructor
  · rintro rfl
    cases h with
    | done hempty => exact hempty
  · intro hempty
    rw [h.eq_pairs, pairs_of_not_holdsPair hempty]

/-! ## Both readings -/

theorem get?_of_mem {a : Attributes} (hnodup : (a.map (·.1)).Nodup) {key value : Text}
    (h : (key, value) ∈ a) : get? key a = some value := by
  induction a with
  | nil => cases h
  | cons p rest ih =>
    obtain ⟨k, v⟩ := p
    rw [List.map_cons, List.nodup_cons] at hnodup
    rcases List.mem_cons.mp h with hfirst | hrest
    · cases hfirst
      exact if_pos rfl
    · have hne : k ≠ key := by
        rintro rfl
        exact hnodup.1 (List.mem_map.mpr ⟨(k, value), hrest, rfl⟩)
      rw [get?, if_neg hne]
      exact ih hnodup.2 hrest

theorem mem_of_lastValue? {key value : Text} (h : lastValue? key found = some value) :
    (key, value) ∈ found := by
  obtain ⟨p, hlast, rfl⟩ := Option.map_eq_some_iff.mp h
  obtain ⟨hmem, hkey⟩ := List.mem_filter.mp (List.mem_of_getLast? hlast)
  rw [← of_decide_eq_true hkey]
  exact hmem

/-- Each key has its last value in single quotes, or else its last one in double quotes. -/
theorem get?_parse (key s : Text) :
    get? key (parse s) = (lastValue? key (pairs '\'' s)).or (lastValue? key (pairs '"' s)) := by
  rw [parse, get?_setAll, get?_setAll, get?, Option.or_none]

theorem mem_pairs_of_mem_parse {key value : Text} (h : (key, value) ∈ parse s) :
    (key, value) ∈ pairs '"' s ∨ (key, value) ∈ pairs '\'' s := by
  have hvalue := get?_of_mem (nodup_keys_parse s) h
  rw [get?_parse, Option.or_eq_some_iff] at hvalue
  rcases hvalue with hsingle | ⟨-, hdouble⟩
  · exact .inr (mem_of_lastValue? hsingle)
  · exact .inl (mem_of_lastValue? hdouble)

theorem mem_keys_parse {key : Text} :
    key ∈ (parse s).map (·.1) ↔
      key ∈ (pairs '"' s).map (·.1) ∨ key ∈ (pairs '\'' s).map (·.1) := by
  rw [parse, mem_keys_setAll, mem_keys_setAll, or_comm]
  simp only [List.map_nil, List.not_mem_nil, or_false]

theorem parse_eq_nil_iff : parse s = [] ↔ pairs '"' s = [] ∧ pairs '\'' s = [] := by
  have hkeys : parse s = [] ↔ ∀ key, key ∉ (parse s).map (·.1) := by
    rw [← List.eq_nil_iff_forall_not_mem, List.map_eq_nil_iff]
  simp only [hkeys, mem_keys_parse, not_or, forall_and, ← List.eq_nil_iff_forall_not_mem,
    List.map_eq_nil_iff]

/-- From any text whatever, each key is given the value of its last pair in single quotes if there
is one, and else of its last pair in double quotes. What is read stands in the text, and nothing is
read only where the text holds no pair of either kind. -/
theorem parse_scanned (s : Text) :
    (∀ quote, ∃! found, Scan quote s found) ∧
      (∀ singles doubles, Scan '\'' s singles → Scan '"' s doubles → ∀ key,
        get? key (parse s) = (lastValue? key singles).or (lastValue? key doubles)) ∧
      ((parse s).map (·.1)).Nodup ∧
      (∀ key value, (key, value) ∈ parse s → Occurs '"' key value s ∨ Occurs '\'' key value s) ∧
      (parse s = [] ↔ ¬ HoldsPair '"' s ∧ ¬ HoldsPair '\'' s) := by
  refine ⟨fun quote => existsUnique_scan quote s, ?_, nodup_keys_parse s, ?_, ?_⟩
  · intro singles doubles hsingles hdoubles key
    rw [hsingles.eq_pairs, hdoubles.eq_pairs, get?_parse]
  · intro key value h
    rcases mem_pairs_of_mem_parse h with hdouble | hsingle
    · exact .inl ((scan_pairs '"' s).occurs _ hdouble)
    · exact .inr ((scan_pairs '\'' s).occurs _ hsingle)
  · rw [parse_eq_nil_iff, (scan_pairs '"' s).eq_nil_iff, (scan_pairs '\'' s).eq_nil_iff]

/-- Three quotes are not closed where they should be, so both readings take up a value that runs
into the next pair. -/
def openQuotes : Text := "k=\"y\" d=\"x k=\"it's k='1 j='2' e=".toList

theorem parse_scanned_openQuotes :
    Scan '"' openQuotes [("k".toList, "y".toList), ("d".toList, "x k=".toList)] ∧
      Scan '\'' openQuotes [("k".toList, "1 j=".toList)] ∧
      get? "k".toList (parse openQuotes) = some "1 j=".toList ∧
      get? "d".toList (parse openQuotes) = some "x k=".toList ∧
      ("d".toList, "x k=".toList) ∈ parse openQuotes ∧
      (Occurs '"' "d".toList "x k=".toList openQuotes ∨
        Occurs '\'' "d".toList "x k=".toList openQuotes) := by
  have hdoubles : pairs '"' openQuotes =
      [("k".toList, "y".toList), ("d".toList, "x k=".toList)] := by decide +kernel
  have hsingles : pairs '\'' openQuotes = [("k".toList, "1 j=".toList)] := by decide +kernel
  have hdouble := scan_pairs '"' openQuotes
  have hsingle := scan_pairs '\'' openQuotes
  rw [hdoubles] at hdouble
  rw [hsingles] at hsingle
  have hmem : ("d".toList, "x k=".toList) ∈ parse openQuotes := by decide +kernel
  obtain ⟨-, hvalue, -, hoccurs, -⟩ := parse_scanned openQuotes
  exact ⟨hdouble, hsingle, hvalue _ _ hsingle hdouble _, hvalue _ _ hsingle hdouble _, hmem,
    hoccurs _ _ hmem⟩

/-- Values without quotes and values whose quote stays open are no attributes. -/
example : parse "a=1 b='2 c".toList = [] := by decide +kernel

end ContentFilters.Tag.Attributes
