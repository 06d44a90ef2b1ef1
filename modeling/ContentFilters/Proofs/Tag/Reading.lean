import ContentFilters.Proofs.Text.Cutting
import ContentFilters.Tag.Walk

/-!
# What the plain reading accepts

The tags and pairs that a text may start with, spelled out as concatenations, and the walk that
replaces them: it copies what nothing starts in, and where something starts it replaces that and
goes on behind it.
-/
namespace ContentFilters.Tag

/-- What stands between the attribute text and the closing bracket. -/
def TagForm.ending : TagForm → Text
  | selfClosing => ['/']
  | opening => []

structure Acceptable (limit : Int) (a : Text) : Prop where
  unclosed : '>' ∉ a
  length_le : (a.length : Int) ≤ limit + 1
  lead : a = [] ∨ a.head? = some ' ' ∨ a.head? = some '\t'

theorem startsBlank_iff {a : Text} :
    startsBlank a = true ↔ a = [] ∨ a.head? = some ' ' ∨ a.head? = some '\t' := by
  cases a with
  | nil => simp [startsBlank]
  | cons c rest => simp [startsBlank]

theorem attributeText?_eq_some {limit : Int} {form : TagForm} {inner a : Text} :
    attributeText? limit form inner = some a ↔
      inner = a ++ form.ending ∧ (a.length : Int) ≤ limit + 1 ∧ startsBlank a = true := by
  unfold attributeText?
  rw [Option.filter_eq_some_iff, Bool.and_eq_true, decide_eq_true_eq]
  refine and_congr_left fun _ => ?_
  cases form with
  | selfClosing =>
    simp only [TagForm.ending]
    constructor
    · intro h
      split at h
      · next hlast =>
        cases h
        obtain ⟨front, rfl⟩ := List.getLast?_eq_some_iff.mp hlast
        rw [List.dropLast_concat]
      · cases h
    · rintro rfl
      simp
  | opening =>
    simp only [TagForm.ending, List.append_nil, Option.some.injEq]

namespace Walk

/-- After an acceptable attribute text the name in the head has ended. -/
theorem endsName_append {limit : Int} {a : Text} (h : Acceptable limit a) (form : TagForm)
    (rest : Text) : endsName (a ++ form.ending ++ '>' :: rest) = true := by
  cases a with
  | nil => cases form <;> rfl
  | cons c cs =>
    have hlead := h.lead
    simp only [reduceCtorEq, List.head?_cons, Option.some.injEq, false_or] at hlead
    rcases hlead with rfl | rfl <;> rfl

theorem tagAtStart?_eq_some {name : TagName} {limit : Int} {form : TagForm} {s a rest : Text} :
    tagAtStart? name limit form s = some (a, rest) ↔
      s = name.head ++ a ++ form.ending ++ '>' :: rest ∧ Acceptable limit a := by
  constructor
  · intro h
    unfold tagAtStart? at h
    split at h
    · cases h
    · next after hhead =>
      split at h
      · cases h
      · next inner r hcut =>
        obtain ⟨t, ht, he⟩ := Option.map_eq_some_iff.mp h
        cases he
        have hs := Text.append_of_after? (Option.filter_eq_some_iff.mp hhead).1
        obtain ⟨hafter, hbracket⟩ := Text.cutAt?_eq_some.mp hcut
        obtain ⟨rfl, hlength, hblank⟩ := attributeText?_eq_some.mp ht
        refine ⟨?_, ⟨?_, hlength, startsBlank_iff.mp hblank⟩⟩
        · rw [hs, hafter, List.append_assoc, List.append_assoc, List.append_assoc]
        · exact fun hmem => hbracket (List.mem_append_left _ hmem)
  · rintro ⟨rfl, ha⟩
    have hbracket : '>' ∉ a ++ form.ending := by
      have hending : '>' ∉ form.ending := by cases form <;> decide
      simp [ha.unclosed, hending]
    have hhead : (Text.after? name.head (name.head ++ a ++ form.ending ++ '>' :: rest)).filter
        endsName = some (a ++ form.ending ++ '>' :: rest) := by
      rw [Option.filter_eq_some_iff, Text.after?_eq_some]
      exact ⟨by simp only [List.append_assoc], endsName_append ha form rest⟩
    have htext : attributeText? limit form (a ++ form.ending) = some a :=
      attributeText?_eq_some.mpr ⟨rfl, ha.length_le, startsBlank_iff.mpr ha.lead⟩
    unfold tagAtStart?
    simp only [hhead, Text.cutAt?_append hbracket, htext, Option.map_some]

theorem read?_selfClosingTags_eq_some {name : TagName} {limit : Int} {s a body rest : Text} :
    (selfClosingTags name limit).read? s = some (a, body, rest) ↔
      s = name.head ++ a ++ ['/', '>'] ++ rest ∧ body = [] ∧ Acceptable limit a := by
  have hread : (selfClosingTags name limit).read? s = some (a, body, rest) ↔
      tagAtStart? name limit .selfClosing s = some (a, rest) ∧ body = [] := by
    simp only [selfClosingTags, Option.map_eq_some_iff, Prod.mk.injEq, Prod.exists]
    constructor
    · rintro ⟨a', rest', h, rfl, rfl, rfl⟩
      exact ⟨h, rfl⟩
    · rintro ⟨h, rfl⟩
      exact ⟨a, rest, h, rfl, rfl, rfl⟩
  rw [hread, tagAtStart?_eq_some, TagForm.ending]
  simp only [List.append_assoc, List.cons_append, List.nil_append]
  rw [and_assoc, and_comm (a := Acceptable limit a)]

theorem read?_pairs_eq_some {name : TagName} {limit : Int} {s a body rest : Text} :
    (pairs name limit).read? s = some (a, body, rest) ↔
      s = name.head ++ a ++ ['>'] ++ body ++ name.closing ++ rest ∧ Acceptable limit a ∧
        ∀ i < body.length, ¬ name.closing <+: (body ++ name.closing ++ rest).drop i := by
  have hopening : ∀ inside, tagAtStart? name limit .opening s = some (a, inside) ↔
      s = name.head ++ a ++ '>' :: inside ∧ Acceptable limit a := by
    intro inside
    rw [tagAtStart?_eq_some, TagForm.ending, List.append_nil]
  have hconcat : name.head ++ a ++ ['>'] ++ body ++ name.closing ++ rest =
      name.head ++ a ++ '>' :: (body ++ name.closing ++ rest) := by
    simp only [List.append_assoc, List.cons_append, List.nil_append]
  simp only [← Text.after?_eq_none]
  rw [hconcat]
  show pairAtStart? name limit s = _ ↔ _
  unfold pairAtStart?
  constructor
  · intro h
    split at h
    · cases h
    · next t inside ht =>
      obtain ⟨⟨b, r⟩, hcut, he⟩ := Option.map_eq_some_iff.mp h
      cases he
      obtain ⟨rfl, hfirst⟩ := Text.cut?_eq_some.mp hcut
      obtain ⟨hs, ha⟩ := (hopening _).mp ht
      exact ⟨hs, ha, hfirst⟩
  · rintro ⟨hs, ha, hfirst⟩
    rw [(hopening _).mpr ⟨hs, ha⟩]
    simp only [Text.cut?_append rest hfirst, Option.map_some]

/-! ## Walking -/

section Rewriting

variable {m : Type → Type} [Monad m] {reader : Reader} {replace : Replacement m}

theorem rewrite_nil : rewrite reader replace [] = pure [] := by rw [rewrite]

theorem rewrite_cons_of_none {c : Char} {rest : Text} (h : reader.read? (c :: rest) = none) :
    rewrite reader replace (c :: rest) =
      do let kept ← rewrite reader replace rest; return c :: kept := by
  rw [rewrite]
  split
  · rfl
  · next hsome => rw [h] at hsome; cases hsome

theorem rewrite_of_some {s a body after : Text} (h : reader.read? s = some (a, body, after)) :
    rewrite reader replace s = do
      let replaced ← replace (Attributes.parse a) body
      let kept ← rewrite reader replace after
      return replaced ++ kept := by
  cases s with
  | nil => exact absurd (reader.shorter h) (Nat.not_lt_zero _)
  | cons c rest =>
    rw [rewrite]
    split
    · next hnone => rw [h] at hnone; cases hnone
    · next hsome =>
      rw [h] at hsome
      cases hsome
      rfl

/-- Positions where nothing is read are copied. -/
theorem rewrite_skip [LawfulMonad m] {n : Nat} {s : Text} (hn : n ≤ s.length)
    (h : ∀ i < n, reader.read? (s.drop i) = none) :
    rewrite reader replace s = (s.take n ++ ·) <$> rewrite reader replace (s.drop n) := by
  induction n generalizing s with
  | zero => simp
  | succ n ih =>
    cases s with
    | nil => cases hn
    | cons c rest =>
      have hrest := ih (Nat.le_of_succ_le_succ hn) fun i hi => h (i + 1) (Nat.succ_lt_succ hi)
      rw [rewrite_cons_of_none (h 0 (Nat.succ_pos n)), hrest]
      simp

/-- A text in which nothing is read stays as it is. -/
theorem rewrite_of_all_none [LawfulMonad m] {s : Text} (h : ∀ i, reader.read? (s.drop i) = none) :
    rewrite reader replace s = pure s := by
  rw [rewrite_skip (Nat.le_refl _) fun i _ => h i]
  simp [rewrite_nil]

end Rewriting

end Walk

end ContentFilters.Tag
