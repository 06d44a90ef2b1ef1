import ContentFilters.Text.Basic

/-!
# Where a text is cut

The searches for a pattern and for a character, each described completely: what they find is an
occurrence, nothing before it is one, and they find nothing only where there is nothing.
-/
namespace ContentFilters.Text

theorem after?_eq_some {pattern s rest : Text} :
    after? pattern s = some rest ↔ s = pattern ++ rest := by
  constructor
  · exact append_of_after?
  · rintro rfl
    exact after?_append pattern rest

theorem after?_eq_none {pattern s : Text} : after? pattern s = none ↔ ¬ pattern <+: s := by
  rw [← Option.not_isSome_iff_eq_none, Option.isSome_iff_exists]
  refine not_congr ⟨?_, ?_⟩
  · rintro ⟨rest, h⟩
    exact ⟨rest, (after?_eq_some.mp h).symm⟩
  · rintro ⟨rest, h⟩
    exact ⟨rest, after?_eq_some.mpr h.symm⟩

/-- A pattern does not stand where its first character does not. -/
theorem after?_eq_none_of_head_ne {p c : Char} (ps cs : Text) (h : p ≠ c) :
    after? (p :: ps) (c :: cs) = none := by
  rw [after?, if_neg h]

/-! ## A character -/

theorem cutAt?_eq_none {d : Char} {s : Text} : cutAt? d s = none ↔ d ∉ s := by
  induction s with
  | nil => simp [cutAt?]
  | cons c rest ih =>
    by_cases hc : c = d
    · simp [cutAt?, hc]
    · simp [cutAt?, hc, Ne.symm hc, ih]

theorem cutAt?_append {d : Char} {before : Text} (h : d ∉ before) (after : Text) :
    cutAt? d (before ++ d :: after) = some (before, after) := by
  induction before with
  | nil => simp [cutAt?]
  | cons c rest ih =>
    obtain ⟨hc, hrest⟩ := not_or.mp (mt List.mem_cons.mpr h)
    simp [cutAt?, Ne.symm hc, ih hrest]

theorem not_mem_of_cutAt? {d : Char} {s before after : Text}
    (h : cutAt? d s = some (before, after)) : d ∉ before := by
  induction s generalizing before with
  | nil => simp [cutAt?] at h
  | cons c rest ih =>
    unfold cutAt? at h
    split at h
    · obtain ⟨rfl, -⟩ := Prod.mk.inj (Option.some.inj h)
      exact List.not_mem_nil
    · next hc =>
      obtain ⟨⟨b, a⟩, hb, he⟩ := Option.map_eq_some_iff.mp h
      obtain ⟨rfl, rfl⟩ := Prod.mk.inj he
      rw [List.mem_cons, not_or]
      exact ⟨Ne.symm hc, ih hb⟩

theorem cutAt?_eq_some {d : Char} {s before after : Text} :
    cutAt? d s = some (before, after) ↔ s = before ++ d :: after ∧ d ∉ before := by
  constructor
  · intro h
    exact ⟨append_of_cutAt? h, not_mem_of_cutAt? h⟩
  · rintro ⟨rfl, h⟩
    exact cutAt?_append h after

/-- A text is cut at the last occurrence of a character: there is none behind it. -/
theorem cutAtLast?_eq_some {d : Char} {s before after : Text} :
    cutAtLast? d s = some (before, after) ↔ s = before ++ d :: after ∧ d ∉ after := by
  have hreverse : cutAtLast? d s = some (before, after) ↔
      cutAt? d s.reverse = some (after.reverse, before.reverse) := by
    unfold cutAtLast?
    rw [Option.map_eq_some_iff]
    constructor
    · rintro ⟨⟨back, front⟩, hcut, he⟩
      cases he
      rw [hcut, List.reverse_reverse, List.reverse_reverse]
    · intro hcut
      exact ⟨_, hcut, by rw [List.reverse_reverse, List.reverse_reverse]⟩
  rw [hreverse, cutAt?_eq_some, List.mem_reverse, List.reverse_eq_iff]
  simp only [List.reverse_append, List.reverse_cons, List.reverse_reverse, List.append_assoc,
    List.singleton_append]

/-! ## A pattern -/

theorem cut?_eq_none {pattern s : Text} :
    cut? pattern s = none ↔ ∀ i, after? pattern (s.drop i) = none := by
  induction s with
  | nil =>
    cases pattern with
    | nil => simp [cut?, after?]
    | cons p ps => simp [cut?, after?]
  | cons c rest ih =>
    unfold cut?
    cases h : after? pattern (c :: rest) with
    | some after =>
      simp only [reduceCtorEq, false_iff]
      intro hall
      exact absurd ((hall 0).symm.trans h) (by simp)
    | none =>
      simp only [Option.map_eq_none_iff, ih]
      constructor
      · intro hrest i
        cases i with
        | zero => exact h
        | succ i => exact hrest i
      · intro hall i
        exact hall (i + 1)

/-- What is cut off in front holds no earlier occurrence. -/
theorem after?_drop_of_cut? {pattern s before after : Text}
    (h : cut? pattern s = some (before, after)) {i : Nat} (hi : i < before.length) :
    after? pattern (s.drop i) = none := by
  induction s generalizing before i with
  | nil =>
    unfold cut? at h
    split at h
    · cases h
      exact absurd hi (Nat.not_lt_zero i)
    · cases h
  | cons c rest ih =>
    unfold cut? at h
    split at h
    · cases h
      exact absurd hi (Nat.not_lt_zero i)
    · next hfirst =>
      obtain ⟨⟨b, a⟩, hb, he⟩ := Option.map_eq_some_iff.mp h
      obtain ⟨rfl, rfl⟩ := Prod.mk.inj he
      cases i with
      | zero => exact hfirst
      | succ i => exact ih hb (Nat.lt_of_succ_lt_succ hi)

/-- A text is cut at an occurrence with no earlier one. -/
theorem cut?_append {pattern before : Text} (after : Text)
    (h : ∀ i < before.length, after? pattern ((before ++ pattern ++ after).drop i) = none) :
    cut? pattern (before ++ pattern ++ after) = some (before, after) := by
  induction before with
  | nil =>
    rw [List.nil_append]
    cases hs : pattern ++ after with
    | nil =>
      obtain ⟨rfl, rfl⟩ := List.append_eq_nil_iff.mp hs
      rfl
    | cons c rest =>
      have hfound : after? pattern (c :: rest) = some after := by rw [← hs, after?_append]
      rw [cut?, hfound]
  | cons c rest ih =>
    have hfirst : after? pattern (c :: (rest ++ pattern ++ after)) = none := h 0 (by simp)
    have hrest := ih fun i hi => h (i + 1) (Nat.succ_lt_succ hi)
    rw [List.cons_append, List.cons_append, cut?, hfirst, hrest]
    rfl

theorem cut?_eq_some {pattern s before after : Text} :
    cut? pattern s = some (before, after) ↔
      s = before ++ pattern ++ after ∧ ∀ i < before.length, after? pattern (s.drop i) = none := by
  constructor
  · intro h
    exact ⟨append_of_cut? h, fun i hi => after?_drop_of_cut? h hi⟩
  · rintro ⟨rfl, h⟩
    exact cut?_append after h

/-- A pattern that does not occur in a text does not occur at its end. -/
theorem cut?_drop_eq_none {pattern s : Text} (h : cut? pattern s = none) (n : Nat) :
    cut? pattern (s.drop n) = none := by
  rw [cut?_eq_none] at h ⊢
  intro i
  rw [List.drop_drop]
  exact h (n + i)

theorem cutAt?_suffix {d : Char} {s before after : Text}
    (h : cutAt? d s = some (before, after)) : after <:+ s := by
  rw [append_of_cutAt? h]
  exact (List.suffix_cons d after).trans (List.suffix_append before (d :: after))

/-- A pattern occurs where an end of the text begins with it. -/
theorem occursIn_of_suffix {pattern s : Text} (rest : Text) (h : pattern ++ rest <:+ s) :
    occursIn pattern s = true := by
  obtain ⟨before, rfl⟩ := h
  unfold occursIn
  cases hcut : cut? pattern (before ++ (pattern ++ rest)) with
  | some parts => rfl
  | none =>
    have hnone := cut?_eq_none.mp hcut before.length
    rw [List.drop_left, after?_append] at hnone
    cases hnone

end ContentFilters.Text
