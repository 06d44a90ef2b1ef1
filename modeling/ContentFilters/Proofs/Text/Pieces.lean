import ContentFilters.Proofs.Text.Cutting

/-!
# Pieces of a text

A text that was joined from pieces can be taken apart again: at the separator, if it stands in none
of the pieces, and behind a piece, if the pattern looked for starts nowhere in it. Whether it does
is decided for a piece by itself, whatever follows it, so that pieces can be judged one by one.
-/
namespace ContentFilters.Text

/-! ## Joining and splitting -/

theorem join_cons_cons (separator first next : Text) (rest : List Text) :
    join separator (first :: next :: rest) =
      first ++ (separator ++ join separator (next :: rest)) := by
  simp [join, List.intercalate]

theorem join_singleton (separator piece : Text) : join separator [piece] = piece := by
  simp [join, List.intercalate]

/-- What the separator and all pieces have, and what appending keeps, a joined text has. -/
theorem join_induction {P : Text → Prop} {separator : Text} {pieces : List Text} (hnil : P [])
    (happend : ∀ s t, P s → P t → P (s ++ t)) (hseparator : P separator)
    (h : ∀ piece ∈ pieces, P piece) : P (join separator pieces) := by
  induction pieces with
  | nil => exact hnil
  | cons piece rest ih =>
    obtain ⟨hpiece, hrest⟩ := List.forall_mem_cons.mp h
    cases rest with
    | nil =>
      rw [join_singleton]
      exact hpiece
    | cons next rest =>
      rw [join_cons_cons]
      exact happend _ _ hpiece (happend _ _ hseparator (ih hrest))

theorem splitOn_of_not_mem {d : Char} {s : Text} (h : d ∉ s) : splitOn d s = [s] := by
  induction s with
  | nil => rfl
  | cons c rest ih =>
    obtain ⟨hc, hrest⟩ := not_or.mp (mt List.mem_cons.mpr h)
    rw [splitOn, if_neg (Ne.symm hc), ih hrest]

theorem splitOn_append {d : Char} {s : Text} (h : d ∉ s) (t : Text) :
    splitOn d (s ++ d :: t) = s :: splitOn d t := by
  induction s with
  | nil => rw [List.nil_append, splitOn, if_pos rfl]
  | cons c rest ih =>
    obtain ⟨hc, hrest⟩ := not_or.mp (mt List.mem_cons.mpr h)
    rw [List.cons_append, splitOn, if_neg (Ne.symm hc), ih hrest]

/-- Splitting at the separator gives the pieces back. -/
theorem splitOn_join {d : Char} {pieces : List Text} (hne : pieces ≠ [])
    (h : ∀ piece ∈ pieces, d ∉ piece) : splitOn d (join [d] pieces) = pieces := by
  induction pieces with
  | nil => exact absurd rfl hne
  | cons piece rest ih =>
    obtain ⟨hpiece, hrest⟩ := List.forall_mem_cons.mp h
    cases rest with
    | nil => rw [join_singleton, splitOn_of_not_mem hpiece]
    | cons next rest =>
      have hnext := ih (List.cons_ne_nil next rest) hrest
      rw [join_cons_cons, List.singleton_append, splitOn_append hpiece, hnext]

/-! ## Patterns that start nowhere -/

/-- Whether two texts have different characters at some place that both have. -/
def differs : Text → Text → Bool
  | a :: as, b :: bs => a ≠ b || differs as bs
  | _, _ => false

/-- Whether a pattern starts nowhere in a text, whatever stands behind the text. -/
def avoids (pattern : Text) : Text → Bool
  | [] => true
  | c :: rest => differs pattern (c :: rest) && avoids pattern rest

theorem differs_append {pattern s : Text} (h : differs pattern s = true) (t : Text) :
    differs pattern (s ++ t) = true := by
  induction pattern generalizing s with
  | nil => cases h
  | cons p ps ih =>
    cases s with
    | nil => cases h
    | cons c cs =>
      simp only [differs, Bool.or_eq_true] at h
      simp only [List.cons_append, differs, Bool.or_eq_true]
      exact h.imp_right ih

theorem after?_of_differs {pattern s : Text} (h : differs pattern s = true) :
    after? pattern s = none := by
  induction pattern generalizing s with
  | nil => cases h
  | cons p ps ih =>
    cases s with
    | nil => cases h
    | cons c cs =>
      simp only [differs, Bool.or_eq_true, decide_eq_true_eq] at h
      by_cases hpc : p = c
      · rw [after?, if_pos hpc]
        exact ih (h.resolve_left fun hne => hne hpc)
      · exact after?_eq_none_of_head_ne ps cs hpc

theorem avoids_append {pattern s t : Text} (hs : avoids pattern s = true)
    (ht : avoids pattern t = true) : avoids pattern (s ++ t) = true := by
  induction s with
  | nil => exact ht
  | cons c rest ih =>
    simp only [avoids, Bool.and_eq_true] at hs
    simp only [List.cons_append, avoids, Bool.and_eq_true]
    exact ⟨differs_append hs.1 t, ih hs.2⟩

theorem avoids_of_not_mem {p : Char} {s : Text} (h : p ∉ s) (ps : Text) :
    avoids (p :: ps) s = true := by
  induction s with
  | nil => rfl
  | cons c rest ih =>
    obtain ⟨hc, hrest⟩ := not_or.mp (mt List.mem_cons.mpr h)
    simp [avoids, differs, hc, ih hrest]

theorem avoids_join {pattern separator : Text} {pieces : List Text}
    (hseparator : avoids pattern separator = true)
    (h : ∀ piece ∈ pieces, avoids pattern piece = true) :
    avoids pattern (join separator pieces) = true :=
  join_induction (P := fun s => avoids pattern s = true) rfl (fun _ _ => avoids_append) hseparator h

theorem after?_drop_of_avoids {pattern s : Text} (h : avoids pattern s = true) (t : Text) {i : Nat}
    (hi : i < s.length) : after? pattern ((s ++ t).drop i) = none := by
  induction s generalizing i with
  | nil => exact absurd hi (Nat.not_lt_zero i)
  | cons c rest ih =>
    simp only [avoids, Bool.and_eq_true] at h
    cases i with
    | zero => exact after?_of_differs (differs_append h.1 t)
    | succ i => exact ih h.2 (Nat.lt_of_succ_lt_succ hi)

/-- A text in which a pattern starts nowhere is what is cut off in front of the pattern. -/
theorem cut?_of_avoids {pattern s : Text} (h : avoids pattern s = true) (t : Text) :
    cut? pattern (s ++ pattern ++ t) = some (s, t) := by
  refine cut?_append t fun i hi => ?_
  rw [List.append_assoc]
  exact after?_drop_of_avoids h _ hi

theorem cut?_eq_none_of_avoids {pattern s : Text} (hne : pattern ≠ [])
    (h : avoids pattern s = true) : cut? pattern s = none := by
  rw [cut?_eq_none]
  intro i
  rcases Nat.lt_or_ge i s.length with hi | hi
  · have hnone := after?_drop_of_avoids h [] hi
    rwa [List.append_nil] at hnone
  · rw [List.drop_eq_nil_of_le hi]
    cases pattern with
    | nil => exact absurd rfl hne
    | cons p ps => rfl

end ContentFilters.Text
