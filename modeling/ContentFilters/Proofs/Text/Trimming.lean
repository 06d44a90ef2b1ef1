import ContentFilters.Text.Basic

/-!
# What trimming leaves

A text trimmed to another is that other text with nothing but what is trimmed around it, and neither
of its ends is trimmed any further. Trimming comes to such a text, and there is no second one.
-/
namespace ContentFilters.Text

variable {p : Char → Bool} {s front core back : Text}

structure Trimmed (p : Char → Bool) (s : Text) : Prop where
  first : ∀ c, s.head? = some c → p c = false
  last : ∀ c, s.getLast? = some c → p c = false

structure TrimsTo (p : Char → Bool) (s core : Text) : Prop where
  around : ∃ front back, s = front ++ core ++ back ∧ (∀ c ∈ front, p c = true) ∧
    ∀ c ∈ back, p c = true
  trimmed : Trimmed p core

theorem trimmed_of_forall (h : ∀ c ∈ s, p c = false) : Trimmed p s where
  first c hc := h c (List.mem_of_head? hc)
  last c hc := h c (List.mem_of_getLast? hc)

/-! ## At the front -/

theorem first_dropWhile (p : Char → Bool) (s : Text) :
    ∀ c, (s.dropWhile p).head? = some c → p c = false := by
  intro c hc
  have hfirst := List.head?_dropWhile_not p s
  rwa [hc] at hfirst

theorem dropWhile_append (hfront : ∀ c ∈ front, p c = true)
    (hfirst : ∀ c, s.head? = some c → p c = false) : (front ++ s).dropWhile p = s := by
  rw [List.dropWhile_append_of_pos hfront]
  cases s with
  | nil => rfl
  | cons c rest => exact List.dropWhile_cons_of_neg (by simp [hfirst c rfl])

/-! ## At the end -/

theorem last_dropEndWhile (p : Char → Bool) (s : Text) :
    ∀ c, (dropEndWhile p s).getLast? = some c → p c = false := by
  intro c hc
  rw [dropEndWhile, List.getLast?_reverse] at hc
  exact first_dropWhile p s.reverse c hc

theorem dropEndWhile_append (hback : ∀ c ∈ back, p c = true)
    (hlast : ∀ c, s.getLast? = some c → p c = false) : dropEndWhile p (s ++ back) = s := by
  have hreverse : ∀ c ∈ back.reverse, p c = true := fun c hc => hback c (List.mem_reverse.mp hc)
  have hfirst : ∀ c, s.reverse.head? = some c → p c = false := by rwa [List.head?_reverse]
  rw [dropEndWhile, List.reverse_append, dropWhile_append hreverse hfirst, List.reverse_reverse]

/-- What is dropped at the end stands behind what is left. -/
theorem exists_append_dropEndWhile (p : Char → Bool) (s : Text) :
    ∃ back, s = dropEndWhile p s ++ back ∧ ∀ c ∈ back, p c = true := by
  refine ⟨(s.reverse.takeWhile p).reverse, ?_, fun c hc => ?_⟩
  · rw [dropEndWhile, ← List.reverse_append, List.takeWhile_append_dropWhile, List.reverse_reverse]
  · exact List.all_eq_true.mp List.all_takeWhile c (List.mem_reverse.mp hc)

/-! ## At both ends -/

theorem trimsTo_trimWhile (p : Char → Bool) (s : Text) : TrimsTo p s (trimWhile p s) := by
  obtain ⟨back, hback, hdropped⟩ := exists_append_dropEndWhile p (s.dropWhile p)
  have hfront : ∀ c ∈ s.takeWhile p, p c = true := List.all_eq_true.mp List.all_takeWhile
  refine ⟨⟨s.takeWhile p, back, ?_, hfront, hdropped⟩, fun c hc => ?_, last_dropEndWhile p _⟩
  · rw [List.append_assoc, trimWhile, ← hback, List.takeWhile_append_dropWhile]
  · -- what is dropped at the end leaves the first character in its place
    apply first_dropWhile p s c
    rw [hback, List.head?_append]
    exact congrArg (Option.or · back.head?) hc

theorem trimWhile_append (hfront : ∀ c ∈ front, p c = true) (hcore : Trimmed p core)
    (hback : ∀ c ∈ back, p c = true) : trimWhile p (front ++ core ++ back) = core := by
  rw [trimWhile, List.append_assoc]
  cases core with
  | nil =>
    have hall : ∀ c ∈ front ++ back, p c = true := List.forall_mem_append.mpr ⟨hfront, hback⟩
    rw [List.nil_append, ← List.append_nil (front ++ back), dropWhile_append hall hcore.first]
    rfl
  | cons c rest =>
    have hfirst : ∀ d, ((c :: rest) ++ back).head? = some d → p d = false :=
      fun d hd => hcore.first d hd
    rw [dropWhile_append hfront hfirst, dropEndWhile_append hback hcore.last]

/-- A text is trimmed to no other text. -/
theorem TrimsTo.eq_trimWhile (h : TrimsTo p s core) : core = trimWhile p s := by
  obtain ⟨⟨front, back, rfl, hfront, hback⟩, hcore⟩ := h
  exact (trimWhile_append hfront hcore hback).symm

theorem trimWhile_of_trimmed (h : Trimmed p s) : trimWhile p s = s := by
  have hsame := trimWhile_append (List.forall_mem_nil _) h (List.forall_mem_nil _)
  rwa [List.nil_append, List.append_nil] at hsame

end ContentFilters.Text
