import ContentFilters.Text.Lines

/-!
# What the lines of a text are

A text is its lines with a break behind each, which the last one may lack. Said without following
the text from left to right, this leaves one result: the lines into which it is cut.
-/
namespace ContentFilters.Text

/-- The characters at which a text is cut: line feed, vertical tab, form feed, carriage return,
three information separators, next line, line separator and paragraph separator. -/
def EndsLine (c : Char) : Prop :=
  c.toNat ∈ [0xA, 0xB, 0xC, 0xD, 0x1C, 0x1D, 0x1E, 0x85, 0x2028, 0x2029]

theorem isLineEnd_iff {c : Char} : isLineEnd c = true ↔ EndsLine c := by
  simp only [isLineEnd, EndsLine, Bool.or_eq_true, Bool.and_eq_true, decide_eq_true_eq, beq_iff_eq,
    List.mem_cons, List.not_mem_nil, or_false]
  omega

/-- What stands behind a line, in front of a text: a carriage return with its line feed, or a single
character that ends lines and is not the first half of that. -/
inductive Break : Text → Text → Prop
  | pair (rest : Text) : Break ['\r', '\n'] rest
  | single {c : Char} {rest : Text} : EndsLine c → ¬(c = '\r' ∧ rest.head? = some '\n') →
      Break [c] rest

/-- A text and its lines. A break behind the last line starts no further one. -/
inductive CutInto : Text → List Text → Prop
  | nil : CutInto [] []
  | last {line : Text} : line ≠ [] → (∀ c ∈ line, ¬EndsLine c) → CutInto line [line]
  | cons {line sep rest : Text} {more : List Text} : (∀ c ∈ line, ¬EndsLine c) →
      Break sep rest → CutInto rest more → CutInto (line ++ sep ++ rest) (line :: more)

namespace CutInto

variable {c : Char} {s rest : Text} {found : List Text}

/-- A character more at the front of the first line. -/
theorem consToFirst (hc : ¬EndsLine c) (h : CutInto s found) :
    CutInto (c :: s) (Text.consToFirst c found) := by
  cases h with
  | nil => exact .last (List.cons_ne_nil _ _) (List.forall_mem_singleton.mpr hc)
  | last hne hline => exact .last (List.cons_ne_nil _ _) (List.forall_mem_cons.mpr ⟨hc, hline⟩)
  | cons hline hsep hrest => exact .cons (List.forall_mem_cons.mpr ⟨hc, hline⟩) hsep hrest

theorem not_endsLine (h : CutInto s found) : ∀ line ∈ found, ∀ c ∈ line, ¬EndsLine c := by
  induction h with
  | nil => exact List.forall_mem_nil _
  | last _ hline => exact List.forall_mem_singleton.mpr hline
  | cons hline _ _ ih => exact List.forall_mem_cons.mpr ⟨hline, ih⟩

end CutInto

theorem cutInto_lines (s : Text) : CutInto s (lines s) := by
  fun_induction lines s with
  | case1 => exact .nil
  | case2 rest ih => exact .cons (List.forall_mem_nil _) (.pair rest) ih
  | case3 c rest hpair hc ih =>
    refine .cons (List.forall_mem_nil _) (.single (isLineEnd_iff.mp hc) ?_) ih
    rintro ⟨rfl, hhead⟩
    obtain ⟨more, rfl⟩ := List.head?_eq_some_iff.mp hhead
    exact hpair more rfl rfl
  | case4 c rest _ hc ih => exact ih.consToFirst (mt isLineEnd_iff.mpr hc)

theorem lines_of_endsLine {c : Char} (hc : EndsLine c) {rest : Text}
    (hpair : ¬(c = '\r' ∧ rest.head? = some '\n')) : lines (c :: rest) = [] :: lines rest := by
  rw [lines, if_pos (isLineEnd_iff.mpr hc)]
  rintro more rfl rfl
  exact hpair ⟨rfl, rfl⟩

theorem lines_of_not_endsLine {c : Char} (hc : ¬EndsLine c) (rest : Text) :
    lines (c :: rest) = consToFirst c (lines rest) := by
  rw [lines, if_neg (mt isLineEnd_iff.mp hc)]
  rintro more rfl -
  exact hc (isLineEnd_iff.mp rfl)

theorem lines_of_no_break {line : Text} (hne : line ≠ []) (hline : ∀ c ∈ line, ¬EndsLine c) :
    lines line = [line] := by
  induction line with
  | nil => exact absurd rfl hne
  | cons c rest ih =>
    obtain ⟨hc, hrest⟩ := List.forall_mem_cons.mp hline
    rw [lines_of_not_endsLine hc]
    by_cases hnil : rest = []
    · rw [hnil]
      rfl
    · rw [ih hnil hrest]
      rfl

theorem lines_append_break {line sep rest : Text} (hline : ∀ c ∈ line, ¬EndsLine c)
    (hsep : Break sep rest) : lines (line ++ sep ++ rest) = line :: lines rest := by
  induction line with
  | nil =>
    cases hsep with
    | pair => rfl
    | single hend hpair => exact lines_of_endsLine hend hpair
  | cons c tail ih =>
    obtain ⟨hc, htail⟩ := List.forall_mem_cons.mp hline
    rw [List.cons_append, List.cons_append, lines_of_not_endsLine hc, ih htail]
    rfl

/-- A text has no other lines than these. -/
theorem CutInto.eq_lines {s : Text} {found : List Text} (h : CutInto s found) :
    found = lines s := by
  induction h with
  | nil => rfl
  | last hne hline => exact (lines_of_no_break hne hline).symm
  | cons hline hsep _ ih => rw [lines_append_break hline hsep, ih]

end ContentFilters.Text
