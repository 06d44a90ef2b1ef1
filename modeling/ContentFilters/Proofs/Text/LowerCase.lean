import ContentFilters.Proofs.Text.Trimming
import ContentFilters.Text.LowerCase

/-!
# Lower case and trimming

Lower-casing twice is lower-casing once, although a sigma looks at its neighbours: no character of a
lower-case form has a partner, and none is a capital sigma, so the second pass has nothing to look
at. This comes down to the table of partners, which is checked run by run: the partners of a run lie
apart from all runs, but for a few that alternate with them.

Blanks have no partners and no partner is blank. So the lower-case form of a text starts and ends
with a blank just where the text does, and a trimmed text stays trimmed.
-/
namespace ContentFilters.Text

/-! ## The table of partners -/

/-- A run of the table: first and last code point, step, and distance to the partner. -/
abbrev CaseRun := Nat × Nat × Nat × Int

namespace CaseRun

def covers (run : CaseRun) (n : Nat) : Bool :=
  run.1 ≤ n && n ≤ run.2.1 && (n - run.1) % run.2.2.1 == 0

def partner (run : CaseRun) (n : Nat) : Nat := ((n : Int) + run.2.2.2).toNat

/-- Whether no partner in one run is covered by another: the partners lie in front of that run or
behind it, or each is looked at. -/
def apart (run other : CaseRun) : Bool :=
  Nat.blt (run.partner run.2.1) other.1 || Nat.blt other.2.1 (run.partner run.1) ||
    (List.range ((run.2.1 - run.1) / run.2.2.1 + 1)).all fun i =>
      !other.covers (run.partner (run.1 + run.2.2.1 * i))

/-- Whether the code points between two are characters, and none of them is blank or the capital I
with a dot above. -/
def ordinary (first last : Nat) : Bool :=
  (Nat.blt last 0xD800 || Nat.blt 0xDFFF first && Nat.blt last 0x110000) &&
    [(9, 13), (28, 32), (0x85, 0x85), (0xA0, 0xA0), (0x130, 0x130), (0x1680, 0x1680),
      (0x2000, 0x200A), (0x2028, 0x2029), (0x202F, 0x202F), (0x205F, 0x205F),
      (0x3000, 0x3000)].all fun r => Nat.blt last r.1 || Nat.blt r.2 first

end CaseRun

theorem apart_of_mem : ∀ run ∈ CaseTable.lowerRuns, ∀ other ∈ CaseTable.lowerRuns,
    CaseRun.apart run other = true := by
  have hall : (CaseTable.lowerRuns.all fun run =>
      CaseTable.lowerRuns.all fun other => CaseRun.apart run other) = true := by decide +kernel
  simpa only [List.all_eq_true] using hall

theorem ordinary_of_mem : ∀ run ∈ CaseTable.lowerRuns,
    CaseRun.ordinary run.1 run.2.1 = true ∧
      CaseRun.ordinary (CaseRun.partner run run.1) (CaseRun.partner run run.2.1) = true := by
  decide +kernel

namespace CaseRun

variable {run other : CaseRun} {n : Nat}

theorem covers_iff : run.covers n = true ↔
    run.1 ≤ n ∧ n ≤ run.2.1 ∧ (n - run.1) % run.2.2.1 = 0 := by
  simp only [covers, Bool.and_eq_true, decide_eq_true_eq, beq_iff_eq, and_assoc]

/-- The partner of a covered code point is not covered itself. -/
theorem covers_partner (hapart : run.apart other = true) (hn : run.covers n = true) :
    other.covers (run.partner n) = false := by
  obtain ⟨hfirst, hlast, hstep⟩ := covers_iff.mp hn
  have hbetween : run.partner run.1 ≤ run.partner n ∧ run.partner n ≤ run.partner run.2.1 := by
    unfold partner
    omega
  simp only [apart, Bool.or_eq_true, Nat.blt_eq, List.all_eq_true, List.mem_range,
    Bool.not_eq_true'] at hapart
  rcases hapart with (hfront | hbehind) | heach
  · rw [← Bool.not_eq_true, covers_iff]
    omega
  · rw [← Bool.not_eq_true, covers_iff]
    omega
  · have hplace : n = run.1 + run.2.2.1 * ((n - run.1) / run.2.2.1) := by
      have hdiv := Nat.div_add_mod (n - run.1) run.2.2.1
      omega
    have hindex : (n - run.1) / run.2.2.1 ≤ (run.2.1 - run.1) / run.2.2.1 :=
      Nat.div_le_div_right (Nat.sub_le_sub_right hlast run.1)
    rw [hplace]
    exact heach _ (Nat.lt_succ_of_le hindex)

/-- What lies between ordinary code points is a character other than those named above. -/
theorem of_ordinary {first last : Nat} (h : ordinary first last = true) (hfirst : first ≤ n)
    (hlast : n ≤ last) :
    (Char.ofNat n).toNat = n ∧ n ≠ 0x130 ∧ isBlank (Char.ofNat n) = false := by
  simp only [ordinary, List.all_cons, List.all_nil, Bool.and_eq_true, Bool.or_eq_true, Nat.blt_eq,
    and_true] at h
  have hvalid : n.isValidChar := by
    unfold Nat.isValidChar
    omega
  have hcode : (Char.ofNat n).toNat = n := by
    rw [Char.ofNat, dif_pos hvalid]
    rfl
  refine ⟨hcode, by omega, ?_⟩
  simp only [isBlank, hcode, Bool.or_eq_false_iff, Bool.and_eq_false_iff, decide_eq_false_iff_not,
    beq_eq_false_iff_ne]
  omega

/-- Neither a covered code point nor its partner is a blank. -/
theorem not_blank_of_covers (hrun : run ∈ CaseTable.lowerRuns) (hn : run.covers n = true) :
    isBlank (Char.ofNat n) = false ∧ (Char.ofNat (run.partner n)).toNat = run.partner n ∧
      run.partner n ≠ 0x130 ∧ isBlank (Char.ofNat (run.partner n)) = false := by
  obtain ⟨hfirst, hlast, -⟩ := covers_iff.mp hn
  obtain ⟨hcovered, hpartner⟩ := ordinary_of_mem run hrun
  have hbetween : run.partner run.1 ≤ run.partner n ∧ run.partner n ≤ run.partner run.2.1 := by
    unfold partner
    omega
  exact ⟨(of_ordinary hcovered hfirst hlast).2.2, of_ordinary hpartner hbetween.1 hbetween.2⟩

end CaseRun

/-! ## Single characters -/

/-- A character has no partner, or its partner is the one of a run that covers it. -/
theorem lowerChar_cases (c : Char) :
    (lowerChar c = c ∧ ∀ run ∈ CaseTable.lowerRuns, CaseRun.covers run c.toNat = false) ∨
      ∃ run ∈ CaseTable.lowerRuns, CaseRun.covers run c.toNat = true ∧
        lowerChar c = Char.ofNat (CaseRun.partner run c.toNat) := by
  unfold lowerChar
  split
  · next hascii =>
    have hfirst : ∀ run ∈ CaseTable.lowerRuns, run.1 = 0x41 ∧ run.2.1 = 0x5a ∨ 0x80 ≤ run.1 := by
      decide +kernel
    unfold lowerAscii
    split
    · next hupper =>
      simp only [Bool.and_eq_true, decide_eq_true_eq] at hupper
      refine .inr ⟨(0x41, 0x5a, 0x1, 0x20), List.mem_cons_self, ?_, rfl⟩
      exact CaseRun.covers_iff.mpr ⟨hupper.1, hupper.2, Nat.mod_one _⟩
    · next hupper =>
      simp only [Bool.and_eq_true, decide_eq_true_eq] at hupper
      refine .inl ⟨rfl, fun run hrun => ?_⟩
      have hplace := hfirst run hrun
      rw [← Bool.not_eq_true, CaseRun.covers_iff]
      omega
  · split
    · next first last step shift hfind =>
      have hcovers := List.find?_some hfind
      exact .inr ⟨_, List.mem_of_find?_eq_some hfind, hcovers, rfl⟩
    · next hfind =>
      refine .inl ⟨rfl, fun run hrun => ?_⟩
      exact Bool.not_eq_true _ ▸ List.find?_eq_none.mp hfind run hrun

/-- A character that lower-casing leaves alone wherever it stands. -/
structure Settled (c : Char) : Prop where
  lowerChar_eq : lowerChar c = c
  not_sigma : c ≠ 'Σ'
  not_dotted : c.toNat ≠ 0x130

theorem settled_of_uncovered {c : Char}
    (h : ∀ run ∈ CaseTable.lowerRuns, CaseRun.covers run c.toNat = false)
    (hdotted : c.toNat ≠ 0x130) : Settled c where
  lowerChar_eq := by
    rcases lowerChar_cases c with ⟨hsame, -⟩ | ⟨run, hrun, hcovers, -⟩
    · exact hsame
    · rw [h run hrun] at hcovers
      cases hcovers
  not_sigma := by
    rintro rfl
    exact absurd (h (0x3a3, 0x3ab, 0x1, 0x20) (by decide)) (by decide)
  not_dotted := hdotted

theorem settled_lowerChar {c : Char} (hdotted : c.toNat ≠ 0x130) : Settled (lowerChar c) := by
  rcases lowerChar_cases c with ⟨hsame, huncovered⟩ | ⟨run, hrun, hcovers, hpartner⟩
  · rw [hsame]
    exact settled_of_uncovered huncovered hdotted
  · obtain ⟨-, hcode, hother, -⟩ := CaseRun.not_blank_of_covers hrun hcovers
    rw [hpartner]
    refine settled_of_uncovered (fun other hmem => ?_) (by rwa [hcode])
    rw [hcode]
    exact CaseRun.covers_partner (apart_of_mem run hrun other hmem) hcovers

theorem isBlank_lowerChar (c : Char) : isBlank (lowerChar c) = isBlank c := by
  rcases lowerChar_cases c with ⟨hsame, -⟩ | ⟨run, hrun, hcovers, hpartner⟩
  · rw [hsame]
  · obtain ⟨hblank, -, -, hpartnerBlank⟩ := CaseRun.not_blank_of_covers hrun hcovers
    rw [Char.ofNat_toNat] at hblank
    rw [hpartner, hpartnerBlank, hblank]

/-! ## Texts -/

/-- What a character becomes between two texts, of which the first is given from its end. -/
def lowerAt (before : Text) (c : Char) (rest : Text) : Text :=
  if c = 'Σ' then (if nextIsCased before && !nextIsCased rest then ['ς'] else ['σ'])
  else if c.toNat = 0x130 then ['i', Char.ofNat 0x307]
  else [lowerChar c]

theorem lowerAfter_cons (before : Text) (c : Char) (rest : Text) :
    lowerAfter before (c :: rest) = lowerAt before c rest ++ lowerAfter (c :: before) rest := rfl

/-- The characters that only the rules of their own give. -/
theorem settled_of_special {x : Char} (hx : x ∈ ['σ', 'ς', 'i', Char.ofNat 0x307]) :
    Settled x ∧ isBlank x = false := by
  have hall : (['σ', 'ς', 'i', Char.ofNat 0x307].all fun y =>
      y.toNat != 0x130 && !isBlank y &&
        CaseTable.lowerRuns.all fun run => !CaseRun.covers run y.toNat) = true := by decide +kernel
  have hspecial := List.all_eq_true.mp hall x hx
  simp only [Bool.and_eq_true, bne_iff_ne, Bool.not_eq_true', List.all_eq_true] at hspecial
  obtain ⟨⟨hcode, hblank⟩, huncovered⟩ := hspecial
  exact ⟨settled_of_uncovered huncovered hcode, hblank⟩

/-- What a character becomes is settled, and blank just if the character is. -/
theorem settled_lowerAt {before rest : Text} {c x : Char} (hx : x ∈ lowerAt before c rest) :
    Settled x ∧ isBlank x = isBlank c := by
  unfold lowerAt at hx
  split at hx
  · next hsigma =>
    have hspecial : x ∈ ['σ', 'ς', 'i', Char.ofNat 0x307] := by
      split at hx <;> simp_all
    obtain ⟨hsettled, hblank⟩ := settled_of_special hspecial
    refine ⟨hsettled, hblank.trans ?_⟩
    rw [hsigma]
    decide
  · split at hx
    · next hdotted =>
      have hspecial : x ∈ ['σ', 'ς', 'i', Char.ofNat 0x307] := by simp_all
      obtain ⟨hsettled, hblank⟩ := settled_of_special hspecial
      refine ⟨hsettled, hblank.trans ?_⟩
      rw [isBlank, hdotted]
      decide
    · next hdotted =>
      rw [List.mem_singleton.mp hx]
      exact ⟨settled_lowerChar hdotted, isBlank_lowerChar c⟩

theorem lowerAt_ne_nil (before : Text) (c : Char) (rest : Text) : lowerAt before c rest ≠ [] := by
  unfold lowerAt
  split
  · split <;> exact List.cons_ne_nil _ _
  · split <;> exact List.cons_ne_nil _ _

theorem lowerAfter_eq_nil_iff {before s : Text} : lowerAfter before s = [] ↔ s = [] := by
  cases s with
  | nil => exact iff_of_true rfl rfl
  | cons c rest => simp [lowerAfter_cons, lowerAt_ne_nil]

theorem settled_of_mem_lowerAfter {before s : Text} {x : Char} (hx : x ∈ lowerAfter before s) :
    Settled x := by
  induction s generalizing before with
  | nil => exact absurd hx List.not_mem_nil
  | cons c rest ih =>
    rw [lowerAfter_cons] at hx
    rcases List.mem_append.mp hx with hhere | hlater
    · exact (settled_lowerAt hhere).1
    · exact ih hlater

theorem lowerAfter_of_settled {s : Text} (h : ∀ c ∈ s, Settled c) (before : Text) :
    lowerAfter before s = s := by
  induction s generalizing before with
  | nil => rfl
  | cons c rest ih =>
    obtain ⟨hc, hrest⟩ := List.forall_mem_cons.mp h
    have hhere : lowerAt before c rest = [c] := by
      rw [lowerAt, if_neg hc.not_sigma, if_neg hc.not_dotted, hc.lowerChar_eq]
    rw [lowerAfter_cons, hhere, ih hrest, List.singleton_append]

/-- A lower-case form is its own, sigmas at the ends of words included. -/
theorem lower_lower (s : Text) : lower (lower s) = lower s :=
  lowerAfter_of_settled (fun _ => settled_of_mem_lowerAfter) []

/-- The last character of a lower-case form is blank just if the last one of the text is. -/
theorem exists_getLast?_of_lowerAfter {before s : Text} {x : Char}
    (hx : (lowerAfter before s).getLast? = some x) :
    ∃ c, s.getLast? = some c ∧ isBlank x = isBlank c := by
  induction s generalizing before with
  | nil => cases hx
  | cons c rest ih =>
    rw [lowerAfter_cons, List.getLast?_append] at hx
    cases hlater : (lowerAfter (c :: before) rest).getLast? with
    | some y =>
      rw [hlater, Option.some_or] at hx
      cases hx
      obtain ⟨last, hlast, hblank⟩ := ih hlater
      refine ⟨last, ?_, hblank⟩
      rw [List.getLast?_cons, hlast, Option.getD_some]
    | none =>
      rw [hlater, Option.none_or] at hx
      have hrest := lowerAfter_eq_nil_iff.mp (List.getLast?_eq_none_iff.mp hlater)
      subst hrest
      exact ⟨c, rfl, (settled_lowerAt (List.mem_of_getLast? hx)).2⟩

/-! ## Trimmed texts -/

/-- Lower-casing makes and takes away no blank at either end. -/
theorem trimmed_lower {s : Text} (h : Trimmed isBlank s) : Trimmed isBlank (lower s) where
  first x hx := by
    cases s with
    | nil => cases hx
    | cons c rest =>
      have hhere : x ∈ lowerAt [] c rest := by
        obtain ⟨y, hy⟩ := Option.ne_none_iff_exists'.mp
          (mt List.head?_eq_none_iff.mp (lowerAt_ne_nil [] c rest))
        rw [lower, lowerAfter_cons, List.head?_append, hy, Option.some_or] at hx
        exact List.mem_of_head? (hy.trans hx)
      rw [(settled_lowerAt hhere).2]
      exact h.first c rfl
  last x hx := by
    obtain ⟨c, hc, hblank⟩ := exists_getLast?_of_lowerAfter hx
    rw [hblank]
    exact h.last c hc

end ContentFilters.Text
