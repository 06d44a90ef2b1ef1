import ContentFilters.Filter.Params
import ContentFilters.Proofs.Filter.ShortName
import ContentFilters.Proofs.Text.Trimming

/-!
# Spellings of a name

A name may be written in any mix of cases and with blanks around it. Trimming takes the blanks away
and lower-casing undoes the mix of cases: on ASCII letters the full Unicode rules do no more than
the plain map of characters does. So every spelling of a name has that name as its stored form, and
what holds nothing but blanks is stored as the empty text.
-/
namespace ContentFilters

namespace Text

/-! ## Trimming -/

/-- What is between two runs of blanks and holds none itself is all that trimming leaves. -/
theorem trim_append {before word after : Text} (hbefore : allBlank before = true)
    (hword : ∀ c ∈ word, isBlank c = false) (hafter : allBlank after = true) :
    trim (before ++ word ++ after) = word :=
  trimWhile_append (List.all_eq_true.mp hbefore) (trimmed_of_forall hword)
    (List.all_eq_true.mp hafter)

theorem trim_of_allBlank {s : Text} (h : allBlank s = true) : trim s = [] :=
  calc trim s = trim (s ++ [] ++ []) := by rw [List.append_nil, List.append_nil]
    _ = [] := trim_append h (List.forall_mem_nil _) rfl

/-! ## Lower case -/

theorem lowerAfter_of_ascii {s : Text} (h : ∀ c ∈ s, c.toNat < 0x80) (before : Text) :
    lowerAfter before s = s.map lowerAscii := by
  induction s generalizing before with
  | nil => rfl
  | cons c rest ih =>
    obtain ⟨hc, hrest⟩ := List.forall_mem_cons.mp h
    -- neither of the two characters with a rule of their own is ASCII
    have hsigma : c ≠ 'Σ' := by
      rintro rfl
      exact absurd hc (by decide)
    have hdotted : c.toNat ≠ 0x130 := by omega
    have hchar : lowerChar c = lowerAscii c := if_pos hc
    rw [lowerAfter, if_neg hsigma, if_neg hdotted, hchar, ih hrest]
    rfl

theorem lower_of_ascii {s : Text} (h : ∀ c ∈ s, c.toNat < 0x80) : lower s = s.map lowerAscii :=
  lowerAfter_of_ascii h []

/-! ## Letters -/

theorem isLetter_of_isLowerLetter_lowerAscii {c : Char} (h : isLowerLetter (lowerAscii c) = true) :
    isLetter c = true := by
  unfold lowerAscii at h
  split at h
  · next hupper => simp only [isLetter, hupper, Bool.true_or]
  · simp only [isLowerLetter] at h
    simp only [isLetter, h, Bool.or_true]

theorem isBlank_of_isLetter {c : Char} (h : isLetter c = true) : isBlank c = false := by
  simp only [isLetter, Bool.or_eq_true, Bool.and_eq_true, decide_eq_true_eq] at h
  simp only [isBlank, Bool.or_eq_false_iff, Bool.and_eq_false_iff, decide_eq_false_iff_not,
    beq_eq_false_iff_ne]
  omega

theorem lt_of_isLetter {c : Char} (h : isLetter c = true) : c.toNat < 0x80 := by
  simp only [isLetter, Bool.or_eq_true, Bool.and_eq_true, decide_eq_true_eq] at h
  omega

end Text

/-! ## Stored names -/

/-- The texts that spell a name: its letters in any mix of cases, with any blanks around them. -/
inductive Spells (name : Text) : Text → Prop
  | of {before word after : Text} (blank_before : Text.allBlank before = true)
      (letters : word.map Text.lowerAscii = name) (blank_after : Text.allBlank after = true) :
      Spells name (before ++ word ++ after)

namespace FilterParams

/-- The stored form of a spelling is the name that is spelled. -/
theorem normalName_of_spells {name s : String} (hname : LowerWord name.toList)
    (h : Spells name.toList s.toList) : normalName s = name := by
  unfold normalName
  generalize s.toList = text at h
  obtain @⟨before, word, after, hbefore, hletters, hafter⟩ := h
  have hword : ∀ c ∈ word, Text.isLetter c = true := by
    intro c hc
    have hlower : Text.lowerAscii c ∈ name.toList := by
      rw [← hletters]
      exact List.mem_map_of_mem hc
    exact Text.isLetter_of_isLowerLetter_lowerAscii (hname.letters _ hlower)
  rw [Text.trim_append hbefore (fun c hc => Text.isBlank_of_isLetter (hword c hc)) hafter,
    Text.lower_of_ascii fun c hc => Text.lt_of_isLetter (hword c hc), hletters,
    String.ofList_toList]

theorem normalName_of_allBlank {s : String} (h : Text.allBlank s.toList = true) :
    normalName s = "" := by
  rw [normalName, Text.trim_of_allBlank h]
  rfl

theorem not_allBlank_of_spells {name s : Text} (hname : LowerWord name) (h : Spells name s) :
    Text.allBlank s = false := by
  obtain @⟨before, word, after, -, hletters, -⟩ := h
  cases word with
  | nil => exact absurd hletters.symm hname.nonempty
  | cons c rest =>
    have hlower : Text.isLowerLetter (Text.lowerAscii c) = true :=
      hname.letters _ (by rw [← hletters]; exact List.mem_cons_self)
    have hc := Text.isBlank_of_isLetter (Text.isLetter_of_isLowerLetter_lowerAscii hlower)
    simp [Text.allBlank, hc]

theorem normalFilters_append (before after : List String) :
    normalFilters (before ++ after) = normalFilters before ++ normalFilters after := by
  simp only [normalFilters, List.filter_append, List.map_append]

theorem normalFilters_cons_of_spells {name s : String} (hname : LowerWord name.toList)
    (h : Spells name.toList s.toList) (rest : List String) :
    normalFilters (s :: rest) = name :: normalFilters rest := by
  have hs := not_allBlank_of_spells hname h
  rw [normalFilters, List.filter_cons_of_pos (by simp [hs]), List.map_cons,
    normalName_of_spells hname h]
  rfl

theorem normalFilters_cons_of_allBlank {s : String} (h : Text.allBlank s.toList = true)
    (rest : List String) : normalFilters (s :: rest) = normalFilters rest := by
  rw [normalFilters, List.filter_cons_of_neg (by simp [h])]
  rfl

end FilterParams

end ContentFilters
