import ContentFilters.Filter.Basic
import ContentFilters.Proofs.Text.Cutting

/-!
# Short names

A short name is a word of lower-case letters, whatever the identity it is taken from: the word of
letters behind the last point, in lower case, where one line feed at the very end does not count.
-/
namespace ContentFilters

def Text.isLowerLetter (c : Char) : Bool := 97 ≤ c.toNat && c.toNat ≤ 122

theorem Text.isLowerLetter_lowerAscii {c : Char} (h : isLetter c = true) :
    isLowerLetter (lowerAscii c) = true := by
  simp only [isLetter, Bool.or_eq_true, Bool.and_eq_true, decide_eq_true_eq] at h
  simp only [isLowerLetter, lowerAscii, Bool.and_eq_true, decide_eq_true_eq]
  split
  · next hupper =>
    have hvalid : (c.toNat + 32).isValidChar := Or.inl (by omega)
    have hcode : (Char.ofNat (c.toNat + 32)).toNat = c.toNat + 32 := by
      rw [Char.ofNat, dif_pos hvalid]
      rfl
    omega
  · omega

structure LowerWord (word : Text) : Prop where
  nonempty : word ≠ []
  letters : ∀ c ∈ word, Text.isLowerLetter c = true

/-- A word of lower-case letters holds no other character. -/
theorem LowerWord.not_mem {word : Text} (h : LowerWord word) {c : Char}
    (hc : Text.isLowerLetter c = false) : c ∉ word := by
  intro hmem
  rw [h.letters c hmem] at hc
  cases hc

theorem lowerWord_of_all {word : Text} (hne : word ≠ [])
    (h : word.all Text.isLowerLetter = true) : LowerWord word := ⟨hne, List.all_eq_true.mp h⟩

/-! ## The word at the end of an identity -/

namespace Descriptor

theorem dropLineFeed_of_getLast?_ne {s : Text} (h : s.getLast? ≠ some '\n') :
    dropLineFeed s = s := if_neg h

theorem dropLineFeed_concat (s : Text) : dropLineFeed (s ++ ['\n']) = s := by
  rw [dropLineFeed, if_pos (by simp), List.dropLast_concat]

/-- A text is what is left of it without a line feed at its end, and that line feed. -/
theorem exists_ending (s : Text) :
    ∃ ending, s = dropLineFeed s ++ ending ∧ (ending = [] ∨ ending = ['\n']) := by
  by_cases h : s.getLast? = some '\n'
  · obtain ⟨front, rfl⟩ := List.getLast?_eq_some_iff.mp h
    exact ⟨['\n'], by rw [dropLineFeed_concat], .inr rfl⟩
  · exact ⟨[], by rw [dropLineFeed_of_getLast?_ne h, List.append_nil], .inl rfl⟩

/-- A word of letters stays when a line feed behind it is dropped. -/
theorem dropLineFeed_append_word {before word ending : Text} (hne : word ≠ [])
    (hword : ∀ c ∈ word, Text.isLetter c = true) (hending : ending = [] ∨ ending = ['\n']) :
    dropLineFeed (before ++ word ++ ending) = before ++ word := by
  rcases hending with rfl | rfl
  · obtain ⟨c, hlast⟩ := Option.ne_none_iff_exists'.mp (mt List.getLast?_eq_none_iff.mp hne)
    have hletter := hword c (List.mem_of_getLast? hlast)
    rw [List.append_nil]
    refine dropLineFeed_of_getLast?_ne ?_
    rw [List.getLast?_append, hlast, Option.some_or]
    rintro ⟨⟩
    exact absurd hletter (by decide)
  · exact dropLineFeed_concat (before ++ word)

/-- The last word is what stands behind the last point, if that is a word of letters. -/
theorem lastWord?_eq_some {identity word : Text} :
    lastWord? identity = some word ↔
      word ≠ [] ∧ (∀ c ∈ word, Text.isLetter c = true) ∧
        ∃ before, dropLineFeed identity = before ++ '.' :: word := by
  have hcheck : ∀ last : Text,
      (if !last.isEmpty && last.all Text.isLetter then some last else none) = some word ↔
        last = word ∧ word ≠ [] ∧ ∀ c ∈ word, Text.isLetter c = true := by
    intro last
    rw [Option.ite_none_right_eq_some, Option.some.injEq, Bool.and_eq_true, List.all_eq_true,
      and_comm]
    refine and_congr_right ?_
    rintro rfl
    simp
  have hcut : lastWord? identity = some word ↔ ∃ before last,
      Text.cutAtLast? '.' (dropLineFeed identity) = some (before, last) ∧
        last = word ∧ word ≠ [] ∧ ∀ c ∈ word, Text.isLetter c = true := by
    simp only [lastWord?, bind, Option.bind_eq_some_iff, Prod.exists, hcheck]
  rw [hcut]
  constructor
  · rintro ⟨before, last, hsplit, rfl, hne, hletters⟩
    exact ⟨hne, hletters, before, (Text.cutAtLast?_eq_some.mp hsplit).1⟩
  · rintro ⟨hne, hletters, before, hsplit⟩
    have hpoint : '.' ∉ word := fun hmem => absurd (hletters '.' hmem) (by decide)
    exact ⟨before, word, Text.cutAtLast?_eq_some.mpr ⟨hsplit, hpoint⟩, rfl, hne, hletters⟩

theorem lowerWord_of_shortName? {d : Descriptor} {name : String}
    (h : d.shortName? = some name) : LowerWord name.toList := by
  obtain ⟨word, hword, rfl⟩ := Option.map_eq_some_iff.mp h
  obtain ⟨hne, hletters, -⟩ := lastWord?_eq_some.mp hword
  rw [String.toList_ofList]
  refine ⟨by simpa using hne, fun c hc => ?_⟩
  obtain ⟨letter, hletter, rfl⟩ := List.mem_map.mp hc
  exact Text.isLowerLetter_lowerAscii (hletters letter hletter)

end Descriptor

theorem Filter.shortName_eq_ok {f : Filter} {name : String} :
    f.shortName = .ok name ↔ f.data.shortName? = some name := by
  unfold shortName Descriptor.shortName
  cases f.data.shortName? <;> simp

end ContentFilters
