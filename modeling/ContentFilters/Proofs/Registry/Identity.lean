import ContentFilters.Proofs.Filter.Spelling
import ContentFilters.Proofs.Registry.History

/-!
# Identities that name a filter

A filter has a name just if its identity ends in a point and a word of ASCII letters, after which
one line feed may stand. What stands before that point does not matter, be it points, slashes or
anything else, and no identity ends so in two ways. The word in lower case is the short name, and it
is also what follows the last slash of the name of the component. Every other identity is reported
as a whole, by the names and by a registration.
-/
namespace ContentFilters

/-! ## The word at the end -/

/-- An identity that ends in a point and a word of letters; a line feed may follow. -/
structure EndsInWord (identity word : String) : Prop where
  nonempty : word ≠ ""
  letters : ∀ c ∈ word.toList, Text.isLetter c = true
  split : ∃ before ending, identity = before ++ "." ++ word ++ ending ∧
    (ending = "" ∨ ending = "\n")

namespace Descriptor

/-- The search for the last word finds exactly the words that an identity ends in. -/
theorem lastWord?_eq_some_iff_endsInWord {identity word : String} :
    lastWord? identity.toList = some word.toList ↔ EndsInWord identity word := by
  have hempty : word.toList ≠ [] ↔ word ≠ "" := not_congr String.toList_eq_nil_iff
  rw [lastWord?_eq_some, hempty]
  constructor
  · rintro ⟨hne, hletters, before, hsplit⟩
    obtain ⟨ending, hidentity, hending⟩ := exists_ending identity.toList
    refine ⟨hne, hletters, String.ofList before, String.ofList ending, ?_, ?_⟩
    · apply String.toList_injective
      rw [hidentity, hsplit]
      simp
    · rcases hending with rfl | rfl
      · exact .inl rfl
      · exact .inr rfl
  · rintro ⟨hne, hletters, before, ending, rfl, hending⟩
    have hlist : ending.toList = [] ∨ ending.toList = ['\n'] := by
      rcases hending with rfl | rfl
      · exact .inl rfl
      · exact .inr rfl
    refine ⟨hne, hletters, before.toList, ?_⟩
    have hdrop : dropLineFeed (before.toList ++ ['.'] ++ word.toList ++ ending.toList) =
        before.toList ++ ['.'] ++ word.toList :=
      dropLineFeed_append_word (hempty.mpr hne) hletters hlist
    simpa using hdrop

theorem shortName?_eq_some_of_endsInWord {d : Descriptor} {word : String}
    (h : EndsInWord d.identity word) : d.shortName? = some (Text.lowerString word) := by
  have hlower : Text.lower word.toList = word.toList.map Text.lowerAscii :=
    Text.lower_of_ascii fun c hc => Text.lt_of_isLetter (h.letters c hc)
  rw [shortName?, lastWord?_eq_some_iff_endsInWord.mpr h, Text.lowerString, hlower]
  rfl

theorem shortName?_eq_none {d : Descriptor} :
    d.shortName? = none ↔ ∀ word, ¬ EndsInWord d.identity word := by
  rw [shortName?, Option.map_eq_none_iff]
  constructor
  · intro hnone word hword
    rw [lastWord?_eq_some_iff_endsInWord.mpr hword] at hnone
    cases hnone
  · intro hnone
    cases hword : lastWord? d.identity.toList with
    | none => rfl
    | some word =>
      refine absurd (lastWord?_eq_some_iff_endsInWord.mp ?_) (hnone (String.ofList word))
      rw [hword, String.toList_ofList]

end Descriptor

theorem EndsInWord.unique {identity word other : String} (h : EndsInWord identity word)
    (hother : EndsInWord identity other) : other = word := by
  have hword := Descriptor.lastWord?_eq_some_iff_endsInWord.mpr h
  have hsame := Descriptor.lastWord?_eq_some_iff_endsInWord.mpr hother
  rw [hword] at hsame
  exact String.toList_injective (Option.some.inj hsame).symm

/-! ## Names and registrations -/

namespace Registry

/-- A filter is named by the word of letters at the end of its identity, which no identity has in
two ways: the short name is that word in lower case, and it stands behind the last slash in the name
of the component. If the identity has no such word, both names and every registration are refused
with an error that shows the identity as it is. -/
theorem named_by_last_word (f : Filter) (r : Registry) :
    let identity := f.data.moduleName ++ "." ++ f.data.qualifiedName
    (∀ word, EndsInWord identity word →
      let name := Text.lowerString word
      let component := "plugins/textfilters/" ++ name
      (∀ other, EndsInWord identity other → other = word) ∧
        f.shortName = .ok name ∧ LowerWord name.toList ∧
        f.data.componentName = .ok component ∧
        Text.cutAtLast? '/' component.toList = some ("plugins/textfilters".toList, name.toList) ∧
        ∃ after record, r.register f = .ok (after, record) ∧ after.lookup name = some f) ∧
      ((∀ word, ¬ EndsInWord identity word) →
        f.shortName = .error (.unnamed identity) ∧
          f.data.componentName = .error (.unnamed identity) ∧
          r.register f = .error (.unnamed identity)) ∧
      (FilterError.unnamed identity).message? = some ("I don't know who I am: " ++ identity) := by
  intro identity
  refine ⟨fun word hword => ?_, fun hnone => ?_, rfl⟩
  · intro name component
    have hname : f.data.shortName? = some name :=
      Descriptor.shortName?_eq_some_of_endsInWord hword
    have hlower : LowerWord name.toList := Descriptor.lowerWord_of_shortName? hname
    have hshort : f.shortName = .ok name := Filter.shortName_eq_ok.mpr hname
    refine ⟨fun other => hword.unique, hshort, hlower, ?_, ?_, ?_⟩
    · have hdata : f.data.shortName = .ok name := hshort
      rw [Descriptor.componentName, hdata]
      rfl
    · have hslash : "plugins/textfilters/".toList = "plugins/textfilters".toList ++ ['/'] := by
        decide
      rw [Text.cutAtLast?_eq_some, String.toList_append, hslash, List.append_assoc,
        List.singleton_append]
      exact ⟨rfl, hlower.not_mem (by decide)⟩
    · rw [register_eq, hname]
      refine ⟨_, _, rfl, ?_⟩
      rw [lookup, entry?_put, if_pos rfl]
  · have hname : f.data.shortName? = none := Descriptor.shortName?_eq_none.mpr hnone
    have hshort : f.data.shortName = .error (.unnamed identity) := by
      rw [Descriptor.shortName, hname]
      rfl
    refine ⟨hshort, ?_, ?_⟩
    · rw [Descriptor.componentName, hshort]
      rfl
    · rw [register_eq, hname]
      rfl

/-- A filter whose identity has slashes, points, a local type and a line feed at the end. -/
def oddlyNamed : Filter where
  data := { moduleName := "a/b.é1", qualifiedName := "make.<locals>.NoTe\n", typeName := "NoTe" }
  behavior := .undefined

def unnamed : Filter where
  data := { moduleName := "filters", qualifiedName := "Café", typeName := "Café" }
  behavior := .undefined

theorem named_by_last_word_odd :
    EndsInWord "a/b.é1.make.<locals>.NoTe\n" "NoTe" ∧ oddlyNamed.shortName = .ok "note" ∧
      (∀ word, ¬ EndsInWord "filters.Café" word) ∧
      register {} unnamed = .error (.unnamed "filters.Café") := by
  have hword : EndsInWord "a/b.é1.make.<locals>.NoTe\n" "NoTe" :=
    ⟨by decide, List.all_eq_true.mp (by decide), "a/b.é1.make.<locals>", "\n", by decide, .inr rfl⟩
  have hnone : ∀ word, ¬ EndsInWord "filters.Café" word :=
    Descriptor.shortName?_eq_none (d := unnamed.data).mp (by decide +kernel)
  have hlower : Text.lowerString "NoTe" = "note" := by decide +kernel
  obtain ⟨-, hshort, -⟩ := (named_by_last_word oddlyNamed {}).1 "NoTe" hword
  obtain ⟨-, -, hregister⟩ := (named_by_last_word unnamed {}).2.1 hnone
  exact ⟨hword, by rw [hshort, hlower], hnone, hregister⟩

end Registry

end ContentFilters
