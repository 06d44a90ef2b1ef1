import ContentFilters.Proofs.Filter.Sequential
import ContentFilters.Proofs.Standard.CodeBlock
import ContentFilters.Standard.Admonition

/-!
# What a note is made of

A note is always given: its option is declared with a default, and a type that is not known is
reported and taken as a plain note. Only its kind can fail to be read; after that nothing is done
but that report. So what reading the kind and reporting have in common, the whole replacement has.
-/
namespace ContentFilters.Standard.Admonition

/-- The option of a note is declared with a default. -/
theorem exists_optionValue (params : Option FilterParams) :
    ∃ v, data.optionValue params "type" = .ok v :=
  Descriptor.exists_optionValue rfl params

theorem exists_kindName (attributes : Tag.Attributes) (params : Option FilterParams) :
    ∃ name, kindName attributes params = .ok name := by
  have hdefault : data.defaultValue "type" = .ok (some (.str "note")) := rfl
  obtain ⟨type, htype⟩ := exists_settles hdefault attributes params
  refine ⟨Text.lower type, ?_⟩
  rw [kindName, htype.attributeOr_eq]
  rfl

/-- The replacement reads the type, reports one that is not known, and returns. -/
theorem sequential_replacement {P : (α : Type) → Action α → Prop} (hP : Sequential P)
    (hreport : ∀ level logger message, P Unit (Action.report level logger message))
    {attributes : Tag.Attributes} {params : Option FilterParams}
    (hname : P Text (Action.ofExcept (kindName attributes params))) (body : Text) :
    P Text (replacement attributes body params) := by
  refine hP.bind hname fun name => ?_
  dsimp only
  split
  · exact hP.bind (hP.pure _) fun _ => hP.pure _
  · exact hP.bind (hreport _ _ _) fun _ => hP.bind (hP.pure _) fun _ => hP.pure _

end ContentFilters.Standard.Admonition
