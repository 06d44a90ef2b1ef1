import ContentFilters.Proofs.Filter.Expansion

/-!
# Properties that sequencing keeps

Expansion and pipelines do little by themselves: they put replacements and filters one after the
other. So a property of computations that holds of one that only returns, and that sequencing keeps,
holds of an expansion if it holds of its replacements, and of a loop if it holds of its steps. This
is said here once for every such property.
-/
namespace ContentFilters

/-- A property of computations that one has which only returns, and that sequencing keeps. -/
structure Sequential {m : Type → Type} [Monad m] (P : (α : Type) → m α → Prop) : Prop where
  pure {α : Type} (a : α) : P α (pure a)
  bind {α β : Type} {x : m α} {next : α → m β} : P α x → (∀ a, P β (next a)) → P β (x >>= next)

namespace Sequential

section Loops

variable {m : Type → Type} [Monad m] {P : (α : Type) → m α → Prop} (hP : Sequential P)
include hP

theorem foldlM {α β : Type} {step : β → α → m β} {items : List α}
    (h : ∀ b, ∀ a ∈ items, P β (step b a)) (b : β) : P β (items.foldlM step b) := by
  induction items generalizing b with
  | nil => exact hP.pure b
  | cons a rest ih =>
    rw [List.foldlM_cons]
    exact hP.bind (h b a List.mem_cons_self) fun b' =>
      ih (fun b a ha => h b a (List.mem_cons_of_mem _ ha)) b'

variable {replace : Tag.Replacement m} (h : ∀ attributes body, P Text (replace attributes body))
include h

theorem expandSelfClosing (scanner : Tag.Scanner) (place : Nat) :
    P Text (Tag.expandSelfClosing replace scanner place) := by
  fun_induction Tag.expandSelfClosing replace scanner place with
  | case1 => exact hP.pure _
  | case2 _ _ _ _ _ ih => exact hP.bind (h _ _) fun _ => hP.bind ih fun _ => hP.pure _

theorem expandPaired (scanner : Tag.Scanner) (place : Nat) :
    P Text (Tag.expandPaired replace scanner place) := by
  fun_induction Tag.expandPaired replace scanner place with
  | case1 => exact hP.pure _
  | case2 => exact hP.pure _
  | case3 _ _ _ _ _ _ _ _ ih => exact hP.bind (h _ _) fun _ => hP.bind ih fun _ => hP.pure _

theorem expand (name : Tag.TagName) (limit : Int) (text : Text) :
    P Text (Tag.expand name limit replace text) :=
  hP.bind (hP.expandSelfClosing h _ _) fun _ => hP.expandPaired h _ _

end Loops

variable {P : (α : Type) → Action α → Prop} (hP : Sequential P)
include hP

/-- Besides its replacements a tag filter only reads the settings and notes its calls. -/
theorem run_of_expand (hsettings : P Settings Action.settings)
    (hnote : ∀ call, P Unit (Action.noteCall call)) {f : Filter} {replace : TagFunction}
    {name : String} (hf : f.behavior = .expand replace) (hname : f.shortName = .ok name)
    {params : Option FilterParams}
    (h : ∀ attributes body, P Text (replace attributes body params))
    (stages : TagStage → Text → Option FilterParams → Action Text) (text : Text) :
    P Text (f.run stages text params) := by
  have hexpand : f.run stages text params = (do
      let settings ← Action.settings
      Tag.expand (Filter.tagName settings name) settings.maxAttributesLength (replace.noted params)
        text) := by
    rw [Filter.run, hf]
    simp only [Filter.expandTags, hname]
    rfl
  rw [hexpand]
  exact hP.bind hsettings fun settings =>
    hP.expand (fun attributes body => hP.bind (hnote _) fun _ => h attributes body) _ _ text

end Sequential

end ContentFilters
