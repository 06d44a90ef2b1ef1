import ContentFilters.Proofs.Filter.Expansion
import ContentFilters.Proofs.Tag.Appended
import ContentFilters.Proofs.Tag.Steps

/-!
# Expansion is local

Where a text ends with a closing bracket, what stands behind it changes nothing in it. So a document
can be put together from such texts before or after its self-closing tags are expanded, and a text
without closing halves can be added behind before or after the pairs are. The same replacements are
asked for either way, in the same order, up to the first that fails.
-/
namespace ContentFilters.Filter

variable {f : Filter} {name : String} {settings : Settings}

theorem unclosed_tagName (hname : f.shortName = .ok name)
    (hspace : '>' ∉ settings.tagNamespace.toList) : (tagName settings name).Unclosed :=
  ⟨hspace, (Descriptor.lowerWord_of_shortName? (shortName_eq_ok.mp hname)).not_mem (by decide)⟩

def scan (settings : Settings) (name : String) (text : Text) : Tag.Scanner where
  text := text
  name := tagName settings name
  limit := settings.maxAttributesLength

/-- Behind a text that is empty or ends with a closing bracket, another text is expanded as if it
stood alone, in the session that the first one left: the calls for the first text are followed by
those for the second one, and if one of the first fails, none is made for the second. In the pass
over pairs a second text without a closing half is copied. -/
theorem passes_append (hname : f.shortName = .ok name)
    (hspace : '>' ∉ settings.tagNamespace.toList) (replace : TagFunction)
    (params : Option FilterParams) {s : Text} (hs : s = [] ∨ s.getLast? = some '>') (t : Text)
    (session : Session) :
    let noted := replace.noted params
    (Tag.expandSelfClosing noted (scan settings name (s ++ t)) 0).run session =
        (match (Tag.expandSelfClosing noted (scan settings name s) 0).run session with
        | .error e after => .error e after
        | .ok front middle =>
          match (Tag.expandSelfClosing noted (scan settings name t) 0).run middle with
          | .error e after => .error e after
          | .ok back after => .ok (front ++ back) after) ∧
      (¬ (tagName settings name).closing <:+: t →
        (Tag.expandPaired noted (scan settings name (s ++ t)) 0).run session =
          match (Tag.expandPaired noted (scan settings name s) 0).run session with
          | .error e after => .error e after
          | .ok front after => .ok (front ++ t) after) := by
  intro noted
  have hunclosed := unclosed_tagName hname hspace
  have hclosed : Tag.EndsClosed (scan settings name s).text := hs
  have hnew : ∀ b ∈ (scan settings name s).bracket, b < s.length := fun b hb => nomatch hb
  constructor
  · have happend : Tag.expandSelfClosing noted (scan settings name (s ++ t)) 0 = (do
        let front ← Tag.expandSelfClosing noted (scan settings name s) 0
        let back ← Tag.expandSelfClosing noted (scan settings name t) 0
        return front ++ back) :=
      Tag.expandSelfClosing_append noted hunclosed.not_mem_head hclosed (Nat.zero_le _) hnew t
    rw [happend, EStateM.run_bind]
    cases (Tag.expandSelfClosing noted (scan settings name s) 0).run session with
    | error e after => rfl
    | ok front middle =>
      simp only [EStateM.run_bind]
      cases (Tag.expandSelfClosing noted (scan settings name t) 0).run middle <;> rfl
  · intro ht
    have hcut : Text.cut? (tagName settings name).closing t = none := by
      rw [Text.cut?_eq_none]
      intro i
      rw [Text.after?_eq_none]
      exact fun hat => ht (hat.isInfix.trans (List.drop_suffix i t).isInfix)
    have happend : Tag.expandPaired noted (scan settings name (s ++ t)) 0 = (do
        let front ← Tag.expandPaired noted (scan settings name s) 0
        return front ++ t) :=
      Tag.expandPaired_append noted hunclosed hclosed (Nat.zero_le _) hnew hcut
    rw [happend, EStateM.run_bind]
    cases (Tag.expandPaired noted (scan settings name s) 0).run session <;> rfl

/-- A new scan replaces what the steps of the plain walk replace. -/
theorem expandSelfClosing_scan (hplain : (tagName settings name).Plain)
    (noted : Tag.Replacement Action) (text : Text) :
    Tag.expandSelfClosing noted (scan settings name text) 0 =
      List.flatten <$> (Tag.Walk.steps (Tag.Walk.selfClosingTags (tagName settings name)
        settings.maxAttributesLength) text).mapM (Tag.Walk.Step.result noted) := by
  rw [← Tag.Walk.rewrite_eq_mapM_steps]
  exact Tag.expandSelfClosing_eq_walk noted hplain (Tag.knownBracket_none text 0)

theorem expandPaired_scan (hplain : (tagName settings name).Plain)
    (noted : Tag.Replacement Action) (text : Text) :
    Tag.expandPaired noted (scan settings name text) 0 =
      List.flatten <$> (Tag.Walk.steps (Tag.Walk.pairs (tagName settings name)
        settings.maxAttributesLength) text).mapM (Tag.Walk.Step.result noted) := by
  rw [← Tag.Walk.rewrite_eq_mapM_steps]
  exact Tag.expandPaired_eq_walk noted hplain (Tag.knownBracket_none text 0)

/-- The first text holds a pair and a self-closing tag. The second one starts like the rest of a
tag, its closing half belongs to another name, and it ends with a self-closing tag. -/
theorem passes_append_lookalike :
    let s := "<publify:note>b</publify:note><publify:note a=\"1\"/>".toList
    let t := " c/></publify:code><publify:note a=\"2\"/>".toList
    let given (value : String) : TagCall := ⟨[("a".toList, value.toList)], [], false⟩
    let asked (calls : List TagCall) : Session := { settings := .ok {}, calls := calls }
    let first (text : Text) :=
      (Tag.expandSelfClosing (plainBody.noted none) (scan {} "note" text) 0).run
    let second (text : Text) :=
      (Tag.expandPaired (plainBody.noted none) (scan {} "note" text) 0).run (asked [])
    '>' ∉ ({} : Settings).tagNamespace.toList ∧ s.getLast? = some '>' ∧
      ¬ (tagName {} "note").closing <:+: t ∧
      first s (asked []) = .ok "<publify:note>b</publify:note>".toList (asked [given "1"]) ∧
      first t (asked [given "1"]) =
        .ok " c/></publify:code>".toList (asked [given "1", given "2"]) ∧
      first (s ++ t) (asked []) = .ok "<publify:note>b</publify:note> c/></publify:code>".toList
        (asked [given "1", given "2"]) ∧
      second s = .ok "b<publify:note a=\"1\"/>".toList (asked [⟨[], ['b'], false⟩]) ∧
      second (s ++ t) = .ok ("b<publify:note a=\"1\"/>".toList ++ t)
        (asked [⟨[], ['b'], false⟩]) := by
  intro s t given asked first second
  have hname : (keepsBody "Note" .preMarkup).shortName = .ok "note" :=
    shortName_eq_ok.mpr (by decide)
  have hspace : '>' ∉ ({} : Settings).tagNamespace.toList := by decide
  have hlast : s.getLast? = some '>' := by decide
  have hclosing : ¬ (tagName {} "note").closing <:+: t := by decide +kernel
  have hplain : (tagName {} "note").Plain := plain_tagName hname (by decide)
  have hone : Tag.Attributes.parse " a=\"1\"".toList = [("a".toList, "1".toList)] := by
    decide +kernel
  have htwo : Tag.Attributes.parse " a=\"2\"".toList = [("a".toList, "2".toList)] := by
    decide +kernel
  have hnone : Tag.Attributes.parse [] = [] := by decide +kernel
  have hfirst : first s (asked []) =
      .ok "<publify:note>b</publify:note>".toList (asked [given "1"]) := by
    have hsteps : Tag.Walk.steps (Tag.Walk.selfClosingTags (tagName {} "note") 2048) s =
        "<publify:note>b</publify:note>".toList.map .kept ++
          [.replaced "<publify:note a=\"1\"/>".toList " a=\"1\"".toList []] := by
      decide +kernel
    simp only [first, expandSelfClosing_scan hplain, hsteps, List.mapM_append, List.mapM_cons,
      Tag.Walk.Step.result, hone]
    rfl
  have hbehind : first t (asked [given "1"]) =
      .ok " c/></publify:code>".toList (asked [given "1", given "2"]) := by
    have hsteps : Tag.Walk.steps (Tag.Walk.selfClosingTags (tagName {} "note") 2048) t =
        " c/></publify:code>".toList.map .kept ++
          [.replaced "<publify:note a=\"2\"/>".toList " a=\"2\"".toList []] := by
      decide +kernel
    simp only [first, expandSelfClosing_scan hplain, hsteps, List.mapM_append, List.mapM_cons,
      Tag.Walk.Step.result, htwo]
    rfl
  have hsecond : second s =
      .ok "b<publify:note a=\"1\"/>".toList (asked [⟨[], ['b'], false⟩]) := by
    have hsteps : Tag.Walk.steps (Tag.Walk.pairs (tagName {} "note") 2048) s =
        [.replaced "<publify:note>b</publify:note>".toList [] ['b']] ++
          "<publify:note a=\"1\"/>".toList.map .kept := by
      decide +kernel
    simp only [second, expandPaired_scan hplain, hsteps, List.mapM_append, List.mapM_cons,
      Tag.Walk.Step.result, hnone]
    rfl
  obtain ⟨hself, hpaired⟩ := passes_append hname hspace plainBody none (.inr hlast) t (asked [])
  refine ⟨hspace, hlast, hclosing, hfirst, hbehind, ?_, hsecond, ?_⟩
  · simp only [first] at hfirst hbehind ⊢
    rw [hself, hfirst]
    simp only [hbehind]
    rfl
  · simp only [second] at hsecond ⊢
    rw [hpaired hclosing, hsecond]

end ContentFilters.Filter
