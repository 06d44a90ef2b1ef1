import ContentFilters.Proofs.Filter.Expansion
import ContentFilters.Proofs.Tag.Document
import Mathlib.Data.List.Forall2

/-!
# Passes over documents

A tag filter walks over its text twice, and each of these passes is determined by the form and the
name of the tags it replaces. On a printed document a pass is a pass over the items. Passes are
followed here one after the other: which items they have replaced so far, by what, and which calls
they have made, in which order.

Replacements may do what they like to the session, save that they return, leave the settings as they
are, and put no opening bracket into the text.
-/
namespace ContentFilters

open Tag (Item TagForm printed)

structure Pass where
  form : TagForm
  name : Text
  replace : TagFunction

variable {settings : Settings} {params : Option FilterParams}

/-- An action that always returns a text without opening brackets and keeps the settings. -/
def Harmless (settings : Settings) (x : Action Text) : Prop :=
  ∀ session : Session, session.settings = .ok settings → ∃ out after,
    x.run session = .ok out after ∧ after.settings = .ok settings ∧ '<' ∉ out

/-- A text that an action returns in some session. -/
def Returns (settings : Settings) (x : Action Text) (out : Text) : Prop :=
  ∃ session after : Session, session.settings = .ok settings ∧ x.run session = .ok out after

/-- An action that asks for no replacement of its own. -/
def Quiet (x : Action Text) : Prop :=
  ∀ session out after, x.run session = .ok out after → after.calls = session.calls

namespace Pass

def tag (p : Pass) : TagForm × Text := (p.form, p.name)

def rewrite (settings : Settings) (params : Option FilterParams) (text : Text) (p : Pass) :
    Action Text :=
  Tag.Walk.rewrite
    (Tag.Walk.reader ⟨settings.tagNamespace.toList, p.name⟩ settings.maxAttributesLength p.form)
    (p.replace.noted params) text

def answer (params : Option FilterParams) (items : List Item) (p : Pass) : Action (List Item) :=
  items.mapM (Item.answer p.tag (p.replace.noted params))

def calls (params : Option FilterParams) (items : List Item) (p : Pass) : List TagCall :=
  (items.filter (·.tag? = some p.tag)).map fun item => ⟨item.attributes, item.body, params.isSome⟩

end Pass

/-- What passes make of an item. It is replaced if it is a tag of one of them, by a text that is
returned for the attributes and the body it was printed from, and otherwise it stays. -/
inductive Answered (settings : Settings) (params : Option FilterParams) (passes : List Pass) :
    Item → Item → Prop
  | replaced {item : Item} {p : Pass} {out : Text} :
      p ∈ passes → item.tag? = some p.tag →
        Returns settings (p.replace item.attributes item.body params) out →
        Answered settings params passes item (.literal out)
  | kept {item : Item} :
      (∀ p ∈ passes, item.tag? ≠ some p.tag) → Answered settings params passes item item

namespace Answered

variable {passes more : List Pass} {item between final : Item}

/-- A tag of a pass does not outlast the pass. -/
theorem tag?_ne (h : Answered settings params passes item final) {p : Pass} (hp : p ∈ passes) :
    final.tag? ≠ some p.tag := by
  cases h with
  | replaced _ _ _ => exact fun hnone => nomatch hnone
  | kept hkept => exact hkept p hp

theorem trans (h : Answered settings params passes item between)
    (hmore : Answered settings params more between final) :
    Answered settings params (passes ++ more) item final := by
  cases h with
  | replaced hp htag hreturns =>
    -- a literal is nobody's tag, so it stays what the first passes made of the item
    cases hmore with
    | replaced _ hnone _ => cases hnone
    | kept _ => exact .replaced (List.mem_append_left more hp) htag hreturns
  | kept hkept =>
    cases hmore with
    | replaced hp htag hreturns =>
      exact .replaced (List.mem_append_right passes hp) htag hreturns
    | kept hkept' =>
      refine .kept fun p hp => ?_
      rcases List.mem_append.mp hp with hfirst | hsecond
      · exact hkept p hfirst
      · exact hkept' p hsecond

end Answered

/-- The tags of other passes are the same before and after. -/
theorem Pass.calls_eq_of_answered {passes : List Pass} {items finals : List Item} {p : Pass}
    (h : List.Forall₂ (Answered settings params passes) items finals)
    (hp : ∀ q ∈ passes, q.tag ≠ p.tag) : p.calls params finals = p.calls params items := by
  induction h with
  | nil => rfl
  | @cons item final items finals hitem _ ih =>
    unfold calls at ih ⊢
    cases hitem with
    | kept _ => simp only [List.filter_cons, apply_ite (List.map _), List.map_cons, ih]
    | @replaced q out hq htag _ =>
      have hother : item.tag? ≠ some p.tag := by
        rw [htag]
        exact fun he => hp q hq (Option.some.inj he)
      have hliteral : (Item.literal out).tag? ≠ some p.tag := fun hnone => nomatch hnone
      rw [List.filter_cons_of_neg (by simpa using hliteral),
        List.filter_cons_of_neg (by simpa using hother), ih]

/-! ## Following passes -/

/-- A run of passes over the items of a document. -/
structure Followed (settings : Settings) (params : Option FilterParams) (passes : List Pass)
    (session : Session) (items finals : List Item) (after : Session) : Prop where
  run_eq : (passes.foldlM (Pass.answer params) items).run session = .ok finals after
  settings_eq : after.settings = .ok settings
  wellFormed : ∀ item ∈ finals, item.WellFormed settings.maxAttributesLength
  answered : List.Forall₂ (Answered settings params passes) items finals
  calls_eq : (∀ p ∈ passes, ∀ attributes body, Quiet (p.replace attributes body params)) →
    after.calls = session.calls ++ passes.flatMap (Pass.calls params items)

namespace Followed

variable {passes more : List Pass} {session middle after : Session}
  {items between finals : List Item}

theorem nil (hs : session.settings = .ok settings)
    (hitems : ∀ item ∈ items, item.WellFormed settings.maxAttributesLength) :
    Followed settings params [] session items items session where
  run_eq := rfl
  settings_eq := hs
  wellFormed := hitems
  answered := List.forall₂_same.mpr fun _ _ => .kept fun _ hp => nomatch hp
  calls_eq _ := (List.append_nil _).symm

/-- No tag of a pass is left over. -/
theorem tag?_ne (h : Followed settings params passes session items finals after) {p : Pass}
    (hp : p ∈ passes) : ∀ item ∈ finals, item.tag? ≠ some p.tag := by
  have hanswered := h.answered
  clear h
  induction hanswered with
  | nil => exact fun item hitem => nomatch hitem
  | cons hanswered _ ih => exact List.forall_mem_cons.mpr ⟨hanswered.tag?_ne hp, ih⟩

theorem trans (h : Followed settings params passes session items between middle)
    (hmore : Followed settings params more middle between finals after)
    (hdistinct : ∀ p ∈ passes, ∀ q ∈ more, p.tag ≠ q.tag) :
    Followed settings params (passes ++ more) session items finals after where
  run_eq := by
    rw [List.foldlM_append, Action.run_bind_of_ok h.run_eq, hmore.run_eq]
  settings_eq := hmore.settings_eq
  wellFormed := hmore.wellFormed
  answered := by
    have hfirst := h.answered
    have hsecond := hmore.answered
    clear h hmore
    induction hfirst generalizing finals with
    | nil => cases hsecond; exact .nil
    | cons hitem _ ih =>
      cases hsecond with
      | cons hfinal hrest => exact .cons (hitem.trans hfinal) (ih hrest)
  calls_eq := by
    intro hquiet
    have hfirst := h.calls_eq fun p hp => hquiet p (List.mem_append_left more hp)
    have hsecond := hmore.calls_eq fun p hp => hquiet p (List.mem_append_right passes hp)
    have hsame : more.flatMap (Pass.calls params between) =
        more.flatMap (Pass.calls params items) := by
      simp only [List.flatMap_def]
      refine congrArg List.flatten (List.map_congr_left fun q hq => ?_)
      exact Pass.calls_eq_of_answered h.answered fun p hp => hdistinct p hp q hq
    rw [hsecond, hfirst, hsame, List.flatMap_append, List.append_assoc]

end Followed

/-! ## One pass -/

namespace Pass

variable {p : Pass} {session middle after : Session} {items finals : List Item}

theorem foldlM_answer_singleton (p : Pass) (items : List Item) :
    [p].foldlM (answer params) items = p.answer params items := by
  simp only [List.foldlM_cons, List.foldlM_nil, bind_pure]

theorem run_answer (h : Followed settings params [p] session items finals after) :
    (p.answer params items).run session = .ok finals after := by
  rw [← foldlM_answer_singleton, h.run_eq]

/-- A pass over one item. -/
theorem followed_item {item : Item}
    (hharmless : ∀ attributes body, Harmless settings (p.replace attributes body params))
    (hitem : item.WellFormed settings.maxAttributesLength) (hs : session.settings = .ok settings) :
    ∃ final after, Followed settings params [p] session [item] [final] after := by
  have hone : [p].foldlM (answer params) [item] =
      (fun final => [final]) <$> item.answer p.tag (p.replace.noted params) := by
    rw [foldlM_answer_singleton, answer, List.mapM_cons, List.mapM_nil]
    simp only [pure_bind, map_eq_pure_bind]
  by_cases htag : item.tag? = some p.tag
  · -- the call is noted first, and the replacement runs in the session with the note
    let call : TagCall := ⟨item.attributes, item.body, params.isSome⟩
    let noted : Session := { session with calls := session.calls ++ [call] }
    have hnoted : noted.settings = .ok settings := hs
    obtain ⟨out, after, hrun, hafter, hout⟩ := hharmless item.attributes item.body noted hnoted
    have hanswered : Answered settings params [p] item (.literal out) :=
      .replaced List.mem_cons_self htag ⟨noted, after, hnoted, hrun⟩
    refine ⟨.literal out, after, ?_, hafter, ?_, .cons hanswered .nil, ?_⟩
    · rw [hone, Item.answer, if_pos htag, Functor.map_map, map_eq_pure_bind, TagFunction.noted,
        bind_assoc, Action.run_bind_of_ok (Action.run_noteCall call session),
        Action.run_bind_of_ok hrun]
      rfl
    · exact List.forall_mem_singleton.mpr (.literal hout)
    · intro hquiet
      rw [hquiet p List.mem_cons_self _ _ noted out after hrun]
      simp [calls, htag, noted, call]
  · have hanswered : Answered settings params [p] item item :=
      .kept fun q hq => by rw [List.mem_singleton.mp hq]; exact htag
    refine ⟨item, session, ?_, hs, ?_, .cons hanswered .nil, ?_⟩
    · rw [hone, Item.answer, if_neg htag]
      rfl
    · exact List.forall_mem_singleton.mpr hitem
    · intro _
      simp [calls, htag]

/-- A pass over some items and over those behind them. -/
theorem followed_append {others finals' : List Item}
    (hfirst : Followed settings params [p] session items finals middle)
    (hrest : Followed settings params [p] middle others finals' after) :
    Followed settings params [p] session (items ++ others) (finals ++ finals') after where
  run_eq := by
    have hitems := run_answer hfirst
    have hothers := run_answer hrest
    unfold answer at hitems hothers
    rw [foldlM_answer_singleton, answer, List.mapM_append, Action.run_bind_of_ok hitems,
      Action.run_bind_of_ok hothers]
    rfl
  settings_eq := hrest.settings_eq
  wellFormed := List.forall_mem_append.mpr ⟨hfirst.wellFormed, hrest.wellFormed⟩
  answered := List.rel_append hfirst.answered hrest.answered
  calls_eq := by
    intro hquiet
    rw [hrest.calls_eq hquiet, hfirst.calls_eq hquiet, List.append_assoc]
    simp only [List.flatMap_cons, List.flatMap_nil, List.append_nil, calls, List.filter_append,
      List.map_append]

/-- A pass over a list of items. -/
theorem exists_followed
    (hharmless : ∀ attributes body, Harmless settings (p.replace attributes body params))
    (hitems : ∀ item ∈ items, item.WellFormed settings.maxAttributesLength)
    (hs : session.settings = .ok settings) :
    ∃ finals after, Followed settings params [p] session items finals after := by
  induction items generalizing session with
  | nil =>
    refine ⟨[], session, rfl, hs, by simp, .nil, fun _ => ?_⟩
    simp [calls]
  | cons item rest ih =>
    obtain ⟨hitem, hrest⟩ := List.forall_mem_cons.mp hitems
    obtain ⟨final, middle, hfirst⟩ := followed_item hharmless hitem hs
    obtain ⟨finals, after, hothers⟩ := ih hrest hfirst.settings_eq
    exact ⟨final :: finals, after, followed_append hfirst hothers⟩

/-- A pass over the text of a document gives the text of what the pass over its items gives. -/
theorem run_rewrite_printed {items finals : List Item} {after : Session}
    (hspace : '<' ∉ settings.tagNamespace.toList) (hname : LowerWord p.name)
    (hitems : ∀ item ∈ items, item.WellFormed settings.maxAttributesLength)
    (hself : p.form = .opening → ∀ item ∈ items, item.tag? ≠ some (.selfClosing, p.name))
    (hrun : (p.answer params items).run session = .ok finals after) :
    (p.rewrite settings params (printed settings.tagNamespace.toList items)).run session =
      .ok (printed settings.tagNamespace.toList finals) after := by
  have hwalk : p.rewrite settings params (printed settings.tagNamespace.toList items) =
      printed settings.tagNamespace.toList <$> p.answer params items :=
    Tag.rewrite_printed hspace hname hitems hself
  rw [hwalk, map_eq_pure_bind, Action.run_bind_of_ok hrun]
  rfl

end Pass

/-! ## The passes of a filter -/

namespace Filter

/-- The passes of a filter: one for self-closing tags, and then one for pairs. -/
def passes (f : Filter) : List Pass :=
  match f.shortName, f.behavior with
  | .ok name, .expand replace =>
    [⟨.selfClosing, name.toList, replace⟩, ⟨.opening, name.toList, replace⟩]
  | _, _ => []

theorem passes_eq {f : Filter} {replace : TagFunction} {name : String}
    (hf : f.behavior = .expand replace) (hname : f.shortName = .ok name) :
    f.passes = [⟨.selfClosing, name.toList, replace⟩, ⟨.opening, name.toList, replace⟩] := by
  rw [passes, hname, hf]

theorem name_of_mem_passes {f : Filter} {p : Pass} (h : p ∈ f.passes) :
    ∃ name, f.data.shortName? = some name ∧ p.name = name.toList := by
  unfold passes at h
  split at h
  · next name replace hname _ =>
    refine ⟨name, shortName_eq_ok.mp hname, ?_⟩
    rcases List.mem_cons.mp h with rfl | h
    · rfl
    · rw [List.mem_singleton.mp h]
  · cases h

/-- Filters with different names have different tags. -/
theorem tag_ne_of_name_ne {f g : Filter} (hne : f.data.shortName? ≠ g.data.shortName?) :
    ∀ p ∈ f.passes, ∀ q ∈ g.passes, p.tag ≠ q.tag := by
  intro p hp q hq htag
  obtain ⟨name, hname, hpname⟩ := name_of_mem_passes hp
  obtain ⟨name', hname', hqname⟩ := name_of_mem_passes hq
  have hword : p.name = q.name := congrArg Prod.snd htag
  rw [hpname, hqname, String.toList_inj] at hword
  exact hne (by rw [hname, hname', hword])

/-- On a printed document a tag filter makes its two passes over the items. -/
theorem exists_followed {f : Filter} {replace : TagFunction} {name : String} {items : List Item}
    {session : Session} (hf : f.behavior = .expand replace) (hname : f.shortName = .ok name)
    (hharmless : ∀ attributes body, Harmless settings (replace attributes body params))
    (hspace : '<' ∉ settings.tagNamespace.toList)
    (hitems : ∀ item ∈ items, item.WellFormed settings.maxAttributesLength)
    (hs : session.settings = .ok settings)
    (stages : TagStage → Text → Option FilterParams → Action Text) :
    ∃ finals after,
      (f.run stages (printed settings.tagNamespace.toList items) params).run session =
        .ok (printed settings.tagNamespace.toList finals) after ∧
      Followed settings params f.passes session items finals after := by
  have hword := Descriptor.lowerWord_of_shortName? (shortName_eq_ok.mp hname)
  let first : Pass := ⟨.selfClosing, name.toList, replace⟩
  let second : Pass := ⟨.opening, name.toList, replace⟩
  have hpasses : f.passes = [first] ++ [second] := passes_eq hf hname
  obtain ⟨between, middle, hfirst⟩ := Pass.exists_followed (p := first) hharmless hitems hs
  obtain ⟨finals, after, hsecond⟩ :=
    Pass.exists_followed (p := second) hharmless hfirst.wellFormed hfirst.settings_eq
  -- what the first pass leaves for the second holds no self-closing tag of this name
  have hself : ∀ item ∈ between, item.tag? ≠ some (.selfClosing, name.toList) :=
    hfirst.tag?_ne (p := first) List.mem_cons_self
  have hrun := Pass.run_rewrite_printed (p := first) hspace hword hitems (fun h => nomatch h)
    (Pass.run_answer hfirst)
  have hrun' := Pass.run_rewrite_printed (p := second) hspace hword hfirst.wellFormed
    (fun _ => hself) (Pass.run_answer hsecond)
  refine ⟨finals, after, ?_, ?_⟩
  · rw [run_expand hf hname stages _ params hs,
      Tag.expand_eq_walk (replace.noted params) (plain_tagName hname hspace)]
    exact (Action.run_bind_of_ok hrun).trans hrun'
  · rw [hpasses]
    refine hfirst.trans hsecond fun p hp q hq htag => ?_
    have hform : TagForm.selfClosing = TagForm.opening := by
      rw [List.mem_singleton.mp hp, List.mem_singleton.mp hq] at htag
      exact congrArg Prod.fst htag
    cases hform

end Filter

end ContentFilters
