import ContentFilters.Proofs.Filter.ShortName
import ContentFilters.Proofs.Tag.Reading
import ContentFilters.Proofs.Tag.WrittenAttributes

/-!
# Documents of tags

A document is a list of items: literal texts, self-closing tags, and pairs of tags around a body.
It is printed and then walked over for the tags of one name in one form. The walk stops at exactly
the items that are such tags, reads from each the attributes and the body it was printed from, and
copies every other item, so that it is the walk over the list of items.

One thing is asked of the list: before pairs are looked for, no self-closing tag of the same name
may be left, since such a tag could open a pair.
-/
namespace ContentFilters.Tag

open Attributes (Written render ofWritten)

structure Printable (limit : Int) (written : List Written) : Prop where
  readable : ∀ w ∈ written, w.Readable
  lead : ∀ w ∈ written.head?, w.gap = ' ' ∨ w.gap = '\t'
  no_bracket : ∀ w ∈ written, ∀ c ∈ w.key ++ w.value, c ≠ '<' ∧ c ≠ '>'
  length_le : ((render written).length : Int) ≤ limit + 1

namespace Printable

variable {limit : Int} {written : List Written}

theorem ne_bracket (h : Printable limit written) : ∀ c ∈ render written, c ≠ '<' ∧ c ≠ '>' := by
  intro c hc
  obtain ⟨w, hw, hcw⟩ := List.mem_flatMap.mp hc
  have hgap : w.gap ≠ '<' ∧ w.gap ≠ '>' := by
    have hblank := (h.readable w hw).gap_blank
    constructor <;> (intro he; rw [he] at hblank; exact absurd hblank (by decide))
  have hquote : w.quote ≠ '<' ∧ w.quote ≠ '>' := by
    rcases (h.readable w hw).known_quote with hq | hq <;> rw [hq] <;> decide
  have hinner := h.no_bracket w hw
  simp only [Written.text, List.cons_append, List.append_assoc, List.mem_cons, List.mem_append,
    List.not_mem_nil, or_false] at hcw
  rcases hcw with rfl | hkey | rfl | rfl | hvalue | rfl
  · exact hgap
  · exact hinner c (List.mem_append_left _ hkey)
  · decide
  · exact hquote
  · exact hinner c (List.mem_append_right _ hvalue)
  · exact hquote

theorem acceptable (h : Printable limit written) : Acceptable limit (render written) where
  unclosed hmem := (h.ne_bracket _ hmem).2 rfl
  length_le := h.length_le
  lead := by
    cases written with
    | nil => exact .inl rfl
    | cons w rest =>
      have hgap := h.lead w rfl
      right
      rw [render, List.flatMap_cons, Attributes.Written.text_append, List.head?_cons]
      simpa using hgap

/-- An attribute text ends in a quote, if in anything, and so never in a slash. -/
theorem ne_concat_slash (h : Printable limit written) (a : Text) : render written ≠ a ++ ['/'] := by
  intro heq
  rcases List.eq_nil_or_concat written with rfl | ⟨front, w, rfl⟩
  · exact absurd heq.symm (by simp [render])
  · have hquote := (h.readable w (by simp)).known_quote
    have hlast := congrArg List.getLast? heq
    simp only [render, List.concat_eq_append, List.flatMap_append, List.flatMap_cons,
      List.flatMap_nil, List.append_nil, Written.text, List.getLast?_append, List.getLast?_cons,
      List.getLast?_nil, Option.getD_none, Option.some_or, Option.some.injEq] at hlast
    rcases hquote with hq | hq <;> rw [hq] at hlast <;> exact absurd hlast (by decide)

end Printable

inductive Item where
  | literal (text : Text)
  | selfClosing (name : Text) (written : List Written)
  | paired (name : Text) (written : List Written) (body : Text)

namespace Item

def text (space : Text) : Item → Text
  | literal text => text
  | selfClosing name written => TagName.head ⟨space, name⟩ ++ render written ++ ['/', '>']
  | paired name written body =>
    TagName.head ⟨space, name⟩ ++ render written ++ ['>'] ++ body ++ TagName.closing ⟨space, name⟩

def tag? : Item → Option (TagForm × Text)
  | literal _ => none
  | selfClosing name _ => some (.selfClosing, name)
  | paired name _ _ => some (.opening, name)

def attributes : Item → Attributes
  | literal _ => []
  | selfClosing _ written | paired _ written _ => ofWritten written

def body : Item → Text
  | literal _ | selfClosing _ _ => []
  | paired _ _ body => body

/-- Only tags hold opening brackets, and a tag is printed so that it can be read again. -/
inductive WellFormed (limit : Int) : Item → Prop
  | literal {text : Text} : '<' ∉ text → WellFormed limit (.literal text)
  | selfClosing {name : Text} {written : List Written} :
      LowerWord name → Printable limit written → WellFormed limit (.selfClosing name written)
  | paired {name : Text} {written : List Written} {body : Text} :
      LowerWord name → Printable limit written → '<' ∉ body →
        WellFormed limit (.paired name written body)

variable {m : Type → Type} [Monad m]

/-- Replaces an item if it is the tag in question. -/
def answer (tag : TagForm × Text) (replace : Replacement m) (item : Item) : m Item :=
  if item.tag? = some tag then literal <$> replace item.attributes item.body else pure item

end Item

def printed (space : Text) (items : List Item) : Text := items.flatMap (Item.text space)

/-! ## Heads -/

/-- Two words of the same kind of characters, each followed by something else, are equal if the
texts are. -/
theorem eq_of_append_eq {p : Char → Bool} {word word' rest rest' : Text}
    (hword : ∀ c ∈ word, p c = true) (hword' : ∀ c ∈ word', p c = true)
    (hrest : ∀ c ∈ rest.head?, p c = false) (hrest' : ∀ c ∈ rest'.head?, p c = false)
    (h : word ++ rest = word' ++ rest') : word = word' := by
  have hstop : ∀ s : Text, (∀ c ∈ s.head?, p c = false) → s.takeWhile p = [] := by
    intro s hs
    cases s with
    | nil => rfl
    | cons c cs => rw [List.takeWhile_cons_of_neg (by rw [hs c rfl]; decide)]
  have htake := congrArg (List.takeWhile p) h
  rwa [List.takeWhile_append_of_pos hword, List.takeWhile_append_of_pos hword', hstop _ hrest,
    hstop _ hrest', List.append_nil, List.append_nil] at htake

theorem not_isLowerLetter_of_endsName {after : Text} (h : endsName after = true) :
    ∀ c ∈ after.head?, Text.isLowerLetter c = false := by
  cases after with
  | nil => cases h
  | cons d rest =>
    intro c hc
    cases hc
    simp only [endsName, Bool.or_eq_true, decide_eq_true_eq] at h
    rcases h with ((rfl | rfl) | rfl) | rfl <;> decide

/-- A head tells its name. -/
theorem name_eq_of_head {space name name' after after' : Text} (hname : LowerWord name)
    (hname' : LowerWord name') (hends : endsName after = true) (hends' : endsName after' = true)
    (h : TagName.head ⟨space, name⟩ ++ after = TagName.head ⟨space, name'⟩ ++ after') :
    name = name' := by
  simp only [TagName.head, List.cons_append, List.append_assoc, List.cons.injEq, true_and,
    List.append_cancel_left_eq] at h
  exact eq_of_append_eq hname.letters hname'.letters (not_isLowerLetter_of_endsName hends)
    (not_isLowerLetter_of_endsName hends') h

/-- A closing half is no head, whatever the namespace: not even one of slashes. -/
theorem closing_append_ne_head {space name name' rest after : Text} :
    TagName.closing ⟨space, name⟩ ++ rest ≠ TagName.head ⟨space, name'⟩ ++ after := by
  have hslash : ∀ (word tail tail' : Text), '/' :: (word ++ tail) ≠ word ++ ':' :: tail' := by
    intro word tail tail' h
    induction word with
    | nil => cases h
    | cons c word ih =>
      obtain ⟨rfl, hword⟩ := List.cons.inj h
      exact ih hword
  intro h
  simp only [TagName.closing, TagName.head, List.cons_append, List.append_assoc, List.cons.injEq,
    true_and] at h
  exact hslash _ _ _ h

namespace Walk

def reader (name : TagName) (limit : Int) : TagForm → Reader
  | .selfClosing => selfClosingTags name limit
  | .opening => pairs name limit

variable {name : TagName} {limit : Int} {form : TagForm}

theorem head_of_read? {s : Text} {found : Text × Text × Text}
    (h : (reader name limit form).read? s = some found) :
    ∃ after, s = name.head ++ after ∧ endsName after = true := by
  obtain ⟨a, body, rest⟩ := found
  cases form with
  | selfClosing =>
    obtain ⟨hs, -, ha⟩ := read?_selfClosingTags_eq_some.mp h
    refine ⟨a ++ ['/'] ++ '>' :: rest, ?_, endsName_append ha .selfClosing rest⟩
    simp only [hs, List.append_assoc, List.cons_append, List.nil_append]
  | opening =>
    obtain ⟨hs, ha, -⟩ := read?_pairs_eq_some.mp h
    refine ⟨a ++ [] ++ '>' :: (body ++ name.closing ++ rest), ?_, endsName_append ha .opening _⟩
    simp only [hs, List.append_assoc, List.cons_append, List.nil_append]

theorem read?_eq_none_of_no_head {s : Text}
    (h : ∀ after, s = name.head ++ after → endsName after = true → False) :
    (reader name limit form).read? s = none := by
  cases hread : (reader name limit form).read? s with
  | none => rfl
  | some found =>
    obtain ⟨after, hs, hends⟩ := head_of_read? hread
    exact (h after hs hends).elim

section Blocks

variable {m : Type → Type} [Monad m] [LawfulMonad m] {replace : Replacement m}

/-- A stretch without opening brackets is copied. -/
theorem rewrite_block {block : Text} (h : '<' ∉ block) (rest : Text) :
    rewrite (reader name limit form) replace (block ++ rest) =
      (block ++ ·) <$> rewrite (reader name limit form) replace rest := by
  induction block with
  | nil => simp
  | cons c block ih =>
    obtain ⟨hc, hblock⟩ := not_or.mp (mt List.mem_cons.mpr h)
    have hnone : (reader name limit form).read? (c :: (block ++ rest)) = none :=
      read?_eq_none_of_no_head fun after hs _ => hc (List.cons.inj hs).1.symm
    rw [List.cons_append, rewrite_cons_of_none hnone, ih hblock]
    simp

/-- A stretch with an opening bracket at most at its start is copied if nothing is read there. -/
theorem rewrite_copied {block : Text} (h : '<' ∉ block.tail) {rest : Text}
    (hnone : (reader name limit form).read? (block ++ rest) = none) :
    rewrite (reader name limit form) replace (block ++ rest) =
      (block ++ ·) <$> rewrite (reader name limit form) replace rest := by
  cases block with
  | nil => simp
  | cons c block =>
    have hblock : '<' ∉ block := h
    rw [List.cons_append] at hnone ⊢
    rw [rewrite_cons_of_none hnone, rewrite_block hblock]
    simp

end Blocks

end Walk

/-! ## Items -/

namespace Item

open Walk (reader)

variable {space name : Text} {limit : Int} {form : TagForm} {item : Item}

/-- Where an item is the tag in question, it is read as it was printed. -/
theorem read?_text (hitem : item.WellFormed limit) (htag : item.tag? = some (form, name))
    (rest : Text) :
    ∃ a, (reader ⟨space, name⟩ limit form).read? (item.text space ++ rest) =
      some (a, item.body, rest) ∧ Attributes.parse a = item.attributes := by
  cases hitem with
  | literal _ => cases htag
  | @selfClosing _ written _ hwritten =>
    cases htag
    refine ⟨render written, ?_, Attributes.parse_render hwritten.readable⟩
    exact Walk.read?_selfClosingTags_eq_some.mpr ⟨rfl, rfl, hwritten.acceptable⟩
  | @paired _ written body _ hwritten hbody =>
    cases htag
    refine ⟨render written, ?_, Attributes.parse_render hwritten.readable⟩
    refine Walk.read?_pairs_eq_some.mpr ⟨rfl, hwritten.acceptable, ?_⟩
    -- the body holds no opening bracket, so the closing half found is the one printed behind it
    intro i hi hclosing
    rw [List.append_assoc, List.drop_append_of_le_length (Nat.le_of_lt hi),
      List.drop_eq_getElem_cons hi, List.cons_append] at hclosing
    have hbracket : '<' = body[i] := (List.cons_prefix_cons.mp hclosing).1
    exact hbody (hbracket ▸ List.getElem_mem hi)

/-- Nothing is read where a tag with another name starts. -/
theorem read?_other_name {other after : Text} (hname : LowerWord name) (hother : LowerWord other)
    (hne : other ≠ name) (hends : endsName after = true) :
    (reader ⟨space, name⟩ limit form).read? (TagName.head ⟨space, other⟩ ++ after) = none :=
  Walk.read?_eq_none_of_no_head fun _ hs hends' =>
    hne (name_eq_of_head hother hname hends hends' hs)

/-- Where a pair starts, no self-closing tag is read, even one with its name: the attribute text
reaches up to the first closing bracket, and no slash stands in front of that. -/
theorem read?_selfClosing_paired {written : List Written} (hwritten : Printable limit written)
    (after : Text) :
    (reader ⟨space, name⟩ limit .selfClosing).read?
      (TagName.head ⟨space, name⟩ ++ render written ++ '>' :: after) = none := by
  cases hread : (reader ⟨space, name⟩ limit .selfClosing).read?
      (TagName.head ⟨space, name⟩ ++ render written ++ '>' :: after) with
  | none => rfl
  | some found =>
    obtain ⟨a, body, rest⟩ := found
    obtain ⟨hs, -, ha⟩ := Walk.read?_selfClosingTags_eq_some.mp hread
    have hbracket : render written ++ '>' :: after = a ++ ['/'] ++ '>' :: rest := by
      simpa [List.append_assoc] using hs
    have hunclosed : '>' ∉ a ++ ['/'] := by simp [ha.unclosed]
    have hcut := Text.cutAt?_append hwritten.acceptable.unclosed after
    rw [hbracket, Text.cutAt?_append hunclosed rest] at hcut
    obtain ⟨heq, -⟩ := Prod.mk.inj (Option.some.inj hcut)
    exact (hwritten.ne_concat_slash a heq.symm).elim

theorem not_mem_opening {n tail : Text} {written : List Written} (hspace : '<' ∉ space)
    (hn : LowerWord n) (hwritten : Printable limit written) (htail : '<' ∉ tail) :
    '<' ∉ (TagName.head ⟨space, n⟩ ++ render written ++ tail).tail := by
  have hletters : '<' ∉ n := hn.not_mem (by decide)
  have hrender : '<' ∉ render written := fun hmem => (hwritten.ne_bracket _ hmem).1 rfl
  simp [TagName.head, hspace, hletters, hrender, htail]

theorem not_mem_closing {n : Text} (hspace : '<' ∉ space) (hn : LowerWord n) :
    '<' ∉ (TagName.closing ⟨space, n⟩).tail := by
  have hletters : '<' ∉ n := hn.not_mem (by decide)
  simp [TagName.closing, hspace, hletters]

variable {m : Type → Type} [Monad m] [LawfulMonad m] {replace : Replacement m}

/-- An item that is not the tag in question is copied. -/
theorem rewrite_other (hspace : '<' ∉ space) (hname : LowerWord name)
    (hitem : item.WellFormed limit) (htag : item.tag? ≠ some (form, name))
    (hself : form = .opening → item.tag? ≠ some (.selfClosing, name)) (rest : Text) :
    Walk.rewrite (reader ⟨space, name⟩ limit form) replace (item.text space ++ rest) =
      (item.text space ++ ·) <$> Walk.rewrite (reader ⟨space, name⟩ limit form) replace rest := by
  cases hitem with
  | literal hliteral => exact Walk.rewrite_block hliteral rest
  | @selfClosing n written hn hwritten =>
    have hne : n ≠ name := by
      rintro rfl
      cases form with
      | selfClosing => exact htag rfl
      | opening => exact hself rfl rfl
    apply Walk.rewrite_copied (not_mem_opening hspace hn hwritten (by decide))
    have hends := Walk.endsName_append hwritten.acceptable .selfClosing rest
    have htext : (selfClosing n written).text space ++ rest = TagName.head ⟨space, n⟩ ++
        (render written ++ TagForm.selfClosing.ending ++ '>' :: rest) := by
      simp only [text, TagForm.ending, List.append_assoc, List.cons_append, List.nil_append]
    rw [← text, htext]
    exact read?_other_name hname hn hne hends
  | @paired n written body hn hwritten hbody =>
    have hopening : '<' ∉ (TagName.head ⟨space, n⟩ ++ render written ++ '>' :: body).tail :=
      not_mem_opening hspace hn hwritten (by simp [hbody])
    have htext : (paired n written body).text space =
        (TagName.head ⟨space, n⟩ ++ render written ++ '>' :: body) ++
          TagName.closing ⟨space, n⟩ := by
      simp only [text, List.append_assoc, List.cons_append, List.nil_append]
    have hnone : (reader ⟨space, name⟩ limit form).read?
        (TagName.head ⟨space, n⟩ ++ render written ++ '>' :: body ++
          (TagName.closing ⟨space, n⟩ ++ rest)) = none := by
      rw [List.append_assoc, List.append_assoc, List.cons_append]
      by_cases hne : n = name
      · subst hne
        cases form with
        | selfClosing =>
          rw [← List.append_assoc]
          exact read?_selfClosing_paired hwritten _
        | opening => exact absurd rfl htag
      · exact read?_other_name hname hn hne
          (by simpa [TagForm.ending] using Walk.endsName_append hwritten.acceptable .opening _)
    rw [htext, List.append_assoc, Walk.rewrite_copied hopening hnone,
      Walk.rewrite_copied (not_mem_closing hspace hn)
        (Walk.read?_eq_none_of_no_head fun _ hs _ => closing_append_ne_head hs)]
    simp

/-- The walk over an item and what follows it. -/
theorem rewrite_text (hspace : '<' ∉ space) (hname : LowerWord name)
    (hitem : item.WellFormed limit)
    (hself : form = .opening → item.tag? ≠ some (.selfClosing, name)) (rest : Text) :
    Walk.rewrite (reader ⟨space, name⟩ limit form) replace (item.text space ++ rest) = do
      let final ← item.answer (form, name) replace
      let kept ← Walk.rewrite (reader ⟨space, name⟩ limit form) replace rest
      return final.text space ++ kept := by
  unfold answer
  split
  · next htag =>
    obtain ⟨a, hread, hparse⟩ := read?_text hitem htag rest
    rw [Walk.rewrite_of_some hread, hparse]
    simp [text]
  · next htag =>
    rw [rewrite_other hspace hname hitem htag hself]
    simp

end Item

/-- The walk over a printed document is the walk over its items. -/
theorem rewrite_printed {m : Type → Type} [Monad m] [LawfulMonad m] {replace : Replacement m}
    {space name : Text} {limit : Int} {form : TagForm} (hspace : '<' ∉ space)
    (hname : LowerWord name) {items : List Item} (hitems : ∀ item ∈ items, item.WellFormed limit)
    (hself : form = .opening → ∀ item ∈ items, item.tag? ≠ some (.selfClosing, name)) :
    Walk.rewrite (Walk.reader ⟨space, name⟩ limit form) replace (printed space items) =
      printed space <$> items.mapM (Item.answer (form, name) replace) := by
  induction items with
  | nil => simp [printed, Walk.rewrite_nil]
  | cons item rest ih =>
    have hitem := hitems item List.mem_cons_self
    have hrest := ih (fun other h => hitems other (List.mem_cons_of_mem item h))
      fun hform other h => hself hform other (List.mem_cons_of_mem item h)
    have htext : printed space (item :: rest) = item.text space ++ printed space rest :=
      List.flatMap_cons
    have hfirst : form = .opening → item.tag? ≠ some (.selfClosing, name) :=
      fun hform => hself hform item List.mem_cons_self
    rw [htext, Item.rewrite_text hspace hname hitem hfirst, hrest, List.mapM_cons]
    simp [printed]

end ContentFilters.Tag
