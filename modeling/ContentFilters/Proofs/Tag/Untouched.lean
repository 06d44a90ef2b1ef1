import ContentFilters.Proofs.Tag.Document
import ContentFilters.Proofs.Text.Pieces

/-!
# Texts that expansion leaves alone

Two kinds of texts are walked over here. In a headless one no opening bracket leads to a colon, as
in markup whose tags have no prefix: no tag starts in it, whatever its name, and it stays as it is.
The other is a lone pair of tags around a body that holds neither half of such a pair: it is
replaced as a whole, and its body is handed over as it stands, whatever other tags are in it.
-/
namespace ContentFilters.Tag

/-! ## Headless texts -/

/-- Whether a blank or a closing bracket comes before any colon. -/
def stopsEarly : Text → Bool
  | [] => false
  | c :: rest => c = ' ' || c = '>' || (c ≠ ':' && stopsEarly rest)

/-- Whether no opening bracket leads to a colon before a blank or a closing bracket. -/
def headless : Text → Bool
  | [] => true
  | c :: rest => (c ≠ '<' || stopsEarly rest) && headless rest

theorem stopsEarly_append {s : Text} (h : stopsEarly s = true) (t : Text) :
    stopsEarly (s ++ t) = true := by
  induction s with
  | nil => cases h
  | cons c rest ih =>
    simp only [stopsEarly, Bool.or_eq_true, Bool.and_eq_true] at h
    simp only [List.cons_append, stopsEarly, Bool.or_eq_true, Bool.and_eq_true]
    exact h.imp_right fun hrest => ⟨hrest.1, ih hrest.2⟩

/-- A prefix without blanks and closing brackets reaches its colon. -/
theorem stopsEarly_prefixed {space : Text} (hblank : ' ' ∉ space) (hbracket : '>' ∉ space)
    (rest : Text) : stopsEarly (space ++ ':' :: rest) = false := by
  induction space with
  | nil => rfl
  | cons c space ih =>
    obtain ⟨hc, hblank⟩ := not_or.mp (mt List.mem_cons.mpr hblank)
    obtain ⟨hc', hbracket⟩ := not_or.mp (mt List.mem_cons.mpr hbracket)
    simp [stopsEarly, Ne.symm hc, Ne.symm hc', ih hblank hbracket]

theorem headless_append {s t : Text} (hs : headless s = true) (ht : headless t = true) :
    headless (s ++ t) = true := by
  induction s with
  | nil => exact ht
  | cons c rest ih =>
    simp only [headless, Bool.and_eq_true, Bool.or_eq_true] at hs
    simp only [List.cons_append, headless, Bool.and_eq_true, Bool.or_eq_true]
    exact ⟨hs.1.imp_right fun hstop => stopsEarly_append hstop t, ih hs.2⟩

theorem headless_of_not_mem {s : Text} (h : '<' ∉ s) : headless s = true := by
  induction s with
  | nil => rfl
  | cons c rest ih =>
    obtain ⟨hc, hrest⟩ := not_or.mp (mt List.mem_cons.mpr h)
    simp [headless, Ne.symm hc, ih hrest]

theorem headless_of_append {s t : Text} (h : headless (s ++ t) = true) : headless t = true := by
  induction s with
  | nil => exact h
  | cons c rest ih =>
    simp only [List.cons_append, headless, Bool.and_eq_true] at h
    exact ih h.2

theorem headless_join {separator : Text} (hseparator : headless separator = true)
    {pieces : List Text} (h : ∀ piece ∈ pieces, headless piece = true) :
    headless (Text.join separator pieces) = true :=
  Text.join_induction (P := fun s => headless s = true) rfl (fun _ _ => headless_append) hseparator h

/-- A headless text holds no head, whatever the name of the tag. -/
theorem not_head_infix {s space : Text} (hs : headless s = true) (hblank : ' ' ∉ space)
    (hbracket : '>' ∉ space) (name : Text) : ¬ TagName.head ⟨space, name⟩ <:+: s := by
  rintro ⟨before, after, rfl⟩
  have htail : headless ('<' :: (space ++ ':' :: (name ++ after))) = true := by
    have hsplit : headless (before ++ '<' :: (space ++ ':' :: (name ++ after))) = true := by
      simpa [TagName.head] using hs
    exact headless_of_append hsplit
  simp only [headless, Bool.and_eq_true, stopsEarly_prefixed hblank hbracket] at htail
  exact absurd htail.1 (by decide)

/-! ## A pattern and what follows a text -/

/-- A pattern with an opening bracket at most at its start does not reach over the next one. -/
theorem isPrefix_of_isPrefix_append {pattern s t : Text} (hpattern : '<' ∉ pattern.tail)
    (hs : s ≠ []) (h : pattern <+: s ++ '<' :: t) : pattern <+: s := by
  rcases List.prefix_or_prefix_of_prefix h (List.prefix_append s ('<' :: t)) with hp | ⟨more, hmore⟩
  · exact hp
  · cases more with
    | nil => exact ⟨[], by rw [List.append_nil, ← hmore, List.append_nil]⟩
    | cons c more =>
      have hc : '<' = c := by
        rw [← hmore, List.prefix_append_right_inj] at h
        exact (List.cons_prefix_cons.mp h).1.symm
      refine absurd ?_ hpattern
      cases s with
      | nil => exact absurd rfl hs
      | cons d s =>
        rw [← hmore, hc]
        simp

/-- If a pattern stands nowhere in a text, it starts nowhere in it either, up to the next opening
bracket behind it. -/
theorem not_isPrefix_drop_append {pattern s t : Text} (hpattern : '<' ∉ pattern.tail)
    (h : ¬ pattern <:+: s) {i : Nat} (hi : i < s.length) :
    ¬ pattern <+: (s ++ '<' :: t).drop i := by
  intro hprefix
  rw [List.drop_append_of_le_length (Nat.le_of_lt hi)] at hprefix
  have hne : s.drop i ≠ [] := by simpa using hi
  have hinside := isPrefix_of_isPrefix_append hpattern hne hprefix
  exact h (hinside.isInfix.trans (List.drop_suffix i s).isInfix)

namespace Walk

variable {m : Type → Type} [Monad m] [LawfulMonad m] {replace : Replacement m} {limit : Int}

/-- A headless text stays as it is, and nothing is asked to be replaced. -/
theorem expand_of_headless {space s : Text} (hs : headless s = true) (hblank : ' ' ∉ space)
    (hbracket : '>' ∉ space) (name : Text) :
    expand ⟨space, name⟩ limit replace s = pure s := by
  have hnone : ∀ form i, (reader ⟨space, name⟩ limit form).read? (s.drop i) = none := by
    refine fun form i => read?_eq_none_of_no_head fun after hafter _ => ?_
    have hhead : TagName.head ⟨space, name⟩ <:+: s.drop i := ⟨[], after, hafter.symm⟩
    exact not_head_infix hs hblank hbracket name
      (hhead.trans (List.drop_suffix i s).isInfix)
  have hself : expandSelfClosing ⟨space, name⟩ limit replace s = pure s :=
    rewrite_of_all_none (hnone .selfClosing)
  have hpaired : expandPaired ⟨space, name⟩ limit replace s = pure s :=
    rewrite_of_all_none (hnone .opening)
  rw [expand, hself, pure_bind, hpaired]

section LonePair

variable {space name body : Text}

/-- The pass over self-closing tags leaves a lone pair alone. -/
theorem expandSelfClosing_lone_pair (hspace : '<' ∉ space) (hname : LowerWord name)
    (hlimit : 0 ≤ limit + 1) (hhead : ¬ TagName.head ⟨space, name⟩ <:+: body) :
    expandSelfClosing ⟨space, name⟩ limit replace
        (TagName.head ⟨space, name⟩ ++ '>' :: body ++ TagName.closing ⟨space, name⟩) =
      pure (TagName.head ⟨space, name⟩ ++ '>' :: body ++ TagName.closing ⟨space, name⟩) := by
  have hletters : '<' ∉ name := hname.not_mem (by decide)
  have htail : '<' ∉ (TagName.head ⟨space, name⟩).tail := by simp [TagName.head, hspace, hletters]
  have hopening : '<' ∉ (TagName.head ⟨space, name⟩ ++ ['>']).tail := by
    simp [TagName.head, hspace, hletters]
  have hbare : Printable limit [] := ⟨by simp, by simp, by simp, hlimit⟩
  have hstart : (reader ⟨space, name⟩ limit .selfClosing).read?
      (TagName.head ⟨space, name⟩ ++ ['>'] ++ (body ++ TagName.closing ⟨space, name⟩)) = none := by
    have hpaired : (reader ⟨space, name⟩ limit .selfClosing).read?
        (TagName.head ⟨space, name⟩ ++ Attributes.render [] ++
          '>' :: (body ++ TagName.closing ⟨space, name⟩)) = none :=
      Item.read?_selfClosing_paired hbare _
    simpa [Attributes.render] using hpaired
  have hbody : ∀ i < body.length, (reader ⟨space, name⟩ limit .selfClosing).read?
      ((body ++ TagName.closing ⟨space, name⟩).drop i) = none := by
    refine fun i hi => read?_eq_none_of_no_head fun after hafter _ => ?_
    exact not_isPrefix_drop_append htail hhead hi ⟨after, hafter.symm⟩
  have hclosing : rewrite (reader ⟨space, name⟩ limit .selfClosing) replace
      (TagName.closing ⟨space, name⟩) = pure (TagName.closing ⟨space, name⟩) := by
    have hnone : (reader ⟨space, name⟩ limit .selfClosing).read?
        (TagName.closing ⟨space, name⟩ ++ []) = none :=
      read?_eq_none_of_no_head fun _ hs _ => closing_append_ne_head hs
    have hcopied : rewrite (reader ⟨space, name⟩ limit .selfClosing) replace
        (TagName.closing ⟨space, name⟩ ++ []) =
          (TagName.closing ⟨space, name⟩ ++ ·) <$> pure [] := by
      rw [rewrite_copied (Item.not_mem_closing hspace hname) hnone, rewrite_nil]
    simpa using hcopied
  have htext : TagName.head ⟨space, name⟩ ++ '>' :: body ++ TagName.closing ⟨space, name⟩ =
      TagName.head ⟨space, name⟩ ++ ['>'] ++ (body ++ TagName.closing ⟨space, name⟩) := by simp
  show rewrite (reader ⟨space, name⟩ limit .selfClosing) replace _ = _
  rw [htext, rewrite_copied hopening hstart, rewrite_skip (n := body.length) (by simp) hbody,
    List.drop_left, List.take_left, hclosing]
  simp

/-- A lone pair is replaced as a whole. -/
theorem expandPaired_lone_pair (hspace : '<' ∉ space) (hname : LowerWord name)
    (hlimit : 0 ≤ limit + 1) (hclosing : ¬ TagName.closing ⟨space, name⟩ <:+: body) :
    expandPaired ⟨space, name⟩ limit replace
        (TagName.head ⟨space, name⟩ ++ '>' :: body ++ TagName.closing ⟨space, name⟩) =
      replace [] body := by
  have hread : (pairs ⟨space, name⟩ limit).read?
      (TagName.head ⟨space, name⟩ ++ '>' :: body ++ TagName.closing ⟨space, name⟩) =
      some ([], body, []) := by
    refine read?_pairs_eq_some.mpr ⟨by simp, ⟨by simp, hlimit, .inl rfl⟩, fun i hi => ?_⟩
    rw [List.append_nil]
    exact not_isPrefix_drop_append (Item.not_mem_closing hspace hname) hclosing hi
  have hparse : Attributes.parse [] = [] := by
    rw [Attributes.parse, Attributes.pairs_nil, Attributes.pairs_nil]
    rfl
  rw [expandPaired, rewrite_of_some hread, hparse, rewrite_nil]
  simp

/-- A lone pair is replaced as a whole, by what is given for its body as it stands. -/
theorem expand_lone_pair (hspace : '<' ∉ space) (hname : LowerWord name) (hlimit : 0 ≤ limit + 1)
    (hhead : ¬ TagName.head ⟨space, name⟩ <:+: body)
    (hclosing : ¬ TagName.closing ⟨space, name⟩ <:+: body) :
    expand ⟨space, name⟩ limit replace
        (TagName.head ⟨space, name⟩ ++ '>' :: body ++ TagName.closing ⟨space, name⟩) =
      replace [] body := by
  rw [expand, expandSelfClosing_lone_pair hspace hname hlimit hhead, pure_bind,
    expandPaired_lone_pair hspace hname hlimit hclosing]

end LonePair

end Walk

end ContentFilters.Tag
