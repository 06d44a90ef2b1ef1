import ContentFilters.Html.Document.Scan
import ContentFilters.Proofs.Filter.Spelling
import ContentFilters.Proofs.Html.Elements
import ContentFilters.Proofs.Text.Cutting
import Mathlib.Data.List.Basic

/-!
# Where start tags come from

Whatever is read at a place of a document, reading goes on at an end of the text there. So every
start tag comes from an angle bracket in the document with a letter behind it, and its name is the
text that follows there, in lower case.
-/
namespace ContentFilters.Html.Document

/-! ## Reading goes on at an end of the text -/

theorem skipGap_suffix (s : Text) : skipGap s <:+ s := by
  fun_induction skipGap s with
  | case1 rest => exact List.suffix_rfl
  | case2 c rest _ _ ih => exact ih.trans (List.suffix_cons c rest)
  | case3 c rest => exact List.suffix_rfl
  | case4 => exact List.suffix_rfl

theorem value?_suffix {s value rest : Text} (h : value? s = some (value, rest)) : rest <:+ s := by
  unfold value? at h
  split at h
  · exact (Text.cutAt?_suffix h).trans (List.suffix_cons _ _)
  · exact (Text.cutAt?_suffix h).trans (List.suffix_cons _ _)
  · obtain ⟨-, rfl⟩ := Prod.mk.inj (Option.some.inj h)
    exact List.drop_suffix _ s

/-- The last of some equals signs stands before the text after them. -/
theorem lastSign_suffix {s : Text} (h : s.takeWhile (· = '=') ≠ []) :
    '=' :: s.drop (s.takeWhile (· = '=')).length <:+ s := by
  induction s with
  | nil => exact absurd rfl h
  | cons c rest ih =>
    by_cases hc : c = '='
    · subst hc
      rw [List.takeWhile_cons_of_pos (by decide), List.length_cons, List.drop_succ_cons]
      by_cases hrest : rest.takeWhile (· = '=') = []
      · rw [hrest]
        exact List.suffix_rfl
      · exact (ih hrest).trans (List.suffix_cons _ rest)
    · rw [List.takeWhile_cons_of_neg (by simpa using hc)] at h
      exact absurd rfl h

theorem assigned?_suffix {s value rest : Text} (h : assigned? s = some (value, rest)) :
    rest <:+ s := by
  unfold assigned? at h
  simp only at h
  split at h
  · cases h
  · next hsigns =>
    have hs : s.dropWhile Text.isBlank <:+ s := List.dropWhile_suffix Text.isBlank
    have hne : (s.dropWhile Text.isBlank).takeWhile (· = '=') ≠ [] := by simpa using hsigns
    have hsign := (lastSign_suffix hne).trans hs
    have hafter := (List.suffix_cons _ _).trans hsign
    have hinner := (List.dropWhile_suffix Text.isBlank).trans hafter
    split at h
    · next found hfound =>
      cases h
      exact (value?_suffix hfound).trans hinner
    · split at h
      · cases h
        exact hinner
      · split at h
        · exact (value?_suffix h).trans hsign
        · cases h

theorem attribute?_suffix {s : Text} {a : ReadAttribute} (h : attribute? s = some a) :
    a.rest <:+ s := by
  unfold attribute? at h
  split at h
  · cases h
  · next c rest =>
    split at h
    · cases h
    · refine List.IsSuffix.trans ?_ (List.suffix_cons c rest)
      simp only at h
      split at h
      · next value after hassigned =>
        cases h
        exact (assigned?_suffix hassigned).trans (List.drop_suffix _ rest)
      · cases h
        exact List.drop_suffix _ rest

theorem attributesOf_suffix (budget : Nat) (s : Text) : (attributesOf budget s).2 <:+ s := by
  induction budget generalizing s with
  | zero => exact List.suffix_rfl
  | succ budget ih =>
    rw [attributesOf]
    split
    · exact List.suffix_rfl
    · next a ha =>
      have hgap : skipGap a.rest <:+ s := (skipGap_suffix a.rest).trans (attribute?_suffix ha)
      simp only
      split
      · exact (ih (skipGap a.rest)).trans hgap
      · exact hgap

/-- A character more in front of what is cut off. -/
theorem suffix_of_map_cons {c : Char} {rest inner after : Text} {cut : Option (Text × Text)}
    (hcut : ∀ inner after, cut = some (inner, after) → after <:+ rest)
    (h : (cut.map fun p => (c :: p.1, p.2)) = some (inner, after)) : after <:+ c :: rest := by
  obtain ⟨⟨found, tail⟩, hfound, heq⟩ := Option.map_eq_some_iff.mp h
  cases heq
  exact (hcut found tail hfound).trans (List.suffix_cons c rest)

theorem cutComment?_suffix {s inner after : Text} (h : cutComment? s = some (inner, after)) :
    after <:+ s := by
  fun_induction cutComment? s generalizing inner after with
  | case1 rest tail hclosing =>
    cases h
    have htail : '>' :: tail <:+ rest := hclosing ▸ List.dropWhile_suffix Text.isBlank
    exact (List.suffix_cons '>' tail).trans
      (htail.trans ((List.suffix_cons '-' rest).trans (List.suffix_cons '-' _)))
  | case2 rest _ ih => exact suffix_of_map_cons (fun _ _ hcut => ih hcut) h
  | case3 c rest _ ih => exact suffix_of_map_cons (fun _ _ hcut => ih hcut) h
  | case4 => cases h

theorem closing_suffix {double : Bool} {c : Char} {rest after : Text}
    (h : cutSection?.closing double c rest = some after) : after <:+ rest := by
  have hinner : rest.dropWhile Text.isBlank <:+ rest := List.dropWhile_suffix Text.isBlank
  unfold cutSection?.closing at h
  split at h
  · cases h
  · simp only at h
    split at h
    · next tail hclosing =>
      cases h
      refine (List.suffix_cons '>' _).trans ?_
      split at hclosing
      · split at hclosing
        · next more hmore =>
          have hrest : more <:+ rest := (List.suffix_cons ']' more).trans (hmore ▸ hinner)
          rw [← Option.some.inj hclosing]
          exact (List.dropWhile_suffix Text.isBlank).trans hrest
        · cases hclosing
      · rw [← Option.some.inj hclosing]
        exact hinner
    · cases h

theorem cutSection?_suffix {double : Bool} {s inner after : Text}
    (h : cutSection? double s = some (inner, after)) : after <:+ s := by
  fun_induction cutSection? double s generalizing inner after with
  | case1 => cases h
  | case2 c rest tail hclosing =>
    cases h
    exact (closing_suffix hclosing).trans (List.suffix_cons c rest)
  | case3 c rest _ ih => exact suffix_of_map_cons (fun _ _ hcut => ih hcut) h

theorem afterScriptEnd?_suffix {letter : Char → Char} {name s after : Text}
    (h : afterScriptEnd? letter name s = some after) : after <:+ s := by
  unfold afterScriptEnd? at h
  split at h
  · next rest =>
    simp only at h
    split at h
    · split at h
      · next tail hclosing =>
        cases h
        have hinner : rest.dropWhile Text.isBlank <:+ '<' :: '/' :: rest :=
          (List.dropWhile_suffix Text.isBlank).trans
            ((List.suffix_cons '/' rest).trans (List.suffix_cons '<' _))
        have htail : '>' :: after <:+ (rest.dropWhile Text.isBlank).drop name.length :=
          hclosing ▸ List.dropWhile_suffix Text.isBlank
        exact (List.suffix_cons '>' after).trans
          (htail.trans ((List.drop_suffix name.length _).trans hinner))
      · cases h
    · cases h
  · cases h

theorem cutScript?_suffix {name s content after : Text}
    (h : cutScript? name s = some (content, after)) : after <:+ s := by
  fun_induction cutScript? name s generalizing content after with
  | case1 => cases h
  | case2 c rest tail hclosing =>
    cases h
    exact afterScriptEnd?_suffix hclosing
  | case3 c rest _ ih => exact suffix_of_map_cons (fun _ _ hcut => ih hcut) h

/-! ## The start tags of a reading -/

def startNames (tokens : List Token) : List Text :=
  tokens.filterMap fun
    | .startTag name _ _ => some name
    | _ => none

/-- Readings that go on at an end of a text and whose start tags have only certain names. -/
inductive Reading.Within (P : Text → Prop) (s : Text) : Reading → Prop
  | found {tokens : List Token} {rest : Text} : rest <:+ s → (∀ name ∈ startNames tokens, P name) →
      Within P s (.found tokens rest)
  | incomplete : Within P s .incomplete
  | rejected : Within P s .rejected

namespace Reading.Within

variable {P Q : Text → Prop} {s t : Text} {r : Reading}

theorem mono (h : r.Within P s) (hs : s <:+ t) (himp : ∀ name, P name → Q name) :
    r.Within Q t := by
  cases h with
  | found hrest hnames =>
    exact .found (hrest.trans hs) fun name hname => himp name (hnames name hname)
  | incomplete => exact .incomplete
  | rejected => exact .rejected

/-- A single token that is no start tag. -/
theorem single {token : Token} {rest : Text} (hrest : rest <:+ s)
    (htoken : startNames [token] = []) : (Reading.found [token] rest).Within P s :=
  .found hrest fun name hname => by
    rw [htoken] at hname
    cases hname

end Reading.Within

theorem within_upToBracket {P : Text → Prop} (s : Text) {make : Text → Token}
    (hmake : ∀ inner, startNames [make inner] = []) : (upToBracket s make).Within P s := by
  unfold upToBracket
  split
  · next inner after hcut => exact .single (Text.cutAt?_suffix hcut) (hmake inner)
  · exact .incomplete

theorem within_readSection {P : Text → Prop} (s : Text) : (readSection s).Within P s := by
  unfold readSection
  split
  · exact .incomplete
  · split
    · exact .rejected
    · simp only
      split
      · exact .incomplete
      · split
        · exact .rejected
        · split
          · exact .incomplete
          · next inner after hcut =>
            split
            · exact .single (cutSection?_suffix hcut) rfl
            · exact .single (cutSection?_suffix hcut) rfl

theorem within_readDeclaration {P : Text → Prop} (s : Text) : (readDeclaration s).Within P s := by
  unfold readDeclaration
  split
  · next rest =>
    have hrest : rest <:+ '-' :: '-' :: rest :=
      (List.suffix_cons '-' rest).trans (List.suffix_cons '-' _)
    split
    · next inner after hcut => exact .single ((cutComment?_suffix hcut).trans hrest) rfl
    · exact .incomplete
  · next rest => exact (within_readSection rest).mono (List.suffix_cons '[' rest) fun _ h => h
  · split
    · exact within_upToBracket s fun _ => rfl
    · exact within_upToBracket s fun _ => rfl

theorem within_readEndTag {P : Text → Prop} (s : Text) : (readEndTag s).Within P s := by
  unfold readEndTag
  split
  · exact .incomplete
  · next inner after hcut =>
    have hafter := Text.cutAt?_suffix hcut
    split
    · exact .single hafter rfl
    · split
      · exact .single hafter rfl
      · split
        · exact .found hafter fun _ hname => absurd hname List.not_mem_nil
        · exact .single hafter rfl

theorem startNames_withKept (name : Text) (attributes : List (Text × Text)) (rest : Text) :
    startNames [.startTag name attributes false] =
      startNames (.startTag name attributes false :: keptScript name rest) := by
  unfold keptScript
  split <;> rfl

theorem within_withScript {P : Text → Prop} {s : Text} {r : Reading} (h : r.Within P s) :
    (withScript r).Within P s := by
  unfold withScript
  split
  · next name attributes rest =>
    cases h with
    | found hrest hnames =>
      split
      · split
        · next content after hcut => exact .found ((cutScript?_suffix hcut).trans hrest) hnames
        · exact .found List.nil_suffix (startNames_withKept name attributes rest ▸ hnames)
      · exact .found hrest hnames
  · exact h

/-- The name of a start tag that begins, behind its angle bracket, with a text. -/
def nameOfTag (s : Text) : Text := Text.lower (s.takeWhile (!endsTagName ·))

theorem within_readStartTag (s : Text) : (readStartTag s).Within (· = nameOfTag s) s := by
  unfold readStartTag
  simp only
  generalize hgap : skipGap (s.drop (s.takeWhile (!endsTagName ·)).length) = gap
  have hgapEnd : gap <:+ s := hgap ▸ (skipGap_suffix _).trans (List.drop_suffix _ s)
  generalize hfound : (if ((lastPassed? s gap).map separates).getD false then
    attributesOf gap.length gap else ([], gap)) = found
  have hrest : found.2 <:+ s := by
    rw [← hfound]
    split
    · exact (attributesOf_suffix gap.length gap).trans hgapEnd
    · exact hgapEnd
  have hafter : found.2.dropWhile Text.isBlank <:+ s :=
    (List.dropWhile_suffix Text.isBlank).trans hrest
  split
  · next after hclosing =>
    rw [hclosing] at hafter
    exact .found ((List.suffix_cons _ _).trans hafter) fun name hname => List.mem_singleton.mp hname
  · next after hclosing =>
    rw [hclosing] at hafter
    exact .found ((List.suffix_cons _ _).trans ((List.suffix_cons _ _).trans hafter))
      fun name hname => List.mem_singleton.mp hname
  · split
    · exact .incomplete
    · exact .single hafter rfl

/-- A start tag is read only at a letter, and has the name that follows there. -/
theorem within_readMarkup (s : Text) :
    (readMarkup s).Within (fun name => (s.head?.map Text.isLetter).getD false ∧ name = nameOfTag s)
      s := by
  unfold readMarkup
  split
  · next rest => exact (within_readEndTag rest).mono (List.suffix_cons _ rest) fun _ h => h
  · next rest => exact (within_readDeclaration rest).mono (List.suffix_cons _ rest) fun _ h => h
  · next rest =>
    exact (within_upToBracket rest fun _ => rfl).mono (List.suffix_cons _ rest) fun _ h => h
  · next c rest _ _ _ =>
    split
    · next hletter =>
      have hstart := within_withScript (within_readStartTag (c :: rest))
      exact hstart.mono List.suffix_rfl fun name hname => ⟨hletter, hname⟩
    · exact .single List.suffix_rfl rfl
  · exact .incomplete

/-! ## References and incomplete constructs -/

theorem numbered?_suffix {base : Nat} {p : Char → Bool} {s characters after : Text}
    (h : numbered? base p s = some (characters, after)) : after <:+ s := by
  unfold numbered? at h
  simp only at h
  have hdrop : s.drop (s.takeWhile p).length <:+ s := List.drop_suffix _ s
  split at h
  · cases h
  · next c rest hrest =>
    split at h
    · cases h
    · rw [hrest] at hdrop
      obtain ⟨-, rfl⟩ := Prod.mk.inj (Option.some.inj h)
      split
      · exact (List.suffix_cons c rest).trans hdrop
      · exact hdrop

theorem brokenOff_suffix (s : Text) : (brokenOff s).2 <:+ s := by
  unfold brokenOff
  split
  · next inner after hcut => exact Text.cutAt?_suffix hcut
  · split
    · next inner after hcut =>
      rw [Text.append_of_cutAt? hcut]
      exact List.suffix_append inner _
    · exact List.suffix_rfl

/-- Where reading goes on after a reference; without one the ampersand may be read again. -/
def ReferenceReading.rest : ReferenceReading → Text
  | .found _ rest => rest
  | .stuck _ rest => rest

theorem readReference_suffix (s : Text) : (readReference s).rest <:+ '&' :: s := by
  have hs : s <:+ '&' :: s := List.suffix_cons '&' s
  unfold readReference
  split
  · next rest =>
    have hrest : rest <:+ '&' :: '#' :: rest := (List.suffix_cons '#' rest).trans hs
    simp only
    split
    · next characters after hnumbered =>
      refine List.IsSuffix.trans ?_ hrest
      split at hnumbered
      · exact (numbered?_suffix hnumbered).trans (List.suffix_cons _ _)
      · exact (numbered?_suffix hnumbered).trans (List.suffix_cons _ _)
      · exact numbered?_suffix hnumbered
    · split
      · exact hrest
      · exact List.suffix_rfl
  · exact List.suffix_rfl
  · next c tail _ =>
    split
    · exact hs
    · simp only
      have hdrop := (List.drop_suffix ((c :: tail).takeWhile isReferenceChar).length _).trans hs
      split
      · next d rest hd =>
        rw [hd] at hdrop
        split
        · exact (List.suffix_cons d rest).trans hdrop
        · exact hdrop
      · split
        · exact (List.drop_suffix _ _).trans hs
        · split
          · exact hs
          · exact List.suffix_rfl

/-! ## All tokens -/

/-- A start tag that begins at an angle bracket of a text with a letter behind it. -/
def BeginsIn (s name : Text) : Prop :=
  ∃ rest, '<' :: rest <:+ s ∧ (rest.head?.map Text.isLetter).getD false ∧ name = nameOfTag rest

theorem BeginsIn.mono {s t name : Text} (h : BeginsIn s name) (hs : s <:+ t) : BeginsIn t name := by
  obtain ⟨rest, hrest, hletter, hname⟩ := h
  exact ⟨rest, hrest.trans hs, hletter, hname⟩

theorem startNames_append (before after : List Token) :
    startNames (before ++ after) = startNames before ++ startNames after :=
  List.filterMap_append

/-- Text in front of what is read brings no start tag. -/
theorem beginsIn_of_map_text {s t shown : Text} {read : Option (List Token)} {tokens : List Token}
    (hread : ∀ tokens, read = some tokens → ∀ name ∈ startNames tokens, BeginsIn t name)
    (hs : t <:+ s) (h : (read.map (.text shown :: ·)) = some tokens) :
    ∀ name ∈ startNames tokens, BeginsIn s name := by
  obtain ⟨others, hothers, rfl⟩ := Option.map_eq_some_iff.mp h
  exact fun name hname => (hread others hothers name hname).mono hs

/-- All start tags begin at angle brackets of the text. -/
theorem beginsIn_of_tokensFrom {budget : Nat} {patient : Bool} {s : Text} {tokens : List Token}
    (h : tokensFrom budget patient s = some tokens) :
    ∀ name ∈ startNames tokens, BeginsIn s name := by
  fun_induction tokensFrom budget patient s generalizing tokens with
  | case1 patient s =>
    cases h
    exact fun _ hname => absurd hname List.not_mem_nil
  | case2 budget patient =>
    cases h
    exact fun _ hname => absurd hname List.not_mem_nil
  | case3 budget patient rest found after hread ih =>
    obtain ⟨others, hothers, rfl⟩ := Option.map_eq_some_iff.mp h
    have hwithin := within_readMarkup rest
    rw [hread] at hwithin
    cases hwithin with
    | found hafter hnames =>
      rw [startNames_append]
      refine List.forall_mem_append.mpr ⟨fun name hname => ?_, fun name hname => ?_⟩
      · exact ⟨rest, List.suffix_rfl, hnames name hname⟩
      · exact (ih hothers name hname).mono (hafter.trans (List.suffix_cons '<' rest))
  | case4 budget patient rest hread => cases h
  | case5 budget rest hread ih => exact ih h
  | case6 budget patient rest hread _ shown after hbroken ih =>
    have hafter : after <:+ rest := by
      have hsuffix := brokenOff_suffix rest
      rwa [hbroken] at hsuffix
    exact beginsIn_of_map_text (fun _ => ih) (hafter.trans (List.suffix_cons '<' rest)) h
  | case7 budget patient rest characters after hread ih =>
    have hafter := readReference_suffix rest
    rw [hread] at hafter
    exact beginsIn_of_map_text (fun _ => ih) hafter h
  | case8 budget rest passed after hread ih =>
    have hafter := readReference_suffix rest
    rw [hread] at hafter
    exact beginsIn_of_map_text (fun _ => ih) hafter h
  | case9 budget patient rest passed after hread _ =>
    cases h
    exact fun _ hname => absurd hname List.not_mem_nil
  | case10 budget patient c rest _ _ ih =>
    have hafter := (List.dropWhile_suffix isPlain).trans (List.suffix_cons c rest)
    exact beginsIn_of_map_text (fun _ => ih) hafter h

/-- Every element of a document begins at an angle bracket of the text it was read from. -/
theorem beginsIn_of_mem_elements {s : Text} {tokens : List Token} (h : tokens? s = some tokens) :
    ∀ e ∈ elements (nodes tokens), BeginsIn s e.1 := by
  refine forall_elements_nodes (P := fun name _ => BeginsIn s name) fun name _ _ hmem => ?_
  exact beginsIn_of_tokensFrom h name (List.mem_filterMap.mpr ⟨_, hmem, rfl⟩)

/-! ## The first letter of a name -/

theorem eq_or_eq_of_lowerAscii {c : Char} (h : Text.lowerAscii c = 'a') : c = 'a' ∨ c = 'A' := by
  unfold Text.lowerAscii at h
  split at h
  · next hcapital =>
    simp only [Bool.and_eq_true, decide_eq_true_eq] at hcapital
    have hcode : ∀ n < 91, 65 ≤ n → Char.ofNat (n + 32) = 'a' → n = 65 := by decide
    have hnat : c.toNat = 65 := hcode c.toNat (by omega) hcapital.1 h
    exact .inr (by rw [← Char.ofNat_toNat c, hnat])
  · exact .inl h

theorem endsTagName_of_isLetter {c : Char} (h : Text.isLetter c = true) :
    endsTagName c = false := by
  have hother : ∀ d : Char, Text.isLetter d = false → c ≠ d := by
    rintro d hd rfl
    rw [h] at hd
    cases hd
  have hcode : c.toNat ≠ 0xC ∧ c.toNat ≠ 0 := by
    simp only [Text.isLetter, Bool.or_eq_true, Bool.and_eq_true, decide_eq_true_eq] at h
    omega
  simp [endsTagName, hcode, hother '\t' rfl, hother '\n' rfl, hother '\r' rfl, hother ' ' rfl,
    hother '/' rfl, hother '>' rfl]

/-- The name of a tag begins with the letter behind its angle bracket, in lower case. -/
theorem head?_nameOfTag {c : Char} (h : Text.isLetter c = true) (rest : Text) :
    (nameOfTag (c :: rest)).head? = some (Text.lowerAscii c) := by
  have hascii := Text.lt_of_isLetter h
  have hsigma : c ≠ 'Σ' := by
    rintro rfl
    exact absurd hascii (by decide)
  have hdotted : c.toNat ≠ 0x130 := by omega
  have hchar : Text.lowerChar c = Text.lowerAscii c := if_pos hascii
  rw [nameOfTag, List.takeWhile_cons_of_pos (by simp [endsTagName_of_isLetter h]), Text.lower,
    Text.lowerAfter, if_neg hsigma, if_neg hdotted, hchar]
  rfl

end ContentFilters.Html.Document
