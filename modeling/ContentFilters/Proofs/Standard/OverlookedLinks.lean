import ContentFilters.Proofs.Html.StartTags
import ContentFilters.Proofs.Standard.RefusedAddresses
import ContentFilters.Proofs.Text.Cutting

/-!
# Overlooked links

A text is read for links only if an angle bracket with a small `a` behind it occurs in it. Tags may
be written in capitals, and a link in such a tag is overlooked unless a small one occurs somewhere
in the text. Nothing else is: where neither occurs, the document has no element of that name, and
where a small one occurs, all links of the document are marked, however their tags are written.
-/
namespace ContentFilters.Standard.OffsiteLinks

open Html.Document

/-- Tools that read tags where they stand: each element of a document begins in the text, at an
angle bracket with its name behind it in any case of the letters. -/
def ReadsTags (tools : Tools) : Prop :=
  ∀ text nodes, tools.readDocument text = .ok nodes → ∀ e ∈ elements nodes, BeginsIn text e.1

/-- An element of the name of links begins with one of the two spellings of its tag. -/
theorem occursIn_of_link {text : Text} (h : BeginsIn text ['a']) :
    Text.occursIn ['<', 'a'] text = true ∨ Text.occursIn ['<', 'A'] text = true := by
  obtain ⟨rest, hrest, hletter, hname⟩ := h
  cases rest with
  | nil => cases hletter
  | cons c tail =>
    have hhead := head?_nameOfTag hletter tail
    rw [← hname] at hhead
    have hlower : Text.lowerAscii c = 'a' := (Option.some.inj hhead).symm
    rcases eq_or_eq_of_lowerAscii hlower with rfl | rfl
    · exact .inl (Text.occursIn_of_suffix tail hrest)
    · exact .inr (Text.occursIn_of_suffix tail hrest)

/-- Elements with an address have the name of links. -/
theorem Offsite.name_eq {split : Text → Except AddressError Address} {siteHost name : Text}
    {attributes : Attributes} (h : Offsite split siteHost name attributes) : name = ['a'] := by
  obtain ⟨href, address, hhref, -⟩ := h
  unfold address? at hhref
  split at hhref
  · assumption
  · cases hhref

/-- Whatever the filter makes of a text in which a small `a` or no capital one follows an angle
bracket: either nothing was to be done, since no link in the document leaves the site, and the text
is unchanged, or the result is the written form of the document with all those links marked and
nothing else changed. -/
theorem transform_overlooks_nothing {tools : Tools} (htools : ReadsTags tools)
    (params : Option FilterParams) {text result : Text} {nodes : List Node}
    (hread : tools.readDocument text = .ok nodes)
    (hspelling : Text.occursIn ['<', 'a'] text = true ∨ Text.occursIn ['<', 'A'] text = false)
    (h : transform tools text params = .ok result) :
    (result = text ∧ ∀ name attributes, (name, attributes) ∈ elements nodes →
      ¬Offsite tools.splitAddress (configuredHost params) name attributes) ∨
    ∃ change, tools.writeDocument (mapAttributes change nodes) = .ok result ∧
      ∀ name attributes,
        (Offsite tools.splitAddress (configuredHost params) name attributes →
          Marked (configured params) attributes (change name attributes)) ∧
        (¬Offsite tools.splitAddress (configuredHost params) name attributes →
          change name attributes = attributes) := by
  rw [transform_eq] at h
  split at h
  · right
    refine ⟨outcome (configured params) tools.splitAddress, writeDocument_of_mark hread h, ?_⟩
    exact fun name attributes =>
      ⟨marked_outcome tools.splitAddress, outcome_of_not_offsite tools.splitAddress⟩
  · next hsmall =>
    left
    refine ⟨(Except.ok.inj h).symm, fun name attributes hmem hoffsite => ?_⟩
    rw [hoffsite.name_eq] at hmem
    rcases occursIn_of_link (htools text nodes hread _ hmem) with hfound | hfound
    · exact hsmall hfound
    · rw [hspelling.resolve_left hsmall] at hfound
      cases hfound

theorem readsTags_bundled : ReadsTags .bundled := by
  intro text read hread
  obtain ⟨tokens, htokens, rfl⟩ := exists_of_readDocument_bundled hread
  exact beginsIn_of_mem_elements htokens

def capitalLink : Text := "<A HREF=\"http://x.org/\">t</A>".toList

def capitalAttributes : Attributes := [("href".toList, .text "http://x.org/".toList)]

def capitalTokens : List Token :=
  [.startTag ['a'] [("href".toList, "http://x.org/".toList)] false, .text ['t'], .endTag ['a']]

/-- The same link with a small `a` in a tag behind it. -/
def mixedLinks : Text := "<A HREF=\"http://x.org/\">t</A><a>".toList

def mixedTokens : List Token := capitalTokens ++ [.startTag ['a'] [] false]

theorem readDocument_mixedLinks :
    Tools.bundled.readDocument mixedLinks = .ok (nodes mixedTokens) :=
  readDocument_bundled (show tokens? mixedLinks = some mixedTokens by decide +kernel)

theorem readDocument_capitalLink :
    Tools.bundled.readDocument capitalLink = .ok (nodes capitalTokens) :=
  readDocument_bundled (show tokens? capitalLink = some capitalTokens by decide +kernel)

theorem offsite_capitalAttributes :
    Offsite Address.split (configuredHost none) ['a'] capitalAttributes := by
  have hsplit : Address.split "http://x.org/".toList = .ok ⟨"http".toList, some "x.org".toList⟩ :=
    rfl
  exact ⟨_, _, rfl, hsplit, .inl rfl, fun hsite => hsite.1 rfl⟩

/-- With a small `a` elsewhere in the text, the link in capitals is marked. -/
theorem transform_overlooks_nothing_mixedLinks :
    ∃ result change, transform .bundled mixedLinks none = .ok result ∧
      Tools.bundled.writeDocument (mapAttributes change (nodes mixedTokens)) = .ok result ∧
      Marked (configured none) capitalAttributes (change ['a'] capitalAttributes) := by
  have hsmall : Text.occursIn ['<', 'a'] mixedLinks = true := rfl
  have helements : elements (nodes mixedTokens) = [(['a'], capitalAttributes), (['a'], [])] := rfl
  have hrefusal : refusal? Address.split (elements (nodes mixedTokens)) = none := rfl
  have haccepted : Accepted .bundled mixedLinks (nodes mixedTokens) :=
    .inr ((refusal?_eq_none_iff Address.split).mp hrefusal)
  obtain ⟨result, hresult⟩ := transform_of_accepted readDocument_mixedLinks writesBack_bundled
    writable_configured_none haccepted
  rcases transform_overlooks_nothing readsTags_bundled none readDocument_mixedLinks (.inl hsmall)
    hresult with ⟨-, hnone⟩ | ⟨change, hwritten, hchange⟩
  · have hmem : (['a'], capitalAttributes) ∈ elements (nodes mixedTokens) := by
      rw [helements]
      exact List.mem_cons_self
    exact absurd offsite_capitalAttributes (hnone _ _ hmem)
  · exact ⟨result, change, hresult, hwritten, (hchange _ _).1 offsite_capitalAttributes⟩

/-- A link in capitals leaves the site, and the text with it comes back without a mark. -/
theorem transform_capitalLink :
    ∃ read attributes, Tools.bundled.readDocument capitalLink = .ok read ∧
      (['a'], attributes) ∈ elements read ∧
      Offsite Address.split (configuredHost none) ['a'] attributes ∧
      attributeOf? "target".toList attributes = none ∧
      transform .bundled capitalLink none = .ok capitalLink := by
  have hmem : (['a'], capitalAttributes) ∈ elements (nodes capitalTokens) := by
    have helements : elements (nodes capitalTokens) = [(['a'], capitalAttributes)] := rfl
    rw [helements]
    exact List.mem_singleton_self _
  have hsmall : Text.occursIn ['<', 'a'] capitalLink = false := rfl
  refine ⟨nodes capitalTokens, capitalAttributes, readDocument_capitalLink, hmem,
    offsite_capitalAttributes, rfl, ?_⟩
  rw [transform_eq, hsmall]
  rfl

end ContentFilters.Standard.OffsiteLinks
