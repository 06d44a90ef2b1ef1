import ContentFilters.Proofs.Html.Tags
import ContentFilters.Proofs.Standard.Admonition
import ContentFilters.Proofs.Standard.CodeLines

/-!
# Markup that no value changes

Code blocks and notes are written around values that authors and deployments choose: a language, a
title, a type, lines of code. A value shows where it belongs, in the class of a `code` tag, in a
title, in a line, and can be decoded there. It cannot leave that place: which tags a block or a note
has, and which brackets and quotes, depends on nothing but whether there is a language, whether
there is a title, whether lines are numbered, how many lines there are, and the type of the note.
-/
namespace ContentFilters.Standard

/-! ## Code blocks -/

namespace CodeBlock

def caption? (block : Text) : Option Text := do
  let (_, behind) ← Text.cut? "<div class=\"codeblock-title\">".toList block
  let (caption, _) ← Text.cut? "</div>".toList behind
  return caption

/-- What stands in a `code` tag: nothing, or the language in its class. -/
inductive NamesLanguage : Text → Text → Prop
  | absent : NamesLanguage [] []
  | present {language value : Text} : language ≠ [] → Html.Escaped value →
      Html.unescape value = "language-".toList ++ language →
      NamesLanguage language (" class=\"".toList ++ value ++ ['"'])

/-- What stands in a caption: the title, if there is one. -/
inductive ShowsTitle : Text → Option Text → Prop
  | absent : ShowsTitle [] none
  | present {title text : Text} : title ≠ [] → Html.Escaped text → Html.unescape text = title →
      ShowsTitle title (some text)

def classValue (language : Text) : Text := Html.escape ("language-".toList ++ language)

theorem classText_of_ne_nil {language : Text} (h : language ≠ []) :
    classText language = " class=\"".toList ++ classValue language ++ ['"'] := by
  have hprefix : Html.escape "language-".toList = "language-".toList := by decide
  have hclass : " class=\"language-".toList = " class=\"".toList ++ "language-".toList := rfl
  have hpresent : ¬ language.isEmpty = true := by simpa using h
  rw [classText, if_neg hpresent, classValue, Html.escape_append, hprefix, hclass]
  simp only [List.append_assoc]

theorem namesLanguage_classText (language : Text) : NamesLanguage language (classText language) := by
  by_cases h : language = []
  · subst h
    exact .absent
  · rw [classText_of_ne_nil h]
    exact .present h (Html.escaped_escape _) (Html.unescape_escape _)

theorem avoids_classText (language ps : Text) :
    Text.avoids ('<' :: ps) (classText language) = true := by
  refine Text.avoids_of_not_mem ?_ ps
  by_cases h : language = []
  · subst h
    exact List.not_mem_nil
  · have hvalue : '<' ∉ classValue language := Html.not_mem_escape (by decide) _
    rw [classText_of_ne_nil h]
    simp only [List.mem_append, not_or]
    exact ⟨⟨by decide, hvalue⟩, by decide⟩

theorem caption?_block (language : Text) (numbered : Bool) (body : Text) :
    caption? (block language numbered body) = none := by
  have havoids : Text.avoids "<div class=\"codeblock-title\">".toList
      (block language numbered body) = true := by
    unfold block
    refine Text.avoids_append (Text.avoids_append (Text.avoids_append
      (Text.avoids_append ?_ ?_) ?_) ?_) ?_
    · decide
    · exact avoids_classText language _
    · decide
    · exact avoids_code (by decide) (by decide) numbered body
    · decide
  unfold caption?
  rw [Text.cut?_eq_none_of_avoids (by decide) havoids]
  rfl

theorem caption?_captioned (caption block : Text) :
    caption? ("<div class=\"codeblock\"><div class=\"codeblock-title\">".toList ++
      Html.escape caption ++ "</div>".toList ++ block) = some (Html.escape caption) := by
  have hfirst : Text.avoids "<div class=\"codeblock-title\">".toList
      "<div class=\"codeblock\">".toList = true := by decide
  have hcaption : Text.avoids "</div>".toList (Html.escape caption) = true :=
    Text.avoids_of_not_mem (Html.not_mem_escape (by decide) caption) _
  have htags : "<div class=\"codeblock\"><div class=\"codeblock-title\">".toList =
      "<div class=\"codeblock\">".toList ++ "<div class=\"codeblock-title\">".toList := rfl
  have htext : "<div class=\"codeblock\"><div class=\"codeblock-title\">".toList ++
      Html.escape caption ++ "</div>".toList ++ block =
        "<div class=\"codeblock\">".toList ++ "<div class=\"codeblock-title\">".toList ++
          (Html.escape caption ++ "</div>".toList ++ block) := by
    rw [htags]
    simp only [List.append_assoc]
  unfold caption?
  rw [htext, Text.cut?_of_avoids hfirst, Option.bind_eq_bind, Option.bind_some]
  simp only [Text.cut?_of_avoids hcaption, Option.bind_some]
  rfl

theorem showsTitle_render (language : Text) (numbered : Bool) (caption body : Text) :
    ShowsTitle caption (caption? (render language numbered caption body)) := by
  by_cases h : caption = []
  · subst h
    have hblock : render language numbered [] body = block language numbered body := rfl
    rw [hblock, caption?_block]
    exact .absent
  · have hpresent : ¬ caption.isEmpty = true := by simpa using h
    rw [render, if_neg hpresent, List.append_assoc, caption?_captioned]
    exact .present h (Html.escaped_escape _) (Html.unescape_escape _)

/-! ### The tags of a block -/

def lineTags (numbered : Bool) : List Text :=
  if numbered then ["span class=\"lineno\"".toList, "/span".toList] else []

def openingTags (captioned : Bool) : List Text :=
  if captioned then
    ["div class=\"codeblock\"".toList, "div class=\"codeblock-title\"".toList, "/div".toList,
      "pre".toList]
  else ["pre".toList]

def endingTags (captioned : Bool) : List Text :=
  if captioned then ["/code".toList, "/pre".toList, "/div".toList]
  else ["/code".toList, "/pre".toList]

theorem reads_padded (width n : Nat) : Html.Reads (padded width n) [] := by
  have hmarks : ∀ d ∈ Html.markupChars, d ≠ ' ' ∧ d.isDigit = false := by simp [Html.markupChars]
  refine Html.Reads.text fun d hd => ?_
  obtain ⟨hblank, hdigit⟩ := hmarks d hd
  exact not_mem_padded hblank hdigit width n

theorem reads_lineMark (width n : Nat) : Html.Reads (lineMark width n) (lineTags true) := by
  have hspan := Html.Reads.written ["span class=\"lineno\"".toList] (by decide)
  have hend := Html.Reads.written ["/span".toList] (by decide)
  have hblank : Html.Reads [' '] [] := Html.Reads.char (by decide)
  exact (hspan.append (reads_padded width n)).append (hend.append hblank)

theorem reads_code (numbered : Bool) (body : Text) :
    Html.Reads (code numbered body)
      (List.replicate (codeLines body).length (lineTags numbered)).flatten := by
  have hfeed : Html.Reads ['\n'] [] := Html.Reads.char (by decide)
  have hlength : (shownLines numbered body).length = (codeLines body).length :=
    (forall₂_shows numbered body).length_eq.symm
  rw [code_eq_join, ← hlength]
  refine Html.Reads.join hfeed fun shown hshown => ?_
  cases numbered with
  | false =>
    obtain ⟨line, -, rfl⟩ := List.mem_map.mp hshown
    exact Html.Reads.escaped line
  | true =>
    obtain ⟨k, text, htext, rfl⟩ := mem_numberFrom hshown
    obtain ⟨line, -, rfl⟩ := List.mem_map.mp htext
    exact (reads_lineMark _ k).append (Html.Reads.escaped line)

theorem reads_opening (caption : Text) :
    Html.Reads (opening caption) (openingTags !caption.isEmpty) := by
  have hpre := Html.Reads.written ["pre".toList] (by decide)
  have hdivs := Html.Reads.written
    ["div class=\"codeblock\"".toList, "div class=\"codeblock-title\"".toList] (by decide)
  have hend := Html.Reads.written ["/div".toList, "pre".toList] (by decide)
  unfold opening
  cases caption.isEmpty with
  | true => exact hpre
  | false => exact (hdivs.append (Html.Reads.escaped caption)).append hend

theorem reads_ending (caption : Text) :
    Html.Reads ("</code></pre>".toList ++ ending caption) (endingTags !caption.isEmpty) := by
  have hblock := Html.Reads.written ["/code".toList, "/pre".toList] (by decide)
  have hdiv := Html.Reads.written ["/div".toList] (by decide)
  unfold ending
  cases caption.isEmpty with
  | true => exact hblock.append (Html.Reads.text fun _ _ => List.not_mem_nil)
  | false => exact hblock.append hdiv

theorem reads_render (language : Text) (numbered : Bool) (caption body : Text) :
    Html.Reads (render language numbered caption body)
      (openingTags (!caption.isEmpty) ++ ["code".toList ++ classText language] ++
        (List.replicate (codeLines body).length (lineTags numbered)).flatten ++
          endingTags !caption.isEmpty) := by
  have htag : Html.Reads ("<code".toList ++ classText language ++ ['>'])
      ["code".toList ++ classText language] := by
    have hname : '>' ∉ "code".toList ++ classText language :=
      List.not_mem_append (by decide) (not_mem_classText language)
    exact Html.Reads.tag hname
  have hparts : render language numbered caption body =
      opening caption ++ ("<code".toList ++ classText language ++ ['>']) ++ code numbered body ++
        ("</code></pre>".toList ++ ending caption) := by
    rw [render_eq_text]
    unfold Parts.text
    simp only [List.append_assoc, List.cons_append, List.nil_append]
  rw [hparts]
  exact (((reads_opening caption).append htag).append (reads_code numbered body)).append
    (reads_ending caption)

theorem sameTag_classText {language language' : Text} (h : language = [] ↔ language' = []) :
    Html.SameTag ("code".toList ++ classText language) ("code".toList ++ classText language') := by
  by_cases hempty : language = []
  · rw [hempty, h.mp hempty]
    exact .same _
  · rw [classText_of_ne_nil hempty, classText_of_ne_nil (mt h.mpr hempty)]
    exact .value "code class=".toList [] (Html.escaped_escape _) (Html.escaped_escape _)

/-- The markup of a block is the same for all languages and titles that are there, and for all
bodies with as many lines. -/
theorem sameMarkup_render {language language' caption caption' body body' : Text}
    (hlanguage : language = [] ↔ language' = []) (hcaption : caption = [] ↔ caption' = [])
    (hlines : (codeLines body).length = (codeLines body').length) (numbered : Bool) :
    Html.SameMarkup (render language numbered caption body)
      (render language' numbered caption' body') := by
  have hcaptioned : caption.isEmpty = caption'.isEmpty := by
    rw [Bool.eq_iff_iff, List.isEmpty_iff, List.isEmpty_iff]
    exact hcaption
  have hsame : ∀ found, List.Forall₂ Html.SameTag found found := fun found =>
    List.forall₂_same.mpr fun tag _ => .same tag
  refine (reads_render language numbered caption body).sameMarkup
    (reads_render language' numbered caption' body') ?_
  rw [hcaptioned, hlines]
  exact List.rel_append (List.rel_append (List.rel_append (hsame _)
    (.cons (sameTag_classText hlanguage) .nil)) (hsame _)) (hsame _)

end CodeBlock

/-! ## Notes -/

namespace Admonition

/-- The type of a note; one that is not known is taken as a plain note. -/
def kindOf (type : Text) : Kind := (Kind.ofName? (Text.lower type)).getD .note

def capitalised : Text → Text
  | [] => []
  | c :: rest => c.toUpper :: rest

theorem Kind.label_eq (kind : Kind) : kind.label.toList = capitalised kind.name.toList := by
  cases kind <;> rfl

/-- The title of a note: the one asked for, or the name of its type. -/
def titleFor (attributes : Tag.Attributes) (kind : Kind) : Text :=
  if askedTitle attributes = [] then capitalised kind.name.toList else askedTitle attributes

theorem exists_type (attributes : Tag.Attributes) (params : Option FilterParams) :
    ∃ type, Settles data attributes params "type" type := by
  have hdefault : data.defaultValue "type" = .ok (some (.str "note")) := rfl
  exact exists_settles hdefault attributes params

theorem title_eq (attributes : Tag.Attributes) (kind : Kind) :
    (match (Tag.Attributes.get? "title".toList attributes).filter (!·.isEmpty) with
      | some title => title
      | none => kind.label.toList) = titleFor attributes kind := by
  unfold titleFor askedTitle
  cases Tag.Attributes.get? "title".toList attributes with
  | none => exact kind.label_eq
  | some title =>
    cases title with
    | nil => exact kind.label_eq
    | cons c rest => rfl

/-- A note is written from its type, its title and its body; an unknown type is reported. -/
theorem run_replacement {attributes : Tag.Attributes} {params : Option FilterParams} {type : Text}
    (htype : Settles data attributes params "type" type) (body : Text) (session : Session) :
    ∃ after, (replacement attributes body params).run session =
      .ok (render (kindOf type) (titleFor attributes (kindOf type)) body) after := by
  have hname : (Action.ofExcept (kindName attributes params)).run session =
      .ok (Text.lower type) session := by
    rw [kindName, htype.attributeOr_eq]
    rfl
  unfold replacement
  rw [Action.run_bind_of_ok hname]
  unfold kindOf
  cases hkind : Kind.ofName? (Text.lower type) with
  | some kind =>
    refine ⟨session, ?_⟩
    rw [Option.getD_some, ← title_eq]
    rfl
  | none =>
    let report : Journal.Record := ⟨.warning, data.moduleName, unknownMessage (Text.lower type)⟩
    refine ⟨{ session with records := session.records ++ [report] }, ?_⟩
    rw [Option.getD_none, ← title_eq]
    rfl

def openingText (kind : Kind) : Text :=
  "<span class=\"admonition admonition-".toList ++ kind.name.toList ++
    "\"><strong class=\"admonition-title\">".toList

theorem render_eq (kind : Kind) (title body : Text) :
    render kind title body =
      openingText kind ++ Html.escape title ++ ":</strong> ".toList ++
        (body ++ "</span>".toList) := by
  unfold render openingText
  simp only [List.append_assoc]

def openingTags (kind : Kind) : List Text :=
  ["span class=\"admonition admonition-".toList ++ kind.name.toList ++ ['"'],
    "strong class=\"admonition-title\"".toList]

theorem reads_openingText (kind : Kind) : Html.Reads (openingText kind) (openingTags kind) := by
  have hunclosed : ∀ tag ∈ openingTags kind, '>' ∉ tag := by cases kind <;> decide
  have hwritten := Html.Reads.written (openingTags kind) hunclosed
  cases kind <;> exact hwritten

/-- The markup of a note is the same for all titles. -/
theorem sameMarkup_render (kind : Kind) (title title' body : Text) :
    Html.SameMarkup (render kind title body) (render kind title' body) := by
  have hcolon : Html.Reads [':'] [] := Html.Reads.char (by decide)
  have htag := Html.Reads.written ["/strong".toList] (by decide)
  have hblank : Html.Reads [' '] [] := Html.Reads.char (by decide)
  have hend : Html.Reads ":</strong> ".toList ["/strong".toList] :=
    (hcolon.append htag).append hblank
  have hopening : ∀ title, Html.Reads
      (openingText kind ++ Html.escape title ++ ":</strong> ".toList) _ := fun title =>
    ((reads_openingText kind).append (Html.Reads.escaped title)).append hend
  -- The body stands behind all that the title is part of, so the tags in it need not be whole.
  have htags : Html.tags (render kind title body) = Html.tags (render kind title' body) := by
    rw [render_eq, render_eq, (hopening title).tags_append, (hopening title').tags_append]
  have hmarks : Html.marks (render kind title body) = Html.marks (render kind title' body) := by
    rw [render_eq, render_eq, Html.marks_append _ (body ++ _), Html.marks_append _ (body ++ _),
      (hopening title).marks_eq, (hopening title').marks_eq]
  refine ⟨?_, hmarks⟩
  rw [htags]
  exact List.forall₂_same.mpr fun tag _ => .same tag

end Admonition

/-! ## Both filters -/

/-- No value that is supplied changes the markup of a block or of a note. The class of a `code` tag
is there if and only if there is a language, and names it; the caption of a block is there if and
only if there is a title, and shows it. A note has one of the four types and shows its title, and
its body stands in it as it is. So two blocks that have a language or have none alike, and a title
or none alike, with numbers or without alike and with as many lines, have the same markup, and so
have two notes with the same type and body. -/
theorem markup_fixed :
    (∀ attributes params body, ∃ language block parts,
        Settles CodeBlock.data attributes params "lang" language ∧
        CodeBlock.replacement attributes body params = .ok block ∧
        CodeBlock.read? block = some parts ∧ CodeBlock.NamesLanguage language parts.tag ∧
        CodeBlock.ShowsTitle (askedTitle attributes) (CodeBlock.caption? block)) ∧
      (∀ attributes params body session, ∃ type shown after,
        let kind := Admonition.kindOf type
        Settles Admonition.data attributes params "type" type ∧
        (Admonition.replacement attributes body params).run session =
          .ok ("<span class=\"admonition admonition-".toList ++ kind.name.toList ++
            "\"><strong class=\"admonition-title\">".toList ++ shown ++ ":</strong> ".toList ++
            body ++ "</span>".toList) after ∧
        kind.name ∈ ["note", "tip", "warning", "danger"] ∧ Html.Escaped shown ∧
        Html.unescape shown = Admonition.titleFor attributes kind) ∧
      (∀ attributes attributes' params params' body body' language language' number number',
        Settles CodeBlock.data attributes params "lang" language →
        Settles CodeBlock.data attributes' params' "lang" language' →
        Settles CodeBlock.data attributes params "linenumber" number →
        Settles CodeBlock.data attributes' params' "linenumber" number' →
        (language = [] ↔ language' = []) →
        (askedTitle attributes = [] ↔ askedTitle attributes' = []) →
        CodeBlock.switchesOn number = CodeBlock.switchesOn number' →
        (CodeBlock.codeLines body).length = (CodeBlock.codeLines body').length →
        ∃ block block', CodeBlock.replacement attributes body params = .ok block ∧
          CodeBlock.replacement attributes' body' params' = .ok block' ∧
          Html.SameMarkup block block') ∧
      ∀ attributes attributes' params params' body type type' session session',
        Settles Admonition.data attributes params "type" type →
        Settles Admonition.data attributes' params' "type" type' →
        Admonition.kindOf type = Admonition.kindOf type' →
        ∃ note note' after after',
          (Admonition.replacement attributes body params).run session = .ok note after ∧
          (Admonition.replacement attributes' body params').run session' = .ok note' after' ∧
          Html.SameMarkup note note' := by
  refine ⟨?_, ?_, ?_, ?_⟩
  · intro attributes params body
    obtain ⟨language, hlanguage⟩ := CodeBlock.exists_language attributes params
    obtain ⟨number, hnumber⟩ := CodeBlock.exists_number attributes params
    refine ⟨language, _, _, hlanguage, CodeBlock.replacement_of_settles hlanguage hnumber body,
      CodeBlock.read?_render _ _ _ _, ?_, ?_⟩
    · exact CodeBlock.namesLanguage_classText language
    · exact CodeBlock.showsTitle_render _ _ _ _
  · intro attributes params body session
    obtain ⟨type, htype⟩ := Admonition.exists_type attributes params
    obtain ⟨after, hrun⟩ := Admonition.run_replacement htype body session
    have hnames : ∀ kind : Admonition.Kind,
        kind.name ∈ ["note", "tip", "warning", "danger"] := by
      intro kind
      cases kind <;> decide
    exact ⟨type, _, after, htype, hrun, hnames _, Html.escaped_escape _, Html.unescape_escape _⟩
  · intro attributes attributes' params params' body body' language language' number number'
      hlanguage hlanguage' hnumber hnumber' hboth htitle hnumbered hlines
    have hblock := CodeBlock.replacement_of_settles hlanguage hnumber body
    have hblock' := CodeBlock.replacement_of_settles hlanguage' hnumber' body'
    rw [← hnumbered] at hblock'
    exact ⟨_, _, hblock, hblock', CodeBlock.sameMarkup_render hboth htitle hlines _⟩
  · intro attributes attributes' params params' body type type' session session' htype htype' hkind
    obtain ⟨after, hrun⟩ := Admonition.run_replacement htype body session
    obtain ⟨after', hrun'⟩ := Admonition.run_replacement htype' body session'
    rw [← hkind] at hrun'
    exact ⟨_, _, after, after', hrun, hrun', Admonition.sameMarkup_render _ _ _ body⟩

/-- A tag whose values try to close what they are put into. -/
def hostileTag : Tag.Attributes :=
  [("lang".toList, "\"><script>".toList), ("title".toList, "</div><b>".toList),
    ("type".toList, "\">".toList)]

def plainTag : Tag.Attributes := [("lang".toList, "lean".toList), ("title".toList, "Sum".toList)]

/-- Hostile values lead to the same markup as plain ones, in a block and in a note. -/
theorem markup_fixed_hostile :
    (∃ block block', CodeBlock.replacement hostileTag "</code>\n<b>".toList none = .ok block ∧
        CodeBlock.replacement plainTag "x\ny".toList none = .ok block' ∧
        Html.SameMarkup block block') ∧
      ∃ note note' after after',
        (Admonition.replacement hostileTag "<i>".toList none).run { settings := .ok {} } =
          .ok note after ∧
        (Admonition.replacement plainTag "<i>".toList none).run { settings := .ok {} } =
          .ok note' after' ∧
        Html.SameMarkup note note' := by
  have hgiven : ∀ {attributes : Tag.Attributes} {d : Descriptor} {option : String} {text : Text},
      Tag.Attributes.get? option.toList attributes = some text → text ≠ [] →
        Settles d attributes none option text := .given
  have hnumber : ∀ attributes, Tag.Attributes.get? "linenumber".toList attributes = none →
      Settles CodeBlock.data attributes none "linenumber" "false".toList := by
    intro attributes habsent
    have hdefault : CodeBlock.data.optionValue none "linenumber" = .ok (.str "false") := rfl
    exact .fallback (by rw [habsent]; rfl) hdefault
  have htype : Settles Admonition.data plainTag none "type" "note".toList := by
    have hdefault : Admonition.data.optionValue none "type" = .ok (.str "note") := rfl
    exact .fallback (by decide) hdefault
  obtain ⟨-, -, hblocks, hnotes⟩ := markup_fixed
  constructor
  · exact hblocks hostileTag plainTag none none _ _ "\"><script>".toList "lean".toList _ _
      (hgiven (by decide) (by decide)) (hgiven (by decide) (by decide))
      (hnumber hostileTag (by decide)) (hnumber plainTag (by decide)) (by decide) (by decide) rfl
      (by decide)
  · exact hnotes hostileTag plainTag none none "<i>".toList "\">".toList "note".toList _ _
      (hgiven (by decide) (by decide)) htype (by decide)

end ContentFilters.Standard
