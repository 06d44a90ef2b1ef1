import ContentFilters.Proofs.Standard.CodeBlock
import ContentFilters.Proofs.Text.Lines
import ContentFilters.Proofs.Text.Pieces
import ContentFilters.Proofs.Text.Trimming
import Mathlib.Data.List.Forall2

/-!
# The lines of a code block

A block shows the lines of its body, one for one. It can be read: what stands in front of its
`code` tag, in that tag, between it and the end of the block, and behind. Between two line feeds of
what the tag holds stands one line, escaped, behind its number if lines are numbered. So the lines
can be read off the block again, and blocks that are the same show the same lines.

Numbers only add a mark to each line. All marks of a block have one width, since no number of a line
has more digits than the number of lines.
-/
namespace ContentFilters.Standard.CodeBlock

/-! ## Reading a block -/

structure Parts where
  before : Text
  /-- What stands in the tag behind its name. -/
  tag : Text
  content : Text
  after : Text
  deriving DecidableEq

def Parts.text (p : Parts) : Text :=
  p.before ++ "<code".toList ++ p.tag ++ '>' :: p.content ++ "</code></pre>".toList ++ p.after

/-- Takes a block apart at the first `code` tag and at the first end of a block behind it. -/
def read? (block : Text) : Option Parts := do
  let (before, inside) ← Text.cut? "<code".toList block
  let (tag, behind) ← Text.cutAt? '>' inside
  let (content, after) ← Text.cut? "</code></pre>".toList behind
  return ⟨before, tag, content, after⟩

/-- What stands behind the number of a line. -/
def unmarked? (line : Text) : Option Text := do
  let behind ← Text.after? "<span class=\"lineno\">".toList line
  let (_, text) ← Text.cut? "</span> ".toList behind
  return text

/-- The block without the numbers of its lines, if all of them have one. -/
def unnumbered? (block : Text) : Option Text := do
  let parts ← read? block
  let lines ← (Text.splitOn '\n' parts.content).mapM unmarked?
  return { parts with content := Text.join ['\n'] lines }.text

theorem read?_text {p : Parts} (hbefore : Text.avoids "<code".toList p.before = true)
    (htag : '>' ∉ p.tag) (hcontent : Text.avoids "</code></pre>".toList p.content = true) :
    read? p.text = some p := by
  have htext : p.text = p.before ++ "<code".toList ++
      (p.tag ++ '>' :: (p.content ++ "</code></pre>".toList ++ p.after)) := by
    simp only [Parts.text, List.append_assoc, List.cons_append]
  unfold read?
  rw [htext, Text.cut?_of_avoids hbefore, Option.bind_eq_bind, Option.bind_some]
  simp only [Text.cutAt?_append htag, Text.cut?_of_avoids hcontent, Option.bind_some]
  rfl

/-! ## Marks -/

theorem digits_le_of_le {n total : Nat} (h : n ≤ total) :
    (Nat.toDigits 10 n).length ≤ (Nat.toDigits 10 total).length := by
  have hten : 1 < 10 := by decide
  -- A numeral has at most `w` digits if and only if the number is below `10 ^ w`.
  have htotal : total < 10 ^ (Nat.toDigits 10 total).length :=
    (Nat.length_toDigits_le_iff hten Nat.length_toDigits_pos).mp (Nat.le_refl _)
  apply (Nat.length_toDigits_le_iff hten Nat.length_toDigits_pos).mpr
  omega

theorem length_padded {width n : Nat} (h : (Nat.toDigits 10 n).length ≤ width) :
    (padded width n).length = width := by
  simp only [padded, List.length_append, List.length_replicate]
  omega

theorem unmarked?_lineMark (width n : Nat) (text : Text) :
    unmarked? (lineMark width n ++ text) = some text := by
  have hnumeral : Text.avoids "</span> ".toList (padded width n) = true :=
    Text.avoids_of_not_mem (not_mem_padded (by decide) (by decide) width n) _
  have hmark : lineMark width n ++ text = "<span class=\"lineno\">".toList ++
      (padded width n ++ "</span> ".toList ++ text) := by
    unfold lineMark
    simp only [List.append_assoc]
  unfold unmarked?
  rw [hmark, Text.after?_append, Option.bind_eq_bind, Option.bind_some,
    Text.cut?_of_avoids hnumeral]
  rfl

theorem mapM_unmarked?_numberFrom (width n : Nat) (lines : List Text) :
    (numberFrom width n lines).mapM unmarked? = some lines := by
  induction lines generalizing n with
  | nil => rfl
  | cons line rest ih =>
    rw [numberFrom, List.mapM_cons, unmarked?_lineMark, ih]
    rfl

/-! ## Cutting a block at its line feeds -/

theorem codeLines_ne_nil (body : Text) : codeLines body ≠ [] := by
  unfold codeLines
  split
  · exact List.cons_ne_nil _ _
  · next hne => exact hne

theorem not_mem_codeLines {body line : Text} (h : line ∈ codeLines body) : '\n' ∉ line := by
  intro hmem
  unfold codeLines at h
  split at h
  · rw [List.mem_singleton.mp h] at hmem
    cases hmem
  · exact (Text.cutInto_lines _).not_endsLine line h '\n' hmem (Text.isLineEnd_iff.mp rfl)

theorem shownLines_ne_nil (numbered : Bool) (body : Text) : shownLines numbered body ≠ [] := by
  have hne : (codeLines body).map Html.escape ≠ [] := by simpa using codeLines_ne_nil body
  cases numbered with
  | false => exact hne
  | true =>
    show numberFrom _ 1 _ ≠ []
    rw [numberFrom_eq_mapIdx]
    simpa using codeLines_ne_nil body

theorem not_mem_shownLines (numbered : Bool) (body : Text) :
    ∀ shown ∈ shownLines numbered body, '\n' ∉ shown := by
  have hescape : ∀ line ∈ codeLines body, '\n' ∉ Html.escape line := fun line hline =>
    Html.not_mem_escape_of_not_mem (not_mem_codeLines hline) (by decide)
  have hnumeral : ∀ width k, '\n' ∉ padded width k := not_mem_padded (by decide) (by decide)
  refine forall_mem_shownLines hescape (fun line hline width k => ?_) numbered
  unfold lineMark
  simp only [List.mem_append, not_or]
  exact ⟨⟨⟨by decide, hnumeral width k⟩, by decide⟩, hescape line hline⟩

theorem splitOn_code (numbered : Bool) (body : Text) :
    Text.splitOn '\n' (code numbered body) = shownLines numbered body := by
  rw [code_eq_join]
  exact Text.splitOn_join (shownLines_ne_nil numbered body) (not_mem_shownLines numbered body)

/-- A pattern with an opening bracket in front starts nowhere in a block, unless in its marks. -/
theorem avoids_code {ps : Text}
    (hopening : Text.avoids ('<' :: ps) "<span class=\"lineno\">".toList = true)
    (hclosing : Text.avoids ('<' :: ps) "</span> ".toList = true) (numbered : Bool) (body : Text) :
    Text.avoids ('<' :: ps) (code numbered body) = true := by
  have hescape : ∀ line : Text, Text.avoids ('<' :: ps) (Html.escape line) = true :=
    fun line => Text.avoids_of_not_mem (Html.not_mem_escape (by decide) line) ps
  have hnumeral : ∀ width k, Text.avoids ('<' :: ps) (padded width k) = true :=
    fun width k => Text.avoids_of_not_mem (not_mem_padded (by decide) (by decide) width k) ps
  have hmark : ∀ width k, Text.avoids ('<' :: ps) (lineMark width k) = true :=
    fun width k => Text.avoids_append (Text.avoids_append hopening (hnumeral width k)) hclosing
  have hfeed : Text.avoids ('<' :: ps) ['\n'] = true := Text.avoids_of_not_mem (by decide) ps
  rw [code_eq_join]
  refine Text.avoids_join hfeed (forall_mem_shownLines (fun line _ => hescape line) ?_ numbered)
  exact fun line _ width k => Text.avoids_append (hmark width k) (hescape line)

/-- Nothing in a block looks like its end. -/
theorem avoids_end_code (numbered : Bool) (body : Text) :
    Text.avoids "</code></pre>".toList (code numbered body) = true :=
  avoids_code (by decide) (by decide) numbered body

/-! ## The parts of a block -/

def opening (caption : Text) : Text :=
  if caption.isEmpty then "<pre>".toList
  else "<div class=\"codeblock\"><div class=\"codeblock-title\">".toList ++ Html.escape caption ++
    "</div><pre>".toList

def ending (caption : Text) : Text :=
  if caption.isEmpty then [] else "</div>".toList

theorem render_eq_text (language : Text) (numbered : Bool) (caption body : Text) :
    render language numbered caption body =
      Parts.text ⟨opening caption, classText language, code numbered body, ending caption⟩ := by
  have hpre : "<pre><code".toList = "<pre>".toList ++ "<code".toList := rfl
  have hdiv : "</div><pre>".toList = "</div>".toList ++ "<pre>".toList := rfl
  unfold render block opening ending Parts.text
  split
  · simp only [hpre, List.append_assoc, List.nil_append, List.cons_append, List.append_nil]
  · simp only [hpre, hdiv, List.append_assoc, List.nil_append, List.cons_append]

theorem avoids_opening (caption : Text) : Text.avoids "<code".toList (opening caption) = true := by
  have hcaption : Text.avoids "<code".toList (Html.escape caption) = true :=
    Text.avoids_of_not_mem (Html.not_mem_escape (by decide) caption) _
  unfold opening
  split
  · decide
  · exact Text.avoids_append (Text.avoids_append (by decide) hcaption) (by decide)

theorem not_mem_classText (language : Text) : '>' ∉ classText language := by
  have hlanguage : '>' ∉ Html.escape language := Html.not_mem_escape (by decide) language
  unfold classText
  split
  · exact List.not_mem_nil
  · simp only [List.mem_append, not_or]
    exact ⟨⟨by decide, hlanguage⟩, by decide⟩

theorem read?_render (language : Text) (numbered : Bool) (caption body : Text) :
    read? (render language numbered caption body) =
      some ⟨opening caption, classText language, code numbered body, ending caption⟩ := by
  rw [render_eq_text]
  exact read?_text (avoids_opening caption) (not_mem_classText language)
    (avoids_end_code numbered body)

/-! ## What a line shows -/

/-- What a line of a block shows, behind its number if lines are numbered. -/
def shown? (numbered : Bool) (piece : Text) : Option Text :=
  if numbered then unmarked? piece else some piece

/-- A piece of a block shows a line: escaped, it stands behind the number. -/
def Shows (numbered : Bool) (line piece : Text) : Prop :=
  ∃ text, shown? numbered piece = some text ∧ Html.Escaped text ∧ Html.unescape text = line

theorem shows_escape (line : Text) : Shows false line (Html.escape line) :=
  ⟨Html.escape line, rfl, Html.escaped_escape line, Html.unescape_escape line⟩

theorem shows_lineMark (width n : Nat) (line : Text) :
    Shows true line (lineMark width n ++ Html.escape line) :=
  ⟨Html.escape line, unmarked?_lineMark width n _, Html.escaped_escape line,
    Html.unescape_escape line⟩

theorem leftUnique_shows (numbered : Bool) : Relator.LeftUnique (Shows numbered) := by
  rintro line piece other ⟨text, htext, -, rfl⟩ ⟨text', htext', -, rfl⟩
  rw [htext] at htext'
  cases htext'
  rfl

theorem forall₂_shows_numberFrom (width n : Nat) (lines : List Text) :
    List.Forall₂ (Shows true) lines (numberFrom width n (lines.map Html.escape)) := by
  induction lines generalizing n with
  | nil => exact .nil
  | cons line rest ih => exact .cons (shows_lineMark width n line) (ih (n + 1))

theorem forall₂_shows (numbered : Bool) (body : Text) :
    List.Forall₂ (Shows numbered) (codeLines body) (shownLines numbered body) := by
  cases numbered with
  | false =>
    refine List.forall₂_map_right_iff.mpr (List.forall₂_same.mpr fun line _ => ?_)
    exact shows_escape line
  | true => exact forall₂_shows_numberFrom _ 1 (codeLines body)

/-- Blocks that are the same have the same lines. -/
theorem codeLines_of_render {language : Text} {numbered : Bool} {caption body other : Text}
    (h : render language numbered caption body = render language numbered caption other) :
    codeLines body = codeLines other := by
  have hparts := congrArg read? h
  rw [read?_render, read?_render, Option.some.injEq, Parts.mk.injEq] at hparts
  obtain ⟨-, -, hcode, -⟩ := hparts
  have hshown : shownLines numbered body = shownLines numbered other := by
    rw [← splitOn_code, hcode, splitOn_code]
  have hbody := forall₂_shows numbered body
  rw [hshown] at hbody
  exact List.left_unique_forall₂' (leftUnique_shows numbered) hbody (forall₂_shows numbered other)

theorem render_of_codeLines {body other : Text} (h : codeLines body = codeLines other)
    (language : Text) (numbered : Bool) (caption : Text) :
    render language numbered caption body = render language numbered caption other := by
  have hcode : code numbered body = code numbered other := by
    unfold code
    rw [h]
  rw [render_eq_text, render_eq_text, hcode]

/-! ## The lines of a body -/

/-- The lines that a body holds: those of what stands between the line feeds and carriage returns at
its ends, or one empty line if there is nothing. -/
def BodyLines (body : Text) (lines : List Text) : Prop :=
  ∃ core found, Text.TrimsTo (fun c => c = '\r' || c = '\n') body core ∧
    Text.CutInto core found ∧ lines = if found = [] then [[]] else found

theorem bodyLines_iff {body : Text} {lines : List Text} :
    BodyLines body lines ↔ lines = codeLines body := by
  have hcodeLines : codeLines body =
      if Text.lines (Text.trimWhile isLayout body) = [] then [[]]
      else Text.lines (Text.trimWhile isLayout body) := by
    unfold codeLines
    split
    · next hnone => rw [if_pos hnone]
    · next hne => rw [if_neg hne]
  rw [hcodeLines]
  constructor
  · rintro ⟨core, found, hcore, hfound, rfl⟩
    rw [hfound.eq_lines, hcore.eq_trimWhile]
    rfl
  · rintro rfl
    exact ⟨_, _, Text.trimsTo_trimWhile isLayout body, Text.cutInto_lines _, rfl⟩

/-- What the `code` tag of a block holds, cut at its line feeds, is line for line what the body
holds: behind the number, if lines are numbered, stands the line, escaped. So two bodies come to the
same block if and only if they have the same lines. -/
theorem replacement_lines (attributes : Tag.Attributes) (params : Option FilterParams) :
    ∃ number, Settles data attributes params "linenumber" number ∧
      (∀ body, ∃ lines block parts, BodyLines body lines ∧
        (∀ others, BodyLines body others → others = lines) ∧
        replacement attributes body params = .ok block ∧ read? block = some parts ∧
        List.Forall₂ (Shows (switchesOn number)) lines (Text.splitOn '\n' parts.content)) ∧
      ∀ body other, replacement attributes body params = replacement attributes other params ↔
        ∃ lines, BodyLines body lines ∧ BodyLines other lines := by
  obtain ⟨language, hlanguage⟩ := exists_language attributes params
  obtain ⟨number, hnumber⟩ := exists_number attributes params
  refine ⟨number, hnumber, fun body => ?_, fun body other => ?_⟩
  · refine ⟨codeLines body, _, _, bodyLines_iff.mpr rfl, fun others => bodyLines_iff.mp,
      replacement_of_settles hlanguage hnumber body, read?_render _ _ _ _, ?_⟩
    rw [splitOn_code]
    exact forall₂_shows (switchesOn number) body
  · rw [replacement_of_settles hlanguage hnumber, replacement_of_settles hlanguage hnumber]
    constructor
    · intro hsame
      have hlines := codeLines_of_render (Except.ok.inj hsame)
      exact ⟨codeLines body, bodyLines_iff.mpr rfl, bodyLines_iff.mpr hlines⟩
    · rintro ⟨lines, hbody, hother⟩
      have hlines := (bodyLines_iff.mp hbody).symm.trans (bodyLines_iff.mp hother)
      exact congrArg Except.ok (render_of_codeLines hlines _ _ _)

/-- A body with line breaks of many kinds, one empty line, and some at its ends. -/
def mixedBreaks : Text := "\r\n\na\r\nb\rc\u0085d\u2028e\x0bf\x1c\n<g>\n\r".toList

/-- The block for this body is that for the same lines with line feeds between them, it shows them
escaped, and without the empty line there is another block. -/
theorem replacement_lines_mixedBreaks :
    BodyLines mixedBreaks (["a", "b", "c", "d", "e", "f", "", "<g>"].map String.toList) ∧
      replacement [] mixedBreaks none = replacement [] "a\nb\nc\nd\ne\nf\n\n<g>".toList none ∧
      replacement [] mixedBreaks none ≠ replacement [] "a\nb\nc\nd\ne\nf\n<g>".toList none ∧
      replacement [] mixedBreaks none =
        .ok "<pre><code>a\nb\nc\nd\ne\nf\n\n&lt;g&gt;</code></pre>".toList := by
  obtain ⟨number, -, -, hsame⟩ := replacement_lines [] none
  have hmixed : BodyLines mixedBreaks
      (["a", "b", "c", "d", "e", "f", "", "<g>"].map String.toList) :=
    bodyLines_iff.mpr (by decide)
  refine ⟨hmixed, ?_, ?_, ?_⟩
  · exact (hsame _ _).mpr ⟨_, hmixed, bodyLines_iff.mpr (by decide)⟩
  · intro hblock
    obtain ⟨lines, hbody, hother⟩ := (hsame _ _).mp hblock
    have hlines := (bodyLines_iff.mp hbody).symm.trans (bodyLines_iff.mp hother)
    exact absurd hlines (by decide)
  · rfl

/-! ## With numbers and without -/

/-- A block with numbered lines is the block without numbers, with one mark in front of each line:
the number of the line, counted from one, with blanks in front of it that make all numbers as wide
as the number of lines. Without the marks the other block is there again. -/
theorem replacement_numbered {attributes attributes' : Tag.Attributes}
    {params params' : Option FilterParams} {language number number' : Text}
    (hlanguage : Settles data attributes params "lang" language)
    (hlanguage' : Settles data attributes' params' "lang" language)
    (htitle : askedTitle attributes = askedTitle attributes')
    (hnumber : Settles data attributes params "linenumber" number)
    (hon : switchesOn number = true)
    (hnumber' : Settles data attributes' params' "linenumber" number')
    (hoff : switchesOn number' = false) (body : Text) :
    ∃ (parts : Parts) (numeral : Nat → Text),
      let lines := (codeLines body).map Html.escape
      let plain := { parts with content := Text.join ['\n'] lines }.text
      let numbered := { parts with
        content := Text.join ['\n'] (lines.mapIdx fun k line =>
          "<span class=\"lineno\">".toList ++ numeral k ++ "</span> ".toList ++ line) }.text
      replacement attributes' body params' = .ok plain ∧
        replacement attributes body params = .ok numbered ∧
        (∀ k < lines.length, (numeral k).length = (Nat.toDigits 10 lines.length).length ∧
          ∃ blanks, numeral k = List.replicate blanks ' ' ++ Nat.toDigits 10 (k + 1)) ∧
        unnumbered? numbered = some plain := by
  have hlength : ((codeLines body).map Html.escape).length = (codeLines body).length :=
    List.length_map _
  let width := (Nat.toDigits 10 (codeLines body).length).length
  let parts : Parts := ⟨opening (askedTitle attributes), classText language, [],
    ending (askedTitle attributes)⟩
  have hcontent : Text.join ['\n'] (((codeLines body).map Html.escape).mapIdx fun k line =>
      "<span class=\"lineno\">".toList ++ padded width (k + 1) ++ "</span> ".toList ++ line) =
        code true body := by
    have hmark : ∀ k, "<span class=\"lineno\">".toList ++ padded width (k + 1) ++
        "</span> ".toList = lineMark width (1 + k) := by
      intro k
      rw [Nat.add_comm 1 k]
      rfl
    simp only [hmark]
    rw [code_eq_join, shownLines, if_pos rfl, numberFrom_eq_mapIdx]
  refine ⟨parts, fun k => padded width (k + 1), ?_, ?_, ?_, ?_⟩
  · rw [replacement_of_settles hlanguage' hnumber', hoff, ← htitle, render_eq_text]
    rfl
  · rw [replacement_of_settles hlanguage hnumber, hon, render_eq_text, hcontent]
  · intro k hk
    rw [hlength] at hk ⊢
    refine ⟨length_padded (digits_le_of_le hk), _, rfl⟩
  · have hread : read? { parts with content := code true body }.text =
        some { parts with content := code true body } :=
      read?_text (avoids_opening _) (not_mem_classText _) (avoids_end_code true body)
    unfold unnumbered?
    rw [hcontent, hread, Option.bind_eq_bind, Option.bind_some, splitOn_code, shownLines,
      if_pos rfl, mapM_unmarked?_numberFrom]
    rfl

/-- Ten lines with numbers, asked for by a tag, and without, the language being an option. -/
theorem replacement_numbered_tenLines :
    let body := "a\nb\nc\nd\ne\nf\ng\nh\ni\nj".toList
    let numberedTag : Tag.Attributes :=
      [("lang".toList, "lean".toList), ("linenumber".toList, "Yes".toList)]
    let params : FilterParams := { options := [("lang", .str "lean")] }
    switchesOn "Yes".toList = true ∧ switchesOn "false".toList = false ∧
      ∃ plain numbered, replacement [] body (some params) = .ok plain ∧
        replacement numberedTag body none = .ok numbered ∧ unnumbered? numbered = some plain := by
  intro body numberedTag params
  have hlanguage : Settles data numberedTag none "lang" "lean".toList :=
    .given (by decide) (by decide)
  have hlanguage' : Settles data [] (some params) "lang" "lean".toList := by
    have hoption : data.optionValue (some params) "lang" = .ok (.str "lean") := rfl
    exact .fallback rfl hoption
  have hnumber : Settles data numberedTag none "linenumber" "Yes".toList :=
    .given (by decide) (by decide)
  have hnumber' : Settles data [] (some params) "linenumber" "false".toList := by
    have hoption : data.optionValue (some params) "linenumber" = .ok (.str "false") := rfl
    exact .fallback rfl hoption
  have hon : switchesOn "Yes".toList = true := by decide
  have hoff : switchesOn "false".toList = false := by decide
  obtain ⟨parts, numeral, hplain, hnumbered, -, hunnumbered⟩ :=
    replacement_numbered hlanguage hlanguage' rfl hnumber hon hnumber' hoff body
  exact ⟨hon, hoff, _, _, hplain, hnumbered, hunnumbered⟩

end ContentFilters.Standard.CodeBlock
