import ContentFilters.Proofs.Html.Writing
import ContentFilters.Proofs.Standard.OffsiteLinks
import ContentFilters.Proofs.Standard.ProtectedCode
import ContentFilters.Proofs.Standard.Success

/-!
# Refused addresses

Authors write addresses as they like, and some cannot be split. The filter of links has no answer to
that: the first such address in a text is the error of the whole text, and of a rendering that the
filter takes part in. Nothing else fails. A text without an angle bracket in front of a small `a` is
given back without a look at its addresses.
-/
namespace ContentFilters.Standard.OffsiteLinks

open Html.Document

/-! ## Writing the marked document -/

structure Marking.Writable (m : Marking) : Prop where
  target : (AttributeValue.given m.target).Writable
  relation : (AttributeValue.given m.relation).Writable

theorem writable_outcome {m : Marking} (hm : m.Writable)
    {split : Text → Except AddressError Address} {name : Text} {attributes : Attributes}
    (h : attributes.Writable) :
    (outcome m split name attributes).Writable := by
  unfold outcome
  split
  · split
    · have hredirected : (redirected m attributes).Writable := (h.set hm.target).set hm.relation
      rw [markedAttributes_eq]
      split
      · exact hredirected
      · exact hredirected.set rfl
    · exact h
  · exact h

theorem writable_configured_none : (configured none).Writable := ⟨rfl, rfl⟩

/-! ## Reading and writing documents -/

/-- Tools that can write what they read: the attributes of a document have texts when it is read,
and a document whose attributes all have texts can be written. -/
structure WritesBack (tools : Tools) : Prop where
  read : ∀ {text nodes}, tools.readDocument text = .ok nodes →
    ∀ e ∈ elements nodes, e.2.Writable
  write : ∀ {nodes}, (∀ e ∈ elements nodes, e.2.Writable) →
    ∃ written, tools.writeDocument nodes = .ok written

section Mark

variable {tools : Tools} {m : Marking} {text : Text} {nodes : List Node}
  (hread : tools.readDocument text = .ok nodes)
include hread

theorem mark_eq :
    mark tools m text = unlessRefused (refusal? tools.splitAddress (elements nodes))
      (mapAttributes (outcome m tools.splitAddress) nodes) >>= tools.writeDocument := by
  unfold mark
  rw [hread]
  exact congrArg (· >>= tools.writeDocument) (markNodes_eq m tools.splitAddress nodes)

theorem mark_of_written (htools : WritesBack tools) (hm : m.Writable) :
    ∃ written, mark tools m text =
      unlessRefused (refusal? tools.splitAddress (elements nodes)) written := by
  have hwritable : ∀ e ∈ elements (mapAttributes (outcome m tools.splitAddress) nodes),
      e.2.Writable := by
    intro e he
    rw [elements_mapAttributes] at he
    obtain ⟨read, hmem, rfl⟩ := List.mem_map.mp he
    exact writable_outcome hm (htools.read hread read hmem)
  obtain ⟨written, hwritten⟩ := htools.write hwritable
  refine ⟨written, ?_⟩
  rw [mark_eq hread]
  cases refusal? tools.splitAddress (elements nodes) with
  | some refused => rfl
  | none => exact hwritten

theorem writeDocument_of_mark {result : Text} (h : mark tools m text = .ok result) :
    tools.writeDocument (mapAttributes (outcome m tools.splitAddress) nodes) = .ok result := by
  rw [mark_eq hread] at h
  cases hrefusal : refusal? tools.splitAddress (elements nodes) with
  | some refused =>
    rw [hrefusal] at h
    cases h
  | none =>
    rw [hrefusal] at h
    exact h

end Mark

theorem transform_eq (tools : Tools) (text : Text) (params : Option FilterParams) :
    transform tools text params =
      if Text.occursIn ['<', 'a'] text then mark tools (configured params) text
      else .ok text := by
  unfold transform
  rw [marking_eq_configured]
  rfl

/-- Texts that the filter takes: either no small `a` follows an angle bracket, or the address of
every link in the document can be split. -/
def Accepted (tools : Tools) (text : Text) (nodes : List Node) : Prop :=
  Text.occursIn ['<', 'a'] text = false ∨ Splittable tools.splitAddress nodes

section Outcome

variable {tools : Tools} {text : Text} {nodes : List Node}
  (hread : tools.readDocument text = .ok nodes) (htools : WritesBack tools)
  {params : Option FilterParams} (hparams : (configured params).Writable)
include hread htools hparams

theorem transform_of_accepted (h : Accepted tools text nodes) :
    ∃ result, transform tools text params = .ok result := by
  rw [transform_eq]
  split
  · next hsmall =>
    have hsplit : Splittable tools.splitAddress nodes := h.resolve_left (by simp [hsmall])
    obtain ⟨written, hmark⟩ := mark_of_written hread htools hparams
    rw [hmark, (refusal?_eq_none_iff tools.splitAddress).mpr hsplit]
    exact ⟨written, rfl⟩
  · exact ⟨text, rfl⟩

theorem transform_of_not_accepted (h : ¬Accepted tools text nodes) :
    ∃ refused, refusal? tools.splitAddress (elements nodes) = some refused ∧
      transform tools text params = .error (.address refused) := by
  obtain ⟨hsmall, hnot⟩ := not_or.mp h
  obtain ⟨refused, hrefused⟩ := Option.ne_none_iff_exists'.mp
    (mt (refusal?_eq_none_iff tools.splitAddress).mp hnot)
  obtain ⟨written, hmark⟩ := mark_of_written hread htools hparams
  refine ⟨refused, hrefused, ?_⟩
  rw [transform_eq, if_pos (by simpa using hsmall), hmark, hrefused]
  rfl

end Outcome

/-! ## A rendering -/

/-- What the tags of a text are expanded to, in both stages. -/
def expanded (tools : Tools) (serial : Nat) (params : FilterParams) (text : Text) :
    Action Text := do
  (registry tools serial).run (stage .postMarkup)
    (← (registry tools serial).run (stage .preMarkup) text (some params)) (some params)

/-- A text without tag heads is not expanded. -/
theorem run_expanded_of_headless {settings : Settings} {text : Text}
    (hspace : Tag.PlainSpace settings.tagNamespace.toList) (htext : Tag.headless text = true)
    (tools : Tools) (serial : Nat) (params : FilterParams) {session : Session}
    (hs : session.settings = .ok settings) :
    (expanded tools serial params text).run session = .ok text session := by
  have hstage : ∀ s, ((registry tools serial).run (stage s) text (some params)).run session =
      .ok text session := by
    intro s
    have hleaves : ∀ f ∈ (registry tools serial).spread (stage s),
        f.Leaves settings (some params) text :=
      forall_mem_spread (fun _ _ h => h) (Filter.leaves_of_headless rfl rfl hspace htext _)
        (Filter.leaves_of_headless rfl rfl hspace htext _) (fun hnot => absurd rfl (hnot s)) tools
        serial
    rw [(reachable_registry tools serial).coherent.run_eq_foldlM_spread (fun _ text _ => pure text)]
    exact Filter.run_foldlM_of_leaves hleaves _ hs
  rw [expanded, Action.run_bind_of_ok (hstage .preMarkup)]
  exact hstage .postMarkup

structure LinksOnly (params : FilterParams) : Prop where
  markup : params.markup = "plain"
  filters : params.filters = ["externallinks"]

section Rendering

variable {params : FilterParams} (hlinks : LinksOnly params) (tools : Tools) (serial : Nat)
include hlinks

theorem LinksOnly.chainNames_eq :
    Pipeline.chainNames params = ["macropre", "plain", "macropost", "externallinks"] := by
  rw [Pipeline.chainNames, hlinks.markup, hlinks.filters]
  rfl

theorem LinksOnly.filterMap_lookup :
    (Pipeline.chainNames params).filterMap (registry tools serial).lookup =
      [{ stage .preMarkup with serial := serial }, { Markup.plain with serial := serial + 3 },
        { stage .postMarkup with serial := serial + 1 },
        { filter tools with serial := serial + 7 }] := by
  rw [hlinks.chainNames_eq, lookup_registry]
  rfl

theorem LinksOnly.skipRecords_eq : Pipeline.skipRecords (registry tools serial) params = [] := by
  rw [Pipeline.skipRecords, hlinks.chainNames_eq, lookup_registry]
  rfl

/-- Between the tags and the links nothing happens to a text. -/
theorem LinksOnly.run_render {text : Text} (htext : text ≠ []) (session : Session) :
    (Pipeline.render (registry tools serial) text (some params)).run session =
      (expanded tools serial params text >>= fun text =>
        Action.ofExcept (transform tools text (some params))).run session := by
  have hmarkup : ((registry tools serial).lookup params.markup).isSome := by
    rw [hlinks.markup, lookup_registry]
    rfl
  rw [Pipeline.run_render htext hmarkup, hlinks.filterMap_lookup tools serial,
    hlinks.skipRecords_eq tools serial, List.append_nil]
  have hstage : ∀ (s : TagStage) n text,
      (registry tools serial).run { stage s with serial := n } text (some params) =
        (registry tools serial).run (stage s) text (some params) := fun _ _ _ => rfl
  have hplain : ∀ n text, (registry tools serial).run { Markup.plain with serial := n } text
      (some params) = pure text := fun _ _ => rfl
  have hfilter : ∀ n text, (registry tools serial).run { filter tools with serial := n } text
      (some params) = Action.ofExcept (transform tools text (some params)) := fun _ _ => rfl
  simp only [List.foldlM_cons, List.foldlM_nil, bind_pure, expanded, bind_assoc, hstage, hplain,
    hfilter, pure_bind]

end Rendering

/-- The filter of links, alone or at the end of a rendering, fails exactly on the texts that it does
not accept. Without parameters it gives a text for every document whose links all have an address
that can be split, and for every text that it does not look at. Otherwise the error is that of the
first link in the document with another address. A rendering with the plain markup and this filter
alone always gets past the tags, and then does with the expanded text what the filter does. This
holds for all tools that can write what they read. -/
theorem links_fail_iff_refused {tools : Tools} (htools : WritesBack tools) (serial : Nat) :
    (∀ text nodes, tools.readDocument text = .ok nodes →
      (Accepted tools text nodes → ∃ result, transform tools text none = .ok result) ∧
      (¬Accepted tools text nodes → ∃ refused,
        refusal? tools.splitAddress (elements nodes) = some refused ∧
          transform tools text none = .error (.address refused))) ∧
    ∀ (settings : Settings) (params : FilterParams), LinksOnly params →
      (configured (some params)).Writable → ∀ session, session.settings = .ok settings →
      (Pipeline.render (registry tools serial) [] (some params)).run session = .ok [] session ∧
      ∀ text, text ≠ [] → ∃ between middle,
        (expanded tools serial params text).run session = .ok between middle ∧
        ∀ nodes, tools.readDocument between = .ok nodes →
          (Accepted tools between nodes → ∃ result,
            (Pipeline.render (registry tools serial) text (some params)).run session =
              .ok result middle) ∧
          (¬Accepted tools between nodes → ∃ refused,
            refusal? tools.splitAddress (elements nodes) = some refused ∧
              (Pipeline.render (registry tools serial) text (some params)).run session =
                .error (.address refused) middle) := by
  refine ⟨fun text nodes hread => ⟨transform_of_accepted hread htools writable_configured_none,
    transform_of_not_accepted hread htools writable_configured_none⟩, ?_⟩
  intro settings params hlinks hparams session hs
  refine ⟨Pipeline.run_render_nil _ _ session, fun text htext => ?_⟩
  have hsucceeds : Action.Succeeds settings Text (expanded tools serial params text) :=
    sequential_succeeds.bind (succeeds_stage _ serial .preMarkup text) fun _ =>
      succeeds_stage _ serial .postMarkup _
  obtain ⟨between, middle, hrun, -⟩ := hsucceeds session hs
  refine ⟨between, middle, hrun, fun nodes hread => ?_⟩
  rw [hlinks.run_render tools serial htext, Action.run_bind_of_ok hrun]
  refine ⟨fun haccepted => ?_, fun hnot => ?_⟩
  · obtain ⟨result, hresult⟩ := transform_of_accepted hread htools hparams haccepted
    rw [hresult]
    exact ⟨result, rfl⟩
  · obtain ⟨refused, hrefused, herror⟩ := transform_of_not_accepted hread htools hparams hnot
    rw [herror]
    exact ⟨refused, hrefused, rfl⟩

/-! ## The bundled tools -/

theorem readDocument_bundled {text : Text} {tokens : List Token}
    (hread : tokens? text = some tokens) :
    Tools.bundled.readDocument text = .ok (nodes tokens) := by
  simp only [Tools.bundled, hread]

theorem exists_of_readDocument_bundled {text : Text} {read : List Node}
    (h : Tools.bundled.readDocument text = .ok read) :
    ∃ tokens, tokens? text = some tokens ∧ read = nodes tokens := by
  simp only [Tools.bundled] at h
  split at h
  · next tokens htokens => exact ⟨tokens, htokens, (Except.ok.inj h).symm⟩
  · cases h

theorem writesBack_bundled : WritesBack .bundled where
  read := by
    intro text read hread e he
    obtain ⟨tokens, -, rfl⟩ := exists_of_readDocument_bundled hread
    exact writable_of_mem_elements_nodes tokens e he
  write := by
    intro nodes hwritable
    obtain ⟨written, hwritten⟩ :=
      Option.isSome_iff_exists.mp (isSome_writeNodes? false nodes hwritable)
    refine ⟨written, ?_⟩
    simp only [Tools.bundled, write?, hwritten]

/-- A link with a bracket in its address that is not closed. -/
def brokenLink : Text := "<a href=\"http://[\">x</a>".toList

def brokenTokens : List Token :=
  [.startTag ['a'] [("href".toList, "http://[".toList)] false, .text ['x'], .endTag ['a']]

theorem readDocument_brokenLink :
    Tools.bundled.readDocument brokenLink = .ok (nodes brokenTokens) :=
  readDocument_bundled (show tokens? brokenLink = some brokenTokens by decide +kernel)

theorem refusal?_brokenTokens :
    refusal? Tools.bundled.splitAddress (elements (nodes brokenTokens)) =
      some .unpairedBracket := rfl

theorem not_accepted_brokenLink : ¬Accepted .bundled brokenLink (nodes brokenTokens) := by
  have hsmall : Text.occursIn ['<', 'a'] brokenLink = true := rfl
  rintro (hnone | hsplit)
  · rw [hsmall] at hnone
    cases hnone
  · rw [← refusal?_eq_none_iff, refusal?_brokenTokens] at hsplit
    cases hsplit

def linksOnly : FilterParams := { markup := "plain", filters := ["externallinks"] }

/-- This link makes the filter fail, and the rendering as well. -/
theorem links_fail_iff_refused_brokenLink :
    transform .bundled brokenLink none = .error (.address .unpairedBracket) ∧
      (Pipeline.render (registry .bundled 0) brokenLink (some linksOnly)).run
        { settings := .ok {} } = .error (.address .unpairedBracket) { settings := .ok {} } := by
  obtain ⟨hfilter, hrender⟩ := links_fail_iff_refused writesBack_bundled 0
  refine ⟨?_, ?_⟩
  · obtain ⟨refused, hrefused, hresult⟩ :=
      (hfilter brokenLink _ readDocument_brokenLink).2 not_accepted_brokenLink
    cases refusal?_brokenTokens.symm.trans hrefused
    exact hresult
  · have hlinks : LinksOnly linksOnly := ⟨rfl, rfl⟩
    have hwritable : (configured (some linksOnly)).Writable := ⟨rfl, rfl⟩
    have hblank : (({} : Settings).tagNamespace.toList.all (Text.isBlank · == false)) = true := by
      decide
    have hspace : Tag.PlainSpace ({} : Settings).tagNamespace.toList :=
      ⟨fun c hc => eq_of_beq (List.all_eq_true.mp hblank c hc), by decide, by decide⟩
    obtain ⟨-, hall⟩ := hrender {} linksOnly hlinks hwritable { settings := .ok {} } rfl
    obtain ⟨between, middle, hrun, houtcome⟩ := hall brokenLink (by decide)
    cases (run_expanded_of_headless hspace (by decide) .bundled 0 linksOnly rfl).symm.trans hrun
    obtain ⟨refused, hrefused, hresult⟩ :=
      (houtcome _ readDocument_brokenLink).2 not_accepted_brokenLink
    cases refusal?_brokenTokens.symm.trans hrefused
    exact hresult

/-- The text of a link can be a document and still make the filter fail. -/
theorem transform_unpairedBracket :
    (∃ read, Tools.bundled.readDocument brokenLink = .ok read) ∧
      ¬∃ result, transform .bundled brokenLink none = .ok result := by
  obtain ⟨refused, -, hresult⟩ := transform_of_not_accepted readDocument_brokenLink
    writesBack_bundled writable_configured_none not_accepted_brokenLink
  refine ⟨⟨_, readDocument_brokenLink⟩, ?_⟩
  rintro ⟨result, hok⟩
  rw [hresult] at hok
  cases hok

end ContentFilters.Standard.OffsiteLinks
