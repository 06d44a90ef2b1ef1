import ContentFilters.Proofs.Html.Attributes
import ContentFilters.Proofs.Html.Elements
import ContentFilters.Standard.OffsiteLinks

/-!
# Marking links

Marking looks at the links of a document in their order. If the address of one cannot be split,
marking fails with the error of the first such link. Otherwise it changes the attributes of the
links that leave the site and nothing else in the document, and a second run finds nothing left to
change.
-/
namespace ContentFilters.Standard.OffsiteLinks

open Html.Document

/-! ## Options -/

/-- The value of an option: what is supplied for it, if that is truthy, and else the default. -/
def chosen (params : Option FilterParams) (option default : String) : Value :=
  ((params.bind fun p => Value.field? option p.options).filter Value.truthy).getD (.str default)

theorem optionValue_eq_chosen {option default : String}
    (h : data.defaultValue option = .ok (some (.str default))) (params : Option FilterParams) :
    data.optionValue params option = .ok (chosen params option default) := by
  unfold Descriptor.optionValue chosen
  cases (params.bind fun p => Value.field? option p.options).filter Value.truthy with
  | none =>
    rw [h]
    rfl
  | some supplied => rfl

/-- The host of the site as it is configured. -/
def configuredHost (params : Option FilterParams) : Text := (chosen params "site_host" "").display

def configured (params : Option FilterParams) : Marking where
  target := chosen params "target" "_blank"
  relation := chosen params "rel" "noopener noreferrer"
  siteHost := Text.lower (configuredHost params)

theorem marking_eq_configured (params : Option FilterParams) :
    marking params = .ok (configured params) := by
  unfold marking
  rw [optionValue_eq_chosen rfl params, optionValue_eq_chosen rfl params,
    optionValue_eq_chosen rfl params]
  rfl

/-! ## The attributes of a marked link -/

def markedNames : List Text := ["target".toList, "rel".toList, "class".toList]

/-- The attributes of a link before and after it is marked. -/
structure Marked (m : Marking) (before after : Attributes) : Prop
    extends KeptBut markedNames before after where
  target : attributeOf? "target".toList after = some (.given m.target)
  relation : attributeOf? "rel".toList after = some (.given m.relation)
  /-- The classes are those from before, with the mark at the end if it was not among them. -/
  classes : attributeOf? "class".toList after = some (.words (wordsOf "class".toList before ++
    if markClass ∈ wordsOf "class".toList before then [] else [markClass]))

variable (m : Marking) (attributes : Attributes)

theorem attributeOf?_of_mem_wordsOf {name word : Text} {attributes : Attributes}
    (h : word ∈ wordsOf name attributes) :
    attributeOf? name attributes = some (.words (wordsOf name attributes)) := by
  unfold wordsOf at h ⊢
  split at h
  · next list hfound => rw [hfound]
  · cases h

/-- The attributes of a marked link before its classes are looked at. -/
def redirected : Attributes :=
  setAttribute "rel".toList (.given m.relation)
    (setAttribute "target".toList (.given m.target) attributes)

theorem attributeOf?_redirected {key : Text} (htarget : key ≠ "target".toList)
    (hrelation : key ≠ "rel".toList) :
    attributeOf? key (redirected m attributes) = attributeOf? key attributes := by
  rw [redirected, attributeOf?_setAttribute, if_neg hrelation.symm, attributeOf?_setAttribute,
    if_neg htarget.symm]

/-- Classes are looked at after the other two are set, but these leave them as they are. -/
theorem markedAttributes_eq :
    markedAttributes m attributes =
      if markClass ∈ wordsOf "class".toList attributes then redirected m attributes
      else setAttribute "class".toList (.words (wordsOf "class".toList attributes ++ [markClass]))
        (redirected m attributes) := by
  have hclass : attributeOf? "class".toList (redirected m attributes) =
      attributeOf? "class".toList attributes :=
    attributeOf?_redirected m attributes (by decide) (by decide)
  have hwords : wordsOf "class".toList (redirected m attributes) =
      wordsOf "class".toList attributes := by
    unfold wordsOf
    rw [hclass]
  rw [← hwords, markedAttributes]
  simp only [List.contains_iff_mem]
  rfl

theorem keptBut_redirected : KeptBut markedNames attributes (redirected m attributes) :=
  ((KeptBut.refl attributes).set (by decide) _).set (by decide) _

theorem marked_markedAttributes : Marked m attributes (markedAttributes m attributes) := by
  have hrelation : attributeOf? "rel".toList (redirected m attributes) =
      some (.given m.relation) := by
    rw [redirected, attributeOf?_setAttribute, if_pos rfl]
  have htarget : attributeOf? "target".toList (redirected m attributes) =
      some (.given m.target) := by
    rw [redirected, attributeOf?_setAttribute, if_neg (by decide), attributeOf?_setAttribute,
      if_pos rfl]
  rw [markedAttributes_eq]
  split
  · next hmark =>
    refine ⟨keptBut_redirected m attributes, htarget, hrelation, ?_⟩
    rw [attributeOf?_redirected m attributes (by decide) (by decide), if_pos hmark,
      List.append_nil]
    exact attributeOf?_of_mem_wordsOf hmark
  · next hmark =>
    refine ⟨(keptBut_redirected m attributes).set (by decide) _, ?_, ?_, ?_⟩
    · rw [attributeOf?_setAttribute, if_neg (by decide), htarget]
    · rw [attributeOf?_setAttribute, if_neg (by decide), hrelation]
    · rw [attributeOf?_setAttribute, if_pos rfl, if_neg hmark]

/-- Attributes that carry the marks already stay as they are. -/
theorem markedAttributes_of_marked {before : Attributes} (h : Marked m before attributes) :
    markedAttributes m attributes = attributes := by
  have hmark : markClass ∈ wordsOf "class".toList attributes := by
    unfold wordsOf
    rw [h.classes]
    by_cases hbefore : markClass ∈ wordsOf "class".toList before
    · rw [if_pos hbefore, List.append_nil]
      exact hbefore
    · rw [if_neg hbefore]
      exact List.mem_append_right _ (List.mem_singleton_self markClass)
  rw [markedAttributes_eq, if_pos hmark, redirected, setAttribute_of_attributeOf? h.target,
    setAttribute_of_attributeOf? h.relation]

theorem textOf?_href_markedAttributes :
    textOf? "href".toList (markedAttributes m attributes) = textOf? "href".toList attributes := by
  have hhref : attributeOf? "href".toList (markedAttributes m attributes) =
      attributeOf? "href".toList attributes := by
    rw [markedAttributes_eq]
    split
    · exact attributeOf?_redirected m attributes (by decide) (by decide)
    · rw [attributeOf?_setAttribute, if_neg (by decide)]
      exact attributeOf?_redirected m attributes (by decide) (by decide)
  unfold textOf?
  rw [hhref]

/-! ## One element -/

variable (split : Text → Except AddressError Address)

def address? (name : Text) (attributes : Attributes) : Option Text :=
  if name = ['a'] then textOf? "href".toList attributes else none

/-- Links to other hosts: the address has one of the schemes of the web, and its host is not that of
the site, in any case of the letters, if the site has one. -/
def Offsite (siteHost name : Text) (attributes : Attributes) : Prop :=
  ∃ href address, address? name attributes = some href ∧ split href = .ok address ∧
    (address.scheme = "http".toList ∨ address.scheme = "https".toList) ∧
    ¬(siteHost ≠ [] ∧ address.host.map Text.lower = some (Text.lower siteHost))

def addressError? (e : Text × Attributes) : Option AddressError :=
  match (address? e.1 e.2).map split with
  | some (.error refused) => some refused
  | _ => none

/-- The attributes of an element in a marked document. -/
def outcome (name : Text) (attributes : Attributes) : Attributes :=
  match (address? name attributes).map split with
  | some (.ok address) => if leavesSite m address then markedAttributes m attributes else attributes
  | _ => attributes

theorem leavesSite_configured_iff {params : Option FilterParams} {address : Address} :
    leavesSite (configured params) address = true ↔
      (address.scheme = "http".toList ∨ address.scheme = "https".toList) ∧
        ¬(configuredHost params ≠ [] ∧
          address.host.map Text.lower = some (Text.lower (configuredHost params))) := by
  have hempty : (Text.lower (configuredHost params)).isEmpty = true ↔ configuredHost params = [] :=
    List.isEmpty_iff.trans Text.lower_eq_nil_iff
  simp only [leavesSite, configured, webSchemes, Bool.and_eq_true, Bool.not_eq_true',
    List.contains_iff_mem, List.mem_cons, List.not_mem_nil, or_false, Bool.and_eq_false_iff,
    Bool.not_eq_false', hempty, beq_eq_false_iff_ne]
  exact and_congr_right fun _ => (not_and_or.trans (or_congr_left not_not)).symm

theorem marked_outcome {params : Option FilterParams} {name : Text} {attributes : Attributes}
    (h : Offsite split (configuredHost params) name attributes) :
    Marked (configured params) attributes (outcome (configured params) split name attributes) := by
  obtain ⟨href, address, hhref, hsplit, hleaves⟩ := h
  rw [outcome, hhref, Option.map_some, hsplit]
  simp only [if_pos (leavesSite_configured_iff.mpr hleaves)]
  exact marked_markedAttributes _ attributes

theorem outcome_of_not_offsite {params : Option FilterParams} {name : Text}
    {attributes : Attributes} (h : ¬Offsite split (configuredHost params) name attributes) :
    outcome (configured params) split name attributes = attributes := by
  unfold outcome
  split
  · next address haddress =>
    obtain ⟨href, hhref, hsplit⟩ := Option.map_eq_some_iff.mp haddress
    have hstays : ¬leavesSite (configured params) address = true := fun hleaves =>
      h ⟨href, address, hhref, hsplit, leavesSite_configured_iff.mp hleaves⟩
    rw [if_neg hstays]
  · rfl

theorem address?_outcome (name : Text) (attributes : Attributes) :
    address? name (outcome m split name attributes) = address? name attributes := by
  unfold outcome
  split
  · split
    · unfold address?
      rw [textOf?_href_markedAttributes]
    · rfl
  · rfl

/-- Once marked, a link is not changed again. -/
theorem outcome_outcome (name : Text) (attributes : Attributes) :
    outcome m split name (outcome m split name attributes) = outcome m split name attributes := by
  have haddress := address?_outcome m split name attributes
  -- the second run sees the same address, so it decides as the first one did
  rw [outcome, haddress]
  split
  · next address hsplit =>
    split
    · next hleaves =>
      have hmarked : outcome m split name attributes = markedAttributes m attributes := by
        rw [outcome, hsplit]
        exact if_pos hleaves
      rw [hmarked]
      exact markedAttributes_of_marked m _ (marked_markedAttributes m attributes)
    · rfl
  · rfl

/-! ## A whole document -/

/-- What marking gives: a result, unless an address was refused. -/
def unlessRefused {α : Type} (refused : Option AddressError) (a : α) : Except FilterError α :=
  match refused with
  | some e => .error (.address e)
  | none => .ok a

theorem unlessRefused_bind {α β γ : Type} (first second : Option AddressError) (a : α) (b : β)
    (f : α → β → γ) :
    (do return f (← unlessRefused first a) (← unlessRefused second b)) =
      unlessRefused (first.or second) (f a b) := by
  cases first with
  | some refused => rfl
  | none => cases second with
    | some refused => rfl
    | none => rfl

/-- The error of the first of some elements whose address cannot be split. -/
def refusal? (found : List (Text × Attributes)) : Option AddressError :=
  found.findSome? (addressError? split)

theorem refusal?_cons (e : Text × Attributes) (rest : List (Text × Attributes)) :
    refusal? split (e :: rest) = (addressError? split e).or (refusal? split rest) := by
  unfold refusal?
  rw [List.findSome?_cons]
  cases addressError? split e with
  | none => rfl
  | some refused => rfl

theorem refusal?_append (before after : List (Text × Attributes)) :
    refusal? split (before ++ after) = (refusal? split before).or (refusal? split after) :=
  List.findSome?_append

/-- The attributes of one element, marked if it is a link that leaves the site. -/
theorem linkAttributes_eq (name : Text) (attributes : Attributes) :
    (if name = ['a'] then linkAttributes split m attributes else pure attributes) =
      unlessRefused (addressError? split (name, attributes)) (outcome m split name attributes) := by
  unfold addressError? outcome address?
  by_cases hname : name = ['a']
  · simp only [if_pos hname]
    unfold linkAttributes
    cases textOf? "href".toList attributes with
    | none => rfl
    | some href =>
      simp only [Option.map_some]
      cases split href with
      | error refused => rfl
      | ok address => rfl
  · simp only [if_neg hname]
    rfl

theorem markNode_element (name : Text) (attributes : Attributes) (children : List Node) :
    markNode split m (.element name attributes children) =
      (if name = ['a'] then linkAttributes split m attributes else pure attributes) >>=
        fun here => markNodes split m children >>=
          fun inner => pure (.element name here inner) := by
  rw [markNode]
  split
  · rfl
  · rfl

-- by recursion on the tree: the error of an element comes before those of its children, and these
-- before those of the nodes behind it, which is the order of `elements`
mutual

theorem markNode_eq : ∀ node : Node, markNode split m node =
    unlessRefused (refusal? split node.elements) (node.mapAttributes (outcome m split))
  | .element name attributes children => by
    rw [markNode_element, linkAttributes_eq, markNodes_eq children, Node.elements, refusal?_cons,
      Node.mapAttributes]
    exact unlessRefused_bind _ _ _ _ (Node.element name)
  | .text s => rfl
  | .verbatim s => rfl

/-- Marking changes the attributes of elements, unless the address of a link is refused. -/
theorem markNodes_eq : ∀ nodes : List Node, markNodes split m nodes =
    unlessRefused (refusal? split (elements nodes)) (mapAttributes (outcome m split) nodes)
  | [] => rfl
  | node :: rest => by
    rw [markNodes, markNode_eq node, markNodes_eq rest, elements, refusal?_append, mapAttributes]
    exact unlessRefused_bind _ _ _ _ List.cons

end

theorem refusal?_mapAttributes (nodes : List Node) :
    refusal? split (elements (mapAttributes (outcome m split) nodes)) =
      refusal? split (elements nodes) := by
  have hsame : ∀ e : Text × Attributes,
      addressError? split (e.1, outcome m split e.1 e.2) = addressError? split e := by
    intro e
    unfold addressError?
    rw [address?_outcome]
  rw [elements_mapAttributes, refusal?, List.findSome?_map]
  exact congrArg (List.findSome? · (elements nodes)) (funext hsame)

/-- Marking a marked document again changes nothing. -/
theorem mapAttributes_outcome (nodes : List Node) :
    mapAttributes (outcome m split) (mapAttributes (outcome m split) nodes) =
      mapAttributes (outcome m split) nodes := by
  refine mapAttributes_eq_self _ fun e he => ?_
  rw [elements_mapAttributes] at he
  obtain ⟨⟨name, attributes⟩, -, rfl⟩ := List.mem_map.mp he
  exact outcome_outcome m split name attributes

/-- Documents in which the address of every link can be split. -/
def Splittable (nodes : List Node) : Prop :=
  ∀ name attributes, (name, attributes) ∈ elements nodes → ∀ href,
    address? name attributes = some href → ∃ address, split href = .ok address

theorem addressError?_eq_none_iff {name : Text} {attributes : Attributes} :
    addressError? split (name, attributes) = none ↔
      ∀ href, address? name attributes = some href → ∃ address, split href = .ok address := by
  unfold addressError?
  cases haddress : address? name attributes with
  | none => simp
  | some href =>
    cases hsplit : split href with
    | error refused => simp [hsplit]
    | ok address => simp [hsplit]

theorem refusal?_eq_none_iff {nodes : List Node} :
    refusal? split (elements nodes) = none ↔ Splittable split nodes := by
  rw [refusal?, List.findSome?_eq_none_iff]
  constructor
  · exact fun h name attributes hmem => (addressError?_eq_none_iff split).mp (h _ hmem)
  · exact fun h e he => (addressError?_eq_none_iff split).mpr (h e.1 e.2 he)

/-- Marking a document changes exactly the links that leave the site. They get the configured target
and relation, and the mark after their classes if it is not among them. Their other attributes, all
other elements, the texts and the shape of the document stay as they are, and marking the result
again with the same parameters changes nothing. This holds for every document and all parameters,
and for every way of splitting addresses that splits those of the links. -/
theorem markNodes_offsite (split : Text → Except AddressError Address)
    (params : Option FilterParams) {nodes : List Node} (hsplit : Splittable split nodes) :
    ∃ m change, marking params = .ok m ∧
      m.target = chosen params "target" "_blank" ∧
      m.relation = chosen params "rel" "noopener noreferrer" ∧
      markNodes split m nodes = .ok (mapAttributes change nodes) ∧
      markNodes split m (mapAttributes change nodes) = .ok (mapAttributes change nodes) ∧
      ∀ name attributes,
        (Offsite split (configuredHost params) name attributes →
          Marked m attributes (change name attributes)) ∧
        (¬Offsite split (configuredHost params) name attributes →
          change name attributes = attributes) := by
  have hnone := (refusal?_eq_none_iff split).mpr hsplit
  refine ⟨configured params, outcome (configured params) split, marking_eq_configured params, rfl,
    rfl, ?_, ?_, fun name attributes => ⟨marked_outcome split, outcome_of_not_offsite split⟩⟩
  · rw [markNodes_eq, hnone]
    rfl
  · rw [markNodes_eq, refusal?_mapAttributes, hnone, mapAttributes_outcome]
    rfl

def outward : Attributes :=
  [("class".toList, .words ["old".toList]), ("href".toList, .text "HTTP://x.org/".toList)]

def inward : Attributes := [("href".toList, .text "http://SITE.org/".toList)]

/-- A link to the site inside a link to another host. -/
def nestedLinks : List Node :=
  [.element ['a'] outward [.text "t".toList, .element ['a'] inward []]]

def siteParams : FilterParams where
  options := [("site_host", .str "Site.Org"), ("target", .str "")]

/-- Of two links, one inside the other, only the one that leaves the site is marked. -/
theorem markNodes_offsite_nestedLinks : Splittable Address.split nestedLinks ∧
    ∃ m change, marking (some siteParams) = .ok m ∧
      markNodes Address.split m nestedLinks = .ok (mapAttributes change nestedLinks) ∧
      Marked m outward (change ['a'] outward) ∧ change ['a'] inward = inward := by
  have hout : Address.split "HTTP://x.org/".toList = .ok ⟨"http".toList, some "x.org".toList⟩ := rfl
  have hin : Address.split "http://SITE.org/".toList =
    .ok ⟨"http".toList, some "site.org".toList⟩ := rfl
  have hhost : configuredHost (some siteParams) = "Site.Org".toList := rfl
  have hsplit : Splittable Address.split nestedLinks := by
    intro name attributes hmem href hhref
    have hcases : (name, attributes) = (['a'], outward) ∨ (name, attributes) = (['a'], inward) := by
      simpa [nestedLinks, elements, Node.elements] using hmem
    rcases hcases with heq | heq
    · cases heq
      cases hhref
      exact ⟨_, hout⟩
    · cases heq
      cases hhref
      exact ⟨_, hin⟩
  obtain ⟨m, change, hm, -, -, hmark, -, hchange⟩ :=
    markNodes_offsite Address.split (some siteParams) hsplit
  refine ⟨hsplit, m, change, hm, hmark, (hchange ['a'] outward).1 ?_, (hchange ['a'] inward).2 ?_⟩
  · refine ⟨_, _, rfl, hout, .inl rfl, fun hsite => ?_⟩
    rw [hhost] at hsite
    exact absurd hsite.2 (by decide)
  · rintro ⟨href, address, hhref, haddress, -, hother⟩
    cases hhref
    cases hin.symm.trans haddress
    exact hother ⟨by rw [hhost]; decide, by rw [hhost]; decide⟩

end ContentFilters.Standard.OffsiteLinks
