import ContentFilters.Html.Document.Write

/-!
# The elements of a document

The elements of a document in the order in which their tags stand, and changes that touch nothing
but their attributes. Building a document makes no element of its own: each comes from a start tag,
with the attributes written in it.
-/
namespace ContentFilters.Html.Document

mutual

/-- The elements in a node, each with its attributes and in front of those inside it. -/
def Node.elements : Node → List (Text × Attributes)
  | .element name attributes children => (name, attributes) :: elements children
  | .text _ | .verbatim _ => []

def elements : List Node → List (Text × Attributes)
  | [] => []
  | node :: rest => node.elements ++ elements rest

end

mutual

/-- A node in which the attributes of elements are changed and nothing else. -/
def Node.mapAttributes (change : Text → Attributes → Attributes) : Node → Node
  | .element name attributes children =>
    .element name (change name attributes) (mapAttributes change children)
  | .text s => .text s
  | .verbatim s => .verbatim s

def mapAttributes (change : Text → Attributes → Attributes) : List Node → List Node
  | [] => []
  | node :: rest => node.mapAttributes change :: mapAttributes change rest

end

theorem mem_elements {nodes : List Node} {e : Text × Attributes} :
    e ∈ elements nodes ↔ ∃ node ∈ nodes, e ∈ node.elements := by
  induction nodes with
  | nil => simp [elements]
  | cons node rest ih => simp [elements, ih]

/-- A statement about all elements holds of them in any order of the nodes. -/
theorem forall_elements_reverse {P : Text → Attributes → Prop} {nodes : List Node} :
    (∀ e ∈ elements nodes.reverse, P e.1 e.2) ↔ ∀ e ∈ elements nodes, P e.1 e.2 := by
  simp only [mem_elements, List.mem_reverse]

mutual

theorem Node.elements_mapAttributes (change : Text → Attributes → Attributes) :
    ∀ node : Node, (node.mapAttributes change).elements =
      node.elements.map fun e => (e.1, change e.1 e.2)
  | .element name attributes children => by
    rw [Node.mapAttributes, Node.elements, Node.elements, List.map_cons,
      ContentFilters.Html.Document.elements_mapAttributes change children]
  | .text s => rfl
  | .verbatim s => rfl

/-- The elements stay where they are. -/
theorem elements_mapAttributes (change : Text → Attributes → Attributes) :
    ∀ nodes : List Node, elements (mapAttributes change nodes) =
      (elements nodes).map fun e => (e.1, change e.1 e.2)
  | [] => rfl
  | node :: rest => by
    rw [mapAttributes, elements, elements, List.map_append, node.elements_mapAttributes change,
      elements_mapAttributes change rest]

end

mutual

theorem Node.mapAttributes_eq_self {change : Text → Attributes → Attributes} :
    ∀ node : Node, (∀ e ∈ node.elements, change e.1 e.2 = e.2) → node.mapAttributes change = node
  | .element name attributes children, h => by
    obtain ⟨hhere, hchildren⟩ := List.forall_mem_cons.mp h
    rw [Node.mapAttributes, hhere,
      ContentFilters.Html.Document.mapAttributes_eq_self children hchildren]
  | .text s, _ => rfl
  | .verbatim s, _ => rfl

/-- A change that leaves the attributes of all elements as they are is none. -/
theorem mapAttributes_eq_self {change : Text → Attributes → Attributes} :
    ∀ nodes : List Node, (∀ e ∈ elements nodes, change e.1 e.2 = e.2) →
      mapAttributes change nodes = nodes
  | [], _ => rfl
  | node :: rest, h => by
    obtain ⟨hnode, hrest⟩ := List.forall_mem_append.mp h
    rw [mapAttributes, node.mapAttributes_eq_self hnode, mapAttributes_eq_self rest hrest]

end

/-! ## Building -/

section Building

variable {P : Text → Attributes → Prop}

structure Draft.Holds (P : Text → Attributes → Prop) (d : Draft) : Prop where
  opened : ∀ frame ∈ d.opened, P frame.name frame.attributes ∧
    ∀ e ∈ elements frame.children, P e.1 e.2
  top : ∀ e ∈ elements d.top, P e.1 e.2

namespace Draft.Holds

variable {d : Draft} (h : d.Holds P)
include h

theorem add {node : Node} (hnode : ∀ e ∈ node.elements, P e.1 e.2) : (d.add node).Holds P := by
  unfold Draft.add
  split
  · next frame rest hopened =>
    obtain ⟨hframe, hrest⟩ := List.forall_mem_cons.mp (hopened ▸ h.opened)
    refine ⟨List.forall_mem_cons.mpr ⟨⟨hframe.1, ?_⟩, hrest⟩, h.top⟩
    exact List.forall_mem_append.mpr ⟨hnode, hframe.2⟩
  · exact ⟨h.opened, List.forall_mem_append.mpr ⟨hnode, h.top⟩⟩

theorem flush : d.flush.Holds P := by
  unfold Draft.flush
  split
  · exact h
  · next s _ =>
    have hd : ({ d with pending := none } : Draft).Holds P := ⟨h.opened, h.top⟩
    exact hd.add fun _ he => nomatch he

theorem addVerbatim (front : String) (s : Text) (back : String) :
    (d.addVerbatim front s back).Holds P :=
  h.flush.add fun _ he => nomatch he

theorem push {name : Text} {attributes : Attributes} (hnew : P name attributes) :
    (d.push name attributes).Holds P where
  opened := List.forall_mem_cons.mpr ⟨⟨hnew, fun _ he => nomatch he⟩, h.flush.opened⟩
  top := h.flush.top

theorem pop : d.pop.Holds P := by
  unfold Draft.pop
  split
  · next frame rest hopened =>
    obtain ⟨⟨hframe, hchildren⟩, hrest⟩ := List.forall_mem_cons.mp (hopened ▸ h.opened)
    have hd : ({ d with opened := rest } : Draft).Holds P := ⟨hrest, h.top⟩
    exact hd.add (List.forall_mem_cons.mpr ⟨hframe, forall_elements_reverse.mpr hchildren⟩)
  · exact h

theorem popMany (count : Nat) : (d.popMany count).Holds P := by
  induction count generalizing d with
  | zero => exact h
  | succ count ih => exact ih h.pop

theorem closeNamed (name : Text) : (d.closeNamed name).Holds P := by
  unfold Draft.closeNamed
  simp only
  split
  · exact h.flush.popMany _
  · exact h.flush

theorem finish (name : Text) : (d.finish name).Holds P := by
  unfold Draft.finish
  split
  · exact ⟨h.opened, h.top⟩
  · exact h.closeNamed name

theorem start {name : Text} {written : List (Text × Text)}
    (hnew : P name (elementAttributes name written)) (closed : Bool) :
    (d.start name written closed).Holds P := by
  have hpush := h.push hnew
  unfold Draft.start
  simp only
  split
  · exact hpush.finish name
  · split
    · exact ⟨(hpush.closeNamed name).opened, (hpush.closeNamed name).top⟩
    · exact hpush

theorem take {token : Token}
    (htoken : ∀ name written closed, token = .startTag name written closed →
      P name (elementAttributes name written)) : (d.take token).Holds P := by
  cases token with
  | text s => exact ⟨h.opened, h.top⟩
  | startTag name written closed => exact h.start (htoken _ _ _ rfl) closed
  | endTag name => exact h.finish name
  | comment s => exact h.addVerbatim _ s _
  | documentType s => exact h.addVerbatim _ s _
  | characterData s => exact h.addVerbatim _ s _
  | declaration s => exact h.addVerbatim _ s _
  | instruction s => exact h.addVerbatim _ s _

end Draft.Holds

/-- What holds of every start tag holds of every element. -/
theorem forall_elements_nodes {tokens : List Token}
    (h : ∀ name written closed, .startTag name written closed ∈ tokens →
      P name (elementAttributes name written)) : ∀ e ∈ elements (nodes tokens), P e.1 e.2 := by
  have hfold : ∀ (tokens : List Token) (d : Draft), d.Holds P →
      (∀ name written closed, .startTag name written closed ∈ tokens →
        P name (elementAttributes name written)) → (tokens.foldl Draft.take d).Holds P := by
    intro tokens
    induction tokens with
    | nil => exact fun d hd _ => hd
    | cons token rest ih =>
      intro d hd htokens
      refine ih _ (hd.take fun name written closed heq => ?_) fun name written closed hmem =>
        htokens name written closed (List.mem_cons_of_mem token hmem)
      exact htokens name written closed (heq ▸ List.mem_cons_self)
  have hnew : ({} : Draft).Holds P := ⟨fun _ he => (nomatch he), fun _ he => (nomatch he)⟩
  unfold nodes
  exact forall_elements_reverse.mpr (((hfold tokens {} hnew h).flush).popMany _).top

end Building

end ContentFilters.Html.Document
