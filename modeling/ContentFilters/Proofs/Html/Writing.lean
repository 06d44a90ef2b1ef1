import ContentFilters.Proofs.Html.Attributes
import ContentFilters.Proofs.Html.Elements

/-!
# What can be written

A document can be written if every attribute in it has a text. That is so for each document as it
was read, since its attributes hold texts and lists of words.
-/
namespace ContentFilters.Html.Document

def Attributes.Writable (attributes : Attributes) : Prop :=
  ∀ entry ∈ attributes, entry.2.Writable

theorem Attributes.Writable.set {name : Text} {value : AttributeValue} {attributes : Attributes}
    (h : attributes.Writable) (hvalue : value.Writable) :
    (setAttribute name value attributes).Writable := by
  intro entry hentry
  rcases mem_setAttribute name value attributes hentry with rfl | hmem
  · exact hvalue
  · exact h entry hmem

theorem isSome_mapM {α β : Type} {f : α → Option β} {l : List α} (h : ∀ a ∈ l, (f a).isSome) :
    (l.mapM f).isSome := by
  induction l with
  | nil => rfl
  | cons a rest ih =>
    obtain ⟨ha, hrest⟩ := List.forall_mem_cons.mp h
    obtain ⟨b, hb⟩ := Option.isSome_iff_exists.mp ha
    obtain ⟨bs, hbs⟩ := Option.isSome_iff_exists.mp (ih hrest)
    rw [List.mapM_cons, hb, hbs]
    rfl

def writtenAttribute? (entry : Text × AttributeValue) : Option Text := do
  return ' ' :: entry.1 ++ '=' :: quotedValue (escapeText (← entry.2.shown?))

theorem writtenAttributes?_eq (attributes : Attributes) :
    writtenAttributes? attributes = (do
      return (← (attributes.mergeSort fun a b => Text.precedes a.1 b.1).mapM
        writtenAttribute?).flatten) := rfl

theorem Attributes.Writable.isSome_written {attributes : Attributes} (h : attributes.Writable) :
    (writtenAttributes? attributes).isSome := by
  have hall : ∀ entry ∈ attributes.mergeSort fun a b => Text.precedes a.1 b.1,
      (writtenAttribute? entry).isSome := by
    intro entry hentry
    obtain ⟨shown, hshown⟩ := Option.isSome_iff_exists.mp (h entry (List.mem_mergeSort.mp hentry))
    rw [writtenAttribute?, hshown]
    rfl
  obtain ⟨written, hwritten⟩ := Option.isSome_iff_exists.mp (isSome_mapM hall)
  rw [writtenAttributes?_eq, hwritten]
  rfl

mutual

theorem Node.isSome_write? : ∀ (raw : Bool) (node : Node), (∀ e ∈ node.elements, e.2.Writable) →
    (writeNode? raw node).isSome
  | raw, .element name attributes children, h => by
    obtain ⟨hhere, hchildren⟩ := List.forall_mem_cons.mp h
    obtain ⟨start, hstart⟩ := Option.isSome_iff_exists.mp (Attributes.Writable.isSome_written hhere)
    obtain ⟨inner, hinner⟩ := Option.isSome_iff_exists.mp
      (isSome_writeNodes? (rawNames.contains name) children hchildren)
    rw [writeNode?, hstart, hinner]
    rfl
  | raw, .text s, _ => rfl
  | raw, .verbatim s, _ => rfl

/-- Nodes can be written if all attributes in them have a text. -/
theorem isSome_writeNodes? : ∀ (raw : Bool) (nodes : List Node),
    (∀ e ∈ elements nodes, e.2.Writable) → (writeNodes? raw nodes).isSome
  | raw, [], _ => rfl
  | raw, node :: rest, h => by
    obtain ⟨hnode, hrest⟩ := List.forall_mem_append.mp h
    obtain ⟨here, hhere⟩ := Option.isSome_iff_exists.mp (node.isSome_write? raw hnode)
    obtain ⟨others, hothers⟩ := Option.isSome_iff_exists.mp (isSome_writeNodes? raw rest hrest)
    rw [writeNodes?, hhere, hothers]
    rfl

end

/-- The attributes of a document as it was read hold lists of words where their names ask for them,
such as those of the classes, and texts elsewhere. -/
theorem asRead_of_mem_elements_nodes (tokens : List Token) :
    ∀ e ∈ elements (nodes tokens), ∀ entry ∈ e.2, entry.2.AsRead e.1 entry.1 :=
  forall_elements_nodes
    (P := fun tag attributes => ∀ entry ∈ attributes, entry.2.AsRead tag entry.1)
    fun tag written _ _ =>
      forall_mem_elementAttributes (Q := fun name value => value.AsRead tag name)
        (asRead_readValue tag) written

theorem writable_of_mem_elements_nodes (tokens : List Token) :
    ∀ e ∈ elements (nodes tokens), e.2.Writable := fun e he entry hentry =>
  (asRead_of_mem_elements_nodes tokens e he entry hentry).writable

end ContentFilters.Html.Document
