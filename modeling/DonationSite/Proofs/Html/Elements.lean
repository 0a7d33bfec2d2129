import DonationSite.Html.Basic

/-!
# Elements of a tree

The elements of a tree in the order of the document, and what a reader of the page looks for among
them: elements with a class, the radio buttons of a group, the hidden inputs for a field, and the
options of a dropdown. Where it matters what an element stands in, the elements right inside others
are looked at level by level.
-/

namespace DonationSite.Html

variable {μ : Type}

/-- An element of a tree. -/
structure Element (μ : Type) where
  tag : String
  attributes : Attributes
  body : Html μ

/-- The elements of a tree, each before those inside it. -/
def elements : Html μ → List (Element μ)
  | empty => []
  | text _ => []
  | element tag attributes _ body => ⟨tag, attributes, body⟩ :: body.elements
  | append first second => first.elements ++ second.elements

/-- The text in a tree. -/
def content : Html μ → String
  | empty => ""
  | text content => content
  | element _ _ _ body => body.content
  | append first second => first.content ++ second.content

namespace Element

/-- Whether an element has a class. -/
def hasClass (name : String) (e : Element μ) : Bool :=
  e.attributes.classes.contains name

/-- Whether an element has an identifier. -/
def hasId (name : String) (e : Element μ) : Bool :=
  e.attributes.plain.contains ("id", name)

/-- Whether an element is a radio button of a group. -/
def isRadio (group : String) (e : Element μ) : Bool :=
  e.tag == "input" && e.attributes.plain.contains ("type", "radio") &&
    e.attributes.plain.contains ("name", group)

/-- Whether an element is a hidden input for a field. -/
def isHidden (name : String) (e : Element μ) : Bool :=
  e.tag == "input" && e.attributes.plain.contains ("type", "hidden") &&
    e.attributes.plain.contains ("name", name)

/-- Whether an element is a checked radio button. -/
def isChecked (e : Element μ) : Bool :=
  e.attributes.checked

/-- Whether an element is an option of a dropdown. -/
def isOption (e : Element μ) : Bool :=
  e.tag == "option"

/-- Whether an element is the selected option. -/
def isSelected (e : Element μ) : Bool :=
  e.attributes.flags.contains ("selected", true)

variable (tag : String) (attributes : Attributes) (body : Html μ)

/-- The class is looked for among the attributes alone, whatever stands inside. -/
@[simp] theorem hasClass_mk (name : String) :
    (⟨tag, attributes, body⟩ : Element μ).hasClass name = attributes.classes.contains name := rfl

/-- The same for an identifier. -/
@[simp] theorem hasId_mk (name : String) :
    (⟨tag, attributes, body⟩ : Element μ).hasId name = attributes.plain.contains ("id", name) :=
  rfl

/-- The same for a radio button of a group. -/
@[simp] theorem isRadio_mk (group : String) :
    (⟨tag, attributes, body⟩ : Element μ).isRadio group =
      (tag == "input" && attributes.plain.contains ("type", "radio") &&
        attributes.plain.contains ("name", group)) := rfl

/-- The same for a hidden input. -/
@[simp] theorem isHidden_mk (name : String) :
    (⟨tag, attributes, body⟩ : Element μ).isHidden name =
      (tag == "input" && attributes.plain.contains ("type", "hidden") &&
        attributes.plain.contains ("name", name)) := rfl

/-- Options are told by their tag. -/
@[simp] theorem isOption_mk :
    (⟨tag, attributes, body⟩ : Element μ).isOption = (tag == "option") := rfl

end Element

/-! ### Looking for elements -/

/-- The elements that pass a test, in order. -/
def find (p : Element μ → Bool) (h : Html μ) : List (Element μ) :=
  h.elements.filter p

/-- The elements with a class, in order. -/
abbrev withClass (name : String) (h : Html μ) : List (Element μ) :=
  h.find (·.hasClass name)

/-- The elements with an identifier, in order. -/
abbrev withId (name : String) (h : Html μ) : List (Element μ) :=
  h.find (·.hasId name)

/-- The radio buttons of a group, in order. -/
abbrev radios (group : String) (h : Html μ) : List (Element μ) :=
  h.find (·.isRadio group)

/-- The hidden inputs for a field, in order. -/
abbrev hidden (name : String) (h : Html μ) : List (Element μ) :=
  h.find (·.isHidden name)

/-- The options of a dropdown, in order. -/
abbrev options (h : Html μ) : List (Element μ) :=
  h.find (·.isOption)

variable (p : Element μ → Bool)

/-- There is nothing in the empty tree. -/
@[simp] theorem find_empty : (empty : Html μ).find p = [] := rfl

/-- Texts are no elements. -/
@[simp] theorem find_text (content : String) : (text content : Html μ).find p = [] := rfl

/-- An element comes before what stands inside it. -/
@[simp] theorem find_element (tag : String) (attributes : Attributes)
    (listeners : List (Listener μ)) (body : Html μ) :
    (element tag attributes listeners body).find p =
      [⟨tag, attributes, body⟩].filter p ++ body.find p := by
  rw [find, find, ← List.filter_append]
  rfl

/-- Two trees are looked through one after the other. -/
theorem find_append (first second : Html μ) :
    (first ++ second).find p = first.find p ++ second.find p := by
  show (first.elements ++ second.elements).filter p = _
  exact List.filter_append _ _

/-- So are any number of them. -/
@[simp] theorem find_concat (trees : List (Html μ)) :
    (concat trees).find p = trees.flatMap (find p) := by
  induction trees with
  | nil => rfl
  | cons tree trees ih =>
    show (tree ++ concat trees).find p = _
    rw [find_append, ih, List.flatMap_cons]

/-- An element with some trees inside it. -/
@[simp] theorem find_node (tag : String) (attributes : Attributes) (body : List (Html μ)) :
    (node tag attributes body).find p =
      [⟨tag, attributes, concat body⟩].filter p ++ body.flatMap (find p) := by
  rw [node, find_element, find_concat]

/-! ### The uppermost elements -/

/-- The elements of a tree that stand inside no other one, in order. -/
def roots : Html μ → List (Element μ)
  | empty => []
  | text _ => []
  | element tag attributes _ body => [⟨tag, attributes, body⟩]
  | append first second => first.roots ++ second.roots

/-- The elements right inside elements, in order. -/
def inside (elements : List (Element μ)) : List (Element μ) :=
  elements.flatMap (·.body.roots)

/-- An element hides what stands inside it. -/
@[simp] theorem roots_node (tag : String) (attributes : Attributes) (body : List (Html μ)) :
    (node tag attributes body).roots = [⟨tag, attributes, concat body⟩] := rfl

/-- Trees next to each other have the uppermost elements of each. -/
@[simp] theorem roots_concat (trees : List (Html μ)) :
    (concat trees).roots = trees.flatMap roots := by
  induction trees with
  | nil => rfl
  | cons tree trees ih =>
    show tree.roots ++ (concat trees).roots = _
    rw [ih, List.flatMap_cons]

/-- Right inside one element are the uppermost elements of its body. -/
@[simp] theorem inside_singleton (e : Element μ) : inside [e] = e.body.roots :=
  List.flatMap_singleton _ _

/-! ### Listeners -/

/-- Trees next to each other have the listeners of each, in the order of the document. -/
@[simp] theorem listeners_concat (kind : EventKind) (trees : List (Html μ)) :
    (concat trees).listeners kind = trees.flatMap (listeners kind) := by
  induction trees with
  | nil => rfl
  | cons tree trees ih =>
    show tree.listeners kind ++ (concat trees).listeners kind = _
    rw [ih, List.flatMap_cons]

/-- An element without listeners of its own has those of the trees inside it. -/
@[simp] theorem listeners_node (kind : EventKind) (tag : String) (attributes : Attributes)
    (body : List (Html μ)) : (node tag attributes body).listeners kind =
      body.flatMap (listeners kind) := by
  rw [node, listeners, listeners_concat]
  rfl

/-- Where there can be no message, no listener means anything. -/
theorem message_of_mem_listeners_map {h : Html Empty} {kind : EventKind} {listener : Listener μ}
    (hmem : listener ∈ (h.map nofun).listeners kind) (value : String) :
    listener.message value = none := by
  induction h with
  | empty => cases hmem
  | text => cases hmem
  | element tag attributes own body ih =>
    rcases List.mem_append.1 hmem with hmem | hmem
    -- A listener of the element itself was relabelled, so its message comes from one that there
    -- cannot be.
    · obtain ⟨before, -, rfl⟩ := List.mem_map.1 (List.mem_filter.1 hmem).1
      cases hmessage : before.message value with
      | none => simp [Listener.map, hmessage]
      | some message => cases message
    · exact ih hmem
  | append first second ihFirst ihSecond =>
    rcases List.mem_append.1 hmem with hmem | hmem
    · exact ihFirst hmem
    · exact ihSecond hmem

end DonationSite.Html
