/-!
# HTML

Trees of elements and text. An element may listen to events of the visitor; what an event means is
a message, a value of the type `μ`.
-/

namespace DonationSite

namespace Html

/-- A kind of event. -/
inductive EventKind where
  | click
  | change
  | input
  | focusOut
  deriving DecidableEq, Repr

/-- What an element does about an event. -/
structure Listener (μ : Type) where
  kind : EventKind
  /-- Whether it keeps the browser from reacting in its own way. -/
  prevents : Bool := false
  /-- What the event means, given the text that its element holds; it may mean nothing. -/
  message : String → Option μ

/-- The attributes of an element. -/
structure Attributes where
  /-- The text that an input holds, or an option stands for. -/
  value : Option String := none
  /-- Whether a radio button is checked. -/
  checked : Bool := false
  /-- Attributes that are always written, in order. -/
  plain : List (String × String) := []
  /-- Attributes that are written only if they hold. -/
  flags : List (String × Bool) := []
  /-- The classes of the element. -/
  classes : List String := []

end Html

/-- A tree of elements and text, or several trees in a row. -/
inductive Html (μ : Type) where
  | empty
  | text (content : String)
  | element (tag : String) (attributes : Html.Attributes) (listeners : List (Html.Listener μ))
      (body : Html μ)
  | append (first second : Html μ)

namespace Html

variable {μ ν : Type}

instance : Append (Html μ) := ⟨append⟩

/-- Trees in a row. -/
def concat (trees : List (Html μ)) : Html μ :=
  trees.foldr (· ++ ·) empty

/-- An element without listeners around trees in a row. -/
def node (tag : String) (attributes : Attributes) (body : List (Html μ)) : Html μ :=
  element tag attributes [] (concat body)

/-- A listener whose message is passed through a function. -/
def Listener.map (f : μ → ν) (listener : Listener μ) : Listener ν where
  kind := listener.kind
  prevents := listener.prevents
  message value := (listener.message value).map f

/-- A tree whose messages are passed through a function. -/
def map (f : μ → ν) : Html μ → Html ν
  | empty => empty
  | text content => text content
  | element tag attributes listeners body =>
    element tag attributes (listeners.map (·.map f)) (body.map f)
  | append first second => append (first.map f) (second.map f)

/-- The listeners to a kind of event, in the order of the document. -/
def listeners (kind : EventKind) : Html μ → List (Listener μ)
  | empty => []
  | text _ => []
  | element _ _ own body => own.filter (·.kind = kind) ++ body.listeners kind
  | append first second => first.listeners kind ++ second.listeners kind

end Html

end DonationSite
