import DonationSite.Settings
import DonationSite.Text.Quoted
import DonationSite.Ui.Component

/-!
# Clipboard button

A button that writes a text to the clipboard and says so for a while. Each click starts a write of
its own. A write that succeeds turns the button to `copied` and starts a timer that turns it back; a
write that fails turns it to the face it had when it was clicked, and if that was `copied`, a timer
is started too.
-/

namespace DonationSite.Ui

/-- What a clipboard button shows. -/
inductive Face where
  | idle
  | copied
  deriving DecidableEq, Repr, Inhabited

namespace Face

/-- The word for a face. -/
def word : Face → String
  | .idle => "Idle"
  | .copied => "Copied"

/-- The face after a write that was started on the given one. -/
def after (face : Face) (succeeded : Bool) : Face :=
  if succeeded then .copied else face

/-- Whether a timer must turn the button back. -/
def isTemporary (face : Face) : Bool :=
  face = .copied

/-- What the button says, given what it says at rest. -/
def label (face : Face) (idle : String) : String :=
  match face with
  | .idle => idle
  | .copied => "Copied"

end Face

/-- A write that is not done yet. -/
structure PendingWrite where
  number : Nat
  /-- The face of the button when it was clicked. -/
  clicked : Face
  deriving DecidableEq, Repr

/-- A clipboard button with what it has started. -/
structure ClipboardButton where
  /-- The text to copy. -/
  text : String
  /-- What the button says at rest. -/
  idleLabel : String := "Copy"
  /-- Whether there is a window, and so a clipboard. -/
  hasWindow : Bool := true
  face : Face := .idle
  /-- How many writes were started. -/
  writes : Nat := 0
  /-- The writes that are not done. -/
  pending : List PendingWrite := []
  /-- How many timers were started. -/
  timers : Nat := 0
  /-- The timers that are not due. -/
  running : List Nat := []
  deriving DecidableEq, Repr

namespace ClipboardButton

/-- The only thing to do with the button. -/
inductive Message where
  | click
  deriving DecidableEq, Repr

/-- Starts a write. -/
def click (b : ClipboardButton) : ClipboardButton × List Effect :=
  if b.hasWindow then
    ({ b with writes := b.writes + 1, pending := b.pending ++ [⟨b.writes, b.face⟩] },
     [.copy b.text])
  else (b, [])

/-- The line in the log about a write that is done. -/
def writeLine (b : ClipboardButton) : Option String → Log.Line
  | none => ⟨.debug, "Copied " ++ toString b.text.utf8ByteSize ++ " characters to clipboard"⟩
  | some reason => ⟨.error, "Clipboard write failed: JsValue(" ++ Text.quote reason ++ ")"⟩

/-- Shows a face, and starts a timer if it is temporary. -/
def turn (b : ClipboardButton) (face : Face) : ClipboardButton × List Effect :=
  if face.isTemporary then
    ({ b with face := face, timers := b.timers + 1, running := b.running ++ [b.timers] },
     [.startTimer Settings.copiedResetMs])
  else ({ b with face := face }, [])

/-- Takes the end of a write. Nothing happens if none with that number is pending. -/
def written (b : ClipboardButton) (number : Nat) (failure : Option String) :
    ClipboardButton × List Effect :=
  match b.pending.find? (·.number == number) with
  | none => (b, [])
  | some write =>
    let done := { b with pending := b.pending.filter (·.number != number) }
    let (turned, effects) := done.turn (write.clicked.after failure.isNone)
    (turned, .log (b.writeLine failure) :: effects)

/-- Takes a timer that is due. Nothing happens if none with that number is running. -/
def due (b : ClipboardButton) (number : Nat) : ClipboardButton :=
  if number ∈ b.running then
    { b with face := .idle, running := b.running.filter (· != number) }
  else b

/-- The button as HTML. -/
def view (b : ClipboardButton) : Html Message :=
  .element "button"
    { classes := "copy-button" :: if b.face = .copied then ["copied"] else [] }
    [{ kind := .click, prevents := true, message := fun _ => some .click }]
    (.text (b.face.label b.idleLabel))

/-- Takes a report of the browser. -/
def receive (b : ClipboardButton) : Signal → ClipboardButton × List Effect
  | .copied number failure => b.written number failure
  | .due number => (b.due number, [])
  | _ => (b, [])

/-- The button as a component. -/
def component : Component ClipboardButton Message where
  view := view
  update b _ := b.click
  receive := receive
  observe b := { copy := some b.face.word }

end ClipboardButton

end DonationSite.Ui
