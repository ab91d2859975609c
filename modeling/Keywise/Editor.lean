/-
# The editor

All that commands read and change: the text, the cursor and the column it
aims at, the selection, what is shown, the key maps and the registers. A
scope may have registers of its own, which are used in place of the shared
ones while it lasts.

Commands ask for a change of mode, or for a key to be handed to the mode that
is then current, by putting it in a queue.

Key definitions: `Editor`, `Editor.moveTo`, `Editor.replace`,
`Editor.registers`, `Editor.request`.
-/
import Keywise.KeyMap.Store
import Keywise.Motion.Basic
import Keywise.Selection

namespace Keywise

/-- The names of modes: the ones an editor has, and others. -/
inductive ModeName where
  | normal
  | visual
  | linewiseVisual
  | insert
  | replace
  | command
  | search
  | insertExpand
  | other (name : String)
  deriving DecidableEq, Repr

namespace ModeName

/-- The name written as given. -/
def ofString (s : String) : ModeName :=
  if s = "normal" then normal
  else if s = "visual" then visual
  else if s = "linewise visual" then linewiseVisual
  else if s = "insert" then insert
  else if s = "replace" then replace
  else if s = "command" then command
  else if s = "search" then search
  else if s = "insert expand" then insertExpand
  else other s

/-- The name as text. -/
def text : ModeName → String
  | normal => "normal"
  | visual => "visual"
  | linewiseVisual => "linewise visual"
  | insert => "insert"
  | replace => "replace"
  | command => "command"
  | search => "search"
  | insertExpand => "insert expand"
  | other s => s

end ModeName

/-- What a mode is told when it is entered. -/
inductive ModeArg where
  /-- Go on where the mode was left. -/
  | resume
  /-- Search towards the start of the text. -/
  | searchBackward
  /-- Begin the selection at this offset. -/
  | anchor (p : Nat)
  deriving DecidableEq, Repr

/-- A mode to be entered, and what it is to be told. -/
structure ModeRequest where
  name : ModeName
  args : List ModeArg := []
  deriving DecidableEq, Repr

/-- What is shown beside the text. -/
structure Screen where
  /-- The current mode, by the name that is shown for it. -/
  mode : String := ""
  /-- How often the name of a mode was shown. -/
  modeUpdates : Nat := 0
  info : Option String := none
  error : Option String := none
  commandLine : Option String := none
  deriving DecidableEq, Repr

namespace Screen

/-- The message to show: an error if there is one. -/
def message (s : Screen) : Option String := s.error.or s.info

/-- Shows the name of a mode. -/
def showMode (s : Screen) (display : String) : Screen :=
  { s with mode := display, modeUpdates := s.modeUpdates + 1 }

/-- Shows a message, and no error. -/
def showInfo (s : Screen) (message : String) : Screen :=
  { s with info := some message, error := none }

/-- Shows an error. -/
def showError (s : Screen) (message : String) : Screen := { s with error := some message }

/-- Shows no message. -/
def clearMessages (s : Screen) : Screen := { s with info := none, error := none }

end Screen

/-- The state that commands work on. -/
structure Editor where
  text : Text
  cursor : Nat := 0
  sticky : Option Sticky := none
  selection : Option Selection := none
  screen : Screen := {}
  keyMaps : KeyMaps := .standard
  /-- The registers that outlast a scope. -/
  shared : Registers := {}
  /-- The registers of the scope, if it has its own. -/
  own : Option Registers := none
  requests : List ModeRequest := []
  replays : List Key := []

namespace Editor

/-- The registers in use. -/
def registers (e : Editor) : Registers := e.own.getD e.shared

/-- Changes the registers in use. -/
def modifyRegisters (e : Editor) (f : Registers → Registers) : Editor :=
  match e.own with
  | some r => { e with own := some (f r) }
  | none => { e with shared := f e.shared }

/-- Begins a scope with registers of its own, all empty. -/
def enterScope (e : Editor) : Editor := { e with own := some {} }

/-- Ends the scope: the shared registers are in use again. -/
def leaveScope (e : Editor) : Editor := { e with own := none }

/-- Puts the cursor at offset `p`, or at the end of the text, and changes the
column aimed at. -/
def moveTo (e : Editor) (p : Nat) (s : Stickiness) : Editor :=
  let p := min p e.text.length
  match s with
  | .keep => { e with cursor := p }
  | .column => { e with cursor := p, sticky := some (.column (p - (e.text.lineAt p).start)) }
  | .lineEnd => { e with cursor := p, sticky := some .lineEnd }

/-- Puts the cursor where it may rest. -/
def settle (e : Editor) (s : Stickiness) : Editor := e.moveTo (e.text.rest e.cursor) s

/-- Replaces `len` characters from offset `start` by `new`. -/
def replace (e : Editor) (start len : Nat) (new : Text) : Editor :=
  { e with text := e.text.splice start len new }

/-- The line of the cursor. -/
def line (e : Editor) : Line := e.text.lineAt e.cursor

/-- Asks for a mode to be entered. -/
def request (e : Editor) (name : ModeName) (args : List ModeArg) : Editor :=
  { e with requests := e.requests ++ [⟨name, args⟩] }

/-- Asks for a key to be handed to the mode current then. -/
def replay (e : Editor) (k : Key) : Editor := { e with replays := e.replays ++ [k] }

/-- Shows an error. -/
def showError (e : Editor) (message : String) : Editor :=
  { e with screen := e.screen.showError message }

/-- Shows a message. -/
def showInfo (e : Editor) (message : String) : Editor :=
  { e with screen := e.screen.showInfo message }

/-- Reports a command that has failed. -/
def report (e : Editor) (err : CommandError) : Editor := e.showError err.message

/-- The editor as motion `m` leaves it, before it is known where the motion
leads: a search to be recorded is. -/
def recording (e : Editor) (m : Motion) : Editor :=
  match m.recording? with
  | some s => e.modifyRegisters fun r => { r with lastFind := some s }
  | none => e

/-- Where motion `m` leads from offset `p`. -/
def destination (e : Editor) (m : Motion) (count : Option Nat) (p : Nat) :
    Except CommandError Nat :=
  m.destination e.text e.sticky count p

theorem cursor_moveTo (e : Editor) (p : Nat) (s : Stickiness) :
    (e.moveTo p s).cursor = min p e.text.length := by
  cases s <;> rfl

theorem text_moveTo (e : Editor) (p : Nat) (s : Stickiness) : (e.moveTo p s).text = e.text := by
  cases s <;> rfl

end Editor
end Keywise
