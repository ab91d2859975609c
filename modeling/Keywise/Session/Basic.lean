/-
# A session: an editor and its modes

One of the modes is current and gets the keys. When it has handled one, the
modes that were asked for are entered, and then the keys that were to be
handed over again are, one after the other.

Key definitions: `Session`, `Session.changeMode`, `Session.give`.
-/
import Keywise.Mode.Basic
import Keywise.Typeahead

namespace Keywise

/-- An editor with its modes, one of which may be current, and the keys typed
ahead. -/
structure Session where
  editor : Editor
  /-- The modes, of which no two have the same name. -/
  modes : List Mode := []
  current : Option ModeName := none
  typeahead : Typeahead := {}
  /-- How deep mappings may lead to mappings. -/
  maxDepth : Nat := 100
  /-- What the host's own modes have noted. -/
  journal : List Notice := []

namespace Session

/-- A session without modes. -/
def bare (e : Editor) : Session := { editor := e }

/-- The mode of a name. -/
def mode? (s : Session) (name : ModeName) : Option Mode := s.modes.find? (·.name == name)

/-- The current mode. -/
def currentMode? (s : Session) : Option Mode := s.current.bind s.mode?

/-- Puts a mode in the place of the one of the same name. -/
def putMode (s : Session) (m : Mode) : Session :=
  { s with modes := s.modes.map fun m' => if m'.name = m.name then m else m' }

/-- Adds a mode, in the place of one of the same name if there is one. -/
def register (s : Session) (m : Mode) : Session :=
  if (s.mode? m.name).isSome then s.putMode m else { s with modes := s.modes ++ [m] }

/-- Sets how deep mappings may lead to mappings: one level at least. -/
def setMaxDepth (s : Session) (depth : Nat) : Session := { s with maxDepth := max depth 1 }

/-- Notes something, if the mode is one that observes. -/
def note (s : Session) (m : Mode) (n : Notice) : Session :=
  match m with
  | .observer _ => { s with journal := s.journal ++ [n] }
  | _ => s

/-- Leaves the current mode, if there is one. -/
def leaveCurrent (s : Session) : Session :=
  match s.currentMode? with
  | none => s
  | some m =>
    let (m', e) := m.leave s.editor
    ({ s with editor := e }.putMode m').note m (.left m.name)

/-- Makes a mode the current one and enters it. It is current even if it
fails to be entered. -/
def enterMode (s : Session) (m : Mode) (args : List ModeArg) : Session :=
  let (m', e, failure) := m.enter s.editor args
  let e := match failure with
    | some err => e.report err
    | none => e
  ({ s with editor := e, current := some m.name }.putMode m').note m (.entered m.name args.length)

/-- Shows the name of a mode. -/
def showMode (s : Session) (m : Mode) : Session :=
  { s with editor := { s.editor with screen := s.editor.screen.showMode m.display } }

/-- Goes over to a mode. Names of no mode are ignored, and for the current
mode only its name is shown once more. -/
def changeMode (s : Session) (r : ModeRequest) : Session :=
  match s.mode? r.name with
  | none => s
  | some m =>
    if s.current = some m.name then s.showMode m
    else (s.leaveCurrent.enterMode m r.args).showMode m

/-- A session with the modes an editor has, the first of which is current. -/
def standard (e : Editor) : Session :=
  changeMode { editor := e, modes := Mode.standard } ⟨.normal, []⟩

/-- Goes over to the modes that were asked for, in order. -/
def applyRequests (s : Session) : Session :=
  s.editor.requests.foldl changeMode { s with editor := { s.editor with requests := [] } }

/-- Hands a key to the current mode. -/
def hand (s : Session) (k : Key) : Session × Bool :=
  match s.currentMode? with
  | none => (s, false)
  | some m =>
    let (m', e, used) := m.handle s.editor k
    (({ s with editor := e }.putMode m').note m (.key m.name k), used)

/-- Does what was asked for: changes of mode first, then the first key to be
handed over again, and so on, handing over at most `n` keys. -/
def serve : Nat → Session → Session
  | 0, s => s.applyRequests
  | n + 1, s =>
    let s := s.applyRequests
    match s.editor.replays with
    | [] => s
    | k :: ks => serve n ({ s with editor := { s.editor with replays := ks } }.hand k).1

/-- Gives a key to the current mode and does what it asks for. Only the mode
that completes a line has a key handed over again, to Insert mode, and only a
key that Insert or Replace mode uses up leads back there; so `n` keys that
wait are handed over `2 * n + 1` times at most. -/
def give (s : Session) (k : Key) : Session × Bool :=
  match s.current with
  | none => (s, false)
  | some _ =>
    let (s, used) := s.hand k
    (s.serve (2 * s.editor.replays.length + 1), used)

end Session
end Keywise
