/-
# Modes

A mode has a name, a name that is shown, and perhaps a key map through which
keys are mapped before they reach it. It is told when it is entered and
left, and it handles the keys that reach it.

Key definitions: `Mode`, `Mode.enter`, `Mode.leave`, `Mode.handle`,
`Mode.standard`.
-/
import Keywise.Mode.Completion
import Keywise.Mode.Observer
import Keywise.Mode.Prompt
import Keywise.Mode.Visual

namespace Keywise

/-- A mode and what it keeps from one key to the next. -/
inductive Mode where
  | normal (s : Normal)
  | visual (s : Visual)
  | insert (s : Insert)
  | replace (s : Replace)
  | command (p : Prompt)
  | search (p : Prompt) (backward : Bool)
  | insertExpand (s : Completion)
  | observer (o : Observer)
  deriving DecidableEq, Repr

namespace Mode

/-- The name of the mode. -/
def name : Mode → ModeName
  | normal _ => .normal
  | visual s =>
    match s.kind with
    | .characters => .visual
    | .lines => .linewiseVisual
  | insert _ => .insert
  | replace _ => .replace
  | command _ => .command
  | search _ _ => .search
  | insertExpand _ => .insertExpand
  | observer o => o.name

/-- The name that is shown. -/
def display : Mode → String
  | normal _ => "NORMAL"
  | visual s =>
    match s.kind with
    | .characters => "VISUAL"
    | .lines => "VISUAL LINE"
  | insert _ => "INSERT"
  | replace _ => "REPLACE"
  | command _ => "COMMAND"
  | search _ _ => "SEARCH"
  | insertExpand _ => "^X mode (^L^N^P)"
  | observer o => o.display

/-- The map keys go through before they reach the mode. -/
def keyMap? : Mode → Option MapName
  | normal s => s.keyMap?
  | visual s => s.keyMap?
  | insert _ | replace _ => some .insert
  | command _ | search _ _ => some .command
  | insertExpand _ => none
  | observer o => o.keyMap?

/-- The character in front of the line that a search shows. -/
def searchLead (backward : Bool) : Char := if backward then '?' else '/'

/-- Enters the mode. Only a host's own mode can fail to be entered. -/
def enter (m : Mode) (e : Editor) (args : List ModeArg) : Mode × Editor × Option CommandError :=
  match m with
  | normal _ =>
    let (s, e) := Normal.enter e
    (normal s, e, none)
  | visual s =>
    let (s, e) := s.enter e args
    (visual s, e, none)
  | insert s => (insert (s.enter e args), e, none)
  | replace _ => (replace (Replace.enter e), e, none)
  | command _ => (command {}, Prompt.display {} ':' e, none)
  | search _ _ =>
    let backward := args.contains .searchBackward
    (search {} backward, Prompt.display {} (searchLead backward) e, none)
  | insertExpand s => (insertExpand s, e, none)
  | observer o => (observer o, e, o.refusal?)

/-- Leaves the mode. -/
def leave (m : Mode) (e : Editor) : Mode × Editor :=
  match m with
  | normal _ => (normal .idle, e)
  | visual s =>
    let (s, e) := s.leave e
    (visual s, e)
  | insert s => (insert s, e)
  | replace s => (replace { s with replaced := [] }, e)
  | command _ => (command {}, Prompt.hide e)
  | search _ backward => (search {} backward, Prompt.hide e)
  | insertExpand s => (insertExpand s, e)
  | observer o => (observer o, e)

/-- Handles a key. The flag tells whether it was of use. -/
def handle (m : Mode) (e : Editor) (k : Key) : Mode × Editor × Bool :=
  match m with
  | normal s =>
    let (s, e, used) := s.handle e k
    (normal s, e, used)
  | visual s =>
    let (s, e, used) := s.handle e k
    (visual s, e, used)
  | insert s =>
    let (e, used) := s.handle e k
    (insert s, e, used)
  | replace s =>
    let (s, e, used) := s.handle e k
    (replace s, e, used)
  | command p =>
    let (p, e, used) := p.handle ':' Prompt.command e k
    (command p, e, used)
  | search p backward =>
    let (p, e, used) := p.handle (searchLead backward) (Prompt.search backward) e k
    (search p backward, e, used)
  | insertExpand s =>
    let (s, e, used) := s.handle e k
    (insertExpand s, e, used)
  | observer o => (observer o, Observer.handle e k, o.handles)

/-- The modes an editor has, as they are at first. -/
def standard : List Mode :=
  [normal .idle, visual (.idle .characters), visual (.idle .lines), insert {}, replace {},
   command {}, search {} false, insertExpand {}]

end Mode
end Keywise
