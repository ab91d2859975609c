/-
# Visual mode

The selection begins where the mode is entered and follows the cursor, over
characters or over whole lines. An operator key applies to what is selected.

Key definitions: `Visual`, `Visual.attempt`, `Visual.handle`,
`Visual.selected`.
-/
import Keywise.Mode.Normal

namespace Keywise

/-- The part of a command typed so far, over characters or lines. -/
structure Visual where
  kind : SelectionKind
  count : Option Nat := none
  register : Option Char := none
  /-- Whether the next character names a register. -/
  awaitsName : Bool := false
  /-- The first key of a motion that takes two. -/
  lead : Option MotionLead := none
  deriving DecidableEq, Repr

namespace Visual

/-- Nothing of a command has been typed. -/
def idle (kind : SelectionKind) : Visual := { kind }

/-- What becomes of the parser and the editor, and whether the key was of use
or why it fails. -/
abbrev Reply := Visual × Editor × Except CommandError Bool

/-- Begins a selection, at the place the arguments name or at the cursor. -/
def enter (s : Visual) (e : Editor) (args : List ModeArg) : Visual × Editor :=
  let anchor := (args.findSome? fun
    | .anchor p => some p
    | _ => none).getD e.cursor
  (idle s.kind, { e with selection := some ⟨anchor, e.cursor, s.kind⟩ })

/-- Ends the selection. -/
def leave (s : Visual) (e : Editor) : Visual × Editor :=
  (idle s.kind, { e with selection := none })

/-- Makes the selection end at the cursor. -/
def followCursor (s : Visual) (e : Editor) : Editor :=
  let anchor := (e.selection.map (·.anchor)).getD e.cursor
  { e with selection := some ⟨anchor, e.cursor, s.kind⟩ }

/-- Moves the cursor along a motion, and the end of the selection with it. -/
def runMotion (s : Visual) (e : Editor) (m : Motion) : Reply :=
  match e.follow m s.count with
  | (e, none) => ({ s with count := none }, s.followCursor e, .ok true)
  | (e, some err) => ({ s with count := none }, e, .error err)

/-- What an operator applies to: what is selected, or the lines of it. -/
def selected (e : Editor) (wholeLines : Bool) : Range × TextKind :=
  let r := match e.selection with
    | some s => s.range e.text
    | none => .between e.cursor e.cursor
  if wholeLines ∧ e.selectionKind = .text then
    (.lines e.text r.left (max (Offset.shift r.right (-1)) r.left), .lines)
  else (r, e.selectionKind)

/-- Applies an operator to what is selected and leaves the mode. -/
def operate (e : Editor) (op : Operator) (wholeLines : Bool) (register : Option Char) : Editor :=
  let (r, kind) := selected e wholeLines
  let e := op.apply e r kind register
  if op = .change then e else (e.settle .column).request .normal []

/-- Exchanges the ends of the selection. -/
def exchange (e : Editor) : Editor :=
  match e.selection with
  | some s => { e with selection := some ⟨s.head, s.anchor, s.kind⟩ }.moveTo s.anchor .column
  | none => e

/-- Leaves the mode, if it is the one of the kind given, or goes over to that
with the selection begun at the same place. -/
def switch (s : Visual) (e : Editor) (kind : SelectionKind) : Editor :=
  if kind = s.kind then e.request .normal []
  else
    e.request (if kind = .characters then .visual else .linewiseVisual)
      [.anchor ((e.selection.map (·.anchor)).getD e.cursor)]

/-- The operator of a key, and whether it takes whole lines. -/
def operatorOf? : Char → Option (Operator × Bool)
  | 'd' | 'x' => some (.delete, false)
  | 'D' | 'X' => some (.delete, true)
  | 'y' => some (.yank, false)
  | 'Y' => some (.yank, true)
  | 'c' | 's' => some (.change, false)
  | 'C' | 'S' | 'R' => some (.change, true)
  | _ => none

/-- Runs the command of a single key. -/
def runCommand (s : Visual) (e : Editor) (c : Char) : Reply :=
  let after := { s with count := none, register := none }
  match operatorOf? c with
  | some (op, wholeLines) => (after, operate e op wholeLines s.register, .ok true)
  | none =>
    match c with
    | 'o' => (after, exchange e, .ok true)
    | 'v' => (after, s.switch e .characters, .ok true)
    | 'V' => (after, s.switch e .lines, .ok true)
    | ':' => (after, e.request .command [], .ok true)
    | _ => (after, e, .ok false)

/-- Reads a character as a motion, after its first key or without. -/
def readChar (s : Visual) (e : Editor) (c : Char) : Reply :=
  match readMotion e.registers s.lead c with
  | .error err => (s, e, .error err)
  | .ok (.more lead) => ({ s with lead := some lead }, e, .ok true)
  | .ok (.motion m) => runMotion { s with lead := none } e m
  | .ok .noMotion =>
    if s.lead.isSome then (idle s.kind, e, .ok false) else runCommand s e c

/-- A character that may be anything. -/
def readAny (s : Visual) (e : Editor) (c : Char) : Reply :=
  if s.lead.isSome then readChar s e c
  else if c = '"' then ({ s with awaitsName := true }, e, .ok true)
  else match Count.digit? s.count c with
    | some d => ({ s with count := some (Count.addDigit s.count d) }, e, .ok true)
    | none => readChar s e c

/-- Does what a key asks for. -/
def attempt (s : Visual) (e : Editor) (k : Key) : Reply :=
  if k.code = .escape then (s, e.request .normal [], .ok true)
  else match k.char? with
    | none =>
      match k.specialMotion? with
      | some m => runMotion s e m
      | none => (s, e, .ok false)
    | some c =>
      if s.awaitsName then
        ({ s with
          awaitsName := false
          register := if isRegisterName c then some c else s.register }, e, .ok true)
      else readAny s e c

/-- Handles a key: the flag tells whether it was of use. The error of a key
that fails is shown, and nothing of a command has been typed then. -/
def handle (s : Visual) (e : Editor) (k : Key) : Visual × Editor × Bool :=
  match s.attempt e k with
  | (s, e, .ok used) => (s, e, used)
  | (s, e, .error err) => (idle s.kind, e.report err, true)

/-- The map keys go through: none while any character may be meant. -/
def keyMap? (s : Visual) : Option MapName :=
  if s.awaitsName || s.lead.any MotionLead.takesAny then none else some .visual

end Visual
end Keywise
