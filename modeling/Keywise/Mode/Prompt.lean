/-
# The line typed at the bottom

A line is edited at a cursor, and shown behind the character that tells what
it is for: a command, or a pattern to search for in either direction.

Key definitions: `Prompt`, `Prompt.feed`, `Prompt.command`, `Prompt.search`.
-/
import Keywise.ExCommand

namespace Keywise

/-- A line and a cursor in it: the characters before the cursor, the last
first, and those after it. -/
structure Prompt where
  before : List Char := []
  after : List Char := []
  deriving DecidableEq, Repr

namespace Prompt

/-- The line. -/
def contents (p : Prompt) : List Char := p.before.reverse ++ p.after

/-- How many characters are before the cursor. -/
def cursor (p : Prompt) : Nat := p.before.length

/-- Whether the line is empty. -/
def isEmpty (p : Prompt) : Bool := p.before.isEmpty && p.after.isEmpty

/-- Types a character. -/
def insert (p : Prompt) (c : Char) : Prompt := { p with before := c :: p.before }

/-- Deletes the character before the cursor, if there is one. -/
def backspace (p : Prompt) : Prompt := { p with before := p.before.tail }

/-- Moves the cursor over the character before it. -/
def left (p : Prompt) : Prompt :=
  match p.before with
  | c :: cs => ⟨cs, c :: p.after⟩
  | [] => p

/-- Moves the cursor over the character after it. -/
def right (p : Prompt) : Prompt :=
  match p.after with
  | c :: cs => ⟨c :: p.before, cs⟩
  | [] => p

/-- Deletes all that is before the cursor. -/
def killToStart (p : Prompt) : Prompt := { p with before := [] }

theorem contents_left (p : Prompt) : p.left.contents = p.contents := by
  unfold left contents; split <;> simp_all

theorem contents_right (p : Prompt) : p.right.contents = p.contents := by
  unfold right contents; split <;> simp_all

theorem isEmpty_iff (p : Prompt) : p.isEmpty = true ↔ p.contents = [] := by
  simp [isEmpty, contents]

/-- What a key asks for. -/
inductive Event where
  | edited (p : Prompt)
  | submit (line : List Char)
  | abandon
  | ignored
  deriving DecidableEq, Repr

/-- Reads a key. Deleting in an empty line abandons it. -/
def feed (p : Prompt) (k : Key) : Event :=
  if k.isCtrl 'u' then .edited p.killToStart
  else match k.code with
    | .escape => .abandon
    | .enter => .submit p.contents
    | .backspace => if p.isEmpty then .abandon else .edited p.backspace
    | .left => .edited p.left
    | .right => .edited p.right
    | _ =>
      match k.char? with
      | some c => .edited (p.insert c)
      | none => .ignored

/-- Shows the line behind its first character. -/
def display (p : Prompt) (lead : Char) (e : Editor) : Editor :=
  { e with screen := { e.screen with commandLine := some (String.ofList (lead :: p.contents)) } }

/-- Shows no line. -/
def hide (e : Editor) : Editor := { e with screen := { e.screen with commandLine := none } }

/-- Handles a key for a line that is carried out by `run`. -/
def handle (p : Prompt) (lead : Char) (run : Editor → List Char → Editor) (e : Editor) (k : Key) :
    Prompt × Editor × Bool :=
  match p.feed k with
  | .edited p => (p, p.display lead e, true)
  | .abandon => (p, e.request .normal [], true)
  | .submit line => (p, run (e.request .normal []) line, true)
  | .ignored => (p, e, false)

/-- Carries a command line out, and reports an error. -/
def command (e : Editor) (line : List Char) : Editor :=
  match ExCommand.run e line with
  | (e, none) => e
  | (e, some err) => e.report err

/-- Searches for a pattern, the last one if the line is empty. The pattern is
kept as the last one if it is well formed, whether it is found or not. -/
def search (backward : Bool) (e : Editor) (line : List Char) : Editor :=
  let pattern : Except CommandError String :=
    if line.isEmpty then
      match e.registers.lastSearch with
      | some s => .ok s.pattern
      | none => .error .noPreviousSearch
    else .ok (String.ofList line)
  match pattern with
  | .error err => e.report err
  | .ok pattern =>
    let s : PatternSearch := ⟨pattern, backward⟩
    match s.compile with
    | .error err => e.report err
    | .ok _ =>
      let e := e.modifyRegisters fun r => { r with lastSearch := some s }
      match e.destination (.search s) none e.cursor with
      | .error err => e.report err
      | .ok p => e.moveTo (e.text.rest p) .column

end Prompt
end Keywise
