/-
# Normal mode

A command is an optional register and count, followed by a motion, by an
operator with what it applies to, or by a command key. Between the operator
and its operand another count may be typed, with which the first one is
multiplied; the operator key twice applies it to whole lines.

Key definitions: `Normal`, `Normal.attempt`, `Normal.handle`, `Normal.idle`,
`Normal.keyMap?`.
-/
import Keywise.Mode.MotionKeys
import Keywise.Put

namespace Keywise

/-- What the next character is taken for. -/
inductive Awaiting where
  /-- A digit, an operator, a motion or a command. -/
  | command
  /-- The name of a register. -/
  | registerName
  /-- The character that replaces others. -/
  | replacement
  /-- The name of a text object, inner or outer. -/
  | object (outer : Bool)
  /-- The second key of a motion. -/
  | motion (lead : MotionLead)
  deriving DecidableEq, Repr

/-- The part of a command typed so far. -/
structure Normal where
  count : Option Nat := none
  register : Option Char := none
  operator : Option Operator := none
  /-- The count typed after the operator. -/
  operandCount : Option Nat := none
  awaiting : Awaiting := .command
  deriving DecidableEq, Repr

namespace Normal

/-- Nothing of a command has been typed. -/
def idle : Normal := {}

/-- What becomes of the parser and the editor, and whether the key was of use
or why it fails. -/
abbrev Reply := Normal × Editor × Except CommandError Bool

/-- The count of the command: the product of the two counts. -/
def total (s : Normal) : Option Nat := Count.product s.count s.operandCount

/-- A command is finished, in success or with an error. -/
def finish : Editor × Option CommandError → Reply
  | (e, none) => (idle, e, .ok true)
  | (e, some err) => (idle, e, .error err)

/-- What was typed is no command. -/
def dismiss (e : Editor) : Reply := (idle, e, .ok false)

/-- After an operator the cursor rests on a character, unless text is to be
typed. -/
def settleAfter (op : Operator) (e : Editor) : Editor :=
  if op = .change then e else e.settle .column

/-- Applies an operator to a range and puts the cursor to rest. -/
def operate (op : Operator) (e : Editor) (r : Range) (kind : TextKind) (register : Option Char) :
    Editor :=
  settleAfter op (op.apply e r kind register)

/-- Applies an operator to a text object and puts the cursor to rest. -/
def operateOn (op : Operator) (e : Editor) (o : TextObject) (count : Option Nat)
    (register : Option Char) : Editor × Option CommandError :=
  match e.operate op o count register with
  | (e, none) => (settleAfter op e, none)
  | failed => failed

/-- Whether the cursor is on white space, or past the end. -/
def onBlank (e : Editor) : Bool := e.text[e.cursor]?.all Unicode.isWhitespace

/-- The motion an operator follows: to change a word is to change it to its
end. The flag tells that a range over a word must not take the line break. -/
def operandMotion (op : Operator) (e : Editor) (m : Motion) : Motion × Bool :=
  match m with
  | .word .forward big =>
    if op = .change ∧ ¬ onBlank e then (.word .wordEnd big, false) else (m, true)
  | _ => (m, false)

/-- A range that ends on a later line, cut off at the end of the line before
that. -/
def stopAtLineEnd (t : Text) (r : Range) : Range :=
  let first := t.lineAt r.left
  let last := t.lineAt r.right
  if last.number ≤ first.number then r
  else .between r.left (max (t.line (last.number - 1)).stop r.left)

/-- Runs a motion, alone or for the operator typed before it. -/
def runMotion (s : Normal) (e : Editor) (m : Motion) : Reply :=
  match s.operator with
  | none => finish (e.follow m s.total)
  | some op =>
    let (m, stop) := operandMotion op e m
    let o := TextObject.motion m
    match o.region e s.total with
    | (e, .error err) => finish (e, some err)
    | (e, .ok r) =>
      let r := if stop then stopAtLineEnd e.text r else r
      finish (operate op e r o.kind s.register, none)

/-- Applies the operator typed before to the lines from the cursor's on. -/
def runLines (s : Normal) (e : Editor) (op : Operator) : Reply :=
  finish (operateOn op e (.motion (.line .currentLines)) s.total s.register)

/-- The text object of a character. -/
def objectOf? (outer : Bool) : Char → Option TextObject
  | 'w' => some (if outer then .outerWord false else .innerWord false)
  | 'W' => some (if outer then .outerWord true else .innerWord true)
  | '\\' => some (.subword outer)
  | _ => none

/-- Applies the operator typed before to a text object. -/
def runObject (s : Normal) (e : Editor) (outer : Bool) (c : Char) : Reply :=
  match s.operator, objectOf? outer c with
  | some op, some o => finish (operateOn op e o s.total s.register)
  | _, _ => dismiss e

/-- Replaces as many characters as the count by `c`. All must be on the
line. -/
def replaceChars (e : Editor) (c : Char) (n : Nat) : Editor × Option CommandError :=
  if e.cursor + n > e.line.stop then (e, some (.pastLineEnd "replace"))
  else ((e.replace e.cursor n (List.replicate n c)).moveTo (e.cursor + n - 1) .column, none)

/-- Replaces characters. A register named before is left for the next
command. -/
def runReplacement (s : Normal) (e : Editor) (c : Char) : Reply :=
  match replaceChars e c (s.total.getD 1) with
  | (e, none) => ({ register := s.register }, e, .ok true)
  | failed => finish failed

/-- The outcome of putting text. -/
def put (e : Editor) (register : Option Char) (n : Nat) (side : PutSide) :
    Editor × Option CommandError :=
  match e.put register n side with
  | .ok e => (e, none)
  | .error err => (e, some err)

/-- Moves the cursor and lets text be typed there. -/
def typeAt (e : Editor) (p : Nat) : Editor × Option CommandError :=
  ((e.moveTo p .column).request .insert [], none)

/-- Runs the command of a single key. -/
def runCommand (s : Normal) (e : Editor) (c : Char) : Reply :=
  let n := s.total.getD 1
  let l := e.line
  let ask (name : ModeName) (args : List ModeArg) : Reply := finish (e.request name args, none)
  match c with
  | 'x' =>
    let r := e.charsOnLine n
    finish (if r.length = 0 then e else operate .delete e r .text s.register, none)
  | 's' => finish (operate .change e (e.charsOnLine n) .text s.register, none)
  | 'X' =>
    let r := Range.between (max (e.cursor - n) l.start) e.cursor
    finish (if r.length = 0 then e else operate .delete e r .text s.register, none)
  | 'D' => finish (operateOn .delete e (.motion (.line .lineEnd)) s.total s.register)
  | 'C' => finish (operateOn .change e (.motion (.line .lineEnd)) s.total s.register)
  | 'p' => finish (put e s.register n .after)
  | 'P' => finish (put e s.register n .before)
  | 'r' => ({ count := s.total, register := s.register, awaiting := .replacement }, e, .ok true)
  | 'i' => ask .insert []
  | 'a' => finish (typeAt e (min (e.cursor + 1) l.stop))
  | 'I' => finish (typeAt e (e.text.firstNonBlank l))
  | 'A' => finish (typeAt e l.stop)
  | 'o' => finish (typeAt (e.replace l.stop 0 ['\n']) (l.stop + 1))
  | 'O' => finish (typeAt (e.replace l.start 0 ['\n']) l.start)
  | 'R' => ask .replace []
  | 'v' => ask .visual []
  | 'V' => ask .linewiseVisual []
  | ':' => ask .command []
  | '/' => ask .search []
  | '?' => ask .search [.searchBackward]
  | _ => dismiss e

/-- Reads a character as a motion, after its first key or without. A
character that is none is a command, unless something was typed before. -/
def readChar (s : Normal) (e : Editor) (lead : Option MotionLead) (c : Char) : Reply :=
  match readMotion e.registers lead c with
  | .error err => finish (e, some err)
  | .ok (.more lead) => ({ s with awaiting := .motion lead }, e, .ok true)
  | .ok (.motion m) => runMotion s e m
  | .ok .noMotion =>
    if s.operator.isSome || lead.isSome then dismiss e else runCommand s e c

/-- A character that may be anything: a prefix, a digit, an operator, a
motion or a command. -/
def readAny (s : Normal) (e : Editor) (c : Char) : Reply :=
  match s.operator with
  | none =>
    if c = '"' then ({ s with awaiting := .registerName }, e, .ok true)
    else match Count.digit? s.count c with
      | some d => ({ s with count := some (Count.addDigit s.count d) }, e, .ok true)
      | none =>
        match Operator.ofChar? c with
        | some op => ({ s with operator := some op }, e, .ok true)
        | none => readChar s e none c
  | some op =>
    match Count.digit? s.operandCount c with
    | some d => ({ s with operandCount := some (Count.addDigit s.operandCount d) }, e, .ok true)
    | none =>
      if c = op.char then runLines s e op
      else if c = 'i' ∨ c = 'a' then ({ s with awaiting := .object (c == 'a') }, e, .ok true)
      else readChar s e none c

/-- A key that types no character: a motion, or the key that deletes. -/
def special (s : Normal) (e : Editor) (k : Key) : Reply :=
  if k = .plain .delete ∧ s.operator = none then runCommand s e 'x'
  else match k.specialMotion? with
    | some m => runMotion s e m
    | none => dismiss e

/-- Does what a key asks for. -/
def attempt (s : Normal) (e : Editor) (k : Key) : Reply :=
  if k.code = .escape then (idle, e, .ok true)
  else match k.char? with
    | none => special s e k
    | some c =>
      match s.awaiting with
      | .registerName =>
        ({ s with
          awaiting := .command
          register := if isRegisterName c then some c else s.register }, e, .ok true)
      | .replacement => runReplacement s e c
      | .object outer => runObject s e outer c
      | .motion lead => readChar s e (some lead) c
      | .command => readAny s e c

/-- Handles a key: the flag tells whether it was of use. The error of a key
that fails is shown, and nothing of a command has been typed then. -/
def handle (s : Normal) (e : Editor) (k : Key) : Normal × Editor × Bool :=
  match s.attempt e k with
  | (s, e, .ok used) => (s, e, used)
  | (_, e, .error err) => (idle, e.report err, true)

/-- The map keys go through: none while any character may be meant. -/
def keyMap? (s : Normal) : Option MapName :=
  match s.awaiting with
  | .registerName | .replacement => none
  | .motion lead => if lead.takesAny then none else some .normal
  | _ => some .normal

/-- Begins Normal mode: the cursor goes where it may rest. -/
def enter (e : Editor) : Normal × Editor := (idle, e.settle .keep)

end Normal
end Keywise
