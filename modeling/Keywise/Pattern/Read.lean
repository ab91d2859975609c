/-
# Reading patterns

A pattern is read from left to right. Parentheses that are still open wait on
a stack, each with the alternatives before the one it stands in, and with the
flags that hold again after it. Groups, repetitions, sequences, alternatives
and brackets may be nested up to a limit.

Key definitions: `Pattern.read?`.
-/
import Keywise.Pattern.Bracket
import Keywise.Text.Decimal
import Keywise.Unicode.Alphanumeric

namespace Keywise
namespace Pattern

/-- How deep patterns may be nested. -/
def maxHeight : Nat := 250

/-- A pattern and how deep it is nested. -/
structure Part where
  pattern : Pattern
  height : Nat := 0

namespace Part

/-- The part, unless it is nested too deep. -/
def checked? (p : Part) : Option Part := if p.height ≤ maxHeight then some p else none

/-- One level more than the highest of several; one by itself has none. -/
def heightOf (heights : List Nat) : Nat :=
  match heights with
  | [h] => h
  | [] => 0
  | hs => hs.foldl max 0 + 1

end Part

/-- A part of a sequence; a setting of flags has no pattern. -/
abbrev Item := Option Part

/-- The sequence being read and the alternatives before it, the last part
first in both. -/
structure Level where
  branches : List Part := []
  items : List Item := []

namespace Level

/-- The sequence read so far. -/
def sequence (l : Level) : Part :=
  { pattern := .sequence ((l.items.filterMap fun i => i.map Part.pattern).reverse)
    height := Part.heightOf (l.items.map fun i => (i.map Part.height).getD 0) }

/-- Begins another alternative. -/
def branch (l : Level) : Level := { branches := l.sequence :: l.branches, items := [] }

/-- All alternatives as one pattern. -/
def close (l : Level) : Part :=
  match l.branches with
  | [] => l.sequence
  | _ =>
    let parts := l.sequence :: l.branches
    { pattern := .anyOf (parts.map Part.pattern).reverse
      height := Part.heightOf (parts.map Part.height) }

/-- Adds a part. -/
def push (l : Level) (p : Part) : Level := { l with items := some p :: l.items }

/-- Adds a setting of flags. -/
def mark (l : Level) : Level := { l with items := none :: l.items }

/-- Changes the last part, if it can be repeated. -/
def modifyLast? (l : Level) (f : Part → Option Part) : Option Level :=
  match l.items with
  | some p :: items => (f p).map fun p => { l with items := some p :: items }
  | _ => none

end Level

/-- What is around an open parenthesis. -/
structure Outside where
  level : Level
  flags : PatternFlags
  /-- The number of the group, if it has one. -/
  number : Option Nat

/-- What has been read. -/
structure Reading where
  flags : PatternFlags := {}
  level : Level := {}
  /-- The open parentheses. -/
  outside : List Outside := []
  /-- How many groups have a number. -/
  groups : Nat := 0
  /-- The names given to groups. -/
  names : List (List Char) := []

namespace Reading

/-- Enters a group that has no number. -/
def enter (r : Reading) (inner : PatternFlags) : Reading :=
  { r with outside := ⟨r.level, r.flags, none⟩ :: r.outside, level := {}, flags := inner }

/-- Enters a group that has the next number. -/
def enterNumbered (r : Reading) : Reading :=
  { r with outside := ⟨r.level, r.flags, some (r.groups + 1)⟩ :: r.outside, level := {}
           groups := r.groups + 1 }

/-- Adds a part. -/
def push (r : Reading) (p : Pattern) : Reading := { r with level := r.level.push { pattern := p } }

end Reading

/-- Whether `c` may stand in the name of a group, first or later. -/
def isNameChar (first : Bool) (c : Char) : Bool :=
  c == '_' ||
    if first then Unicode.isAlphabetic c
    else c == '.' || c == '[' || c == ']' || Unicode.isAlphanumeric c

/-- The name of a group, up to the closing bracket. -/
def readGroupName? (s : List Char) : Option (List Char × List Char) :=
  match s.span (· != '>') with
  | (c :: cs, _ :: rest) =>
    if isNameChar true c && cs.all (isNameChar false) then some (c :: cs, rest) else none
  | _ => none

/-- Reads what follows an opening parenthesis. -/
def readOpen? (r : Reading) (s : List Char) : Option (Reading × List Char) :=
  let named (s : List Char) : Option (Reading × List Char) :=
    match readGroupName? s with
    | some (name, s) =>
      if r.names.contains name then none
      else some ({ r with names := name :: r.names }.enterNumbered, s)
    | none => none
  match r.flags.skip s with
  | '?' :: '=' :: _ | '?' :: '!' :: _ | '?' :: '<' :: '=' :: _ | '?' :: '<' :: '!' :: _ => none
  | '?' :: 'P' :: '<' :: s => named s
  | '?' :: '<' :: s => named s
  | '?' :: s =>
    match r.flags.readAll? true [] s with
    | some (f, ')' :: rest) =>
      if s.head? == some ')' then none
      else some ({ r with flags := f, level := r.level.mark }, rest)
    | some (f, _ :: rest) => some (r.enter f, rest)
    | _ => none
  | s => some (r.enterNumbered, s)

/-- A closing parenthesis: the group becomes a part of what is around it. -/
def close? (r : Reading) : Option Reading :=
  match r.outside with
  | ⟨level, flags, number⟩ :: outside =>
    let inner := r.level.close
    let pattern := match number with
      | some n => group n inner.pattern
      | none => inner.pattern
    (Part.checked? ⟨pattern, inner.height + 1⟩).map fun p =>
      { r with level := level.push p, flags, outside }
  | [] => none

/-- Repeats the last part. A question mark behind turns the preference. -/
def repeat? (r : Reading) (least : Nat) (most : Option Nat) (s : List Char) :
    Option (Reading × List Char) :=
  let turned := s.head? == some '?'
  let greedy := turned == r.flags.lazyFirst
  (r.level.modifyLast? fun p =>
    Part.checked? ⟨repeated least most greedy p.pattern, p.height + 1⟩).map fun level =>
      ({ r with level }, if turned then s.drop 1 else s)

/-- A number of repetitions, between white space. -/
def readNumber? (f : PatternFlags) (s : List Char) : Option (Nat × List Char) :=
  let (digits, s) := f.span Char.isDigit false (Unicode.trimStart s)
  (Decimal.ofDigits 0xFFFFFFFF digits).map fun n => (n, Unicode.trimStart s)

/-- Reads the bounds of a repetition, an opening brace having been read. -/
def readBounds? (f : PatternFlags) (s : List Char) : Option (Nat × Option Nat × List Char) := do
  let (least, s) ← readNumber? f s
  match s with
  | '}' :: s => return (least, some least, f.skip s)
  | ',' :: s =>
    match f.skip s with
    | '}' :: s => return (least, none, f.skip s)
    | s =>
      let (most, s) ← readNumber? f s
      match s with
      | '}' :: s => if least ≤ most then return (least, some most, f.skip s) else none
      | _ => none
  | _ => none

/-- The pattern of one character. -/
def charPattern (f : PatternFlags) (c : Char) : Pattern := ofSet (f.cased (.single c))

/-- The pattern a dot stands for, if bytes that are no characters cannot match
it. -/
def dotPattern? (f : PatternFlags) : Option Pattern :=
  if f.ascii then none
  else if f.dotAll then some (set (CharSet.compl {}))
  else if f.anyBreak then some (set (CharSet.compl (.ofRanges [(0x0A, 0x0A), (0x0D, 0x0D)])))
  else some (set (CharSet.compl (.single '\n')))

/-- The place a caret stands for. -/
def caretPlace (f : PatternFlags) : Place :=
  if f.multiline then (if f.anyBreak then .anyLineStart else .lineStart) else .textStart

/-- The place a dollar sign stands for. -/
def dollarPlace (f : PatternFlags) : Place :=
  if f.multiline then (if f.anyBreak then .anyLineEnd else .lineEnd) else .textEnd

/-- The pattern an escape stands for. -/
def ofEscape (f : PatternFlags) : Escape → Pattern
  | .char c => charPattern f c
  | .set s => ofSet s
  | .place p => place p

/-- Reads one part, or one sign, that begins with `c`. -/
def readNext? (r : Reading) (c : Char) (s : List Char) : Option (Reading × List Char) :=
  match c with
  | '(' => readOpen? r s
  | ')' => (close? r).map fun r => (r, s)
  | '|' => some ({ r with level := r.level.branch }, s)
  | '[' =>
    (Bracket.read? r.flags s).bind fun (a, height, s) =>
      (Part.checked? ⟨ofSet a, height⟩).map fun p => ({ r with level := r.level.push p }, s)
  | '?' => repeat? r 0 (some 1) s
  | '*' => repeat? r 0 none s
  | '+' => repeat? r 1 none s
  | '\x7b' => (readBounds? r.flags s).bind fun (least, most, s) => repeat? r least most s
  | '\\' => (Escape.read? r.flags s).map fun (e, s) => (r.push (ofEscape r.flags e), s)
  | '.' => (dotPattern? r.flags).map fun p => (r.push p, s)
  | '^' => some (r.push (place (caretPlace r.flags)), s)
  | '$' => some (r.push (place (dollarPlace r.flags)), s)
  | c => some (r.push (charPattern r.flags c), s)

/-- Reads a whole pattern; each part takes at least one character. -/
def readAll? : Nat → Reading → List Char → Option Pattern
  | 0, _, _ => none
  | fuel + 1, r, s =>
    match r.flags.skip s with
    | [] =>
      if r.outside.isEmpty then r.level.close.checked?.map Part.pattern else none
    | c :: s =>
      match readNext? r c s with
      | some (r, s) => readAll? fuel r s
      | none => none

/-- The pattern that `s` writes, if it is well formed. -/
def read? (s : List Char) : Option Pattern := readAll? (s.length + 1) {} s

end Pattern
end Keywise
