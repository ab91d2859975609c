/-
# Written keys

A sequence of keys is written as text. Most characters stand for themselves;
a pair of angle brackets holds one key by name, modifiers first: `<C-x>`,
`<Esc>`, `<S-Tab>`. An opening bracket that no closing one follows, or whose
brackets hold nothing or another opening bracket, stands for itself.

Key definitions: `Key.read`, `Key.write`, `KeyError`.
-/
import Keywise.Key.Basic
import Keywise.Text.Decimal

namespace Keywise

/-- Why a text writes no keys. -/
inductive KeyError where
  /-- The brackets hold no name of a key. -/
  | unknownKey (name : String)
  /-- There is no key. -/
  | empty
  deriving DecidableEq, Repr

namespace KeyError

/-- The text shown for the error. -/
def message : KeyError → String
  | unknownKey name => "unknown key name <" ++ name ++ ">"
  | empty => "empty key sequence"

end KeyError

namespace KeyCode

/-- The names of keys, in small letters. -/
def names : List (List Char × KeyCode) :=
  [(['e', 's', 'c'], .escape),
   (['c', 'r'], .enter), (['e', 'n', 't', 'e', 'r'], .enter),
   (['r', 'e', 't', 'u', 'r', 'n'], .enter),
   (['b', 's'], .backspace), (['b', 'a', 'c', 'k', 's', 'p', 'a', 'c', 'e'], .backspace),
   (['t', 'a', 'b'], .tab),
   (['s', 'p', 'a', 'c', 'e'], .char ' '), (['l', 't'], .char '<'),
   (['b', 's', 'l', 'a', 's', 'h'], .char '\\'), (['b', 'a', 'r'], .char '|'),
   (['u', 'p'], .up), (['d', 'o', 'w', 'n'], .down),
   (['l', 'e', 'f', 't'], .left), (['r', 'i', 'g', 'h', 't'], .right),
   (['h', 'o', 'm', 'e'], .home), (['e', 'n', 'd'], .endKey),
   (['d', 'e', 'l'], .delete), (['d', 'e', 'l', 'e', 't', 'e'], .delete)]

/-- The function key with the number written: one to twelve. -/
def functionKey? (digits : List Char) : Option KeyCode :=
  match Decimal.read 255 digits with
  | some n => if 1 ≤ n ∧ n ≤ 12 then some (.function n) else none
  | none => none

/-- The key with the name given, in capitals or small letters. -/
def ofName? (name : List Char) : Option KeyCode :=
  let small := name.map Char.toLower
  match names.lookup small with
  | some code => some code
  | none =>
    match small with
    | 'f' :: digits => functionKey? digits
    | _ => none

end KeyCode

namespace Key

/-- Adds the modifier a letter stands for: C, A or M, S. -/
def addModifier (m : Modifiers) (c : Char) : Option Modifiers :=
  match c.toLower with
  | 'c' => some { m with ctrl := true }
  | 'a' => some { m with alt := true }
  | 'm' => some { m with alt := true }
  | 's' => some { m with shift := true }
  | _ => none

/-- Reads the modifiers in front of a name. A hyphen that ends the text, and
what follows the last modifier, belong to the name. -/
def readModifiers (m : Modifiers) : List Char → Modifiers × List Char
  | c :: '-' :: d :: s =>
    match addModifier m c with
    | some m' => readModifiers m' (d :: s)
    | none => (m, c :: '-' :: d :: s)
  | s => (m, s)

/-- The key of a code and modifiers as they were written. Control makes a
letter small; Shift without Control makes it a capital and is used up. -/
def normal (m : Modifiers) : KeyCode → Key
  | .char c =>
    if m.ctrl then ⟨.char c.toLower, m⟩
    else if m.shift then ⟨.char c.toUpper, { m with shift := false }⟩
    else ⟨.char c, m⟩
  | code => ⟨code, m⟩

/-- The key written between brackets: a single character, or a name. -/
def readName (inner : List Char) : Except KeyError Key :=
  match readModifiers .none inner with
  | (m, [c]) => .ok (normal m (.char c))
  | (m, name) =>
    match KeyCode.ofName? name with
    | some code => .ok (normal m code)
    | none => .error (.unknownKey (String.ofList inner))

/-- What the brackets hold that were opened just before `s`, if they close,
hold something, and hold no other opening bracket. -/
def bracketed? (s : List Char) : Option (List Char) :=
  let inner := s.takeWhile (· != '>')
  if s.contains '>' && !inner.isEmpty && !inner.contains '<' then some inner else none

/-- Reads keys after the first `skip` characters, which a name has used up. -/
def readFrom : Nat → List Char → Except KeyError (List Key)
  | _, [] => .ok []
  | skip + 1, _ :: s => readFrom skip s
  | 0, c :: s =>
    match if c = '<' then bracketed? s else none with
    | some inner => do
      let k ← readName inner
      let ks ← readFrom (inner.length + 1) s
      return k :: ks
    | none => do
      let ks ← readFrom 0 s
      return char c :: ks

/-- The keys a text writes. There is at least one. -/
def read (s : List Char) : Except KeyError (List Key) :=
  match readFrom 0 s with
  | .ok [] => .error .empty
  | r => r

/-- The modifiers as they are written in front of a name. -/
def writeModifiers (m : Modifiers) : List Char :=
  (if m.ctrl then ['C', '-'] else []) ++ (if m.alt then ['A', '-'] else []) ++
    (if m.shift then ['S', '-'] else [])

/-- The name of a key that is no character. -/
def writeCode : KeyCode → List Char
  | .char c => [c]
  | .enter => ['C', 'R']
  | .escape => ['E', 's', 'c']
  | .backspace => ['B', 'S']
  | .tab => ['T', 'a', 'b']
  | .up => ['U', 'p']
  | .down => ['D', 'o', 'w', 'n']
  | .left => ['L', 'e', 'f', 't']
  | .right => ['R', 'i', 'g', 'h', 't']
  | .home => ['H', 'o', 'm', 'e']
  | .endKey => ['E', 'n', 'd']
  | .delete => ['D', 'e', 'l']
  | .function n => 'F' :: Nat.toDigits 10 n

/-- What stands between the brackets for a key, if it needs brackets. -/
def writeName? (k : Key) : Option (List Char) :=
  let mods := writeModifiers k.mods
  match k.code with
  | .char '<' => some (mods ++ ['l', 't'])
  | .char c =>
    if mods.isEmpty then none
    else if c = ' ' then some (mods ++ ['S', 'p', 'a', 'c', 'e'])
    else some (mods ++ [c])
  | code => some (mods ++ writeCode code)

/-- The key as it is written. -/
def write1 (k : Key) : List Char :=
  match k.writeName? with
  | some name => '<' :: name ++ ['>']
  | none => writeCode k.code

/-- The keys as they are written, one after the other. -/
def write (ks : List Key) : List Char := ks.flatMap write1

/-- The written form as a string. -/
def show1 (k : Key) : String := String.ofList k.write1

/-- The written form of keys as a string. -/
def showAll (ks : List Key) : String := String.ofList (write ks)

theorem write_append (ks js : List Key) : write (ks ++ js) = write ks ++ write js := by
  simp [write]

theorem readFrom_skip : ∀ (n : Nat) (s : List Char), readFrom n s = readFrom 0 (s.drop n)
  | 0, _ => by simp
  | _ + 1, [] => by simp [readFrom]
  | n + 1, _ :: s => by simp [readFrom, readFrom_skip n s]

end Key
end Keywise
