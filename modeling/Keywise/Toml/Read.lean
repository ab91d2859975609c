/-
# Reading TOML

A document is a sequence of statements, one a line: headers, which open
tables, and keys with their values, which go into the table opened last.

Key definitions: `Toml.Statement`, `Toml.statements?`, `Toml.read?`.
-/
import Keywise.Toml.Moment
import Keywise.Toml.Number
import Keywise.Toml.Value

namespace Keywise
namespace Toml

/-- The text without the blanks it begins with. -/
def skipBlanks (s : List Char) : List Char := s.dropWhile isBlank

/-- The text without the blanks, line breaks and comments it begins with. The
flag tells whether a comment is being read. -/
def skipLines : Bool → List Char → Option (List Char)
  | _, [] => some []
  | _, '\n' :: s => skipLines false s
  | _, '\r' :: '\n' :: s => skipLines false s
  | true, c :: s => if isPlain c then skipLines true s else none
  | false, c :: s =>
    if c = '#' then skipLines true s
    else if isBlank c then skipLines false s
    else some (c :: s)

/-- A character of a key without quotation marks. -/
def isBareChar (c : Char) : Bool := c.isAlphanum || c == '_' || c == '-'

/-- Reads one part of a key. -/
def keyPart? (s : List Char) : Option (String × List Char) :=
  match s.takeWhile isBareChar with
  | [] => (Quoted.readLine? s).map fun (k, s) => (String.ofList k, s)
  | k => some (String.ofList k, s.dropWhile isBareChar)

/-- Reads a key of at most `n` parts with dots between them: the parts before
the last, and the last. -/
def key? : Nat → List Char → Option ((List String × String) × List Char)
  | 0, _ => none
  | n + 1, s => do
    let (part, s) ← keyPart? (skipBlanks s)
    match skipBlanks s with
    | '.' :: s =>
      let ((path, last), s) ← key? n s
      return ((part :: path, last), s)
    | s => return (([], part), s)

/-- A character of a word: a number, a date or a truth value. -/
def isWordChar (c : Char) : Bool :=
  c.isAlphanum || c == '+' || c == '-' || c == '_' || c == '.' || c == ':'

/-- The value that a word writes. -/
def word? (w : List Char) : Option Value :=
  if w = ['t', 'r', 'u', 'e'] then some (.boolean true)
  else if w = ['f', 'a', 'l', 's', 'e'] then some (.boolean false)
  else match Number.integer? w with
    | some n => some (.integer n)
    | none =>
      if Number.isFloat w then some (.float w)
      else if Moment.isMoment w then some (.moment w)
      else none

/-- Reads a value that has no parts. A time may stand behind a date and a
space. -/
def scalar? (s : List Char) : Option (Value × List Char) :=
  match Quoted.read? s with
  | some (t, s) => some (.string (String.ofList t), s)
  | none =>
    let w := s.takeWhile isWordChar
    match s.dropWhile isWordChar with
    | ' ' :: c :: rest =>
      if Moment.isDate w && c.isDigit then
        let w := w ++ ' ' :: (c :: rest).takeWhile isWordChar
        (word? w).map (·, (c :: rest).dropWhile isWordChar)
      else (word? w).map (·, ' ' :: c :: rest)
    | rest => (word? w).map (·, rest)

/-- Reads items with commas between them, and perhaps one behind the last, up
to the bracket that closes them. -/
def items? {α : Type} (item : List Char → Option (α × List Char)) (close : Char) :
    Nat → List Char → Option (List α × List Char)
  | 0, _ => none
  | n + 1, s => do
    match ← skipLines false s with
    | [] => none
    | c :: s =>
      if c = close then return ([], s)
      else
        let (a, s) ← item (c :: s)
        match ← skipLines false s with
        | [] => none
        | c :: s =>
          if c = close then return ([a], s)
          else if c = ',' then
            let (as, s) ← items? item close n s
            return (a :: as, s)
          else none

/-- A key with its value. -/
structure Assignment where
  path : List String
  key : String
  value : Value

/-- Reads a key and a value that `value` reads. -/
def assignment? (value : List Char → Option (Value × List Char)) (s : List Char) :
    Option (Assignment × List Char) := do
  let ((path, key), s) ← key? s.length s
  match s with
  | '=' :: s =>
    let (v, s) ← value (skipBlanks s)
    return (⟨path, key, v⟩, s)
  | _ => none

/-- The table of the assignments between braces. -/
def inlineTable? (as : List Assignment) : Option Value :=
  (as.foldlM (fun es a => assign a.path a.key a.value .inline es) []).map (.table .inline)

/-- Reads a value whose parts are nested at most `depth` deep. -/
def value? : Nat → List Char → Option (Value × List Char)
  | 0, _ => none
  | depth + 1, '[' :: s =>
    (items? (value? depth) ']' s.length s).map fun (vs, s) => (.array vs, s)
  | depth + 1, '\x7b' :: s => do
    let (as, s) ← items? (assignment? (value? depth)) '\x7d' s.length s
    return (← inlineTable? as, s)
  | _ + 1, s => scalar? s

/-- How deep values may be nested. -/
def maxNesting : Nat := 80

/-- A statement. -/
inductive Statement where
  | assignment (a : Assignment)
  | table (path : List String) (key : String)
  | element (path : List String) (key : String)

/-- Reads the rest of a header after its opening brackets. -/
def header? (double : Bool) (s : List Char) : Option (Statement × List Char) := do
  let ((path, key), s) ← key? s.length s
  match double, s with
  | false, ']' :: s => return (.table path key, s)
  | true, ']' :: ']' :: s => return (.element path key, s)
  | _, _ => none

/-- Reads a statement. -/
def statement? : List Char → Option (Statement × List Char)
  | '[' :: '[' :: s => header? true s
  | '[' :: s => header? false s
  | s => (assignment? (value? maxNesting) s).map fun (a, s) => (.assignment a, s)

/-- Whether nothing but a comment is left on the line. -/
def isLineEnd (s : List Char) : Bool :=
  match skipBlanks s with
  | [] => true
  | '\n' :: _ => true
  | '\r' :: '\n' :: _ => true
  | c :: _ => c == '#'

/-- Reads at most `n` statements. -/
def statements? : Nat → List Char → Option (List Statement)
  | 0, _ => none
  | n + 1, s => do
    match ← skipLines false s with
    | [] => return []
    | s =>
      let (st, s) ← statement? s
      if isLineEnd s then return st :: (← statements? n s) else none

/-- A document as far as it has been carried out: its entries, and the path to
the table opened last. -/
structure Document where
  entries : Entries := []
  opened : List String := []

/-- Carries a statement out. -/
def Document.perform? (d : Document) : Statement → Option Document
  | .assignment a =>
    (within false (assign a.path a.key a.value) d.opened .header d.entries).map fun es =>
      { d with entries := es }
  | .table path key => (openTable path key d.entries).map fun es => ⟨es, path ++ [key]⟩
  | .element path key => (openElement path key d.entries).map fun es => ⟨es, path ++ [key]⟩

/-- The text without the mark that tells its byte order. -/
def skipMark : List Char → List Char
  | '\ufeff' :: s => s
  | s => s

/-- The entries of a document, if it is well formed. -/
def read? (s : List Char) : Option Entries := do
  let s := skipMark s
  let d ← (← statements? (s.length + 1) s).foldlM Document.perform? {}
  return d.entries

end Toml
end Keywise
