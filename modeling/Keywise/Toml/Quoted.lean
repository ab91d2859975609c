/-
# TOML strings

A string stands between quotation marks, in which a backslash writes other
characters, or between apostrophes, in which all characters stand for
themselves; between three of either it may have several lines.

Key definitions: `Toml.Quoted.read?`, `Toml.Quoted.readLine?`.
-/
namespace Keywise
namespace Toml

/-- A space or a tab. -/
def isBlank (c : Char) : Bool := c == ' ' || c == '\t'

/-- A character that may stand in a string or a comment: no control character
but the tab. -/
def isPlain (c : Char) : Bool := c == '\t' || (' ' ≤ c && c != '\x7f')

namespace Quoted

/-- A string and what follows it. -/
abbrev Outcome := Option (List Char × List Char)

/-- Puts a character in front of a string. -/
def put (c : Char) (r : Outcome) : Outcome := r.map fun p => (c :: p.1, p.2)

/-- The value of a hexadecimal digit. -/
def hexDigit? (c : Char) : Option Nat :=
  if c.isDigit then some (c.toNat - '0'.toNat)
  else if 'a' ≤ c ∧ c ≤ 'f' then some (c.toNat - 'a'.toNat + 10)
  else if 'A' ≤ c ∧ c ≤ 'F' then some (c.toNat - 'A'.toNat + 10)
  else none

/-- The character whose number the first `n` of the characters write in
hexadecimal digits. -/
def numbered? (n : Nat) (s : List Char) : Option Char := do
  let digits ← (s.take n).mapM hexDigit?
  if digits.length = n then
    let code := digits.foldl (fun a d => 16 * a + d) 0
    if code.isValidChar then some (Char.ofNat code) else none
  else none

/-- The character that a backslash before `s` writes, and how many characters
of `s` belong to it. -/
def escape? : List Char → Option (Char × Nat)
  | 'b' :: _ => some ('\x08', 1)
  | 't' :: _ => some ('\t', 1)
  | 'n' :: _ => some ('\n', 1)
  | 'f' :: _ => some ('\x0c', 1)
  | 'r' :: _ => some ('\r', 1)
  | 'e' :: _ => some ('\x1b', 1)
  | '"' :: _ => some ('"', 1)
  | '\\' :: _ => some ('\\', 1)
  | 'x' :: s => (numbered? 2 s).map (·, 3)
  | 'u' :: s => (numbered? 4 s).map (·, 5)
  | 'U' :: s => (numbered? 8 s).map (·, 9)
  | _ => none

/-- Reads up to the quotation mark that ends a string on one line, after the
next so many characters. -/
def basic : Nat → List Char → Outcome
  | _, [] => none
  | n + 1, _ :: s => basic n s
  | 0, '"' :: s => some ([], s)
  | 0, '\\' :: s => (escape? s).bind fun (c, n) => put c (basic n s)
  | 0, c :: s => if isPlain c then put c (basic 0 s) else none

/-- Reads up to the apostrophe that ends a string on one line. -/
def literal : List Char → Outcome
  | [] => none
  | '\'' :: s => some ([], s)
  | c :: s => if isPlain c then put c (literal s) else none

/-- Whether only blanks are left on the line, and there is another one. -/
def endsLine (s : List Char) : Bool :=
  match s.dropWhile isBlank with
  | '\n' :: _ => true
  | '\r' :: '\n' :: _ => true
  | _ => false

/-- Reads up to the three quotation marks that end a string of lines, after
the next so many characters. Two more marks before them belong to the string.
After a backslash at the end of a line, blanks and line breaks are left out
up to the next character. -/
def basicLines (joining : Bool) : Nat → List Char → Outcome
  | _, [] => none
  | n + 1, _ :: s => basicLines joining n s
  | 0, '"' :: '"' :: '"' :: '"' :: '"' :: s => some (['"', '"'], s)
  | 0, '"' :: '"' :: '"' :: '"' :: s => some (['"'], s)
  | 0, '"' :: '"' :: '"' :: s => some ([], s)
  | 0, '\\' :: s =>
    if endsLine s then basicLines true 0 s
    else (escape? s).bind fun (c, n) => put c (basicLines false n s)
  | 0, '\r' :: '\n' :: s =>
    if joining then basicLines true 0 s else put '\n' (basicLines false 0 s)
  | 0, c :: s =>
    if joining && (isBlank c || c == '\n') then basicLines true 0 s
    else if isPlain c || c == '\n' then put c (basicLines false 0 s)
    else none

/-- Reads up to the three apostrophes that end a string of lines. Two more
before them belong to the string. -/
def literalLines : List Char → Outcome
  | [] => none
  | '\'' :: '\'' :: '\'' :: '\'' :: '\'' :: s => some (['\'', '\''], s)
  | '\'' :: '\'' :: '\'' :: '\'' :: s => some (['\''], s)
  | '\'' :: '\'' :: '\'' :: s => some ([], s)
  | '\r' :: '\n' :: s => put '\n' (literalLines s)
  | c :: s => if isPlain c || c == '\n' then put c (literalLines s) else none

/-- The text without the line break it begins with. -/
def skipBreak : List Char → List Char
  | '\n' :: s => s
  | '\r' :: '\n' :: s => s
  | s => s

/-- Reads a string on one line. -/
def readLine? : List Char → Outcome
  | '"' :: s => basic 0 s
  | '\'' :: s => literal s
  | _ => none

/-- Reads a string. A line break right after three marks is left out. -/
def read? : List Char → Outcome
  | '"' :: '"' :: '"' :: s => basicLines false 0 (skipBreak s)
  | '\'' :: '\'' :: '\'' :: s => literalLines (skipBreak s)
  | s => readLine? s

end Quoted
end Toml
end Keywise
