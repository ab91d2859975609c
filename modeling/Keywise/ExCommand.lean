/-
# Command lines

A command line is a line number, or one of the commands that define, list,
remove and clear mappings. The name of such a command tells the maps it is
about: `n`, `v` or `x`, `i` and `c` in front of it name one map, without them
it is about those of Normal and Visual mode, and with an exclamation mark
behind it about those of Insert mode and of command lines.

Key definitions: `ExCommand`, `ExCommand.parse`, `ExCommand.run`.
-/
import Keywise.Operator
import Keywise.Unicode.Blank

namespace Keywise

/-- What a map command does. -/
inductive MapVerb where
  | map
  | noremap
  | unmap
  | mapclear
  deriving DecidableEq, Repr

namespace MapVerb

/-- The verb of a name. -/
def ofName? (name : List Char) : Option MapVerb :=
  if name = ['m', 'a', 'p'] then some map
  else if name = ['n', 'o', 'r', 'e', 'm', 'a', 'p'] then some noremap
  else if name = ['u', 'n', 'm', 'a', 'p'] then some unmap
  else if name = ['m', 'a', 'p', 'c', 'l', 'e', 'a', 'r'] then some mapclear
  else none

end MapVerb

namespace MapName

/-- The maps a letter in front of a verb names. -/
def ofLetter? : Char → Option (List MapName)
  | 'n' => some [normal]
  | 'v' | 'x' => some [visual]
  | 'i' => some [insert]
  | 'c' => some [command]
  | _ => none

/-- The maps of a verb without a letter. -/
def both : List MapName := [normal, visual]

/-- The maps of a verb with an exclamation mark. -/
def typing : List MapName := [insert, command]

end MapName

/-- A command line. -/
inductive ExCommand where
  | nothing
  /-- Go to a line, the first being number one. -/
  | goto (line : Nat)
  | map (maps : List MapName) (recursive : Bool) (lhs rhs : List Char)
  /-- List the mappings, all or those that begin with some keys. -/
  | list (maps : List MapName) (lhs : Option (List Char))
  | unmap (maps : List MapName) (lhs : List Char)
  | mapclear (maps : List MapName)
  | unknown (line : List Char)
  deriving DecidableEq, Repr

namespace ExCommand

/-- The first word of a text, and the rest of it without white space at
either end. -/
def splitWord (s : List Char) : List Char × List Char :=
  (s.takeWhile fun c => !Unicode.isWhitespace c,
    Unicode.trim (s.dropWhile fun c => !Unicode.isWhitespace c))

/-- The maps and the verb of a command's name. -/
def mapCommand? (name : List Char) : Option (List MapName × MapVerb) :=
  let bang := name.getLast? == some '!'
  let name := if bang then name.dropLast else name
  match MapVerb.ofName? name with
  | some verb => some (if bang then MapName.typing else MapName.both, verb)
  | none =>
    if bang then none
    else match name with
      | c :: verb => (MapName.ofLetter? c).bind fun maps =>
        (MapVerb.ofName? verb).map fun verb => (maps, verb)
      | [] => none

/-- The command of a map verb with its arguments. Without a right-hand side
mappings are listed. -/
def ofVerb (maps : List MapName) (verb : MapVerb) (lhs rhs : List Char) : ExCommand :=
  match verb with
  | .mapclear => mapclear maps
  | .unmap => unmap maps lhs
  | .map | .noremap =>
    if rhs.isEmpty then list maps (if lhs.isEmpty then none else some lhs)
    else map maps (verb == .map) lhs rhs

/-- The line without white space at its ends and without a colon in front. -/
def body (line : List Char) : List Char :=
  match Unicode.trim line with
  | ':' :: s => Unicode.trimStart s
  | s => s

/-- Reads a command line. -/
def parse (line : List Char) : ExCommand :=
  let s := body line
  if s.isEmpty then nothing
  else match Decimal.read Offset.max s with
    | some n => goto n
    | none =>
      let (name, rest) := splitWord s
      match mapCommand? name with
      | some (maps, verb) =>
        let (lhs, rhs) := splitWord rest
        ofVerb maps verb lhs rhs
      | none => unknown s

/-- The keys a text writes, or the error for one that writes none. -/
def keys (s : List Char) : Except CommandError (List Key) :=
  match Key.read s with
  | .ok ks => .ok ks
  | .error err => .error (.badKeys err)

/-- Changes maps one after the other. -/
def modifyMaps (maps : List MapName) (f : KeyMap → KeyMap) (e : Editor) : Editor :=
  { e with keyMaps := maps.foldl (fun ms name => KeyMaps.modify name f ms) e.keyMaps }

/-- The line that lists a mapping. -/
def listing (name : MapName) (m : List Key × Expansion) : String :=
  name.text ++ "  " ++ Key.showAll m.1 ++ " " ++ (if m.2.recursive then "" else "* ") ++
    Key.showAll m.2.keys

/-- The lines that list the mappings whose left-hand sides begin with `lhs`. -/
def listings (ms : KeyMaps) (maps : List MapName) (lhs : List Key) : List String :=
  maps.flatMap fun name =>
    ((ms.mappings name).filter fun m => lhs.isPrefixOf m.1).map (listing name)

/-- The place a line number leads to: the last line if there are fewer, even
if it is an empty one after the last break. -/
def lineTarget (t : Text) (n : Nat) : Nat :=
  t.firstNonBlank (t.line (min (n - 1) (t.lineCount - 1)))

/-- Lists the mappings whose left-hand sides begin with `lhs`. -/
def showListings (e : Editor) (maps : List MapName) (lhs : List Key) : Editor :=
  match listings e.keyMaps maps lhs with
  | [] => e.showInfo "No mapping found"
  | lines => e.showInfo (String.intercalate "\n" lines)

/-- Carries a command out. A command that fails leaves the editor as it was,
but that the maps named come into being. -/
def apply (e : Editor) : ExCommand → Editor × Option CommandError
  | nothing => (e, none)
  | goto n => (e.moveTo (lineTarget e.text n) .column, none)
  | map maps recursive lhs rhs =>
    match keys lhs, keys rhs with
    | .ok lhs, .ok rhs => (modifyMaps maps (·.add lhs ⟨rhs, recursive⟩) e, none)
    | .error err, _ => (e, some err)
    | .ok _, .error err => (e, some err)
  | list maps none => (showListings e maps [], none)
  | list maps (some lhs) =>
    match keys lhs with
    | .ok lhs => (showListings e maps lhs, none)
    | .error err => (e, some err)
  | unmap maps lhs =>
    if lhs.isEmpty then (e, some (.invalidArgument "unmap needs a key sequence"))
    else match keys lhs with
      | .error err => (e, some err)
      | .ok lhs =>
        let known := maps.any fun name => (e.keyMaps.find? name).any (·.defines lhs)
        (modifyMaps maps (·.remove lhs) e, if known then none else some .noSuchMapping)
  | mapclear maps => (modifyMaps maps (·.clear) e, none)
  | unknown line => (e, some (.unknownCommand (String.ofList line)))

/-- Carries a command line out. -/
def run (e : Editor) (line : List Char) : Editor × Option CommandError := apply e (parse line)

end ExCommand
end Keywise
