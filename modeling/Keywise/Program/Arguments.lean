/-
# Arguments of the program

An argument that begins with a hyphen is an option: a name behind two hyphens,
or letters behind one. What an option takes stands behind an equals sign,
directly behind its letter, or in the next argument. Other arguments, and all
after two hyphens alone, are paths, of which there can be one.

Key definitions: `Arguments`, `Arguments.read`.
-/
namespace Keywise

/-- What the program is asked to do. -/
structure Arguments where
  path : Option String := none
  config : Option String := none
  keys : List String := []
  keysFile : Option String := none
  logDir : Option String := none
  write : Bool := false
  deriving DecidableEq, Repr

/-- Why arguments do not lead to a run. -/
inductive Halt where
  /-- They cannot be understood. -/
  | usage
  | help
  | version
  deriving DecidableEq, Repr

/-- The options. -/
inductive OptionName where
  | config
  | keys
  | keysFile
  | logDir
  | write
  | help
  | version
  deriving DecidableEq, Repr

namespace OptionName

/-- The option of a name. -/
def ofLong? (name : String) : Option OptionName :=
  if name = "config" then some config
  else if name = "keys" then some keys
  else if name = "keys-file" then some keysFile
  else if name = "log-dir" then some logDir
  else if name = "write" then some write
  else if name = "help" then some help
  else if name = "version" then some version
  else none

/-- The option of a letter. -/
def ofShort? : Char → Option OptionName
  | 'k' => some keys
  | 'w' => some write
  | 'h' => some help
  | 'V' => some version
  | _ => none

/-- Whether the option takes a value. -/
def takesValue : OptionName → Bool
  | config | keys | keysFile | logDir => true
  | write | help | version => false

end OptionName

namespace Arguments

/-- A path that is given once. -/
def once (old : Option String) (path : String) : Except Halt (Option String) :=
  if old.isSome || path.isEmpty then .error .usage else .ok (some path)

/-- Adds an argument that is no option. -/
def addPath (a : Arguments) (s : List Char) : Except Halt Arguments := do
  return { a with path := ← once a.path (String.ofList s) }

/-- Gives an option its value. Keys may be given more than once. -/
def set (a : Arguments) (o : OptionName) (value : List Char) : Except Halt Arguments :=
  let s := String.ofList value
  match o with
  | .config => do return { a with config := ← once a.config s }
  | .keysFile => do return { a with keysFile := ← once a.keysFile s }
  | .logDir => do return { a with logDir := ← once a.logDir s }
  | .keys => .ok { a with keys := a.keys ++ [s] }
  | _ => .error .usage

/-- Turns an option on that takes no value. -/
def turnOn (a : Arguments) : OptionName → Except Halt Arguments
  | .write => if a.write then .error .usage else .ok { a with write := true }
  | .help => .error .help
  | .version => .error .version
  | _ => .error .usage

/-- What arguments are after one more, and the option that waits for its value
in the next one. -/
abbrev Progress := Except Halt (Arguments × Option OptionName)

/-- Reads an option by name, with what stands behind the equals sign. -/
def readLong (a : Arguments) (s : List Char) : Progress :=
  match OptionName.ofLong? (String.ofList (s.takeWhile (· != '='))), s.dropWhile (· != '=') with
  | none, _ => .error .usage
  | some o, [] => if o.takesValue then .ok (a, some o) else (a.turnOn o).map (·, none)
  | some o, _ :: value => if o.takesValue then (a.set o value).map (·, none) else .error .usage

/-- The value directly behind a letter, with or without an equals sign. -/
def attached? : List Char → Option (List Char)
  | [] => none
  | '=' :: s => some s
  | s => some s

/-- Reads options by letter. -/
def readShort (a : Arguments) : List Char → Progress
  | [] => .ok (a, none)
  | c :: s =>
    match OptionName.ofShort? c with
    | none => .error .usage
    | some o =>
      if o.takesValue then
        match attached? s with
        | none => .ok (a, some o)
        | some value => (a.set o value).map (·, none)
      else do readShort (← a.turnOn o) s

/-- Whether an argument is an option. A single hyphen is none. -/
def isOption : List Char → Bool
  | '-' :: _ :: _ => true
  | _ => false

/-- Reads an argument. -/
def readOne (a : Arguments) : List Char → Progress
  | '-' :: '-' :: s => a.readLong s
  | '-' :: c :: s => a.readShort (c :: s)
  | s => (a.addPath s).map (·, none)

/-- Reads arguments in order. -/
def readAll : Arguments → List (List Char) → Except Halt Arguments
  | a, [] => .ok a
  | a, s :: rest =>
    if s = ['-', '-'] then rest.foldlM addPath a
    else
      match a.readOne s with
      | .error h => .error h
      | .ok (a, none) => readAll a rest
      | .ok (a, some o) =>
        match rest with
        | [] => .error .usage
        | value :: rest =>
          if isOption value then .error .usage
          else match a.set o value with
            | .error h => .error h
            | .ok a => readAll a rest

/-- The arguments of a run. A result can be written back only to a path. -/
def read (args : List String) : Except Halt Arguments := do
  let a ← readAll {} (args.map (·.toList))
  if a.write && a.path.isNone then .error .usage else .ok a

end Arguments
end Keywise
