/-
# A run of the program

The keys given are typed in bursts over the text of a file. The result is
printed or written back, and the mode and the last message are shown.

Key definitions: `Program.run?`, `Program.main?`.
-/
import Keywise.Config.Install
import Keywise.Config.Read
import Keywise.Program.Arguments
import Keywise.Program.Folder
import Keywise.Session.Agenda
import Keywise.Text.Endings

namespace Keywise

/-- Why a run fails. -/
inductive RunError where
  | cannotRead (path : String) (cause : FileError)
  | cannotReadKeys (path : String) (cause : FileError)
  | cannotWrite (path : String) (cause : FileError)
  | badKeys (written : String) (cause : KeyError)
  deriving DecidableEq, Repr

namespace RunError

/-- What could not be done. -/
def headline : RunError → String
  | cannotRead path _ => "cannot read " ++ path
  | cannotReadKeys path _ => "cannot read keys from " ++ path
  | cannotWrite path _ => "cannot write " ++ path
  | badKeys written _ => "invalid key notation: " ++ written

/-- Why it could not be done. -/
def cause : RunError → String
  | cannotRead _ c | cannotReadKeys _ c | cannotWrite _ c => c.message
  | badKeys _ c => c.message

/-- A text with all its lines set in. -/
def setIn (s : List Char) : List Char :=
  let margin := [' ', ' ', ' ', ' ']
  margin ++ s.flatMap fun c => if c = '\n' then '\n' :: margin else [c]

/-- The text shown for the error. -/
def message (e : RunError) : String :=
  "Error: " ++ e.headline ++ "\n\nCaused by:\n" ++ String.ofList (setIn e.cause.toList) ++ "\n"

end RunError

/-- What a run leads to. -/
structure RunResult where
  code : Nat
  out : String := ""
  err : String := ""
  folder : Folder

namespace Program

/-- The version of the program. -/
def version : String := "modal 0.0.1\n"

/-- How the program is called. -/
def usage : String := "Usage: modal [OPTIONS] [PATH]\n"

/-- What the program tells about itself. -/
def help : String :=
  "Replay modal editing keys over a text file\n\n" ++ usage ++
  "\nArguments:\n" ++
  "  [PATH]  File to edit (UTF-8 text). If omitted an empty buffer is used\n" ++
  "\nOptions:\n" ++
  "      --config <CONFIG>        Optional configuration file path " ++
  "(overrides discovery of `modal.toml`)\n" ++
  "  -k, --keys <KEYS>            Keys in `<...>` notation. " ++
  "Repeat the flag to type in separate bursts; " ++
  "ambiguous mappings are resolved between bursts\n" ++
  "      --keys-file <KEYS_FILE>  Read bursts from a file, one per line, after any `--keys`\n" ++
  "  -w, --write                  Write the result back to PATH instead of printing it\n" ++
  "      --log-dir <LOG_DIR>      Directory receiving `modal.log` [default: .]\n" ++
  "  -h, --help                   Print help\n" ++
  "  -V, --version                Print version\n"

/-- Where the configuration is looked for unless another path is given. -/
def configPath : String := "modal.toml"

/-- The configuration of a run. One that cannot be read, or is not well
formed, is as if there were none. -/
def config (d : Folder) (a : Arguments) : Config :=
  match d.read (a.config.getD configPath) with
  | .ok s => (Config.read? s).getD {}
  | .error _ => {}

/-- The text to be edited. A file that is missing is empty. -/
def source (d : Folder) (a : Arguments) : Except RunError FileText :=
  match a.path with
  | none => .ok ⟨[], false⟩
  | some path =>
    match d.read path with
    | .ok raw => .ok (.ofContents raw)
    | .error .missing => .ok ⟨[], false⟩
    | .error err => .error (.cannotRead path err)

/-- The bursts to be typed, in key notation: those given, and then the lines
of a file that are not empty. -/
def bursts (d : Folder) (a : Arguments) : Except RunError (List String) :=
  match a.keysFile with
  | none => .ok a.keys
  | some path =>
    match d.read path with
    | .ok raw =>
      .ok (a.keys ++ ((Endings.lines raw).filter fun l => !l.isEmpty).map String.ofList)
    | .error err => .error (.cannotReadKeys path err)

/-- Types bursts one after the other, up to the first that is not well
written. -/
def typeAll? (settles : Bool) (s : Session) : List String → Option (Except RunError Session)
  | [] => some (.ok s)
  | written :: rest =>
    match Key.read written.toList with
    | .error err => some (.error (.badKeys written err))
    | .ok ks => do
      let (s, _) ← s.burst? settles ks
      typeAll? settles s rest

/-- The line that shows the mode and the last message. -/
def status (s : Screen) : String :=
  "-- " ++ s.mode ++ " --" ++ (match s.message with
    | some m => " " ++ m
    | none => "") ++ "\n"

/-- The outcome of a run that has ended with a session. -/
def deliver (d : Folder) (a : Arguments) (f : FileText) (s : Session) : Except RunError RunResult :=
  let contents := f.contents s.editor.text
  let err := status s.editor.screen
  match a.write, a.path with
  | true, some path =>
    match d.write path contents with
    | .ok d => .ok { code := 0, err, folder := d }
    | .error e => .error (.cannotWrite path e)
  | _, _ => .ok { code := 0, out := String.ofList contents, err, folder := d }

/-- What a run leads to, unless it fails. There is no result if the work of a
key does not end. -/
def run? (d : Folder) (a : Arguments) : Option (Except RunError RunResult) :=
  let c := config d a
  match source d a, bursts d a with
  | .error e, _ => some (.error e)
  | .ok _, .error e => some (.error e)
  | .ok f, .ok bs =>
    (typeAll? c.input.timeout (.configured { text := f.text } c) bs).map fun r =>
      r.bind (deliver d a f)

/-- What the program does with its arguments. -/
def main? (d : Folder) (args : List String) : Option RunResult :=
  match Arguments.read args with
  | .error .usage =>
    some { code := 2, err := usage ++ "\nFor more information, try '--help'.\n", folder := d }
  | .error .help => some { code := 0, out := help, folder := d }
  | .error .version => some { code := 0, out := version, folder := d }
  | .ok a =>
    (run? d a).map fun
      | .ok r => r
      | .error e => { code := 1, err := e.message, folder := d }

end Program
end Keywise
