/-
# The program

Looks up the files that the arguments name, lets the run happen on them as
they are, and writes the outcome.

Key definitions: `main`.
-/
import Keywise.Program.Run

namespace Keywise
namespace Program

/-- The path of the folder that a path leads to an entry of. -/
def parent (path : String) : String := Folder.pathOf (Folder.resolve path).dropLast

/-- The paths that a run may look at. -/
def paths (args : List String) : List String :=
  match Arguments.read args with
  | .ok a =>
    [a.config.getD configPath] ++ a.keysFile.toList ++ a.path.toList ++
      a.path.toList.map parent
  | .error _ => []

/-- Adds what a path leads to, if that is a file or a folder. -/
def look (d : Folder) (path : String) : IO Folder := do
  try
    let place ← IO.FS.realPath path
    if ← place.isDir then return { d with folders := path :: d.folders }
    else return { d with files := d.files ++ [(path, (← IO.FS.readFile place).toList)] }
  catch _ => return d

/-- Writes the files that have changed. -/
def save (old new : Folder) : IO Unit :=
  new.files.forM fun (path, contents) => do
    if old.files.lookup path != some contents then
      IO.FS.writeFile path (String.ofList contents)

end Program
end Keywise

open Keywise in
/-- Runs the program. -/
def main (args : List String) : IO UInt32 := do
  let d ← (Program.paths args).foldlM Program.look {}
  match Program.main? d args with
  | none => throw (IO.userError "the keys lead to work without end")
  | some r =>
    Program.save d r.folder
    (← IO.getStdout).putStr r.out
    (← IO.getStderr).putStr r.err
    return UInt32.ofNat r.code
