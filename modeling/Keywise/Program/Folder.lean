/-
# Files in a folder

The files that a program can reach, by their paths, and other folders. A path
leads down from the folder itself, or from the root if it begins with a slash;
a single dot in it stays where it is, and two dots lead up.

Key definitions: `Folder.read`, `Folder.write`.
-/
namespace Keywise

/-- Why a file cannot be read or written. -/
inductive FileError where
  | missing
  | notFolder
  | isFolder
  deriving DecidableEq, Repr

/-- The text shown for the error. -/
def FileError.message : FileError → String
  | missing => "No such file or directory (os error 2)"
  | notFolder => "Not a directory (os error 20)"
  | isFolder => "Is a directory (os error 21)"

/-- Files with their paths, and the paths of folders. -/
structure Folder where
  files : List (String × List Char) := []
  folders : List String := []

namespace Folder

/-- The parts of a path between slashes. -/
def parts (path : List Char) : List (List Char) :=
  path.foldr (fun c ps =>
    if c = '/' then [] :: ps
    else match ps with
      | [] => [[c]]
      | p :: ps => (c :: p) :: ps) [[]]

/-- One step along a path, from the steps taken before. -/
def advance (way : List (List Char)) (p : List Char) : List (List Char) :=
  if p = [] ∨ p = ['.'] then way
  else if p = ['.', '.'] then way.dropLast
  else way ++ [p]

/-- The steps from the folder to what a path leads to. The step to the root is
a slash. -/
def resolve (path : String) : List (List Char) :=
  (parts path.toList).foldl advance (if path.toList.head? = some '/' then [['/']] else [])

/-- The path that some steps take. -/
def pathOf (way : List (List Char)) : String :=
  match way with
  | ['/'] :: way => String.ofList ('/' :: ['/'].intercalate way)
  | way => String.ofList (['/'].intercalate way)

/-- Whether only a folder can be meant by a path. -/
def meansFolder (path : String) : Bool := path.toList.getLast? == some '/'

/-- The contents of the file that some steps lead to. -/
def file? (d : Folder) (way : List (List Char)) : Option (List Char) :=
  (d.files.find? fun f => resolve f.1 == way).map (·.2)

/-- Whether some steps lead to a folder. -/
def isFolder (d : Folder) (way : List (List Char)) : Bool :=
  way.isEmpty || d.folders.any (fun f => way.isPrefixOf (resolve f)) ||
    d.files.any fun f => way.isPrefixOf (resolve f.1) && resolve f.1 != way

/-- Whether there is a file on the way to the last step. -/
def isBlocked (d : Folder) (way : List (List Char)) : Bool :=
  d.files.any fun f => (resolve f.1).isPrefixOf way && resolve f.1 != way

/-- The contents of the file at a path. -/
def read (d : Folder) (path : String) : Except FileError (List Char) :=
  let way := resolve path
  if d.isFolder way then .error .isFolder
  else if d.isBlocked way then .error .notFolder
  else match d.file? way with
    | none => .error .missing
    | some contents => if meansFolder path then .error .notFolder else .ok contents

/-- Gives the file that some steps lead to its contents. -/
def put (way : List (List Char)) (contents : List Char) :
    List (String × List Char) → List (String × List Char)
  | [] => [(pathOf way, contents)]
  | f :: fs => if resolve f.1 = way then (f.1, contents) :: fs else f :: put way contents fs

/-- The folder with the contents written to the file at a path. -/
def write (d : Folder) (path : String) (contents : List Char) : Except FileError Folder :=
  let way := resolve path
  if d.isFolder way then .error .isFolder
  else if d.isBlocked way then .error .notFolder
  else if !d.isFolder way.dropLast then .error .missing
  else if meansFolder path then .error .isFolder
  else .ok { d with files := put way contents d.files }

end Folder
end Keywise
