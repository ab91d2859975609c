/-
# Why a command fails

Key definitions: `CommandError`, `CommandError.message`.
-/
import Keywise.Key.Written

namespace Keywise

/-- The reasons for which a single command fails. -/
inductive CommandError where
  /-- The character searched for is not on the line. -/
  | charNotFound (target : Char)
  /-- A character search was repeated before there was one. -/
  | noPreviousFind
  /-- The pattern matches nowhere. -/
  | patternNotFound (pattern : String)
  /-- A search was repeated before there was one. -/
  | noPreviousSearch
  /-- The pattern is not well formed. -/
  | invalidPattern (pattern : String)
  /-- The register to put from holds nothing. -/
  | emptyRegister (name : Char)
  /-- The line typed is no command. -/
  | unknownCommand (line : String)
  /-- A command or a mode refuses what it was given. -/
  | invalidArgument (what : String)
  /-- There is no mapping to remove. -/
  | noSuchMapping
  /-- Mappings lead to mappings deeper than is allowed. -/
  | recursiveMapping
  /-- There are fewer characters left on the line than the command takes. -/
  | pastLineEnd (verb : String)
  /-- A text that should write keys does not. -/
  | badKeys (cause : KeyError)
  deriving DecidableEq, Repr

namespace CommandError

/-- The text shown for the error. -/
def message : CommandError → String
  | charNotFound c => "Character '" ++ String.singleton c ++ "' not found"
  | noPreviousFind => "No previous find-char command"
  | patternNotFound p => "E486: Pattern not found: " ++ p
  | noPreviousSearch => "E35: No previous regular expression"
  | invalidPattern p => "E383: Invalid search string: " ++ p
  | emptyRegister c => "E353: Nothing in register " ++ String.singleton c
  | unknownCommand s => "E492: Not an editor command: " ++ s
  | invalidArgument s => "E474: Invalid argument: " ++ s
  | noSuchMapping => "E31: No such mapping"
  | recursiveMapping => "E223: recursive mapping"
  | pastLineEnd verb => "Cannot " ++ verb ++ " past the line end"
  | badKeys cause => cause.message

end CommandError
end Keywise
