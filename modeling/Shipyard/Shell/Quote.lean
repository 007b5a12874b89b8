/-!
# Quoting for the shell

Writing a text so that a POSIX shell reads it as one word with that value. Between single quotes
every character stands for itself; a single quote is written by closing the quotes, escaping it
and opening them again.
-/

namespace Shipyard.Shell

/-- The characters that make `quoteArgument` put a word between quotes. -/
def metaCharacters : List Char :=
  [' ', '\t', '\n', '\'', '"', '\\', '$', '\x60', '!', '*', '?', '[', ']', '(', ')', '{', '}',
   '<', '>', '|', '&', ';', '#', '~']

/-- A character between single quotes. -/
def escapeQuoted (c : Char) : List Char :=
  if c = '\'' then ['\'', '\\', '\'', '\''] else [c]

/-- A text as it stands between single quotes. -/
def escapeContent (cs : List Char) : List Char :=
  cs.flatMap escapeQuoted

/-- Characters between single quotes. -/
def singleQuoted (cs : List Char) : List Char :=
  '\'' :: escapeContent cs ++ ['\'']

/-- A text as it stands between single quotes. -/
def escape (value : String) : String :=
  String.ofList (escapeContent value.toList)

/-- A path between single quotes. -/
def quotePath (path : String) : String :=
  String.ofList (singleQuoted path.toList)

/-- An argument: as it is if no character of it needs quotes, and between single quotes otherwise.
-/
def quoteArgument (argument : String) : String :=
  if argument.toList.isEmpty || argument.toList.any metaCharacters.contains then quotePath argument
  else argument

/-- A command that runs in a directory. -/
def inDirectory (directory command : String) : String :=
  "cd " ++ quotePath directory ++ " && " ++ command

end Shipyard.Shell
