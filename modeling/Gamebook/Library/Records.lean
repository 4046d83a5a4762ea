import Gamebook.Library.Basic

namespace Gamebook.Library

variable {α : Type}

/-- The text of a file, if it is there. -/
def readText (path : String) : FileAction LibraryError (Option String) :=
  .readText path fun
    | .ok text => .done (some text)
    | .error .missing => .done none
    | .error fault => .fail (.file path fault)

/-- The value that a file holds, if the file is there. -/
def readRecord (codec : Json.Codec α) (path : String) : FileAction LibraryError (Option α) := do
  match ← readText path with
  | none => return none
  | some text =>
    match codec.read text with
    | .ok value => return some value
    | .error error => .fail (.badRecord path error)

/-- Writes a file, and makes the folders that lead to it. -/
def writeText (path text : String) : FileAction LibraryError Unit :=
  .makeFolders (Path.parent path) fun
    | some fault => .fail (.file (Path.parent path) fault)
    | none => .writeText path text fun
      | some fault => .fail (.file path fault)
      | none => .done ()

/-- Writes a value to a file. -/
def writeRecord (codec : Json.Codec α) (path : String) (value : α) :
    FileAction LibraryError Unit :=
  writeText path (codec.write value ++ "\n")

end Gamebook.Library
