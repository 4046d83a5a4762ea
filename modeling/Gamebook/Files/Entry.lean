import Gamebook.Dict

/-!
Folders and files as a value, and what can be done with them: reading a file, writing one, making
folders and listing one. Each of these can only fail because of what stands at the path, or because
a name in it is too long.
-/

namespace Gamebook

/-- Why a file or folder cannot be used. -/
inductive FileFault where
  /-- There is nothing of this name. -/
  | missing
  /-- A file stands where a folder is needed. -/
  | notFolder
  /-- A folder stands where a file is needed. -/
  | isFolder
  /-- A folder cannot be made where a file is. -/
  | alreadyExists
  | nameTooLong
  /-- The bytes of a file are not text. -/
  | notText
  deriving DecidableEq, Repr

namespace FileFault

def message : FileFault → String
  | .missing => "No such file or directory (os error 2)"
  | .notFolder => "Not a directory (os error 20)"
  | .isFolder => "Is a directory (os error 21)"
  | .alreadyExists => "File exists (os error 17)"
  | .nameTooLong => "File name too long (os error 36)"
  | .notText => "stream did not contain valid UTF-8"

end FileFault

/-- What is in a file: text, or bytes that are not text. -/
inductive Content where
  | text (s : String)
  | bytes (bytes : List UInt8)
  deriving DecidableEq

/-- A file, or a folder with everything in it. -/
inductive Entry where
  | file (content : Content)
  | folder (entries : List (String × Entry))
  deriving Inhabited

namespace Entry

/-- Whether a name has more bytes than a file or folder may have in its name. -/
def isTooLong (name : String) : Bool :=
  255 < name.utf8ByteSize

/-- What a path leads to. -/
def walk : Entry → List String → Except FileFault Entry
  | entry, [] => .ok entry
  | .file _, _ :: _ => .error .notFolder
  | .folder entries, name :: path =>
    if isTooLong name then .error .nameTooLong
    else
      match Dict.lookup name entries with
      | some entry => entry.walk path
      | none => .error .missing

/-- What is in the file that a path leads to. -/
def contents (top : Entry) (path : List String) : Except FileFault Content :=
  match top.walk path with
  | .ok (.file content) => .ok content
  | .ok (.folder _) => .error .isFolder
  | .error fault => .error fault

/-- The text of the file that a path leads to. -/
def readText (top : Entry) (path : List String) : Except FileFault String :=
  match top.contents path with
  | .ok (.text s) => .ok s
  | .ok (.bytes _) => .error .notText
  | .error fault => .error fault

/-- Whether a path leads to a file. -/
def isFile (top : Entry) (path : List String) : Bool :=
  match top.contents path with
  | .ok _ => true
  | .error _ => false

/-- The names in the folder that a path leads to. -/
def list (top : Entry) (path : List String) : Except FileFault (List String) :=
  match top.walk path with
  | .ok (.folder entries) => .ok (entries.map (·.1))
  | .ok (.file _) => .error .notFolder
  | .error fault => .error fault

/-- Makes the folders of a path that are not there yet. Those before a fault are made all the
same. -/
def makeFolders : List String → Entry → Option FileFault × Entry
  | [], .folder entries => (none, .folder entries)
  | [], .file content => (some .alreadyExists, .file content)
  | _ :: _, .file content => (some .notFolder, .file content)
  | name :: path, .folder entries =>
    if isTooLong name then (some .nameTooLong, .folder entries)
    else
      let inner := makeFolders path ((Dict.lookup name entries).getD (.folder []))
      (inner.1, .folder (Dict.put name inner.2 entries))

/-- Writes the file that a path leads to, in place of what it held. Its folder has to be there. -/
def writeFile (content : Content) : List String → Entry → Except FileFault Entry
  | [], .file _ => .ok (.file content)
  | [], .folder _ => .error .isFolder
  | _ :: _, .file _ => .error .notFolder
  | name :: path, .folder entries =>
    if isTooLong name then .error .nameTooLong
    else
      match Dict.lookup name entries with
      | some entry => do
        let entry ← writeFile content path entry
        return .folder (Dict.put name entry entries)
      | none =>
        if path = [] then .ok (.folder (Dict.put name (.file content) entries))
        else .error .missing

/-- Takes away what a path leads to. -/
def remove : List String → Entry → Entry
  | [], _ => .folder []
  | _ :: _, .file content => .file content
  | [name], .folder entries => .folder (entries.filter (·.1 ≠ name))
  | name :: path, .folder entries =>
    match Dict.lookup name entries with
    | some entry => .folder (Dict.put name (remove path entry) entries)
    | none => .folder entries

mutual

/-- All files in an entry, with their paths. -/
def files (path : List String) : Entry → List (List String × Content)
  | .file content => [(path, content)]
  | .folder entries => filesIn path entries

/-- All files in some entries of a folder, with their paths. -/
def filesIn (path : List String) : List (String × Entry) → List (List String × Content)
  | [] => []
  | (name, entry) :: entries => files (path ++ [name]) entry ++ filesIn path entries

end

end Entry

end Gamebook
