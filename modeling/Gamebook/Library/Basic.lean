import Gamebook.Files.Path
import Gamebook.Library.Error

/-!
A library: the folder that stories, saves and the tables beside them are kept in, and where in it
each of them has its file. Ids become names of files and folders, so that only ids which are a
single name are let through.
-/

namespace Gamebook

/-- A library, by the path of its folder. -/
structure Library where
  root : String
  deriving DecidableEq, Repr

namespace Library

/-- The library in the folder that a program is run in. -/
def here : Library := ⟨"."⟩

/-- The folder of the stories of one visibility. -/
def storiesFolder (library : Library) (scope : Visibility) : String :=
  Path.join (Path.join library.root "stories") scope.name

/-- The file of a story. -/
def storyPath (library : Library) (scope : Visibility) (id : String) : String :=
  Path.join (Path.join (library.storiesFolder scope) id) "config.json"

/-- The file of the share codes. -/
def codesPath (library : Library) : String :=
  Path.join library.root "codes.json"

/-- The file of the progress of a player in a story. -/
def savePath (library : Library) (player story : String) : String :=
  Path.join (Path.join (Path.join library.root "saves") player) (story ++ ".json")

/-- The file of the item bank. -/
def itemsPath (library : Library) : String :=
  Path.join (Path.join library.root "items") "items.json"

/-- The file of the active sessions. -/
def sessionsPath (library : Library) : String :=
  Path.join library.root "sessions.json"

end Library

/-- Whether an id can be the name of a file: a single name that does not lead elsewhere. -/
def isKey (value : String) : Bool :=
  !Text.isBlank value && value ≠ "." && value ≠ ".." &&
    value.toList.all fun c => c ≠ '/' && c ≠ '\\' && c ≠ '\x00'

/-- Refuses an id that cannot be the name of a file. -/
def checkKey (kind : NameKind) (value : String) : FileAction LibraryError Unit :=
  if isKey value then .done () else .fail (.invalidKey kind value)

/-- Refuses a blank name. Names are kept inside of files, so that any other text will do. -/
def checkName (kind : NameKind) (value : String) : FileAction LibraryError Unit :=
  if Text.isBlank value then .fail (.emptyName kind) else .done ()

end Gamebook
