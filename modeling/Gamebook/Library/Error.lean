import Gamebook.Files.Action
import Gamebook.Story.Check

namespace Gamebook

/-- What ids and names are ids and names of. -/
inductive NameKind where
  | story
  | player
  | scene
  | stat
  | item
  deriving DecidableEq, Repr

namespace NameKind

def describe : NameKind → String
  | .story => "story id"
  | .player => "player id"
  | .scene => "scene id"
  | .stat => "stat name"
  | .item => "item name"

end NameKind

/-- Why the library cannot do what it is asked for. -/
inductive LibraryError where
  | storyNotFound (story : String) (scope : Visibility)
  /-- A share code that is not registered, or whose story is gone. -/
  | unknownCode (code : String)
  | storyExists (story : String)
  | sceneNotFound (story scene : String)
  | choiceNotFound (story scene : String) (index : Nat)
  | noSession (player : String)
  | noProgress (player story : String)
  /-- An id that cannot be the name of a file. -/
  | invalidKey (kind : NameKind) (value : String)
  | emptyName (kind : NameKind)
  | invalidStory (path : String) (error : StoryError)
  | file (path : String) (fault : FileFault)
  | badRecord (path : String) (error : Json.ReadError)
  /-- Every share code that was drawn is taken. -/
  | noFreshCode
  deriving DecidableEq, Repr

/-- What lies behind an error. -/
inductive Cause where
  | story (error : StoryError)
  | file (fault : FileFault)
  | record (error : Json.ReadError)
  deriving DecidableEq, Repr

namespace Cause

def message : Cause → String
  | .story error => error.message
  | .file fault => fault.message
  | .record error => error.message

end Cause

namespace LibraryError

def message : LibraryError → String
  | .storyNotFound story scope =>
    "story \"" ++ story ++ "\" not found among " ++ scope.name ++ " stories"
  | .unknownCode code => "invalid share code \"" ++ code ++ "\""
  | .storyExists story => "story \"" ++ story ++ "\" already exists"
  | .sceneNotFound story scene =>
    "scene \"" ++ scene ++ "\" not found in story \"" ++ story ++ "\""
  | .choiceNotFound story scene index =>
    "scene \"" ++ scene ++ "\" of story \"" ++ story ++ "\" has no choice " ++ Text.numeral index
  | .noSession player => "no story in progress for player \"" ++ player ++ "\""
  | .noProgress player story =>
    "no saved progress for player \"" ++ player ++ "\" in story \"" ++ story ++ "\""
  | .invalidKey kind value => "invalid " ++ kind.describe ++ " \"" ++ value ++ "\""
  | .emptyName kind => kind.describe ++ " must not be empty"
  | .invalidStory path _ => "cannot load story from " ++ path
  | .file path _ => "I/O error on " ++ path
  | .badRecord path _ => "malformed JSON in " ++ path
  | .noFreshCode => "no unused share code was drawn"

/-- What lies behind an error, nearest first. -/
def causes : LibraryError → List Cause
  | .invalidStory _ (.malformed error) => [.story (.malformed error), .record error]
  | .invalidStory _ error => [.story error]
  | .file _ fault => [.file fault]
  | .badRecord _ error => [.record error]
  | _ => []

/-- The code by which an error is known. -/
def code : LibraryError → String
  | .storyNotFound _ _ => "fable::story_not_found"
  | .unknownCode _ => "fable::unknown_share_code"
  | .storyExists _ => "fable::story_exists"
  | .sceneNotFound _ _ => "fable::scene_not_found"
  | .choiceNotFound _ _ _ => "fable::choice_not_found"
  | .noSession _ => "fable::no_session"
  | .noProgress _ _ => "fable::no_progress"
  | .invalidKey _ _ => "fable::invalid_key"
  | .emptyName _ => "fable::empty_name"
  | .invalidStory _ _ => "fable::invalid_story"
  | .file _ _ => "fable::io"
  | .badRecord _ _ => "fable::json"
  | .noFreshCode => "fable::no_fresh_share_code"

/-- What can be done about an error. -/
def help? : LibraryError → Option String
  | .unknownCode _ =>
    some "share codes look like ABCD1234-EF56; ask the author for a fresh one"
  | .noSession _ => some "start one with `fable play <story>` or `fable play-code <code>`"
  | .invalidKey _ _ => some "use a non-empty name without path separators"
  | .invalidStory _ _ => some "run `fable story-check <id>` for details"
  | _ => none

end LibraryError

end Gamebook
