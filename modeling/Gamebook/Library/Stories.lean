import Gamebook.Library.Records
import Gamebook.Text.Case

namespace Gamebook

/-- What a share code stands for. -/
structure CodeEntry where
  storyId : String
  deriving DecidableEq

def CodeEntry.codec : Json.Codec CodeEntry :=
  .record "CodeEntry" (.cons (.required "storyId" .text) .nil)
    (fun e => (e.storyId, ()))
    (fun (storyId, _) => ⟨storyId⟩)

namespace Library

variable (library : Library)

/-- Whether there is a story of an id. -/
def hasStory (id : String) (scope : Visibility) : FileAction LibraryError Bool :=
  if isKey id then .isFile (library.storyPath scope id) .done else .done false

/-- The text of the file of a story. -/
def storyText (id : String) (scope : Visibility) : FileAction LibraryError String := do
  checkKey .story id
  match ← readText (library.storyPath scope id) with
  | some text => return text
  | none => .fail (.storyNotFound id scope)

/-- A story as it is, which may have errors. -/
def readStory (id : String) (scope : Visibility) : FileAction LibraryError Story := do
  let text ← library.storyText id scope
  .ofExcept ((Story.read text).mapError (.invalidStory (library.storyPath scope id)))

/-- A story that can be played. -/
def loadStory (id : String) (scope : Visibility) : FileAction LibraryError Story := do
  let text ← library.storyText id scope
  .ofExcept ((Story.readValid text).mapError (.invalidStory (library.storyPath scope id)))

/-- Writes a story under the id that it has. -/
def writeStory (story : Story) (scope : Visibility) : FileAction LibraryError Unit := do
  checkKey .story story.id
  writeRecord Story.codec (library.storyPath scope story.id) story

/-- The share codes. -/
def codes : FileAction LibraryError (Dict CodeEntry) := do
  return (← readRecord (.dict CodeEntry.codec) library.codesPath).getD ∅

/-- Replaces the share codes. -/
def saveCodes (codes : Dict CodeEntry) : FileAction LibraryError Unit :=
  writeRecord (.dict CodeEntry.codec) library.codesPath codes

/-- A share code as it is registered: without blanks around it, and in upper case. -/
def normalizeCode (code : String) : String :=
  Text.upper (Text.trim code)

/-- The story that a share code stands for, and its id. A code whose story is gone stands for
nothing any more. -/
def loadByCode (code : String) : FileAction LibraryError (String × Story) := do
  let code := normalizeCode code
  match (← library.codes).find? code with
  | none => .fail (.unknownCode code)
  | some entry =>
    match ← (library.loadStory entry.storyId .unlisted).attempt with
    | .ok story => return (entry.storyId, story)
    | .error (.storyNotFound _ _) => .fail (.unknownCode code)
    | .error error => .fail error

/-- Those of some ids that have a story. -/
def withStory (scope : Visibility) : List String → FileAction LibraryError (List String)
  | [] => .done []
  | id :: ids =>
    .isFile (Path.join (Path.join (library.storiesFolder scope) id) "config.json") fun found => do
      let others ← withStory scope ids
      return if found then id :: others else others

/-- Those of some names that are ids of listed stories, in increasing order. -/
def listedAmong (names : List String) : FileAction LibraryError (List String) := do
  let ids ← library.withStory .listed names
  return ids.mergeSort fun a b => decide (a ≤ b)

/-- The ids of the listed stories, in increasing order. -/
def listedStories : FileAction LibraryError (List String) :=
  let folder := library.storiesFolder .listed
  .list folder fun
    | .error .missing => .done []
    | .error fault => .fail (.file folder fault)
    | .ok names => library.listedAmong names

end Library

end Gamebook
