import Gamebook.Calendar
import Gamebook.Library.Records
import Gamebook.Play.State

namespace Gamebook

/-- A save: the state of a player, and when it was saved, if that is known. -/
structure Save where
  state : PlayerState
  savedAt : Option Instant
  deriving DecidableEq

def Save.codec : Json.Codec Save :=
  .record "SaveFile"
    (.cons (.required "state" PlayerState.codec) <|
      .cons (.withDefault "savedAt" (.option Instant.codec) none) .nil)
    (fun s => (s.state, s.savedAt, ()))
    (fun (state, savedAt, _) => ⟨state, savedAt⟩)

namespace Library

variable (library : Library)

/-- Saves the progress of a player in a story, in place of what was saved before. -/
def saveProgress (player story : String) (state : PlayerState) (now : Instant) :
    FileAction LibraryError Unit := do
  checkKey .player player
  checkKey .story story
  writeRecord Save.codec (library.savePath player story) ⟨state, some now⟩

/-- The save of a player in a story, if there is one. -/
def loadSave (player story : String) : FileAction LibraryError (Option Save) := do
  checkKey .player player
  checkKey .story story
  readRecord Save.codec (library.savePath player story)

/-- The saved state of a player in a story, if there is one. -/
def loadProgress (player story : String) : FileAction LibraryError (Option PlayerState) := do
  return (← library.loadSave player story).map (·.state)

end Library

end Gamebook
