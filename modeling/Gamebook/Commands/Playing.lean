import Gamebook.Commands.Grid
import Gamebook.Commands.Page
import Gamebook.Commands.Report
import Gamebook.Commands.Suggestion
import Gamebook.Library.Progress
import Gamebook.Library.Sessions
import Gamebook.Library.Stories

namespace Gamebook

/-- What a command knows besides its arguments: the library, where sessions are kept, the player,
the time, and the share codes to draw from. -/
structure Setting where
  library : Library
  sessions : SessionStore
  player : String
  now : Instant
  candidates : List String

/-- A step of a play: the state that was reached, and the scene that is shown. -/
abbrev Turn := PlayerState × SceneView

namespace Setting

variable (setting : Setting)

/-- Makes a step of a play within a command. -/
def stepped (turn : Except PlayError Turn) : CommandAction Turn :=
  .ofExcept (turn.mapError .play)

/-- The story that the player is in, and how far the player has come. -/
def current : FileAction LibraryError (Story × PlayerState) := do
  match ← setting.sessions.get setting.player with
  | none => .fail (.noSession setting.player)
  | some session =>
    let story ← setting.library.loadStory session.storyId session.scope
    match ← setting.library.loadProgress setting.player session.storyId with
    | none => .fail (.noProgress setting.player session.storyId)
    | some state => return (story, state)

/-- Begins a story: saves a fresh state and makes the story the one that the player is in. -/
def beginStory (story : Story) (scope : Visibility) : CommandAction (Turn × SessionStore) := do
  let turn ← stepped (story.startPlay setting.player)
  ask (setting.library.saveProgress setting.player story.id turn.1 setting.now)
  let sessions ← ask (setting.sessions.put setting.player ⟨story.id, scope⟩)
  return (turn, sessions)

/-- The listed story of an id, or a failure that suggests another id. -/
def listedStory (id : String) : CommandAction Story := do
  match ← (setting.library.loadStory id .listed).attempt with
  | .ok story => return story
  | .error (.storyNotFound _ _) =>
    let listed ← ask setting.library.listedStories
    .fail (.notListed id (suggest id listed))
  | .error error => .fail (.library error)

/-- Begins a listed story. -/
def startListed (id : String) : CommandAction (Story × Turn × SessionStore) := do
  let story ← setting.listedStory id
  let (turn, sessions) ← setting.beginStory story .listed
  return (story, turn, sessions)

/-- Begins a story by its share code. -/
def startByCode (code : String) : CommandAction (Story × Turn × SessionStore) := do
  let (_, story) ← ask (setting.library.loadByCode code)
  let (turn, sessions) ← setting.beginStory story .unlisted
  return (story, turn, sessions)

/-- Takes a choice and saves the state that it leads to. -/
def takeChoice (index : Nat) : CommandAction (Story × Turn) := do
  let (story, state) ← ask setting.current
  let turn ← stepped (story.choose state index)
  ask (setting.library.saveProgress setting.player story.id turn.1 setting.now)
  return (story, turn)

/-- Shows the current scene again. -/
def lookAgain : CommandAction (Story × Turn) := do
  let (story, state) ← ask setting.current
  let turn ← stepped (story.resume state)
  return (story, turn)

end Setting

/-- The lines of a title. -/
def titleLines (story : Story) : List String :=
  ["== " ++ story.title ++ " ==", ""]

/-- The scene of a turn, as it is printed. -/
def turnPage (turn : Turn) : String :=
  turn.2.page turn.1.ending

/-- The report on a story that was begun or is shown again. -/
def titledReport (story : Story) (turn : Turn) : Report :=
  .of (titleLines story ++ [turnPage turn])

/-- The stats of a player as a table, if there are any. -/
def statLines (state : PlayerState) : List String :=
  if state.stats.isEmpty then []
  else
    (Grid.mk ["Stat", "Value"]
      (state.stats.entries.map fun (name, value) => [name, Text.numeral value.toInt])).lines

/-- The report on where a player is. -/
def statusReport (story : Story) (state : PlayerState) : Report :=
  .of <|
    ["  " ++ story.title ++ " (" ++ story.id ++ ")", "  Scene: " ++ state.currentScene] ++
    (state.ending.toList.map fun ending => "  Ending: " ++ ending) ++
    ["  Inventory: " ++
      if state.inventory = [] then "empty" else String.intercalate ", " state.inventory] ++
    statLines state ++
    ["  " ++ Text.numeral state.history.length ++ " choices made"] ++
    state.history.map fun entry => "    " ++ entry.scene ++ " -> " ++ entry.choice

end Gamebook
