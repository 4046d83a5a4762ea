import Gamebook.Commands.Playing
import Gamebook.Library.Authoring
import Gamebook.Library.ItemBank

namespace Gamebook

/-- What can be asked for on the command line. -/
inductive Command where
  | menu
  | stories
  | play (story : String)
  | playCode (code : String)
  | choose (index : Nat)
  | resume
  | status
  | createStory (id title : String)
  | addScene (id scene : String)
  | setText (id scene text : String)
  | addChoice (id scene text next : String)
  | publish (id : String) (scope : Visibility)
  | setStat (id name : String) (value : Int64)
  | addStoryItem (id item : String)
  | require (id scene : String) (index : Nat) (requirement : Requirement)
  | check (id : String)
  | addItem (name : String)
  | listItems

namespace Command

/-- The main menu, with the number of listed stories and of items in the bank. -/
def menuLines (stories items : Nat) : List String :=
  ["Fablecraft",
   "",
   "  Play",
   "    fable stories              list public stories (" ++ Text.numeral stories ++ " available)",
   "    fable play <story>         start a public story",
   "    fable play-code <code>     start a private story from its share code",
   "    fable choose <n>           take choice n of the current scene",
   "    fable resume | status      show where you are",
   "",
   "  Create",
   "    fable story-create <id> <title>",
   "    fable story-addscene / story-settext / story-addchoice",
   "    fable story-publish <id> --public | --private",
   "",
   "  Items",
   "    fable item-add <name> | item-list (" ++ Text.numeral items ++ " in the bank)"]

/-- The rows of some listed stories. A story that cannot be read has none. -/
def storyRows (library : Library) : List String → FileAction LibraryError (List (List String))
  | [] => .done []
  | id :: ids => do
    let found ← (library.readStory id .listed).attempt
    let rows ← storyRows library ids
    match found with
    | .ok story => return [id, story.title, Text.numeral story.scenes.size] :: rows
    | .error (_ : LibraryError) => return rows

/-- The report on the listed stories. -/
def storiesReport (library : Library) : FileAction LibraryError Report := do
  let ids ← library.listedStories
  if ids = [] then return .of ["  No public stories yet."]
  else
    let rows ← storyRows library ids
    let noun := if rows.length = 1 then " story" else " stories"
    return .of ((Grid.mk ["Id", "Title", "Scenes"] rows).lines ++
      ["", "  " ++ Text.numeral rows.length ++ noun])

/-- The report on the problems of a story, which fails if there are errors among them. -/
def checkReport (id : String) (issues : List Issue) : Except CommandError Report :=
  if countErrors issues ≠ 0 then .error (.storyHasErrors id issues)
  else
    let verdict :=
      if issues = [] then "  All checks passed for '" ++ id ++ "'."
      else "  '" ++ id ++ "' is playable with " ++ plural (countWarnings issues) "warning" ++ "."
    .ok ⟨[verdict], issueNotices issues⟩

/-- The report on a story that was published. -/
def publishedReport (id : String) (publication : Publication) : Report :=
  match publication.shareCode with
  | some code => .of ["  Published '" ++ id ++ "' as PRIVATE.", "  Share code: " ++ code]
  | none => .of ["  Published '" ++ id ++ "' as PUBLIC."]

/-- Gives a report, and leaves the sessions as they are. -/
def keepSessions (setting : Setting) (report : CommandAction Report) :
    CommandAction (Report × SessionStore) := do
  return (← report, setting.sessions)

/-- Gives the report of a program that uses the library and has nothing to do with sessions. -/
def answer (setting : Setting) (report : FileAction LibraryError Report) :
    CommandAction (Report × SessionStore) :=
  keepSessions setting (ask report)

/-- Runs a command: gives its report, and the sessions afterwards. Only a story that begins changes
the sessions. -/
def run (setting : Setting) : Command → CommandAction (Report × SessionStore)
  | .menu => answer setting do
    let stories ← setting.library.listedStories
    let items ← setting.library.items
    return .of (menuLines stories.length items.length)
  | .stories => answer setting (storiesReport setting.library)
  | .play id => do
    let (story, turn, sessions) ← setting.startListed id
    return (titledReport story turn, sessions)
  | .playCode code => do
    let (story, turn, sessions) ← setting.startByCode code
    return (titledReport story turn, sessions)
  | .choose index => keepSessions setting do
    let (_, turn) ← setting.takeChoice index
    return .of [turnPage turn]
  | .resume => keepSessions setting do
    let (story, turn) ← setting.lookAgain
    return titledReport story turn
  | .status => answer setting do
    let (story, state) ← setting.current
    return statusReport story state
  | .createStory id title => answer setting do
    let _ ← setting.library.createStory id title
    return .of ["  Created private story '" ++ id ++ "'.",
      "  Next: story-addscene, story-settext, story-addchoice, then story-publish."]
  | .addScene id scene => answer setting do
    if ← setting.library.addScene id scene then
      return .of ["  Added scene '" ++ scene ++ "' to '" ++ id ++ "'."]
    else return .of ["  Scene '" ++ scene ++ "' already exists in '" ++ id ++ "'."]
  | .setText id scene text => answer setting do
    setting.library.setSceneText id scene text
    return .of ["  Updated text of scene '" ++ scene ++ "' in '" ++ id ++ "'."]
  | .addChoice id scene text next => answer setting do
    let index ← setting.library.addChoice id scene text next
    return .of ["  Added choice [" ++ Text.numeral index ++ "] \"" ++ text ++ "\" to '" ++ scene ++
      "' (-> '" ++ next ++ "')."]
  | .publish id scope => answer setting do
    return publishedReport id (← setting.library.publish id scope setting.candidates)
  | .setStat id name value => answer setting do
    setting.library.setInitialStat id name value
    return .of ["  Starting stat " ++ name ++ " = " ++ Text.numeral value.toInt ++ " in '" ++ id ++
      "'."]
  | .addStoryItem id item => answer setting do
    if ← setting.library.addInitialItem id item then
      return .of ["  Added starting item '" ++ item ++ "' to '" ++ id ++ "'."]
    else return .of ["  '" ++ id ++ "' already starts with '" ++ item ++ "'."]
  | .require id scene index requirement => answer setting do
    setting.library.setRequirement id scene index requirement
    let verb := if requirement.isEmpty then "Cleared" else "Updated"
    return .of ["  " ++ verb ++ " requirement of choice " ++ Text.numeral index ++ " in '" ++
      scene ++ "'."]
  | .check id => keepSessions setting do
    let issues ← ask (setting.library.checkStory id)
    .ofExcept (checkReport id issues)
  | .addItem name => answer setting do
    let items ← setting.library.addItem name
    return .of ["  Added item '" ++ name ++ "'. " ++ plural items.length "item" ++ " in the bank."]
  | .listItems => answer setting do
    let items ← setting.library.items
    if items = [] then return .of ["  No global items."]
    else return .of ["  Global items: " ++ String.intercalate ", " items]

end Command

end Gamebook
