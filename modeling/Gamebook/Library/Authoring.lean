import Gamebook.Library.Stories
import Gamebook.Story.Edit

namespace Gamebook

/-- A story as it was published, with its new share code if it is not listed. -/
structure Publication where
  story : Story
  shareCode : Option String

/-- A share code: eight hexadecimal digits of one number and four of another. -/
def shareCode (first second : Nat) : String :=
  let digits (count n : Nat) : List Char :=
    (List.range count).reverse.map fun place => (Nat.digitChar ((n >>> (4 * place)) % 16)).toUpper
  String.ofList (digits 8 first ++ '-' :: digits 4 second)

namespace Library

variable (library : Library)

/-- Begins a new story. -/
def createStory (id title : String) : FileAction LibraryError Story := do
  checkKey .story id
  if ← library.hasStory id .unlisted then .fail (.storyExists id)
  else
    let story := Story.fresh id title Story.emptyStartText
    library.writeStory story .unlisted
    return story

/-- Makes an edit to a story, which may be refused. -/
def edit {α : Type} (id : String) (change : Story → Except LibraryError (Story × α)) :
    FileAction LibraryError α := do
  let story ← library.readStory id .unlisted
  let (story, answer) ← .ofExcept (change story)
  library.writeStory story .unlisted
  return answer

/-- Adds an empty scene, and says whether it is new. -/
def addScene (id scene : String) : FileAction LibraryError Bool := do
  checkName .scene scene
  library.edit id fun story => .ok (story.addScene scene)

/-- Replaces the text of a scene. -/
def setSceneText (id scene text : String) : FileAction LibraryError Unit := do
  checkName .scene scene
  library.edit id fun story => .ok (story.setSceneText scene text, ())

/-- Adds a choice to a scene, and gives its place there. The scene that it leads to may be written
later. -/
def addChoice (id scene text next : String) : FileAction LibraryError Nat := do
  checkName .scene scene
  checkName .scene next
  library.edit id fun story => .ok (story.addChoice scene text next)

/-- Gates a choice by its place in a scene. -/
def setRequirement (id scene : String) (index : Nat) (requirement : Requirement) :
    FileAction LibraryError Unit :=
  library.edit id fun story =>
    match story.setRequirement scene index requirement with
    | .ok story => .ok (story, ())
    | .error .noScene => .error (.sceneNotFound id scene)
    | .error .noChoice => .error (.choiceNotFound id scene index)

/-- Sets a stat that players start with. -/
def setInitialStat (id name : String) (value : Int64) : FileAction LibraryError Unit := do
  checkName .stat name
  library.edit id fun story => .ok (story.setInitialStat name value, ())

/-- Adds an item that players start with, and says whether they did not have it. -/
def addInitialItem (id item : String) : FileAction LibraryError Bool := do
  checkName .item item
  library.edit id fun story => .ok (story.addInitialItem item)

/-- Publishes a story for everyone. -/
def publishListed (id : String) : FileAction LibraryError Publication := do
  let story ← library.readStory id .unlisted
  let story := { story with visibility := .listed, shareCode := none }
  library.writeStory story .listed
  return ⟨story, none⟩

/-- Publishes a story behind the first of some share codes that is not taken. The story gets its
code before the code is registered. -/
def publishUnlisted (id : String) (candidates : List String) :
    FileAction LibraryError Publication := do
  let story ← library.readStory id .unlisted
  let codes ← library.codes
  match candidates.find? fun code => !codes.contains code with
  | none => .fail .noFreshCode
  | some code =>
    let story := { story with visibility := .unlisted, shareCode := some code }
    library.writeStory story .unlisted
    library.saveCodes (codes.insert code ⟨id⟩)
    return ⟨story, some code⟩

/-- Publishes a story. -/
def publish (id : String) (scope : Visibility) (candidates : List String) :
    FileAction LibraryError Publication :=
  match scope with
  | .listed => library.publishListed id
  | .unlisted => library.publishUnlisted id candidates

/-- The problems of a story. -/
def checkStory (id : String) : FileAction LibraryError (List Issue) := do
  return (← library.readStory id .unlisted).check

end Library

end Gamebook
