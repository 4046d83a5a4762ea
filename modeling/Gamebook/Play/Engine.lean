import Gamebook.Play.Gate
import Gamebook.Play.Template

namespace Gamebook

/-- Why a step of a play cannot be made. -/
inductive PlayError where
  | sceneNotFound (scene : String)
  /-- The number of the choice, and how many choices there are. -/
  | invalidChoice (index available : Nat)
  deriving DecidableEq, Repr

namespace PlayError

def message : PlayError → String
  | .sceneNotFound scene => "scene \"" ++ scene ++ "\" not found"
  | .invalidChoice index available =>
    "invalid choice " ++ Text.numeral index ++ ": " ++ Text.numeral available ++
      " choice(s) available"

end PlayError

/-- A scene as it is shown to a player, with the choices that are offered. -/
structure SceneView where
  scene : String
  text : String
  choices : List Choice
  deriving DecidableEq

namespace SceneView

/-- Whether there is nothing left to choose. -/
def isTerminal (view : SceneView) : Bool :=
  view.choices.isEmpty

end SceneView

namespace Story

/-- The scene of a name, which has to exist. -/
def findScene (story : Story) (name : String) : Except PlayError Scene :=
  match story.scene? name with
  | some scene => .ok scene
  | none => .error (.sceneNotFound name)

/-- Shows the current scene of a player. Its directives take effect before choices are offered. -/
def enter (story : Story) (state : PlayerState) : Except PlayError (PlayerState × SceneView) := do
  let scene ← story.findScene state.currentScene
  let (text, state) := Template.render scene.text state
  return (state, ⟨state.currentScene, text, scene.available state⟩)

/-- Begins a story. -/
def startPlay (story : Story) (playerId : String) : Except PlayError (PlayerState × SceneView) :=
  story.enter (.begin story playerId)

/-- The choices that are offered to a player in the current scene. -/
def availableChoices (story : Story) (state : PlayerState) : Except PlayError (List Choice) := do
  let scene ← story.findScene state.currentScene
  return scene.available state

/-- Takes one of the choices that are offered. The scene that it leads to must exist before
anything is recorded. -/
def choose (story : Story) (state : PlayerState) (index : Nat) :
    Except PlayError (PlayerState × SceneView) := do
  let offered ← story.availableChoices state
  match offered[index]? with
  | none => throw (.invalidChoice index offered.length)
  | some choice =>
    let _ ← story.findScene choice.next
    story.enter { state with
      currentScene := choice.next
      history := state.history ++ [⟨state.currentScene, choice.text⟩] }

/-- Shows the current scene again. Its directives take effect again, which changes nothing for a
player who was already there. -/
def resume (story : Story) (state : PlayerState) : Except PlayError (PlayerState × SceneView) :=
  story.enter state

end Story

end Gamebook
