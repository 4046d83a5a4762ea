import Gamebook.Story.Basic

namespace Gamebook

/-- Why a choice cannot be gated. -/
inductive GateFault where
  | noScene
  | noChoice
  deriving DecidableEq, Repr

namespace Story

/-- The text of the start scene of a new story. -/
def emptyStartText : String := "Empty start scene."

/-- The text of a scene that is made without one. -/
def emptySceneText : String := "Empty scene."

/-- A story with an empty scene of a name, unless it has a scene of this name already; and whether
the scene is new. -/
def addScene (story : Story) (name : String) : Story × Bool :=
  if story.hasScene name then (story, false)
  else (story.putScene name ⟨emptySceneText, []⟩, true)

/-- A story in which a scene has the given text. -/
def setSceneText (story : Story) (name text : String) : Story :=
  story.putScene name { story.sceneOr name "" with text := text }

/-- A story in which a scene has one more choice at its end, and the place of this choice. -/
def addChoice (story : Story) (name text next : String) : Story × Nat :=
  let scene := story.sceneOr name emptySceneText
  (story.putScene name { scene with choices := scene.choices ++ [⟨text, next, none⟩] },
    scene.choices.length)

/-- A story in which the choice at some place of a scene is gated by a requirement, or by none if
the requirement asks for nothing. -/
def setRequirement (story : Story) (name : String) (index : Nat) (requirement : Requirement) :
    Except GateFault Story :=
  match story.scene? name with
  | none => .error .noScene
  | some scene =>
    match scene.choices[index]? with
    | none => .error .noChoice
    | some choice =>
      let gate := if requirement.isEmpty then none else some requirement
      let choices := scene.choices.set index { choice with requirement := gate }
      .ok (story.putScene name { scene with choices := choices })

/-- A story whose players start with a stat. -/
def setInitialStat (story : Story) (name : String) (value : Int64) : Story :=
  { story with stats := ⟨true, story.stats.values.insert name value⟩ }

/-- A story whose players start with an item, and whether they did not before. -/
def addInitialItem (story : Story) (item : String) : Story × Bool :=
  if item ∈ story.inventory.items then
    ({ story with inventory := { story.inventory with enabled := true } }, false)
  else ({ story with inventory := ⟨true, story.inventory.items ++ [item]⟩ }, true)

end Story

end Gamebook
