import Gamebook.Play.Engine
import Gamebook.Text.Blank

namespace Gamebook

/-- The line of a choice. -/
def choiceLine (label : String) (index : Nat) : String :=
  "  [" ++ Text.numeral index ++ "] " ++ label

/-- The lines of a scene. A scene with neither choices nor an ending says so. -/
def pageLines (text : String) (labels : List String) (ending : Option String) : List String :=
  let close := match ending with
    | some kind => ["", "  ~ The End (" ++ kind ++ ") ~"]
    | none => []
  let menu :=
    if labels = [] then (if ending.isSome then [] else ["", "  (no choices left)"])
    else "" :: labels.zipIdx.map fun (label, index) => choiceLine label index
  Text.trimEnd text :: close ++ menu

/-- A scene as it is printed. -/
def SceneView.page (view : SceneView) (ending : Option String) : String :=
  String.intercalate "\n" (pageLines view.text (view.choices.map (·.text)) ending)

end Gamebook
