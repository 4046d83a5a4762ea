import Gamebook.Text.Case
import Gamebook.Text.Similarity

namespace Gamebook

/-- The least similarity at which a name is suggested. -/
def suggestionThreshold : Float := 0.8

/-- The name among some candidates that is most similar to the given one, whatever the case of
letters, if it is similar enough. Of equally similar ones it is the last. -/
def suggest (input : String) (candidates : List String) : Option String :=
  let input := Text.lower input
  let better (best : Option (String × Float)) (candidate : String) : Option (String × Float) :=
    let score := Text.similarity input (Text.lower candidate)
    if score < suggestionThreshold then best
    else
      match best with
      | some (_, bestScore) => if score < bestScore then best else some (candidate, score)
      | none => some (candidate, score)
  (candidates.foldl better none).map (·.1)

end Gamebook
