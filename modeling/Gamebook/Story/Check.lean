import Gamebook.Story.Format
import Gamebook.Text.Blank
import Gamebook.Text.Integer

namespace Gamebook

/-- How bad a problem is. -/
inductive Severity where
  | error
  | warning
  deriving DecidableEq, Repr

/-- A problem in a story. Choices are counted from zero, within the scene they belong to. -/
inductive Issue where
  | blankId
  | missingStart (start : String)
  | blankLabel (scene : String) (index : Nat)
  | blankTarget (scene : String) (index : Nat)
  | missingTarget (scene label next : String)
  | unreachable (scene : String)
  | listedWithCode
  deriving DecidableEq, Repr

namespace Issue

def severity : Issue → Severity
  | .blankId | .missingStart _ | .blankLabel _ _ | .blankTarget _ _ => .error
  | .missingTarget _ _ _ | .unreachable _ | .listedWithCode => .warning

/-- Whether a problem keeps the story from being played. -/
def isError (issue : Issue) : Bool :=
  issue.severity = .error

/-- Whether a problem may stand before another one in a report. -/
def mayPrecede (issue other : Issue) : Bool :=
  issue.isError || !other.isError

/-- The scene that a problem belongs to, if it belongs to one. -/
def scene? : Issue → Option String
  | .blankId | .missingStart _ | .listedWithCode => none
  | .blankLabel scene _ | .blankTarget scene _ | .missingTarget scene _ _ | .unreachable scene =>
    some scene

def message : Issue → String
  | .blankId => "story id is empty"
  | .missingStart start => "start scene \"" ++ start ++ "\" does not exist"
  | .blankLabel _ index => "choice " ++ Text.numeral index ++ " has no text"
  | .blankTarget _ index => "choice " ++ Text.numeral index ++ " has no target scene"
  | .missingTarget _ label next =>
    "choice \"" ++ label ++ "\" leads to missing scene \"" ++ next ++ "\""
  | .unreachable _ => "scene is unreachable from the start scene"
  | .listedWithCode => "public story still carries a share code"

/-- The problem in one line, with how bad it is and where. -/
def display (issue : Issue) : String :=
  let severity := match issue.severity with
    | .error => "error: "
    | .warning => "warning: "
  let place := match issue.scene? with
    | some scene => "[" ++ scene ++ "] "
    | none => ""
  severity ++ place ++ issue.message

end Issue

/-- Why a text is not a story that can be played. -/
inductive StoryError where
  | malformed (e : Json.ReadError)
  | invalid (id : String) (issues : List Issue)
  deriving DecidableEq, Repr

namespace StoryError

def message : StoryError → String
  | .malformed e => "malformed story definition: " ++ e.message
  | .invalid id issues =>
    "story \"" ++ id ++ "\" is invalid: " ++ String.intercalate "; " (issues.map Issue.message)

end StoryError

namespace Story

/-- The number of choices in those of some scenes that are not seen yet. -/
def choicesAhead (seen : List String) : List (String × Scene) → Nat
  | [] => 0
  | (name, scene) :: rest =>
    (if name ∈ seen then 0 else scene.choices.length) + choicesAhead seen rest

theorem choicesAhead_cons_le (name : String) (seen : List String)
    (entries : List (String × Scene)) :
    choicesAhead (name :: seen) entries ≤ choicesAhead seen entries := by
  induction entries with
  | nil => exact Nat.le_refl _
  | cons entry rest ih =>
    simp only [choicesAhead, List.mem_cons]
    split <;> grind

/-- The choices of a scene are ahead before it is seen, and behind afterwards. -/
theorem choicesAhead_cons {name : String} {seen : List String} {scene : Scene}
    {entries : List (String × Scene)} (hseen : name ∉ seen)
    (hscene : Dict.lookup name entries = some scene) :
    choicesAhead (name :: seen) entries + scene.choices.length ≤ choicesAhead seen entries := by
  induction entries with
  | nil => simp [Dict.lookup] at hscene
  | cons entry rest ih =>
    obtain ⟨other, held⟩ := entry
    have hrest := choicesAhead_cons_le name seen rest
    rw [Dict.lookup] at hscene
    split at hscene
    · rename_i heq
      obtain rfl := Option.some.inj hscene
      obtain rfl : other = name := heq
      simp only [choicesAhead, List.mem_cons, true_or, if_true, if_neg hseen]
      omega
    · rename_i hne
      have hkept : (other ∈ name :: seen) = (other ∈ seen) := by simp_all
      simp only [choicesAhead, hkept]
      have := ih hscene
      omega

/-- Follows choices from the scenes of a queue to scenes that are not seen yet. A name without a
scene is seen as well, and leads nowhere. -/
def explore (story : Story) (seen : List String) : List String → List String
  | [] => seen
  | name :: queue =>
    if _h : name ∈ seen then explore story seen queue
    else
      match _hscene : story.scene? name with
      | some scene => explore story (name :: seen) (queue ++ scene.choices.map (·.next))
      | none => explore story (name :: seen) queue
termination_by queue => queue.length + choicesAhead seen story.scenes.entries
decreasing_by
  · exact Nat.add_lt_add_right (Nat.lt_succ_self _) _
  · have hless := choicesAhead_cons _h _hscene
    simp only [List.length_append, List.length_map, List.length_cons]
    omega
  · exact Nat.add_lt_add_of_lt_of_le (Nat.lt_succ_self _) (choicesAhead_cons_le ..)

/-- The names to which choices lead from the start scene, whatever they require. -/
def reachable (story : Story) : List String :=
  story.explore [] [story.start]

/-- The problems of one choice. -/
def choiceIssues (story : Story) (scene : String) (choice : Choice) (index : Nat) : List Issue :=
  (if Text.isBlank choice.text then [.blankLabel scene index] else []) ++
    if Text.isBlank choice.next then [.blankTarget scene index]
    else if story.hasScene choice.next then []
    else [.missingTarget scene choice.text choice.next]

/-- The problems of the choices of one scene. -/
def sceneIssues (story : Story) (name : String) (scene : Scene) : List Issue :=
  scene.choices.zipIdx.flatMap fun (choice, index) => story.choiceIssues name choice index

/-- The problems of a story in the order in which they are found: those of the whole story, those
of its choices, scenes that cannot be reached, and a share code that is left over. -/
def issues (story : Story) : List Issue :=
  let reached := story.reachable
  (if Text.isBlank story.id then [.blankId] else []) ++
    (if story.hasScene story.start then [] else [.missingStart story.start]) ++
    (story.scenes.entries.flatMap fun (name, scene) => story.sceneIssues name scene) ++
    (if story.hasScene story.start then
      (story.scenes.keys.filter (· ∉ reached)).map .unreachable
    else []) ++
    if story.visibility = .listed ∧ story.shareCode.isSome then [.listedWithCode] else []

/-- All problems of a story, sorted so that errors come before warnings. The sort is stable. -/
def check (story : Story) : List Issue :=
  story.issues.mergeSort Issue.mayPrecede

/-- The problems that keep a story from being played. -/
def errors (story : Story) : List Issue :=
  story.check.filter Issue.isError

/-- Refuses a story with errors. -/
def ensureValid (story : Story) : Except StoryError Unit :=
  if story.errors = [] then .ok () else .error (.invalid story.id story.errors)

/-- Reads a story as it is. -/
def read (text : String) : Except StoryError Story :=
  (codec.read text).mapError .malformed

/-- Reads a story that can be played. -/
def readValid (text : String) : Except StoryError Story := do
  let story ← read text
  story.ensureValid
  return story

/-- Writes a story. -/
def write (story : Story) : String :=
  codec.write story

end Story

end Gamebook
