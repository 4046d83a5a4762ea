import Gamebook.Dict

namespace Gamebook

/-- Who may play a story. -/
inductive Visibility where
  /-- Everyone: the story is listed and played by its id. -/
  | listed
  /-- Whoever has the share code. -/
  | unlisted
  deriving DecidableEq, Repr, Inhabited

namespace Visibility

/-- The name of the folder that stories of this visibility are kept in. -/
def name : Visibility → String
  | .listed => "public"
  | .unlisted => "private"

end Visibility

/-- What a player needs to be offered a choice: items to hold, and least values of stats, where a
stat that is not set counts as zero. -/
structure Requirement where
  items : List String
  stats : Dict Int64
  deriving DecidableEq

namespace Requirement

/-- The requirement that asks for nothing. -/
def none : Requirement := ⟨[], ∅⟩

/-- Whether a requirement asks for nothing. -/
def isEmpty (requirement : Requirement) : Bool :=
  requirement.items.isEmpty && requirement.stats.isEmpty

/-- A requirement that also asks for an item. -/
def withItem (requirement : Requirement) (item : String) : Requirement :=
  { requirement with items := requirement.items ++ [item] }

/-- A requirement that also asks for a stat of at least some value. -/
def withStat (requirement : Requirement) (stat : String) (least : Int64) : Requirement :=
  { requirement with stats := requirement.stats.insert stat least }

end Requirement

/-- A labelled way from one scene to another, which may be gated. -/
structure Choice where
  text : String
  next : String
  requirement : Option Requirement
  deriving DecidableEq

/-- One scene: its text, which may contain directives, and the choices in the order in which they
are offered. -/
structure Scene where
  text : String
  choices : List Choice
  deriving DecidableEq

/-- The items that players start with, and whether the author has turned items on. -/
structure ItemSettings where
  enabled : Bool
  items : List String
  deriving DecidableEq

/-- The stats that players start with, and whether the author has turned stats on. -/
structure StatSettings where
  enabled : Bool
  values : Dict Int64
  deriving DecidableEq

/-- A story as it is written by its author. -/
structure Story where
  id : String
  title : String
  visibility : Visibility
  shareCode : Option String
  start : String
  inventory : ItemSettings
  stats : StatSettings
  scenes : Dict Scene
  deriving DecidableEq

namespace Story

/-- The scene that stories start in unless they say otherwise. -/
def defaultStart : String := "start"

/-- A story for its author alone, with nothing but its first scene. -/
def fresh (id title text : String) : Story where
  id := id
  title := title
  visibility := .unlisted
  shareCode := none
  start := defaultStart
  inventory := ⟨false, []⟩
  stats := ⟨false, ∅⟩
  scenes := (∅ : Dict Scene).insert defaultStart ⟨text, []⟩

/-- The scene of a name. -/
def scene? (story : Story) (name : String) : Option Scene :=
  story.scenes.find? name

/-- Whether there is a scene of a name. -/
def hasScene (story : Story) (name : String) : Bool :=
  story.scenes.contains name

theorem hasScene_iff {story : Story} {name : String} :
    story.hasScene name = true ↔ ∃ scene, story.scene? name = some scene := by
  rw [hasScene, Dict.contains, Option.isSome_iff_exists]
  rfl

theorem hasScene_eq_false_iff {story : Story} {name : String} :
    story.hasScene name = false ↔ story.scene? name = none := by
  rw [hasScene, Dict.contains, Option.isSome_eq_false_iff, Option.isNone_iff_eq_none]
  rfl

/-- The scene of a name, or one with the given text and no choices if there is none. -/
def sceneOr (story : Story) (name text : String) : Scene :=
  (story.scene? name).getD ⟨text, []⟩

/-- Puts a scene under a name. -/
def putScene (story : Story) (name : String) (scene : Scene) : Story :=
  { story with scenes := story.scenes.insert name scene }

end Story

end Gamebook
