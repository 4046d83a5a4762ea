import Gamebook.Story.Basic
import Gamebook.Json.Codec

namespace Gamebook

/-- A choice that was taken: the scene it was taken in, and its label. -/
structure HistoryEntry where
  scene : String
  choice : String
  deriving DecidableEq

/-- How far a player has come in a story. -/
structure PlayerState where
  playerId : String
  storyId : String
  currentScene : String
  stats : Dict Int64
  inventory : List String
  history : List HistoryEntry
  ending : Option String
  deriving DecidableEq

namespace PlayerState

/-- Whether the player holds an item. -/
def hasItem (state : PlayerState) (item : String) : Bool :=
  item ∈ state.inventory

/-- Gives the player an item that is not held yet. -/
def addItem (state : PlayerState) (item : String) : PlayerState :=
  if state.hasItem item then state else { state with inventory := state.inventory ++ [item] }

/-- The value of a stat, if it is set. -/
def stat? (state : PlayerState) (name : String) : Option Int64 :=
  state.stats.find? name

/-- The value of a stat, which is zero if it is not set. -/
def statOrZero (state : PlayerState) (name : String) : Int64 :=
  (state.stat? name).getD 0

/-- Records an ending, in place of an earlier one. -/
def withEnding (state : PlayerState) (ending : String) : PlayerState :=
  { state with ending := some ending }

/-- Whether the player has come to an ending. -/
def isFinished (state : PlayerState) : Bool :=
  state.ending.isSome

/-- The state of a player who begins a story: in its start scene, with its stats, and with its
items, of which repetitions count once. -/
def begin (story : Story) (playerId : String) : PlayerState :=
  story.inventory.items.foldl addItem
    { playerId := playerId
      storyId := story.id
      currentScene := story.start
      stats := story.stats.values
      inventory := []
      history := []
      ending := none }

@[simp] theorem hasItem_addItem (state : PlayerState) (item other : String) :
    (state.addItem item).hasItem other = (state.hasItem other || other == item) := by
  rw [addItem]
  split <;> grind [hasItem]

end PlayerState

open Json

def HistoryEntry.codec : Codec HistoryEntry :=
  .record "HistoryEntry"
    (.cons (.required "scene" .text) <|
      .cons (.required "choice" .text) .nil)
    (fun e => (e.scene, e.choice, ()))
    (fun (scene, choice, _) => ⟨scene, choice⟩)

def PlayerState.codec : Codec PlayerState :=
  .record "PlayerState"
    (.cons (.required "playerId" .text) <|
      .cons (.required "storyId" .text) <|
      .cons (.required "currentScene" .text) <|
      .cons (.withDefault "stats" (.dict .int64) ∅) <|
      .cons (.withDefault "inventory" (.list .text) []) <|
      .cons (.withDefault "history" (.list HistoryEntry.codec) []) <|
      .cons (.withDefault "ending" (.option .text) none) .nil)
    (fun s => (s.playerId, s.storyId, s.currentScene, s.stats, s.inventory, s.history, s.ending,
      ()))
    (fun (playerId, storyId, currentScene, stats, inventory, history, ending, _) =>
      ⟨playerId, storyId, currentScene, stats, inventory, history, ending⟩)

end Gamebook
