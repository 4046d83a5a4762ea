import Gamebook.Play.State

namespace Gamebook

/-- Whether a player has every item and every stat that a requirement asks for. -/
def Requirement.isMet (requirement : Requirement) (state : PlayerState) : Bool :=
  requirement.items.all state.hasItem &&
    requirement.stats.entries.all fun (name, least) => decide (least ≤ state.statOrZero name)

/-- Whether a choice is offered to a player. -/
def Choice.isAvailable (choice : Choice) (state : PlayerState) : Bool :=
  choice.requirement.all fun requirement => requirement.isMet state

/-- The choices of a scene that are offered to a player, in their order. -/
def Scene.available (scene : Scene) (state : PlayerState) : List Choice :=
  scene.choices.filter fun choice => choice.isAvailable state

end Gamebook
