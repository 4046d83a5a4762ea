import Gamebook.Json.Codec
import Gamebook.Story.Basic

namespace Gamebook

open Json

def Visibility.codec : Codec Visibility :=
  .variant [("public", .listed), ("private", .unlisted)] Visibility.name

def Requirement.codec : Codec Requirement :=
  .record "Requirement"
    (.cons (.withDefault "items" (.list .text) []) <|
      .cons (.withDefault "stats" (.dict .int64) ∅) .nil)
    (fun r => (r.items, r.stats, ()))
    (fun (items, stats, _) => ⟨items, stats⟩)

def Choice.codec : Codec Choice :=
  .record "Choice"
    (.cons (.required "text" .text) <|
      .cons (.required "next" .text) <|
      .cons (.sparse "require" Requirement.codec) .nil)
    (fun c => (c.text, c.next, c.requirement, ()))
    (fun (text, next, requirement, _) => ⟨text, next, requirement⟩)

def Scene.codec : Codec Scene :=
  .record "Scene"
    (.cons (.withDefault "text" .nullableText "") <|
      .cons (.withDefault "choices" (.list Choice.codec) []) .nil)
    (fun s => (s.text, s.choices, ()))
    (fun (text, choices, _) => ⟨text, choices⟩)

def ItemSettings.codec : Codec ItemSettings :=
  .record "InventorySettings"
    (.cons (.withDefault "enabled" .bool false) <|
      .cons (.withDefault "items" (.list .text) []) .nil)
    (fun s => (s.enabled, s.items, ()))
    (fun (enabled, items, _) => ⟨enabled, items⟩)

def StatSettings.codec : Codec StatSettings :=
  .record "StatSettings"
    (.cons (.withDefault "enabled" .bool false) <|
      .cons (.withDefault "values" (.dict .int64) ∅) .nil)
    (fun s => (s.enabled, s.values, ()))
    (fun (enabled, values, _) => ⟨enabled, values⟩)

def Story.codec : Codec Story :=
  .record "StoryDefinition"
    (.cons (.required "id" .text) <|
      .cons (.required "title" .text) <|
      .cons (.withDefault "visibility" Visibility.codec .unlisted) <|
      .cons (.withDefault "code" (.option .text) none) <|
      .cons (.withDefault "start" .text Story.defaultStart) <|
      .cons (.withDefault "inventory" ItemSettings.codec ⟨false, []⟩) <|
      .cons (.withDefault "stats" StatSettings.codec ⟨false, ∅⟩) <|
      .cons (.withDefault "scenes" (.dict Scene.codec) ∅) .nil)
    (fun s => (s.id, s.title, s.visibility, s.shareCode, s.start, s.inventory, s.stats, s.scenes,
      ()))
    (fun (id, title, visibility, shareCode, start, inventory, stats, scenes, _) =>
      ⟨id, title, visibility, shareCode, start, inventory, stats, scenes⟩)

end Gamebook
