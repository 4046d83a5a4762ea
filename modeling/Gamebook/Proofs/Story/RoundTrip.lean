import Gamebook.Play.State
import Gamebook.Proofs.Json.RoundTrip
import Gamebook.Story.Check

namespace Gamebook

open Json

theorem Visibility.keeps (visibility : Visibility) : codec.Keeps visibility := by
  apply Codec.keeps_variant
  cases visibility <;> decide

theorem Requirement.keeps (requirement : Requirement) : codec.Keeps requirement := by
  have hitems : (Codec.list .text).Keeps requirement.items :=
    Codec.keeps_list fun item _ => Codec.keeps_text item
  have hstats : (Codec.dict .int64).Keeps requirement.stats :=
    Codec.keeps_dict fun entry _ => Codec.keeps_int64 entry.2
  refine Codec.keeps_record (by decide) ⟨?_, ?_, trivial⟩ rfl
  · exact Field.keeps_withDefault _ _ hitems
  · exact Field.keeps_withDefault _ _ hstats

theorem Choice.keeps (choice : Choice) : codec.Keeps choice := by
  have hrequirement : Requirement.codec.option.Keeps choice.requirement := by
    cases choice.requirement with
    | none => exact Codec.keeps_none _
    | some requirement =>
        exact Codec.keeps_some (Requirement.keeps requirement) (by rintro ⟨⟩)
  refine Codec.keeps_record (by decide) ⟨?_, ?_, ?_, trivial⟩ rfl
  · exact Field.keeps_required _ (Codec.keeps_text choice.text)
  · exact Field.keeps_required _ (Codec.keeps_text choice.next)
  · exact Field.keeps_sparse _ hrequirement

theorem Scene.keeps (scene : Scene) : codec.Keeps scene := by
  have hchoices : Choice.codec.list.Keeps scene.choices :=
    Codec.keeps_list fun choice _ => Choice.keeps choice
  refine Codec.keeps_record (by decide) ⟨?_, ?_, trivial⟩ rfl
  · exact Field.keeps_withDefault _ _ (Codec.keeps_nullableText scene.text)
  · exact Field.keeps_withDefault _ _ hchoices

theorem ItemSettings.keeps (settings : ItemSettings) : codec.Keeps settings := by
  have hitems : (Codec.list .text).Keeps settings.items :=
    Codec.keeps_list fun item _ => Codec.keeps_text item
  refine Codec.keeps_record (by decide) ⟨?_, ?_, trivial⟩ rfl
  · exact Field.keeps_withDefault _ _ (Codec.keeps_bool settings.enabled)
  · exact Field.keeps_withDefault _ _ hitems

theorem StatSettings.keeps (settings : StatSettings) : codec.Keeps settings := by
  have hvalues : (Codec.dict .int64).Keeps settings.values :=
    Codec.keeps_dict fun entry _ => Codec.keeps_int64 entry.2
  refine Codec.keeps_record (by decide) ⟨?_, ?_, trivial⟩ rfl
  · exact Field.keeps_withDefault _ _ (Codec.keeps_bool settings.enabled)
  · exact Field.keeps_withDefault _ _ hvalues

theorem Json.Codec.keeps_optionText (text? : Option String) : (Codec.option .text).Keeps text? := by
  cases text? with
  | none => exact keeps_none _
  | some s => exact keeps_some (keeps_text s) (by rintro ⟨⟩)

theorem Story.keeps (story : Story) : codec.Keeps story := by
  have hscenes : Scene.codec.dict.Keeps story.scenes :=
    Codec.keeps_dict fun entry _ => Scene.keeps entry.2
  refine Codec.keeps_record (by decide) ⟨?_, ?_, ?_, ?_, ?_, ?_, ?_, ?_, trivial⟩ rfl
  · exact Field.keeps_required _ (Codec.keeps_text story.id)
  · exact Field.keeps_required _ (Codec.keeps_text story.title)
  · exact Field.keeps_withDefault _ _ (Visibility.keeps story.visibility)
  · exact Field.keeps_withDefault _ _ (Codec.keeps_optionText story.shareCode)
  · exact Field.keeps_withDefault _ _ (Codec.keeps_text story.start)
  · exact Field.keeps_withDefault _ _ (ItemSettings.keeps story.inventory)
  · exact Field.keeps_withDefault _ _ (StatSettings.keeps story.stats)
  · exact Field.keeps_withDefault _ _ hscenes

theorem HistoryEntry.keeps (entry : HistoryEntry) : codec.Keeps entry := by
  refine Codec.keeps_record (by decide) ⟨?_, ?_, trivial⟩ rfl
  · exact Field.keeps_required _ (Codec.keeps_text entry.scene)
  · exact Field.keeps_required _ (Codec.keeps_text entry.choice)

theorem PlayerState.keeps (state : PlayerState) : codec.Keeps state := by
  have hstats : (Codec.dict .int64).Keeps state.stats :=
    Codec.keeps_dict fun entry _ => Codec.keeps_int64 entry.2
  have hinventory : (Codec.list .text).Keeps state.inventory :=
    Codec.keeps_list fun item _ => Codec.keeps_text item
  have hhistory : HistoryEntry.codec.list.Keeps state.history :=
    Codec.keeps_list fun entry _ => HistoryEntry.keeps entry
  refine Codec.keeps_record (by decide) ⟨?_, ?_, ?_, ?_, ?_, ?_, ?_, trivial⟩ rfl
  · exact Field.keeps_required _ (Codec.keeps_text state.playerId)
  · exact Field.keeps_required _ (Codec.keeps_text state.storyId)
  · exact Field.keeps_required _ (Codec.keeps_text state.currentScene)
  · exact Field.keeps_withDefault _ _ hstats
  · exact Field.keeps_withDefault _ _ hinventory
  · exact Field.keeps_withDefault _ _ hhistory
  · exact Field.keeps_withDefault _ _ (Codec.keeps_optionText state.ending)

namespace Story

theorem read_write (story : Story) : read story.write = .ok story := by
  rw [read, write, Codec.read_write (keeps story)]
  rfl

theorem read_write_line (story : Story) : read (story.write ++ "\n") = .ok story := by
  rw [read, write, Codec.read_write_line (keeps story)]
  rfl

end Story

theorem stories_and_states_read_back :
    (∀ story : Story,
      Story.read story.write = .ok story ∧ Story.read (story.write ++ "\n") = .ok story) ∧
    (∀ state : PlayerState,
      PlayerState.codec.read (PlayerState.codec.write state) = .ok state ∧
        PlayerState.codec.read (PlayerState.codec.write state ++ "\n") = .ok state) := by
  constructor
  · intro story
    exact ⟨Story.read_write story, Story.read_write_line story⟩
  · intro state
    have hkeeps := PlayerState.keeps state
    exact ⟨Codec.read_write hkeeps, Codec.read_write_line hkeeps⟩

end Gamebook
