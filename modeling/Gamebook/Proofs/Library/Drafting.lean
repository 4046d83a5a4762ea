import Gamebook.Proofs.Library.Calls
import Gamebook.Proofs.Story.Reordering

namespace Gamebook

open FileAction

instance (edit : StoryEdit) : Decidable edit.IsNamed :=
  match edit with
  | .addScene scene => inferInstanceAs (Decidable (Text.isBlank scene = false))
  | .setSceneText scene _ => inferInstanceAs (Decidable (Text.isBlank scene = false))
  | .addChoice scene _ next =>
    inferInstanceAs (Decidable (Text.isBlank scene = false ∧ Text.isBlank next = false))
  | .setRequirement _ _ _ => inferInstanceAs (Decidable True)
  | .setInitialStat stat _ => inferInstanceAs (Decidable (Text.isBlank stat = false))
  | .addInitialItem item => inferInstanceAs (Decidable (Text.isBlank item = false))

/-- A story after an author has called for an edit. -/
def Story.called (story : Story) (edit : StoryEdit) : Story :=
  if edit.IsNamed then story.edited edit else story

theorem Story.foldl_called (story : Story) (edits : List StoryEdit) :
    edits.foldl called story = (edits.filter fun edit => edit.IsNamed).foldl edited story := by
  rw [List.foldl_filter]
  simp only [decide_eq_true_iff]
  rfl

theorem Story.id_called (story : Story) (edit : StoryEdit) : (story.called edit).id = story.id := by
  rw [called]
  split
  · have hbare := congrArg Story.id (story.bare_edited edit)
    exact hbare
  · rfl

namespace Library

variable {library : Library} {id title : String} {story : Story} {edit : StoryEdit}
  {edits others : List StoryEdit} {top after created : Entry}

/-- Whether a story stands in its file as it is written. -/
structure Drafts (library : Library) (story : Story) (top : Entry) : Prop where
  key : isKey story.id = true
  written : top.contents (Path.names (library.storyPath .unlisted story.id)) =
    .ok (.text (story.write ++ "\n"))

theorem Drafts.has (hdrafts : library.Drafts story top) :
    library.Has story.id .unlisted story top :=
  ⟨_, hdrafts.written, Story.read_write_line story⟩

theorem drafts_of_writeStory
    (hrun : (library.writeStory story .unlisted).run top = (.ok (), after)) :
    library.Drafts story after := by
  obtain ⟨hkey, hwritten⟩ := writeStory_eq_ok hrun
  exact ⟨hkey, hwritten.written⟩

theorem Drafts.exists_writeStory (hdrafts : library.Drafts story top) {changed : Story}
    (hid : changed.id = story.id) :
    ∃ after, (library.writeStory changed .unlisted).run top = (.ok (), after) := by
  have hthere := hdrafts.written
  have hkey := hdrafts.key
  rw [← hid] at hthere hkey
  obtain ⟨after, hwrite⟩ := exists_writeText isPlain_config hthere (changed.write ++ "\n")
  exact ⟨after, (run_bind_of_ok (checkKey_eq_ok.mpr ⟨hkey, rfl⟩) _).trans hwrite⟩

theorem Drafts.exists_perform (hdrafts : library.Drafts story top) (edit : StoryEdit)
    (hnamed : edit.IsNamed) {changed : Story} {answer : edit.Answer}
    (hmakes : edit.Makes story changed answer) :
    ∃ after, (edit.perform library story.id).run top = (.ok answer, after) ∧
      library.Drafts changed after := by
  obtain ⟨written, hwrite⟩ := hdrafts.exists_writeStory hmakes.id_eq
  refine ⟨written, StoryEdit.perform_eq_ok.mpr ?_, drafts_of_writeStory hwrite⟩
  exact ⟨hnamed, story, changed, hdrafts.key, hdrafts.has, hmakes, hwrite⟩

theorem Keeps.drafts {shelf : Shelf} (hkeeps : library.Keeps shelf top)
    (hstory : shelf.stories .unlisted id = some story) (hid : story.id = id) :
    library.Drafts story top := by
  rw [← hid] at hstory
  have hkey := hkeeps.keys .unlisted story.id story hstory
  refine ⟨hkey, ?_⟩
  rw [names_storyFile library .unlisted hkey]
  exact (hkeeps.stories .unlisted story.id _).mpr ⟨story, hstory, rfl⟩

theorem Keeps.exists_perform {shelf : Shelf} (hkeeps : library.Keeps shelf top)
    (hstory : shelf.stories .unlisted id = some story) (hid : story.id = id) (edit : StoryEdit)
    (hnamed : edit.IsNamed) {changed : Story} {answer : edit.Answer}
    (hmakes : edit.Makes story changed answer) :
    ∃ after, (edit.perform library id).run top = (.ok answer, after) ∧
      library.Keeps (shelf.put .unlisted changed) after := by
  obtain ⟨after, hrun, -⟩ := (hkeeps.drafts hstory hid).exists_perform edit hnamed hmakes
  rw [hid] at hrun
  obtain ⟨next, ⟨draft, made, hdraft, -, hmade, rfl⟩, hnext⟩ := hkeeps.performEdit edit hrun
  cases hstory.symm.trans hdraft
  obtain ⟨rfl, -⟩ := hmakes.unique hmade
  exact ⟨after, hrun, hnext⟩

/-- A draft is published behind the first of some share codes that is free. -/
theorem Keeps.exists_publishUnlisted {shelf : Shelf} (hkeeps : library.Keeps shelf top)
    (hstory : shelf.stories .unlisted id = some story) (hid : story.id = id)
    {candidates : List String} {code : String}
    (hfresh : candidates.find? (fun code => !shelf.codes.contains code) = some code) :
    ∃ after, (library.publish id .unlisted candidates).run top =
        (.ok ⟨story.behind code, some code⟩, after) ∧
      library.Keeps ((shelf.put .unlisted (story.behind code)).register code id) after := by
  have hread := hkeeps.readStory_eq_ok.mpr ⟨hstory, rfl⟩
  obtain ⟨written, hwrite⟩ : ∃ written,
      (library.writeStory (story.behind code) .unlisted).run top = (.ok (), written) :=
    (hkeeps.drafts hstory hid).exists_writeStory rfl
  obtain ⟨saved, hsave, hsaved⟩ :=
    (hkeeps.writeStory hwrite).saveCodes (shelf.codes.insert code ⟨id⟩)
  refine ⟨saved, (run_bind_of_ok hread _).trans ((run_bind_of_ok hkeeps.codes _).trans ?_), hsaved⟩
  simp only [hfresh]
  exact (run_bind_of_ok hwrite _).trans (run_bind_of_ok hsave _)

theorem drafts_of_createStory
    (hrun : (library.createStory id title).run top = (.ok story, after)) :
    story.id = id ∧ library.Drafts story after := by
  obtain ⟨⟨⟩, middle, -, hrest⟩ := run_bind_eq_ok.mp hrun
  obtain ⟨found, middle', -, hwriting⟩ := run_bind_eq_ok.mp hrest
  cases found with
  | true => cases hwriting
  | false =>
      obtain ⟨⟨⟩, written, hwrite, hpure⟩ := run_bind_eq_ok.mp hwriting
      obtain ⟨rfl, rfl⟩ := run_pure_eq_ok.mp hpure
      exact ⟨rfl, drafts_of_writeStory hwrite⟩

/-- An edit leaves the file of a story with what it makes of the story. It fails only if a name in
it is blank or if the choice that it gates is not there, and changes nothing then. -/
theorem Drafts.perform (hdrafts : library.Drafts story top) (edit : StoryEdit) :
    library.Drafts (story.called edit) ((edit.perform library story.id).run top).2 := by
  cases hrun : (edit.perform library story.id).run top with
  | mk result after =>
      cases result with
      | ok answer =>
          obtain ⟨hnamed, before, changed, -, hbefore, hmakes, hwrite⟩ :=
            StoryEdit.perform_eq_ok.mp hrun
          obtain rfl := hdrafts.has.unique hbefore
          have hcalled : before.called edit = changed := by
            rw [Story.called, if_pos hnamed, Story.edited, StoryEdit.makes_iff.mp hmakes]
          rw [hcalled]
          exact drafts_of_writeStory hwrite
      | error error =>
          -- what can be made could be written as well, so that a refused edit makes nothing
          have hcalled : story.called edit = story := by
            rw [Story.called]
            split
            · rename_i hnamed
              rw [Story.edited]
              split
              · rename_i changed answer hchanged
                have hmakes := StoryEdit.makes_iff.mpr hchanged
                obtain ⟨written, hdone, -⟩ := hdrafts.exists_perform edit hnamed hmakes
                cases hrun.symm.trans hdone
              · rfl
            · rfl
          rw [hcalled]
          have hsame := keepsOnError_sameFiles top (.edit story.id edit) top error after (.refl top)
            hrun
          exact ⟨hdrafts.key, (hsame _ _).mpr hdrafts.written⟩

theorem Drafts.afterCalls (hdrafts : library.Drafts story top) (hid : story.id = id)
    (edits : List StoryEdit) :
    library.Drafts (edits.foldl Story.called story)
        (library.afterCalls top (edits.map (.edit id))) ∧
      (edits.foldl Story.called story).id = id := by
  induction edits generalizing story top with
  | nil => exact ⟨hdrafts, hid⟩
  | cons edit edits ih =>
      have hnext := hdrafts.perform edit
      rw [hid] at hnext
      exact ih hnext ((story.id_called edit).trans hid)

theorem same_draft_of_isReordering
    (hrun : (library.createStory id title).run top = (.ok story, created))
    (hreordering : StoryEdit.IsReordering edits others) :
    ∃ draft : Story,
      (library.afterCalls created (edits.map (.edit id))).contents
          (Path.names (library.storyPath .unlisted id)) = .ok (.text (draft.write ++ "\n")) ∧
        (library.afterCalls created (others.map (.edit id))).contents
          (Path.names (library.storyPath .unlisted id)) = .ok (.text (draft.write ++ "\n")) := by
  obtain ⟨hid, hdrafts⟩ := drafts_of_createStory hrun
  obtain ⟨hedits, heditsId⟩ := hdrafts.afterCalls hid edits
  obtain ⟨hothers, hothersId⟩ := hdrafts.afterCalls hid others
  have hsame : edits.foldl Story.called story = others.foldl Story.called story := by
    rw [Story.foldl_called, Story.foldl_called]
    exact (hreordering.filter _).foldl_edited story
  have hthere := hedits.written
  have hthere' := hothers.written
  rw [heditsId] at hthere
  rw [hothersId, ← hsame] at hthere'
  exact ⟨_, hthere, hthere'⟩

end Library

deriving instance DecidableEq for StoryEdit

/-- Edits of a hall, one of them with a blank name. -/
def furnishing : List StoryEdit :=
  [.setSceneText "hall" "A hall.", .addScene "", .addChoice "hall" "Wait" "hall",
    .addInitialItem "Lamp", .addScene "hall", .setSceneText "hall" "A dark hall."]

/-- The same edits, where the hall is made before its text is set, and its choice after that. -/
def refurnishing : List StoryEdit :=
  [.addScene "hall", .addInitialItem "Lamp", .setSceneText "hall" "A hall.",
    .setSceneText "hall" "A dark hall.", .addScene "", .addChoice "hall" "Wait" "hall"]

theorem isReordering_furnishing : StoryEdit.IsReordering furnishing refurnishing := by
  refine ⟨by decide, ?_⟩
  intro part
  simp only [furnishing, refurnishing, StoryEdit.part?, List.filter_cons, List.filter_nil]
  cases part <;> simp

theorem same_draft_of_furnishing :
    ∃ story created draft,
      (Library.here.createStory "cave" "The Cave").run (.folder []) = (.ok story, created) ∧
        StoryEdit.IsReordering furnishing refurnishing ∧
        (Library.here.afterCalls created (furnishing.map (.edit "cave"))).contents
          (Path.names (Library.here.storyPath .unlisted "cave")) =
            .ok (.text (Story.write draft ++ "\n")) ∧
        (Library.here.afterCalls created (refurnishing.map (.edit "cave"))).contents
          (Path.names (Library.here.storyPath .unlisted "cave")) =
            .ok (.text (Story.write draft ++ "\n")) := by
  have hrun : ∃ created, (Library.here.createStory "cave" "The Cave").run (.folder []) =
      (.ok (Story.fresh "cave" "The Cave" Story.emptyStartText), created) :=
    ⟨_, run_eq_of_fst rfl⟩
  obtain ⟨created, hrun⟩ := hrun
  obtain ⟨draft, hsame⟩ := Library.same_draft_of_isReordering hrun isReordering_furnishing
  exact ⟨_, created, draft, hrun, isReordering_furnishing, hsame⟩

end Gamebook
