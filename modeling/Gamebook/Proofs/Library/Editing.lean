import Gamebook.Library.Authoring
import Gamebook.Proofs.Library.Stores
import Gamebook.Proofs.Story.Edits

namespace Gamebook

theorem checkName_eq_ok {kind : NameKind} {name : String} {top after : Entry} :
    (checkName kind name).run top = (.ok (), after) ↔ Text.isBlank name = false ∧ after = top := by
  rw [checkName]
  split
  · rename_i hblank
    simp [hblank]
  · rename_i hblank
    simp [FileAction.run, hblank, eq_comm]

namespace Library

variable {library : Library} {id : String} {top after : Entry}

theorem edit_eq_ok {α : Type} {change : Story → Except LibraryError (Story × α)} {answer : α} :
    (library.edit id change).run top = (.ok answer, after) ↔
      ∃ before changed, isKey id = true ∧ library.Has id .unlisted before top ∧
        change before = .ok (changed, answer) ∧
        (library.writeStory changed .unlisted).run top = (.ok (), after) := by
  rw [edit, FileAction.run_bind_eq_ok]
  constructor
  · rintro ⟨before, middle, hread, hrest⟩
    obtain ⟨hid, hhas, rfl⟩ := readStory_eq_ok.mp hread
    obtain ⟨⟨changed, given⟩, middle', hmade, hrest⟩ := FileAction.run_bind_eq_ok.mp hrest
    rw [FileAction.run_ofExcept] at hmade
    obtain ⟨hchange, rfl⟩ := Prod.mk.inj hmade
    obtain ⟨⟨⟩, written, hwrite, hpure⟩ := FileAction.run_bind_eq_ok.mp hrest
    obtain ⟨rfl, rfl⟩ := FileAction.run_pure_eq_ok.mp hpure
    exact ⟨before, changed, hid, hhas, hchange, hwrite⟩
  · rintro ⟨before, changed, hid, hhas, hchange, hwrite⟩
    refine ⟨before, top, readStory_eq_ok.mpr ⟨hid, hhas, rfl⟩, ?_⟩
    rw [hchange]
    exact FileAction.run_bind_of_ok hwrite _

end Library

namespace StoryEdit

/-- An edit as an author makes it to a story of a library. -/
def perform (library : Library) (id : String) :
    (edit : StoryEdit) → FileAction LibraryError edit.Answer
  | .addScene scene => library.addScene id scene
  | .setSceneText scene text => library.setSceneText id scene text
  | .addChoice scene text next => library.addChoice id scene text next
  | .setRequirement scene index requirement => library.setRequirement id scene index requirement
  | .setInitialStat stat value => library.setInitialStat id stat value
  | .addInitialItem item => library.addInitialItem id item

/-- Whether none of the names that are checked before an edit is blank. -/
def IsNamed : StoryEdit → Prop
  | .addScene scene => Text.isBlank scene = false
  | .setSceneText scene _ => Text.isBlank scene = false
  | .addChoice scene _ next => Text.isBlank scene = false ∧ Text.isBlank next = false
  | .setRequirement _ _ _ => True
  | .setInitialStat stat _ => Text.isBlank stat = false
  | .addInitialItem item => Text.isBlank item = false

variable {library : Library} {id : String} {edit : StoryEdit} {answer : edit.Answer}
  {top after : Entry}

theorem run_checked {α : Type} {kind : NameKind} {name : String} {action : FileAction LibraryError α}
    {value : α} :
    (do checkName kind name; action : FileAction LibraryError α).run top = (.ok value, after) ↔
      Text.isBlank name = false ∧ action.run top = (.ok value, after) := by
  rw [FileAction.run_bind_eq_ok]
  constructor
  · rintro ⟨⟨⟩, middle, hcheck, hrun⟩
    obtain ⟨hname, rfl⟩ := checkName_eq_ok.mp hcheck
    exact ⟨hname, hrun⟩
  · rintro ⟨hname, hrun⟩
    exact ⟨(), top, checkName_eq_ok.mpr ⟨hname, rfl⟩, hrun⟩

theorem perform_eq_ok :
    (edit.perform library id).run top = (.ok answer, after) ↔
      edit.IsNamed ∧ ∃ before changed, isKey id = true ∧ library.Has id .unlisted before top ∧
        edit.Makes before changed answer ∧
        (library.writeStory changed .unlisted).run top = (.ok (), after) := by
  simp only [makes_iff]
  cases edit with
  | addScene scene =>
      rw [perform, Library.addScene, run_checked, Library.edit_eq_ok]
      simp only [on, IsNamed, Except.ok.injEq]
  | setSceneText scene text =>
      rw [perform, Library.setSceneText, run_checked, Library.edit_eq_ok]
      simp only [on, IsNamed, Except.ok.injEq]
  | addChoice scene text next =>
      rw [perform, Library.addChoice, run_checked, run_checked, Library.edit_eq_ok]
      simp only [on, IsNamed, Except.ok.injEq, and_assoc]
  | setRequirement scene index requirement =>
      rw [perform, Library.setRequirement, Library.edit_eq_ok]
      simp only [IsNamed, true_and]
      apply exists_congr
      intro before
      apply exists_congr
      intro changed
      rw [on]
      cases before.setRequirement scene index requirement with
      | ok made => simp [Except.map]
      | error fault => cases fault <;> simp [Except.map]
  | setInitialStat stat value =>
      rw [perform, Library.setInitialStat, run_checked, Library.edit_eq_ok]
      simp only [on, IsNamed, Except.ok.injEq]
  | addInitialItem item =>
      rw [perform, Library.addInitialItem, run_checked, Library.edit_eq_ok]
      simp only [on, IsNamed, Except.ok.injEq]

end StoryEdit

/-- Whether an edit has changed the story of its id and nothing else: this story is read as the edit
makes it, every other file holds what it held, and so every other story is the same. -/
structure EditsAlone (library : Library) (id : String) (edit : StoryEdit) (answer : edit.Answer)
    (top after : Entry) : Prop where
  edited : ∃ before changed,
    (library.readStory id .unlisted).run top = (.ok before, top) ∧
      edit.Makes before changed answer ∧
      (library.readStory id .unlisted).run after = (.ok changed, after)
  files : ∀ path content, Path.names (library.storyPath .unlisted id) ≠ path →
    (after.contents path = .ok content ↔ top.contents path = .ok content)
  stories : ∀ other scope story, ¬(other = id ∧ scope = .unlisted) →
    ((library.readStory other scope).run after = (.ok story, after) ↔
      (library.readStory other scope).run top = (.ok story, top))

section

variable {library : Library} {id : String} {edit : StoryEdit} {answer : edit.Answer}
  {before changed : Story} {top after : Entry}

theorem editsAlone_of_files (hid : isKey id = true)
    (hbefore : library.Has id .unlisted before top) (hmakes : edit.Makes before changed answer)
    (hchanged : library.Has id .unlisted changed after)
    (hfiles : ∀ path content, Path.names (library.storyPath .unlisted id) ≠ path →
      (after.contents path = .ok content ↔ top.contents path = .ok content)) :
    EditsAlone library id edit answer top after := by
  refine ⟨⟨before, changed, ?_, hmakes, ?_⟩, hfiles, ?_⟩
  · exact Library.readStory_eq_ok.mpr ⟨hid, hbefore, rfl⟩
  · exact Library.readStory_eq_ok.mpr ⟨hid, hchanged, rfl⟩
  · intro other scope story hother
    rw [Library.readStory_eq_ok, Library.readStory_eq_ok]
    apply and_congr_right
    intro hkey
    simp only [Library.Has, and_true, hfiles _ _ (Library.storyPath_ne_storyPath hid hkey hother)]

theorem editsAlone_of_same_id (hid : isKey id = true)
    (hbefore : library.Has id .unlisted before top) (hmakes : edit.Makes before changed answer)
    (hwrite : (library.writeStory changed .unlisted).run top = (.ok (), after))
    (hsame : before.id = id) : EditsAlone library id edit answer top after := by
  obtain ⟨-, hwritten⟩ := Library.writeStory_eq_ok hwrite
  rw [hmakes.id_eq, hsame] at hwritten
  refine editsAlone_of_files hid hbefore hmakes ?_ ?_
  · exact ⟨_, hwritten.written, Story.read_write_line changed⟩
  · intro path content hpath
    exact hwritten.kept path content hpath

theorem has_of_other_id (hid : isKey id = true) (hbefore : library.Has id .unlisted before top)
    (hmakes : edit.Makes before changed answer)
    (hwrite : (library.writeStory changed .unlisted).run top = (.ok (), after))
    (hother : before.id ≠ id) : library.Has id .unlisted before after := by
  obtain ⟨hkey, hwritten⟩ := Library.writeStory_eq_ok hwrite
  obtain ⟨text, hcontents, hread⟩ := hbefore
  refine ⟨text, (hwritten.kept _ _ ?_).mpr hcontents, hread⟩
  apply Library.storyPath_ne_storyPath hkey hid
  rw [hmakes.id_eq]
  exact fun hsame => hother hsame.1.symm

theorem editsAlone_iff (hid : isKey id = true) (hbefore : library.Has id .unlisted before top)
    (hmakes : edit.Makes before changed answer)
    (hwrite : (library.writeStory changed .unlisted).run top = (.ok (), after)) :
    EditsAlone library id edit answer top after ↔
      before.id = id ∨ changed = before ∧
        top.contents (Path.names (library.storyPath .unlisted before.id)) =
          .ok (.text (before.write ++ "\n")) := by
  obtain ⟨hkey, hwritten⟩ := Library.writeStory_eq_ok hwrite
  rw [hmakes.id_eq] at hkey hwritten
  constructor
  · intro halone
    by_cases hsame : before.id = id
    · exact Or.inl hsame
    · right
      obtain ⟨held, made, hheld, hmade, hread⟩ := halone.edited
      obtain ⟨-, hheld, -⟩ := Library.readStory_eq_ok.mp hheld
      obtain rfl := hbefore.unique hheld
      obtain ⟨rfl, -⟩ := hmakes.unique hmade
      obtain ⟨-, hread, -⟩ := Library.readStory_eq_ok.mp hread
      obtain rfl := (has_of_other_id hid hbefore hmakes hwrite hsame).unique hread
      refine ⟨rfl, (halone.files _ _ ?_).mp hwritten.written⟩
      exact Library.storyPath_ne_storyPath hid hkey fun hboth => hsame hboth.1
  · rintro (hsame | ⟨rfl, hthere⟩)
    · exact editsAlone_of_same_id hid hbefore hmakes hwrite hsame
    · by_cases hsame : changed.id = id
      · exact editsAlone_of_same_id hid hbefore hmakes hwrite hsame
      · refine editsAlone_of_files hid hbefore hmakes
          (has_of_other_id hid hbefore hmakes hwrite hsame) ?_
        intro path content _
        by_cases hpath : Path.names (library.storyPath .unlisted changed.id) = path
        · rw [← hpath, hwritten.written, hthere]
        · exact hwritten.kept path content hpath

/-- An edit changes its own story alone exactly if this story has the id of its folder, or if there
is nothing to change. -/
theorem performs_alone_iff (hrun : (edit.perform library id).run top = (.ok answer, after)) :
    ∃ before changed,
      (library.readStory id .unlisted).run top = (.ok before, top) ∧
      edit.Makes before changed answer ∧
      (EditsAlone library id edit answer top after ↔
        before.id = id ∨ changed = before ∧
          top.contents (Path.names (library.storyPath .unlisted before.id)) =
            .ok (.text (before.write ++ "\n"))) := by
  obtain ⟨-, before, changed, hid, hbefore, hmakes, hwrite⟩ := StoryEdit.perform_eq_ok.mp hrun
  refine ⟨before, changed, ?_, hmakes, editsAlone_iff hid hbefore hmakes hwrite⟩
  exact Library.readStory_eq_ok.mpr ⟨hid, hbefore, rfl⟩

theorem Library.WellNamed.editsAlone (hnamed : library.WellNamed top)
    (hrun : (edit.perform library id).run top = (.ok answer, after)) :
    EditsAlone library id edit answer top after ∧ library.WellNamed after := by
  obtain ⟨-, before, changed, hid, hbefore, hmakes, hwrite⟩ := StoryEdit.perform_eq_ok.mp hrun
  have hsame := hnamed id .unlisted before hid hbefore
  exact ⟨editsAlone_of_same_id hid hbefore hmakes hwrite hsame, hnamed.of_writeStory hwrite⟩

end

/-- A story with a single scene. -/
def Story.vault : Story :=
  fresh "vault" "The Vault" "Gold."

/-- A library that has one story in two folders. -/
def twoVaults : Entry :=
  let held := .folder [("config.json", .file (.text (Story.vault.write ++ "\n")))]
  .folder [("stories", .folder [("private", .folder [("cave", held), ("vault", held)])])]

/-- An edit that puts out the lights in a story. -/
def darken : StoryEdit :=
  .setSceneText Story.defaultStart "Dark."

theorem exists_darken {id : String} (hid : isKey id = true)
    (hhas : Library.here.Has id .unlisted Story.vault twoVaults) :
    ∃ after, (darken.perform Library.here id).run twoVaults = (.ok (), after) ∧
      (Library.here.writeStory (Story.vault.setSceneText Story.defaultStart "Dark.")
        .unlisted).run twoVaults = (.ok (), after) := by
  have hthere : twoVaults.contents (Path.names (Library.here.storyPath .unlisted "vault")) =
      .ok (.text (Story.vault.write ++ "\n")) := by
    rw [Library.names_storyPath _ _ (by decide)]
    rfl
  obtain ⟨after, hafter⟩ := Library.exists_writeText
    (⟨by decide, by decide, by decide, by decide⟩ : Path.IsPlain "config.json") hthere
    ((Story.vault.setSceneText Story.defaultStart "Dark.").write ++ "\n")
  have hwrite : (Library.here.writeStory (Story.vault.setSceneText Story.defaultStart "Dark.")
      .unlisted).run twoVaults = (.ok (), after) :=
    (FileAction.run_bind_of_ok (checkKey_eq_ok.mpr ⟨by decide, rfl⟩) _).trans hafter
  refine ⟨after, StoryEdit.perform_eq_ok.mpr ⟨?_, Story.vault, _, hid, hhas, ?_, hwrite⟩, hwrite⟩
  · show Text.isBlank Story.defaultStart = false
    decide
  · exact StoryEdit.makes_setSceneText.mpr rfl

theorem has_twoVaults {id : String} (hid : id = "cave" ∨ id = "vault") :
    isKey id = true ∧ Library.here.Has id .unlisted Story.vault twoVaults := by
  rcases hid with rfl | rfl
  · refine ⟨by decide, _, ?_, Story.read_write_line Story.vault⟩
    rw [Library.names_storyPath _ _ (by decide)]
    rfl
  · refine ⟨by decide, _, ?_, Story.read_write_line Story.vault⟩
    rw [Library.names_storyPath _ _ (by decide)]
    rfl

/-- The edit of a story that stands in the folder of another id goes to this other id. -/
theorem exists_edit_elsewhere :
    ∃ after, (darken.perform Library.here "cave").run twoVaults = (.ok (), after) ∧
      (Library.here.readStory "cave" .unlisted).run after = (.ok Story.vault, after) ∧
      (∃ darkened, (Library.here.readStory "vault" .unlisted).run after = (.ok darkened, after) ∧
        darkened ≠ Story.vault) ∧
      ¬EditsAlone Library.here "cave" darken () twoVaults after := by
  obtain ⟨hkey, hhas⟩ := has_twoVaults (Or.inl rfl)
  obtain ⟨after, hrun, hwrite⟩ := exists_darken hkey hhas
  have hmakes : darken.Makes Story.vault
      (Story.vault.setSceneText Story.defaultStart "Dark.") () :=
    StoryEdit.makes_setSceneText.mpr rfl
  have hdarkened : Story.vault.setSceneText Story.defaultStart "Dark." ≠ Story.vault := by decide
  obtain ⟨hvault, hwritten⟩ := Library.writeStory_eq_ok hwrite
  refine ⟨after, hrun, ?_, ⟨_, ?_, hdarkened⟩, ?_⟩
  · have hstill := has_of_other_id hkey hhas hmakes hwrite (by decide)
    exact Library.readStory_eq_ok.mpr ⟨hkey, hstill, rfl⟩
  · refine Library.readStory_eq_ok.mpr ⟨hvault, ⟨_, hwritten.written, ?_⟩, rfl⟩
    exact Story.read_write_line _
  · rw [editsAlone_iff hkey hhas hmakes hwrite]
    rintro (hsame | ⟨hsame, -⟩)
    · exact absurd hsame (by decide)
    · exact hdarkened hsame

theorem performs_alone_vault :
    ∃ after, (darken.perform Library.here "vault").run twoVaults = (.ok (), after) ∧
      EditsAlone Library.here "vault" darken () twoVaults after := by
  obtain ⟨hkey, hhas⟩ := has_twoVaults (Or.inr rfl)
  obtain ⟨after, hrun, -⟩ := exists_darken hkey hhas
  obtain ⟨before, changed, hread, -, halone⟩ := performs_alone_iff hrun
  obtain ⟨-, hbefore, -⟩ := Library.readStory_eq_ok.mp hread
  obtain rfl := hhas.unique hbefore
  exact ⟨after, hrun, halone.mpr (Or.inl rfl)⟩

end Gamebook
