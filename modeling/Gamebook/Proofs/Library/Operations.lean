import Gamebook.Library.ItemBank
import Gamebook.Library.Progress
import Gamebook.Proofs.Library.Calls
import Gamebook.Proofs.Library.Places
import Gamebook.Proofs.Library.Sharing

namespace Gamebook

open FileAction

/-- What the stores of a library can be asked for, sessions apart. -/
inductive Operation where
  | hasStory (id : String) (scope : Visibility)
  | readStory (id : String) (scope : Visibility)
  | loadStory (id : String) (scope : Visibility)
  | loadByCode (code : String)
  | listedStories
  | codes
  | writeStory (story : Story) (scope : Visibility)
  | saveCodes (codes : Dict CodeEntry)
  | author (call : AuthorCall)
  | loadSave (player id : String)
  | loadProgress (player id : String)
  | saveProgress (player id : String) (state : PlayerState) (now : Instant)
  | items
  | addItem (name : String)

namespace Operation

abbrev Answer : Operation → Type
  | .hasStory _ _ => Bool
  | .readStory _ _ => Story
  | .loadStory _ _ => Story
  | .loadByCode _ => String × Story
  | .listedStories => List String
  | .codes => Dict CodeEntry
  | .writeStory _ _ => Unit
  | .saveCodes _ => Unit
  | .author call => call.Answer
  | .loadSave _ _ => Option Save
  | .loadProgress _ _ => Option PlayerState
  | .saveProgress _ _ _ _ => Unit
  | .items => List String
  | .addItem _ => List String

def perform (library : Library) :
    (operation : Operation) → FileAction LibraryError operation.Answer
  | .hasStory id scope => library.hasStory id scope
  | .readStory id scope => library.readStory id scope
  | .loadStory id scope => library.loadStory id scope
  | .loadByCode code => library.loadByCode code
  | .listedStories => library.listedStories
  | .codes => library.codes
  | .writeStory story scope => library.writeStory story scope
  | .saveCodes table => library.saveCodes table
  | .author call => call.perform library
  | .loadSave player id => library.loadSave player id
  | .loadProgress player id => library.loadProgress player id
  | .saveProgress player id state now => library.saveProgress player id state now
  | .items => library.items
  | .addItem name => library.addItem name

/-- The ids that an operation is given. -/
def ids : Operation → List String
  | .hasStory id _ => [id]
  | .readStory id _ => [id]
  | .loadStory id _ => [id]
  | .loadByCode _ => []
  | .listedStories => []
  | .codes => []
  | .writeStory story _ => [story.id]
  | .saveCodes _ => []
  | .author (.createStory id _) => [id]
  | .author (.edit id _) => [id]
  | .author (.publish id _ _) => [id]
  | .author (.check id) => [id]
  | .loadSave player id => [player, id]
  | .loadProgress player id => [player, id]
  | .saveProgress player id _ _ => [player, id]
  | .items => []
  | .addItem _ => []

end Operation

/-- What a store of sessions can be called for. -/
inductive SessionCall where
  | get (player : String)
  | put (player : String) (session : Session)
  | remove (player : String)

/-- Performs a call. The answer is the session that was asked for or ended, and the store
afterwards. -/
def SessionCall.perform (store : SessionStore) :
    SessionCall → FileAction LibraryError (Option Session × SessionStore)
  | .get player => do return (← store.get player, store)
  | .put player session => do return (none, ← store.put player session)
  | .remove player => store.remove player

namespace Library

variable {library : Library}

theorem looks_items (library : Library) : library.items.Looks :=
  (looks_readRecord _ _).bind fun _ => .done _

theorem preserves_operation {P : Entry → Prop}
    (hstory : ∀ story scope, (library.writeStory story scope).Preserves P)
    (hcodes : ∀ codes, (library.saveCodes codes).Preserves P)
    (hsave : ∀ player id state now, (library.saveProgress player id state now).Preserves P)
    (hitem : ∀ name, (library.addItem name).Preserves P) (operation : Operation) :
    (operation.perform library).Preserves P := by
  cases operation with
  | hasStory id scope => exact (library.looks_hasStory id scope).preserves
  | readStory id scope => exact (library.looks_readStory id scope).preserves
  | loadStory id scope => exact (library.looks_loadStory id scope).preserves
  | loadByCode code => exact (library.looks_loadByCode code).preserves
  | listedStories => exact library.looks_listedStories.preserves
  | codes => exact library.looks_codes.preserves
  | writeStory story scope => exact hstory story scope
  | saveCodes table => exact hcodes table
  | author call => exact preserves_perform hstory hcodes call
  | loadSave player id => exact (library.looks_loadSave player id).preserves
  | loadProgress player id => exact (library.looks_loadProgress player id).preserves
  | saveProgress player id state now => exact hsave player id state now
  | items => exact library.looks_items.preserves
  | addItem name => exact hitem name

theorem actsAt_writeStory (library : Library) (story : Story) (scope : Visibility) :
    (library.writeStory story scope).ActsAt (Path.names library.root) "stories" := by
  refine .checked fun hid => ?_
  have hfolder : Path.names (Path.parent (library.storyPath scope story.id)) =
      Path.names library.root ++ "stories" :: [scope.name, story.id] := by
    rw [storyPath, Path.names_parent_join isPlain_config, names_storyFolder library scope hid]
  exact actsAt_writeText hfolder (names_storyPath library scope hid)

theorem actsAt_saveCodes (library : Library) (codes : Dict CodeEntry) :
    (library.saveCodes codes).ActsAt (Path.names library.root) "codes.json" :=
  actsAt_writeText_here ⟨by decide, by decide, by decide, by decide⟩

theorem names_itemsPath (library : Library) :
    Path.names library.itemsPath = Path.names library.root ++ "items" :: ["items.json"] :=
  @Place.names_path .items library rfl

theorem actsAt_addItem (library : Library) (name : String) :
    (library.addItem name).ActsAt (Path.names library.root) "items" := by
  have hfolder : Path.names (Path.parent library.itemsPath) =
      Path.names library.root ++ "items" :: [] := by
    rw [itemsPath, Path.names_parent_join ⟨by decide, by decide, by decide, by decide⟩]
    exact Path.names_join ⟨by decide, by decide, by decide, by decide⟩
  have hitems : library.items.ActsAt (Path.names library.root) "items" :=
    (actsAt_readRecord library.names_itemsPath).bind fun _ => .done _
  rw [addItem, checkName]
  split
  · exact .fail _
  · refine hitems.bind fun items => ?_
    exact (actsAt_writeText hfolder library.names_itemsPath).bind fun _ => .done _

end Library

end Gamebook
