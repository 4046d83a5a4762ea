import Gamebook.Proofs.Library.Writing

namespace Gamebook

open FileAction

/-- What authors have made: the stories by visibility and id, and the share codes. -/
structure Shelf where
  stories : Visibility → String → Option Story
  codes : Dict CodeEntry

namespace Shelf

def empty : Shelf := ⟨fun _ _ => none, ∅⟩

/-- Puts a story in the place of its id. -/
def put (shelf : Shelf) (scope : Visibility) (story : Story) : Shelf :=
  { shelf with
    stories := fun other id =>
      if other = scope ∧ id = story.id then some story else shelf.stories other id }

/-- Registers a share code for the id of a story. -/
def register (shelf : Shelf) (code id : String) : Shelf :=
  { shelf with codes := shelf.codes.insert code ⟨id⟩ }

@[simp] theorem stories_put_self (shelf : Shelf) (scope : Visibility) (story : Story) :
    (shelf.put scope story).stories scope story.id = some story :=
  if_pos ⟨rfl, rfl⟩

theorem stories_put_of_ne {shelf : Shelf} {scope other : Visibility} {story : Story} {id : String}
    (hplace : ¬(other = scope ∧ id = story.id)) :
    (shelf.put scope story).stories other id = shelf.stories other id :=
  if_neg hplace

end Shelf

theorem isBlank_of_isKey {name : String} (hkey : isKey name = true) :
    Text.isBlank name = false := by
  simp only [isKey, Bool.and_eq_true, Bool.not_eq_true'] at hkey
  exact hkey.1.1.1

theorem Visibility.name_injective : Function.Injective name := by
  intro scope other hsame
  cases scope <;> cases other <;> first | rfl | exact absurd hsame (by decide)

theorem CodeEntry.keeps_all (codes : Dict CodeEntry) : (Json.Codec.dict codec).Keeps codes := by
  refine Json.Codec.keeps_dict fun entry _ => Json.Codec.keeps_record (by decide) ⟨?_, trivial⟩ rfl
  exact Json.Field.keeps_required _ (Json.Codec.keeps_text entry.2.storyId)

namespace Library

/-- The names that lead to the file of a story, whatever its id is. -/
def storyFile (library : Library) (scope : Visibility) (id : String) : List String :=
  Path.names library.root ++ ["stories", scope.name, id, "config.json"]

/-- Whether the files of a library hold what is on a shelf, and no other stories. The names in the
folder of the listed stories are ids in increasing order. -/
structure Keeps (library : Library) (shelf : Shelf) (top : Entry) : Prop where
  lists : ∃ folder, top.walk (Path.names library.root) = .ok folder ∧
    folder.Lists (isKey · = true) ["stories", Visibility.listed.name]
  stories : ∀ scope id content,
    top.contents (library.storyFile scope id) = .ok content ↔
      ∃ story, shelf.stories scope id = some story ∧ content = .text (story.write ++ "\n")
  codes : library.codes.run top = (.ok shelf.codes, top)
  keys : ∀ scope id story, shelf.stories scope id = some story → isKey id = true

/-- Whether the folder of a library is there, and there is nothing in it. -/
def IsEmpty (library : Library) (top : Entry) : Prop :=
  top.walk (Path.names library.root) = .ok (.folder [])

variable {library : Library} {shelf : Shelf} {id : String} {scope : Visibility} {story : Story}
  {top after : Entry}

theorem names_storyFile (library : Library) (scope : Visibility) (hid : isKey id = true) :
    Path.names (library.storyPath scope id) = library.storyFile scope id :=
  names_storyPath library scope hid

theorem IsEmpty.keeps (hempty : library.IsEmpty top) : library.Keeps .empty top := by
  refine ⟨⟨_, hempty, Entry.lists_empty ..⟩, ?_, ?_, ?_⟩
  · intro scope id content
    rw [storyFile, Entry.contents_append hempty]
    constructor
    · intro hcontents
      exact absurd hcontents Entry.contents_emptyFolder
    · rintro ⟨story, hstory, -⟩
      cases hstory
  · have hmissing : top.readText (Path.names library.codesPath) = .error .missing := by
      rw [names_codesPath, Entry.readText_eq_missing, Entry.walk_append hempty]
      rfl
    have htext : (readText library.codesPath).run top = (.ok none, top) := by
      rw [readText, FileAction.run, hmissing]
      rfl
    exact run_bind_eq_ok.mpr ⟨none, top, run_bind_eq_ok.mpr ⟨none, top, htext, rfl⟩, rfl⟩
  · rintro scope id story hstory
    cases hstory

theorem Keeps.has_iff (hkeeps : library.Keeps shelf top) (hid : isKey id = true) :
    library.Has id scope story top ↔ shelf.stories scope id = some story := by
  rw [Has, names_storyFile library scope hid]
  constructor
  · rintro ⟨text, hcontents, hread⟩
    obtain ⟨held, hheld, htext⟩ := (hkeeps.stories scope id _).mp hcontents
    cases htext
    cases (Story.read_write_line held).symm.trans hread
    exact hheld
  · intro hstory
    exact ⟨_, (hkeeps.stories scope id _).mpr ⟨story, hstory, rfl⟩, Story.read_write_line story⟩

theorem Keeps.readStory_eq_ok (hkeeps : library.Keeps shelf top) :
    (library.readStory id scope).run top = (.ok story, after) ↔
      shelf.stories scope id = some story ∧ after = top := by
  rw [Library.readStory_eq_ok]
  constructor
  · rintro ⟨hid, hhas, hsame⟩
    exact ⟨(hkeeps.has_iff hid).mp hhas, hsame⟩
  · rintro ⟨hstory, hsame⟩
    have hid := hkeeps.keys scope id story hstory
    exact ⟨hid, (hkeeps.has_iff hid).mpr hstory, hsame⟩

theorem Keeps.codes_unique {other : Shelf} (hkeeps : library.Keeps shelf top)
    (hother : library.Keeps other top) : shelf.codes = other.codes :=
  Except.ok.inj (congrArg Prod.fst (hkeeps.codes.symm.trans hother.codes))

theorem Keeps.isFile_storyFile (hkeeps : library.Keeps shelf top) (scope : Visibility)
    (id : String) : top.isFile (library.storyFile scope id) = (shelf.stories scope id).isSome := by
  have hstories := hkeeps.stories scope id
  rw [Entry.isFile]
  cases hstory : shelf.stories scope id with
  | some story =>
      rw [(hstories _).mpr ⟨story, hstory, rfl⟩]
      rfl
  | none =>
      split
      · rename_i content hcontents
        obtain ⟨story, hheld, -⟩ := (hstories content).mp hcontents
        cases hstory.symm.trans hheld
      · rfl

theorem Keeps.run_hasStory (hkeeps : library.Keeps shelf top) (hid : isKey id = true) :
    (library.hasStory id scope).run top = (.ok (shelf.stories scope id).isSome, top) := by
  rw [hasStory, if_pos hid, FileAction.run, names_storyFile library scope hid,
    hkeeps.isFile_storyFile]
  rfl

theorem Keeps.exists_folder (hkeeps : library.Keeps shelf top) :
    ∃ entries, top.walk (Path.names library.root) = .ok (.folder entries) := by
  obtain ⟨folder, hfolder, hlists⟩ := hkeeps.lists
  cases folder with
  | file content => cases hlists
  | folder entries => exact ⟨entries, hfolder⟩

theorem names_storiesFolder (library : Library) (scope : Visibility) :
    Path.names (library.storiesFolder scope) =
      Path.names library.root ++ ["stories", scope.name] := by
  rw [storiesFolder, Path.names_join (isPlain_name scope),
    Path.names_join ⟨by decide, by decide, by decide, by decide⟩, List.append_assoc]
  rfl

theorem names_storyFolder (library : Library) (scope : Visibility) (hid : isKey id = true) :
    Path.names (Path.join (library.storiesFolder scope) id) =
      Path.names library.root ++ ["stories", scope.name, id] := by
  rw [Path.names_join (isPlain_of_isKey hid), names_storiesFolder, List.append_assoc]
  rfl

theorem isPlain_config : Path.IsPlain "config.json" :=
  ⟨by decide, by decide, by decide, by decide⟩

theorem codes_of_writeStory {entries : List (String × Entry)} {codes : Dict CodeEntry}
    {result : Except LibraryError Unit}
    (hfolder : top.walk (Path.names library.root) = .ok (.folder entries))
    (hcodes : library.codes.run top = (.ok codes, top))
    (hrun : (library.writeStory story scope).run top = (result, after)) :
    (∃ entries, after.walk (Path.names library.root) = .ok (.folder entries)) ∧
      library.codes.run after = (.ok codes, after) := by
  by_cases hkey : isKey story.id = true
  · rw [writeStory, run_bind_of_ok (checkKey_eq_ok.mpr ⟨hkey, rfl⟩)] at hrun
    obtain ⟨hthere, htext⟩ := readText_beside isPlain_config
      (names_storyFolder library scope hkey) (by decide : "stories" ≠ "codes.json") hfolder hrun
    rw [← names_codesPath] at htext
    exact ⟨hthere, readTable_of_readText htext hcodes⟩
  · rw [writeStory, checkKey, if_neg hkey] at hrun
    cases hrun
    exact ⟨⟨entries, hfolder⟩, hcodes⟩

theorem exists_saveCodes {entries : List (String × Entry)} {codes : Dict CodeEntry}
    (hfolder : top.walk (Path.names library.root) = .ok (.folder entries))
    (hcodes : library.codes.run top = (.ok codes, top)) (next : Dict CodeEntry) :
    ∃ after, (library.saveCodes next).run top = (.ok (), after) :=
  exists_writeRecord_of_readTable ⟨by decide, by decide, by decide, by decide⟩ hfolder hcodes next

theorem Keeps.lists_of_writeStory (hkeeps : library.Keeps shelf top)
    {result : Except LibraryError Unit}
    (hrun : (library.writeStory story scope).run top = (result, after)) :
    ∃ folder, after.walk (Path.names library.root) = .ok folder ∧
      folder.Lists (isKey · = true) ["stories", Visibility.listed.name] := by
  by_cases hkey : isKey story.id = true
  · rw [writeStory, run_bind_of_ok (checkKey_eq_ok.mpr ⟨hkey, rfl⟩)] at hrun
    refine of_writeText_below isPlain_config (names_storyFolder library scope hkey) ?_ ?_
      hkeeps.lists hrun
    · intro folder hlists
      refine hlists.makeFolders ?_
      intro name rest hpath
      obtain rfl : story.id = name := by simp_all
      exact hkey
    · intro folder written hlists hwritten
      refine hlists.writeFile ?_ ?_ hwritten
      · intro name rest hpath
        obtain rfl : story.id = name := by simp_all
        exact hkey
      · intro hprefix
        exact absurd hprefix.length_le (by simp)
  · rw [writeStory, checkKey, if_neg hkey] at hrun
    cases hrun
    exact hkeeps.lists

theorem Keeps.rest_of_writeStory (hkeeps : library.Keeps shelf top)
    {result : Except LibraryError Unit}
    (hrun : (library.writeStory story scope).run top = (result, after)) :
    (∃ folder, after.walk (Path.names library.root) = .ok folder ∧
      folder.Lists (isKey · = true) ["stories", Visibility.listed.name]) ∧
    library.codes.run after = (.ok shelf.codes, after) := by
  obtain ⟨entries, hfolder⟩ := hkeeps.exists_folder
  exact ⟨hkeeps.lists_of_writeStory hrun, (codes_of_writeStory hfolder hkeeps.codes hrun).2⟩

theorem Keeps.writeStory_error (hkeeps : library.Keeps shelf top) {error : LibraryError}
    (hrun : (library.writeStory story scope).run top = (.error error, after)) :
    library.Keeps shelf after := by
  obtain ⟨hlists, hcodes⟩ := hkeeps.rest_of_writeStory hrun
  refine ⟨hlists, ?_, hcodes, hkeeps.keys⟩
  intro other id content
  rw [sameFiles_of_writeStory hrun]
  exact hkeeps.stories other id content

theorem Keeps.writeStory (hkeeps : library.Keeps shelf top)
    (hrun : (library.writeStory story scope).run top = (.ok (), after)) :
    library.Keeps (shelf.put scope story) after := by
  obtain ⟨hlists, hcodes⟩ := hkeeps.rest_of_writeStory hrun
  obtain ⟨hkey, hwritten⟩ := writeStory_eq_ok hrun
  refine ⟨hlists, ?_, hcodes, ?_⟩
  · intro other id content
    by_cases hplace : other = scope ∧ id = story.id
    · obtain ⟨rfl, rfl⟩ := hplace
      rw [← names_storyFile library other hkey, hwritten.written, Shelf.stories_put_self]
      simp [eq_comm]
    · rw [hwritten.kept, hkeeps.stories, Shelf.stories_put_of_ne hplace]
      rw [names_storyFile library scope hkey]
      intro hsame
      have hparts : scope.name = other.name ∧ story.id = id := by simpa [storyFile] using hsame
      exact hplace ⟨(Visibility.name_injective hparts.1).symm, hparts.2.symm⟩
  · intro other id held hheld
    by_cases hplace : other = scope ∧ id = story.id
    · rw [hplace.2]
      exact hkey
    · rw [Shelf.stories_put_of_ne hplace] at hheld
      exact hkeeps.keys other id held hheld

theorem Keeps.saveCodes (hkeeps : library.Keeps shelf top) (codes : Dict CodeEntry) :
    ∃ after, (library.saveCodes codes).run top = (.ok (), after) ∧
      library.Keeps { shelf with codes } after := by
  obtain ⟨entries, hfolder⟩ := hkeeps.exists_folder
  have hplain : Path.IsPlain "codes.json" := ⟨by decide, by decide, by decide, by decide⟩
  obtain ⟨after, hrun⟩ := exists_saveCodes hfolder hkeeps.codes codes
  have hwritten := rewritten_of_writeText hrun
  refine ⟨after, hrun, ?_, ?_, ?_, hkeeps.keys⟩
  · refine of_writeText_below hplain (List.append_nil _).symm ?_ ?_ hkeeps.lists hrun
    · intro folder hlists
      refine hlists.makeFolders ?_
      intro name rest hpath
      cases hpath
    · intro folder written hlists hwrite
      refine hlists.writeFile ?_ (by decide) hwrite
      intro name rest hpath
      simp at hpath
  · intro scope id content
    rw [hwritten.kept]
    · exact hkeeps.stories scope id content
    · rw [names_codesPath]
      simp [storyFile]
  · have hholds := hwritten.holds_self (CodeEntry.keeps_all codes)
    exact run_bind_of_ok (readRecord_eq_some.mpr ⟨hholds, rfl⟩) _

end Library

end Gamebook
