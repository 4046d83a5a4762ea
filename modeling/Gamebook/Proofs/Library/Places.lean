import Gamebook.Library.ItemBank
import Gamebook.Proofs.Files.Room
import Gamebook.Proofs.Library.Shelf
import Mathlib.Logic.Function.Basic

/-!
The places of a library, with one record at each of them at most: stories, share codes, saves, the
item bank and the sessions. No place lies on the way to another one (`Place.eq_of_prefix`). So a
library stores records as a function from places would: what is read at a place is the record there
(`Library.Stores.read`), writing one changes the record there and no other (`Library.Stores.write`),
and failing to write one changes none (`Library.Stores.write_error`).
-/

namespace Gamebook

open FileAction

theorem ItemBank.keeps (bank : ItemBank) : codec.Keeps bank := by
  refine Json.Codec.keeps_record (by decide) ⟨?_, trivial⟩ rfl
  exact Json.Field.keeps_withDefault _ _
    (Json.Codec.keeps_list fun item _ => Json.Codec.keeps_text item)

/-- A place in a library where a record is kept. -/
inductive Place where
  | story (scope : Visibility) (id : String)
  | codes
  | save (player id : String)
  | items
  | sessions
  deriving DecidableEq

namespace Place

abbrev Record : Place → Type
  | .story _ _ => Story
  | .codes => Dict CodeEntry
  | .save _ _ => Save
  | .items => ItemBank
  | .sessions => Dict Session

def codec : (place : Place) → Json.Codec place.Record
  | .story _ _ => Story.codec
  | .codes => .dict CodeEntry.codec
  | .save _ _ => Save.codec
  | .items => ItemBank.codec
  | .sessions => .dict Session.codec

/-- The path of the folder that the file of a place is in. -/
def folder (library : Library) : Place → String
  | .story scope id => Path.join (library.storiesFolder scope) id
  | .save player _ => Path.join (Path.join library.root "saves") player
  | .items => Path.join library.root "items"
  | .codes | .sessions => library.root

/-- The names that lead to this folder from that of the library. -/
def folderNames : Place → List String
  | .story scope id => ["stories", scope.name, id]
  | .save player _ => ["saves", player]
  | .items => ["items"]
  | .codes | .sessions => []

def fileName : Place → String
  | .story _ _ => "config.json"
  | .codes => "codes.json"
  | .save _ id => id ++ ".json"
  | .items => "items.json"
  | .sessions => "sessions.json"

def path (library : Library) (place : Place) : String :=
  Path.join (place.folder library) place.fileName

/-- The names that lead to the file of a place from the folder of the library. -/
def names (place : Place) : List String :=
  place.folderNames ++ [place.fileName]

/-- Whether the ids of a place can be the names of files. -/
def isProper : Place → Bool
  | .story _ id => isKey id
  | .save player id => isKey player && isKey id
  | .codes | .items | .sessions => true

/-- Whether no name on the way to the file of a place is too long. -/
def fits (place : Place) : Bool :=
  place.names.all (!Entry.isTooLong ·)

variable {place other : Place} {library : Library}

theorem isProper_save_iff {player id : String} :
    (save player id).isProper = true ↔ isKey player = true ∧ isKey id = true := by
  rw [isProper, Bool.and_eq_true]

theorem fits_iff : place.fits = true ↔ ∀ name ∈ place.names, Entry.isTooLong name = false := by
  simp [fits]

theorem fits_story_iff {scope : Visibility} {id : String} :
    (story scope id).fits = true ↔ Entry.isTooLong id = false := by
  have hstories : Entry.isTooLong "stories" = false := by decide
  have hscope : Entry.isTooLong scope.name = false := by cases scope <;> decide
  have hconfig : Entry.isTooLong "config.json" = false := by decide
  simp [fits, names, folderNames, fileName, hstories, hscope, hconfig]

theorem fits_save_iff {player id : String} :
    (save player id).fits = true ↔
      Entry.isTooLong player = false ∧ Entry.isTooLong (id ++ ".json") = false := by
  have hsaves : Entry.isTooLong "saves" = false := by decide
  simp [fits, names, folderNames, fileName, hsaves]

theorem eq_of_prefix (hleads : place.names <+: other.names) : place = other := by
  cases place <;> cases other <;> simp [names, folderNames, fileName] at hleads
  · obtain ⟨hscope, rfl⟩ := hleads
    rw [Visibility.name_injective hscope]
  · rfl
  · obtain ⟨rfl, rfl⟩ := hleads
    rfl
  · rfl
  · rfl

theorem names_injective : Function.Injective names :=
  fun _ _ hsame => eq_of_prefix (hsame ▸ List.prefix_refl _)

theorem isPlain_fileName (hproper : place.isProper = true) : Path.IsPlain place.fileName := by
  cases place with
  | story scope id => exact Library.isPlain_config
  | save player id => exact isPlain_json (isProper_save_iff.mp hproper).2
  | codes => exact ⟨by decide, by decide, by decide, by decide⟩
  | items => exact ⟨by decide, by decide, by decide, by decide⟩
  | sessions => exact ⟨by decide, by decide, by decide, by decide⟩

theorem names_folder (hproper : place.isProper = true) :
    Path.names (place.folder library) = Path.names library.root ++ place.folderNames := by
  cases place with
  | story scope id => exact Library.names_storyFolder library scope hproper
  | save player id =>
      rw [folder, Path.names_join (isPlain_of_isKey (isProper_save_iff.mp hproper).1),
        Path.names_join ⟨by decide, by decide, by decide, by decide⟩, List.append_assoc]
      rfl
  | items => exact Path.names_join ⟨by decide, by decide, by decide, by decide⟩
  | codes => exact (List.append_nil _).symm
  | sessions => exact (List.append_nil _).symm

theorem names_path (hproper : place.isProper = true) :
    Path.names (place.path library) = Path.names library.root ++ place.names := by
  rw [path, Path.names_join (isPlain_fileName hproper), names_folder hproper, List.append_assoc]
  rfl

end Place

abbrev Records : Type :=
  (place : Place) → Option place.Record

namespace Records

def empty : Records := fun _ => none

def codes (records : Records) : Dict CodeEntry :=
  (records .codes).getD ∅

def items (records : Records) : List String :=
  ((records .items).map (·.items)).getD []

def sessions (records : Records) : Dict Session :=
  (records .sessions).getD ∅

/-- The stories and the share codes among the records. -/
def shelf (records : Records) : Shelf where
  stories scope id := records (.story scope id)
  codes := records.codes

end Records

namespace Library

/-- Whether the files of a library hold some records and no others, and there is room for all
others. The names in the folder of the listed stories are ids in increasing order. -/
structure Stores (library : Library) (records : Records) (top : Entry) : Prop where
  folder : ∃ folder, top.walk (Path.names library.root) = .ok folder ∧
    folder.Lists (isKey · = true) ["stories", Visibility.listed.name] ∧
    ∀ place : Place, place.fits = true → folder.HasRoom place.names
  contents : ∀ place content,
    top.contents (Path.names library.root ++ place.names) = .ok content ↔
      ∃ record, records place = some record ∧ content = .text (place.codec.write record ++ "\n")
  keeps : ∀ place record, records place = some record →
    place.isProper = true ∧ place.codec.Keeps record

variable {library : Library} {records : Records} {place : Place} {top after : Entry}

theorem run_writeStory {story : Story} (hid : isKey story.id = true) (scope : Visibility)
    (top : Entry) : (library.writeStory story scope).run top =
      (writeRecord Story.codec ((Place.story scope story.id).path library) story).run top := by
  rw [writeStory, run_bind_of_ok (checkKey_eq_ok.mpr ⟨hid, rfl⟩)]
  rfl

theorem run_saveProgress {player id : String} (hplayer : isKey player = true)
    (hid : isKey id = true) (state : PlayerState) (now : Instant) (top : Entry) :
    (library.saveProgress player id state now).run top =
      (writeRecord Save.codec ((Place.save player id).path library) ⟨state, some now⟩).run top := by
  rw [saveProgress, run_bind_of_ok (checkKey_eq_ok.mpr ⟨hplayer, rfl⟩),
    run_bind_of_ok (checkKey_eq_ok.mpr ⟨hid, rfl⟩)]
  rfl

theorem IsEmpty.stores (hempty : library.IsEmpty top) : library.Stores .empty top := by
  refine ⟨⟨_, hempty, Entry.lists_empty .., ?_⟩, ?_, ?_⟩
  · intro place hfits
    exact Entry.hasRoom_empty (by simp [Place.names]) (Place.fits_iff.mp hfits)
  · intro place content
    rw [Entry.contents_append hempty]
    constructor
    · intro hcontents
      exact absurd hcontents Entry.contents_emptyFolder
    · rintro ⟨record, hrecord, -⟩
      cases hrecord
  · rintro place record hrecord
    cases hrecord

theorem Stores.readText_none (hstores : library.Stores records top) (place : Place)
    (hproper : place.isProper = true) (hfits : place.fits = true) (hnone : records place = none) :
    (readText (place.path library)).run top = (.ok none, top) := by
  obtain ⟨folder, hfolder, -, hroom⟩ := hstores.folder
  have hmissing : top.readText (Path.names (place.path library)) = .error .missing := by
    rw [Place.names_path hproper, Entry.readText_eq_missing]
    rcases (hroom place hfits).walk_cases with ⟨content, hwalk⟩ | hwalk
    · have hcontents : top.contents (Path.names library.root ++ place.names) = .ok content := by
        rw [Entry.contents_append hfolder, Entry.contents, hwalk]
      obtain ⟨record, hrecord, -⟩ := (hstores.contents place content).mp hcontents
      cases hnone.symm.trans hrecord
    · rw [Entry.walk_append hfolder, hwalk]
  rw [readText, FileAction.run, hmissing]
  rfl

theorem Stores.read (hstores : library.Stores records top) (place : Place)
    (hproper : place.isProper = true) (hfits : place.fits = true) :
    (readRecord place.codec (place.path library)).run top = (.ok (records place), top) := by
  cases hrecord : records place with
  | some record =>
      have hthere := (hstores.contents place _).mpr ⟨record, hrecord, rfl⟩
      rw [← Place.names_path hproper] at hthere
      have hread := Json.Codec.read_write_line (hstores.keeps place record hrecord).2
      exact readRecord_eq_some.mpr ⟨⟨_, hthere, hread⟩, rfl⟩
  | none => exact run_bind_of_ok (hstores.readText_none place hproper hfits hrecord) _

theorem Stores.folder_of_writeText (hstores : library.Stores records top)
    (hproper : place.isProper = true) {text : String} {result : Except LibraryError Unit}
    (hrun : (writeText (place.path library) text).run top = (result, after)) :
    ∃ folder, after.walk (Path.names library.root) = .ok folder ∧
      folder.Lists (isKey · = true) ["stories", Visibility.listed.name] ∧
      ∀ other : Place, other.fits = true → folder.HasRoom other.names := by
  -- only listed stories have files below the folder that is listed, and their ids are keys
  have hlisted : ∀ name rest, place.names = ["stories", Visibility.listed.name] ++ name :: rest →
      isKey name = true := by
    intro name rest hnames
    cases place <;> simp [Place.names, Place.folderNames, Place.fileName] at hnames
    obtain ⟨-, rfl, -⟩ := hnames
    exact hproper
  refine of_writeText_below (Place.isPlain_fileName hproper) (Place.names_folder hproper) ?_ ?_
    hstores.folder hrun
  · rintro folder ⟨hlists, hroom⟩
    constructor
    · refine hlists.makeFolders ?_
      intro name rest hnames
      refine hlisted name (rest ++ [place.fileName]) ?_
      rw [Place.names, hnames]
      rfl
    · intro other hfits
      refine (hroom other hfits).makeFolders ?_
      intro hleads
      have hthrough : other.names <+: place.names := hleads.trans (List.prefix_append ..)
      obtain rfl := Place.eq_of_prefix hthrough
      exact absurd hleads.length_le (by simp [Place.names])
  · rintro folder written ⟨hlists, hroom⟩ hwrite
    constructor
    · refine hlists.writeFile hlisted ?_ hwrite
      intro hleads
      cases place <;> simp [Place.names, Place.folderNames, Place.fileName] at hleads
    · intro other hfits
      refine (hroom other hfits).writeFile ?_ ?_ hwrite
      · intro hleads
        exact congrArg Place.names (Place.eq_of_prefix hleads)
      · intro hleads
        exact congrArg Place.names (Place.eq_of_prefix hleads).symm

theorem Stores.exists_writeText (hstores : library.Stores records top)
    (hproper : place.isProper = true) (hfits : place.fits = true) (text : String) :
    ∃ after, (writeText (place.path library) text).run top = (.ok (), after) := by
  obtain ⟨folder, hfolder, -, hroom⟩ := hstores.folder
  obtain ⟨folders, written, hmade, hwritten⟩ :=
    Entry.exists_writeFile_of_hasRoom (hroom place hfits) (.text text)
  have hbase : Entry.makeFolders (Path.names (place.folder library)) top =
      (none, top.replace (Path.names library.root) folders) := by
    rw [Place.names_folder hproper, Entry.makeFolders_append hfolder, hmade]
  have hfile : Entry.writeFile (.text text) (Path.names library.root ++ place.names)
      (top.replace (Path.names library.root) folders) = _ :=
    Entry.writeFile_append (Entry.walk_replace hfolder folders)
  rw [Place.names, hwritten] at hfile
  refine ⟨(top.replace (Path.names library.root) folders).replace (Path.names library.root) written,
    ?_⟩
  rw [writeText, FileAction.run, Place.path,
    Path.names_parent_join (Place.isPlain_fileName hproper), hbase]
  simp only [FileAction.run]
  rw [← Place.path, Place.names_path hproper, Place.names, hfile]
  rfl

theorem Stores.write (hstores : library.Stores records top) (place : Place)
    (hproper : place.isProper = true) (hfits : place.fits = true) {record : place.Record}
    (hkeeps : place.codec.Keeps record) :
    ∃ after, (writeRecord place.codec (place.path library) record).run top = (.ok (), after) ∧
      library.Stores (Function.update records place (some record)) after := by
  obtain ⟨after, hrun⟩ :=
    hstores.exists_writeText hproper hfits (place.codec.write record ++ "\n")
  have hwritten := rewritten_of_writeText hrun
  refine ⟨after, hrun, hstores.folder_of_writeText hproper hrun, ?_, ?_⟩
  · intro other content
    by_cases hother : other = place
    · subst hother
      rw [← Place.names_path hproper, hwritten.written, Function.update_self]
      simp [eq_comm]
    · rw [Function.update_of_ne hother, hwritten.kept, hstores.contents]
      rw [Place.names_path hproper]
      intro hsame
      exact hother (Place.names_injective (List.append_cancel_left hsame)).symm
  · intro other held hheld
    by_cases hother : other = place
    · subst hother
      rw [Function.update_self] at hheld
      cases hheld
      exact ⟨hproper, hkeeps⟩
    · rw [Function.update_of_ne hother] at hheld
      exact hstores.keeps other held hheld

theorem Stores.write_error (hstores : library.Stores records top) (place : Place)
    (hproper : place.isProper = true) (hlong : place.fits = false) (record : place.Record) :
    ∃ error after,
      (writeRecord place.codec (place.path library) record).run top = (.error error, after) ∧
        library.Stores records after := by
  cases hrun : (writeRecord place.codec (place.path library) record).run top with
  | mk result after =>
      have hfolder := hstores.folder_of_writeText hproper hrun
      cases result with
      | error error =>
          refine ⟨error, after, rfl, hfolder, ?_, hstores.keeps⟩
          intro other content
          rw [sameFiles_of_writeText hrun]
          exact hstores.contents other content
      | ok =>
          have hwritten := (rewritten_of_writeText hrun).written
          obtain ⟨folder, hthere, -, -⟩ := hfolder
          rw [Place.names_path hproper, Entry.contents_append hthere] at hwritten
          have hfits :=
            Place.fits_iff.mpr (Entry.all_short_of_walk (Entry.walk_of_contents hwritten))
          cases hlong.symm.trans hfits

theorem Stores.codes (hstores : library.Stores records top) :
    library.codes.run top = (.ok records.codes, top) :=
  run_bind_of_ok (hstores.read .codes rfl rfl) _

theorem Stores.items (hstores : library.Stores records top) :
    library.items.run top = (.ok records.items, top) :=
  run_bind_of_ok (hstores.read .items rfl rfl) _

theorem Stores.sessions (hstores : library.Stores records top) :
    (SessionStore.file library).all.run top = (.ok records.sessions, top) :=
  run_bind_of_ok (hstores.read .sessions rfl rfl) _

theorem Stores.keeps_shelf (hstores : library.Stores records top) :
    library.Keeps records.shelf top := by
  refine ⟨?_, ?_, hstores.codes, ?_⟩
  · obtain ⟨folder, hfolder, hlists, -⟩ := hstores.folder
    exact ⟨folder, hfolder, hlists⟩
  · intro scope id content
    exact hstores.contents (.story scope id) content
  · intro scope id story hstory
    exact (hstores.keeps (.story scope id) story hstory).1

end Library

end Gamebook
