import Gamebook.Proofs.Files.Folders
import Gamebook.Proofs.Files.Looking
import Gamebook.Proofs.Library.Stores

namespace Gamebook

open FileAction

theorem Entry.Rewritten.sameFiles_iff {top after : Entry} {path text : String}
    (hrewritten : top.Rewritten path text after) :
    top.SameFiles after ↔ top.contents (Path.names path) = .ok (.text text) := by
  constructor
  · intro hsame
    exact (hsame _ _).mp hrewritten.written
  · intro hheld other content
    by_cases hother : Path.names path = other
    · rw [← hother, hrewritten.written, hheld]
    · exact hrewritten.kept other content hother

theorem looks_checkKey (kind : NameKind) (value : String) : (checkKey kind value).Looks := by
  rw [checkKey]
  split
  · exact .done ()
  · exact .fail _

theorem looks_checkName (kind : NameKind) (value : String) : (checkName kind value).Looks := by
  rw [checkName]
  split
  · exact .fail _
  · exact .done ()

namespace Library

variable (library : Library) {α : Type}

theorem looks_readText (path : String) : (readText path).Looks := by
  refine .readText path ?_
  rintro (fault | text)
  · cases fault with
    | missing => exact .done none
    | _ => exact .fail _
  · exact .done (some text)

theorem looks_readRecord (codec : Json.Codec α) (path : String) :
    (readRecord codec path).Looks := by
  refine (looks_readText path).bind ?_
  rintro (_ | text)
  · exact .done none
  · dsimp only
    split
    · exact .done _
    · exact .fail _

theorem looks_storyText (id : String) (scope : Visibility) : (library.storyText id scope).Looks := by
  refine (looks_checkKey .story id).bind fun _ => (looks_readText _).bind ?_
  rintro (_ | text)
  · exact .fail _
  · exact .done text

theorem looks_readStory (id : String) (scope : Visibility) : (library.readStory id scope).Looks :=
  (library.looks_storyText id scope).bind fun _ => .ofExcept _

theorem looks_loadStory (id : String) (scope : Visibility) : (library.loadStory id scope).Looks :=
  (library.looks_storyText id scope).bind fun _ => .ofExcept _

theorem looks_hasStory (id : String) (scope : Visibility) : (library.hasStory id scope).Looks := by
  rw [hasStory]
  split
  · exact .isFile _ fun found => .done found
  · exact .done false

theorem looks_codes : library.codes.Looks :=
  (looks_readRecord _ _).bind fun _ => .done _

theorem looks_loadByCode (code : String) : (library.loadByCode code).Looks := by
  refine library.looks_codes.bind fun codes => ?_
  split
  · exact .fail _
  · refine (library.looks_loadStory _ _).attempt.bind fun found => ?_
    split
    · exact .done _
    · exact .fail _
    · exact .fail _

theorem looks_withStory (scope : Visibility) (ids : List String) :
    (library.withStory scope ids).Looks := by
  induction ids with
  | nil => exact .done []
  | cons id ids ih => exact .isFile _ fun found => ih.bind fun others => .done _

theorem looks_listedStories : library.listedStories.Looks := by
  refine .list _ ?_
  rintro (fault | names)
  · cases fault with
    | missing => exact .done []
    | _ => exact .fail _
  · exact (library.looks_withStory .listed names).bind fun ids => .done _

theorem looks_loadSave (player story : String) : (library.loadSave player story).Looks :=
  (looks_checkKey .player player).bind fun _ =>
    (looks_checkKey .story story).bind fun _ => looks_readRecord _ _

theorem looks_loadProgress (player story : String) : (library.loadProgress player story).Looks :=
  (library.looks_loadSave player story).bind fun _ => .done _

end Library

theorem looks_all (store : SessionStore) : store.all.Looks := by
  cases store with
  | file library => exact (Library.looks_readRecord _ _).bind fun _ => .done _
  | memory sessions => exact .done sessions

theorem looks_get (store : SessionStore) (player : String) : (store.get player).Looks :=
  (looks_all store).bind fun _ => .done _

namespace Library

variable {α : Type} {top after : Entry} {base path text name : String} {below : List String}
  {entries : List (String × Entry)} {result : Except LibraryError Unit}

theorem of_writeText {P : Entry → Prop} (htop : P top)
    (hmake : ∀ folder, P folder → P (Entry.makeFolders (Path.names (Path.parent path)) folder).2)
    (hwrite : ∀ folder written, P folder →
      Entry.writeFile (.text text) (Path.names path) folder = .ok written → P written)
    (hrun : (writeText path text).run top = (result, after)) : P after := by
  have hmade := hmake top htop
  rw [writeText, FileAction.run] at hrun
  generalize Entry.makeFolders (Path.names (Path.parent path)) top = made at hrun hmade
  obtain ⟨fault?, folders⟩ := made
  cases fault? with
  | some fault =>
      cases hrun
      exact hmade
  | none =>
      simp only [FileAction.run] at hrun
      split at hrun
      · rename_i written hwritten
        cases hrun
        exact hwrite folders _ hmade hwritten
      · cases hrun
        exact hmade

theorem sameFiles_of_writeText {error : LibraryError}
    (hrun : (writeText path text).run top = (.error error, after)) : top.SameFiles after := by
  have hmade : top.SameFiles (Entry.makeFolders (Path.names (Path.parent path)) top).2 :=
    fun other content => Entry.contents_makeFolders _ other top content
  rw [writeText, FileAction.run] at hrun
  generalize Entry.makeFolders (Path.names (Path.parent path)) top = made at hrun hmade
  obtain ⟨fault?, folders⟩ := made
  cases fault? with
  | some fault =>
      cases hrun
      exact hmade
  | none =>
      simp only [FileAction.run] at hrun
      split at hrun
      · cases hrun
      · cases hrun
        exact hmade

/-- What holds of a folder, and is kept when something is made or written below it, holds of it when
a file below it is written. -/
theorem of_writeText_below {P : Entry → Prop} (hname : Path.IsPlain name)
    (hbase : Path.names path = Path.names base ++ below)
    (hmake : ∀ folder, P folder → P (Entry.makeFolders below folder).2)
    (hwrite : ∀ folder written, P folder →
      Entry.writeFile (.text text) (below ++ [name]) folder = .ok written → P written)
    (hfolder : ∃ folder, top.walk (Path.names base) = .ok folder ∧ P folder)
    (hrun : (writeText (Path.join path name) text).run top = (result, after)) :
    ∃ folder, after.walk (Path.names base) = .ok folder ∧ P folder := by
  refine of_writeText (P := fun entry => ∃ folder, entry.walk (Path.names base) = .ok folder ∧
    P folder) hfolder ?_ ?_ hrun
  · rintro entry ⟨folder, hthere, hfolder⟩
    rw [Path.names_parent_join hname, hbase, Entry.makeFolders_append hthere]
    exact ⟨_, Entry.walk_replace hthere _, hmake folder hfolder⟩
  · rintro entry written ⟨folder, hthere, hfolder⟩ hwritten
    rw [Path.names_join hname, hbase, List.append_assoc, Entry.writeFile_append hthere] at hwritten
    cases hinner : Entry.writeFile (.text text) (below ++ [name]) folder with
    | error fault =>
        rw [hinner] at hwritten
        cases hwritten
    | ok inner =>
        rw [hinner] at hwritten
        cases hwritten
        exact ⟨inner, Entry.walk_replace hthere inner, hwrite folder inner hfolder hinner⟩

theorem readText_beside {first other : String} {rest : List String} (hname : Path.IsPlain name)
    (hbase : Path.names path = Path.names base ++ first :: rest) (hne : first ≠ other)
    (hfolder : top.walk (Path.names base) = .ok (.folder entries))
    (hrun : (writeText (Path.join path name) text).run top = (result, after)) :
    (∃ entries, after.walk (Path.names base) = .ok (.folder entries)) ∧
      after.readText (Path.names base ++ [other]) = top.readText (Path.names base ++ [other]) := by
  have hbelow : ∃ folder, after.walk (Path.names base) = .ok folder ∧
      ∃ made, folder = .folder made ∧ Dict.lookup other made = Dict.lookup other entries := by
    refine of_writeText_below hname hbase ?_ ?_ ⟨_, hfolder, entries, rfl, rfl⟩ hrun
    · rintro folder ⟨held, rfl, hheld⟩
      obtain ⟨made, hmade, hlook⟩ := Entry.lookup_makeFolders hne
      exact ⟨made, hmade, hlook.trans hheld⟩
    · rintro folder written ⟨held, rfl, hheld⟩ hwritten
      obtain ⟨made, hmade, hlook⟩ := Entry.lookup_writeFile hne hwritten
      exact ⟨made, hmade, hlook.trans hheld⟩
  obtain ⟨_, hafter, made, rfl, hlook⟩ := hbelow
  refine ⟨⟨made, hafter⟩, ?_⟩
  rw [Entry.readText, Entry.readText, Entry.contents, Entry.contents, Entry.walk_append hafter,
    Entry.walk_append hfolder, Entry.walk, Entry.walk, hlook]

theorem readRecord_congr {codec : Json.Codec α}
    (hsame : after.readText (Path.names path) = top.readText (Path.names path)) :
    ((readRecord codec path).run after).1 = ((readRecord codec path).run top).1 := by
  rw [readRecord, run_bind, run_bind, readText, FileAction.run, FileAction.run, hsame]
  cases top.readText (Path.names path) with
  | ok text =>
      simp only [FileAction.run]
      cases codec.read text <;> rfl
  | error fault => cases fault <;> rfl

theorem readTable_of_readText {codec : Json.Codec α} {table : Dict α}
    (hsame : after.readText (Path.names path) = top.readText (Path.names path))
    (htable : (do return (← readRecord (.dict codec) path).getD ∅ :
      FileAction LibraryError (Dict α)).run top = (.ok table, top)) :
    (do return (← readRecord (.dict codec) path).getD ∅ :
      FileAction LibraryError (Dict α)).run after = (.ok table, after) := by
  obtain ⟨found, middle, hfound, hpure⟩ := run_bind_eq_ok.mp htable
  obtain ⟨rfl, -⟩ := run_pure_eq_ok.mp hpure
  refine run_bind_eq_ok.mpr ⟨found, after, ?_, rfl⟩
  refine Prod.ext ?_ ((looks_readRecord _ _).run after)
  rw [readRecord_congr hsame, hfound]

theorem exists_writeText_of_readText (hname : Path.IsPlain name)
    (hfolder : top.walk (Path.names base) = .ok (.folder entries)) {found : Option String}
    (hread : (readText (Path.join base name)).run top = (.ok found, top)) (text : String) :
    ∃ after, (writeText (Path.join base name) text).run top = (.ok (), after) := by
  cases found with
  | some held => exact exists_writeText hname (readText_eq_some.mp hread).1 text
  | none =>
      have hmissing : top.readText (Path.names (Path.join base name)) = .error .missing := by
        rw [readText, FileAction.run] at hread
        split at hread
        · cases hread
        · assumption
        · cases hread
      rw [Path.names_join hname, Entry.readText_eq_missing] at hmissing
      obtain ⟨folders, written, hmade, hwritten⟩ :=
        Entry.exists_writeFile_of_missing hfolder hmissing (.text text)
      refine ⟨written, ?_⟩
      rw [writeText, FileAction.run, Path.names_parent_join hname, hmade]
      simp only [FileAction.run, Path.names_join hname, hwritten]

theorem exists_writeRecord_of_readTable {codec : Json.Codec α} {table : Dict α}
    (hname : Path.IsPlain name) (hfolder : top.walk (Path.names base) = .ok (.folder entries))
    (htable : (do return (← readRecord (.dict codec) (Path.join base name)).getD ∅ :
      FileAction LibraryError (Dict α)).run top = (.ok table, top)) (next : Dict α) :
    ∃ after, (writeRecord (.dict codec) (Path.join base name) next).run top = (.ok (), after) := by
  obtain ⟨found, middle, hfound, -⟩ := run_bind_eq_ok.mp htable
  obtain ⟨text?, folder, htext, -⟩ := run_bind_eq_ok.mp hfound
  obtain rfl := (looks_readText _).folder_eq htext
  exact exists_writeText_of_readText hname hfolder htext _

variable {library : Library}

theorem sameFiles_of_writeStory {story : Story} {scope : Visibility} {error : LibraryError}
    (hrun : (library.writeStory story scope).run top = (.error error, after)) :
    top.SameFiles after := by
  rcases (looks_checkKey .story story.id).bind_eq_error hrun with rfl | ⟨⟨⟩, -, hwrite⟩
  · exact .refl _
  · exact sameFiles_of_writeText hwrite

theorem sameFiles_of_saveProgress {player story : String} {state : PlayerState} {now : Instant}
    {error : LibraryError}
    (hrun : (library.saveProgress player story state now).run top = (.error error, after)) :
    top.SameFiles after := by
  rcases (looks_checkKey .player player).bind_eq_error hrun with rfl | ⟨⟨⟩, -, hrest⟩
  · exact .refl _
  · rcases (looks_checkKey .story story).bind_eq_error hrest with rfl | ⟨⟨⟩, -, hwrite⟩
    · exact .refl _
    · exact sameFiles_of_writeText hwrite

theorem sameFiles_of_put {player : String} {session : Session} {error : LibraryError}
    (hrun : ((SessionStore.file library).put player session).run top = (.error error, after)) :
    top.SameFiles after := by
  rcases (looks_checkKey .player player).bind_eq_error hrun with rfl | ⟨⟨⟩, -, hrest⟩
  · exact .refl _
  · rcases (looks_all (.file library)).bind_eq_error hrest with rfl | ⟨sessions, -, hput⟩
    · exact .refl _
    · exact sameFiles_of_writeText (run_bind_pure_eq_error.mp hput)

theorem exists_put {player : String} {sessions : Dict Session} (hplayer : isKey player = true)
    (hfolder : top.walk (Path.names library.root) = .ok (.folder entries))
    (hall : (SessionStore.file library).all.run top = (.ok sessions, top)) (session : Session) :
    ∃ after, ((SessionStore.file library).put player session).run top =
      (.ok (.file library), after) := by
  obtain ⟨after, hwrite⟩ := exists_writeRecord_of_readTable
    ⟨by decide, by decide, by decide, by decide⟩ hfolder hall (sessions.insert player session)
  refine ⟨after, ?_⟩
  rw [SessionStore.put, run_bind_of_ok (checkKey_eq_ok.mpr ⟨hplayer, rfl⟩), run_bind_of_ok hall]
  exact run_bind_of_ok hwrite _

end Library

end Gamebook
