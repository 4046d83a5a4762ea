import Gamebook.Proofs.Files.Commuting
import Gamebook.Proofs.Library.Shelf

namespace Gamebook

open FileAction

theorem FileAction.ActsAt.checked {α : Type} {base : List String} {name value : String}
    {kind : NameKind} {action : FileAction LibraryError α}
    (haction : isKey value = true → action.ActsAt base name) :
    (do checkKey kind value; action : FileAction LibraryError α).ActsAt base name := by
  by_cases hkey : isKey value = true
  · rw [checkKey, if_pos hkey]
    exact haction hkey
  · rw [checkKey, if_neg hkey]
    exact .fail _

namespace Library

variable {library : Library} {α : Type} {base below : List String} {name path player id : String}
  {scope : Visibility} {top other : Entry} {entries others : List (String × Entry)}

theorem actsAt_readText (hpath : Path.names path = base ++ name :: below) :
    (readText path).ActsAt base name := by
  refine .readText hpath ?_
  rintro (fault | text)
  · cases fault with
    | missing => exact .done none
    | _ => exact .fail _
  · exact .done (some text)

theorem actsAt_readRecord {codec : Json.Codec α} (hpath : Path.names path = base ++ name :: below) :
    (readRecord codec path).ActsAt base name := by
  refine (actsAt_readText hpath).bind ?_
  rintro (_ | text)
  · exact .done none
  · dsimp only
    split
    · exact .done _
    · exact .fail _

theorem actsAt_writeText {rest : List String} {text : String}
    (hparent : Path.names (Path.parent path) = base ++ name :: below)
    (hpath : Path.names path = base ++ name :: rest) : (writeText path text).ActsAt base name := by
  refine .makeFolders hparent ?_
  rintro (_ | fault)
  · refine .writeText hpath text ?_
    rintro (_ | fault)
    · exact .done ()
    · exact .fail _
  · exact .fail _

theorem actsAt_loadStory (library : Library) (id : String) (scope : Visibility) :
    (library.loadStory id scope).ActsAt (Path.names library.root) "stories" := by
  refine .bind (.checked fun hid => ?_) fun text => .ofExcept _
  refine (actsAt_readText (names_storyPath library scope hid)).bind ?_
  rintro (_ | text)
  · exact .fail _
  · exact .done text

theorem actsAt_codes (library : Library) :
    library.codes.ActsAt (Path.names library.root) "codes.json" :=
  (actsAt_readRecord (names_codesPath library)).bind fun _ => .done _

theorem actsAt_all (library : Library) :
    (SessionStore.file library).all.ActsAt (Path.names library.root) "sessions.json" :=
  (actsAt_readRecord (names_sessionsPath library)).bind fun _ => .done _

theorem names_savePath_cons (hplayer : isKey player = true) (hid : isKey id = true) :
    Path.names (library.savePath player id) =
      (Path.names library.root ++ ["saves"]) ++ player :: [id ++ ".json"] := by
  rw [names_savePath library hplayer hid, List.append_assoc]
  rfl

theorem names_parent_savePath (hplayer : isKey player = true) (hid : isKey id = true) :
    Path.names (Path.parent (library.savePath player id)) =
      Path.names library.root ++ ["saves", player] := by
  rw [savePath, Path.names_parent_join (isPlain_json hid), names_savesFolder library hplayer]

theorem actsAt_loadSave (library : Library) (player id : String) :
    (library.loadSave player id).ActsAt (Path.names library.root) "saves" :=
  .checked fun hplayer => .checked fun hid => actsAt_readRecord (names_savePath library hplayer hid)

theorem actsAt_saveProgress (library : Library) (player id : String) (state : PlayerState)
    (now : Instant) :
    (library.saveProgress player id state now).ActsAt (Path.names library.root) "saves" :=
  .checked fun hplayer => .checked fun hid =>
    actsAt_writeText (names_parent_savePath hplayer hid) (names_savePath library hplayer hid)

theorem actsAt_loadSave_below (library : Library) (player id : String) :
    (library.loadSave player id).ActsAt (Path.names library.root ++ ["saves"]) player :=
  .checked fun hplayer => .checked fun hid => actsAt_readRecord (names_savePath_cons hplayer hid)

theorem actsAt_saveProgress_below (library : Library) (player id : String) (state : PlayerState)
    (now : Instant) :
    (library.saveProgress player id state now).ActsAt (Path.names library.root ++ ["saves"])
      player := by
  refine .checked fun hplayer => .checked fun hid => ?_
  have hparent : Path.names (Path.parent (library.savePath player id)) =
      (Path.names library.root ++ ["saves"]) ++ [player] := by
    rw [names_parent_savePath hplayer hid, List.append_assoc]
    rfl
  exact actsAt_writeText hparent (names_savePath_cons hplayer hid)

theorem actsAt_writeText_here {text : String} (hname : Path.IsPlain name) :
    (writeText (Path.join path name) text).ActsAt (Path.names path) name := by
  have hparent : (FileAction.makeFolders (Path.parent (Path.join path name)) .done :
      FileAction LibraryError _).ActsAt (Path.names path) name := by
    refine ⟨fun _ => (.ok none, .touch), ?_⟩
    intro top entries hbase
    have hmade : Entry.makeFolders (Path.names path ++ []) top = _ := Entry.makeFolders_append hbase
    rw [List.append_nil] at hmade
    rw [run, Path.names_parent_join hname, hmade]
    rfl
  refine hparent.bind ?_
  rintro (_ | fault)
  · refine .writeText (Path.names_join hname) text ?_
    rintro (_ | fault)
    · exact .done ()
    · exact .fail _
  · exact .fail _

theorem actsAt_put (library : Library) (player : String) (session : Session) :
    ((SessionStore.file library).put player session).ActsAt (Path.names library.root)
      "sessions.json" :=
  .checked fun _ => (actsAt_all library).bind fun _ =>
    (actsAt_writeText_here ⟨by decide, by decide, by decide, by decide⟩).bind fun _ => .done _

/-! ### Listed stories -/

theorem run_withStory_congr {ids : List String} (hplain : ∀ id ∈ ids, Path.IsPlain id)
    (hsame : ∀ below, other.walk (Path.names library.root ++ "stories" :: scope.name :: below) =
      top.walk (Path.names library.root ++ "stories" :: scope.name :: below)) :
    ((library.withStory scope ids).run other).1 = ((library.withStory scope ids).run top).1 := by
  induction ids with
  | nil => rfl
  | cons id ids ih =>
      have hid := hplain id (List.mem_cons_self ..)
      have hids := ih fun other hother => hplain other (List.mem_cons_of_mem id hother)
      have hpath : Path.names (Path.join (Path.join (library.storiesFolder scope) id)
          "config.json") =
          Path.names library.root ++ "stories" :: scope.name :: [id, "config.json"] := by
        rw [Path.names_join isPlain_config, Path.names_join hid, names_storiesFolder]
        simp
      rw [withStory, run, run, hpath, Entry.isFile, Entry.isFile, Entry.contents, Entry.contents,
        hsame]
      exact (library.looks_withStory scope ids).answer_bind hids fun _ _ => rfl

theorem run_listedStories_congr
    (hplain : ∀ names, top.list (Path.names (library.storiesFolder .listed)) = .ok names →
      ∀ name ∈ names, Path.IsPlain name)
    (hsame : ∀ below,
      other.walk (Path.names library.root ++ "stories" :: Visibility.listed.name :: below) =
        top.walk (Path.names library.root ++ "stories" :: Visibility.listed.name :: below)) :
    (library.listedStories.run other).1 = (library.listedStories.run top).1 := by
  have hlist : other.list (Path.names (library.storiesFolder .listed)) =
      top.list (Path.names (library.storiesFolder .listed)) := by
    rw [names_storiesFolder, Entry.list, Entry.list, hsame]
  rw [listedStories, run, run, hlist]
  cases hnames : top.list (Path.names (library.storiesFolder .listed)) with
  | error fault => cases fault <;> rfl
  | ok names =>
      have hids : ((library.withStory .listed names).run other).1 =
          ((library.withStory .listed names).run top).1 :=
        run_withStory_congr (hplain names hnames) hsame
      exact (library.looks_withStory .listed names).answer_bind hids fun _ _ => rfl

/-! ### Sessions -/

variable {sessions : Dict Session} {session : Session}

/-- A folder of a library after all sessions were written. -/
def withSessions (library : Library) (top : Entry) (entries : List (String × Entry))
    (sessions : Dict Session) : Entry :=
  top.changed (Path.names library.root) "sessions.json" entries
    (.put (.file (.text ((Json.Codec.dict Session.codec).write sessions ++ "\n"))))

theorem walk_withSessions (hbase : top.walk (Path.names library.root) = .ok (.folder entries))
    (sessions : Dict Session) :
    (library.withSessions top entries sessions).walk (Path.names library.root) =
      .ok (.folder (Dict.put "sessions.json"
        (.file (.text ((Json.Codec.dict Session.codec).write sessions ++ "\n"))) entries)) :=
  Entry.walk_changed hbase ..

theorem run_all_withSessions (hbase : top.walk (Path.names library.root) = .ok (.folder entries))
    (sessions : Dict Session) :
    (SessionStore.file library).all.run (library.withSessions top entries sessions) =
      (.ok sessions, library.withSessions top entries sessions) := by
  have hholds : (library.withSessions top entries sessions).Holds (.dict Session.codec)
      library.sessionsPath sessions := by
    refine ⟨_, ?_, Json.Codec.read_write_line (Session.keeps_all sessions)⟩
    rw [names_sessionsPath, Entry.contents_append (walk_withSessions hbase sessions),
      Entry.contents_folder_cons, Dict.lookup_put, if_pos rfl]
    rfl
  exact run_bind_of_ok (readRecord_eq_some.mpr ⟨hholds, rfl⟩) _

theorem eq_changed_of_writeText {text : String} {after : Entry} (hname : Path.IsPlain name)
    (hbase : top.walk (Path.names path) = .ok (.folder entries))
    (hwrite : (writeText (Path.join path name) text).run top = (.ok (), after)) :
    after = top.changed (Path.names path) name entries (.put (.file (.text text))) := by
  have hmade : Entry.makeFolders (Path.names path ++ []) top =
      (none, top.replace (Path.names path) (.folder entries)) := Entry.makeFolders_append hbase
  rw [List.append_nil] at hmade
  rw [writeText, FileAction.run, Path.names_parent_join hname, hmade] at hwrite
  simp only [FileAction.run, Path.names_join hname,
    Entry.writeFile_append (Entry.walk_replace hbase _)] at hwrite
  cases hfolder : Entry.writeFile (.text text) [name] (.folder entries) with
  | error fault =>
      rw [hfolder] at hwrite
      cases hwrite
  | ok written =>
      rw [hfolder] at hwrite
      cases hwrite
      obtain ⟨_, inner, ⟨⟩, -, rfl, hinner⟩ := Entry.writeFile_cons_eq_ok.mp hfolder
      have hfile : inner = .file (.text text) := by
        rcases hinner with ⟨held, -, hheld⟩ | ⟨-, -, hnew⟩
        · cases held with
          | file content =>
              cases hheld
              rfl
          | folder entries => cases hheld
        · exact hnew
      rw [hfile]
      exact Entry.replace_replace hbase _ _

theorem run_put_of_all (hbase : top.walk (Path.names library.root) = .ok (.folder entries))
    (hall : (SessionStore.file library).all.run top = (.ok sessions, top))
    (hplayer : isKey player = true) (session : Session) :
    ((SessionStore.file library).put player session).run top =
      (.ok (.file library), library.withSessions top entries (sessions.insert player session)) := by
  obtain ⟨after, hrun⟩ := exists_put hplayer hbase hall session
  have hwrite := hrun
  rw [SessionStore.put, run_bind_of_ok (checkKey_eq_ok.mpr ⟨hplayer, rfl⟩),
    run_bind_of_ok hall] at hwrite
  obtain ⟨⟨⟩, written, hwritten, hpure⟩ := run_bind_eq_ok.mp hwrite
  obtain ⟨-, rfl⟩ := run_pure_eq_ok.mp hpure
  have hplain : Path.IsPlain "sessions.json" := ⟨by decide, by decide, by decide, by decide⟩
  rw [hrun, withSessions]
  exact congrArg _ (eq_changed_of_writeText hplain hbase hwritten)

theorem run_put_of_not_key (hplayer : isKey player = false) (session : Session) (top : Entry) :
    ((SessionStore.file library).put player session).run top =
      (.error (.invalidKey .player player), top) :=
  run_bind_of_error (run_checkKey_error hplayer top) _

theorem run_put_of_error {error : LibraryError}
    (hall : (SessionStore.file library).all.run top = (.error error, top))
    (hplayer : isKey player = true) (session : Session) :
    ((SessionStore.file library).put player session).run top = (.error error, top) := by
  rw [SessionStore.put, run_bind_of_ok (checkKey_eq_ok.mpr ⟨hplayer, rfl⟩)]
  exact run_bind_of_error hall _

theorem run_all_cases (library : Library) (top : Entry) :
    (∃ error, (SessionStore.file library).all.run top = (.error error, top)) ∨
      ∃ sessions, (SessionStore.file library).all.run top = (.ok sessions, top) := by
  cases hall : (SessionStore.file library).all.run top with
  | mk result after =>
      obtain rfl := (looks_all _).folder_eq hall
      cases result with
      | error error => exact Or.inl ⟨error, rfl⟩
      | ok sessions => exact Or.inr ⟨sessions, rfl⟩

theorem run_get_of_all (hall : (SessionStore.file library).all.run top = (.ok sessions, top))
    (player : String) :
    ((SessionStore.file library).get player).run top = (.ok (sessions.find? player), top) :=
  run_bind_of_ok hall _

/-- Where the folder of a library is. -/
abbrev HasRoot (library : Library) : Entry → Prop :=
  Entry.HasFolder (Path.names library.root)

variable {rival : String}

theorem hasRoot_of_saveProgress {state : PlayerState} {now : Instant} {saved : Entry}
    {result : Except LibraryError Unit} (htop : library.HasRoot top)
    (hsave : (library.saveProgress player id state now).run top = (result, saved)) :
    library.HasRoot saved := by
  have hsaved := (library.actsAt_saveProgress player id state now).preserves top htop
  rw [hsave] at hsaved
  exact hsaved

theorem run_all_of_saveProgress {state : PlayerState} {now : Instant} {saved : Entry}
    {result : Except LibraryError Unit} (htop : library.HasRoot top)
    (hsave : (library.saveProgress player id state now).run top = (result, saved)) :
    (SessionStore.file library).all.run saved =
      (((SessionStore.file library).all.run top).1, saved) := by
  obtain ⟨-, hall, -⟩ := library.actsAt_all.commutesOn
    (library.actsAt_saveProgress player id state now) (by decide) top htop
  rw [hsave] at hall
  exact Prod.ext hall ((looks_all _).run saved)

theorem get_commutesOn_put (hne : player ≠ rival) (session : Session) :
    ((SessionStore.file library).get player).CommutesOn library.HasRoot
      ((SessionStore.file library).put rival session) := by
  refine (looks_get _ _).commutesOn ?_
  rintro top ⟨entries, hbase⟩
  cases hrival : isKey rival with
  | false => rw [run_put_of_not_key hrival]
  | true =>
      rcases library.run_all_cases top with ⟨error, hall⟩ | ⟨sessions, hall⟩
      · rw [run_put_of_error hall hrival]
      · rw [run_put_of_all hbase hall hrival, run_get_of_all hall,
          run_get_of_all (run_all_withSessions hbase _), Dict.find?_insert, if_neg hne.symm]

theorem withSessions_withSessions
    (hbase : top.walk (Path.names library.root) = .ok (.folder entries))
    (sessions next : Dict Session) :
    (library.withSessions top entries sessions).changed (Path.names library.root) "sessions.json"
        (Dict.put "sessions.json"
          (.file (.text ((Json.Codec.dict Session.codec).write sessions ++ "\n"))) entries)
        (.put (.file (.text ((Json.Codec.dict Session.codec).write next ++ "\n")))) =
      library.withSessions top entries next :=
  Entry.changed_changed hbase ..

theorem run_put_twice (hbase : top.walk (Path.names library.root) = .ok (.folder entries))
    (hplayer : isKey player = true) (sessions : Dict Session) (session : Session) :
    ((SessionStore.file library).put player session).run
        (library.withSessions top entries sessions) =
      (.ok (.file library), library.withSessions top entries (sessions.insert player session)) := by
  have hthere := walk_withSessions hbase sessions
  rw [run_put_of_all hthere (run_all_withSessions hbase sessions) hplayer session, withSessions,
    withSessions_withSessions hbase]

theorem put_commutesOn_put (hne : player ≠ rival) (session held : Session) :
    ((SessionStore.file library).put player session).CommutesOn library.HasRoot
      ((SessionStore.file library).put rival held) := by
  rintro top ⟨entries, hbase⟩
  cases hplayer : isKey player with
  | false =>
      rw [run_put_of_not_key hplayer, run_put_of_not_key hplayer]
      exact ⟨rfl, rfl, rfl⟩
  | true =>
      cases hrival : isKey rival with
      | false =>
          rw [run_put_of_not_key hrival, run_put_of_not_key hrival]
          exact ⟨rfl, rfl, rfl⟩
      | true =>
          rcases library.run_all_cases top with ⟨error, hall⟩ | ⟨sessions, hall⟩
          · rw [run_put_of_error hall hplayer, run_put_of_error hall hrival]
            simp only [run_put_of_error hall hplayer, and_self]
          · rw [run_put_of_all hbase hall hplayer, run_put_of_all hbase hall hrival]
            simp only [run_put_twice hbase hplayer, run_put_twice hbase hrival,
              Dict.insert_comm hne, and_self]

/-! ### Saves -/

/-- A folder of a library after the folder of the saves was made. -/
def withSaves (library : Library) (top : Entry) : Entry :=
  (Entry.makeFolders (Path.names library.root ++ ["saves"]) top).2

theorem walk_withSaves (hbase : top.walk (Path.names library.root) = .ok (.folder entries)) :
    (library.withSaves top).walk (Path.names library.root ++ ["saves"]) =
      .ok ((Dict.lookup "saves" entries).getD (.folder [])) := by
  rw [withSaves, Entry.makeFolders_append hbase, Entry.walk_append (Entry.walk_replace hbase _),
    Entry.makeFolders, if_neg (by decide), Entry.walk, if_neg (by decide), Dict.lookup_put,
    if_pos rfl]
  cases (Dict.lookup "saves" entries).getD (.folder []) <;> rfl

variable {state : PlayerState} {now : Instant}

theorem checked_cases (player id : String) (action : FileAction LibraryError α) :
    (isKey player = true ∧ isKey id = true ∧
        (do checkKey .player player; checkKey .story id; action) = action) ∨
      ∃ error, (do checkKey .player player; checkKey .story id; action) = .fail error := by
  cases hplayer : isKey player with
  | false =>
      refine Or.inr ⟨.invalidKey .player player, ?_⟩
      rw [checkKey, if_neg (Bool.eq_false_iff.mp hplayer)]
      rfl
  | true =>
      cases hid : isKey id with
      | false =>
          refine Or.inr ⟨.invalidKey .story id, ?_⟩
          rw [checkKey, if_pos hplayer, checkKey, if_neg (Bool.eq_false_iff.mp hid)]
          rfl
      | true =>
          refine Or.inl ⟨rfl, rfl, ?_⟩
          rw [checkKey, if_pos hplayer, checkKey, if_pos hid]
          rfl

theorem loadSave_cases (library : Library) (player id : String) :
    (isKey player = true ∧ isKey id = true ∧
        library.loadSave player id = readRecord Save.codec (library.savePath player id)) ∨
      ∃ error, library.loadSave player id = .fail error :=
  checked_cases player id _

theorem saveProgress_cases (library : Library) (player id : String) (state : PlayerState)
    (now : Instant) :
    (isKey player = true ∧ isKey id = true ∧
        library.saveProgress player id state now =
          writeRecord Save.codec (library.savePath player id) ⟨state, some now⟩) ∨
      ∃ error, library.saveProgress player id state now = .fail error :=
  checked_cases player id _

theorem run_writeSave_withSaves (hplayer : isKey player = true) (hid : isKey id = true)
    (save : Save) (top : Entry) :
    (writeRecord Save.codec (library.savePath player id) save).run (library.withSaves top) =
      (writeRecord Save.codec (library.savePath player id) save).run top := by
  have hmade := Entry.makeFolders_makeFolders (Path.names library.root ++ ["saves"]) [player] top
  rw [List.append_assoc, List.singleton_append] at hmade
  rw [writeRecord, writeText, run, run, names_parent_savePath hplayer hid, withSaves, hmade]

/-- Where a file stands in place of the folder of the saves, a save does not get any further. -/
theorem run_writeSave_of_file (hbase : top.walk (Path.names library.root) = .ok (.folder entries))
    {content : Content} (hfile : Dict.lookup "saves" entries = some (.file content))
    (hplayer : isKey player = true) (hid : isKey id = true) (save : Save) :
    ((writeRecord Save.codec (library.savePath player id) save).run top).2 =
      library.withSaves top := by
  rw [writeRecord, writeText, run, names_parent_savePath hplayer hid,
    Entry.makeFolders_append hbase, withSaves, Entry.makeFolders_append hbase, Entry.makeFolders,
    Entry.makeFolders, if_neg (by decide), if_neg (by decide), hfile]
  rfl

/-- Whether there is something where the saves of a library are. -/
def HasSaves (library : Library) (top : Entry) : Prop :=
  ∃ entry, top.walk (Path.names library.root ++ ["saves"]) = .ok entry

theorem hasSaves_iff (hbase : top.walk (Path.names library.root) = .ok (.folder entries)) :
    library.HasSaves top ↔ ∃ inner, Dict.lookup "saves" entries = some inner := by
  have hshort : Entry.isTooLong "saves" = false := by decide
  simp only [HasSaves, Entry.walk_append hbase, Entry.walk_cons_eq_ok]
  constructor
  · rintro ⟨entry, _, inner, ⟨⟩, -, hlook, -⟩
    exact ⟨inner, hlook⟩
  · rintro ⟨inner, hlook⟩
    exact ⟨inner, entries, inner, rfl, hshort, hlook, rfl⟩

theorem saves_cases (hbase : top.walk (Path.names library.root) = .ok (.folder entries)) :
    (library.withSaves top).HasFolder (Path.names library.root ++ ["saves"]) ∨
      ∃ content, Dict.lookup "saves" entries = some (.file content) := by
  have hthere := walk_withSaves hbase
  cases hlook : Dict.lookup "saves" entries with
  | none =>
      rw [hlook] at hthere
      exact Or.inl ⟨_, hthere⟩
  | some inner =>
      rw [hlook] at hthere
      cases inner with
      | folder saves => exact Or.inl ⟨saves, hthere⟩
      | file content => exact Or.inr ⟨content, rfl⟩

/-- A folder for saves changes nothing about a save, unless it is the first one, and the name of the
player is too long. -/
theorem run_loadSave_withSaves (htop : library.HasRoot top)
    (hreads : Entry.isTooLong player = true → library.HasSaves top) (id : String) :
    ((library.loadSave player id).run (library.withSaves top)).1 =
      ((library.loadSave player id).run top).1 := by
  obtain ⟨entries, hbase⟩ := htop
  rcases library.loadSave_cases player id with ⟨hplayer, hid, hload⟩ | ⟨error, hload⟩
  · have hwalk : (library.withSaves top).walk (Path.names (library.savePath player id)) =
        top.walk (Path.names (library.savePath player id)) := by
      rw [names_savePath_cons hplayer hid, Entry.walk_append (walk_withSaves hbase),
        List.append_assoc, Entry.walk_append hbase]
      change _ = (Entry.folder entries).walk ("saves" :: player :: [id ++ ".json"])
      rw [Entry.walk, if_neg (by decide)]
      cases hlook : Dict.lookup "saves" entries with
      | some inner => rfl
      | none =>
          -- nothing is missing under a name that is too long, so that the two faults would differ
          have hshort : ¬Entry.isTooLong player = true := by
            intro hlong
            obtain ⟨inner, hthere⟩ := (hasSaves_iff hbase).mp (hreads hlong)
            cases hlook.symm.trans hthere
          rw [Option.getD_none, Entry.walk, if_neg hshort]
          rfl
    rw [hload]
    apply readRecord_congr
    rw [Entry.readText, Entry.readText, Entry.contents, Entry.contents, hwalk]
  · rw [hload]
    rfl

theorem loadSave_commutesOn_saveProgress (hne : player ≠ rival) (id other : String)
    (state : PlayerState) (now : Instant) :
    (library.loadSave player id).CommutesOn
      (fun top => library.HasRoot top ∧
        (Entry.isTooLong player = true → library.HasSaves top))
      (library.saveProgress rival other state now) := by
  refine (library.looks_loadSave player id).commutesOn ?_
  rintro top ⟨⟨entries, hbase⟩, hreads⟩
  have hsame := run_loadSave_withSaves ⟨entries, hbase⟩ hreads id
  have hbelow := (library.actsAt_loadSave_below player id).commutesOn
    (library.actsAt_saveProgress_below rival other state now) hne (library.withSaves top)
  rcases library.saveProgress_cases rival other state now with
    ⟨hrival, hother, hsave⟩ | ⟨error, hsave⟩
  · rw [hsave] at hbelow ⊢
    rcases saves_cases hbase with hfolder | ⟨content, hfile⟩
    · obtain ⟨-, hload, -⟩ := hbelow hfolder
      rw [run_writeSave_withSaves hrival hother] at hload
      exact hload.trans hsame
    · rw [run_writeSave_of_file hbase hfile hrival hother]
      exact hsame
  · rw [hsave]
    rfl

theorem saveProgress_commutesOn_saveProgress (hne : player ≠ rival) (id other : String)
    (state held : PlayerState) (now later : Instant) :
    (library.saveProgress player id state now).CommutesOn library.HasRoot
      (library.saveProgress rival other held later) := by
  have hbelow := (library.actsAt_saveProgress_below player id state now).commutesOn
    (library.actsAt_saveProgress_below rival other held later) hne
  rcases library.saveProgress_cases player id state now with ⟨hplayer, hid, hsave⟩ | ⟨error, hsave⟩
  · rcases library.saveProgress_cases rival other held later with
      ⟨hrival, hother, hheld⟩ | ⟨error, hheld⟩
    · rw [hsave, hheld] at hbelow ⊢
      rintro top ⟨entries, hbase⟩
      -- a save begins by making the folder of the saves, so that this may just as well be there
      rcases saves_cases hbase with hfolder | ⟨content, hfile⟩
      · have hboth := hbelow (library.withSaves top) hfolder
        rw [run_writeSave_withSaves hplayer hid, run_writeSave_withSaves hrival hother] at hboth
        exact hboth
      · simp only [run_writeSave_of_file hbase hfile hplayer hid,
          run_writeSave_of_file hbase hfile hrival hother, run_writeSave_withSaves hplayer hid,
          run_writeSave_withSaves hrival hother, and_self]
    · rw [hheld]
      exact ((Looks.fail error).commutesOn fun _ _ => rfl).symm
  · rw [hsave]
    exact (Looks.fail error).commutesOn fun _ _ => rfl

end Library

end Gamebook
