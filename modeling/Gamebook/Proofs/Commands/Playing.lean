import Gamebook.Commands.Playing
import Gamebook.Proofs.Library.Stores
import Gamebook.Proofs.Play.Run

namespace Gamebook

/-- The setting of a command that keeps the sessions in the file of its library. -/
def Library.setting (library : Library) (player : String) (now : Instant)
    (candidates : List String) : Setting :=
  ⟨library, .file library, player, now, candidates⟩

/-- Whether a player is in a story with some state, as the files of a library have it. -/
structure Playing (library : Library) (player : String) (session : Session) (story : Story)
    (state : PlayerState) (top : Entry) : Prop where
  player_key : isKey player = true
  story_key : isKey session.storyId = true
  in_session : library.InSession player session top
  offered : library.Offers session.storyId session.scope story top
  saved : library.InProgress player session.storyId state top

namespace Library

variable {library : Library} {player id other : String} {scope : Visibility} {top after : Entry}

theorem savePath_ne_sessionsPath (hplayer : isKey player = true) (hid : isKey id = true) :
    Path.names (library.savePath player id) ≠ Path.names library.sessionsPath := by
  rw [names_savePath library hplayer hid, names_sessionsPath]
  simp

theorem savePath_ne_storyPath (hplayer : isKey player = true) (hid : isKey id = true)
    (hother : isKey other = true) :
    Path.names (library.savePath player id) ≠ Path.names (library.storyPath scope other) := by
  rw [names_savePath library hplayer hid, names_storyPath library scope hother]
  simp

theorem sessionsPath_ne_storyPath (hid : isKey id = true) :
    Path.names library.sessionsPath ≠ Path.names (library.storyPath scope id) := by
  rw [names_sessionsPath, names_storyPath library scope hid]
  simp

theorem savePath_ne_savePath (hplayer : isKey player = true)
    (hid : isKey id = true) (hother : isKey other = true) (hne : id ≠ other) :
    Path.names (library.savePath player id) ≠ Path.names (library.savePath player other) := by
  rw [names_savePath library hplayer hid, names_savePath library hplayer hother]
  intro hsame
  have hfile : id ++ ".json" = other ++ ".json" := by simpa using hsame
  have hchars := congrArg String.toList hfile
  rw [String.toList_append, String.toList_append] at hchars
  exact hne (String.toList_inj.mp (List.append_cancel_right hchars))

theorem Offers.of_rewritten {path text : String} {story : Story}
    (hrewritten : top.Rewritten path text after)
    (hpath : Path.names path ≠ Path.names (library.storyPath scope id))
    (hoffers : library.Offers id scope story top) : library.Offers id scope story after := by
  obtain ⟨held, hcontents, hread⟩ := hoffers
  exact ⟨held, (hrewritten.kept _ _ hpath).mpr hcontents, hread⟩

theorem InProgress.of_rewritten {path text : String} {state : PlayerState}
    (hrewritten : top.Rewritten path text after)
    (hpath : Path.names path ≠ Path.names (library.savePath player id))
    (hprogress : library.InProgress player id state top) :
    library.InProgress player id state after := by
  obtain ⟨savedAt, hholds⟩ := hprogress
  exact ⟨savedAt, hrewritten.holds hpath hholds⟩

end Library

namespace Setting

variable {setting : Setting} {session : Session} {story : Story} {state : PlayerState} {turn : Turn}
  {sessions : SessionStore} {top after : Entry}

/-- Whether the player of a setting is in a story with some state, wherever sessions are kept. -/
structure Plays (setting : Setting) (session : Session) (story : Story) (state : PlayerState)
    (top : Entry) : Prop where
  player_key : isKey setting.player = true
  story_key : isKey session.storyId = true
  in_session : setting.sessions.Keeps setting.player session top
  offered : setting.library.Offers session.storyId session.scope story top
  saved : setting.library.InProgress setting.player session.storyId state top

theorem current_eq_ok :
    setting.current.run top = (.ok (story, state), after) ↔
      (∃ session, setting.Plays session story state top) ∧ after = top := by
  rw [current, FileAction.run_bind_eq_ok]
  constructor
  · rintro ⟨found, middle, hfound, hrest⟩
    cases found with
    | none => cases hrest
    | some session =>
        obtain ⟨hsession, rfl⟩ := SessionStore.get_eq_some.mp hfound
        obtain ⟨held, middle', hload, hstate⟩ := FileAction.run_bind_eq_ok.mp hrest
        obtain ⟨hkey, hoffers, rfl⟩ := Library.loadStory_eq_ok.mp hload
        obtain ⟨saved, middle'', hsaved, hpure⟩ := FileAction.run_bind_eq_ok.mp hstate
        cases saved with
        | none => cases hpure
        | some state =>
            obtain ⟨hplayer, -, hprogress, rfl⟩ := Library.loadProgress_eq_some.mp hsaved
            obtain ⟨hboth, rfl⟩ := FileAction.run_pure_eq_ok.mp hpure
            obtain ⟨rfl, rfl⟩ := Prod.mk.inj hboth
            exact ⟨⟨session, hplayer, hkey, hsession, hoffers, hprogress⟩, rfl⟩
  · rintro ⟨⟨session, hplays⟩, rfl⟩
    refine ⟨some session, after, SessionStore.get_eq_some.mpr ⟨hplays.in_session, rfl⟩, ?_⟩
    have hload : (setting.library.loadStory session.storyId session.scope).run after =
        (.ok story, after) :=
      Library.loadStory_eq_ok.mpr ⟨hplays.story_key, hplays.offered, rfl⟩
    have hsaved : (setting.library.loadProgress setting.player session.storyId).run after =
        (.ok (some state), after) :=
      Library.loadProgress_eq_some.mpr ⟨hplays.player_key, hplays.story_key, hplays.saved, rfl⟩
    simp only
    refine (FileAction.run_bind_of_ok hload _).trans ?_
    refine (FileAction.run_bind_of_ok hsaved _).trans ?_
    rfl

theorem Plays.unique {session' : Session} {story' : Story} {state' : PlayerState}
    (hplays : setting.Plays session story state top)
    (hother : setting.Plays session' story' state' top) : session' = session ∧ state' = state := by
  obtain rfl := hplays.in_session.unique hother.in_session
  obtain ⟨savedAt, hsaved⟩ := hplays.saved
  obtain ⟨savedAt', hsaved'⟩ := hother.saved
  exact ⟨rfl, congrArg Save.state (hsaved'.unique hsaved)⟩

theorem Plays.of_other_id {id : String} {next : PlayerState}
    (hof : setting.sessions.IsOf setting.library) (hplays : setting.Plays session story state top)
    (hid : session.storyId ≠ id)
    (hsave : (setting.library.saveProgress setting.player id next setting.now).run top =
      (.ok (), after)) : setting.Plays session story state after := by
  obtain ⟨hplayer, hkey, hwritten⟩ := Library.saveProgress_eq_ok hsave
  have hstory := hplays.story_key
  refine ⟨hplayer, hstory, ?_, ?_, ?_⟩
  · exact hplays.in_session.of_rewritten hof hwritten
      (Library.savePath_ne_sessionsPath hplayer hkey)
  · exact hplays.offered.of_rewritten hwritten
      (Library.savePath_ne_storyPath hplayer hkey hstory)
  · exact hplays.saved.of_rewritten hwritten
      (Library.savePath_ne_savePath hplayer hkey hstory (Ne.symm hid))

theorem Plays.of_same_id {next : PlayerState} (hof : setting.sessions.IsOf setting.library)
    (hnow : setting.now.IsMoment) (hplays : setting.Plays session story state top)
    (hsave : (setting.library.saveProgress setting.player session.storyId next setting.now).run
      top = (.ok (), after)) : setting.Plays session story next after := by
  obtain ⟨hplayer, hkey, hwritten⟩ := Library.saveProgress_eq_ok hsave
  refine ⟨hplayer, hkey, ?_, ?_, ?_⟩
  · exact hplays.in_session.of_rewritten hof hwritten
      (Library.savePath_ne_sessionsPath hplayer hkey)
  · exact hplays.offered.of_rewritten hwritten (Library.savePath_ne_storyPath hplayer hkey hkey)
  · exact Library.inProgress_of_saveProgress hnow hsave

theorem stepped_eq_ok {step : Except PlayError Turn} :
    (stepped step).run top = (.ok turn, after) ↔ step = .ok turn ∧ after = top := by
  rw [stepped, FileAction.run_ofExcept, Prod.mk.injEq]
  cases step with
  | error error =>
      change (Except.error _ = Except.ok _ ∧ _) ↔ _
      simp only [reduceCtorEq, false_and]
  | ok made =>
      change (Except.ok made = .ok turn ∧ top = after) ↔ _
      simp only [Except.ok.injEq, eq_comm]

theorem beginStory_eq_ok {scope : Visibility} :
    (setting.beginStory story scope).run top = (.ok (turn, sessions), after) ↔
      story.startPlay setting.player = .ok turn ∧ ∃ saved,
        (setting.library.saveProgress setting.player story.id turn.1 setting.now).run top =
          (.ok (), saved) ∧
        (setting.sessions.put setting.player ⟨story.id, scope⟩).run saved =
          (.ok sessions, after) := by
  rw [beginStory, FileAction.run_bind_eq_ok]
  constructor
  · rintro ⟨begun, middle, hstep, hrest⟩
    obtain ⟨hstart, rfl⟩ := stepped_eq_ok.mp hstep
    obtain ⟨⟨⟩, saved, hsave, hrest⟩ := FileAction.run_bind_eq_ok.mp hrest
    obtain ⟨store, written, hput, hpure⟩ := FileAction.run_bind_eq_ok.mp hrest
    obtain ⟨hboth, rfl⟩ := FileAction.run_pure_eq_ok.mp hpure
    obtain ⟨rfl, rfl⟩ := Prod.mk.inj hboth
    exact ⟨hstart, saved, FileAction.run_mapError_eq_ok.mp hsave,
      FileAction.run_mapError_eq_ok.mp hput⟩
  · rintro ⟨hstart, saved, hsave, hput⟩
    refine ⟨turn, top, stepped_eq_ok.mpr ⟨hstart, rfl⟩, ?_⟩
    refine (FileAction.run_bind_of_ok (FileAction.run_mapError_eq_ok.mpr hsave) _).trans ?_
    exact FileAction.run_bind_of_ok (FileAction.run_mapError_eq_ok.mpr hput) _

theorem listedStory_eq_ok {id : String} :
    (setting.listedStory id).run top = (.ok story, after) ↔
      (setting.library.loadStory id .listed).run top = (.ok story, after) := by
  rw [listedStory, FileAction.run_bind, FileAction.run_attempt]
  cases (setting.library.loadStory id .listed).run top with
  | mk result folder =>
      cases result with
      | ok held =>
          simp only [FileAction.run_pure, Prod.mk.injEq, Except.ok.injEq]
      | error error =>
          constructor
          · intro hrun
            cases error with
            | storyNotFound missing scope =>
                obtain ⟨listed, middle, -, hfail⟩ := FileAction.run_bind_eq_ok.mp hrun
                cases hfail
            | _ => cases hrun
          · intro hrun
            cases hrun

theorem startListed_eq_ok {id : String} :
    (setting.startListed id).run top = (.ok (story, turn, sessions), after) ↔
      (setting.library.loadStory id .listed).run top = (.ok story, top) ∧
        (setting.beginStory story .listed).run top = (.ok (turn, sessions), after) := by
  rw [startListed, FileAction.run_bind_eq_ok]
  constructor
  · rintro ⟨held, middle, hlisted, hrest⟩
    have hload := listedStory_eq_ok.mp hlisted
    obtain ⟨-, -, rfl⟩ := Library.loadStory_eq_ok.mp hload
    obtain ⟨⟨begun, store⟩, folder, hbegin, hpure⟩ := FileAction.run_bind_eq_ok.mp hrest
    obtain ⟨hall, rfl⟩ := FileAction.run_pure_eq_ok.mp hpure
    cases hall
    exact ⟨hload, hbegin⟩
  · rintro ⟨hload, hbegin⟩
    refine ⟨story, top, listedStory_eq_ok.mpr hload, ?_⟩
    exact FileAction.run_bind_of_ok hbegin _

theorem startByCode_eq_ok {code : String} :
    (setting.startByCode code).run top = (.ok (story, turn, sessions), after) ↔
      ∃ id, (setting.library.loadByCode code).run top = (.ok (id, story), top) ∧
        (setting.beginStory story .unlisted).run top = (.ok (turn, sessions), after) := by
  rw [startByCode, FileAction.run_bind_eq_ok]
  constructor
  · rintro ⟨⟨id, held⟩, middle, hask, hrest⟩
    have hload := FileAction.run_mapError_eq_ok.mp hask
    obtain ⟨-, -, -, rfl⟩ := Library.loadByCode_eq_ok.mp hload
    obtain ⟨⟨begun, store⟩, folder, hbegin, hpure⟩ := FileAction.run_bind_eq_ok.mp hrest
    obtain ⟨hall, rfl⟩ := FileAction.run_pure_eq_ok.mp hpure
    cases hall
    exact ⟨id, hload, hbegin⟩
  · rintro ⟨id, hload, hbegin⟩
    refine ⟨(id, story), top, FileAction.run_mapError_eq_ok.mpr hload, ?_⟩
    exact FileAction.run_bind_of_ok hbegin _

theorem takeChoice_eq_ok {index : Nat} :
    (setting.takeChoice index).run top = (.ok (story, turn), after) ↔
      ∃ session state, setting.Plays session story state top ∧ story.choose state index = .ok turn ∧
        (setting.library.saveProgress setting.player story.id turn.1 setting.now).run top =
          (.ok (), after) := by
  rw [takeChoice, FileAction.run_bind_eq_ok]
  constructor
  · rintro ⟨⟨held, state⟩, middle, hask, hrest⟩
    obtain ⟨⟨session, hplays⟩, rfl⟩ := current_eq_ok.mp (FileAction.run_mapError_eq_ok.mp hask)
    obtain ⟨made, folder, hstep, hsaving⟩ := FileAction.run_bind_eq_ok.mp hrest
    obtain ⟨hchoose, rfl⟩ := stepped_eq_ok.mp hstep
    obtain ⟨⟨⟩, saved, hsave, hpure⟩ := FileAction.run_bind_eq_ok.mp hsaving
    obtain ⟨hboth, rfl⟩ := FileAction.run_pure_eq_ok.mp hpure
    obtain ⟨rfl, rfl⟩ := Prod.mk.inj hboth
    exact ⟨session, state, hplays, hchoose, FileAction.run_mapError_eq_ok.mp hsave⟩
  · rintro ⟨session, state, hplays, hchoose, hsave⟩
    have hcurrent := current_eq_ok.mpr ⟨⟨session, hplays⟩, Eq.refl top⟩
    refine ⟨(story, state), top, FileAction.run_mapError_eq_ok.mpr hcurrent, ?_⟩
    refine (FileAction.run_bind_of_ok (stepped_eq_ok.mpr ⟨hchoose, rfl⟩) _).trans ?_
    exact FileAction.run_bind_of_ok (FileAction.run_mapError_eq_ok.mpr hsave) _

end Setting

section

variable {library : Library} {player : String} {now : Instant} {candidates : List String}
  {session : Session} {story : Story} {state : PlayerState} {top after : Entry}

theorem plays_iff :
    (library.setting player now candidates).Plays session story state top ↔
      Playing library player session story state top := by
  constructor
  · rintro ⟨hplayer, hkey, hsession, hoffered, hsaved⟩
    exact ⟨hplayer, hkey, hsession, hoffered, hsaved⟩
  · rintro ⟨hplayer, hkey, hsession, hoffered, hsaved⟩
    exact ⟨hplayer, hkey, hsession, hoffered, hsaved⟩

theorem current_eq_ok :
    (library.setting player now candidates).current.run top = (.ok (story, state), after) ↔
      (∃ session, Playing library player session story state top) ∧ after = top := by
  rw [Setting.current_eq_ok]
  simp only [plays_iff]

theorem run_ask_current (hplaying : Playing library player session story state top) :
    (ask (library.setting player now candidates).current).run top = (.ok (story, state), top) :=
  FileAction.run_mapError_eq_ok.mpr (current_eq_ok.mpr ⟨⟨session, hplaying⟩, rfl⟩)

theorem run_lookAgain (hplaying : Playing library player session story state top) :
    (library.setting player now candidates).lookAgain.run top =
      (((story.resume state).mapError .play).map fun turn => (story, turn), top) := by
  rw [Setting.lookAgain, FileAction.run_bind_of_ok (run_ask_current hplaying)]
  simp only [Setting.stepped]
  rw [FileAction.run_bind, FileAction.run_ofExcept]
  cases story.resume state <;> rfl

theorem lookAgain_eq_ok {turn : Turn}
    (hrun : (library.setting player now candidates).lookAgain.run top =
      (.ok (story, turn), after)) :
    ∃ session saved scene, Playing library player session story saved after ∧
      story.scene? saved.currentScene = some scene ∧ turn = scene.visit saved := by
  obtain ⟨⟨held, saved⟩, middle, hask, hrest⟩ := FileAction.run_bind_eq_ok.mp hrun
  obtain ⟨⟨session, hplaying⟩, rfl⟩ := current_eq_ok.mp (FileAction.run_mapError_eq_ok.mp hask)
  obtain ⟨shown, folder, hstep, hpure⟩ := FileAction.run_bind_eq_ok.mp hrest
  obtain ⟨hboth, rfl⟩ := FileAction.run_pure_eq_ok.mp hpure
  obtain ⟨rfl, rfl⟩ := Prod.mk.inj hboth
  rw [Setting.stepped, Story.resume, Story.enter_eq, FileAction.run_ofExcept] at hstep
  cases hscene : held.scene? saved.currentScene with
  | none =>
      rw [hscene] at hstep
      cases hstep
  | some scene =>
      rw [hscene] at hstep
      cases hstep
      exact ⟨session, saved, scene, hplaying, hscene, rfl⟩

theorem run_takeChoice_of_error (hplaying : Playing library player session story state top)
    {index : Nat} {error : PlayError} (hchoose : story.choose state index = .error error) :
    ((library.setting player now candidates).takeChoice index).run top =
      (.error (.play error), top) := by
  rw [Setting.takeChoice, FileAction.run_bind_of_ok (run_ask_current hplaying)]
  simp only [Setting.stepped, hchoose]
  rfl

theorem playing_of_beginStory {scope : Visibility} {turn : Turn} {sessions : SessionStore}
    (hnow : now.IsMoment) (hoffered : library.Offers story.id scope story top)
    (hrun : ((library.setting player now candidates).beginStory story scope).run top =
      (.ok (turn, sessions), after)) :
    story.startPlay player = .ok turn ∧ sessions = .file library ∧
      Playing library player ⟨story.id, scope⟩ story turn.1 after := by
  obtain ⟨hstart, saved, hsave, hput⟩ := Setting.beginStory_eq_ok.mp hrun
  obtain ⟨hplayer, hkey, hsaved⟩ := Library.saveProgress_eq_ok hsave
  obtain ⟨hstore, held, hwritten⟩ := Library.put_eq_ok hput
  refine ⟨hstart, hstore, hplayer, hkey, Library.inSession_of_put hput, ?_, ?_⟩
  · refine Library.Offers.of_rewritten hwritten (Library.sessionsPath_ne_storyPath hkey) ?_
    exact Library.Offers.of_rewritten hsaved
      (Library.savePath_ne_storyPath hplayer hkey hkey) hoffered
  · exact Library.InProgress.of_rewritten hwritten
      (Library.savePath_ne_sessionsPath hplayer hkey).symm
      (Library.inProgress_of_saveProgress hnow hsave)

theorem exists_takeChoice (hplaying : Playing library player session story state top)
    (hid : session.storyId = story.id) (hnow : now.IsMoment) {index : Nat} {turn : Turn}
    (hchoose : story.choose state index = .ok turn) (candidates : List String) :
    ∃ after, ((library.setting player now candidates).takeChoice index).run top =
        (.ok (story, turn), after) ∧
      Playing library player session story turn.1 after := by
  have hplays : (library.setting player now candidates).Plays session story state top :=
    plays_iff.mpr hplaying
  obtain ⟨after, hsave⟩ := Library.exists_saveProgress hplaying.player_key hplaying.story_key
    hplaying.saved turn.1 now
  refine ⟨after, ?_, plays_iff.mp (hplays.of_same_id rfl hnow hsave)⟩
  rw [hid] at hsave
  exact Setting.takeChoice_eq_ok.mpr ⟨session, state, hplays, hchoose, hsave⟩

end

/-- A scene that gives the key which one of its choices asks for. -/
def keyScene : Scene where
  text := "A key lies here.\x7bITEM:add:Key\x7d"
  choices := [⟨"Open", Story.defaultStart, some ⟨["Key"], ∅⟩⟩, ⟨"Wait", Story.defaultStart, none⟩]

/-- A story that goes round in such a scene. -/
def Story.keyed : Story :=
  (fresh "cave" "The Cave" "").putScene defaultStart keyScene

theorem ensureValid_keyed : Story.keyed.ensureValid = .ok () :=
  if_pos (by decide +kernel)

theorem exists_files_keyed (state : PlayerState) :
    ∃ stored saved begun,
      (Library.here.writeStory Story.keyed .listed).run (.folder []) = (.ok (), stored) ∧
        (Library.here.saveProgress "ada" "cave" state .epoch).run stored = (.ok (), saved) ∧
        ((SessionStore.file Library.here).put "ada" ⟨"cave", .listed⟩).run saved =
          (.ok (.file Library.here), begun) := by
  refine ⟨_, _, _, FileAction.run_eq_of_fst ?_, FileAction.run_eq_of_fst ?_,
    FileAction.run_eq_of_fst ?_⟩
  · rfl
  · rfl
  · rfl

end Gamebook
