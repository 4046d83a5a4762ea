import Gamebook.Commands.Command
import Gamebook.Proofs.Commands.PrintedChoices
import Gamebook.Proofs.Library.Sharing

/-!
What a command of a player that fails has done to the files. Most failures are found before anything
is written. Only a story that begins is written twice, first the save and then the session, so that
the save of the player is replaced when the sessions cannot be read. Every other failure changes
nothing (`PlayerCommand.sameFiles_of_error_iff`).
-/

namespace Gamebook

open FileAction

namespace Library

variable {library : Library} {player id : String} {state : PlayerState} {now : Instant}
  {entries : List (String × Entry)} {sessions : Dict Session} {top after : Entry}

theorem exists_folder_of_offers {scope : Visibility} {story : Story} (hid : isKey id = true)
    (hoffers : library.Offers id scope story top) :
    ∃ entries, top.walk (Path.names library.root) = .ok (.folder entries) := by
  obtain ⟨text, hcontents, -⟩ := hoffers
  rw [names_storyPath library scope hid] at hcontents
  exact Entry.exists_folder_of_contents hcontents

theorem all_of_saveProgress (hfolder : top.walk (Path.names library.root) = .ok (.folder entries))
    (hall : (SessionStore.file library).all.run top = (.ok sessions, top))
    (hsave : (library.saveProgress player id state now).run top = (.ok (), after)) :
    (∃ entries, after.walk (Path.names library.root) = .ok (.folder entries)) ∧
      (SessionStore.file library).all.run after = (.ok sessions, after) := by
  have htop : library.HasRoot top := ⟨entries, hfolder⟩
  have hread := run_all_of_saveProgress htop hsave
  rw [hall] at hread
  exact ⟨hasRoot_of_saveProgress htop hsave, hread⟩

end Library

namespace Setting

variable {setting : Setting} {story : Story} {scope : Visibility} {error : CommandError}
  {top after : Entry}

theorem looks_current (setting : Setting) : setting.current.Looks := by
  refine (looks_get _ _).bind ?_
  rintro (_ | session)
  · exact .fail _
  · refine (setting.library.looks_loadStory _ _).bind fun story => ?_
    refine (setting.library.looks_loadProgress _ _).bind ?_
    rintro (_ | state)
    · exact .fail _
    · exact .done (story, state)

theorem looks_lookAgain (setting : Setting) : setting.lookAgain.Looks :=
  (setting.looks_current.mapError _).bind fun _ => (Looks.ofExcept _).bind fun _ => .done _

theorem looks_listedStory (setting : Setting) (id : String) : (setting.listedStory id).Looks := by
  refine (setting.library.looks_loadStory _ _).attempt.bind fun found => ?_
  split
  · exact .done _
  · exact (setting.library.looks_listedStories.mapError _).bind fun listed => .fail _
  · exact .fail _

theorem sameFiles_of_takeChoice {index : Nat}
    (hrun : (setting.takeChoice index).run top = (.error error, after)) : top.SameFiles after := by
  rcases (setting.looks_current.mapError _).bind_eq_error hrun with rfl | ⟨⟨story, state⟩, -, hrest⟩
  · exact .refl _
  · rcases (Looks.ofExcept _).bind_eq_error hrest with rfl | ⟨turn, -, hsaving⟩
    · exact .refl _
    · have hsave := run_bind_pure_eq_error.mp hsaving
      obtain ⟨cause, hsave, -⟩ := run_mapError_eq_error.mp hsave
      exact Library.sameFiles_of_saveProgress hsave

theorem beginStory_eq_error
    (hrun : (setting.beginStory story scope).run top = (.error error, after)) :
    (∃ cause, story.startPlay setting.player = .error cause ∧ after = top) ∨
      ∃ turn, story.startPlay setting.player = .ok turn ∧
        ((∃ cause, (setting.library.saveProgress setting.player story.id turn.1 setting.now).run top =
            (.error cause, after)) ∨
          ∃ saved cause,
            (setting.library.saveProgress setting.player story.id turn.1 setting.now).run top =
              (.ok (), saved) ∧
            (setting.sessions.put setting.player ⟨story.id, scope⟩).run saved =
              (.error cause, after)) := by
  rcases run_bind_eq_error.mp hrun with hstep | ⟨turn, middle, hstep, hrest⟩
  · left
    rw [stepped, run_ofExcept] at hstep
    cases hstart : story.startPlay setting.player with
    | ok turn =>
        rw [hstart] at hstep
        cases hstep
    | error cause => exact ⟨cause, rfl, (Prod.mk.inj hstep).2.symm⟩
  · right
    obtain ⟨hstart, rfl⟩ := stepped_eq_ok.mp hstep
    refine ⟨turn, hstart, ?_⟩
    rcases run_bind_eq_error.mp hrest with hsave | ⟨⟨⟩, saved, hsave, hputting⟩
    · obtain ⟨cause, hsave, -⟩ := run_mapError_eq_error.mp hsave
      exact Or.inl ⟨cause, hsave⟩
    · right
      have hput := run_bind_pure_eq_error.mp hputting
      obtain ⟨cause, hput, -⟩ := run_mapError_eq_error.mp hput
      exact ⟨saved, cause, run_mapError_eq_ok.mp hsave, hput⟩

theorem startListed_eq_error {id : String}
    (hrun : (setting.startListed id).run top = (.error error, after)) :
    (after = top ∧ ∀ story, (setting.library.loadStory id .listed).run top ≠ (.ok story, top)) ∨
      ∃ story, (setting.library.loadStory id .listed).run top = (.ok story, top) ∧
        (setting.beginStory story .listed).run top = (.error error, after) := by
  rcases run_bind_eq_error.mp hrun with hlisted | ⟨story, middle, hlisted, hrest⟩
  · left
    refine ⟨(setting.looks_listedStory id).folder_eq hlisted, ?_⟩
    intro story hload
    cases hlisted.symm.trans (listedStory_eq_ok.mpr hload)
  · right
    have hload := listedStory_eq_ok.mp hlisted
    obtain ⟨-, -, rfl⟩ := Library.loadStory_eq_ok.mp hload
    exact ⟨story, hload, run_bind_pure_eq_error.mp hrest⟩

theorem startByCode_eq_error {code : String}
    (hrun : (setting.startByCode code).run top = (.error error, after)) :
    (after = top ∧
        ∀ id story, (setting.library.loadByCode code).run top ≠ (.ok (id, story), top)) ∨
      ∃ id story, (setting.library.loadByCode code).run top = (.ok (id, story), top) ∧
        (setting.beginStory story .unlisted).run top = (.error error, after) := by
  rcases run_bind_eq_error.mp hrun with hfound | ⟨⟨id, story⟩, middle, hfound, hrest⟩
  · left
    refine ⟨((setting.library.looks_loadByCode code).mapError _).folder_eq hfound, ?_⟩
    intro id story hload
    cases hfound.symm.trans (run_mapError_eq_ok.mpr hload)
  · right
    have hload := run_mapError_eq_ok.mp hfound
    obtain ⟨-, -, -, rfl⟩ := Library.loadByCode_eq_ok.mp hload
    exact ⟨id, story, hload, run_bind_pure_eq_error.mp hrest⟩

end Setting

theorem Command.looks_resume (setting : Setting) : (Command.resume.run setting).Looks :=
  (setting.looks_lookAgain.bind fun _ => .done _).bind fun _ => .done _

theorem Command.looks_status (setting : Setting) : (Command.status.run setting).Looks :=
  ((setting.looks_current.bind fun _ => .done _).mapError _).bind fun _ => .done _

/-- What a player can ask for. -/
inductive PlayerCommand where
  | play (id : String)
  | playCode (code : String)
  | choose (index : Nat)
  | resume
  | status

namespace PlayerCommand

def command : PlayerCommand → Command
  | .play id => .play id
  | .playCode code => .playCode code
  | .choose index => .choose index
  | .resume => .resume
  | .status => .status

/-- Whether a story is the one that is to begin. -/
def Finds (library : Library) (top : Entry) (story : Story) : PlayerCommand → Prop
  | .play id => (library.loadStory id .listed).run top = (.ok story, top)
  | .playCode code => ∃ id, (library.loadByCode code).run top = (.ok (id, story), top)
  | .choose _ => False
  | .resume => False
  | .status => False

/-- Whether a command comes as far as to save the first turn of a story. -/
structure Saves (library : Library) (player : String) (now : Instant) (top : Entry)
    (asked : PlayerCommand) (story : Story) (turn : Turn) (saved : Entry) : Prop where
  finds : asked.Finds library top story
  starts : story.startPlay player = .ok turn
  saves : (library.saveProgress player story.id turn.1 now).run top = (.ok (), saved)

variable {library : Library} {player : String} {now : Instant} {candidates : List String}
  {asked : PlayerCommand} {story : Story} {turn : Turn} {error : CommandError}
  {top saved after : Entry}

theorem Finds.unique {other : Story} (hstory : asked.Finds library top story)
    (hother : asked.Finds library top other) : other = story := by
  cases asked with
  | play id =>
      cases hstory.symm.trans hother
      rfl
  | playCode code =>
      obtain ⟨id, hstory⟩ := hstory
      obtain ⟨id', hother⟩ := hother
      cases hstory.symm.trans hother
      rfl
  | choose index => cases hstory
  | resume => cases hstory
  | status => cases hstory

theorem Saves.unique {story' : Story} {turn' : Turn} {saved' : Entry}
    (hsaves : asked.Saves library player now top story turn saved)
    (hother : asked.Saves library player now top story' turn' saved') :
    story' = story ∧ turn' = turn := by
  obtain rfl := hsaves.finds.unique hother.finds
  exact ⟨rfl, Except.ok.inj (hother.starts.symm.trans hsaves.starts)⟩

theorem Finds.exists_folder (hfinds : asked.Finds library top story) :
    ∃ entries, top.walk (Path.names library.root) = .ok (.folder entries) := by
  cases asked with
  | play id =>
      obtain ⟨hid, hoffers, -⟩ := Library.loadStory_eq_ok.mp hfinds
      exact Library.exists_folder_of_offers hid hoffers
  | playCode code =>
      obtain ⟨id, hload⟩ := hfinds
      obtain ⟨-, hid, hoffers, -⟩ := Library.loadByCode_eq_ok.mp hload
      exact Library.exists_folder_of_offers hid hoffers
  | choose index => cases hfinds
  | resume => cases hfinds
  | status => cases hfinds

/-- How far a command comes that fails: not as far as to save anything, or just as far as to save the
first turn of a story, whose session is not put. -/
inductive Fails (library : Library) (player : String) (now : Instant) (top after : Entry)
    (asked : PlayerCommand) : Prop where
  | early : top.SameFiles after →
    (∀ story turn saved, ¬asked.Saves library player now top story turn saved) →
    Fails library player now top after asked
  | late {story : Story} {turn : Turn} {saved : Entry} (scope : Visibility) (cause : LibraryError) :
    asked.Saves library player now top story turn saved →
    ((SessionStore.file library).put player ⟨story.id, scope⟩).run saved = (.error cause, after) →
    Fails library player now top after asked

theorem fails_of_beginStory {scope : Visibility} (hfinds : asked.Finds library top story)
    (hrun : ((library.setting player now candidates).beginStory story scope).run top =
      (.error error, after)) : asked.Fails library player now top after := by
  rcases Setting.beginStory_eq_error hrun with
    ⟨cause, hstart, rfl⟩ | ⟨turn, hstart, ⟨cause, hsave⟩ | ⟨saved, cause, hsave, hput⟩⟩
  · refine .early (.refl _) fun other turn saved hsaves => ?_
    obtain rfl := hfinds.unique hsaves.finds
    cases hstart.symm.trans hsaves.starts
  · refine .early (Library.sameFiles_of_saveProgress hsave) fun other turn' saved hsaves => ?_
    obtain rfl := hfinds.unique hsaves.finds
    cases hstart.symm.trans hsaves.starts
    cases hsave.symm.trans hsaves.saves
  · exact .late scope cause ⟨hfinds, hstart, hsave⟩ hput

theorem fails_of_error
    (hrun : (asked.command.run (library.setting player now candidates)).run top =
      (.error error, after)) : asked.Fails library player now top after := by
  cases asked with
  | play id =>
      have hstart := run_bind_pure_eq_error.mp hrun
      rcases Setting.startListed_eq_error hstart with ⟨rfl, hnone⟩ | ⟨story, hload, hbegin⟩
      · exact .early (.refl _) fun story turn saved hsaves => hnone story hsaves.finds
      · exact fails_of_beginStory hload hbegin
  | playCode code =>
      have hstart := run_bind_pure_eq_error.mp hrun
      rcases Setting.startByCode_eq_error hstart with ⟨rfl, hnone⟩ | ⟨id, story, hload, hbegin⟩
      · refine .early (.refl _) fun story turn saved hsaves => ?_
        obtain ⟨id, hload⟩ := hsaves.finds
        exact hnone id story hload
      · exact fails_of_beginStory ⟨id, hload⟩ hbegin
  | choose index =>
      refine .early ?_ fun story turn saved hsaves => hsaves.finds
      have htake := run_bind_pure_eq_error.mp hrun
      exact Setting.sameFiles_of_takeChoice (run_bind_pure_eq_error.mp htake)
  | resume =>
      rw [(Command.looks_resume _).folder_eq hrun]
      exact .early (.refl _) fun story turn saved hsaves => hsaves.finds
  | status =>
      rw [(Command.looks_status _).folder_eq hrun]
      exact .early (.refl _) fun story turn saved hsaves => hsaves.finds

theorem Saves.exists_put {sessions : Dict Session}
    (hsaves : asked.Saves library player now top story turn saved) (scope : Visibility)
    (hall : (SessionStore.file library).all.run top = (.ok sessions, top)) :
    ∃ after, ((SessionStore.file library).put player ⟨story.id, scope⟩).run saved =
      (.ok (.file library), after) := by
  obtain ⟨hplayer, -, -⟩ := Library.saveProgress_eq_ok hsaves.saves
  obtain ⟨entries, hfolder⟩ := hsaves.finds.exists_folder
  obtain ⟨⟨entries, hthere⟩, hread⟩ := Library.all_of_saveProgress hfolder hall hsaves.saves
  exact Library.exists_put hplayer hthere hread _

/-- A command that fails leaves every file as it was exactly if the sessions can be read, or it
saves nothing but what is saved already. -/
theorem sameFiles_of_error_iff
    (hrun : (asked.command.run (library.setting player now candidates)).run top =
      (.error error, after)) :
    top.SameFiles after ↔
      (∃ sessions, (SessionStore.file library).all.run top = (.ok sessions, top)) ∨
        ∀ story turn saved, asked.Saves library player now top story turn saved →
          top.contents (Path.names (library.savePath player story.id)) =
            .ok (.text (Save.codec.write ⟨turn.1, some now⟩ ++ "\n")) := by
  cases fails_of_error hrun with
  | early hsame hnone =>
      refine iff_of_true hsame (Or.inr fun story turn saved hsaves => ?_)
      exact absurd hsaves (hnone story turn saved)
  | @late story turn saved scope cause hsaves hput =>
      obtain ⟨-, -, hsaved⟩ := Library.saveProgress_eq_ok hsaves.saves
      have hafter : saved.SameFiles after := Library.sameFiles_of_put hput
      constructor
      · intro hsame
        refine Or.inr fun story' turn' saved' hother => ?_
        obtain ⟨rfl, rfl⟩ := hsaves.unique hother
        exact hsaved.sameFiles_iff.mp (hsame.trans hafter.symm)
      · rintro (⟨sessions, hall⟩ | hheld)
        · obtain ⟨written, hdone⟩ := hsaves.exists_put scope hall
          cases hput.symm.trans hdone
        · exact (hsaved.sameFiles_iff.mpr (hheld story turn saved hsaves)).trans hafter

end PlayerCommand

theorem sameFiles_keyed :
    ∃ top after error, Playing Library.here "ada" ⟨"cave", .listed⟩ Story.keyed keyless top ∧
      ((PlayerCommand.choose 7).command.run (Library.here.setting "ada" .epoch [])).run top =
        (.error error, after) ∧
      top.SameFiles after := by
  obtain ⟨top, hplaying⟩ := exists_playing_keyed keyless
  have hchoose : Story.keyed.choose keyless 7 = .error (.invalidChoice 7 1) := by decide +kernel
  have htake : ((Library.here.setting "ada" .epoch []).takeChoice 7).run top =
      (.error (.play (.invalidChoice 7 1)), top) := run_takeChoice_of_error hplaying hchoose
  have hrun : ((PlayerCommand.choose 7).command.run (Library.here.setting "ada" .epoch [])).run top =
      (.error (.play (.invalidChoice 7 1)), top) := by
    refine run_bind_pure_eq_error.mpr ?_
    exact run_bind_pure_eq_error.mpr htake
  obtain ⟨sessions, hsessions, -⟩ := hplaying.in_session
  have hall : (SessionStore.file Library.here).all.run top = (.ok sessions, top) :=
    run_bind_of_ok (Library.readRecord_eq_some.mpr ⟨hsessions, rfl⟩) _
  exact ⟨top, top, _, hplaying, hrun,
    (PlayerCommand.sameFiles_of_error_iff hrun).mpr (Or.inl ⟨sessions, hall⟩)⟩

/-- A player who waited in the scene of the key. -/
def waited : PlayerState :=
  { keyless with history := [⟨Story.defaultStart, "Wait"⟩] }

/-- A library with a story, a save in it, and a file of sessions that is cut off at its beginning. -/
def cutOff : Entry :=
  .folder
    [("saves", .folder [("ada", .folder
      [("cave.json", .file (.text (Save.codec.write ⟨waited, some .epoch⟩ ++ "\n")))])]),
     ("sessions.json", .file (.text "")),
     ("stories", .folder [("public", .folder [("cave", .folder
      [("config.json", .file (.text (Story.keyed.write ++ "\n")))])])])]

theorem put_unread {top : Entry} {session : Session}
    (hempty : top.contents (Path.names Library.here.sessionsPath) = .ok (.text "")) :
    ∃ cause, ((SessionStore.file Library.here).put "ada" session).run top = (.error cause, top) := by
  obtain ⟨error, hread⟩ := Library.readTable_of_empty Session.codec hempty
  have hall : (SessionStore.file Library.here).all.run top =
      (.error (.badRecord Library.here.sessionsPath error), top) := run_bind_of_error hread _
  refine ⟨.badRecord Library.here.sessionsPath error, run_bind_eq_error.mpr (Or.inr ?_)⟩
  exact ⟨(), top, rfl, run_bind_eq_error.mpr (Or.inl hall)⟩

/-- A player who begins a story anew while the sessions cannot be read is told that this failed, and
the save is replaced all the same. -/
theorem exists_save_replaced :
    ∃ error after fresh,
      ((PlayerCommand.play "cave").command.run (Library.here.setting "ada" .epoch [])).run cutOff =
          (.error error, after) ∧
        Library.here.InProgress "ada" "cave" waited cutOff ∧
        Library.here.InProgress "ada" "cave" fresh after ∧ fresh.history = [] ∧
        ¬cutOff.SameFiles after := by
  have hscene : Story.keyed.scene? Story.keyed.start = some keyScene := by decide
  obtain ⟨turn, hstart, hfresh⟩ :
      ∃ turn, Story.keyed.startPlay "ada" = .ok turn ∧ turn.1.history = [] := by
    refine ⟨_, Story.startPlay_of_scene hscene "ada", ?_⟩
    rw [Scene.history_visit, PlayerState.history_begin]
  have hoffers : Library.here.Offers "cave" .listed Story.keyed cutOff := by
    refine ⟨_, ?_, Story.readValid_eq_ok.mpr ⟨Story.read_write_line _, ensureValid_keyed⟩⟩
    rw [Library.names_storyPath _ _ (by decide)]
    rfl
  obtain ⟨saved, hsave⟩ : ∃ saved,
      (Library.here.saveProgress "ada" "cave" turn.1 .epoch).run cutOff = (.ok (), saved) :=
    ⟨_, FileAction.run_eq_of_fst rfl⟩
  obtain ⟨hplayer, hkey, hsaved⟩ := Library.saveProgress_eq_ok hsave
  obtain ⟨cause, hput⟩ : ∃ cause,
      ((SessionStore.file Library.here).put "ada" ⟨"cave", .listed⟩).run saved =
        (.error cause, saved) := by
    apply put_unread
    rw [hsaved.kept _ _ (Library.savePath_ne_sessionsPath hplayer hkey),
      Library.names_sessionsPath]
    rfl
  have hbegin : ((Library.here.setting "ada" .epoch []).beginStory Story.keyed .listed).run cutOff =
      (.error (.library cause), saved) := by
    refine run_bind_eq_error.mpr (Or.inr ⟨turn, cutOff, Setting.stepped_eq_ok.mpr ⟨hstart, rfl⟩, ?_⟩)
    refine run_bind_eq_error.mpr (Or.inr ⟨(), saved, run_mapError_eq_ok.mpr hsave, ?_⟩)
    exact run_bind_eq_error.mpr (Or.inl (run_mapError_eq_error.mpr ⟨cause, hput, rfl⟩))
  have hplay : ((PlayerCommand.play "cave").command.run (Library.here.setting "ada" .epoch [])).run
      cutOff = (.error (.library cause), saved) := by
    refine run_bind_eq_error.mpr (Or.inl (run_bind_eq_error.mpr (Or.inr ?_)))
    have hload := Library.loadStory_eq_ok.mpr ⟨by decide, hoffers, Eq.refl cutOff⟩
    refine ⟨Story.keyed, cutOff, Setting.listedStory_eq_ok.mpr hload, ?_⟩
    exact run_bind_eq_error.mpr (Or.inl hbegin)
  have hwaited : Library.here.InProgress "ada" "cave" waited cutOff := by
    refine ⟨some .epoch, _, ?_, Json.Codec.read_write_line (Save.keeps Instant.isMoment_epoch)⟩
    rw [Library.names_savePath _ hplayer hkey]
    rfl
  have hnext : Library.here.InProgress "ada" "cave" turn.1 saved :=
    Library.inProgress_of_saveProgress Instant.isMoment_epoch hsave
  refine ⟨_, saved, turn.1, hplay, hwaited, hnext, hfresh, ?_⟩
  intro hsame
  obtain ⟨savedAt, text, hcontents, hread⟩ := hwaited
  obtain ⟨savedAt', hholds⟩ := hnext
  have hboth : turn.1 = waited :=
    congrArg Save.state (hholds.unique ⟨text, (hsame _ _).mpr hcontents, hread⟩)
  rw [hboth] at hfresh
  cases hfresh

end Gamebook
