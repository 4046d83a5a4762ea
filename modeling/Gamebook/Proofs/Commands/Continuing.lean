import Gamebook.Commands.Command
import Gamebook.Proofs.Commands.Playing
import Gamebook.Proofs.Play.History

/-!
Whether a game goes on. A player who begins a story or takes a choice is saved under the id that the
story has, while the next command looks under the id of the session and in the folder of this id. It
finds the story and the state exactly if both ids lead to the same story
(`GameMove.continues_iff_isKept`), and so whenever stories stand in the folders of their ids
(`GameMove.continues_of_wellNamed`).
-/

namespace Gamebook

namespace Library

variable {library : Library} {id : String} {scope : Visibility} {story : Story}
  {top middle after : Entry}

/-- Whether the files of all stories hold what they held before. -/
def SameStories (library : Library) (top after : Entry) : Prop :=
  ∀ id scope content, isKey id = true →
    (after.contents (Path.names (library.storyPath scope id)) = .ok content ↔
      top.contents (Path.names (library.storyPath scope id)) = .ok content)

theorem SameStories.trans (hfirst : library.SameStories top middle)
    (hsecond : library.SameStories middle after) : library.SameStories top after := by
  intro id scope content hid
  exact (hsecond id scope content hid).trans (hfirst id scope content hid)

theorem SameStories.offers_iff (hsame : library.SameStories top after) (hid : isKey id = true) :
    library.Offers id scope story after ↔ library.Offers id scope story top := by
  apply exists_congr
  intro text
  rw [hsame id scope (.text text) hid]

theorem SameStories.wellNamed (hsame : library.SameStories top after)
    (hnamed : library.WellNamed top) : library.WellNamed after := by
  rintro id scope story hid ⟨text, hcontents, hread⟩
  exact hnamed id scope story hid ⟨text, (hsame id scope _ hid).mp hcontents, hread⟩

theorem sameStories_of_saveProgress {player : String} {state : PlayerState} {now : Instant}
    (hsave : (library.saveProgress player id state now).run top = (.ok (), after)) :
    library.SameStories top after := by
  obtain ⟨hplayer, hkey, hwritten⟩ := saveProgress_eq_ok hsave
  intro other scope content hother
  exact hwritten.kept _ content (savePath_ne_storyPath hplayer hkey hother)

theorem sameStories_of_put {player : String} {session : Session} {store next : SessionStore}
    (hof : store.IsOf library)
    (hput : (store.put player session).run top = (.ok next, after)) :
    library.SameStories top after := by
  intro other scope content hother
  exact SessionStore.files_of_put hof hput _ content (sessionsPath_ne_storyPath hother)

end Library

namespace Setting

variable {setting : Setting} {session : Session} {story : Story} {state : PlayerState} {turn : Turn}
  {sessions : SessionStore} {top after : Entry}

/-- Whether the next command of a player finds this story and this state. -/
def Continues (setting : Setting) (story : Story) (state : PlayerState) (top : Entry) : Prop :=
  ∀ now candidates,
    ({ setting with now, candidates } : Setting).current.run top = (.ok (story, state), top)

theorem continues_iff :
    setting.Continues story state top ↔ ∃ session, setting.Plays session story state top := by
  constructor
  · intro hcontinues
    exact (current_eq_ok.mp (hcontinues setting.now setting.candidates)).1
  · rintro ⟨session, hplays⟩ now candidates
    refine current_eq_ok.mpr ⟨⟨session, ?_⟩, rfl⟩
    exact ⟨hplays.player_key, hplays.story_key, hplays.in_session, hplays.offered, hplays.saved⟩

theorem continues_begun_iff {scope : Visibility} (hof : setting.sessions.IsOf setting.library)
    (hnow : setting.now.IsMoment)
    (hbegin : (setting.beginStory story scope).run top = (.ok (turn, sessions), after)) :
    ({ setting with sessions } : Setting).Continues story turn.1 after ↔
      setting.library.Offers story.id scope story top := by
  obtain ⟨-, saved, hsave, hput⟩ := beginStory_eq_ok.mp hbegin
  obtain ⟨hplayer, hkey, -⟩ := Library.saveProgress_eq_ok hsave
  have hstories : setting.library.SameStories top after :=
    (Library.sameStories_of_saveProgress hsave).trans (Library.sameStories_of_put hof hput)
  have hkeeps := SessionStore.keeps_of_put hput
  rw [continues_iff, ← hstories.offers_iff hkey]
  constructor
  · rintro ⟨session, hplays⟩
    obtain rfl := hkeeps.unique hplays.in_session
    exact hplays.offered
  · intro hoffers
    refine ⟨⟨story.id, scope⟩, hplayer, hkey, hkeeps, hoffers, ?_⟩
    obtain ⟨savedAt, text, hcontents, hread⟩ := Library.inProgress_of_saveProgress hnow hsave
    refine ⟨savedAt, text, ?_, hread⟩
    exact (SessionStore.files_of_put hof hput _ _
      (Library.savePath_ne_sessionsPath hplayer hkey).symm).mpr hcontents

theorem continues_begun {id : String} {scope : Visibility}
    (hnamed : setting.library.WellNamed top) (hof : setting.sessions.IsOf setting.library)
    (hnow : setting.now.IsMoment) (hid : isKey id = true)
    (hoffers : setting.library.Offers id scope story top)
    (hbegin : (setting.beginStory story scope).run top = (.ok (turn, sessions), after)) :
    ({ setting with sessions } : Setting).Continues story turn.1 after ∧
      setting.library.WellNamed after := by
  constructor
  · rw [continues_begun_iff hof hnow hbegin, hnamed id scope story hid hoffers.has]
    exact hoffers
  · obtain ⟨-, saved, hsave, hput⟩ := beginStory_eq_ok.mp hbegin
    have hsaved := (Library.sameStories_of_saveProgress hsave).wellNamed hnamed
    exact (Library.sameStories_of_put hof hput).wellNamed hsaved

theorem continues_chosen_iff {index : Nat} (hof : setting.sessions.IsOf setting.library)
    (hnow : setting.now.IsMoment) (hplays : setting.Plays session story state top)
    (hchoose : story.choose state index = .ok turn)
    (hsave : (setting.library.saveProgress setting.player story.id turn.1 setting.now).run top =
      (.ok (), after)) :
    setting.Continues story turn.1 after ↔ session.storyId = story.id := by
  rw [continues_iff]
  constructor
  · rintro ⟨other, hnext⟩
    apply Classical.byContradiction
    intro hid
    obtain ⟨-, hsame⟩ := (hplays.of_other_id hof hid hsave).unique hnext
    obtain ⟨entry, hhistory⟩ := Story.history_choose hchoose
    rw [hsame] at hhistory
    simp at hhistory
  · intro hid
    rw [← hid] at hsave
    exact ⟨session, hplays.of_same_id hof hnow hsave⟩

end Setting

/-- What takes a player on: to begin a story by its id or by a share code, or to take a choice. -/
inductive GameMove where
  | play (id : String)
  | playCode (code : String)
  | choose (index : Nat)

namespace GameMove

def command : GameMove → Command
  | .play id => .play id
  | .playCode code => .playCode code
  | .choose index => .choose index

/-- Makes a move: gives the story and the turn that was reached, and the sessions afterwards. -/
def run (setting : Setting) : GameMove → CommandAction (Story × Turn × SessionStore)
  | .play id => setting.startListed id
  | .playCode code => setting.startByCode code
  | .choose index => do
    let (story, turn) ← setting.takeChoice index
    return (story, turn, setting.sessions)

def report (story : Story) (turn : Turn) : GameMove → Report
  | .play _ => titledReport story turn
  | .playCode _ => titledReport story turn
  | .choose _ => .of [turnPage turn]

theorem run_command (setting : Setting) (move : GameMove) :
    move.command.run setting = (do
      let (story, turn, sessions) ← move.run setting
      return (move.report story turn, sessions)) := by
  cases move with
  | play id => rfl
  | playCode code => rfl
  | choose index =>
      rw [command, Command.run, Command.keepSessions, run]
      simp only [bind_assoc, pure_bind]
      rfl

/-- Whether what a move saves is where the next command looks: a story that begins has to be in the
folder of its id too, and the session of a player who chooses has to have the id of the story. -/
def IsKept (setting : Setting) (story : Story) (top : Entry) : GameMove → Prop
  | .play _ => setting.library.Offers story.id .listed story top
  | .playCode _ => setting.library.Offers story.id .unlisted story top
  | .choose _ => ∃ scope, setting.sessions.Keeps setting.player ⟨story.id, scope⟩ top

variable {setting : Setting} {move : GameMove} {story : Story} {turn : Turn}
  {sessions : SessionStore} {top after : Entry}

theorem run_choose_eq_ok {index : Nat} :
    ((choose index).run setting).run top = (.ok (story, turn, sessions), after) ↔
      (setting.takeChoice index).run top = (.ok (story, turn), after) ∧
        sessions = setting.sessions := by
  rw [run, FileAction.run_bind_eq_ok]
  constructor
  · rintro ⟨⟨held, made⟩, middle, hchoose, hpure⟩
    obtain ⟨hall, rfl⟩ := FileAction.run_pure_eq_ok.mp hpure
    cases hall
    exact ⟨hchoose, rfl⟩
  · rintro ⟨hchoose, rfl⟩
    exact ⟨(story, turn), after, hchoose, rfl⟩

/-- The move of a player is found by the next command exactly if it is saved where this looks. -/
theorem continues_iff_isKept (hof : setting.sessions.IsOf setting.library)
    (hnow : setting.now.IsMoment)
    (hrun : (move.run setting).run top = (.ok (story, turn, sessions), after)) :
    ({ setting with sessions } : Setting).Continues story turn.1 after ↔
      move.IsKept setting story top := by
  cases move with
  | play id =>
      obtain ⟨-, hbegin⟩ := Setting.startListed_eq_ok.mp hrun
      exact Setting.continues_begun_iff hof hnow hbegin
  | playCode code =>
      obtain ⟨id, -, hbegin⟩ := Setting.startByCode_eq_ok.mp hrun
      exact Setting.continues_begun_iff hof hnow hbegin
  | choose index =>
      obtain ⟨hchoice, rfl⟩ := run_choose_eq_ok.mp hrun
      obtain ⟨session, state, hplays, hchoose, hsave⟩ := Setting.takeChoice_eq_ok.mp hchoice
      refine (Setting.continues_chosen_iff hof hnow hplays hchoose hsave).trans ?_
      constructor
      · intro hid
        refine ⟨session.scope, ?_⟩
        rw [← hid]
        exact hplays.in_session
      · rintro ⟨scope, hkeeps⟩
        rw [← hplays.in_session.unique hkeeps]

theorem continues_of_wellNamed (hnamed : setting.library.WellNamed top)
    (hof : setting.sessions.IsOf setting.library) (hnow : setting.now.IsMoment)
    (hrun : (move.run setting).run top = (.ok (story, turn, sessions), after)) :
    ({ setting with sessions } : Setting).Continues story turn.1 after ∧
      setting.library.WellNamed after := by
  cases move with
  | play id =>
      obtain ⟨hload, hbegin⟩ := Setting.startListed_eq_ok.mp hrun
      obtain ⟨hid, hoffers, -⟩ := Library.loadStory_eq_ok.mp hload
      exact Setting.continues_begun hnamed hof hnow hid hoffers hbegin
  | playCode code =>
      obtain ⟨id, hload, hbegin⟩ := Setting.startByCode_eq_ok.mp hrun
      obtain ⟨-, hid, hoffers, -⟩ := Library.loadByCode_eq_ok.mp hload
      exact Setting.continues_begun hnamed hof hnow hid hoffers hbegin
  | choose index =>
      obtain ⟨hchoice, rfl⟩ := run_choose_eq_ok.mp hrun
      obtain ⟨session, state, hplays, hchoose, hsave⟩ := Setting.takeChoice_eq_ok.mp hchoice
      have hid := hnamed _ _ story hplays.story_key hplays.offered.has
      constructor
      · exact (Setting.continues_chosen_iff hof hnow hplays hchoose hsave).mpr hid.symm
      · exact (Library.sameStories_of_saveProgress hsave).wellNamed hnamed

end GameMove

/-- A library whose only story stands in the folder of another id. -/
def strayed : Entry :=
  .folder [("stories", .folder [("public", .folder [("grotto",
    .folder [("config.json", .file (.text (Story.keyed.write ++ "\n")))])])])]

theorem not_offers_strayed (story : Story) : ¬Library.here.Offers "cave" .listed story strayed := by
  rintro ⟨text, hcontents, -⟩
  rw [Library.names_storyPath _ _ (by decide)] at hcontents
  cases hcontents

theorem exists_startPlay_keyed : ∃ turn, Story.keyed.startPlay "ada" = .ok turn := by
  have hscene : Story.keyed.scene? Story.keyed.start = some keyScene := by decide
  exact ⟨_, Story.startPlay_of_scene hscene "ada"⟩

theorem run_play_keyed {id : String} {turn : Turn} {top saved after : Entry}
    {sessions : SessionStore} (hid : isKey id = true)
    (hoffers : Library.here.Offers id .listed Story.keyed top)
    (hstart : Story.keyed.startPlay "ada" = .ok turn)
    (hsave : (Library.here.saveProgress "ada" "cave" turn.1 .epoch).run top = (.ok (), saved))
    (hput : ((SessionStore.file Library.here).put "ada" ⟨"cave", .listed⟩).run saved =
      (.ok sessions, after)) :
    ((GameMove.play id).run (Library.here.setting "ada" .epoch [])).run top =
      (.ok (Story.keyed, turn, sessions), after) := by
  refine Setting.startListed_eq_ok.mpr ⟨?_, ?_⟩
  · exact Library.loadStory_eq_ok.mpr ⟨hid, hoffers, rfl⟩
  · exact Setting.beginStory_eq_ok.mpr ⟨hstart, saved, hsave, hput⟩

/-- A story that stands in the folder of another id can be begun, but it is not found again. -/
theorem exists_game_lost :
    ∃ turn sessions after,
      ((GameMove.play "grotto").run (Library.here.setting "ada" .epoch [])).run strayed =
          (.ok (Story.keyed, turn, sessions), after) ∧
        (∀ now candidates found,
          ((⟨Library.here, sessions, "ada", now, candidates⟩ : Setting).current.run after).1 ≠
            .ok found) ∧
        ¬({ Library.here.setting "ada" .epoch [] with sessions } : Setting).Continues Story.keyed
          turn.1 after := by
  obtain ⟨turn, hstart⟩ := exists_startPlay_keyed
  obtain ⟨saved, hsave⟩ : ∃ saved,
      (Library.here.saveProgress "ada" "cave" turn.1 .epoch).run strayed = (.ok (), saved) :=
    ⟨_, FileAction.run_eq_of_fst rfl⟩
  obtain ⟨after, hput⟩ : ∃ after,
      ((SessionStore.file Library.here).put "ada" ⟨"cave", .listed⟩).run saved =
        (.ok (.file Library.here), after) := by
    obtain ⟨-, rfl⟩ := Prod.mk.inj hsave
    exact ⟨_, FileAction.run_eq_of_fst rfl⟩
  have hoffers : Library.here.Offers "grotto" .listed Story.keyed strayed := by
    refine ⟨_, ?_, Story.readValid_eq_ok.mpr ⟨Story.read_write_line _, ensureValid_keyed⟩⟩
    rw [Library.names_storyPath _ _ (by decide)]
    rfl
  have hstories : Library.here.SameStories strayed after :=
    (Library.sameStories_of_saveProgress hsave).trans
      (Library.sameStories_of_put (SessionStore.isOf_file _) hput)
  have hlost : ∀ now candidates found,
      ((⟨Library.here, .file Library.here, "ada", now, candidates⟩ : Setting).current.run
        after).1 ≠ .ok found := by
    rintro now candidates ⟨story, state⟩ hfound
    obtain ⟨⟨session, hplays⟩, -⟩ := Setting.current_eq_ok.mp (FileAction.run_eq_of_fst hfound)
    obtain rfl := (SessionStore.keeps_of_put hput).unique hplays.in_session
    exact not_offers_strayed story ((hstories.offers_iff (by decide)).mp hplays.offered)
  refine ⟨turn, _, after, run_play_keyed (by decide) hoffers hstart hsave hput, hlost, ?_⟩
  intro hcontinues
  exact hlost .epoch [] _ (congrArg Prod.fst (hcontinues .epoch []))

theorem continues_keyed :
    ∃ top turn sessions after,
      ((GameMove.play "cave").run (Library.here.setting "ada" .epoch [])).run top =
          (.ok (Story.keyed, turn, sessions), after) ∧
        ({ Library.here.setting "ada" .epoch [] with sessions } : Setting).Continues Story.keyed
          turn.1 after := by
  obtain ⟨turn, hstart⟩ := exists_startPlay_keyed
  obtain ⟨stored, saved, begun, hstored, hsave, hput⟩ := exists_files_keyed turn.1
  have hoffers : Library.here.Offers Story.keyed.id .listed Story.keyed stored :=
    Library.offers_of_writeStory ensureValid_keyed hstored
  have hplay : ((GameMove.play "cave").run (Library.here.setting "ada" .epoch [])).run stored =
      (.ok (Story.keyed, turn, .file Library.here), begun) :=
    run_play_keyed (by decide) hoffers hstart hsave hput
  have hkept : (GameMove.play "cave").IsKept (Library.here.setting "ada" .epoch []) Story.keyed
      stored := hoffers
  refine ⟨stored, turn, _, begun, hplay, ?_⟩
  exact (GameMove.continues_iff_isKept (SessionStore.isOf_file _) Instant.isMoment_epoch
    hplay).mpr hkept

end Gamebook
