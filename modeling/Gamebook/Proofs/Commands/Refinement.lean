import Gamebook.Commands.Command
import Gamebook.Proofs.Commands.Playing
import Gamebook.Proofs.Play.History

namespace Gamebook

/-- How a player begins a story: by its id, or by a share code. -/
inductive Opening where
  | listed
  | byCode (code : String)

namespace Opening

def scope : Opening → Visibility
  | .listed => .listed
  | .byCode _ => .unlisted

def command (id : String) : Opening → Command
  | .listed => .play id
  | .byCode code => .playCode code

/-- Whether the story of an id is the one that is begun. -/
def LeadsTo (library : Library) (id : String) (top : Entry) : Opening → Prop
  | .listed => True
  | .byCode code => library.CodeFor code id top

end Opening

/-- What a player can ask for while in a story. -/
inductive PlayStep where
  | choose (index : Nat)
  | resume
  | status

namespace PlayStep

def command : PlayStep → Command
  | .choose index => .choose index
  | .resume => .resume
  | .status => .status

def call? : PlayStep → Option PlayCall
  | .choose index => some (.choose index)
  | .resume => some .resume
  | .status => none

def report (story : Story) (state : PlayerState) : PlayStep → Except PlayError Report
  | .choose index => (story.choose state index).map fun turn => .of [turnPage turn]
  | .resume => (story.resume state).map (titledReport story)
  | .status => .ok (statusReport story state)

end PlayStep

/-- What happens to a library while a player is in a story: the player asks for something, or the
files are changed in some other way. -/
inductive Happening where
  | asks (step : PlayStep) (now : Instant) (candidates : List String)
  | other (change : Entry → Entry)

/-- Whether a change of the files leaves alone what a player in a story depends on. -/
structure Spares (library : Library) (player : String) (session : Session)
    (change : Entry → Entry) : Prop where
  in_session : ∀ top, library.InSession player session top →
    library.InSession player session (change top)
  story_text : ∀ top content,
    top.contents (Path.names (library.storyPath session.scope session.storyId)) = .ok content →
    (change top).contents (Path.names (library.storyPath session.scope session.storyId)) =
      .ok content
  save_text : ∀ top content,
    top.contents (Path.names (library.savePath player session.storyId)) = .ok content →
    (change top).contents (Path.names (library.savePath player session.storyId)) = .ok content

namespace Happening

def call? : Happening → Option PlayCall
  | .asks step _ _ => step.call?
  | .other _ => none

def folder (library : Library) (player : String) (top : Entry) : Happening → Entry
  | .asks step now candidates =>
    ((step.command.run (library.setting player now candidates)).run top).2
  | .other change => change top

/-- Whether the clock is right when the player asks for something, and other changes spare the
player. -/
def IsFair (library : Library) (player : String) (session : Session) : Happening → Prop
  | .asks _ now _ => now.IsMoment
  | .other change => Spares library player session change

end Happening

/-- Whether the commands of a player answer as a play in memory does that has come to some state,
and the save holds this state. -/
structure Agrees (library : Library) (player : String) (story : Story) (state : PlayerState)
    (top : Entry) : Prop where
  saved : (library.loadProgress player story.id).run top = (.ok (some state), top)
  choose : ∀ now candidates index, now.IsMoment →
    (((library.setting player now candidates).takeChoice index).run top).1 =
      ((story.choose state index).mapError .play).map fun turn => (story, turn)
  resume : ∀ now candidates,
    ((library.setting player now candidates).lookAgain.run top).1 =
      ((story.resume state).mapError .play).map fun turn => (story, turn)
  status : ∀ now candidates,
    ((library.setting player now candidates).current.run top).1 = .ok (story, state)
  printed : ∀ (step : PlayStep) now candidates, now.IsMoment →
    ((step.command.run (library.setting player now candidates)).run top).1 =
      ((step.report story state).mapError .play).map fun report => (report, .file library)

section

variable {library : Library} {player : String} {now : Instant} {candidates : List String}
  {scope : Visibility} {story : Story} {state : PlayerState} {top after : Entry}

theorem takeChoice_answers (hplaying : Playing library player ⟨story.id, scope⟩ story state top)
    (hnow : now.IsMoment) (candidates : List String) (index : Nat) :
    (((library.setting player now candidates).takeChoice index).run top).1 =
      ((story.choose state index).mapError .play).map fun turn => (story, turn) := by
  cases hchoose : story.choose state index with
  | error error =>
      rw [run_takeChoice_of_error hplaying hchoose]
      rfl
  | ok turn =>
      obtain ⟨after, hrun, -⟩ := exists_takeChoice hplaying rfl hnow hchoose candidates
      rw [hrun]
      rfl

theorem run_keepSessions (setting : Setting) (report : CommandAction Report) (top : Entry) :
    (Command.keepSessions setting report).run top =
      ((report.run top).1.map fun report => (report, setting.sessions), (report.run top).2) := by
  rw [Command.keepSessions, FileAction.run_bind]
  cases report.run top with
  | mk result folder => cases result <;> rfl

theorem run_command (hplaying : Playing library player ⟨story.id, scope⟩ story state top)
    (hnow : now.IsMoment) (step : PlayStep) :
    ((step.command.run (library.setting player now candidates)).run top).1 =
      ((step.report story state).mapError .play).map fun report => (report, .file library) := by
  cases step with
  | choose index =>
      have hanswers := takeChoice_answers hplaying hnow candidates index
      rw [PlayStep.command, Command.run, run_keepSessions, FileAction.run_bind]
      cases hrun : ((library.setting player now candidates).takeChoice index).run top with
      | mk result folder =>
          rw [hrun] at hanswers
          simp only at hanswers
          rw [hanswers, PlayStep.report]
          cases story.choose state index <;> rfl
  | resume =>
      rw [PlayStep.command, Command.run, run_keepSessions, FileAction.run_bind,
        run_lookAgain hplaying, PlayStep.report]
      cases story.resume state <;> rfl
  | status =>
      rw [PlayStep.command, Command.run, Command.answer, run_keepSessions, ask,
        FileAction.run_mapError, FileAction.run_bind_of_ok (current_eq_ok.mpr ⟨⟨_, hplaying⟩, rfl⟩)]
      rfl

theorem agrees_of_playing (hplaying : Playing library player ⟨story.id, scope⟩ story state top) :
    Agrees library player story state top := by
  constructor
  · exact Library.loadProgress_eq_some.mpr
      ⟨hplaying.player_key, hplaying.story_key, hplaying.saved, rfl⟩
  · intro now candidates index hnow
    exact takeChoice_answers hplaying hnow candidates index
  · intro now candidates
    rw [run_lookAgain hplaying]
  · intro now candidates
    rw [current_eq_ok.mpr ⟨⟨_, hplaying⟩, rfl⟩]
  · intro step now candidates hnow
    exact run_command hplaying hnow step

theorem Playing.of_spares {session : Session} {change : Entry → Entry}
    (hplaying : Playing library player session story state top)
    (hspares : Spares library player session change) :
    Playing library player session story state (change top) := by
  obtain ⟨text, hcontents, hread⟩ := hplaying.offered
  obtain ⟨savedAt, saved, hsaved, hstate⟩ := hplaying.saved
  refine ⟨hplaying.player_key, hplaying.story_key, ?_, ?_, ?_⟩
  · exact hspares.in_session top hplaying.in_session
  · exact ⟨text, hspares.story_text top _ hcontents, hread⟩
  · exact ⟨savedAt, saved, hspares.save_text top _ hsaved, hstate⟩

theorem playing_step (hplaying : Playing library player ⟨story.id, scope⟩ story state top)
    (hsettled : story.Settled state) (hnow : now.IsMoment) (candidates : List String)
    (step : PlayStep) :
    Playing library player ⟨story.id, scope⟩ story (story.afterAll state step.call?.toList)
        ((step.command.run (library.setting player now candidates)).run top).2 ∧
      story.Settled (story.afterAll state step.call?.toList) := by
  cases step with
  | choose index =>
      simp only [PlayStep.command, Command.run, run_keepSessions, FileAction.run_bind,
        PlayStep.call?, Option.toList_some, Story.afterAll, List.foldl_cons, List.foldl_nil]
      cases hchoose : story.choose state index with
      | error error =>
          have hcall : story.call state (.choose index) = .error error := hchoose
          rw [run_takeChoice_of_error hplaying hchoose, Story.after_of_error hcall]
          exact ⟨hplaying, hsettled⟩
      | ok turn =>
          obtain ⟨folder, hrun, hnext⟩ := exists_takeChoice hplaying rfl hnow hchoose candidates
          have hcall : story.call state (.choose index) = .ok turn := hchoose
          rw [hrun, Story.after_of_ok hcall]
          exact ⟨hnext, Story.settled_choose hchoose⟩
  | resume =>
      have hfolder : ((Command.resume.run (library.setting player now candidates)).run top).2 =
          top := by
        rw [Command.run, run_keepSessions, FileAction.run_bind, run_lookAgain hplaying]
        cases story.resume state <;> rfl
      have hnext : story.afterAll state PlayStep.resume.call?.toList = state :=
        hsettled.after_resume
      simp only [PlayStep.command, hfolder, hnext]
      exact ⟨hplaying, hsettled⟩
  | status =>
      have hfolder : ((Command.status.run (library.setting player now candidates)).run top).2 =
          top := by
        rw [Command.run, Command.answer, run_keepSessions, ask, FileAction.run_mapError,
          FileAction.run_bind_of_ok (current_eq_ok.mpr ⟨⟨_, hplaying⟩, rfl⟩)]
        rfl
      simp only [PlayStep.command, hfolder]
      exact ⟨hplaying, hsettled⟩

theorem playing_happenings (hplaying : Playing library player ⟨story.id, scope⟩ story state top)
    (hsettled : story.Settled state) {happenings : List Happening}
    (hfair : ∀ happening ∈ happenings, happening.IsFair library player ⟨story.id, scope⟩) :
    Playing library player ⟨story.id, scope⟩ story
      (story.afterAll state (happenings.filterMap Happening.call?))
      (happenings.foldl (Happening.folder library player) top) := by
  induction happenings generalizing state top with
  | nil => exact hplaying
  | cons happening rest ih =>
      have hfirst := hfair happening (List.mem_cons_self ..)
      have hrest : ∀ other ∈ rest, other.IsFair library player ⟨story.id, scope⟩ :=
        fun other hother => hfair other (List.mem_cons_of_mem _ hother)
      cases happening with
      | other change => exact ih (hplaying.of_spares hfirst) hsettled hrest
      | asks step now candidates =>
          obtain ⟨hnext, hsettled⟩ :=
            playing_step hplaying hsettled hfirst candidates step
          have hcalls : (Happening.asks step now candidates :: rest).filterMap Happening.call? =
              step.call?.toList ++ rest.filterMap Happening.call? := by
            cases step <;> rfl
          rw [hcalls, Story.afterAll_append]
          exact ih hnext hsettled hrest

theorem playing_opening {opening : Opening} {before stored begun : Entry} {report : Report}
    {sessions : SessionStore} (hvalid : story.ensureValid = .ok ())
    (hstored : (library.writeStory story opening.scope).run before = (.ok (), stored))
    (hunchanged : top.contents (Path.names (library.storyPath opening.scope story.id)) =
      stored.contents (Path.names (library.storyPath opening.scope story.id)))
    (hleads : opening.LeadsTo library story.id top) (hnow : now.IsMoment)
    (hbegun : ((opening.command story.id).run (library.setting player now candidates)).run top =
      (.ok (report, sessions), begun)) :
    ∃ turn, story.startPlay player = .ok turn ∧ report = titledReport story turn ∧
      sessions = .file library ∧
      Playing library player ⟨story.id, opening.scope⟩ story turn.1 begun := by
  obtain ⟨hkey, -⟩ := Library.writeStory_eq_ok hstored
  have hoffers : library.Offers story.id opening.scope story top := by
    obtain ⟨text, hcontents, hread⟩ := Library.offers_of_writeStory hvalid hstored
    exact ⟨text, hunchanged.trans hcontents, hread⟩
  have hload : (library.loadStory story.id opening.scope).run top = (.ok story, top) :=
    Library.loadStory_eq_ok.mpr ⟨hkey, hoffers, rfl⟩
  have hbegins : ∃ turn, report = titledReport story turn ∧
      ((library.setting player now candidates).beginStory story opening.scope).run top =
        (.ok (turn, sessions), begun) := by
    cases opening with
    | listed =>
        obtain ⟨⟨played, turn, store⟩, folder, hstart, hpure⟩ := FileAction.run_bind_eq_ok.mp hbegun
        obtain ⟨hheld, hbegin⟩ := Setting.startListed_eq_ok.mp hstart
        cases hload.symm.trans hheld
        obtain ⟨hboth, rfl⟩ := FileAction.run_pure_eq_ok.mp hpure
        cases hboth
        exact ⟨turn, rfl, hbegin⟩
    | byCode code =>
        have hcode : (library.loadByCode code).run top = (.ok (story.id, story), top) :=
          Library.loadByCode_eq_ok.mpr ⟨hleads, hkey, hoffers, rfl⟩
        obtain ⟨⟨played, turn, store⟩, folder, hstart, hpure⟩ := FileAction.run_bind_eq_ok.mp hbegun
        obtain ⟨held, hheld, hbegin⟩ := Setting.startByCode_eq_ok.mp hstart
        cases hcode.symm.trans hheld
        obtain ⟨hboth, rfl⟩ := FileAction.run_pure_eq_ok.mp hpure
        cases hboth
        exact ⟨turn, rfl, hbegin⟩
  obtain ⟨turn, hreport, hbegin⟩ := hbegins
  obtain ⟨hstart, hsessions, hplaying⟩ := playing_of_beginStory hnow hoffers hbegin
  exact ⟨turn, hstart, hreport, hsessions, hplaying⟩

/-- A player who has begun a valid story plays it through the files as it is played in memory. -/
theorem agrees_afterAll {opening : Opening} {before stored begun : Entry} {report : Report}
    {sessions : SessionStore} (hvalid : story.ensureValid = .ok ())
    (hstored : (library.writeStory story opening.scope).run before = (.ok (), stored))
    (hunchanged : top.contents (Path.names (library.storyPath opening.scope story.id)) =
      stored.contents (Path.names (library.storyPath opening.scope story.id)))
    (hleads : opening.LeadsTo library story.id top) (hnow : now.IsMoment)
    (hbegun : ((opening.command story.id).run (library.setting player now candidates)).run top =
      (.ok (report, sessions), begun)) :
    ∃ turn, story.startPlay player = .ok turn ∧ report = titledReport story turn ∧
      ∀ happenings : List Happening,
        (∀ happening ∈ happenings,
          happening.IsFair library player ⟨story.id, opening.scope⟩) →
        Agrees library player story
          (story.afterAll turn.1 (happenings.filterMap Happening.call?))
          (happenings.foldl (Happening.folder library player) begun) := by
  obtain ⟨turn, hstart, hreport, -, hplaying⟩ :=
    playing_opening hvalid hstored hunchanged hleads hnow hbegun
  refine ⟨turn, hstart, hreport, ?_⟩
  intro happenings hfair
  apply agrees_of_playing
  exact playing_happenings hplaying (Story.settled_enter hstart) hfair

end

theorem agrees_keyed :
    ∃ stored begun report sessions turn,
      (Library.here.writeStory Story.keyed .listed).run (.folder []) = (.ok (), stored) ∧
      ((Command.play "cave").run (Library.here.setting "ada" .epoch [])).run stored =
        (.ok (report, sessions), begun) ∧
      Story.keyed.startPlay "ada" = .ok turn ∧
      Agrees Library.here "ada" Story.keyed
        (Story.keyed.afterAll turn.1 [.choose 0, .resume, .choose 7])
        ([Happening.asks (.choose 0) .epoch [], .asks .resume .epoch [], .asks .status .epoch [],
          .asks (.choose 7) .epoch []].foldl (Happening.folder Library.here "ada") begun) := by
  have hscene : Story.keyed.scene? Story.keyed.start = some keyScene := by decide
  have hstart := Story.startPlay_of_scene hscene "ada"
  generalize hturn : keyScene.visit (.begin Story.keyed "ada") = turn at hstart
  obtain ⟨stored, saved, begun, hstored, hsave, hput⟩ := exists_files_keyed turn.1
  have hoffers : Library.here.Offers Story.keyed.id .listed Story.keyed stored :=
    Library.offers_of_writeStory ensureValid_keyed hstored
  have hload : (Library.here.loadStory "cave" .listed).run stored = (.ok Story.keyed, stored) :=
    Library.loadStory_eq_ok.mpr ⟨by decide, hoffers, rfl⟩
  have hlisted : ((Library.here.setting "ada" .epoch []).startListed "cave").run stored =
      (.ok (Story.keyed, turn, .file Library.here), begun) :=
    Setting.startListed_eq_ok.mpr
      ⟨hload, Setting.beginStory_eq_ok.mpr ⟨hstart, saved, hsave, hput⟩⟩
  have hplay : ((Opening.listed.command Story.keyed.id).run
      (Library.here.setting "ada" .epoch [])).run stored =
        (.ok (titledReport Story.keyed turn, .file Library.here), begun) := by
    rw [Opening.command, Command.run]
    refine (FileAction.run_bind_of_ok hlisted _).trans ?_
    rfl
  have hleads : Opening.listed.LeadsTo Library.here Story.keyed.id stored := trivial
  have hwritten : (Library.here.writeStory Story.keyed Opening.listed.scope).run (.folder []) =
      (.ok (), stored) := hstored
  obtain ⟨first, hfirst, -, hagrees⟩ :=
    agrees_afterAll ensureValid_keyed hwritten (Eq.refl _) hleads Instant.isMoment_epoch hplay
  refine ⟨stored, begun, _, _, first, hstored, hplay, hfirst, ?_⟩
  refine hagrees [.asks (.choose 0) .epoch [], .asks .resume .epoch [], .asks .status .epoch [],
    .asks (.choose 7) .epoch []] ?_
  intro happening hmem
  simp only [List.mem_cons, List.not_mem_nil, or_false] at hmem
  rcases hmem with rfl | rfl | rfl | rfl <;> exact Instant.isMoment_epoch

end Gamebook
