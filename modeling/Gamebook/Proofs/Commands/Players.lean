import Gamebook.Proofs.Commands.Continuing
import Gamebook.Proofs.Commands.ShutOut
import Gamebook.Proofs.Commands.Timing

namespace Gamebook

open FileAction

namespace PlayerCommand

/-- What a command tells the player who runs it. -/
def answer (library : Library) (player : String) (candidates : List String) (asked : PlayerCommand)
    (now : Instant) (top : Entry) : Except CommandError (Report × SessionStore) :=
  ((asked.command.run (library.setting player now candidates)).run top).1

/-- What is in a folder after a player ran a command. -/
def after (library : Library) (player : String) (candidates : List String) (asked : PlayerCommand)
    (now : Instant) (top : Entry) : Entry :=
  ((asked.command.run (library.setting player now candidates)).run top).2

end PlayerCommand

/-- Whether a library is the same for a player in two folders: the session, every save, and what
every command tells, with one exception. A player whom the first saves of the library shut out is
told something else where there is no save. -/
structure Library.SameFor (library : Library) (player : String) (top after : Entry) : Prop where
  session : (((SessionStore.file library).get player).run after).1 =
    (((SessionStore.file library).get player).run top).1
  saves : ∀ id, ((library.loadSave player id).run after).1 =
      ((library.loadSave player id).run top).1 ↔
    ¬(isKey id = true ∧ library.ShutsOut player top after)
  answers : ∀ candidates (asked : PlayerCommand) now later,
    asked.answer library player candidates later after =
        asked.answer library player candidates now top ↔
      ¬((¬asked.Begins ∧ library.IsInStory player top) ∧ library.ShutsOut player top after)

theorem Library.shares_of_hasRoot {library : Library} {asks : Prop} {top : Entry}
    (htop : library.HasRoot top) (hplain : top.HasPlainNames)
    (hasks : asks → library.HasSaves top) : library.Shares asks top :=
  ⟨htop, fun _ hnames => hplain _ _ hnames, hasks⟩

namespace PlayerCommand

variable {library : Library} {player rival : String} {candidates candidates' : List String}
  {asked other : PlayerCommand} {now later : Instant} {part : PlayPart} {top : Entry}

/-- Whether a command only ever looks, as it goes on in a story, and the player can have no save. -/
def IsIdle (player : String) (asked : PlayerCommand) : Prop :=
  ¬asked.Begins ∧ Entry.isTooLong player = true

theorem IsIdle.exists_error (hidle : asked.IsIdle player) (library : Library)
    (candidates : List String) (now : Instant) (top : Entry) :
    ∃ error, (asked.command.run (library.setting player now candidates)).run top =
      (.error error, top) := by
  obtain ⟨error, hcurrent⟩ := exists_current_error hidle.2 now candidates top
  exact ⟨_, run_of_current_error hidle.1 hcurrent⟩

theorem IsIdle.after_eq (hidle : asked.IsIdle player) :
    asked.after library player candidates now top = top := by
  obtain ⟨error, hrun⟩ := hidle.exists_error library candidates now top
  rw [after, hrun]

theorem after_eq_of_not_hasRoot (htop : ¬library.HasRoot top) :
    asked.after library player candidates now top = top := by
  have hfinds : ∀ {asked : PlayerCommand} {story : Story}, ¬asked.Finds library top story :=
    fun hfinds => htop hfinds.exists_folder
  cases asked with
  | play id =>
      refine leaves_bind_pure.trans ((Setting.looks_listedStory _ id).leaves_bind ?_)
      intro story hlisted
      have hload := Setting.listedStory_eq_ok.mp hlisted
      exact absurd (show (PlayerCommand.play id).Finds library top story from hload) hfinds
  | playCode code =>
      refine leaves_bind_pure.trans
        (((library.looks_loadByCode code).mapError _).leaves_bind ?_)
      rintro ⟨id, story⟩ hfound
      have hload := run_mapError_eq_ok.mp hfound
      exact absurd (show (PlayerCommand.playCode code).Finds library top story from ⟨id, hload⟩)
        hfinds
  | choose index =>
      refine leaves_bind_pure.trans (leaves_bind_pure.trans
        (((Setting.looks_current _).mapError _).leaves_bind ?_))
      rintro ⟨story, state⟩ hcurrent
      obtain ⟨⟨session, hplaying⟩, -⟩ := current_eq_ok.mp (run_mapError_eq_ok.mp hcurrent)
      exact absurd (Library.exists_folder_of_offers hplaying.story_key hplaying.offered) htop
  | resume => exact (Command.looks_resume _).run top
  | status => exact (Command.looks_status _).run top

theorem passesOn_look (hne : player ≠ rival) (asked : PlayerCommand) (now : Instant)
    (candidates : List String) (hlook : part.IsLook) :
    (asked.command.run (library.setting player now candidates)).PassesOn
      (library.Shares (∃ id, part = .loadSave id ∧ Entry.isTooLong rival = true))
      (part.perform library rival) := by
  refine passesOn fun own _ => ⟨PlayPart.commutesOn hne own part ?_ ?_, own.preserves_perform⟩
  · exact fun _ _ hwrites => absurd hlook hwrites
  · exact fun id hid _ hlong => ⟨id, hid, hlong⟩

theorem hasRoot_after (hne : player ≠ rival) (htop : library.HasRoot top)
    (hplain : top.HasPlainNames) :
    library.HasRoot (asked.after library player candidates now top) := by
  have hlook : PlayPart.get.IsLook := trivial
  have hshares : library.Shares (∃ id, PlayPart.get = .loadSave id ∧ Entry.isTooLong rival = true)
      top := Library.shares_of_hasRoot htop hplain (by rintro ⟨_, ⟨⟩, -⟩)
  exact ((passesOn_look hne asked now candidates hlook).preserves top hshares).root

theorem answer_look (hne : player ≠ rival) (hplain : top.HasPlainNames) (part : PlayPart)
    (hlook : part.IsLook)
    (hasks : ∀ id, part = .loadSave id → Entry.isTooLong rival = true → library.HasSaves top) :
    ((part.perform library rival).run (asked.after library player candidates now top)).1 =
      ((part.perform library rival).run top).1 := by
  by_cases htop : library.HasRoot top
  · have hshares : library.Shares (∃ id, part = .loadSave id ∧ Entry.isTooLong rival = true) top :=
      Library.shares_of_hasRoot htop hplain fun ⟨id, hid, hlong⟩ => hasks id hid hlong
    exact ((passesOn_look hne asked now candidates hlook).commutes top hshares).1
  · rw [after_eq_of_not_hasRoot htop]

theorem answer_get (hne : player ≠ rival) (hplain : top.HasPlainNames) :
    (((SessionStore.file library).get rival).run
        (asked.after library player candidates now top)).1 =
      (((SessionStore.file library).get rival).run top).1 :=
  answer_look hne hplain .get trivial (by rintro _ ⟨⟩)

theorem answer_loadStory (hne : player ≠ rival) (hplain : top.HasPlainNames) (id : String)
    (scope : Visibility) :
    ((library.loadStory id scope).run (asked.after library player candidates now top)).1 =
      ((library.loadStory id scope).run top).1 :=
  answer_look hne hplain (.loadStory id scope) trivial (by rintro _ ⟨⟩)

theorem answer_loadSave_iff (hne : player ≠ rival) (hplain : top.HasPlainNames) (id : String) :
    ((library.loadSave rival id).run (asked.after library player candidates now top)).1 =
        ((library.loadSave rival id).run top).1 ↔
      ¬(isKey id = true ∧
        library.ShutsOut rival top (asked.after library player candidates now top)) := by
  by_cases htop : library.HasRoot top
  · have hafter : library.HasRoot (asked.after library player candidates now top) :=
      hasRoot_after hne htop hplain
    constructor
    · rintro hanswer ⟨hid, hshuts⟩
      have hnone := Library.run_loadSave_of_not_hasSaves hshuts.key hid htop hshuts.before
      obtain ⟨fault, hfails⟩ :=
        Library.exists_loadSave_error hshuts.key hid hshuts.long hshuts.since
      rw [hnone, hfails] at hanswer
      cases hanswer
    · intro hfree
      -- a short id is looked up in the same way in both folders, as is a long one below saves
      by_cases hasks : Entry.isTooLong rival = true → library.HasSaves top
      · exact answer_look hne hplain (.loadSave id) trivial fun _ _ => hasks
      · rw [Classical.not_imp] at hasks
        obtain ⟨hlong, hbefore⟩ := hasks
        rcases library.loadSave_cases rival id with ⟨hrival, hid, -⟩ | ⟨error, hload⟩
        · have hsince : ¬library.HasSaves (asked.after library player candidates now top) :=
            fun hsince => hfree ⟨hid, hrival, hlong, hbefore, hsince⟩
          rw [Library.run_loadSave_of_not_hasSaves hrival hid hafter hsince,
            Library.run_loadSave_of_not_hasSaves hrival hid htop hbefore]
        · rw [hload]
          rfl
  · rw [after_eq_of_not_hasRoot htop]
    exact iff_of_true rfl fun hshuts => Library.not_shutsOut_self hshuts.2

theorem passesOn_other (hne : player ≠ rival) (hasked : ¬asked.IsIdle player)
    (hother : ¬other.IsIdle rival) :
    (asked.command.run (library.setting player now candidates)).PassesOn (library.Shares False)
      (other.command.run (library.setting rival later candidates')) := by
  refine passesOn fun own hown => ⟨.symm ?_, own.preserves_perform⟩
  have hpasses : (other.command.run (library.setting rival later candidates')).PassesOn
      (library.Shares False) (own.perform library player) := by
    refine passesOn fun theirs htheirs =>
      ⟨PlayPart.commutesOn hne.symm theirs own ?_ ?_, theirs.preserves_perform⟩
    · exact fun id hid _ hlong => hother ⟨htheirs id hid, hlong⟩
    · exact fun id hid _ hlong => hasked ⟨hown id hid, hlong⟩
  exact hpasses.commutes

theorem after_comm (hne : player ≠ rival) (hplain : top.HasPlainNames) :
    other.after library rival candidates' later (asked.after library player candidates now top) =
      asked.after library player candidates now
        (other.after library rival candidates' later top) := by
  by_cases hasked : asked.IsIdle player
  · rw [hasked.after_eq, hasked.after_eq]
  · by_cases hother : other.IsIdle rival
    · rw [hother.after_eq, hother.after_eq]
    · by_cases htop : library.HasRoot top
      · have hshares := Library.shares_of_hasRoot htop hplain False.elim
        exact ((passesOn_other hne hasked hother).commutes top hshares).2.2
      · simp only [after_eq_of_not_hasRoot htop]

theorem answer_eq_of_not_isIdle (hne : player ≠ rival) (hplain : top.HasPlainNames)
    (hother : ¬other.IsIdle rival) :
    other.answer library rival candidates' later (asked.after library player candidates now top) =
      other.answer library rival candidates' later top := by
  by_cases hasked : asked.IsIdle player
  · rw [hasked.after_eq]
  · by_cases htop : library.HasRoot top
    · have hshares := Library.shares_of_hasRoot htop hplain False.elim
      exact ((passesOn_other hne hasked hother).commutes top hshares).1
    · rw [after_eq_of_not_hasRoot htop]

theorem IsIdle.answer_eq_iff {after : Entry} (hidle : asked.IsIdle player) :
    asked.answer library player candidates now after =
        asked.answer library player candidates now top ↔
      ((library.setting player now candidates).current.run after).1 =
        ((library.setting player now candidates).current.run top).1 := by
  obtain ⟨error, hcurrent⟩ := exists_current_error hidle.2 now candidates top
  obtain ⟨error', hcurrent'⟩ := exists_current_error hidle.2 now candidates after
  rw [answer, answer, run_of_current_error hidle.1 hcurrent, run_of_current_error hidle.1 hcurrent',
    hcurrent, hcurrent']
  simp

theorem sameFor_after (hne : player ≠ rival) (hplain : top.HasPlainNames) (asked : PlayerCommand)
    (candidates : List String) (now : Instant) :
    library.SameFor rival top (asked.after library player candidates now top) := by
  refine ⟨answer_get hne hplain, answer_loadSave_iff hne hplain, ?_⟩
  intro candidates' other now' later
  have htime : other.answer library rival candidates' later
      (asked.after library player candidates now top) =
      other.answer library rival candidates' now' (asked.after library player candidates now top) :=
    (other.alike_run _).answer
  rw [htime]
  by_cases hother : other.IsIdle rival
  · rw [hother.answer_eq_iff, Setting.answer_current_iff (answer_get hne hplain)
      (answer_loadStory hne hplain) (answer_loadSave_iff hne hplain)]
    simp only [hother.1, not_false_eq_true, true_and]
  · refine iff_of_true ?_ fun ⟨⟨hgoes, _⟩, hshuts⟩ => hother ⟨hgoes, hshuts.long⟩
    exact answer_eq_of_not_isIdle hne hplain hother

/-- Two players who each run a command keep apart, whoever is first, but for the times of saves. -/
theorem keeps_apart (hne : player ≠ rival) (hplain : top.HasPlainNames)
    (asked other : PlayerCommand) (candidates candidates' : List String)
    (now later now' later' : Instant) :
    library.SameFor rival top (asked.after library player candidates now top) ∧
      library.SameFor player top (other.after library rival candidates' now' top) ∧
      library.SameButTimes [player, rival]
        (other.after library rival candidates' later
          (asked.after library player candidates now top))
        (asked.after library player candidates later'
          (other.after library rival candidates' now' top)) := by
  refine ⟨sameFor_after hne hplain .., sameFor_after hne.symm hplain .., ?_⟩
  have hmine : library.SameButTimes [player]
      (asked.after library player candidates now (other.after library rival candidates' later top))
      (asked.after library player candidates later'
        (other.after library rival candidates' later top)) :=
    (asked.alike_run _).files
  have htheirs : library.SameButTimes [rival]
      (other.after library rival candidates' later
        (asked.after library player candidates later' top))
      (other.after library rival candidates' now'
        (asked.after library player candidates later' top)) :=
    (other.alike_run _).files
  have hlast : other.after library rival candidates' now'
        (asked.after library player candidates later' top) =
      asked.after library player candidates later'
        (other.after library rival candidates' now' top) := after_comm hne hplain
  rw [← after_comm hne hplain, ← after_comm hne hplain] at hmine
  rw [hlast] at htheirs
  exact hmine.trans hne htheirs

end PlayerCommand

/-- An id that is let through, but that no file or folder can have as a name. -/
def endlessId : String :=
  String.ofList (List.replicate 256 'a')

theorem isTooLong_endlessId : Entry.isTooLong endlessId = true := by
  decide +kernel

/-- A library with a story and no saves, where a player with such an id has a session. -/
def vacant : Entry :=
  .folder
    [("sessions.json", .file (.text ((Json.Codec.dict Session.codec).write
      ((∅ : Dict Session).insert endlessId ⟨"cave", .listed⟩) ++ "\n"))),
     ("stories", .folder [("public", .folder [("cave", .folder
      [("config.json", .file (.text (Story.keyed.write ++ "\n")))])])])]

theorem hasPlainNames_vacant : vacant.HasPlainNames := by
  have hplain : ∀ name ∈ ["sessions.json", "stories", "public", "cave", "config.json"],
      Path.IsPlain name := by
    simp only [Path.IsPlain]
    decide
  refine Entry.hasPlainNames_folder ?_
  simp only [List.forall_mem_cons, List.not_mem_nil, false_imp_iff, implies_true, and_true]
  refine ⟨⟨hplain _ (by simp), Entry.hasPlainNames_file _⟩, hplain _ (by simp), ?_⟩
  refine Entry.hasPlainNames_folder (List.forall_mem_singleton.mpr ⟨hplain _ (by simp), ?_⟩)
  refine Entry.hasPlainNames_folder (List.forall_mem_singleton.mpr ⟨hplain _ (by simp), ?_⟩)
  refine Entry.hasPlainNames_folder (List.forall_mem_singleton.mpr ⟨hplain _ (by simp), ?_⟩)
  exact Entry.hasPlainNames_file _

theorem offers_vacant : Library.here.Offers "cave" .listed Story.keyed vacant := by
  refine ⟨_, ?_, Story.readValid_eq_ok.mpr ⟨Story.read_write_line _, ensureValid_keyed⟩⟩
  rw [Library.names_storyPath _ _ (by decide)]
  rfl

theorem loadStory_vacant :
    (Library.here.loadStory "cave" .listed).run vacant = (.ok Story.keyed, vacant) :=
  Library.loadStory_eq_ok.mpr ⟨by decide, offers_vacant, rfl⟩

theorem holds_sessions_vacant :
    vacant.Holds (.dict Session.codec) Library.here.sessionsPath
      ((∅ : Dict Session).insert endlessId ⟨"cave", .listed⟩) := by
  refine ⟨_, ?_, Json.Codec.read_write_line (Session.keeps_all _)⟩
  rw [Library.names_sessionsPath]
  rfl

theorem inSession_vacant : Library.here.InSession endlessId ⟨"cave", .listed⟩ vacant :=
  ⟨_, holds_sessions_vacant, Dict.find?_insert_self ..⟩

theorem exists_play_vacant :
    (∃ answer, (PlayerCommand.play "cave").answer Library.here "ada" [] .epoch vacant =
      .ok answer) ∧
      Library.here.HasSaves
        ((PlayerCommand.play "cave").after Library.here "ada" [] .epoch vacant) := by
  obtain ⟨turn, hstart⟩ := exists_startPlay_keyed
  obtain ⟨saved, hsave⟩ : ∃ saved,
      (Library.here.saveProgress "ada" "cave" turn.1 .epoch).run vacant = (.ok (), saved) :=
    ⟨_, FileAction.run_eq_of_fst rfl⟩
  obtain ⟨sessions, hsessions, -⟩ := inSession_vacant
  have hall : (SessionStore.file Library.here).all.run vacant = (.ok sessions, vacant) :=
    run_bind_of_ok (Library.readRecord_eq_some.mpr ⟨hsessions, rfl⟩) _
  have hsaves : (PlayerCommand.play "cave").Saves Library.here "ada" .epoch vacant Story.keyed turn
      saved := ⟨loadStory_vacant, hstart, hsave⟩
  obtain ⟨after, hput⟩ := hsaves.exists_put .listed hall
  have hbegin : ((Library.here.setting "ada" .epoch []).beginStory Story.keyed .listed).run vacant =
      (.ok (turn, .file Library.here), after) :=
    Setting.beginStory_eq_ok.mpr ⟨hstart, saved, hsave, hput⟩
  have hstarts : ((Library.here.setting "ada" .epoch []).startListed "cave").run vacant =
      (.ok (Story.keyed, turn, .file Library.here), after) :=
    Setting.startListed_eq_ok.mpr ⟨loadStory_vacant, hbegin⟩
  have hplay : ((PlayerCommand.play "cave").command.run (Library.here.setting "ada" .epoch [])).run
      vacant = (.ok (titledReport Story.keyed turn, .file Library.here), after) :=
    run_bind_of_ok hstarts _
  have hoffers : Library.here.Offers Story.keyed.id .listed Story.keyed vacant := offers_vacant
  obtain ⟨-, -, hplaying⟩ := playing_of_beginStory Instant.isMoment_epoch hoffers hbegin
  rw [PlayerCommand.answer, PlayerCommand.after, hplay]
  exact ⟨⟨_, rfl⟩, hplaying.saved.hasSaves (by decide) (by decide)⟩

theorem keeps_apart_vacant :
    "ada" ≠ "bob" ∧ vacant.HasPlainNames ∧
      (∃ answer, (PlayerCommand.play "cave").answer Library.here "ada" [] .epoch vacant =
        .ok answer) ∧
      (∀ other : PlayerCommand,
        other.answer Library.here "bob" [] .epoch
            ((PlayerCommand.play "cave").after Library.here "ada" [] .epoch vacant) =
          other.answer Library.here "bob" [] .epoch vacant) ∧
      Library.here.SameButTimes ["ada", "bob"]
        ((PlayerCommand.play "cave").after Library.here "bob" [] .epoch
          ((PlayerCommand.play "cave").after Library.here "ada" [] .epoch vacant))
        ((PlayerCommand.play "cave").after Library.here "ada" [] .epoch
          ((PlayerCommand.play "cave").after Library.here "bob" [] .epoch vacant)) := by
  have hne : "ada" ≠ "bob" := by decide
  obtain ⟨hsame, -, hfiles⟩ := PlayerCommand.keeps_apart hne hasPlainNames_vacant (.play "cave")
    (.play "cave") [] [] .epoch .epoch .epoch .epoch
  refine ⟨hne, hasPlainNames_vacant, exists_play_vacant.1, fun other => ?_, hfiles⟩
  refine (hsame.answers [] other .epoch .epoch).mpr ?_
  rintro ⟨-, hshuts⟩
  have hshort : Entry.isTooLong "bob" = false := by decide
  cases hshort.symm.trans hshuts.long

/-- A player whose id is too long is told something else by the same command once another player
has begun the story. -/
theorem told_otherwise_vacant :
    "ada" ≠ endlessId ∧ vacant.HasPlainNames ∧
      PlayerCommand.resume.answer Library.here endlessId [] .epoch
          ((PlayerCommand.play "cave").after Library.here "ada" [] .epoch vacant) ≠
        PlayerCommand.resume.answer Library.here endlessId [] .epoch vacant ∧
      ((Library.here.loadSave endlessId "cave").run
          ((PlayerCommand.play "cave").after Library.here "ada" [] .epoch vacant)).1 ≠
        ((Library.here.loadSave endlessId "cave").run vacant).1 := by
  have hne : "ada" ≠ endlessId := by
    intro hsame
    have hshort : Entry.isTooLong "ada" = false := by decide
    rw [hsame, isTooLong_endlessId] at hshort
    cases hshort
  have hshuts : Library.here.ShutsOut endlessId vacant
      ((PlayerCommand.play "cave").after Library.here "ada" [] .epoch vacant) := by
    refine ⟨isKey_replicate (by decide), isTooLong_endlessId, ?_, exists_play_vacant.2⟩
    rintro ⟨entry, hentry⟩
    cases hentry
  have hstory : Library.here.IsInStory endlessId vacant :=
    ⟨_, _, inSession_vacant, loadStory_vacant⟩
  have hsame : Library.here.SameFor endlessId vacant
      ((PlayerCommand.play "cave").after Library.here "ada" [] .epoch vacant) :=
    PlayerCommand.sameFor_after hne hasPlainNames_vacant ..
  refine ⟨hne, hasPlainNames_vacant, ?_, ?_⟩
  · rw [ne_eq, hsame.answers, not_not]
    exact ⟨⟨id, hstory⟩, hshuts⟩
  · rw [ne_eq, hsame.saves, not_not]
    exact ⟨by decide, hshuts⟩

end Gamebook
