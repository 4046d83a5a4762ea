import Gamebook.Commands.Command
import Gamebook.Proofs.Library.Writing
import Gamebook.Proofs.Play.Safety

namespace Gamebook

open FileAction

/-- What the check of a draft and loading it come to: there is nothing that reads as a story, or
the story has errors, or it can be played. -/
inductive Verdict (setting : Setting) (id : String) (top : Entry) : Prop where
  | unread (error : LibraryError) (cause : setting.library.Unreadable id .unlisted top error)
      (read : (setting.library.readStory id .unlisted).run top = (.error error, top))
      (loaded : (setting.library.loadStory id .unlisted).run top = (.error error, top))
      (checked : ((Command.check id).run setting).run top = (.error (.library error), top))
  | refused (story : Story) (errors : story.errors ≠ [])
      (read : (setting.library.readStory id .unlisted).run top = (.ok story, top))
      (loaded : (setting.library.loadStory id .unlisted).run top =
        (.error (.invalidStory (setting.library.storyPath .unlisted id)
          (.invalid story.id story.errors)), top))
      (checked : ((Command.check id).run setting).run top =
        (.error (.storyHasErrors id story.check), top))
  | accepted (story : Story) (report : Report) (valid : story.errors = [])
      (read : (setting.library.readStory id .unlisted).run top = (.ok story, top))
      (loaded : (setting.library.loadStory id .unlisted).run top = (.ok story, top))
      (checked : ((Command.check id).run setting).run top =
        (.ok (report, setting.sessions), top))

variable {setting : Setting} {id : String} {top : Entry}

theorem countErrors_check (story : Story) : countErrors story.check = story.errors.length := by
  rw [countErrors, Story.errors]

theorem run_check_of_readStory {story : Story}
    (hread : (setting.library.readStory id .unlisted).run top = (.ok story, top)) :
    ((Command.check id).run setting).run top =
      ((Command.checkReport id story.check).map fun report => (report, setting.sessions), top) := by
  have hissues : (ask (setting.library.checkStory id)).run top = (.ok story.check, top) :=
    run_mapError_eq_ok.mpr (run_bind_of_ok hread _)
  rw [Command.run, Command.keepSessions, run_bind, run_bind_of_ok hissues, run_ofExcept]
  cases Command.checkReport id story.check <;> rfl

theorem run_check_of_readStory_error {error : LibraryError}
    (hread : (setting.library.readStory id .unlisted).run top = (.error error, top)) :
    ((Command.check id).run setting).run top = (.error (.library error), top) := by
  have hfails : (ask (setting.library.checkStory id)).run top = (.error (.library error), top) :=
    run_mapError_eq_error.mpr ⟨error, run_bind_of_error hread _, rfl⟩
  rw [Command.run, Command.keepSessions]
  exact run_bind_of_error (run_bind_of_error hfails _) _

/-- One verdict or another is reached on every draft. -/
theorem verdict_of_draft (setting : Setting) (id : String) (top : Entry) :
    Verdict setting id top := by
  by_cases hheld : ∃ story, isKey id = true ∧ setting.library.Has id .unlisted story top
  · obtain ⟨story, hkey, hhas⟩ := hheld
    have hread := Library.readStory_eq_ok.mpr ⟨hkey, hhas, rfl⟩
    have hload := Library.loadStory_of_readStory hread
    have hchecked := run_check_of_readStory hread
    rw [Command.checkReport, countErrors_check] at hchecked
    by_cases hvalid : story.errors = []
    · rw [if_pos hvalid] at hload
      rw [hvalid] at hchecked
      exact .accepted story _ hvalid hread hload hchecked
    · rw [if_neg hvalid] at hload
      rw [if_pos (mt List.length_eq_zero_iff.mp hvalid)] at hchecked
      exact .refused story hvalid hread hload hchecked
  · obtain ⟨error, hcause⟩ :=
      Library.exists_unreadable fun story hkey hhas => hheld ⟨story, hkey, hhas⟩
    have hread : (setting.library.readStory id .unlisted).run top = (.error error, top) :=
      hcause.run_readAs fun _ _ hfails => hfails
    exact .unread error hcause hread
      (hcause.run_readAs fun _ _ => Story.readValid_of_read_error)
      (run_check_of_readStory_error hread)

/-- Whether an author who checks a draft is told what a player would meet who loads it. -/
structure ChecksAsLoaded (setting : Setting) (id : String) (top : Entry) : Prop where
  succeeds_iff : (∃ answer, (((Command.check id).run setting).run top).1 = .ok answer) ↔
    ∃ story, ((setting.library.loadStory id .unlisted).run top).1 = .ok story
  /-- Where the file holds a story with errors, these are what it cannot be loaded for, as they
  stand among the problems that the check finds. -/
  errors_eq : ∀ story, isKey id = true → setting.library.Has id .unlisted story top →
    story.ensureValid ≠ .ok () → ∃ issues,
      ((setting.library.checkStory id).run top).1 = .ok issues ∧
        ((setting.library.loadStory id .unlisted).run top).1 =
          .error (.invalidStory (setting.library.storyPath .unlisted id)
            (.invalid story.id (issues.filter Issue.isError)))
  /-- Where the file holds no story, both fail for the reason why it cannot be read. -/
  error_eq : (∀ story, isKey id = true → ¬setting.library.Has id .unlisted story top) →
    ∃ error, setting.library.Unreadable id .unlisted top error ∧
      ((setting.library.checkStory id).run top).1 = .error error ∧
      ((setting.library.loadStory id .unlisted).run top).1 = .error error ∧
      (((Command.check id).run setting).run top).1 = .error (.library error)
  starts : ∀ story, ((setting.library.loadStory id .unlisted).run top).1 = .ok story →
    ∀ player, ∃ turn, story.startPlay player = .ok turn

theorem checks_as_loaded (setting : Setting) (id : String) (top : Entry) :
    ChecksAsLoaded setting id top := by
  cases verdict_of_draft setting id top with
  | unread error hcause hread hload hchecked =>
      constructor
      · rw [hload, hchecked]
        simp
      · intro story hkey hhas
        cases hread.symm.trans (Library.readStory_eq_ok.mpr ⟨hkey, hhas, rfl⟩)
      · intro _
        rw [hload, hchecked]
        exact ⟨error, hcause, congrArg Prod.fst (run_bind_of_error hread _), rfl, rfl⟩
      · rw [hload]
        rintro story ⟨⟩
  | refused story herrors hread hload hchecked =>
      constructor
      · rw [hload, hchecked]
        simp
      · intro other hkey hhas _
        cases hread.symm.trans (Library.readStory_eq_ok.mpr ⟨hkey, hhas, rfl⟩)
        rw [hload]
        exact ⟨story.check, congrArg Prod.fst (run_bind_of_ok hread _), rfl⟩
      · intro hnone
        obtain ⟨hkey, hhas, -⟩ := Library.readStory_eq_ok.mp hread
        exact absurd hhas (hnone story hkey)
      · rw [hload]
        rintro other ⟨⟩
  | accepted story report hvalid hread hload hchecked =>
      constructor
      · rw [hload, hchecked]
        simp
      · intro other hkey hhas hinvalid
        cases hread.symm.trans (Library.readStory_eq_ok.mpr ⟨hkey, hhas, rfl⟩)
        exact absurd (Story.ensureValid_eq_ok.mpr hvalid) hinvalid
      · intro hnone
        obtain ⟨hkey, hhas, -⟩ := Library.readStory_eq_ok.mp hread
        exact absurd hhas (hnone story hkey)
      · rw [hload]
        rintro other ⟨⟩ player
        obtain ⟨begun, view, hstart, -⟩ :=
          Story.exists_startPlay (Story.ensureValid_eq_ok.mpr hvalid) player
        exact ⟨(begun, view), hstart⟩

end Gamebook
