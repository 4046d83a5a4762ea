import Gamebook.Proofs.Commands.Failing
import Gamebook.Proofs.Library.ShareCodes
import Gamebook.Proofs.Library.Tables
import Gamebook.Proofs.Play.Safety

namespace Gamebook

open FileAction

def Story.IsLabelled (story : Story) : Prop :=
  story.ChoicesAre fun text _ => Text.isBlank text = false

/-- Whether a call adds no choice without a label. -/
def AuthorCall.IsLabelled : AuthorCall → Prop
  | .edit _ (.addChoice _ text _) => Text.isBlank text = false
  | _ => True

def Shelf.IsLabelled (shelf : Shelf) : Prop :=
  ∀ scope id story, shelf.stories scope id = some story → story.IsLabelled

namespace Story

variable {story : Story}

theorem blankLabels_of_isLabelled (hlabelled : story.IsLabelled) : story.blankLabels = [] := by
  rw [blankLabels, List.flatMap_eq_nil_iff]
  rintro ⟨name, scene⟩ hentry
  rw [List.filterMap_eq_nil_iff]
  rintro ⟨choice, index⟩ hplace
  have hscene : story.scene? name = some scene := Dict.find?_eq_some_iff.mpr hentry
  have hchoice : choice ∈ scene.choices :=
    List.mem_of_getElem? (List.mem_zipIdx_iff_getElem?.mp hplace)
  exact if_neg (Bool.eq_false_iff.mp (hlabelled.of_scene hscene choice hchoice))

theorem StandsAt.errors_eq_nil {scope : Visibility} {id : String}
    (hstands : story.StandsAt scope id) (hid : isKey id = true) (hlabelled : story.IsLabelled) :
    story.errors = [] := by
  have hblank : Text.isBlank story.id = false := by
    rw [hstands.id_eq]
    exact isBlank_of_isKey hid
  rw [Story.errors, hstands.authored.filter_check hblank]
  exact blankLabels_of_isLabelled hlabelled

end Story

theorem Shelf.IsLabelled.put {shelf : Shelf} {scope : Visibility} {story : Story}
    (hshelf : shelf.IsLabelled) (hstory : story.IsLabelled) :
    (shelf.put scope story).IsLabelled := by
  intro other id held hheld
  rcases stories_put_cases hheld with ⟨-, -, rfl⟩ | ⟨-, hheld⟩
  · exact hstory
  · exact hshelf other id held hheld

theorem AuthorCall.Makes.isLabelled {before after : Shelf} {call : AuthorCall}
    {answer : call.Answer} (hmakes : call.Makes before after answer) (hcall : call.IsLabelled)
    (hbefore : before.IsLabelled) : after.IsLabelled := by
  cases call with
  | createStory id title =>
      obtain ⟨-, -, rfl, rfl⟩ := hmakes
      exact hbefore.put (Story.choicesAre_fresh _ id title _)
  | edit id change =>
      obtain ⟨draft, changed, hdraft, -, hmade, rfl⟩ := hmakes
      refine hbefore.put (hmade.choicesAre ?_ (hbefore .unlisted id draft hdraft))
      rintro scene text next rfl
      exact hcall
  | publish id scope candidates =>
      cases scope with
      | listed =>
          obtain ⟨draft, hdraft, -, rfl⟩ := hmakes
          exact hbefore.put (hbefore .unlisted id draft hdraft)
      | unlisted =>
          obtain ⟨draft, code, hdraft, -, -, -, rfl⟩ := hmakes
          exact hbefore.put (hbefore .unlisted id draft hdraft)
  | check id =>
      obtain ⟨draft, -, -, rfl⟩ := hmakes
      exact hbefore

/-- The calls of an author who creates a story and publishes it for everyone. -/
def debut (id : String) : List AuthorCall :=
  [.createStory id "The Cave", .publish id .listed []]

theorem isLabelled_debut (id : String) : ∀ call ∈ debut id, call.IsLabelled := by
  simp [debut, AuthorCall.IsLabelled]

namespace Library

variable {library : Library} {id player : String} {publication : Publication}
  {calls : List AuthorCall} {now : Instant} {candidates : List String} {top : Entry}

theorem IsEmpty.stores_afterCalls (hempty : library.IsEmpty top) (calls : List AuthorCall) :
    ∃ records, library.Stores records (library.afterCalls top calls) := by
  refine preserved_afterCalls (P := fun top => ∃ records, library.Stores records top) ?_
    ⟨_, hempty.stores⟩ calls
  refine preserves_perform ?_ ?_
  · rintro story scope top ⟨records, hstores⟩
    exact ⟨_, hstores.run_perform (.writeStory story scope)⟩
  · rintro codes top ⟨records, hstores⟩
    exact ⟨_, hstores.run_perform (.saveCodes codes)⟩

theorem IsEmpty.exists_copy (hempty : library.IsEmpty top)
    (hlabelled : ∀ call ∈ calls, call.IsLabelled)
    (hpublished : library.Publishes top calls id .listed publication) :
    ∃ copy, (library.loadStory id .listed).run (library.afterCalls top calls) =
        (.ok copy, library.afterCalls top calls) ∧
      copy.id = id ∧ isKey id = true ∧ ∀ player, ∃ turn, copy.startPlay player = .ok turn := by
  obtain ⟨shelf, hkeeps, hsound, hshelf⟩ := hempty.keeps.afterCalls
    (P := fun shelf => shelf.IsSound ∧ shelf.IsLabelled)
    (fun call hcall _ _ _ hmakes hbefore =>
      ⟨hmakes.isSound hbefore.1, hmakes.isLabelled (hlabelled call hcall) hbefore.2⟩)
    ⟨Shelf.isSound_empty, fun _ _ _ hstory => by cases hstory⟩
  obtain ⟨copy, hcopy⟩ : ∃ copy, shelf.stories .listed id = some copy := by
    obtain ⟨last, hlast, hcopies⟩ := hempty.keeps.copies_afterCalls Shelf.isSound_empty calls
    obtain ⟨copy, hcopy⟩ := (hcopies id).2 ⟨publication, hpublished⟩
    exact ⟨copy, (hkeeps.readStory_eq_ok.mp (hlast.readStory_eq_ok.mpr ⟨hcopy, rfl⟩)).1⟩
  have hid := hkeeps.keys .listed id copy hcopy
  have hstands := hsound.stands .listed id copy hcopy
  have herrors := hstands.errors_eq_nil hid (hshelf .listed id copy hcopy)
  refine ⟨copy, ?_, hstands.id_eq, hid, ?_⟩
  · rw [hkeeps.run_loadStory hcopy, if_pos herrors]
  · intro player
    have hvalid : copy.ensureValid = .ok () := by rw [Story.ensureValid, if_pos herrors]
    obtain ⟨begun, view, hstart, -⟩ := Story.exists_startPlay hvalid player
    exact ⟨_, hstart⟩

theorem Stores.exists_saveProgress_iff {records : Records} (hstores : library.Stores records top)
    (hplayer : isKey player = true) (hid : isKey id = true) (state : PlayerState) (now : Instant) :
    (∃ after, (library.saveProgress player id state now).run top = (.ok (), after)) ↔
      (Place.save player id).fits = true := by
  have hproper : (Place.save player id).isProper = true :=
    Place.isProper_save_iff.mpr ⟨hplayer, hid⟩
  rw [run_saveProgress hplayer hid]
  constructor
  · rintro ⟨after, hwrite⟩
    by_contra hlong
    obtain ⟨error, after', hfails, -⟩ :=
      hstores.write_error (.save player id) hproper (Bool.not_eq_true _ ▸ hlong) ⟨state, some now⟩
    cases hwrite.symm.trans hfails
  · intro hfits
    exact hstores.exists_writeText hproper hfits _

theorem IsEmpty.publishes_debut (hempty : library.IsEmpty top) (hid : isKey id = true)
    (hshort : Entry.isTooLong id = false) :
    ∃ publication, library.Publishes top (debut id) id .listed publication := by
  let draft := Story.fresh id "The Cave" Story.emptyStartText
  obtain ⟨created, hwrite, hstores⟩ :=
    hempty.stores.perform (StoreCall.isAccepted_writeStory draft .unlisted hid hshort)
  have hcreate : (library.createStory id "The Cave").run top = (.ok draft, created) := by
    rw [createStory, run_bind_of_ok (checkKey_eq_ok.mpr ⟨hid, rfl⟩),
      run_bind_of_ok (hempty.keeps.run_hasStory hid)]
    exact run_bind_of_ok hwrite _
  have hread : (library.readStory id .unlisted).run created = (.ok draft, created) :=
    hstores.keeps_shelf.readStory_eq_ok.mpr ⟨Function.update_self .., rfl⟩
  obtain ⟨published, hcopy, -⟩ :=
    hstores.perform (StoreCall.isAccepted_writeStory draft.listedCopy .listed hid hshort)
  have hpublish : (library.publish id .listed []).run created =
      (.ok ⟨draft.listedCopy, none⟩, published) :=
    (run_bind_of_ok hread _).trans (run_bind_of_ok hcopy _)
  have hcreated : library.afterCalls top [.createStory id "The Cave"] = created :=
    congrArg Prod.snd hcreate
  refine ⟨⟨draft.listedCopy, none⟩, [.createStory id "The Cave"], [], [], rfl, ?_⟩
  rw [hcreated, hpublish]

theorem exists_save_of_play {story : Story} {report : Report} {sessions : SessionStore}
    {after : Entry} (hload : (library.loadStory id .listed).run top = (.ok story, top))
    (hrun : ((Command.play id).run (library.setting player now candidates)).run top =
      (.ok (report, sessions), after)) :
    ∃ turn saved, story.startPlay player = .ok turn ∧
      (library.saveProgress player story.id turn.1 now).run top = (.ok (), saved) := by
  obtain ⟨⟨held, turn, store⟩, middle, hlisted, -⟩ := run_bind_eq_ok.mp hrun
  obtain ⟨hheld, hbegin⟩ := Setting.startListed_eq_ok.mp hlisted
  cases hload.symm.trans hheld
  obtain ⟨hstart, saved, hsave, -⟩ := Setting.beginStory_eq_ok.mp hbegin
  exact ⟨turn, saved, hstart, hsave⟩

theorem plays_published_iff (hempty : library.IsEmpty top)
    (hlabelled : ∀ call ∈ calls, call.IsLabelled)
    (hpublished : library.Publishes top calls id .listed publication)
    (hplayer : isKey player = true) (hshort : Entry.isTooLong player = false) :
    (∃ report sessions after,
      ((Command.play id).run (library.setting player now candidates)).run
        (library.afterCalls top calls) = (.ok (report, sessions), after)) ↔
      Entry.isTooLong (id ++ ".json") = false := by
  obtain ⟨copy, hload, rfl, hid, hstarts⟩ := hempty.exists_copy hlabelled hpublished
  obtain ⟨turn, hstart⟩ := hstarts player
  obtain ⟨records, hstores⟩ := hempty.stores_afterCalls calls
  have hfits : (Place.save player copy.id).fits = true ↔
      Entry.isTooLong (copy.id ++ ".json") = false :=
    Place.fits_save_iff.trans (and_iff_right hshort)
  rw [← hfits, ← hstores.exists_saveProgress_iff hplayer hid turn.1 now]
  constructor
  · rintro ⟨report, sessions, after, hrun⟩
    obtain ⟨begun, saved, hbegun, hsave⟩ := exists_save_of_play hload hrun
    cases hstart.symm.trans hbegun
    exact ⟨saved, hsave⟩
  · -- once there is a save there is a folder to put the sessions into, and these could be read
    rintro ⟨saved, hsave⟩
    obtain ⟨entries, hfolder⟩ := hstores.keeps_shelf.exists_folder
    obtain ⟨⟨_, hthere⟩, hall⟩ := all_of_saveProgress hfolder hstores.sessions hsave
    obtain ⟨after, hput⟩ := exists_put hplayer hthere hall ⟨copy.id, .listed⟩
    have hbegin : ((library.setting player now candidates).beginStory copy .listed).run
        (library.afterCalls top calls) = (.ok (turn, .file library), after) :=
      Setting.beginStory_eq_ok.mpr ⟨hstart, saved, hsave, hput⟩
    have hlisted : ((library.setting player now candidates).startListed copy.id).run
        (library.afterCalls top calls) = (.ok (copy, turn, .file library), after) :=
      Setting.startListed_eq_ok.mpr ⟨hload, hbegin⟩
    exact ⟨titledReport copy turn, .file library, after, run_bind_of_ok hlisted _⟩

end Library

theorem plays_published_debut :
    Library.here.IsEmpty (.folder []) ∧
      (∃ publication,
        Library.here.Publishes (.folder []) (debut "cave") "cave" .listed publication) ∧
      ∃ report sessions after,
        ((Command.play "cave").run (Library.here.setting "ada" .epoch [])).run
          (Library.here.afterCalls (.folder []) (debut "cave")) =
            (.ok (report, sessions), after) := by
  obtain ⟨publication, hpublished⟩ :=
    isEmpty_here.publishes_debut (by decide : isKey "cave" = true) (by decide)
  refine ⟨isEmpty_here, ⟨publication, hpublished⟩, ?_⟩
  exact (Library.plays_published_iff isEmpty_here (isLabelled_debut "cave") hpublished (by decide)
    (by decide)).mpr (by decide)

/-- An id that can be the name of a folder, but leaves no room for the name of a save. -/
def longId : String :=
  String.ofList (List.replicate 251 'a')

theorem isKey_longId : isKey longId = true :=
  isKey_replicate (by decide)

/-- A story with such an id is published, but cannot be played. -/
theorem exists_play_refused :
    Library.here.IsEmpty (.folder []) ∧
      (∃ publication,
        Library.here.Publishes (.folder []) (debut longId) longId .listed publication) ∧
      (∀ call ∈ debut longId, call.IsLabelled) ∧
      isKey "ada" = true ∧ Entry.isTooLong "ada" = false ∧
      ¬∃ report sessions after,
        ((Command.play longId).run (Library.here.setting "ada" .epoch [])).run
          (Library.here.afterCalls (.folder []) (debut longId)) =
            (.ok (report, sessions), after) := by
  have hplayer : isKey "ada" = true := by decide
  have hshort : Entry.isTooLong "ada" = false := by decide
  have hlong : Entry.isTooLong (longId ++ ".json") = true := by decide +kernel
  obtain ⟨publication, hpublished⟩ :=
    isEmpty_here.publishes_debut isKey_longId (by decide +kernel)
  refine ⟨isEmpty_here, ⟨publication, hpublished⟩, isLabelled_debut longId, hplayer, hshort, ?_⟩
  rintro ⟨report, sessions, after, hrun⟩
  obtain ⟨copy, hload, hcopy, hid, -⟩ :=
    isEmpty_here.exists_copy (isLabelled_debut longId) hpublished
  obtain ⟨turn, saved, -, hsave⟩ := Library.exists_save_of_play hload hrun
  obtain ⟨records, hstores⟩ := isEmpty_here.stores_afterCalls (debut longId)
  rw [hcopy] at hsave
  have hfits := (hstores.exists_saveProgress_iff hplayer hid turn.1 .epoch).mp ⟨saved, hsave⟩
  cases hlong.symm.trans (Place.fits_save_iff.mp hfits).2

end Gamebook
