import Gamebook.Proofs.Library.Order

namespace Gamebook

open FileAction

theorem AuthorCall.Makes.registered {before after : Shelf} {call : AuthorCall}
    {answer : call.Answer} (hmakes : call.Makes before after answer) {code : String}
    {entry : CodeEntry} (hentry : before.codes.find? code = some entry) :
    after.codes.find? code = some entry := by
  cases call with
  | createStory id title =>
      obtain ⟨-, -, -, rfl⟩ := hmakes
      exact hentry
  | edit id change =>
      obtain ⟨draft, changed, -, -, -, rfl⟩ := hmakes
      exact hentry
  | publish id scope candidates =>
      cases scope with
      | listed =>
          obtain ⟨draft, -, -, rfl⟩ := hmakes
          exact hentry
      | unlisted =>
          obtain ⟨draft, fresh, -, -, hfree, -, rfl⟩ := hmakes
          rw [Shelf.register, Dict.find?_insert, if_neg]
          · exact hentry
          · rintro rfl
            cases hfree.symm.trans hentry
  | check id =>
      obtain ⟨draft, -, -, rfl⟩ := hmakes
      exact hentry

namespace Library

variable {library : Library} {shelf : Shelf} {id code : String} {scope : Visibility}
  {story : Story} {candidates : List String} {publication : Publication} {top published : Entry}

theorem Keeps.run_loadStory (hkeeps : library.Keeps shelf top)
    (hstory : shelf.stories scope id = some story) :
    (library.loadStory id scope).run top =
      (if story.errors = [] then .ok story
        else .error (.invalidStory (library.storyPath scope id) (.invalid story.id story.errors)),
        top) :=
  loadStory_of_readStory (hkeeps.readStory_eq_ok.mpr ⟨hstory, rfl⟩)

theorem Keeps.run_loadByCode (hkeeps : library.Keeps shelf top) {text : String}
    (hcode : shelf.codes.find? (normalizeCode text) = some ⟨id⟩)
    (hdraft : shelf.stories .unlisted id = some story) :
    (library.loadByCode text).run top =
      (if story.errors = [] then .ok (id, story)
        else .error (.invalidStory (library.storyPath .unlisted id)
          (.invalid story.id story.errors)),
        top) := by
  rw [loadByCode, run_bind_of_ok hkeeps.codes]
  simp only [hcode]
  rw [run_bind, run_attempt, hkeeps.run_loadStory hdraft]
  by_cases herrors : story.errors = []
  · simp only [herrors, if_true]
    rfl
  · simp only [herrors, if_false]
    rfl

theorem Keeps.registered_afterCalls (hkeeps : library.Keeps shelf top) (hsound : shelf.IsSound)
    (hcode : shelf.codes.find? code = some ⟨id⟩) (calls : List AuthorCall) :
    ∃ last, library.Keeps last (library.afterCalls top calls) ∧ last.IsSound ∧
      last.codes.find? code = some ⟨id⟩ := by
  refine hkeeps.afterCalls (P := fun shelf => shelf.IsSound ∧ shelf.codes.find? code = some ⟨id⟩)
    ?_ ⟨hsound, hcode⟩
  rintro call - answer before next hmakes ⟨hbefore, hentry⟩
  exact ⟨hmakes.isSound hbefore, hmakes.registered hentry⟩

theorem Keeps.registered_publish (hkeeps : library.Keeps shelf top) (hsound : shelf.IsSound)
    (hrun : (library.publish id .unlisted candidates).run top = (.ok publication, published)) :
    ∃ code next, publication.shareCode = some code ∧ shelf.codes.find? code = none ∧
      library.Keeps next published ∧ next.IsSound ∧ next.codes.find? code = some ⟨id⟩ := by
  obtain ⟨next, hmakes, hnext⟩ := hkeeps.publishUnlisted hrun
  have hafter := hmakes.isSound hsound
  obtain ⟨draft, code, -, -, hfree, rfl, rfl⟩ := hmakes
  exact ⟨code, _, rfl, hfree, hnext, hafter, Dict.find?_insert_self ..⟩

theorem IsEmpty.registered_of_publishes (hempty : library.IsEmpty top) {calls : List AuthorCall}
    (hpublishes : library.Publishes top calls id .unlisted publication)
    (hcode : publication.shareCode = some code) :
    ∃ last, library.Keeps last (library.afterCalls top calls) ∧
      last.codes.find? code = some ⟨id⟩ := by
  obtain ⟨before, candidates, after, rfl, hrun⟩ := hpublishes
  obtain ⟨shelf, hkeeps, hsound⟩ := hempty.exists_shelf before
  obtain ⟨given, next, hgiven, -, hnext, hnextSound, hentry⟩ :=
    hkeeps.registered_publish hsound (run_eq_of_fst hrun)
  cases hgiven.symm.trans hcode
  obtain ⟨last, hlast, -, hheld⟩ := hnext.registered_afterCalls hnextSound hentry after
  refine ⟨last, ?_, hheld⟩
  rw [afterCalls_append_cons]
  exact hlast

theorem share_codes_stand (hempty : library.IsEmpty top) {earlier : List AuthorCall}
    (hrun : (library.publish id .unlisted candidates).run (library.afterCalls top earlier) =
      (.ok publication, published)) :
    ∃ code, publication.shareCode = some code ∧
      (∀ other old, library.Publishes top earlier other .unlisted old →
        old.shareCode ≠ some code) ∧
      ∀ later text, normalizeCode text = code →
        ∃ draft,
          (library.readStory id .unlisted).run (library.afterCalls published later) =
            (.ok draft, library.afterCalls published later) ∧
          (library.loadByCode text).run (library.afterCalls published later) =
            (if draft.errors = [] then .ok (id, draft)
              else .error (.invalidStory (library.storyPath .unlisted id)
                (.invalid draft.id draft.errors)),
              library.afterCalls published later) := by
  obtain ⟨shelf, hkeeps, hsound⟩ := hempty.exists_shelf earlier
  obtain ⟨code, next, hcode, hfree, hnext, hnextSound, hentry⟩ :=
    hkeeps.registered_publish hsound hrun
  refine ⟨code, hcode, ?_, ?_⟩
  · intro other old hold hsame
    obtain ⟨last, hlast, hheld⟩ := hempty.registered_of_publishes hold hsame
    rw [hkeeps.codes_unique hlast] at hfree
    cases hfree.symm.trans hheld
  · rintro later text rfl
    obtain ⟨last, hlast, hlastSound, hheld⟩ :=
      hnext.registered_afterCalls hnextSound hentry later
    obtain ⟨draft, hdraft⟩ := hlastSound.coded _ _ hheld
    exact ⟨draft, hlast.readStory_eq_ok.mpr ⟨hdraft, rfl⟩, hlast.run_loadByCode hheld hdraft⟩

end Library

/-- The calls by which the story goes on to be edited, and is published once more. -/
def reopenings : List AuthorCall :=
  [.edit "cave" (.addInitialItem "lamp"), .publish "cave" .unlisted ["F00D", "BEEF"]]

/-- The story that these calls leave. -/
def Story.reopened : Story :=
  ((restful.behind "F00D").addInitialItem "lamp").1.behind "BEEF"

theorem run_readStory_reopenings {published : Entry}
    (hkeeps : Library.here.Keeps
      ((openShelf.put .unlisted (Story.restful.behind "F00D")).register "F00D" "cave") published) :
    (Library.here.readStory "cave" .unlisted).run (Library.here.afterCalls published reopenings) =
      (.ok Story.reopened, Library.here.afterCalls published reopenings) := by
  have hstory : ((openShelf.put .unlisted (Story.restful.behind "F00D")).register "F00D"
      "cave").stories .unlisted "cave" = some (Story.restful.behind "F00D") := rfl
  obtain ⟨furnished, hfurnish, hfurnished⟩ := hkeeps.exists_perform hstory rfl
    (.addInitialItem "lamp") (by decide) (StoryEdit.makes_addInitialItem.mpr rfl)
  obtain ⟨last, hpublish, hlast⟩ : ∃ last,
      (Library.here.publish "cave" .unlisted ["F00D", "BEEF"]).run furnished =
        (.ok ⟨Story.reopened, some "BEEF"⟩, last) ∧ Library.here.Keeps _ last :=
    hfurnished.exists_publishUnlisted (Shelf.stories_put_self ..) rfl rfl
  have hafter : Library.here.afterCalls published reopenings = last := by
    have hedited : Library.here.afterCall published (.edit "cave" (.addInitialItem "lamp")) =
        furnished := congrArg Prod.snd hfurnish
    rw [reopenings, Library.afterCalls, List.foldl_cons, hedited]
    exact Library.afterCall_publish hpublish
  rw [hafter]
  exact hlast.readStory_eq_ok.mpr ⟨rfl, rfl⟩

/-- A story that was given two share codes, one after the other, is found as it is now by the first
of them, also when this is given in lower case and with blanks around it. -/
theorem share_codes_stand_reopened :
    ∃ published last,
      (Library.here.publish "cave" .unlisted ["F00D"]).run
          (Library.here.afterCalls (.folder []) (diggings ++ openings)) =
        (.ok ⟨Story.restful.behind "F00D", some "F00D"⟩, published) ∧
      Library.here.afterCalls published reopenings = last ∧
      (Library.here.readStory "cave" .unlisted).run last = (.ok Story.reopened, last) ∧
      (Library.here.loadByCode " f00d\n").run last = (.ok ("cave", Story.reopened), last) := by
  obtain ⟨published, hpublish, hkeeps⟩ := exists_publish_openings
  have hrun : (Library.here.publish "cave" .unlisted ["F00D"]).run
      (Library.here.afterCalls (.folder []) (diggings ++ openings)) =
        (.ok ⟨Story.restful.behind "F00D", some "F00D"⟩, published) := by
    rw [Library.afterCalls_append]
    exact hpublish
  obtain ⟨code, hcode, -, hstands⟩ := Library.share_codes_stand isEmpty_here hrun
  cases hcode
  obtain ⟨draft, hread, hload⟩ := hstands reopenings " f00d\n" (by decide +kernel)
  have hreopened := run_readStory_reopenings hkeeps
  cases hreopened.symm.trans hread
  have hvalid : Story.reopened.errors = [] := by
    rw [Story.errors_eq]
    decide +kernel
  rw [if_pos hvalid] at hload
  exact ⟨published, _, hrun, rfl, hreopened, hload⟩

end Gamebook
