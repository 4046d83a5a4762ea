import Gamebook.Proofs.Library.Drafting

/-!
The order that authors keep a library in. A shelf is sound if every story stands under its own id, is
one that authors can make, and agrees with the share codes; every call keeps it sound
(`AuthorCall.Makes.isSound`). So whatever authors call for in an empty library, its files are in
order at every point (`Library.inOrder_afterCalls`).
-/

namespace Gamebook

open FileAction

/-- Whether a story has the id and the visibility of its place, and is one that authors can make. -/
structure Story.StandsAt (story : Story) (scope : Visibility) (id : String) : Prop where
  id_eq : story.id = id
  visibility_eq : story.visibility = scope
  authored : story.IsAuthored

/-- Whether the stories and the share codes on a shelf agree. -/
structure Shelf.IsSound (shelf : Shelf) : Prop where
  stands : ∀ scope id story, shelf.stories scope id = some story → story.StandsAt scope id
  registered : ∀ id draft code, shelf.stories .unlisted id = some draft →
    draft.shareCode = some code → shelf.codes.find? code = some ⟨id⟩
  uncoded : ∀ id copy, shelf.stories .listed id = some copy → copy.shareCode = none
  drafted : ∀ id copy, shelf.stories .listed id = some copy →
    ∃ draft, shelf.stories .unlisted id = some draft
  coded : ∀ code entry, shelf.codes.find? code = some entry →
    ∃ draft, shelf.stories .unlisted entry.storyId = some draft

namespace Shelf

theorem isSound_empty : empty.IsSound := by
  constructor
  · rintro scope id story ⟨⟩
  · rintro id draft code ⟨⟩
  · rintro id copy ⟨⟩
  · rintro id copy ⟨⟩
  · rintro code entry ⟨⟩

variable {shelf : Shelf} {id code : String} {draft : Story} {scope : Visibility} {story : Story}

theorem stories_put_cases {other : Visibility} {held : Story}
    (hheld : (shelf.put scope story).stories other id = some held) :
    (other = scope ∧ id = story.id ∧ held = story) ∨
      (¬(other = scope ∧ id = story.id) ∧ shelf.stories other id = some held) := by
  by_cases hplace : other = scope ∧ id = story.id
  · obtain ⟨rfl, rfl⟩ := hplace
    rw [stories_put_self] at hheld
    exact Or.inl ⟨rfl, rfl, (Option.some.inj hheld).symm⟩
  · rw [stories_put_of_ne hplace] at hheld
    exact Or.inr ⟨hplace, hheld⟩

theorem exists_stories_put {other : Visibility} {held : Story}
    (hheld : shelf.stories other id = some held) :
    ∃ held, (shelf.put scope story).stories other id = some held := by
  by_cases hplace : other = scope ∧ id = story.id
  · obtain ⟨rfl, rfl⟩ := hplace
    exact ⟨story, stories_put_self ..⟩
  · exact ⟨held, (stories_put_of_ne hplace).trans hheld⟩

/-- A draft can be put on a sound shelf if its share code is registered for it. -/
theorem IsSound.put_draft (hsound : shelf.IsSound) (hstands : story.StandsAt .unlisted id)
    (hcode : ∀ code, story.shareCode = some code → shelf.codes.find? code = some ⟨id⟩) :
    (shelf.put .unlisted story).IsSound := by
  obtain rfl := hstands.id_eq
  constructor
  · intro scope id held hheld
    rcases stories_put_cases hheld with ⟨rfl, rfl, rfl⟩ | ⟨-, hheld⟩
    · exact hstands
    · exact hsound.stands scope id held hheld
  · intro id held code hheld hheldCode
    rcases stories_put_cases hheld with ⟨-, rfl, rfl⟩ | ⟨-, hheld⟩
    · exact hcode code hheldCode
    · exact hsound.registered id held code hheld hheldCode
  · intro id copy hcopy
    exact hsound.uncoded id copy hcopy
  · intro id copy hcopy
    obtain ⟨draft, hdraft⟩ := hsound.drafted id copy hcopy
    exact exists_stories_put hdraft
  · intro code entry hentry
    obtain ⟨draft, hdraft⟩ := hsound.coded code entry hentry
    exact exists_stories_put hdraft

theorem IsSound.put_copy (hsound : shelf.IsSound) (hstands : story.StandsAt .listed id)
    (hcode : story.shareCode = none) (hdraft : shelf.stories .unlisted id = some draft) :
    (shelf.put .listed story).IsSound := by
  obtain rfl := hstands.id_eq
  constructor
  · intro scope id held hheld
    rcases stories_put_cases hheld with ⟨rfl, rfl, rfl⟩ | ⟨-, hheld⟩
    · exact hstands
    · exact hsound.stands scope id held hheld
  · intro id held code hheld
    exact hsound.registered id held code hheld
  · intro id copy hcopy
    rcases stories_put_cases hcopy with ⟨-, -, rfl⟩ | ⟨-, hcopy⟩
    · exact hcode
    · exact hsound.uncoded id copy hcopy
  · intro id copy hcopy
    rcases stories_put_cases hcopy with ⟨-, rfl, rfl⟩ | ⟨-, hcopy⟩
    · exact ⟨draft, hdraft⟩
    · exact hsound.drafted id copy hcopy
  · intro code entry hentry
    exact hsound.coded code entry hentry

theorem IsSound.register (hsound : shelf.IsSound) (hfree : shelf.codes.find? code = none)
    (hdraft : shelf.stories .unlisted id = some draft) : (shelf.register code id).IsSound := by
  have hcodes : ∀ other entry, shelf.codes.find? other = some entry →
      (shelf.register code id).codes.find? other = some entry := by
    intro other entry hentry
    rw [Shelf.register, Dict.find?_insert, if_neg]
    · exact hentry
    · rintro rfl
      cases hfree.symm.trans hentry
  refine ⟨hsound.stands, ?_, hsound.uncoded, hsound.drafted, ?_⟩
  · intro id held other hheld hother
    exact hcodes other ⟨id⟩ (hsound.registered id held other hheld hother)
  · intro other entry hentry
    rw [Shelf.register, Dict.find?_insert] at hentry
    split at hentry
    · cases hentry
      exact ⟨draft, hdraft⟩
    · exact hsound.coded other entry hentry

end Shelf

namespace AuthorCall

variable {before after : Shelf} {call : AuthorCall} {answer : call.Answer}

theorem Makes.isSound (hmakes : call.Makes before after answer) (hsound : before.IsSound) :
    after.IsSound := by
  cases call with
  | createStory id title =>
      obtain ⟨-, -, rfl, rfl⟩ := hmakes
      refine hsound.put_draft ⟨rfl, rfl, Story.isAuthored_fresh ..⟩ ?_
      rintro code ⟨⟩
  | edit id change =>
      obtain ⟨draft, changed, hdraft, hnamed, hmade, rfl⟩ := hmakes
      have hstands := hsound.stands .unlisted id draft hdraft
      have hframe := hmade.frame
      have hchanged : changed.StandsAt .unlisted id := by
        refine ⟨?_, ?_, hmade.isAuthored hnamed hstands.authored⟩
        · rw [hframe]
          exact hstands.id_eq
        · rw [hframe]
          exact hstands.visibility_eq
      refine hsound.put_draft hchanged ?_
      intro code hcode
      rw [hframe] at hcode
      exact hsound.registered id draft code hdraft hcode
  | publish id scope candidates =>
      cases scope with
      | listed =>
          obtain ⟨draft, hdraft, -, rfl⟩ := hmakes
          have hstands := hsound.stands .unlisted id draft hdraft
          exact hsound.put_copy ⟨hstands.id_eq, rfl, hstands.authored.listedCopy⟩ rfl hdraft
      | unlisted =>
          obtain ⟨draft, code, hdraft, -, hfree, -, rfl⟩ := hmakes
          have hstands := hsound.stands .unlisted id draft hdraft
          -- the code is registered before the draft is put, so that the shelf is sound in between
          have hregistered := hsound.register hfree hdraft
          refine hregistered.put_draft ⟨hstands.id_eq, rfl, hstands.authored.behind code⟩ ?_
          rintro _ ⟨⟩
          exact Dict.find?_insert_self ..
  | check id =>
      obtain ⟨draft, -, -, rfl⟩ := hmakes
      exact hsound

end AuthorCall

namespace Library

variable {library : Library} {shelf : Shelf} {top : Entry}

/-- Whether a share code is registered for the id of a story. -/
def Registers (library : Library) (code id : String) (top : Entry) : Prop :=
  ∃ codes, library.codes.run top = (.ok codes, top) ∧ codes.find? code = some ⟨id⟩

/-- Whether the files of stories and share codes are in order: every file of a story holds a story
of this place, drafts have no share codes but those that are registered for them, copies have none
and stand beside a draft, and every share code is that of a draft. The errors that a check reports
are the choices without a label. -/
structure InOrder (library : Library) (top : Entry) : Prop where
  drafts : ∀ id content, top.contents (library.storyFile .unlisted id) = .ok content →
    ∃ text draft, content = .text text ∧ Story.read text = .ok draft ∧
      draft.StandsAt .unlisted id ∧ draft.check.filter Issue.isError = draft.blankLabels ∧
      ∀ code, draft.shareCode = some code → library.Registers code id top
  copies : ∀ id content, top.contents (library.storyFile .listed id) = .ok content →
    ∃ text copy, content = .text text ∧ Story.read text = .ok copy ∧
      copy.StandsAt .listed id ∧ copy.check.filter Issue.isError = copy.blankLabels ∧
      copy.shareCode = none ∧ ∃ draft, (library.readStory id .unlisted).run top = (.ok draft, top)
  codes : ∃ codes, library.codes.run top = (.ok codes, top) ∧
    ∀ code entry, codes.find? code = some entry →
      ∃ draft, (library.readStory entry.storyId .unlisted).run top = (.ok draft, top)

theorem Keeps.exists_story (hkeeps : library.Keeps shelf top) (hsound : shelf.IsSound)
    {scope : Visibility} {id : String} {content : Content}
    (hcontents : top.contents (library.storyFile scope id) = .ok content) :
    ∃ text story, content = .text text ∧ Story.read text = .ok story ∧
      shelf.stories scope id = some story ∧ story.StandsAt scope id ∧
      story.check.filter Issue.isError = story.blankLabels := by
  obtain ⟨story, hstory, rfl⟩ := (hkeeps.stories scope id content).mp hcontents
  have hstands := hsound.stands scope id story hstory
  have hid : Text.isBlank story.id = false := by
    rw [hstands.id_eq]
    exact isBlank_of_isKey (hkeeps.keys scope id story hstory)
  exact ⟨_, story, rfl, Story.read_write_line story, hstory, hstands,
    hstands.authored.filter_check hid⟩

theorem Keeps.inOrder (hkeeps : library.Keeps shelf top) (hsound : shelf.IsSound) :
    library.InOrder top := by
  constructor
  · intro id content hcontents
    obtain ⟨text, draft, htext, hread, hdraft, hstands, herrors⟩ :=
      hkeeps.exists_story hsound hcontents
    refine ⟨text, draft, htext, hread, hstands, herrors, ?_⟩
    intro code hcode
    exact ⟨shelf.codes, hkeeps.codes, hsound.registered id draft code hdraft hcode⟩
  · intro id content hcontents
    obtain ⟨text, copy, htext, hread, hcopy, hstands, herrors⟩ :=
      hkeeps.exists_story hsound hcontents
    obtain ⟨draft, hdraft⟩ := hsound.drafted id copy hcopy
    exact ⟨text, copy, htext, hread, hstands, herrors, hsound.uncoded id copy hcopy, draft,
      hkeeps.readStory_eq_ok.mpr ⟨hdraft, rfl⟩⟩
  · refine ⟨shelf.codes, hkeeps.codes, ?_⟩
    intro code entry hentry
    obtain ⟨draft, hdraft⟩ := hsound.coded code entry hentry
    exact ⟨draft, hkeeps.readStory_eq_ok.mpr ⟨hdraft, rfl⟩⟩

theorem IsEmpty.exists_shelf (hempty : library.IsEmpty top) (calls : List AuthorCall) :
    ∃ shelf, library.Keeps shelf (library.afterCalls top calls) ∧ shelf.IsSound :=
  hempty.keeps.afterCalls (fun _ _ _ _ _ hmakes hsound => hmakes.isSound hsound)
    Shelf.isSound_empty

theorem inOrder_afterCalls (hempty : library.IsEmpty top) (calls : List AuthorCall) :
    library.InOrder (library.afterCalls top calls) := by
  obtain ⟨shelf, hkeeps, hsound⟩ := hempty.exists_shelf calls
  exact hkeeps.inOrder hsound

end Library

/-- The calls of an author who begins a story, and begins it again in vain. -/
def diggings : List AuthorCall :=
  [.createStory "cave" "The Cave", .createStory "cave" "The Grotto"]

/-- The story that is begun by these calls. -/
def Story.dug : Story :=
  fresh "cave" "The Cave" emptyStartText

/-- The library that these calls leave where there was nothing. -/
def dugOut : Entry :=
  Library.here.afterCalls (.folder []) diggings

theorem isEmpty_here : Library.here.IsEmpty (.folder []) := rfl

theorem keeps_dugOut : Library.here.Keeps (Shelf.empty.put .unlisted Story.dug) dugOut :=
  isEmpty_here.keeps.writeStory rfl

theorem readStory_dugOut :
    (Library.here.readStory "cave" .unlisted).run dugOut = (.ok Story.dug, dugOut) :=
  keeps_dugOut.readStory_eq_ok.mpr ⟨rfl, rfl⟩

/-- The choice to wait, which is added to this story. -/
def waiting : AuthorCall :=
  .edit "cave" (.addChoice Story.defaultStart "Wait" Story.defaultStart)

/-- A call by which a choice is offered to those alone who hold a key. -/
def locking : AuthorCall :=
  .edit "cave" (.setRequirement Story.defaultStart 0 ⟨["Key"], ∅⟩)

/-- The story with the choice to wait. -/
def Story.restful : Story :=
  (dug.addChoice defaultStart "Wait" defaultStart).1

theorem exists_publishListed_dug :
    ∃ published, (Library.here.publish "cave" .listed []).run dugOut =
      (.ok ⟨Story.dug.listedCopy, none⟩, published) := by
  obtain ⟨written, hwrite⟩ : ∃ written,
      (Library.here.writeStory Story.dug.listedCopy .listed).run dugOut = (.ok (), written) :=
    ⟨_, run_eq_of_fst rfl⟩
  exact ⟨written, (run_bind_of_ok readStory_dugOut _).trans (run_bind_of_ok hwrite _)⟩

/-- The calls by which the story is published for everyone, and goes on to be edited. -/
def openings : List AuthorCall :=
  [.publish "cave" .listed [], waiting]

/-- What is on the shelf when these calls were made. -/
def openShelf : Shelf :=
  ((Shelf.empty.put .unlisted Story.dug).put .listed Story.dug.listedCopy).put .unlisted
    Story.restful

theorem keeps_openings :
    Library.here.Keeps openShelf (Library.here.afterCalls dugOut openings) := by
  obtain ⟨published, hpublish⟩ := exists_publishListed_dug
  obtain ⟨next, ⟨draft, hdraft, -, rfl⟩, hnext⟩ : ∃ next,
      (AuthorCall.publish "cave" .listed []).Makes (Shelf.empty.put .unlisted Story.dug) next
        ⟨Story.dug.listedCopy, none⟩ ∧ Library.here.Keeps next published :=
    keeps_dugOut.publishListed hpublish
  cases hdraft
  have hstory : ((Shelf.empty.put .unlisted Story.dug).put .listed Story.dug.listedCopy).stories
      .unlisted "cave" = some Story.dug := rfl
  obtain ⟨waited, hwait, hwaited⟩ := hnext.exists_perform hstory rfl
    (.addChoice Story.defaultStart "Wait" Story.defaultStart) ⟨by decide, by decide⟩
    (StoryEdit.makes_addChoice.mpr rfl)
  have hafter : Library.here.afterCalls dugOut openings = waited := by
    rw [openings, Library.afterCalls, List.foldl_cons, Library.afterCall_publish hpublish]
    exact congrArg Prod.snd hwait
  rw [hafter]
  exact hwaited

theorem exists_publish_openings :
    ∃ published,
      (Library.here.publish "cave" .unlisted ["F00D"]).run
          (Library.here.afterCalls dugOut openings) =
        (.ok ⟨Story.restful.behind "F00D", some "F00D"⟩, published) ∧
      Library.here.Keeps
        ((openShelf.put .unlisted (Story.restful.behind "F00D")).register "F00D" "cave")
        published := by
  have hstory : openShelf.stories .unlisted "cave" = some Story.restful := rfl
  have hfresh : ["F00D"].find? (fun code => !openShelf.codes.contains code) = some "F00D" := rfl
  exact keeps_openings.exists_publishUnlisted hstory rfl hfresh

/-- A story that was begun, published, edited, and then published behind a share code. -/
theorem inOrder_openings :
    ∃ last,
      Library.here.afterCalls (.folder [])
        (diggings ++ openings ++ [.publish "cave" .unlisted ["F00D"]]) = last ∧
      Library.here.IsEmpty (.folder []) ∧ Library.here.InOrder last ∧
      (Library.here.readStory "cave" .unlisted).run last =
        (.ok (Story.restful.behind "F00D"), last) ∧
      (Library.here.readStory "cave" .listed).run last = (.ok Story.dug.listedCopy, last) := by
  obtain ⟨last, hpublish, hkeeps⟩ := exists_publish_openings
  have hlast : Library.here.afterCalls (.folder [])
      (diggings ++ openings ++ [.publish "cave" .unlisted ["F00D"]]) = last := by
    rw [Library.afterCalls_concat, Library.afterCalls_append]
    exact Library.afterCall_publish hpublish
  refine ⟨last, hlast, isEmpty_here, ?_, ?_, ?_⟩
  · rw [← hlast]
    exact Library.inOrder_afterCalls isEmpty_here _
  · exact hkeeps.readStory_eq_ok.mpr ⟨rfl, rfl⟩
  · exact hkeeps.readStory_eq_ok.mpr ⟨rfl, rfl⟩

end Gamebook
