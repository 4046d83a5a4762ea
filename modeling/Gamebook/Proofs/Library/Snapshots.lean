import Gamebook.Proofs.Library.Order
import Gamebook.Proofs.Lists
import Gamebook.Proofs.Text.ByteOrder

namespace Gamebook

open FileAction

theorem AuthorCall.Makes.copies {before after : Shelf} {call : AuthorCall} {answer : call.Answer}
    (hmakes : call.Makes before after answer) (hsound : before.IsSound) (id : String) :
    after.stories .listed id = before.stories .listed id ∨
      ∃ candidates draft, call = .publish id .listed candidates ∧
        after.stories .listed id = some draft := by
  cases call with
  | createStory other title =>
      obtain ⟨-, -, -, rfl⟩ := hmakes
      exact Or.inl rfl
  | edit other change =>
      obtain ⟨draft, changed, -, -, -, rfl⟩ := hmakes
      exact Or.inl rfl
  | publish other scope candidates =>
      cases scope with
      | listed =>
          obtain ⟨draft, hdraft, -, rfl⟩ := hmakes
          have hstands := hsound.stands .unlisted other draft hdraft
          obtain rfl : draft.listedCopy.id = other := hstands.id_eq
          by_cases hid : id = draft.listedCopy.id
          · rw [hid]
            exact Or.inr ⟨candidates, draft.listedCopy, rfl, Shelf.stories_put_self ..⟩
          · exact Or.inl (Shelf.stories_put_of_ne fun hplace => hid hplace.2)
      | unlisted =>
          obtain ⟨draft, fresh, -, -, -, -, rfl⟩ := hmakes
          exact Or.inl rfl
  | check other =>
      obtain ⟨draft, -, -, rfl⟩ := hmakes
      exact Or.inl rfl

namespace Library

variable {library : Library} {shelf : Shelf} {id : String} {scope : Visibility}
  {story : Story} {candidates ids : List String} {publication : Publication}
  {top after : Entry}

/-- What becomes of the copies while authors call for things: those of stories that are not
published for everyone stay as they are, and there are copies of all the others. -/
theorem Keeps.copies_afterCalls (hkeeps : library.Keeps shelf top) (hsound : shelf.IsSound)
    (calls : List AuthorCall) :
    ∃ last, library.Keeps last (library.afterCalls top calls) ∧ ∀ id,
      ((∀ publication, ¬library.Publishes top calls id .listed publication) →
        last.stories .listed id = shelf.stories .listed id) ∧
      ((∃ publication, library.Publishes top calls id .listed publication) →
        ∃ copy, last.stories .listed id = some copy) := by
  induction calls generalizing shelf top with
  | nil =>
      refine ⟨shelf, hkeeps, fun id => ⟨fun _ => rfl, ?_⟩⟩
      rintro ⟨publication, before, candidates, after, hcalls, -⟩
      simp at hcalls
  | cons call calls ih =>
      rcases hkeeps.afterCall call with
        ⟨error, hrun, hsame⟩ | ⟨answer, next, hrun, hmakes, hnext⟩
      · obtain ⟨last, hlast, hcopies⟩ := ih hsame hsound
        refine ⟨last, hlast, fun id => ⟨?_, ?_⟩⟩
        · intro hquiet
          exact (hcopies id).1 fun publication hlater =>
            hquiet publication (publishes_cons.mpr (Or.inr hlater))
        · rintro ⟨publication, hpublishes⟩
          rcases publishes_cons.mp hpublishes with ⟨candidates, rfl, hhead⟩ | hlater
          · cases (congrArg Prod.fst hrun).symm.trans hhead
          · exact (hcopies id).2 ⟨publication, hlater⟩
      · obtain ⟨last, hlast, hcopies⟩ := ih hnext (hmakes.isSound hsound)
        refine ⟨last, hlast, fun id => ⟨?_, ?_⟩⟩
        · intro hquiet
          have hsame : last.stories .listed id = next.stories .listed id :=
            (hcopies id).1 fun publication hlater =>
              hquiet publication (publishes_cons.mpr (Or.inr hlater))
          rcases hmakes.copies hsound id with hkept | ⟨candidates, copy, rfl, -⟩
          · exact hsame.trans hkept
          · have hhead : ((library.publish id .listed candidates).run top).1 = .ok answer :=
              congrArg Prod.fst hrun
            exact absurd (publishes_cons.mpr (Or.inl ⟨candidates, rfl, hhead⟩)) (hquiet answer)
        · rintro ⟨publication, hpublishes⟩
          by_cases hagain : ∃ publication,
              library.Publishes (library.afterCall top call) calls id .listed publication
          · exact (hcopies id).2 hagain
          · -- the story is published by the first call alone, whose copy stays
            have hsame := (hcopies id).1 fun publication hlater => hagain ⟨publication, hlater⟩
            rcases publishes_cons.mp hpublishes with ⟨candidates, rfl, -⟩ | hlater
            · obtain ⟨draft, hdraft, -, rfl⟩ := hmakes
              rw [hsame, ← (hsound.stands .unlisted id draft hdraft).id_eq]
              exact ⟨draft.listedCopy, Shelf.stories_put_self ..⟩
            · exact absurd ⟨publication, hlater⟩ hagain

theorem Keeps.contents_publishListed (hkeeps : library.Keeps shelf top) (hsound : shelf.IsSound)
    (candidates : List String) {path : List String} (hpath : library.storyFile .listed id ≠ path)
    (content : Content) :
    (library.afterCall top (.publish id .listed candidates)).contents path = .ok content ↔
      top.contents path = .ok content := by
  rw [Library.afterCall, AuthorCall.perform]
  cases hrun : (library.publish id .listed candidates).run top with
  | mk result after =>
      cases result with
      | ok publication =>
          obtain ⟨draft, middle, hread, hrest⟩ := run_bind_eq_ok.mp hrun
          obtain ⟨hdraft, rfl⟩ := hkeeps.readStory_eq_ok.mp hread
          obtain ⟨⟨⟩, written, hwrite, hpure⟩ := run_bind_eq_ok.mp hrest
          obtain ⟨-, rfl⟩ := run_pure_eq_ok.mp hpure
          obtain ⟨hkey, hwritten⟩ : isKey draft.listedCopy.id = true ∧ _ :=
            writeStory_eq_ok hwrite
          obtain rfl : draft.listedCopy.id = id := (hsound.stands .unlisted id draft hdraft).id_eq
          rw [← names_storyFile library .listed hkey] at hpath
          exact hwritten.kept path content hpath
      | error error =>
          rcases (library.looks_readStory id .unlisted).bind_eq_error hrun with
            rfl | ⟨draft, -, hrest⟩
          · rfl
          · exact sameFiles_of_writeStory (run_bind_pure_eq_error.mp hrest) path content

theorem run_withStory (hids : ∀ id ∈ ids, isKey id = true) :
    (library.withStory scope ids).run top =
      (.ok (ids.filter fun id => top.isFile (library.storyFile scope id)), top) := by
  induction ids with
  | nil => rfl
  | cons id ids ih =>
      have hid := hids id (List.mem_cons_self ..)
      rw [withStory, FileAction.run, run_bind_of_ok (ih fun other hother =>
        hids other (List.mem_cons_of_mem id hother))]
      rw [List.filter_cons, ← names_storyFile library scope hid]
      rfl

theorem run_listedAmong {names : List String} (hkeys : ∀ name ∈ names, isKey name = true) :
    (library.listedAmong names).run top =
      (.ok ((names.filter fun id => top.isFile (library.storyFile .listed id)).mergeSort
        fun a b => decide (a ≤ b)), top) :=
  run_bind_of_ok (run_withStory hkeys) _

/-- The order in which a folder gives its names makes no difference. -/
theorem run_listedAmong_of_perm {names others : List String} (hperm : names.Perm others)
    (hkeys : ∀ name ∈ names, isKey name = true) :
    (library.listedAmong names).run top = (library.listedAmong others).run top := by
  have hothers : ∀ name ∈ others, isKey name = true :=
    fun name hname => hkeys name (hperm.mem_iff.mpr hname)
  rw [run_listedAmong hkeys, run_listedAmong hothers, mergeSort_eq_of_perm (hperm.filter _)]

theorem exists_run_listedAmong {names : List String} (hnodup : names.Nodup)
    (hkeys : ∀ name ∈ names, isKey name = true) :
    ∃ ids, (library.listedAmong names).run top = (.ok ids, top) ∧ ids.Pairwise (· < ·) ∧
      ∀ id, id ∈ ids ↔ id ∈ names ∧ top.isFile (library.storyFile .listed id) = true := by
  refine ⟨_, run_listedAmong hkeys, pairwise_mergeSort_lt (hnodup.filter _), fun id => ?_⟩
  rw [List.mem_mergeSort, List.mem_filter]

theorem Keeps.run_listedStories (hkeeps : library.Keeps shelf top) :
    ∃ ids, library.listedStories.run top = (.ok ids, top) ∧ ids.Pairwise (· < ·) ∧
      ∀ id, id ∈ ids ↔ ∃ copy, shelf.stories .listed id = some copy := by
  have hfolder := names_storiesFolder library .listed
  have hcopy : ∀ id copy, shelf.stories .listed id = some copy →
      ∃ names, top.list (Path.names (library.storiesFolder .listed)) = .ok names ∧ id ∈ names := by
    intro id copy hcopy
    have hthere := (hkeeps.stories .listed id _).mpr ⟨copy, hcopy, rfl⟩
    have hfile : library.storyFile .listed id =
        Path.names (library.storiesFolder .listed) ++ id :: ["config.json"] := by
      rw [hfolder, storyFile]
      simp
    rw [hfile] at hthere
    exact Entry.exists_list_of_contents hthere
  have hfound : ∀ id, top.isFile (library.storyFile .listed id) = true ↔
      ∃ copy, shelf.stories .listed id = some copy := by
    intro id
    rw [hkeeps.isFile_storyFile, Option.isSome_iff_exists]
  obtain ⟨folder, hroot, hlists⟩ := hkeeps.lists
  have hlist : top.list (Path.names (library.storiesFolder .listed)) =
      folder.list ["stories", Visibility.listed.name] := by
    rw [hfolder, Entry.list_append hroot]
  rcases Entry.list_of_lists hlists (by decide) with hmissing | ⟨names, hnames, hnodup, hkeys⟩
  · rw [hmissing] at hlist
    refine ⟨[], ?_, .nil, fun id => iff_of_false List.not_mem_nil ?_⟩
    · rw [listedStories, FileAction.run, hlist]
      rfl
    · rintro ⟨copy, hheld⟩
      obtain ⟨names, hnames, -⟩ := hcopy id copy hheld
      cases hlist.symm.trans hnames
  · rw [hnames] at hlist
    obtain ⟨ids, hrun, hsorted, hids⟩ := exists_run_listedAmong hnodup hkeys
    refine ⟨ids, ?_, hsorted, fun id => ?_⟩
    · rw [listedStories, FileAction.run, hlist]
      exact hrun
    · rw [hids, hfound]
      refine ⟨And.right, fun hheld => ⟨?_, hheld⟩⟩
      obtain ⟨copy, hheld⟩ := hheld
      obtain ⟨others, hothers, hmem⟩ := hcopy id copy hheld
      cases hlist.symm.trans hothers
      exact hmem

/-- Whether publishing a story for everyone changes no file but that of the copy: neither the draft
of the story, nor the share codes, nor any other. -/
structure ChangesCopyAlone (library : Library) (id : String) (top after : Entry) : Prop where
  draft : ∀ content, after.contents (library.storyFile .unlisted id) = .ok content ↔
    top.contents (library.storyFile .unlisted id) = .ok content
  codes : ∀ content, after.contents (Path.names library.codesPath) = .ok content ↔
    top.contents (Path.names library.codesPath) = .ok content
  others : ∀ path content, library.storyFile .listed id ≠ path →
    (after.contents path = .ok content ↔ top.contents path = .ok content)

theorem Keeps.changesCopyAlone (hkeeps : library.Keeps shelf top) (hsound : shelf.IsSound)
    (id : String) (candidates : List String) :
    library.ChangesCopyAlone id top
      (library.afterCall top (.publish id .listed candidates)) := by
  have hdraft : library.storyFile .listed id ≠ library.storyFile .unlisted id := by
    simp [storyFile, Visibility.name]
  have hcodes : library.storyFile .listed id ≠ Path.names library.codesPath := by
    rw [names_codesPath]
    simp [storyFile]
  constructor
  · exact hkeeps.contents_publishListed hsound candidates hdraft
  · exact hkeeps.contents_publishListed hsound candidates hcodes
  · intro path content hpath
    exact hkeeps.contents_publishListed hsound candidates hpath content

/-- Whether the copy of a story is read as the draft that was published, without its share code,
whatever authors call for, until the story is published for everyone again. -/
def StandsFor (library : Library) (id : String) (draft : Story) (top : Entry) : Prop :=
  ∀ later, (∀ publication, ¬library.Publishes top later id .listed publication) →
    (library.readStory id .listed).run (library.afterCalls top later) =
      (.ok draft.listedCopy, library.afterCalls top later)

theorem Keeps.standsFor (hkeeps : library.Keeps shelf top) (hsound : shelf.IsSound)
    {draft : Story} (hcopy : shelf.stories .listed id = some draft.listedCopy) :
    library.StandsFor id draft top := by
  intro later hquiet
  obtain ⟨last, hlast, hcopies⟩ := hkeeps.copies_afterCalls hsound later
  exact hlast.readStory_eq_ok.mpr ⟨((hcopies id).1 hquiet).trans hcopy, rfl⟩

theorem snapshots_stand (hempty : library.IsEmpty top) (calls : List AuthorCall) :
    (∀ id candidates,
      library.ChangesCopyAlone id (library.afterCalls top calls)
        (library.afterCalls top (calls ++ [.publish id .listed candidates]))) ∧
    (∀ id candidates publication published,
      (library.publish id .listed candidates).run (library.afterCalls top calls) =
          (.ok publication, published) →
        ∃ draft,
          (library.readStory id .unlisted).run (library.afterCalls top calls) =
            (.ok draft, library.afterCalls top calls) ∧
          publication = ⟨draft.listedCopy, none⟩ ∧ library.StandsFor id draft published) ∧
    ∃ ids, library.listedStories.run (library.afterCalls top calls) =
        (.ok ids, library.afterCalls top calls) ∧
      ids.Pairwise (fun a b => Text.bytes a < Text.bytes b) ∧
      ∀ id, id ∈ ids ↔ ∃ publication, library.Publishes top calls id .listed publication := by
  obtain ⟨shelf, hkeeps, hsound⟩ := hempty.exists_shelf calls
  refine ⟨?_, ?_, ?_⟩
  · intro id candidates
    rw [afterCalls_concat]
    exact hkeeps.changesCopyAlone hsound id candidates
  · intro id candidates publication published hrun
    obtain ⟨next, hmakes, hnext⟩ :
        ∃ next, (AuthorCall.publish id .listed candidates).Makes shelf next publication ∧
          library.Keeps next published := hkeeps.publishListed hrun
    have hnextSound := hmakes.isSound hsound
    obtain ⟨draft, hdraft, rfl, rfl⟩ := hmakes
    refine ⟨draft, hkeeps.readStory_eq_ok.mpr ⟨hdraft, rfl⟩, rfl, ?_⟩
    apply hnext.standsFor hnextSound
    rw [← (hsound.stands .unlisted id draft hdraft).id_eq]
    exact Shelf.stories_put_self ..
  · obtain ⟨last, hlast, hcopies⟩ := hempty.keeps.copies_afterCalls Shelf.isSound_empty calls
    obtain ⟨ids, hrun, hsorted, hids⟩ := hlast.run_listedStories
    refine ⟨ids, hrun, hsorted.imp Text.bytes_lt, fun id => (hids id).trans ⟨?_, (hcopies id).2⟩⟩
    rintro ⟨copy, hcopy⟩
    by_contra hnever
    rw [(hcopies id).1 fun publication hpublishes => hnever ⟨publication, hpublishes⟩] at hcopy
    cases hcopy

end Library

theorem snapshots_stand_dug :
    ∃ published,
      (Library.here.publish "cave" .listed []).run dugOut =
        (.ok ⟨Story.dug.listedCopy, none⟩, published) ∧
      Library.here.StandsFor "cave" Story.dug published ∧
      ∃ ids, Library.here.listedStories.run published = (.ok ids, published) ∧ "cave" ∈ ids := by
  obtain ⟨published, hrun⟩ := exists_publishListed_dug
  obtain ⟨-, hcopy, -⟩ := Library.snapshots_stand isEmpty_here diggings
  obtain ⟨draft, hdraft, -, hstands⟩ := hcopy "cave" [] _ published hrun
  obtain rfl : Story.dug = draft :=
    Except.ok.inj (congrArg Prod.fst (readStory_dugOut.symm.trans hdraft))
  obtain ⟨-, -, ids, hlisted, -, hids⟩ :=
    Library.snapshots_stand isEmpty_here (diggings ++ [.publish "cave" .listed []])
  have hafter : Library.here.afterCalls (.folder []) (diggings ++ [.publish "cave" .listed []]) =
      published :=
    (Library.afterCalls_concat diggings).trans (Library.afterCall_publish hrun)
  rw [hafter] at hlisted
  refine ⟨published, hrun, hstands, ids, hlisted, (hids "cave").mpr ?_⟩
  exact ⟨_, diggings, [], [], rfl, congrArg Prod.fst hrun⟩

end Gamebook
