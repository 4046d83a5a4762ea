import Gamebook.Proofs.Library.Shelf
import Gamebook.Proofs.Story.Authored

/-!
What authors call for, one call after another. A call that succeeds changes the shelf in one place
(`Library.Keeps.perform_ok`), and one that fails leaves it as it is (`Library.Keeps.perform_error`),
so that a library that was empty keeps a shelf from then on (`Library.Keeps.afterCalls`).
-/

namespace Gamebook

open FileAction

/-- What an author can call for. -/
inductive AuthorCall where
  | createStory (id title : String)
  | edit (id : String) (change : StoryEdit)
  | publish (id : String) (scope : Visibility) (candidates : List String)
  | check (id : String)

namespace AuthorCall

/-- What is answered to a call. -/
abbrev Answer : AuthorCall → Type
  | .createStory _ _ => Story
  | .edit _ change => change.Answer
  | .publish _ _ _ => Publication
  | .check _ => List Issue

def perform (library : Library) : (call : AuthorCall) → FileAction LibraryError call.Answer
  | .createStory id title => library.createStory id title
  | .edit id change => change.perform library id
  | .publish id scope candidates => library.publish id scope candidates
  | .check id => library.checkStory id

/-- What a call makes of a shelf when it succeeds, and what is answered to it. -/
def Makes (before after : Shelf) : (call : AuthorCall) → call.Answer → Prop
  | .createStory id title, story =>
    isKey id = true ∧ before.stories .unlisted id = none ∧
      story = Story.fresh id title Story.emptyStartText ∧ after = before.put .unlisted story
  | .edit id change, answer =>
    ∃ draft changed, before.stories .unlisted id = some draft ∧ change.IsNamed ∧
      change.Makes draft changed answer ∧ after = before.put .unlisted changed
  | .publish id .listed _, publication =>
    ∃ draft, before.stories .unlisted id = some draft ∧
      publication = ⟨draft.listedCopy, none⟩ ∧ after = before.put .listed draft.listedCopy
  | .publish id .unlisted candidates, publication =>
    ∃ draft code, before.stories .unlisted id = some draft ∧ code ∈ candidates ∧
      before.codes.find? code = none ∧ publication = ⟨draft.behind code, some code⟩ ∧
      after = (before.put .unlisted (draft.behind code)).register code id
  | .check id, issues =>
    ∃ draft, before.stories .unlisted id = some draft ∧ issues = draft.check ∧ after = before

end AuthorCall

namespace Library

variable {library : Library} {shelf next : Shelf} {id title : String} {story : Story}
  {publication : Publication} {candidates : List String} {error : LibraryError}
  {top after : Entry}

theorem Keeps.createStory (hkeeps : library.Keeps shelf top)
    (hrun : (library.createStory id title).run top = (.ok story, after)) :
    ∃ next, (AuthorCall.createStory id title).Makes shelf next story ∧
      library.Keeps next after := by
  obtain ⟨⟨⟩, middle, hcheck, hrest⟩ := run_bind_eq_ok.mp hrun
  obtain ⟨hid, rfl⟩ := checkKey_eq_ok.mp hcheck
  rw [run_bind_of_ok (hkeeps.run_hasStory hid)] at hrest
  cases hstory : shelf.stories .unlisted id with
  | some held =>
      rw [hstory] at hrest
      cases hrest
  | none =>
      rw [hstory] at hrest
      obtain ⟨⟨⟩, written, hwrite, hpure⟩ := run_bind_eq_ok.mp hrest
      obtain ⟨rfl, rfl⟩ := run_pure_eq_ok.mp hpure
      exact ⟨_, ⟨hid, hstory, rfl, rfl⟩, hkeeps.writeStory hwrite⟩

theorem Keeps.performEdit (hkeeps : library.Keeps shelf top) (edit : StoryEdit)
    {answer : edit.Answer} (hrun : (edit.perform library id).run top = (.ok answer, after)) :
    ∃ next, (AuthorCall.edit id edit).Makes shelf next answer ∧ library.Keeps next after := by
  obtain ⟨hnamed, draft, changed, hid, hhas, hmakes, hwrite⟩ := StoryEdit.perform_eq_ok.mp hrun
  exact ⟨_, ⟨draft, changed, (hkeeps.has_iff hid).mp hhas, hnamed, hmakes, rfl⟩,
    hkeeps.writeStory hwrite⟩

theorem Keeps.publishListed (hkeeps : library.Keeps shelf top)
    (hrun : (library.publishListed id).run top = (.ok publication, after)) :
    ∃ next, (AuthorCall.publish id .listed candidates).Makes shelf next publication ∧
      library.Keeps next after := by
  obtain ⟨draft, middle, hread, hrest⟩ := run_bind_eq_ok.mp hrun
  obtain ⟨hdraft, rfl⟩ := hkeeps.readStory_eq_ok.mp hread
  obtain ⟨⟨⟩, written, hwrite, hpure⟩ := run_bind_eq_ok.mp hrest
  obtain ⟨rfl, rfl⟩ := run_pure_eq_ok.mp hpure
  exact ⟨_, ⟨draft, hdraft, rfl, rfl⟩, hkeeps.writeStory hwrite⟩

theorem Keeps.publishUnlisted (hkeeps : library.Keeps shelf top)
    (hrun : (library.publishUnlisted id candidates).run top = (.ok publication, after)) :
    ∃ next, (AuthorCall.publish id .unlisted candidates).Makes shelf next publication ∧
      library.Keeps next after := by
  obtain ⟨draft, middle, hread, hrest⟩ := run_bind_eq_ok.mp hrun
  obtain ⟨hdraft, rfl⟩ := hkeeps.readStory_eq_ok.mp hread
  rw [run_bind_of_ok hkeeps.codes] at hrest
  cases hfresh : candidates.find? fun code => !shelf.codes.contains code with
  | none =>
      rw [hfresh] at hrest
      cases hrest
  | some code =>
      simp only [hfresh] at hrest
      have hfree : shelf.codes.find? code = none := by
        simpa [Dict.contains] using List.find?_some hfresh
      obtain ⟨⟨⟩, written, hwrite, hsaving⟩ := run_bind_eq_ok.mp hrest
      have hwritten : library.Keeps (shelf.put .unlisted (draft.behind code)) written :=
        hkeeps.writeStory hwrite
      obtain ⟨saved, hsave, hsaved⟩ := hwritten.saveCodes (shelf.codes.insert code ⟨id⟩)
      rw [run_bind_of_ok hsave] at hsaving
      obtain ⟨rfl, rfl⟩ := run_pure_eq_ok.mp hsaving
      exact ⟨_, ⟨draft, code, hdraft, List.mem_of_find?_eq_some hfresh, hfree, rfl, rfl⟩, hsaved⟩

section

variable {P : Entry → Prop}

theorem keepsOnError_edit (hwrite : ∀ story scope, (library.writeStory story scope).KeepsOnError P)
    {α : Type} (change : Story → Except LibraryError (Story × α)) :
    (library.edit id change).KeepsOnError P := by
  refine (library.looks_readStory id .unlisted).bind_keepsOnError fun before => ?_
  refine (Looks.ofExcept _).bind_keepsOnError fun made => ?_
  exact (hwrite made.1 .unlisted).bind_pure _

theorem keepsOnError_performEdit
    (hwrite : ∀ story scope, (library.writeStory story scope).KeepsOnError P) (edit : StoryEdit) :
    (edit.perform library id).KeepsOnError P := by
  have hchecked : ∀ {α : Type} (kind : NameKind) (name : String)
      {action : FileAction LibraryError α}, action.KeepsOnError P →
      (do checkName kind name; action : FileAction LibraryError α).KeepsOnError P :=
    fun kind name _ haction => (looks_checkName kind name).bind_keepsOnError fun _ => haction
  cases edit with
  | addScene scene => exact hchecked _ _ (keepsOnError_edit hwrite _)
  | setSceneText scene text => exact hchecked _ _ (keepsOnError_edit hwrite _)
  | addChoice scene text next => exact hchecked _ _ (hchecked _ _ (keepsOnError_edit hwrite _))
  | setRequirement scene index requirement => exact keepsOnError_edit hwrite _
  | setInitialStat stat value => exact hchecked _ _ (keepsOnError_edit hwrite _)
  | addInitialItem item => exact hchecked _ _ (keepsOnError_edit hwrite _)

theorem keepsOnError_publishUnlisted
    (hwrite : ∀ story scope, (library.writeStory story scope).KeepsOnError P) :
    (library.publishUnlisted id candidates).KeepsOnError P := by
  intro top error after htop hrun
  rcases (library.looks_readStory id .unlisted).bind_eq_error hrun with rfl | ⟨draft, hread, hrest⟩
  · exact htop
  rcases library.looks_codes.bind_eq_error hrest with rfl | ⟨codes, hcodes, hfinding⟩
  · exact htop
  split at hfinding
  · cases hfinding
    exact htop
  rcases run_bind_eq_error.mp hfinding with hfailed | ⟨⟨⟩, written, hwritten, hsaving⟩
  · exact hwrite _ _ _ _ _ htop hfailed
  · -- once the story is written, the registration of its code cannot fail
    obtain ⟨hid, ⟨text, hthere, -⟩, -⟩ := readStory_eq_ok.mp hread
    rw [names_storyPath library .unlisted hid] at hthere
    obtain ⟨entries, hfolder⟩ := Entry.exists_folder_of_contents hthere
    obtain ⟨⟨entries, hfolder⟩, hcodes⟩ := codes_of_writeStory hfolder hcodes hwritten
    obtain ⟨saved, hsave⟩ := exists_saveCodes hfolder hcodes (codes.insert _ ⟨id⟩)
    rw [run_bind_of_ok hsave] at hsaving
    cases hsaving

/-- What is kept when a story cannot be written, every call keeps that fails. -/
theorem keepsOnError_perform
    (hwrite : ∀ story scope, (library.writeStory story scope).KeepsOnError P) (call : AuthorCall) :
    (call.perform library).KeepsOnError P := by
  cases call with
  | createStory id title =>
      refine (looks_checkKey .story id).bind_keepsOnError fun _ => ?_
      refine (library.looks_hasStory id .unlisted).bind_keepsOnError fun found => ?_
      cases found with
      | true => exact (Looks.fail _).keepsOnError
      | false => exact (hwrite _ .unlisted).bind_pure _
  | edit id change => exact keepsOnError_performEdit hwrite change
  | publish id scope candidates =>
      cases scope with
      | listed =>
          refine (library.looks_readStory id .unlisted).bind_keepsOnError fun draft => ?_
          exact (hwrite _ .listed).bind_pure _
      | unlisted => exact keepsOnError_publishUnlisted hwrite
  | check id =>
      exact ((library.looks_readStory id .unlisted).bind fun _ => .done _).keepsOnError

end

variable {call : AuthorCall}

theorem keepsOnError_sameFiles (top : Entry) (call : AuthorCall) :
    (call.perform library).KeepsOnError top.SameFiles := by
  apply keepsOnError_perform
  intro story scope middle error after hsame hrun
  exact hsame.trans (sameFiles_of_writeStory hrun)

theorem Keeps.perform_ok (hkeeps : library.Keeps shelf top) {answer : call.Answer}
    (hrun : (call.perform library).run top = (.ok answer, after)) :
    ∃ next, call.Makes shelf next answer ∧ library.Keeps next after := by
  cases call with
  | createStory id title => exact hkeeps.createStory hrun
  | edit id change => exact hkeeps.performEdit change hrun
  | publish id scope candidates =>
      cases scope with
      | listed => exact hkeeps.publishListed hrun
      | unlisted => exact hkeeps.publishUnlisted hrun
  | check id =>
      obtain ⟨draft, middle, hread, hpure⟩ := run_bind_eq_ok.mp hrun
      obtain ⟨hdraft, rfl⟩ := hkeeps.readStory_eq_ok.mp hread
      obtain ⟨rfl, rfl⟩ := run_pure_eq_ok.mp hpure
      exact ⟨shelf, ⟨draft, hdraft, rfl, rfl⟩, hkeeps⟩

theorem Keeps.perform_error (hkeeps : library.Keeps shelf top)
    (hrun : (call.perform library).run top = (.error error, after)) :
    library.Keeps shelf after :=
  keepsOnError_perform (fun _ _ _ _ _ htop => htop.writeStory_error) call top error after hkeeps hrun

/-- The files of a library after a call, be it that this succeeds or not. -/
def afterCall (library : Library) (top : Entry) (call : AuthorCall) : Entry :=
  ((call.perform library).run top).2

def afterCalls (library : Library) : Entry → List AuthorCall → Entry :=
  List.foldl library.afterCall

theorem afterCall_publish {scope : Visibility} {result : Except LibraryError Publication}
    (hrun : (library.publish id scope candidates).run top = (result, after)) :
    library.afterCall top (.publish id scope candidates) = after :=
  congrArg Prod.snd hrun

theorem afterCalls_append (before after : List AuthorCall) :
    library.afterCalls top (before ++ after) =
      library.afterCalls (library.afterCalls top before) after :=
  List.foldl_append ..

theorem afterCalls_append_cons (before after : List AuthorCall) :
    library.afterCalls top (before ++ call :: after) =
      library.afterCalls (library.afterCall (library.afterCalls top before) call) after := by
  rw [afterCalls, List.foldl_append, List.foldl_cons]

theorem afterCalls_concat (calls : List AuthorCall) :
    library.afterCalls top (calls ++ [call]) =
      library.afterCall (library.afterCalls top calls) call :=
  afterCalls_append_cons calls []

theorem Keeps.afterCall (hkeeps : library.Keeps shelf top) (call : AuthorCall) :
    (∃ error, (call.perform library).run top = (.error error, library.afterCall top call) ∧
      library.Keeps shelf (library.afterCall top call)) ∨
    ∃ answer next, (call.perform library).run top = (.ok answer, library.afterCall top call) ∧
      call.Makes shelf next answer ∧ library.Keeps next (library.afterCall top call) := by
  cases hrun : (call.perform library).run top with
  | mk result after =>
      have hafter : library.afterCall top call = after := congrArg Prod.snd hrun
      rw [hafter]
      cases result with
      | error error => exact Or.inl ⟨error, rfl, hkeeps.perform_error hrun⟩
      | ok answer =>
          obtain ⟨next, hmakes, hnext⟩ := hkeeps.perform_ok hrun
          exact Or.inr ⟨answer, next, rfl, hmakes, hnext⟩

/-- What each of some calls hands on from shelf to shelf when it succeeds holds after all of them. -/
theorem Keeps.afterCalls {P : Shelf → Prop} {calls : List AuthorCall}
    (hstep : ∀ call ∈ calls, ∀ answer before next,
      AuthorCall.Makes before next call answer → P before → P next)
    (hkeeps : library.Keeps shelf top) (hshelf : P shelf) :
    ∃ last, library.Keeps last (library.afterCalls top calls) ∧ P last := by
  induction calls generalizing shelf top with
  | nil => exact ⟨shelf, hkeeps, hshelf⟩
  | cons call calls ih =>
      have hrest := fun other hother => hstep other (List.mem_cons_of_mem call hother)
      rcases hkeeps.afterCall call with ⟨-, -, hsame⟩ | ⟨answer, next, -, hmakes, hnext⟩
      · exact ih hrest hsame hshelf
      · exact ih hrest hnext (hstep call (List.mem_cons_self ..) answer shelf next hmakes hshelf)

section

variable {Q : {α : Type} → FileAction LibraryError α → Prop}

theorem checkKey_of_isClosed (hclosed : IsClosed Q) (kind : NameKind) (value : String) :
    Q (checkKey kind value) := by
  rw [checkKey]
  split
  · exact hclosed.done ()
  · exact hclosed.fail _

theorem checkName_of_isClosed (hclosed : IsClosed Q) (kind : NameKind) (name : String) :
    Q (checkName kind name) := by
  rw [checkName]
  split
  · exact hclosed.fail _
  · exact hclosed.done ()

theorem edit_of_isClosed (hclosed : IsClosed Q)
    (hread : ∀ id, Q (library.readStory id .unlisted))
    (hwrite : ∀ story scope, Q (library.writeStory story scope)) {α : Type} (id : String)
    (change : Story → Except LibraryError (Story × α)) : Q (library.edit id change) := by
  refine hclosed.bind (hread id) fun before => ?_
  refine hclosed.bind (hclosed.ofExcept _) fun made => ?_
  exact hclosed.bind (hwrite made.1 .unlisted) fun _ => hclosed.done made.2

/-- What holds of reading and writing stories and share codes, and is kept when one goes on from
there, holds of every call. -/
theorem perform_of_isClosed (hclosed : IsClosed Q)
    (hhas : ∀ id, Q (library.hasStory id .unlisted))
    (hread : ∀ id, Q (library.readStory id .unlisted)) (hcodes : Q library.codes)
    (hwrite : ∀ story scope, Q (library.writeStory story scope))
    (hsave : ∀ codes, Q (library.saveCodes codes)) (call : AuthorCall) :
    Q (call.perform library) := by
  have hedit : ∀ {α : Type} (id : String) (change : Story → Except LibraryError (Story × α)),
      Q (library.edit id change) := edit_of_isClosed hclosed hread hwrite
  have hchecked : ∀ {α : Type} (kind : NameKind) (name : String)
      {action : FileAction LibraryError α}, Q action → Q (do checkName kind name; action) :=
    fun kind name _ haction =>
      hclosed.bind (checkName_of_isClosed hclosed kind name) fun _ => haction
  cases call with
  | createStory id title =>
      refine hclosed.bind (checkKey_of_isClosed hclosed .story id) fun _ => ?_
      refine hclosed.bind (hhas id) fun found => ?_
      cases found with
      | true => exact hclosed.fail _
      | false => exact hclosed.bind (hwrite _ .unlisted) fun _ => hclosed.done _
  | edit id change =>
      cases change with
      | addScene scene => exact hchecked _ _ (hedit id _)
      | setSceneText scene text => exact hchecked _ _ (hedit id _)
      | addChoice scene text next => exact hchecked _ _ (hchecked _ _ (hedit id _))
      | setRequirement scene index requirement => exact hedit id _
      | setInitialStat stat value => exact hchecked _ _ (hedit id _)
      | addInitialItem item => exact hchecked _ _ (hedit id _)
  | publish id scope candidates =>
      cases scope with
      | listed =>
          refine hclosed.bind (hread id) fun draft => ?_
          exact hclosed.bind (hwrite _ .listed) fun _ => hclosed.done _
      | unlisted =>
          refine hclosed.bind (hread id) fun draft => hclosed.bind hcodes fun codes => ?_
          split
          · exact hclosed.fail _
          · refine hclosed.bind (hwrite _ .unlisted) fun _ => ?_
            exact hclosed.bind (hsave _) fun _ => hclosed.done _
  | check id => exact hclosed.bind (hread id) fun draft => hclosed.done _

end

theorem preserves_perform {P : Entry → Prop}
    (hwrite : ∀ story scope, (library.writeStory story scope).Preserves P)
    (hcodes : ∀ codes, (library.saveCodes codes).Preserves P) (call : AuthorCall) :
    (call.perform library).Preserves P :=
  perform_of_isClosed (isClosed_preserves P)
    (fun id => (library.looks_hasStory id .unlisted).preserves)
    (fun id => (library.looks_readStory id .unlisted).preserves) library.looks_codes.preserves
    hwrite hcodes call

theorem preserved_afterCalls {P : Entry → Prop}
    (hperform : ∀ call : AuthorCall, (call.perform library).Preserves P) (htop : P top)
    (calls : List AuthorCall) : P (library.afterCalls top calls) := by
  induction calls generalizing top with
  | nil => exact htop
  | cons call calls ih => exact ih (hperform call top htop)

/-- Whether a call is one of some calls and succeeds, and what is answered to it. -/
def Answers (library : Library) (top : Entry) (calls : List AuthorCall) (call : AuthorCall)
    (answer : call.Answer) : Prop :=
  ∃ before after, calls = before ++ call :: after ∧
    ((call.perform library).run (library.afterCalls top before)).1 = .ok answer

theorem not_answers_nil {answer : call.Answer} : ¬library.Answers top [] call answer := by
  rintro ⟨before, after, hcalls, -⟩
  simp at hcalls

theorem answers_singleton {answer : call.Answer}
    (hrun : ((call.perform library).run top).1 = .ok answer) :
    library.Answers top [call] call answer :=
  ⟨[], [], rfl, hrun⟩

theorem answers_concat {calls : List AuthorCall} {last : AuthorCall} {answer : call.Answer} :
    library.Answers top (calls ++ [last]) call answer ↔
      library.Answers top calls call answer ∨
        last = call ∧
          ((call.perform library).run (library.afterCalls top calls)).1 = .ok answer := by
  constructor
  · rintro ⟨before, after, hcalls, hrun⟩
    rcases List.eq_nil_or_concat after with rfl | ⟨after, other, rfl⟩
    · obtain ⟨rfl, hlast⟩ := List.append_inj' hcalls rfl
      obtain rfl : last = call := List.singleton_inj.mp hlast
      exact Or.inr ⟨rfl, hrun⟩
    · rw [List.concat_eq_append, ← List.cons_append, ← List.append_assoc] at hcalls
      obtain ⟨rfl, -⟩ := List.append_inj' hcalls rfl
      exact Or.inl ⟨before, after, rfl, hrun⟩
  · rintro (⟨before, after, rfl, hrun⟩ | ⟨rfl, hrun⟩)
    · exact ⟨before, after ++ [last], by simp, hrun⟩
    · exact ⟨calls, [], rfl, hrun⟩

/-- Whether one of some calls publishes a story, and what is answered to it. -/
def Publishes (library : Library) (top : Entry) (calls : List AuthorCall) (id : String)
    (scope : Visibility) (publication : Publication) : Prop :=
  ∃ before candidates after, calls = before ++ .publish id scope candidates :: after ∧
    ((library.publish id scope candidates).run (library.afterCalls top before)).1 =
      .ok publication

theorem publishes_cons {calls : List AuthorCall} {scope : Visibility} :
    library.Publishes top (call :: calls) id scope publication ↔
      (∃ candidates, call = .publish id scope candidates ∧
        ((library.publish id scope candidates).run top).1 = .ok publication) ∨
      library.Publishes (library.afterCall top call) calls id scope publication := by
  constructor
  · rintro ⟨before, candidates, after, hcalls, hrun⟩
    cases before with
    | nil =>
        obtain ⟨rfl, rfl⟩ := List.cons.inj hcalls
        exact Or.inl ⟨candidates, rfl, hrun⟩
    | cons first before =>
        obtain ⟨rfl, rfl⟩ := List.cons.inj hcalls
        exact Or.inr ⟨before, candidates, after, rfl, hrun⟩
  · rintro (⟨candidates, rfl, hrun⟩ | ⟨before, candidates, after, rfl, hrun⟩)
    · exact ⟨[], candidates, calls, rfl, hrun⟩
    · exact ⟨call :: before, candidates, after, rfl, hrun⟩

end Library

end Gamebook
