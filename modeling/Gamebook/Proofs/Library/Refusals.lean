import Gamebook.Proofs.Library.ShareCodes

namespace Gamebook

open FileAction

namespace Library

variable {library : Library} {id : String} {story : Story} {candidates : List String}
  {publication : Publication} {top after : Entry}

theorem storyPath_ne_codesPath {scope : Visibility} (hid : isKey id = true) :
    Path.names (library.storyPath scope id) ≠ Path.names library.codesPath := by
  rw [names_storyPath library scope hid, names_codesPath]
  simp

theorem publishUnlisted_eq_ok
    (hrun : (library.publishUnlisted id candidates).run top = (.ok publication, after)) :
    ∃ (draft : Story) (code : String) (codes : Dict CodeEntry) (written : Entry),
      publication = ⟨draft.behind code, some code⟩ ∧
      (library.writeStory (draft.behind code) .unlisted).run top = (.ok (), written) ∧
      (library.saveCodes (codes.insert code ⟨id⟩)).run written = (.ok (), after) := by
  obtain ⟨draft, middle, hread, hrest⟩ := run_bind_eq_ok.mp hrun
  obtain rfl := (library.looks_readStory id .unlisted).folder_eq hread
  obtain ⟨codes, middle', hcodes, hfinding⟩ := run_bind_eq_ok.mp hrest
  obtain rfl := library.looks_codes.folder_eq hcodes
  split at hfinding
  · cases hfinding
  · rename_i code hfresh
    obtain ⟨⟨⟩, written, hwrite, hsaving⟩ := run_bind_eq_ok.mp hfinding
    obtain ⟨⟨⟩, saved, hsave, hpure⟩ := run_bind_eq_ok.mp hsaving
    obtain ⟨rfl, rfl⟩ := run_pure_eq_ok.mp hpure
    exact ⟨draft, code, codes, written, rfl, hwrite, hsave⟩

theorem registers_of_publishUnlisted
    (hrun : (library.publishUnlisted id candidates).run top = (.ok publication, after))
    {other code : String} (hother : isKey other = true)
    (hhas : library.Has other .unlisted story after) (hcode : story.shareCode = some code) :
    library.Has other .unlisted story top ∨ library.Registers code id after := by
  obtain ⟨draft, fresh, codes, written, -, hwrite, hsave⟩ := publishUnlisted_eq_ok hrun
  obtain ⟨hkey, hwritten⟩ := writeStory_eq_ok hwrite
  have hsaved := rewritten_of_writeText hsave
  obtain ⟨text, hcontents, hread⟩ := hhas
  rw [hsaved.kept _ _ (storyPath_ne_codesPath hother).symm] at hcontents
  by_cases hplace : other = (draft.behind fresh).id
  · right
    have hstory : library.Has other .unlisted (draft.behind fresh) written := by
      rw [hplace]
      exact ⟨_, hwritten.written, Story.read_write_line _⟩
    obtain rfl : story = draft.behind fresh := hstory.unique ⟨text, hcontents, hread⟩
    obtain rfl : fresh = code := Option.some.inj hcode
    have hholds := hsaved.holds_self (CodeEntry.keeps_all (codes.insert fresh ⟨id⟩))
    have hcodes := run_bind_of_ok (readRecord_eq_some.mpr ⟨hholds, rfl⟩) fun found =>
      pure (found.getD ∅)
    exact ⟨_, hcodes, Dict.find?_insert_self ..⟩
  · left
    have hapart : Path.names (library.storyPath .unlisted (draft.behind fresh).id) ≠
        Path.names (library.storyPath .unlisted other) :=
      storyPath_ne_storyPath hkey hother fun hsame => hplace hsame.1
    exact ⟨text, (hwritten.kept _ _ hapart).mp hcontents, hread⟩

/-- Whether a call is done as a whole or not at all. -/
structure IsWhole (library : Library) (top : Entry) (call : AuthorCall) : Prop where
  refused : ∀ error, ((call.perform library).run top).1 = .error error →
    top.SameFiles (library.afterCall top call)
  /-- Publishing a story behind a share code leaves no story with another code than it had, unless
  the code is registered; it may fail or not. -/
  registered : ∀ id candidates, call = .publish id .unlisted candidates →
    ∀ other story code, isKey other = true →
      library.Has other .unlisted story (library.afterCall top call) →
        story.shareCode = some code →
          library.Has other .unlisted story top ∨
            library.Registers code id (library.afterCall top call)

theorem isWhole_perform (library : Library) (top : Entry) (call : AuthorCall) :
    library.IsWhole top call := by
  have hrefused : ∀ error, ((call.perform library).run top).1 = .error error →
      top.SameFiles (library.afterCall top call) := by
    intro error herror
    exact keepsOnError_sameFiles top call top error _ (.refl top) (Prod.ext herror rfl)
  refine ⟨hrefused, ?_⟩
  rintro id candidates rfl other story code hother hhas hcode
  cases hresult : ((AuthorCall.publish id .unlisted candidates).perform library).run top with
  | mk result after =>
      cases result with
      | error error =>
          left
          have hsame := hrefused error (congrArg Prod.fst hresult)
          obtain ⟨text, hcontents, hread⟩ := hhas
          exact ⟨text, (hsame _ _).mp hcontents, hread⟩
      | ok publication =>
          have hrun : (library.publishUnlisted id candidates).run top = (.ok publication, after) :=
            hresult
          have hafter : library.afterCall top (.publish id .unlisted candidates) = after :=
            congrArg Prod.snd hresult
          rw [hafter] at hhas ⊢
          exact registers_of_publishUnlisted hrun hother hhas hcode

end Library

/-- The library where the file of the share codes is empty, so that there is nothing to read in
it. -/
def misfiled : Entry :=
  ((Library.writeText Library.here.codesPath "").run dugOut).2

/-- A story stays as it is when it is to be published behind a share code and the codes cannot be
read. -/
theorem isWhole_perform_misfiled :
    ∃ error,
      ((AuthorCall.publish "cave" .unlisted ["F00D"]).perform Library.here).run misfiled =
          (.error (.badRecord Library.here.codesPath error), misfiled) ∧
        misfiled.SameFiles
          (Library.here.afterCall misfiled (.publish "cave" .unlisted ["F00D"])) := by
  have hempty : misfiled.contents (Path.names Library.here.codesPath) = .ok (.text "") := rfl
  obtain ⟨error, htable⟩ := Library.readTable_of_empty CodeEntry.codec hempty
  have hcodes : Library.here.codes.run misfiled =
      (.error (.badRecord Library.here.codesPath error), misfiled) := run_bind_of_error htable _
  have hread : (Library.here.readStory "cave" .unlisted).run misfiled =
      (.ok Story.dug, misfiled) := by
    refine Library.readStory_eq_ok.mpr ⟨by decide, ⟨_, ?_, Story.read_write_line Story.dug⟩, rfl⟩
    rw [Library.names_storyFile _ _ (by decide)]
    rfl
  have hrun : (Library.here.publish "cave" .unlisted ["F00D"]).run misfiled =
      (.error (.badRecord Library.here.codesPath error), misfiled) :=
    (run_bind_of_ok hread _).trans (run_bind_of_error hcodes _)
  exact ⟨error, hrun, (Library.isWhole_perform _ _ _).refused _ (congrArg Prod.fst hrun)⟩

end Gamebook
