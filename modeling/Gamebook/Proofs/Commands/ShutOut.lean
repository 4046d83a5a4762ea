import Gamebook.Proofs.Commands.Parts
import Gamebook.Proofs.Files.Room

namespace Gamebook

open FileAction

namespace Library

variable {library : Library} {player id : String} {state : PlayerState} {top after : Entry}

theorem not_inProgress_of_isTooLong (hplayer : isKey player = true) (hid : isKey id = true)
    (hlong : Entry.isTooLong player = true) : ¬library.InProgress player id state top := by
  rintro ⟨savedAt, text, hcontents, -⟩
  rw [names_savePath library hplayer hid] at hcontents
  have hshort := Entry.all_short_of_walk (Entry.walk_of_contents hcontents) player (by simp)
  cases hlong.symm.trans hshort

theorem InProgress.hasSaves (hplayer : isKey player = true) (hid : isKey id = true)
    (hprogress : library.InProgress player id state top) : library.HasSaves top := by
  obtain ⟨savedAt, text, hcontents, -⟩ := hprogress
  rw [names_savePath_cons hplayer hid] at hcontents
  obtain ⟨saves, hsaves, -⟩ := Entry.walk_append_eq_ok.mp (Entry.walk_of_contents hcontents)
  exact ⟨saves, hsaves⟩

theorem run_loadSave (hplayer : isKey player = true) (hid : isKey id = true) :
    library.loadSave player id = readRecord Save.codec (library.savePath player id) := by
  rw [loadSave, checkKey, if_pos hplayer, checkKey, if_pos hid]
  rfl

theorem run_loadSave_of_not_hasSaves (hplayer : isKey player = true) (hid : isKey id = true)
    (htop : library.HasRoot top) (hsaves : ¬library.HasSaves top) :
    (library.loadSave player id).run top = (.ok none, top) := by
  obtain ⟨entries, hbase⟩ := htop
  have hlook : Dict.lookup "saves" entries = none := by
    rw [hasSaves_iff hbase, ← Option.isSome_iff_exists] at hsaves
    simpa using hsaves
  have hmissing : top.readText (Path.names (library.savePath player id)) = .error .missing := by
    rw [Entry.readText_eq_missing, names_savePath library hplayer hid, Entry.walk_append hbase,
      Entry.walk, if_neg (by decide), hlook]
  rw [run_loadSave hplayer hid, readRecord, run_bind, readText, run, hmissing]
  rfl

theorem exists_loadSave_error (hplayer : isKey player = true) (hid : isKey id = true)
    (hlong : Entry.isTooLong player = true) (hsaves : library.HasSaves top) :
    ∃ fault, (library.loadSave player id).run top =
      (.error (.file (library.savePath player id) fault), top) := by
  obtain ⟨entry, hentry⟩ := hsaves
  obtain ⟨fault, hfault, hne⟩ : ∃ fault,
      entry.walk (player :: [id ++ ".json"]) = .error fault ∧ fault ≠ .missing := by
    cases entry with
    | file content => exact ⟨.notFolder, rfl, by decide⟩
    | folder entries => exact ⟨.nameTooLong, by rw [Entry.walk, if_pos hlong], by decide⟩
  have hread : top.readText (Path.names (library.savePath player id)) = .error fault := by
    rw [Entry.readText, Entry.contents, names_savePath_cons hplayer hid, Entry.walk_append hentry,
      hfault]
  refine ⟨fault, ?_⟩
  rw [run_loadSave hplayer hid, readRecord, run_bind, readText, run, hread]
  cases fault with
  | missing => exact absurd rfl hne
  | _ => rfl

/-- Whether a library without saves came to have some, so that a player whose id is too long for a
name is no longer told that there is no progress. -/
structure ShutsOut (library : Library) (player : String) (top after : Entry) : Prop where
  key : isKey player = true
  long : Entry.isTooLong player = true
  before : ¬library.HasSaves top
  since : library.HasSaves after

theorem not_shutsOut_self : ¬library.ShutsOut player top top :=
  fun hshuts => hshuts.before hshuts.since

end Library

variable {library : Library} {player : String} {now : Instant} {candidates : List String}
  {asked : PlayerCommand} {top after : Entry}

theorem exists_current_error (hlong : Entry.isTooLong player = true) (now : Instant)
    (candidates : List String) (top : Entry) :
    ∃ error, (library.setting player now candidates).current.run top = (.error error, top) := by
  have hlooks := (library.setting player now candidates).looks_current
  cases hrun : (library.setting player now candidates).current.run top with
  | mk result middle =>
      obtain rfl := hlooks.folder_eq hrun
      cases result with
      | error error => exact ⟨error, rfl⟩
      | ok found =>
          obtain ⟨⟨session, hplaying⟩, -⟩ := current_eq_ok.mp hrun
          have hsaved := hplaying.saved
          exact absurd hsaved
            (Library.not_inProgress_of_isTooLong hplaying.player_key hplaying.story_key hlong)

theorem PlayerCommand.run_of_current_error {error : LibraryError} (hgoes : ¬asked.Begins)
    (hcurrent : (library.setting player now candidates).current.run top = (.error error, top)) :
    (asked.command.run (library.setting player now candidates)).run top =
      (.error (.library error), top) := by
  have hask : (ask (library.setting player now candidates).current).run top =
      (.error (.library error), top) := run_mapError_eq_error.mpr ⟨error, hcurrent, rfl⟩
  cases asked with
  | play id => exact absurd trivial hgoes
  | playCode code => exact absurd trivial hgoes
  | choose index =>
      refine run_bind_of_error (run_bind_of_error ?_ _) _
      exact run_bind_of_error hask _
  | resume =>
      refine run_bind_of_error (run_bind_of_error ?_ _) _
      exact run_bind_of_error hask _
  | status =>
      refine run_bind_of_error ?_ _
      exact run_mapError_eq_error.mpr ⟨error, run_bind_of_error hcurrent _, rfl⟩

/-- Whether a player is in a story that can be loaded. -/
def Library.IsInStory (library : Library) (player : String) (top : Entry) : Prop :=
  ∃ session story, library.InSession player session top ∧
    (library.loadStory session.storyId session.scope).run top = (.ok story, top)

theorem Setting.answer_current_iff
    (hget : (((SessionStore.file library).get player).run after).1 =
      (((SessionStore.file library).get player).run top).1)
    (hload : ∀ id scope,
      ((library.loadStory id scope).run after).1 = ((library.loadStory id scope).run top).1)
    (hsaves : ∀ id, ((library.loadSave player id).run after).1 =
        ((library.loadSave player id).run top).1 ↔
      ¬(isKey id = true ∧ library.ShutsOut player top after)) :
    ((library.setting player now candidates).current.run after).1 =
        ((library.setting player now candidates).current.run top).1 ↔
      ¬(library.IsInStory player top ∧ library.ShutsOut player top after) := by
  constructor
  · rintro hsame ⟨⟨session, story, hsession, hstory⟩, hshuts⟩
    obtain ⟨hid, hoffers, -⟩ := Library.loadStory_eq_ok.mp hstory
    have hfound := Library.get_eq_some.mpr ⟨hsession, Eq.refl top⟩
    have hnone := Library.run_loadSave_of_not_hasSaves hshuts.key hid
      (Library.exists_folder_of_offers hid hoffers) hshuts.before
    have hcurrent : (library.setting player now candidates).current.run top =
        (.error (.noProgress player session.storyId), top) := by
      refine (run_bind_of_ok hfound _).trans ((run_bind_of_ok hstory _).trans ?_)
      have hprogress : (library.loadProgress player session.storyId).run top = (.ok none, top) :=
        run_bind_of_ok hnone _
      exact run_bind_of_ok hprogress _
    obtain ⟨fault, hfails⟩ :=
      Library.exists_loadSave_error hshuts.key hid hshuts.long hshuts.since
    have hfound' := (looks_get _ _).run_of_answer (hget.trans (congrArg Prod.fst hfound))
    have hstory' := (library.looks_loadStory _ _).run_of_answer
      ((hload _ _).trans (congrArg Prod.fst hstory))
    have hcurrent' : (library.setting player now candidates).current.run after =
        (.error (.file (library.savePath player session.storyId) fault), after) := by
      refine (run_bind_of_ok hfound' _).trans ((run_bind_of_ok hstory' _).trans ?_)
      exact run_bind_of_error (run_bind_of_error hfails _) _
    rw [hcurrent, hcurrent'] at hsame
    cases hsame
  · intro hfree
    refine (looks_get _ _).answer_bind hget ?_
    rintro (_ | session) hsession
    · rfl
    · refine (library.looks_loadStory _ _).answer_bind (hload _ _) fun story hstory => ?_
      have hin : library.IsInStory player top :=
        ⟨session, story, (Library.get_eq_some.mp hsession).1, hstory⟩
      have hsave := (hsaves session.storyId).mpr fun hshuts => hfree ⟨hin, hshuts.2⟩
      refine (library.looks_loadProgress _ _).answer_bind ?_ ?_
      · exact (library.looks_loadSave _ _).answer_bind hsave fun _ _ => rfl
      · rintro (_ | state) - <;> rfl

end Gamebook
