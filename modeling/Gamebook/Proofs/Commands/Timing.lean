import Gamebook.Proofs.Commands.Failing
import Gamebook.Proofs.Library.Sharing

namespace Gamebook

open FileAction

/-- Whether and why a file cannot be written does not depend on what is written. -/
theorem Entry.fault_writeFile (content held : Content) (path : List String) (top : Entry) :
    (writeFile content path top).map (fun _ => ()) = (writeFile held path top).map fun _ => () := by
  induction path generalizing top with
  | nil => cases top <;> rfl
  | cons name path ih =>
      cases top with
      | file old => rfl
      | folder entries =>
          rw [writeFile, writeFile]
          split
          · rfl
          · cases Dict.lookup name entries with
            | none =>
                dsimp only
                split <;> rfl
            | some entry =>
                have hentry := ih entry
                dsimp only
                cases hfirst : writeFile content path entry <;>
                  cases hsecond : writeFile held path entry <;>
                  rw [hfirst, hsecond] at hentry <;> cases hentry <;> rfl

namespace Library

theorem answer_writeText (path text held : String) (top : Entry) :
    ((writeText path text).run top).1 = ((writeText path held).run top).1 := by
  rw [writeText, writeText, run, run]
  generalize Entry.makeFolders (Path.names (Path.parent path)) top = made
  obtain ⟨fault?, folders⟩ := made
  cases fault? with
  | some fault => rfl
  | none =>
      have hwrite := Entry.fault_writeFile (.text text) (.text held) (Path.names path) folders
      simp only [run]
      cases hfirst : Entry.writeFile (.text text) (Path.names path) folders <;>
        cases hsecond : Entry.writeFile (.text held) (Path.names path) folders <;>
        rw [hfirst, hsecond] at hwrite <;> cases hwrite; rfl

theorem answer_saveProgress (library : Library) (player id : String) (state : PlayerState)
    (now later : Instant) (top : Entry) :
    ((library.saveProgress player id state now).run top).1 =
      ((library.saveProgress player id state later).run top).1 := by
  rw [saveProgress, saveProgress]
  cases hplayer : isKey player with
  | false =>
      have hcheck := @run_checkKey_error .player _ hplayer top
      rw [run_bind_of_error hcheck, run_bind_of_error hcheck]
  | true =>
      have hcheck := (@checkKey_eq_ok .player _ top top).mpr ⟨hplayer, rfl⟩
      rw [run_bind_of_ok hcheck, run_bind_of_ok hcheck]
      cases hid : isKey id with
      | false =>
          have hcheck := @run_checkKey_error .story _ hid top
          rw [run_bind_of_error hcheck, run_bind_of_error hcheck]
      | true =>
          have hcheck := (@checkKey_eq_ok .story _ top top).mpr ⟨hid, rfl⟩
          rw [run_bind_of_ok hcheck, run_bind_of_ok hcheck]
          exact answer_writeText ..

/-- Whether a path is that of a save of a player, which holds the same state in two folders. -/
def Retimed (library : Library) (player : String) (path : List String) (top other : Entry) : Prop :=
  ∃ id state now later, isKey player = true ∧ isKey id = true ∧
    path = Path.names (library.savePath player id) ∧
    top.contents path = .ok (.text (Save.codec.write ⟨state, some now⟩ ++ "\n")) ∧
    other.contents path = .ok (.text (Save.codec.write ⟨state, some later⟩ ++ "\n"))

/-- Whether two folders have the same files, which hold the same but for when the progress of some
players was saved. -/
def SameButTimes (library : Library) (players : List String) (top other : Entry) : Prop :=
  ∀ path, (∀ content, other.contents path = .ok content ↔ top.contents path = .ok content) ∨
    ∃ player ∈ players, library.Retimed player path top other

variable {library : Library} {player rival id : String} {players : List String}
  {path : List String} {state : PlayerState} {now later : Instant} {session : Session}
  {top middle other after after' : Entry}

theorem sameButTimes_of_sameFiles (hsame : top.SameFiles other) :
    library.SameButTimes players top other :=
  fun path => Or.inl (hsame path)

theorem Retimed.eq_of_path (hplayer : library.Retimed player path top middle)
    (hrival : library.Retimed rival path middle other) : player = rival := by
  obtain ⟨id, -, -, -, hkey, hid, hpath, -⟩ := hplayer
  obtain ⟨id', -, -, -, hkey', hid', hpath', -⟩ := hrival
  have hboth := hpath.symm.trans hpath'
  rw [names_savePath library hkey hid, names_savePath library hkey' hid'] at hboth
  exact (List.cons.inj (List.cons.inj (List.append_cancel_left hboth)).2).1

theorem SameButTimes.trans (hne : player ≠ rival)
    (hfirst : library.SameButTimes [player] top middle)
    (hsecond : library.SameButTimes [rival] middle other) :
    library.SameButTimes [player, rival] top other := by
  intro path
  rcases hfirst path with hsame | ⟨_, hplayer, hretimed⟩
  · rcases hsecond path with hsame' |
      ⟨_, hrival, id, state, now, later, hkey, hid, hpath, hheld, hlast⟩
    · exact Or.inl fun content => (hsame' content).trans (hsame content)
    · obtain rfl := List.mem_singleton.mp hrival
      refine Or.inr ⟨_, by simp, id, state, now, later, hkey, hid, hpath, ?_, hlast⟩
      exact (hsame _).mp hheld
  · obtain rfl := List.mem_singleton.mp hplayer
    rcases hsecond path with hsame' | ⟨_, hrival, hretimed'⟩
    · obtain ⟨id, state, now, later, hkey, hid, hpath, hheld, hlast⟩ := hretimed
      refine Or.inr ⟨_, by simp, id, state, now, later, hkey, hid, hpath, hheld, ?_⟩
      exact (hsame' _).mpr hlast
    · obtain rfl := List.mem_singleton.mp hrival
      exact absurd (hretimed.eq_of_path hretimed') hne

theorem sameButTimes_of_saveProgress
    (hsave : (library.saveProgress player id state now).run top = (.ok (), after))
    (hsave' : (library.saveProgress player id state later).run top = (.ok (), after')) :
    library.SameButTimes [player] after after' := by
  obtain ⟨hplayer, hid, hwritten⟩ := saveProgress_eq_ok hsave
  obtain ⟨-, -, hwritten'⟩ := saveProgress_eq_ok hsave'
  intro path
  by_cases hpath : Path.names (library.savePath player id) = path
  · refine Or.inr ⟨player, by simp, id, state, now, later, hplayer, hid, hpath.symm, ?_, ?_⟩
    · rw [← hpath]
      exact hwritten.written
    · rw [← hpath]
      exact hwritten'.written
  · refine Or.inl fun content => ?_
    rw [hwritten.kept path content hpath, hwritten'.kept path content hpath]

theorem SameButTimes.of_rewritten {path text : String} {written written' : Entry}
    (hsame : library.SameButTimes players top other) (hfirst : top.Rewritten path text written)
    (hsecond : other.Rewritten path text written') :
    library.SameButTimes players written written' := by
  intro place
  by_cases hplace : Path.names path = place
  · refine Or.inl fun content => ?_
    rw [← hplace, hfirst.written, hsecond.written]
  · rcases hsame place with hsame |
      ⟨player, hplayer, id, state, now, later, hkey, hid, hpath, hheld, hlast⟩
    · refine Or.inl fun content => ?_
      rw [hfirst.kept place content hplace, hsecond.kept place content hplace, hsame]
    · refine Or.inr ⟨player, hplayer, id, state, now, later, hkey, hid, hpath, ?_, ?_⟩
      · exact (hfirst.kept place _ hplace).mpr hheld
      · exact (hsecond.kept place _ hplace).mpr hlast

end Library

variable {ε ε' α β : Type} {library : Library} {player id : String} {now later : Instant}
  {candidates : List String} {state : PlayerState} {session : Session} {story : Story}
  {top other : Entry}

/-- Whether two runs give the same, and leave the same files but for when the progress of a player
was saved. -/
structure Library.Alike (library : Library) (player : String) (first second : Except ε α × Entry) :
    Prop where
  answer : first.1 = second.1
  files : library.SameButTimes [player] first.2 second.2

namespace Library.Alike

theorem refl (run : Except ε α × Entry) : library.Alike player run run :=
  ⟨rfl, sameButTimes_of_sameFiles (.refl _)⟩

theorem bind_looks {action : FileAction ε α} {f g : α → FileAction ε β} (hlooks : action.Looks)
    (hnext : ∀ value, action.run top = (.ok value, top) →
      library.Alike player ((f value).run top) ((g value).run top)) :
    library.Alike player ((action >>= f).run top) ((action >>= g).run top) := by
  rw [run_bind, run_bind]
  cases hrun : action.run top with
  | mk result middle =>
      obtain rfl := hlooks.folder_eq hrun
      cases result with
      | ok value => exact hnext value hrun
      | error error => exact .refl _

theorem bind_pure {first second : FileAction ε α} {f : α → β}
    (halike : library.Alike player (first.run top) (second.run other)) :
    library.Alike player ((first >>= fun value => pure (f value)).run top)
      ((second >>= fun value => pure (f value)).run other) := by
  rw [run_bind, run_bind]
  obtain ⟨hanswer, hfiles⟩ := halike
  generalize first.run top = run at hanswer hfiles
  generalize second.run other = run' at hanswer hfiles
  obtain ⟨result, after⟩ := run
  obtain ⟨_, after'⟩ := run'
  obtain rfl := hanswer
  cases result with
  | ok value => exact ⟨rfl, hfiles⟩
  | error error => exact ⟨rfl, hfiles⟩

theorem ask {first second : FileAction LibraryError α}
    (halike : library.Alike player (first.run top) (second.run other)) :
    library.Alike player ((ask first).run top) ((ask second).run other) := by
  rw [Gamebook.ask, run_mapError, Gamebook.ask, run_mapError, halike.answer]
  exact ⟨rfl, halike.files⟩

theorem bind_saveProgress {f : Unit → CommandAction α}
    (hnext : ∀ saved saved',
      (library.saveProgress player id state now).run top = (.ok (), saved) →
      (library.saveProgress player id state later).run top = (.ok (), saved') →
      library.Alike player ((f ()).run saved) ((f ()).run saved')) :
    library.Alike player ((Gamebook.ask (library.saveProgress player id state now) >>= f).run top)
      ((Gamebook.ask (library.saveProgress player id state later) >>= f).run top) := by
  have hanswer := library.answer_saveProgress player id state now later top
  rw [run_bind, run_bind, Gamebook.ask, run_mapError, Gamebook.ask, run_mapError]
  cases hrun : (library.saveProgress player id state now).run top with
  | mk result saved =>
      cases hrun' : (library.saveProgress player id state later).run top with
      | mk result' saved' =>
          rw [hrun, hrun'] at hanswer
          obtain rfl : result = result' := hanswer
          cases result with
          | ok => exact hnext saved saved' hrun hrun'
          | error error =>
              have hsame := sameFiles_of_saveProgress hrun
              have hsame' := sameFiles_of_saveProgress hrun'
              exact ⟨rfl, sameButTimes_of_sameFiles (hsame.symm.trans hsame')⟩

end Library.Alike

namespace Library

theorem rewritten_of_put {sessions : Dict Session} {after : Entry} {store : SessionStore}
    (hall : (SessionStore.file library).all.run top = (.ok sessions, top))
    (hput : ((SessionStore.file library).put player session).run top = (.ok store, after)) :
    top.Rewritten library.sessionsPath
      ((Json.Codec.dict Session.codec).write (sessions.insert player session) ++ "\n") after := by
  obtain ⟨⟨⟩, middle, hcheck, hrest⟩ := run_bind_eq_ok.mp hput
  obtain ⟨-, rfl⟩ := checkKey_eq_ok.mp hcheck
  rw [run_bind_of_ok hall] at hrest
  obtain ⟨⟨⟩, written, hwrite, hstore⟩ := run_bind_eq_ok.mp hrest
  obtain ⟨-, rfl⟩ := run_pure_eq_ok.mp hstore
  exact rewritten_of_writeText hwrite

theorem alike_put {saved saved' : Entry} (htop : library.HasRoot top)
    (hsave : (library.saveProgress player id state now).run top = (.ok (), saved))
    (hsave' : (library.saveProgress player id state later).run top = (.ok (), saved'))
    (session : Session) :
    library.Alike player (((SessionStore.file library).put player session).run saved)
      (((SessionStore.file library).put player session).run saved') := by
  have hsaves := sameButTimes_of_saveProgress hsave hsave'
  have hread := run_all_of_saveProgress htop hsave
  have hread' := run_all_of_saveProgress htop hsave'
  obtain ⟨hplayer, -, -⟩ := saveProgress_eq_ok hsave
  rcases library.run_all_cases top with ⟨error, hall⟩ | ⟨sessions, hall⟩
  · rw [hall] at hread hread'
    rw [run_put_of_error hread hplayer, run_put_of_error hread' hplayer]
    exact ⟨rfl, hsaves⟩
  · rw [hall] at hread hread'
    obtain ⟨entries, hthere⟩ := hasRoot_of_saveProgress htop hsave
    obtain ⟨entries', hthere'⟩ := hasRoot_of_saveProgress htop hsave'
    obtain ⟨after, hput⟩ := exists_put hplayer hthere hread session
    obtain ⟨after', hput'⟩ := exists_put hplayer hthere' hread' session
    have hfiles := hsaves.of_rewritten (rewritten_of_put hread hput) (rewritten_of_put hread' hput')
    rw [hput, hput']
    exact ⟨rfl, hfiles⟩

end Library

theorem Setting.alike_beginStory {story : Story} (htop : library.HasRoot top) (scope : Visibility) :
    library.Alike player
      (((library.setting player now candidates).beginStory story scope).run top)
      (((library.setting player later candidates).beginStory story scope).run top) := by
  refine .bind_looks (Looks.ofExcept _) fun turn _ => ?_
  refine .bind_saveProgress fun saved saved' hsave hsave' => ?_
  exact .bind_pure (.ask (Library.alike_put htop hsave hsave' _))

theorem Setting.alike_startListed (id : String) (top : Entry) :
    library.Alike player (((library.setting player now candidates).startListed id).run top)
      (((library.setting player later candidates).startListed id).run top) := by
  refine .bind_looks ((library.setting player now candidates).looks_listedStory id) ?_
  intro story hlisted
  have hload := Setting.listedStory_eq_ok.mp hlisted
  have hfinds : (PlayerCommand.play id).Finds library top story := hload
  exact .bind_pure (Setting.alike_beginStory hfinds.exists_folder .listed)

theorem Setting.alike_startByCode (code : String) (top : Entry) :
    library.Alike player (((library.setting player now candidates).startByCode code).run top)
      (((library.setting player later candidates).startByCode code).run top) := by
  refine .bind_looks ((library.looks_loadByCode code).mapError _) ?_
  rintro ⟨id, story⟩ hfound
  have hfinds : (PlayerCommand.playCode code).Finds library top story :=
    ⟨id, run_mapError_eq_ok.mp hfound⟩
  exact .bind_pure (Setting.alike_beginStory hfinds.exists_folder .unlisted)

theorem Setting.alike_takeChoice (index : Nat) (top : Entry) :
    library.Alike player (((library.setting player now candidates).takeChoice index).run top)
      (((library.setting player later candidates).takeChoice index).run top) := by
  have hlooks := (library.setting player now candidates).looks_current
  refine .bind_looks (hlooks.mapError _) ?_
  rintro ⟨story, state⟩ -
  refine .bind_looks (Looks.ofExcept _) fun turn _ => ?_
  refine .bind_saveProgress fun saved saved' hsave hsave' => ?_
  exact ⟨rfl, Library.sameButTimes_of_saveProgress hsave hsave'⟩

theorem PlayerCommand.alike_run (asked : PlayerCommand) (top : Entry) :
    library.Alike player ((asked.command.run (library.setting player now candidates)).run top)
      ((asked.command.run (library.setting player later candidates)).run top) := by
  cases asked with
  | play id => exact .bind_pure (Setting.alike_startListed id top)
  | playCode code => exact .bind_pure (Setting.alike_startByCode code top)
  | choose index => exact .bind_pure (.bind_pure (Setting.alike_takeChoice index top))
  | resume => exact .refl _
  | status => exact .refl _

end Gamebook
