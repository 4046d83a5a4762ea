import Gamebook.Proofs.Library.Operations
import Gamebook.Proofs.Library.Tables

namespace Gamebook

open FileAction

namespace SessionCall

/-- What a call answers from a table, and what it makes of the table. -/
def on (table : Dict Session) : SessionCall → Option Session × Dict Session
  | .get player => (table.find? player, table)
  | .put player session => (none, table.insert player session)
  | .remove player => (table.find? player, table.erase player)

/-- Whether a session is only put for a player whose id can be the name of a file. -/
def IsKeyed : SessionCall → Prop
  | .get _ => True
  | .put player _ => isKey player = true
  | .remove _ => True

theorem perform_memory (call : SessionCall) (table : Dict Session) :
    call.perform (.memory table) = .done ((call.on table).1, .memory (call.on table).2) := by
  cases call <;> rfl

end SessionCall

/-- What happens to the sessions of a library, and around them. -/
inductive SessionEvent where
  | call (call : SessionCall)
  /-- The file of the sessions is opened anew. -/
  | reopen
  /-- Another store of the library is used. -/
  | other (operation : Operation)

namespace SessionEvent

def isReopen : SessionEvent → Bool
  | .reopen => true
  | .call _ => false
  | .other _ => false

end SessionEvent

namespace Library

/-- What a store of sessions answers, call by call, while the other stores of a library are used as
well. A call that fails leaves the store as it was. -/
def sessionAnswers (library : Library) :
    SessionStore → Entry → List SessionEvent → List (Except LibraryError (Option Session))
  | _, _, [] => []
  | store, top, .call call :: events =>
    match (call.perform store).run top with
    | (.ok (answer, store), top) => .ok answer :: library.sessionAnswers store top events
    | (.error error, top) => .error error :: library.sessionAnswers store top events
  | _, top, .reopen :: events => library.sessionAnswers (.file library) top events
  | store, top, .other operation :: events =>
    library.sessionAnswers store ((operation.perform library).run top).2 events

/-- Whether the sessions of a library are those of a table, with its folder there to write them
to. -/
structure HasSessions (library : Library) (table : Dict Session) (top : Entry) : Prop where
  root : library.HasRoot top
  all : (SessionStore.file library).all.run top = (.ok table, top)

variable {library : Library} {table : Dict Session} {top : Entry}

theorem hasSessions_empty (hroot : library.HasRoot top)
    (hmissing : top.walk (Path.names library.sessionsPath) = .error .missing) :
    library.HasSessions ∅ top := by
  refine ⟨hroot, ?_⟩
  have hread : (readRecord (.dict Session.codec) library.sessionsPath).run top =
      (.ok none, top) := by
    rw [readRecord, run_bind, readText, FileAction.run, Entry.readText_eq_missing.mpr hmissing]
    rfl
  exact run_bind_of_ok hread _

theorem preserves_hasSessions_of_actsAt {α : Type} {action : FileAction LibraryError α}
    {name : String} (hacts : action.ActsAt (Path.names library.root) name)
    (hname : "sessions.json" ≠ name) : action.Preserves (library.HasSessions table) := by
  rintro top ⟨hroot, hall⟩
  obtain ⟨-, hsame, -⟩ := library.actsAt_all.commutesOn hacts hname top hroot
  rw [hall] at hsame
  exact ⟨hacts.preserves top hroot, (looks_all _).run_of_answer hsame⟩

theorem preserves_hasSessions (operation : Operation) :
    (operation.perform library).Preserves (library.HasSessions table) := by
  apply preserves_operation
  · intro story scope
    exact preserves_hasSessions_of_actsAt (library.actsAt_writeStory story scope) (by decide)
  · intro codes
    exact preserves_hasSessions_of_actsAt (library.actsAt_saveCodes codes) (by decide)
  · intro player id state now
    exact preserves_hasSessions_of_actsAt (library.actsAt_saveProgress player id state now)
      (by decide)
  · intro name
    exact preserves_hasSessions_of_actsAt (library.actsAt_addItem name) (by decide)

theorem HasSessions.write (hsessions : library.HasSessions table top) (next : Dict Session) :
    ∃ after, (writeRecord (.dict Session.codec) library.sessionsPath next).run top =
      (.ok (), after) ∧ library.HasSessions next after := by
  obtain ⟨⟨entries, hbase⟩, hall⟩ := hsessions
  have hplain : Path.IsPlain "sessions.json" := ⟨by decide, by decide, by decide, by decide⟩
  obtain ⟨after, hwrite⟩ := exists_writeRecord_of_readTable hplain hbase hall next
  have hafter : after = library.withSessions top entries next :=
    eq_changed_of_writeText hplain hbase hwrite
  rw [hafter] at hwrite
  exact ⟨_, hwrite, ⟨_, walk_withSessions hbase next⟩, run_all_withSessions hbase next⟩

/-- A call answers from the table of the sessions, and makes of the file what it makes of the
table. -/
theorem HasSessions.perform (hsessions : library.HasSessions table top) {call : SessionCall}
    (hkeyed : call.IsKeyed) :
    ∃ after, (call.perform (.file library)).run top =
      (.ok ((call.on table).1, .file library), after) ∧
      library.HasSessions (call.on table).2 after := by
  cases call with
  | get player => exact ⟨top, run_bind_of_ok (run_get_of_all hsessions.all player) _, hsessions⟩
  | put player session =>
      obtain ⟨after, hwrite, hafter⟩ := hsessions.write (table.insert player session)
      have hput : ((SessionStore.file library).put player session).run top =
          (.ok (.file library), after) := by
        rw [SessionStore.put, run_bind_of_ok (checkKey_eq_ok.mpr ⟨hkeyed, rfl⟩),
          run_bind_of_ok hsessions.all]
        exact run_bind_of_ok hwrite _
      exact ⟨after, run_bind_of_ok hput _, hafter⟩
  | remove player =>
      rw [SessionCall.perform, SessionStore.remove, run_bind_of_ok hsessions.all]
      cases hfound : table.find? player with
      | none =>
          refine ⟨top, ?_, ?_⟩
          · simp only [SessionCall.on, hfound]
            rfl
          · simp only [SessionCall.on, Dict.erase_of_find? hfound]
            exact hsessions
      | some session =>
          obtain ⟨after, hwrite, hafter⟩ := hsessions.write (table.erase player)
          refine ⟨after, ?_, hafter⟩
          simp only [SessionCall.on, hfound]
          exact run_bind_of_ok hwrite _

theorem HasSessions.sessionAnswers (hsessions : library.HasSessions table top) (elsewhere : Entry)
    {events : List SessionEvent} (hkeyed : ∀ call, .call call ∈ events → call.IsKeyed) :
    library.sessionAnswers (.file library) top events =
      library.sessionAnswers (.memory table) elsewhere (events.filter (!·.isReopen)) := by
  induction events generalizing table top elsewhere with
  | nil => rfl
  | cons event events ih =>
      have hrest : ∀ call, .call call ∈ events → call.IsKeyed :=
        fun call hcall => hkeyed call (List.mem_cons_of_mem event hcall)
      cases event with
      | call call =>
          obtain ⟨after, hrun, hafter⟩ := hsessions.perform (hkeyed call (List.mem_cons_self ..))
          rw [List.filter_cons_of_pos rfl, Library.sessionAnswers, hrun, Library.sessionAnswers,
            call.perform_memory]
          exact congrArg _ (ih hafter elsewhere hrest)
      | reopen => exact ih hsessions elsewhere hrest
      | other operation =>
          exact ih (preserves_hasSessions operation top hsessions) _ hrest

/-- Sessions in a file that was not there before, and sessions in memory, are answered alike. -/
theorem sessionAnswers_file_eq_memory (hroot : library.HasRoot top)
    (hmissing : top.walk (Path.names library.sessionsPath) = .error .missing)
    {events : List SessionEvent}
    (hkeys : ∀ player session, .call (.put player session) ∈ events → isKey player = true)
    (elsewhere : Entry) :
    library.sessionAnswers (.file library) top events =
        library.sessionAnswers (.memory ∅) elsewhere (events.filter (!·.isReopen)) ∧
      library.sessionAnswers (.file library) top events =
        library.sessionAnswers (.file library) top (events.filter (!·.isReopen)) := by
  have hkeyed : ∀ call, .call call ∈ events → call.IsKeyed := by
    intro call hcall
    cases call with
    | get player => exact trivial
    | put player session => exact hkeys player session hcall
    | remove player => exact trivial
  have hsessions := hasSessions_empty hroot hmissing
  have hmemory := hsessions.sessionAnswers elsewhere hkeyed
  refine ⟨hmemory, ?_⟩
  have hfiltered : ∀ call, .call call ∈ events.filter (!·.isReopen) → call.IsKeyed :=
    fun call hcall => hkeyed call (List.mem_filter.mp hcall).1
  rw [hmemory, hsessions.sessionAnswers elsewhere hfiltered, List.filter_filter]
  simp only [Bool.and_self]

end Library

/-- Sessions that are begun, replaced and ended, with the file opened anew and the item bank used in
between. -/
def evening : List SessionEvent :=
  [.call (.get "ada"), .call (.put "ada" ⟨"cave", .listed⟩), .other (.addItem "Rope"),
    .call (.put "bob" ⟨"vault", .unlisted⟩), .reopen, .call (.get "ada"),
    .call (.put "ada" ⟨"vault", .unlisted⟩), .call (.remove "ada"), .call (.remove "ada"),
    .reopen, .call (.get "bob")]

theorem sessionAnswers_evening :
    Library.here.HasRoot (.folder []) ∧
      (Entry.folder []).walk (Path.names Library.here.sessionsPath) = .error .missing ∧
      (∀ player session, .call (.put player session) ∈ evening → isKey player = true) ∧
      Library.here.sessionAnswers (.file Library.here) (.folder []) evening =
        [.ok none, .ok none, .ok none, .ok (some ⟨"cave", .listed⟩), .ok none,
          .ok (some ⟨"vault", .unlisted⟩), .ok none, .ok (some ⟨"vault", .unlisted⟩)] := by
  have hroot : Library.here.HasRoot (.folder []) := ⟨[], isEmpty_here⟩
  have hmissing : (Entry.folder []).walk (Path.names Library.here.sessionsPath) =
      .error .missing := by
    rw [Library.names_sessionsPath, Entry.walk_append isEmpty_here]
    rfl
  have hkeys : ∀ player session, .call (.put player session) ∈ evening → isKey player = true := by
    intro player session hput
    simp [evening] at hput
    rcases hput with ⟨rfl, -⟩ | ⟨rfl, -⟩ | ⟨rfl, -⟩ <;> decide
  refine ⟨hroot, hmissing, hkeys, ?_⟩
  rw [(Library.sessionAnswers_file_eq_memory hroot hmissing hkeys (.folder [])).1]
  rfl

end Gamebook
