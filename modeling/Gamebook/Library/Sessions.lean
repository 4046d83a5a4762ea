import Gamebook.Library.Records

namespace Gamebook

/-- The story that a player is in, and where it is kept. -/
structure Session where
  storyId : String
  scope : Visibility
  deriving DecidableEq

def Session.codec : Json.Codec Session :=
  .record "SessionRecord"
    (.cons (.required "storyId" .text) <|
      .cons (.required "scope" Visibility.codec) .nil)
    (fun s => (s.storyId, s.scope, ()))
    (fun (storyId, scope, _) => ⟨storyId, scope⟩)

/-- Where sessions are kept. -/
inductive SessionStore where
  /-- In a file of a library, which is read anew each time. -/
  | file (library : Library)
  | memory (sessions : Dict Session)
  deriving DecidableEq

namespace SessionStore

/-- All sessions. -/
def all : SessionStore → FileAction LibraryError (Dict Session)
  | .file library => do
    return (← Library.readRecord (.dict Session.codec) library.sessionsPath).getD ∅
  | .memory sessions => .done sessions

/-- The session of a player, if there is one. -/
def get (store : SessionStore) (player : String) : FileAction LibraryError (Option Session) := do
  return (← store.all).find? player

/-- Makes a session the one of a player. -/
def put (store : SessionStore) (player : String) (session : Session) :
    FileAction LibraryError SessionStore :=
  match store with
  | .file library => do
    checkKey .player player
    let sessions ← store.all
    Library.writeRecord (.dict Session.codec) library.sessionsPath (sessions.insert player session)
    return store
  | .memory sessions => .done (.memory (sessions.insert player session))

/-- Ends the session of a player, and gives it. Without a session nothing is written. -/
def remove (store : SessionStore) (player : String) :
    FileAction LibraryError (Option Session × SessionStore) :=
  match store with
  | .file library => do
    let sessions ← store.all
    match sessions.find? player with
    | none => return (none, store)
    | some session =>
      Library.writeRecord (.dict Session.codec) library.sessionsPath (sessions.erase player)
      return (some session, store)
  | .memory sessions => .done (sessions.find? player, .memory (sessions.erase player))

end SessionStore

end Gamebook
