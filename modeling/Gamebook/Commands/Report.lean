import Gamebook.Library.Error
import Gamebook.Play.Engine

namespace Gamebook

/-- What a command prints when it succeeds: its answer, and notices beside it, line by line. -/
structure Report where
  lines : List String
  notices : List String

namespace Report

/-- A report without notices. -/
def of (lines : List String) : Report := ⟨lines, []⟩

end Report

/-- Why a command fails. -/
inductive CommandError where
  | library (error : LibraryError)
  | play (error : PlayError)
  /-- There is no listed story of an id, but maybe one with an id like it. -/
  | notListed (id : String) (close : Option String)
  /-- A story has errors; all its problems are noted. -/
  | storyHasErrors (id : String) (issues : List Issue)

/-- A number of things, as in `1 item` and `2 items`. -/
def plural (count : Nat) (noun : String) : String :=
  Text.numeral count ++ " " ++ noun ++ if count = 1 then "" else "s"

/-- The number of errors among some problems. -/
def countErrors (issues : List Issue) : Nat :=
  (issues.filter Issue.isError).length

/-- The number of warnings among some problems. -/
def countWarnings (issues : List Issue) : Nat :=
  issues.length - countErrors issues

/-- The notices about problems. -/
def issueNotices (issues : List Issue) : List String :=
  issues.map fun issue => "  " ++ issue.display

namespace CommandError

def message : CommandError → String
  | .library error => error.message
  | .play error => error.message
  | .notListed id _ => (LibraryError.storyNotFound id .listed).message
  | .storyHasErrors id issues =>
    "story '" ++ id ++ "' has " ++ plural (countErrors issues) "error" ++ ", " ++
      plural (countWarnings issues) "warning"

/-- What lies behind an error, nearest first. -/
def causes : CommandError → List Cause
  | .library error => error.causes
  | _ => []

/-- The code by which an error is known, if it has one. -/
def code? : CommandError → Option String
  | .library error => some error.code
  | _ => none

/-- What can be done about an error. -/
def help? : CommandError → Option String
  | .library error => error.help?
  | .notListed _ (some close) => some ("did you mean `" ++ close ++ "`?")
  | .notListed _ none => some "run `fable stories` to see what is available"
  | _ => none

/-- What a command has noted before it fails. -/
def notices : CommandError → List String
  | .storyHasErrors _ issues => issueNotices issues
  | _ => []

/-- The lines that tell of a failure: the error, what lies behind it, and what can be done. -/
def lines (error : CommandError) : List String :=
  ("error: " ++ error.message) ::
    (error.causes.map fun cause => "  caused by: " ++ cause.message) ++
    (error.help?.toList.map fun help => "  help: " ++ help)

end CommandError

/-- A program that a command runs. -/
abbrev CommandAction (α : Type) := FileAction CommandError α

/-- Uses the library within a command. -/
def ask {α : Type} (action : FileAction LibraryError α) : CommandAction α :=
  action.mapError .library

end Gamebook
