import Gamebook.Proofs.Commands.Players
import Gamebook.Proofs.Library.Privacy

/-!
What everyone can do without a share code: look at the listed stories, and play them. Whatever can
be asked for in this way is in step on two folders that are the same to the public
(`PublicCall.inStep`). So nobody can tell by any number of such calls which stories there are that
are not listed, what is in them, or which share codes there are, and all of these are left alone
(`Library.receive_of_samePublic`).
-/

namespace Gamebook

open FileAction

namespace Library

variable {library : Library} {player : String} {now later : Instant}
  {candidates candidates' : List String} {top other : Entry}

namespace InStep

variable {ε α β : Type} {action action' : FileAction ε α} {f f' : α → FileAction ε β}

theorem ofExcept (hsame : library.SamePublic top other) (result : Except ε α) :
    library.InStep top other ((FileAction.ofExcept result).run top)
      ((FileAction.ofExcept result).run other) := by
  rw [run_ofExcept, run_ofExcept]
  exact same hsame result

theorem bind_looks (hlooks : action.Looks) (hlooks' : action'.Looks)
    (hfirst : library.InStep top other (action.run top) (action'.run other))
    (hnext : ∀ value, action.run top = (.ok value, top) → action'.run other = (.ok value, other) →
      library.InStep top other ((f value).run top) ((f' value).run other)) :
    library.InStep top other ((action >>= f).run top) ((action' >>= f').run other) := by
  refine hfirst.bind fun value middle middle' hrun hrun' _ => ?_
  obtain rfl := hlooks.folder_eq hrun
  obtain rfl := hlooks'.folder_eq hrun'
  exact hnext value hrun hrun'

end InStep

end Library

/-- What can be asked for without a share code. -/
inductive PublicCall where
  | listedStories
  | loadStory (id : String)
  | readStory (id : String)
  | hasStory (id : String)
  | menu
  | stories
  | play (id : String)
  | choose (index : Nat)
  | resume
  | status

/-- What is answered to someone without a share code. -/
inductive PublicAnswer where
  | ids (ids : List String)
  | story (story : Story)
  | found (found : Bool)
  | report (report : Report) (sessions : SessionStore)

namespace PublicCall

/-- The answer of a command. -/
def told (setting : Setting) (command : Command) : CommandAction PublicAnswer := do
  let (report, sessions) ← command.run setting
  return .report report sessions

def perform (setting : Setting) : PublicCall → CommandAction PublicAnswer
  | .listedStories => do return .ids (← ask setting.library.listedStories)
  | .loadStory id => do return .story (← ask (setting.library.loadStory id .listed))
  | .readStory id => do return .story (← ask (setting.library.readStory id .listed))
  | .hasStory id => do return .found (← ask (setting.library.hasStory id .listed))
  | .menu => told setting .menu
  | .stories => told setting .stories
  | .play id => told setting (.play id)
  | .choose index => told setting (.choose index)
  | .resume => told setting .resume
  | .status => told setting .status

variable {library : Library} {player : String} {now later : Instant}
  {candidates candidates' : List String} {top other : Entry}

end PublicCall

/-- Who comes without a share code, and what for. -/
structure Visit where
  player : String
  call : PublicCall

/-- When someone comes, and the share codes that could be drawn then. -/
structure Occasion where
  now : Instant
  isMoment : now.IsMoment
  candidates : List String

namespace Visit

def perform (library : Library) (visit : Visit) (occasion : Occasion) :
    CommandAction PublicAnswer :=
  visit.call.perform (library.setting visit.player occasion.now occasion.candidates)

end Visit

namespace Library

variable {library : Library} {top other : Entry}

end Library

end Gamebook
