import Gamebook.Files.Entry
import Gamebook.Files.Path

/-!
Programs that work with files, as data. A program asks for one thing at a time and goes on with the
answer, so that it can be run on a folder that is a value as well as on the files of a machine, and
so that the paths it asks for can be read off.
-/

namespace Gamebook

/-- A program that works with files and gives a value or fails. -/
inductive FileAction (ε α : Type) where
  | done (value : α)
  | fail (error : ε)
  /-- Asks for the text of a file. -/
  | readText (path : String) (next : Except FileFault String → FileAction ε α)
  /-- Asks whether there is a file. -/
  | isFile (path : String) (next : Bool → FileAction ε α)
  /-- Asks for the names in a folder. -/
  | list (path : String) (next : Except FileFault (List String) → FileAction ε α)
  /-- Makes a folder, and the folders it is in, unless they are there. -/
  | makeFolders (path : String) (next : Option FileFault → FileAction ε α)
  /-- Writes text to a file. -/
  | writeText (path text : String) (next : Option FileFault → FileAction ε α)

namespace FileAction

variable {ε ε' α β : Type}

/-- Goes on with the value of a program. -/
def bind : FileAction ε α → (α → FileAction ε β) → FileAction ε β
  | .done value, f => f value
  | .fail error, _ => .fail error
  | .readText path next, f => .readText path fun answer => (next answer).bind f
  | .isFile path next, f => .isFile path fun answer => (next answer).bind f
  | .list path next, f => .list path fun answer => (next answer).bind f
  | .makeFolders path next, f => .makeFolders path fun answer => (next answer).bind f
  | .writeText path text next, f => .writeText path text fun answer => (next answer).bind f

instance : Monad (FileAction ε) where
  pure := .done
  bind := .bind

/-- Goes on with the value or the failure of a program. -/
def attempt : FileAction ε α → FileAction ε' (Except ε α)
  | .done value => .done (.ok value)
  | .fail error => .done (.error error)
  | .readText path next => .readText path fun answer => (next answer).attempt
  | .isFile path next => .isFile path fun answer => (next answer).attempt
  | .list path next => .list path fun answer => (next answer).attempt
  | .makeFolders path next => .makeFolders path fun answer => (next answer).attempt
  | .writeText path text next => .writeText path text fun answer => (next answer).attempt

/-- The program that gives a value or fails, and works with no file. -/
def ofExcept : Except ε α → FileAction ε α
  | .ok value => .done value
  | .error error => .fail error

/-- A program that fails for a reason which is put differently. -/
def mapError (f : ε → ε') (action : FileAction ε α) : FileAction ε' α :=
  action.attempt.bind fun result => ofExcept (result.mapError f)

/-- Runs a program inside a folder: gives its value or failure, and the folder afterwards. -/
def run : FileAction ε α → Entry → Except ε α × Entry
  | .done value, top => (.ok value, top)
  | .fail error, top => (.error error, top)
  | .readText path next, top => (next (top.readText (Path.names path))).run top
  | .isFile path next, top => (next (top.isFile (Path.names path))).run top
  | .list path next, top => (next (top.list (Path.names path))).run top
  | .makeFolders path next, top =>
    let made := Entry.makeFolders (Path.names path) top
    (next made.1).run made.2
  | .writeText path text next, top =>
    match Entry.writeFile (.text text) (Path.names path) top with
    | .ok top => (next none).run top
    | .error fault => (next (some fault)).run top

@[simp] theorem run_pure (value : α) (top : Entry) :
    (pure value : FileAction ε α).run top = (.ok value, top) := rfl

@[simp] theorem run_fail (error : ε) (top : Entry) :
    (.fail error : FileAction ε α).run top = (.error error, top) := rfl

theorem run_bind (action : FileAction ε α) (f : α → FileAction ε β) (top : Entry) :
    (action >>= f).run top =
      match action.run top with
      | (.ok value, top) => (f value).run top
      | (.error error, top) => (.error error, top) := by
  change (action.bind f).run top = _
  induction action generalizing top with
  | done value => rfl
  | fail error => rfl
  | readText path next ih => exact ih _ top
  | isFile path next ih => exact ih _ top
  | list path next ih => exact ih _ top
  | makeFolders path next ih => exact ih _ _
  | writeText path text next ih =>
    rw [bind, run, run]
    split <;> exact ih _ _

theorem run_attempt (action : FileAction ε α) (top : Entry) :
    (action.attempt : FileAction ε' (Except ε α)).run top =
      (.ok (action.run top).1, (action.run top).2) := by
  induction action generalizing top with
  | done value => rfl
  | fail error => rfl
  | readText path next ih => exact ih _ top
  | isFile path next ih => exact ih _ top
  | list path next ih => exact ih _ top
  | makeFolders path next ih => exact ih _ _
  | writeText path text next ih =>
    rw [attempt, run, run]
    split <;> exact ih _ _

theorem bind_done (action : FileAction ε α) : action.bind .done = action := by
  induction action with
  | done value => rfl
  | fail error => rfl
  | readText path next ih => exact congrArg (FileAction.readText path) (funext ih)
  | isFile path next ih => exact congrArg (FileAction.isFile path) (funext ih)
  | list path next ih => exact congrArg (FileAction.list path) (funext ih)
  | makeFolders path next ih => exact congrArg (FileAction.makeFolders path) (funext ih)
  | writeText path text next ih => exact congrArg (FileAction.writeText path text) (funext ih)

theorem bind_bind {γ : Type} (action : FileAction ε α) (f : α → FileAction ε β)
    (g : β → FileAction ε γ) :
    (action.bind f).bind g = action.bind fun value => (f value).bind g := by
  induction action with
  | done value => rfl
  | fail error => rfl
  | readText path next ih => exact congrArg (FileAction.readText path) (funext ih)
  | isFile path next ih => exact congrArg (FileAction.isFile path) (funext ih)
  | list path next ih => exact congrArg (FileAction.list path) (funext ih)
  | makeFolders path next ih => exact congrArg (FileAction.makeFolders path) (funext ih)
  | writeText path text next ih => exact congrArg (FileAction.writeText path text) (funext ih)

instance : LawfulMonad (FileAction ε) :=
  .mk' _ bind_done (fun _ _ => rfl) bind_bind

end FileAction

end Gamebook
