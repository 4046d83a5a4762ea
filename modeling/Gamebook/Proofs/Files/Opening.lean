import Gamebook.Proofs.Files.Looking

namespace Gamebook

namespace FileAction

variable {ε ε' α β : Type}

/-- The paths of the files that a run reads or writes, in this order. -/
def opened : FileAction ε α → Entry → List String
  | .done _, _ => []
  | .fail _, _ => []
  | .readText path next, top => path :: (next (top.readText (Path.names path))).opened top
  | .isFile path next, top => (next (top.isFile (Path.names path))).opened top
  | .list path next, top => (next (top.list (Path.names path))).opened top
  | .makeFolders path next, top =>
    let made := Entry.makeFolders (Path.names path) top
    (next made.1).opened made.2
  | .writeText path text next, top =>
    path ::
      match Entry.writeFile (.text text) (Path.names path) top with
      | .ok top => (next none).opened top
      | .error fault => (next (some fault)).opened top

/-- Whether a program only reads and writes files whose paths are of some kind, and only makes the
folders that such files are in, whatever it finds. -/
inductive Opens (P : String → Prop) : FileAction ε α → Prop where
  | done (value : α) : Opens P (.done value)
  | fail (error : ε) : Opens P (.fail error)
  | readText {path : String} {next : Except FileFault String → FileAction ε α} :
    P path → (∀ answer, Opens P (next answer)) → Opens P (.readText path next)
  | isFile (path : String) {next : Bool → FileAction ε α} :
    (∀ answer, Opens P (next answer)) → Opens P (.isFile path next)
  | list (path : String) {next : Except FileFault (List String) → FileAction ε α} :
    (∀ answer, Opens P (next answer)) → Opens P (.list path next)
  | makeFolders {path : String} {next : Option FileFault → FileAction ε α} :
    P path → (∀ answer, Opens P (next answer)) → Opens P (.makeFolders (Path.parent path) next)
  | writeText {path : String} (text : String) {next : Option FileFault → FileAction ε α} :
    P path → (∀ answer, Opens P (next answer)) → Opens P (.writeText path text next)

namespace Opens

variable {P : String → Prop} {action : FileAction ε α} {f : α → FileAction ε β}

theorem bind (haction : action.Opens P) (hnext : ∀ value, (f value).Opens P) :
    (action >>= f).Opens P := by
  change (action.bind f).Opens P
  induction haction with
  | done value => exact hnext value
  | fail error => exact .fail error
  | readText hpath _ ih => exact .readText hpath ih
  | isFile path _ ih => exact .isFile path ih
  | list path _ ih => exact .list path ih
  | makeFolders hpath _ ih => exact .makeFolders hpath ih
  | writeText text hpath _ ih => exact .writeText text hpath ih

theorem attempt (haction : action.Opens P) :
    (action.attempt : FileAction ε' (Except ε α)).Opens P := by
  induction haction with
  | done value => exact .done _
  | fail error => exact .done _
  | readText hpath _ ih => exact .readText hpath ih
  | isFile path _ ih => exact .isFile path ih
  | list path _ ih => exact .list path ih
  | makeFolders hpath _ ih => exact .makeFolders hpath ih
  | writeText text hpath _ ih => exact .writeText text hpath ih

theorem ofExcept (result : Except ε α) : (FileAction.ofExcept result).Opens P := by
  cases result with
  | ok value => exact .done value
  | error error => exact .fail error

theorem mapError (haction : action.Opens P) (f : ε → ε') : (action.mapError f).Opens P :=
  haction.attempt.bind fun _ => ofExcept _

theorem isClosed (P : String → Prop) :
    IsClosed fun {α} (action : FileAction ε α) => action.Opens P :=
  ⟨.done, .fail, bind⟩

theorem opened (haction : action.Opens P) (top : Entry) : ∀ path ∈ action.opened top, P path := by
  induction haction generalizing top with
  | done value => exact List.forall_mem_nil P
  | fail error => exact List.forall_mem_nil P
  | readText hpath _ ih => exact List.forall_mem_cons.mpr ⟨hpath, ih _ top⟩
  | isFile path _ ih => exact ih _ top
  | list path _ ih => exact ih _ top
  | makeFolders hpath _ ih => exact ih _ _
  | writeText text hpath _ ih =>
      rw [FileAction.opened]
      refine List.forall_mem_cons.mpr ⟨hpath, ?_⟩
      split
      · exact ih _ _
      · exact ih _ top

theorem contents_run (haction : action.Opens P) {names : List String}
    (hother : ∀ path, P path → Path.names path ≠ names) (top : Entry) (content : Content) :
    (action.run top).2.contents names = .ok content ↔ top.contents names = .ok content := by
  induction haction generalizing top with
  | done value => exact Iff.rfl
  | fail error => exact Iff.rfl
  | readText hpath _ ih => exact ih _ top
  | isFile path _ ih => exact ih _ top
  | list path _ ih => exact ih _ top
  | makeFolders hpath _ ih => exact (ih _ _).trans (Entry.contents_makeFolders ..)
  | writeText text hpath _ ih =>
      rw [run]
      split
      · rename_i written hwrite
        exact (ih _ _).trans (Entry.contents_writeFile_of_ne hwrite (hother _ hpath))
      · exact ih _ top

end Opens

end FileAction

end Gamebook
