import Gamebook.Proofs.Files.Runs

namespace Gamebook

/-- Whether the files in two folders are the same, and hold the same. -/
def Entry.SameFiles (top after : Entry) : Prop :=
  ∀ path content, after.contents path = .ok content ↔ top.contents path = .ok content

namespace Entry.SameFiles

variable {top middle after : Entry}

theorem refl (top : Entry) : top.SameFiles top :=
  fun _ _ => Iff.rfl

theorem trans (hfirst : top.SameFiles middle) (hsecond : middle.SameFiles after) :
    top.SameFiles after :=
  fun path content => (hsecond path content).trans (hfirst path content)

theorem symm (hsame : top.SameFiles after) : after.SameFiles top :=
  fun path content => (hsame path content).symm

end Entry.SameFiles

namespace FileAction

variable {ε ε' α β : Type}

/-- Whether a program makes no folder and writes no file, whatever it finds. -/
inductive Looks : FileAction ε α → Prop where
  | done (value : α) : Looks (.done value)
  | fail (error : ε) : Looks (.fail error)
  | readText (path : String) {next : Except FileFault String → FileAction ε α} :
    (∀ answer, Looks (next answer)) → Looks (.readText path next)
  | isFile (path : String) {next : Bool → FileAction ε α} :
    (∀ answer, Looks (next answer)) → Looks (.isFile path next)
  | list (path : String) {next : Except FileFault (List String) → FileAction ε α} :
    (∀ answer, Looks (next answer)) → Looks (.list path next)

namespace Looks

variable {action : FileAction ε α}

theorem run (hlooks : action.Looks) (top : Entry) : (action.run top).2 = top := by
  induction hlooks with
  | done value => rfl
  | fail error => rfl
  | readText path _ ih => exact ih _
  | isFile path _ ih => exact ih _
  | list path _ ih => exact ih _

theorem folder_eq (hlooks : action.Looks) {top after : Entry} {result : Except ε α}
    (hrun : action.run top = (result, after)) : after = top := by
  rw [← hlooks.run top, hrun]

theorem run_of_answer (hlooks : action.Looks) {top : Entry} {result : Except ε α}
    (hanswer : (action.run top).1 = result) : action.run top = (result, top) :=
  Prod.ext hanswer (hlooks.run top)

theorem bind (hlooks : action.Looks) {f : α → FileAction ε β} (hnext : ∀ value, (f value).Looks) :
    (action >>= f).Looks := by
  change (action.bind f).Looks
  induction hlooks with
  | done value => exact hnext value
  | fail error => exact .fail error
  | readText path _ ih => exact .readText path ih
  | isFile path _ ih => exact .isFile path ih
  | list path _ ih => exact .list path ih

theorem attempt (hlooks : action.Looks) :
    (action.attempt : FileAction ε' (Except ε α)).Looks := by
  induction hlooks with
  | done value => exact .done _
  | fail error => exact .done _
  | readText path _ ih => exact .readText path ih
  | isFile path _ ih => exact .isFile path ih
  | list path _ ih => exact .list path ih

theorem ofExcept (result : Except ε α) : (FileAction.ofExcept result).Looks := by
  cases result with
  | ok value => exact .done value
  | error error => exact .fail error

theorem mapError (hlooks : action.Looks) (f : ε → ε') : (action.mapError f).Looks :=
  hlooks.attempt.bind fun _ => ofExcept _

end Looks

variable {action : FileAction ε α} {f : α → FileAction ε β} {top after : Entry} {error : ε}

theorem run_bind_eq_error :
    (action >>= f).run top = (.error error, after) ↔
      action.run top = (.error error, after) ∨
        ∃ value middle, action.run top = (.ok value, middle) ∧
          (f value).run middle = (.error error, after) := by
  constructor
  · intro hrun
    rw [run_bind] at hrun
    cases hfirst : action.run top with
    | mk result middle =>
        rw [hfirst] at hrun
        cases result with
        | ok value => exact Or.inr ⟨value, middle, rfl, hrun⟩
        | error cause =>
            cases hrun
            exact Or.inl rfl
  · rintro (hfirst | ⟨value, middle, hfirst, hrest⟩)
    · rw [run_bind, hfirst]
    · rw [run_bind_of_ok hfirst, hrest]

theorem run_bind_of_error (hrun : action.run top = (.error error, after))
    (f : α → FileAction ε β) : (action >>= f).run top = (.error error, after) :=
  run_bind_eq_error.mpr (Or.inl hrun)

theorem run_bind_pure_eq_error {f : α → β} :
    (action >>= fun value => pure (f value)).run top = (.error error, after) ↔
      action.run top = (.error error, after) := by
  rw [run_bind_eq_error, or_iff_left]
  rintro ⟨value, middle, -, hpure⟩
  cases hpure

theorem Looks.bind_eq_error (hlooks : action.Looks)
    (hrun : (action >>= f).run top = (.error error, after)) :
    after = top ∨
      ∃ value, action.run top = (.ok value, top) ∧ (f value).run top = (.error error, after) := by
  rcases run_bind_eq_error.mp hrun with hfirst | ⟨value, middle, hfirst, hrest⟩
  · exact Or.inl (hlooks.folder_eq hfirst)
  · obtain rfl := hlooks.folder_eq hfirst
    exact Or.inr ⟨value, hfirst, hrest⟩

theorem Looks.answer_bind {other : Entry} (hlooks : action.Looks)
    (hanswer : (action.run other).1 = (action.run top).1)
    (hnext : ∀ value, action.run top = (.ok value, top) →
      ((f value).run other).1 = ((f value).run top).1) :
    ((action >>= f).run other).1 = ((action >>= f).run top).1 := by
  rw [run_bind, run_bind]
  cases hrun : action.run top with
  | mk result middle =>
      cases hrun' : action.run other with
      | mk result' middle' =>
          obtain rfl := hlooks.folder_eq hrun
          obtain rfl := hlooks.folder_eq hrun'
          rw [hrun, hrun'] at hanswer
          obtain rfl : result' = result := hanswer
          cases result' with
          | ok value => exact hnext value hrun
          | error error => rfl

theorem Looks.leaves_bind (hlooks : action.Looks)
    (hnext : ∀ value, action.run top = (.ok value, top) → ((f value).run top).2 = top) :
    ((action >>= f).run top).2 = top := by
  rw [run_bind]
  cases hrun : action.run top with
  | mk result middle =>
      obtain rfl := hlooks.folder_eq hrun
      cases result with
      | ok value => exact hnext value hrun
      | error error => rfl

theorem leaves_bind_pure {f : α → β} :
    ((action >>= fun value => pure (f value)).run top).2 = (action.run top).2 := by
  rw [run_bind]
  cases hrun : action.run top with
  | mk result middle => cases result <;> rfl

theorem run_mapError_eq_error {f : ε → ε'} {error : ε'} :
    (action.mapError f).run top = (.error error, after) ↔
      ∃ cause, action.run top = (.error cause, after) ∧ f cause = error := by
  rw [run_mapError]
  cases hrun : action.run top with
  | mk result middle =>
      cases result with
      | ok value =>
          change (Except.ok value, middle) = _ ↔ _
          simp only [Prod.mk.injEq, reduceCtorEq, false_and, exists_false]
      | error found =>
          change (Except.error (f found), middle) = _ ↔ _
          simp only [Prod.mk.injEq, Except.error.injEq]
          constructor
          · rintro ⟨rfl, rfl⟩
            exact ⟨found, ⟨rfl, rfl⟩, rfl⟩
          · rintro ⟨cause, ⟨rfl, rfl⟩, rfl⟩
            exact ⟨rfl, rfl⟩

/-- Whether something that holds of a folder holds after a program as well, be it that this
succeeds or not. -/
def Preserves (P : Entry → Prop) (action : FileAction ε α) : Prop :=
  ∀ top, P top → P (action.run top).2

variable {P : Entry → Prop}

theorem Looks.preserves (hlooks : action.Looks) : action.Preserves P := by
  intro top htop
  rw [hlooks.run]
  exact htop

theorem Preserves.bind (haction : action.Preserves P) (hnext : ∀ value, (f value).Preserves P) :
    (action >>= f).Preserves P := by
  intro top htop
  have hfirst := haction top htop
  rw [run_bind]
  cases hrun : action.run top with
  | mk result middle =>
      rw [hrun] at hfirst
      cases result with
      | ok value => exact hnext value middle hfirst
      | error cause => exact hfirst

/-- Whether what holds of programs holds of every program that goes on from one of them with
others. -/
structure IsClosed (Q : {α : Type} → FileAction ε α → Prop) : Prop where
  done : ∀ {α : Type} (value : α), Q (.done value)
  fail : ∀ {α : Type} (error : ε), Q (.fail error : FileAction ε α)
  bind : ∀ {α β : Type} {action : FileAction ε α} {f : α → FileAction ε β},
    Q action → (∀ value, Q (f value)) → Q (action >>= f)

theorem IsClosed.ofExcept {Q : {α : Type} → FileAction ε α → Prop} (hclosed : IsClosed Q)
    (result : Except ε α) : Q (FileAction.ofExcept result) := by
  cases result with
  | ok value => exact hclosed.done value
  | error error => exact hclosed.fail error

theorem isClosed_preserves (P : Entry → Prop) :
    IsClosed fun {α} (action : FileAction ε α) => action.Preserves P :=
  ⟨fun value => (Looks.done value).preserves, fun error => (Looks.fail error).preserves,
    Preserves.bind⟩

/-- Whether something that holds of a folder still holds when a program has failed in it. -/
def KeepsOnError (P : Entry → Prop) (action : FileAction ε α) : Prop :=
  ∀ top error after, P top → action.run top = (.error error, after) → P after

theorem Looks.keepsOnError (hlooks : action.Looks) : action.KeepsOnError P := by
  intro top error after htop hrun
  rw [hlooks.folder_eq hrun]
  exact htop

theorem Looks.bind_keepsOnError (hlooks : action.Looks)
    (hnext : ∀ value, (f value).KeepsOnError P) : (action >>= f).KeepsOnError P := by
  intro top error after htop hrun
  rcases hlooks.bind_eq_error hrun with rfl | ⟨value, -, hrest⟩
  · exact htop
  · exact hnext value top error after htop hrest

theorem KeepsOnError.bind_pure (hkeeps : action.KeepsOnError P) (f : α → β) :
    (action >>= fun value => pure (f value)).KeepsOnError P :=
  fun top error after htop hrun => hkeeps top error after htop (run_bind_pure_eq_error.mp hrun)

end FileAction

end Gamebook
