import Gamebook.Files.Action
import Gamebook.Files.Lemmas

namespace Gamebook

namespace FileAction

variable {ε ε' α β : Type}

@[simp] theorem run_ofExcept (result : Except ε α) (top : Entry) :
    (ofExcept result).run top = (result, top) := by
  cases result <;> rfl

@[simp] theorem run_mapError (f : ε → ε') (action : FileAction ε α) (top : Entry) :
    (action.mapError f).run top = ((action.run top).1.mapError f, (action.run top).2) := by
  have hbind := run_bind action.attempt (fun result => ofExcept (result.mapError f)) top
  rw [run_attempt] at hbind
  exact hbind.trans (run_ofExcept _ _)

theorem run_pure_eq_ok {value result : α} {top after : Entry} :
    (pure value : FileAction ε α).run top = (.ok result, after) ↔ value = result ∧ top = after := by
  rw [run_pure, Prod.mk.injEq, Except.ok.injEq]

theorem run_eq_of_fst {action : FileAction ε α} {top : Entry} {value : α}
    (hvalue : (action.run top).1 = .ok value) :
    action.run top = (.ok value, (action.run top).2) :=
  Prod.ext hvalue rfl

theorem run_bind_of_ok {action : FileAction ε α} {top middle : Entry} {value : α}
    (hrun : action.run top = (.ok value, middle)) (f : α → FileAction ε β) :
    (action >>= f).run top = (f value).run middle := by
  rw [run_bind, hrun]

theorem run_bind_eq_ok {action : FileAction ε α} {f : α → FileAction ε β} {top after : Entry}
    {result : β} :
    (action >>= f).run top = (.ok result, after) ↔
      ∃ value middle, action.run top = (.ok value, middle) ∧
        (f value).run middle = (.ok result, after) := by
  constructor
  · intro hrun
    rw [run_bind] at hrun
    split at hrun
    · rename_i value middle hfirst
      exact ⟨value, middle, hfirst, hrun⟩
    · cases hrun
  · rintro ⟨value, middle, hfirst, hrest⟩
    rw [run_bind_of_ok hfirst, hrest]

theorem run_mapError_eq_ok {f : ε → ε'} {action : FileAction ε α} {top after : Entry} {value : α} :
    (action.mapError f).run top = (.ok value, after) ↔ action.run top = (.ok value, after) := by
  rw [run_mapError]
  cases hrun : action.run top with
  | mk result middle =>
      cases result with
      | ok found =>
          change (Except.ok found, middle) = _ ↔ _
          simp only [Prod.mk.injEq, Except.ok.injEq]
      | error e =>
          change (Except.error (f e), middle) = _ ↔ _
          simp only [Prod.mk.injEq, reduceCtorEq, false_and]

end FileAction

namespace Entry

theorem readText_eq_ok {top : Entry} {path : List String} {s : String} :
    top.readText path = .ok s ↔ top.contents path = .ok (.text s) := by
  rw [readText]
  split <;> simp_all

theorem makeFolders_of_contents {top : Entry} {path : List String} {name : String}
    {content : Content} (hthere : top.contents (path ++ [name]) = .ok content) :
    (makeFolders path top).1 = none := by
  induction path generalizing top with
  | nil =>
      cases top with
      | file held => cases hthere
      | folder entries => rfl
  | cons first path ih =>
      cases top with
      | file held => cases hthere
      | folder entries =>
          rw [List.cons_append, contents_folder_cons] at hthere
          rw [makeFolders]
          split at hthere
          · cases hthere
          · rename_i hshort
            rw [if_neg hshort]
            cases hlook : Dict.lookup first entries with
            | none =>
                rw [hlook] at hthere
                cases hthere
            | some entry =>
                rw [hlook] at hthere
                exact ih hthere

theorem exists_writeFile (content : Content) {top : Entry} {path : List String} {held : Content}
    (hthere : top.contents path = .ok held) :
    ∃ written, writeFile content path top = .ok written := by
  induction path generalizing top with
  | nil =>
      cases top with
      | file held => exact ⟨_, rfl⟩
      | folder entries => cases hthere
  | cons first path ih =>
      cases top with
      | file held => cases hthere
      | folder entries =>
          rw [contents_folder_cons] at hthere
          rw [writeFile]
          split at hthere
          · cases hthere
          · rename_i hshort
            rw [if_neg hshort]
            cases hlook : Dict.lookup first entries with
            | none =>
                rw [hlook] at hthere
                cases hthere
            | some entry =>
                rw [hlook] at hthere
                obtain ⟨inner, hinner⟩ := ih hthere
                simp only [hinner]
                exact ⟨_, rfl⟩

end Entry

end Gamebook
