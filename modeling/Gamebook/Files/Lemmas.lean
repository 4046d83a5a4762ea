import Gamebook.Files.Entry

namespace Gamebook.Entry

theorem contents_file_cons {content : Content} {name : String} {path : List String} :
    (file content).contents (name :: path) = .error .notFolder := rfl

theorem contents_folder_cons {entries : List (String × Entry)} {name : String}
    {path : List String} :
    (folder entries).contents (name :: path) =
      if isTooLong name then .error .nameTooLong
      else
        match Dict.lookup name entries with
        | some entry => entry.contents path
        | none => .error .missing := by
  rw [contents, walk]
  by_cases hlong : isTooLong name
  · simp [hlong]
  · rw [if_neg hlong, if_neg hlong]
    cases Dict.lookup name entries <;> rfl

theorem contents_emptyFolder {path : List String} {content : Content} :
    (folder []).contents path ≠ .ok content := by
  cases path with
  | nil => simp [contents, walk]
  | cons name path =>
    rw [contents_folder_cons]
    split <;> simp [Dict.lookup]

theorem contents_makeFolders (path other : List String) (top : Entry) (content : Content) :
    (makeFolders path top).2.contents other = .ok content ↔ top.contents other = .ok content := by
  induction path generalizing top other with
  | nil => cases top <;> rfl
  | cons name path ih =>
    cases top with
    | file held => rfl
    | folder entries =>
      rw [makeFolders]
      split
      · rfl
      · cases other with
        | nil => simp [contents, walk]
        | cons first rest =>
          rw [contents_folder_cons, contents_folder_cons, Dict.lookup_put]
          split
          · rfl
          · by_cases hname : name = first
            · subst hname
              rw [if_pos rfl]
              simp only [ih]
              cases hlook : Dict.lookup name entries with
              | some entry => simp
              | none => simp [contents_emptyFolder]
            · rw [if_neg hname]

theorem contents_writeFile_self {content : Content} {path : List String} {top written : Entry}
    (h : writeFile content path top = .ok written) : written.contents path = .ok content := by
  induction path generalizing top written with
  | nil =>
    cases top with
    | file held => cases h; rfl
    | folder entries => cases h
  | cons name path ih =>
    cases top with
    | file held => cases h
    | folder entries =>
      rw [writeFile] at h
      split at h
      · cases h
      · rename_i hshort
        cases hlook : Dict.lookup name entries with
        | some entry =>
          rw [hlook] at h
          cases hinner : writeFile content path entry with
          | error fault => simp [hinner, bind, Except.bind] at h
          | ok inner =>
            simp only [hinner, bind, Except.bind, pure, Except.pure] at h
            cases h
            rw [contents_folder_cons, if_neg hshort, Dict.lookup_put, if_pos rfl]
            exact ih hinner
        | none =>
          simp only [hlook] at h
          split at h
          · rename_i hpath
            cases h
            rw [contents_folder_cons, if_neg hshort, Dict.lookup_put, if_pos rfl, hpath]
            rfl
          · cases h

theorem contents_writeFile_of_ne {content held : Content} {path other : List String}
    {top written : Entry} (h : writeFile content path top = .ok written) (hne : path ≠ other) :
    written.contents other = .ok held ↔ top.contents other = .ok held := by
  induction path generalizing top written other with
  | nil =>
    cases top with
    | file old =>
      cases h
      cases other with
      | nil => exact absurd rfl hne
      | cons first rest => simp [contents_file_cons]
    | folder entries => cases h
  | cons name path ih =>
    cases top with
    | file old => cases h
    | folder entries =>
      rw [writeFile] at h
      split at h
      · cases h
      · rename_i hshort
        cases hlook : Dict.lookup name entries with
        | some entry =>
          rw [hlook] at h
          cases hinner : writeFile content path entry with
          | error fault => simp [hinner, bind, Except.bind] at h
          | ok inner =>
            simp only [hinner, bind, Except.bind, pure, Except.pure] at h
            cases h
            cases other with
            | nil => simp [contents, walk]
            | cons first rest =>
              rw [contents_folder_cons, contents_folder_cons, Dict.lookup_put]
              split
              · rfl
              · by_cases hname : name = first
                · subst hname
                  rw [if_pos rfl, hlook]
                  exact ih hinner fun heq => hne (heq ▸ rfl)
                · rw [if_neg hname]
        | none =>
          simp only [hlook] at h
          split at h
          · rename_i hpath
            cases h
            cases other with
            | nil => simp [contents, walk]
            | cons first rest =>
              rw [contents_folder_cons, contents_folder_cons, Dict.lookup_put]
              split
              · rfl
              · by_cases hname : name = first
                · subst hname
                  rw [if_pos rfl, hlook]
                  cases rest with
                  | nil => exact absurd (by rw [hpath]) hne
                  | cons second rest => simp [contents_file_cons]
                · rw [if_neg hname]
          · cases h

end Gamebook.Entry
