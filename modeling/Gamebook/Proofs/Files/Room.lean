import Gamebook.Proofs.Files.Folders

/-!
Room for files. There is room at a path if a file can be written there once its folders are made
(`exists_writeFile_of_hasRoom`): nothing on the way is a file, there is no folder at its end, and no
name is too long. An empty folder has room everywhere, and room stays when folders are made and
files are written, unless one of the paths leads through the other (`HasRoom.makeFolders`,
`HasRoom.writeFile`).
-/

namespace Gamebook.Entry

/-- Whether a file can be written where a path leads to, be it that there is one or not. -/
def HasRoom : List String → Entry → Prop
  | [], .file _ => True
  | [], .folder _ => False
  | _ :: _, .file _ => False
  | name :: path, .folder entries =>
    isTooLong name = false ∧
      match Dict.lookup name entries with
      | some inner => HasRoom path inner
      | none => ∀ other ∈ path, isTooLong other = false

variable {top inner written : Entry} {path target base : List String} {name : String}
  {content : Content} {entries : List (String × Entry)}

theorem hasRoom_empty (hpath : path ≠ []) (hshort : ∀ name ∈ path, isTooLong name = false) :
    HasRoom path (.folder []) := by
  cases path with
  | nil => exact absurd rfl hpath
  | cons name path =>
      exact ⟨hshort name (List.mem_cons_self ..), fun other hother =>
        hshort other (List.mem_cons_of_mem name hother)⟩

theorem hasRoom_put_self (hshort : isTooLong name = false) (hinner : HasRoom path inner) :
    HasRoom (name :: path) (.folder (Dict.put name inner entries)) := by
  refine ⟨hshort, ?_⟩
  rw [Dict.lookup_put, if_pos rfl]
  exact hinner

theorem HasRoom.put_of_ne {other : String} (hne : other ≠ name)
    (hroom : HasRoom (name :: path) (.folder entries)) :
    HasRoom (name :: path) (.folder (Dict.put other inner entries)) := by
  refine ⟨hroom.1, ?_⟩
  rw [Dict.lookup_put, if_neg hne]
  exact hroom.2

theorem HasRoom.walk_cases (hroom : HasRoom path top) :
    (∃ content, top.walk path = .ok (.file content)) ∨ top.walk path = .error .missing := by
  induction path generalizing top with
  | nil =>
      cases top with
      | file content => exact Or.inl ⟨content, rfl⟩
      | folder entries => cases hroom
  | cons name path ih =>
      cases top with
      | file content => cases hroom
      | folder entries =>
          obtain ⟨hshort, hbelow⟩ := hroom
          rw [walk, if_neg (Bool.eq_false_iff.mp hshort)]
          cases hlook : Dict.lookup name entries with
          | none => exact Or.inr rfl
          | some inner =>
              rw [hlook] at hbelow
              exact ih hbelow

theorem HasRoom.makeFolders (hroom : HasRoom path top) (hapart : ¬path <+: target) :
    HasRoom path (makeFolders target top).2 := by
  induction target generalizing path top with
  | nil => cases top <;> exact hroom
  | cons name target ih =>
      cases top with
      | file content => exact hroom
      | folder entries =>
          cases path with
          | nil => cases hroom
          | cons first path =>
              rw [Entry.makeFolders]
              split
              · exact hroom
              · by_cases hfirst : name = first
                · subst hfirst
                  obtain ⟨hshort, hbelow⟩ := hroom
                  have hinner : ¬path <+: target := mt (List.prefix_cons_inj name).mpr hapart
                  refine hasRoom_put_self hshort (ih ?_ hinner)
                  cases hlook : Dict.lookup name entries with
                  | some inner =>
                      rw [hlook] at hbelow
                      exact hbelow
                  | none =>
                      rw [hlook] at hbelow
                      refine hasRoom_empty ?_ hbelow
                      rintro rfl
                      exact hinner List.nil_prefix
                · exact hroom.put_of_ne hfirst

theorem HasRoom.writeFile (hroom : HasRoom path top)
    (hapart : path <+: target → path = target) (hapart' : target <+: path → path = target)
    (hwrite : writeFile content target top = .ok written) : HasRoom path written := by
  induction target generalizing path top written with
  | nil =>
      obtain rfl := hapart' List.nil_prefix
      cases top with
      | file held =>
          cases hwrite
          trivial
      | folder entries => cases hroom
  | cons name target ih =>
      obtain ⟨entries, inner, rfl, hshort, rfl, hinner⟩ := writeFile_cons_eq_ok.mp hwrite
      cases path with
      | nil => cases hroom
      | cons first path =>
          by_cases hfirst : name = first
          · subst hfirst
            have hbelow : path <+: target → path = target := fun hprefix =>
              (List.cons.inj (hapart ((List.prefix_cons_inj name).mpr hprefix))).2
            have hbelow' : target <+: path → path = target := fun hprefix =>
              (List.cons.inj (hapart' ((List.prefix_cons_inj name).mpr hprefix))).2
            apply hasRoom_put_self hshort
            rcases hinner with ⟨held, hlook, hheld⟩ | ⟨-, rfl, rfl⟩
            · have hroom := hroom.2
              rw [hlook] at hroom
              exact ih hroom hbelow hbelow' hheld
            · obtain rfl := hbelow' List.nil_prefix
              trivial
          · exact hroom.put_of_ne hfirst

theorem exists_writeFile_of_hasRoom (hroom : HasRoom (base ++ [name]) top) (content : Content) :
    ∃ folders written, makeFolders base top = (none, folders) ∧
      writeFile content (base ++ [name]) folders = .ok written := by
  induction base generalizing top with
  | nil =>
      cases top with
      | file held => cases hroom
      | folder entries =>
          obtain ⟨hshort, hbelow⟩ := hroom
          refine ⟨_, .folder (Dict.put name (.file content) entries), rfl, ?_⟩
          refine writeFile_cons_eq_ok.mpr ⟨entries, _, rfl, hshort, rfl, ?_⟩
          cases hlook : Dict.lookup name entries with
          | none => exact Or.inr ⟨rfl, rfl, rfl⟩
          | some held =>
              rw [hlook] at hbelow
              cases held with
              | file held => exact Or.inl ⟨_, rfl, rfl⟩
              | folder inner => cases hbelow
  | cons first base ih =>
      cases top with
      | file held => cases hroom
      | folder entries =>
          obtain ⟨hshort, hbelow⟩ := hroom
          have hinner : HasRoom (base ++ [name])
              ((Dict.lookup first entries).getD (.folder [])) := by
            cases hlook : Dict.lookup first entries with
            | none =>
                rw [hlook] at hbelow
                exact hasRoom_empty (by simp) hbelow
            | some inner =>
                rw [hlook] at hbelow
                exact hbelow
          obtain ⟨folders, below, hmade, hwritten⟩ := ih hinner
          refine ⟨.folder (Dict.put first folders entries), .folder (Dict.put first below
            (Dict.put first folders entries)), ?_, ?_⟩
          · rw [Entry.makeFolders, if_neg (Bool.eq_false_iff.mp hshort), hmade]
          · refine writeFile_cons_eq_ok.mpr
              ⟨_, below, rfl, hshort, rfl, Or.inl ⟨folders, ?_, hwritten⟩⟩
            rw [Dict.lookup_put, if_pos rfl]

theorem all_short_of_walk (hwalk : top.walk path = .ok inner) :
    ∀ name ∈ path, isTooLong name = false := by
  induction path generalizing top with
  | nil => simp
  | cons first path ih =>
      obtain ⟨entries, below, rfl, hshort, -, hbelow⟩ := walk_cons_eq_ok.mp hwalk
      intro name hname
      rcases List.mem_cons.mp hname with rfl | hname
      · exact hshort
      · exact ih hbelow name hname

end Gamebook.Entry
