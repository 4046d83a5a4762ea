import Gamebook.Files.Entry
import Gamebook.Files.Lemmas
import Gamebook.Files.Path

namespace Gamebook

theorem Dict.mem_of_lookup {α : Type} {key : String} {value : α} {entries : List (String × α)}
    (hlook : lookup key entries = some value) : (key, value) ∈ entries := by
  induction entries with
  | nil => cases hlook
  | cons entry entries ih =>
      rw [lookup] at hlook
      split at hlook
      · rename_i hkey
        cases hlook
        rw [← hkey]
        exact List.mem_cons_self ..
      · exact List.mem_cons_of_mem _ (ih hlook)

namespace Entry

variable {top entry inner written : Entry} {base path target : List String} {name : String}
  {content : Content} {entries : List (String × Entry)}

theorem walk_cons_eq_ok :
    top.walk (name :: path) = .ok entry ↔
      ∃ entries inner, top = .folder entries ∧ isTooLong name = false ∧
        Dict.lookup name entries = some inner ∧ inner.walk path = .ok entry := by
  cases top with
  | file held => simp [walk]
  | folder entries =>
      rw [walk]
      cases hlong : isTooLong name with
      | true => simp
      | false => cases hlook : Dict.lookup name entries <;> simp [hlook]

theorem walk_append_eq_ok :
    top.walk (base ++ path) = .ok entry ↔
      ∃ middle, top.walk base = .ok middle ∧ middle.walk path = .ok entry := by
  induction base generalizing top with
  | nil => simp [walk]
  | cons name base ih =>
      rw [List.cons_append, walk_cons_eq_ok]
      simp only [ih, walk_cons_eq_ok]
      constructor
      · rintro ⟨entries, inner, rfl, hshort, hlook, middle, hbase, hpath⟩
        exact ⟨middle, ⟨entries, inner, rfl, hshort, hlook, hbase⟩, hpath⟩
      · rintro ⟨middle, ⟨entries, inner, rfl, hshort, hlook, hbase⟩, hpath⟩
        exact ⟨entries, inner, rfl, hshort, hlook, middle, hbase, hpath⟩

theorem walk_append (hbase : top.walk base = .ok entry) :
    top.walk (base ++ path) = entry.walk path := by
  induction base generalizing top with
  | nil =>
      cases hbase
      rfl
  | cons name base ih =>
      obtain ⟨entries, inner, rfl, hshort, hlook, hinner⟩ := walk_cons_eq_ok.mp hbase
      rw [List.cons_append, walk, if_neg (Bool.eq_false_iff.mp hshort)]
      simp only [hlook]
      exact ih hinner

theorem contents_append (hbase : top.walk base = .ok entry) :
    top.contents (base ++ path) = entry.contents path := by
  rw [contents, walk_append hbase, contents]

theorem walk_of_contents (hthere : top.contents path = .ok content) :
    top.walk path = .ok (.file content) := by
  rw [contents] at hthere
  split at hthere
  · rename_i held hwalk
    cases hthere
    exact hwalk
  · cases hthere
  · cases hthere

theorem exists_folder_of_contents (hthere : top.contents (base ++ name :: path) = .ok content) :
    ∃ entries, top.walk base = .ok (.folder entries) := by
  obtain ⟨middle, hbase, hrest⟩ := walk_append_eq_ok.mp (walk_of_contents hthere)
  obtain ⟨entries, inner, rfl, -⟩ := walk_cons_eq_ok.mp hrest
  exact ⟨entries, hbase⟩

theorem list_append (hbase : top.walk base = .ok entry) :
    top.list (base ++ path) = entry.list path := by
  rw [list, walk_append hbase, list]

theorem exists_list_of_contents (hthere : top.contents (base ++ name :: path) = .ok content) :
    ∃ names, top.list base = .ok names ∧ name ∈ names := by
  obtain ⟨middle, hbase, hrest⟩ := walk_append_eq_ok.mp (walk_of_contents hthere)
  obtain ⟨entries, inner, rfl, -, hlook, -⟩ := walk_cons_eq_ok.mp hrest
  refine ⟨entries.map (·.1), ?_, List.mem_map_of_mem (Dict.mem_of_lookup hlook)⟩
  rw [list, hbase]

/-- Whether everything in a folder has a name that files can have. -/
def HasPlainNames (top : Entry) : Prop :=
  ∀ path names, top.list path = .ok names → ∀ name ∈ names, Path.IsPlain name

theorem hasPlainNames_file (content : Content) : (file content).HasPlainNames := by
  intro path names hnames
  cases path <;> cases hnames

theorem list_eq_ok {names : List String} :
    top.list path = .ok names ↔
      ∃ entries, top.walk path = .ok (.folder entries) ∧ entries.map (·.1) = names := by
  rw [list]
  cases top.walk path with
  | ok found => cases found <;> simp
  | error fault => simp

theorem hasPlainNames_folder
    (hentries : ∀ entry ∈ entries, Path.IsPlain entry.1 ∧ entry.2.HasPlainNames) :
    (folder entries).HasPlainNames := by
  intro path names hnames name hname
  obtain ⟨listed, hwalk, rfl⟩ := list_eq_ok.mp hnames
  cases path with
  | nil =>
      cases hwalk
      obtain ⟨entry, hentry, rfl⟩ := List.mem_map.mp hname
      exact (hentries entry hentry).1
  | cons first path =>
      obtain ⟨_, inner, ⟨⟩, -, hlook, hinner⟩ := walk_cons_eq_ok.mp hwalk
      have hplain := (hentries (first, inner) (Dict.mem_of_lookup hlook)).2
      exact hplain path _ (list_eq_ok.mpr ⟨listed, hinner, rfl⟩) name hname

/-- An entry in which another one stands where a path leads to. -/
def replace : Entry → List String → Entry → Entry
  | _, [], inner => inner
  | .file content, _ :: _, _ => .file content
  | .folder entries, name :: path, inner =>
    match Dict.lookup name entries with
    | some entry => .folder (Dict.put name (entry.replace path inner) entries)
    | none => .folder entries

theorem walk_replace (hbase : top.walk base = .ok entry) (inner : Entry) :
    (top.replace base inner).walk base = .ok inner := by
  induction base generalizing top with
  | nil => rw [replace, walk]
  | cons name base ih =>
      obtain ⟨entries, held, rfl, hshort, hlook, hheld⟩ := walk_cons_eq_ok.mp hbase
      simp only [replace, hlook]
      refine walk_cons_eq_ok.mpr ⟨_, _, rfl, hshort, ?_, ih hheld⟩
      rw [Dict.lookup_put, if_pos rfl]

theorem makeFolders_append (hbase : top.walk base = .ok entry) :
    makeFolders (base ++ path) top =
      ((makeFolders path entry).1, top.replace base (makeFolders path entry).2) := by
  induction base generalizing top with
  | nil =>
      cases hbase
      rw [List.nil_append, replace]
  | cons name base ih =>
      obtain ⟨entries, held, rfl, hshort, hlook, hheld⟩ := walk_cons_eq_ok.mp hbase
      rw [List.cons_append, makeFolders, if_neg (Bool.eq_false_iff.mp hshort)]
      simp only [hlook, Option.getD_some, ih hheld, replace]

theorem writeFile_append (hbase : top.walk base = .ok entry) :
    writeFile content (base ++ path) top =
      (writeFile content path entry).map (top.replace base) := by
  induction base generalizing top with
  | nil =>
      cases hbase
      rw [List.nil_append]
      cases writeFile content path entry <;> simp [Except.map, replace]
  | cons name base ih =>
      obtain ⟨entries, held, rfl, hshort, hlook, hheld⟩ := walk_cons_eq_ok.mp hbase
      rw [List.cons_append, writeFile, if_neg (Bool.eq_false_iff.mp hshort)]
      simp only [hlook, ih hheld]
      cases writeFile content path entry with
      | ok below => simp [Except.map, bind, Except.bind, pure, Except.pure, replace, hlook]
      | error fault => rfl

theorem readText_eq_missing :
    top.readText path = .error .missing ↔ top.walk path = .error .missing := by
  rw [readText, contents]
  cases top.walk path with
  | ok found =>
      cases found with
      | file held => cases held <;> simp
      | folder entries => simp
  | error fault => simp

theorem walk_singleton_eq_missing :
    (folder entries).walk [name] = .error .missing ↔
      isTooLong name = false ∧ Dict.lookup name entries = none := by
  rw [walk]
  cases hlong : isTooLong name with
  | true => simp
  | false => cases hlook : Dict.lookup name entries <;> simp [walk]

theorem exists_writeFile_of_missing (hbase : top.walk base = .ok (.folder entries))
    (hmissing : top.walk (base ++ [name]) = .error .missing) (content : Content) :
    ∃ folders written, makeFolders base top = (none, folders) ∧
      writeFile content (base ++ [name]) folders = .ok written := by
  rw [walk_append hbase, walk_singleton_eq_missing] at hmissing
  obtain ⟨hshort, hlook⟩ := hmissing
  have hmade : makeFolders (base ++ []) top = (none, top.replace base (.folder entries)) := by
    rw [makeFolders_append hbase, makeFolders]
  have hwritten : writeFile content [name] (.folder entries) =
      .ok (.folder (Dict.put name (.file content) entries)) := by
    rw [writeFile, if_neg (Bool.eq_false_iff.mp hshort)]
    simp only [hlook, if_true]
  have hthere : writeFile content (base ++ [name]) (top.replace base (.folder entries)) = _ :=
    writeFile_append (walk_replace hbase _)
  rw [hwritten] at hthere
  rw [List.append_nil] at hmade
  exact ⟨_, _, hmade, hthere⟩

theorem lookup_makeFolders {other : String} (hne : name ≠ other) :
    ∃ made, (makeFolders (name :: path) (.folder entries)).2 = .folder made ∧
      Dict.lookup other made = Dict.lookup other entries := by
  rw [makeFolders]
  split
  · exact ⟨entries, rfl, rfl⟩
  · refine ⟨_, rfl, ?_⟩
    rw [Dict.lookup_put, if_neg hne]

theorem writeFile_cons_eq_ok :
    writeFile content (name :: path) top = .ok written ↔
      ∃ entries inner, top = .folder entries ∧ isTooLong name = false ∧
        written = .folder (Dict.put name inner entries) ∧
        ((∃ held, Dict.lookup name entries = some held ∧ writeFile content path held = .ok inner) ∨
          Dict.lookup name entries = none ∧ path = [] ∧ inner = .file content) := by
  cases top with
  | file held => simp [writeFile]
  | folder entries =>
      rw [writeFile]
      cases hlong : isTooLong name with
      | true => simp
      | false =>
          cases hlook : Dict.lookup name entries with
          | some held =>
              cases hinner : writeFile content path held <;>
                simp [hlook, hinner, bind, Except.bind, pure, Except.pure, eq_comm]
          | none => by_cases hlast : path = [] <;> simp [hlook, hlast, eq_comm]

theorem lookup_writeFile {other : String} (hne : name ≠ other)
    (hwrite : writeFile content (name :: path) (.folder entries) = .ok written) :
    ∃ made, written = .folder made ∧ Dict.lookup other made = Dict.lookup other entries := by
  obtain ⟨_, inner, ⟨⟩, -, rfl, -⟩ := writeFile_cons_eq_ok.mp hwrite
  refine ⟨_, rfl, ?_⟩
  rw [Dict.lookup_put, if_neg hne]

/-- Whether a path leads to a folder, if it leads anywhere, whose names are of some kind and stand
in order. -/
def Lists (allowed : String → Prop) : List String → Entry → Prop
  | _, .file _ => False
  | [], .folder entries =>
    (entries.Pairwise fun a b => a.1 < b.1) ∧ ∀ entry ∈ entries, allowed entry.1
  | name :: path, .folder entries =>
    ∀ inner, Dict.lookup name entries = some inner → Lists allowed path inner

variable {allowed : String → Prop}

theorem lists_empty (allowed : String → Prop) (path : List String) :
    Lists allowed path (.folder []) := by
  cases path with
  | nil => exact ⟨.nil, by simp⟩
  | cons name path =>
      intro inner hlook
      cases hlook

theorem lists_put (hpath : Lists allowed path (.folder entries)) {inner : Entry}
    (hallowed : path = [] → allowed name)
    (hinner : ∀ rest, path = name :: rest → Lists allowed rest inner) :
    Lists allowed path (.folder (Dict.put name inner entries)) := by
  cases path with
  | nil =>
      refine ⟨Dict.put_sorted name inner hpath.1, ?_⟩
      intro entry hentry
      rcases Dict.mem_put hentry with rfl | hentry
      · exact hallowed rfl
      · exact hpath.2 entry hentry
  | cons first path =>
      intro held hlook
      rw [Dict.lookup_put] at hlook
      split at hlook
      · rename_i hfirst
        cases hlook
        exact hinner path (by rw [hfirst])
      · exact hpath held hlook

theorem Lists.makeFolders (hpath : Lists allowed path entry)
    (hallowed : ∀ name rest, target = path ++ name :: rest → allowed name) :
    Lists allowed path (makeFolders target entry).2 := by
  induction target generalizing path entry with
  | nil => cases entry <;> exact hpath
  | cons name target ih =>
      cases entry with
      | file held => exact hpath
      | folder entries =>
          rw [Entry.makeFolders]
          split
          · exact hpath
          · apply lists_put hpath
            · rintro rfl
              exact hallowed name target rfl
            · rintro rest rfl
              apply ih
              · cases hlook : Dict.lookup name entries with
                | some inner => exact hpath inner hlook
                | none => exact lists_empty allowed rest
              · rintro other others rfl
                exact hallowed other others rfl

theorem Lists.writeFile (hpath : Lists allowed path entry)
    (hallowed : ∀ name rest, target = path ++ name :: rest → allowed name)
    (hapart : ¬target <+: path) (hwrite : writeFile content target entry = .ok written) :
    Lists allowed path written := by
  induction target generalizing path entry written with
  | nil => exact absurd List.nil_prefix hapart
  | cons name target ih =>
      obtain ⟨entries, inner, rfl, -, rfl, hinner⟩ := writeFile_cons_eq_ok.mp hwrite
      apply lists_put hpath
      · rintro rfl
        exact hallowed name target rfl
      · rintro rest rfl
        rcases hinner with ⟨held, hlook, hheld⟩ | ⟨-, rfl, -⟩
        · refine ih (hpath held hlook) ?_ (mt (List.prefix_cons_inj name).mpr hapart) hheld
          rintro other others rfl
          exact hallowed other others rfl
        · exact absurd ⟨rest, rfl⟩ hapart

theorem list_of_lists (hpath : Lists allowed path top)
    (hshort : ∀ name ∈ path, isTooLong name = false) :
    top.list path = .error .missing ∨
      ∃ names, top.list path = .ok names ∧ names.Nodup ∧ ∀ name ∈ names, allowed name := by
  induction path generalizing top with
  | nil =>
      cases top with
      | file held => cases hpath
      | folder entries =>
          right
          refine ⟨entries.map (·.1), rfl, List.pairwise_map.mpr (hpath.1.imp String.ne_of_lt), ?_⟩
          intro name hname
          obtain ⟨entry, hentry, rfl⟩ := List.mem_map.mp hname
          exact hpath.2 entry hentry
  | cons name path ih =>
      cases top with
      | file held => cases hpath
      | folder entries =>
          rw [list, walk, if_neg (Bool.eq_false_iff.mp (hshort name (List.mem_cons_self ..)))]
          cases hlook : Dict.lookup name entries with
          | none => exact Or.inl rfl
          | some inner =>
              exact ih (hpath inner hlook) fun other hother =>
                hshort other (List.mem_cons_of_mem name hother)

end Entry

end Gamebook
