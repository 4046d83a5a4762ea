import Gamebook.Library.Records
import Gamebook.Proofs.Files.Runs
import Gamebook.Proofs.Json.RoundTrip

namespace Gamebook

/-- Whether the file of a path holds a value: its text reads as this value. -/
def Entry.Holds {α : Type} (top : Entry) (codec : Json.Codec α) (path : String) (value : α) :
    Prop :=
  ∃ text, top.contents (Path.names path) = .ok (.text text) ∧ codec.read text = .ok value

theorem Entry.Holds.unique {α : Type} {top : Entry} {codec : Json.Codec α} {path : String}
    {value other : α} (hvalue : top.Holds codec path value) (hother : top.Holds codec path other) :
    value = other := by
  obtain ⟨text, hcontents, hread⟩ := hvalue
  obtain ⟨text', hcontents', hread'⟩ := hother
  cases hcontents.symm.trans hcontents'
  exact Except.ok.inj (hread.symm.trans hread')

/-- What becomes of a folder when one of its files is written: this file holds a new text, and no
other file is changed. -/
structure Entry.Rewritten (top : Entry) (path text : String) (after : Entry) : Prop where
  written : after.contents (Path.names path) = .ok (.text text)
  kept : ∀ other content, Path.names path ≠ other →
    (after.contents other = .ok content ↔ top.contents other = .ok content)

theorem Entry.Rewritten.holds {α : Type} {top after : Entry} {path text other : String}
    {codec : Json.Codec α} {value : α} (hrewritten : top.Rewritten path text after)
    (hother : Path.names path ≠ Path.names other) (hholds : top.Holds codec other value) :
    after.Holds codec other value := by
  obtain ⟨held, hcontents, hread⟩ := hholds
  exact ⟨held, (hrewritten.kept _ _ hother).mpr hcontents, hread⟩

theorem Entry.Rewritten.holds_self {α : Type} {top after : Entry} {path : String}
    {codec : Json.Codec α} {value : α}
    (hrewritten : top.Rewritten path (codec.write value ++ "\n") after)
    (hkeeps : codec.Keeps value) : after.Holds codec path value :=
  ⟨_, hrewritten.written, Json.Codec.read_write_line hkeeps⟩

theorem isPlain_of_isKey {name : String} (hkey : isKey name = true) : Path.IsPlain name := by
  simp only [isKey, ne_eq, Bool.and_eq_true, Bool.not_eq_eq_eq_not, Bool.not_true,
    List.all_eq_true, decide_not] at hkey
  obtain ⟨⟨⟨hblank, hdot⟩, hdots⟩, hchars⟩ := hkey
  refine ⟨?_, ?_, ?_, ?_⟩
  · intro hslash
    simpa using hchars '/' hslash
  · rintro rfl
    cases hblank
  · simpa using hdot
  · simpa using hdots

theorem isKey_replicate {count : Nat} (hcount : count ≠ 0) :
    isKey (String.ofList (List.replicate count 'a')) = true := by
  have hchars : (String.ofList (List.replicate count 'a')).toList = List.replicate count 'a' :=
    String.toList_ofList
  obtain ⟨rest, rfl⟩ := Nat.exists_eq_succ_of_ne_zero hcount
  have hother : ∀ other : String, other.toList.head? ≠ some 'a' →
      String.ofList (List.replicate (rest + 1) 'a') ≠ other := by
    rintro other hhead rfl
    rw [hchars] at hhead
    exact hhead rfl
  have hdot := hother "." (by decide)
  have hdots := hother ".." (by decide)
  have hblank : Text.isBlankChar 'a' = false := by decide
  simp [isKey, Text.isBlank, hchars, hdot, hdots, hblank]

theorem isPlain_json {name : String} (hkey : isKey name = true) :
    Path.IsPlain (name ++ ".json") := by
  have hlong : ∀ other : String, other.toList.length < 5 → name ++ ".json" ≠ other := by
    rintro other hshort rfl
    rw [String.toList_append, List.length_append] at hshort
    exact absurd hshort (by simp)
  refine ⟨?_, hlong "" (by decide), hlong "." (by decide), hlong ".." (by decide)⟩
  rw [String.toList_append, List.mem_append, not_or]
  exact ⟨(isPlain_of_isKey hkey).1, by decide⟩

theorem checkKey_eq_ok {kind : NameKind} {name : String} {top after : Entry} :
    (checkKey kind name).run top = (.ok (), after) ↔ isKey name = true ∧ after = top := by
  rw [checkKey]
  split
  · rename_i hkey
    simp [FileAction.run, hkey, eq_comm]
  · rename_i hkey
    simp [hkey]

theorem run_checkKey_error {kind : NameKind} {name : String} (hname : isKey name = false)
    (top : Entry) : (checkKey kind name).run top = (.error (.invalidKey kind name), top) := by
  rw [checkKey, if_neg (Bool.eq_false_iff.mp hname)]
  rfl

theorem isPlain_name (scope : Visibility) : Path.IsPlain scope.name := by
  refine ⟨?_, ?_, ?_, ?_⟩ <;> cases scope <;> decide

namespace Library

variable (library : Library)

theorem names_sessionsPath :
    Path.names library.sessionsPath = Path.names library.root ++ ["sessions.json"] :=
  Path.names_join ⟨by decide, by decide, by decide, by decide⟩

theorem names_codesPath :
    Path.names library.codesPath = Path.names library.root ++ ["codes.json"] :=
  Path.names_join ⟨by decide, by decide, by decide, by decide⟩

theorem names_storyPath (scope : Visibility) {story : String} (hstory : isKey story = true) :
    Path.names (library.storyPath scope story) =
      Path.names library.root ++ ["stories", scope.name, story, "config.json"] := by
  rw [storyPath, storiesFolder, Path.names_join ⟨by decide, by decide, by decide, by decide⟩,
    Path.names_join (isPlain_of_isKey hstory), Path.names_join (isPlain_name scope),
    Path.names_join ⟨by decide, by decide, by decide, by decide⟩]
  simp

theorem names_savesFolder {player : String} (hplayer : isKey player = true) :
    Path.names (Path.join (Path.join library.root "saves") player) =
      Path.names library.root ++ ["saves", player] := by
  rw [Path.names_join (isPlain_of_isKey hplayer),
    Path.names_join ⟨by decide, by decide, by decide, by decide⟩]
  simp

theorem names_savePath {player story : String} (hplayer : isKey player = true)
    (hstory : isKey story = true) :
    Path.names (library.savePath player story) =
      Path.names library.root ++ ["saves", player, story ++ ".json"] := by
  rw [savePath, Path.names_join (isPlain_json hstory), names_savesFolder library hplayer,
    List.append_assoc]
  rfl

variable {library} {α : Type} {top after : Entry}

theorem readText_eq_some {path text : String} :
    (readText path).run top = (.ok (some text), after) ↔
      top.contents (Path.names path) = .ok (.text text) ∧ after = top := by
  rw [readText, FileAction.run, ← Entry.readText_eq_ok]
  cases top.readText (Path.names path) with
  | ok held => simp [FileAction.run, eq_comm]
  | error fault => cases fault <;> simp [FileAction.run]

theorem readRecord_eq_some {codec : Json.Codec α} {path : String} {value : α} :
    (readRecord codec path).run top = (.ok (some value), after) ↔
      top.Holds codec path value ∧ after = top := by
  rw [readRecord, FileAction.run_bind_eq_ok]
  constructor
  · rintro ⟨found, middle, hfound, hvalue⟩
    cases found with
    | none => cases hvalue
    | some text =>
        obtain ⟨hcontents, rfl⟩ := readText_eq_some.mp hfound
        simp only at hvalue
        cases hread : codec.read text with
        | error error =>
            rw [hread] at hvalue
            cases hvalue
        | ok held =>
            rw [hread] at hvalue
            cases hvalue
            exact ⟨⟨text, hcontents, hread⟩, rfl⟩
  · rintro ⟨⟨text, hcontents, hread⟩, rfl⟩
    refine ⟨some text, after, readText_eq_some.mpr ⟨hcontents, rfl⟩, ?_⟩
    simp only [hread]
    rfl

theorem readTable_of_empty (codec : Json.Codec α) {path : String}
    (hempty : top.contents (Path.names path) = .ok (.text "")) :
    ∃ error, (readRecord (.dict codec) path).run top = (.error (.badRecord path error), top) := by
  obtain ⟨error, hread⟩ : ∃ error, (Json.Codec.dict codec).read "" = .error error := by
    rw [Json.Codec.read, Json.Document.read, Json.Document.build_eq]
    exact ⟨_, rfl⟩
  refine ⟨error, ?_⟩
  rw [readRecord, FileAction.run_bind_of_ok (readText_eq_some.mpr ⟨hempty, rfl⟩)]
  simp only [hread]
  rfl

/-- A table with something in it is read from its file; where there is no file, it is empty. -/
theorem readTable_eq_ok {codec : Json.Codec α} {path : String} {table : Dict α} (hne : table ≠ ∅) :
    (do return (← readRecord (.dict codec) path).getD ∅ : FileAction LibraryError (Dict α)).run top =
        (.ok table, after) ↔
      top.Holds (.dict codec) path table ∧ after = top := by
  rw [FileAction.run_bind_eq_ok]
  constructor
  · rintro ⟨found, middle, hfound, htable⟩
    obtain ⟨rfl, rfl⟩ := FileAction.run_pure_eq_ok.mp htable
    cases found with
    | none => exact absurd rfl hne
    | some held => exact readRecord_eq_some.mp hfound
  · intro hholds
    exact ⟨some table, after, readRecord_eq_some.mpr hholds, rfl⟩

theorem readRecord_unchanged {codec : Json.Codec α} {path : String}
    {result : Except LibraryError (Option α)}
    (hrun : (readRecord codec path).run top = (result, after)) : after = top := by
  rw [readRecord, FileAction.run_bind, readText, FileAction.run] at hrun
  cases htext : top.readText (Path.names path) with
  | error fault =>
      rw [htext] at hrun
      cases fault <;> exact (Prod.mk.inj hrun).2.symm
  | ok text =>
      simp only [htext, FileAction.run] at hrun
      cases hread : codec.read text with
      | error error =>
          rw [hread] at hrun
          exact (Prod.mk.inj hrun).2.symm
      | ok value =>
          rw [hread] at hrun
          exact (Prod.mk.inj hrun).2.symm

theorem rewritten_of_writeText {path text : String}
    (hrun : (writeText path text).run top = (.ok (), after)) : top.Rewritten path text after := by
  rw [writeText, FileAction.run] at hrun
  have hmade : ∀ other content,
      (Entry.makeFolders (Path.names (Path.parent path)) top).2.contents other = .ok content ↔
        top.contents other = .ok content :=
    fun other content => Entry.contents_makeFolders _ other top content
  generalize Entry.makeFolders (Path.names (Path.parent path)) top = made at hrun hmade
  obtain ⟨fault?, folders⟩ := made
  cases fault? with
  | some fault => cases hrun
  | none =>
      simp only [FileAction.run] at hrun
      split at hrun
      · rename_i written hwrite
        cases hrun
        constructor
        · exact Entry.contents_writeFile_self hwrite
        · intro other content hother
          rw [Entry.contents_writeFile_of_ne hwrite hother]
          exact hmade other content
      · cases hrun

theorem exists_writeText {base name : String} (hname : Path.IsPlain name) {held : Content}
    (hthere : top.contents (Path.names (Path.join base name)) = .ok held) (text : String) :
    ∃ after, (writeText (Path.join base name) text).run top = (.ok (), after) := by
  have hfolders : (Entry.makeFolders (Path.names (Path.parent (Path.join base name))) top).1 =
      none := by
    rw [Path.names_parent_join hname]
    rw [Path.names_join hname] at hthere
    exact Entry.makeFolders_of_contents hthere
  rw [← Entry.contents_makeFolders (Path.names (Path.parent (Path.join base name)))] at hthere
  obtain ⟨written, hwrite⟩ := Entry.exists_writeFile (.text text) hthere
  refine ⟨written, ?_⟩
  rw [writeText, FileAction.run]
  generalize Entry.makeFolders (Path.names (Path.parent (Path.join base name))) top = made at *
  obtain ⟨fault?, folders⟩ := made
  obtain rfl : fault? = none := hfolders
  simp only [FileAction.run, hwrite]

end Library

end Gamebook
