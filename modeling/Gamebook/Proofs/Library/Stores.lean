import Gamebook.Library.Progress
import Gamebook.Library.Sessions
import Gamebook.Library.Stories
import Gamebook.Proofs.Calendar.Moments
import Gamebook.Proofs.Files.Looking
import Gamebook.Proofs.Library.Records
import Gamebook.Proofs.Story.Checking
import Gamebook.Proofs.Story.RoundTrip

namespace Gamebook

open Json

theorem Save.keeps {state : PlayerState} {now : Instant} (hnow : now.IsMoment) :
    codec.Keeps ⟨state, some now⟩ := by
  have hsaved : Instant.codec.option.Keeps (some now) :=
    Codec.keeps_some (Instant.keeps hnow) (by rintro ⟨⟩)
  refine Codec.keeps_record (by decide) ⟨?_, ?_, trivial⟩ rfl
  · exact Field.keeps_required _ (PlayerState.keeps state)
  · exact Field.keeps_withDefault _ _ hsaved

theorem Session.keeps (session : Session) : codec.Keeps session := by
  refine Codec.keeps_record (by decide) ⟨?_, ?_, trivial⟩ rfl
  · exact Field.keeps_required _ (Codec.keeps_text session.storyId)
  · exact Field.keeps_required _ (Visibility.keeps session.scope)

theorem Session.keeps_all (sessions : Dict Session) : (Codec.dict codec).Keeps sessions :=
  Codec.keeps_dict fun entry _ => keeps entry.2

theorem Story.readValid_eq_ok {text : String} {story : Story} :
    readValid text = .ok story ↔ read text = .ok story ∧ story.ensureValid = .ok () := by
  cases hread : read text with
  | error error =>
      rw [readValid_of_read_error hread]
      exact iff_of_false (by rintro ⟨⟩) (by rintro ⟨⟨⟩, -⟩)
  | ok held =>
      rw [readValid_of_read hread, Except.ok.injEq, ensureValid_eq_ok]
      split
      · rename_i hnone
        rw [Except.ok.injEq]
        exact ⟨fun hstory => ⟨hstory, hstory ▸ hnone⟩, And.left⟩
      · rename_i hsome
        refine iff_of_false (by rintro ⟨⟩) ?_
        rintro ⟨rfl, hnone⟩
        exact hsome hnone

namespace Library

variable {library : Library} {top after : Entry}

/-- Whether the file of a story holds this story, and players may begin it. -/
def Offers (library : Library) (id : String) (scope : Visibility) (story : Story) (top : Entry) :
    Prop :=
  ∃ text, top.contents (Path.names (library.storyPath scope id)) = .ok (.text text) ∧
    Story.readValid text = .ok story

/-- Whether the file of a story holds this story, be it valid or not. -/
def Has (library : Library) (id : String) (scope : Visibility) (story : Story) (top : Entry) :
    Prop :=
  ∃ text, top.contents (Path.names (library.storyPath scope id)) = .ok (.text text) ∧
    Story.read text = .ok story

theorem Has.unique {id : String} {scope : Visibility} {story held : Story}
    (hstory : library.Has id scope story top) (hheld : library.Has id scope held top) :
    held = story := by
  obtain ⟨text, hcontents, hread⟩ := hstory
  obtain ⟨text', hcontents', hread'⟩ := hheld
  cases hcontents.symm.trans hcontents'
  exact Except.ok.inj (hread'.symm.trans hread)

theorem Offers.has {id : String} {scope : Visibility} {story : Story}
    (hoffers : library.Offers id scope story top) : library.Has id scope story top := by
  obtain ⟨text, hcontents, hread⟩ := hoffers
  exact ⟨text, hcontents, (Story.readValid_eq_ok.mp hread).1⟩

/-- Why no story can be read from the file of an id, by what stands there. -/
inductive Unreadable (library : Library) (id : String) (scope : Visibility) (top : Entry) :
    LibraryError → Prop where
  | badKey (bad : isKey id = false) : Unreadable library id scope top (.invalidKey .story id)
  | missing (key : isKey id = true)
      (nothing : top.contents (Path.names (library.storyPath scope id)) = .error .missing) :
      Unreadable library id scope top (.storyNotFound id scope)
  | fault (key : isKey id = true) (why : FileFault) (there : why ≠ .missing)
      (fails : top.contents (Path.names (library.storyPath scope id)) = .error why) :
      Unreadable library id scope top (.file (library.storyPath scope id) why)
  | notText (key : isKey id = true) (bytes : List UInt8)
      (binary : top.contents (Path.names (library.storyPath scope id)) = .ok (.bytes bytes)) :
      Unreadable library id scope top (.file (library.storyPath scope id) .notText)
  | malformed (key : isKey id = true) (text : String) (cause : StoryError)
      (written : top.contents (Path.names (library.storyPath scope id)) = .ok (.text text))
      (fails : Story.read text = .error cause) :
      Unreadable library id scope top (.invalidStory (library.storyPath scope id) cause)

theorem exists_unreadable {id : String} {scope : Visibility}
    (hnone : ∀ story, isKey id = true → ¬library.Has id scope story top) :
    ∃ error, library.Unreadable id scope top error := by
  cases hkey : isKey id with
  | false => exact ⟨_, .badKey hkey⟩
  | true =>
      cases hcontents : top.contents (Path.names (library.storyPath scope id)) with
      | error why =>
          by_cases hmissing : why = .missing
          · exact ⟨_, .missing hkey (hmissing ▸ hcontents)⟩
          · exact ⟨_, .fault hkey why hmissing hcontents⟩
      | ok content =>
          cases content with
          | bytes bytes => exact ⟨_, .notText hkey bytes hcontents⟩
          | text text =>
              cases hread : Story.read text with
              | ok story => exact absurd ⟨text, hcontents, hread⟩ (hnone story hkey)
              | error cause => exact ⟨_, .malformed hkey text cause hcontents hread⟩

/-- Whether the session of a player is kept in the file of the sessions. -/
def InSession (library : Library) (player : String) (session : Session) (top : Entry) : Prop :=
  ∃ sessions, top.Holds (.dict Session.codec) library.sessionsPath sessions ∧
    sessions.find? player = some session

/-- Whether the save of a player in a story is kept in its file, and holds a state. -/
def InProgress (library : Library) (player story : String) (state : PlayerState) (top : Entry) :
    Prop :=
  ∃ savedAt, top.Holds Save.codec (library.savePath player story) ⟨state, savedAt⟩

theorem storyText_eq_ok {id : String} {scope : Visibility} {text : String} :
    (library.storyText id scope).run top = (.ok text, after) ↔
      isKey id = true ∧
        top.contents (Path.names (library.storyPath scope id)) = .ok (.text text) ∧ after = top := by
  rw [storyText, FileAction.run_bind_eq_ok]
  constructor
  · rintro ⟨⟨⟩, middle, hcheck, hrest⟩
    obtain ⟨hkey, rfl⟩ := checkKey_eq_ok.mp hcheck
    obtain ⟨found, middle, hfound, htext⟩ := FileAction.run_bind_eq_ok.mp hrest
    cases found with
    | none => cases htext
    | some held =>
        obtain ⟨hcontents, rfl⟩ := readText_eq_some.mp hfound
        obtain ⟨rfl, rfl⟩ := FileAction.run_pure_eq_ok.mp htext
        exact ⟨hkey, hcontents, rfl⟩
  · rintro ⟨hkey, hcontents, rfl⟩
    refine ⟨(), after, checkKey_eq_ok.mpr ⟨hkey, rfl⟩, ?_⟩
    rw [FileAction.run_bind_of_ok (readText_eq_some.mpr ⟨hcontents, rfl⟩)]
    rfl

theorem readAs_eq_ok {reader : String → Except StoryError Story} {id : String} {scope : Visibility}
    {story : Story} :
    (do
      let text ← library.storyText id scope
      .ofExcept ((reader text).mapError (.invalidStory (library.storyPath scope id))) :
        FileAction LibraryError Story).run top = (.ok story, after) ↔
      isKey id = true ∧
        (∃ text, top.contents (Path.names (library.storyPath scope id)) = .ok (.text text) ∧
          reader text = .ok story) ∧
        after = top := by
  rw [FileAction.run_bind_eq_ok]
  constructor
  · rintro ⟨text, middle, htext, hstory⟩
    obtain ⟨hkey, hcontents, rfl⟩ := storyText_eq_ok.mp htext
    rw [FileAction.run_ofExcept] at hstory
    cases hread : reader text with
    | error error =>
        rw [hread] at hstory
        cases hstory
    | ok held =>
        rw [hread] at hstory
        cases hstory
        exact ⟨hkey, ⟨text, hcontents, hread⟩, rfl⟩
  · rintro ⟨hkey, ⟨text, hcontents, hread⟩, rfl⟩
    refine ⟨text, after, storyText_eq_ok.mpr ⟨hkey, hcontents, rfl⟩, ?_⟩
    rw [FileAction.run_ofExcept, hread]
    rfl

theorem readStory_eq_ok {id : String} {scope : Visibility} {story : Story} :
    (library.readStory id scope).run top = (.ok story, after) ↔
      isKey id = true ∧ library.Has id scope story top ∧ after = top :=
  readAs_eq_ok

theorem loadStory_eq_ok {id : String} {scope : Visibility} {story : Story} :
    (library.loadStory id scope).run top = (.ok story, after) ↔
      isKey id = true ∧ library.Offers id scope story top ∧ after = top :=
  readAs_eq_ok

theorem run_storyText_of_fault {id : String} {scope : Visibility} {fault : FileFault}
    (hkey : isKey id = true)
    (hfault : top.readText (Path.names (library.storyPath scope id)) = .error fault) :
    (library.storyText id scope).run top =
      (.error (if fault = .missing then .storyNotFound id scope
        else .file (library.storyPath scope id) fault), top) := by
  rw [storyText, FileAction.run_bind_of_ok (checkKey_eq_ok.mpr ⟨hkey, rfl⟩), readText]
  cases fault <;> simp [FileAction.run_bind, FileAction.run, hfault]

theorem Unreadable.run_readAs {reader : String → Except StoryError Story} {id : String}
    {scope : Visibility} {error : LibraryError}
    (hunreadable : library.Unreadable id scope top error)
    (hreader : ∀ text cause, Story.read text = .error cause → reader text = .error cause) :
    (do
      let text ← library.storyText id scope
      .ofExcept ((reader text).mapError (.invalidStory (library.storyPath scope id))) :
        FileAction LibraryError Story).run top = (.error error, top) := by
  cases hunreadable with
  | badKey hbad =>
      refine FileAction.run_bind_of_error ?_ _
      rw [storyText, checkKey, hbad]
      rfl
  | missing hkey hnothing =>
      have hfault : top.readText (Path.names (library.storyPath scope id)) = .error .missing := by
        rw [Entry.readText, hnothing]
      exact FileAction.run_bind_of_error (run_storyText_of_fault hkey hfault) _
  | fault hkey why hthere hfails =>
      have hfault : top.readText (Path.names (library.storyPath scope id)) = .error why := by
        rw [Entry.readText, hfails]
      have htext := run_storyText_of_fault hkey hfault
      rw [if_neg hthere] at htext
      exact FileAction.run_bind_of_error htext _
  | notText hkey bytes hbinary =>
      have hfault : top.readText (Path.names (library.storyPath scope id)) = .error .notText := by
        rw [Entry.readText, hbinary]
      exact FileAction.run_bind_of_error (run_storyText_of_fault hkey hfault) _
  | malformed hkey text cause hwritten hfails =>
      rw [FileAction.run_bind_of_ok (storyText_eq_ok.mpr ⟨hkey, hwritten, rfl⟩),
        FileAction.run_ofExcept, hreader text cause hfails]
      rfl

theorem loadStory_of_readStory {id : String} {scope : Visibility} {story : Story}
    (hread : (library.readStory id scope).run top = (.ok story, top)) :
    (library.loadStory id scope).run top =
      (if story.errors = [] then .ok story
        else .error (.invalidStory (library.storyPath scope id) (.invalid story.id story.errors)),
        top) := by
  obtain ⟨hid, ⟨text, hcontents, htext⟩, -⟩ := readStory_eq_ok.mp hread
  rw [loadStory, FileAction.run_bind_of_ok (storyText_eq_ok.mpr ⟨hid, hcontents, rfl⟩),
    FileAction.run_ofExcept, Story.readValid_of_read htext]
  split <;> rfl

theorem get_eq_some {player : String} {session : Session} :
    ((SessionStore.file library).get player).run top = (.ok (some session), after) ↔
      library.InSession player session top ∧ after = top := by
  have hne : ∀ sessions : Dict Session, sessions.find? player = some session → sessions ≠ ∅ := by
    rintro sessions hfound rfl
    cases hfound
  rw [SessionStore.get, FileAction.run_bind_eq_ok]
  constructor
  · rintro ⟨sessions, middle, hall, hpure⟩
    obtain ⟨hfound, rfl⟩ := FileAction.run_pure_eq_ok.mp hpure
    obtain ⟨hholds, hsame⟩ := (readTable_eq_ok (hne sessions hfound)).mp hall
    exact ⟨⟨sessions, hholds, hfound⟩, hsame⟩
  · rintro ⟨⟨sessions, hholds, hfound⟩, rfl⟩
    refine ⟨sessions, after, (readTable_eq_ok (hne sessions hfound)).mpr ⟨hholds, rfl⟩, ?_⟩
    rw [hfound]
    rfl

theorem loadSave_eq_some {player story : String} {save : Save} :
    (library.loadSave player story).run top = (.ok (some save), after) ↔
      isKey player = true ∧ isKey story = true ∧
        top.Holds Save.codec (library.savePath player story) save ∧ after = top := by
  rw [loadSave, FileAction.run_bind_eq_ok]
  constructor
  · rintro ⟨⟨⟩, middle, hcheck, hrest⟩
    obtain ⟨hplayer, rfl⟩ := checkKey_eq_ok.mp hcheck
    obtain ⟨⟨⟩, middle, hchecked, hsave⟩ := FileAction.run_bind_eq_ok.mp hrest
    obtain ⟨hstory, rfl⟩ := checkKey_eq_ok.mp hchecked
    exact ⟨hplayer, hstory, readRecord_eq_some.mp hsave⟩
  · rintro ⟨hplayer, hstory, hholds, rfl⟩
    refine ⟨(), after, checkKey_eq_ok.mpr ⟨hplayer, rfl⟩, ?_⟩
    rw [FileAction.run_bind_of_ok (checkKey_eq_ok.mpr ⟨hstory, rfl⟩)]
    exact readRecord_eq_some.mpr ⟨hholds, rfl⟩

theorem loadProgress_eq_some {player story : String} {state : PlayerState} :
    (library.loadProgress player story).run top = (.ok (some state), after) ↔
      isKey player = true ∧ isKey story = true ∧ library.InProgress player story state top ∧
        after = top := by
  rw [loadProgress, FileAction.run_bind_eq_ok]
  constructor
  · rintro ⟨found, middle, hfound, hstate⟩
    cases found with
    | none => cases hstate
    | some save =>
        obtain ⟨hplayer, hstory, hholds, rfl⟩ := loadSave_eq_some.mp hfound
        cases hstate
        exact ⟨hplayer, hstory, ⟨save.savedAt, hholds⟩, rfl⟩
  · rintro ⟨hplayer, hstory, ⟨savedAt, hholds⟩, rfl⟩
    exact ⟨some ⟨state, savedAt⟩, after, loadSave_eq_some.mpr ⟨hplayer, hstory, hholds, rfl⟩, rfl⟩

theorem saveProgress_eq_ok {player story : String} {state : PlayerState} {now : Instant}
    (hrun : (library.saveProgress player story state now).run top = (.ok (), after)) :
    isKey player = true ∧ isKey story = true ∧
      top.Rewritten (library.savePath player story)
        (Save.codec.write ⟨state, some now⟩ ++ "\n") after := by
  rw [saveProgress, FileAction.run_bind_eq_ok] at hrun
  obtain ⟨⟨⟩, middle, hcheck, hrest⟩ := hrun
  obtain ⟨hplayer, rfl⟩ := checkKey_eq_ok.mp hcheck
  obtain ⟨⟨⟩, middle, hchecked, hwrite⟩ := FileAction.run_bind_eq_ok.mp hrest
  obtain ⟨hstory, rfl⟩ := checkKey_eq_ok.mp hchecked
  exact ⟨hplayer, hstory, rewritten_of_writeText hwrite⟩

theorem exists_saveProgress {player story : String} (hplayer : isKey player = true)
    (hstory : isKey story = true) {old : PlayerState}
    (hold : library.InProgress player story old top) (state : PlayerState) (now : Instant) :
    ∃ after, (library.saveProgress player story state now).run top = (.ok (), after) := by
  obtain ⟨savedAt, text, hthere, -⟩ := hold
  obtain ⟨after, hwrite⟩ := exists_writeText (isPlain_json hstory) hthere
    (Save.codec.write ⟨state, some now⟩ ++ "\n")
  refine ⟨after, ?_⟩
  rw [saveProgress, FileAction.run_bind_of_ok (checkKey_eq_ok.mpr ⟨hplayer, rfl⟩),
    FileAction.run_bind_of_ok (checkKey_eq_ok.mpr ⟨hstory, rfl⟩)]
  exact hwrite

theorem inProgress_of_saveProgress {player story : String} {state : PlayerState} {now : Instant}
    (hnow : now.IsMoment)
    (hrun : (library.saveProgress player story state now).run top = (.ok (), after)) :
    library.InProgress player story state after := by
  obtain ⟨-, -, hrewritten⟩ := saveProgress_eq_ok hrun
  exact ⟨some now, hrewritten.holds_self (Save.keeps hnow)⟩

theorem put_eq_ok {player : String} {session : Session} {store : SessionStore}
    (hrun : ((SessionStore.file library).put player session).run top = (.ok store, after)) :
    store = .file library ∧ ∃ sessions : Dict Session, top.Rewritten library.sessionsPath
      ((Codec.dict Session.codec).write (sessions.insert player session) ++ "\n") after := by
  rw [SessionStore.put] at hrun
  obtain ⟨⟨⟩, middle, hcheck, hrest⟩ := FileAction.run_bind_eq_ok.mp hrun
  obtain ⟨-, rfl⟩ := checkKey_eq_ok.mp hcheck
  obtain ⟨sessions, middle', hall, hput⟩ := FileAction.run_bind_eq_ok.mp hrest
  obtain ⟨⟨⟩, written, hwrite, hstore⟩ := FileAction.run_bind_eq_ok.mp hput
  obtain ⟨rfl, rfl⟩ := FileAction.run_pure_eq_ok.mp hstore
  have hsame : middle' = middle := by
    obtain ⟨found, folder, hfound, hsessions⟩ := FileAction.run_bind_eq_ok.mp hall
    obtain ⟨-, rfl⟩ := FileAction.run_pure_eq_ok.mp hsessions
    exact readRecord_unchanged hfound
  subst hsame
  exact ⟨rfl, sessions, rewritten_of_writeText hwrite⟩

theorem inSession_of_put {player : String} {session : Session} {store : SessionStore}
    (hrun : ((SessionStore.file library).put player session).run top = (.ok store, after)) :
    library.InSession player session after := by
  obtain ⟨-, sessions, hrewritten⟩ := put_eq_ok hrun
  exact ⟨_, hrewritten.holds_self (Session.keeps_all _), Dict.find?_insert_self ..⟩

theorem writeStory_eq_ok {story : Story} {scope : Visibility}
    (hrun : (library.writeStory story scope).run top = (.ok (), after)) :
    isKey story.id = true ∧
      top.Rewritten (library.storyPath scope story.id) (story.write ++ "\n") after := by
  rw [writeStory] at hrun
  obtain ⟨⟨⟩, middle, hcheck, hwrite⟩ := FileAction.run_bind_eq_ok.mp hrun
  obtain ⟨hkey, rfl⟩ := checkKey_eq_ok.mp hcheck
  exact ⟨hkey, rewritten_of_writeText hwrite⟩

theorem offers_of_writeStory {story : Story} {scope : Visibility}
    (hvalid : story.ensureValid = .ok ())
    (hrun : (library.writeStory story scope).run top = (.ok (), after)) :
    library.Offers story.id scope story after := by
  obtain ⟨-, hrewritten⟩ := writeStory_eq_ok hrun
  exact ⟨_, hrewritten.written, Story.readValid_eq_ok.mpr ⟨Story.read_write_line story, hvalid⟩⟩

theorem storyPath_ne_storyPath {id other : String} {scope scope' : Visibility}
    (hid : isKey id = true) (hother : isKey other = true) (hne : ¬(other = id ∧ scope' = scope)) :
    Path.names (library.storyPath scope id) ≠ Path.names (library.storyPath scope' other) := by
  rw [names_storyPath library scope hid, names_storyPath library scope' hother]
  intro hsame
  have hparts : scope.name = scope'.name ∧ id = other := by simpa using hsame
  obtain ⟨hscope, rfl⟩ := hparts
  refine hne ⟨rfl, ?_⟩
  cases scope <;> cases scope' <;> first | rfl | exact absurd hscope (by decide)

/-- Whether every story of a library stands in the folder of its id. -/
def WellNamed (library : Library) (top : Entry) : Prop :=
  ∀ id scope story, isKey id = true → library.Has id scope story top → story.id = id

theorem WellNamed.of_writeStory {story : Story} {scope : Visibility}
    (hnamed : library.WellNamed top)
    (hrun : (library.writeStory story scope).run top = (.ok (), after)) :
    library.WellNamed after := by
  obtain ⟨hkey, hwritten⟩ := writeStory_eq_ok hrun
  intro id scope' held hid hheld
  by_cases hsame : id = story.id ∧ scope' = scope
  · obtain ⟨rfl, rfl⟩ := hsame
    have hstory : library.Has story.id scope' story after :=
      ⟨_, hwritten.written, Story.read_write_line story⟩
    rw [hstory.unique hheld]
  · obtain ⟨text, hcontents, hread⟩ := hheld
    have hkept := hwritten.kept _ (.text text) (storyPath_ne_storyPath hkey hid hsame)
    exact hnamed id scope' held hid ⟨text, hkept.mp hcontents, hread⟩

/-- Whether a share code is registered for the id of a story. -/
def CodeFor (library : Library) (code id : String) (top : Entry) : Prop :=
  ∃ codes, top.Holds (.dict CodeEntry.codec) library.codesPath codes ∧
    codes.find? (normalizeCode code) = some ⟨id⟩

theorem loadByCode_eq_ok {code id : String} {story : Story} :
    (library.loadByCode code).run top = (.ok (id, story), after) ↔
      library.CodeFor code id top ∧ isKey id = true ∧ library.Offers id .unlisted story top ∧
        after = top := by
  have hne : ∀ (codes : Dict CodeEntry) (entry : CodeEntry),
      codes.find? (normalizeCode code) = some entry → codes ≠ ∅ := by
    rintro codes entry hfound rfl
    cases hfound
  rw [loadByCode, FileAction.run_bind_eq_ok]
  constructor
  · rintro ⟨codes, middle, hcodes, hrest⟩
    cases hfound : codes.find? (normalizeCode code) with
    | none =>
        rw [hfound] at hrest
        cases hrest
    | some entry =>
        simp only [hfound] at hrest
        obtain ⟨hholds, rfl⟩ := (readTable_eq_ok (hne codes entry hfound)).mp hcodes
        rw [FileAction.run_bind, FileAction.run_attempt] at hrest
        cases hload : (library.loadStory entry.storyId .unlisted).run middle with
        | mk result folder =>
            rw [hload] at hrest
            cases result with
            | error error =>
                cases error <;> cases hrest
            | ok held =>
                obtain ⟨hheld, rfl⟩ := FileAction.run_pure_eq_ok.mp hrest
                obtain ⟨rfl, rfl⟩ := Prod.mk.inj hheld
                obtain ⟨hkey, hoffers, rfl⟩ := loadStory_eq_ok.mp hload
                exact ⟨⟨codes, hholds, hfound⟩, hkey, hoffers, rfl⟩
  · rintro ⟨⟨codes, hholds, hfound⟩, hkey, hoffers, rfl⟩
    refine ⟨codes, after, (readTable_eq_ok (hne codes _ hfound)).mpr ⟨hholds, rfl⟩, ?_⟩
    have hload : (library.loadStory id .unlisted).run after = (.ok story, after) :=
      loadStory_eq_ok.mpr ⟨hkey, hoffers, rfl⟩
    simp only [hfound]
    rw [FileAction.run_bind, FileAction.run_attempt, hload]
    rfl

end Library

namespace SessionStore

variable {library : Library} {store next : SessionStore} {player : String} {session other : Session}
  {top after : Entry}

/-- Whether a store of sessions keeps the session of a player. -/
def Keeps (player : String) (session : Session) (top : Entry) : SessionStore → Prop
  | .file library => library.InSession player session top
  | .memory sessions => sessions.find? player = some session

/-- Whether sessions are kept in memory, or in no other library than a given one. -/
def IsOf (library : Library) : SessionStore → Prop
  | .file held => held = library
  | .memory _ => True

theorem isOf_file (library : Library) : (file library).IsOf library := rfl

theorem Keeps.unique (hsession : store.Keeps player session top)
    (hother : store.Keeps player other top) : other = session := by
  cases store with
  | file library =>
      obtain ⟨sessions, hsessions, hfound⟩ := hsession
      obtain ⟨sessions', hsessions', hfound'⟩ := hother
      obtain rfl := hsessions.unique hsessions'
      exact Option.some.inj (hfound'.symm.trans hfound)
  | memory sessions => exact Option.some.inj (hother.symm.trans hsession)

theorem get_eq_some :
    (store.get player).run top = (.ok (some session), after) ↔
      store.Keeps player session top ∧ after = top := by
  cases store with
  | file library => exact Library.get_eq_some
  | memory sessions =>
      rw [get, all]
      exact FileAction.run_pure_eq_ok.trans (and_congr_right' eq_comm)

theorem keeps_of_put (hrun : (store.put player session).run top = (.ok next, after)) :
    next.Keeps player session after := by
  cases store with
  | file library =>
      obtain ⟨rfl, -⟩ := Library.put_eq_ok hrun
      exact Library.inSession_of_put hrun
  | memory sessions =>
      obtain ⟨rfl, rfl⟩ := FileAction.run_pure_eq_ok.mp hrun
      exact Dict.find?_insert_self ..

theorem files_of_put (hof : store.IsOf library)
    (hrun : (store.put player session).run top = (.ok next, after)) (path : List String)
    (content : Content) (hpath : Path.names library.sessionsPath ≠ path) :
    after.contents path = .ok content ↔ top.contents path = .ok content := by
  cases store with
  | file held =>
      obtain rfl : held = library := hof
      obtain ⟨-, sessions, hwritten⟩ := Library.put_eq_ok hrun
      exact hwritten.kept path content hpath
  | memory sessions =>
      obtain ⟨-, rfl⟩ := FileAction.run_pure_eq_ok.mp hrun
      rfl

theorem Keeps.of_rewritten {path text : String} (hof : store.IsOf library)
    (hrewritten : top.Rewritten path text after)
    (hpath : Path.names path ≠ Path.names library.sessionsPath)
    (hkeeps : store.Keeps player session top) : store.Keeps player session after := by
  cases store with
  | file held =>
      obtain rfl : held = library := hof
      obtain ⟨sessions, hholds, hfound⟩ := hkeeps
      exact ⟨sessions, hrewritten.holds hpath hholds, hfound⟩
  | memory sessions => exact hkeeps

end SessionStore

end Gamebook
