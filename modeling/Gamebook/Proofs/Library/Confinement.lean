import Gamebook.Proofs.Files.Opening
import Gamebook.Proofs.Library.Operations

namespace Gamebook

open FileAction

namespace Path

/-- Whether a text can be one component of a path: it is not blank, leads somewhere and not back,
and has nothing in it that ends a component or a path. -/
structure IsComponent (value : String) : Prop where
  notBlank : Text.isBlank value = false
  notDot : value ≠ "."
  notDots : value ≠ ".."
  noSlash : '/' ∉ value.toList
  noBackslash : '\\' ∉ value.toList
  noNul : '\x00' ∉ value.toList

theorem head_append_ne_slash {name : String} (hname : IsPlain name) (rest : String) :
    (name ++ rest).toList.head? ≠ some '/' := by
  rw [String.toList_append, List.head?_append]
  cases hchars : name.toList with
  | nil => exact absurd (String.toList_inj.mp hchars) hname.2.1
  | cons c others =>
      rintro hslash
      obtain rfl : c = '/' := Option.some.inj hslash
      exact hname.1 (hchars ▸ List.mem_cons_self ..)

theorem join_append (front : String) {name rest : String} (hname : IsPlain name)
    (hrest : rest.toList.head? ≠ some '/') :
    join (front ++ name) rest = front ++ name ++ "/" ++ rest := by
  have hne : name.toList ≠ [] := fun hnil => hname.2.1 (String.toList_inj.mp hnil)
  have hlast : (front ++ name).toList.getLast? ≠ some '/' := by
    rw [String.toList_append, List.getLast?_append, List.getLast?_eq_some_getLast hne]
    intro hslash
    exact hname.1 (Option.some.inj hslash ▸ List.getLast_mem hne)
  have hfull : front ++ name ≠ "" := by
    intro hempty
    have hnil := congrArg String.toList hempty
    rw [String.toList_append] at hnil
    exact hne (List.append_eq_nil_iff.mp hnil).2
  rw [join, if_neg (not_or.mpr ⟨hrest, hfull⟩), if_neg hlast]

theorem join_join (base : String) {name rest : String} (hname : IsPlain name)
    (hrest : rest.toList.head? ≠ some '/') :
    join (join base name) rest = join base (name ++ ("/" ++ rest)) := by
  have hhead : name.toList.head? ≠ some '/' := by
    simpa using head_append_ne_slash hname ""
  have hheads := head_append_ne_slash hname ("/" ++ rest)
  by_cases hbase : base = ""
  · have hjoin : join base name = "" ++ name := by
      rw [join, if_pos (Or.inr hbase), String.empty_append]
    rw [hjoin, join_append _ hname hrest, join, if_pos (Or.inr hbase), String.empty_append,
      String.append_assoc]
  · rw [join.eq_1 base name, join.eq_1 base (name ++ ("/" ++ rest)),
      if_neg (not_or.mpr ⟨hhead, hbase⟩), if_neg (not_or.mpr ⟨hheads, hbase⟩)]
    split
    · rw [join_append _ hname hrest]
      simp only [String.append_assoc]
    · rw [join_append _ hname hrest]
      simp only [String.append_assoc]

theorem exists_intercalate_cons (name : String) (names : List String) :
    ∃ rest, "/".intercalate (name :: names) = name ++ rest := by
  cases names with
  | nil => exact ⟨"", by rw [String.intercalate_singleton, String.append_empty]⟩
  | cons next names =>
      exact ⟨_, (String.intercalate_cons_cons ..).trans (String.append_assoc ..)⟩

theorem foldl_join (base name : String) (names : List String)
    (hplain : ∀ other ∈ name :: names, IsPlain other) :
    (name :: names).foldl join base = join base ("/".intercalate (name :: names)) := by
  induction names generalizing base name with
  | nil =>
      rw [String.intercalate_singleton]
      rfl
  | cons next names ih =>
      obtain ⟨hname, hrest⟩ := List.forall_mem_cons.mp hplain
      obtain ⟨rest, hnames⟩ := exists_intercalate_cons next names
      have hnext := hrest next (List.mem_cons_self ..)
      rw [List.foldl_cons, ih _ _ hrest, String.intercalate_cons_cons, String.append_assoc,
        join_join base hname]
      rw [hnames]
      exact head_append_ne_slash hnext rest

end Path

theorem isKey_iff {value : String} : isKey value = true ↔ Path.IsComponent value := by
  simp only [isKey, ne_eq, decide_not, Bool.and_eq_true, Bool.not_eq_true', decide_eq_false_iff_not,
    List.all_eq_true]
  constructor
  · rintro ⟨⟨⟨hblank, hdot⟩, hdots⟩, hchars⟩
    exact ⟨hblank, hdot, hdots, fun hc => (hchars _ hc).1.1 rfl, fun hc => (hchars _ hc).1.2 rfl,
      fun hc => (hchars _ hc).2 rfl⟩
  · rintro ⟨hblank, hdot, hdots, hslash, hback, hnul⟩
    refine ⟨⟨⟨hblank, hdot⟩, hdots⟩, fun c hc => ⟨⟨?_, ?_⟩, ?_⟩⟩
    · rintro rfl
      exact hslash hc
    · rintro rfl
      exact hback hc
    · rintro rfl
      exact hnul hc

namespace Place

/-- Whether the ids of a place are components of a path. -/
def HasComponents : Place → Prop
  | .story _ id => Path.IsComponent id
  | .save player id => Path.IsComponent player ∧ Path.IsComponent id
  | .codes | .items | .sessions => True

variable {place other : Place} {library : Library}

theorem isProper_iff : place.isProper = true ↔ place.HasComponents := by
  cases place with
  | story scope id => exact isKey_iff
  | save player id => exact isProper_save_iff.trans (and_congr isKey_iff isKey_iff)
  | codes => exact iff_of_true rfl trivial
  | items => exact iff_of_true rfl trivial
  | sessions => exact iff_of_true rfl trivial

theorem isPlain_folderNames (hproper : place.isProper = true) :
    ∀ name ∈ place.folderNames, Path.IsPlain name := by
  have hstories : Path.IsPlain "stories" := ⟨by decide, by decide, by decide, by decide⟩
  have hsaves : Path.IsPlain "saves" := ⟨by decide, by decide, by decide, by decide⟩
  have hitems : Path.IsPlain "items" := ⟨by decide, by decide, by decide, by decide⟩
  cases place with
  | story scope id =>
      have hid := isPlain_of_isKey hproper
      simp [folderNames, hstories, isPlain_name scope, hid]
  | save player id =>
      have hplayer := isPlain_of_isKey (isProper_save_iff.mp hproper).1
      simp [folderNames, hsaves, hplayer]
  | codes => exact List.forall_mem_nil _
  | items => simp [folderNames, hitems]
  | sessions => exact List.forall_mem_nil _

theorem isPlain_names (hproper : place.isProper = true) :
    ∀ name ∈ place.names, Path.IsPlain name := by
  intro name hname
  rcases List.mem_append.mp hname with hfolder | hfile
  · exact isPlain_folderNames hproper name hfolder
  · rw [List.mem_singleton.mp hfile]
    exact isPlain_fileName hproper

theorem path_eq_foldl (place : Place) (library : Library) :
    place.path library = place.names.foldl Path.join library.root := by
  cases place <;> rfl

theorem path_eq_join (hproper : place.isProper = true) :
    place.path library = Path.join library.root ("/".intercalate place.names) := by
  have hplain := isPlain_names hproper
  rw [path_eq_foldl]
  cases hnames : place.names with
  | nil => exact absurd hnames (by simp [names])
  | cons name names =>
      rw [hnames] at hplain
      exact Path.foldl_join library.root name names hplain

end Place

/-- Whether a path is that of a place in a library: its ids are components of a path, it is written
as the names of the place after the folder of the library, and it leads through these names. -/
structure Library.Owns (library : Library) (place : Place) (path : String) : Prop where
  components : place.HasComponents
  text : path = Path.join library.root ("/".intercalate place.names)
  leads : Path.names path = Path.names library.root ++ place.names

/-- Whether a path is that of some place in a library. -/
def Library.IsOwn (library : Library) (path : String) : Prop :=
  ∃ place, library.Owns place path

theorem Place.owns_path {place : Place} (hproper : place.isProper = true) (library : Library) :
    library.Owns place (place.path library) :=
  ⟨isProper_iff.mp hproper, path_eq_join hproper, names_path hproper⟩

theorem Place.isOwn_path (place : Place) (hproper : place.isProper = true) (library : Library) :
    library.IsOwn (place.path library) :=
  ⟨place, owns_path hproper library⟩

namespace Library

variable {library : Library} {α : Type} {place other : Place} {path id player : String}
  {scope : Visibility}

theorem Owns.unique {path' : String} (howns : library.Owns place path)
    (hother : library.Owns other path') (hsame : Path.names path = Path.names path') :
    place = other := by
  rw [howns.leads, hother.leads] at hsame
  exact Place.names_injective (List.append_cancel_left hsame)

theorem isOwn_storyPath (library : Library) (scope : Visibility) (hid : isKey id = true) :
    library.IsOwn (library.storyPath scope id) :=
  Place.isOwn_path (.story scope id) hid library

theorem isOwn_savePath (library : Library) (hplayer : isKey player = true)
    (hid : isKey id = true) : library.IsOwn (library.savePath player id) :=
  Place.isOwn_path (.save player id) (Place.isProper_save_iff.mpr ⟨hplayer, hid⟩) library

/-- Whether a program, whatever the files hold, reads and writes only files at the places of a
library, and leaves all other files as they are. -/
structure Confines (library : Library) {ε : Type} (action : FileAction ε α) : Prop where
  opened : ∀ top, ∀ path ∈ action.opened top, library.IsOwn path
  kept : ∀ top names content, (∀ path, library.IsOwn path → Path.names path ≠ names) →
    ((action.run top).2.contents names = .ok content ↔ top.contents names = .ok content)

theorem confines_of_opens {ε : Type} {action : FileAction ε α}
    (hopens : action.Opens library.IsOwn) : library.Confines action :=
  ⟨hopens.opened, fun top _ content hother => hopens.contents_run hother top content⟩

/-! ### Records -/

theorem opens_readText (hpath : library.IsOwn path) : (readText path).Opens library.IsOwn := by
  refine .readText hpath ?_
  rintro (fault | text)
  · cases fault with
    | missing => exact .done none
    | _ => exact .fail _
  · exact .done (some text)

theorem opens_readRecord {codec : Json.Codec α} (hpath : library.IsOwn path) :
    (readRecord codec path).Opens library.IsOwn := by
  refine (opens_readText hpath).bind ?_
  rintro (_ | text)
  · exact .done none
  · dsimp only
    split
    · exact .done _
    · exact .fail _

theorem opens_writeText (hpath : library.IsOwn path) (text : String) :
    (writeText path text).Opens library.IsOwn := by
  refine .makeFolders hpath ?_
  rintro (_ | fault)
  · refine .writeText text hpath ?_
    rintro (_ | fault)
    · exact .done ()
    · exact .fail _
  · exact .fail _

theorem opens_checked {kind : NameKind} {value : String} {action : FileAction LibraryError α}
    (haction : isKey value = true → action.Opens library.IsOwn) :
    (do checkKey kind value; action : FileAction LibraryError α).Opens library.IsOwn := by
  rw [checkKey]
  split
  · rename_i hkey
    exact haction hkey
  · exact .fail _

/-! ### Stories and share codes -/

theorem opens_storyText (library : Library) (id : String) (scope : Visibility) :
    (library.storyText id scope).Opens library.IsOwn := by
  refine opens_checked fun hid => ?_
  refine (opens_readText (library.isOwn_storyPath scope hid)).bind ?_
  rintro (_ | text)
  · exact .fail _
  · exact .done text

theorem opens_readStory (library : Library) (id : String) (scope : Visibility) :
    (library.readStory id scope).Opens library.IsOwn :=
  (library.opens_storyText id scope).bind fun _ => .ofExcept _

theorem opens_loadStory (library : Library) (id : String) (scope : Visibility) :
    (library.loadStory id scope).Opens library.IsOwn :=
  (library.opens_storyText id scope).bind fun _ => .ofExcept _

theorem opens_hasStory (library : Library) (id : String) (scope : Visibility) :
    (library.hasStory id scope).Opens library.IsOwn := by
  rw [hasStory]
  split
  · exact .isFile _ .done
  · exact .done false

theorem opens_writeStory (library : Library) (story : Story) (scope : Visibility) :
    (library.writeStory story scope).Opens library.IsOwn :=
  opens_checked fun hid => opens_writeText (library.isOwn_storyPath scope hid) _

theorem opens_codes (library : Library) : library.codes.Opens library.IsOwn :=
  (opens_readRecord (Place.isOwn_path .codes rfl library)).bind fun _ => .done _

theorem opens_saveCodes (library : Library) (codes : Dict CodeEntry) :
    (library.saveCodes codes).Opens library.IsOwn :=
  opens_writeText (Place.isOwn_path .codes rfl library) _

theorem opens_loadByCode (library : Library) (code : String) :
    (library.loadByCode code).Opens library.IsOwn := by
  refine library.opens_codes.bind fun codes => ?_
  split
  · exact .fail _
  · refine (library.opens_loadStory _ _).attempt.bind fun found => ?_
    split
    · exact .done _
    · exact .fail _
    · exact .fail _

theorem opens_withStory (library : Library) (scope : Visibility) (ids : List String) :
    (library.withStory scope ids).Opens library.IsOwn := by
  induction ids with
  | nil => exact .done []
  | cons id ids ih => exact .isFile _ fun found => ih.bind fun others => .done _

theorem opens_listedStories (library : Library) : library.listedStories.Opens library.IsOwn := by
  refine .list _ ?_
  rintro (fault | names)
  · cases fault with
    | missing => exact .done []
    | _ => exact .fail _
  · exact (library.opens_withStory .listed names).bind fun ids => .done _

/-! ### Players, items and sessions -/

theorem opens_loadSave (library : Library) (player id : String) :
    (library.loadSave player id).Opens library.IsOwn :=
  opens_checked fun hplayer => opens_checked fun hid =>
    opens_readRecord (library.isOwn_savePath hplayer hid)

theorem opens_saveProgress (library : Library) (player id : String) (state : PlayerState)
    (now : Instant) : (library.saveProgress player id state now).Opens library.IsOwn :=
  opens_checked fun hplayer => opens_checked fun hid =>
    opens_writeText (library.isOwn_savePath hplayer hid) _

theorem opens_loadProgress (library : Library) (player id : String) :
    (library.loadProgress player id).Opens library.IsOwn :=
  (library.opens_loadSave player id).bind fun _ => .done _

theorem opens_items (library : Library) : library.items.Opens library.IsOwn :=
  (opens_readRecord (Place.isOwn_path .items rfl library)).bind fun _ => .done _

theorem opens_addItem (library : Library) (name : String) :
    (library.addItem name).Opens library.IsOwn := by
  refine (checkName_of_isClosed (Opens.isClosed _) .item name).bind fun _ => ?_
  refine library.opens_items.bind fun items => ?_
  exact (opens_writeText (Place.isOwn_path .items rfl library) _).bind fun _ => .done _

theorem opens_perform (library : Library) (operation : Operation) :
    (operation.perform library).Opens library.IsOwn := by
  cases operation with
  | hasStory id scope => exact library.opens_hasStory id scope
  | readStory id scope => exact library.opens_readStory id scope
  | loadStory id scope => exact library.opens_loadStory id scope
  | loadByCode code => exact library.opens_loadByCode code
  | listedStories => exact library.opens_listedStories
  | codes => exact library.opens_codes
  | writeStory story scope => exact library.opens_writeStory story scope
  | saveCodes table => exact library.opens_saveCodes table
  | author call =>
      exact perform_of_isClosed (Opens.isClosed _) (library.opens_hasStory · .unlisted)
        (library.opens_readStory · .unlisted) library.opens_codes library.opens_writeStory
        library.opens_saveCodes call
  | loadSave player id => exact library.opens_loadSave player id
  | loadProgress player id => exact library.opens_loadProgress player id
  | saveProgress player id state now => exact library.opens_saveProgress player id state now
  | items => exact library.opens_items
  | addItem name => exact library.opens_addItem name

theorem opens_all (library : Library) :
    (SessionStore.file library).all.Opens library.IsOwn :=
  (opens_readRecord (Place.isOwn_path .sessions rfl library)).bind fun _ => .done _

theorem opens_writeSessions (library : Library) (sessions : Dict Session) :
    (writeRecord (.dict Session.codec) library.sessionsPath sessions).Opens library.IsOwn :=
  opens_writeText (Place.isOwn_path .sessions rfl library) _

theorem opens_get {store : SessionStore} (hof : store.IsOf library) (player : String) :
    (store.get player).Opens library.IsOwn := by
  cases store with
  | memory sessions => exact .done _
  | file held =>
      obtain rfl : held = library := hof
      exact held.opens_all.bind fun _ => .done _

theorem opens_put {store : SessionStore} (hof : store.IsOf library) (player : String)
    (session : Session) : (store.put player session).Opens library.IsOwn := by
  cases store with
  | memory sessions => exact .done _
  | file held =>
      obtain rfl : held = library := hof
      refine opens_checked fun _ => held.opens_all.bind fun sessions => ?_
      exact (held.opens_writeSessions _).bind fun _ => .done _

theorem opens_remove {store : SessionStore} (hof : store.IsOf library) (player : String) :
    (store.remove player).Opens library.IsOwn := by
  cases store with
  | memory sessions => exact .done _
  | file held =>
      obtain rfl : held = library := hof
      refine held.opens_all.bind fun sessions => ?_
      split
      · exact .done _
      · exact (held.opens_writeSessions _).bind fun _ => .done _

theorem opens_session {store : SessionStore} (hof : store.IsOf library) (call : SessionCall) :
    (call.perform store).Opens library.IsOwn := by
  cases call with
  | get player => exact (opens_get hof player).bind fun _ => .done _
  | put player session => exact (opens_put hof player session).bind fun _ => .done _
  | remove player => exact opens_remove hof player

/-! ### Ids that are refused -/

/-- Whether a program fails at once. -/
def Refuses (action : FileAction LibraryError α) : Prop :=
  ∃ error, action = .fail error

theorem refuses_bind {β : Type} {action : FileAction LibraryError α}
    (hrefuses : Refuses action) (f : α → FileAction LibraryError β) : Refuses (action >>= f) := by
  obtain ⟨error, rfl⟩ := hrefuses
  exact ⟨error, rfl⟩

theorem refuses_checkKey (kind : NameKind) (hid : isKey id = false) :
    Refuses (checkKey kind id) :=
  ⟨_, if_neg (Bool.eq_false_iff.mp hid)⟩

theorem refuses_readStory (library : Library) (scope : Visibility) (hid : isKey id = false) :
    Refuses (library.readStory id scope) :=
  refuses_bind (refuses_bind (refuses_checkKey .story hid) _) _

theorem refuses_loadSave (library : Library) (hids : ∃ given ∈ [player, id], isKey given = false) :
    Refuses (library.loadSave player id) := by
  rcases library.loadSave_cases player id with ⟨hplayer, hid, -⟩ | hfails
  · simp [hplayer, hid] at hids
  · exact hfails

theorem refuses_saveProgress (library : Library)
    (hids : ∃ given ∈ [player, id], isKey given = false) (state : PlayerState) (now : Instant) :
    Refuses (library.saveProgress player id state now) := by
  rcases library.saveProgress_cases player id state now with ⟨hplayer, hid, -⟩ | hfails
  · simp [hplayer, hid] at hids
  · exact hfails

theorem refuses_author (library : Library) (call : AuthorCall)
    (hids : ∃ given ∈ (Operation.author call).ids, isKey given = false) :
    Refuses (call.perform library) := by
  have hchecked : ∀ {β : Type} (kind : NameKind) (name : String)
      {action : FileAction LibraryError β}, Refuses action →
      Refuses (do checkName kind name; action) := by
    intro β kind name action hrefuses
    rw [checkName]
    split
    · exact ⟨_, rfl⟩
    · exact hrefuses
  have hedit : ∀ {β : Type} {id : String} (change : Story → Except LibraryError (Story × β)),
      isKey id = false → Refuses (library.edit id change) :=
    fun change hid => refuses_bind (library.refuses_readStory .unlisted hid) _
  cases call with
  | createStory id title =>
      obtain ⟨given, ⟨⟩ | ⟨_, ⟨⟩⟩, hid⟩ := hids
      exact refuses_bind (refuses_checkKey .story hid) _
  | edit id change =>
      obtain ⟨given, ⟨⟩ | ⟨_, ⟨⟩⟩, hid⟩ := hids
      cases change with
      | addScene scene => exact hchecked _ _ (hedit _ hid)
      | setSceneText scene text => exact hchecked _ _ (hedit _ hid)
      | addChoice scene text next => exact hchecked _ _ (hchecked _ _ (hedit _ hid))
      | setRequirement scene index requirement => exact hedit _ hid
      | setInitialStat stat value => exact hchecked _ _ (hedit _ hid)
      | addInitialItem item => exact hchecked _ _ (hedit _ hid)
  | publish id scope candidates =>
      obtain ⟨given, ⟨⟩ | ⟨_, ⟨⟩⟩, hid⟩ := hids
      cases scope <;> exact refuses_bind (library.refuses_readStory .unlisted hid) _
  | check id =>
      obtain ⟨given, ⟨⟩ | ⟨_, ⟨⟩⟩, hid⟩ := hids
      exact refuses_bind (library.refuses_readStory .unlisted hid) _

theorem opened_of_not_isKey (operation : Operation)
    (hids : ∃ given ∈ operation.ids, isKey given = false) (top : Entry) :
    (operation.perform library).opened top = [] := by
  have hnothing : ∀ {β : Type} {action : FileAction LibraryError β}, Refuses action →
      action.opened top = [] := by
    rintro β action ⟨error, rfl⟩
    rfl
  cases operation with
  | hasStory id scope =>
      obtain ⟨given, ⟨⟩ | ⟨_, ⟨⟩⟩, hid⟩ := hids
      rw [Operation.perform, hasStory, if_neg (Bool.eq_false_iff.mp hid)]
      rfl
  | readStory id scope =>
      obtain ⟨given, ⟨⟩ | ⟨_, ⟨⟩⟩, hid⟩ := hids
      exact hnothing (library.refuses_readStory scope hid)
  | loadStory id scope =>
      obtain ⟨given, ⟨⟩ | ⟨_, ⟨⟩⟩, hid⟩ := hids
      exact hnothing (refuses_bind (refuses_bind (refuses_checkKey .story hid) _) _)
  | writeStory story scope =>
      obtain ⟨given, ⟨⟩ | ⟨_, ⟨⟩⟩, hid⟩ := hids
      exact hnothing (refuses_bind (refuses_checkKey .story hid) _)
  | author call => exact hnothing (library.refuses_author call hids)
  | loadSave player id => exact hnothing (library.refuses_loadSave hids)
  | loadProgress player id => exact hnothing (refuses_bind (library.refuses_loadSave hids) _)
  | saveProgress player id state now =>
      exact hnothing (library.refuses_saveProgress hids state now)
  | _ => simp [Operation.ids] at hids

end Library

end Gamebook
