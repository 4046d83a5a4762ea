import Gamebook.Proofs.Library.Places
import Gamebook.Proofs.Library.Snapshots
import Gamebook.Proofs.Lists

/-!
A library as independent tables. The stores of a library can be called in any order: a call that is
accepted changes one record (`Library.Stores.perform`), one that is refused changes none
(`Library.Stores.perform_error`), and what is read under a key depends on one record alone
(`Library.Stores.read_key`). So a library that was empty answers as tables in memory would, each
with what was last put under its key (`Library.answersAsTables_afterStoreCalls`).
-/

namespace Gamebook

open FileAction

theorem Dict.erase_of_find? {α : Type} {table : Dict α} {key : String}
    (hmissing : table.find? key = none) : table.erase key = table := by
  apply Dict.ext_find?
  intro other
  rw [Dict.find?_erase]
  split
  · rename_i hkey
    rw [hkey, hmissing]
  · rfl

/-- What can be read in a library, by where it is. -/
inductive Key where
  | story (scope : Visibility) (id : String)
  | codes
  | progress (player id : String)
  | items
  | session (player : String)
  deriving DecidableEq

namespace Key

abbrev Answer : Key → Type
  | .story _ _ => Story
  | .codes => Dict CodeEntry
  | .progress _ _ => Option PlayerState
  | .items => List String
  | .session _ => Option Session

def read (library : Library) : (key : Key) → FileAction LibraryError key.Answer
  | .story scope id => library.readStory id scope
  | .codes => library.codes
  | .progress player id => library.loadProgress player id
  | .items => library.items
  | .session player => (SessionStore.file library).get player

def place : Key → Place
  | .story scope id => .story scope id
  | .codes => .codes
  | .progress player id => .save player id
  | .items => .items
  | .session _ => .sessions

/-- Whether the ids of a key can be the names of files, and are not too long for that. -/
def isAccepted (key : Key) : Bool :=
  key.place.isProper && key.place.fits

def found (records : Records) : (key : Key) → Except LibraryError key.Answer
  | .story scope id => (records (.story scope id)).elim (.error (.storyNotFound id scope)) .ok
  | .codes => .ok records.codes
  | .progress player id => .ok ((records (.save player id)).map (·.state))
  | .items => .ok records.items
  | .session player => .ok (records.sessions.find? player)

end Key

/-- What the stores of a library can be called for. -/
inductive StoreCall where
  | writeStory (story : Story) (scope : Visibility)
  | saveProgress (player id : String) (state : PlayerState)
      (now : { now : Instant // now.IsMoment })
  | saveCodes (codes : Dict CodeEntry)
  | addItem (name : String)
  | putSession (player : String) (session : Session)
  | removeSession (player : String)

namespace StoreCall

def perform (library : Library) : StoreCall → FileAction LibraryError Unit
  | .writeStory story scope => library.writeStory story scope
  | .saveProgress player id state now => library.saveProgress player id state now
  | .saveCodes codes => library.saveCodes codes
  | .addItem name => do
    let _ ← library.addItem name
    return ()
  | .putSession player session => do
    let _ ← (SessionStore.file library).put player session
    return ()
  | .removeSession player => do
    let _ ← (SessionStore.file library).remove player
    return ()

def key : StoreCall → Key
  | .writeStory story scope => .story scope story.id
  | .saveProgress player id _ _ => .progress player id
  | .saveCodes _ => .codes
  | .addItem _ => .items
  | .putSession player _ => .session player
  | .removeSession player => .session player

/-- Whether the names that a call puts into a file are such that can be put there. -/
def isNamed : StoreCall → Bool
  | .addItem name => !Text.isBlank name
  | .putSession player _ => isKey player
  | _ => true

def isAccepted (call : StoreCall) : Bool :=
  call.key.isAccepted && call.isNamed

theorem isAccepted_writeStory (story : Story) (scope : Visibility) (hid : isKey story.id = true)
    (hshort : Entry.isTooLong story.id = false) : (writeStory story scope).isAccepted = true := by
  have hfits : (Place.story scope story.id).fits = true := Place.fits_story_iff.mpr hshort
  simp [isAccepted, Key.isAccepted, key, Key.place, Place.isProper, isNamed, hid, hfits]

end StoreCall

def Records.withItem (records : Records) (name : String) : List String :=
  if name ∈ records.items then records.items else records.items ++ [name]

/-- The records after a call that is accepted. -/
def Records.after (records : Records) : StoreCall → Records
  | .writeStory story scope => Function.update records (.story scope story.id) (some story)
  | .saveProgress player id state now =>
    Function.update records (.save player id) (some ⟨state, some now⟩)
  | .saveCodes codes => Function.update records .codes (some codes)
  | .addItem name => Function.update records .items (some ⟨records.withItem name⟩)
  | .putSession player session =>
    Function.update records .sessions (some (records.sessions.insert player session))
  | .removeSession player =>
    Function.update records .sessions ((records .sessions).map (·.erase player))

namespace Library

variable {library : Library} {records : Records} {call : StoreCall} {key : Key} {top : Entry}

theorem Stores.readStory (hstores : library.Stores records top) {scope : Visibility} {id : String}
    (haccepted : (Key.story scope id).isAccepted = true) :
    (library.readStory id scope).run top = ((Key.story scope id).found records, top) := by
  obtain ⟨hid, hfits⟩ := Bool.and_eq_true_iff.mp haccepted
  rw [Key.found]
  cases hrecord : records (.story scope id) with
  | some story => exact hstores.keeps_shelf.readStory_eq_ok.mpr ⟨hrecord, rfl⟩
  | none =>
      have htext := hstores.readText_none (.story scope id) hid hfits hrecord
      have hmissing : (library.storyText id scope).run top =
          (.error (.storyNotFound id scope), top) := by
        rw [storyText, run_bind_of_ok (checkKey_eq_ok.mpr ⟨hid, rfl⟩)]
        exact run_bind_of_ok htext _
      exact run_bind_of_error hmissing _

theorem Stores.read_key (hstores : library.Stores records top) (haccepted : key.isAccepted = true) :
    (key.read library).run top = (key.found records, top) := by
  cases key with
  | story scope id => exact hstores.readStory haccepted
  | codes => exact hstores.codes
  | progress player id =>
      obtain ⟨hproper, hfits⟩ := Bool.and_eq_true_iff.mp haccepted
      obtain ⟨hplayer, hid⟩ := Place.isProper_save_iff.mp hproper
      have hsave : (library.loadSave player id).run top =
          (.ok (records (.save player id)), top) := by
        rw [loadSave, run_bind_of_ok (checkKey_eq_ok.mpr ⟨hplayer, rfl⟩),
          run_bind_of_ok (checkKey_eq_ok.mpr ⟨hid, rfl⟩)]
        exact hstores.read (.save player id) hproper hfits
      exact run_bind_of_ok hsave _
  | items => exact hstores.items
  | session player => exact run_bind_of_ok hstores.sessions _

theorem Stores.addItem (hstores : library.Stores records top) {name : String}
    (hname : Text.isBlank name = false) :
    ∃ after, ((StoreCall.addItem name).perform library).run top = (.ok (), after) ∧
      library.Stores (records.after (.addItem name)) after := by
  obtain ⟨after, hwrite, hafter⟩ := hstores.write .items rfl rfl
    (ItemBank.keeps ⟨records.withItem name⟩)
  have hcheck : (checkName .item name).run top = (.ok (), top) := by
    rw [checkName, if_neg (Bool.eq_false_iff.mp hname)]
    rfl
  have hadd : (library.addItem name).run top = (.ok (records.withItem name), after) := by
    rw [Library.addItem, run_bind_of_ok hcheck, run_bind_of_ok hstores.items]
    exact run_bind_of_ok hwrite _
  exact ⟨after, run_bind_of_ok hadd _, hafter⟩

theorem Stores.putSession (hstores : library.Stores records top) {player : String}
    (hplayer : isKey player = true) (session : Session) :
    ∃ after, ((StoreCall.putSession player session).perform library).run top = (.ok (), after) ∧
      library.Stores (records.after (.putSession player session)) after := by
  obtain ⟨after, hwrite, hafter⟩ := hstores.write .sessions rfl rfl
    (Session.keeps_all (records.sessions.insert player session))
  have hput : ((SessionStore.file library).put player session).run top =
      (.ok (.file library), after) := by
    rw [SessionStore.put, run_bind_of_ok (checkKey_eq_ok.mpr ⟨hplayer, rfl⟩),
      run_bind_of_ok hstores.sessions]
    exact run_bind_of_ok hwrite _
  exact ⟨after, run_bind_of_ok hput _, hafter⟩

theorem Stores.removeSession (hstores : library.Stores records top) (player : String) :
    ∃ after, ((StoreCall.removeSession player).perform library).run top = (.ok (), after) ∧
      library.Stores (records.after (.removeSession player)) after := by
  cases hsession : records.sessions.find? player with
  | none =>
      have hsame : records.after (.removeSession player) = records := by
        have herased : (records .sessions).map (·.erase player) = records .sessions := by
          cases hall : records .sessions with
          | none => rfl
          | some sessions =>
              rw [Records.sessions, hall] at hsession
              exact congrArg some (Dict.erase_of_find? hsession)
        rw [Records.after, herased, Function.update_eq_self]
      have hremove : ((SessionStore.file library).remove player).run top =
          (.ok (none, .file library), top) := by
        rw [SessionStore.remove, run_bind_of_ok hstores.sessions, hsession]
        rfl
      exact ⟨top, run_bind_of_ok hremove _, hsame.symm ▸ hstores⟩
  | some session =>
      have hall : records .sessions = some records.sessions := by
        cases hall : records .sessions with
        | none =>
            rw [Records.sessions, hall] at hsession
            cases hsession
        | some sessions => rw [Records.sessions, hall, Option.getD_some]
      obtain ⟨after, hwrite, hafter⟩ := hstores.write .sessions rfl rfl
        (Session.keeps_all (records.sessions.erase player))
      have hremove : ((SessionStore.file library).remove player).run top =
          (.ok (some session, .file library), after) := by
        rw [SessionStore.remove, run_bind_of_ok hstores.sessions, hsession]
        exact run_bind_of_ok hwrite _
      rw [Records.after, hall]
      exact ⟨after, run_bind_of_ok hremove _, hafter⟩

theorem Stores.perform (hstores : library.Stores records top) (haccepted : call.isAccepted = true) :
    ∃ after, (call.perform library).run top = (.ok (), after) ∧
      library.Stores (records.after call) after := by
  obtain ⟨hkey, hnamed⟩ := Bool.and_eq_true_iff.mp haccepted
  obtain ⟨hproper, hfits⟩ := Bool.and_eq_true_iff.mp hkey
  cases call with
  | writeStory story scope =>
      rw [StoreCall.perform, run_writeStory hproper]
      exact hstores.write (.story scope story.id) hproper hfits (Story.keeps story)
  | saveProgress player id state now =>
      obtain ⟨hplayer, hid⟩ := Place.isProper_save_iff.mp hproper
      rw [StoreCall.perform, run_saveProgress hplayer hid]
      exact hstores.write (.save player id) hproper hfits (Save.keeps now.2)
  | saveCodes codes => exact hstores.write .codes rfl rfl (CodeEntry.keeps_all codes)
  | addItem name => exact hstores.addItem (Bool.not_eq_true' _ ▸ hnamed)
  | putSession player session => exact hstores.putSession hnamed session
  | removeSession player => exact hstores.removeSession player

theorem Stores.perform_error (hstores : library.Stores records top)
    (hrefused : call.isAccepted = false) :
    ∃ error after, (call.perform library).run top = (.error error, after) ∧
      library.Stores records after := by
  cases call with
  | writeStory story scope =>
      cases hid : isKey story.id with
      | false => exact ⟨_, top, run_bind_of_error (run_checkKey_error hid top) _, hstores⟩
      | true =>
          have hlong : (Place.story scope story.id).fits = false := by
            simpa [StoreCall.isAccepted, Key.isAccepted, StoreCall.key, Key.place, Place.isProper,
              StoreCall.isNamed, hid] using hrefused
          rw [StoreCall.perform, run_writeStory hid]
          exact hstores.write_error (.story scope story.id) hid hlong story
  | saveProgress player id state now =>
      cases hplayer : isKey player with
      | false => exact ⟨_, top, run_bind_of_error (run_checkKey_error hplayer top) _, hstores⟩
      | true =>
          cases hid : isKey id with
          | false =>
              refine ⟨.invalidKey .story id, top, ?_, hstores⟩
              rw [StoreCall.perform, Library.saveProgress,
                run_bind_of_ok (checkKey_eq_ok.mpr ⟨hplayer, rfl⟩)]
              exact run_bind_of_error (run_checkKey_error hid top) _
          | true =>
              have hlong : (Place.save player id).fits = false := by
                simpa [StoreCall.isAccepted, Key.isAccepted, StoreCall.key, Key.place,
                  Place.isProper, StoreCall.isNamed, hplayer, hid] using hrefused
              rw [StoreCall.perform, run_saveProgress hplayer hid]
              exact hstores.write_error (.save player id)
                (Place.isProper_save_iff.mpr ⟨hplayer, hid⟩) hlong ⟨state, some now⟩
  | saveCodes codes => cases hrefused
  | addItem name =>
      have hblank : Text.isBlank name = true := (Bool.not_eq_false' _).mp hrefused
      have hcheck : (checkName .item name).run top = (.error (.emptyName .item), top) := by
        rw [checkName, if_pos hblank]
        rfl
      have hadd : (library.addItem name).run top = (.error (.emptyName .item), top) :=
        run_bind_of_error hcheck _
      exact ⟨_, top, run_bind_of_error hadd _, hstores⟩
  | putSession player session =>
      have hput : ((SessionStore.file library).put player session).run top =
          (.error (.invalidKey .player player), top) :=
        run_bind_of_error (run_checkKey_error hrefused top) _
      exact ⟨_, top, run_bind_of_error hput _, hstores⟩
  | removeSession player => cases hrefused

theorem Stores.run_perform (hstores : library.Stores records top) (call : StoreCall) :
    library.Stores (if call.isAccepted = true then records.after call else records)
      ((call.perform library).run top).2 := by
  split
  · rename_i haccepted
    obtain ⟨after, hrun, hafter⟩ := hstores.perform haccepted
    rw [hrun]
    exact hafter
  · rename_i hrefused
    obtain ⟨error, after, hrun, hafter⟩ :=
      hstores.perform_error (Bool.eq_false_iff.mpr hrefused)
    rw [hrun]
    exact hafter

/-- The files of a library after some calls to its stores, be it that these succeed or not. -/
def afterStoreCalls (library : Library) : Entry → List StoreCall → Entry :=
  List.foldl fun top call => ((call.perform library).run top).2

theorem Stores.afterStoreCalls (hstores : library.Stores records top) (calls : List StoreCall) :
    library.Stores ((calls.filter StoreCall.isAccepted).foldl Records.after records)
      (library.afterStoreCalls top calls) := by
  rw [List.foldl_filter]
  induction calls generalizing records top with
  | nil => exact hstores
  | cons call calls ih => exact ih (hstores.run_perform call)

end Library

namespace StoreCall

def story? (scope : Visibility) (id : String) : StoreCall → Option Story
  | .writeStory story other => if other = scope ∧ story.id = id then some story else none
  | _ => none

def state? (player id : String) : StoreCall → Option PlayerState
  | .saveProgress other story state _ => if other = player ∧ story = id then some state else none
  | _ => none

def codes? : StoreCall → Option (Dict CodeEntry)
  | .saveCodes codes => some codes
  | _ => none

def item? : StoreCall → Option String
  | .addItem name => some name
  | _ => none

/-- The session that a call gives to a player, or that it gives none. -/
def session? (player : String) : StoreCall → Option (Option Session)
  | .putSession other session => if other = player then some (some session) else none
  | .removeSession other => if other = player then some none else none
  | _ => none

end StoreCall

/-- What is read under a key after some calls that are accepted: what was put there last, and all
items that were added. -/
def Key.answer (calls : List StoreCall) : (key : Key) → Except LibraryError key.Answer
  | .story scope id =>
    (calls.filterMap (StoreCall.story? scope id)).getLast?.elim
      (.error (.storyNotFound id scope)) .ok
  | .codes => .ok ((calls.filterMap StoreCall.codes?).getLast?.getD ∅)
  | .progress player id => .ok (calls.filterMap (StoreCall.state? player id)).getLast?
  | .items => .ok (calls.filterMap StoreCall.item?).eraseDups
  | .session player => .ok (calls.filterMap (StoreCall.session? player)).getLast?.join

namespace Records

variable {records : Records} {call : StoreCall}

theorem after_of_ne {place : Place} (hplace : place ≠ call.key.place) :
    records.after call place = records place := by
  cases call <;> exact Function.update_of_ne hplace ..

theorem story_after (records : Records) (call : StoreCall) (scope : Visibility) (id : String) :
    records.after call (.story scope id) =
      (call.story? scope id).elim (records (.story scope id)) some := by
  cases call with
  | writeStory story other =>
      rw [StoreCall.story?]
      split
      · rename_i hplace
        obtain ⟨rfl, rfl⟩ := hplace
        exact Function.update_self ..
      · rename_i hplace
        refine after_of_ne ?_
        rintro ⟨⟩
        exact hplace ⟨rfl, rfl⟩
  | _ => exact after_of_ne (by rintro ⟨⟩)

theorem state_after (records : Records) (call : StoreCall) (player id : String) :
    (records.after call (.save player id)).map (·.state) =
      (call.state? player id).elim ((records (.save player id)).map (·.state)) some := by
  cases call with
  | saveProgress other story state now =>
      rw [StoreCall.state?]
      split
      · rename_i hplace
        obtain ⟨rfl, rfl⟩ := hplace
        rw [after, Function.update_self]
        rfl
      · rename_i hplace
        rw [after_of_ne]
        · rfl
        · rintro ⟨⟩
          exact hplace ⟨rfl, rfl⟩
  | _ =>
      rw [after_of_ne (by rintro ⟨⟩)]
      rfl

theorem codes_after (records : Records) (call : StoreCall) :
    (records.after call).codes = call.codes?.elim records.codes id := by
  cases call with
  | saveCodes table =>
      rw [codes, after, Function.update_self]
      rfl
  | _ =>
      rw [codes, after_of_ne (by rintro ⟨⟩)]
      rfl

theorem items_after (records : Records) (call : StoreCall) :
    (records.after call).items = call.item?.elim records.items records.withItem := by
  cases call with
  | addItem name =>
      rw [items, after, Function.update_self]
      rfl
  | _ =>
      rw [items, after_of_ne (by rintro ⟨⟩)]
      rfl

theorem session_after (records : Records) (call : StoreCall) (player : String) :
    (records.after call).sessions.find? player =
      (call.session? player).elim (records.sessions.find? player) id := by
  cases call with
  | putSession other session =>
      rw [sessions, after, Function.update_self, Option.getD_some, Dict.find?_insert,
        StoreCall.session?]
      split <;> rfl
  | removeSession other =>
      have herase : (records.after (.removeSession other)).sessions =
          records.sessions.erase other := by
        rw [sessions, sessions, after, Function.update_self]
        cases records .sessions <;> rfl
      rw [herase, Dict.find?_erase, StoreCall.session?]
      by_cases hplayer : player = other
      · rw [if_pos hplayer, if_pos hplayer.symm]
        rfl
      · rw [if_neg hplayer, if_neg (Ne.symm hplayer)]
        rfl
  | _ =>
      rw [sessions, after_of_ne (by rintro ⟨⟩)]
      rfl

theorem last_of_foldl_after {α β : Type} (look : Records → β) (put? : StoreCall → Option α)
    {give : α → β}
    (hstep : ∀ records call, look (records.after call) = (put? call).elim (look records) give)
    (records : Records) (calls : List StoreCall) :
    look (calls.foldl after records) =
      (calls.filterMap put?).getLast?.elim (look records) give := by
  induction calls generalizing records with
  | nil => rfl
  | cons call calls ih =>
      rw [List.foldl_cons, ih, hstep]
      cases hput : put? call with
      | none => rw [List.filterMap_cons_none hput, Option.elim_none]
      | some value =>
          rw [List.filterMap_cons_some hput, List.getLast?_cons]
          cases (calls.filterMap put?).getLast? <;> rfl

theorem story_of_foldl_after (calls : List StoreCall) (scope : Visibility) (id : String) :
    calls.foldl after empty (.story scope id) =
      (calls.filterMap (StoreCall.story? scope id)).getLast? := by
  have hlast := last_of_foldl_after (· (.story scope id)) (StoreCall.story? scope id)
    (story_after · · scope id) empty calls
  rw [hlast]
  cases (calls.filterMap (StoreCall.story? scope id)).getLast? <;> rfl

theorem items_of_foldl_after (calls : List StoreCall) :
    (calls.foldl after empty).items = (calls.filterMap StoreCall.item?).eraseDups := by
  -- the last call is taken off, as an item is new or not by what was added before it
  induction calls using List.reverseRecOn with
  | nil => rfl
  | append_singleton calls call ih =>
      rw [List.foldl_concat, items_after, List.filterMap_append]
      cases hitem : call.item? with
      | none =>
          rw [List.filterMap_cons_none hitem, List.filterMap_nil, List.append_nil]
          exact ih
      | some name =>
          rw [List.filterMap_cons_some hitem, List.filterMap_nil, eraseDups_concat,
            Option.elim_some, withItem, ih]
          simp only [List.mem_eraseDups]

/-- The records after some calls say what was put last under each key. -/
theorem found_of_foldl_after (calls : List StoreCall) (key : Key) :
    key.found (calls.foldl after empty) = key.answer calls := by
  cases key with
  | story scope id => rw [Key.found, Key.answer, story_of_foldl_after]
  | codes =>
      have hlast := last_of_foldl_after codes StoreCall.codes? codes_after empty calls
      rw [Key.found, Key.answer, hlast]
      cases (calls.filterMap StoreCall.codes?).getLast? <;> rfl
  | progress player id =>
      have hlast := last_of_foldl_after (fun records => (records (.save player id)).map (·.state))
        (StoreCall.state? player id) (state_after · · player id) empty calls
      rw [Key.found, Key.answer, hlast]
      cases (calls.filterMap (StoreCall.state? player id)).getLast? <;> rfl
  | items => rw [Key.found, Key.answer, items_of_foldl_after]
  | session player =>
      have hlast := last_of_foldl_after (·.sessions.find? player) (StoreCall.session? player)
        (session_after · · player) empty calls
      rw [Key.found, Key.answer, hlast]
      cases (calls.filterMap (StoreCall.session? player)).getLast? <;> rfl

theorem isSome_story_of_foldl_after (calls : List StoreCall) (scope : Visibility) (id : String) :
    ((calls.foldl after empty) (.story scope id)).isSome = true ↔
      ∃ story, .writeStory story scope ∈ calls ∧ story.id = id := by
  rw [story_of_foldl_after, List.getLast?_isSome]
  constructor
  · intro hne
    obtain ⟨story, hmem⟩ := List.exists_mem_of_ne_nil _ hne
    obtain ⟨call, hcall, hwrites⟩ := List.mem_filterMap.mp hmem
    cases call with
    | writeStory written other =>
        rw [StoreCall.story?] at hwrites
        split at hwrites
        · rename_i hplace
          obtain ⟨rfl, hid⟩ := hplace
          exact ⟨written, hcall, hid⟩
        · cases hwrites
    | _ => cases hwrites
  · rintro ⟨story, hcall, hid⟩
    exact List.ne_nil_of_mem (List.mem_filterMap.mpr ⟨_, hcall, if_pos ⟨rfl, hid⟩⟩)

end Records

theorem Key.answer_concat_of_ne {key : Key} {call : StoreCall} (hother : call.key ≠ key)
    (calls : List StoreCall) : key.answer (calls ++ [call]) = key.answer calls := by
  cases key with
  | story scope id =>
      have hnone : call.story? scope id = none := by
        cases call with
        | writeStory story other =>
            refine if_neg ?_
            rintro ⟨rfl, rfl⟩
            exact hother rfl
        | _ => rfl
      rw [answer, answer, filterMap_concat_none hnone]
  | codes =>
      have hnone : call.codes? = none := by
        cases call with
        | saveCodes codes => exact absurd rfl hother
        | _ => rfl
      rw [answer, answer, filterMap_concat_none hnone]
  | progress player id =>
      have hnone : call.state? player id = none := by
        cases call with
        | saveProgress other story state now =>
            refine if_neg ?_
            rintro ⟨rfl, rfl⟩
            exact hother rfl
        | _ => rfl
      rw [answer, answer, filterMap_concat_none hnone]
  | items =>
      have hnone : call.item? = none := by
        cases call with
        | addItem name => exact absurd rfl hother
        | _ => rfl
      rw [answer, answer, filterMap_concat_none hnone]
  | session player =>
      have hnone : call.session? player = none := by
        cases call with
        | putSession other session =>
            refine if_neg ?_
            rintro rfl
            exact hother rfl
        | removeSession other =>
            refine if_neg ?_
            rintro rfl
            exact hother rfl
        | _ => rfl
      rw [answer, answer, filterMap_concat_none hnone]

namespace Library

variable {library : Library} {top : Entry}

/-- Whether a library answers, after some calls to its stores, as independent tables would. -/
structure AnswersAsTables (library : Library) (top : Entry) (calls : List StoreCall) : Prop where
  /-- Another call succeeds exactly if it is accepted. -/
  accepts : ∀ call : StoreCall,
    ((call.perform library).run (library.afterStoreCalls top calls)).1 = .ok () ↔
      call.isAccepted = true
  /-- What is read under a key is what was put there last, and nothing is changed by that. -/
  reads : ∀ key : Key, key.isAccepted = true →
    (key.read library).run (library.afterStoreCalls top calls) =
      (key.answer (calls.filter StoreCall.isAccepted), library.afterStoreCalls top calls)
  /-- There is a story exactly where one was written. -/
  has : ∀ scope id, (Key.story scope id).isAccepted = true →
    ∃ found, (library.hasStory id scope).run (library.afterStoreCalls top calls) =
        (.ok found, library.afterStoreCalls top calls) ∧
      (found = true ↔
        ∃ story, .writeStory story scope ∈ calls.filter StoreCall.isAccepted ∧ story.id = id)
  /-- The stories that were written for everyone are listed in order. -/
  lists : ∃ ids, library.listedStories.run (library.afterStoreCalls top calls) =
      (.ok ids, library.afterStoreCalls top calls) ∧
    ids.Pairwise (Text.bytes · < Text.bytes ·) ∧
    ∀ id, id ∈ ids ↔
      ∃ story, .writeStory story .listed ∈ calls.filter StoreCall.isAccepted ∧ story.id = id
  /-- Another call changes nothing under other keys. -/
  frame : ∀ (call : StoreCall) (key : Key), key.isAccepted = true → call.key ≠ key →
    ((key.read library).run (library.afterStoreCalls top (calls ++ [call]))).1 =
      ((key.read library).run (library.afterStoreCalls top calls)).1

/-- A library that was empty answers, after any calls to its stores, as independent tables would. -/
theorem answersAsTables_afterStoreCalls (hempty : library.IsEmpty top) (calls : List StoreCall) :
    library.AnswersAsTables top calls := by
  have hstores := fun calls => hempty.stores.afterStoreCalls calls
  have hreads : ∀ calls (key : Key), key.isAccepted = true →
      (key.read library).run (library.afterStoreCalls top calls) =
        (key.answer (calls.filter StoreCall.isAccepted), library.afterStoreCalls top calls) := by
    intro calls key haccepted
    rw [(hstores calls).read_key haccepted, Records.found_of_foldl_after]
  have hshelf := (hstores calls).keeps_shelf
  have hstories := Records.isSome_story_of_foldl_after (calls.filter StoreCall.isAccepted)
  refine ⟨?_, hreads calls, ?_, ?_, ?_⟩
  · intro call
    cases haccepted : call.isAccepted with
    | true =>
        obtain ⟨after, hrun, -⟩ := (hstores calls).perform haccepted
        rw [hrun]
        exact iff_of_true rfl rfl
    | false =>
        obtain ⟨error, after, hrun, -⟩ := (hstores calls).perform_error haccepted
        rw [hrun]
        exact iff_of_false (by rintro ⟨⟩) Bool.false_ne_true
  · intro scope id haccepted
    have hid : isKey id = true := (Bool.and_eq_true_iff.mp haccepted).1
    exact ⟨_, hshelf.run_hasStory hid, hstories scope id⟩
  · obtain ⟨ids, hrun, hsorted, hids⟩ := hshelf.run_listedStories
    refine ⟨ids, hrun, hsorted.imp Text.bytes_lt, fun id => (hids id).trans ?_⟩
    exact Option.isSome_iff_exists.symm.trans (hstories .listed id)
  · intro call key haccepted hother
    rw [hreads _ key haccepted, hreads _ key haccepted, List.filter_append]
    cases hcall : call.isAccepted with
    | true => rw [List.filter_cons_of_pos hcall, List.filter_nil, Key.answer_concat_of_ne hother]
    | false =>
        rw [List.filter_cons_of_neg (Bool.eq_false_iff.mp hcall), List.filter_nil, List.append_nil]

end Library

/-- A story that is written twice and begun, and refused under a path, and a few items. -/
def housekeeping : List StoreCall :=
  [.writeStory (.fresh "cave" "The Cave" "Dark.") .listed,
    .writeStory (.fresh "../cave" "The Den" "Dark.") .listed,
    .addItem "Rope", .addItem " ", .putSession "ada" ⟨"cave", .listed⟩, .addItem "Lamp",
    .saveProgress "ada" "cave" (.begin (.fresh "cave" "The Cave" "Dark.") "ada")
      ⟨.epoch, Instant.isMoment_epoch⟩,
    .writeStory (.fresh "cave" "The Grotto" "Dark.") .listed, .removeSession "ada", .addItem "Rope"]

theorem answersAsTables_housekeeping :
    Library.here.IsEmpty (.folder []) ∧
      Library.here.AnswersAsTables (.folder []) housekeeping ∧
      ∃ top, Library.here.afterStoreCalls (.folder []) housekeeping = top ∧
        (Library.here.readStory "cave" .listed).run top =
          (.ok (.fresh "cave" "The Grotto" "Dark."), top) ∧
        Library.here.items.run top = (.ok ["Rope", "Lamp"], top) ∧
        ((SessionStore.file Library.here).get "ada").run top = (.ok none, top) := by
  have hanswers := Library.answersAsTables_afterStoreCalls isEmpty_here housekeeping
  have hstory : (Key.story .listed "cave").answer (housekeeping.filter StoreCall.isAccepted) =
      .ok (.fresh "cave" "The Grotto" "Dark.") := by
    decide +kernel
  have hitems : Key.items.answer (housekeeping.filter StoreCall.isAccepted) =
      .ok ["Rope", "Lamp"] := by
    decide +kernel
  have hsession : (Key.session "ada").answer (housekeeping.filter StoreCall.isAccepted) =
      .ok none := by
    decide +kernel
  refine ⟨isEmpty_here, hanswers, _, rfl, ?_, ?_, ?_⟩
  · rw [← hstory]
    exact hanswers.reads (.story .listed "cave") (by decide)
  · rw [← hitems]
    exact hanswers.reads .items rfl
  · rw [← hsession]
    exact hanswers.reads (.session "ada") rfl

end Gamebook
