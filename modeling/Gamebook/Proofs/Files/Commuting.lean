import Gamebook.Proofs.Files.Folders
import Gamebook.Proofs.Files.Looking
import Mathlib.Tactic.Choose

/-!
Programs that can be run in either order: each of them answers the same before and after the other
one, and both leave the same files (`FileAction.CommutesOn`). It is enough that the programs which
they are made of can (`CommutesOn.bind`). Programs that work under two different names in one folder
always can (`ActsAt.commutesOn`).
-/

namespace Gamebook

namespace Dict

variable {α : Type} {key other : String} {value held : α} {entries : List (String × α)}

theorem put_put_self : put key value (put key held entries) = put key value entries := by
  induction entries with
  | nil => simp [put]
  | cons entry rest ih =>
      by_cases hlt : key < entry.1
      · simp [put, hlt]
      · by_cases hkey : entry.1 = key
        · simp [put, hkey]
        · simp [put, hlt, hkey, ih]

theorem put_comm (hne : key ≠ other) :
    put key value (put other held entries) = put other held (put key value entries) := by
  induction entries with
  | nil => grind [put]
  | cons entry rest ih => grind [put]

end Dict

namespace Entry

variable {top entry inner : Entry} {base below : List String} {name : String}
  {entries : List (String × Entry)}

theorem replace_replace (hbase : top.walk base = .ok entry) (first second : Entry) :
    (top.replace base first).replace base second = top.replace base second := by
  induction base generalizing top with
  | nil => simp only [replace]
  | cons name base ih =>
      obtain ⟨entries, held, rfl, -, hlook, hheld⟩ := walk_cons_eq_ok.mp hbase
      have hput : Dict.lookup name (Dict.put name (held.replace base first) entries) =
          some (held.replace base first) := by
        rw [Dict.lookup_put, if_pos rfl]
      simp only [replace, hlook, hput, Dict.put_put_self, ih hheld]

theorem makeFolders_makeFolders (base below : List String) (top : Entry) :
    makeFolders (base ++ below) (makeFolders base top).2 = makeFolders (base ++ below) top := by
  induction base generalizing top with
  | nil => cases top <;> rfl
  | cons name base ih =>
      cases top with
      | file content => rfl
      | folder entries =>
          rw [List.cons_append, makeFolders]
          split
          · rfl
          · rename_i hshort
            rw [makeFolders, makeFolders, if_neg hshort, if_neg hshort]
            simp only [Dict.lookup_put, if_true, Option.getD_some, Dict.put_put_self, ih]

/-- Whether a path leads to a folder. -/
def HasFolder (base : List String) (top : Entry) : Prop :=
  ∃ entries, top.walk base = .ok (.folder entries)

/-- What becomes of a folder when there is work under one of its names: nothing, or it is written
anew with the same entries, or with another entry under this name. -/
inductive Change where
  | keep
  | touch
  | put (inner : Entry)

namespace Change

/-- The entries of a folder after a change under a name. -/
def on (name : String) (entries : List (String × Entry)) : Change → List (String × Entry)
  | .keep => entries
  | .touch => entries
  | .put inner => Dict.put name inner entries

def entry? (held : Option Entry) : Change → Option Entry
  | .keep => held
  | .touch => held
  | .put inner => some inner

/-- One change after another one. -/
def andThen : Change → Change → Change
  | first, .keep => first
  | .put inner, .touch => .put inner
  | _, .touch => .touch
  | _, .put inner => .put inner

theorem lookup_on (change : Change) (name other : String) (entries : List (String × Entry)) :
    Dict.lookup other (change.on name entries) =
      if name = other then change.entry? (Dict.lookup other entries)
      else Dict.lookup other entries := by
  cases change with
  | keep => exact (ite_self _).symm
  | touch => exact (ite_self _).symm
  | put inner => exact Dict.lookup_put ..

end Change

/-- A folder after a change under a name in the folder that a path leads to. -/
def changed (top : Entry) (base : List String) (name : String) (entries : List (String × Entry)) :
    Change → Entry
  | .keep => top
  | .touch => top.replace base (.folder entries)
  | .put inner => top.replace base (.folder (Dict.put name inner entries))

/-- What making the folders of a path does under the first name of the path, and its fault. -/
def madeUnder (name : String) (below : List String) (held : Option Entry) :
    Option FileFault × Change :=
  if isTooLong name then (some .nameTooLong, .touch)
  else
    let made := makeFolders below (held.getD (.folder []))
    (made.1, .put made.2)

/-- What writing a file does under the first name of its path, and its fault. -/
def writtenUnder (content : Content) (name : String) (below : List String) (held : Option Entry) :
    Option FileFault × Change :=
  if isTooLong name then (some .nameTooLong, .keep)
  else
    match held with
    | some inner =>
        match writeFile content below inner with
        | .ok written => (none, .put written)
        | .error fault => (some fault, .keep)
    | none =>
        if below = [] then (none, .put (.file content)) else (some .missing, .keep)

theorem walk_changed (hbase : top.walk base = .ok (.folder entries)) (name : String)
    (change : Change) :
    (top.changed base name entries change).walk base = .ok (.folder (change.on name entries)) := by
  cases change with
  | keep => exact hbase
  | touch => exact walk_replace hbase _
  | put inner => exact walk_replace hbase _

theorem changed_changed (hbase : top.walk base = .ok (.folder entries)) (name : String)
    (first second : Change) :
    (top.changed base name entries first).changed base name (first.on name entries) second =
      top.changed base name entries (first.andThen second) := by
  cases first <;> cases second <;>
    simp [changed, Change.on, Change.andThen, replace_replace hbase, Dict.put_put_self]

theorem changed_comm {other : String} (hne : name ≠ other)
    (hbase : top.walk base = .ok (.folder entries)) (first second : Change) :
    (top.changed base name entries first).changed base other (first.on name entries) second =
      (top.changed base other entries second).changed base name (second.on other entries)
        first := by
  cases first <;> cases second <;>
    simp [changed, Change.on, replace_replace hbase, Dict.put_comm hne]

theorem walk_folder_congr {others : List (String × Entry)}
    (hlook : Dict.lookup name entries = Dict.lookup name others) :
    (folder entries).walk (name :: below) = (folder others).walk (name :: below) := by
  rw [walk, walk, hlook]

theorem walk_changed_beside {other : String} (hne : name ≠ other)
    (hbase : top.walk base = .ok (.folder entries)) (change : Change) (below : List String) :
    (top.changed base name entries change).walk (base ++ other :: below) =
      top.walk (base ++ other :: below) := by
  rw [walk_append (walk_changed hbase name change), walk_append hbase]
  apply walk_folder_congr
  rw [Change.lookup_on, if_neg hne]

/-- A folder with at most one entry. -/
def alone (name : String) (inner : Option Entry) : Entry :=
  .folder (inner.toList.map fun entry => (name, entry))

theorem walk_alone (hbase : top.walk base = .ok (.folder entries)) (below : List String) :
    top.walk (base ++ name :: below) =
      (alone name (Dict.lookup name entries)).walk (name :: below) := by
  rw [walk_append hbase]
  apply walk_folder_congr
  cases Dict.lookup name entries with
  | none => rfl
  | some inner => exact (if_pos rfl).symm

end Entry

namespace FileAction

variable {ε ε' α β : Type} {base below : List String} {name path : String}

theorem run_makeFolders_under {top : Entry} {entries : List (String × Entry)}
    (hpath : Path.names path = base ++ name :: below)
    (hbase : top.walk base = .ok (.folder entries)) (next : Option FileFault → FileAction ε α) :
    (FileAction.makeFolders path next).run top =
      (next (Entry.madeUnder name below (Dict.lookup name entries)).1).run
        (top.changed base name entries
          (Entry.madeUnder name below (Dict.lookup name entries)).2) := by
  rw [run, hpath, Entry.makeFolders_append hbase, Entry.makeFolders]
  simp only [Entry.madeUnder]
  cases Entry.isTooLong name <;> rfl

theorem run_writeText_under {top : Entry} {entries : List (String × Entry)} (text : String)
    (hpath : Path.names path = base ++ name :: below)
    (hbase : top.walk base = .ok (.folder entries)) (next : Option FileFault → FileAction ε α) :
    (FileAction.writeText path text next).run top =
      (next (Entry.writtenUnder (.text text) name below (Dict.lookup name entries)).1).run
        (top.changed base name entries
          (Entry.writtenUnder (.text text) name below (Dict.lookup name entries)).2) := by
  rw [run, hpath, Entry.writeFile_append hbase, Entry.writeFile]
  simp only [Entry.writtenUnder]
  cases Entry.isTooLong name with
  | true => rfl
  | false =>
      cases Dict.lookup name entries with
      | some inner =>
          cases hinner : Entry.writeFile (.text text) below inner <;>
            simp [hinner, Except.map, Except.bind, Bind.bind, Pure.pure, Except.pure,
              Entry.changed]
      | none => by_cases hbelow : below = [] <;> simp [hbelow, Except.map, Entry.changed]

/-- Whether a program depends on the entry of one name in a folder alone, and changes nothing but
this entry, as long as the folder is there. -/
def ActsAt (base : List String) (name : String) (action : FileAction ε α) : Prop :=
  ∃ act : Option Entry → Except ε α × Entry.Change, ∀ top entries,
    top.walk base = .ok (.folder entries) →
      action.run top = ((act (Dict.lookup name entries)).1,
        top.changed base name entries (act (Dict.lookup name entries)).2)

namespace ActsAt

variable {action : FileAction ε α} {f : α → FileAction ε β}

theorem done (value : α) : (FileAction.done value : FileAction ε α).ActsAt base name :=
  ⟨fun _ => (.ok value, .keep), fun _ _ _ => rfl⟩

theorem fail (error : ε) : (FileAction.fail error : FileAction ε α).ActsAt base name :=
  ⟨fun _ => (.error error, .keep), fun _ _ _ => rfl⟩

theorem ofExcept (result : Except ε α) : (FileAction.ofExcept result).ActsAt base name := by
  cases result with
  | ok value => exact done value
  | error error => exact fail error

theorem bind (haction : action.ActsAt base name) (hnext : ∀ value, (f value).ActsAt base name) :
    (action >>= f).ActsAt base name := by
  obtain ⟨act, hact⟩ := haction
  choose next hnext using hnext
  refine ⟨fun held =>
    match act held with
    | (.ok value, change) =>
      ((next value (change.entry? held)).1,
        change.andThen (next value (change.entry? held)).2)
    | (.error error, change) => (.error error, change), ?_⟩
  intro top entries hbase
  rw [run_bind, hact top entries hbase]
  cases hfirst : act (Dict.lookup name entries) with
  | mk result change =>
      cases result with
      | error error => simp only [hfirst]
      | ok value =>
          simp only [hfirst]
          rw [hnext value _ _ (Entry.walk_changed hbase name change),
            Entry.changed_changed hbase, Entry.Change.lookup_on, if_pos rfl]

theorem attempt (haction : action.ActsAt base name) :
    (action.attempt : FileAction ε' (Except ε α)).ActsAt base name := by
  obtain ⟨act, hact⟩ := haction
  refine ⟨fun held => (.ok (act held).1, (act held).2), ?_⟩
  intro top entries hbase
  rw [run_attempt, hact top entries hbase]

theorem mapError (haction : action.ActsAt base name) (f : ε → ε') :
    (action.mapError f).ActsAt base name :=
  haction.attempt.bind fun _ => ofExcept _

theorem readText (hpath : Path.names path = base ++ name :: below)
    {next : Except FileFault String → FileAction ε α}
    (hnext : ∀ answer, (next answer).ActsAt base name) :
    (FileAction.readText path next).ActsAt base name := by
  have hread : (FileAction.readText path .done : FileAction ε _).ActsAt base name := by
    refine ⟨fun held => (.ok ((Entry.alone name held).readText (name :: below)), .keep), ?_⟩
    intro top entries hbase
    simp only [run, hpath, Entry.readText, Entry.contents, Entry.walk_alone hbase, Entry.changed]
  exact hread.bind hnext

theorem makeFolders (hpath : Path.names path = base ++ name :: below)
    {next : Option FileFault → FileAction ε α} (hnext : ∀ answer, (next answer).ActsAt base name) :
    (FileAction.makeFolders path next).ActsAt base name := by
  have hmake : (FileAction.makeFolders path .done : FileAction ε _).ActsAt base name := by
    refine ⟨fun held =>
      (.ok (Entry.madeUnder name below held).1, (Entry.madeUnder name below held).2), ?_⟩
    intro top entries hbase
    rw [run_makeFolders_under hpath hbase]
    rfl
  exact hmake.bind hnext

theorem writeText (hpath : Path.names path = base ++ name :: below) (text : String)
    {next : Option FileFault → FileAction ε α} (hnext : ∀ answer, (next answer).ActsAt base name) :
    (FileAction.writeText path text next).ActsAt base name := by
  have hwrite : (FileAction.writeText path text .done : FileAction ε _).ActsAt base name := by
    refine ⟨fun held => (.ok (Entry.writtenUnder (.text text) name below held).1,
      (Entry.writtenUnder (.text text) name below held).2), ?_⟩
    intro top entries hbase
    rw [run_writeText_under text hpath hbase]
    rfl
  exact hwrite.bind hnext

theorem preserves (haction : action.ActsAt base name) :
    action.Preserves (Entry.HasFolder base) := by
  obtain ⟨act, hact⟩ := haction
  rintro top ⟨entries, hbase⟩
  rw [hact top entries hbase]
  exact ⟨_, Entry.walk_changed hbase name _⟩

end ActsAt

/-- Whether two programs can be run in either order where something holds: each answers the same
before and after the other one, and what they leave is the same. -/
def CommutesOn (P : Entry → Prop) (first : FileAction ε α) (second : FileAction ε' β) : Prop :=
  ∀ top, P top →
    (second.run (first.run top).2).1 = (second.run top).1 ∧
      (first.run (second.run top).2).1 = (first.run top).1 ∧
      (second.run (first.run top).2).2 = (first.run (second.run top).2).2

section

variable {γ : Type} {P : Entry → Prop} {first : FileAction ε α} {second : FileAction ε' β}

theorem CommutesOn.symm (hcommutes : first.CommutesOn P second) : second.CommutesOn P first := by
  intro top htop
  obtain ⟨hsecond, hfirst, hafter⟩ := hcommutes top htop
  exact ⟨hfirst, hsecond, hafter.symm⟩

theorem CommutesOn.mono {Q : Entry → Prop} (hcommutes : first.CommutesOn P second)
    (hmono : ∀ top, Q top → P top) : first.CommutesOn Q second :=
  fun top htop => hcommutes top (hmono top htop)

theorem CommutesOn.bind {f : α → FileAction ε γ} (hfirst : first.CommutesOn P second)
    (hpreserves : first.Preserves P) (hnext : ∀ value, (f value).CommutesOn P second) :
    (first >>= f).CommutesOn P second := by
  intro top htop
  obtain ⟨hsecond, hsame, hafter⟩ := hfirst top htop
  have hmiddle := hpreserves top htop
  rw [run_bind, run_bind]
  cases hrun : first.run top with
  | mk result middle =>
      rw [hrun] at hsecond hsame hafter hmiddle
      cases hother : first.run (second.run top).2 with
      | mk result' middle' =>
          rw [hother] at hsame hafter
          obtain rfl : result' = result := hsame
          obtain rfl : (second.run middle).2 = middle' := hafter
          -- the second program has passed the first one, and is in front of what comes next
          cases result' with
          | error error => exact ⟨hsecond, rfl, rfl⟩
          | ok value =>
              obtain ⟨hlast, hvalue, hend⟩ := hnext value middle hmiddle
              exact ⟨hlast.trans hsecond, hvalue, hend⟩

theorem CommutesOn.attempt {ε'' : Type} (hcommutes : first.CommutesOn P second) :
    (first.attempt : FileAction ε'' (Except ε α)).CommutesOn P second := by
  intro top htop
  obtain ⟨hsecond, hfirst, hafter⟩ := hcommutes top htop
  rw [run_attempt, run_attempt]
  exact ⟨hsecond, congrArg Except.ok hfirst, hafter⟩

/-- A program that looks where nothing changes can be run before or after the change. -/
theorem Looks.commutesOn (hlooks : first.Looks)
    (hsame : ∀ top, P top → (first.run (second.run top).2).1 = (first.run top).1) :
    first.CommutesOn P second := by
  intro top htop
  rw [hlooks.run, hlooks.run]
  exact ⟨rfl, hsame top htop, rfl⟩

theorem Looks.commutesOn_looks (hfirst : first.Looks) (hsecond : second.Looks) :
    first.CommutesOn P second :=
  hfirst.commutesOn fun top _ => by rw [hsecond.run]

theorem commutesOn_ofExcept (result : Except ε α) : (ofExcept result).CommutesOn P second := by
  intro top _
  rw [run_ofExcept, run_ofExcept]
  exact ⟨rfl, rfl, rfl⟩

/-- Whether a program can be run before or after another one, and keeps up what this rests on. -/
structure PassesOn (P : Entry → Prop) (first : FileAction ε α) (second : FileAction ε' β) :
    Prop where
  commutes : first.CommutesOn P second
  preserves : first.Preserves P

namespace PassesOn

theorem done (value : α) : (FileAction.done value : FileAction ε α).PassesOn P second :=
  ⟨commutesOn_ofExcept (.ok value), (Looks.done value).preserves⟩

theorem fail (error : ε) : (FileAction.fail error : FileAction ε α).PassesOn P second :=
  ⟨commutesOn_ofExcept (.error error), (Looks.fail error).preserves⟩

theorem ofExcept (result : Except ε α) : (FileAction.ofExcept result).PassesOn P second :=
  ⟨commutesOn_ofExcept result, (Looks.ofExcept result).preserves⟩

theorem bind {f : α → FileAction ε γ} (hfirst : first.PassesOn P second)
    (hnext : ∀ value, (f value).PassesOn P second) : (first >>= f).PassesOn P second :=
  ⟨hfirst.commutes.bind hfirst.preserves fun value => (hnext value).commutes,
    hfirst.preserves.bind fun value => (hnext value).preserves⟩

theorem attempt {ε'' : Type} (hfirst : first.PassesOn P second) :
    (first.attempt : FileAction ε'' (Except ε α)).PassesOn P second := by
  refine ⟨hfirst.commutes.attempt, ?_⟩
  intro top htop
  rw [run_attempt]
  exact hfirst.preserves top htop

theorem mapError {ε'' : Type} (hfirst : first.PassesOn P second) (f : ε → ε'') :
    (first.mapError f).PassesOn P second :=
  hfirst.attempt.bind fun _ => ofExcept _

end PassesOn

theorem ActsAt.walk_beside {other : String} (hfirst : first.ActsAt base name)
    (hne : name ≠ other) {top : Entry} (htop : top.HasFolder base) (below : List String) :
    (first.run top).2.walk (base ++ other :: below) = top.walk (base ++ other :: below) := by
  obtain ⟨act, hact⟩ := hfirst
  obtain ⟨entries, hbase⟩ := htop
  rw [hact top entries hbase]
  exact Entry.walk_changed_beside hne hbase _ below

theorem ActsAt.exists_walk (hfirst : first.ActsAt base name) {top : Entry}
    (htop : top.HasFolder base) (hthere : ∃ entry, top.walk (base ++ [name]) = .ok entry) :
    ∃ entry, (first.run top).2.walk (base ++ [name]) = .ok entry := by
  obtain ⟨act, hact⟩ := hfirst
  obtain ⟨entries, hbase⟩ := htop
  obtain ⟨entry, hentry⟩ := hthere
  rw [Entry.walk_append hbase] at hentry
  obtain ⟨_, held, ⟨⟩, hshort, hlook, -⟩ := Entry.walk_cons_eq_ok.mp hentry
  rw [hact top entries hbase, Entry.walk_append (Entry.walk_changed hbase name _)]
  simp only [Entry.walk_cons_eq_ok]
  cases hchange : (act (Dict.lookup name entries)).2 with
  | put inner =>
      refine ⟨inner, _, inner, rfl, hshort, ?_, rfl⟩
      rw [Entry.Change.lookup_on, if_pos rfl]
      rfl
  | _ => exact ⟨held, entries, held, rfl, hshort, hlook, rfl⟩

/-- Programs that act at two names of one folder can be run in either order. -/
theorem ActsAt.commutesOn {other : String} (hfirst : first.ActsAt base name)
    (hsecond : second.ActsAt base other) (hne : name ≠ other) :
    first.CommutesOn (Entry.HasFolder base) second := by
  obtain ⟨act, hact⟩ := hfirst
  obtain ⟨act', hact'⟩ := hsecond
  rintro top ⟨entries, hbase⟩
  rw [hact top entries hbase, hact' top entries hbase]
  simp only
  rw [hact' _ _ (Entry.walk_changed hbase name _), hact _ _ (Entry.walk_changed hbase other _),
    Entry.Change.lookup_on, Entry.Change.lookup_on, if_neg hne, if_neg hne.symm]
  exact ⟨rfl, rfl, Entry.changed_comm hne hbase _ _⟩

end

end FileAction

end Gamebook
