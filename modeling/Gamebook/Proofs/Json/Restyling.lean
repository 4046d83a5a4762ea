import Gamebook.Json.Codec
import Gamebook.Proofs.Json.RoundTrip

/-!
Trees that present the same value in different ways. Members of a record may stand in any order,
among members that no field has the name of, and without fields that have their defaults; tables
may stand in any order, if no name is repeated. A tree that is restyled so, at any level, is read
as the same value (`Restyles.reads_alike`).
-/

namespace Gamebook.Json

/-- Whether a field is the one that is filled by members of its name. -/
inductive Fields.Has {α : Type} (field : Field α) : {types : List Type} → Fields types → Prop where
  | here {types : List Type} (rest : Fields types) : Has field (.cons field rest)
  | there {β : Type} {types : List Type} {other : Field β} {rest : Fields types}
      (hname : other.name ≠ field.name) (hrest : Has field rest) : Has field (.cons other rest)

/-- Whether a tree can be made from another one, for a reader of a type, by changes of the way that
a value of the type is presented in, at any level. -/
inductive Restyles : {α : Type} → Codec α → Tree → Tree → Prop where
  | refl {α : Type} (codec : Codec α) (tree : Tree) : Restyles codec tree tree
  | symm {α : Type} {codec : Codec α} {tree other : Tree} (hother : Restyles codec tree other) :
      Restyles codec other tree
  | trans {α : Type} {codec : Codec α} {tree other third : Tree}
      (hother : Restyles codec tree other) (hthird : Restyles codec other third) :
      Restyles codec tree third
  /-- An item of an array is restyled. -/
  | item {α : Type} {codec : Codec α} {tree other : Tree} (before after : List Tree)
      (hitem : Restyles codec tree other) :
      Restyles codec.list (.array (before ++ tree :: after) none)
        (.array (before ++ other :: after) none)
  /-- An entry of a table is restyled. -/
  | entry {α : Type} {codec : Codec α} {tree other : Tree} (before after : List (Name × Tree))
      (name : Name) (hentry : Restyles codec tree other) :
      Restyles codec.dict (.object (before ++ (name, tree) :: after) none)
        (.object (before ++ (name, other) :: after) none)
  /-- The entries of a table, none of which has the name of another one, change places. -/
  | entries {α : Type} (codec : Codec α) {members others : List (Name × Tree)}
      (hnames : (members.map Prod.fst).Nodup) (hperm : members.Perm others) :
      Restyles codec.dict (.object members none) (.object others none)
  /-- A value that is there, where there may be none, is restyled. -/
  | value {α : Type} {codec : Codec α} {tree other : Tree} (htree : tree ≠ .null)
      (hother : other ≠ .null) (hvalue : Restyles codec tree other) :
      Restyles codec.option tree other
  /-- A field of a record is restyled. -/
  | field {α β : Type} {types : List Type} {fields : Fields types} {toRow : α → Row types}
      {ofRow : Row types → α} {field : Field β} {tree other : Tree} (record : String)
      (before after : List (Name × Tree)) (hfield : fields.Has field)
      (hvalue : Restyles field.codec tree other) :
      Restyles (.record record fields toRow ofRow)
        (.object (before ++ (.ok field.name, tree) :: after) none)
        (.object (before ++ (.ok field.name, other) :: after) none)
  /-- The members of a record change places. -/
  | members {α : Type} {types : List Type} (record : String) (fields : Fields types)
      (toRow : α → Row types) (ofRow : Row types → α) {members others : List (Name × Tree)}
      (hperm : members.Perm others) :
      Restyles (.record record fields toRow ofRow) (.object members none) (.object others none)
  /-- A member that no field has the name of is put into a record. -/
  | unknown {α : Type} {types : List Type} {fields : Fields types} {key : String} {tree : Tree}
      (record : String) (toRow : α → Row types) (ofRow : Row types → α)
      (before after : List (Name × Tree)) (hkey : key ∉ fields.names) (htree : tree.IsWhole) :
      Restyles (.record record fields toRow ofRow) (.object (before ++ after) none)
        (.object (before ++ (.ok key, tree) :: after) none)
  /-- A field that is not there is put into a record with its default. -/
  | default {α β : Type} {types : List Type} {fields : Fields types} {field : Field β} {default : β}
      {tree : Tree} (record : String) (toRow : α → Row types) (ofRow : Row types → α)
      (before after : List (Name × Tree)) (hfield : fields.Has field)
      (habsent : field.absent = some default) (htree : field.codec.decode tree = .ok default)
      (hnew : ∀ member ∈ before ++ after, member.1 ≠ .ok field.name) :
      Restyles (.record record fields toRow ofRow) (.object (before ++ after) none)
        (.object (before ++ (.ok field.name, tree) :: after) none)

/-- Whether two trees are read as the same value, if any. -/
def Codec.ReadsAlike {α : Type} (codec : Codec α) (tree other : Tree) : Prop :=
  ∀ value, codec.decode tree = .ok value ↔ codec.decode other = .ok value

theorem map_eq_ok {ε α β : Type} {x : Except ε α} {f : α → β} {b : β} :
    x.map f = .ok b ↔ ∃ a, x = .ok a ∧ f a = b := by
  cases x with
  | error e => simp [Except.map]
  | ok a => simp [Except.map]

namespace Tree

variable {α : Type} {decode : Tree → Result α} {name : Name} {tree : Tree}

theorem readName_eq_ok_iff {key : String} : readName name = .ok key ↔ name = .ok key := by
  cases name <;> simp [readName]

theorem readItems_cons_eq_ok {items : List Tree} {values : List α} :
    readItems decode (tree :: items) = .ok values ↔
      ∃ value rest, decode tree = .ok value ∧ readItems decode items = .ok rest ∧
        values = value :: rest := by
  rw [readItems]
  constructor
  · intro hread
    obtain ⟨value, hvalue, hread⟩ := bind_eq_ok.mp hread
    obtain ⟨rest, hrest, hread⟩ := bind_eq_ok.mp hread
    exact ⟨value, rest, hvalue, hrest, (Except.ok.inj hread).symm⟩
  · rintro ⟨value, rest, hvalue, hrest, rfl⟩
    rw [hvalue, hrest]
    rfl

theorem readEntries_cons_eq_ok {table filled : Dict α} {members : List (Name × Tree)} :
    readEntries decode table ((name, tree) :: members) = .ok filled ↔
      ∃ key value, name = .ok key ∧ decode tree = .ok value ∧
        readEntries decode (table.insert key value) members = .ok filled := by
  rw [readEntries]
  constructor
  · intro hread
    obtain ⟨key, hname, hread⟩ := bind_eq_ok.mp hread
    obtain ⟨value, hvalue, hread⟩ := bind_eq_ok.mp hread
    exact ⟨key, value, readName_eq_ok_iff.mp hname, hvalue, hread⟩
  · rintro ⟨key, value, rfl, hvalue, hread⟩
    rw [hvalue]
    exact hread

theorem readEntries_perm {members others : List (Name × Tree)} (hperm : members.Perm others)
    (hnames : (members.map Prod.fst).Nodup) {table filled : Dict α}
    (hread : readEntries decode table members = .ok filled) :
    readEntries decode table others = .ok filled := by
  induction hperm generalizing table with
  | nil => exact hread
  | cons member _ ih =>
      obtain ⟨key, value, hname, hvalue, hrest⟩ := readEntries_cons_eq_ok.mp hread
      exact readEntries_cons_eq_ok.mpr
        ⟨key, value, hname, hvalue, ih (List.nodup_cons.mp hnames).2 hrest⟩
  | swap first second members =>
      obtain ⟨key, value, hname, hvalue, hrest⟩ := readEntries_cons_eq_ok.mp hread
      obtain ⟨other, held, hother, hheld, hrest⟩ := readEntries_cons_eq_ok.mp hrest
      have hne : key ≠ other := by
        rintro rfl
        refine (List.nodup_cons.mp hnames).1 ?_
        rw [List.map_cons, hname, hother]
        exact List.mem_cons_self
      rw [Dict.insert_comm hne] at hrest
      exact readEntries_cons_eq_ok.mpr ⟨other, held, hother, hheld,
        readEntries_cons_eq_ok.mpr ⟨key, value, hname, hvalue, hrest⟩⟩
  | trans hfirst _ ihfirst ihsecond =>
      exact ihsecond ((hfirst.map _).nodup_iff.mp hnames) (ihfirst hnames hread)

theorem IsWhole.skip_eq (hwhole : tree.IsWhole) : tree.skip = .ok () := by
  cases hwhole <;> rfl

end Tree

namespace Codec

variable {α : Type} {codec : Codec α} {tree other : Tree}

theorem ReadsAlike.symm (halike : codec.ReadsAlike tree other) : codec.ReadsAlike other tree :=
  fun value => (halike value).symm

theorem list_decode_eq_ok {items : List Tree} {values : List α} :
    codec.list.decode (.array items none) = .ok values ↔
      Tree.readItems codec.decode items = .ok values := by
  change (Tree.readItems codec.decode items).bind .ok = _ ↔ _
  cases Tree.readItems codec.decode items <;> rfl

theorem dict_decode_eq_ok {members : List (Name × Tree)} {table : Dict α} :
    codec.dict.decode (.object members none) = .ok table ↔
      Tree.readEntries codec.decode ∅ members = .ok table := by
  change (Tree.readEntries codec.decode ∅ members).bind .ok = _ ↔ _
  cases Tree.readEntries codec.decode ∅ members <;> rfl

theorem option_decode_of_ne (htree : tree ≠ .null) :
    codec.option.decode tree = (codec.decode tree).map some := by
  cases tree with
  | null => exact absurd rfl htree
  | _ => rfl

theorem record_decode_eq_ok {types : List Type} {record : String} {fields : Fields types}
    {toRow : α → Row types} {ofRow : Row types → α} {members : List (Name × Tree)} {value : α} :
    (Codec.record record fields toRow ofRow).decode (.object members none) = .ok value ↔
      ∃ draft row, fields.fillAll fields.blank members = .ok draft ∧
        fields.finish draft = .ok row ∧ ofRow row = value := by
  constructor
  · intro hread
    obtain ⟨draft, hdraft, hread⟩ := bind_eq_ok.mp hread
    obtain ⟨⟨⟩, -, hread⟩ := bind_eq_ok.mp hread
    obtain ⟨row, hrow, hread⟩ := bind_eq_ok.mp hread
    exact ⟨draft, row, hdraft, hrow, Except.ok.inj hread⟩
  · rintro ⟨draft, row, hdraft, hrow, rfl⟩
    change (fields.fillAll fields.blank members).bind _ = _
    rw [hdraft]
    change (fields.finish draft).bind _ = _
    rw [hrow]
    rfl

theorem ReadsAlike.item (halike : codec.ReadsAlike tree other) (before after : List Tree)
    {values : List α}
    (hread : Tree.readItems codec.decode (before ++ tree :: after) = .ok values) :
    Tree.readItems codec.decode (before ++ other :: after) = .ok values := by
  induction before generalizing values with
  | nil =>
      obtain ⟨value, rest, hvalue, hrest, rfl⟩ := Tree.readItems_cons_eq_ok.mp hread
      exact Tree.readItems_cons_eq_ok.mpr ⟨value, rest, (halike value).mp hvalue, hrest, rfl⟩
  | cons item before ih =>
      obtain ⟨value, rest, hvalue, hrest, rfl⟩ := Tree.readItems_cons_eq_ok.mp hread
      exact Tree.readItems_cons_eq_ok.mpr ⟨value, rest, hvalue, ih hrest, rfl⟩

theorem ReadsAlike.entry (halike : codec.ReadsAlike tree other) (before after : List (Name × Tree))
    (name : Name) {table filled : Dict α}
    (hread : Tree.readEntries codec.decode table (before ++ (name, tree) :: after) = .ok filled) :
    Tree.readEntries codec.decode table (before ++ (name, other) :: after) = .ok filled := by
  induction before generalizing table with
  | nil =>
      obtain ⟨key, value, hname, hvalue, hrest⟩ := Tree.readEntries_cons_eq_ok.mp hread
      exact Tree.readEntries_cons_eq_ok.mpr ⟨key, value, hname, (halike value).mp hvalue, hrest⟩
  | cons member before ih =>
      obtain ⟨key, value, hname, hvalue, hrest⟩ := Tree.readEntries_cons_eq_ok.mp hread
      exact Tree.readEntries_cons_eq_ok.mpr ⟨key, value, hname, hvalue, ih hrest⟩

end Codec

namespace Fields

variable {α β : Type} {types : List Type} {fields : Fields types} {draft filled : Draft types}
  {name other : String} {tree held : Tree} {members others : List (Name × Tree)}

theorem ok_cons_eq_ok_cons {found given : Option β} :
    (Except.ok (.cons found draft) : Result (Draft (β :: types))) = .ok (.cons given filled) ↔
      given = found ∧ filled = draft := by
  constructor
  · intro heq
    obtain ⟨hfound, hdraft⟩ := Prod.mk.inj (Except.ok.inj heq)
    exact ⟨hfound.symm, hdraft.symm⟩
  · rintro ⟨rfl, rfl⟩
    rfl

theorem fill_nil_eq_ok {draft filled : Draft []} :
    nil.fill name tree draft = .ok filled ↔ tree.skip = .ok () := by
  change tree.skip.map (fun _ => draft) = .ok filled ↔ _
  cases tree.skip with
  | error e => exact iff_of_false nofun nofun
  | ok skipped => exact iff_of_true rfl rfl

theorem fill_cons_eq_ok {field : Field β} {rest : Fields types} {found given : Option β} :
    (cons field rest).fill name tree (.cons found draft) = .ok (.cons given filled) ↔
      if field.name = name then
        found = none ∧ (∃ value, field.codec.decode tree = .ok value ∧ given = some value) ∧
          filled = draft
      else given = found ∧ rest.fill name tree draft = .ok filled := by
  split
  · rename_i hname
    subst hname
    cases found with
    | none =>
        rw [fill_cons_self]
        cases field.codec.decode tree with
        | error e => exact iff_of_false nofun nofun
        | ok value =>
            refine ok_cons_eq_ok_cons.trans ?_
            simp [eq_comm]
    | some value =>
        have hagain : (cons field rest).fill field.name tree (.cons (some value) draft) =
            .error (.duplicateField field.name) := if_pos rfl
        rw [hagain]
        exact iff_of_false nofun nofun
  · rename_i hname
    rw [fill_cons_of_ne hname]
    cases rest.fill name tree draft with
    | error e => exact iff_of_false nofun nofun
    | ok filled =>
        refine ok_cons_eq_ok_cons.trans ?_
        simp [eq_comm]

theorem fill_comm {middle : Draft types} (hfirst : fields.fill name tree draft = .ok middle)
    (hsecond : fields.fill other held middle = .ok filled) :
    ∃ middle, fields.fill other held draft = .ok middle ∧
      fields.fill name tree middle = .ok filled := by
  induction fields with
  | nil =>
      exact ⟨draft, fill_nil_eq_ok.mpr (fill_nil_eq_ok.mp hsecond),
        fill_nil_eq_ok.mpr (fill_nil_eq_ok.mp hfirst)⟩
  | cons field rest ih =>
      obtain ⟨found, draft⟩ := draft
      obtain ⟨between, middle⟩ := middle
      obtain ⟨given, filled⟩ := filled
      replace hfirst := fill_cons_eq_ok.mp hfirst
      replace hsecond := fill_cons_eq_ok.mp hsecond
      split at hfirst <;> split at hsecond
      · -- a field can be filled only once
        obtain ⟨-, ⟨value, -, rfl⟩, -⟩ := hfirst
        cases hsecond.1
      · rename_i hname hother
        obtain ⟨rfl, hvalue, rfl⟩ := hfirst
        obtain ⟨rfl, hrest⟩ := hsecond
        refine ⟨.cons none filled, fill_cons_eq_ok.mpr ?_, fill_cons_eq_ok.mpr ?_⟩
        · rw [if_neg hother]
          exact ⟨rfl, hrest⟩
        · rw [if_pos hname]
          exact ⟨rfl, hvalue, rfl⟩
      · rename_i hname hother
        obtain ⟨rfl, hrest⟩ := hfirst
        obtain ⟨rfl, hvalue, rfl⟩ := hsecond
        refine ⟨.cons given draft, fill_cons_eq_ok.mpr ?_, fill_cons_eq_ok.mpr ?_⟩
        · rw [if_pos hother]
          exact ⟨rfl, hvalue, rfl⟩
        · rw [if_neg hname]
          exact ⟨rfl, hrest⟩
      · rename_i hname hother
        obtain ⟨rfl, hfirst⟩ := hfirst
        obtain ⟨rfl, hsecond⟩ := hsecond
        obtain ⟨middle, hother', hname'⟩ := ih hfirst hsecond
        refine ⟨.cons given middle, fill_cons_eq_ok.mpr ?_, fill_cons_eq_ok.mpr ?_⟩
        · rw [if_neg hother]
          exact ⟨rfl, hother'⟩
        · rw [if_neg hname]
          exact ⟨rfl, hname'⟩

theorem fillAll_cons_eq_ok {key : Name} :
    fields.fillAll draft ((key, tree) :: members) = .ok filled ↔
      ∃ name middle, key = .ok name ∧ fields.fill name tree draft = .ok middle ∧
        fields.fillAll middle members = .ok filled := by
  rw [fillAll]
  constructor
  · intro hread
    obtain ⟨name, hname, hread⟩ := bind_eq_ok.mp hread
    obtain ⟨middle, hmiddle, hread⟩ := bind_eq_ok.mp hread
    exact ⟨name, middle, Tree.readName_eq_ok_iff.mp hname, hmiddle, hread⟩
  · rintro ⟨name, middle, rfl, hmiddle, hread⟩
    change (fields.fill name tree draft).bind _ = _
    rw [hmiddle]
    exact hread

theorem fillAll_perm (hperm : members.Perm others)
    (hread : fields.fillAll draft members = .ok filled) :
    fields.fillAll draft others = .ok filled := by
  induction hperm generalizing draft with
  | nil => exact hread
  | cons member _ ih =>
      obtain ⟨name, middle, hname, hmiddle, hrest⟩ := fillAll_cons_eq_ok.mp hread
      exact fillAll_cons_eq_ok.mpr ⟨name, middle, hname, hmiddle, ih hrest⟩
  | swap first second members =>
      obtain ⟨name, middle, hname, hmiddle, hrest⟩ := fillAll_cons_eq_ok.mp hread
      obtain ⟨other, last, hother, hlast, hrest⟩ := fillAll_cons_eq_ok.mp hrest
      obtain ⟨between, hbetween, hagain⟩ := fill_comm hmiddle hlast
      exact fillAll_cons_eq_ok.mpr ⟨other, between, hother, hbetween,
        fillAll_cons_eq_ok.mpr ⟨name, last, hname, hagain, hrest⟩⟩
  | trans _ _ ihfirst ihsecond => exact ihsecond (ihfirst hread)

theorem fill_unknown (hname : name ∉ fields.names) (hwhole : tree.IsWhole) :
    fields.fill name tree draft = .ok draft := by
  induction fields with
  | nil => exact fill_nil_eq_ok.mpr hwhole.skip_eq
  | cons field rest ih =>
      obtain ⟨found, draft⟩ := draft
      obtain ⟨hne, hrest⟩ := not_or.mp (mt List.mem_cons.mpr hname)
      refine fill_cons_eq_ok.mpr ?_
      rw [if_neg (Ne.symm hne)]
      exact ⟨rfl, ih hrest⟩

theorem Has.fill_alike {field : Field β} (hfield : fields.Has field)
    (halike : field.codec.ReadsAlike tree held)
    (hread : fields.fill field.name tree draft = .ok filled) :
    fields.fill field.name held draft = .ok filled := by
  induction hfield with
  | here rest =>
      obtain ⟨found, draft⟩ := draft
      obtain ⟨given, filled⟩ := filled
      replace hread := fill_cons_eq_ok.mp hread
      rw [if_pos rfl] at hread
      obtain ⟨rfl, ⟨value, hvalue, rfl⟩, rfl⟩ := hread
      refine fill_cons_eq_ok.mpr ?_
      rw [if_pos rfl]
      exact ⟨rfl, ⟨value, (halike value).mp hvalue, rfl⟩, rfl⟩
  | there hname hrest ih =>
      obtain ⟨found, draft⟩ := draft
      obtain ⟨given, filled⟩ := filled
      replace hread := fill_cons_eq_ok.mp hread
      rw [if_neg hname] at hread
      refine fill_cons_eq_ok.mpr ?_
      rw [if_neg hname]
      exact ⟨hread.1, ih hread.2⟩

/-- Whether two drafts of a record hold the same for all fields but one. -/
inductive Differ {β : Type} (field : Field β) (found given : Option β) :
    {types : List Type} → Fields types → Draft types → Draft types → Prop where
  | here {types : List Type} (rest : Fields types) (draft : Draft types) :
      Differ field found given (.cons field rest) (.cons found draft) (.cons given draft)
  | there {γ : Type} {types : List Type} {other : Field γ} {rest : Fields types}
      {draft changed : Draft types} (held : Option γ) (hname : other.name ≠ field.name)
      (hrest : Differ field found given rest draft changed) :
      Differ field found given (.cons other rest) (.cons held draft) (.cons held changed)

section

variable {field : Field β} {found given : Option β} {changed : Draft types}

theorem Differ.symm (hdiffer : Differ field found given fields draft changed) :
    Differ field given found fields changed draft := by
  induction hdiffer with
  | here rest draft => exact .here rest draft
  | there held hname hrest ih => exact .there held hname ih

theorem Differ.fill (hdiffer : Differ field found given fields draft changed)
    (hname : field.name ≠ name) (hread : fields.fill name tree draft = .ok filled) :
    ∃ last, fields.fill name tree changed = .ok last ∧
      Differ field found given fields filled last := by
  induction hdiffer with
  | here rest draft =>
      obtain ⟨between, filled⟩ := filled
      replace hread := fill_cons_eq_ok.mp hread
      rw [if_neg hname] at hread
      obtain ⟨rfl, hread⟩ := hread
      refine ⟨.cons given filled, fill_cons_eq_ok.mpr ?_, .here rest filled⟩
      rw [if_neg hname]
      exact ⟨rfl, hread⟩
  | @there _ _ other rest draft changed held hother hrest ih =>
      obtain ⟨between, filled⟩ := filled
      replace hread := fill_cons_eq_ok.mp hread
      split at hread
      · rename_i hsame
        obtain ⟨rfl, hvalue, rfl⟩ := hread
        refine ⟨.cons between changed, fill_cons_eq_ok.mpr ?_, .there between hother hrest⟩
        rw [if_pos hsame]
        exact ⟨rfl, hvalue, rfl⟩
      · rename_i hne
        obtain ⟨rfl, hread⟩ := hread
        obtain ⟨last, hlast, hdiffer⟩ := ih hread
        refine ⟨.cons between last, fill_cons_eq_ok.mpr ?_, .there between hother hdiffer⟩
        rw [if_neg hne]
        exact ⟨rfl, hlast⟩

theorem Differ.fillAll (hdiffer : Differ field found given fields draft changed)
    (hnew : ∀ member ∈ members, member.1 ≠ .ok field.name)
    (hread : fields.fillAll draft members = .ok filled) :
    ∃ last, fields.fillAll changed members = .ok last ∧
      Differ field found given fields filled last := by
  induction members generalizing draft changed with
  | nil =>
      obtain rfl := Except.ok.inj hread
      exact ⟨changed, rfl, hdiffer⟩
  | cons member members ih =>
      obtain ⟨name, middle, hname, hmiddle, hrest⟩ := fillAll_cons_eq_ok.mp hread
      have hne : field.name ≠ name := by
        rintro rfl
        exact hnew member List.mem_cons_self hname
      obtain ⟨between, hbetween, hsame⟩ := hdiffer.fill hne hmiddle
      obtain ⟨last, hlast, hend⟩ :=
        ih hsame (fun other hother => hnew other (List.mem_cons_of_mem _ hother)) hrest
      exact ⟨last, fillAll_cons_eq_ok.mpr ⟨name, between, hname, hbetween, hlast⟩, hend⟩

theorem Differ.finish_eq {default : β} (habsent : field.absent = some default)
    (hdiffer : Differ field none (some default) fields draft changed) :
    fields.finish draft = fields.finish changed := by
  induction hdiffer with
  | here rest draft =>
      rw [Draft.cons, Draft.cons, finish, finish, habsent]
      rfl
  | there held hname hrest ih =>
      rw [Draft.cons, Draft.cons, finish, finish, ih]

theorem Has.exists_fill_blank (hfield : fields.Has field) {value : β}
    (hvalue : field.codec.decode tree = .ok value) :
    ∃ changed, fields.fill field.name tree fields.blank = .ok changed ∧
      Differ field none (some value) fields fields.blank changed := by
  induction hfield with
  | here rest =>
      refine ⟨.cons (some value) rest.blank, fill_cons_eq_ok.mpr ?_, .here rest rest.blank⟩
      rw [if_pos rfl]
      exact ⟨rfl, ⟨value, hvalue, rfl⟩, rfl⟩
  | @there _ _ other rest hname hrest ih =>
      obtain ⟨changed, hchanged, hdiffer⟩ := ih
      refine ⟨.cons none changed, fill_cons_eq_ok.mpr ?_, .there none hname hdiffer⟩
      rw [if_neg hname]
      exact ⟨rfl, hchanged⟩

end

/-- What a record is read as from the members of an object. -/
def Gives (fields : Fields types) (members : List (Name × Tree)) (row : Row types) : Prop :=
  ∃ draft, fields.fillAll fields.blank members = .ok draft ∧ fields.finish draft = .ok row

variable {row : Row types}

theorem Gives.perm (hgives : fields.Gives members row) (hperm : members.Perm others) :
    fields.Gives others row := by
  obtain ⟨draft, hdraft, hrow⟩ := hgives
  exact ⟨draft, fillAll_perm hperm hdraft, hrow⟩

theorem gives_perm (hperm : members.Perm others) :
    fields.Gives members row ↔ fields.Gives others row :=
  ⟨fun hgives => hgives.perm hperm, fun hgives => hgives.perm hperm.symm⟩

theorem gives_middle {member : Name × Tree} {before after : List (Name × Tree)} :
    fields.Gives (before ++ member :: after) row ↔ fields.Gives (member :: (before ++ after)) row :=
  gives_perm List.perm_middle

theorem gives_unknown (hname : name ∉ fields.names) (hwhole : tree.IsWhole) :
    fields.Gives ((.ok name, tree) :: members) row ↔ fields.Gives members row := by
  have hsame : ∀ draft, fields.fillAll fields.blank ((.ok name, tree) :: members) = .ok draft ↔
      fields.fillAll fields.blank members = .ok draft := by
    intro draft
    rw [fillAll_cons_eq_ok]
    constructor
    · rintro ⟨other, middle, hother, hmiddle, hrest⟩
      obtain rfl := Except.ok.inj hother
      obtain rfl := Except.ok.inj ((fill_unknown hname hwhole).symm.trans hmiddle)
      exact hrest
    · intro hrest
      exact ⟨name, fields.blank, rfl, fill_unknown hname hwhole, hrest⟩
  simp only [Gives, hsame]

theorem Has.gives_alike {field : Field β} (hfield : fields.Has field)
    (halike : field.codec.ReadsAlike tree held)
    (hgives : fields.Gives ((.ok field.name, tree) :: members) row) :
    fields.Gives ((.ok field.name, held) :: members) row := by
  obtain ⟨draft, hdraft, hrow⟩ := hgives
  obtain ⟨name, middle, hname, hmiddle, hrest⟩ := fillAll_cons_eq_ok.mp hdraft
  obtain rfl := Except.ok.inj hname
  exact ⟨draft, fillAll_cons_eq_ok.mpr ⟨_, middle, rfl, hfield.fill_alike halike hmiddle, hrest⟩,
    hrow⟩

theorem Has.gives_default {field : Field β} {default : β} (hfield : fields.Has field)
    (habsent : field.absent = some default) (htree : field.codec.decode tree = .ok default)
    (hnew : ∀ member ∈ members, member.1 ≠ .ok field.name) :
    fields.Gives ((.ok field.name, tree) :: members) row ↔ fields.Gives members row := by
  obtain ⟨changed, hchanged, hdiffer⟩ := hfield.exists_fill_blank htree
  constructor
  · rintro ⟨draft, hdraft, hrow⟩
    obtain ⟨name, middle, hname, hmiddle, hrest⟩ := fillAll_cons_eq_ok.mp hdraft
    obtain rfl := Except.ok.inj hname
    obtain rfl := Except.ok.inj (hchanged.symm.trans hmiddle)
    obtain ⟨last, hlast, hend⟩ := hdiffer.symm.fillAll hnew hrest
    exact ⟨last, hlast, (hend.symm.finish_eq habsent).trans hrow⟩
  · rintro ⟨draft, hdraft, hrow⟩
    obtain ⟨last, hlast, hend⟩ := hdiffer.fillAll hnew hdraft
    exact ⟨last, fillAll_cons_eq_ok.mpr ⟨_, changed, rfl, hchanged, hlast⟩,
      (hend.finish_eq habsent).symm.trans hrow⟩

end Fields

theorem Codec.readsAlike_record {α : Type} {types : List Type} {record : String}
    {fields : Fields types} {toRow : α → Row types} {ofRow : Row types → α}
    {members others : List (Name × Tree)}
    (hgives : ∀ row, fields.Gives members row ↔ fields.Gives others row) :
    (Codec.record record fields toRow ofRow).ReadsAlike (.object members none)
      (.object others none) := by
  intro value
  rw [record_decode_eq_ok, record_decode_eq_ok]
  constructor
  · rintro ⟨draft, row, hdraft, hrow, hvalue⟩
    obtain ⟨last, hlast, hend⟩ := (hgives row).mp ⟨draft, hdraft, hrow⟩
    exact ⟨last, row, hlast, hend, hvalue⟩
  · rintro ⟨draft, row, hdraft, hrow, hvalue⟩
    obtain ⟨last, hlast, hend⟩ := (hgives row).mpr ⟨draft, hdraft, hrow⟩
    exact ⟨last, row, hlast, hend, hvalue⟩

/-- A tree that is restyled is read as the same value. -/
theorem Restyles.reads_alike {α : Type} {codec : Codec α} {tree other : Tree}
    (hrestyles : Restyles codec tree other) : codec.ReadsAlike tree other := by
  induction hrestyles with
  | refl codec tree => exact fun value => Iff.rfl
  | symm _ ih => exact ih.symm
  | trans _ _ ihfirst ihsecond => exact fun value => (ihfirst value).trans (ihsecond value)
  | item before after _ ih =>
      intro values
      rw [Codec.list_decode_eq_ok, Codec.list_decode_eq_ok]
      exact ⟨ih.item before after, ih.symm.item before after⟩
  | entry before after name _ ih =>
      intro table
      rw [Codec.dict_decode_eq_ok, Codec.dict_decode_eq_ok]
      exact ⟨ih.entry before after name, ih.symm.entry before after name⟩
  | entries codec hnames hperm =>
      intro table
      rw [Codec.dict_decode_eq_ok, Codec.dict_decode_eq_ok]
      exact ⟨Tree.readEntries_perm hperm hnames,
        Tree.readEntries_perm hperm.symm ((hperm.map _).nodup_iff.mp hnames)⟩
  | @value _ codec tree other htree hother _ ih =>
      intro value?
      rw [Codec.option_decode_of_ne htree, Codec.option_decode_of_ne hother, map_eq_ok, map_eq_ok]
      exact exists_congr fun value => and_congr_left' (ih value)
  | field record before after hfield _ ih =>
      refine Codec.readsAlike_record fun row => ?_
      rw [Fields.gives_middle, Fields.gives_middle]
      exact ⟨hfield.gives_alike ih, hfield.gives_alike ih.symm⟩
  | members record fields toRow ofRow hperm =>
      exact Codec.readsAlike_record fun row => Fields.gives_perm hperm
  | unknown record toRow ofRow before after hkey htree =>
      refine Codec.readsAlike_record fun row => ?_
      rw [Fields.gives_middle, Fields.gives_unknown hkey htree]
  | default record toRow ofRow before after hfield habsent htree hnew =>
      refine Codec.readsAlike_record fun row => ?_
      rw [Fields.gives_middle,
        hfield.gives_default habsent htree hnew]

section

variable {α : Type} {codec : Codec α} {value : α} {text : String} {tree : Tree}

theorem Codec.isUnfinished_of_record {types : List Type} {record : String} {fields : Fields types}
    {toRow : α → Row types} {ofRow : Row types → α}
    (hread : (Codec.record record fields toRow ofRow).decode tree = .ok value) :
    tree.isUnfinished = false := by
  cases tree with
  | array items stop =>
      cases stop with
      | none => rfl
      | some b =>
          obtain ⟨⟨row, left⟩, -, hread⟩ := bind_eq_ok.mp hread
          dsimp only at hread
          split at hread <;> cases hread
  | object members stop =>
      cases stop with
      | none => rfl
      | some b =>
          obtain ⟨draft, -, hread⟩ := bind_eq_ok.mp hread
          cases hread
  | broken b => cases hread
  | _ => rfl

theorem Document.decode_eq_ok {document : Document} :
    document.decode codec = .ok value ↔
      codec.decode document.root = .ok value ∧ document.trailing = false := by
  rw [decode]
  constructor
  · intro hread
    obtain ⟨found, hfound, hread⟩ := bind_eq_ok.mp hread
    dsimp only at hread
    split at hread
    · cases hread
    · rename_i htrailing
      obtain rfl := Except.ok.inj hread
      exact ⟨hfound, Bool.eq_false_iff.mpr htrailing⟩
  · rintro ⟨hvalue, htrailing⟩
    rw [hvalue, htrailing]
    rfl

theorem Tree.IsWrittenAs.codec_read_eq (hwritten : tree.IsWrittenAs text) :
    codec.read text = codec.decode tree := by
  rw [Codec.read, hwritten.read_eq, Document.decode]
  cases codec.decode tree <;> rfl

theorem Codec.exists_isWrittenAs {types : List Type} {record : String} {fields : Fields types}
    {toRow : α → Row types} {ofRow : Row types → α}
    (hread : (Codec.record record fields toRow ofRow).read text = .ok value) :
    ∃ tree : Tree, tree.IsWrittenAs text := by
  obtain ⟨hroot, htrailing⟩ := Document.decode_eq_ok.mp hread
  exact ⟨_, Document.isWrittenAs_root (isUnfinished_of_record hroot) htrailing⟩

end

end Gamebook.Json
