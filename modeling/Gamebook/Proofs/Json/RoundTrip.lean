import Gamebook.Json.Codec
import Gamebook.Proofs.Json.Layout

namespace Gamebook.Json

namespace Codec

variable {α : Type}

/-- Whether a value reads back as it was from the tree of what is written for it. -/
structure Keeps (codec : Codec α) (value : α) : Prop where
  fits : (codec.encode value).Fits
  decodes : codec.decode (codec.encode value).tree = .ok value

theorem read_write_append {codec : Codec α} {value : α} (hkeeps : codec.Keeps value)
    {blanks : String} (hblanks : ∀ c ∈ blanks.toList, isSpace c = true) :
    codec.read (codec.write value ++ blanks) = .ok value := by
  rw [read, write, read_pretty_append hkeeps.fits hblanks, Document.decode, hkeeps.decodes]
  rfl

theorem read_write {codec : Codec α} {value : α} (hkeeps : codec.Keeps value) :
    codec.read (codec.write value) = .ok value := by
  have happend : codec.read (codec.write value ++ "") = .ok value :=
    read_write_append hkeeps (by simp)
  rwa [String.append_empty] at happend

theorem read_write_line {codec : Codec α} {value : α} (hkeeps : codec.Keeps value) :
    codec.read (codec.write value ++ "\n") = .ok value := by
  apply read_write_append hkeeps
  intro c hc
  obtain rfl : c = '\n' := List.mem_singleton.mp hc
  decide

theorem keeps_text (s : String) : text.Keeps s :=
  ⟨.text s, rfl⟩

theorem keeps_bool (b : Bool) : bool.Keeps b :=
  ⟨.bool b, rfl⟩

theorem keeps_int64 (n : Int64) : int64.Keeps n := by
  have hlow := n.le_toInt
  have hhigh := n.toInt_lt
  refine ⟨.int hlow (by omega), ?_⟩
  simp only [int64, tree, Text.int64?_toInt]

theorem keeps_nullableText (s : String) : nullableText.Keeps s :=
  ⟨.text s, rfl⟩

theorem readItems_treeItems {codec : Codec α} {values : List α}
    (hkeeps : ∀ value ∈ values, codec.Keeps value) :
    Tree.readItems codec.decode (treeItems (values.map codec.encode)) = .ok values := by
  induction values with
  | nil => rfl
  | cons value values ih =>
      have hrest := ih fun other hother => hkeeps other (List.mem_cons_of_mem _ hother)
      rw [List.map_cons, treeItems, Tree.readItems, (hkeeps value (by simp)).decodes, hrest]
      rfl

theorem keeps_list {codec : Codec α} {values : List α}
    (hkeeps : ∀ value ∈ values, codec.Keeps value) : codec.list.Keeps values := by
  constructor
  · refine .array fun item hitem => ?_
    obtain ⟨value, hvalue, rfl⟩ := List.mem_map.mp hitem
    exact (hkeeps value hvalue).fits
  · change (Tree.readItems codec.decode (treeItems (values.map codec.encode))).bind _ = _
    rw [readItems_treeItems hkeeps]
    rfl

theorem readEntries_treeMembers {codec : Codec α} {entries : List (String × α)}
    (hkeeps : ∀ entry ∈ entries, codec.Keeps entry.2) (table : Dict α) :
    Tree.readEntries codec.decode table
        (treeMembers (entries.map fun entry => (entry.1, codec.encode entry.2))) =
      Except.ok (entries.foldl (fun table entry => table.insert entry.1 entry.2) table) := by
  induction entries generalizing table with
  | nil => rfl
  | cons entry entries ih =>
      have hrest := ih (fun other hother => hkeeps other (List.mem_cons_of_mem _ hother))
        (table.insert entry.1 entry.2)
      rw [List.map_cons, treeMembers, Tree.readEntries]
      simp only [Tree.readName, (hkeeps entry (by simp)).decodes, bind, Except.bind]
      exact hrest

theorem keeps_dict {codec : Codec α} {table : Dict α}
    (hkeeps : ∀ entry ∈ table.entries, codec.Keeps entry.2) : codec.dict.Keeps table := by
  constructor
  · refine .object fun member hmember => ?_
    obtain ⟨entry, hentry, rfl⟩ := List.mem_map.mp hmember
    exact (hkeeps entry hentry).fits
  · change (Tree.readEntries codec.decode ∅
      (treeMembers (table.entries.map fun entry => (entry.1, codec.encode entry.2)))).bind _ = _
    rw [readEntries_treeMembers hkeeps]
    change Except.ok (Dict.ofList table.entries) = _
    rw [Dict.ofList_entries]

theorem keeps_none (codec : Codec α) : codec.option.Keeps none :=
  ⟨.null, rfl⟩

theorem keeps_some {codec : Codec α} {value : α} (hkeeps : codec.Keeps value)
    (hthere : codec.encode value ≠ .null) : codec.option.Keeps (some value) := by
  refine ⟨hkeeps.fits, ?_⟩
  have hdecodes := hkeeps.decodes
  simp only [option]
  cases hencode : codec.encode value with
  | null => exact absurd hencode hthere
  | _ =>
      rw [hencode] at hdecodes
      simp only [tree] at hdecodes ⊢
      rw [hdecodes]
      rfl

theorem keeps_variant {variants : List (String × α)} {nameOf : α → String} {value : α}
    (hname : Dict.lookup (nameOf value) variants = some value) :
    (variant variants nameOf).Keeps value := by
  refine ⟨.text _, ?_⟩
  change findVariant variants (.ok (nameOf value)) = _
  simp only [findVariant, Tree.readName, bind, Except.bind, hname]
  rfl

end Codec

/-- Whether a field keeps its value. A value with which the field is left out has to be its default.
-/
structure Field.Keeps {α : Type} (field : Field α) (value : α) : Prop where
  codec : field.codec.Keeps value
  absent : field.hidden value = true → field.absent = some value

namespace Field

variable {α : Type} {codec : Codec α} {value : α}

theorem keeps_required (name : String) (hkeeps : codec.Keeps value) :
    (required name codec).Keeps value :=
  ⟨hkeeps, fun hhidden => by cases hhidden⟩

theorem keeps_withDefault (name : String) (default : α) (hkeeps : codec.Keeps value) :
    (withDefault name codec default).Keeps value :=
  ⟨hkeeps, fun hhidden => by cases hhidden⟩

theorem keeps_sparse (name : String) {value : Option α} (hkeeps : codec.option.Keeps value) :
    (sparse name codec).Keeps value := by
  refine ⟨hkeeps, fun hhidden => ?_⟩
  cases value with
  | none => rfl
  | some value => cases hhidden

end Field

/-- What is found of a record with one more field in front. -/
def Draft.cons {α : Type} {types : List Type} (found : Option α) (draft : Draft types) :
    Draft (α :: types) :=
  (found, draft)

namespace Fields

def names : {types : List Type} → Fields types → List String
  | _, .nil => []
  | _, .cons field rest => field.name :: rest.names

/-- Whether fields keep the values of a record. -/
def Keeps : {types : List Type} → Fields types → Row types → Prop
  | _, .nil, _ => True
  | _, .cons field rest, (value, row) => field.Keeps value ∧ rest.Keeps row

/-- What is found of the values of a record that is written out. -/
def written : {types : List Type} → Fields types → Row types → Draft types
  | _, .nil, _ => ()
  | _, .cons field rest, (value, row) =>
    .cons (if field.hidden value then none else some value) (rest.written row)

theorem name_mem_names {types : List Type} (fields : Fields types) (row : Row types)
    {member : String × Json} (hmember : member ∈ fields.encode row) : member.1 ∈ fields.names := by
  induction fields with
  | nil => cases hmember
  | cons field rest ih =>
      obtain ⟨value, row⟩ := row
      rw [encode] at hmember
      rw [names]
      split at hmember
      · exact List.mem_cons_of_mem _ (ih row hmember)
      · rcases List.mem_cons.mp hmember with rfl | hmember
        · exact List.mem_cons_self ..
        · exact List.mem_cons_of_mem _ (ih row hmember)

theorem fits_of_mem_encode {types : List Type} {fields : Fields types} {row : Row types}
    (hkeeps : fields.Keeps row) {member : String × Json} (hmember : member ∈ fields.encode row) :
    member.2.Fits := by
  induction fields with
  | nil => cases hmember
  | cons field rest ih =>
      obtain ⟨value, row⟩ := row
      rw [encode] at hmember
      split at hmember
      · exact ih hkeeps.2 hmember
      · rcases List.mem_cons.mp hmember with rfl | hmember
        · exact hkeeps.1.codec.fits
        · exact ih hkeeps.2 hmember

section

variable {α : Type} {types : List Type}

theorem fill_cons_self (field : Field α) (rest : Fields types) (draft : Draft types) (value : Tree) :
    (cons field rest).fill field.name value (.cons none draft) =
      (field.codec.decode value).map fun value => .cons (some value) draft :=
  if_pos rfl

theorem fill_cons_of_ne {field : Field α} {name : String} (hname : field.name ≠ name)
    (rest : Fields types) (found : Option α) (draft : Draft types) (value : Tree) :
    (cons field rest).fill name value (.cons found draft) =
      (rest.fill name value draft).map (.cons found) :=
  if_neg hname

theorem fillAll_member (fields : Fields types) (draft : Draft types) (name : String) (value : Json)
    (members : List (String × Json)) :
    fields.fillAll draft (treeMembers ((name, value) :: members)) =
      (fields.fill name value.tree draft).bind fun draft =>
        fields.fillAll draft (treeMembers members) :=
  rfl

theorem fillAll_cons (field : Field α) (rest : Fields types) (found : Option α)
    (draft : Draft types) {members : List (String × Json)}
    (hother : ∀ member ∈ members, field.name ≠ member.1) :
    (cons field rest).fillAll (.cons found draft) (treeMembers members) =
      (rest.fillAll draft (treeMembers members)).map (.cons found) := by
  induction members generalizing draft with
  | nil => rfl
  | cons member members ih =>
      obtain ⟨name, value⟩ := member
      have hname : field.name ≠ name := hother (name, value) (by simp)
      rw [fillAll_member, fillAll_member, fill_cons_of_ne hname]
      cases rest.fill name value.tree draft with
      | error e => rfl
      | ok draft => exact ih draft fun other hmem => hother other (List.mem_cons_of_mem _ hmem)

end

theorem fillAll_encode {types : List Type} {fields : Fields types} {row : Row types}
    (hnames : fields.names.Nodup) (hkeeps : fields.Keeps row) :
    fields.fillAll fields.blank (treeMembers (fields.encode row)) = .ok (fields.written row) := by
  induction fields with
  | nil => rfl
  | cons field rest ih =>
      obtain ⟨value, row⟩ := row
      obtain ⟨hname, hnames⟩ := List.nodup_cons.mp hnames
      have hother : ∀ member ∈ rest.encode row, field.name ≠ member.1 := by
        rintro member hmember heq
        exact hname (heq ▸ name_mem_names rest row hmember)
      have hrest := ih hnames hkeeps.2
      have hblank : (cons field rest).blank = .cons none rest.blank := rfl
      rw [encode, written, hblank]
      split
      · rw [fillAll_cons field rest none rest.blank hother, hrest]
        rfl
      · rw [fillAll_member, fill_cons_self, hkeeps.1.codec.decodes]
        change (cons field rest).fillAll (.cons (some value) rest.blank) _ = _
        rw [fillAll_cons field rest (some value) rest.blank hother, hrest]
        rfl

theorem finish_written {types : List Type} {fields : Fields types} {row : Row types}
    (hkeeps : fields.Keeps row) : fields.finish (fields.written row) = .ok row := by
  induction fields with
  | nil => rfl
  | cons field rest ih =>
      obtain ⟨value, row⟩ := row
      have hvalue : (if field.hidden value = true then none else some value).or field.absent =
          some value := by
        split
        · rename_i hhidden
          rw [Option.none_or, hkeeps.1.absent hhidden]
        · rfl
      rw [written, Draft.cons, finish, hvalue]
      simp only [ih hkeeps.2]
      rfl

end Fields

namespace Codec

theorem keeps_record {α : Type} {types : List Type} {name : String} {fields : Fields types}
    {toRow : α → Row types} {ofRow : Row types → α} {value : α} (hnames : fields.names.Nodup)
    (hkeeps : fields.Keeps (toRow value)) (hvalue : ofRow (toRow value) = value) :
    (record name fields toRow ofRow).Keeps value := by
  constructor
  · exact .object fun member hmember => Fields.fits_of_mem_encode hkeeps hmember
  · change (fields.fillAll fields.blank (treeMembers (fields.encode (toRow value)))).bind _ = _
    rw [Fields.fillAll_encode hnames hkeeps]
    change (fields.finish (fields.written (toRow value))).bind _ = _
    rw [Fields.finish_written hkeeps]
    change Except.ok (ofRow (toRow value)) = _
    rw [hvalue]

end Codec

end Gamebook.Json
