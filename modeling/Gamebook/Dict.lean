/-!
Tables from names to values. The entries stand in strictly increasing order of their names, so two
tables with the same answers to `find?` are the same table (`Dict.ext_find?`), and writing a table
out in order needs no sorting.
-/

namespace Gamebook

/-- A finite table from names to values, in strictly increasing order of the names. -/
@[ext] structure Dict (α : Type) where
  entries : List (String × α)
  sorted : entries.Pairwise fun a b => a.1 < b.1
  deriving DecidableEq

namespace Dict

variable {α β : Type}

/-- The value under a name in a list of entries: that of the first entry of this name. -/
def lookup (key : String) : List (String × α) → Option α
  | [] => none
  | entry :: rest => if entry.1 = key then some entry.2 else lookup key rest

/-- Puts a value under a name, before the first greater name, in place of the value it had. -/
def put (key : String) (value : α) : List (String × α) → List (String × α)
  | [] => [(key, value)]
  | entry :: rest =>
    if key < entry.1 then (key, value) :: entry :: rest
    else if entry.1 = key then (key, value) :: rest
    else entry :: put key value rest

theorem mem_put {key : String} {value : α} {entry : String × α} {entries : List (String × α)}
    (h : entry ∈ put key value entries) : entry = (key, value) ∨ entry ∈ entries := by
  induction entries with
  | nil => simpa [put] using h
  | cons head rest ih =>
    rw [put] at h
    grind

theorem put_sorted (key : String) (value : α) {entries : List (String × α)}
    (h : entries.Pairwise fun a b => a.1 < b.1) :
    (put key value entries).Pairwise fun a b => a.1 < b.1 := by
  induction entries with
  | nil => simp [put]
  | cons head rest ih =>
    have hrest := (List.pairwise_cons.mp h).2
    have hhead := (List.pairwise_cons.mp h).1
    rw [put]
    split
    · refine List.pairwise_cons.mpr ⟨fun entry hentry => ?_, h⟩
      rcases List.mem_cons.mp hentry with rfl | hmem
      · assumption
      · exact String.lt_trans ‹_› (hhead _ hmem)
    · split
      · rename_i heq
        exact List.pairwise_cons.mpr ⟨fun entry hentry => heq ▸ hhead entry hentry, hrest⟩
      · refine List.pairwise_cons.mpr ⟨fun entry hentry => ?_, ih hrest⟩
        rcases mem_put hentry with rfl | hmem
        · grind
        · exact hhead _ hmem

/-- The table without entries. -/
def empty : Dict α := ⟨[], .nil⟩

instance : EmptyCollection (Dict α) := ⟨empty⟩

instance : Inhabited (Dict α) := ⟨empty⟩

/-- The value under a name. -/
def find? (table : Dict α) (key : String) : Option α :=
  lookup key table.entries

/-- Whether a name has a value. -/
def contains (table : Dict α) (key : String) : Bool :=
  (table.find? key).isSome

/-- Puts a value under a name, in place of the one it had. -/
def insert (table : Dict α) (key : String) (value : α) : Dict α :=
  ⟨put key value table.entries, put_sorted key value table.sorted⟩

/-- Takes a name out of the table. -/
def erase (table : Dict α) (key : String) : Dict α :=
  ⟨table.entries.filter (·.1 ≠ key), table.sorted.filter _⟩

/-- The names, in increasing order. -/
def keys (table : Dict α) : List String :=
  table.entries.map (·.1)

/-- The number of names. -/
def size (table : Dict α) : Nat :=
  table.entries.length

/-- Whether there is no name at all. -/
def isEmpty (table : Dict α) : Bool :=
  table.entries.isEmpty

/-- The table of a list of entries; of two entries with one name the later counts. -/
def ofList (entries : List (String × α)) : Dict α :=
  entries.foldl (fun table entry => table.insert entry.1 entry.2) ∅

theorem lookup_put (key other : String) (value : α) (entries : List (String × α)) :
    lookup other (put key value entries) =
      if key = other then some value else lookup other entries := by
  induction entries with
  | nil => simp [put, lookup]
  | cons head rest ih =>
    rw [put]
    split
    · simp [lookup]
    · split <;> grind [lookup]

theorem lookup_eq_some_iff {key : String} {value : α} {entries : List (String × α)}
    (h : entries.Pairwise fun a b => a.1 < b.1) :
    lookup key entries = some value ↔ (key, value) ∈ entries := by
  induction entries with
  | nil => simp [lookup]
  | cons head rest ih =>
    have hhead := (List.pairwise_cons.mp h).1
    have ih := ih (List.pairwise_cons.mp h).2
    obtain ⟨name, held⟩ := head
    simp only [lookup, List.mem_cons, Prod.mk.injEq]
    constructor
    · grind
    · rintro (⟨rfl, rfl⟩ | hmem)
      · simp
      · have hlt := hhead _ hmem
        have hne : name ≠ key := fun heq => String.lt_irrefl key (heq ▸ hlt)
        simp [hne, ih.mpr hmem]

theorem lookup_filter_ne (key other : String) (entries : List (String × α)) :
    lookup other (entries.filter (·.1 ≠ key)) =
      if other = key then none else lookup other entries := by
  induction entries with
  | nil => simp [lookup]
  | cons head rest ih => grind [lookup]

@[simp] theorem find?_empty (key : String) : (∅ : Dict α).find? key = none := rfl

theorem find?_insert (table : Dict α) (key other : String) (value : α) :
    (table.insert key value).find? other = if key = other then some value else table.find? other :=
  lookup_put key other value table.entries

@[simp] theorem find?_insert_self (table : Dict α) (key : String) (value : α) :
    (table.insert key value).find? key = some value := by
  simp [find?_insert]

theorem find?_erase (table : Dict α) (key other : String) :
    (table.erase key).find? other = if other = key then none else table.find? other :=
  lookup_filter_ne key other table.entries

theorem find?_eq_some_iff {table : Dict α} {key : String} {value : α} :
    table.find? key = some value ↔ (key, value) ∈ table.entries :=
  lookup_eq_some_iff table.sorted

theorem contains_eq_true_iff {table : Dict α} {key : String} :
    table.contains key = true ↔ key ∈ table.keys := by
  simp [contains, Option.isSome_iff_exists, find?_eq_some_iff, keys]

theorem keys_sorted (table : Dict α) : table.keys.Pairwise (· < ·) :=
  List.pairwise_map.mpr table.sorted

theorem entries_ext {left right : List (String × α)}
    (hleft : left.Pairwise fun a b => a.1 < b.1) (hright : right.Pairwise fun a b => a.1 < b.1)
    (h : ∀ entry, entry ∈ left ↔ entry ∈ right) : left = right := by
  induction left generalizing right with
  | nil =>
    cases right with
    | nil => rfl
    | cons head rest => exact absurd ((h head).mpr (List.mem_cons_self ..)) (List.not_mem_nil)
  | cons first rest ih =>
    cases right with
    | nil => exact absurd ((h first).mp (List.mem_cons_self ..)) (List.not_mem_nil)
    | cons head others =>
      have hfirst := List.pairwise_cons.mp hleft
      have hhead := List.pairwise_cons.mp hright
      have heq : first = head := by
        rcases List.mem_cons.mp ((h first).mp (List.mem_cons_self ..)) with heq | hmem
        · exact heq
        · rcases List.mem_cons.mp ((h head).mpr (List.mem_cons_self ..)) with heq | hmem'
          · exact heq.symm
          · exact absurd (hhead.1 _ hmem) (String.lt_asymm (hfirst.1 _ hmem'))
      subst heq
      congr 1
      refine ih hfirst.2 hhead.2 fun entry => ⟨fun hmem => ?_, fun hmem => ?_⟩
      · rcases List.mem_cons.mp ((h entry).mp (List.mem_cons_of_mem _ hmem)) with rfl | hother
        · exact absurd (hfirst.1 _ hmem) (String.lt_irrefl _)
        · exact hother
      · rcases List.mem_cons.mp ((h entry).mpr (List.mem_cons_of_mem _ hmem)) with rfl | hother
        · exact absurd (hhead.1 _ hmem) (String.lt_irrefl _)
        · exact hother

theorem ext_find? {left right : Dict α} (h : ∀ key, left.find? key = right.find? key) :
    left = right := by
  refine Dict.ext (entries_ext left.sorted right.sorted fun entry => ?_)
  obtain ⟨key, value⟩ := entry
  rw [← find?_eq_some_iff, ← find?_eq_some_iff, h key]

theorem insert_comm {table : Dict α} {key other : String} {value held : α} (hne : key ≠ other) :
    (table.insert key value).insert other held = (table.insert other held).insert key value := by
  refine ext_find? fun name => ?_
  simp only [find?_insert]
  grind

theorem ofList_entries (table : Dict α) : ofList table.entries = table := by
  have hfold : ∀ (entries : List (String × α)) (start : Dict α),
      entries.Pairwise (fun a b => a.1 < b.1) → ∀ key,
      (entries.foldl (fun table entry => table.insert entry.1 entry.2) start).find? key =
        (lookup key entries).or (start.find? key) := by
    intro entries
    induction entries with
    | nil => simp [lookup]
    | cons head rest ih =>
      intro start h key
      have hhead := (List.pairwise_cons.mp h).1
      rw [List.foldl_cons, ih _ (List.pairwise_cons.mp h).2, find?_insert, lookup]
      by_cases hkey : head.1 = key
      · subst hkey
        have hnone : lookup head.1 rest = none := by
          rcases hlook : lookup head.1 rest with _ | value
          · rfl
          · have hmem := (lookup_eq_some_iff (List.pairwise_cons.mp h).2).mp hlook
            exact absurd (hhead _ hmem) (String.lt_irrefl _)
        simp [hnone]
      · simp [hkey]
  refine ext_find? fun key => ?_
  rw [ofList, hfold _ _ table.sorted, find?_empty, Option.or_none]
  rfl

end Dict

end Gamebook
