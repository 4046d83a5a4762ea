import Gamebook.Proofs.Json.Spelling

namespace Gamebook.Json

mutual

/-- A value as the tree that its written form should be read as. -/
def tree : Json → Tree
  | .null => .null
  | .bool b => .bool b
  | .int n => .number (.ok (.int n))
  | .text s => .text (.ok s)
  | .array items => .array (treeItems items) none
  | .object members => .object (treeMembers members) none

/-- The trees of the items of an array. -/
def treeItems : List Json → List Tree
  | [] => []
  | item :: items => tree item :: treeItems items

/-- The trees of the members of an object, with their names. -/
def treeMembers : List (String × Json) → List (Name × Tree)
  | [] => []
  | (name, value) :: members => (.ok name, tree value) :: treeMembers members

end

/-- Whether all numbers in a value are of those that are read as whole numbers. -/
inductive Fits : Json → Prop where
  | null : Fits .null
  | bool (b : Bool) : Fits (.bool b)
  | int {n : Int} (hlow : -0x8000000000000000 ≤ n) (hhigh : n < 0x10000000000000000) :
      Fits (.int n)
  | text (s : String) : Fits (.text s)
  | array {items : List Json} (hitems : ∀ item ∈ items, Fits item) : Fits (.array items)
  | object {members : List (String × Json)} (hmembers : ∀ member ∈ members, Fits member.2) :
      Fits (.object members)

theorem treeItems_eq_map (items : List Json) : treeItems items = items.map tree := by
  induction items with
  | nil => rfl
  | cons item items ih => rw [treeItems, ih, List.map_cons]

theorem treeMembers_eq_map (members : List (String × Json)) :
    treeMembers members = members.map fun member => (.ok member.1, member.2.tree) := by
  induction members with
  | nil => rfl
  | cons member members ih => rw [treeMembers, ih, List.map_cons]

theorem isWhole_tree_of_fits {value : Json} (hfits : value.Fits) : value.tree.IsWhole := by
  induction hfits with
  | null => exact .null
  | bool b => exact .bool b
  | int => exact .number _
  | text s => exact .text _
  | array _ ih =>
      rw [tree, treeItems_eq_map]
      exact .array (List.forall_mem_map.mpr ih)
  | object _ ih =>
      rw [tree, treeMembers_eq_map]
      exact .object (List.forall_mem_map.mpr ih)

theorem endsNumeral_newLine (level : Nat) (rest : List Char) :
    EndsNumeral (newLine level ++ rest) :=
  endsNumeral_cons (by decide) _

theorem endsNumeral_layoutItems (level outer : Nat) (items : List Json) (rest : List Char) :
    EndsNumeral (layoutItems level items ++ (newLine outer ++ rest)) := by
  cases items with
  | nil => exact endsNumeral_newLine outer rest
  | cons item items => exact endsNumeral_cons (by decide) _

theorem endsNumeral_layoutMembers (level outer : Nat) (members : List (String × Json))
    (rest : List Char) : EndsNumeral (layoutMembers level members ++ (newLine outer ++ rest)) := by
  cases members with
  | nil => exact endsNumeral_newLine outer rest
  | cons member members => exact endsNumeral_cons (by decide) _

section

variable {cs rest : List Char} {tokens : List Token}

theorem Spells.newLine (level : Nat) (hspells : Spells cs tokens) :
    Spells (newLine level ++ cs) tokens :=
  hspells.blanks_append fun _ => isSpace_newLine

theorem Spells.member (name : String) (hvalue : Spells cs tokens) :
    Spells (quote name ++ ':' :: ' ' :: cs) (.text (.ok name) :: .colon :: tokens) := by
  have hblank : ∀ c ∈ [' '], isSpace c = true := List.forall_mem_singleton.mpr rfl
  have hcolon : Spells (':' :: ' ' :: cs) (.colon :: tokens) :=
    spells_of_nextToken rfl rfl (hvalue.blanks_append hblank)
  exact spells_of_nextToken (nextToken_quote name _) rfl hcolon

/-- Whether a value is spelled with the tokens of its tree, at any level and before any text that
does not go on with a numeral. -/
def SpelledOut (value : Json) : Prop :=
  ∀ (level : Nat) (rest : List Char) (tokens : List Token), EndsNumeral rest →
    Spells rest tokens → Spells (value.layout level ++ rest) (value.tree.tokens ++ tokens)

theorem spells_layoutItems {items : List Json} (hitems : ∀ item ∈ items, SpelledOut item)
    (level outer : Nat) (hrest : Spells rest tokens) :
    Spells (layoutItems level items ++ (newLine outer ++ ']' :: rest))
      (Tree.itemTokens (treeItems items) ++ .closeArray :: tokens) := by
  induction items with
  | nil => exact (spells_of_nextToken rfl rfl hrest).newLine outer
  | cons item items ih =>
      have hlater := ih fun other hother => hitems other (List.mem_cons_of_mem _ hother)
      have hitem := hitems item List.mem_cons_self level _ _
        (endsNumeral_layoutItems level outer items _) hlater
      rw [layoutItems, treeItems, Tree.itemTokens]
      simp only [List.cons_append, List.append_assoc]
      exact spells_of_nextToken rfl rfl (hitem.newLine level)

theorem spells_layoutMembers {members : List (String × Json)}
    (hmembers : ∀ member ∈ members, SpelledOut member.2) (level outer : Nat)
    (hrest : Spells rest tokens) :
    Spells (layoutMembers level members ++ (newLine outer ++ '}' :: rest))
      (Tree.memberTokens (treeMembers members) ++ .closeObject :: tokens) := by
  induction members with
  | nil => exact (spells_of_nextToken rfl rfl hrest).newLine outer
  | cons member members ih =>
      obtain ⟨name, value⟩ := member
      have hlater := ih fun other hother => hmembers other (List.mem_cons_of_mem _ hother)
      have hvalue := hmembers (name, value) List.mem_cons_self level _ _
        (endsNumeral_layoutMembers level outer members _) hlater
      rw [layoutMembers, treeMembers, Tree.memberTokens]
      simp only [List.cons_append, List.append_assoc]
      exact spells_of_nextToken rfl rfl ((hvalue.member name).newLine level)

theorem spelledOut_array {items : List Json} (hitems : ∀ item ∈ items, SpelledOut item) :
    SpelledOut (.array items) := by
  intro level rest tokens hends hrest
  cases items with
  | nil => exact spells_of_nextToken rfl rfl (spells_of_nextToken rfl rfl hrest)
  | cons item items =>
      have hlater := spells_layoutItems
        (fun other hother => hitems other (List.mem_cons_of_mem _ hother)) (level + 1) level hrest
      have hitem := hitems item List.mem_cons_self (level + 1) _ _
        (endsNumeral_layoutItems (level + 1) level items _) hlater
      rw [layout, tree, treeItems, Tree.tokens]
      simp only [List.cons_append, List.append_assoc, List.nil_append]
      exact spells_of_nextToken rfl rfl (hitem.newLine (level + 1))

theorem spelledOut_object {members : List (String × Json)}
    (hmembers : ∀ member ∈ members, SpelledOut member.2) : SpelledOut (.object members) := by
  intro level rest tokens hends hrest
  cases members with
  | nil => exact spells_of_nextToken rfl rfl (spells_of_nextToken rfl rfl hrest)
  | cons member members =>
      obtain ⟨name, value⟩ := member
      have hlater := spells_layoutMembers
        (fun other hother => hmembers other (List.mem_cons_of_mem _ hother)) (level + 1) level hrest
      have hvalue := hmembers (name, value) List.mem_cons_self (level + 1) _ _
        (endsNumeral_layoutMembers (level + 1) level members _) hlater
      rw [layout, tree, treeMembers, Tree.tokens]
      simp only [List.cons_append, List.append_assoc, List.nil_append]
      exact spells_of_nextToken rfl rfl ((hvalue.member name).newLine (level + 1))

theorem spelledOut_of_fits {value : Json} (hfits : value.Fits) : SpelledOut value := by
  induction hfits with
  | null =>
      intro level rest tokens hends hrest
      exact spells_of_nextToken rfl rfl hrest
  | bool b =>
      intro level rest tokens hends hrest
      cases b with
      | false => exact spells_of_nextToken rfl rfl hrest
      | true => exact spells_of_nextToken rfl rfl hrest
  | int hlow hhigh =>
      intro level rest tokens hends hrest
      exact spells_of_nextToken (nextToken_decimal hlow hhigh hends) rfl hrest
  | text s =>
      intro level rest tokens hends hrest
      exact spells_of_nextToken (nextToken_quote s rest) rfl hrest
  | array _ ih => exact spelledOut_array ih
  | object _ ih => exact spelledOut_object ih

end

variable {value : Json} {blanks : String}

theorem isWrittenAs_pretty_append (hfits : value.Fits)
    (hblanks : ∀ c ∈ blanks.toList, isSpace c = true) :
    value.tree.IsWrittenAs (value.pretty ++ blanks) := by
  have hend : Spells blanks.toList [] := .nil hblanks
  have hspells := spelledOut_of_fits hfits 0 _ _ (hend.endsNumeral (by simp)) hend
  rw [List.append_nil] at hspells
  refine ⟨isWhole_tree_of_fits hfits, ?_⟩
  rw [pretty, String.toList_append, String.toList_ofList]
  exact hspells

theorem read_pretty_append (hfits : value.Fits)
    (hblanks : ∀ c ∈ blanks.toList, isSpace c = true) :
    Document.read (value.pretty ++ blanks) = ⟨value.tree, false⟩ :=
  (isWrittenAs_pretty_append hfits hblanks).read_eq

end Gamebook.Json
