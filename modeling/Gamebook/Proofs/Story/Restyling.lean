import Gamebook.Proofs.Json.Restyling
import Gamebook.Story.Check

namespace Gamebook

open Json

namespace Story

variable {text : String} {story : Story}

theorem read_eq_ok : read text = .ok story ↔ codec.read text = .ok story := by
  rw [read]
  cases codec.read text <;> simp [Except.mapError]

theorem read_restyled (hread : read text = .ok story) :
    (∃ tree : Tree, tree.IsWrittenAs text) ∧
      ∀ (tree restyled : Tree) (other : String), tree.IsWrittenAs text →
        Restyles codec tree restyled → restyled.IsWrittenAs other → read other = .ok story := by
  rw [read_eq_ok] at hread
  refine ⟨Codec.exists_isWrittenAs hread, ?_⟩
  intro tree restyled other htree hrestyles hother
  rw [htree.codec_read_eq] at hread
  rw [read_eq_ok, hother.codec_read_eq]
  exact (hrestyles.reads_alike story).mp hread

end Story

/-- A story with one empty scene. -/
def bareStory : Story :=
  { Story.fresh "cave" "The Cave" "" with scenes := (∅ : Dict Scene).insert "hall" ⟨"", []⟩ }

def bareTree : Tree :=
  .object [(.ok "id", .text (.ok "cave")), (.ok "title", .text (.ok "The Cave")),
    (.ok "scenes", .object [(.ok "hall", .object [] none)] none)] none

/-- The story in another order, with the default of a field and with an unknown member. -/
def dressedTree : Tree :=
  .object [(.ok "author", .array [.null] none),
    (.ok "scenes", .object [(.ok "hall", .object [(.ok "choices", .array [] none)] none)] none),
    (.ok "id", .text (.ok "cave")), (.ok "title", .text (.ok "The Cave"))] none

def bareText : String :=
  "\x7b\"id\":\"cave\",\"title\":\"The Cave\",\"scenes\":\x7b\"hall\":\x7b\x7d\x7d\x7d"

def dressedText : String :=
  "\x7b \"author\" : [ null ],\n \"scenes\": \x7b\"hall\": \x7b\"choices\": []\x7d\x7d,\n" ++
    " \"id\": \"cave\",\n \"title\": \"The Cave\" \x7d\n"

theorem isWrittenAs_bareText : bareTree.IsWrittenAs bareText := by
  constructor
  · simp [bareTree, Tree.isWhole_object_iff, Tree.IsWhole.text]
  · simp only [bareTree, Tree.tokens, Tree.memberTokens, List.cons_append, List.nil_append]
    repeat refine spells_of_nextToken rfl rfl ?_
    exact .nil (by simp)

theorem isWrittenAs_dressedText : dressedTree.IsWrittenAs dressedText := by
  constructor
  · simp [dressedTree, Tree.isWhole_object_iff, Tree.isWhole_array_iff, Tree.IsWhole.text,
      Tree.IsWhole.null]
  · simp only [dressedTree, Tree.tokens, Tree.itemTokens, Tree.memberTokens, List.cons_append,
      List.nil_append]
    repeat refine spells_of_nextToken rfl rfl ?_
    exact .nil (List.forall_mem_singleton.mpr rfl)

theorem restyles_bareTree : Restyles Story.codec bareTree dressedTree := by
  have hscene : Restyles Scene.codec (.object [] none)
      (.object [(.ok "choices", .array [] none)] none) :=
    .default "Scene" _ _ [] [] (.there (by decide) (.here _)) rfl rfl (by simp)
  have hscenes : Restyles Scene.codec.dict (.object [(.ok "hall", .object [] none)] none)
      (.object [(.ok "hall", .object [(.ok "choices", .array [] none)] none)] none) :=
    .entry [] [] _ hscene
  have hfield : Restyles Story.codec bareTree _ :=
    .field "StoryDefinition" [(.ok "id", .text (.ok "cave")), (.ok "title", .text (.ok "The Cave"))]
      [] (.there (by decide) <| .there (by decide) <| .there (by decide) <| .there (by decide) <|
        .there (by decide) <| .there (by decide) <| .there (by decide) <| .here _) hscenes
  have hperm (author id title scenes : Name × Tree) :
      [author, id, title, scenes].Perm [author, scenes, id, title] :=
    .cons author (List.perm_append_singleton scenes [id, title])
  exact hfield.trans (.trans (.unknown "StoryDefinition" _ _ [] _ (by decide : "author" ∉ _)
    (.array (List.forall_mem_singleton.mpr .null))) (.members "StoryDefinition" _ _ _
      (hperm _ _ _ _)))

theorem read_restyled_dressed :
    Story.read bareText = .ok bareStory ∧ Story.read dressedText = .ok bareStory := by
  have hread : Story.read bareText = .ok bareStory := by
    rw [Story.read_eq_ok, isWrittenAs_bareText.codec_read_eq]
    rfl
  obtain ⟨-, hrestyled⟩ := Story.read_restyled hread
  exact ⟨hread, hrestyled _ _ _ isWrittenAs_bareText restyles_bareTree isWrittenAs_dressedText⟩

end Gamebook
