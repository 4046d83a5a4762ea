import Gamebook.Proofs.Story.Edits
import Mathlib.Data.List.Basic

/-!
Edits in another order. A story has parts: the text and the choices of each scene, each stat that
players start with, and the items. An edit changes one part at most (`Story.part_edited_of_ne`), and
what it makes of this part depends on no other one (`Story.part_edited_congr`). Apart from that it
only turns things on (`Story.flag_edited`). So edits can be made in any order in which those of one
part keep theirs (`StoryEdit.IsReordering.foldl_edited`).
-/

namespace Gamebook

/-- A part of a story that is edited by itself. -/
inductive StoryPart where
  | text (scene : String)
  | choices (scene : String)
  | stat (name : String)
  | items
  deriving DecidableEq

/-- What there is of a part. -/
abbrev StoryPart.Value : StoryPart → Type
  | .text _ => String
  | .choices _ => List Choice
  | .stat _ => Option Int64
  | .items => List String

/-- Something about a story that edits turn on, and never off. -/
inductive StoryFlag where
  | scene (name : String)
  | stats
  | items

namespace StoryEdit

/-- The part that an edit changes. A new scene has no choices, and its text is the same whichever
edit it is made for, so that making it changes no part. -/
def part? : StoryEdit → Option StoryPart
  | .addScene _ => none
  | .setSceneText scene _ => some (.text scene)
  | .addChoice scene _ _ => some (.choices scene)
  | .setRequirement scene _ _ => some (.choices scene)
  | .setInitialStat stat _ => some (.stat stat)
  | .addInitialItem _ => some .items

def turnsOn : StoryEdit → StoryFlag → Bool
  | .addScene scene, .scene name => scene = name
  | .setSceneText scene _, .scene name => scene = name
  | .addChoice scene _ _, .scene name => scene = name
  | .setInitialStat _ _, .stats => true
  | .addInitialItem _, .items => true
  | _, _ => false

end StoryEdit

namespace Story

/-- A story as an edit leaves it, be it that the edit is made or refused. -/
def edited (story : Story) (edit : StoryEdit) : Story :=
  match edit.on story with
  | .ok (changed, _) => changed
  | .error _ => story

/-- What there is of a part of a story. A scene that is not there counts as an empty one. -/
def part (story : Story) : (part : StoryPart) → part.Value
  | .text scene => (story.sceneOr scene emptySceneText).text
  | .choices scene => (story.sceneOr scene emptySceneText).choices
  | .stat name => story.stats.values.find? name
  | .items => story.inventory.items

def flag (story : Story) : StoryFlag → Bool
  | .scene name => story.hasScene name
  | .stats => story.stats.enabled
  | .items => story.inventory.enabled

/-- A story without anything that can be edited. -/
def bare (story : Story) : Story :=
  { story with inventory := ⟨false, []⟩, stats := ⟨false, ∅⟩, scenes := ∅ }

variable {story other : Story} {name : String} {scene : Scene} {edit : StoryEdit}

theorem sceneOr_of_scene? (hscene : story.scene? name = some scene) (text : String) :
    story.sceneOr name text = scene := by
  rw [sceneOr, hscene, Option.getD_some]

theorem choices_sceneOr (story : Story) (name text other : String) :
    (story.sceneOr name text).choices = (story.sceneOr name other).choices := by
  rw [sceneOr, sceneOr]
  cases story.scene? name <;> rfl

theorem scene?_putScene (story : Story) (name other : String) (scene : Scene) :
    (story.putScene name scene).scene? other =
      if name = other then some scene else story.scene? other :=
  Dict.find?_insert ..

theorem sceneOr_putScene (story : Story) (name other text : String) (scene : Scene) :
    (story.putScene name scene).sceneOr other text =
      if name = other then scene else story.sceneOr other text := by
  rw [sceneOr, scene?_putScene]
  split
  · rfl
  · rfl

theorem hasScene_putScene (story : Story) (name other : String) (scene : Scene) :
    (story.putScene name scene).hasScene other =
      (story.hasScene other || decide (name = other)) := by
  rw [Bool.eq_iff_iff, Bool.or_eq_true, decide_eq_true_iff, hasScene_iff, hasScene_iff,
    scene?_putScene]
  by_cases hname : name = other <;> simp [hname]

theorem putScene_self (hscene : story.scene? name = some scene) :
    story.putScene name scene = story := by
  have hscenes : story.scenes.insert name scene = story.scenes := by
    apply Dict.ext_find?
    intro other
    rw [Dict.find?_insert]
    split
    · rename_i hname
      rw [← hname]
      exact hscene.symm
    · rfl
  rw [putScene, hscenes]

theorem ext_part (hbare : story.bare = other.bare)
    (hpart : ∀ part, story.part part = other.part part)
    (hflag : ∀ flag, story.flag flag = other.flag flag) : story = other := by
  have hscenes : story.scenes = other.scenes := by
    apply Dict.ext_find?
    intro name
    have htext := hpart (.text name)
    have hchoices := hpart (.choices name)
    have hthere : (story.scene? name).isSome = (other.scene? name).isSome := hflag (.scene name)
    change story.scene? name = other.scene? name
    simp only [part, sceneOr] at htext hchoices
    cases hscene : story.scene? name with
    | none =>
        cases hheld : other.scene? name with
        | none => rfl
        | some held => simp [hscene, hheld] at hthere
    | some scene =>
        cases hheld : other.scene? name with
        | none => simp [hscene, hheld] at hthere
        | some held =>
            simp only [hscene, hheld, Option.getD_some] at htext hchoices
            obtain ⟨_, _⟩ := scene
            obtain ⟨_, _⟩ := held
            cases htext
            cases hchoices
            rfl
  have hstats : story.stats = other.stats := by
    have hvalues : story.stats.values = other.stats.values :=
      Dict.ext_find? fun name => hpart (.stat name)
    have henabled : story.stats.enabled = other.stats.enabled := hflag .stats
    rw [show story.stats = ⟨story.stats.enabled, story.stats.values⟩ from rfl, hvalues, henabled]
  have hinventory : story.inventory = other.inventory := by
    have hitems : story.inventory.items = other.inventory.items := hpart .items
    have henabled : story.inventory.enabled = other.inventory.enabled := hflag .items
    rw [show story.inventory = ⟨story.inventory.enabled, story.inventory.items⟩ from rfl, hitems,
      henabled]
  obtain ⟨id, title, visibility, code, start, inventory, stats, scenes⟩ := story
  obtain ⟨id', title', visibility', code', start', inventory', stats', scenes'⟩ := other
  simp only [bare, mk.injEq] at hbare
  obtain ⟨rfl, rfl, rfl, rfl, rfl, -⟩ := hbare
  congr

theorem edited_addScene (story : Story) (name : String) :
    story.edited (.addScene name) =
      if story.hasScene name then story else story.putScene name ⟨emptySceneText, []⟩ := by
  change (story.addScene name).1 = _
  rw [addScene]
  split <;> rfl

theorem edited_setSceneText (story : Story) (name text : String) :
    story.edited (.setSceneText name text) =
      story.putScene name { story.sceneOr name "" with text } := rfl

theorem edited_addChoice (story : Story) (name text next : String) :
    story.edited (.addChoice name text next) =
      story.putScene name
        { story.sceneOr name emptySceneText with
          choices := (story.sceneOr name emptySceneText).choices ++ [⟨text, next, none⟩] } := rfl

/-- A choice that is not there is left as it is when it is to be gated. -/
theorem edited_setRequirement (story : Story) (name : String) (index : Nat)
    (requirement : Requirement) :
    story.edited (.setRequirement name index requirement) =
      match story.scene? name with
      | none => story
      | some scene =>
        story.putScene name
          { scene with
            choices := scene.choices.modify index fun choice =>
              { choice with
                requirement := if requirement.isEmpty then none else some requirement } } := by
  rw [edited, StoryEdit.on, setRequirement]
  cases hscene : story.scene? name with
  | none => rfl
  | some scene =>
      cases hchoice : scene.choices[index]? with
      | none =>
          dsimp only
          rw [hchoice, List.modify_eq_self (List.getElem?_eq_none_iff.mp hchoice)]
          exact (putScene_self hscene).symm
      | some choice =>
          dsimp only
          rw [hchoice, List.modify_eq_set_getElem?, hchoice]
          rfl

theorem edited_addInitialItem (story : Story) (item : String) :
    story.edited (.addInitialItem item) =
      { story with
        inventory := ⟨true, if item ∈ story.inventory.items then story.inventory.items
          else story.inventory.items ++ [item]⟩ } := by
  change (story.addInitialItem item).1 = _
  rw [addInitialItem]
  split <;> rfl

theorem bare_edited (story : Story) (edit : StoryEdit) : (story.edited edit).bare = story.bare := by
  cases edit with
  | addScene name =>
      rw [edited_addScene]
      split <;> rfl
  | setSceneText name text => rfl
  | addChoice name text next => rfl
  | setRequirement name index requirement =>
      rw [edited_setRequirement]
      cases story.scene? name <;> rfl
  | setInitialStat name value => rfl
  | addInitialItem item =>
      rw [edited_addInitialItem]
      rfl

theorem flag_edited (story : Story) (edit : StoryEdit) (flag : StoryFlag) :
    (story.edited edit).flag flag = (story.flag flag || edit.turnsOn flag) := by
  cases edit with
  | addScene name =>
      rw [edited_addScene]
      cases flag with
      | scene other =>
          simp only [Story.flag, StoryEdit.turnsOn]
          split
          · rename_i hthere
            by_cases hname : name = other
            · simp [← hname, hthere]
            · simp [hname]
          · exact hasScene_putScene ..
      | _ => split <;> exact (Bool.or_false _).symm
  | setSceneText name text =>
      cases flag with
      | scene other => exact hasScene_putScene ..
      | _ => exact (Bool.or_false _).symm
  | addChoice name text next =>
      cases flag with
      | scene other => exact hasScene_putScene ..
      | _ => exact (Bool.or_false _).symm
  | setRequirement name index requirement =>
      rw [edited_setRequirement]
      cases hscene : story.scene? name with
      | none => exact (Bool.or_false _).symm
      | some scene =>
          cases flag with
          | scene other =>
              refine (hasScene_putScene ..).trans ?_
              by_cases hname : name = other
              · have hthere := hasScene_iff.mpr ⟨scene, hname ▸ hscene⟩
                simp [Story.flag, hthere]
              · simp [Story.flag, StoryEdit.turnsOn, hname]
          | _ => exact (Bool.or_false _).symm
  | setInitialStat name value =>
      cases flag with
      | stats => exact (Bool.or_true _).symm
      | _ => exact (Bool.or_false _).symm
  | addInitialItem item =>
      rw [edited_addInitialItem]
      cases flag with
      | items => exact (Bool.or_true _).symm
      | _ => exact (Bool.or_false _).symm

theorem text_putScene (story : Story) (name other : String) (scene : Scene) :
    (story.putScene name scene).part (.text other) =
      if name = other then scene.text else story.part (.text other) := by
  simp only [part, sceneOr_putScene]
  split <;> rfl

theorem choices_putScene (story : Story) (name other : String) (scene : Scene) :
    (story.putScene name scene).part (.choices other) =
      if name = other then scene.choices else story.part (.choices other) := by
  simp only [part, sceneOr_putScene]
  split <;> rfl

theorem part_putScene {part : StoryPart}
    (htext : part = .text name → scene.text = story.part (.text name))
    (hchoices : part = .choices name → scene.choices = story.part (.choices name)) :
    (story.putScene name scene).part part = story.part part := by
  cases part with
  | text other =>
      rw [text_putScene]
      split
      · rename_i hname
        rw [← hname]
        exact htext (hname ▸ rfl)
      · rfl
  | choices other =>
      rw [choices_putScene]
      split
      · rename_i hname
        rw [← hname]
        exact hchoices (hname ▸ rfl)
      · rfl
  | stat other => rfl
  | items => rfl

/-- An edit leaves all parts alone but its own. -/
theorem part_edited_of_ne {part : StoryPart} (hpart : edit.part? ≠ some part) :
    (story.edited edit).part part = story.part part := by
  cases edit with
  | addScene name =>
      rw [edited_addScene]
      split
      · rfl
      · rename_i hthere
        have hscene := hasScene_eq_false_iff.mp (Bool.eq_false_iff.mpr hthere)
        apply part_putScene <;> simp [Story.part, sceneOr, hscene]
  | setSceneText name text =>
      apply part_putScene
      · rintro rfl
        exact absurd rfl hpart
      · intro _
        exact choices_sceneOr ..
  | addChoice name text next =>
      apply part_putScene
      · intro _
        rfl
      · rintro rfl
        exact absurd rfl hpart
  | setRequirement name index requirement =>
      rw [edited_setRequirement]
      cases hscene : story.scene? name with
      | none => rfl
      | some scene =>
          apply part_putScene
          · intro _
            rw [Story.part, sceneOr_of_scene? hscene]
          · rintro rfl
            exact absurd rfl hpart
  | setInitialStat name value =>
      cases part with
      | stat other =>
          refine (Dict.find?_insert ..).trans (if_neg ?_)
          rintro rfl
          exact hpart rfl
      | _ => rfl
  | addInitialItem item =>
      rw [edited_addInitialItem]
      cases part with
      | items => exact absurd rfl hpart
      | _ => rfl

theorem part_edited_congr {part : StoryPart} (hpart : edit.part? = some part)
    (hsame : story.part part = other.part part) :
    (story.edited edit).part part = (other.edited edit).part part := by
  cases edit with
  | addScene name => cases hpart
  | setSceneText name text =>
      cases hpart
      rw [edited_setSceneText, edited_setSceneText, text_putScene, text_putScene, if_pos rfl,
        if_pos rfl]
  | addChoice name text next =>
      cases hpart
      rw [edited_addChoice, edited_addChoice, choices_putScene, choices_putScene, if_pos rfl,
        if_pos rfl]
      exact congrArg (· ++ [⟨text, next, none⟩]) hsame
  | setRequirement name index requirement =>
      cases hpart
      have hgated : ∀ held : Story,
          (held.edited (.setRequirement name index requirement)).part (.choices name) =
            (held.part (.choices name)).modify index fun choice =>
              { choice with
                requirement := if requirement.isEmpty then none else some requirement } := by
        intro held
        rw [edited_setRequirement]
        cases hscene : held.scene? name with
        | none =>
            rw [Story.part, sceneOr, hscene]
            exact (List.modify_eq_self (Nat.zero_le _)).symm
        | some scene =>
            rw [choices_putScene, if_pos rfl, Story.part, sceneOr_of_scene? hscene]
      rw [hgated, hgated, hsame]
  | setInitialStat name value =>
      cases hpart
      exact (Dict.find?_insert_self ..).trans (Dict.find?_insert_self ..).symm
  | addInitialItem item =>
      cases hpart
      have hitems : story.inventory.items = other.inventory.items := hsame
      rw [edited_addInitialItem, edited_addInitialItem, Story.part, Story.part, hitems]

theorem bare_foldl_edited (story : Story) (edits : List StoryEdit) :
    (edits.foldl edited story).bare = story.bare := by
  induction edits generalizing story with
  | nil => rfl
  | cons edit edits ih => exact (ih (story.edited edit)).trans (story.bare_edited edit)

theorem flag_foldl_edited (story : Story) (edits : List StoryEdit) (flag : StoryFlag) :
    (edits.foldl edited story).flag flag = (story.flag flag || edits.any (·.turnsOn flag)) := by
  induction edits generalizing story with
  | nil => exact (Bool.or_false _).symm
  | cons edit edits ih =>
      rw [List.foldl_cons, ih, flag_edited, List.any_cons, Bool.or_assoc]

theorem part_foldl_edited {part : StoryPart} (hsame : story.part part = other.part part)
    (edits : List StoryEdit) :
    (edits.foldl edited story).part part =
      ((edits.filter (·.part? = some part)).foldl edited other).part part := by
  induction edits generalizing story other with
  | nil => exact hsame
  | cons edit edits ih =>
      by_cases hpart : edit.part? = some part
      · rw [List.filter_cons_of_pos (by simpa using hpart), List.foldl_cons, List.foldl_cons]
        exact ih (part_edited_congr hpart hsame)
      · rw [List.filter_cons_of_neg (by simpa using hpart), List.foldl_cons]
        exact ih ((part_edited_of_ne hpart).trans hsame)

end Story

/-- Whether some edits are others in another order, in which those of each part keep theirs. -/
structure StoryEdit.IsReordering (edits others : List StoryEdit) : Prop where
  perm : edits.Perm others
  parts : ∀ part, edits.filter (·.part? = some part) = others.filter (·.part? = some part)

namespace StoryEdit.IsReordering

variable {edits others : List StoryEdit}

theorem filter (hreordering : IsReordering edits others) (p : StoryEdit → Bool) :
    IsReordering (edits.filter p) (others.filter p) := by
  refine ⟨hreordering.perm.filter p, ?_⟩
  intro part
  rw [List.filter_comm, hreordering.parts part, List.filter_comm]

theorem foldl_edited (hreordering : IsReordering edits others) (story : Story) :
    edits.foldl Story.edited story = others.foldl Story.edited story := by
  apply Story.ext_part
  · rw [Story.bare_foldl_edited, Story.bare_foldl_edited]
  · intro part
    have hedits := Story.part_foldl_edited (Eq.refl (story.part part)) edits
    have hothers := Story.part_foldl_edited (Eq.refl (story.part part)) others
    rw [hedits, hothers, hreordering.parts part]
  · intro flag
    rw [Story.flag_foldl_edited, Story.flag_foldl_edited, hreordering.perm.any_eq]

end StoryEdit.IsReordering

end Gamebook
