import Gamebook.Proofs.Story.Edits
import Gamebook.Proofs.Story.Checking

namespace Gamebook

namespace Story

/-- The choice at a place of a scene. -/
def choice? (story : Story) (name : String) (place : Nat) : Option Choice :=
  (story.scene? name).bind fun scene => scene.choices[place]?

variable {before after story : Story} {name other : String} {scene : Scene} {place : Nat}
  {choice : Choice}

theorem choice?_eq_some_iff :
    story.choice? name place = some choice ↔ story.HasChoice name place choice :=
  Option.bind_eq_some_iff

theorem choice?_of_scene? (hscene : story.scene? name = some scene) (place : Nat) :
    story.choice? name place = scene.choices[place]? := by
  rw [choice?, hscene]
  rfl

theorem choice?_eq_getD (story : Story) (name text : String) (place : Nat) :
    story.choice? name place = ((story.scene? name).getD ⟨text, []⟩).choices[place]? := by
  rw [choice?]
  cases story.scene? name <;> rfl

theorem choice?_fresh (id title text name : String) (place : Nat) :
    (fresh id title text).choice? name place = none := by
  have hscene : (fresh id title text).scene? name =
      if defaultStart = name then some ⟨text, []⟩ else none := Dict.find?_insert ..
  rw [choice?, hscene]
  split <;> rfl

theorem DiffersAt.choice?_self (hdiffers : before.DiffersAt after name scene) (place : Nat) :
    after.choice? name place = scene.choices[place]? :=
  choice?_of_scene? hdiffers.scene_eq place

theorem DiffersAt.choice?_of_ne (hdiffers : before.DiffersAt after name scene)
    (hother : other ≠ name) (place : Nat) :
    after.choice? other place = before.choice? other place := by
  rw [choice?, choice?, hdiffers.others other hother]

theorem DiffersAt.choice?_eq (hdiffers : before.DiffersAt after name scene)
    (hsame : ∀ place, scene.choices[place]? = before.choice? name place) (other : String)
    (place : Nat) : after.choice? other place = before.choice? other place := by
  by_cases hother : other = name
  · rw [hother, hdiffers.choice?_self]
    exact hsame place
  · exact hdiffers.choice?_of_ne hother place

end Story

/-- A choice that is gated by a requirement, or by none if the requirement asks for nothing. -/
def Choice.gatedBy (choice : Choice) (requirement : Requirement) : Choice :=
  ⟨choice.text, choice.next, if requirement = .none then none else some requirement⟩

namespace StoryEdit

/-- What an edit makes of the choice at one place of a scene. -/
def choiceAfter (name : String) (place : Nat) (old : Option Choice) :
    (edit : StoryEdit) → edit.Answer → Option Choice
  | .addChoice scene text next, added =>
    if scene = name ∧ added = place then some ⟨text, next, none⟩ else old
  | .setRequirement scene index requirement, _ =>
    if scene = name ∧ index = place then old.map fun choice => choice.gatedBy requirement else old
  | _, _ => old

variable {before after : Story} {name : String} {place : Nat}

theorem Makes.choice?_added {text next : String}
    (hmakes : Makes before after (.addChoice name text next) place) :
    before.choice? name place = none := by
  obtain ⟨old, scene, hold, -, rfl, -⟩ := hmakes
  rw [before.choice?_eq_getD name Story.emptySceneText, hold]
  exact List.getElem?_eq_none (Nat.le_refl _)

theorem Makes.choice?_addChoice {scene text next : String} {added : Nat}
    (hmakes : Makes before after (.addChoice scene text next) added) :
    after.choice? name place =
      if scene = name ∧ added = place then some ⟨text, next, none⟩
      else before.choice? name place := by
  obtain ⟨old, made, hold, hstory, rfl, hscene⟩ := hmakes
  by_cases hname : name = scene
  · rw [hname, hstory.choice?_self, before.choice?_eq_getD scene Story.emptySceneText, hold]
    by_cases hplace : old.choices.length = place
    · rw [if_pos ⟨rfl, hplace⟩, ← hplace, hscene.choice_eq]
    · rw [if_neg fun hboth => hplace hboth.2]
      exact hscene.others place (Ne.symm hplace)
  · rw [if_neg fun hboth => hname hboth.1.symm]
    exact hstory.choice?_of_ne hname place

theorem Makes.choice?_setRequirement {scene : String} {index : Nat} {requirement : Requirement}
    (hmakes : Makes before after (.setRequirement scene index requirement) ()) :
    after.choice? name place =
      if scene = name ∧ index = place then
        (before.choice? name place).map fun choice => choice.gatedBy requirement
      else before.choice? name place := by
  obtain ⟨old, gated, made, hold, hgated, hstory, hscene⟩ := hmakes
  by_cases hname : name = scene
  · rw [hname, hstory.choice?_self, Story.choice?_of_scene? hold]
    by_cases hplace : index = place
    · rw [if_pos ⟨rfl, hplace⟩, ← hplace, hscene.choice_eq, hgated]
      rfl
    · rw [if_neg fun hboth => hplace hboth.2]
      exact hscene.others place (Ne.symm hplace)
  · rw [if_neg fun hboth => hname hboth.1.symm]
    exact hstory.choice?_of_ne hname place

theorem Makes.choice?_eq {edit : StoryEdit} {answer : edit.Answer}
    (hmakes : edit.Makes before after answer) (name : String) (place : Nat) :
    after.choice? name place =
      edit.choiceAfter name place (before.choice? name place) answer := by
  cases edit with
  | addScene scene =>
      rw [Makes] at hmakes
      split at hmakes
      · rename_i hscene
        refine hmakes.1.choice?_eq ?_ name place
        intro place
        rw [Story.choice?, hscene]
        rfl
      · rw [hmakes.1]
        rfl
  | setSceneText scene text =>
      refine Story.DiffersAt.choice?_eq hmakes ?_ name place
      intro place
      rw [Story.choice?]
      cases before.scene? scene <;> rfl
  | addChoice scene text next => exact hmakes.choice?_addChoice
  | setRequirement scene index requirement => exact hmakes.choice?_setRequirement
  | setInitialStat stat value =>
      rw [hmakes.1]
      rfl
  | addInitialItem item =>
      rw [hmakes.1]
      rfl

end StoryEdit

end Gamebook
