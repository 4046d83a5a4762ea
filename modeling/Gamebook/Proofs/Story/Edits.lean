import Gamebook.Story.Edit

namespace Gamebook

theorem Requirement.isEmpty_iff {requirement : Requirement} :
    requirement.isEmpty = true ↔ requirement = .none := by
  obtain ⟨items, entries, sorted⟩ := requirement
  rw [isEmpty, Dict.isEmpty, Bool.and_eq_true, List.isEmpty_iff, List.isEmpty_iff]
  constructor
  · rintro ⟨rfl, rfl⟩
    rfl
  · intro hnone
    cases hnone
    exact ⟨rfl, rfl⟩

/-- Whether a scene differs from another one in the choice at one place alone, and what this choice
is. -/
structure Scene.DiffersAt (before after : Scene) (index : Nat) (choice : Choice) : Prop where
  text_eq : after.text = before.text
  choice_eq : after.choices[index]? = some choice
  others : ∀ other, other ≠ index → after.choices[other]? = before.choices[other]?

/-- Whether a story differs from another one in the scene of one name alone, and what this scene
is. -/
structure Story.DiffersAt (before after : Story) (name : String) (scene : Scene) : Prop where
  scene_eq : after.scene? name = some scene
  others : ∀ other, other ≠ name → after.scene? other = before.scene? other
  rest : after = { before with scenes := after.scenes }

namespace Scene

variable {before after : Scene} {index : Nat} {choice : Choice}

theorem differsAt_set (hindex : index < before.choices.length) :
    before.DiffersAt after index choice ↔
      after = { before with choices := before.choices.set index choice } := by
  constructor
  · rintro ⟨htext, hchoice, hothers⟩
    obtain ⟨text, choices⟩ := after
    obtain rfl : text = before.text := htext
    congr 1
    apply List.ext_getElem?
    intro place
    rw [List.getElem?_set]
    split
    · rename_i hplace
      rw [← hplace]
      exact hchoice
    · rename_i hplace
      exact hothers place (Ne.symm hplace)
  · rintro rfl
    refine ⟨rfl, List.getElem?_set_self hindex, ?_⟩
    intro other hother
    exact List.getElem?_set_ne (Ne.symm hother)

theorem differsAt_append :
    before.DiffersAt after before.choices.length choice ↔
      after = { before with choices := before.choices ++ [choice] } := by
  constructor
  · rintro ⟨htext, hchoice, hothers⟩
    obtain ⟨text, choices⟩ := after
    obtain rfl : text = before.text := htext
    congr 1
    apply List.ext_getElem?
    intro place
    by_cases hplace : place = before.choices.length
    · rw [hplace, List.getElem?_concat_length]
      exact hchoice
    · rw [List.getElem?_append, List.getElem?_singleton]
      refine (hothers place hplace).trans ?_
      split
      · rfl
      · rw [if_neg (by omega), List.getElem?_eq_none (by omega)]
  · rintro rfl
    refine ⟨rfl, List.getElem?_concat_length, ?_⟩
    intro other hother
    change (before.choices ++ [choice])[other]? = before.choices[other]?
    rw [List.getElem?_append, List.getElem?_singleton]
    split
    · rfl
    · rw [if_neg (by omega), List.getElem?_eq_none (by omega)]

end Scene

namespace Story

variable {before after : Story} {name : String} {scene : Scene}

theorem differsAt_iff : before.DiffersAt after name scene ↔ after = before.putScene name scene := by
  constructor
  · rintro ⟨hscene, hothers, hrest⟩
    have hscenes : after.scenes = before.scenes.insert name scene := by
      apply Dict.ext_find?
      intro other
      rw [Dict.find?_insert]
      split
      · rename_i hname
        rw [← hname]
        exact hscene
      · rename_i hname
        exact hothers other (Ne.symm hname)
    rw [hrest, hscenes]
    rfl
  · rintro rfl
    refine ⟨Dict.find?_insert_self .., ?_, rfl⟩
    intro other hother
    exact (Dict.find?_insert ..).trans (if_neg (Ne.symm hother))

end Story

/-- An edit that authors make to a story. -/
inductive StoryEdit where
  | addScene (scene : String)
  | setSceneText (scene text : String)
  | addChoice (scene text next : String)
  | setRequirement (scene : String) (index : Nat) (requirement : Requirement)
  | setInitialStat (stat : String) (value : Int64)
  | addInitialItem (item : String)

namespace StoryEdit

/-- What is answered to an edit. -/
abbrev Answer : StoryEdit → Type
  | .addScene _ => Bool
  | .setSceneText _ _ => Unit
  | .addChoice _ _ _ => Nat
  | .setRequirement _ _ _ => Unit
  | .setInitialStat _ _ => Unit
  | .addInitialItem _ => Bool

/-- An edit as the program makes it to a story. -/
def on (story : Story) : (edit : StoryEdit) → Except GateFault (Story × edit.Answer)
  | .addScene scene => .ok (story.addScene scene)
  | .setSceneText scene text => .ok (story.setSceneText scene text, ())
  | .addChoice scene text next => .ok (story.addChoice scene text next)
  | .setRequirement scene index requirement =>
    (story.setRequirement scene index requirement).map fun story => (story, ())
  | .setInitialStat stat value => .ok (story.setInitialStat stat value, ())
  | .addInitialItem item => .ok (story.addInitialItem item)

/-- What an edit has to make of a story, and what has to be answered to it. -/
def Makes (before after : Story) : (edit : StoryEdit) → edit.Answer → Prop
  | .addScene name, isNew =>
    match before.scene? name with
    | none => before.DiffersAt after name ⟨Story.emptySceneText, []⟩ ∧ isNew = true
    | some _ => after = before ∧ isNew = false
  | .setSceneText name text, _ =>
    before.DiffersAt after name ⟨text, ((before.scene? name).map (·.choices)).getD []⟩
  | .addChoice name text next, place =>
    ∃ old scene, (before.scene? name).getD ⟨Story.emptySceneText, []⟩ = old ∧
      before.DiffersAt after name scene ∧ place = old.choices.length ∧
      old.DiffersAt scene place ⟨text, next, none⟩
  | .setRequirement name index requirement, _ =>
    ∃ old choice scene, before.scene? name = some old ∧ old.choices[index]? = some choice ∧
      before.DiffersAt after name scene ∧
      old.DiffersAt scene index
        ⟨choice.text, choice.next, if requirement = .none then none else some requirement⟩
  | .setInitialStat stat value, _ =>
    after = { before with stats := after.stats } ∧ after.stats.enabled = true ∧
      after.stats.values.find? stat = some value ∧
      ∀ other, other ≠ stat → after.stats.values.find? other = before.stats.values.find? other
  | .addInitialItem item, isNew =>
    after = { before with inventory := after.inventory } ∧ after.inventory.enabled = true ∧
      after.inventory.items = before.inventory.items ++ (if isNew then [item] else []) ∧
      (isNew = true ↔ item ∉ before.inventory.items)

variable {before after : Story}

theorem makes_addScene {name : String} {isNew : Bool} :
    Makes before after (.addScene name) isNew ↔ before.addScene name = (after, isNew) := by
  rw [Makes, Story.addScene]
  cases hscene : before.scene? name with
  | none =>
      rw [if_neg (Bool.eq_false_iff.mp (Story.hasScene_eq_false_iff.mpr hscene)), Prod.mk.injEq]
      simp only [Story.differsAt_iff, eq_comm]
  | some scene =>
      rw [if_pos (Story.hasScene_iff.mpr ⟨scene, hscene⟩), Prod.mk.injEq]
      simp only [eq_comm]

theorem makes_setSceneText {name text : String} :
    Makes before after (.setSceneText name text) () ↔ before.setSceneText name text = after := by
  rw [Makes, Story.differsAt_iff, Story.setSceneText, Story.sceneOr, eq_comm]
  cases before.scene? name <;> rfl

theorem makes_addChoice {name text next : String} {place : Nat} :
    Makes before after (.addChoice name text next) place ↔
      before.addChoice name text next = (after, place) := by
  rw [Makes, Story.addChoice, Story.sceneOr, Prod.mk.injEq]
  constructor
  · rintro ⟨old, scene, hold, hstory, rfl, hscene⟩
    rw [Scene.differsAt_append] at hscene
    rw [Story.differsAt_iff, hscene] at hstory
    rw [hold]
    exact ⟨hstory.symm, rfl⟩
  · rintro ⟨hstory, rfl⟩
    refine ⟨_, _, rfl, Story.differsAt_iff.mpr hstory.symm, rfl, ?_⟩
    exact Scene.differsAt_append.mpr rfl

theorem makes_setRequirement {name : String} {index : Nat} {requirement : Requirement} :
    Makes before after (.setRequirement name index requirement) () ↔
      before.setRequirement name index requirement = .ok after := by
  have hgate : (if requirement.isEmpty then none else some requirement) =
      if requirement = .none then none else some requirement := by
    simp only [Requirement.isEmpty_iff]
  rw [Makes, Story.setRequirement]
  constructor
  · rintro ⟨old, choice, scene, hold, hchoice, hstory, hscene⟩
    obtain ⟨hindex, -⟩ := List.getElem?_eq_some_iff.mp hchoice
    rw [Scene.differsAt_set hindex] at hscene
    rw [Story.differsAt_iff, hscene] at hstory
    simp only [hold, hchoice, hgate, hstory]
  · intro hrequirement
    cases hold : before.scene? name with
    | none =>
        rw [hold] at hrequirement
        cases hrequirement
    | some old =>
        simp only [hold] at hrequirement
        cases hchoice : old.choices[index]? with
        | none =>
            rw [hchoice] at hrequirement
            cases hrequirement
        | some choice =>
            simp only [hchoice, Except.ok.injEq, hgate] at hrequirement
            obtain ⟨hindex, -⟩ := List.getElem?_eq_some_iff.mp hchoice
            refine ⟨old, choice, _, rfl, hchoice, Story.differsAt_iff.mpr hrequirement.symm, ?_⟩
            exact (Scene.differsAt_set hindex).mpr rfl

theorem makes_setInitialStat {stat : String} {value : Int64} :
    Makes before after (.setInitialStat stat value) () ↔
      before.setInitialStat stat value = after := by
  rw [Makes, Story.setInitialStat]
  constructor
  · rintro ⟨hrest, henabled, hstat, hothers⟩
    have hvalues : after.stats.values = before.stats.values.insert stat value := by
      apply Dict.ext_find?
      intro other
      rw [Dict.find?_insert]
      split
      · rename_i hother
        rw [← hother]
        exact hstat
      · rename_i hother
        exact hothers other (Ne.symm hother)
    have hstats : after.stats = ⟨true, before.stats.values.insert stat value⟩ := by
      rw [← henabled, ← hvalues]
    rw [hrest, hstats]
  · rintro rfl
    refine ⟨rfl, rfl, Dict.find?_insert_self .., ?_⟩
    intro other hother
    exact (Dict.find?_insert ..).trans (if_neg (Ne.symm hother))

theorem makes_addInitialItem {item : String} {isNew : Bool} :
    Makes before after (.addInitialItem item) isNew ↔
      before.addInitialItem item = (after, isNew) := by
  have hinventory : ∀ items, (after = { before with inventory := after.inventory } ∧
      after.inventory.enabled = true ∧ after.inventory.items = items) ↔
        { before with inventory := ⟨true, items⟩ } = after := by
    intro items
    constructor
    · rintro ⟨hrest, henabled, rfl⟩
      rw [hrest, ← henabled]
    · rintro rfl
      exact ⟨rfl, rfl, rfl⟩
  rw [Makes, Story.addInitialItem, ← and_assoc, ← and_assoc, and_assoc (a := after = _), hinventory]
  by_cases hmem : item ∈ before.inventory.items
  · rw [if_pos hmem, Prod.mk.injEq]
    cases isNew <;> simp [hmem]
  · rw [if_neg hmem, Prod.mk.injEq]
    cases isNew <;> simp [hmem]

/-- The program makes of a story what an edit has to make of it, and of no other story. -/
theorem makes_iff {edit : StoryEdit} {answer : edit.Answer} :
    edit.Makes before after answer ↔ edit.on before = .ok (after, answer) := by
  cases edit with
  | addScene name =>
      rw [makes_addScene, on, Except.ok.injEq]
  | setSceneText name text =>
      rw [makes_setSceneText, on, Except.ok.injEq, Prod.mk.injEq, and_iff_left rfl]
  | addChoice name text next =>
      rw [makes_addChoice, on, Except.ok.injEq]
  | setRequirement name index requirement =>
      rw [makes_setRequirement, on]
      cases before.setRequirement name index requirement with
      | error fault => simp [Except.map]
      | ok made => simp [Except.map]
  | setInitialStat stat value =>
      rw [makes_setInitialStat, on, Except.ok.injEq, Prod.mk.injEq, and_iff_left rfl]
  | addInitialItem item =>
      rw [makes_addInitialItem, on, Except.ok.injEq]

theorem Makes.unique {edit : StoryEdit} {answer other : edit.Answer} {after' : Story}
    (hmakes : edit.Makes before after answer) (hother : edit.Makes before after' other) :
    after' = after ∧ other = answer := by
  rw [makes_iff] at hmakes hother
  exact Prod.mk.inj (Except.ok.inj (hother.symm.trans hmakes))

theorem Makes.frame {edit : StoryEdit} {answer : edit.Answer}
    (hmakes : edit.Makes before after answer) :
    after = { before with
      inventory := after.inventory, stats := after.stats, scenes := after.scenes } := by
  cases edit with
  | addScene name =>
      rw [Makes] at hmakes
      split at hmakes
      · rw [hmakes.1.rest]
      · rw [hmakes.1]
  | setSceneText name text => rw [hmakes.rest]
  | addChoice name text next =>
      obtain ⟨old, scene, -, hstory, -⟩ := hmakes
      rw [hstory.rest]
  | setRequirement name index requirement =>
      obtain ⟨old, choice, scene, -, -, hstory, -⟩ := hmakes
      rw [hstory.rest]
  | setInitialStat stat value => rw [hmakes.1]
  | addInitialItem item => rw [hmakes.1]

theorem Makes.id_eq {edit : StoryEdit} {answer : edit.Answer}
    (hmakes : edit.Makes before after answer) : after.id = before.id := by
  rw [hmakes.frame]

end StoryEdit

end Gamebook
