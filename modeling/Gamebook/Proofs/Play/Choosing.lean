import Gamebook.Proofs.Play.Gates
import Gamebook.Proofs.Play.Marking

namespace Gamebook

/-- A program that works on a player. What it has made of the player stays if it fails. -/
abbrev InPlace (α : Type) := ExceptT PlayError (StateM PlayerState) α

/-- Whether a choice has no requirement, or the player has all that it asks for, where a stat that
is not set counts as zero. -/
def Choice.IsOpen (choice : Choice) (state : PlayerState) : Prop :=
  ∀ requirement, choice.requirement = some requirement →
    (∀ item ∈ requirement.items, item ∈ state.inventory) ∧
      ∀ stat least, requirement.stats.find? stat = some least →
        least ≤ (state.stats.find? stat).getD 0

theorem Choice.isAvailable_iff {choice : Choice} {state : PlayerState} :
    choice.isAvailable state = true ↔ choice.IsOpen state := by
  rw [isAvailable, Option.all_eq_true]
  refine forall_congr' fun requirement => imp_congr_right fun _ => ?_
  rw [Requirement.isMet, Bool.and_eq_true, List.all_eq_true, List.all_eq_true]
  refine and_congr ?_ ?_
  · simp [PlayerState.hasItem]
  · simp only [Prod.forall, ← Dict.find?_eq_some_iff, decide_eq_true_eq]
    rfl

instance (choice : Choice) (state : PlayerState) : Decidable (choice.IsOpen state) :=
  decidable_of_iff _ Choice.isAvailable_iff

/-- The choices of a scene that are open to a player, in their order. -/
def Scene.openChoices (scene : Scene) (state : PlayerState) : List Choice :=
  scene.choices.filter fun choice => choice.IsOpen state

theorem Scene.available_eq (scene : Scene) (state : PlayerState) :
    scene.available state = scene.openChoices state := by
  refine List.filter_congr fun choice _ => ?_
  rw [Bool.eq_iff_iff, Choice.isAvailable_iff, decide_eq_true_eq]

namespace Story

def enterInPlace (story : Story) : InPlace SceneView := do
  let state ← get
  let scene ← story.findScene state.currentScene
  let (text, shown) := Template.render scene.text state
  set shown
  return ⟨shown.currentScene, text, scene.available shown⟩

def chooseInPlace (story : Story) (index : Nat) : InPlace SceneView := do
  let state ← get
  let scene ← story.findScene state.currentScene
  match (scene.available state)[index]? with
  | none => throw (.invalidChoice index (scene.available state).length)
  | some choice =>
    let _ ← story.findScene choice.next
    modify fun state =>
      { state with history := state.history ++ [⟨state.currentScene, choice.text⟩] }
    modify fun state => { state with currentScene := choice.next }
    story.enterInPlace

variable {story : Story} {state : PlayerState} {index : Nat}

theorem run_findScene_of_scene {name : String} {scene : Scene}
    (hscene : story.scene? name = some scene) (next : Scene → InPlace SceneView) :
    (do let found ← (story.findScene name : InPlace Scene); next found).run.run state =
      (next scene).run.run state := by
  rw [findScene, hscene]
  rfl

theorem run_findScene_of_none {name : String} (hmissing : story.scene? name = none)
    (next : Scene → InPlace SceneView) :
    (do let found ← (story.findScene name : InPlace Scene); next found).run.run state =
      (.error (.sceneNotFound name), state) := by
  rw [findScene, hmissing]
  rfl

theorem run_get (next : PlayerState → InPlace SceneView) (state : PlayerState) :
    (do let found ← get; next found : InPlace SceneView).run.run state =
      (next state).run.run state := rfl

theorem run_modify (change : PlayerState → PlayerState) (next : InPlace SceneView)
    (state : PlayerState) :
    (do modify change; next : InPlace SceneView).run.run state =
      next.run.run (change state) := rfl

theorem run_enterInPlace {scene : Scene} (hscene : story.scene? state.currentScene = some scene) :
    story.enterInPlace.run.run state = (.ok (scene.visit state).2, (scene.visit state).1) := by
  have hview : (scene.visit state).2 =
      ⟨(scene.visit state).1.currentScene, (Template.render scene.text state).1,
        scene.available (scene.visit state).1⟩ := by
    rw [Scene.currentScene_visit]
    rfl
  rw [enterInPlace, run_get, run_findScene_of_scene hscene, hview]
  rfl

theorem run_chooseInPlace (story : Story) (state : PlayerState) (index : Nat) :
    (story.chooseInPlace index).run.run state =
      match story.choose state index with
      | .ok (next, view) => (.ok view, next)
      | .error error => (.error error, state) := by
  rw [choose_eq, chooseInPlace, run_get]
  cases hscene : story.scene? state.currentScene with
  | none => rw [run_findScene_of_none hscene]
  | some scene =>
      rw [run_findScene_of_scene hscene]
      simp only
      cases hoffered : (scene.available state)[index]? with
      | none => rfl
      | some choice =>
          simp only
          cases htarget : story.scene? choice.next with
          | none => rw [run_findScene_of_none htarget]
          | some target =>
              have hmoved : story.scene? (state.follow choice).currentScene = some target := htarget
              rw [run_findScene_of_scene htarget, run_modify, run_modify]
              exact run_enterInPlace hmoved

/-- What has become of a player who has followed a choice: it is in the history, and the player is
where it leads to, with what the scene there gives and with the ending that it brings. -/
structure Follows (state : PlayerState) (choice : Choice) (target : Scene) (next : PlayerState)
    (view : SceneView) : Prop where
  history_eq : next.history = state.history ++ [⟨state.currentScene, choice.text⟩]
  currentScene_eq : next.currentScene = choice.next
  playerId_eq : next.playerId = state.playerId
  storyId_eq : next.storyId = state.storyId
  stats_eq : next.stats = state.stats
  marked : ∃ segments, Template.IsMarked target.text.toList segments
  /-- Of what the directives give, that which was not held yet is added, each item once, where it is
  given first. -/
  inventory_eq : ∀ segments, Template.IsMarked target.text.toList segments →
    next.inventory = state.inventory ++
      ((segments.filterMap Segment.item?).filter (· ∉ state.inventory)).eraseDups
  ending_eq : ∀ segments, Template.IsMarked target.text.toList segments →
    next.ending = (segments.filterMap Segment.ending?).getLast?.or state.ending
  scene_eq : view.scene = choice.next
  /-- The choices are those that are open after the scene has given what it gives. -/
  choices_eq : view.choices = target.openChoices next

theorem follows_visit (state : PlayerState) (choice : Choice) (target : Scene) :
    Follows state choice target (target.visit (state.follow choice)).1
      (target.visit (state.follow choice)).2 := by
  have hframe := Scene.visit_frame target (state.follow choice)
  have hmade : ∀ segments, Template.IsMarked target.text.toList segments →
      (target.visit (state.follow choice)).1 =
        { (segments.filterMap Segment.item?).foldl PlayerState.addItem (state.follow choice) with
          ending := (segments.filterMap Segment.ending?).getLast?.or state.ending } := by
    intro segments hmarked
    rw [Scene.visit, hmarked.render_eq]
    exact Segment.foldl_effect segments _
  constructor
  · exact Scene.history_visit target _
  · exact Scene.currentScene_visit target _
  · rw [hframe]
    rfl
  · rw [hframe]
    rfl
  · rw [hframe]
    rfl
  · exact ⟨_, Template.isMarked_segments target.text⟩
  · intro segments hmarked
    rw [hmade segments hmarked]
    exact PlayerState.inventory_foldl_addItem _ _
  · intro segments hmarked
    rw [hmade segments hmarked]
  · rfl
  · exact target.available_eq _

/-- Whether a choice is taken wholly or not at all, and fails just where something is missing: the
current scene, or else a choice of this number, or else the scene that it leads to. -/
structure ChoosesWholly (story : Story) (state : PlayerState) (index : Nat) : Prop where
  no_scene : story.choose state index = .error (.sceneNotFound state.currentScene) ↔
    story.hasScene state.currentScene = false
  no_choice : ∀ scene, story.scene? state.currentScene = some scene →
    (story.choose state index = .error (.invalidChoice index (scene.openChoices state).length) ↔
      (scene.openChoices state).length ≤ index)
  no_target : ∀ scene choice, story.scene? state.currentScene = some scene →
    (scene.openChoices state)[index]? = some choice →
      (story.choose state index = .error (.sceneNotFound choice.next) ↔
        story.hasScene choice.next = false)
  follows : ∀ scene choice target, story.scene? state.currentScene = some scene →
    (scene.openChoices state)[index]? = some choice → story.scene? choice.next = some target →
      ∃ next view, story.choose state index = .ok (next, view) ∧
        Follows state choice target next view
  /-- A choice that is taken in place makes of the player what is left of it otherwise. -/
  moved : ∀ next view, story.choose state index = .ok (next, view) →
    (story.chooseInPlace index).run.run state = (.ok view, next)
  /-- A choice that fails in place leaves the player as it was. -/
  kept : ∀ error, story.choose state index = .error error →
    (story.chooseInPlace index).run.run state = (.error error, state)

theorem chooses_wholly (story : Story) (state : PlayerState) (index : Nat) :
    story.ChoosesWholly state index := by
  have hplace := story.run_chooseInPlace state index
  constructor
  · constructor
    · intro hchoose
      rcases choose_eq_sceneNotFound hchoose with hnone | ⟨scene, choice, -, -, -, hmissing⟩
      · exact hasScene_eq_false_iff.mpr hnone
      · exact hmissing
    · intro hmissing
      exact choose_of_no_scene (hasScene_eq_false_iff.mp hmissing) index
  · intro scene hscene
    rw [← scene.available_eq]
    constructor
    · intro hchoose
      by_contra hless
      have hoffered := List.getElem?_eq_getElem (Nat.lt_of_not_le hless)
      rw [choose_of_offered hscene hoffered] at hchoose
      split at hchoose <;> cases hchoose
    · exact choose_of_length_le hscene
  · intro scene choice hscene hoffered
    rw [← scene.available_eq] at hoffered
    rw [choose_of_offered hscene hoffered]
    cases htarget : story.scene? choice.next with
    | none => exact iff_of_true rfl (hasScene_eq_false_iff.mpr htarget)
    | some target =>
        refine iff_of_false (by rintro ⟨⟩) ?_
        rw [hasScene_iff.mpr ⟨target, htarget⟩]
        exact Bool.noConfusion
  · intro scene choice target hscene hoffered htarget
    rw [← scene.available_eq] at hoffered
    have hchoose := choose_of_offered hscene hoffered
    rw [htarget] at hchoose
    exact ⟨_, _, hchoose, follows_visit state choice target⟩
  · intro next view hchoose
    rw [hplace, hchoose]
  · intro error hchoose
    rw [hplace, hchoose]

/-- Whether what is shown to a player is what the next choice is taken from. -/
structure Accepts (story : Story) (state : PlayerState) (view : SceneView) : Prop where
  available_eq : story.availableChoices state = .ok view.choices
  takes : ∀ index choice, view.choices[index]? = some choice →
    (∃ target next shown, story.scene? choice.next = some target ∧
        story.choose state index = .ok (next, shown) ∧ Follows state choice target next shown) ∨
      (story.hasScene choice.next = false ∧
        story.choose state index = .error (.sceneNotFound choice.next))
  refuses : ∀ index, view.choices.length ≤ index →
    story.choose state index = .error (.invalidChoice index view.choices.length)

theorem accepts_visit {scene : Scene} (hscene : story.scene? state.currentScene = some scene) :
    story.Accepts (scene.visit state).1 (scene.visit state).2 := by
  have hthere : story.scene? (scene.visit state).1.currentScene = some scene := by
    rw [Scene.currentScene_visit, hscene]
  constructor
  · rw [availableChoices, findScene, hthere]
    rfl
  · intro index choice hoffered
    have hchoose := choose_of_offered hthere hoffered
    cases htarget : story.scene? choice.next with
    | none =>
        rw [htarget] at hchoose
        exact Or.inr ⟨hasScene_eq_false_iff.mpr htarget, hchoose⟩
    | some target =>
        rw [htarget] at hchoose
        exact Or.inl ⟨target, _, _, rfl, hchoose, follows_visit _ choice target⟩
  · intro index hindex
    exact choose_of_length_le hthere hindex

theorem accepts_shown {view : SceneView}
    (hshown : (∃ player, story.startPlay player = .ok (state, view)) ∨
      ∃ earlier call, story.call earlier call = .ok (state, view)) :
    story.Accepts state view := by
  rcases hshown with ⟨player, hstart⟩ | ⟨earlier, call, hcall⟩
  · obtain ⟨scene, hscene, hvisit⟩ := startPlay_eq_ok hstart
    obtain ⟨rfl, rfl⟩ := Prod.mk.inj hvisit
    apply accepts_visit
    rw [PlayerState.currentScene_begin, hscene]
  · rcases call_cases story earlier call with ⟨error, hfails⟩ | ⟨moved, scene, hok, hscene, -⟩
    · rw [hfails] at hcall
      cases hcall
    · rw [hok] at hcall
      obtain ⟨rfl, rfl⟩ := Prod.mk.inj (Except.ok.inj hcall)
      exact accepts_visit hscene

/-- The quarry shown to somebody who was never in it before: the rope that lies there opens a way,
which leads nowhere. -/
theorem accepts_shown_stray :
    ∃ state view, quarry.call ⟨"bo", "elsewhere", "start", ∅, [], [], none⟩ .resume =
        .ok (state, view) ∧
      view.choices.map (fun choice => (choice.text, quarry.hasScene choice.next)) =
        [("Climb down", false), ("Go home", true)] ∧
      quarry.Accepts state view := by
  have hshown : (quarry.call ⟨"bo", "elsewhere", "start", ∅, [], [], none⟩ .resume).map
      (fun turn => turn.2.choices.map fun choice => (choice.text, quarry.hasScene choice.next)) =
        .ok [("Climb down", false), ("Go home", true)] := by
    decide +kernel
  cases hcall : quarry.call ⟨"bo", "elsewhere", "start", ∅, [], [], none⟩ .resume with
  | error error =>
      rw [hcall] at hshown
      cases hshown
  | ok turn =>
      rw [hcall] at hshown
      exact ⟨turn.1, turn.2, rfl, Except.ok.inj hshown, accepts_shown (Or.inr ⟨_, _, hcall⟩)⟩

end Story

end Gamebook
