import Gamebook.Proofs.Play.Rendering

/-!
Runs of a play: a story is begun, and then choices are taken and scenes are shown again in any
order. A call that fails leaves the player as it is. All that a call can do is said once
(`enter_eq`, `choose_eq`, `after_cases`), and what holds along a run is derived from it.
-/

namespace Gamebook

/-- A call on a play that has begun. -/
inductive PlayCall where
  | choose (index : Nat)
  | resume
  deriving DecidableEq, Repr

namespace Scene

/-- What comes of showing a scene to a player: the player afterwards, and what is shown. -/
def visit (scene : Scene) (state : PlayerState) : PlayerState × SceneView :=
  let rendered := Template.render scene.text state
  (rendered.2, ⟨state.currentScene, rendered.1, scene.available rendered.2⟩)

theorem visit_frame (scene : Scene) (state : PlayerState) :
    (scene.visit state).1 =
      { state with
        inventory := (scene.visit state).1.inventory
        ending := (scene.visit state).1.ending } :=
  Template.render_frame scene.text state

@[simp] theorem currentScene_visit (scene : Scene) (state : PlayerState) :
    (scene.visit state).1.currentScene = state.currentScene := by
  rw [visit_frame]

@[simp] theorem history_visit (scene : Scene) (state : PlayerState) :
    (scene.visit state).1.history = state.history := by
  rw [visit_frame]

theorem visit_visit (scene : Scene) (state : PlayerState) :
    scene.visit (scene.visit state).1 = scene.visit state := by
  have hagain := Template.render_render scene.text state
  have hplace := currentScene_visit scene state
  unfold visit at hplace ⊢
  simp only at hplace ⊢
  rw [hagain, hplace]

theorem mem_choices_of_available {scene : Scene} {state : PlayerState} {index : Nat}
    {choice : Choice} (htaken : (scene.available state)[index]? = some choice) :
    choice ∈ scene.choices ∧ choice.isAvailable state = true :=
  List.mem_filter.mp (List.mem_of_getElem? htaken)

end Scene

namespace PlayerState

/-- The player once a choice is recorded, before the scene that it leads to is shown. -/
def follow (state : PlayerState) (choice : Choice) : PlayerState :=
  { state with
    currentScene := choice.next
    history := state.history ++ [⟨state.currentScene, choice.text⟩] }

/-- The scenes of a play in their order: those in which choices were taken, and the current one. -/
def path (state : PlayerState) : List String :=
  state.history.map (·.scene) ++ [state.currentScene]

@[simp] theorem history_foldl_addItem (items : List String) (state : PlayerState) :
    (items.foldl addItem state).history = state.history := by
  rw [foldl_addItem_frame]

@[simp] theorem currentScene_foldl_addItem (items : List String) (state : PlayerState) :
    (items.foldl addItem state).currentScene = state.currentScene := by
  rw [foldl_addItem_frame]

@[simp] theorem history_begin (story : Story) (player : String) :
    (begin story player).history = [] :=
  history_foldl_addItem story.inventory.items _

@[simp] theorem currentScene_begin (story : Story) (player : String) :
    (begin story player).currentScene = story.start :=
  currentScene_foldl_addItem story.inventory.items _

end PlayerState

namespace Story

theorem enter_eq (story : Story) (state : PlayerState) :
    story.enter state =
      match story.scene? state.currentScene with
      | some scene => .ok (scene.visit state)
      | none => .error (.sceneNotFound state.currentScene) := by
  unfold enter findScene
  cases story.scene? state.currentScene with
  | none => rfl
  | some scene =>
      have hplace := Scene.currentScene_visit scene state
      unfold Scene.visit at hplace ⊢
      simp only [bind, Except.bind, pure, Except.pure] at hplace ⊢
      rw [hplace]

theorem choose_eq (story : Story) (state : PlayerState) (index : Nat) :
    story.choose state index =
      match story.scene? state.currentScene with
      | none => .error (.sceneNotFound state.currentScene)
      | some scene =>
        match (scene.available state)[index]? with
        | none => .error (.invalidChoice index (scene.available state).length)
        | some choice =>
          match story.scene? choice.next with
          | none => .error (.sceneNotFound choice.next)
          | some target => .ok (target.visit (state.follow choice)) := by
  unfold choose availableChoices findScene
  cases story.scene? state.currentScene with
  | none => rfl
  | some scene =>
      simp only [bind, Except.bind, pure, Except.pure]
      cases (scene.available state)[index]? with
      | none => rfl
      | some choice =>
          simp only
          cases htarget : story.scene? choice.next with
          | none => rfl
          | some target =>
              have hmoved : story.scene? (state.follow choice).currentScene = some target := htarget
              have henter := enter_eq story (state.follow choice)
              rw [hmoved] at henter
              exact henter

section

variable {story : Story} {state : PlayerState} {scene : Scene} {index : Nat}

theorem choose_of_no_scene (hmissing : story.scene? state.currentScene = none) (index : Nat) :
    story.choose state index = .error (.sceneNotFound state.currentScene) := by
  rw [choose_eq, hmissing]

theorem choose_of_length_le (hscene : story.scene? state.currentScene = some scene)
    (hindex : (scene.available state).length ≤ index) :
    story.choose state index = .error (.invalidChoice index (scene.available state).length) := by
  rw [choose_eq, hscene]
  simp only [List.getElem?_eq_none hindex]

theorem choose_of_offered {choice : Choice}
    (hscene : story.scene? state.currentScene = some scene)
    (hoffered : (scene.available state)[index]? = some choice) :
    story.choose state index =
      match story.scene? choice.next with
      | none => .error (.sceneNotFound choice.next)
      | some target => .ok (target.visit (state.follow choice)) := by
  have hchoose := choose_eq story state index
  simp only [hscene, hoffered] at hchoose
  exact hchoose

end

def call (story : Story) (state : PlayerState) :
    PlayCall → Except PlayError (PlayerState × SceneView)
  | .choose index => story.choose state index
  | .resume => story.resume state

/-- The player after a call. A call that fails changes nothing. -/
def after (story : Story) (state : PlayerState) (call : PlayCall) : PlayerState :=
  match story.call state call with
  | .ok (next, _) => next
  | .error _ => state

def afterAll (story : Story) (state : PlayerState) (calls : List PlayCall) : PlayerState :=
  calls.foldl story.after state

theorem afterAll_cons (story : Story) (state : PlayerState) (call : PlayCall)
    (rest : List PlayCall) :
    story.afterAll state (call :: rest) = story.afterAll (story.after state call) rest := rfl

theorem afterAll_append (story : Story) (state : PlayerState) (before rest : List PlayCall) :
    story.afterAll state (before ++ rest) = story.afterAll (story.afterAll state before) rest :=
  List.foldl_append

/-- Whether a call takes a choice. -/
def takes (story : Story) (state : PlayerState) : PlayCall → Bool
  | .choose index => (story.choose state index).isOk
  | .resume => false

def choicesTaken (story : Story) (state : PlayerState) : List PlayCall → Nat
  | [] => 0
  | call :: rest =>
    (if story.takes state call then 1 else 0) + story.choicesTaken (story.after state call) rest

/-- The choice of a call that takes one: it is offered in the current scene, it leads to a scene,
and the player follows it. -/
structure Takes (story : Story) (state : PlayerState) (index : Nat) (choice : Choice) : Prop where
  offered : ∃ scene, story.scene? state.currentScene = some scene ∧
    (scene.available state)[index]? = some choice
  leads : story.hasScene choice.next = true

theorem after_of_ok {story : Story} {state next : PlayerState} {call : PlayCall} {view : SceneView}
    (hcall : story.call state call = .ok (next, view)) : story.after state call = next := by
  rw [after, hcall]

theorem after_of_error {story : Story} {state : PlayerState} {call : PlayCall} {error : PlayError}
    (hcall : story.call state call = .error error) : story.after state call = state := by
  rw [after, hcall]

theorem after_cases (story : Story) (state : PlayerState) (call : PlayCall) :
    (∃ index choice, call = .choose index ∧ story.Takes state index choice ∧
        story.takes state call = true ∧
        (story.after state call).history =
          state.history ++ [⟨state.currentScene, choice.text⟩] ∧
        (story.after state call).currentScene = choice.next) ∨
      (story.takes state call = false ∧ (story.after state call).history = state.history ∧
        (story.after state call).currentScene = state.currentScene) := by
  cases call with
  | resume =>
      right
      have hcall : story.call state .resume = _ := enter_eq story state
      cases hscene : story.scene? state.currentScene with
      | none =>
          rw [hscene] at hcall
          rw [after_of_error hcall]
          exact ⟨rfl, rfl, rfl⟩
      | some scene =>
          rw [hscene] at hcall
          rw [after_of_ok hcall]
          exact ⟨rfl, Scene.history_visit scene state, Scene.currentScene_visit scene state⟩
  | choose index =>
      have hcall : story.call state (.choose index) = _ := choose_eq story state index
      have hfails : ∀ error, story.call state (.choose index) = .error error →
          story.takes state (.choose index) = false ∧
            (story.after state (.choose index)).history = state.history ∧
            (story.after state (.choose index)).currentScene = state.currentScene := by
        intro error herror
        have hchoose : story.choose state index = .error error := herror
        rw [after_of_error herror, takes, hchoose]
        exact ⟨rfl, rfl, rfl⟩
      cases hscene : story.scene? state.currentScene with
      | none =>
          rw [hscene] at hcall
          exact Or.inr (hfails _ hcall)
      | some scene =>
          simp only [hscene] at hcall
          cases htaken : (scene.available state)[index]? with
          | none =>
              rw [htaken] at hcall
              exact Or.inr (hfails _ hcall)
          | some choice =>
              simp only [htaken] at hcall
              cases htarget : story.scene? choice.next with
              | none =>
                  rw [htarget] at hcall
                  exact Or.inr (hfails _ hcall)
              | some target =>
                  left
                  rw [htarget] at hcall
                  have hleads : story.hasScene choice.next = true :=
                    hasScene_iff.mpr ⟨target, htarget⟩
                  have hchoose : story.choose state index = _ := hcall
                  rw [after_of_ok hcall, takes, hchoose]
                  exact ⟨index, choice, rfl, ⟨⟨scene, hscene, htaken⟩, hleads⟩, rfl,
                    Scene.history_visit target _, Scene.currentScene_visit target _⟩

theorem history_choose {story : Story} {state : PlayerState} {index : Nat}
    {turn : PlayerState × SceneView} (hchoose : story.choose state index = .ok turn) :
    ∃ entry, turn.1.history = state.history ++ [entry] := by
  have hcall : story.call state (.choose index) = .ok turn := hchoose
  rcases after_cases story state (.choose index) with
    ⟨_, choice, -, -, -, hhistory, -⟩ | ⟨htakes, -, -⟩
  · rw [after_of_ok hcall] at hhistory
    exact ⟨_, hhistory⟩
  · rw [takes, hchoose] at htakes
    cases htakes

/-- Whether a player has seen the current scene: showing it once more would change nothing. -/
def Settled (story : Story) (state : PlayerState) : Prop :=
  ∀ scene, story.scene? state.currentScene = some scene → (scene.visit state).1 = state

theorem settled_visit {story : Story} {scene : Scene} {state : PlayerState}
    (hscene : story.scene? state.currentScene = some scene) :
    story.Settled (scene.visit state).1 := by
  intro other hother
  rw [Scene.currentScene_visit, hscene] at hother
  obtain rfl : scene = other := Option.some.inj hother
  rw [Scene.visit_visit]

theorem settled_enter {story : Story} {state : PlayerState} {turn : PlayerState × SceneView}
    (henter : story.enter state = .ok turn) : story.Settled turn.1 := by
  rw [enter_eq] at henter
  cases hscene : story.scene? state.currentScene with
  | none =>
      rw [hscene] at henter
      cases henter
  | some scene =>
      rw [hscene] at henter
      obtain rfl : scene.visit state = turn := Except.ok.inj henter
      exact settled_visit hscene

theorem settled_choose {story : Story} {state : PlayerState} {index : Nat}
    {turn : PlayerState × SceneView} (hchoose : story.choose state index = .ok turn) :
    story.Settled turn.1 := by
  rw [choose_eq] at hchoose
  split at hchoose
  · cases hchoose
  · split at hchoose
    · cases hchoose
    · split at hchoose
      · cases hchoose
      · rename_i choice hoffered _ target htarget
        obtain rfl := Except.ok.inj hchoose
        have hmoved : story.scene? (state.follow choice).currentScene = some target := htarget
        exact settled_visit hmoved

theorem Settled.after_resume {story : Story} {state : PlayerState}
    (hsettled : story.Settled state) : story.after state .resume = state := by
  have hcall : story.call state .resume = _ := enter_eq story state
  cases hscene : story.scene? state.currentScene with
  | none =>
      rw [hscene] at hcall
      exact after_of_error hcall
  | some scene =>
      rw [hscene] at hcall
      exact (after_of_ok hcall).trans (hsettled scene hscene)

end Story

end Gamebook
