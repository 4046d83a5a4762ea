import Gamebook.Proofs.Play.History
import Gamebook.Proofs.Story.Checking

namespace Gamebook.Story

variable {story : Story} {state begun : PlayerState}

theorem Takes.choice_leads {index : Nat} {choice : Choice}
    (htaken : story.Takes state index choice) : story.Leads state.currentScene choice.next := by
  obtain ⟨scene, hscene, hoffered⟩ := htaken.offered
  exact ⟨scene, choice, hscene, (Scene.mem_choices_of_available hoffered).1, rfl⟩

/-- Whether choices lead to a scene from the start scene, whatever they require. -/
def Reaches (story : Story) (name : String) : Prop :=
  story.hasScene name = true ∧ Relation.ReflTransGen story.Leads story.start name

theorem reaches_after (call : PlayCall) (hplace : story.Reaches state.currentScene) :
    story.Reaches (story.after state call).currentScene := by
  rcases after_cases story state call with
    ⟨index, choice, -, htaken, -, -, hmoved⟩ | ⟨-, -, hkept⟩
  · rw [hmoved]
    exact ⟨htaken.leads, hplace.2.tail htaken.choice_leads⟩
  · rw [hkept]
    exact hplace

theorem reaches_afterAll (calls : List PlayCall) (hplace : story.Reaches state.currentScene) :
    story.Reaches (story.afterAll state calls).currentScene := by
  induction calls generalizing state with
  | nil => exact hplace
  | cons call rest ih => exact ih (reaches_after call hplace)

theorem choose_eq_sceneNotFound {index : Nat} {missing : String}
    (hchoose : story.choose state index = .error (.sceneNotFound missing)) :
    story.scene? state.currentScene = none ∨
      ∃ scene choice, story.scene? state.currentScene = some scene ∧
        (scene.available state)[index]? = some choice ∧ choice.next = missing ∧
        story.hasScene missing = false := by
  rw [choose_eq] at hchoose
  cases hscene : story.scene? state.currentScene with
  | none => exact Or.inl rfl
  | some scene =>
      right
      simp only [hscene] at hchoose
      cases hoffered : (scene.available state)[index]? with
      | none =>
          rw [hoffered] at hchoose
          cases hchoose
      | some choice =>
          simp only [hoffered] at hchoose
          cases htarget : story.scene? choice.next with
          | some target =>
              rw [htarget] at hchoose
              cases hchoose
          | none =>
              rw [htarget] at hchoose
              cases hchoose
              exact ⟨scene, choice, rfl, hoffered, rfl, hasScene_eq_false_iff.mpr htarget⟩

/-- What a valid story promises to a player, wherever the player is in it. -/
structure IsSafe (story : Story) (state : PlayerState) : Prop where
  /-- The current scene can be shown again. -/
  resumes : ∃ turn, story.resume state = .ok turn
  /-- If a choice fails because a scene is missing, it is one of the current scene, and there is a
  warning that it leads to the missing scene. -/
  warned : ∀ index missing, story.choose state index = .error (.sceneNotFound missing) →
    ∃ scene choice, story.scene? state.currentScene = some scene ∧
      (scene.available state)[index]? = some choice ∧ choice.next = missing ∧
      .missingTarget state.currentScene choice.text missing ∈ story.check
  /-- There is no warning that the current scene cannot be reached. -/
  reached : .unreachable state.currentScene ∉ story.check

theorem Reaches.isSafe (hplace : story.Reaches state.currentScene)
    (hvalid : story.ensureValid = .ok ()) : story.IsSafe state := by
  obtain ⟨hthere, hchain⟩ := hplace
  obtain ⟨scene, hscene⟩ := hasScene_iff.mp hthere
  constructor
  · refine ⟨scene.visit state, ?_⟩
    rw [resume, enter_eq, hscene]
  · intro index missing hchoose
    rcases choose_eq_sceneNotFound hchoose with
      hnone | ⟨held, choice, hheld, hoffered, rfl, hmissing⟩
    · rw [hscene] at hnone
      cases hnone
    · refine ⟨held, choice, hheld, hoffered, rfl, mem_check_iff.mpr ?_⟩
      obtain ⟨place, hplace⟩ :=
        List.getElem?_of_mem (Scene.mem_choices_of_available hoffered).1
      have hchoice : story.HasChoice state.currentScene place choice := ⟨held, hheld, hplace⟩
      have hblank : Text.isBlank choice.next = false := by
        by_contra htarget
        rw [Bool.not_eq_false] at htarget
        have hissue : story.HasIssue (.blankTarget state.currentScene place) :=
          ⟨choice, hchoice, htarget⟩
        have herror := ensureValid_eq_ok_iff.mp hvalid _ hissue
        cases herror
      exact ⟨place, choice, hchoice, hblank, hmissing, rfl, rfl⟩
  · intro hwarned
    exact (mem_check_iff.mp hwarned).2.2 hchain

theorem hasScene_start (hvalid : story.ensureValid = .ok ()) :
    story.hasScene story.start = true := by
  by_contra hmissing
  rw [Bool.not_eq_true] at hmissing
  have hissue : story.HasIssue (.missingStart story.start) := ⟨hmissing, rfl⟩
  have herror := ensureValid_eq_ok_iff.mp hvalid _ hissue
  cases herror

theorem exists_startPlay (hvalid : story.ensureValid = .ok ()) (player : String) :
    ∃ begun view, story.startPlay player = .ok (begun, view) ∧
      ∀ calls, story.IsSafe (story.afterAll begun calls) := by
  obtain ⟨scene, hscene⟩ := hasScene_iff.mp (hasScene_start hvalid)
  have hplace : story.Reaches (scene.visit (.begin story player)).1.currentScene := by
    rw [Scene.currentScene_visit, PlayerState.currentScene_begin]
    exact ⟨hasScene_start hvalid, Relation.ReflTransGen.refl⟩
  refine ⟨_, _, startPlay_of_scene hscene player, ?_⟩
  intro calls
  exact (reaches_afterAll calls hplace).isSafe hvalid

theorem valid_stories_are_safe (story : Story) :
    (story.ensureValid = .ok () → ∀ player, ∃ begun view,
      story.startPlay player = .ok (begun, view) ∧
        ∀ calls, story.IsSafe (story.afterAll begun calls)) ∧
    (story.check = [] → ∀ player, ∃ begun view,
      story.startPlay player = .ok (begun, view) ∧
        ∀ calls call missing,
          story.call (story.afterAll begun calls) call ≠ .error (.sceneNotFound missing)) := by
  constructor
  · intro hvalid player
    exact exists_startPlay hvalid player
  · intro hclean player
    have hnothing : ∀ issue, issue ∉ story.check := by
      rw [hclean]
      exact fun _ => List.not_mem_nil
    have hvalid : story.ensureValid = .ok () :=
      ensureValid_eq_ok_iff.mpr fun issue hissue =>
        absurd (mem_check_iff.mpr hissue) (hnothing issue)
    obtain ⟨begun, view, hstart, hsafe⟩ := exists_startPlay hvalid player
    refine ⟨begun, view, hstart, ?_⟩
    intro calls call missing hcall
    cases call with
    | choose index =>
        obtain ⟨scene, choice, -, -, -, hwarned⟩ := (hsafe calls).warned index missing hcall
        exact hnothing _ hwarned
    | resume =>
        obtain ⟨turn, hresume⟩ := (hsafe calls).resumes
        have hfails : story.resume _ = .error (.sceneNotFound missing) := hcall
        rw [hresume] at hfails
        cases hfails

/-- A story in which a choice that needs a rope leads nowhere, and no choice leads to one of the
scenes. -/
def quarry : Story :=
  let start : Scene := ⟨"A rope lies here.\x7bITEM:add:Rope\x7d",
    [⟨"Climb down", "cavern", some ⟨["Rope"], ∅⟩⟩, ⟨"Go home", "home", none⟩]⟩
  let home : Scene := ⟨"Nobody is in.", [⟨"Go back", defaultStart, none⟩]⟩
  (((fresh "quarry" "The Quarry" "").putScene defaultStart start).putScene "home" home).putScene
    "attic" ⟨"Dust.", []⟩

theorem quarry_is_safe :
    quarry.ensureValid = .ok () ∧
      quarry.check = [.missingTarget "start" "Climb down" "cavern", .unreachable "attic"] ∧
      (∃ begun view, quarry.startPlay "ada" = .ok (begun, view) ∧
        quarry.IsSafe (quarry.afterAll begun [.choose 1, .resume, .choose 7, .choose 0]) ∧
        quarry.choose (quarry.afterAll begun [.choose 1, .resume, .choose 7, .choose 0]) 0 =
          .error (.sceneNotFound "cavern")) ∧
      waiting.check = [] ∧
      ∃ begun view, waiting.startPlay "ada" = .ok (begun, view) ∧
        ∀ calls call missing,
          waiting.call (waiting.afterAll begun calls) call ≠ .error (.sceneNotFound missing) := by
  have hcheck :
      quarry.check = [.missingTarget "start" "Climb down" "cavern", .unreachable "attic"] := by
    rw [check_eq, errors_eq]
    decide +kernel
  have hvalid : quarry.ensureValid = .ok () := by
    rw [ensureValid_eq_ok, errors_eq]
    decide +kernel
  have hclean : waiting.check = [] := by
    rw [check_eq, errors_eq]
    decide +kernel
  have hfails : ((quarry.startPlay "ada").bind fun turn => quarry.choose
      (quarry.afterAll turn.1 [.choose 1, .resume, .choose 7, .choose 0]) 0) =
        .error (.sceneNotFound "cavern") := by
    decide +kernel
  obtain ⟨begun, view, hstart, hsafe⟩ := (valid_stories_are_safe quarry).1 hvalid "ada"
  rw [hstart] at hfails
  refine ⟨hvalid, hcheck, ⟨begun, view, hstart, hsafe _, hfails⟩, hclean, ?_⟩
  exact (valid_stories_are_safe waiting).2 hclean "ada"

end Gamebook.Story
