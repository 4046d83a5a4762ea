import Gamebook.Proofs.Play.Gates

namespace Gamebook

/-- Whether two players are in the same scene, with the same stats, and hold the same items, in
whatever order and however often. -/
structure PlayerState.Resembles (first second : PlayerState) : Prop where
  scene_eq : first.currentScene = second.currentScene
  stats_eq : first.stats = second.stats
  items : ∀ item, item ∈ first.inventory ↔ item ∈ second.inventory

section

variable {first second : PlayerState}

theorem PlayerState.Resembles.hasItem_eq (hresembles : first.Resembles second) (item : String) :
    first.hasItem item = second.hasItem item :=
  decide_eq_decide.mpr (hresembles.items item)

theorem PlayerState.Resembles.addItem (hresembles : first.Resembles second) (item : String) :
    (first.addItem item).Resembles (second.addItem item) := by
  have hheld := hresembles.hasItem_eq item
  unfold PlayerState.addItem
  rw [hheld]
  split
  · exact hresembles
  · refine ⟨hresembles.scene_eq, hresembles.stats_eq, fun other => ?_⟩
    simp only [List.mem_append, hresembles.items other]

theorem Segment.resembles_effect (hresembles : first.Resembles second) (segment : Segment) :
    (segment.effect first).Resembles (segment.effect second) := by
  cases segment with
  | text s => exact hresembles
  | directive d =>
      cases d with
      | stat name default => exact hresembles
      | addItem item => exact hresembles.addItem item
      | ending kind => exact ⟨hresembles.scene_eq, hresembles.stats_eq, hresembles.items⟩

theorem Segment.resembles_foldl_effect (hresembles : first.Resembles second)
    (segments : List Segment) :
    (segments.foldl effect first).Resembles (segments.foldl effect second) := by
  induction segments generalizing first second with
  | nil => exact hresembles
  | cons segment rest ih => exact ih (resembles_effect hresembles segment)

theorem Template.render_of_resembles (hresembles : first.Resembles second) (template : String) :
    (render template first).1 = (render template second).1 ∧
      (render template first).2.Resembles (render template second).2 := by
  have hshown : (segments template).map (Segment.shown first) =
      (segments template).map (Segment.shown second) :=
    List.map_congr_left fun segment _ => Segment.shown_congr hresembles.stats_eq segment
  rw [render_eq, render_eq, hshown]
  exact ⟨rfl, Segment.resembles_foldl_effect hresembles _⟩

theorem Requirement.isMet_congr (hresembles : first.Resembles second) (requirement : Requirement) :
    requirement.isMet first = requirement.isMet second := by
  have hitems : first.hasItem = second.hasItem := funext hresembles.hasItem_eq
  have hstats : first.statOrZero = second.statOrZero := by
    funext name
    rw [PlayerState.statOrZero, PlayerState.stat?, hresembles.stats_eq]
    rfl
  rw [isMet, isMet, hitems, hstats]

theorem Scene.available_congr (hresembles : first.Resembles second) (scene : Scene) :
    scene.available first = scene.available second := by
  apply List.filter_congr
  intro choice _
  have hmet : (fun requirement : Requirement => requirement.isMet first) =
      fun requirement => requirement.isMet second :=
    funext (Requirement.isMet_congr hresembles)
  rw [Choice.isAvailable, Choice.isAvailable, hmet]

theorem Scene.visit_of_resembles (hresembles : first.Resembles second) (scene : Scene) :
    (scene.visit first).2 = (scene.visit second).2 ∧
      (scene.visit first).1.Resembles (scene.visit second).1 := by
  obtain ⟨htext, hrendered⟩ := Template.render_of_resembles hresembles scene.text
  refine ⟨?_, hrendered⟩
  rw [visit, visit, hresembles.scene_eq, htext, available_congr hrendered]

theorem PlayerState.Resembles.follow (hresembles : first.Resembles second) (choice : Choice) :
    (first.follow choice).Resembles (second.follow choice) :=
  ⟨rfl, hresembles.stats_eq, hresembles.items⟩

end

namespace Story

variable {story : Story} {first second : PlayerState}

/-- Whether two outcomes of a call are the same but for the players that they leave. -/
inductive AnswersAlike :
    Except PlayError (PlayerState × SceneView) → Except PlayError (PlayerState × SceneView) → Prop
  | refused (error : PlayError) : AnswersAlike (.error error) (.error error)
  | shown {next next' : PlayerState} (view : SceneView) :
    next.Resembles next' → AnswersAlike (.ok (next, view)) (.ok (next', view))

theorem AnswersAlike.view_eq {outcome outcome' : Except PlayError (PlayerState × SceneView)}
    (halike : AnswersAlike outcome outcome') :
    outcome.map Prod.snd = outcome'.map Prod.snd := by
  cases halike <;> rfl

theorem answersAlike_visit (hresembles : first.Resembles second) (scene : Scene) :
    AnswersAlike (.ok (scene.visit first)) (.ok (scene.visit second)) := by
  obtain ⟨hview, hnext⟩ := scene.visit_of_resembles hresembles
  have hsecond : scene.visit second = ((scene.visit second).1, (scene.visit first).2) :=
    Prod.ext rfl hview.symm
  rw [hsecond]
  exact .shown _ hnext

theorem answer_call (hresembles : first.Resembles second) (call : PlayCall) :
    AnswersAlike (story.call first call) (story.call second call) := by
  cases call with
  | resume =>
      rw [Story.call, Story.call, resume, resume, enter_eq, enter_eq, hresembles.scene_eq]
      split
      · exact answersAlike_visit hresembles _
      · exact .refused _
  | choose index =>
      rw [Story.call, Story.call, choose_eq, choose_eq, hresembles.scene_eq]
      cases story.scene? second.currentScene with
      | none => exact .refused _
      | some scene =>
          simp only [Scene.available_congr hresembles]
          split
          · exact .refused _
          · split
            · exact .refused _
            · exact answersAlike_visit (hresembles.follow _) _

theorem resembles_after (hresembles : first.Resembles second) (call : PlayCall) :
    (story.after first call).Resembles (story.after second call) := by
  have hcall : AnswersAlike (story.call first call) (story.call second call) :=
    answer_call hresembles call
  unfold after
  generalize story.call first call = outcome at hcall
  generalize story.call second call = outcome' at hcall
  cases hcall with
  | refused error => exact hresembles
  | shown view hnext => exact hnext

/-- What is told to a player by some calls: for each of them the scene that is shown, or why it is
refused. -/
def answers (story : Story) (state : PlayerState) (calls : List PlayCall) :
    List (Except PlayError SceneView) :=
  (story.transcript state calls).map fun entry => entry.2.map Prod.snd

theorem answers_cons (story : Story) (state : PlayerState) (call : PlayCall)
    (rest : List PlayCall) :
    story.answers state (call :: rest) =
      (story.call state call).map Prod.snd :: story.answers (story.after state call) rest := rfl

theorem answers_congr (hresembles : first.Resembles second) (calls : List PlayCall) :
    story.answers first calls = story.answers second calls := by
  induction calls generalizing first second with
  | nil => rfl
  | cons call rest ih =>
      rw [answers_cons, answers_cons, (answer_call hresembles call).view_eq,
        ih (resembles_after hresembles call)]

theorem resembles_afterAll (hresembles : first.Resembles second) (calls : List PlayCall) :
    (story.afterAll first calls).Resembles (story.afterAll second calls) := by
  induction calls generalizing first second with
  | nil => exact hresembles
  | cons call rest ih => exact ih (resembles_after hresembles call)

/-- Players who resemble each other are told the same by all calls. -/
theorem plays_alike (hresembles : first.Resembles second) (calls : List PlayCall) :
    story.answers first calls = story.answers second calls ∧
      ∀ before rest, calls = before ++ rest →
        (story.afterAll first before).Resembles (story.afterAll second before) :=
  ⟨answers_congr hresembles calls, fun before _ _ => resembles_afterAll hresembles before⟩

/-- A player who comes to the vault with its key. -/
def newcomer : PlayerState :=
  ⟨"ada", "vault", defaultStart, ∅, ["Lamp", "Key"], [], none⟩

/-- Another player with the same items, who has been through more. -/
def veteran : PlayerState :=
  ⟨"bob", "attic", defaultStart, ∅, ["Key", "Lamp", "Key"], [⟨"closet", "Back"⟩], some "lost"⟩

theorem plays_alike_locked :
    newcomer.Resembles veteran ∧
      locked.answers newcomer [.choose 1, .choose 0, .choose 0, .resume] =
        locked.answers veteran [.choose 1, .choose 0, .choose 0, .resume] ∧
      ∀ before rest, [.choose 1, .choose 0, .choose 0, .resume] = before ++ rest →
        (locked.afterAll newcomer before).Resembles (locked.afterAll veteran before) := by
  have hresembles : newcomer.Resembles veteran := by
    refine ⟨rfl, rfl, fun item => ?_⟩
    simp only [newcomer, veteran, List.mem_cons, List.not_mem_nil, or_false]
    tauto
  exact ⟨hresembles, plays_alike hresembles _⟩

end Story

end Gamebook
