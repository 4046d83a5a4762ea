import Gamebook.Proofs.Play.Run
import Gamebook.Story.Edit
import Mathlib.Data.List.Induction

namespace Gamebook.Story

variable {story : Story} {state begun : PlayerState}

theorem path_after_cases (story : Story) (state : PlayerState) (call : PlayCall) :
    (∃ next, (story.after state call).path = state.path ++ [next]) ∨
      (story.after state call).path = state.path := by
  unfold PlayerState.path
  rcases after_cases story state call with
    ⟨index, choice, -, -, -, hhistory, hplace⟩ | ⟨-, hhistory, hplace⟩
  · left
    refine ⟨choice.next, ?_⟩
    rw [hhistory, hplace]
    simp
  · right
    rw [hhistory, hplace]

theorem head_path_afterAll (story : Story) (state : PlayerState) (calls : List PlayCall) :
    (story.afterAll state calls).path.head? = state.path.head? := by
  induction calls generalizing state with
  | nil => rfl
  | cons call rest ih =>
      have hfirst : (story.after state call).path.head? = state.path.head? := by
        rcases path_after_cases story state call with ⟨next, hpath⟩ | hpath
        · have hne : state.path ≠ [] := by simp [PlayerState.path]
          obtain ⟨first, others, hcons⟩ := List.exists_cons_of_ne_nil hne
          rw [hpath, hcons]
          rfl
        · rw [hpath]
      exact (ih (story.after state call)).trans hfirst

theorem history_prefix_afterAll (story : Story) (state : PlayerState) (calls : List PlayCall) :
    state.history <+: (story.afterAll state calls).history := by
  induction calls generalizing state with
  | nil => exact List.prefix_refl _
  | cons call rest ih =>
      have hfirst : state.history <+: (story.after state call).history := by
        rcases after_cases story state call with
          ⟨index, choice, -, -, -, hhistory, -⟩ | ⟨-, hhistory, -⟩
        · rw [hhistory]
          exact List.prefix_append _ _
        · exact hhistory.symm ▸ List.prefix_refl state.history
      exact hfirst.trans (ih (story.after state call))

theorem length_history_afterAll (story : Story) (state : PlayerState) (calls : List PlayCall) :
    (story.afterAll state calls).history.length =
      state.history.length + story.choicesTaken state calls := by
  induction calls generalizing state with
  | nil => rfl
  | cons call rest ih =>
      have hrest := ih (story.after state call)
      simp only [afterAll, List.foldl_cons, choicesTaken] at hrest ⊢
      rw [hrest]
      rcases after_cases story state call with
        ⟨index, choice, -, -, htakes, hhistory, -⟩ | ⟨htakes, hhistory, -⟩
      · rw [hhistory, htakes, List.length_append, List.length_singleton, if_pos rfl]
        omega
      · rw [hhistory, htakes]
        simp

theorem hasScene_afterAll (calls : List PlayCall)
    (hplace : story.hasScene state.currentScene = true) :
    story.hasScene (story.afterAll state calls).currentScene = true := by
  induction calls generalizing state with
  | nil => exact hplace
  | cons call rest ih =>
      apply ih
      rcases after_cases story state call with
        ⟨index, choice, -, htaken, -, -, hmoved⟩ | ⟨-, -, hkept⟩
      · rw [hmoved]
        exact htaken.leads
      · rw [hkept]
        exact hplace

theorem startPlay_of_scene {scene : Scene} (hscene : story.scene? story.start = some scene)
    (player : String) : story.startPlay player = .ok (scene.visit (.begin story player)) := by
  rw [startPlay, enter_eq, PlayerState.currentScene_begin, hscene]

theorem startPlay_eq_ok {player : String} {view : SceneView}
    (hstart : story.startPlay player = .ok (begun, view)) :
    ∃ scene, story.scene? story.start = some scene ∧
      (begun, view) = scene.visit (.begin story player) := by
  cases hscene : story.scene? story.start with
  | none =>
      rw [startPlay, enter_eq, PlayerState.currentScene_begin, hscene] at hstart
      cases hstart
  | some scene =>
      rw [startPlay_of_scene hscene] at hstart
      exact ⟨scene, rfl, (Except.ok.inj hstart).symm⟩

/-- One of some calls took the choice of an entry: the history at that time was the part before the
entry, the choice was offered in the scene of the entry at the number that was called, and it leads
to the given scene. -/
def TookChoice (story : Story) (begun : PlayerState) (calls : List PlayCall)
    (earlier : List HistoryEntry) (entry : HistoryEntry) (next : String) : Prop :=
  ∃ before index rest scene choice,
    calls = before ++ .choose index :: rest ∧
      (story.afterAll begun before).history = earlier ∧
      (story.afterAll begun before).currentScene = entry.scene ∧
      story.scene? entry.scene = some scene ∧
      choice ∈ scene.choices ∧
      choice.isAvailable (story.afterAll begun before) = true ∧
      (scene.available (story.afterAll begun before))[index]? = some choice ∧
      choice.text = entry.choice ∧
      choice.next = next

theorem TookChoice.append {calls : List PlayCall} {earlier : List HistoryEntry}
    {entry : HistoryEntry} {next : String}
    (htook : story.TookChoice begun calls earlier entry next) (more : List PlayCall) :
    story.TookChoice begun (calls ++ more) earlier entry next := by
  obtain ⟨before, index, rest, scene, choice, hcalls, htook⟩ := htook
  refine ⟨before, index, rest ++ more, scene, choice, ?_, htook⟩
  rw [hcalls, List.append_assoc, List.cons_append]

theorem Takes.tookChoice {calls : List PlayCall} {index : Nat} {choice : Choice}
    (htaken : story.Takes (story.afterAll begun calls) index choice) :
    story.TookChoice begun (calls ++ [.choose index]) (story.afterAll begun calls).history
      ⟨(story.afterAll begun calls).currentScene, choice.text⟩ choice.next := by
  obtain ⟨scene, hscene, hoffered⟩ := htaken.offered
  obtain ⟨hmem, havailable⟩ := Scene.mem_choices_of_available hoffered
  exact ⟨calls, index, [], scene, choice, rfl, rfl, rfl, hscene, hmem, havailable, hoffered, rfl,
    rfl⟩

/-- Every entry of a history was taken by a call, and leads to the scene that comes next. The calls
are followed from the last one back, since an entry is compared with the history before it. -/
theorem tookChoice_of_history (hempty : begun.history = []) (calls : List PlayCall) {k : Nat}
    {entry : HistoryEntry} {next : String}
    (hentry : (story.afterAll begun calls).history[k]? = some entry)
    (hnext : (story.afterAll begun calls).path[k + 1]? = some next) :
    story.TookChoice begun calls ((story.afterAll begun calls).history.take k) entry next := by
  induction calls using List.reverseRecOn generalizing k entry next with
  | nil =>
      have hnone : begun.history[k]? = some entry := hentry
      rw [hempty] at hnone
      simp at hnone
  | append_singleton calls call ih =>
      have hlast : story.afterAll begun (calls ++ [call]) =
          story.after (story.afterAll begun calls) call := by
        rw [afterAll_append]
        rfl
      rw [hlast] at hentry hnext ⊢
      unfold PlayerState.path at hnext ih
      rcases after_cases story (story.afterAll begun calls) call with
        ⟨index, choice, hcall, htaken, -, hhistory, hplace⟩ | ⟨-, hhistory, hplace⟩
      · rw [hhistory, hplace, List.map_append] at hnext
        rw [hhistory] at hentry ⊢
        by_cases hold : k < (story.afterAll begun calls).history.length
        · rw [List.getElem?_append_left hold] at hentry
          rw [List.getElem?_append_left (by simpa using hold)] at hnext
          rw [List.take_append_of_le_length (Nat.le_of_lt hold)]
          exact (ih hentry (by simpa using hnext)).append [call]
        · have hk : k = (story.afterAll begun calls).history.length := by
            have hbound := (List.getElem?_eq_some_iff.mp hentry).1
            simp only [List.length_append, List.length_singleton] at hbound
            omega
          subst hk
          have hentryEq : (⟨(story.afterAll begun calls).currentScene, choice.text⟩ :
              HistoryEntry) = entry := by
            simpa using hentry
          have hnextEq : choice.next = next := by
            simpa [List.getElem?_append_right] using hnext
          subst hcall hentryEq hnextEq
          rw [List.take_left]
          exact htaken.tookChoice
      · rw [hhistory, hplace] at hnext
        rw [hhistory] at hentry ⊢
        exact (ih hentry hnext).append [call]

/-- The history of a play after some calls is a walk through the story. -/
structure IsWalk (story : Story) (begun : PlayerState) (calls : List PlayCall) : Prop where
  /-- It begins in the start scene. -/
  starts : (story.afterAll begun calls).path.head? = some story.start
  /-- Each of its entries is a choice that was offered when it was taken, and leads to the scene of
  the next entry, or to the current scene if it is the last one. -/
  taken : ∀ k entry, (story.afterAll begun calls).history[k]? = some entry →
    ∃ next, (story.afterAll begun calls).path[k + 1]? = some next ∧
      story.TookChoice begun calls ((story.afterAll begun calls).history.take k) entry next
  /-- It has one entry for each choice that was taken. -/
  counted : (story.afterAll begun calls).history.length = story.choicesTaken begun calls
  /-- What stood in it after some of the calls still stands at its beginning. -/
  kept : ∀ before rest, calls = before ++ rest →
    (story.afterAll begun before).history <+: (story.afterAll begun calls).history
  /-- The current scene is a scene of the story. -/
  placed : story.hasScene (story.afterAll begun calls).currentScene = true

theorem isWalk_afterAll {player : String} {view : SceneView}
    (hstart : story.startPlay player = .ok (begun, view)) (calls : List PlayCall) :
    story.IsWalk begun calls := by
  obtain ⟨scene, hscene, hvisit⟩ := startPlay_eq_ok hstart
  have hbegun : begun = (scene.visit (.begin story player)).1 := congrArg Prod.fst hvisit
  have hhistory : begun.history = [] := by
    rw [hbegun, Scene.history_visit, PlayerState.history_begin]
  have hplace : begun.currentScene = story.start := by
    rw [hbegun, Scene.currentScene_visit, PlayerState.currentScene_begin]
  constructor
  · rw [head_path_afterAll, PlayerState.path, hhistory, hplace]
    rfl
  · intro k entry hentry
    have hbound := (List.getElem?_eq_some_iff.mp hentry).1
    have hpath : k + 1 < (story.afterAll begun calls).path.length := by
      simpa [PlayerState.path] using hbound
    have hnext := List.getElem?_eq_getElem hpath
    exact ⟨_, hnext, tookChoice_of_history hhistory calls hentry hnext⟩
  · rw [length_history_afterAll, hhistory]
    simp
  · intro before rest hcalls
    rw [hcalls, afterAll_append]
    exact history_prefix_afterAll story _ rest
  · apply hasScene_afterAll
    rw [hplace]
    exact hasScene_iff.mpr ⟨scene, hscene⟩

/-- A story that goes round in its start scene. -/
def waiting : Story :=
  ((fresh "cave" "The Cave" "Dark.").addChoice defaultStart "Wait" defaultStart).1

theorem isWalk_waiting :
    ∃ begun view, waiting.startPlay "ada" = .ok (begun, view) ∧
      waiting.IsWalk begun [.choose 0, .choose 7, .resume, .choose 0] := by
  have hscene : waiting.scene? waiting.start =
      some ⟨"Dark.", [⟨"Wait", defaultStart, none⟩]⟩ := by decide
  have hstart := startPlay_of_scene hscene "ada"
  exact ⟨_, _, hstart, isWalk_afterAll hstart _⟩

end Gamebook.Story
