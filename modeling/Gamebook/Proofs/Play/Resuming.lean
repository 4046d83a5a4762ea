import Gamebook.Proofs.Play.Safety

namespace Gamebook

def PlayCall.isChoice : PlayCall → Bool
  | .choose _ => true
  | .resume => false

namespace Story

/-- Some calls of a play, each with what is answered to it. -/
def transcript (story : Story) (state : PlayerState) :
    List PlayCall → List (PlayCall × Except PlayError (PlayerState × SceneView))
  | [] => []
  | call :: rest => (call, story.call state call) :: story.transcript (story.after state call) rest

def choiceView? : PlayCall × Except PlayError (PlayerState × SceneView) → Option SceneView
  | (.choose _, .ok turn) => some turn.2
  | (.choose _, .error _) => none
  | (.resume, _) => none

/-- What was shown by the last choice that succeeded among some calls, or else by the beginning of
the play. -/
def lastShown (story : Story) (begun : PlayerState) (opening : SceneView)
    (calls : List PlayCall) : SceneView :=
  ((story.transcript begun calls).filterMap choiceView?).getLast?.getD opening

variable {story : Story} {state next begun : PlayerState} {opening view : SceneView}

theorem resume_of_enter {turn : PlayerState × SceneView} (henter : story.enter state = .ok turn) :
    story.resume turn.1 = .ok turn := by
  rw [enter_eq] at henter
  cases hscene : story.scene? state.currentScene with
  | none =>
      rw [hscene] at henter
      cases henter
  | some scene =>
      rw [hscene] at henter
      obtain rfl : scene.visit state = turn := Except.ok.inj henter
      rw [resume, enter_eq, Scene.currentScene_visit, hscene]
      simp only
      rw [Scene.visit_visit]

theorem resume_of_choose {index : Nat} {turn : PlayerState × SceneView}
    (hchoose : story.choose state index = .ok turn) : story.resume turn.1 = .ok turn := by
  rw [choose_eq] at hchoose
  split at hchoose
  · cases hchoose
  · split at hchoose
    · cases hchoose
    · split at hchoose
      · cases hchoose
      · rename_i choice hoffered _ target htarget
        have hmoved : story.scene? (state.follow choice).currentScene = some target := htarget
        have henter : story.enter (state.follow choice) = .ok turn := by
          rw [enter_eq, hmoved]
          exact hchoose
        exact resume_of_enter henter

theorem lastShown_cons_of_choice {index : Nat}
    (hchoose : story.choose state index = .ok (next, view)) (rest : List PlayCall) :
    story.lastShown state opening (.choose index :: rest) = story.lastShown next view rest := by
  have hcall : story.call state (.choose index) = .ok (next, view) := hchoose
  have hview : choiceView? (.choose index, .ok (next, view)) = some view := rfl
  rw [lastShown, transcript, hcall, after_of_ok hcall, List.filterMap_cons_some hview,
    List.getLast?_cons, Option.getD_some, lastShown]

theorem lastShown_cons_of_none {call : PlayCall}
    (hnone : choiceView? (call, story.call state call) = none)
    (hsame : story.after state call = state) (rest : List PlayCall) :
    story.lastShown state opening (call :: rest) = story.lastShown state opening rest := by
  rw [lastShown, transcript, List.filterMap_cons_none hnone, hsame, lastShown]

/-- What was last shown to a player is shown when the player looks again, after any calls. -/
theorem resume_afterAll (hshown : story.resume begun = .ok (begun, opening))
    (calls : List PlayCall) :
    story.resume (story.afterAll begun calls) =
      .ok (story.afterAll begun calls, story.lastShown begun opening calls) := by
  -- the player who has begun is any player who sees `opening` again, so that the rest of the calls
  -- goes on from what a choice has shown
  induction calls generalizing begun opening with
  | nil => exact hshown
  | cons call rest ih =>
      rw [afterAll_cons]
      cases call with
      | resume =>
          have hsame : story.after begun .resume = begun := after_of_ok hshown
          rw [lastShown_cons_of_none rfl hsame, hsame]
          exact ih hshown
      | choose index =>
          cases hchoose : story.choose begun index with
          | ok turn =>
              have hcall : story.call begun (.choose index) = .ok turn := hchoose
              rw [lastShown_cons_of_choice hchoose, after_of_ok hcall]
              exact ih (resume_of_choose hchoose)
          | error error =>
              have hcall : story.call begun (.choose index) = .error error := hchoose
              have hsame := after_of_error hcall
              rw [lastShown_cons_of_none (by rw [hcall]; rfl) hsame, hsame]
              exact ih hshown

/-- The choices of a play are answered, and leave the player, as if the player had never looked
again. -/
theorem transcript_filter (hshown : story.resume begun = .ok (begun, opening))
    (calls : List PlayCall) :
    (story.transcript begun calls).filter (·.1.isChoice) =
        story.transcript begun (calls.filter PlayCall.isChoice) ∧
      story.afterAll begun calls = story.afterAll begun (calls.filter PlayCall.isChoice) := by
  induction calls generalizing begun opening with
  | nil => exact ⟨rfl, rfl⟩
  | cons call rest ih =>
      cases call with
      | resume =>
          have hsame : story.after begun .resume = begun := after_of_ok hshown
          obtain ⟨hanswers, hstate⟩ := ih hshown
          constructor
          · rw [transcript, hsame, List.filter_cons_of_neg Bool.false_ne_true,
              List.filter_cons_of_neg Bool.false_ne_true]
            exact hanswers
          · rw [afterAll_cons, hsame, List.filter_cons_of_neg Bool.false_ne_true]
            exact hstate
      | choose index =>
          have hnext : ∃ opening, story.resume (story.after begun (.choose index)) =
              .ok (story.after begun (.choose index), opening) :=
            ⟨_, resume_afterAll hshown [.choose index]⟩
          obtain ⟨opening, hnext⟩ := hnext
          obtain ⟨hanswers, hstate⟩ := ih hnext
          constructor
          · rw [transcript, List.filter_cons_of_pos rfl, List.filter_cons_of_pos rfl, hanswers]
            rfl
          · rw [afterAll_cons, List.filter_cons_of_pos rfl]
            exact hstate

/-- Whether it goes unnoticed that a player looks again between some choices. -/
structure LooksUnnoticed (story : Story) (begun : PlayerState) (opening : SceneView)
    (indices : List Nat) (calls : List PlayCall) : Prop where
  /-- Every choice is answered as it is without looking again. -/
  answers_eq : (story.transcript begun calls).filter (·.1.isChoice) =
    story.transcript begun (indices.map .choose)
  /-- The player comes to the same state. -/
  state_eq : story.afterAll begun calls = story.afterAll begun (indices.map .choose)
  /-- Looking again shows what was last shown by the beginning or by a choice, and leaves the player
  as it is. -/
  shown : ∀ before rest, calls = before ++ .resume :: rest →
    story.call (story.afterAll begun before) .resume =
      .ok (story.afterAll begun before, story.lastShown begun opening before)

theorem resumes_unnoticed {player : String}
    (hstart : story.startPlay player = .ok (begun, opening)) {indices : List Nat}
    {calls : List PlayCall} (hchoices : calls.filter PlayCall.isChoice = indices.map .choose) :
    story.LooksUnnoticed begun opening indices calls := by
  have hshown : story.resume begun = .ok (begun, opening) := resume_of_enter hstart
  obtain ⟨hanswers, hstate⟩ := transcript_filter hshown calls
  rw [hchoices] at hanswers hstate
  refine ⟨hanswers, hstate, ?_⟩
  intro before rest _
  exact resume_afterAll hshown before

theorem resumes_unnoticed_quarry :
    ∃ begun opening, quarry.startPlay "ada" = .ok (begun, opening) ∧
      quarry.LooksUnnoticed begun opening [1, 7, 0, 0]
        [.resume, .choose 1, .resume, .resume, .choose 7, .choose 0, .resume, .choose 0] := by
  obtain ⟨scene, hscene⟩ : ∃ scene, quarry.scene? quarry.start = some scene :=
    hasScene_iff.mp (by decide +kernel)
  have hstart := startPlay_of_scene hscene "ada"
  exact ⟨_, _, hstart, resumes_unnoticed hstart rfl⟩

end Story

end Gamebook
