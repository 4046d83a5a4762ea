import Gamebook.Proofs.Play.Evolution

namespace Gamebook

/-- Whether a player has the stats that it had earlier, and still holds what it held. -/
structure PlayerState.Retains (later earlier : PlayerState) : Prop where
  stats_eq : later.stats = earlier.stats
  items : ∀ item, earlier.hasItem item = true → later.hasItem item = true

namespace PlayerState.Retains

variable {earlier middle later : PlayerState}

theorem refl (state : PlayerState) : state.Retains state :=
  ⟨rfl, fun _ hheld => hheld⟩

theorem trans (hlater : later.Retains middle) (hmiddle : middle.Retains earlier) :
    later.Retains earlier :=
  ⟨hlater.stats_eq.trans hmiddle.stats_eq,
    fun item hheld => hlater.items item (hmiddle.items item hheld)⟩

end PlayerState.Retains

section

variable {earlier later : PlayerState}

theorem Requirement.isMet_of_retains {requirement : Requirement}
    (hretains : later.Retains earlier) (hmet : requirement.isMet earlier = true) :
    requirement.isMet later = true := by
  simp only [isMet, Bool.and_eq_true, List.all_eq_true, PlayerState.statOrZero,
    PlayerState.stat?, hretains.stats_eq] at hmet ⊢
  obtain ⟨hitems, hstats⟩ := hmet
  exact ⟨fun item hitem => hretains.items item (hitems item hitem), hstats⟩

theorem Choice.isAvailable_of_retains {choice : Choice} (hretains : later.Retains earlier)
    (havailable : choice.isAvailable earlier = true) : choice.isAvailable later = true := by
  simp only [isAvailable, Option.all_eq_true] at havailable ⊢
  intro requirement hrequirement
  exact Requirement.isMet_of_retains hretains (havailable requirement hrequirement)

theorem Scene.available_sublist_of_retains (scene : Scene) (hretains : later.Retains earlier) :
    (scene.available earlier).Sublist (scene.available later) := by
  apply List.monotone_filter_right
  intro choice havailable
  exact Choice.isAvailable_of_retains hretains havailable

end

namespace Scene

theorem retains_visit (scene : Scene) (state : PlayerState) :
    (scene.visit state).1.Retains state := by
  constructor
  · rw [visit_frame]
  · intro item hheld
    exact Template.hasItem_render hheld

end Scene

namespace Story

variable {story : Story} {state begun : PlayerState} {player : String} {opening : SceneView}

theorem retains_after (story : Story) (state : PlayerState) (call : PlayCall) :
    (story.after state call).Retains state := by
  rcases call_cases story state call with
    ⟨error, hcall⟩ | ⟨moved, scene, hcall, -, rfl | ⟨choice, rfl⟩⟩
  · rw [after_of_error hcall]
    exact .refl state
  · rw [after_of_ok hcall]
    exact scene.retains_visit moved
  · rw [after_of_ok hcall]
    have hfollow : (state.follow choice).Retains state := ⟨rfl, fun _ hheld => hheld⟩
    exact (scene.retains_visit _).trans hfollow

theorem retains_afterAll (story : Story) (state : PlayerState) (calls : List PlayCall) :
    (story.afterAll state calls).Retains state := by
  induction calls generalizing state with
  | nil => exact .refl state
  | cons call rest ih => exact (ih (story.after state call)).trans (story.retains_after state call)

def shownView? : PlayCall × Except PlayError (PlayerState × SceneView) → Option SceneView
  | (_, .ok turn) => some turn.2
  | (_, .error _) => none

theorem shownView?_ok (call : PlayCall) (turn : PlayerState × SceneView) :
    shownView? (call, .ok turn) = some turn.2 := rfl

/-- What was shown by the beginning of a play and by some calls, in its order. -/
def viewsShown (story : Story) (begun : PlayerState) (opening : SceneView)
    (calls : List PlayCall) : List SceneView :=
  opening :: (story.transcript begun calls).filterMap shownView?

/-- Whether a view shows a scene of a story with the choices that are offered to a player there. -/
def Views (story : Story) (view : SceneView) (state : PlayerState) : Prop :=
  ∃ scene, story.scene? view.scene = some scene ∧ view.choices = scene.available state

theorem views_visit {scene : Scene} (hscene : story.scene? state.currentScene = some scene) :
    story.Views (scene.visit state).2 (scene.visit state).1 :=
  ⟨scene, hscene, rfl⟩

theorem Views.choices_sublist {view laterView : SceneView} {later : PlayerState}
    (hview : story.Views view state) (hlater : story.Views laterView later)
    (hretains : later.Retains state) (hsame : view.scene = laterView.scene) :
    view.choices.Sublist laterView.choices := by
  obtain ⟨scene, hscene, hchoices⟩ := hview
  obtain ⟨other, hother, hoffered⟩ := hlater
  rw [hsame, hother] at hscene
  obtain rfl : other = scene := Option.some.inj hscene
  rw [hchoices, hoffered]
  exact other.available_sublist_of_retains hretains

theorem views_of_mem_transcript (calls : List PlayCall) {view : SceneView}
    (hview : view ∈ (story.transcript state calls).filterMap shownView?) :
    ∃ later, later.Retains state ∧ story.Views view later := by
  induction calls generalizing state with
  | nil => simp [transcript] at hview
  | cons call rest ih =>
      have hfirst := story.retains_after state call
      have hrest : view ∈ (story.transcript (story.after state call) rest).filterMap shownView? →
          ∃ later, later.Retains state ∧ story.Views view later := by
        intro hmem
        obtain ⟨later, hretains, hviews⟩ := ih hmem
        exact ⟨later, hretains.trans hfirst, hviews⟩
      rw [transcript] at hview
      rcases call_cases story state call with ⟨error, hcall⟩ | ⟨moved, scene, hcall, hscene, -⟩
      · rw [hcall, List.filterMap_cons_none rfl] at hview
        exact hrest hview
      · rw [hcall, List.filterMap_cons_some (shownView?_ok call _), List.mem_cons] at hview
        rw [after_of_ok hcall] at hfirst
        rcases hview with rfl | hmem
        · exact ⟨_, hfirst, views_visit hscene⟩
        · exact hrest hmem

theorem pairwise_viewsShown (calls : List PlayCall) (hviews : story.Views opening begun) :
    (story.viewsShown begun opening calls).Pairwise fun first later =>
      first.scene = later.scene → first.choices.Sublist later.choices := by
  induction calls generalizing begun opening with
  | nil => simp [viewsShown, transcript]
  | cons call rest ih =>
      have hopening : ∀ view ∈ (story.transcript begun (call :: rest)).filterMap shownView?,
          opening.scene = view.scene → opening.choices.Sublist view.choices := by
        intro view hview
        obtain ⟨later, hretains, hlater⟩ := views_of_mem_transcript (call :: rest) hview
        exact hviews.choices_sublist hlater hretains
      refine List.pairwise_cons.mpr ⟨hopening, ?_⟩
      rw [transcript]
      rcases call_cases story begun call with ⟨error, hcall⟩ | ⟨moved, scene, hcall, hscene, -⟩
      · rw [hcall, after_of_error hcall, List.filterMap_cons_none rfl]
        exact (List.pairwise_cons.mp (ih hviews)).2
      · rw [hcall, after_of_ok hcall, List.filterMap_cons_some (shownView?_ok call _)]
        exact ih (views_visit hscene)

/-- Whether a number is one of a choice that is offered: it is not refused as one without a choice,
even if the choice leads nowhere. -/
def IsNumber (story : Story) (state : PlayerState) (index : Nat) : Prop :=
  ∀ offered, story.choose state index ≠ .error (.invalidChoice index offered)

theorem isNumber_iff {scene : Scene} {index : Nat}
    (hscene : story.scene? state.currentScene = some scene) :
    story.IsNumber state index ↔ index < (scene.available state).length := by
  rw [IsNumber, choose_eq, hscene]
  simp only
  cases hoffered : (scene.available state)[index]? with
  | none => simpa using List.getElem?_eq_none_iff.mp hoffered
  | some choice =>
      apply iff_of_true
      · intro offered
        cases htarget : story.scene? choice.next <;> simp [htarget]
      · exact (List.getElem?_eq_some_iff.mp hoffered).1

/-- Whether no gate has closed during a play, from its beginning on and after each of some calls. -/
structure StaysOpen (story : Story) (begun : PlayerState) (opening : SceneView)
    (calls : List PlayCall) : Prop where
  available : ∀ before rest, calls = before ++ rest →
    ∀ (name : String) (scene : Scene) (index : Nat) (choice : Choice),
      story.scene? name = some scene → scene.choices[index]? = some choice →
        choice.isAvailable (story.afterAll begun before) = true →
          choice.isAvailable (story.afterAll begun calls) = true
  /-- Of two views of one scene, the later one shows what the earlier one shows, in its order. -/
  shown : (story.viewsShown begun opening calls).Pairwise fun first later =>
    first.scene = later.scene → first.choices.Sublist later.choices
  numbers : ∀ before rest, calls = before ++ rest →
    (story.afterAll begun before).currentScene = (story.afterAll begun calls).currentScene →
      ∀ index, story.IsNumber (story.afterAll begun before) index →
        story.IsNumber (story.afterAll begun calls) index

theorem gates_stay_open (hstart : story.startPlay player = .ok (begun, opening))
    (calls : List PlayCall) : story.StaysOpen begun opening calls := by
  have hretains : ∀ before rest, calls = before ++ rest →
      (story.afterAll begun calls).Retains (story.afterAll begun before) := by
    rintro before rest rfl
    rw [afterAll_append]
    exact story.retains_afterAll _ rest
  obtain ⟨scene, hscene, hvisit⟩ := startPlay_eq_ok hstart
  have hbegun : begun = (scene.visit (.begin story player)).1 := congrArg Prod.fst hvisit
  have hplace : begun.currentScene = story.start := by
    rw [hbegun, Scene.currentScene_visit, PlayerState.currentScene_begin]
  constructor
  · intro before rest hcalls name scene index choice _ _ havailable
    exact Choice.isAvailable_of_retains (hretains before rest hcalls) havailable
  · apply pairwise_viewsShown
    obtain ⟨rfl, rfl⟩ := Prod.mk.inj hvisit
    apply views_visit
    rw [PlayerState.currentScene_begin]
    exact hscene
  · intro before rest hcalls hsame index hnumber
    have hthere : story.hasScene (story.afterAll begun before).currentScene = true := by
      apply hasScene_afterAll
      rw [hplace]
      exact hasScene_iff.mpr ⟨scene, hscene⟩
    obtain ⟨current, hcurrent⟩ := hasScene_iff.mp hthere
    rw [isNumber_iff hcurrent] at hnumber
    rw [isNumber_iff (hsame ▸ hcurrent)]
    have hmore := current.available_sublist_of_retains (hretains before rest hcalls)
    exact Nat.lt_of_lt_of_le hnumber hmore.length_le

/-- A vault whose key lies in the closet beside it. -/
def locked : Story :=
  let start : Scene := ⟨"A door.", [⟨"Unlock", "vault", some ⟨["Key"], ∅⟩⟩,
    ⟨"Search", "closet", none⟩]⟩
  let closet : Scene := ⟨"A key.\x7bITEM:add:Key\x7d", [⟨"Back", defaultStart, none⟩]⟩
  ((fresh "vault" "The Vault" "").putScene defaultStart start).putScene "closet" closet

theorem gates_stay_open_locked :
    ∃ begun opening, locked.startPlay "ada" = .ok (begun, opening) ∧
      (locked.viewsShown begun opening [.choose 0, .resume, .choose 0]).map
          (fun view => (view.scene, view.choices.map (·.text))) =
        [("start", ["Search"]), ("closet", ["Back"]), ("closet", ["Back"]),
          ("start", ["Unlock", "Search"])] ∧
      locked.StaysOpen begun opening [.choose 0, .resume, .choose 0] := by
  obtain ⟨scene, hscene⟩ : ∃ scene, locked.scene? locked.start = some scene :=
    hasScene_iff.mp (by decide +kernel)
  have hstart := startPlay_of_scene hscene "ada"
  have hshown : (locked.startPlay "ada").map (fun turn =>
      (locked.viewsShown turn.1 turn.2 [.choose 0, .resume, .choose 0]).map
        fun view => (view.scene, view.choices.map (·.text))) =
      .ok [("start", ["Search"]), ("closet", ["Back"]), ("closet", ["Back"]),
        ("start", ["Unlock", "Search"])] := by
    decide +kernel
  rw [hstart] at hshown
  exact ⟨_, _, hstart, Except.ok.inj hshown, gates_stay_open hstart _⟩

end Story

end Gamebook
