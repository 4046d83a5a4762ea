import Gamebook.Proofs.Lists
import Gamebook.Proofs.Play.Resuming

namespace Gamebook

namespace PlayerState

variable {state : PlayerState} {items : List String}

theorem currentScene_mem_path (state : PlayerState) : state.currentScene ∈ state.path :=
  List.mem_append_right _ (List.mem_singleton_self _)

theorem inventory_foldl_of_eraseDups (hheld : state.inventory = items.eraseDups)
    (more : List String) : (more.foldl addItem state).inventory = (items ++ more).eraseDups := by
  have hnew : more.filter (· ∉ state.inventory) = more.removeAll items := by
    apply List.filter_congr
    intro item _
    simp [hheld]
  rw [inventory_foldl_addItem, hnew, hheld, List.eraseDups_append]

/-- Whether a player is what the beginning of a story and some segments that were shown since then
make of the player: the items are held in the order in which they were first given, and the last
ending counts. -/
structure IsMadeBy (state : PlayerState) (story : Story) (player : String)
    (segments : List Segment) : Prop where
  player_eq : state.playerId = player
  story_eq : state.storyId = story.id
  stats_eq : state.stats = story.stats.values
  inventory_eq : state.inventory =
    (story.inventory.items ++ segments.filterMap Segment.item?).eraseDups
  ending_eq : state.ending = (segments.filterMap Segment.ending?).getLast?

variable {story : Story} {player : String} {segments : List Segment}

theorem isMadeBy_begin (story : Story) (player : String) :
    (begin story player).IsMadeBy story player [] := by
  let bare : PlayerState := ⟨player, story.id, story.start, story.stats.values, [], [], none⟩
  have hframe := foldl_addItem_frame story.inventory.items bare
  have hnothing : bare.inventory = ([] : List String).eraseDups := rfl
  refine ⟨?_, ?_, ?_, ?_, ?_⟩
  · rw [begin, hframe]
  · rw [begin, hframe]
  · rw [begin, hframe]
  · have hheld := inventory_foldl_of_eraseDups hnothing story.inventory.items
    rw [List.nil_append] at hheld
    rw [List.filterMap_nil, List.append_nil]
    exact hheld
  · rw [begin, hframe]
    rfl

theorem IsMadeBy.follow (hmade : state.IsMadeBy story player segments) (choice : Choice) :
    (state.follow choice).IsMadeBy story player segments :=
  ⟨hmade.player_eq, hmade.story_eq, hmade.stats_eq, hmade.inventory_eq, hmade.ending_eq⟩

theorem IsMadeBy.visit (hmade : state.IsMadeBy story player segments) (scene : Scene) :
    (scene.visit state).1.IsMadeBy story player (segments ++ Template.segments scene.text) := by
  have hvisit : (scene.visit state).1 =
      (Template.segments scene.text).foldl Segment.effect state := by
    rw [Scene.visit, Template.render_eq]
  rw [hvisit, Segment.foldl_effect, foldl_addItem_frame]
  refine ⟨hmade.player_eq, hmade.story_eq, hmade.stats_eq, ?_, ?_⟩
  · rw [List.filterMap_append, ← List.append_assoc]
    exact inventory_foldl_of_eraseDups hmade.inventory_eq _
  · rw [List.filterMap_append, List.getLast?_append, ← hmade.ending_eq]

end PlayerState

namespace Story

variable {story : Story} {state begun : PlayerState} {player : String} {opening : SceneView}
  {segments : List Segment}

theorem call_cases (story : Story) (state : PlayerState) (call : PlayCall) :
    (∃ error, story.call state call = .error error) ∨
      ∃ moved scene, story.call state call = .ok (scene.visit moved) ∧
        story.scene? moved.currentScene = some scene ∧
        (moved = state ∨ ∃ choice, moved = state.follow choice) := by
  cases call with
  | resume =>
      have hcall : story.call state .resume = _ := enter_eq story state
      cases hscene : story.scene? state.currentScene with
      | none =>
          rw [hscene] at hcall
          exact Or.inl ⟨_, hcall⟩
      | some scene =>
          rw [hscene] at hcall
          exact Or.inr ⟨state, scene, hcall, hscene, Or.inl rfl⟩
  | choose index =>
      have hcall : story.call state (.choose index) = _ := choose_eq story state index
      split at hcall
      · exact Or.inl ⟨_, hcall⟩
      · split at hcall
        · exact Or.inl ⟨_, hcall⟩
        · split at hcall
          · exact Or.inl ⟨_, hcall⟩
          · rename_i choice _ _ target htarget
            exact Or.inr ⟨state.follow choice, target, hcall, htarget, Or.inr ⟨choice, rfl⟩⟩

def shownScene? : PlayCall × Except PlayError (PlayerState × SceneView) → Option String
  | (_, .ok turn) => some turn.2.scene
  | (_, .error _) => none

/-- The scenes that were shown by the beginning of a play and by some calls, in their order. -/
def scenesShown (story : Story) (begun : PlayerState) (opening : SceneView)
    (calls : List PlayCall) : List String :=
  opening.scene :: (story.transcript begun calls).filterMap shownScene?

def segmentsIn (story : Story) (name : String) : List Segment :=
  match story.scene? name with
  | some scene => Template.segments scene.text
  | none => []

/-- The segments that were rendered by the beginning of a play and by some calls, in their order. -/
def segmentsRendered (story : Story) (begun : PlayerState) (opening : SceneView)
    (calls : List PlayCall) : List Segment :=
  (story.scenesShown begun opening calls).flatMap story.segmentsIn

theorem segmentsIn_of_scene {name : String} {scene : Scene}
    (hscene : story.scene? name = some scene) :
    story.segmentsIn name = Template.segments scene.text := by
  rw [segmentsIn, hscene]

theorem isMadeBy_afterAll (hmade : state.IsMadeBy story player segments) (calls : List PlayCall) :
    (story.afterAll state calls).IsMadeBy story player
      (segments ++ ((story.transcript state calls).filterMap shownScene?).flatMap
        story.segmentsIn) := by
  induction calls generalizing state segments with
  | nil =>
      rw [transcript, List.filterMap_nil, List.flatMap_nil, List.append_nil]
      exact hmade
  | cons call rest ih =>
      rw [afterAll_cons, transcript]
      rcases call_cases story state call with
        ⟨error, hcall⟩ | ⟨moved, scene, hcall, hscene, hmoved⟩
      · rw [after_of_error hcall, hcall, List.filterMap_cons_none rfl]
        exact ih hmade
      · have hshown : shownScene? (call, .ok (scene.visit moved)) = some moved.currentScene := rfl
        rw [after_of_ok hcall, hcall, List.filterMap_cons_some hshown, List.flatMap_cons,
          ← List.append_assoc, segmentsIn_of_scene hscene]
        apply ih
        apply PlayerState.IsMadeBy.visit
        rcases hmoved with rfl | ⟨choice, rfl⟩
        · exact hmade
        · exact hmade.follow choice

theorem path_prefix_afterAll (story : Story) (state : PlayerState) (calls : List PlayCall) :
    state.path <+: (story.afterAll state calls).path := by
  induction calls generalizing state with
  | nil => exact List.prefix_refl _
  | cons call rest ih =>
      have hfirst : state.path <+: (story.after state call).path := by
        rcases path_after_cases story state call with ⟨next, hpath⟩ | hpath
        · rw [hpath]
          exact List.prefix_append _ _
        · exact hpath.symm ▸ List.prefix_refl state.path
      exact hfirst.trans (ih (story.after state call))

theorem mem_path_of_shown (calls : List PlayCall) :
    ∀ name ∈ (story.transcript state calls).filterMap shownScene?,
      name ∈ (story.afterAll state calls).path := by
  induction calls generalizing state with
  | nil => simp [transcript]
  | cons call rest ih =>
      intro name hname
      rw [transcript] at hname
      rw [afterAll_cons]
      rcases call_cases story state call with ⟨error, hcall⟩ | ⟨moved, scene, hcall, -, -⟩
      · rw [hcall, List.filterMap_cons_none rfl] at hname
        exact ih name hname
      · have hshown : shownScene? (call, .ok (scene.visit moved)) = some moved.currentScene := rfl
        rw [hcall, List.filterMap_cons_some hshown, List.mem_cons] at hname
        rcases hname with rfl | hname
        · -- the player is in the scene that is shown, and whoever was in a scene has it in the path
          have hafter : story.after state call = (scene.visit moved).1 := after_of_ok hcall
          have hplace : (story.after state call).currentScene = moved.currentScene := by
            rw [hafter, Scene.currentScene_visit]
          rw [← hplace]
          exact (path_prefix_afterAll story _ rest).subset (PlayerState.currentScene_mem_path _)
        · exact ih name hname

/-- Whether a player, who has begun a story and made some calls, has changed only as players may. -/
structure Evolves (story : Story) (player : String) (begun : PlayerState) (opening : SceneView)
    (calls : List PlayCall) : Prop where
  player_eq : (story.afterAll begun calls).playerId = player
  story_eq : (story.afterAll begun calls).storyId = story.id
  stats_eq : (story.afterAll begun calls).stats = story.stats.values
  nodup : (story.afterAll begun calls).inventory.Nodup
  /-- The items of the story come first, and all others were given in scenes that the player was
  in. -/
  items : ∃ found,
    (story.afterAll begun calls).inventory = story.inventory.items.eraseDups ++ found ∧
      ∀ item ∈ found, ∃ name ∈ (story.afterAll begun calls).path,
        .directive (.addItem item) ∈ story.segmentsIn name
  /-- Items that were held after some of the calls are still held, in the same places. -/
  items_kept : ∀ before rest, calls = before ++ rest →
    (story.afterAll begun before).inventory <+: (story.afterAll begun calls).inventory
  /-- Of the endings that were rendered, the last one counts. -/
  ending_eq : (story.afterAll begun calls).ending =
    ((story.segmentsRendered begun opening calls).filterMap Segment.ending?).getLast?
  ending_kept : ∀ before rest, calls = before ++ rest →
    (story.afterAll begun before).ending.isSome = true →
      (story.afterAll begun calls).ending.isSome = true
  history_kept : ∀ before rest, calls = before ++ rest →
    (story.afterAll begun before).history <+: (story.afterAll begun calls).history

theorem exists_scene_of_item {item : String} {calls : List PlayCall}
    (hopening : opening.scene = begun.currentScene)
    (hitem : item ∈ (story.segmentsRendered begun opening calls).filterMap Segment.item?) :
    ∃ name ∈ (story.afterAll begun calls).path,
      .directive (.addItem item) ∈ story.segmentsIn name := by
  obtain ⟨segment, hsegment, hgives⟩ := List.mem_filterMap.mp hitem
  obtain ⟨name, hname, hmem⟩ := List.mem_flatMap.mp hsegment
  have hdirective : segment = .directive (.addItem item) := by
    cases segment with
    | text s => cases hgives
    | directive d => cases d <;> cases hgives; rfl
  refine ⟨name, ?_, hdirective ▸ hmem⟩
  rcases List.mem_cons.mp hname with rfl | hshown
  · rw [hopening]
    exact (path_prefix_afterAll story begun calls).subset (PlayerState.currentScene_mem_path begun)
  · exact mem_path_of_shown calls name hshown

theorem transcript_append (story : Story) (state : PlayerState) (before rest : List PlayCall) :
    story.transcript state (before ++ rest) =
      story.transcript state before ++ story.transcript (story.afterAll state before) rest := by
  induction before generalizing state with
  | nil => rfl
  | cons call before ih =>
      rw [List.cons_append, transcript, transcript, ih, List.cons_append]
      rfl

theorem segmentsRendered_append (story : Story) (begun : PlayerState) (opening : SceneView)
    (before rest : List PlayCall) :
    ∃ more, story.segmentsRendered begun opening (before ++ rest) =
      story.segmentsRendered begun opening before ++ more := by
  refine ⟨((story.transcript (story.afterAll begun before) rest).filterMap shownScene?).flatMap
    story.segmentsIn, ?_⟩
  simp only [segmentsRendered, scenesShown, transcript_append, List.filterMap_append,
    List.flatMap_cons, List.flatMap_append, List.append_assoc]

theorem evolves_afterAll (hstart : story.startPlay player = .ok (begun, opening))
    (calls : List PlayCall) : story.Evolves player begun opening calls := by
  obtain ⟨scene, hscene, hvisit⟩ := startPlay_eq_ok hstart
  have hbegun : begun = (scene.visit (.begin story player)).1 := congrArg Prod.fst hvisit
  have hopening : opening = (scene.visit (.begin story player)).2 := congrArg Prod.snd hvisit
  have hplace : opening.scene = story.start := by
    rw [hopening]
    exact PlayerState.currentScene_begin story player
  have hthere : begun.currentScene = story.start := by
    rw [hbegun, Scene.currentScene_visit, PlayerState.currentScene_begin]
  have hmade : ∀ calls, (story.afterAll begun calls).IsMadeBy story player
      (story.segmentsRendered begun opening calls) := by
    intro calls
    rw [segmentsRendered, scenesShown, List.flatMap_cons, hplace, segmentsIn_of_scene hscene]
    refine isMadeBy_afterAll ?_ calls
    rw [hbegun]
    exact (PlayerState.isMadeBy_begin story player).visit scene
  have hlast := hmade calls
  refine ⟨hlast.player_eq, hlast.story_eq, hlast.stats_eq, ?_, ?_, ?_, hlast.ending_eq, ?_, ?_⟩
  · rw [hlast.inventory_eq]
    exact nodup_eraseDups _
  · refine ⟨_, hlast.inventory_eq.trans List.eraseDups_append, ?_⟩
    intro item hitem
    have hgiven := (List.mem_filter.mp (List.mem_eraseDups.mp hitem)).1
    exact exists_scene_of_item (hplace.trans hthere.symm) hgiven
  · rintro before rest rfl
    obtain ⟨more, hmore⟩ := story.segmentsRendered_append begun opening before rest
    rw [hlast.inventory_eq, (hmade before).inventory_eq, hmore, List.filterMap_append,
      ← List.append_assoc]
    exact eraseDups_prefix_append _ _
  · rintro before rest rfl hended
    obtain ⟨more, hmore⟩ := story.segmentsRendered_append begun opening before rest
    rw [(hmade before).ending_eq] at hended
    rw [hlast.ending_eq, hmore, List.filterMap_append, List.getLast?_append, Option.isSome_or,
      hended, Bool.or_true]
  · rintro before rest rfl
    rw [afterAll_append]
    exact history_prefix_afterAll story _ rest

/-- The quarry with a way out of its cavern, for a player who starts with a lamp. -/
def mine : Story :=
  let cavern : Scene := ⟨"Gold! \x7bITEM:add:Gold\x7d\x7bITEM:add:Rope\x7d\x7bEND:rich\x7d",
    [⟨"Climb out", "start", none⟩]⟩
  { quarry.putScene "cavern" cavern with inventory := ⟨true, ["Lamp", "Lamp"]⟩ }

theorem evolves_afterAll_mine :
    ∃ begun opening, mine.startPlay "ada" = .ok (begun, opening) ∧
      begun.inventory = ["Lamp", "Rope"] ∧
      (mine.afterAll begun [.choose 0, .choose 0, .choose 5]).inventory =
        ["Lamp", "Rope", "Gold"] ∧
      (mine.afterAll begun [.choose 0, .choose 0, .choose 5]).ending = some "rich" ∧
      mine.Evolves "ada" begun opening [.choose 0, .choose 0, .choose 5] := by
  obtain ⟨scene, hscene⟩ : ∃ scene, mine.scene? mine.start = some scene :=
    hasScene_iff.mp (by decide +kernel)
  have hstart := startPlay_of_scene hscene "ada"
  have hheld : (mine.startPlay "ada").map (fun turn => turn.1.inventory) =
      .ok ["Lamp", "Rope"] := by
    decide +kernel
  have hreached : (mine.startPlay "ada").map (fun turn =>
      let reached := mine.afterAll turn.1 [.choose 0, .choose 0, .choose 5]
      (reached.inventory, reached.ending)) = .ok (["Lamp", "Rope", "Gold"], some "rich") := by
    decide +kernel
  rw [hstart] at hheld hreached
  obtain ⟨hitems, hending⟩ := Prod.mk.inj (Except.ok.inj hreached)
  exact ⟨_, _, hstart, Except.ok.inj hheld, hitems, hending, evolves_afterAll hstart _⟩

end Story

end Gamebook
