import Gamebook.Proofs.Library.Editing
import Gamebook.Proofs.Story.Checking
import Mathlib.Data.List.Nodup

namespace Gamebook

namespace Story

/-- The story as it is listed: everyone may play it, and there is no share code. -/
def listedCopy (story : Story) : Story :=
  { story with visibility := .listed, shareCode := none }

/-- The story as it is published behind a share code. -/
def behind (story : Story) (code : String) : Story :=
  { story with visibility := .unlisted, shareCode := some code }

/-- Whether a story is one that authors can make. -/
structure IsAuthored (story : Story) : Prop where
  start_eq : story.start = defaultStart
  hasScene_start : story.hasScene defaultStart = true
  items_nodup : story.inventory.items.Nodup
  items_enabled : story.inventory.enabled = true ↔ story.inventory.items ≠ []
  stats_enabled : story.stats.enabled = true ↔ story.stats.values ≠ ∅
  targets : ∀ name index choice, story.HasChoice name index choice →
    Text.isBlank choice.next = false

variable {before after story : Story} {name : String} {scene : Scene}

/-- Whether the labels and the targets of all choices of a story are of some kind. -/
def ChoicesAre (P : String → String → Prop) (story : Story) : Prop :=
  ∀ name index choice, story.HasChoice name index choice → P choice.text choice.next

theorem ChoicesAre.of_scene {P : String → String → Prop} (hchoices : story.ChoicesAre P)
    (hscene : story.scene? name = some scene) :
    ∀ choice ∈ scene.choices, P choice.text choice.next := by
  intro choice hchoice
  obtain ⟨index, hindex⟩ := List.getElem?_of_mem hchoice
  exact hchoices name index choice ⟨scene, hscene, hindex⟩

theorem ChoicesAre.of_differsAt {P : String → String → Prop} (hchoices : before.ChoicesAre P)
    (hdiffers : before.DiffersAt after name scene)
    (hscene : ∀ choice ∈ scene.choices, P choice.text choice.next) : after.ChoicesAre P := by
  rintro other index choice ⟨held, hheld, hchoice⟩
  by_cases hname : other = name
  · rw [hname, hdiffers.scene_eq] at hheld
    cases hheld
    exact hscene choice (List.mem_of_getElem? hchoice)
  · rw [hdiffers.others _ hname] at hheld
    exact hchoices other index choice ⟨held, hheld, hchoice⟩

theorem choicesAre_fresh (P : String → String → Prop) (id title text : String) :
    (fresh id title text).ChoicesAre P := by
  rintro name index choice ⟨scene, hscene, hchoice⟩
  have hfound : (fresh id title text).scene? name =
      if defaultStart = name then some ⟨text, []⟩ else none := Dict.find?_insert ..
  rw [hfound] at hscene
  split at hscene
  · cases hscene
    cases hchoice
  · cases hscene

theorem isAuthored_fresh (id title text : String) : (fresh id title text).IsAuthored := by
  have hitems : (false = true ↔ ([] : List String) ≠ []) := by decide
  have hstats : (false = true ↔ (∅ : Dict Int64) ≠ ∅) := by decide
  have htargets : (fresh id title text).ChoicesAre fun _ next => Text.isBlank next = false :=
    choicesAre_fresh _ id title text
  exact ⟨rfl, rfl, List.nodup_nil, hitems, hstats, htargets⟩

theorem IsAuthored.listedCopy (hauthored : story.IsAuthored) : story.listedCopy.IsAuthored :=
  ⟨hauthored.start_eq, hauthored.hasScene_start, hauthored.items_nodup, hauthored.items_enabled,
    hauthored.stats_enabled, hauthored.targets⟩

theorem IsAuthored.behind (hauthored : story.IsAuthored) (code : String) :
    (story.behind code).IsAuthored :=
  ⟨hauthored.start_eq, hauthored.hasScene_start, hauthored.items_nodup, hauthored.items_enabled,
    hauthored.stats_enabled, hauthored.targets⟩

theorem IsAuthored.choicesAre (hauthored : story.IsAuthored) :
    story.ChoicesAre fun _ next => Text.isBlank next = false :=
  hauthored.targets

theorem IsAuthored.of_differsAt (hauthored : before.IsAuthored)
    (hdiffers : before.DiffersAt after name scene)
    (htargets : after.ChoicesAre fun _ next => Text.isBlank next = false) : after.IsAuthored := by
  have hrest := hdiffers.rest
  refine ⟨?_, ?_, ?_, ?_, ?_, htargets⟩
  · rw [hrest]
    exact hauthored.start_eq
  · by_cases hname : defaultStart = name
    · rw [hname]
      exact hasScene_iff.mpr ⟨scene, hdiffers.scene_eq⟩
    · have hstart := hauthored.hasScene_start
      rw [hasScene_iff, ← hdiffers.others _ hname] at hstart
      exact hasScene_iff.mpr hstart
  · rw [hrest]
    exact hauthored.items_nodup
  · rw [hrest]
    exact hauthored.items_enabled
  · rw [hrest]
    exact hauthored.stats_enabled

/-- The errors of choices without a label, in the order of the scenes and choices. -/
def blankLabels (story : Story) : List Issue :=
  story.scenes.entries.flatMap fun (name, scene) =>
    scene.choices.zipIdx.filterMap fun (choice, index) =>
      if Text.isBlank choice.text then some (.blankLabel name index) else none

theorem filter_choiceIssues {choice : Choice} (htarget : Text.isBlank choice.next = false)
    (index : Nat) :
    (story.choiceIssues name choice index).filter Issue.isError =
      if Text.isBlank choice.text then [.blankLabel name index] else [] := by
  rw [choiceIssues, htarget]
  cases Text.isBlank choice.text <;> cases story.hasScene choice.next <;> rfl

theorem IsAuthored.filter_sceneIssues (hauthored : story.IsAuthored)
    (hscene : story.scene? name = some scene) :
    (story.sceneIssues name scene).filter Issue.isError =
      scene.choices.zipIdx.filterMap fun (choice, index) =>
        if Text.isBlank choice.text then some (.blankLabel name index) else none := by
  rw [sceneIssues, List.filter_flatMap, List.filterMap_eq_flatMap_toList]
  apply List.flatMap_congr
  rintro ⟨choice, index⟩ hplace
  have hchoice : choice ∈ scene.choices :=
    List.mem_of_getElem? (List.mem_zipIdx_iff_getElem?.mp hplace)
  have htarget := hauthored.choicesAre.of_scene hscene choice hchoice
  dsimp only
  rw [filter_choiceIssues htarget]
  split <;> rfl

/-- The errors that a check reports of a story that authors made are the choices without a label. -/
theorem IsAuthored.filter_check (hauthored : story.IsAuthored)
    (hid : Text.isBlank story.id = false) :
    story.check.filter Issue.isError = story.blankLabels := by
  have hstart : story.hasScene story.start = true := by
    rw [hauthored.start_eq]
    exact hauthored.hasScene_start
  have hscenes : (story.scenes.entries.flatMap fun (name, scene) =>
      story.sceneIssues name scene).filter Issue.isError = story.blankLabels := by
    rw [List.filter_flatMap, blankLabels]
    apply List.flatMap_congr
    rintro ⟨name, scene⟩ hentry
    exact hauthored.filter_sceneIssues (Dict.find?_eq_some_iff.mpr hentry)
  have hunreachable : ∀ names : List String,
      (names.map Issue.unreachable).filter Issue.isError = [] := by
    intro names
    rw [List.filter_eq_nil_iff]
    intro issue hissue
    obtain ⟨name, -, rfl⟩ := List.mem_map.mp hissue
    exact Bool.false_ne_true
  have hlisted : (if story.visibility = .listed ∧ story.shareCode.isSome then
      [Issue.listedWithCode] else []).filter Issue.isError = [] := by
    split <;> rfl
  change story.errors = story.blankLabels
  rw [errors_eq, issues]
  simp only [hid, hstart, if_true, Bool.false_eq_true, if_false, List.nil_append,
    List.filter_append, hscenes, hunreachable, hlisted, List.append_nil]

end Story

namespace StoryEdit

variable {before after : Story}

theorem Makes.choicesAre {P : String → String → Prop} {edit : StoryEdit} {answer : edit.Answer}
    (hmakes : edit.Makes before after answer)
    (hadded : ∀ scene text next, edit = .addChoice scene text next → P text next)
    (hchoices : before.ChoicesAre P) : after.ChoicesAre P := by
  cases edit with
  | addScene name =>
      rw [Makes] at hmakes
      split at hmakes
      · refine hchoices.of_differsAt hmakes.1 ?_
        intro choice hchoice
        cases hchoice
      · rw [hmakes.1]
        exact hchoices
  | setSceneText name text =>
      refine hchoices.of_differsAt hmakes ?_
      intro choice hchoice
      cases hscene : before.scene? name with
      | none =>
          rw [hscene] at hchoice
          cases hchoice
      | some scene =>
          rw [hscene] at hchoice
          exact hchoices.of_scene hscene choice hchoice
  | addChoice name text next =>
      obtain ⟨old, scene, hold, hstory, rfl, hscene⟩ := hmakes
      refine hchoices.of_differsAt hstory ?_
      intro choice hchoice
      obtain ⟨place, hplace⟩ := List.getElem?_of_mem hchoice
      by_cases hlast : place = old.choices.length
      · rw [hlast, hscene.choice_eq] at hplace
        cases hplace
        exact hadded name text next rfl
      · rw [hscene.others place hlast] at hplace
        cases hthere : before.scene? name with
        | none =>
            rw [hthere] at hold
            cases hold
            cases hplace
        | some held =>
            rw [hthere] at hold
            cases hold
            exact hchoices.of_scene hthere choice (List.mem_of_getElem? hplace)
  | setRequirement name index requirement =>
      obtain ⟨old, gated, scene, hold, hgated, hstory, hscene⟩ := hmakes
      refine hchoices.of_differsAt hstory ?_
      intro choice hchoice
      obtain ⟨place, hplace⟩ := List.getElem?_of_mem hchoice
      by_cases hindex : place = index
      · rw [hindex, hscene.choice_eq] at hplace
        cases hplace
        exact hchoices.of_scene hold gated (List.mem_of_getElem? hgated)
      · rw [hscene.others place hindex] at hplace
        exact hchoices.of_scene hold choice (List.mem_of_getElem? hplace)
  | setInitialStat stat value =>
      rw [hmakes.1]
      exact hchoices
  | addInitialItem item =>
      rw [hmakes.1]
      exact hchoices

theorem Makes.isAuthored {edit : StoryEdit} {answer : edit.Answer}
    (hmakes : edit.Makes before after answer) (hnamed : edit.IsNamed)
    (hauthored : before.IsAuthored) : after.IsAuthored := by
  have htargets : after.ChoicesAre fun _ next => Text.isBlank next = false := by
    refine hmakes.choicesAre ?_ hauthored.choicesAre
    rintro scene text next rfl
    exact hnamed.2
  cases edit with
  | addScene name =>
      rw [Makes] at hmakes
      split at hmakes
      · exact hauthored.of_differsAt hmakes.1 htargets
      · rw [hmakes.1]
        exact hauthored
  | setSceneText name text => exact hauthored.of_differsAt hmakes htargets
  | addChoice name text next =>
      obtain ⟨old, scene, -, hstory, -⟩ := hmakes
      exact hauthored.of_differsAt hstory htargets
  | setRequirement name index requirement =>
      obtain ⟨old, gated, scene, -, -, hstory, -⟩ := hmakes
      exact hauthored.of_differsAt hstory htargets
  | setInitialStat stat value =>
      obtain ⟨hrest, henabled, hstat, -⟩ := hmakes
      have hvalues : after.stats.values ≠ ∅ := by
        intro hempty
        rw [hempty] at hstat
        cases hstat
      rw [hrest]
      exact ⟨hauthored.start_eq, hauthored.hasScene_start, hauthored.items_nodup,
        hauthored.items_enabled, iff_of_true henabled hvalues, hauthored.targets⟩
  | addInitialItem item =>
      obtain ⟨hrest, henabled, hitems, hnew⟩ := hmakes
      have hboth : after.inventory.items.Nodup ∧ after.inventory.items ≠ [] := by
        rw [hitems]
        cases answer with
        | true =>
            refine ⟨?_, List.append_ne_nil_of_right_ne_nil _ (List.cons_ne_nil item [])⟩
            have hnodup := List.Nodup.concat (hnew.mp rfl) hauthored.items_nodup
            rwa [List.concat_eq_append] at hnodup
        | false =>
            have hheld : item ∈ before.inventory.items := by
              by_contra hmissing
              cases hnew.mpr hmissing
            simp only [Bool.false_eq_true, if_false, List.append_nil]
            exact ⟨hauthored.items_nodup, List.ne_nil_of_mem hheld⟩
      rw [hrest]
      exact ⟨hauthored.start_eq, hauthored.hasScene_start, hboth.1,
        iff_of_true henabled hboth.2, hauthored.stats_enabled, hauthored.targets⟩

end StoryEdit

end Gamebook
