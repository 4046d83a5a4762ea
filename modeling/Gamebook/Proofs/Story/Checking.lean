import Gamebook.Proofs.Lists
import Gamebook.Story.Check
import Mathlib.Logic.Relation

namespace Gamebook.Story

variable {story : Story} {seen queue : List String} {name next first : String}

/-- Whether some choice leads from one scene to another, whatever it requires. -/
def Leads (story : Story) (name next : String) : Prop :=
  ∃ scene choice, story.scene? name = some scene ∧ choice ∈ scene.choices ∧ choice.next = next

theorem mem_explore_of_mem (hname : name ∈ seen) : name ∈ story.explore seen queue := by
  fun_induction explore story seen queue with
  | case1 => exact hname
  | case2 seen first queue hseen ih => exact ih hname
  | case3 seen first queue hnew scene hscene ih => exact ih (List.mem_cons_of_mem first hname)
  | case4 seen first queue hnew hmissing ih => exact ih (List.mem_cons_of_mem first hname)

/-- What the search lists has every property that the names it begins with have and that choices
hand on. -/
theorem of_mem_explore {P : String → Prop}
    (hstep : ∀ name next, P name → story.Leads name next → P next)
    (hseen : ∀ name ∈ seen, P name) (hqueue : ∀ name ∈ queue, P name)
    (hname : name ∈ story.explore seen queue) : P name := by
  fun_induction explore story seen queue with
  | case1 => exact hseen name hname
  | case2 seen first queue hold ih => exact ih hseen (List.forall_mem_cons.mp hqueue).2 hname
  | case3 seen first queue hnew scene hscene ih =>
      obtain ⟨hfirst, hrest⟩ := List.forall_mem_cons.mp hqueue
      refine ih (List.forall_mem_cons.mpr ⟨hfirst, hseen⟩) ?_ hname
      intro other hother
      rcases List.mem_append.mp hother with hother | hother
      · exact hrest other hother
      · obtain ⟨choice, hchoice, hnext⟩ := List.mem_map.mp hother
        exact hstep first other hfirst ⟨scene, choice, hscene, hchoice, hnext⟩
  | case4 seen first queue hnew hmissing ih =>
      obtain ⟨hfirst, hrest⟩ := List.forall_mem_cons.mp hqueue
      exact ih (List.forall_mem_cons.mpr ⟨hfirst, hseen⟩) hrest hname

/-- Whether nothing is forgotten: the names that choices lead to from those seen are seen as well,
or still to come. -/
def Covers (story : Story) (seen queue : List String) : Prop :=
  ∀ name ∈ seen, ∀ next, story.Leads name next → next ∈ seen ∨ next ∈ queue

theorem Covers.skip (hcovers : story.Covers seen (first :: queue)) (hfirst : first ∈ seen) :
    story.Covers seen queue := by
  intro name hname next hleads
  rcases hcovers name hname next hleads with hnext | hnext
  · exact Or.inl hnext
  · rcases List.mem_cons.mp hnext with rfl | hnext
    · exact Or.inl hfirst
    · exact Or.inr hnext

theorem Covers.visit {more : List String} (hcovers : story.Covers seen (first :: queue))
    (hmore : ∀ next, story.Leads first next → next ∈ more) :
    story.Covers (first :: seen) (queue ++ more) := by
  intro name hname next hleads
  rcases List.mem_cons.mp hname with rfl | hname
  · exact Or.inr (List.mem_append_right queue (hmore next hleads))
  · rcases hcovers name hname next hleads with hnext | hnext
    · exact Or.inl (List.mem_cons_of_mem first hnext)
    · rcases List.mem_cons.mp hnext with rfl | hnext
      · exact Or.inl (List.mem_cons_self ..)
      · exact Or.inr (List.mem_append_left more hnext)

theorem Leads.mem_choices {scene : Scene} (hleads : story.Leads name next)
    (hscene : story.scene? name = some scene) : next ∈ scene.choices.map (·.next) := by
  obtain ⟨held, choice, hheld, hchoice, hnext⟩ := hleads
  obtain rfl := Option.some.inj (hscene.symm.trans hheld)
  exact List.mem_map.mpr ⟨choice, hchoice, hnext⟩

theorem Leads.exists_scene (hleads : story.Leads name next) :
    ∃ scene, story.scene? name = some scene := by
  obtain ⟨scene, -, hscene, -⟩ := hleads
  exact ⟨scene, hscene⟩

theorem covers_explore (hcovers : story.Covers seen queue) :
    (∀ name ∈ queue, name ∈ story.explore seen queue) ∧
      story.Covers (story.explore seen queue) [] := by
  fun_induction explore story seen queue with
  | case1 seen => exact ⟨fun name hname => absurd hname List.not_mem_nil, hcovers⟩
  | case2 seen first queue hold ih =>
      obtain ⟨hqueue, hclosed⟩ := ih (hcovers.skip hold)
      exact ⟨List.forall_mem_cons.mpr ⟨mem_explore_of_mem hold, hqueue⟩, hclosed⟩
  | case3 seen first queue hnew scene hscene ih =>
      obtain ⟨hqueue, hclosed⟩ := ih (hcovers.visit fun next hleads => hleads.mem_choices hscene)
      refine ⟨List.forall_mem_cons.mpr ⟨?_, (List.forall_mem_append.mp hqueue).1⟩, hclosed⟩
      exact mem_explore_of_mem (List.mem_cons_self ..)
  | case4 seen first queue hnew hmissing ih =>
      have hnowhere : ∀ next, story.Leads first next → next ∈ [] := by
        intro next hleads
        obtain ⟨scene, hscene⟩ := hleads.exists_scene
        exact absurd (hmissing.symm.trans hscene) nofun
      have hvisited := hcovers.visit hnowhere
      rw [List.append_nil] at hvisited
      obtain ⟨hqueue, hclosed⟩ := ih hvisited
      refine ⟨List.forall_mem_cons.mpr ⟨?_, hqueue⟩, hclosed⟩
      exact mem_explore_of_mem (List.mem_cons_self ..)

theorem mem_reachable_iff :
    name ∈ story.reachable ↔ Relation.ReflTransGen story.Leads story.start name := by
  constructor
  · intro hname
    refine of_mem_explore ?_ ?_ ?_ hname
    · exact fun _ _ hchain hleads => hchain.tail hleads
    · exact fun _ hnone => absurd hnone List.not_mem_nil
    · intro other hother
      obtain rfl := List.mem_singleton.mp hother
      exact Relation.ReflTransGen.refl
  · intro hchain
    have hnothing : story.Covers [] [story.start] :=
      fun _ hnone => absurd hnone List.not_mem_nil
    obtain ⟨hstart, hclosed⟩ := covers_explore hnothing
    induction hchain with
    | refl => exact hstart story.start (List.mem_singleton_self _)
    | tail _ hleads hlast =>
        exact (hclosed _ hlast _ hleads).resolve_right List.not_mem_nil

theorem mem_unreached_iff :
    name ∈ story.scenes.keys ∧ name ∉ story.reachable ↔
      story.hasScene name = true ∧ ¬Relation.ReflTransGen story.Leads story.start name := by
  have hkeys : name ∈ story.scenes.keys ↔ story.hasScene name = true :=
    Dict.contains_eq_true_iff.symm
  rw [hkeys, mem_reachable_iff]

/-- Whether a scene has a choice at some place. -/
def HasChoice (story : Story) (name : String) (index : Nat) (choice : Choice) : Prop :=
  ∃ scene, story.scene? name = some scene ∧ scene.choices[index]? = some choice

/-- Whether a story has a problem. -/
def HasIssue (story : Story) : Issue → Prop
  | .blankId => Text.isBlank story.id = true
  | .missingStart start => story.hasScene story.start = false ∧ start = story.start
  | .blankLabel name index =>
    ∃ choice, story.HasChoice name index choice ∧ Text.isBlank choice.text = true
  | .blankTarget name index =>
    ∃ choice, story.HasChoice name index choice ∧ Text.isBlank choice.next = true
  | .missingTarget name label next =>
    ∃ index choice, story.HasChoice name index choice ∧ Text.isBlank choice.next = false ∧
      story.hasScene choice.next = false ∧ label = choice.text ∧ next = choice.next
  | .unreachable name =>
    story.hasScene story.start = true ∧ story.hasScene name = true ∧
      ¬Relation.ReflTransGen story.Leads story.start name
  | .listedWithCode => story.visibility = .listed ∧ story.shareCode.isSome = true

theorem mem_choiceIssues_iff {issue : Issue} {choice : Choice} {index : Nat} :
    issue ∈ story.choiceIssues name choice index ↔
      (Text.isBlank choice.text = true ∧ issue = .blankLabel name index) ∨
      (Text.isBlank choice.next = true ∧ issue = .blankTarget name index) ∨
      (Text.isBlank choice.next = false ∧ story.hasScene choice.next = false ∧
        issue = .missingTarget name choice.text choice.next) := by
  rw [choiceIssues, List.mem_append]
  cases Text.isBlank choice.text <;> cases Text.isBlank choice.next <;>
    cases story.hasScene choice.next <;> simp

theorem mem_scenes_issues_iff {issue : Issue} :
    (issue ∈ story.scenes.entries.flatMap fun (name, scene) => story.sceneIssues name scene) ↔
      ∃ name index choice, story.HasChoice name index choice ∧
        issue ∈ story.choiceIssues name choice index := by
  simp only [List.mem_flatMap, Prod.exists, sceneIssues, List.mem_zipIdx_iff_getElem?,
    ← Dict.find?_eq_some_iff]
  constructor
  · rintro ⟨name, scene, hscene, choice, index, hchoice, hissue⟩
    exact ⟨name, index, choice, ⟨scene, hscene, hchoice⟩, hissue⟩
  · rintro ⟨name, index, choice, ⟨scene, hscene, hchoice⟩, hissue⟩
    exact ⟨name, scene, hscene, choice, index, hchoice, hissue⟩

theorem mem_issues_iff {issue : Issue} : issue ∈ story.issues ↔ story.HasIssue issue := by
  rw [issues]
  simp only [List.mem_append, mem_scenes_issues_iff, mem_choiceIssues_iff]
  cases issue with
  | blankId => simp [HasIssue]
  | missingStart start => simp [HasIssue]
  | blankLabel name index =>
      trans ∃ scene place choice, story.HasChoice scene place choice ∧
        Text.isBlank choice.text = true ∧ name = scene ∧ index = place
      · simp
      · constructor
        · rintro ⟨_, _, choice, hchoice, hblank, rfl, rfl⟩
          exact ⟨choice, hchoice, hblank⟩
        · rintro ⟨choice, hchoice, hblank⟩
          exact ⟨name, index, choice, hchoice, hblank, rfl, rfl⟩
  | blankTarget name index =>
      trans ∃ scene place choice, story.HasChoice scene place choice ∧
        Text.isBlank choice.next = true ∧ name = scene ∧ index = place
      · simp
      · constructor
        · rintro ⟨_, _, choice, hchoice, hblank, rfl, rfl⟩
          exact ⟨choice, hchoice, hblank⟩
        · rintro ⟨choice, hchoice, hblank⟩
          exact ⟨name, index, choice, hchoice, hblank, rfl, rfl⟩
  | missingTarget name label next =>
      trans ∃ scene place choice, story.HasChoice scene place choice ∧
        Text.isBlank choice.next = false ∧ story.hasScene choice.next = false ∧
          name = scene ∧ label = choice.text ∧ next = choice.next
      · simp
      · constructor
        · rintro ⟨_, place, choice, hchoice, hblank, hmissing, rfl, hlabel, hnext⟩
          exact ⟨place, choice, hchoice, hblank, hmissing, hlabel, hnext⟩
        · rintro ⟨place, choice, hchoice, hblank, hmissing, hlabel, hnext⟩
          exact ⟨name, place, choice, hchoice, hblank, hmissing, rfl, hlabel, hnext⟩
  | unreachable name =>
      simp [HasIssue, mem_unreached_iff]
  | listedWithCode => simp [HasIssue]

theorem mem_check_iff {issue : Issue} : issue ∈ story.check ↔ story.HasIssue issue := by
  rw [check, List.mem_mergeSort, mem_issues_iff]

theorem mayPrecede_trans (a b c : Issue) (hfirst : a.mayPrecede b = true)
    (hnext : b.mayPrecede c = true) : a.mayPrecede c = true := by
  rw [Issue.mayPrecede] at hfirst hnext ⊢
  grind

theorem mayPrecede_total (a b : Issue) : (a.mayPrecede b || b.mayPrecede a) = true := by
  rw [Issue.mayPrecede, Issue.mayPrecede]
  grind

theorem errors_eq (story : Story) : story.errors = story.issues.filter Issue.isError := by
  refine filter_mergeSort mayPrecede_trans mayPrecede_total fun a b herror _ => ?_
  rw [Issue.mayPrecede, herror, Bool.true_or]

/-- Sorting puts errors before warnings, and leaves each of them in the order in which they are
found. -/
theorem check_eq (story : Story) :
    story.check = story.errors ++ story.issues.filter fun issue => !issue.isError := by
  have hwarnings : (story.check.filter fun issue => !issue.isError) =
      story.issues.filter fun issue => !issue.isError := by
    refine filter_mergeSort mayPrecede_trans mayPrecede_total fun a b _ hwarning => ?_
    rw [Issue.mayPrecede, hwarning, Bool.or_true]
  rw [← hwarnings, errors]
  exact (filter_append_filter_not
    (List.pairwise_mergeSort mayPrecede_trans mayPrecede_total story.issues)).symm

theorem ensureValid_eq_ok : story.ensureValid = .ok () ↔ story.errors = [] := by
  rw [ensureValid]
  split <;> simp_all

theorem ensureValid_eq_ok_iff :
    story.ensureValid = .ok () ↔ ∀ issue, story.HasIssue issue → issue.isError = false := by
  rw [ensureValid_eq_ok, errors_eq, List.filter_eq_nil_iff]
  simp only [mem_issues_iff, Bool.not_eq_true]

theorem ensureValid_eq_error_iff {error : StoryError} :
    story.ensureValid = .error error ↔
      story.errors ≠ [] ∧ error = .invalid story.id story.errors := by
  rw [ensureValid]
  split
  · rename_i hnone
    exact iff_of_false (fun hok => by cases hok) fun hsome => hsome.1 hnone
  · rename_i hsome
    rw [and_iff_right hsome, Except.error.injEq, eq_comm]

theorem readValid_of_read {text : String} (hread : read text = .ok story) :
    readValid text =
      if story.errors = [] then .ok story else .error (.invalid story.id story.errors) := by
  rw [readValid, hread]
  change (do ensureValid story; return story) = _
  rw [ensureValid]
  split <;> rfl

theorem readValid_of_read_error {text : String} {error : StoryError}
    (hread : read text = .error error) : readValid text = .error error := by
  rw [readValid, hread]
  rfl

end Gamebook.Story
