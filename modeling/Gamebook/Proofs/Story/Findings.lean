import Gamebook.Proofs.Story.Checking
import Mathlib.Data.List.Sort

/-!
What the report on a story says, and in which order. A problem is found at a spot of the story, and
the spots are looked at one by one: the id, the start scene, the choices of all scenes, which scenes
can be reached, and the share code. The report says of every spot what is wrong there and nothing
else, errors before warnings and otherwise in the order of the spots; no other list does so
(`check_reports`).
-/

namespace Gamebook

/-- What may be wrong in a story. -/
inductive Spot where
  | id
  | start
  | label (scene : String) (index : Nat)
  | target (scene : String) (index : Nat)
  /-- Whether there is a way to a scene. -/
  | way (scene : String)
  | shareCode
  deriving DecidableEq, Repr

namespace Spot

/-- The stage of the search at which a spot is looked at. -/
def stage : Spot → Nat
  | .id => 0
  | .start => 1
  | .label _ _ | .target _ _ => 2
  | .way _ => 3
  | .shareCode => 4

def scene : Spot → String
  | .label scene _ | .target scene _ | .way scene => scene
  | .id | .start | .shareCode => ""

/-- The place of a spot within its scene, where the label of a choice comes before its target. -/
def place : Spot → Nat
  | .label _ index => 2 * index
  | .target _ index => 2 * index + 1
  | .id | .start | .way _ | .shareCode => 0

/-- Whether a spot is looked at before another one. -/
def Before (spot other : Spot) : Prop :=
  spot.stage < other.stage ∨ spot.stage = other.stage ∧
    (spot.scene < other.scene ∨ spot.scene = other.scene ∧ spot.place < other.place)

theorem Before.asymm {spot other : Spot} (hbefore : spot.Before other) : ¬other.Before spot := by
  unfold Before at *
  grind [String.lt_irrefl, String.lt_asymm]

end Spot

/-- Something that is wrong at a spot, and how bad it is. -/
structure Finding where
  spot : Spot
  severity : Severity
  issue : Issue

namespace Finding

/-- Whether something is reported before something else. -/
def Precedes (finding other : Finding) : Prop :=
  finding.severity = .error ∧ other.severity = .warning ∨
    finding.severity = other.severity ∧ finding.spot.Before other.spot

theorem Precedes.asymm {finding other : Finding} (hprecedes : finding.Precedes other) :
    ¬other.Precedes finding := by
  rintro (⟨hother, hfinding⟩ | ⟨hsame, hafter⟩)
  · rcases hprecedes with ⟨herror, -⟩ | ⟨hsame, -⟩
    · rw [herror] at hfinding
      cases hfinding
    · rw [hsame, hother] at hfinding
      cases hfinding
  · rcases hprecedes with ⟨herror, hwarning⟩ | ⟨-, hbefore⟩
    · rw [herror, hwarning] at hsame
      cases hsame
    · exact hbefore.asymm hafter

instance : Std.Irrefl Precedes :=
  ⟨fun _ hprecedes => hprecedes.asymm hprecedes⟩

instance : Std.Antisymm Precedes :=
  ⟨fun _ _ hprecedes hafter => absurd hafter hprecedes.asymm⟩

/-- The same findings with the errors in front. -/
def errorsFirst (found : List Finding) : List Finding :=
  (found.filter fun finding => finding.severity = .error) ++
    found.filter fun finding => finding.severity = .warning

variable {found : List Finding} {finding : Finding}

theorem mem_errorsFirst : finding ∈ errorsFirst found ↔ finding ∈ found := by
  rw [errorsFirst, List.mem_append, List.mem_filter, List.mem_filter, ← and_or_left]
  cases finding.severity <;> simp

theorem pairwise_errorsFirst
    (hsorted : found.Pairwise fun finding other => finding.spot.Before other.spot) :
    (errorsFirst found).Pairwise Precedes := by
  have hsevere : ∀ {severity : Severity} {finding : Finding},
      (finding ∈ found.filter fun finding => finding.severity = severity) →
        finding.severity = severity :=
    fun hfinding => of_decide_eq_true (List.mem_filter.mp hfinding).2
  have hpart : ∀ severity : Severity,
      (found.filter fun finding => finding.severity = severity).Pairwise Precedes := by
    intro severity
    refine (hsorted.filter _).imp_of_mem fun hfinding hother hbefore => Or.inr ⟨?_, hbefore⟩
    rw [hsevere hfinding, hsevere hother]
  refine List.pairwise_append.mpr ⟨hpart .error, hpart .warning, ?_⟩
  intro finding hfinding other hother
  exact Or.inl ⟨hsevere hfinding, hsevere hother⟩

theorem map_errorsFirst
    (hsevere : ∀ finding ∈ found, finding.issue.severity = finding.severity) :
    (errorsFirst found).map (·.issue) =
      (found.map (·.issue)).filter Issue.isError ++
        (found.map (·.issue)).filter fun issue => !issue.isError := by
  rw [errorsFirst, List.map_append, List.filter_map, List.filter_map]
  congr 2
  · refine List.filter_congr fun finding hfinding => ?_
    rw [← hsevere finding hfinding]
    rfl
  · refine List.filter_congr fun finding hfinding => ?_
    rw [← hsevere finding hfinding, Function.comp_apply, Issue.isError]
    cases finding.issue.severity <;> rfl

end Finding

namespace Story

variable {story : Story} {part other : Spot → Prop} {issues more : List Issue} {finding : Finding}

/-- What is wrong in a story, spot by spot. -/
inductive Problem (story : Story) : Finding → Prop
  | blankId : Text.isBlank story.id = true → story.Problem ⟨.id, .error, .blankId⟩
  | missingStart : story.hasScene story.start = false →
      story.Problem ⟨.start, .error, .missingStart story.start⟩
  | blankLabel {name : String} {index : Nat} {choice : Choice} :
      story.HasChoice name index choice → Text.isBlank choice.text = true →
      story.Problem ⟨.label name index, .error, .blankLabel name index⟩
  | blankTarget {name : String} {index : Nat} {choice : Choice} :
      story.HasChoice name index choice → Text.isBlank choice.next = true →
      story.Problem ⟨.target name index, .error, .blankTarget name index⟩
  | missingTarget {name : String} {index : Nat} {choice : Choice} :
      story.HasChoice name index choice → Text.isBlank choice.next = false →
      story.hasScene choice.next = false →
      story.Problem ⟨.target name index, .warning, .missingTarget name choice.text choice.next⟩
  | unreachable {name : String} :
      story.hasScene story.start = true → story.hasScene name = true →
      ¬Relation.ReflTransGen story.Leads story.start name →
      story.Problem ⟨.way name, .warning, .unreachable name⟩
  | listedWithCode : story.visibility = .listed → story.shareCode.isSome = true →
      story.Problem ⟨.shareCode, .warning, .listedWithCode⟩

theorem Problem.severity_eq (hproblem : story.Problem finding) :
    finding.issue.severity = finding.severity := by
  cases hproblem <;> rfl

/-- Whether some problems are those of a part of a story, in the order of its spots. -/
def Finds (story : Story) (part : Spot → Prop) (issues : List Issue) : Prop :=
  ∃ found : List Finding, found.map (·.issue) = issues ∧
    found.Pairwise (fun finding other => finding.spot.Before other.spot) ∧
    ∀ finding, finding ∈ found ↔ story.Problem finding ∧ part finding.spot

namespace Finds

theorem nothing (hnone : ∀ finding, story.Problem finding → ¬part finding.spot) :
    story.Finds part [] :=
  ⟨[], rfl, .nil, fun finding =>
    ⟨fun hmem => absurd hmem List.not_mem_nil, fun hproblem =>
      absurd hproblem.2 (hnone finding hproblem.1)⟩⟩

theorem single (finding : Finding)
    (hone : ∀ found, story.Problem found ∧ part found.spot ↔ found = finding) :
    story.Finds part [finding.issue] :=
  ⟨[finding], rfl, List.pairwise_singleton _ _, fun found =>
    List.mem_singleton.trans (hone found).symm⟩

theorem ite (finding : Finding) {condition : Prop} [Decidable condition]
    (hone : ∀ found, story.Problem found ∧ part found.spot ↔ condition ∧ found = finding) :
    story.Finds part (if condition then [finding.issue] else []) := by
  split
  · rename_i hholds
    refine single finding fun found => ?_
    rw [hone, and_iff_right hholds]
  · rename_i hfails
    exact nothing fun found hproblem hspot => hfails ((hone found).mp ⟨hproblem, hspot⟩).1

theorem append (hfirst : story.Finds part issues) (hsecond : story.Finds other more)
    (hbefore : ∀ spot later, part spot → other later → spot.Before later) :
    story.Finds (fun spot => part spot ∨ other spot) (issues ++ more) := by
  obtain ⟨found, rfl, hsorted, hmem⟩ := hfirst
  obtain ⟨rest, rfl, hsorted', hmem'⟩ := hsecond
  refine ⟨found ++ rest, List.map_append, ?_, ?_⟩
  · refine List.pairwise_append.mpr ⟨hsorted, hsorted', ?_⟩
    intro finding hfinding later hlater
    exact hbefore _ _ ((hmem finding).mp hfinding).2 ((hmem' later).mp hlater).2
  · intro finding
    rw [List.mem_append, hmem, hmem', ← and_or_left]

theorem congr (hfinds : story.Finds part issues)
    (hsame : ∀ finding, story.Problem finding → (part finding.spot ↔ other finding.spot)) :
    story.Finds other issues := by
  obtain ⟨found, hissues, hsorted, hmem⟩ := hfinds
  refine ⟨found, hissues, hsorted, fun finding => ?_⟩
  rw [hmem]
  exact and_congr_right (hsame finding)

theorem flatMap {α : Type} {items : List α} {report : α → List Issue}
    (parts : α → Spot → Prop)
    (hfinds : ∀ item ∈ items, story.Finds (parts item) (report item))
    (hbefore : items.Pairwise fun item later => ∀ spot next,
      parts item spot → parts later next → spot.Before next) :
    story.Finds (fun spot => ∃ item ∈ items, parts item spot) (items.flatMap report) := by
  induction items with
  | nil => exact nothing fun finding _ hpart => by simp at hpart
  | cons item rest ih =>
      obtain ⟨hitem, hrest⟩ := List.pairwise_cons.mp hbefore
      have hfirst := hfinds item (List.mem_cons_self ..)
      have hothers := ih (fun later hlater => hfinds later (List.mem_cons_of_mem item hlater)) hrest
      rw [List.flatMap_cons]
      refine (hfirst.append hothers ?_).congr ?_
      · rintro spot next hspot ⟨later, hlater, hnext⟩
        exact hitem later hlater spot next hspot hnext
      · intro finding _
        rw [List.exists_mem_cons_iff]

theorem stage {n : Nat} (hfinds : story.Finds (fun spot => spot.stage < n) issues)
    (hmore : story.Finds (fun spot => spot.stage = n) more) :
    story.Finds (fun spot => spot.stage < n + 1) (issues ++ more) := by
  refine (hfinds.append hmore ?_).congr ?_
  · intro spot later hspot hlater
    exact Or.inl (hlater ▸ hspot)
  · intro finding _
    exact Nat.lt_succ_iff_lt_or_eq.symm

end Finds

theorem HasChoice.unique {name : String} {index : Nat} {choice held : Choice}
    (hchoice : story.HasChoice name index choice) (hheld : story.HasChoice name index held) :
    held = choice := by
  obtain ⟨scene, hscene, hplace⟩ := hchoice
  obtain ⟨other, hother, hplace'⟩ := hheld
  rw [hscene] at hother
  obtain rfl := Option.some.inj hother
  rw [hplace] at hplace'
  exact (Option.some.inj hplace').symm

section

variable {name : String} {index : Nat} {choice : Choice}

theorem finds_label (hchoice : story.HasChoice name index choice) :
    story.Finds (· = .label name index)
      (if Text.isBlank choice.text then [.blankLabel name index] else []) := by
  refine .ite ⟨.label name index, .error, .blankLabel name index⟩ fun found => ?_
  constructor
  · rintro ⟨hproblem, hspot⟩
    cases hproblem with
    | blankLabel hheld hblank =>
        cases hspot
        exact ⟨hchoice.unique hheld ▸ hblank, rfl⟩
    | _ => cases hspot
  · rintro ⟨hblank, rfl⟩
    exact ⟨.blankLabel hchoice hblank, rfl⟩

theorem finds_target (hchoice : story.HasChoice name index choice) :
    story.Finds (· = .target name index)
      (if Text.isBlank choice.next then [.blankTarget name index]
      else if story.hasScene choice.next then []
      else [.missingTarget name choice.text choice.next]) := by
  -- The one spot of a target may hold either of two problems, but never both of them.
  have hwhole : ∀ found, story.Problem found ∧ found.spot = .target name index ↔
      (Text.isBlank choice.next = true ∧
        found = ⟨.target name index, .error, .blankTarget name index⟩) ∨
      (Text.isBlank choice.next = false ∧ story.hasScene choice.next = false ∧
        found = ⟨.target name index, .warning,
          .missingTarget name choice.text choice.next⟩) := by
    intro found
    constructor
    · rintro ⟨hproblem, hspot⟩
      cases hproblem with
      | blankTarget hheld hblank =>
          cases hspot
          exact Or.inl ⟨hchoice.unique hheld ▸ hblank, rfl⟩
      | missingTarget hheld hblank hmissing =>
          cases hspot
          obtain rfl := hchoice.unique hheld
          exact Or.inr ⟨hblank, hmissing, rfl⟩
      | _ => cases hspot
    · rintro (⟨hblank, rfl⟩ | ⟨hblank, hmissing, rfl⟩)
      · exact ⟨.blankTarget hchoice hblank, rfl⟩
      · exact ⟨.missingTarget hchoice hblank hmissing, rfl⟩
  cases hblank : Text.isBlank choice.next with
  | true =>
      refine .single ⟨.target name index, .error, .blankTarget name index⟩ fun found => ?_
      simp [hwhole, hblank]
  | false =>
      cases hthere : story.hasScene choice.next with
      | true =>
          refine .nothing fun found hproblem hspot => ?_
          simpa [hblank, hthere] using (hwhole found).mp ⟨hproblem, hspot⟩
      | false =>
          refine .single ⟨.target name index, .warning,
            .missingTarget name choice.text choice.next⟩ fun found => ?_
          simp [hwhole, hblank, hthere]

theorem finds_choiceIssues (hchoice : story.HasChoice name index choice) :
    story.Finds (fun spot => spot = .label name index ∨ spot = .target name index)
      (story.choiceIssues name choice index) := by
  refine (finds_label hchoice).append (finds_target hchoice) ?_
  rintro spot later rfl rfl
  simp [Spot.Before, Spot.stage, Spot.scene, Spot.place]

end

theorem finds_id : story.Finds (·.stage = 0)
    (if Text.isBlank story.id then [.blankId] else []) := by
  refine .ite ⟨.id, .error, .blankId⟩ fun found => ?_
  constructor
  · rintro ⟨hproblem, hspot⟩
    cases hproblem with
    | blankId hblank => exact ⟨hblank, rfl⟩
    | _ => cases hspot
  · rintro ⟨hblank, rfl⟩
    exact ⟨.blankId hblank, rfl⟩

theorem finds_start : story.Finds (·.stage = 1)
    (if story.hasScene story.start then [] else [.missingStart story.start]) := by
  rw [← ite_not]
  refine .ite ⟨.start, .error, .missingStart story.start⟩ fun found => ?_
  rw [Bool.not_eq_true]
  constructor
  · rintro ⟨hproblem, hspot⟩
    cases hproblem with
    | missingStart hmissing => exact ⟨hmissing, rfl⟩
    | _ => cases hspot
  · rintro ⟨hmissing, rfl⟩
    exact ⟨.missingStart hmissing, rfl⟩

theorem Problem.exists_choice (hproblem : story.Problem finding) (hstage : finding.spot.stage = 2) :
    ∃ name index choice, story.HasChoice name index choice ∧
      (finding.spot = .label name index ∨ finding.spot = .target name index) := by
  cases hproblem with
  | blankLabel hchoice => exact ⟨_, _, _, hchoice, Or.inl rfl⟩
  | blankTarget hchoice => exact ⟨_, _, _, hchoice, Or.inr rfl⟩
  | missingTarget hchoice => exact ⟨_, _, _, hchoice, Or.inr rfl⟩
  | _ => cases hstage

theorem finds_sceneIssues {name : String} {scene : Scene}
    (hscene : story.scene? name = some scene) :
    story.Finds (fun spot => spot.stage = 2 ∧ spot.scene = name)
      (story.sceneIssues name scene) := by
  have hplace : ∀ item ∈ scene.choices.zipIdx, story.HasChoice name item.2 item.1 := by
    rintro ⟨choice, index⟩ hmem
    exact ⟨scene, hscene, List.mem_zipIdx_iff_getElem?.mp hmem⟩
  have hsorted : scene.choices.zipIdx.Pairwise fun item later => item.2 < later.2 := by
    rw [← List.pairwise_map, List.zipIdx_map_snd]
    exact List.pairwise_lt_range'
  refine (Finds.flatMap _ (fun item hitem => finds_choiceIssues (hplace item hitem)) ?_).congr ?_
  · refine hsorted.imp fun hless spot next hspot hnext => ?_
    rcases hspot with rfl | rfl <;> rcases hnext with rfl | rfl <;>
      refine Or.inr ⟨rfl, Or.inr ⟨rfl, ?_⟩⟩ <;> simp only [Spot.place] <;> omega
  · intro finding hproblem
    constructor
    · rintro ⟨item, -, hspot | hspot⟩ <;> rw [hspot] <;> exact ⟨rfl, rfl⟩
    · rintro ⟨hstage, hthere⟩
      obtain ⟨other, index, choice, ⟨held, hheld, hchoice⟩, hspot⟩ := hproblem.exists_choice hstage
      obtain rfl : other = name := by
        rcases hspot with hspot | hspot <;> rw [hspot] at hthere <;> exact hthere
      rw [hscene] at hheld
      obtain rfl := Option.some.inj hheld
      exact ⟨(choice, index), List.mem_zipIdx_iff_getElem?.mpr hchoice, hspot⟩

theorem finds_scenes : story.Finds (·.stage = 2)
    (story.scenes.entries.flatMap fun (name, scene) => story.sceneIssues name scene) := by
  refine (Finds.flatMap (fun entry spot => spot.stage = 2 ∧ spot.scene = entry.1) ?_ ?_).congr ?_
  · rintro ⟨name, scene⟩ hentry
    exact finds_sceneIssues (Dict.find?_eq_some_iff.mpr hentry)
  · refine story.scenes.sorted.imp fun hless spot next hspot hnext => Or.inr ?_
    rw [hspot.1, hspot.2, hnext.1, hnext.2]
    exact ⟨rfl, Or.inl hless⟩
  · intro finding hproblem
    constructor
    · rintro ⟨entry, -, hstage, -⟩
      exact hstage
    · intro hstage
      obtain ⟨name, index, choice, ⟨scene, hscene, -⟩, hspot⟩ := hproblem.exists_choice hstage
      refine ⟨(name, scene), Dict.find?_eq_some_iff.mp hscene, hstage, ?_⟩
      rcases hspot with hspot | hspot <;> rw [hspot] <;> rfl

theorem finds_ways : story.Finds (·.stage = 3)
    (if story.hasScene story.start then
      (story.scenes.keys.filter (· ∉ story.reachable)).map .unreachable
    else []) := by
  split
  · rename_i hstart
    refine ⟨(story.scenes.keys.filter (· ∉ story.reachable)).map fun name =>
      ⟨.way name, .warning, .unreachable name⟩, ?_, ?_, ?_⟩
    · rw [List.map_map]
      rfl
    · refine List.pairwise_map.mpr ((story.scenes.keys_sorted.filter _).imp fun hless => Or.inr ?_)
      exact ⟨rfl, Or.inl hless⟩
    · intro finding
      simp only [List.mem_map, List.mem_filter, decide_eq_true_eq, mem_unreached_iff]
      constructor
      · rintro ⟨name, ⟨hthere, hchain⟩, rfl⟩
        exact ⟨.unreachable hstart hthere hchain, rfl⟩
      · rintro ⟨hproblem, hspot⟩
        cases hproblem with
        | unreachable _ hthere hchain => exact ⟨_, ⟨hthere, hchain⟩, rfl⟩
        | _ => cases hspot
  · rename_i hstart
    refine .nothing fun found hproblem hspot => ?_
    cases hproblem with
    | unreachable hthere => exact hstart hthere
    | _ => cases hspot

theorem finds_shareCode : story.Finds (·.stage = 4)
    (if story.visibility = .listed ∧ story.shareCode.isSome then [.listedWithCode] else []) := by
  refine .ite ⟨.shareCode, .warning, .listedWithCode⟩ fun found => ?_
  constructor
  · rintro ⟨hproblem, hspot⟩
    cases hproblem with
    | listedWithCode hlisted hcode => exact ⟨⟨hlisted, hcode⟩, rfl⟩
    | _ => cases hspot
  · rintro ⟨⟨hlisted, hcode⟩, rfl⟩
    exact ⟨.listedWithCode hlisted hcode, rfl⟩

theorem finds_issues (story : Story) : story.Finds (fun _ => True) story.issues := by
  have hfirst : story.Finds (·.stage < 1) _ :=
    finds_id.congr fun finding _ => Nat.lt_one_iff.symm
  have hall := (((hfirst.stage finds_start).stage finds_scenes).stage finds_ways).stage
    finds_shareCode
  refine hall.congr fun finding _ => iff_true_intro ?_
  cases finding.spot <;> simp [Spot.stage]

/-- Whether a list of problems tells of everything that is found in a story: errors before warnings,
and otherwise in the order of the spots. -/
structure Reports (story : Story) (found : List Finding) (issues : List Issue) : Prop where
  complete : ∀ finding, finding ∈ found ↔ story.Problem finding
  ordered : found.Pairwise Finding.Precedes
  issues_eq : issues = found.map (·.issue)
  /-- Each problem is as bad as what is found. -/
  severity_eq : ∀ finding ∈ found, finding.issue.severity = finding.severity

theorem Reports.unique {found rest : List Finding} (hreports : story.Reports found issues)
    (hother : story.Reports rest more) : issues = more := by
  have hsame : found = rest := hreports.ordered.eq_of_mem_iff hother.ordered fun finding =>
    (hreports.complete finding).trans (hother.complete finding).symm
  rw [hreports.issues_eq, hother.issues_eq, hsame]

theorem exists_reports_check (story : Story) : ∃ found, story.Reports found story.check := by
  obtain ⟨found, hissues, hsorted, hmem⟩ := story.finds_issues
  have hproblem : ∀ finding, finding ∈ Finding.errorsFirst found ↔ story.Problem finding := by
    intro finding
    rw [Finding.mem_errorsFirst, hmem, and_iff_left trivial]
  have hsevere : ∀ finding ∈ Finding.errorsFirst found,
      finding.issue.severity = finding.severity :=
    fun finding hfinding => ((hproblem finding).mp hfinding).severity_eq
  refine ⟨Finding.errorsFirst found, hproblem, Finding.pairwise_errorsFirst hsorted, ?_, hsevere⟩
  rw [check_eq, errors_eq, ← hissues, Finding.map_errorsFirst]
  exact fun finding hfinding => hsevere finding (Finding.mem_errorsFirst.mpr hfinding)

theorem mem_issues_iff_problem {issue : Issue} :
    issue ∈ story.issues ↔ ∃ finding, story.Problem finding ∧ finding.issue = issue := by
  obtain ⟨found, hissues, -, hmem⟩ := story.finds_issues
  simp only [← hissues, List.mem_map, hmem, and_true]

theorem errors_ne_nil_iff :
    story.errors ≠ [] ↔ ∃ finding, story.Problem finding ∧ finding.severity = .error := by
  constructor
  · intro hsome
    obtain ⟨issue, hissue⟩ := List.exists_mem_of_ne_nil _ hsome
    rw [errors_eq, List.mem_filter] at hissue
    obtain ⟨hmem, hbad⟩ := hissue
    obtain ⟨finding, hproblem, rfl⟩ := mem_issues_iff_problem.mp hmem
    exact ⟨finding, hproblem, hproblem.severity_eq.symm.trans (of_decide_eq_true hbad)⟩
  · rintro ⟨finding, hproblem, hbad⟩
    have hmem : finding.issue ∈ story.issues :=
      mem_issues_iff_problem.mpr ⟨finding, hproblem, rfl⟩
    rw [errors_eq]
    exact List.ne_nil_of_mem
      (List.mem_filter.mpr ⟨hmem, decide_eq_true (hproblem.severity_eq.trans hbad)⟩)

/-- Just one list of problems reports on a story, which is what the check of it gives; and a story
is refused just when there is an error in it. -/
theorem check_reports (story : Story) :
    (∀ issues, (∃ found, story.Reports found issues) ↔ issues = story.check) ∧
      ((∃ error, story.ensureValid = .error error) ↔
        ∃ finding, story.Problem finding ∧ finding.severity = .error) := by
  constructor
  · intro issues
    obtain ⟨found, hcheck⟩ := story.exists_reports_check
    constructor
    · rintro ⟨other, hreports⟩
      exact hreports.unique hcheck
    · rintro rfl
      exact ⟨found, hcheck⟩
  · simp only [ensureValid_eq_error_iff, exists_and_left, exists_eq, and_true, errors_ne_nil_iff]

/-- A story that goes round in a ring, with two choices into the void, a scene of its own beside it,
and a choice without a label. -/
def maze : Story :=
  let start : Scene := ⟨"A fork.", [⟨"Left", "left", none⟩, ⟨"Jump", "void", none⟩,
    ⟨"Jump", "void", none⟩]⟩
  let left : Scene := ⟨"A bend.", [⟨"Wait", "left", none⟩, ⟨"Back", defaultStart, none⟩]⟩
  let alone : Scene := ⟨"Nobody comes here.", [⟨" ", "alone", none⟩]⟩
  (((fresh "maze" "The Maze" "").putScene defaultStart start).putScene "left" left).putScene
    "alone" alone

example : maze.check =
    [.blankLabel "alone" 0, .missingTarget "start" "Jump" "void",
      .missingTarget "start" "Jump" "void", .unreachable "alone"] := by
  rw [check_eq, errors_eq]
  decide +kernel

end Story

end Gamebook
