import Gamebook.Proofs.Library.ChoicePlaces

namespace Gamebook

open FileAction

/-- Whether the names of the items and stats that a requirement asks for are not blank. -/
structure Requirement.IsNamed (requirement : Requirement) : Prop where
  items : ∀ item ∈ requirement.items, Text.isBlank item = false
  stats : ∀ stat ∈ requirement.stats.keys, Text.isBlank stat = false

theorem Requirement.isNamed_none : none.IsNamed :=
  ⟨fun _ hitem => absurd hitem List.not_mem_nil, fun _ hstat => absurd hstat List.not_mem_nil⟩

theorem Dict.mem_keys_insert {α : Type} {table : Dict α} {key other : String} {value : α} :
    other ∈ (table.insert key value).keys ↔ key = other ∨ other ∈ table.keys := by
  rw [← contains_eq_true_iff, ← contains_eq_true_iff, contains, contains, find?_insert]
  split <;> simp [*]

namespace Story

/-- Whether no name in a story is blank, apart from those that gates ask for. -/
structure HasNames (story : Story) : Prop where
  scenes : ∀ name ∈ story.scenes.keys, Text.isBlank name = false
  targets : story.ChoicesAre fun _ next => Text.isBlank next = false
  items : ∀ item ∈ story.inventory.items, Text.isBlank item = false
  stats : ∀ stat ∈ story.stats.values.keys, Text.isBlank stat = false

/-- Whether no name in a story is blank. -/
structure IsNamed (story : Story) : Prop extends story.HasNames where
  gates : ∀ name place choice requirement, story.HasChoice name place choice →
    choice.requirement = some requirement → requirement.IsNamed

variable {before after story : Story} {name : String} {scene : Scene}

theorem mem_keys_scenes_iff : name ∈ story.scenes.keys ↔ ∃ scene, story.scene? name = some scene :=
  Dict.contains_eq_true_iff.symm.trans hasScene_iff

theorem isNamed_fresh (id title text : String) : (fresh id title text).IsNamed := by
  constructor
  · constructor
    · intro name hname
      rcases Dict.mem_keys_insert.mp hname with rfl | hnone
      · decide
      · cases hnone
    · exact choicesAre_fresh _ id title text
    · intro item hitem
      cases hitem
    · intro stat hstat
      cases hstat
  · intro name place choice requirement hchoice
    rw [← choice?_eq_some_iff, choice?_fresh] at hchoice
    cases hchoice

theorem HasNames.of_differsAt (hnames : before.HasNames)
    (hdiffers : before.DiffersAt after name scene) (hname : Text.isBlank name = false)
    (htargets : after.ChoicesAre fun _ next => Text.isBlank next = false) : after.HasNames := by
  have hrest := hdiffers.rest
  refine ⟨?_, htargets, ?_, ?_⟩
  · intro other hother
    by_cases hsame : other = name
    · rw [hsame]
      exact hname
    · rw [mem_keys_scenes_iff, hdiffers.others other hsame, ← mem_keys_scenes_iff] at hother
      exact hnames.scenes other hother
  · rw [hrest]
    exact hnames.items
  · rw [hrest]
    exact hnames.stats

end Story

namespace StoryEdit

variable {before after : Story} {edit : StoryEdit} {answer : edit.Answer}

theorem Makes.hasNames (hmakes : edit.Makes before after answer) (hnamed : edit.IsNamed)
    (hnames : before.HasNames) : after.HasNames := by
  have htargets : after.ChoicesAre fun _ next => Text.isBlank next = false := by
    refine hmakes.choicesAre ?_ hnames.targets
    rintro scene text next rfl
    exact hnamed.2
  cases edit with
  | addScene name =>
      rw [Makes] at hmakes
      split at hmakes
      · exact hnames.of_differsAt hmakes.1 hnamed htargets
      · rw [hmakes.1]
        exact hnames
  | setSceneText name text => exact hnames.of_differsAt hmakes hnamed htargets
  | addChoice name text next =>
      obtain ⟨old, scene, -, hstory, -⟩ := hmakes
      exact hnames.of_differsAt hstory hnamed.1 htargets
  | setRequirement name index requirement =>
      obtain ⟨old, gated, scene, hold, -, hstory, -⟩ := hmakes
      have hname := hnames.scenes name (Story.mem_keys_scenes_iff.mpr ⟨old, hold⟩)
      exact hnames.of_differsAt hstory hname htargets
  | setInitialStat stat value =>
      obtain rfl := makes_setInitialStat.mp hmakes
      refine ⟨hnames.scenes, htargets, hnames.items, ?_⟩
      intro other hother
      rcases Dict.mem_keys_insert.mp hother with rfl | hother
      · exact hnamed
      · exact hnames.stats other hother
  | addInitialItem item =>
      obtain ⟨hrest, -, hitems, -⟩ := hmakes
      rw [hrest] at htargets ⊢
      refine ⟨hnames.scenes, htargets, ?_, hnames.stats⟩
      intro other hother
      rw [hitems] at hother
      rcases List.mem_append.mp hother with hother | hother
      · exact hnames.items other hother
      · split at hother
        · rw [List.mem_singleton.mp hother]
          exact hnamed
        · cases hother

theorem Makes.isNamed (hmakes : edit.Makes before after answer) (hnamed : edit.IsNamed)
    (hgate : ∀ scene place requirement, edit = .setRequirement scene place requirement →
      requirement.IsNamed)
    (hbefore : before.IsNamed) : after.IsNamed := by
  refine ⟨hmakes.hasNames hnamed hbefore.toHasNames, ?_⟩
  intro name place choice requirement hchoice hasked
  have hgates : ∀ old, before.choice? name place = some old →
      old.requirement = some requirement → requirement.IsNamed := by
    intro old hold
    exact hbefore.gates name place old requirement (Story.choice?_eq_some_iff.mp hold)
  rw [← Story.choice?_eq_some_iff, hmakes.choice?_eq] at hchoice
  cases edit with
  | addChoice scene text next =>
      rw [choiceAfter] at hchoice
      split at hchoice
      · cases hchoice
        cases hasked
      · exact hgates choice hchoice hasked
  | setRequirement scene index asked =>
      rw [choiceAfter] at hchoice
      split at hchoice
      · obtain ⟨old, -, rfl⟩ := Option.map_eq_some_iff.mp hchoice
        rw [Choice.gatedBy] at hasked
        split at hasked
        · cases hasked
        · cases hasked
          exact hgate scene index requirement rfl
      · exact hgates choice hchoice hasked
  | _ => exact hgates choice hchoice hasked

theorem Makes.isNamed_of_setRequirement {scene : String} {place : Nat} {requirement : Requirement}
    (hmakes : Makes before after (.setRequirement scene place requirement) ())
    (hafter : after.IsNamed) : requirement.IsNamed := by
  by_cases hnone : requirement = .none
  · rw [hnone]
    exact Requirement.isNamed_none
  · obtain ⟨old, gated, made, -, -, hstory, hscene⟩ := hmakes
    rw [if_neg hnone] at hscene
    exact hafter.gates scene place _ requirement ⟨made, hstory.scene_eq, hscene.choice_eq⟩ rfl

end StoryEdit

/-- Whether all stories on a shelf are of some kind. -/
def Shelf.StoriesAre (P : Story → Prop) (shelf : Shelf) : Prop :=
  ∀ scope id story, shelf.stories scope id = some story → P story

theorem Shelf.StoriesAre.put {P : Story → Prop} {shelf : Shelf} {scope : Visibility} {story : Story}
    (hstories : shelf.StoriesAre P) (hstory : P story) : (shelf.put scope story).StoriesAre P := by
  intro other id held hheld
  rcases stories_put_cases hheld with ⟨-, -, rfl⟩ | ⟨-, hheld⟩
  · exact hstory
  · exact hstories other id held hheld

/-- What holds of new stories, is kept by the edits that are called for, and depends neither on the
visibility of a story nor on its share code, holds of all stories that authors make. -/
theorem AuthorCall.Makes.storiesAre {P : Story → Prop} {before after : Shelf} {call : AuthorCall}
    {answer : call.Answer} (hmakes : call.Makes before after answer)
    (hfresh : ∀ id title, P (Story.fresh id title Story.emptyStartText))
    (hpublished : ∀ story scope code, P story →
      P { story with visibility := scope, shareCode := code })
    (hedit : ∀ id edit draft changed answer, call = .edit id edit → edit.IsNamed →
      edit.Makes draft changed answer → P draft → P changed)
    (hbefore : before.StoriesAre P) : after.StoriesAre P := by
  cases call with
  | createStory id title =>
      obtain ⟨-, -, rfl, rfl⟩ := hmakes
      exact hbefore.put (hfresh id title)
  | edit id change =>
      obtain ⟨draft, changed, hdraft, hnamed, hmade, rfl⟩ := hmakes
      exact hbefore.put
        (hedit id change draft changed answer rfl hnamed hmade (hbefore _ _ _ hdraft))
  | publish id scope candidates =>
      cases scope with
      | listed =>
          obtain ⟨draft, hdraft, -, rfl⟩ := hmakes
          exact hbefore.put (hpublished draft .listed none (hbefore _ _ _ hdraft))
      | unlisted =>
          obtain ⟨draft, code, hdraft, -, -, -, rfl⟩ := hmakes
          exact hbefore.put (hpublished draft .unlisted (some code) (hbefore _ _ _ hdraft))
  | check id =>
      obtain ⟨draft, -, -, rfl⟩ := hmakes
      exact hbefore

namespace Library

variable {library : Library} {shelf : Shelf} {calls : List AuthorCall} {top : Entry}

/-- Whether every file of a story, listed or not, holds a story of some kind. -/
def HoldsStories (P : Story → Prop) (library : Library) (top : Entry) : Prop :=
  ∀ scope id content, top.contents (library.storyFile scope id) = .ok content →
    ∃ text story, content = .text text ∧ Story.read text = .ok story ∧ P story

theorem HoldsStories.of_contents {P : Story → Prop} {scope : Visibility} {id : String}
    {story : Story} (hholds : library.HoldsStories P top)
    (hcontents : top.contents (library.storyFile scope id) =
      .ok (.text (story.write ++ "\n"))) : P story := by
  obtain ⟨text, held, htext, hread, hheld⟩ := hholds scope id _ hcontents
  obtain rfl := Content.text.inj htext
  obtain rfl := Except.ok.inj ((Story.read_write_line story).symm.trans hread)
  exact hheld

theorem Keeps.holdsStories_iff {P : Story → Prop} (hkeeps : library.Keeps shelf top) :
    library.HoldsStories P top ↔ shelf.StoriesAre P := by
  constructor
  · intro hholds scope id story hstory
    exact hholds.of_contents ((hkeeps.stories scope id _).mpr ⟨story, hstory, rfl⟩)
  · intro hstories scope id content hcontents
    obtain ⟨story, hstory, rfl⟩ := (hkeeps.stories scope id content).mp hcontents
    exact ⟨_, story, rfl, Story.read_write_line story, hstories scope id story hstory⟩

theorem HoldsStories.of_drafts {P : Story → Prop} {story : Story}
    (hholds : library.HoldsStories P top) (hdrafts : library.Drafts story top) : P story := by
  have hwritten := hdrafts.written
  rw [names_storyFile _ _ hdrafts.key] at hwritten
  exact hholds.of_contents hwritten

theorem IsEmpty.holdsNames (hempty : library.IsEmpty top) (calls : List AuthorCall) :
    library.HoldsStories Story.HasNames (library.afterCalls top calls) := by
  have hstart : Shelf.empty.StoriesAre Story.HasNames := by
    rintro scope id story ⟨⟩
  have hstep : ∀ call ∈ calls, ∀ answer before next, AuthorCall.Makes before next call answer →
      before.StoriesAre Story.HasNames → next.StoriesAre Story.HasNames := by
    intro call _ answer before next hmakes
    refine hmakes.storiesAre (fun id title => (Story.isNamed_fresh id title _).toHasNames) ?_ ?_
    · intro story scope code hnames
      exact ⟨hnames.scenes, hnames.targets, hnames.items, hnames.stats⟩
    · intro id edit draft changed answer _ hnamed hmade hdraft
      exact hmade.hasNames hnamed hdraft
  obtain ⟨shelf, hkeeps, hnames⟩ := hempty.keeps.afterCalls hstep hstart
  exact hkeeps.holdsStories_iff.mpr hnames

/-- Whether none of the gates that were set by some calls asks for a blank name. -/
def GatesNamed (library : Library) (top : Entry) (calls : List AuthorCall) : Prop :=
  ∀ id scene place requirement,
    library.Answers top calls (.edit id (.setRequirement scene place requirement)) () →
      requirement.IsNamed

theorem IsEmpty.exists_shelf_named (hempty : library.IsEmpty top)
    (hgates : library.GatesNamed top calls) :
    ∃ shelf, library.Keeps shelf (library.afterCalls top calls) ∧
      shelf.StoriesAre Story.IsNamed := by
  induction calls using List.reverseRecOn with
  | nil =>
      refine ⟨.empty, hempty.keeps, ?_⟩
      rintro scope id story ⟨⟩
  | append_singleton calls call ih =>
      obtain ⟨last, hlast, hnamed⟩ := ih fun id scene place requirement hanswers =>
        hgates id scene place requirement (answers_concat.mpr (Or.inl hanswers))
      rw [afterCalls_concat]
      rcases hlast.afterCall call with ⟨-, -, hsame⟩ | ⟨answer, made, hrun, hmakes, hmade⟩
      · exact ⟨last, hsame, hnamed⟩
      · refine ⟨made, hmade, hmakes.storiesAre (fun id title => Story.isNamed_fresh id title _)
          ?_ ?_ hnamed⟩
        · intro story scope code hstory
          exact ⟨⟨hstory.scenes, hstory.targets, hstory.items, hstory.stats⟩, hstory.gates⟩
        · rintro id edit draft changed made rfl hchecked hmade hdraft
          refine hmade.isNamed hchecked ?_ hdraft
          rintro scene place requirement rfl
          exact hgates id scene place requirement
            (answers_concat.mpr (Or.inr ⟨rfl, congrArg Prod.fst hrun⟩))

theorem names_stand_iff (hempty : library.IsEmpty top) (calls : List AuthorCall) :
    library.HoldsStories Story.HasNames (library.afterCalls top calls) ∧
    ((∀ earlier later, calls = earlier ++ later →
        library.HoldsStories Story.IsNamed (library.afterCalls top earlier)) ↔
      library.GatesNamed top calls) := by
  refine ⟨hempty.holdsNames calls, ?_, ?_⟩
  · rintro hnamed id scene place requirement ⟨earlier, later, rfl, hrun⟩
    obtain ⟨shelf, hkeeps, -⟩ := hempty.exists_shelf earlier
    obtain ⟨next, ⟨draft, changed, -, -, hmade, rfl⟩, hnext⟩ :=
      hkeeps.performEdit (.setRequirement scene place requirement) (run_eq_of_fst hrun)
    have hholds := hnamed (earlier ++ [.edit id (.setRequirement scene place requirement)]) later
      (by simp)
    rw [afterCalls_concat] at hholds
    have hstories := hnext.holdsStories_iff.mp hholds
    exact hmade.isNamed_of_setRequirement (hstories _ _ _ (Shelf.stories_put_self ..))
  · rintro hgates earlier later rfl
    have hearlier : library.GatesNamed top earlier := by
      rintro id scene place requirement ⟨before, after, rfl, hrun⟩
      exact hgates id scene place requirement ⟨before, after ++ later, by simp, hrun⟩
    obtain ⟨shelf, hkeeps, hnamed⟩ := hempty.exists_shelf_named hearlier
    exact hkeeps.holdsStories_iff.mpr hnamed

end Library

theorem names_stand_locking :
    Library.here.HoldsStories Story.IsNamed
      (Library.here.afterCalls (.folder []) (diggings ++ [waiting, locking])) := by
  obtain ⟨-, hiff⟩ := Library.names_stand_iff isEmpty_here (diggings ++ [waiting, locking])
  refine hiff.mpr ?_ _ [] (List.append_nil _).symm
  rintro id scene place requirement ⟨earlier, later, hcalls, -⟩
  have hcall : .edit id (.setRequirement scene place requirement) ∈
      diggings ++ [waiting, locking] := by
    rw [hcalls]
    exact List.mem_append_cons_self
  obtain ⟨-, -, rfl⟩ : id = "cave" ∧ (scene = Story.defaultStart ∧ place = 0) ∧
      requirement = ⟨["Key"], ∅⟩ := by
    simpa [diggings, waiting, locking, and_assoc] using hcall
  exact ⟨by decide, by decide⟩

/-- The edits that offer a choice to those alone who hold an item with a blank name. -/
def blankLocking : List StoryEdit :=
  [.addChoice Story.defaultStart "Wait" Story.defaultStart,
    .setRequirement Story.defaultStart 0 ⟨[" "], ∅⟩]

/-- A gate can be set that asks for an item with a blank name. -/
theorem exists_blank_name :
    ∃ draft,
      (Library.here.readStory "cave" .unlisted).run
          (Library.here.afterCalls (.folder []) (diggings ++ blankLocking.map (.edit "cave"))) =
        (.ok draft,
          Library.here.afterCalls (.folder []) (diggings ++ blankLocking.map (.edit "cave"))) ∧
      draft.HasChoice Story.defaultStart 0 ⟨"Wait", Story.defaultStart, some ⟨[" "], ∅⟩⟩ ∧
      ¬Library.here.HoldsStories Story.IsNamed
        (Library.here.afterCalls (.folder []) (diggings ++ blankLocking.map (.edit "cave"))) := by
  rw [Library.afterCalls_append]
  obtain ⟨hdrafts, -⟩ := drafts_dugOut.afterCalls rfl blankLocking
  have hchoice : (blankLocking.foldl Story.called Story.dug).HasChoice Story.defaultStart 0
      ⟨"Wait", Story.defaultStart, some ⟨[" "], ∅⟩⟩ :=
    Story.choice?_eq_some_iff.mp (by decide)
  refine ⟨_, Library.readStory_eq_ok.mpr ⟨hdrafts.key, hdrafts.has, rfl⟩, hchoice, ?_⟩
  intro hholds
  have hnamed := hholds.of_drafts hdrafts
  have hblank := (hnamed.gates _ _ _ _ hchoice rfl).items " " (List.mem_singleton_self _)
  exact absurd hblank (by decide)

end Gamebook
