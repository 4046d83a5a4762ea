import Gamebook.Proofs.Commands.Playing
import Gamebook.Proofs.Play.Gates
import Gamebook.Proofs.Play.History

namespace Gamebook

namespace Scene

theorem choices_visit_eq_iff (scene : Scene) (state : PlayerState) :
    (scene.visit state).2.choices = scene.available state ↔
      ∀ choice ∈ scene.choices, choice.isAvailable (scene.visit state).1 = true →
        choice.isAvailable state = true := by
  constructor
  · intro hsame choice hmem hshown
    have hchoice : choice ∈ (scene.visit state).2.choices := List.mem_filter.mpr ⟨hmem, hshown⟩
    rw [hsame] at hchoice
    exact (List.mem_filter.mp hchoice).2
  · intro hclosed
    apply List.filter_congr
    intro choice hmem
    apply Bool.eq_iff_iff.mpr
    exact ⟨hclosed choice hmem, Choice.isAvailable_of_retains (scene.retains_visit state)⟩

end Scene

/-- Whether a number takes the choice that was shown with it: a choice that leads to a scene is
followed in the save, one that leads nowhere is refused for the scene that is missing, and a number
without a choice is refused with the count of those that were shown. -/
structure TakesShown (library : Library) (player : String) (story : Story) (saved : PlayerState)
    (shown : List Choice) (top : Entry) (now : Instant) (candidates : List String) (index : Nat) :
    Prop where
  follows : ∀ choice, shown[index]? = some choice → story.hasScene choice.next = true →
    ∃ turn after moved,
      ((library.setting player now candidates).takeChoice index).run top =
          (.ok (story, turn), after) ∧
        (library.setting player now candidates).current.run after = (.ok (story, moved), after) ∧
        moved.history = saved.history ++ [⟨saved.currentScene, choice.text⟩] ∧
        moved.currentScene = choice.next
  misses : ∀ choice, shown[index]? = some choice → story.hasScene choice.next = false →
    (((library.setting player now candidates).takeChoice index).run top).1 =
      .error (.play (.sceneNotFound choice.next))
  refuses : shown.length ≤ index →
    (((library.setting player now candidates).takeChoice index).run top).1 =
      .error (.play (.invalidChoice index shown.length))

/-- Whether a save is one whose choices are shown with the right numbers: the scene offers nothing
more by being shown, and the story is saved under the id that it is loaded by, unless no choice can
be taken. -/
structure IsFaithful (session : Session) (story : Story) (saved : PlayerState) (scene : Scene) :
    Prop where
  closed : ∀ choice ∈ scene.choices, choice.isAvailable (scene.visit saved).1 = true →
    choice.isAvailable saved = true
  same_id : session.storyId = story.id ∨
    ∀ choice ∈ scene.available saved, story.hasScene choice.next = false

theorem IsFaithful.of_settled {session : Session} {story : Story} {saved : PlayerState}
    {scene : Scene} (hscene : story.scene? saved.currentScene = some scene)
    (hsettled : story.Settled saved) (hid : session.storyId = story.id) :
    IsFaithful session story saved scene := by
  refine ⟨?_, Or.inl hid⟩
  intro choice _ hshown
  rwa [hsettled scene hscene] at hshown

section

variable {library : Library} {player : String} {now : Instant} {candidates : List String}
  {session : Session} {story : Story} {saved : PlayerState} {scene : Scene} {top after : Entry}
  {index : Nat}

theorem Playing.unique {other : Session} {story' : Story} {moved : PlayerState}
    (hplaying : Playing library player session story saved top)
    (hother : Playing library player other story' moved top) :
    other = session ∧ moved = saved := by
  have hplays : (library.setting player .epoch []).Plays session story saved top :=
    plays_iff.mpr hplaying
  exact hplays.unique (plays_iff.mpr hother)

theorem eq_saved_of_other_id (hplaying : Playing library player session story saved top)
    (hid : session.storyId ≠ story.id) {turn : Turn}
    (hrun : ((library.setting player now candidates).takeChoice index).run top =
      (.ok (story, turn), after)) {story' : Story} {moved : PlayerState}
    (hcurrent : (library.setting player now candidates).current.run after =
      (.ok (story', moved), after)) : moved = saved := by
  obtain ⟨found, state, hplays, -, hsave⟩ := Setting.takeChoice_eq_ok.mp hrun
  obtain ⟨rfl, rfl⟩ := hplaying.unique (plays_iff.mp hplays)
  obtain ⟨⟨other, hmoved⟩, -⟩ := current_eq_ok.mp hcurrent
  exact ((plays_iff.mp (hplays.of_other_id rfl hid hsave)).unique hmoved).2

theorem takesShown_of_isFaithful (hplaying : Playing library player session story saved top)
    (hscene : story.scene? saved.currentScene = some scene)
    (hfaithful : IsFaithful session story saved scene) (hnow : now.IsMoment) :
    TakesShown library player story saved (scene.visit saved).2.choices top now candidates
      index := by
  rw [(Scene.choices_visit_eq_iff scene saved).mpr hfaithful.closed]
  constructor
  · intro choice hoffered hleads
    obtain ⟨target, htarget⟩ := Story.hasScene_iff.mp hleads
    have hchoose := Story.choose_of_offered hscene hoffered
    rw [htarget] at hchoose
    have hid : session.storyId = story.id := by
      rcases hfaithful.same_id with hid | hnone
      · exact hid
      · have hmissing := hnone choice (List.mem_of_getElem? hoffered)
        rw [hleads] at hmissing
        cases hmissing
    obtain ⟨after, hrun, hnext⟩ := exists_takeChoice hplaying hid hnow hchoose candidates
    refine ⟨_, after, _, hrun, current_eq_ok.mpr ⟨⟨session, hnext⟩, rfl⟩, ?_, ?_⟩
    · exact Scene.history_visit target _
    · exact Scene.currentScene_visit target _
  · intro choice hoffered hmissing
    have hchoose := Story.choose_of_offered hscene hoffered
    rw [Story.hasScene_eq_false_iff.mp hmissing] at hchoose
    rw [run_takeChoice_of_error hplaying hchoose]
  · intro hindex
    rw [run_takeChoice_of_error hplaying (Story.choose_of_length_le hscene hindex)]

theorem isFaithful_of_takesShown (hplaying : Playing library player session story saved top)
    (hscene : story.scene? saved.currentScene = some scene)
    (htakes : ∀ index, TakesShown library player story saved (scene.visit saved).2.choices top now
      candidates index) : IsFaithful session story saved scene := by
  have hcount : (scene.visit saved).2.choices.length ≤ (scene.available saved).length := by
    have hrefused := Story.choose_of_length_le hscene (Nat.le_refl (scene.available saved).length)
    have hrun : ((library.setting player now candidates).takeChoice
        (scene.available saved).length).run top = _ := run_takeChoice_of_error hplaying hrefused
    by_contra hmore
    obtain ⟨choice, hchoice⟩ : ∃ choice,
        (scene.visit saved).2.choices[(scene.available saved).length]? = some choice :=
      ⟨_, List.getElem?_eq_getElem (by omega)⟩
    have hnumber := htakes (scene.available saved).length
    cases hleads : story.hasScene choice.next with
    | true =>
        obtain ⟨turn, after, moved, htaken, -⟩ := hnumber.follows choice hchoice hleads
        rw [hrun] at htaken
        cases htaken
    | false =>
        have hmissed := hnumber.misses choice hchoice hleads
        rw [hrun] at hmissed
        cases hmissed
  have hshown : (scene.visit saved).2.choices = scene.available saved :=
    ((scene.available_sublist_of_retains (scene.retains_visit saved)).eq_of_length_le hcount).symm
  refine ⟨(Scene.choices_visit_eq_iff scene saved).mp hshown, ?_⟩
  by_cases hid : session.storyId = story.id
  · exact Or.inl hid
  · right
    intro choice hmem
    by_contra hleads
    rw [Bool.not_eq_false] at hleads
    obtain ⟨index, hindex⟩ := List.getElem?_of_mem hmem
    obtain ⟨target, htarget⟩ := Story.hasScene_iff.mp hleads
    have hchoose := Story.choose_of_offered hscene hindex
    rw [htarget] at hchoose
    rw [← hshown] at hindex
    obtain ⟨turn, after, moved, hrun, hcurrent, hhistory, -⟩ :=
      (htakes index).follows choice hindex hleads
    have hsame := eq_saved_of_other_id hplaying hid hrun hcurrent
    rw [hsame] at hhistory
    simp at hhistory

end

theorem exists_playing_keyed (state : PlayerState) :
    ∃ top, Playing Library.here "ada" ⟨"cave", .listed⟩ Story.keyed state top := by
  obtain ⟨stored, saved, begun, hstored, hsave, hput⟩ := exists_files_keyed state
  have hplayer : isKey "ada" = true := by decide
  have hkey : isKey Story.keyed.id = true := by decide
  obtain ⟨-, -, hsaved⟩ := Library.saveProgress_eq_ok hsave
  obtain ⟨-, sessions, hsessions⟩ := Library.put_eq_ok hput
  refine ⟨begun, hplayer, hkey, Library.inSession_of_put hput, ?_, ?_⟩
  · refine Library.Offers.of_rewritten hsessions (Library.sessionsPath_ne_storyPath hkey) ?_
    exact (Library.offers_of_writeStory ensureValid_keyed hstored).of_rewritten hsaved
      (Library.savePath_ne_storyPath hplayer hkey hkey)
  · exact (Library.inProgress_of_saveProgress Instant.isMoment_epoch hsave).of_rewritten hsessions
      (Library.savePath_ne_sessionsPath hplayer hkey).symm

/-- A player in the scene of the key, without the key. -/
def keyless : PlayerState :=
  .begin Story.keyed "ada"

/-- A player who comes back to the scene after the key was laid there is shown two choices, and the
number of the second one is refused. -/
theorem exists_choice_not_taken :
    ∃ top turn,
      (Library.here.setting "ada" .epoch []).lookAgain.run top = (.ok (Story.keyed, turn), top) ∧
        turn.2.choices = keyScene.choices ∧
        (((Library.here.setting "ada" .epoch []).takeChoice 1).run top).1 =
          .error (.play (.invalidChoice 1 1)) ∧
        ¬TakesShown Library.here "ada" Story.keyed keyless turn.2.choices top .epoch [] 1 := by
  obtain ⟨top, hplaying⟩ := exists_playing_keyed keyless
  have hresume : Story.keyed.resume keyless = .ok (keyScene.visit keyless) := by decide +kernel
  have hshown : (keyScene.visit keyless).2.choices = keyScene.choices := by decide +kernel
  have hchoose : Story.keyed.choose keyless 1 = .error (.invalidChoice 1 1) := by decide +kernel
  have hlook : (Library.here.setting "ada" .epoch []).lookAgain.run top =
      (.ok (Story.keyed, keyScene.visit keyless), top) := by
    rw [run_lookAgain hplaying, hresume]
    rfl
  have hrefused : ((Library.here.setting "ada" .epoch []).takeChoice 1).run top =
      (.error (.play (.invalidChoice 1 1)), top) := run_takeChoice_of_error hplaying hchoose
  refine ⟨top, keyScene.visit keyless, hlook, hshown, by rw [hrefused], ?_⟩
  intro htakes
  have hchoice : (keyScene.visit keyless).2.choices[1]? =
      some ⟨"Wait", Story.defaultStart, none⟩ := by decide +kernel
  obtain ⟨turn, after, moved, htaken, -⟩ := htakes.follows _ hchoice (by decide +kernel)
  rw [hrefused] at htaken
  cases htaken

/-- When a player looks again, the numbers that are printed are the ones that the choices are taken
by, exactly if the save is faithful. -/
theorem takesShown_iff_isFaithful {library : Library} {player : String} {now : Instant}
    {candidates : List String} {story : Story} {turn : Turn} {top after : Entry}
    (hlook : (library.setting player now candidates).lookAgain.run top =
      (.ok (story, turn), after)) :
    ∃ session saved scene,
      Playing library player session story saved after ∧
      story.scene? saved.currentScene = some scene ∧
      ((∀ now candidates index, now.IsMoment →
          TakesShown library player story saved turn.2.choices after now candidates index) ↔
        IsFaithful session story saved scene) := by
  obtain ⟨session, saved, scene, hplaying, hscene, hturn⟩ := lookAgain_eq_ok hlook
  subst hturn
  refine ⟨session, saved, scene, hplaying, hscene, ?_⟩
  constructor
  · intro htakes
    exact isFaithful_of_takesShown hplaying hscene fun index =>
      htakes .epoch [] index Instant.isMoment_epoch
  · intro hfaithful now candidates index hnow
    exact takesShown_of_isFaithful hplaying hscene hfaithful hnow

theorem takesShown_keyed :
    ∃ top turn saved,
      (Library.here.setting "ada" .epoch []).lookAgain.run top = (.ok (Story.keyed, turn), top) ∧
        turn.2.choices = keyScene.choices ∧
        ∀ now candidates index, now.IsMoment →
          TakesShown Library.here "ada" Story.keyed saved turn.2.choices top now candidates
            index := by
  have hscene : Story.keyed.scene? keyless.currentScene = some keyScene := by decide
  obtain ⟨top, hplaying⟩ := exists_playing_keyed (keyScene.visit keyless).1
  have hagain : keyScene.visit (keyScene.visit keyless).1 = keyScene.visit keyless :=
    Scene.visit_visit keyScene keyless
  have hresume : Story.keyed.resume (keyScene.visit keyless).1 = .ok (keyScene.visit keyless) := by
    rw [Story.resume, Story.enter_eq, Scene.currentScene_visit, hscene]
    exact congrArg Except.ok hagain
  have hshown : (keyScene.visit keyless).2.choices = keyScene.choices := by decide +kernel
  have hlook : (Library.here.setting "ada" .epoch []).lookAgain.run top =
      (.ok (Story.keyed, keyScene.visit keyless), top) := by
    rw [run_lookAgain hplaying, hresume]
    rfl
  obtain ⟨session, saved, scene, hplaying', hscene', hiff⟩ := takesShown_iff_isFaithful hlook
  obtain ⟨rfl, rfl⟩ := hplaying.unique hplaying'
  refine ⟨top, keyScene.visit keyless, _, hlook, hshown, hiff.mpr ?_⟩
  exact IsFaithful.of_settled hscene' (Story.settled_visit hscene) rfl

end Gamebook
