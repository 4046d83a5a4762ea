import Gamebook.Proofs.Library.Drafting
import Gamebook.Proofs.Library.Order
import Gamebook.Proofs.Story.Places
import Mathlib.Data.List.Induction

namespace Gamebook

open FileAction

namespace Shelf

/-- The choice at a place of a scene of a draft. -/
def choice? (shelf : Shelf) (id scene : String) (place : Nat) : Option Choice :=
  (shelf.stories .unlisted id).bind fun draft => draft.choice? scene place

variable {shelf : Shelf} {id : String} {draft : Story}

theorem choice?_of_stories (hdraft : shelf.stories .unlisted id = some draft) (scene : String)
    (place : Nat) : shelf.choice? id scene place = draft.choice? scene place := by
  rw [choice?, hdraft]
  rfl

theorem choice?_put (shelf : Shelf) (story : Story) (id scene : String) (place : Nat) :
    (shelf.put .unlisted story).choice? id scene place =
      if story.id = id then story.choice? scene place else shelf.choice? id scene place := by
  split
  · rename_i hid
    rw [← hid]
    exact choice?_of_stories (stories_put_self ..) scene place
  · rename_i hid
    rw [choice?, stories_put_of_ne fun hplace => hid hplace.2.symm]
    rfl

end Shelf

namespace AuthorCall

/-- What a call makes of the choice at a place of a scene of a draft. -/
def choiceAfter (id scene : String) (place : Nat) (old : Option Choice) :
    (call : AuthorCall) → call.Answer → Option Choice
  | .edit other change, answer =>
    if other = id then change.choiceAfter scene place old answer else old
  | _, _ => old

variable {before after : Shelf} {call : AuthorCall} {answer : call.Answer} {id scene : String}
  {place : Nat}

theorem Makes.choice?_eq (hmakes : call.Makes before after answer) (hsound : before.IsSound)
    (id scene : String) (place : Nat) :
    after.choice? id scene place =
      call.choiceAfter id scene place (before.choice? id scene place) answer := by
  cases call with
  | createStory other title =>
      obtain ⟨-, hfree, rfl, rfl⟩ := hmakes
      rw [Shelf.choice?_put]
      split
      · rename_i hid
        obtain rfl : other = id := hid
        rw [Story.choice?_fresh, Shelf.choice?, hfree]
        rfl
      · rfl
  | edit other change =>
      obtain ⟨draft, changed, hdraft, -, hmade, rfl⟩ := hmakes
      have hid : changed.id = other := hmade.id_eq.trans (hsound.stands _ _ _ hdraft).id_eq
      rw [Shelf.choice?_put, hid, choiceAfter]
      split
      · rename_i hother
        rw [← hother, Shelf.choice?_of_stories hdraft]
        exact hmade.choice?_eq scene place
      · rfl
  | publish other scope candidates =>
      cases scope with
      | listed =>
          obtain ⟨draft, -, -, rfl⟩ := hmakes
          rfl
      | unlisted =>
          obtain ⟨draft, code, hdraft, -, -, -, rfl⟩ := hmakes
          have hid : draft.id = other := (hsound.stands _ _ _ hdraft).id_eq
          refine (before.choice?_put (draft.behind code) id scene place).trans ?_
          split
          · rename_i hother
            obtain rfl : other = id := hid.symm.trans hother
            exact (Shelf.choice?_of_stories hdraft scene place).symm
          · rfl
  | check other =>
      obtain ⟨draft, -, -, rfl⟩ := hmakes
      rfl

theorem Makes.choice_kept {choice : Choice} (hmakes : call.Makes before after answer)
    (hsound : before.IsSound) (hchoice : before.choice? id scene place = some choice) :
    (∃ requirement, call = .edit id (.setRequirement scene place requirement) ∧
      after.choice? id scene place = some (choice.gatedBy requirement)) ∨
    (∀ requirement, call ≠ .edit id (.setRequirement scene place requirement)) ∧
      after.choice? id scene place = some choice := by
  have hafter := hmakes.choice?_eq hsound id scene place
  rw [hchoice] at hafter
  cases call with
  | edit other change =>
      rw [choiceAfter] at hafter
      by_cases hother : other = id
      · obtain rfl := hother
        rw [if_pos rfl] at hafter
        cases change with
        | addChoice name text next =>
            right
            refine ⟨by simp, ?_⟩
            rw [hafter, StoryEdit.choiceAfter, if_neg]
            rintro ⟨rfl, rfl⟩
            obtain ⟨draft, changed, hdraft, -, hmade, -⟩ := hmakes
            rw [Shelf.choice?_of_stories hdraft, hmade.choice?_added] at hchoice
            cases hchoice
        | setRequirement name index requirement =>
            rw [StoryEdit.choiceAfter] at hafter
            split at hafter
            · rename_i hplace
              obtain ⟨rfl, rfl⟩ := hplace
              exact Or.inl ⟨requirement, rfl, hafter⟩
            · rename_i hplace
              refine Or.inr ⟨?_, hafter⟩
              rintro _ ⟨⟩
              exact hplace ⟨rfl, rfl⟩
        | _ => exact Or.inr ⟨by simp, hafter⟩
      · rw [if_neg hother] at hafter
        refine Or.inr ⟨?_, hafter⟩
        rintro _ ⟨⟩
        exact hother rfl
  | _ => exact Or.inr ⟨by simp, hafter⟩

theorem Makes.choice_new {choice : Choice} (hmakes : call.Makes before after answer)
    (hsound : before.IsSound) (hnone : before.choice? id scene place = none)
    (hsome : after.choice? id scene place = some choice) :
    ∃ text next, call = .edit id (.addChoice scene text next) ∧ HEq answer place := by
  rw [hmakes.choice?_eq hsound, hnone] at hsome
  cases call with
  | edit other change =>
      rw [choiceAfter] at hsome
      split at hsome
      · rename_i hother
        obtain rfl := hother
        cases change with
        | addChoice name text next =>
            rw [StoryEdit.choiceAfter] at hsome
            split at hsome
            · rename_i hplace
              obtain ⟨rfl, rfl⟩ := hplace
              exact ⟨text, next, rfl, HEq.rfl⟩
            · cases hsome
        | setRequirement name index requirement =>
            rw [StoryEdit.choiceAfter] at hsome
            split at hsome <;> cases hsome
        | _ => cases hsome
      · cases hsome
  | _ => cases hsome

end AuthorCall

namespace Library

variable {library : Library} {shelf : Shelf} {id scene text next : String} {place : Nat}
  {gate : Option Requirement} {calls : List AuthorCall} {call : AuthorCall} {top : Entry}

/-- Whether a choice that had no gate is gated in some way after some calls: by the requirement that
was set for it last, or not at all if none was set or if this one asks for nothing. -/
def LastGate (library : Library) (top : Entry) (calls : List AuthorCall) (id scene : String)
    (place : Nat) (gate : Option Requirement) : Prop :=
  (gate = none ∧
    ∀ requirement,
      ¬library.Answers top calls (.edit id (.setRequirement scene place requirement)) ()) ∨
  ∃ earlier requirement later,
    calls = earlier ++ .edit id (.setRequirement scene place requirement) :: later ∧
    ((library.setRequirement id scene place requirement).run
      (library.afterCalls top earlier)).1 = .ok () ∧
    (∀ other,
      ¬library.Answers
        (library.afterCalls top (earlier ++ [.edit id (.setRequirement scene place requirement)]))
        later (.edit id (.setRequirement scene place other)) ()) ∧
    gate = if requirement = .none then none else some requirement

theorem lastGate_nil : library.LastGate top [] id scene place none :=
  Or.inl ⟨rfl, fun _ => not_answers_nil⟩

theorem LastGate.concat (hgate : library.LastGate top calls id scene place gate)
    (hother : ∀ requirement, call = .edit id (.setRequirement scene place requirement) →
      ((library.setRequirement id scene place requirement).run
        (library.afterCalls top calls)).1 ≠ .ok ()) :
    library.LastGate top (calls ++ [call]) id scene place gate := by
  rcases hgate with ⟨rfl, hnone⟩ | ⟨earlier, requirement, later, rfl, hrun, hlast, hgate⟩
  · refine Or.inl ⟨rfl, fun requirement hanswers => ?_⟩
    rcases answers_concat.mp hanswers with hearlier | ⟨hcall, hrun⟩
    · exact hnone requirement hearlier
    · exact hother requirement hcall hrun
  · refine Or.inr ⟨earlier, requirement, later ++ [call], by simp, hrun, ?_, hgate⟩
    intro other hanswers
    rcases answers_concat.mp hanswers with hlater | ⟨hcall, hagain⟩
    · exact hlast other hlater
    · rw [← afterCalls_append, List.append_assoc, List.singleton_append] at hagain
      exact hother other hcall hagain

theorem lastGate_of_run {requirement : Requirement}
    (hrun : ((library.setRequirement id scene place requirement).run
      (library.afterCalls top calls)).1 = .ok ()) :
    library.LastGate top (calls ++ [.edit id (.setRequirement scene place requirement)]) id scene
      place (if requirement = .none then none else some requirement) :=
  Or.inr ⟨calls, requirement, [], rfl, hrun, fun _ => not_answers_nil, rfl⟩

/-- A choice without a gate stays in its place, whatever authors call for, and is gated as was asked
for last. -/
theorem Keeps.choice_afterCalls (hkeeps : library.Keeps shelf top) (hsound : shelf.IsSound)
    (hchoice : shelf.choice? id scene place = some ⟨text, next, none⟩)
    (calls : List AuthorCall) :
    ∃ last gate, library.Keeps last (library.afterCalls top calls) ∧ last.IsSound ∧
      last.choice? id scene place = some ⟨text, next, gate⟩ ∧
      library.LastGate top calls id scene place gate := by
  induction calls using List.reverseRecOn with
  | nil => exact ⟨shelf, none, hkeeps, hsound, hchoice, lastGate_nil⟩
  | append_singleton calls call ih =>
      obtain ⟨last, gate, hlast, hlastSound, hheld, hgate⟩ := ih
      rw [afterCalls_concat]
      rcases hlast.afterCall call with
        ⟨error, hrun, hsame⟩ | ⟨answer, made, hrun, hmakes, hmade⟩
      · refine ⟨last, gate, hsame, hlastSound, hheld, hgate.concat ?_⟩
        rintro requirement rfl hdone
        cases (congrArg Prod.fst hrun).symm.trans hdone
      · have hmadeSound := hmakes.isSound hlastSound
        rcases hmakes.choice_kept hlastSound hheld with ⟨requirement, rfl, hgated⟩ | ⟨hother, hkept⟩
        · exact ⟨made, _, hmade, hmadeSound, hgated, lastGate_of_run (congrArg Prod.fst hrun)⟩
        · exact ⟨made, gate, hmade, hmadeSound, hkept,
            hgate.concat fun requirement hcall => absurd hcall (hother requirement)⟩

theorem Keeps.addChoice (hkeeps : library.Keeps shelf top) (hsound : shelf.IsSound)
    (hrun : ((library.addChoice id scene text next).run top).1 = .ok place) :
    ∃ made, library.Keeps made (library.afterCall top (.edit id (.addChoice scene text next))) ∧
      made.IsSound ∧ made.choice? id scene place = some ⟨text, next, none⟩ := by
  obtain ⟨made, hmakes, hmade⟩ := hkeeps.performEdit (.addChoice scene text next)
    (run_eq_of_fst hrun)
  refine ⟨made, hmade, hmakes.isSound hsound, ?_⟩
  rw [hmakes.choice?_eq hsound, AuthorCall.choiceAfter, if_pos rfl, StoryEdit.choiceAfter,
    if_pos ⟨rfl, rfl⟩]

theorem IsEmpty.exists_shelf_places (hempty : library.IsEmpty top) (id scene : String)
    (calls : List AuthorCall) :
    ∃ shelf, library.Keeps shelf (library.afterCalls top calls) ∧ shelf.IsSound ∧
      ∀ place, (shelf.choice? id scene place).isSome = true ↔
        ∃ text next, library.Answers top calls (.edit id (.addChoice scene text next)) place := by
  induction calls using List.reverseRecOn with
  | nil =>
      refine ⟨.empty, hempty.keeps, Shelf.isSound_empty, fun place => iff_of_false nofun ?_⟩
      rintro ⟨text, next, hanswers⟩
      exact not_answers_nil hanswers
  | append_singleton calls call ih =>
      obtain ⟨last, hlast, hsound, hplaces⟩ := ih
      simp only [answers_concat, exists_or, ← hplaces]
      rw [afterCalls_concat]
      rcases hlast.afterCall call with
        ⟨error, hrun, hsame⟩ | ⟨answer, made, hrun, hmakes, hmade⟩
      · refine ⟨last, hsame, hsound, fun place => (or_iff_left ?_).symm⟩
        rintro ⟨text, next, rfl, hdone⟩
        cases (congrArg Prod.fst hrun).symm.trans hdone
      · refine ⟨made, hmade, hmakes.isSound hsound, fun place => ?_⟩
        constructor
        · intro hthere
          obtain ⟨choice, hchoice⟩ := Option.isSome_iff_exists.mp hthere
          cases hold : last.choice? id scene place with
          | some old => exact Or.inl rfl
          | none =>
              obtain ⟨text, next, rfl, hplace⟩ := hmakes.choice_new hsound hold hchoice
              obtain rfl := eq_of_heq hplace
              exact Or.inr ⟨text, next, rfl, congrArg Prod.fst hrun⟩
        · rintro (hthere | ⟨text, next, rfl, hdone⟩)
          · obtain ⟨choice, hchoice⟩ := Option.isSome_iff_exists.mp hthere
            rcases hmakes.choice_kept hsound hchoice with ⟨requirement, -, hafter⟩ | ⟨-, hafter⟩
            · exact Option.isSome_of_mem hafter
            · exact Option.isSome_of_mem hafter
          · obtain rfl : answer = place :=
              Except.ok.inj ((congrArg Prod.fst hrun).symm.trans hdone)
            rw [hmakes.choice?_eq hsound, AuthorCall.choiceAfter, if_pos rfl,
              StoryEdit.choiceAfter, if_pos ⟨rfl, rfl⟩]
            rfl

theorem Keeps.exists_setRequirement_iff (hkeeps : library.Keeps shelf top) (hsound : shelf.IsSound)
    {requirement : Requirement} :
    (∃ after, (library.setRequirement id scene place requirement).run top = (.ok (), after)) ↔
      (shelf.choice? id scene place).isSome = true := by
  constructor
  · rintro ⟨after, hrun⟩
    obtain ⟨next, ⟨draft, changed, hdraft, -, hmade, -⟩, -⟩ :=
      hkeeps.performEdit (.setRequirement scene place requirement) hrun
    obtain ⟨old, choice, made, hold, hchoice, -, -⟩ := hmade
    rw [Shelf.choice?_of_stories hdraft, Story.choice?_of_scene? hold, hchoice]
    rfl
  · intro hthere
    obtain ⟨choice, hchoice⟩ := Option.isSome_iff_exists.mp hthere
    obtain ⟨draft, hdraft, hheld⟩ := Option.bind_eq_some_iff.mp hchoice
    obtain ⟨old, hold, hplace⟩ := Story.choice?_eq_some_iff.mp hheld
    have hid := (hsound.stands _ _ _ hdraft).id_eq
    obtain ⟨changed, hmade⟩ : ∃ changed,
        draft.setRequirement scene place requirement = .ok changed := by
      simp only [Story.setRequirement, hold, hplace]
      exact ⟨_, rfl⟩
    obtain ⟨after, hrun, -⟩ := hkeeps.exists_perform hdraft hid
      (.setRequirement scene place requirement) trivial
      (StoryEdit.makes_setRequirement.mpr hmade)
    exact ⟨after, hrun⟩

theorem choice_places_stand (hempty : library.IsEmpty top) (id scene : String)
    (calls : List AuthorCall) :
    (∀ earlier text next place later,
      calls = earlier ++ .edit id (.addChoice scene text next) :: later →
      ((library.addChoice id scene text next).run (library.afterCalls top earlier)).1 =
          .ok place →
        ∃ draft gate,
          (library.readStory id .unlisted).run (library.afterCalls top calls) =
            (.ok draft, library.afterCalls top calls) ∧
          draft.HasChoice scene place ⟨text, next, gate⟩ ∧
          library.LastGate
            (library.afterCalls top (earlier ++ [.edit id (.addChoice scene text next)]))
            later id scene place gate) ∧
    ∀ place requirement,
      (∃ after, (library.setRequirement id scene place requirement).run
        (library.afterCalls top calls) = (.ok (), after)) ↔
      ∃ text next,
        library.Answers top calls (.edit id (.addChoice scene text next)) place := by
  constructor
  · rintro earlier text next place later rfl hrun
    obtain ⟨shelf, hkeeps, hsound⟩ := hempty.exists_shelf earlier
    obtain ⟨made, hmade, hmadeSound, hadded⟩ := hkeeps.addChoice hsound hrun
    obtain ⟨last, gate, hlast, -, hheld, hgate⟩ :=
      hmade.choice_afterCalls hmadeSound hadded later
    obtain ⟨draft, hdraft, hchoice⟩ := Option.bind_eq_some_iff.mp hheld
    rw [afterCalls_concat, afterCalls_append_cons]
    exact ⟨draft, gate, hlast.readStory_eq_ok.mpr ⟨hdraft, rfl⟩,
      Story.choice?_eq_some_iff.mp hchoice, hgate⟩
  · intro place requirement
    obtain ⟨shelf, hkeeps, hsound, hplaces⟩ := hempty.exists_shelf_places id scene calls
    rw [hkeeps.exists_setRequirement_iff hsound, hplaces]

end Library

theorem drafts_dugOut : Library.here.Drafts Story.dug dugOut :=
  keeps_dugOut.drafts rfl rfl

theorem exists_waiting :
    ∃ after, (waiting.perform Library.here).run dugOut = (.ok (0 : Nat), after) ∧
      Library.here.Drafts Story.restful after :=
  drafts_dugOut.exists_perform
    (.addChoice Story.defaultStart "Wait" Story.defaultStart) ⟨by decide, by decide⟩
    (StoryEdit.makes_addChoice.mpr rfl)

theorem choice_places_stand_waiting :
    ∃ draft,
      (Library.here.readStory "cave" .unlisted).run
          (Library.here.afterCalls (.folder []) (diggings ++ [waiting, locking])) =
        (.ok draft, Library.here.afterCalls (.folder []) (diggings ++ [waiting, locking])) ∧
      draft.HasChoice Story.defaultStart 0
        ⟨"Wait", Story.defaultStart, some ⟨["Key"], ∅⟩⟩ := by
  obtain ⟨added, hadded, -⟩ := exists_waiting
  have hplace := congrArg Prod.fst hadded
  obtain ⟨-, hgates⟩ := Library.choice_places_stand isEmpty_here "cave" Story.defaultStart
    (diggings ++ [waiting])
  obtain ⟨locked, hlocked⟩ := (hgates 0 ⟨["Key"], ∅⟩).mpr
    ⟨"Wait", Story.defaultStart, Library.answers_concat.mpr (Or.inr ⟨rfl, hplace⟩)⟩
  obtain ⟨hchoices, -⟩ := Library.choice_places_stand isEmpty_here "cave" Story.defaultStart
    (diggings ++ [waiting, locking])
  obtain ⟨draft, gate, hread, hchoice, hgate⟩ := hchoices diggings "Wait" Story.defaultStart 0
    [locking] rfl hplace
  refine ⟨draft, hread, ?_⟩
  rcases hgate with ⟨-, hnone⟩ | ⟨earlier, requirement, later, hcalls, -, -, rfl⟩
  · have hanswer : ((locking.perform Library.here).run
        (Library.here.afterCalls (.folder []) (diggings ++ [waiting]))).1 = .ok () :=
      congrArg Prod.fst hlocked
    exact absurd (Library.answers_singleton hanswer) (hnone ⟨["Key"], ∅⟩)
  · rcases List.singleton_eq_append_iff.mp hcalls with ⟨-, hlast⟩ | ⟨-, hlast⟩
    · cases hlast
      exact hchoice
    · cases hlast

end Gamebook
