import Gamebook.Proofs.Commands.Failing
import Gamebook.Proofs.Library.Sharing

/-!
What the commands of players are made of: reading stories, share codes, the session and the save,
saving, and putting the session (`PlayPart`). Parts of the commands of two players can be done in
either order (`PlayPart.commutesOn`), and a command can be run in either order with everything that
its parts can be (`PlayerCommand.commutesOn`).
-/

namespace Gamebook

open FileAction

/-- Whether the folder of a library is there, the listed stories have names of folders, and there
are saves if something asks for them. -/
structure Library.Shares (library : Library) (asks : Prop) (top : Entry) : Prop where
  root : library.HasRoot top
  listed : ∀ names, top.list (Path.names (library.storiesFolder .listed)) = .ok names →
    ∀ name ∈ names, Path.IsPlain name
  saves : asks → library.HasSaves top

theorem Library.Shares.preserves_of_actsAt {library : Library} {asks : Prop} {α : Type}
    {action : FileAction LibraryError α} {place : String}
    (haction : action.ActsAt (Path.names library.root) place) (hplace : place ≠ "stories") :
    action.Preserves (library.Shares asks) := by
  rintro top ⟨hroot, hlisted, hsaves⟩
  refine ⟨haction.preserves top hroot, ?_, ?_⟩
  · rw [names_storiesFolder, Entry.list, haction.walk_beside hplace hroot]
    rw [names_storiesFolder, Entry.list] at hlisted
    exact hlisted
  · intro hasks
    by_cases hsame : place = "saves"
    · rw [hsame] at haction
      exact haction.exists_walk hroot (hsaves hasks)
    · obtain ⟨entry, hentry⟩ := hsaves hasks
      exact ⟨entry, (haction.walk_beside hsame hroot []).trans hentry⟩

/-- What the commands of a player are made of. -/
inductive PlayPart where
  | loadStory (id : String) (scope : Visibility)
  | codes
  | listedStories
  | get
  | loadSave (id : String)
  | saveProgress (id : String) (state : PlayerState) (now : Instant)
  | put (session : Session)

namespace PlayPart

abbrev Answer : PlayPart → Type
  | .loadStory _ _ => Story
  | .codes => Dict CodeEntry
  | .listedStories => List String
  | .get => Option Session
  | .loadSave _ => Option Save
  | .saveProgress _ _ _ => Unit
  | .put _ => SessionStore

def perform (library : Library) (player : String) :
    (part : PlayPart) → FileAction LibraryError part.Answer
  | .loadStory id scope => library.loadStory id scope
  | .codes => library.codes
  | .listedStories => library.listedStories
  | .get => (SessionStore.file library).get player
  | .loadSave id => library.loadSave player id
  | .saveProgress id state now => library.saveProgress player id state now
  | .put session => (SessionStore.file library).put player session

/-- The name in the folder of a library that a part works under. -/
def place : PlayPart → String
  | .loadStory _ _ => "stories"
  | .codes => "codes.json"
  | .listedStories => "stories"
  | .get => "sessions.json"
  | .loadSave _ => "saves"
  | .saveProgress _ _ _ => "saves"
  | .put _ => "sessions.json"

/-- Whether a part only looks. -/
def IsLook : PlayPart → Prop
  | .saveProgress _ _ _ => False
  | .put _ => False
  | _ => True

variable {library : Library} {player rival : String} {part : PlayPart} {top : Entry}

theorem looks_perform (hlook : part.IsLook) : (part.perform library player).Looks := by
  cases part with
  | loadStory id scope => exact library.looks_loadStory id scope
  | codes => exact library.looks_codes
  | listedStories => exact library.looks_listedStories
  | get => exact looks_get _ _
  | loadSave id => exact library.looks_loadSave player id
  | saveProgress id state now => cases hlook
  | put session => cases hlook

theorem actsAt_perform (hpart : part ≠ .listedStories) :
    (part.perform library player).ActsAt (Path.names library.root) part.place := by
  cases part with
  | loadStory id scope => exact library.actsAt_loadStory id scope
  | codes => exact library.actsAt_codes
  | listedStories => exact absurd rfl hpart
  | get => exact library.actsAt_all.bind fun _ => .done _
  | loadSave id => exact library.actsAt_loadSave player id
  | saveProgress id state now => exact library.actsAt_saveProgress player id state now
  | put session => exact library.actsAt_put player session

variable {asks : Prop} {other : PlayPart}

theorem preserves_perform (part : PlayPart) :
    (part.perform library player).Preserves (library.Shares asks) := by
  by_cases hlook : part.IsLook
  · exact (looks_perform hlook).preserves
  · cases part with
    | saveProgress id state now =>
        exact .preserves_of_actsAt (library.actsAt_saveProgress player id state now) (by decide)
    | put session => exact .preserves_of_actsAt (library.actsAt_put player session) (by decide)
    | _ => exact absurd trivial hlook

theorem commutesOn_of_place_ne (hpart : part ≠ .listedStories) (hother : other ≠ .listedStories)
    (hplace : part.place ≠ other.place) :
    (part.perform library player).CommutesOn (library.Shares asks)
      (other.perform library rival) :=
  ((actsAt_perform hpart).commutesOn (actsAt_perform hother) hplace).mono fun _ htop => htop.root

theorem listedStories_commutesOn (hother : other.place ≠ "stories") :
    library.listedStories.CommutesOn (library.Shares asks) (other.perform library rival) := by
  refine library.looks_listedStories.commutesOn fun top htop => ?_
  apply Library.run_listedStories_congr htop.listed
  have hne : other ≠ .listedStories := by
    rintro rfl
    exact hother rfl
  exact fun below => (actsAt_perform hne).walk_beside hother htop.root _

theorem look_commutesOn (hne : player ≠ rival) (hpart : part.IsLook) (hother : ¬other.IsLook)
    (hasks : ∀ id, part = .loadSave id → Entry.isTooLong player = true → asks) :
    (part.perform library player).CommutesOn (library.Shares asks)
      (other.perform library rival) := by
  have happart : part.place ≠ other.place → (part.perform library player).CommutesOn
      (library.Shares asks) (other.perform library rival) := by
    intro hplace
    by_cases hlisted : part = .listedStories
    · rw [hlisted] at hplace ⊢
      exact listedStories_commutesOn hplace.symm
    · refine commutesOn_of_place_ne hlisted ?_ hplace
      rintro rfl
      exact hother trivial
  cases other with
  | saveProgress other state now =>
      cases part with
      | loadSave id =>
          refine (Library.loadSave_commutesOn_saveProgress hne id other state now).mono ?_
          intro top htop
          exact ⟨htop.root, fun hlong => htop.saves (hasks id rfl hlong)⟩
      | saveProgress id state now => cases hpart
      | put session => cases hpart
      | _ => exact happart (by simp [place])
  | put session =>
      cases part with
      | get => exact (Library.get_commutesOn_put hne session).mono fun _ htop => htop.root
      | saveProgress id state now => cases hpart
      | put session => cases hpart
      | _ => exact happart (by simp [place])
  | _ => exact absurd trivial hother

theorem write_commutesOn (hne : player ≠ rival) (hpart : ¬part.IsLook) (hother : ¬other.IsLook) :
    (part.perform library player).CommutesOn (library.Shares asks)
      (other.perform library rival) := by
  have happart : part.place ≠ other.place → (part.perform library player).CommutesOn
      (library.Shares asks) (other.perform library rival) := by
    apply commutesOn_of_place_ne
    · rintro rfl
      exact hpart trivial
    · rintro rfl
      exact hother trivial
  cases part with
  | saveProgress id state now =>
      cases other with
      | saveProgress other held later =>
          refine CommutesOn.mono ?_ fun _ htop => htop.root
          exact Library.saveProgress_commutesOn_saveProgress hne id other state held now later
      | put session => exact happart (by simp [place])
      | _ => exact absurd trivial hother
  | put session =>
      cases other with
      | saveProgress other held later => exact happart (by simp [place])
      | put held =>
          exact (Library.put_commutesOn_put hne session held).mono fun _ htop => htop.root
      | _ => exact absurd trivial hother
  | _ => exact absurd trivial hpart

theorem commutesOn (hne : player ≠ rival) (part other : PlayPart)
    (hpart : ∀ id, part = .loadSave id → ¬other.IsLook → Entry.isTooLong player = true → asks)
    (hother : ∀ id, other = .loadSave id → ¬part.IsLook → Entry.isTooLong rival = true → asks) :
    (part.perform library player).CommutesOn (library.Shares asks)
      (other.perform library rival) := by
  by_cases hlook : part.IsLook
  · by_cases hlook' : other.IsLook
    · exact (looks_perform hlook).commutesOn_looks (looks_perform hlook')
    · exact look_commutesOn hne hlook hlook' fun id hid => hpart id hid hlook'
  · by_cases hlook' : other.IsLook
    · exact (look_commutesOn hne.symm hlook' hlook fun id hid => hother id hid hlook).symm
    · exact write_commutesOn hne hlook hlook'

end PlayPart

section

variable {ε β : Type} {library : Library} {asks : Prop} {player : String} {now : Instant}
  {candidates : List String} {second : FileAction ε β}

/-- Whether a part of a player's commands can be done before or after a program. -/
abbrev PlayPart.Passes (library : Library) (asks : Prop) (player : String)
    (second : FileAction ε β) (part : PlayPart) : Prop :=
  (part.perform library player).PassesOn (library.Shares asks) second

theorem passesOn_loadByCode (hcodes : PlayPart.codes.Passes library asks player second)
    (hload : ∀ id scope, (PlayPart.loadStory id scope).Passes library asks player second)
    (code : String) : (library.loadByCode code).PassesOn (library.Shares asks) second := by
  refine PassesOn.bind hcodes fun codes => ?_
  split
  · exact .fail _
  · refine PassesOn.bind (PassesOn.attempt (hload _ _)) fun found => ?_
    split
    · exact .done _
    · exact .fail _
    · exact .fail _

theorem passesOn_listedStory (hlisted : PlayPart.listedStories.Passes library asks player second)
    (hload : ∀ id scope, (PlayPart.loadStory id scope).Passes library asks player second)
    (id : String) :
    ((library.setting player now candidates).listedStory id).PassesOn (library.Shares asks)
      second := by
  refine PassesOn.bind (PassesOn.attempt (hload _ _)) fun found => ?_
  split
  · exact .done _
  · exact PassesOn.bind (PassesOn.mapError hlisted _) fun listed => .fail _
  · exact .fail _

theorem passesOn_beginStory
    (hsave : ∀ id state, (PlayPart.saveProgress id state now).Passes library asks player second)
    (hput : ∀ session, (PlayPart.put session).Passes library asks player second)
    (story : Story) (scope : Visibility) :
    ((library.setting player now candidates).beginStory story scope).PassesOn (library.Shares asks)
      second := by
  refine PassesOn.bind (.ofExcept _) fun turn => ?_
  refine PassesOn.bind (PassesOn.mapError (hsave _ _) _) fun _ => ?_
  exact PassesOn.bind (PassesOn.mapError (hput _) _) fun sessions => .done _

theorem passesOn_current (hget : PlayPart.get.Passes library asks player second)
    (hload : ∀ id scope, (PlayPart.loadStory id scope).Passes library asks player second)
    (hread : ∀ id, (PlayPart.loadSave id).Passes library asks player second) :
    (library.setting player now candidates).current.PassesOn (library.Shares asks) second := by
  refine PassesOn.bind hget ?_
  rintro (_ | session)
  · exact .fail _
  · refine PassesOn.bind (hload _ _) fun story => ?_
    refine PassesOn.bind (PassesOn.bind (hread _) fun save => .done _) ?_
    rintro (_ | state)
    · exact .fail _
    · exact .done (story, state)

namespace PlayerCommand

/-- Whether a command begins a story. All others read the save of the player. -/
def Begins : PlayerCommand → Prop
  | .play _ => True
  | .playCode _ => True
  | _ => False

/-- A command can be run before or after everything that its parts can be done before or after. -/
theorem passesOn {asked : PlayerCommand}
    (hparts : ∀ part : PlayPart, (∀ id, part = .loadSave id → ¬asked.Begins) →
      part.Passes library asks player second) :
    (asked.command.run (library.setting player now candidates)).PassesOn (library.Shares asks)
      second := by
  have hload := fun id scope => hparts (.loadStory id scope) (by rintro _ ⟨⟩)
  have hsave := fun id state => hparts (.saveProgress id state now) (by rintro _ ⟨⟩)
  have hput := fun session => hparts (.put session) (by rintro _ ⟨⟩)
  have hget := hparts .get (by rintro _ ⟨⟩)
  have hread : ¬asked.Begins → ∀ id, (PlayPart.loadSave id).Passes library asks player second :=
    fun hbegins id => hparts (.loadSave id) fun _ _ => hbegins
  have hcurrent : ¬asked.Begins →
      (ask (library.setting player now candidates).current).PassesOn (library.Shares asks)
        second :=
    fun hbegins => PassesOn.mapError (passesOn_current hget hload (hread hbegins)) _
  cases asked with
  | play id =>
      have hlisted := hparts .listedStories (by rintro _ ⟨⟩)
      refine PassesOn.bind (PassesOn.bind (passesOn_listedStory hlisted hload id) ?_) ?_
      · intro story
        exact PassesOn.bind (passesOn_beginStory hsave hput story .listed) fun begun => .done _
      · exact fun begun => .done _
  | playCode code =>
      have hcodes := hparts .codes (by rintro _ ⟨⟩)
      have hfound := PassesOn.mapError (passesOn_loadByCode hcodes hload code) CommandError.library
      refine PassesOn.bind (PassesOn.bind hfound ?_) fun begun => .done _
      intro found
      exact PassesOn.bind (passesOn_beginStory hsave hput found.2 .unlisted) fun begun => .done _
  | choose index =>
      have hstep := hcurrent not_false
      refine PassesOn.bind (PassesOn.bind (PassesOn.bind hstep ?_) fun turn => .done _)
        fun report => .done _
      intro current
      refine PassesOn.bind (.ofExcept _) fun turn => ?_
      exact PassesOn.bind (PassesOn.mapError (hsave _ _) _) fun _ => .done _
  | resume =>
      have hstep := hcurrent not_false
      refine PassesOn.bind (PassesOn.bind (PassesOn.bind hstep ?_) fun turn => .done _)
        fun report => .done _
      exact fun current => PassesOn.bind (.ofExcept _) fun turn => .done _
  | status =>
      refine PassesOn.bind (PassesOn.mapError (PassesOn.bind ?_ fun current => .done _) _)
        fun report => .done _
      exact passesOn_current hget hload (hread not_false)

end PlayerCommand

end

end Gamebook
