import Gamebook.Proofs.Commands.Failing
import Gamebook.Proofs.Library.Confinement

namespace Gamebook

open FileAction

variable {P : String → Prop} {setting : Setting}

theorem opens_ask {α : Type} {action : FileAction LibraryError α} (haction : action.Opens P) :
    (ask action).Opens P :=
  haction.mapError _

namespace Setting

theorem opens_current (hof : setting.sessions.IsOf setting.library) :
    setting.current.Opens setting.library.IsOwn := by
  refine (Library.opens_get hof setting.player).bind ?_
  rintro (_ | session)
  · exact .fail _
  · refine (setting.library.opens_loadStory _ _).bind fun story => ?_
    refine (setting.library.opens_loadProgress _ _).bind ?_
    rintro (_ | state)
    · exact .fail _
    · exact .done (story, state)

theorem opens_listedStory (setting : Setting) (id : String) :
    (setting.listedStory id).Opens setting.library.IsOwn := by
  refine (setting.library.opens_loadStory id .listed).attempt.bind fun found => ?_
  split
  · exact .done _
  · exact (opens_ask setting.library.opens_listedStories).bind fun listed => .fail _
  · exact .fail _

theorem opens_beginStory (hof : setting.sessions.IsOf setting.library) (story : Story)
    (scope : Visibility) : (setting.beginStory story scope).Opens setting.library.IsOwn := by
  refine Opens.bind (.ofExcept _) fun turn => ?_
  refine (opens_ask (setting.library.opens_saveProgress ..)).bind fun _ => ?_
  exact (opens_ask (Library.opens_put hof ..)).bind fun sessions => .done _

end Setting

namespace Command

theorem opens_keepSessions {report : CommandAction Report} (hreport : report.Opens P) :
    (keepSessions setting report).Opens P :=
  hreport.bind fun _ => .done _

theorem opens_answer {report : FileAction LibraryError Report} (hreport : report.Opens P) :
    (answer setting report).Opens P :=
  opens_keepSessions (opens_ask hreport)

theorem opens_storyRows (library : Library) (ids : List String) :
    (storyRows library ids).Opens library.IsOwn := by
  induction ids with
  | nil => exact .done []
  | cons id ids ih =>
      refine (library.opens_readStory id .listed).attempt.bind fun found => ?_
      refine ih.bind fun rows => ?_
      split <;> exact .done _

theorem opens_storiesReport (library : Library) :
    (storiesReport library).Opens library.IsOwn := by
  refine library.opens_listedStories.bind fun ids => ?_
  split
  · exact .done _
  · exact (opens_storyRows library ids).bind fun rows => .done _

theorem opens_run (hof : setting.sessions.IsOf setting.library) (command : Command) :
    (command.run setting).Opens setting.library.IsOwn := by
  have hauthor := fun call : AuthorCall => setting.library.opens_perform (.author call)
  cases command with
  | menu =>
      refine opens_answer (setting.library.opens_listedStories.bind fun stories => ?_)
      exact setting.library.opens_items.bind fun items => .done _
  | stories => exact opens_answer (opens_storiesReport _)
  | play id =>
      refine Opens.bind ((setting.opens_listedStory id).bind fun story => ?_) fun begun => .done _
      exact (setting.opens_beginStory hof story .listed).bind fun begun => .done _
  | playCode code =>
      have hfound := opens_ask (setting.library.opens_loadByCode code)
      refine Opens.bind (hfound.bind fun found => ?_) fun begun => .done _
      exact (setting.opens_beginStory hof found.2 .unlisted).bind fun begun => .done _
  | choose index =>
      refine opens_keepSessions (Opens.bind (Opens.bind ?_ fun found => ?_) fun turn => .done _)
      · exact opens_ask (setting.opens_current hof)
      · refine Opens.bind (.ofExcept _) fun turn => ?_
        exact (opens_ask (setting.library.opens_saveProgress ..)).bind fun _ => .done _
  | resume =>
      refine opens_keepSessions (Opens.bind (Opens.bind ?_ fun found => ?_) fun turn => .done _)
      · exact opens_ask (setting.opens_current hof)
      · exact Opens.bind (.ofExcept _) fun turn => .done _
  | status => exact opens_answer ((setting.opens_current hof).bind fun found => .done _)
  | createStory id title =>
      exact opens_answer (Opens.bind (hauthor (.createStory id title)) fun _ => .done _)
  | addScene id scene =>
      refine opens_answer (Opens.bind (hauthor (.edit id (.addScene scene))) fun added => ?_)
      split <;> exact .done _
  | setText id scene text =>
      exact opens_answer (Opens.bind (hauthor (.edit id (.setSceneText scene text)))
        fun _ => .done _)
  | addChoice id scene text next =>
      exact opens_answer (Opens.bind (hauthor (.edit id (.addChoice scene text next)))
        fun _ => .done _)
  | publish id scope =>
      exact opens_answer (Opens.bind (hauthor (.publish id scope setting.candidates))
        fun _ => .done _)
  | setStat id name value =>
      exact opens_answer (Opens.bind (hauthor (.edit id (.setInitialStat name value)))
        fun _ => .done _)
  | addStoryItem id item =>
      refine opens_answer (Opens.bind (hauthor (.edit id (.addInitialItem item))) fun added => ?_)
      split <;> exact .done _
  | require id scene index requirement =>
      exact opens_answer (Opens.bind (hauthor (.edit id (.setRequirement scene index requirement)))
        fun _ => .done _)
  | check id =>
      exact opens_keepSessions ((opens_ask (hauthor (.check id))).bind fun _ => .ofExcept _)
  | addItem name =>
      exact opens_answer ((setting.library.opens_addItem name).bind fun items => .done _)
  | listItems =>
      refine opens_answer (setting.library.opens_items.bind fun items => ?_)
      split <;> exact .done _

end Command

/-- Whether ids stay where they belong in a library: only files at its places are opened, whatever
is asked for and whatever the files hold; ids that are not components of a path open nothing; and
places that differ have different files. -/
structure Library.IsConfined (library : Library) : Prop where
  operations : ∀ operation : Operation, library.Confines (operation.perform library)
  sessions : ∀ (store : SessionStore) (call : SessionCall), store.IsOf library →
    library.Confines (call.perform store)
  commands : ∀ (setting : Setting) (command : Command), setting.library = library →
    setting.sessions.IsOf library → library.Confines (command.run setting)
  refused : ∀ operation : Operation, (∃ id ∈ operation.ids, ¬Path.IsComponent id) →
    ∀ top, (operation.perform library).opened top = []
  distinct : ∀ place other : Place, place.HasComponents → other.HasComponents →
    Path.names (place.path library) = Path.names (other.path library) → place = other

/-- No id escapes from its place in a library. -/
theorem Library.isConfined (library : Library) : library.IsConfined := by
  refine ⟨?_, ?_, ?_, ?_, ?_⟩
  · intro operation
    exact confines_of_opens (library.opens_perform operation)
  · intro store call hof
    exact confines_of_opens (opens_session hof call)
  · rintro setting command rfl hof
    exact confines_of_opens (command.opens_run hof)
  · rintro operation ⟨id, hid, hother⟩
    rw [← isKey_iff, Bool.not_eq_true] at hother
    exact library.opened_of_not_isKey operation ⟨id, hid, hother⟩
  · intro place other hplace hother hsame
    have howns := Place.owns_path (Place.isProper_iff.mpr hplace) library
    exact howns.unique (Place.owns_path (Place.isProper_iff.mpr hother) library) hsame

/-- A share code that was made to stand for a path leads nowhere. -/
example : (Library.here.loadByCode "key").opened
    (.folder [("codes.json", .file (.text "\x7b\"KEY\": \x7b\"storyId\": \"../vault\"\x7d\x7d"))]) =
      ["./codes.json"] := by
  decide +kernel

end Gamebook
