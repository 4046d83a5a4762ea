import Gamebook.Play.Engine

namespace Gamebook

namespace PlayerState

@[simp] theorem stats_addItem (state : PlayerState) (item : String) :
    (state.addItem item).stats = state.stats := by
  rw [addItem]
  split <;> rfl

@[simp] theorem ending_addItem (state : PlayerState) (item : String) :
    (state.addItem item).ending = state.ending := by
  rw [addItem]
  split <;> rfl

theorem addItem_of_hasItem {state : PlayerState} {item : String}
    (hheld : state.hasItem item = true) : state.addItem item = state := by
  rw [addItem, if_pos hheld]

theorem addItem_withEnding (state : PlayerState) (item ending : String) :
    (state.withEnding ending).addItem item = (state.addItem item).withEnding ending := by
  unfold addItem
  by_cases hheld : state.hasItem item = true
  · have hother : (state.withEnding ending).hasItem item = true := hheld
    rw [if_pos hheld, if_pos hother]
  · have hother : ¬(state.withEnding ending).hasItem item = true := hheld
    rw [if_neg hheld, if_neg hother]
    rfl

theorem hasItem_foldl_addItem (items : List String) (state : PlayerState) (item : String) :
    (items.foldl addItem state).hasItem item = true ↔
      state.hasItem item = true ∨ item ∈ items := by
  induction items generalizing state with
  | nil => simp
  | cons first rest ih =>
      rw [List.foldl_cons, ih, hasItem_addItem]
      simp only [Bool.or_eq_true, beq_iff_eq, List.mem_cons, or_assoc]

theorem inventory_foldl_addItem (items : List String) (state : PlayerState) :
    (items.foldl addItem state).inventory =
      state.inventory ++ (items.filter (· ∉ state.inventory)).eraseDups := by
  induction items generalizing state with
  | nil => simp
  | cons item rest ih =>
      rw [List.foldl_cons, ih]
      by_cases hheld : item ∈ state.inventory
      · have hsame : state.addItem item = state := addItem_of_hasItem (decide_eq_true hheld)
        rw [hsame, List.filter_cons_of_neg (by simpa using hheld)]
      · have hnew : (state.addItem item).inventory = state.inventory ++ [item] := by
          rw [addItem, if_neg (by simpa [hasItem] using hheld)]
        have hrest : rest.filter (· ∉ state.inventory ++ [item]) =
            (rest.filter (· ∉ state.inventory)).filter fun other => !other == item := by
          rw [List.filter_filter]
          apply List.filter_congr
          intro other _
          by_cases hsame : other = item <;> simp [hsame]
        rw [hnew, hrest, List.filter_cons_of_pos (by simpa using hheld), List.eraseDups_cons,
          List.append_assoc, List.singleton_append]

theorem foldl_addItem_of_hasItem {items : List String} {state : PlayerState}
    (hheld : ∀ item ∈ items, state.hasItem item = true) : items.foldl addItem state = state := by
  induction items with
  | nil => rfl
  | cons first rest ih =>
      rw [List.foldl_cons, addItem_of_hasItem (hheld first (by simp))]
      exact ih fun item hitem => hheld item (by simp [hitem])

theorem foldl_addItem_frame (items : List String) (state : PlayerState) :
    items.foldl addItem state =
      { state with inventory := (items.foldl addItem state).inventory } := by
  induction items generalizing state with
  | nil => rfl
  | cons first rest ih =>
      rw [List.foldl_cons, ih (state.addItem first)]
      unfold addItem
      split <;> rfl

theorem foldl_addItem_withEnding (items : List String) (state : PlayerState) (ending : String) :
    items.foldl addItem (state.withEnding ending) =
      (items.foldl addItem state).withEnding ending := by
  induction items generalizing state with
  | nil => rfl
  | cons first rest ih =>
      rw [List.foldl_cons, addItem_withEnding, ih, List.foldl_cons]

end PlayerState

namespace Segment

/-- What a segment shows to a player. -/
def shown (state : PlayerState) : Segment → String
  | .text s => s
  | .directive d => d.expansion state

/-- What a segment does to a player. -/
def effect (state : PlayerState) : Segment → PlayerState
  | .text _ => state
  | .directive d => d.effect state

/-- The item that a segment gives, if it gives one. -/
def item? : Segment → Option String
  | .directive (.addItem item) => some item
  | _ => none

/-- The ending that a segment brings, if it brings one. -/
def ending? : Segment → Option String
  | .directive (.ending kind) => some kind
  | _ => none

@[simp] theorem stats_effect (state : PlayerState) (segment : Segment) :
    (segment.effect state).stats = state.stats := by
  cases segment with
  | text s => rfl
  | directive d =>
      cases d with
      | stat name default => rfl
      | addItem item => exact PlayerState.stats_addItem state item
      | ending kind => rfl

theorem shown_congr {state other : PlayerState} (hstats : state.stats = other.stats)
    (segment : Segment) : segment.shown state = segment.shown other := by
  cases segment with
  | text s => rfl
  | directive d =>
      cases d with
      | stat name default => simp only [shown, Directive.expansion, PlayerState.stat?, hstats]
      | addItem item => rfl
      | ending kind => rfl

theorem foldl_effect (segments : List Segment) (state : PlayerState) :
    segments.foldl effect state =
      { (segments.filterMap item?).foldl PlayerState.addItem state with
        ending := (segments.filterMap ending?).getLast?.or state.ending } := by
  induction segments generalizing state with
  | nil => simp
  | cons segment rest ih =>
      rw [List.foldl_cons, ih]
      cases segment with
      | text s => rfl
      | directive d =>
          cases d with
          | stat name default => rfl
          | addItem item =>
              simp only [effect, Directive.effect, PlayerState.ending_addItem]
              rfl
          | ending kind =>
              have hgiven : (Segment.directive (.ending kind) :: rest).filterMap item? =
                  rest.filterMap item? := rfl
              have hended : (Segment.directive (.ending kind) :: rest).filterMap ending? =
                  kind :: rest.filterMap ending? := rfl
              rw [hgiven, hended, List.getLast?_cons]
              simp only [effect, Directive.effect, PlayerState.foldl_addItem_withEnding]
              cases (rest.filterMap ending?).getLast? <;> rfl

theorem foldl_effect_foldl_effect (segments : List Segment) (state : PlayerState) :
    segments.foldl effect (segments.foldl effect state) = segments.foldl effect state := by
  rw [foldl_effect segments (segments.foldl effect state)]
  have hheld : ∀ item ∈ segments.filterMap item?,
      (segments.foldl effect state).hasItem item = true := by
    intro item hitem
    rw [foldl_effect]
    exact (PlayerState.hasItem_foldl_addItem _ state item).mpr (Or.inr hitem)
  rw [PlayerState.foldl_addItem_of_hasItem hheld, foldl_effect]
  cases (segments.filterMap ending?).getLast? <;> rfl

end Segment

namespace Template

theorem renderFrom_eq (text : String) (state : PlayerState) (segments : List Segment) :
    renderFrom text state segments =
      (text ++ String.join (segments.map (Segment.shown state)),
        segments.foldl Segment.effect state) := by
  induction segments generalizing text state with
  | nil => simp [renderFrom]
  | cons segment rest ih =>
      have hrest : ∀ other : PlayerState, other.stats = state.stats →
          rest.map (Segment.shown other) = rest.map (Segment.shown state) := by
        intro other hstats
        exact List.map_congr_left fun next _ => Segment.shown_congr hstats next
      rw [List.foldl_cons, List.map_cons, String.join_cons, ← String.append_assoc]
      cases segment with
      | text s => exact ih (text ++ s) state
      | directive d =>
          rw [← hrest _ (Segment.stats_effect state (.directive d))]
          exact ih (text ++ d.expansion state) (d.effect state)

theorem render_eq (template : String) (state : PlayerState) :
    render template state =
      (String.join ((segments template).map (Segment.shown state)),
        (segments template).foldl Segment.effect state) := by
  rw [render, renderFrom_eq, String.empty_append]

theorem render_frame (template : String) (state : PlayerState) :
    (render template state).2 =
      { state with
        inventory := (render template state).2.inventory
        ending := (render template state).2.ending } := by
  rw [render_eq]
  change (segments template).foldl Segment.effect state = _
  rw [Segment.foldl_effect, PlayerState.foldl_addItem_frame]

theorem render_render (template : String) (state : PlayerState) :
    render template (render template state).2 =
      ((render template state).1, (render template state).2) := by
  have hstats : (render template state).2.stats = state.stats := by
    rw [render_frame]
  rw [render_eq template (render template state).2]
  have hshown : (segments template).map (Segment.shown (render template state).2) =
      (segments template).map (Segment.shown state) :=
    List.map_congr_left fun segment _ => Segment.shown_congr hstats segment
  rw [hshown, render_eq]
  exact Prod.ext rfl (Segment.foldl_effect_foldl_effect (segments template) state)

theorem hasItem_render {template : String} {state : PlayerState} {item : String}
    (hheld : state.hasItem item = true) : (render template state).2.hasItem item = true := by
  rw [render_eq]
  change ((segments template).foldl Segment.effect state).hasItem item = true
  rw [Segment.foldl_effect]
  exact (PlayerState.hasItem_foldl_addItem _ state item).mpr (Or.inl hheld)

end Template

end Gamebook
