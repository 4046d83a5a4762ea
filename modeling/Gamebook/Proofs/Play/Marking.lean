import Gamebook.Proofs.Play.Rendering
import Gamebook.Proofs.Play.Segments
import Mathlib.Data.List.Forall2

/-!
Rendering in closed form. A template is marked when it is put together from segments of which the
directives are those of the template; its text may be cut at any place (`IsMarked`). Cut into single
characters, it is marked in one way only (`IsMarked.eq_of_letters`), so that each way leads to the
same page: text is kept, and every directive is replaced by what it shows to the player who comes to
the template. What the player leaves with is the items that were not held before, each where it was
first given, and the last ending (`renders_marked`).
-/

namespace Gamebook

namespace Segment

/-- What stands in the place of a segment when it is shown to a player: text stands for itself, a
stat for its value in decimal, or for the digits that are given for the case that it is not set, or
else for a zero, and the other directives for nothing. -/
inductive Shows (state : PlayerState) : Segment → String → Prop
  | text (s : String) : Shows state (.text s) s
  | value {name : String} {default : Option String} {value : Int64}
      (hset : state.stats.find? name = some value) :
    Shows state (.directive (.stat name default)) (Text.numeral value.toInt)
  | digits {name digits : String} (hunset : state.stats.find? name = none) (hdigits : digits ≠ "") :
    Shows state (.directive (.stat name (some digits))) digits
  | zero {name : String} {default : Option String} (hunset : state.stats.find? name = none)
      (hnone : ∀ digits ∈ default, digits = "") :
    Shows state (.directive (.stat name default)) "0"
  | addItem (item : String) : Shows state (.directive (.addItem item)) ""
  | ending (kind : String) : Shows state (.directive (.ending kind)) ""

theorem shows_shown (state : PlayerState) (segment : Segment) :
    Shows state segment (segment.shown state) := by
  cases segment with
  | text s => exact .text s
  | directive d =>
      cases d with
      | addItem item => exact .addItem item
      | ending kind => exact .ending kind
      | stat name default =>
          simp only [shown, Directive.expansion, PlayerState.stat?]
          split
          · rename_i value hvalue
            exact .value hvalue
          · rename_i hunset
            split
            · exact .zero hunset (by simp)
            · exact .zero hunset (by simp)
            · rename_i digits hdigits
              exact .digits hunset hdigits

/-- Text in single characters. -/
def letters : Segment → List Segment
  | .text s => s.toList.map fun c => .text (String.singleton c)
  | .directive d => [.directive d]

/-- Whether a segment is not cut any further. -/
inductive IsLetter : Segment → Prop
  | text (c : Char) : IsLetter (.text (String.singleton c))
  | directive (d : Directive) : IsLetter (.directive d)

theorem isLetter_of_mem_letters {segment letter : Segment} (hmem : letter ∈ segment.letters) :
    letter.IsLetter := by
  cases segment with
  | text s =>
      obtain ⟨c, -, rfl⟩ := List.mem_map.mp hmem
      exact .text c
  | directive d =>
      rw [List.mem_singleton.mp hmem]
      exact .directive d

theorem IsLetter.source_length_pos {letter : Segment} (hletter : letter.IsLetter) :
    0 < letter.source.length := by
  cases hletter with
  | text c => simp [source]
  | directive d => simp [source]

@[simp] theorem flatMap_source_letters (segment : Segment) :
    segment.letters.flatMap source = segment.source := by
  cases segment with
  | text s => simp [letters, source, List.flatMap_map]
  | directive d => simp [letters]

theorem join_shown_letters (state : PlayerState) (segment : Segment) :
    String.join (segment.letters.map (shown state)) = segment.shown state := by
  cases segment with
  | text s =>
      rw [← String.toList_inj, letters, List.map_map]
      simp only [shown, String.toList_join, List.flatMap_map, Function.comp_apply,
        String.toList_singleton, List.flatMap_singleton']
  | directive d => simp [letters]

theorem foldl_effect_letters (state : PlayerState) (segment : Segment) :
    segment.letters.foldl effect state = segment.effect state := by
  cases segment with
  | text s =>
      rw [letters, List.foldl_map]
      exact List.foldl_fixed s.toList
  | directive d => rfl

end Segment

namespace Template

variable {cs rest : List Char} {segment other : Segment} {segments others : List Segment}
  {place : Nat} {d : Directive}

/-- Whether segments make up a template, with its directives among them at their places. Text may
be cut at any place. -/
structure IsMarked (cs : List Char) (segments : List Segment) : Prop where
  joined : segments.flatMap Segment.source = cs
  directives : ∀ place d, StandsAt segments place (.directive d) ↔ DirectiveAt cs place d

theorem isMarked_segments (template : String) :
    IsMarked template.toList (Template.segments template) :=
  have hcut := isCut_segments template
  ⟨hcut.joined, hcut.directives⟩

theorem standsAt_letters :
    StandsAt segment.letters place (.directive d) ↔ place = 0 ∧ segment = .directive d := by
  cases segment with
  | text s =>
      constructor
      · rintro ⟨before, after, hletters, -⟩
        have hmem : Segment.directive d ∈ (Segment.text s).letters := by simp [hletters]
        simp [Segment.letters] at hmem
      · rintro ⟨-, hsegment⟩
        cases hsegment
  | directive found =>
      rw [Segment.letters, standsAt_cons]
      simp [not_standsAt_nil]

theorem standsAt_flatMap_letters :
    StandsAt (segments.flatMap Segment.letters) place (.directive d) ↔
      StandsAt segments place (.directive d) := by
  induction segments generalizing place with
  | nil => rfl
  | cons segment segments ih =>
      rw [List.flatMap_cons, standsAt_append, standsAt_letters, standsAt_cons,
        Segment.flatMap_source_letters]
      simp only [ih]

theorem isMarked_letters_iff :
    IsMarked cs (segments.flatMap Segment.letters) ↔ IsMarked cs segments := by
  have hjoined : (segments.flatMap Segment.letters).flatMap Segment.source =
      segments.flatMap Segment.source := by
    rw [List.flatMap_assoc]
    simp only [Segment.flatMap_source_letters]
  constructor
  · intro hmarked
    refine ⟨hjoined.symm.trans hmarked.joined, fun place d => ?_⟩
    exact standsAt_flatMap_letters.symm.trans (hmarked.directives place d)
  · intro hmarked
    refine ⟨hjoined.trans hmarked.joined, fun place d => ?_⟩
    exact standsAt_flatMap_letters.trans (hmarked.directives place d)

theorem IsMarked.tail (hmarked : IsMarked (segment.source ++ rest) (segment :: segments))
    (hletter : segment.IsLetter) : IsMarked rest segments := by
  obtain ⟨hjoined, hdirectives⟩ := hmarked
  rw [List.flatMap_cons] at hjoined
  refine ⟨List.append_cancel_left hjoined, fun place d => ?_⟩
  have hthere := hdirectives (segment.source.length + place) d
  have hpos := hletter.source_length_pos
  rw [DirectiveAt, List.drop_length_add_append, ← DirectiveAt, standsAt_cons] at hthere
  rw [← hthere]
  constructor
  · intro hplace
    exact Or.inr ⟨place, rfl, hplace⟩
  · rintro (⟨hzero, -⟩ | ⟨behind, hsame, hbehind⟩)
    · omega
    · rwa [Nat.add_left_cancel hsame]

theorem IsMarked.directiveAt_zero (hmarked : IsMarked cs (segment :: segments))
    (hletter : segment.IsLetter) : DirectiveAt cs 0 d ↔ segment = .directive d := by
  have hpos := hletter.source_length_pos
  rw [← hmarked.directives, standsAt_cons]
  constructor
  · rintro (⟨-, hsegment⟩ | ⟨behind, hzero, -⟩)
    · exact hsegment
    · omega
  · intro hsegment
    exact Or.inl ⟨rfl, hsegment⟩

theorem IsMarked.eq_nil (hmarked : IsMarked [] segments)
    (hletters : ∀ letter ∈ segments, letter.IsLetter) : segments = [] := by
  cases segments with
  | nil => rfl
  | cons segment segments =>
      have hpos := (hletters segment (List.mem_cons_self ..)).source_length_pos
      have hjoined := hmarked.joined
      rw [List.flatMap_cons, List.append_eq_nil_iff] at hjoined
      rw [hjoined.1] at hpos
      exact absurd hpos (Nat.lt_irrefl 0)

theorem IsMarked.head_eq (hmarked : IsMarked cs (segment :: segments))
    (hother : IsMarked cs (other :: others)) (hletter : segment.IsLetter)
    (hletter' : other.IsLetter) : segment = other := by
  cases hletter with
  | directive d =>
      have hthere := (hmarked.directiveAt_zero (.directive d)).mpr rfl
      exact ((hother.directiveAt_zero hletter').mp hthere).symm
  | text c =>
      cases hletter' with
      | directive d =>
          have hthere := (hother.directiveAt_zero (.directive d)).mpr rfl
          exact (hmarked.directiveAt_zero (.text c)).mp hthere
      | text first =>
          have hjoined := hmarked.joined.trans hother.joined.symm
          simp only [List.flatMap_cons, Segment.source, String.toList_singleton,
            List.singleton_append] at hjoined
          rw [(List.cons.inj hjoined).1]

/-- Cut into single characters, a template is marked in one way only. -/
theorem IsMarked.eq_of_letters (hmarked : IsMarked cs segments) (hother : IsMarked cs others)
    (hletters : ∀ letter ∈ segments, letter.IsLetter)
    (hothers : ∀ letter ∈ others, letter.IsLetter) : segments = others := by
  induction segments generalizing cs others with
  | nil =>
      obtain rfl : [] = cs := hmarked.joined
      exact (hother.eq_nil hothers).symm
  | cons segment segments ih =>
      cases others with
      | nil =>
          obtain rfl : [] = cs := hother.joined
          exact hmarked.eq_nil hletters
      | cons other others =>
          rw [List.forall_mem_cons] at hletters hothers
          obtain rfl := hmarked.head_eq hother hletters.1 hothers.1
          obtain rfl : segment.source ++ segments.flatMap Segment.source = cs := hmarked.joined
          rw [ih (hmarked.tail hletters.1) (hother.tail hletters.1) hletters.2 hothers.2]

theorem IsMarked.letters_eq (hmarked : IsMarked cs segments) (hother : IsMarked cs others) :
    segments.flatMap Segment.letters = others.flatMap Segment.letters := by
  apply (isMarked_letters_iff.mpr hmarked).eq_of_letters (isMarked_letters_iff.mpr hother)
  · exact List.forall_mem_flatMap.mpr fun _ _ _ hmem => Segment.isLetter_of_mem_letters hmem
  · exact List.forall_mem_flatMap.mpr fun _ _ _ hmem => Segment.isLetter_of_mem_letters hmem

theorem join_shown_flatMap_letters (segments : List Segment) (state : PlayerState) :
    String.join ((segments.flatMap Segment.letters).map (Segment.shown state)) =
      String.join (segments.map (Segment.shown state)) := by
  induction segments with
  | nil => rfl
  | cons segment segments ih =>
      rw [List.flatMap_cons, List.map_append, String.join_append, ih,
        Segment.join_shown_letters, List.map_cons, String.join_cons]

theorem foldl_effect_flatMap_letters (segments : List Segment) (state : PlayerState) :
    (segments.flatMap Segment.letters).foldl Segment.effect state =
      segments.foldl Segment.effect state := by
  simp only [List.foldl_flatMap, Segment.foldl_effect_letters]

theorem IsMarked.render_eq {template : String} (hmarked : IsMarked template.toList segments)
    (state : PlayerState) :
    render template state =
      (String.join (segments.map (Segment.shown state)), segments.foldl Segment.effect state) := by
  have hsame := hmarked.letters_eq (isMarked_segments template)
  rw [Template.render_eq, ← join_shown_flatMap_letters segments,
    ← foldl_effect_flatMap_letters segments, hsame, join_shown_flatMap_letters,
    foldl_effect_flatMap_letters]

theorem renders_marked (template : String) (state : PlayerState) :
    (∃ segments, IsMarked template.toList segments) ∧
    ∀ segments, IsMarked template.toList segments →
      ∃ texts, List.Forall₂ (Segment.Shows state) segments texts ∧
        render template state =
          (String.join texts,
            { state with
              inventory := state.inventory ++
                ((segments.filterMap Segment.item?).filter (· ∉ state.inventory)).eraseDups
              ending := (segments.filterMap Segment.ending?).getLast?.or state.ending }) := by
  refine ⟨⟨_, isMarked_segments template⟩, fun segments hmarked => ?_⟩
  refine ⟨segments.map (Segment.shown state), ?_, ?_⟩
  · rw [List.forall₂_map_right_iff, List.forall₂_same]
    exact fun segment _ => Segment.shows_shown state segment
  · rw [hmarked.render_eq, Segment.foldl_effect, PlayerState.foldl_addItem_frame,
      PlayerState.inventory_foldl_addItem]

/-- What is left around a directive is not read once more. -/
theorem renders_marked_around :
    IsMarked "\x7bST\x7bITEM:add:key\x7dAT:gold\x7d".toList
      [.text "\x7bST", .directive (.addItem "key"), .text "AT:gold\x7d"] ∧
    render "\x7bST\x7bITEM:add:key\x7dAT:gold\x7d"
        ⟨"ada", "cave", "start", ∅, ["lamp"], [], none⟩ =
      ("\x7bSTAT:gold\x7d", ⟨"ada", "cave", "start", ∅, ["lamp", "key"], [], none⟩) := by
  have hmarked : IsMarked "\x7bST\x7bITEM:add:key\x7dAT:gold\x7d".toList
      [.text "\x7bST", .directive (.addItem "key"), .text "AT:gold\x7d"] := by
    have hletters := isMarked_letters_iff.mpr
      (isMarked_segments "\x7bST\x7bITEM:add:key\x7dAT:gold\x7d")
    refine isMarked_letters_iff.mp (Eq.mp (congrArg _ ?_) hletters)
    decide +kernel
  obtain ⟨texts, hshown, hrender⟩ := (renders_marked _
    ⟨"ada", "cave", "start", ∅, ["lamp"], [], none⟩).2 _ hmarked
  obtain _ | ⟨⟨⟩, _ | ⟨⟨⟩, _ | ⟨⟨⟩, ⟨⟩⟩⟩⟩ := hshown
  exact ⟨hmarked, hrender.trans (by decide +kernel)⟩

end Template

end Gamebook
