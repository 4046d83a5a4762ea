import Gamebook.Proofs.Play.Marking

namespace Gamebook

namespace Template

variable {cs rest inside others : List Char} {segments more : List Segment} {place : Nat}
  {d : Directive}

/-- Whether the last brace before a cut opens, and the first one behind it closes. -/
def CutsThrough (cs rest : List Char) : Prop :=
  (cs.filter isBrace).getLast? = some '{' ∧ (rest.filter isBrace).head? = some '}'

instance (cs rest : List Char) : Decidable (CutsThrough cs rest) :=
  inferInstanceAs (Decidable (_ ∧ _))

theorem filter_isBrace_eq_nil (hplain : ∀ c ∈ cs, isBrace c = false) : cs.filter isBrace = [] := by
  apply List.filter_eq_nil_iff.mpr
  intro c hc
  rw [hplain c hc]
  exact Bool.false_ne_true

theorem getLast?_filter_isBrace (hopen : cs.drop place = '{' :: inside)
    (hplain : ∀ c ∈ inside, isBrace c = false) : (cs.filter isBrace).getLast? = some '{' := by
  have hbrace : isBrace '{' = true := rfl
  rw [← List.take_append_drop place cs, hopen, List.filter_append, List.filter_cons_of_pos hbrace,
    filter_isBrace_eq_nil hplain, List.getLast?_concat]

theorem head?_filter_isBrace (hplain : ∀ c ∈ inside, isBrace c = false) :
    ((inside ++ '}' :: rest).filter isBrace).head? = some '}' := by
  have hbrace : isBrace '}' = true := rfl
  rw [List.filter_append, filter_isBrace_eq_nil hplain, List.filter_cons_of_pos hbrace]
  rfl

theorem DirectiveAt.lt_length (hthere : DirectiveAt cs place d) : place < cs.length := by
  obtain ⟨body, rest, hdrop, -⟩ := hthere
  by_contra hbehind
  rw [List.drop_eq_nil_of_le (Nat.le_of_not_lt hbehind)] at hdrop
  cases hdrop

theorem DirectiveAt.append (hthere : DirectiveAt cs place d) (rest : List Char) :
    DirectiveAt (cs ++ rest) place d := by
  have hplace := hthere.lt_length
  obtain ⟨body, behind, hdrop, hplain, hspells⟩ := hthere
  refine ⟨body, behind ++ rest, ?_, hplain, hspells⟩
  rw [List.drop_append_of_le_length (Nat.le_of_lt hplace), hdrop]
  simp

/-- The directives of two templates that are put together are those of the two, unless there is one
that begins in the first and ends in the second. -/
theorem directiveAt_append (hcut : ¬CutsThrough cs rest) :
    DirectiveAt (cs ++ rest) place d ↔
      DirectiveAt cs place d ∨
        ∃ behind, place = cs.length + behind ∧ DirectiveAt rest behind d := by
  constructor
  · rintro ⟨body, tail, hdrop, hplain, hspells⟩
    rcases Nat.lt_or_ge place cs.length with hbefore | hbehind
    · left
      rw [List.drop_append_of_le_length (Nat.le_of_lt hbefore)] at hdrop
      rcases List.append_eq_append_iff.mp hdrop with ⟨behind, hbody, rfl⟩ | ⟨tail', hfirst, htail⟩
      · obtain ⟨c, inside, hinside⟩ :=
          List.exists_cons_of_ne_nil (List.drop_eq_nil_iff.not.mpr (Nat.not_le_of_lt hbefore))
        rw [hinside, List.cons_append] at hbody
        obtain ⟨rfl, rfl⟩ := List.cons.inj hbody
        rw [List.forall_mem_append] at hplain
        exact absurd ⟨getLast?_filter_isBrace hinside hplain.1, head?_filter_isBrace hplain.2⟩ hcut
      · cases tail' with
        | nil =>
            rw [List.append_nil] at hfirst
            rw [List.nil_append] at htail
            subst htail
            exact absurd ⟨getLast?_filter_isBrace hfirst hplain,
              head?_filter_isBrace (List.forall_mem_nil _)⟩ hcut
        | cons c tail' =>
            obtain ⟨rfl, -⟩ := List.cons.inj htail
            exact ⟨body, tail', hfirst, hplain, hspells⟩
    · right
      obtain ⟨behind, rfl⟩ := Nat.exists_eq_add_of_le hbehind
      rw [List.drop_length_add_append] at hdrop
      exact ⟨behind, rfl, body, tail, hdrop, hplain, hspells⟩
  · rintro (hthere | ⟨behind, rfl, hthere⟩)
    · exact hthere.append rest
    · rwa [DirectiveAt, List.drop_length_add_append]

theorem IsMarked.append (hmarked : IsMarked cs segments) (hmore : IsMarked rest more)
    (hcut : ¬CutsThrough cs rest) : IsMarked (cs ++ rest) (segments ++ more) := by
  constructor
  · rw [List.flatMap_append, hmarked.joined, hmore.joined]
  · intro place d
    rw [standsAt_append, directiveAt_append hcut, hmarked.joined]
    simp only [hmarked.directives, hmore.directives]

theorem render_append {first second : String} (state : PlayerState)
    (hcut : ¬CutsThrough first.toList second.toList) :
    render (first ++ second) state =
      ((render first state).1 ++ (render second (render first state).2).1,
        (render second (render first state).2).2) := by
  have hfirst := isMarked_segments first
  have hsecond := isMarked_segments second
  have hboth := hfirst.append hsecond hcut
  rw [← String.toList_append] at hboth
  have hstats : (render first state).2.stats = state.stats := by rw [render_frame]
  have hshown : (Template.segments second).map (Segment.shown (render first state).2) =
      (Template.segments second).map (Segment.shown state) :=
    List.map_congr_left fun segment _ => Segment.shown_congr hstats segment
  rw [render_eq second, hshown, hboth.render_eq, List.map_append, String.join_append,
    List.foldl_append, render_eq first]

theorem render_append_stray :
    render ("Take \x7bITEM:add:key\x7d, \x7b " ++ "not \x7bSTAT:gold|7\x7d\x7d.")
      ⟨"ada", "cave", "start", ∅, [], [], none⟩ =
        ("Take , \x7b not 7\x7d.", ⟨"ada", "cave", "start", ∅, ["key"], [], none⟩) := by
  rw [render_append _ (by decide)]
  decide +kernel

/-- A directive that the cut goes through is found in neither part. -/
example : CutsThrough "\x7bEND:".toList "lost\x7d".toList ∧
    (render ("\x7bEND:" ++ "lost\x7d") ⟨"ada", "cave", "start", ∅, [], [], none⟩).1 = "" ∧
    (render "\x7bEND:" ⟨"ada", "cave", "start", ∅, [], [], none⟩).1 = "\x7bEND:" := by
  decide +kernel

end Template

end Gamebook
