import Gamebook.Play.Template
import Gamebook.Proofs.Text.Numerals
import Mathlib.Data.List.TakeWhile

/-!
How templates are cut into segments. What is recognised between braces is the grammar of directives
(`ofBody?_eq_some_iff`). A template begins with a directive, with a brace that begins none, or with
the text up to the next brace (`Opens`), and cutting it takes one of these after the other
(`splits_segmentsOf`). So nothing is lost, and a directive is found exactly where one stands
(`isCut_segments`).
-/

namespace Gamebook

namespace Directive

/-- Whether a character is a letter or a digit of ASCII, or the underscore. -/
def IsWordChar (c : Char) : Prop :=
  ('A' ≤ c ∧ c ≤ 'Z') ∨ ('a' ≤ c ∧ c ≤ 'z') ∨ ('0' ≤ c ∧ c ≤ '9') ∨ c = '_'

/-- The grammar of directives: what stands between braces, and the directive that it is. -/
inductive Spells : List Char → Directive → Prop
  | stat {name : List Char} (hname : name ≠ []) (hchars : ∀ c ∈ name, IsWordChar c) :
    Spells ("STAT:".toList ++ name) (.stat (String.ofList name) none)
  | statOr {name digits : List Char} (hname : name ≠ []) (hchars : ∀ c ∈ name, IsWordChar c)
      (hdigits : ∀ c ∈ digits, '0' ≤ c ∧ c ≤ '9') :
    Spells ("STAT:".toList ++ name ++ '|' :: digits)
      (.stat (String.ofList name) (some (String.ofList digits)))
  | addItem {item : List Char} (hitem : item ≠ []) :
    Spells ("ITEM:add:".toList ++ item) (.addItem (String.ofList item))
  | ending {kind : List Char} (hkind : kind ≠ []) :
    Spells ("END:".toList ++ kind) (.ending (String.ofList kind))

variable {body name cs rest : List Char} {d : Directive}

theorem isNameChar_iff {c : Char} : isNameChar c = true ↔ IsWordChar c := by
  have hupper : c.isUpper = true ↔ 'A' ≤ c ∧ c ≤ 'Z' := decide_eq_true_iff
  have hlower : c.isLower = true ↔ 'a' ≤ c ∧ c ≤ 'z' :=
    (Bool.and_eq_true _ _).to_iff.trans (and_congr decide_eq_true_iff decide_eq_true_iff)
  have halpha : c.isAlpha = (c.isUpper || c.isLower) := rfl
  simp only [isNameChar, IsWordChar, Char.isAlphanum, halpha, Bool.or_eq_true, hupper, hlower,
    Text.isDigit_iff, decide_eq_true_iff, or_assoc]

theorem not_isWordChar_bar : ¬IsWordChar '|' := by
  unfold IsWordChar
  decide

theorem splitBar_of_not_mem (hbar : '|' ∉ cs) : splitBar cs = (cs, none) := by
  have hdrop : cs.dropWhile (· ≠ '|') = [] :=
    List.dropWhile_eq_nil_iff.mpr fun c hc => decide_eq_true fun heq => hbar (heq ▸ hc)
  rw [splitBar, hdrop]

theorem splitBar_append (hbar : '|' ∉ name) :
    splitBar (name ++ '|' :: rest) = (name, some rest) := by
  have hname : ∀ c ∈ name, decide (c ≠ '|') = true :=
    fun c hc => decide_eq_true fun heq => hbar (heq ▸ hc)
  rw [splitBar, List.dropWhile_append_of_pos hname, List.takeWhile_append_of_pos hname]
  simp

theorem ofStat?_of_not_mem (hbar : '|' ∉ cs) :
    ofStat? cs = some d ↔
      cs ≠ [] ∧ (∀ c ∈ cs, IsWordChar c) ∧ .stat (String.ofList cs) none = d := by
  rw [ofStat?, splitBar_of_not_mem hbar]
  change (if cs ≠ [] ∧ cs.all isNameChar = true ∧ true = true then _ else none) = _ ↔ _
  simp [isNameChar_iff, and_assoc]

theorem ofStat?_append {digits : List Char} (hbar : '|' ∉ name) :
    ofStat? (name ++ '|' :: digits) = some d ↔
      name ≠ [] ∧ (∀ c ∈ name, IsWordChar c) ∧ (∀ c ∈ digits, '0' ≤ c ∧ c ≤ '9') ∧
        .stat (String.ofList name) (some (String.ofList digits)) = d := by
  rw [ofStat?, splitBar_append hbar]
  simp [isNameChar_iff, Text.isDigit_iff, and_assoc]

theorem spells_of_ofStat? (hstat : ofStat? cs = some d) : Spells ("STAT:".toList ++ cs) d := by
  by_cases hbar : '|' ∈ cs
  · obtain ⟨name, digits, rfl, hfirst⟩ := List.eq_append_cons_of_mem hbar
    obtain ⟨hname, hchars, hdigits, rfl⟩ := (ofStat?_append hfirst).mp hstat
    rw [← List.append_assoc]
    exact .statOr hname hchars hdigits
  · obtain ⟨hname, hchars, rfl⟩ := (ofStat?_of_not_mem hbar).mp hstat
    exact .stat hname hchars

theorem ofBody?_eq_some_iff : ofBody? body = some d ↔ Spells body d := by
  constructor
  · intro hbody
    rw [ofBody?] at hbody
    split at hbody
    · rename_i rest hstat
      rw [afterStart_eq_some_iff.mp hstat]
      exact spells_of_ofStat? hbody
    · split at hbody
      · cases hbody
      · rename_i item hitem hstart
        rw [afterStart_eq_some_iff.mp hstart]
        cases hbody
        exact .addItem fun hnil => hitem hnil
      · split at hbody
        · cases hbody
        · rename_i kind hkind hstart
          rw [afterStart_eq_some_iff.mp hstart]
          cases hbody
          exact .ending fun hnil => hkind hnil
        · cases hbody
  · intro hspells
    have hbar : ∀ {name : List Char}, (∀ c ∈ name, IsWordChar c) → '|' ∉ name :=
      fun hchars hbar => not_isWordChar_bar (hchars _ hbar)
    cases hspells with
    | stat hname hchars =>
        exact (ofStat?_of_not_mem (hbar hchars)).mpr ⟨hname, hchars, rfl⟩
    | statOr hname hchars hdigits =>
        exact (ofStat?_append (hbar hchars)).mpr ⟨hname, hchars, hdigits, rfl⟩
    | @addItem item hitem =>
        cases item with
        | nil => exact absurd rfl hitem
        | cons c rest => rfl
    | @ending kind hkind =>
        cases kind with
        | nil => exact absurd rfl hkind
        | cons c rest => rfl

theorem Spells.body_eq (hspells : Spells body d) : d.body = body := by
  cases hspells with
  | stat hname hchars => simp [Directive.body]
  | statOr hname hchars hdigits => simp [Directive.body]
  | addItem hitem => simp [Directive.body]
  | ending hkind => simp [Directive.body]

theorem Spells.unique {other : Directive} (hspells : Spells body d) (hother : Spells body other) :
    d = other := by
  rw [← ofBody?_eq_some_iff] at hspells hother
  exact Option.some.inj (hspells.symm.trans hother)

end Directive

namespace Template

variable {cs body rest : List Char} {segment other : Segment} {segments : List Segment}
  {place : Nat} {d : Directive}

theorem run_append_afterRun (cs : List Char) : run cs ++ afterRun cs = cs :=
  List.takeWhile_append_dropWhile

theorem plain_run {c : Char} (hc : c ∈ run cs) : isBrace c = false := by
  have hplain := List.mem_takeWhile_imp hc
  simpa using hplain

theorem head_afterRun {c : Char} (hc : (afterRun cs).head? = some c) : isBrace c = true := by
  have hbrace := List.head?_dropWhile_not (fun c => !isBrace c) cs
  rw [afterRun] at hc
  rw [hc] at hbrace
  simpa using hbrace

theorem run_append {c : Char} (hplain : ∀ c ∈ body, isBrace c = false) (hc : isBrace c = true) :
    run (body ++ c :: rest) = body := by
  have hbody : ∀ c ∈ body, (!isBrace c) = true := fun c hmem => by rw [hplain c hmem]; rfl
  rw [run, List.takeWhile_append_of_pos hbody, List.takeWhile_cons_of_neg (by simp [hc]),
    List.append_nil]

theorem afterRun_append {c : Char} (hplain : ∀ c ∈ body, isBrace c = false)
    (hc : isBrace c = true) : afterRun (body ++ c :: rest) = c :: rest := by
  have hjoin := run_append_afterRun (body ++ c :: rest)
  rw [run_append hplain hc] at hjoin
  exact List.append_cancel_left hjoin

theorem directive?_eq_some_iff :
    directive? cs = some (d, rest) ↔
      ∃ body, cs = body ++ '}' :: rest ∧ (∀ c ∈ body, isBrace c = false) ∧
        Directive.Spells body d := by
  constructor
  · intro hdirective
    rw [directive?] at hdirective
    split at hdirective
    · rename_i tail htail
      cases hbody : Directive.ofBody? (run cs) with
      | none =>
          rw [hbody] at hdirective
          cases hdirective
      | some found =>
          rw [hbody] at hdirective
          cases hdirective
          refine ⟨run cs, ?_, fun c hc => plain_run hc, Directive.ofBody?_eq_some_iff.mp hbody⟩
          rw [← htail, run_append_afterRun]
    · cases hdirective
  · rintro ⟨body, rfl, hplain, hspells⟩
    rw [directive?, afterRun_append hplain rfl, run_append hplain rfl]
    simp only [Directive.ofBody?_eq_some_iff.mpr hspells, Option.map_some]

/-- Whether a directive stands at a place of a template: behind the opening brace that is there
comes the text of this directive, and then a closing brace, with no other brace in between. -/
def DirectiveAt (cs : List Char) (place : Nat) (d : Directive) : Prop :=
  ∃ body rest, cs.drop place = '{' :: body ++ '}' :: rest ∧ (∀ c ∈ body, isBrace c = false) ∧
    Directive.Spells body d

/-- What a template can begin with, and what follows: a directive, a brace that begins none, or the
text up to the next brace. -/
inductive Opens : List Char → Segment → List Char → Prop
  | directive {body rest : List Char} {d : Directive} (hplain : ∀ c ∈ body, isBrace c = false)
      (hspells : Directive.Spells body d) :
    Opens ('{' :: body ++ '}' :: rest) (.directive d) rest
  | brace {c : Char} {rest : List Char} (hbrace : isBrace c = true)
      (hnone : ∀ d, ¬DirectiveAt (c :: rest) 0 d) :
    Opens (c :: rest) (.text (String.singleton c)) rest
  | run {run rest : List Char} (hne : run ≠ []) (hplain : ∀ c ∈ run, isBrace c = false)
      (hnext : ∀ c, rest.head? = some c → isBrace c = true) :
    Opens (run ++ rest) (.text (String.ofList run)) rest

/-- A template that is cut into segments: each of them is what the rest of the template begins
with. -/
inductive Splits : List Char → List Segment → Prop
  | nil : Splits [] []
  | cons {cs rest : List Char} {segment : Segment} {segments : List Segment}
      (hopens : Opens cs segment rest) (hsplits : Splits rest segments) :
    Splits cs (segment :: segments)

theorem splits_segmentsOf (cs : List Char) : Splits cs (segmentsOf cs) := by
  fun_induction segmentsOf cs with
  | case1 => exact .nil
  | case2 cs d rest hdirective ih =>
      obtain ⟨body, rfl, hplain, hspells⟩ := directive?_eq_some_iff.mp hdirective
      exact .cons (.directive hplain hspells) ih
  | case3 cs hdirective ih =>
      refine .cons (.brace rfl ?_) ih
      rintro d ⟨body, rest, hthere, hplain, hspells⟩
      have hcs : cs = body ++ '}' :: rest := (List.cons.inj hthere).2
      rw [directive?_eq_some_iff.mpr ⟨body, hcs, hplain, hspells⟩] at hdirective
      cases hdirective
  | case4 cs ih =>
      refine .cons (.brace rfl ?_) ih
      rintro d ⟨body, rest, hthere, -⟩
      cases hthere
  | case5 c cs hopen hclose ih =>
      have hc : isBrace c = false := by
        simp only [isBrace, Bool.or_eq_false_iff, decide_eq_false_iff_not]
        exact ⟨hopen, hclose⟩
      have hcut : c :: cs = (c :: run cs) ++ afterRun cs := by
        rw [List.cons_append, run_append_afterRun]
      rw [hcut]
      refine .cons (.run (List.cons_ne_nil _ _) ?_ fun _ => head_afterRun) ih
      intro x hx
      rcases List.mem_cons.mp hx with rfl | hx
      · exact hc
      · exact plain_run hx

theorem Opens.source_append (hopens : Opens cs segment rest) : segment.source ++ rest = cs := by
  cases hopens with
  | directive hplain hspells => simp [Segment.source, hspells.body_eq]
  | brace hbrace hnone => simp [Segment.source]
  | run hne hplain hnext => simp [Segment.source]

theorem Opens.ne_open_of_mem_tail (hopens : Opens cs segment rest) {c : Char}
    (hc : c ∈ segment.source.tail) : c ≠ '{' := by
  rintro rfl
  cases hopens with
  | directive hplain hspells =>
      simp [Segment.source, hspells.body_eq] at hc
      cases hplain _ hc
  | brace hbrace hnone => simp [Segment.source] at hc
  | run hne hplain hnext =>
      rw [Segment.source, String.toList_ofList] at hc
      cases hplain _ (List.mem_of_mem_tail hc)

theorem Opens.directiveAt_zero (hopens : Opens cs segment rest) :
    DirectiveAt cs 0 d ↔ segment = .directive d := by
  cases hopens with
  | @directive body rest found hplain hspells =>
      constructor
      · rintro ⟨other, tail, hthere, hother, hd⟩
        have hsame : body ++ '}' :: rest = other ++ '}' :: tail := (List.cons.inj hthere).2
        have hbody := congrArg Template.run hsame
        rw [run_append hplain rfl, run_append hother rfl] at hbody
        subst hbody
        rw [hspells.unique hd]
      · intro hsegment
        cases hsegment
        exact ⟨body, rest, rfl, hplain, hspells⟩
  | brace hbrace hnone =>
      constructor
      · intro hthere
        exact absurd hthere (hnone d)
      · intro hsegment
        cases hsegment
  | @run run rest hne hplain hnext =>
      constructor
      · rintro ⟨body, tail, hthere, -⟩
        obtain ⟨c, others, rfl⟩ := List.exists_cons_of_ne_nil hne
        cases (List.cons.inj hthere).1
        cases hplain '{' (List.mem_cons_self ..)
      · intro hsegment
        cases hsegment

/-- Whether a segment stands at a place: this is how much text comes before it. -/
def StandsAt (segments : List Segment) (place : Nat) (segment : Segment) : Prop :=
  ∃ before after, segments = before ++ segment :: after ∧
    (before.flatMap Segment.source).length = place

theorem not_standsAt_nil : ¬StandsAt [] place segment := by
  rintro ⟨before, after, hnil, -⟩
  simp at hnil

theorem standsAt_cons :
    StandsAt (segment :: segments) place other ↔
      (place = 0 ∧ segment = other) ∨
        ∃ behind, place = segment.source.length + behind ∧ StandsAt segments behind other := by
  constructor
  · rintro ⟨before, after, hsegments, rfl⟩
    cases before with
    | nil =>
        left
        exact ⟨rfl, (List.cons.inj hsegments).1⟩
    | cons first before =>
        right
        obtain ⟨rfl, hrest⟩ := List.cons.inj hsegments
        exact ⟨_, List.length_append, before, after, hrest, rfl⟩
  · rintro (⟨rfl, rfl⟩ | ⟨behind, rfl, before, after, rfl, rfl⟩)
    · exact ⟨[], segments, rfl, rfl⟩
    · exact ⟨segment :: before, after, rfl, List.length_append⟩

theorem standsAt_append {others : List Segment} :
    StandsAt (segments ++ others) place segment ↔
      StandsAt segments place segment ∨
        ∃ behind, place = (segments.flatMap Segment.source).length + behind ∧
          StandsAt others behind segment := by
  constructor
  · rintro ⟨before, after, hjoin, rfl⟩
    rcases List.append_eq_append_iff.mp hjoin with ⟨between, rfl, rfl⟩ | ⟨between, rfl, hafter⟩
    · right
      refine ⟨(between.flatMap Segment.source).length, ?_, between, after, rfl, rfl⟩
      rw [List.flatMap_append, List.length_append]
    · cases between with
      | nil =>
          right
          refine ⟨0, ?_, [], after, hafter.symm, rfl⟩
          rw [List.append_nil, Nat.add_zero]
      | cons first between =>
          left
          obtain ⟨rfl, -⟩ := List.cons.inj hafter
          exact ⟨before, between, rfl, rfl⟩
  · rintro (⟨before, after, rfl, rfl⟩ | ⟨behind, rfl, before, after, rfl, rfl⟩)
    · exact ⟨before, after ++ others, by simp, rfl⟩
    · exact ⟨segments ++ before, after, by simp, by simp⟩

theorem Opens.directiveAt_add (hopens : Opens cs segment rest) (behind : Nat) :
    DirectiveAt cs (segment.source.length + behind) d ↔ DirectiveAt rest behind d := by
  rw [DirectiveAt, DirectiveAt, ← hopens.source_append, List.drop_length_add_append]

theorem Opens.directiveAt_iff (hopens : Opens cs segment rest) :
    DirectiveAt cs place d ↔
      (place = 0 ∧ segment = .directive d) ∨
        ∃ behind, place = segment.source.length + behind ∧ DirectiveAt rest behind d := by
  constructor
  · intro hthere
    rcases Nat.eq_zero_or_pos place with rfl | hpos
    · exact Or.inl ⟨rfl, hopens.directiveAt_zero.mp hthere⟩
    · right
      have houtside : segment.source.length ≤ place := by
        by_contra hinside
        obtain ⟨body, tail, hdrop, -⟩ := hthere
        have hopening : cs[place]? = some '{' := by
          rw [← List.head?_drop, hdrop]
          rfl
        rw [← hopens.source_append, List.getElem?_append_left (Nat.lt_of_not_le hinside)] at hopening
        obtain ⟨before, rfl⟩ := Nat.exists_eq_add_of_lt hpos
        rw [Nat.zero_add, ← List.getElem?_tail] at hopening
        exact hopens.ne_open_of_mem_tail (List.mem_of_getElem? hopening) rfl
      obtain ⟨behind, rfl⟩ := Nat.exists_eq_add_of_le houtside
      exact ⟨behind, rfl, (hopens.directiveAt_add behind).mp hthere⟩
  · rintro (⟨rfl, hsegment⟩ | ⟨behind, rfl, hthere⟩)
    · exact hopens.directiveAt_zero.mpr hsegment
    · exact (hopens.directiveAt_add behind).mpr hthere

theorem Splits.standsAt_directive_iff (hsplits : Splits cs segments) :
    StandsAt segments place (.directive d) ↔ DirectiveAt cs place d := by
  induction hsplits generalizing place with
  | nil =>
      constructor
      · intro hnil
        exact absurd hnil not_standsAt_nil
      · rintro ⟨body, rest, hthere, -⟩
        simp at hthere
  | cons hopens hsplits ih =>
      rw [standsAt_cons, hopens.directiveAt_iff]
      simp only [ih]

theorem Splits.flatMap_source (hsplits : Splits cs segments) :
    segments.flatMap Segment.source = cs := by
  induction hsplits with
  | nil => rfl
  | cons hopens hsplits ih => rw [List.flatMap_cons, ih, hopens.source_append]

/-- Whether text stands at a place of a template between braces, or between a brace and an end of
the template. -/
structure IsRun (cs : List Char) (place : Nat) (text : List Char) : Prop where
  nonempty : text ≠ []
  plain : ∀ c ∈ text, isBrace c = false
  /-- It stands there, and a brace or nothing comes after it. -/
  stops : ∃ rest, cs.drop place = text ++ rest ∧ ∀ c, rest.head? = some c → isBrace c = true
  /-- A brace or nothing comes before it. -/
  starts : ∀ c, (cs.take place).getLast? = some c → isBrace c = true

theorem Opens.meets (hopens : Opens cs segment rest) :
    (∀ c, segment.source.getLast? = some c → isBrace c = true) ∨
      ∀ c, rest.head? = some c → isBrace c = true := by
  cases hopens with
  | directive hplain hspells =>
      left
      intro c hc
      rw [Segment.source, List.getLast?_concat] at hc
      cases hc
      rfl
  | brace hbrace hnone =>
      left
      intro c hc
      simp only [Segment.source, String.toList_singleton, List.getLast?_singleton] at hc
      cases hc
      exact hbrace
  | run hne hplain hnext => exact Or.inr hnext

theorem Opens.isRun_add {text : List Char} (hopens : Opens cs segment rest) {behind : Nat}
    (hrun : IsRun rest behind text) : IsRun cs (segment.source.length + behind) text := by
  obtain ⟨hne, hplain, hstops, hstarts⟩ := hrun
  refine ⟨hne, hplain, ?_, ?_⟩
  · rwa [← hopens.source_append, List.drop_length_add_append]
  · intro c hc
    rw [← hopens.source_append, List.take_length_add_append, List.getLast?_append] at hc
    cases hlast : (rest.take behind).getLast? with
    | some last =>
        rw [hlast] at hc
        cases hc
        exact hstarts c hlast
    | none =>
        rw [hlast, Option.none_or] at hc
        rcases hopens.meets with hends | hnext
        · exact hends c hc
        · -- the text would begin with the brace that follows the segment
          obtain ⟨tail, hthere, -⟩ := hstops
          obtain ⟨first, others, rfl⟩ := List.exists_cons_of_ne_nil hne
          have hhead : rest.head? = some first := by
            rw [← List.take_append_drop behind rest, List.getLast?_eq_none_iff.mp hlast, hthere]
            rfl
          have hfirst := hnext first hhead
          rw [hplain first (List.mem_cons_self ..)] at hfirst
          cases hfirst

theorem Splits.text_cases {s : String} (hsplits : Splits cs segments)
    (htext : StandsAt segments place (.text s)) :
    (∃ c, isBrace c = true ∧ s = String.singleton c) ∨ IsRun cs place s.toList := by
  induction hsplits generalizing place with
  | nil => exact absurd htext not_standsAt_nil
  | cons hopens hsplits ih =>
      rcases standsAt_cons.mp htext with ⟨rfl, rfl⟩ | ⟨behind, rfl, hbehind⟩
      · cases hopens with
        | brace hbrace hnone => exact Or.inl ⟨_, hbrace, rfl⟩
        | run hne hplain hnext =>
            right
            rw [String.toList_ofList]
            refine ⟨hne, hplain, ⟨_, rfl, hnext⟩, ?_⟩
            intro c hc
            cases hc
      · rcases ih hbehind with hbrace | hrun
        · exact Or.inl hbrace
        · exact Or.inr (hopens.isRun_add hrun)

theorem StandsAt.apart {there : Nat} (hplace : StandsAt segments place segment)
    (hthere : StandsAt segments there other) :
    place + segment.source.length ≤ there ∨ there + other.source.length ≤ place ∨
      (place = there ∧ segment = other) := by
  induction segments generalizing place there with
  | nil => exact absurd hplace not_standsAt_nil
  | cons first segments ih =>
      rcases standsAt_cons.mp hplace with ⟨rfl, rfl⟩ | ⟨behind, rfl, hbehind⟩
      · rcases standsAt_cons.mp hthere with ⟨rfl, rfl⟩ | ⟨behind, rfl, -⟩
        · exact Or.inr (Or.inr ⟨rfl, rfl⟩)
        · left
          omega
      · rcases standsAt_cons.mp hthere with ⟨rfl, rfl⟩ | ⟨after, rfl, hafter⟩
        · right
          left
          omega
        · rcases ih hbehind hafter with hless | hless | ⟨rfl, rfl⟩
          · left
            omega
          · right
            left
            omega
          · exact Or.inr (Or.inr ⟨rfl, rfl⟩)

/-- What the segments of a template are. -/
structure IsCut (cs : List Char) (segments : List Segment) : Prop where
  /-- Put together again, they are the template. -/
  joined : segments.flatMap Segment.source = cs
  /-- The directives among them are those of the template. -/
  directives : ∀ place d, StandsAt segments place (.directive d) ↔ DirectiveAt cs place d
  /-- Text is never empty, and is a single brace, or all that stands between two braces that are
  not those of a directive. -/
  texts : ∀ place s, StandsAt segments place (.text s) → s ≠ "" ∧
    ((∃ c, isBrace c = true ∧ s = String.singleton c) ∨
      (IsRun cs place s.toList ∧ ∀ there d, DirectiveAt cs there d →
        place + s.length ≤ there ∨ there + (Segment.directive d).source.length ≤ place))

theorem isCut_segments (template : String) :
    IsCut template.toList (Template.segments template) := by
  have hsplits : Splits template.toList (Template.segments template) := splits_segmentsOf _
  refine ⟨hsplits.flatMap_source, fun place d => hsplits.standsAt_directive_iff, ?_⟩
  intro place s htext
  rcases hsplits.text_cases htext with ⟨c, hbrace, rfl⟩ | hrun
  · refine ⟨?_, Or.inl ⟨c, hbrace, rfl⟩⟩
    exact String.singleton_ne_empty
  · refine ⟨?_, Or.inr ⟨hrun, ?_⟩⟩
    · rintro rfl
      exact hrun.nonempty rfl
    · intro there d hthere
      rcases htext.apart (hsplits.standsAt_directive_iff.mpr hthere) with hless | hless | ⟨-, heq⟩
      · exact Or.inl hless
      · exact Or.inr hless
      · cases heq

example : Template.segments "\x7b\x7bSTAT:gp|\x7d\x7d \x7bEND:\x7d" =
    [.text "\x7b", .directive (.stat "gp" (some "")), .text "\x7d", .text " ", .text "\x7b",
      .text "END:", .text "\x7d"] := by
  decide +kernel

end Template

end Gamebook
