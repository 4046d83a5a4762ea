import Gamebook.Commands.Page
import Mathlib.Data.List.Basic

namespace Gamebook

namespace Text

/-- The lines of a text. -/
def lines (s : String) : List String :=
  (s.toList.splitOn '\n').map String.ofList

theorem lines_of_not_mem {s : String} (hplain : '\n' ∉ s.toList) : lines s = [s] := by
  rw [lines, List.splitOn_eq_singleton hplain, List.map_singleton, String.ofList_toList]

theorem lines_append (s t : String) : lines (s ++ "\n" ++ t) = lines s ++ lines t := by
  have hjoin : (s ++ "\n" ++ t).toList = s.toList ++ '\n' :: t.toList := by simp
  rw [lines, hjoin, List.splitOn_append_cons_self, List.map_append, ← lines, ← lines]

theorem lines_intercalate {parts : List String} (hne : parts ≠ []) :
    lines (String.intercalate "\n" parts) = parts.flatMap lines := by
  induction parts with
  | nil => exact absurd rfl hne
  | cons part parts ih =>
      cases parts with
      | nil => simp
      | cons next parts =>
          rw [String.intercalate_cons_cons, lines_append, ih (List.cons_ne_nil _ _),
            ← List.flatMap_cons]

theorem flatMap_lines {parts : List String} (hplain : ∀ part ∈ parts, '\n' ∉ part.toList) :
    parts.flatMap lines = parts := by
  induction parts with
  | nil => rfl
  | cons part parts ih =>
      rw [List.forall_mem_cons] at hplain
      rw [List.flatMap_cons, lines_of_not_mem hplain.1, ih hplain.2, List.singleton_append]

theorem toList_numeral_ofNat (n : Nat) : (numeral n).toList = Nat.toDigits 10 n := by
  rw [numeral, String.toList_ofList]
  rfl

end Text

section

variable {label other : String} {index place : Nat} {labels others : List String}
  {ending : Option String}

theorem toList_choiceLine (label : String) (index : Nat) :
    (choiceLine label index).toList =
      ' ' :: ' ' :: '[' :: (Nat.toDigits 10 index ++ ']' :: ' ' :: label.toList) := by
  simp [choiceLine, Text.toList_numeral_ofNat]

theorem takeWhile_toDigits (n : Nat) (rest : List Char) :
    (Nat.toDigits 10 n ++ ']' :: rest).takeWhile Char.isDigit = Nat.toDigits 10 n := by
  rw [List.takeWhile_append_of_pos fun _ hc => Text.isDigit_toDigits hc,
    List.takeWhile_cons_of_neg (by decide), List.append_nil]

theorem not_mem_toDigits {c : Char} (hc : c.isDigit = false) (n : Nat) :
    c ∉ Nat.toDigits 10 n := by
  intro hmem
  rw [Text.isDigit_toDigits hmem] at hc
  cases hc

theorem toDigits_inj {m n : Nat} (hsame : Nat.toDigits 10 m = Nat.toDigits 10 n) : m = n := by
  have hread := Text.readNat?_toDigits m
  rw [hsame, Text.readNat?_toDigits, Option.some_inj] at hread
  exact hread.symm

theorem choiceLine_inj : choiceLine label index = choiceLine other place ↔
    label = other ∧ index = place := by
  constructor
  · intro hline
    have hchars := congrArg String.toList hline
    simp only [toList_choiceLine, List.cons.injEq, true_and] at hchars
    have hdigits := congrArg (List.takeWhile Char.isDigit) hchars
    rw [takeWhile_toDigits, takeWhile_toDigits] at hdigits
    rw [hdigits] at hchars
    have hlabel := List.append_cancel_left hchars
    simp only [List.cons.injEq, true_and] at hlabel
    exact ⟨String.toList_inj.mp hlabel, toDigits_inj hdigits⟩
  · rintro ⟨rfl, rfl⟩
    rfl

theorem not_mem_choiceLine (hlabel : '\n' ∉ label.toList) (index : Nat) :
    '\n' ∉ (choiceLine label index).toList := by
  have hdigits := not_mem_toDigits (by decide : Char.isDigit '\n' = false) index
  rw [toList_choiceLine]
  simp [hdigits, hlabel]

/-- The lines of the choices. -/
def menuLines (labels : List String) : List String :=
  labels.zipIdx.map fun (label, index) => choiceLine label index

theorem length_menuLines (labels : List String) : (menuLines labels).length = labels.length := by
  simp [menuLines]

theorem menuLines_concat (labels : List String) (label : String) :
    menuLines (labels ++ [label]) = menuLines labels ++ [choiceLine label labels.length] := by
  simp [menuLines, List.zipIdx_append]

theorem menuLines_inj (hsame : menuLines labels = menuLines others) : labels = others := by
  have hzip : labels.zipIdx = others.zipIdx := by
    refine (List.map_inj_right fun x y hline => ?_).mp hsame
    exact Prod.ext_iff.mpr (choiceLine_inj.mp hline)
  rw [← List.zipIdx_map_fst 0 labels, hzip, List.zipIdx_map_fst]

theorem not_mem_menuLines (hlabels : ∀ label ∈ labels, '\n' ∉ label.toList) :
    ∀ line ∈ menuLines labels, '\n' ∉ line.toList := by
  intro line hline
  obtain ⟨⟨label, index⟩, hmem, rfl⟩ := List.mem_map.mp hline
  exact not_mem_choiceLine (hlabels label (List.fst_mem_of_mem_zipIdx hmem)) index

/-- The line of an ending. -/
def endingLine (kind : String) : String :=
  "  ~ The End (" ++ kind ++ ") ~"

/-- The lines below the text of a scene. -/
def linesBelow (labels : List String) (ending : Option String) : List String :=
  (pageLines "" labels ending).tail

theorem pageLines_eq (text : String) (labels : List String) (ending : Option String) :
    pageLines text labels ending = Text.trimEnd text :: linesBelow labels ending :=
  rfl

theorem linesBelow_of_ne (hne : labels ≠ []) (ending : Option String) :
    linesBelow labels ending =
      (ending.toList.flatMap fun kind => ["", endingLine kind]) ++ "" :: menuLines labels := by
  simp only [linesBelow, pageLines, if_neg hne]
  cases ending <;> rfl

theorem linesBelow_nil_some (kind : String) : linesBelow [] (some kind) = ["", endingLine kind] :=
  rfl

theorem linesBelow_nil_none : linesBelow [] none = ["", "  (no choices left)"] :=
  rfl

/-- The line that a page ends with. -/
def lastLine (labels : List String) (ending : Option String) : String :=
  match labels.getLast?, ending with
  | some label, _ => choiceLine label (labels.length - 1)
  | none, some kind => endingLine kind
  | none, none => "  (no choices left)"

theorem lastLine_concat (labels : List String) (label : String) (ending : Option String) :
    lastLine (labels ++ [label]) ending = choiceLine label labels.length := by
  simp [lastLine]

theorem exists_linesBelow (labels : List String) (ending : Option String) :
    ∃ front, linesBelow labels ending = front ++ [lastLine labels ending] := by
  rcases labels.eq_nil_or_concat' with rfl | ⟨labels, label, rfl⟩
  · cases ending with
    | none => exact ⟨[""], rfl⟩
    | some kind => exact ⟨[""], rfl⟩
  · rw [linesBelow_of_ne (by simp), menuLines_concat, lastLine_concat, ← List.cons_append,
      ← List.append_assoc]
    exact ⟨_, rfl⟩

/-- A page without choices does not end with the line of a choice: the brackets around a number are
neither those around a note nor the dashes around an ending. -/
theorem lastLine_nil_ne (ending : Option String) (label : String) (index : Nat) :
    lastLine [] ending ≠ choiceLine label index := by
  intro hline
  have hchars := congrArg String.toList hline
  rw [toList_choiceLine] at hchars
  cases ending with
  | none => simp [lastLine] at hchars
  | some kind => simp [lastLine, endingLine] at hchars

theorem length_eq_of_lastLine {otherEnding : Option String}
    (hlast : lastLine labels ending = lastLine others otherEnding) :
    labels.length = others.length := by
  rcases labels.eq_nil_or_concat' with rfl | ⟨labels, label, rfl⟩
  · rcases others.eq_nil_or_concat' with rfl | ⟨others, other, rfl⟩
    · rfl
    · rw [lastLine_concat] at hlast
      exact absurd hlast (lastLine_nil_ne _ _ _)
  · rcases others.eq_nil_or_concat' with rfl | ⟨others, other, rfl⟩
    · rw [lastLine_concat] at hlast
      exact absurd hlast.symm (lastLine_nil_ne _ _ _)
    · rw [lastLine_concat, lastLine_concat] at hlast
      simp [(choiceLine_inj.mp hlast).2]

theorem not_mem_linesBelow (hlabels : ∀ label ∈ labels, '\n' ∉ label.toList)
    (hending : ∀ kind ∈ ending, '\n' ∉ kind.toList) :
    ∀ line ∈ linesBelow labels ending, '\n' ∉ line.toList := by
  have hkind : ∀ kind ∈ ending, '\n' ∉ (endingLine kind).toList := by
    intro kind hkind
    have hplain := hending kind hkind
    simp [endingLine, hplain]
  by_cases hne : labels = []
  · subst hne
    cases ending with
    | none =>
        rw [linesBelow_nil_none]
        simp
    | some kind =>
        have hplain := hkind kind rfl
        rw [linesBelow_nil_some]
        simp [hplain]
  · rw [linesBelow_of_ne hne]
    intro line hline
    simp only [List.mem_append, List.mem_flatMap, List.mem_cons] at hline
    rcases hline with ⟨kind, hmem, rfl | rfl | hnil⟩ | rfl | hmenu
    · simp
    · exact hkind kind (Option.mem_toList.mp hmem)
    · cases hnil
    · simp
    · exact not_mem_menuLines hlabels line hmenu

end

namespace SceneView

variable {view : SceneView} {ending : Option String}

/-- The labels of the choices that are offered. -/
def labels (view : SceneView) : List String :=
  view.choices.map (·.text)

/-- Whether there is no line break in any label, and none in the ending. -/
structure IsPlain (view : SceneView) (ending : Option String) : Prop where
  label : ∀ label ∈ view.labels, '\n' ∉ label.toList
  ending : ∀ kind ∈ ending, '\n' ∉ kind.toList

theorem lines_page (view : SceneView) (ending : Option String) :
    Text.lines (view.page ending) = Text.lines (Text.trimEnd view.text) ++
      (linesBelow view.labels ending).flatMap Text.lines := by
  rw [page, pageLines_eq, Text.lines_intercalate (List.cons_ne_nil _ _), List.flatMap_cons, labels]

theorem exists_lines_page (hlabels : ∀ label ∈ view.labels, '\n' ∉ label.toList)
    (hne : view.labels ≠ []) (ending : Option String) :
    ∃ above, Text.lines (view.page ending) = above ++ "" :: menuLines view.labels := by
  have hempty : Text.lines "" = [""] := rfl
  rw [lines_page, linesBelow_of_ne hne, List.flatMap_append, List.flatMap_cons, hempty,
    Text.flatMap_lines (not_mem_menuLines hlabels), List.singleton_append, ← List.append_assoc]
  exact ⟨_, rfl⟩

theorem IsPlain.getLast?_lines_page (hplain : view.IsPlain ending) :
    (Text.lines (view.page ending)).getLast? = some (lastLine view.labels ending) := by
  obtain ⟨front, hfront⟩ := exists_linesBelow view.labels ending
  rw [lines_page, Text.flatMap_lines (not_mem_linesBelow hplain.label hplain.ending), hfront,
    ← List.append_assoc, List.getLast?_concat]

theorem IsPlain.labels_eq {other : SceneView} {otherEnding : Option String}
    (hplain : view.IsPlain ending) (hother : other.IsPlain otherEnding)
    (hpage : view.page ending = other.page otherEnding) : view.labels = other.labels := by
  have hlast := hplain.getLast?_lines_page
  rw [hpage, hother.getLast?_lines_page, Option.some_inj] at hlast
  have hlength := length_eq_of_lastLine hlast.symm
  by_cases hne : view.labels = []
  · rw [hne, List.length_nil] at hlength
    rw [hne, List.length_eq_zero_iff.mp hlength.symm]
  · have hne' : other.labels ≠ [] := by
      rwa [ne_eq, ← List.length_eq_zero_iff, ← hlength, List.length_eq_zero_iff]
    obtain ⟨above, habove⟩ := exists_lines_page hplain.label hne ending
    obtain ⟨above', habove'⟩ := exists_lines_page hother.label hne' otherEnding
    rw [hpage, habove'] at habove
    have hmenu := List.append_inj_right' habove (by simp [length_menuLines, hlength])
    exact (menuLines_inj (List.cons.inj hmenu).2).symm

theorem menu_of_page {other : SceneView} {otherEnding : Option String}
    (hplain : view.IsPlain ending) (hother : other.IsPlain otherEnding) :
    (view.page ending = other.page otherEnding →
      view.choices.length = other.choices.length ∧
        ∀ index : Nat,
          view.choices[index]?.map Choice.text = other.choices[index]?.map Choice.text) ∧
    (view.choices ≠ [] → ∃ above, Text.lines (view.page ending) = above ++ "" ::
      view.choices.zipIdx.map fun (choice, index) =>
        "  [" ++ Text.numeral index ++ "] " ++ choice.text) := by
  constructor
  · intro hpage
    have hlabels := hplain.labels_eq hother hpage
    constructor
    · have hlength := congrArg List.length hlabels
      rwa [labels, labels, List.length_map, List.length_map] at hlength
    · intro index
      have hindex := congrArg (fun labels : List String => labels[index]?) hlabels
      simpa only [labels, List.getElem?_map] using hindex
  · intro hne
    obtain ⟨above, habove⟩ := exists_lines_page hplain.label
      (List.map_eq_nil_iff.not.mpr hne) ending
    refine ⟨above, ?_⟩
    rw [habove, menuLines, labels, List.zipIdx_map, List.map_map]
    rfl

/-- Two scenes whose pages look the same, since the text of one has the lines of an ending in it. -/
theorem menu_of_page_lost :
    ∃ view other : SceneView, view.text ≠ other.text ∧
      view.page none = other.page (some "lost") ∧ view.choices.length = other.choices.length ∧
      ∃ above, Text.lines (view.page none) = above ++ ["", "  [0] Wait"] := by
  let waiting (text : String) : SceneView := ⟨"hall", text, [⟨"Wait", "hall", none⟩]⟩
  have hplain : (waiting "Dark.\n\n  ~ The End (lost) ~").IsPlain none :=
    ⟨by decide, by simp⟩
  have hother : (waiting "Dark.").IsPlain (some "lost") := ⟨by decide, by decide⟩
  have hpage : (waiting "Dark.\n\n  ~ The End (lost) ~").page none =
      (waiting "Dark.").page (some "lost") := by
    decide +kernel
  obtain ⟨hsame, hmenu⟩ := menu_of_page hplain hother
  exact ⟨_, _, by decide, hpage, (hsame hpage).1, hmenu (by decide)⟩

end SceneView

end Gamebook
