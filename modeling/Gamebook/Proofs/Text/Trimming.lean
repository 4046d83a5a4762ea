import Gamebook.Text.Blank
import Gamebook.Text.Integer

namespace Gamebook.Text

variable {c : Char} {cs : List Char} {s : String}

/-- Whether text has no blank at either end. -/
structure IsTrim (s : String) : Prop where
  first : ∀ c ∈ s.toList.head?, isBlankChar c = false
  last : ∀ c ∈ s.toList.getLast?, isBlankChar c = false

theorem trimLeft_eq_iff : trimLeft cs = cs ↔ ∀ c ∈ cs.head?, isBlankChar c = false := by
  constructor
  · intro heq c hc
    obtain ⟨rest, rfl⟩ := List.head?_eq_some_iff.mp hc
    exact head_trimLeft heq
  · intro hfirst
    cases cs with
    | nil => rfl
    | cons c rest => simp [trimLeft, hfirst c rfl]

theorem trimRight_eq_iff : trimRight cs = cs ↔ ∀ c ∈ cs.getLast?, isBlankChar c = false := by
  have hreverse : trimRight cs = cs ↔ trimLeft cs.reverse = cs.reverse := by
    rw [trimRight, ← trimLeft, List.reverse_eq_iff]
  rw [hreverse, trimLeft_eq_iff, List.head?_reverse]

theorem length_trimRight_le (cs : List Char) : (trimRight cs).length ≤ cs.length := by
  have hle := (List.dropWhile_suffix isBlankChar (l := cs.reverse)).length_le
  rwa [List.length_reverse, ← List.length_reverse] at hle

theorem trim_eq_iff : trim s = s ↔ IsTrim s := by
  have htrim : trim s = s ↔ trimRight (trimLeft s.toList) = s.toList := by
    rw [trim, ← String.toList_inj, String.toList_ofList]
  rw [htrim]
  constructor
  · intro heq
    have hsuffix : trimLeft s.toList <:+ s.toList := List.dropWhile_suffix _
    have hlength := length_trimRight_le (trimLeft s.toList)
    rw [heq] at hlength
    have hleft := hsuffix.eq_of_length (Nat.le_antisymm hsuffix.length_le hlength)
    rw [hleft] at heq
    exact ⟨trimLeft_eq_iff.mp hleft, trimRight_eq_iff.mp heq⟩
  · intro htrim
    rw [trimLeft_eq_iff.mpr htrim.first, trimRight_eq_iff.mpr htrim.last]

/-- Whether text is what is left of some characters without the blanks at their two ends. -/
def TrimsTo (cs : List Char) (s : String) : Prop :=
  ∃ left right, cs = left ++ s.toList ++ right ∧ (∀ c ∈ left, isBlankChar c = true) ∧
    (∀ c ∈ right, isBlankChar c = true) ∧ IsTrim s

theorem trimLeft_append {left : List Char} (hblank : ∀ c ∈ left, isBlankChar c = true)
    (rest : List Char) : trimLeft (left ++ rest) = trimLeft rest :=
  List.dropWhile_append_of_pos hblank

theorem trimRight_append {right : List Char} (hblank : ∀ c ∈ right, isBlankChar c = true)
    (front : List Char) : trimRight (front ++ right) = trimRight front := by
  have hreverse : ∀ c ∈ right.reverse, isBlankChar c = true :=
    fun c hc => hblank c (List.mem_reverse.mp hc)
  rw [trimRight, List.reverse_append, ← trimLeft, trimLeft_append hreverse, trimLeft, ← trimRight]

theorem exists_trimLeft (cs : List Char) :
    ∃ left, cs = left ++ trimLeft cs ∧ ∀ c ∈ left, isBlankChar c = true :=
  ⟨cs.takeWhile isBlankChar, List.takeWhile_append_dropWhile.symm,
    List.all_eq_true.mp List.all_takeWhile⟩

theorem exists_trimRight (cs : List Char) :
    ∃ right, cs = trimRight cs ++ right ∧ ∀ c ∈ right, isBlankChar c = true := by
  obtain ⟨left, hleft, hblank⟩ := exists_trimLeft cs.reverse
  refine ⟨left.reverse, ?_, fun c hc => hblank c (List.mem_reverse.mp hc)⟩
  rw [← List.reverse_inj, List.reverse_append, List.reverse_reverse, trimRight,
    List.reverse_reverse, ← trimLeft]
  exact hleft

theorem isTrim_trim (s : String) : IsTrim (trim s) := by
  rw [trim]
  refine ⟨?_, ?_⟩
  · intro c hc
    rw [String.toList_ofList] at hc
    obtain ⟨right, hright, -⟩ := exists_trimRight (trimLeft s.toList)
    obtain ⟨rest, hrest⟩ := List.head?_eq_some_iff.mp hc
    rw [hrest] at hright
    exact head_trimLeft hright
  · rw [String.toList_ofList]
    exact trimRight_eq_iff.mp (trimRight_trimRight _)

theorem trim_eq_iff_trimsTo : trim (String.ofList cs) = s ↔ TrimsTo cs s := by
  constructor
  · rintro rfl
    obtain ⟨left, hleft, hblank⟩ := exists_trimLeft cs
    obtain ⟨right, hright, hblank'⟩ := exists_trimRight (trimLeft cs)
    refine ⟨left, right, ?_, hblank, hblank', isTrim_trim _⟩
    rw [trim, String.toList_ofList, String.toList_ofList, List.append_assoc, ← hright]
    exact hleft
  · rintro ⟨left, right, rfl, hleft, hright, htrim⟩
    have hinner : trimRight (trimLeft (s.toList ++ right)) = s.toList := by
      cases hs : s.toList with
      | nil =>
          have hall : right.all isBlankChar = true := List.all_eq_true.mpr hright
          rw [List.nil_append, trimLeft_eq_nil_iff.mpr hall]
          rfl
      | cons first rest =>
          have hfirst : trimLeft (first :: rest ++ right) = first :: rest ++ right := by
            apply trimLeft_eq_iff.mpr
            intro c hc
            apply htrim.first
            rwa [hs]
          rw [hfirst, trimRight_append hright, ← hs]
          exact trimRight_eq_iff.mpr htrim.last
    rw [trim, String.toList_ofList, List.append_assoc, trimLeft_append hleft, hinner,
      String.ofList_toList]

theorem mem_trimLeft (hmem : c ∈ cs) (hc : isBlankChar c = false) : c ∈ trimLeft cs := by
  rw [← List.takeWhile_append_dropWhile (p := isBlankChar) (l := cs), List.mem_append] at hmem
  rcases hmem with hblank | hrest
  · rw [List.all_eq_true.mp List.all_takeWhile c hblank] at hc
    cases hc
  · exact hrest

theorem mem_trim (hmem : c ∈ s.toList) (hc : isBlankChar c = false) : c ∈ (trim s).toList := by
  rw [trim, String.toList_ofList, trimRight, List.mem_reverse]
  exact mem_trimLeft (List.mem_reverse.mpr (mem_trimLeft hmem hc)) hc

theorem isBlankChar_of_isDigit (hc : c.isDigit = true) : isBlankChar c = false := by
  have hbounds : 48 ≤ c.toNat ∧ c.toNat ≤ 57 := by
    simpa [Char.isDigit, UInt32.le_iff_toNat_le] using hc
  simp only [isBlankChar, Bool.or_eq_false_iff, Bool.and_eq_false_iff, decide_eq_false_iff_not]
  omega

theorem isBlankChar_decimal {n : Int} (hc : c ∈ decimal n) : isBlankChar c = false := by
  have hdigits : ∀ m : Nat, c ∈ Nat.toDigits 10 m → isBlankChar c = false := fun m hm =>
    isBlankChar_of_isDigit (isDigit_toDigits hm)
  cases n with
  | ofNat m => exact hdigits m hc
  | negSucc m =>
    rcases List.mem_cons.mp hc with rfl | hc
    · decide
    · exact hdigits (m + 1) hc

theorem trim_numeral (n : Int) : trim (numeral n) = numeral n := by
  refine trim_eq_iff.mpr ⟨fun c hc => ?_, fun c hc => ?_⟩
  · exact isBlankChar_decimal (n := n) (by simpa [numeral] using List.mem_of_head? hc)
  · exact isBlankChar_decimal (n := n) (by simpa [numeral] using List.mem_of_getLast? hc)

end Gamebook.Text
